import IgbDriver.Simulation

namespace IgbDriver

open Foundation

/-! # The driver refines the card

The card is read off the state: the bytes of the live packets, what the transmit
descriptors from the head on make the device fetch, and the frames in the receive
descriptors from the driver's index up to the head.
-/

namespace LoadedSystem

/-- The packets accepted on a queue and not sent yet, as they will go out. -/
def outgoing (state : LoadedSystem) (queueId : Nat) : List (List Byte) :=
  match state.system.txQueue? queueId with
  | none => []
  | some queue =>
      Ring.read queue.numDescriptors (state.system.machine.env (igbTdh queueId)).toNat
        queue.txIndex fun slot =>
        (queue.descriptors.cells[slot]?).map (AdvancedTxDescriptor.fetch state.memory)

/-- The frames stored on a queue and not handed over yet. -/
def incoming (state : LoadedSystem) (queueId : Nat) : List (List Byte) :=
  match state.system.rxView queueId with
  | none => []
  | some view =>
      Ring.read view.queue.numDescriptors view.nextIndex view.head.toNat fun slot =>
        match view.queue.descriptors.cells[slot]?, view.queue.bufsInUse[slot]? with
        | some desc, some entry =>
            match view.layout.getPhysAddr entry with
            | .ok address => some (Memory.load id state.memory address desc.length)
            | .error _ => none
        | _, _ => none

/-- The card that a state of the driver amounts to. -/
def nic (translate : Nat → Nat) (state : LoadedSystem) : Nic Byte where
  buffers := state.system.live.map (Packet.asBytes translate state.memory)
  outgoing := state.outgoing
  incoming := state.incoming

end LoadedSystem

variable {σ : Type} {host : Host σ} {profile : Profile} {translate : Nat → Nat}
  {qs numRx numTx : Nat} {pool : PoolRef} {before : Arcs} {state final : LoadedSystem}
  {system after : System} {trace events : List Event} {nic : Nic Byte} {frame : List Byte}
  {action : Action} {labels : List (Nic.Label Byte)}

theorem next_pool {action : PoolAction}
    (stepped : next profile system (.pool action) = some (.ok (events, after))) :
    events = [] ∧ poolStep profile system action = some (.ok after) := by
  simp only [next] at stepped
  split at stepped
  · obtain ⟨result, ran, same⟩ := Option.map_eq_some_iff.mp stepped
    cases result with
    | error reason => cases same
    | ok made =>
        cases same
        exact ⟨rfl, ran⟩
  · cases stepped

theorem txDone_ok {queueId index : Nat}
    (stepped : next profile system (.txDone queueId index) = some (.ok (events, after))) :
    ∃ queue desc, system.txQueue? queueId = some queue ∧
      queue.descriptors.cells[index]? = some desc ∧
      events = [.fetched queueId desc.packetBufferAddress] ∧ after.live = system.live := by
  obtain ⟨result, fetched, same⟩ := Option.map_eq_some_iff.mp stepped
  unfold txDoneStep at fetched
  split at fetched
  · cases fetched
  · rename_i queue found
    split at fetched
    · cases fetched
    · rename_i desc cell
      cases fetched
      cases same
      exact ⟨queue, desc, found, cell, rfl, rfl⟩

theorem rxStore_found {queueId index : Nat} {writeBack : WriteBack}
    (stepped : next profile system (.rxStore queueId index writeBack) =
      some (.ok (events, after))) :
    ∃ queue desc, system.rxQueue? queueId = some queue ∧
      queue.descriptors.cells[index]? = some desc ∧
      events = [.stored queueId ⟨desc.packetBufferAddress, writeBack.length⟩] ∧ after.live =
        system.live := by
  obtain ⟨result, stored, same⟩ := Option.map_eq_some_iff.mp stepped
  unfold rxStoreStep at stored
  split at stored
  · cases stored
  · rename_i queue found
    split at stored
    · cases stored
    · rename_i desc cell
      cases stored
      cases same
      exact ⟨queue, desc, found, cell, rfl, rfl⟩

/-- The card follows the labels and comes to be what the driver now carries. -/
def Follows (translate : Nat → Nat) (numRx numTx : Nat) (trace : List Event) (nic : Nic Byte)
    (labels : List (Nic.Label Byte)) (state : LoadedSystem) : Prop :=
  ∃ nic', Path (Nic.Move truncated) nic labels nic' ∧ Carries translate numRx numTx trace state nic'

theorem Carries.stays (carries : Carries translate numRx numTx trace state nic) :
    Follows translate numRx numTx trace nic [] state := ⟨nic, .refl, carries⟩

theorem deliveries_of_reports (bytes : Packet → List Byte)
    (reports : ∀ event ∈ events, event.isReport = true) :
    events.filterMap (Event.delivery? bytes) = [] := by
  refine List.filterMap_eq_nil_iff.mpr (fun event member => ?_)
  have reported := reports event member
  cases event <;> first | rfl | cases reported

section Read

variable (carries : Carries translate numRx numTx trace state nic)
  (custody : Custody host translate qs numRx numTx pool trace state.system)
include carries custody

theorem Carries.outgoing_eq (narrow : 16 * qs < 4294967296) (queueId : Nat) :
    nic.outgoing queueId = state.outgoing queueId := by
  rcases Nat.lt_or_ge queueId numTx with inside | outside
  · obtain ⟨view, gone, pending, known, _⟩ := custody.transmit queueId inside
    obtain ⟨queue, found, rfl⟩ := Option.map_eq_some_iff.mp known.seen
    have ring := known.ring
    have ordered := ring.fetched_le
    have released := ring.released_length
    have reached := ring.ordered
    have room := ring.room
    have below := Nat.mod_lt (fetchedOn queueId trace).length (show 0 < qs by omega)
    have head : (state.system.machine.env (igbTdh queueId)).toNat =
        (fetchedOn queueId trace).length % qs := by
      rw [show state.system.machine.env (igbTdh queueId) = _ from ring.head, BitVec.toNat_ofNat,
        Nat.mod_eq_of_lt (by omega)]
    rw [carries.lines.outgoing queueId inside]
    simp only [LoadedSystem.outgoing, found]
    rw [head, show queue.numDescriptors = qs from ring.numDescriptors,
      show queue.txIndex = (sentOn queueId trace).length % qs from ring.txIndex]
    refine (Ring.read_eq ordered (by omega) (by simp [unfetched]) (fun k bytes here => ?_)).symm
    rw [unfetched, List.getElem?_map, List.getElem?_drop] at here
    obtain ⟨packet, sent, rfl⟩ := Option.map_eq_some_iff.mp here
    obtain ⟨desc, cell, fetched⟩ := custody.fetches state.memory inside found (by omega) sent
    rw [cell, Option.map_some, fetched]
  · have absent : state.system.txQueue? queueId = none := by
      cases found : state.system.txQueue? queueId with
      | none => rfl
      | some queue =>
          have := custody.transmitters queueId queue found
          omega
    rw [carries.lines.outgoing_none queueId outside]
    simp only [LoadedSystem.outgoing, absent]

theorem Carries.incoming_eq (positive : 0 < qs) (queueId : Nat) :
    nic.incoming queueId = state.incoming queueId := by
  rcases Nat.lt_or_ge queueId numRx with inside | outside
  · obtain ⟨view, seen, ring⟩ := custody.receive queueId inside
    have ordered := ring.ordered
    have reached := ring.reached
    rw [carries.lines.incoming queueId inside]
    simp only [LoadedSystem.incoming, seen]
    rw [ring.numDescriptors, ring.nextIndex_eq, ring.head_toNat positive]
    refine (Ring.read_eq ordered (by omega) (by simp [undelivered]) (fun k bytes here => ?_)).symm
    rw [undelivered, List.getElem?_map, List.getElem?_drop] at here
    obtain ⟨frame, stored, rfl⟩ := Option.map_eq_some_iff.mp here
    obtain ⟨desc, cell, other, known, _, length, entry, address, held, located, points⟩ :=
      ring.holding _ (Nat.le_add_right _ _) (List.getElem?_eq_some_iff.mp stored).1
    cases stored.symm.trans known
    obtain ⟨word, _, rfl⟩ := MemPool.getPhysAddr_ok located
    simp only [cell, held, located, length]
    rw [Frame.bytes, points, BitVec.ofNat_toNat, BitVec.setWidth_eq]
  · have absent : state.system.rxView queueId = none := by
      cases found : state.system.rxQueue? queueId with
      | none => rw [System.rxView, found]; rfl
      | some queue =>
          have := custody.receivers queueId queue found
          omega
    rw [carries.lines.incoming_none queueId outside]
    simp only [LoadedSystem.incoming, absent]

/-- What the driver carries is what its state shows. -/
theorem Carries.nic_eq (narrow : 16 * qs < 4294967296) (positive : 0 < qs) :
    nic = state.nic translate := by
  obtain ⟨buffers, outgoing, incoming⟩ := nic
  have out := funext (carries.outgoing_eq custody narrow)
  have into := funext (carries.incoming_eq custody positive)
  have own := carries.buffers
  simp only at out into own
  rw [own, out, into, LoadedSystem.nic]

end Read

section Match

variable (carries : Carries translate numRx numTx trace state nic)
include carries

theorem Carries.followsPool {action : PoolAction}
    (custody : Custody host translate qs numRx numTx pool trace after)
    (honest : NoConstruct state.system (.pool action))
    (effect : PoolEffect profile state.system action after) :
    Follows translate numRx numTx trace nic (state.labels translate frame [] after (.pool action))
      ⟨after, state.memoryAfter translate frame [] after (.pool action)⟩ := by
  cases effect with
  | @allocate ref size packet arcs allocated =>
      have labels : state.labels translate frame []
          ((state.system.withArcs arcs).withLive (state.system.live ++ [packet]))
            (.pool (.alloc ref size)) =
            [.allocated (packet.asBytes translate state.memory)] := by
        simp [LoadedSystem.labels, System.withLive]
      rw [labels]
      exact ⟨_, .one (.allocate _), carries.allocate rfl⟩
  | exhausted =>
      simp only [LoadedSystem.labels, List.drop_length, List.map_nil]
      exact carries.stays
  | construct => exact honest.elim
  | @clone position packet copy arcs owned allocated =>
      have length : copy.len = packet.len := by
        rcases allocPkt_ok allocated with ⟨impossible, _⟩ | ⟨other, same, length, _⟩
        · cases impossible
        · cases same
          exact length
      have memory : state.memoryAfter translate frame []
          ((state.system.withArcs arcs).withLive (state.system.live ++ [copy]))
            (.pool (.clone position)) =
            copy.cloneFromSlice translate state.memory (packet.asBytes translate state.memory) := by
        simp [LoadedSystem.memoryAfter, owned, System.withLive]
      rw [memory]
      exact ⟨_, .one (.clone (carries.buffer owned)), carries.clone custody rfl length⟩
  | drop owned => exact ⟨_, .one (.drop (carries.buffer owned)), carries.remove rfl⟩
  | cloneHandle same | dropHandle same =>
      exact ⟨nic, .refl, by rw [same]; exact carries.buffers, carries.lines⟩

theorem Carries.followsSend {queueId position : Nat}
    (custody : Custody host translate qs numRx numTx pool trace state.system)
    (step : Step profile state.system (.send queueId position) events after) :
    Follows translate numRx numTx (trace ++ events) nic
      (state.labels translate frame events after (.send queueId position))
      ⟨after, state.memory⟩ := by
  cases step with
  | report elsewhere => exact absurd rfl (elsewhere queueId position)
  | @reject _ _ packet failure _ idle owned =>
      have reports : Still [.rejected queueId packet failure] :=
        .of_reports (by simp [Event.isReport])
      exact ⟨_, .one (.refuse queueId (carries.buffer owned)), (carries.remove rfl).silent reports⟩
  | send idle owned found =>
      have inside := custody.transmitters queueId _ found
      exact ⟨_, .one (.accept queueId (carries.buffer owned)),
        carries.accept custody inside owned rfl⟩

theorem Carries.followsTxDone {queueId index : Nat} (narrow : 16 * qs < 4294967296)
    (custody : Custody host translate qs numRx numTx pool trace state.system)
    (ordered : TxInOrder state.system (.txDone queueId index))
    (stepped : next profile state.system (.txDone queueId index) = some (.ok (events, after))) :
    Follows translate numRx numTx (trace ++ events) nic
      (state.labels translate frame events after (.txDone queueId index))
      ⟨after, state.memory⟩ := by
  obtain ⟨queue, desc, found, cell, rfl, live⟩ := txDone_ok stepped
  have inside := custody.transmitters queueId queue found
  obtain ⟨view, gone, pending, known, _⟩ := custody.transmit queueId inside
  have ring := known.ring
  have own := known.seen
  rw [System.txView_eq found] at own
  cases own
  obtain ⟨here, waiting⟩ := ring.completes narrow ordered
  subst here
  have reached := ring.ordered
  have released := ring.released_length
  obtain ⟨packet, head⟩ : ∃ packet, (sentOn queueId trace)[(fetchedOn queueId trace).length]? =
      some packet :=
    ⟨_, List.getElem?_eq_getElem waiting⟩
  obtain ⟨other, cell', fetched⟩ := custody.fetches state.memory inside found (by omega) head
  cases cell.symm.trans cell'
  obtain ⟨rest, line, carries'⟩ := carries.transmit inside live head
  have labels : state.labels translate frame [.fetched queueId desc.packetBufferAddress] after
      (.txDone queueId ((fetchedOn queueId trace).length % qs)) =
        [.transmitted queueId (packet.onWire state.memory)] := by
    simp only [LoadedSystem.labels, found, Option.bind_some, cell, Option.toList_some,
      List.map_singleton, fetched]
  rw [labels]
  exact ⟨_, .one (.transmit line), carries'⟩

theorem Carries.followsRxStore {queueId index : Nat} {writeBack : WriteBack}
    (custody : Custody host translate qs numRx numTx pool trace state.system)
    (custody' : Custody host translate qs numRx numTx pool (trace ++ events) after)
    (fits : frame.length = writeBack.length)
    (stepped : next profile state.system (.rxStore queueId index writeBack) =
      some (.ok (events, after))) :
    Follows translate numRx numTx (trace ++ events) nic
      (state.labels translate frame events after (.rxStore queueId index writeBack))
      ⟨after, state.memoryAfter translate frame events after
        (.rxStore queueId index writeBack)⟩ := by
  obtain ⟨queue, desc, found, cell, rfl, live⟩ := rxStore_found stepped
  have inside := custody.receivers queueId queue found
  exact ⟨_, .one (.arrive queueId frame), carries.arrive custody custody' inside live fits⟩

/-- Of the pieces of a driver call only the delivery of a frame is seen. -/
theorem Carries.followsCall
    (custody : Custody host translate qs numRx numTx pool (trace ++ events) after)
    (call : action = .resume ∨ (∃ queueId, action = .recycle queueId) ∨ ∃ queueId nums,
      action = .receive queueId nums)
    (step : Step profile state.system action events after) :
    Follows translate numRx numTx (trace ++ events) nic
      (events.filterMap (Event.delivery? (Packet.asBytes translate state.memory)))
      ⟨after, state.memory⟩ := by
  have quiet {after : System} {events : List Event} (live : after.live = state.system.live)
    (still : Still events)
      (none : events.filterMap (Event.delivery? (Packet.asBytes translate state.memory)) = []) :
      Follows translate numRx numTx (trace ++ events) nic
        (events.filterMap (Event.delivery? (Packet.asBytes translate state.memory)))
          ⟨after, state.memory⟩ := by
    rw [none]
    exact (carries.still live still).stays
  cases step with
  | report _ reports => exact quiet rfl (.of_reports reports) (deliveries_of_reports _ reports)
  | allocate | construct | drop | cloneHandle | dropHandle | reject | send | rxStore | txDone =>
      rcases call with same | ⟨_, same⟩ | ⟨_, _, same⟩ <;> cases same
  | ring | recycle | round | receive | halt | rearm => exact quiet rfl .nil rfl
  | commit | publish | finish => exact quiet rfl (.of_reports (by simp [Event.isReport])) rfl
  | release => exact quiet rfl ⟨fun _ => rfl, fun _ => rfl, fun _ => rfl, fun _ => rfl⟩ rfl
  | @take queueId todo rxIndex lastRxIndex recvNums buf queue packet desc rest control
      found takes =>
      have inside := custody.receivers queueId _ (System.rxQueue?_set found)
      obtain ⟨rest, line, carries'⟩ := carries.deliver custody inside rfl
      exact ⟨_, .one (.deliver line), carries'⟩

end Match

section Run

variable {start : LoadedSystem}

theorem Deployment.follows
    (deployed : Deployment host translate qs numRx numTx pool before start.system)
    {action : LoadedAction}
    (run : Run (next host.profile) (Orderly pool) start.system trace state.system)
    (carries : Carries translate numRx numTx trace state nic)
    (permitted : Loads (Orderly pool) state action)
    (stepped : loadedNext host.profile translate state action = some (.ok (labels, final))) :
    ∃ trace', Run (next host.profile) (Orderly pool) start.system trace' final.system ∧
      Follows translate numRx numTx trace' nic labels final := by
  have custody := deployed.custody run
  cases action with
  | write position offset byte =>
      obtain ⟨packet, owned, inside, rfl, same, memory⟩ := loadedNext_write stepped
      obtain ⟨after, memory'⟩ := final
      cases same
      cases memory
      have fits : offset < (packet.asBytes translate state.memory).length := by
        rw [Packet.asBytes, Memory.length_load]
        exact inside
      exact ⟨trace, run, _, .one (.write byte (carries.buffer owned) fits),
        carries.write custody owned inside byte⟩
  | act action frame =>
      obtain ⟨events, ran, rfl, memory⟩ := loadedNext_act stepped
      obtain ⟨after, memory'⟩ := final
      simp only at ran memory
      subst memory
      have run' := run.next permitted.1 ran
      have custody' := deployed.custody run'
      refine ⟨_, run', ?_⟩
      cases action with
      | pool action =>
          obtain ⟨rfl, pooled⟩ := next_pool ran
          rw [List.append_nil] at custody' ⊢
          exact carries.followsPool custody' permitted.1.2.1 (poolStep_effect pooled)
      | send queueId position => exact carries.followsSend custody (next_step ran)
      | recycle queueId =>
          exact carries.followsCall custody' (.inr (.inl ⟨queueId, rfl⟩)) (next_step ran)
      | receive queueId nums =>
          exact carries.followsCall custody' (.inr (.inr ⟨queueId, nums, rfl⟩)) (next_step ran)
      | resume => exact carries.followsCall custody' (.inl rfl) (next_step ran)
      | rxStore queueId index writeBack =>
          exact carries.followsRxStore custody custody' permitted.2 ran
      | txDone queueId index =>
          exact carries.followsTxDone deployed.small custody permitted.1.1.2 ran

/-- Fresh from `init` nothing is on its way. -/
theorem Carries.initial : Carries translate numRx numTx [] start
    ⟨start.system.live.map (Packet.asBytes translate start.memory), fun _ => [], fun _ => []⟩ :=
  ⟨rfl, fun _ _ => rfl, fun _ _ => rfl, fun _ _ => rfl, fun _ _ => rfl⟩

end Run

end IgbDriver
