import IgbDriver.Platform
import IgbDriver.TxQueue

namespace IgbDriver

open Foundation

/-! # Runs of a transmit queue

From the state `init` leaves, under a device that takes each transmit ring in order.
-/

section Frames

variable {profile : Profile} {system after : System} {action : Action} {events : List Event}
  {queueId : Nat}

/-- A receive call begins with its own action. -/
theorem Step.rxQueueId (step : Step profile system action events after)
    (idle : system.control.rxQueueId ≠ some queueId)
    (spared : ∀ packetNums, action ≠ .receive queueId packetNums) :
    after.control.rxQueueId ≠ some queueId := by
  cases step with
  | report | allocate | construct | drop | cloneHandle | dropHandle | reject | rxStore | txDone =>
      exact idle
  | send | ring | recycle | round | release | commit | publish | finish => exact nofun
  | receive =>
      intro same
      cases same
      exact spared _ rfl
  | take control | halt control | rearm control =>
      intro same
      cases same
      exact idle (by rw [control]; rfl)

theorem Step.rxQueue?_none (step : Step profile system action events after)
    (absent : system.rxQueue? queueId = none) : after.rxQueue? queueId = none := by
  have outside : system.machine.dev.rxQueues.length ≤ queueId := List.getElem?_eq_none_iff.mp absent
  rw [← step.lengths.1] at outside
  exact List.getElem?_eq_none_iff.mpr outside

theorem Step.sentOn (step : Step profile system action events after) {packet : Packet}
    (sent : packet ∈ sentOn queueId events) :
    ∃ position, action = .send queueId position ∧ system.live[position]? = some packet := by
  cases step with
  | report _ reports =>
      rw [(TxSilent.of_reports reports).sent] at sent
      cases sent
  | @send target position _ other _ _ _ owned =>
      by_cases same : target = queueId
      · subst same
        rw [sentOn_sent] at sent
        cases List.mem_singleton.mp sent
        exact ⟨position, rfl, owned⟩
      · rw [sentOn_sent_ne same] at sent
        cases sent
  | _ => simp [IgbDriver.sentOn, Event.sent?] at sent

end Frames

/-- What is known of a transmit queue throughout its runs. -/
structure TxKnown (qs queueId : Nat) (ref : PoolRef) (trace : List Event) (system : System)
    (view : TxView) (gone pending : List Packet) : Prop where
  seen : system.txView queueId = some view
  ring : TxRing qs queueId view trace gone pending
  origin : ∀ packet ∈ sentOn queueId trace, packet.pool = ref
  apart : system.rxQueue? (queueId + 128) = none ∨ system.control.rxQueueId ≠ some (queueId + 128)

section Run

variable {σ : Type} {host : Host σ} {qs numRx numTx queueId : Nat} {pool ref : PoolRef}
  {before : Arcs} {system after : System} {trace : List Event}

theorem TxKnown.step {profile : Profile} {action : Action} {events : List Event} {view : TxView}
    {gone pending : List Packet} (power : qs.isPowerOfTwo) (bound : 16 * qs < 4294967296)
    (known : TxKnown qs queueId ref trace system view gone pending)
    (ordered : TxInOrder system action) (sends : SendsFrom ref system action)
    (spared : system.rxQueue? (queueId + 128) = none ∨ SparesRx (queueId + 128) system action)
    (step : Step profile system action events after) :
    ∃ view' gone' pending',
      TxKnown qs queueId ref (trace ++ events) after view' gone' pending' := by
  obtain ⟨queue, found, same⟩ := Option.map_eq_some_iff.mp known.seen
  have apart : system.rxQueue? (queueId + 128) = none ∨
      system.control.rxQueueId ≠ some (queueId + 128) ∧
        ∀ index writeBack, action ≠ .rxStore (queueId + 128) index writeBack := by
    rcases known.apart with absent | free
    · exact .inl absent
    · rcases spared with absent | spared
      · exact .inl absent
      · exact .inr ⟨free, by rintro _ _ rfl; exact spared rfl⟩
  obtain ⟨view', seen', local_⟩ := step.txView .inOrder known.seen apart
    (by
      rintro position packet rfl owned _
      have own := sends packet owned
      by_cases empty : pending = []
      · exact .inl (by rw [known.ring.fifo.bufs, empty]; rfl)
      · obtain ⟨first, waiting⟩ := List.exists_mem_of_ne_nil pending empty
        have origin := known.origin first (by
          rw [known.ring.fifo.sent]
          exact List.mem_append_right _ waiting)
        exact .inr (by rw [known.ring.fifo.pools first waiting, origin, own]))
    (by
      intro index same
      subst same
      rw [← same]
      exact ordered)
  obtain ⟨gone', pending', ring⟩ := known.ring.step power bound local_
  refine ⟨view', gone', pending', seen', ring, ?_, ?_⟩
  · intro packet member
    rw [sentOn_append] at member
    rcases List.mem_append.mp member with earlier | fresh
    · exact known.origin packet earlier
    · obtain ⟨position, rfl, owned⟩ := step.sentOn fresh
      exact sends packet owned
  · rcases apart with absent | ⟨free, _⟩
    · exact .inl (step.rxQueue?_none absent)
    · rcases spared with absent | spared
      · exact .inl (step.rxQueue?_none absent)
      · exact .inr (step.rxQueueId free (by rintro _ rfl; exact spared rfl))

theorem TxKnown.run {policy : Policy} (power : qs.isPowerOfTwo) (bound : 16 * qs < 4294967296)
    (law : ∀ reg, RingRegister reg → host.Holds reg)
    (booted : Booted host qs numRx numTx pool before system) (inside : queueId < numTx)
    (ordered : ∀ state action, policy state action → TxInOrder state action)
    (sends : ∀ state action, policy state action → SendsFrom ref state action)
    (spared : numRx ≤ queueId + 128 ∨
      ∀ state action, policy state action → SparesRx (queueId + 128) state action)
    (run : Run (next host.profile) policy system trace after) :
    ∃ view gone pending, TxKnown qs queueId ref trace after view gone pending := by
  obtain ⟨view, seen, ring⟩ := booted.txRing law (Ring.pos_of_isPowerOfTwo power) inside
  obtain ⟨file, booting⟩ := booted.booting
  have start : TxKnown qs queueId ref [] system view [] [] :=
    ⟨seen, ring, nofun, .inr (by rw [booted.control]; nofun)⟩
  have absent : numRx ≤ queueId + 128 → system.rxQueue? (queueId + 128) = none :=
    fun few => List.getElem?_eq_none (by rw [booting.rxLength]; exact few)
  have invariant := run.invariant
    (fun trace state =>
      (∃ view gone pending, TxKnown qs queueId ref trace state view gone pending) ∧
      (numRx ≤ queueId + 128 → state.rxQueue? (queueId + 128) = none))
    ⟨⟨view, [], [], start⟩, absent⟩
    (by
      intro trace state action events after known permitted stepped
      obtain ⟨⟨view, gone, pending, known⟩, absent⟩ := known
      have step := next_step stepped
      refine ⟨known.step power bound (ordered _ _ permitted) (sends _ _ permitted)
        (spared.imp absent (fun spares => spares _ _ permitted)) step, fun few => ?_⟩
      exact step.rxQueue?_none (absent few))
  exact invariant.1

end Run

theorem getElem?_of_ahead {α : Type} {left right : List α} {k : Nat} (ahead : left <+: right)
    (inside : k < left.length) : left[k]? = right[k]? := by
  obtain ⟨rest, rfl⟩ := ahead
  rw [List.getElem?_append_left inside]

namespace TxRing

variable {size queueId : Nat} {view : TxView} {trace : List Event} {gone pending : List Packet}

theorem sent_length (ring : TxRing size queueId view trace gone pending) :
    (sentOn queueId trace).length = gone.length + pending.length := by
  rw [ring.fifo.sent, List.length_append]

theorem released_length (ring : TxRing size queueId view trace gone pending) :
    (releasedOn queueId trace).length = gone.length := by
  rw [ring.fifo.released, List.length_map]

theorem bufs_length (ring : TxRing size queueId view trace gone pending) :
    view.queue.bufsInUse.length = (view.queue.txIndex + size - view.cleanIndex) % size := by
  have room := ring.room
  have lengths := ring.sent_length
  have distance :=
    Ring.distance_mod (show gone.length ≤ (sentOn queueId trace).length by omega) room
  rw [ring.fifo.bufs, List.length_map, ring.txIndex, ring.cleanIndex]
  rw [Ring.distance] at distance
  omega

/-- The entry at position `j` is that of the packet in the descriptor `j` past the
clean index. -/
theorem bufs_slot (ring : TxRing size queueId view trace gone pending) {j entry : Nat}
    (found : view.queue.bufsInUse[j]? = some entry) :
    ∃ desc packet, view.queue.descriptors.cells[(view.cleanIndex + j) % size]? = some desc ∧
      (sentOn queueId trace)[(releasedOn queueId trace).length + j]? = some packet ∧
      packet.poolEntry = entry ∧ desc.packetBufferAddress = packet.busAddress := by
  rw [ring.fifo.bufs, List.getElem?_map] at found
  obtain ⟨packet, waiting, same⟩ := Option.map_eq_some_iff.mp found
  have inside : j < pending.length := (List.getElem?_eq_some_iff.mp waiting).1
  have lengths := ring.sent_length
  have sent : (sentOn queueId trace)[gone.length + j]? = some packet := by
    rw [ring.fifo.sent, List.getElem?_append_right (by omega), Nat.add_sub_cancel_left]
    exact waiting
  obtain ⟨desc, cell, shown, _⟩ := ring.slots (gone.length + j) (by omega) (by omega)
  rw [sent] at shown
  refine ⟨desc, packet, ?_, ?_, same, (Option.some.inj shown).symm⟩
  · rw [ring.cleanIndex, Nat.mod_add_mod]
    exact cell
  · rw [ring.released_length]
    exact sent

/-- A released entry is that of the packet accepted at its turn, and the device
finished that packet's descriptor. -/
theorem released_completed (ring : TxRing size queueId view trace gone pending) {k : Nat}
    {entry : PoolRef × Nat} (found : (releasedOn queueId trace)[k]? = some entry) :
    ∃ packet, (sentOn queueId trace)[k]? = some packet ∧ entry = packet.home ∧
      (fetchedOn queueId trace)[k]? = some packet.busAddress := by
  rw [ring.fifo.released, List.getElem?_map] at found
  obtain ⟨packet, left, same⟩ := Option.map_eq_some_iff.mp found
  have inside : k < gone.length := (List.getElem?_eq_some_iff.mp left).1
  have sent : (sentOn queueId trace)[k]? = some packet := by
    rw [ring.fifo.sent, List.getElem?_append_left inside]
    exact left
  refine ⟨packet, sent, same.symm, ?_⟩
  rw [getElem?_of_ahead ring.fetched (Nat.lt_of_lt_of_le inside ring.ordered),
    List.getElem?_map, sent]
  rfl

theorem fetched_le (ring : TxRing size queueId view trace gone pending) :
    (fetchedOn queueId trace).length ≤ (sentOn queueId trace).length :=
  Nat.le_trans ring.reached (view.published_le _)

end TxRing

/-- Transmit buffers are released once each, in send order, and only after the device
completed their descriptors. -/
theorem recycle_releases_in_order {σ : Type} {host : Host σ} {qs numRx numTx queueId : Nat}
    {pool ref : PoolRef} {before : Arcs} {system after : System} {trace : List Event}
    (power : qs.isPowerOfTwo) (bound : 16 * qs < 4294967296)
    (law : ∀ reg, RingRegister reg → host.Holds reg)
    (booted : Booted host qs numRx numTx pool before system) (inside : queueId < numTx)
    (run : Run (next host.profile) (fun state action => TxInOrder state action ∧
      SendsFrom ref state action ∧ SparesRx (queueId + 128) state action) system trace after) :
    ∃ view, after.txView queueId = some view ∧
      view.queue.bufsInUse.length = (view.queue.txIndex + qs - view.cleanIndex) % qs ∧
      (∀ (j : Nat) entry, view.queue.bufsInUse[j]? = some entry → ∃ desc, ∃ packet : Packet,
        view.queue.descriptors.cells[(view.cleanIndex + j) % qs]? = some desc ∧
        (sentOn queueId trace)[(releasedOn queueId trace).length + j]? = some packet ∧
        packet.poolEntry = entry ∧ desc.packetBufferAddress = packet.busAddress) ∧
      (∀ (k : Nat) entry, (releasedOn queueId trace)[k]? = some entry → ∃ packet : Packet,
        (sentOn queueId trace)[k]? = some packet ∧ entry = packet.home ∧
        (fetchedOn queueId trace)[k]? = some packet.busAddress) ∧
      (fetchedOn queueId trace).length ≤ (sentOn queueId trace).length ∧
      releasedOn queueId trace <+: (sentOn queueId trace).map Packet.home := by
  obtain ⟨view, gone, pending, known⟩ := TxKnown.run power bound law booted inside
    (fun _ _ permitted => permitted.1) (fun _ _ permitted => permitted.2.1)
    (.inr (fun _ _ permitted => permitted.2.2)) run
  exact ⟨view, known.seen, known.ring.bufs_length, fun _ _ found => known.ring.bufs_slot found,
    fun _ _ found => known.ring.released_completed found, known.ring.fetched_le,
    known.ring.fifo.released_prefix⟩

/-- A batch of 32 sent, completed and released again. -/
theorem recycle_releases_in_order_batch :
    ∃ (trace : List Event) (after : System) (view : TxView), after.txView 0 = some view ∧
      (releasedOn 0 trace).length = 32 ∧
      releasedOn 0 trace <+: (sentOn 0 trace).map Packet.home := by
  obtain ⟨system, trace, after, booted, _, _, run, accepted⟩ := exists_replayPlatform .dev
    (fun state action => TxInOrder state action ∧ SendsFrom 0 state action ∧
      SparesRx (0 + 128) state action) 64 0 1 40
    (sendActions 0 0 33 ++ doneActions 0 33 ++ [.recycle 0, .resume, .resume])
    (fun trace _ => (releasedOn 0 trace).length == 32) (by decide +kernel)
  obtain ⟨view, seen, _, _, _, _, ahead⟩ := recycle_releases_in_order ⟨6, rfl⟩ (by decide)
    (platform_holds .dev) booted (by decide) run
  exact ⟨trace, after, view, seen, eq_of_beq accepted, ahead⟩

namespace TxRing

variable {size queueId : Nat} {view : TxView} {trace : List Event} {gone pending : List Packet}

theorem tail_eq (ring : TxRing size queueId view trace gone pending)
    (bound : 16 * size < 4294967296)
    (quiet : view.phase = .quiet) : view.tail.toNat = view.queue.txIndex := by
  have positive : 0 < size := by
    have room := ring.room
    have lengths := ring.sent_length
    omega
  have below := Nat.mod_lt (sentOn queueId trace).length positive
  have published : view.published (sentOn queueId trace).length =
      (sentOn queueId trace).length := by
    rw [TxView.published, quiet]
  rw [ring.tail, ring.txIndex, published, BitVec.toNat_ofNat]
  exact Nat.mod_eq_of_lt (by omega)

/-- The slot `send` writes is not the device's. -/
theorem txIndex_outside (ring : TxRing size queueId view trace gone pending)
    (bound : 16 * size < 4294967296) :
    ¬ Ring.Between size view.head.toNat view.tail.toNat view.queue.txIndex := by
  have room := ring.room
  have lengths := ring.sent_length
  have ordered := ring.ordered
  have reached := ring.reached
  have published := view.published_le (sentOn queueId trace).length
  have positive : 0 < size := by omega
  have belowHead := Nat.mod_lt (fetchedOn queueId trace).length positive
  have belowTail := Nat.mod_lt (view.published (sentOn queueId trace).length) positive
  have head : view.head.toNat = (fetchedOn queueId trace).length % size := by
    rw [ring.head, BitVec.toNat_ofNat]
    exact Nat.mod_eq_of_lt (by omega)
  have tail : view.tail.toNat = view.published (sentOn queueId trace).length % size := by
    rw [ring.tail, BitVec.toNat_ofNat]
    exact Nat.mod_eq_of_lt (by omega)
  rw [head, tail, ring.txIndex]
  intro between
  obtain ⟨counter, lower, upper, same⟩ :=
    Ring.exists_counter_of_between reached (by omega) between
  exact Ring.mod_ne (fetchedOn queueId trace).length lower (by omega) (by omega) (by omega)
    (by omega) same

/-- What the device has still to fetch is in the ring, untouched. -/
theorem awaiting (ring : TxRing size queueId view trace gone pending) {k : Nat} {packet : Packet}
    (left : (fetchedOn queueId trace).length ≤ k)
    (sent : (sentOn queueId trace)[k]? = some packet) :
    ∃ desc, view.queue.descriptors.cells[k % size]? = some desc ∧
      desc.packetBufferAddress = packet.busAddress ∧ desc.done = false := by
  have ordered := ring.ordered
  obtain ⟨desc, cell, shown, done⟩ :=
    ring.slots k (by omega) (List.getElem?_eq_some_iff.mp sent).1
  rw [sent] at shown
  refine ⟨desc, cell, (Option.some.inj shown).symm, ?_⟩
  cases marked : desc.done with
  | false => rfl
  | true =>
      have before := done.mp marked
      omega

end TxRing

/-- The device fetches the accepted packets, all of them in order, and a full ring is
told from an empty one. -/
theorem device_fetches_accepted {σ : Type} {host : Host σ} {qs numRx numTx queueId : Nat}
    {pool ref : PoolRef} {before : Arcs} {system after : System} {trace : List Event}
    (power : qs.isPowerOfTwo) (bound : 16 * qs < 4294967296)
    (fewRx : numRx ≤ maxQueues) (law : ∀ reg, RingRegister reg → host.Holds reg)
    (booted : Booted host qs numRx numTx pool before system) (inside : queueId < numTx)
    (run : Run (next host.profile) (fun state action => TxInOrder state action ∧
      SendsFrom ref state action) system trace after) :
    ∃ view, after.txView queueId = some view ∧
      (after.control = .idle → view.tail.toNat = view.queue.txIndex) ∧
      fetchedOn queueId trace <+: (sentOn queueId trace).map Packet.busAddress ∧
      (∀ (k : Nat) packet, (fetchedOn queueId trace).length ≤ k →
        (sentOn queueId trace)[k]? = some packet →
        ∃ desc, view.queue.descriptors.cells[k % qs]? = some desc ∧
          desc.packetBufferAddress = packet.busAddress ∧ desc.done = false) ∧
      (∀ (position : Nat) packet events final, after.live[position]? = some packet →
        next host.profile after (.send queueId position) = some (.ok (events, final)) →
        (∀ queue slot, final.txQueue? queueId = some queue →
          Ring.Between qs view.head.toNat view.tail.toNat slot →
          queue.descriptors.cells[slot]? = view.queue.descriptors.cells[slot]?) ∧
        (events = [.sent queueId packet] ∨ events = [.rejected queueId packet .queueFull]) ∧
        (events = [.rejected queueId packet .queueFull] ↔
          (sentOn queueId trace).length = (releasedOn queueId trace).length + (qs - 1))) := by
  obtain ⟨view, gone, pending, known⟩ := TxKnown.run power bound law booted inside
    (fun _ _ permitted => permitted.1) (fun _ _ permitted => permitted.2)
    (.inl (by unfold maxQueues at fewRx; omega)) run
  obtain ⟨queue, found, rfl⟩ := Option.map_eq_some_iff.mp known.seen
  have quiet : after.control = .idle → (after.txViewOf queueId queue).phase = .quiet := by
    intro idle
    change after.control.txPhase queueId = .quiet
    rw [idle]
    rfl
  refine ⟨_, known.seen, fun idle => known.ring.tail_eq bound (quiet idle), known.ring.fetched,
    fun _ _ left sent => known.ring.awaiting left sent, ?_⟩
  intro position packet events final owned stepped
  obtain ⟨idle, outcomes⟩ := (next_step stepped).send_cases found owned
  have lengths := known.ring.sent_length
  have released := known.ring.released_length
  have room := known.ring.canSend_iff host.profile power
    (by simp only [usizeModulus]; omega) (quiet idle)
  change queue.canSend host.profile = _ at room
  rcases outcomes with ⟨full, rfl, kept⟩ | ⟨txIndex, desc, space, rfl, written⟩
  · refine ⟨fun other slot same _ => ?_, .inr rfl, fun _ => ?_, fun _ => rfl⟩
    · rw [kept] at same
      cases same
      rfl
    · rw [room] at full
      have count := of_decide_eq_false (Except.ok.inj full)
      omega
  · refine ⟨fun other slot same between => ?_, .inl rfl, fun rejected => ?_, fun count => ?_⟩
    · rw [written] at same
      cases same
      have apart : queue.txIndex ≠ slot := by
        intro same
        subst same
        exact known.ring.txIndex_outside bound between
      exact List.getElem?_set_ne apart
    · cases rejected
    · rw [room] at space
      have count' := of_decide_eq_true (Except.ok.inj space)
      omega

/-- One packet sent and fetched, a second one waiting for its doorbell. -/
theorem device_fetches_accepted_pair :
    ∃ (trace : List Event) (after : System) (view : TxView), after.txView 0 = some view ∧
      (fetchedOn 0 trace).length = 1 ∧ (sentOn 0 trace).length = 2 ∧
      fetchedOn 0 trace <+: (sentOn 0 trace).map Packet.busAddress := by
  obtain ⟨system, trace, after, booted, _, _, run, accepted⟩ := exists_replayPlatform .dev
    (fun state action => TxInOrder state action ∧ SendsFrom 0 state action) 4 1 1 8
    [.pool (.alloc 0 64), .send 0 0, .resume, .pool (.alloc 0 64), .txDone 0 0, .send 0 0]
    (fun trace _ => (fetchedOn 0 trace).length == 1 && (sentOn 0 trace).length == 2)
    (by decide +kernel)
  obtain ⟨view, seen, _, ahead, _⟩ := device_fetches_accepted ⟨2, rfl⟩ (by decide) (by decide)
    (platform_holds .dev) booted Nat.zero_lt_one run
  rw [Bool.and_eq_true] at accepted
  exact ⟨trace, after, view, seen, eq_of_beq accepted.1, eq_of_beq accepted.2, ahead⟩

end IgbDriver
