import IgbDriver.Housing
import IgbDriver.Transmit
import IgbDriver.Receive
import IgbDriver.Draining

namespace IgbDriver

open Foundation

/-! # What a well-run system keeps to

One receive pool, packets of that pool only, a device that takes its rings in order,
and pools the platform laid out as it promised.
-/

/-- The device keeps its rings in order; the caller does not use `construct` and sends
packets of one pool. -/
def Orderly (pool : PoolRef) : Policy := fun system action =>
  (RxInOrder system action ∧ TxInOrder system action) ∧ NoConstruct system action ∧
    SendsFrom pool system action

instance (pool : PoolRef) (system : System) (action : Action) :
    Decidable (Orderly pool system action) :=
  inferInstanceAs (Decidable ((_ ∧ _) ∧ _ ∧ _))

/-- The caller alone keeps to that; the device does as it likes. -/
def OfPool (pool : PoolRef) : Policy := fun system action => NoConstruct system action ∧
  SendsFrom pool system action

instance (pool : PoolRef) (system : System) (action : Action) :
    Decidable (OfPool pool system action) :=
  inferInstanceAs (Decidable (_ ∧ _))

/-- A system fresh from `init` and what its surroundings promise of it. -/
structure Deployment {σ : Type} (host : Host σ) (translate : Nat → Nat) (qs numRx numTx : Nat)
    (pool : PoolRef) (before : Arcs) (system : System) : Prop where
  booted : Booted host qs numRx numTx pool before system
  law : ∀ reg, RingRegister reg → host.Holds reg
  least : 2 ≤ qs
  small : 16 * qs < 4294967296
  few : numRx ≤ maxQueues
  whole : ∀ ref, before.Whole system.live ref
  laid : before.Laid host.profile translate
  wide : 2048 ≤ (before.pool pool).entrySize
  housed : ∀ packet ∈ system.live, packet.Housed host.profile before

/-- The descriptor of a packet that was not released carries its length. -/
def TxSized (size queueId : Nat) (trace : List Event) (cells : List AdvancedTxDescriptor) : Prop :=
  Ring.Window size (releasedOn queueId trace).length (sentOn queueId trace).length
    (fun counter desc => ((sentOn queueId trace)[counter]?).map
      (fun packet => BitVec.ofNat 16 packet.len) =
      some desc.dataLen) cells

section Sized

variable {profile : Profile} {size queueId : Nat} {ref : PoolRef} {trace events : List Event}
  {system after : System} {action : Action} {view : TxView} {gone pending : List Packet}
  {queue' : IgbTxQueue}

theorem TxSized.kept {cells : List AdvancedTxDescriptor} (sized : TxSized size queueId trace cells)
    (sent : sentOn queueId events = []) (released : releasedOn queueId events = []) :
    TxSized size queueId (trace ++ events) cells := by
  rw [TxSized, sentOn_append, releasedOn_append, sent, released, List.append_nil, List.append_nil]
  exact sized

/-- The descriptor the device completes is that of the packet at its turn. -/
theorem TxRing.completes (ring : TxRing size queueId view trace gone pending)
    (bound : 16 * size < 4294967296) {index : Nat}
    (takes : TxEnvironment.inOrder.completes view index) :
    index = (fetchedOn queueId trace).length % size ∧
      (fetchedOn queueId trace).length < (sentOn queueId trace).length := by
  obtain ⟨atHead, behind, _⟩ := takes
  have published := view.published_le (sentOn queueId trace).length
  have waiting : (fetchedOn queueId trace).length < view.published
      (sentOn queueId trace).length := by
    refine Nat.lt_of_le_of_ne ring.reached (fun same => behind ?_)
    rw [ring.head, ring.tail, same]
  have room := ring.room
  have ordered := ring.ordered
  have below := Nat.mod_lt (fetchedOn queueId trace).length (show 0 < size by omega)
  refine ⟨?_, by omega⟩
  rw [← atHead, ring.head, BitVec.toNat_ofNat, Nat.mod_eq_of_lt (by omega)]

theorem TxSized.change (sized : TxSized size queueId trace view.queue.descriptors.cells)
    (ring : TxRing size queueId view trace gone pending) (bound : 16 * size < 4294967296)
    (ordered : ∀ index, action = .txDone queueId index → TxEnvironment.inOrder.completes view index)
    (change : TxChange profile system queueId view.queue action events queue') :
    TxSized size queueId (trace ++ events) queue'.descriptors.cells := by
  have gone_length := ring.released_length
  have lengths := ring.sent_length
  have room := ring.room
  cases change with
  | same sent released => exact sized.kept sent released
  | @send position txIndex packet desc owned =>
      have longer : Ring.Window size (releasedOn queueId trace).length (sentOn queueId trace).length
          (fun counter (desc : AdvancedTxDescriptor) =>
            ((sentOn queueId trace ++ [packet])[counter]?).map
              (fun packet => BitVec.ofNat 16 packet.len) =
              some desc.dataLen) view.queue.descriptors.cells := by
        refine Ring.Window.mono sized (fun counter cell _ upper shown => ?_)
        rw [List.getElem?_append_left upper]
        exact shown
      rw [TxSized, sentOn_append, sentOn_sent, releasedOn_append,
        show releasedOn queueId [.sent queueId packet] = [] from rfl, List.append_nil,
        List.length_append, List.length_singleton]
      simp only [IgbTxQueue.afterSend, Dma.set, ring.txIndex]
      refine longer.push (by omega) ring.cells ?_
      rw [List.getElem?_append_right (Nat.le_refl _), Nat.sub_self]
      rfl
  | release pool =>
      rw [TxSized, sentOn_append, releasedOn_append, show sentOn queueId [.released queueId _ _] =
        [] from rfl, List.append_nil, List.length_append]
      exact Ring.Window.raise sized (Nat.le_add_right _ _)
  | commit => exact sized.kept rfl rfl
  | @txDone index desc cell =>
      obtain ⟨here, waiting⟩ := ring.completes bound (ordered index rfl)
      have reached := ring.ordered
      subst here
      have shown := Ring.Window.cell_of sized (by omega) waiting cell
      have written : TxSized size queueId trace
          (view.queue.descriptors.cells.set ((fetchedOn queueId trace).length % size)
            desc.complete) := by
        unfold TxSized
        exact Ring.Window.set_inside sized (by omega) (by omega) waiting shown
          (fun _ _ _ _ _ kept => kept)
      exact written.kept rfl rfl

end Sized

/-- What holds of a well-run system in the state it has come to. -/
structure Custody {σ : Type} (host : Host σ) (translate : Nat → Nat) (qs numRx numTx : Nat)
    (pool : PoolRef) (trace : List Event) (system : System) : Prop where
  accounted : ∀ ref, system.Accounted ref
  uses : system.OnPool pool
  laid : system.machine.arcs.Laid host.profile translate
  wide : 2048 ≤ (system.machine.arcs.pool pool).entrySize
  transmit : ∀ queueId, queueId < numTx → ∃ view gone pending,
    TxKnown qs queueId pool trace system view gone pending ∧
      TxSized qs queueId trace view.queue.descriptors.cells
  receive : ∀ queueId, queueId < numRx → ∃ view, system.rxView queueId = some view ∧
    RxRing qs queueId view trace
  transmitters : ∀ queueId queue, system.txQueue? queueId = some queue → queueId < numTx
  receivers : ∀ queueId queue, system.rxQueue? queueId = some queue → queueId < numRx
  live : ∀ packet ∈ system.live, packet.Housed host.profile system.machine.arcs
  sent : ∀ queueId, ∀ packet ∈ sentOn queueId trace, packet.Housed host.profile system.machine.arcs
  stored : ∀ queueId, ∀ frame ∈ storedOn queueId trace, frame.length ≤ 2048

section Run

variable {σ : Type} {host : Host σ} {translate : Nat → Nat} {qs numRx numTx : Nat} {pool : PoolRef}
  {before : Arcs} {system after : System} {trace events : List Event} {action : Action}

namespace Deployment

variable (deployed : Deployment host translate qs numRx numTx pool before system)
include deployed

theorem power_of (queues : 0 < numRx + numTx) : qs.isPowerOfTwo :=
  deployed.booted.power (by have := deployed.least; omega) queues

theorem narrow : qs < usizeModulus := by
  have := deployed.small
  simp only [usizeModulus]
  omega

theorem layout (ref : PoolRef) : system.machine.arcs.layout ref = before.layout ref := by
  obtain ⟨file, booting⟩ := deployed.booted.booting
  exact booting.layout ref

theorem txKnown (run : Run (next host.profile) (Orderly pool) system trace after) {queueId : Nat}
    (inside : queueId < numTx) : ∃ view gone pending,
      TxKnown qs queueId pool trace after view gone pending := by
  have few := deployed.few
  unfold maxQueues at few
  exact TxKnown.run (deployed.power_of (by omega)) deployed.small deployed.law
    deployed.booted inside
    (fun _ _ permitted => permitted.1.2) (fun _ _ permitted => permitted.2.2) (.inl (by omega)) run

theorem rxRing (run : Run (next host.profile) (Orderly pool) system trace after) {queueId : Nat}
    (inside : queueId < numRx) : ∃ view, after.rxView queueId = some view ∧
      RxRing qs queueId view trace := by
  have few := deployed.few
  unfold maxQueues at few
  exact RxRing.run (deployed.power_of (by omega)) deployed.least deployed.narrow deployed.law
    deployed.booted inside (by omega) (fun _ _ permitted => permitted.1.1) run

theorem txSized (run : Run (next host.profile) (Orderly pool) system trace after) {queueId : Nat}
    (inside : queueId < numTx) {queue : IgbTxQueue} (found : after.txQueue? queueId = some queue) :
    TxSized qs queueId trace queue.descriptors.cells := by
  have small := deployed.small
  induction run generalizing queue with
  | refl => exact Ring.Window.empty
  | @next trace events state final action run permitted stepped ih =>
      obtain ⟨view, gone, pending, known⟩ := deployed.txKnown run inside
      obtain ⟨mine, own, rfl⟩ := Option.map_eq_some_iff.mp known.seen
      obtain ⟨queue', found', change⟩ := (next_step stepped).txChange own
      cases found.symm.trans found'
      refine TxSized.change (ih own) known.ring small ?_ change
      rintro index rfl
      exact permitted.1.2

theorem housed_run (run : Run (next host.profile) (Orderly pool) system trace after) :
    (∀ queueId, ∀ frame ∈ storedOn queueId trace, frame.length ≤ 2048) ∧
      (∀ packet ∈ after.live, packet.Housed host.profile before) ∧
      ∀ queueId, ∀ packet ∈ sentOn queueId trace, packet.Housed host.profile before := by
  induction run with
  | refl => exact ⟨nofun, deployed.housed, nofun⟩
  | @next trace events state final action run permitted stepped ih =>
      obtain ⟨stored, live, sent⟩ := ih
      have step := next_step stepped
      have layout : ∀ ref, before.layout ref = state.machine.arcs.layout ref :=
        fun ref => ((layout_run run ref).trans (deployed.layout ref)).symm
      have laid := deployed.laid.of_layout fun ref => (layout ref).symm
      refine ⟨fun queueId frame member => ?_, fun packet owned => ?_,
        fun queueId packet member => ?_⟩
      · rw [storedOn_append] at member
        rcases List.mem_append.mp member with old | new
        · exact stored queueId frame old
        · obtain ⟨index, writeBack, _, _, rfl, _, _, rfl⟩ := step.stored (mem_storedOn.mp new)
          exact permitted.1.1.2.2.2
      · rcases step.live_origin owned with old | ⟨pooled, rfl⟩ | ⟨queueId, delivered⟩
        · exact live packet old
        · simp only [next] at stepped
          split at stepped
          · obtain ⟨result, ran, same⟩ := Option.map_eq_some_iff.mp stepped
            cases result with
            | error reason => cases same
            | ok made =>
                cases same
                rcases (poolStep_effect ran).housed permitted.2.1 laid owned with old | new
                · exact live packet old
                · exact new.of_layout (layout _)
          · cases stepped
        · -- A delivered packet is as long as the frame it carries.
          obtain ⟨rfl, todo, rxIndex, lastRxIndex, recvNums, queue, desc, buf, rest, control,
              found, takes⟩ :=
            step.delivered delivered
          have inside := deployed.booted.rxQueue_inside run found
          obtain ⟨view, seen, ring⟩ := deployed.rxRing (run.next permitted stepped) inside
          have mine : packet ∈ IgbDriver.deliveredOn queueId (trace ++ events) := by
            rw [deliveredOn_append]
            exact List.mem_append_right _ (mem_deliveredOn.mpr delivered)
          have frame := ring.delivered.subset (List.mem_map_of_mem mine)
          rw [storedOn_append] at frame
          have short : packet.len ≤ 2048 := by
            rcases List.mem_append.mp frame with old | new
            · exact stored queueId _ old
            · obtain ⟨_, _, _, _, impossible, _⟩ := step.stored (mem_storedOn.mp new)
              cases impossible
          have own := takes.pool.trans (RxShape.run (by have := deployed.least; omega)
            deployed.narrow deployed.booted run found).pool
          have wide := deployed.wide
          exact ((next_delivers stepped delivered).of_layout (layout _)).housed_zero deployed.laid
            (by rw [own]; omega)
      · rw [sentOn_append] at member
        rcases List.mem_append.mp member with old | new
        · exact sent queueId packet old
        · obtain ⟨position, _, owned⟩ := step.sentOn new
          exact live packet (List.mem_of_getElem? owned)

/-- Every run of a well-run system keeps all of this. -/
theorem custody (run : Run (next host.profile) (Orderly pool) system trace after) :
    Custody host translate qs numRx numTx pool trace after := by
  obtain ⟨file, booting⟩ := deployed.booted.booting
  have layout : ∀ ref, after.machine.arcs.layout ref = before.layout ref :=
    fun ref => (layout_run run ref).trans (deployed.layout ref)
  obtain ⟨uses, accounted⟩ := OnPool.run (fun _ _ permitted => permitted.2.1)
    (fun _ _ permitted => permitted.2.2)
    run deployed.booted.onPool (fun ref => deployed.booted.accounted (deployed.whole ref))
  obtain ⟨stored, live, sent⟩ := deployed.housed_run run
  exact {
    accounted
    uses
    laid := deployed.laid.of_layout layout
    wide := by
      rw [entrySize_of_layout (layout pool)]
      exact deployed.wide
    transmit := by
      intro queueId inside
      obtain ⟨view, gone, pending, known⟩ := deployed.txKnown run inside
      obtain ⟨queue, found, rfl⟩ := Option.map_eq_some_iff.mp known.seen
      exact ⟨_, gone, pending, known, deployed.txSized run inside found⟩
    receive := fun queueId inside => deployed.rxRing run inside
    transmitters := by
      intro queueId queue found
      have inside : queueId < after.machine.dev.txQueues.length :=
        (List.getElem?_eq_some_iff.mp found).1
      rw [(lengths_run run).2, booting.txLength] at inside
      exact inside
    receivers := fun queueId queue found => deployed.booted.rxQueue_inside run found
    live := fun packet owned => (live packet owned).of_layout (layout _)
    sent := fun queueId packet member => (sent queueId packet member).of_layout (layout _)
    stored }

end Deployment

end Run

end IgbDriver
