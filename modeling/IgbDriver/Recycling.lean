import IgbDriver.Draining
import Mathlib.Order.Bounds.Basic

namespace IgbDriver

open Foundation

/-! # What recycling does

The loop releases whole batches as long as the last descriptor of the next one is done.
How many these are decides everything a call does.
-/

section Loop

variable {σ : Type} {host : Host σ} {machine : Machine σ} {size queueId cleanIndex k : Nat}
  {queue : IgbTxQueue} {ref : PoolRef}

/-- So many whole batches are in flight from `cleanIndex` on, and the last descriptor of
each is done. -/
structure IgbTxQueue.Recyclable (queue : IgbTxQueue) (size cleanIndex k : Nat) : Prop where
  counted : txCleanBatch * k ≤ Ring.distance size cleanIndex queue.txIndex
  done : ∀ j, 1 ≤ j → j ≤ k → ∃ desc,
    queue.descriptors.cells[(cleanIndex + txCleanBatch * j - 1) % size]? = some desc ∧
      desc.done = true

/-- The machine after the first `count` entries of the queue were handed back. -/
def Machine.drained (machine : Machine σ) (queueId : Nat) (queue : IgbTxQueue) (ref : PoolRef)
    (count : Nat) : Machine σ :=
  { machine.setTxQueue queueId { queue with bufsInUse := queue.bufsInUse.drop count } with
    arcs := machine.arcs.setFree ref (machine.arcs.free ref ++ queue.bufsInUse.take count) }

/-- What a call leaves: `k` batches are gone from the queue and on the free stack. -/
def Machine.recycled (machine : Machine σ) (queueId : Nat) (queue : IgbTxQueue) (ref : PoolRef)
    (size k : Nat) : Machine σ :=
  { machine.setTxQueue queueId { queue with
      cleanIndex := (queue.cleanIndex + txCleanBatch * k) % size
      bufsInUse := queue.bufsInUse.drop (txCleanBatch * k) } with
    arcs := machine.arcs.setFree ref
      (machine.arcs.free ref ++ queue.bufsInUse.take (txCleanBatch * k)) }

theorem setFree_free (arcs : Arcs) (ref : PoolRef) : arcs.setFree ref (arcs.free ref) = arcs := by
  funext other
  simp only [Arcs.setFree, Arcs.setPool, Arcs.free, Arcs.pool]
  split
  · rename_i same
    rw [same]
  · rfl

theorem setFree_setFree (arcs : Arcs) (ref : PoolRef) (first second : List Nat) :
    (arcs.setFree ref first).setFree ref second = arcs.setFree ref second := by
  funext other
  simp only [Arcs.setFree, Arcs.setPool, Arcs.pool]
  split <;> simp

theorem setTxQueue_self (found : machine.dev.txQueues[queueId]? = some queue) :
    machine.setTxQueue queueId queue = machine := by
  obtain ⟨inside, same⟩ := List.getElem?_eq_some_iff.mp found
  rw [Machine.setTxQueue, ← same, List.set_getElem_self]

theorem drained_zero (found : machine.dev.txQueues[queueId]? = some queue) :
    machine.drained queueId queue ref 0 = machine := by
  rw [Machine.drained, List.drop_zero, List.take_zero, List.append_nil, setFree_free,
    setTxQueue_self found]

/-- Handing back one lot and then another is handing back both. -/
theorem drained_drained (first second : Nat) :
    (machine.drained queueId queue ref first).drained queueId
        { queue with bufsInUse := queue.bufsInUse.drop first } ref second =
      machine.drained queueId queue ref (first + second) := by
  have handed :
    (machine.arcs.setFree ref (machine.arcs.free ref ++ queue.bufsInUse.take first)).free ref =
      machine.arcs.free ref ++ queue.bufsInUse.take first := by rw [Arcs.free_setFree, if_pos rfl]
  simp only [Machine.drained, Machine.setTxQueue, handed, setFree_setFree, List.set_set,
    List.drop_drop, List.append_assoc, List.take_add]

theorem releasedMachine_drained (pool : queue.pool = some ref) :
    releasedMachine machine queueId queue = machine.drained queueId queue ref txCleanBatch := by
  rw [releasedMachine, pool]
  simp only [Machine.drained, queue.batch_eq, ← queue.bufsInUse_afterBatch]
  rfl

theorem drained_queue (found : machine.dev.txQueues[queueId]? = some queue) (count : Nat) :
    (machine.drained queueId queue ref count).dev.txQueues[queueId]? =
      some { queue with bufsInUse := queue.bufsInUse.drop count } := set_of_some found

/-- The batches after the first ones are found from the index after these. -/
theorem batch_end (least : 1 ≤ k) (count : Nat) :
    ((cleanIndex + txCleanBatch * count) % size + txCleanBatch * k - 1) % size =
      (cleanIndex + txCleanBatch * (count + k) - 1) % size := by
  have batch : 1 ≤ txCleanBatch * k := Nat.mul_pos (by decide) least
  rw [Nat.add_sub_assoc batch, Nat.mod_add_mod, Nat.mul_add]
  congr 1
  omega

/-- So many batches, and so many more from where these end. -/
theorem IgbTxQueue.recyclable_add (insideClean : cleanIndex < size)
    (insideTx : queue.txIndex < size) {more : Nat} (first : queue.Recyclable size cleanIndex k) :
    queue.Recyclable size cleanIndex (k + more) ↔
      queue.Recyclable size ((cleanIndex + txCleanBatch * k) % size) more := by
  have closer := Ring.distance_advance insideClean insideTx first.counted
  have whole := first.counted
  constructor
  · intro recyclable
    obtain ⟨counted, done⟩ := recyclable
    refine ⟨?_, fun j least most => ?_⟩
    · rw [closer]
      rw [Nat.mul_add] at counted
      omega
    · rw [batch_end least]
      exact done (k + j) (by omega) (by omega)
  · intro recyclable
    obtain ⟨counted, done⟩ := recyclable
    refine ⟨?_, fun j least most => ?_⟩
    · rw [closer] at counted
      rw [Nat.mul_add]
      omega
    · rcases Nat.lt_or_ge k j with later | early
      · have found := done (j - k) (by omega) (by omega)
        rw [batch_end (by omega), Nat.add_sub_cancel' (by omega)] at found
        exact found
      · exact first.done j least early

/-- The first batch is done exactly when its last descriptor is. -/
theorem IgbTxQueue.recyclable_one
    (short : txCleanBatch ≤ Ring.distance size cleanIndex queue.txIndex) :
    queue.Recyclable size cleanIndex 1 ↔
      ∃ desc, queue.descriptors.cells[(cleanIndex + (txCleanBatch - 1)) % size]? = some desc ∧
        desc.done = true := by
  constructor
  · intro recyclable
    obtain ⟨_, done⟩ := recyclable
    exact done 1 (Nat.le_refl _) (Nat.le_refl _)
  · intro last
    refine ⟨short, fun j least most => ?_⟩
    cases Nat.le_antisymm most least
    exact last

theorem IgbTxQueue.Recyclable.fewer {fewer : Nat} (recyclable : queue.Recyclable size cleanIndex k)
    (less : fewer ≤ k) : queue.Recyclable size cleanIndex fewer :=
  ⟨(Nat.mul_le_mul_left _ less).trans recyclable.counted,
    fun j least most => recyclable.done j least (most.trans less)⟩

theorem IgbTxQueue.recyclable_zero : queue.Recyclable size cleanIndex 0 :=
  ⟨Nat.zero_le _, fun j least most => by omega⟩

theorem cleanable_distance {profile : Profile} {txIndex : Nat} (small : size < 2147483648)
    (insideTx : txIndex < size) (insideClean : cleanIndex < size) :
    cleanable profile size txIndex cleanIndex =
      .ok (Ring.distance size cleanIndex txIndex : Int) := by
  have far := Ring.distance_lt (show 0 < size by omega) cleanIndex txIndex
  have back := Ring.add_distance_mod cleanIndex insideTx
  have counted : cleanable profile size
    ((cleanIndex + Ring.distance size cleanIndex txIndex) % size)
      (cleanIndex % size) = _ := cleanable_eq small (Nat.le_add_right _ _) (by omega)
  rw [Nat.mod_eq_of_lt insideClean] at back counted
  rw [back, Nat.add_sub_cancel_left] at counted
  exact counted

/-- What the recycle loop relies on: indices inside the ring, a cell for every descriptor
in flight, and an entry of the pool for each. -/
structure InFlight (size cleanIndex : Nat) (queue : IgbTxQueue) (ref : PoolRef) : Prop where
  numDescriptors : queue.numDescriptors = size
  txIndex : queue.txIndex < size
  clean : cleanIndex < size
  bufs : queue.bufsInUse.length = Ring.distance size cleanIndex queue.txIndex
  cells : ∀ slot, Ring.Between size cleanIndex queue.txIndex slot →
    ∃ desc, queue.descriptors.cells[slot]? = some desc
  pool : queue.bufsInUse ≠ [] → queue.pool = some ref

theorem InFlight.advance {count : Nat} (flight : InFlight size cleanIndex queue ref)
    (short : count ≤ Ring.distance size cleanIndex queue.txIndex) :
    InFlight size ((cleanIndex + count) % size)
      { queue with bufsInUse := queue.bufsInUse.drop count } ref := by
  have clean := flight.clean
  have closer := Ring.distance_advance clean flight.txIndex short
  refine ⟨flight.numDescriptors, flight.txIndex, Nat.mod_lt _ (by omega), ?_, fun slot between =>
    ?_, fun some_left => ?_⟩
  · rw [closer, List.length_drop, flight.bufs]
  · exact flight.cells slot (between.of_advance clean flight.txIndex short)
  · refine flight.pool fun none_left => some_left ?_
    rw [none_left]
    exact List.drop_nil

/-- The loop hands back the largest number of batches it may, and stops. -/
theorem recycleLoop_exact (host : Host σ) (power : size.isPowerOfTwo) (small : size < 2147483648)
    (found : machine.dev.txQueues[queueId]? = some queue)
    (flight : InFlight size cleanIndex queue ref) :
    ∃ k, IsGreatest {k | queue.Recyclable size cleanIndex k} k ∧ ∀ fuel, k < fuel →
      recycleLoop host queueId queue.txIndex fuel cleanIndex machine =
        .ok (.ok ((cleanIndex + txCleanBatch * k) % size), machine.drained queueId queue ref
          (txCleanBatch * k)) := by
  induction far : Ring.distance size cleanIndex queue.txIndex using Nat.strong_induction_on
    generalizing machine queue cleanIndex with
  | _ steps ih =>
      have clean := flight.clean
      have counted : cleanable host.profile size queue.txIndex cleanIndex = _ :=
        cleanable_distance small flight.txIndex clean
      have stops : recycleRound host queueId queue.txIndex cleanIndex machine =
        .ok (.ok none, machine) →
          ∀ fuel, 0 < fuel →
            recycleLoop host queueId queue.txIndex fuel cleanIndex machine =
              .ok (.ok ((cleanIndex + txCleanBatch * 0) % size), machine.drained queueId queue ref
                (txCleanBatch * 0)) := by
        intro round fuel rounds
        obtain ⟨fuel, rfl⟩ := Nat.exists_eq_add_of_le' rounds
        rw [recycleLoop_stops round, Nat.mul_zero, drained_zero found, Nat.add_zero,
          Nat.mod_eq_of_lt clean]
      by_cases few : Ring.distance size cleanIndex queue.txIndex < txCleanBatch
      · refine ⟨0, ⟨queue.recyclable_zero, fun k recyclable => ?_⟩, stops ?_⟩
        · have whole := recyclable.counted
          simp only [txCleanBatch] at *
          omega
        · rw [← flight.numDescriptors] at counted
          exact recycleRound_break found counted (by rw [flight.numDescriptors]; omega)
      · have short : txCleanBatch ≤ Ring.distance size cleanIndex queue.txIndex := by omega
        have inLap := Ring.distance_lt (show 0 < size by omega) cleanIndex queue.txIndex
        obtain ⟨desc, cell⟩ := flight.cells ((cleanIndex + (txCleanBatch - 1)) % size)
          ⟨Nat.mod_lt _ (by omega), by
          rw [Ring.distance_slot clean (by omega)]
          simp only [txCleanBatch] at *
          omega⟩
        have round := recycleRound_at power (by simp only [usizeModulus]; omega) found
          flight.numDescriptors clean (by omega) counted (by omega) cell
        cases done : desc.done with
        | false =>
            rw [done] at round
            refine ⟨0, ⟨queue.recyclable_zero, fun k recyclable => ?_⟩, stops round⟩
            by_contra some_batch
            obtain ⟨other, here, last⟩ :=
              (queue.recyclable_one short).mp (recyclable.fewer (by omega))
            cases cell.symm.trans here
            rw [done] at last
            cases last
        | true =>
            have own : queue.pool = some ref := flight.pool fun none_left => by
              have count := flight.bufs
              rw [none_left, List.length_nil] at count
              unfold txCleanBatch at short
              omega
            rw [done, if_pos rfl, if_pos rfl, releasedMachine_drained own] at round
            have first : queue.Recyclable size cleanIndex 1 :=
              (queue.recyclable_one short).mpr ⟨desc, cell, done⟩
            have split : ∀ more, queue.Recyclable size cleanIndex (1 + more) ↔
                queue.Recyclable size ((cleanIndex + txCleanBatch) % size) more :=
              fun more => queue.recyclable_add clean flight.txIndex first
            obtain ⟨k, ⟨most, least⟩, rest⟩ := ih _ (by
                rw [Ring.distance_advance clean flight.txIndex short]
                simp only [txCleanBatch] at *
                omega) (drained_queue found txCleanBatch) (flight.advance short) rfl
            refine ⟨1 + k, ⟨(split k).mpr ⟨most.counted, most.done⟩, fun other recyclable => ?_⟩,
              fun fuel rounds => ?_⟩
            · rcases Nat.eq_zero_or_pos other with rfl | positive
              · exact Nat.zero_le _
              · obtain ⟨other, rfl⟩ := Nat.exists_eq_add_of_le positive
                have fewer := (split other).mp recyclable
                exact Nat.add_le_add_left (least ⟨fewer.counted, fewer.done⟩) 1
            · obtain ⟨fuel, rfl⟩ := Nat.exists_eq_add_of_le' (show 1 ≤ fuel by omega)
              rw [recycleLoop_continues round]
              apply (rest fuel (by omega)).trans
              rw [drained_drained, Nat.mod_add_mod, Nat.mul_add, Nat.mul_one, Nat.add_assoc]

end Loop

/-- The clean index the driver works with: the local of a running recycle, else the field. -/
def Control.cleanIndex (queueId : Nat) (queue : IgbTxQueue) : Control → Nat
  | .recycling target _ cleanIndex => if target = queueId then cleanIndex else queue.cleanIndex
  | _ => queue.cleanIndex

theorem Control.cleanIndex_field {control : Control} {queueId : Nat} (queue : IgbTxQueue)
    (apart : ∀ curIndex cleanIndex, control.txPhase queueId ≠ .recycling curIndex cleanIndex) :
    control.cleanIndex queueId queue = queue.cleanIndex := by
  cases control with
  | recycling target curIndex cleanIndex =>
      exact if_neg (fun here => apart curIndex cleanIndex (if_pos here))
  | _ => rfl

/-- The phase of the queue is all of the control that its local depends on. -/
theorem Control.cleanIndex_congr {control control' : Control} {queueId : Nat} (queue : IgbTxQueue)
    (same : control'.txPhase queueId = control.txPhase queueId) :
    control'.cleanIndex queueId queue = control.cleanIndex queueId queue := by
  cases phase : control.txPhase queueId with
  | recycling curIndex cleanIndex =>
      rw [Control.eq_recycling phase, Control.eq_recycling (same.trans phase)]
  | quiet | ringing =>
      have apart : ∀ curIndex cleanIndex,
          control.txPhase queueId ≠ .recycling curIndex cleanIndex := by
        intro _ _ running
        rw [phase] at running
        cases running
      rw [Control.cleanIndex_field queue apart, Control.cleanIndex_field queue (same ▸ apart)]

/-- The indices of a queue count the packets it accepted and those it gave back, whatever
the device does and whichever pools the packets are of. -/
structure TxCursors (size queueId : Nat) (control : Control) (queue : IgbTxQueue)
    (trace : List Event) (gone pending : List Packet) : Prop where
  numDescriptors : queue.numDescriptors = size
  cells : queue.descriptors.cells.length = size
  sent : sentOn queueId trace = gone ++ pending
  bufs : queue.bufsInUse = pending.map Packet.poolEntry
  pool : ∀ packet, (gone ++ pending).getLast? = some packet → queue.pool = some packet.pool
  txIndex : queue.txIndex = (gone.length + pending.length) % size
  clean : control.cleanIndex queueId queue = gone.length % size
  current : ∀ curIndex cleanIndex, control = .recycling queueId curIndex cleanIndex →
    curIndex = queue.txIndex
  room : pending.length < size

namespace TxCursors

variable {size queueId : Nat} {profile : Profile} {control control' : Control}
  {queue queue' : IgbTxQueue} {trace events : List Event} {gone pending : List Packet}
  {system after : System} {action : Action}

theorem initial (built : TxBuilt size queue) (positive : 0 < size) :
    TxCursors size queueId .idle queue [] [] [] where
  numDescriptors := built.numDescriptors
  cells := built.cells
  sent := rfl
  bufs := built.bufs
  pool := nofun
  txIndex := by rw [built.txIndex]; exact (Nat.zero_mod size).symm
  clean := built.cleanIndex.trans (Nat.zero_mod size).symm
  current := nofun
  room := positive

/-- A step that leaves the queue alone. -/
theorem kept (cursors : TxCursors size queueId control queue trace gone pending)
    (sent : sentOn queueId events = [])
    (clean : control'.cleanIndex queueId queue = control.cleanIndex queueId queue)
    (current : ∀ curIndex cleanIndex, control' = .recycling queueId curIndex cleanIndex →
      curIndex = queue.txIndex) :
    TxCursors size queueId control' queue (trace ++ events) gone pending :=
  { cursors with
    sent := by rw [sentOn_append, sent, List.append_nil, cursors.sent]
    clean := clean.trans cursors.clean
    current }

/-- Room is room for a counter. -/
theorem pending_ne (cursors : TxCursors size queueId .idle queue trace gone pending)
    (power : size.isPowerOfTwo) (bound : size < usizeModulus)
    (room : queue.canSend profile = .ok true) : pending.length ≠
      size - 1 := by
  have positive := Ring.pos_of_isPowerOfTwo power
  have below := cursors.room
  have clean : queue.cleanIndex = gone.length % size := cursors.clean
  have shape : TxShape size queue := ⟨cursors.numDescriptors, cursors.cells,
    by rw [cursors.txIndex]; exact Nat.mod_lt _ positive, by
      rw [clean]; exact Nat.mod_lt _ positive⟩
  rw [shape.canSend_eq power bound, cursors.txIndex, clean,
    Ring.distance_mod (Nat.le_add_right _ _) (by omega), Nat.add_sub_cancel_left] at room
  exact of_decide_eq_true (Except.ok.inj room)

theorem send (cursors : TxCursors size queueId .idle queue trace gone pending)
    (power : size.isPowerOfTwo) (bound : size < usizeModulus) {packet : Packet} {txIndex : Nat}
    {desc : AdvancedTxDescriptor} (room : queue.canSend profile = .ok true)
    (wraps : wrapRing profile queue.txIndex queue.numDescriptors = .ok txIndex) :
    TxCursors size queueId (.ringing queueId) (queue.afterSend packet txIndex desc)
      (trace ++ [.sent queueId packet]) gone (pending ++ [packet]) := by
  have positive := Ring.pos_of_isPowerOfTwo power
  have space := cursors.pending_ne power bound room
  have below := cursors.room
  have inside : queue.txIndex < queue.numDescriptors := by
    rw [cursors.txIndex, cursors.numDescriptors]
    exact Nat.mod_lt _ positive
  have next : txIndex = (gone.length + (pending.length + 1)) % size := by
    rw [wrapRing_ok (by rwa [cursors.numDescriptors])
      (by rwa [cursors.numDescriptors]) inside wraps,
      cursors.txIndex, cursors.numDescriptors, Ring.succ_mod]
    rfl
  exact {
    numDescriptors := cursors.numDescriptors
    cells := List.length_set.trans cursors.cells
    sent := by
      rw [sentOn_append, cursors.sent, List.append_assoc, sentOn_sent]
    bufs := by simp only [IgbTxQueue.afterSend, cursors.bufs, List.map_append,
      List.map_cons, List.map_nil]
    pool := by
      intro last found
      rw [← List.append_assoc, List.getLast?_concat] at found
      cases found
      rfl
    txIndex := by rw [List.length_append]; exact next
    clean := cursors.clean
    current := nofun
    room := by rw [List.length_append]; change pending.length + 1 < size; omega }

section Round

variable {curIndex cleanIndex last next : Nat} {desc : AdvancedTxDescriptor} {count : Int}

/-- A round that finds a batch done finds one in flight. -/
theorem sees (cursors : TxCursors size queueId control queue trace gone pending)
    (power : size.isPowerOfTwo) (small : 16 * size < 4294967296)
    (recycling : control = .recycling queueId curIndex cleanIndex)
    (sees : RoundSees profile queue curIndex cleanIndex last next desc count) :
    txCleanBatch ≤ pending.length ∧ next = (gone.length + txCleanBatch) % size := by
  have room := cursors.room
  have clean := cursors.clean
  rw [recycling, Control.cleanIndex, if_pos rfl] at clean
  rw [cursors.current _ _ recycling, cursors.txIndex, clean] at sees
  obtain ⟨enough, _, next_eq⟩ :=
    sees.batch power small cursors.numDescriptors (Nat.le_add_right _ _) (by omega)
  exact ⟨by omega, next_eq⟩

theorem release (cursors : TxCursors size queueId control queue trace gone pending)
    (power : size.isPowerOfTwo) (small : 16 * size < 4294967296) {ref : PoolRef}
    (recycling : control = .recycling queueId curIndex cleanIndex)
    (sees : RoundSees profile queue curIndex cleanIndex last next desc count) :
    TxCursors size queueId (.recycling queueId curIndex next) queue.afterBatch
      (trace ++ [.released queueId ref queue.batch])
      (gone ++ pending.take txCleanBatch) (pending.drop txCleanBatch) := by
  obtain ⟨enough, next_eq⟩ := cursors.sees power small recycling sees
  have room := cursors.room
  have longer : (gone ++ pending.take txCleanBatch).length = gone.length + txCleanBatch := by
    rw [List.length_append, List.length_take, Nat.min_eq_left enough]
  exact {
    numDescriptors := cursors.numDescriptors
    cells := cursors.cells
    sent := by
      rw [sentOn_append, cursors.sent, List.append_assoc gone (pending.take _),
        List.take_append_drop]
      exact List.append_nil _
    bufs := by rw [queue.bufsInUse_afterBatch, cursors.bufs, List.map_drop]
    pool := by
      rw [List.append_assoc, List.take_append_drop]
      exact cursors.pool
    txIndex := by
      rw [longer, List.length_drop]
      exact cursors.txIndex.trans (congrArg (· % size) (by omega))
    clean := by
      rw [Control.cleanIndex, if_pos rfl, longer]
      exact next_eq
    current := by
      intro _ _ same
      cases same
      exact cursors.current _ _ recycling
    room := by rw [List.length_drop]; omega }

/-- A batch in flight was sent, so the queue remembers a pool. -/
theorem pool_of_sees (cursors : TxCursors size queueId control queue trace gone pending)
    (power : size.isPowerOfTwo) (small : 16 * size < 4294967296)
    (recycling : control = .recycling queueId curIndex cleanIndex)
    (sees : RoundSees profile queue curIndex cleanIndex last next desc count) :
    queue.pool ≠ none := by
  obtain ⟨enough, _⟩ := cursors.sees power small recycling sees
  have some_sent : gone ++ pending ≠ [] := by
    intro empty
    have lengths := congrArg List.length empty
    rw [List.length_append, List.length_nil] at lengths
    unfold txCleanBatch at enough
    omega
  rw [cursors.pool _ (List.getLast?_eq_getLast_of_ne_nil some_sent)]
  nofun

end Round

/-- A step on another queue, or on none, leaves the cursors alone. -/
theorem elsewhere (cursors : TxCursors size queueId system.control queue trace gone pending)
    (step : Step profile system action events after)
    (elsewhere : action.txTarget system.control ≠ some queueId) :
    TxCursors size queueId after.control queue (trace ++ events) gone pending := by
  have phase := step.txPhase_elsewhere elsewhere
  apply cursors.kept (step.txSilent_elsewhere elsewhere).sent (Control.cleanIndex_congr queue phase)
  intro curIndex cleanIndex running
  rw [running, Control.txPhase_recycling] at phase
  exact cursors.current _ _ (Control.eq_recycling phase.symm)

theorem step (power : size.isPowerOfTwo) (small : 16 * size < 4294967296)
    (step : Step profile system action events after) (found : system.txQueue? queueId = some queue)
    (cursors : TxCursors size queueId system.control queue trace gone pending) :
    ∃ queue' gone' pending', after.txQueue? queueId = some queue' ∧
      TxCursors size queueId after.control queue' (trace ++ events) gone' pending' := by
  have bound : size < usizeModulus := by simp only [usizeModulus]; omega
  by_cases own : action.txTarget system.control = some queueId
  · cases step with
    | report _ reports =>
        have silent : TxSilent queueId events := .of_reports reports
        exact ⟨queue, gone, pending, found, cursors.kept silent.sent rfl cursors.current⟩
    | reject => exact ⟨queue, gone, pending, found, cursors.kept rfl rfl cursors.current⟩
    | ring control =>
        refine ⟨queue, gone, pending, found, cursors.kept rfl (by rw [control]; rfl) ?_⟩
        intro _ _ running
        cases running
    | @send target position txIndex packet other desc idle owned here room wraps cell =>
        obtain rfl : target = queueId := Option.some.inj own
        obtain rfl : other = queue := Option.some.inj (here.symm.trans found)
        rw [idle] at cursors
        exact ⟨_, gone, _, System.txQueue?_set found, cursors.send power bound room wraps⟩
    | @recycle target other idle here =>
        obtain rfl : target = queueId := Option.some.inj own
        obtain rfl : other = queue := Option.some.inj (here.symm.trans found)
        rw [idle] at cursors
        refine ⟨other, gone, pending, found, cursors.kept rfl (if_pos rfl) ?_⟩
        intro _ _ same
        cases same
        rfl
    | @round target curIndex cleanIndex last next other desc count control here sees none_pool =>
        rw [Action.txTarget, control] at own
        obtain rfl : target = queueId := Option.some.inj own
        obtain rfl : other = queue := Option.some.inj (here.symm.trans found)
        exact absurd none_pool (cursors.pool_of_sees power small control sees)
    | @release target curIndex cleanIndex last next other desc count ref control here sees pool =>
        rw [Action.txTarget, control] at own
        obtain rfl : target = queueId := Option.some.inj own
        obtain rfl : other = queue := Option.some.inj (here.symm.trans found)
        exact ⟨_, _, _, System.txQueue?_set found, cursors.release power small control sees⟩
    | @commit target curIndex cleanIndex other control here =>
        rw [Action.txTarget, control] at own
        obtain rfl : target = queueId := Option.some.inj own
        obtain rfl : other = queue := Option.some.inj (here.symm.trans found)
        have clean := cursors.clean
        rw [control, Control.cleanIndex, if_pos rfl] at clean
        refine ⟨_, gone, pending, System.txQueue?_set found,
          { cursors with sent := ?_, clean := clean, current := ?_ }⟩
        · rw [sentOn_append, cursors.sent]
          exact List.append_nil _
        · intro _ _ running
          cases running
    | @txDone target index other desc here cell =>
        obtain rfl : target = queueId := Option.some.inj own
        obtain rfl : other = queue := Option.some.inj (here.symm.trans found)
        refine ⟨_, gone, pending, System.txQueue?_set found, { cursors with
          cells := List.length_set.trans cursors.cells, sent := ?_, clean := ?_ }⟩
        · rw [sentOn_append, cursors.sent]
          exact List.append_nil _
        · exact cursors.clean
    | take control | halt control | rearm control | publish control | finish control =>
        rw [Action.txTarget, control] at own
        cases own
    | allocate | construct | drop | cloneHandle | dropHandle | receive | rxStore => cases own
  · exact ⟨queue, gone, pending, (step.txQueue?_elsewhere own).trans found,
      cursors.elsewhere step own⟩

end TxCursors

/-- The last `count` packets that a queue accepted. -/
def lastSent (queueId count : Nat) (trace : List Event) : List Packet :=
  (sentOn queueId trace).drop ((sentOn queueId trace).length - count)

def IgbTxQueue.withCells (queue : IgbTxQueue) (cells : List AdvancedTxDescriptor) : IgbTxQueue :=
  { queue with descriptors := { queue.descriptors with cells } }

section Call

variable {σ : Type} {host : Host σ} {machine : Machine σ} {size queueId k : Nat}
  {queue : IgbTxQueue} {ref : PoolRef}

theorem recycleTxBuffers_exact (power : size.isPowerOfTwo) (small : size < 2147483648)
    (found : machine.dev.txQueues[queueId]? = some queue)
    (flight : InFlight size queue.cleanIndex queue ref)
    (largest : IsGreatest {k | queue.Recyclable size queue.cleanIndex k} k) {fuel : Nat}
    (rounds : k < fuel) :
    recycleTxBuffers host fuel queueId machine =
      .ok (.ok (), machine.recycled queueId queue ref size k) := by
  obtain ⟨k', largest', loops⟩ := recycleLoop_exact host power small found flight
  cases largest.unique largest'
  rw [recycleTxBuffers_of_loop found (loops fuel rounds) (drained_queue found _)]
  simp only [Machine.drained, Machine.recycled, Machine.setTxQueue, List.set_set]

/-- Only the descriptors in flight matter. -/
theorem IgbTxQueue.recyclable_withCells {cells : List AdvancedTxDescriptor} {cleanIndex : Nat}
    (clean : cleanIndex < size)
    (agree : ∀ slot, Ring.Between size cleanIndex queue.txIndex slot →
      cells[slot]? = queue.descriptors.cells[slot]?) :
    (queue.withCells cells).Recyclable size cleanIndex k ↔ queue.Recyclable size cleanIndex k := by
  have same : ∀ j, 1 ≤ j → txCleanBatch * j ≤ Ring.distance size cleanIndex queue.txIndex →
      cells[(cleanIndex + txCleanBatch * j - 1) % size]? =
        queue.descriptors.cells[(cleanIndex + txCleanBatch * j - 1) % size]? := by
    intro j least inside
    have batch : 1 ≤ txCleanBatch * j := Nat.mul_pos (by decide) least
    have inLap := Ring.distance_lt (show 0 < size by omega) cleanIndex queue.txIndex
    refine agree _ ⟨Nat.mod_lt _ (by omega), ?_⟩
    rw [Nat.add_sub_assoc batch, Ring.distance_slot clean (by omega)]
    omega
  have inside : ∀ j, j ≤ k → txCleanBatch * k ≤ Ring.distance size cleanIndex queue.txIndex →
      txCleanBatch * j ≤ Ring.distance size cleanIndex queue.txIndex :=
    fun j most whole => (Nat.mul_le_mul_left _ most).trans whole
  constructor
  · intro recyclable
    obtain ⟨counted, done⟩ := recyclable
    refine ⟨counted, fun j least most => ?_⟩
    rw [← same j least (inside j most counted)]
    exact done j least most
  · intro recyclable
    obtain ⟨counted, done⟩ := recyclable
    refine ⟨counted, fun j least most => ?_⟩
    rw [show (queue.withCells cells).descriptors.cells = cells from rfl,
      same j least (inside j most counted)]
    exact done j least most

theorem InFlight.withCells {cells : List AdvancedTxDescriptor} {cleanIndex : Nat}
    (flight : InFlight size cleanIndex queue ref)
    (agree : ∀ slot, Ring.Between size cleanIndex queue.txIndex slot →
      cells[slot]? = queue.descriptors.cells[slot]?) :
    InFlight size cleanIndex (queue.withCells cells) ref where
  numDescriptors := flight.numDescriptors
  txIndex := flight.txIndex
  clean := flight.clean
  bufs := flight.bufs
  cells slot between := by
    obtain ⟨desc, cell⟩ := flight.cells slot between
    exact ⟨desc, (agree slot between).trans cell⟩
  pool := flight.pool

/-- After a call nothing more can be recycled. -/
theorem IgbTxQueue.largest_recycled (clean : queue.cleanIndex < size)
    (insideTx : queue.txIndex < size)
    (largest : IsGreatest {k | queue.Recyclable size queue.cleanIndex k} k) :
    IsGreatest {more | queue.Recyclable size ((queue.cleanIndex + txCleanBatch * k) % size) more}
      0 := by
  refine ⟨queue.recyclable_zero, fun more recyclable => ?_⟩
  have all := largest.2 ((queue.recyclable_add clean insideTx largest.1).mpr recyclable)
  omega

theorem recycled_zero (found : machine.dev.txQueues[queueId]? = some queue)
    (clean : queue.cleanIndex < size) : machine.recycled queueId queue ref size 0 = machine := by
  rw [Machine.recycled, Nat.mul_zero, List.drop_zero, List.take_zero, List.append_nil,
    setFree_free, Nat.add_zero, Nat.mod_eq_of_lt clean, setTxQueue_self found]

/-- What `recycle_tx_buffers` is to do: hand back the `k` batches that may be, look at
nothing but descriptors in flight, and have nothing left to do when called again. -/
structure RecyclesExactly (host : Host σ) (size queueId : Nat) (machine : Machine σ)
    (queue : IgbTxQueue) (ref : PoolRef) (k : Nat) : Prop where
  largest : IsGreatest {k | queue.Recyclable size queue.cleanIndex k} k
  returns : ∀ fuel, k < fuel →
    recycleTxBuffers host fuel queueId machine =
      .ok (.ok (), machine.recycled queueId queue ref size k)
  reads : ∀ cells, (∀ slot, Ring.Between size queue.cleanIndex queue.txIndex slot →
      cells[slot]? = queue.descriptors.cells[slot]?) → ∀ fuel, k < fuel →
    recycleTxBuffers host fuel queueId (machine.setTxQueue queueId (queue.withCells cells)) =
      .ok (.ok (), (machine.setTxQueue queueId (queue.withCells cells)).recycled queueId
        (queue.withCells cells) ref size k)
  again : ∀ fuel, 0 < fuel → recycleTxBuffers host fuel queueId
    (machine.recycled queueId queue ref size k) =
    .ok (.ok (), machine.recycled queueId queue ref size k)

theorem exists_recyclesExactly (power : size.isPowerOfTwo) (small : size < 2147483648)
    (found : machine.dev.txQueues[queueId]? = some queue)
    (flight : InFlight size queue.cleanIndex queue ref) :
    ∃ k, RecyclesExactly host size queueId machine queue ref k := by
  have clean := flight.clean
  obtain ⟨k, largest, _⟩ := recycleLoop_exact host power small found flight
  refine ⟨k, largest, fun fuel rounds => recycleTxBuffers_exact power small found flight
    largest rounds, fun cells agree fuel rounds => ?_, fun fuel rounds => ?_⟩
  · have other : (machine.setTxQueue queueId (queue.withCells cells)).dev.txQueues[queueId]? =
        some (queue.withCells cells) := set_of_some found
    refine recycleTxBuffers_exact power small other (flight.withCells agree) ?_ rounds
    refine ⟨(IgbTxQueue.recyclable_withCells clean agree).mpr largest.1, fun other recyclable => ?_⟩
    exact largest.2 ((IgbTxQueue.recyclable_withCells clean agree).mp recyclable)
  · -- The queue the call leaves, seen as one a call starts from.
    have left : (machine.recycled queueId queue ref size k).dev.txQueues[queueId]? = some _ :=
      set_of_some found
    have advanced := flight.advance largest.1.counted
    have rest := IgbTxQueue.largest_recycled clean flight.txIndex largest
    refine (recycleTxBuffers_exact power small left
      ⟨advanced.numDescriptors, advanced.txIndex, advanced.clean, advanced.bufs, advanced.cells,
        advanced.pool⟩
      ⟨IgbTxQueue.recyclable_zero, fun more recyclable =>
        rest.2 ⟨recyclable.counted, recyclable.done⟩⟩ rounds).trans ?_
    rw [recycled_zero left (Nat.mod_lt _ (by omega))]

end Call

section Run

variable {σ : Type} {host : Host σ} {profile : Profile} {qs numRx numTx queueId : Nat}
  {pool ref : PoolRef} {before : Arcs} {system final : System} {policy : Policy}
  {trace : List Event} {queue : IgbTxQueue}

theorem TxCursors.run (least : 2 ≤ qs) (small : 16 * qs < 4294967296)
    (booted : Booted host qs numRx numTx pool before system) (inside : queueId < numTx)
    (run : Run (next profile) policy system trace final) :
    ∃ queue gone pending, final.txQueue? queueId = some queue ∧
      TxCursors qs queueId final.control queue trace gone pending := by
  have power := booted.power (by omega) (by omega)
  obtain ⟨file, booting⟩ := booted.booting
  obtain ⟨queue, found⟩ : ∃ queue, system.txQueue? queueId = some queue :=
    ⟨_, List.getElem?_eq_getElem (by rw [booting.txLength]; exact inside)⟩
  refine run.invariant (fun trace state => ∃ queue gone pending,
    state.txQueue? queueId = some queue ∧
    TxCursors qs queueId state.control queue trace gone pending) ⟨queue, [], [], found, ?_⟩ ?_
  · rw [booted.control]
    exact .initial (booting.txQueues queueId queue found) (by omega)
  · intro trace state action events after known _ stepped
    obtain ⟨queue, gone, pending, found, cursors⟩ := known
    exact cursors.step power small (next_step stepped) found

/-- The effect of a call in every reachable state, whatever the device has done. -/
theorem recycle_exact (least : 2 ≤ qs) (small : 16 * qs < 4294967296)
    (booted : Booted host qs numRx numTx pool before system) (inside : queueId < numTx)
    (run : Run (next host.profile) policy system trace final) (idle : final.control = .idle)
    (found : final.txQueue? queueId = some queue)
    (one : ∀ packet ∈ lastSent queueId (Ring.distance qs queue.cleanIndex queue.txIndex) trace,
      packet.pool = ref) :
    queue.bufsInUse =
        (lastSent queueId (Ring.distance qs queue.cleanIndex queue.txIndex) trace).map
        Packet.poolEntry ∧
      ∃ k, RecyclesExactly (registerFile host.profile) qs queueId final.machine queue ref k := by
  have power := booted.power (by omega) (by omega)
  obtain ⟨other, gone, pending, here, cursors⟩ := TxCursors.run least small booted inside run
  cases here.symm.trans found
  have room := cursors.room
  have clean := cursors.clean
  rw [idle] at clean
  change queue.cleanIndex = _ at clean
  have far : Ring.distance qs queue.cleanIndex queue.txIndex = pending.length := by
    rw [clean, cursors.txIndex, Ring.distance_mod (Nat.le_add_right _ _) (by omega),
      Nat.add_sub_cancel_left]
  have last : lastSent queueId pending.length trace = pending := by
    rw [lastSent, cursors.sent, List.length_append, Nat.add_sub_cancel, List.drop_left]
  rw [far, last] at one ⊢
  refine ⟨cursors.bufs, exists_recyclesExactly power (by omega) found ?_⟩
  refine ⟨cursors.numDescriptors, ?_, ?_, ?_, fun slot between => ?_, fun some_left => ?_⟩
  · rw [cursors.txIndex]
    exact Nat.mod_lt _ (by omega)
  · rw [clean]
    exact Nat.mod_lt _ (by omega)
  · rw [far, cursors.bufs, List.length_map]
  · exact ⟨_, List.getElem?_eq_getElem (by rw [cursors.cells]; exact between.1)⟩
  · have some_pending : pending ≠ [] := by
      intro same
      subst same
      exact some_left cursors.bufs
    have newest := List.getLast?_eq_getLast_of_ne_nil some_pending
    rw [cursors.pool (pending.getLast some_pending) (by rw [List.getLast?_append, newest]; rfl),
      one _ (List.getLast_mem some_pending)]

/-- A batch recycled before, and now 51 packets in flight round the end of the ring, the
first 32 of which are done. -/
theorem recycle_exact_wrapped : ∃ (final : System) (queue : IgbTxQueue),
    final.txQueue? 0 = some queue ∧
    queue.cleanIndex = 32 ∧ queue.txIndex = 19 ∧
    RecyclesExactly (registerFile .dev) 64 0 final.machine queue 0 1 := by
  obtain ⟨system, trace, final, booted, _, _, run, accepted⟩ := exists_replayPlatform .dev
    (fun _ _ => True) 64 0 1 90
      (sendActions 0 0 33 ++ doneActions 0 33 ++ [.recycle 0, .resume, .resume] ++
      sendActions 0 0 50 ++ (List.range 31).map fun index => .txDone 0 (33 + index))
    (fun trace final => decide (final.control = .idle) &&
      (lastSent 0 51 trace).all (fun packet => packet.pool == 0) &&
      (final.txQueue? 0).any fun (queue : IgbTxQueue) => queue.cleanIndex == 32 &&
        queue.txIndex == 19 && queue.descriptors.cells[63]?.any (·.done))
    (by decide +kernel)
  simp only [Bool.and_eq_true, decide_eq_true_eq, Option.any_eq_true, List.all_eq_true,
    beq_iff_eq] at accepted
  obtain ⟨⟨idle, one⟩, queue, found, ⟨clean, index⟩, desc, cell, done⟩ := accepted
  have far : Ring.distance 64 queue.cleanIndex queue.txIndex = 51 := by rw [clean, index]; rfl
  obtain ⟨_, k, exactly⟩ :=
    recycle_exact (by decide) (by decide) booted Nat.zero_lt_one run idle found
    (by rw [far]; exact one)
  have first : queue.Recyclable 64 queue.cleanIndex 1 :=
    (queue.recyclable_one (by rw [far]; decide)).mpr ⟨desc, by rw [clean]; exact cell, done⟩
  have most := exactly.largest.1.counted
  rw [far, txCleanBatch] at most
  have only : k = 1 := Nat.le_antisymm (by omega) (exactly.largest.2 first)
  exact ⟨final, queue, found, clean, index, only ▸ exactly⟩

end Run

end IgbDriver
