import IgbDriver.Aborts
import Mathlib.Algebra.Order.BigOperators.Group.List
import Mathlib.Algebra.Group.Action.Defs

namespace IgbDriver

open Foundation

/-! # How large a pool has to be

Every entry of the pool is free, in a receive ring, in flight or with the caller. The
receive rings are always full, so what is left for the caller and for frames that wait
is known exactly in every state.
-/

namespace System

/-- The entries in transmit queues. -/
def inFlight (system : System) : Nat :=
  (system.machine.dev.txQueues.map fun queue => queue.bufsInUse.length).sum

/-- The entries in packets of the caller. -/
def held (system : System) (pool : PoolRef) : Nat :=
  (system.live.filter fun packet => packet.pool = pool).length

/-- The entries that are not free, with `qs` in each of `numRx` receive rings. -/
def used (system : System) (pool : PoolRef) (qs numRx : Nat) : Nat :=
  numRx * qs + system.inFlight + system.held pool

end System

section Counts

variable {α : Type} {entries : α → List Nat} {queues : List α} {count : Nat}

theorem length_flatMap_const (each : ∀ queue ∈ queues, (entries queue).length = count) :
    (queues.flatMap entries).length = queues.length * count := by
  rw [List.length_flatMap, List.sum_eq_card_nsmul _ count, List.length_map, smul_eq_mul]
  intro length member
  obtain ⟨queue, queued, rfl⟩ := List.mem_map.mp member
  exact each queue queued

theorem length_flatMap_le (each : ∀ queue ∈ queues, (entries queue).length ≤ count) :
    (queues.flatMap entries).length ≤ queues.length * count := by
  rw [List.length_flatMap]
  have bounded := List.sum_le_card_nsmul (queues.map fun queue => (entries queue).length) count (by
    intro length member
    obtain ⟨queue, queued, rfl⟩ := List.mem_map.mp member
    exact each queue queued)
  rwa [List.length_map, smul_eq_mul] at bounded

end Counts

section Run

variable {σ : Type} {host : Host σ} {translate : Nat → Nat} {qs numRx numTx : Nat} {pool : PoolRef}
  {before : Arcs} {system after : System} {trace : List Event}

theorem Custody.heldEntries_perm
    (custody : Custody host translate qs numRx numTx pool trace after) :
    (after.heldEntries pool).Perm (List.range (after.machine.arcs.pool pool).numEntries) := by
  refine List.perm_iff_count.mpr (fun id => ?_)
  rw [custody.uses.count_heldEntries, custody.accounted pool id, count_range_eq]

/-- A transmit ring never holds as many entries as it has descriptors. -/
theorem TxRing.bufs_lt {size queueId : Nat} {view : TxView} {gone pending : List Packet}
    (ring : TxRing size queueId view trace gone pending) : view.queue.bufsInUse.length ≤
      size - 1 := by
  have room := ring.room
  have lengths := ring.sent_length
  rw [ring.fifo.bufs, List.length_map]
  omega

namespace Deployment

variable (deployed : Deployment host translate qs numRx numTx pool before system)
  (run : Run (next host.profile) (Orderly pool) system trace after)
include deployed run

theorem inFlight_le : after.inFlight ≤ numTx * (qs - 1) := by
  obtain ⟨file, booting⟩ := deployed.booted.booting
  have custody := deployed.custody run
  have each : ∀ queue ∈ after.machine.dev.txQueues, queue.bufsInUse.length ≤ qs - 1 := by
    intro queue queued
    obtain ⟨queueId, found⟩ := List.getElem?_of_mem queued
    have inside := custody.transmitters queueId queue found
    obtain ⟨view, gone, pending, known, _⟩ := custody.transmit queueId inside
    obtain ⟨other, here, rfl⟩ := Option.map_eq_some_iff.mp known.seen
    cases here.symm.trans found
    exact known.ring.bufs_lt
  have bounded := length_flatMap_le each
  rw [List.length_flatMap, (lengths_run run).2, booting.txLength] at bounded
  exact bounded

/-- Free entries, full receive rings, packets in flight and packets of the caller make up
the pool. -/
theorem balance : (after.machine.arcs.free pool).length + after.used pool qs numRx =
    (before.pool pool).numEntries := by
  obtain ⟨file, booting⟩ := deployed.booted.booting
  have custody := deployed.custody run
  have positive : 0 < qs := Nat.lt_of_lt_of_le Nat.zero_lt_two deployed.least
  have layout : after.machine.arcs.layout pool = before.layout pool :=
    (layout_run run pool).trans (deployed.layout pool)
  have each : ∀ queue ∈ after.machine.dev.rxQueues, queue.bufsInUse.length = qs := by
    intro queue queued
    obtain ⟨queueId, found⟩ := List.getElem?_of_mem queued
    exact (RxShape.run positive deployed.narrow deployed.booted run found).bufs
  have rings := length_flatMap_const each
  rw [(lengths_run run).1, booting.rxLength] at rings
  have counted := custody.heldEntries_perm.length_eq
  rw [System.heldEntries, List.length_append, List.length_append, List.length_append, rings,
    List.length_map, List.length_flatMap, List.length_range, numEntries_of_layout layout] at counted
  change _ + _ + numRx * qs + _ = _ at counted
  unfold System.used System.inFlight System.held
  omega

/-- An entry is free exactly if not all are used. -/
theorem free_iff : after.machine.arcs.free pool ≠ [] ↔ after.used pool qs numRx <
    (before.pool pool).numEntries := by
  have balance := deployed.balance run
  rw [← List.length_pos_iff]
  omega

end Deployment

/-- A packet is to be had exactly if it fits an entry and one is free. -/
theorem alloc_iff {arcs : Arcs} {ref : PoolRef} (laid : arcs.Laid host.profile translate)
    (allocated : (arcs.pool ref).Allocated host)
    (inside : ∀ id ∈ arcs.free ref, id < (arcs.pool ref).numEntries)
    (size : Nat) : (∃ buf rest, IgbNetBuf.alloc host.profile ref size arcs = .ok (.ok buf, rest)) ↔
      size + packetHeadroom ≤ (arcs.pool ref).entrySize ∧ arcs.free ref ≠ [] := by
  rw [IgbNetBuf.alloc]
  rcases allocPkt_apply laid allocated inside size with ⟨exhausted, none⟩ | ⟨⟨fits, stocked⟩,
    packet, rest, made⟩
  · rw [none]
    constructor
    · rintro ⟨buf, rest, impossible⟩
      cases impossible
    · rintro ⟨fits, stocked⟩
      rcases exhausted with large | empty
      · omega
      · exact absurd empty stocked
  · rw [made]
    exact ⟨fun _ => ⟨fits, stocked⟩, fun _ => ⟨_, _, rfl⟩⟩

/-- A round of the receive loop hands a frame over exactly if one waits there and an entry
is free. -/
theorem delivers_iff {size queueId todo rxIndex lastRxIndex recvNums : Nat} {queue : IgbRxQueue}
    {desc : AdvancedRxDescriptor} (servable : Servable host.profile size after.machine.arcs queue)
    (found : after.rxQueue? queueId = some queue)
    (cell : queue.descriptors.cells[rxIndex]? = some desc)
    (control : after.control = .receiving queueId (todo + 1) rxIndex lastRxIndex recvNums) :
    (∃ packet final, next host.profile after .resume =
      some (.ok ([.delivered queueId packet], final))) ↔
      desc.done = true ∧ after.machine.arcs.free queue.pool ≠ [] := by
  have whole := servable.whole desc (List.mem_of_getElem? cell)
  simp only [next, control, resumeStep, takeFrameStep, System.perform]
  by_cases taken : desc.done = true ∧ after.machine.arcs.free queue.pool ≠ []
  · obtain ⟨done, stocked⟩ := id taken
    obtain ⟨rest, buf, stack⟩ :=
      (List.eq_nil_or_concat (after.machine.arcs.free queue.pool)).resolve_left stocked
    rw [List.concat_eq_append] at stack
    obtain ⟨entry, held⟩ : ∃ entry, queue.bufsInUse[rxIndex]? = some entry := by
      have inside := (List.getElem?_eq_some_iff.mp cell).1
      exact ⟨_, List.getElem?_eq_getElem (by rw [servable.bufs, ← servable.cells]; exact inside)⟩
    obtain ⟨virt, phys, virtually, physically⟩ := servable.located entry (List.mem_of_getElem? held)
    rw [takeFrame_apply found cell done (whole done) stack held virtually physically]
    exact ⟨fun _ => taken, fun _ => ⟨_, _, rfl⟩⟩
  · have stops : desc.done = false ∨ (desc.done = true → desc.endOfPacket = true) ∧
        after.machine.arcs.free queue.pool = [] := by
      cases done : desc.done with
      | false => exact .inl rfl
      | true => exact .inr ⟨fun _ => whole done, Decidable.not_not.mp fun stocked =>
          taken ⟨done, stocked⟩⟩
    rw [takeFrame_stops found cell stops]
    constructor
    · rintro ⟨packet, final, impossible⟩
      cases impossible
    · exact fun both => absurd both taken

/-- In every reachable state what is free is what the rings, the packets in flight and the
caller leave; `alloc` and the receive loop succeed exactly as long as that is something,
and a transmit ring takes at most `qs - 1`. -/
theorem pool_shared (deployed : Deployment host translate qs numRx numTx pool before system)
    (allocated : ∀ ref, (before.pool ref).Allocated host)
    (run : Run (next host.profile) (Orderly pool) system trace after) :
    (after.machine.arcs.free pool).length + after.used pool qs numRx =
      (before.pool pool).numEntries ∧
      after.inFlight ≤ numTx * (qs - 1) ∧
      (∀ size,
        (∃ buf arcs, IgbNetBuf.alloc host.profile pool size after.machine.arcs =
          .ok (.ok buf, arcs)) ↔
        size + packetHeadroom ≤ (before.pool pool).entrySize ∧
          after.used pool qs numRx < (before.pool pool).numEntries) ∧
      ∀ queueId todo rxIndex lastRxIndex recvNums queue desc,
        after.control = .receiving queueId (todo + 1) rxIndex lastRxIndex recvNums →
        after.rxQueue? queueId = some queue → queue.descriptors.cells[rxIndex]? = some desc →
          ((∃ packet final, next host.profile after .resume =
            some (.ok ([.delivered queueId packet], final))) ↔
            desc.done = true ∧ after.used pool qs numRx < (before.pool pool).numEntries) := by
  have custody := deployed.custody run
  have layout : after.machine.arcs.layout pool = before.layout pool :=
    (layout_run run pool).trans (deployed.layout pool)
  refine ⟨deployed.balance run, deployed.inFlight_le run, fun size => ?_, ?_⟩
  · rw [alloc_iff custody.laid ((allocated pool).of_layout layout)
      (fun id free => (custody.accounted pool).free_lt free),
      deployed.free_iff run, entrySize_of_layout layout]
  · intro queueId todo rxIndex lastRxIndex recvNums queue desc control found cell
    have robust := deployed.robust allocated (run.weaken fun _ _ permitted => permitted.2)
    have servable : Servable host.profile qs after.machine.arcs queue :=
      ⟨robust.placed found, deployed.wholeFrames run found⟩
    rw [delivers_iff servable found cell control, custody.uses.receive queue
      (List.mem_of_getElem? found), deployed.free_iff run]

/-- Two rings of four, a packet in flight, one with the caller and a frame waiting in a pool
of eleven entries. -/
theorem pool_shared_full : ∃ final : System, final.used 0 4 2 = 10 ∧
    (∃ buf arcs, IgbNetBuf.alloc .dev 0 1984 final.machine.arcs = .ok (.ok buf, arcs)) ∧
    ∃ packet after, next .dev final .resume = some (.ok ([.delivered 1 packet], after)) := by
  obtain ⟨start, trace, final, deployed, run, accepted⟩ :=
    exists_replayOnePool .dev (Orderly 0) 4 2 1 11
    [.pool (.alloc 0 64), .send 0 0, .resume, .pool (.alloc 0 64), .rxStore 1 0 (frameWriteBack 60),
      .receive 1 3]
    (fun final => decide (final.used 0 4 2 = 10) &&
      decide (final.control = .receiving 1 (2 + 1) 0 0 0) &&
      (final.rxQueue? 1).any fun (queue : IgbRxQueue) =>
        queue.descriptors.cells[0]?.any fun desc => desc.done)
    (by decide) (by decide) (by decide) (by decide) (by decide +kernel)
  simp only [Bool.and_eq_true, Option.any_eq_true, decide_eq_true_eq] at accepted
  obtain ⟨⟨used, control⟩, queue, found, desc, cell, done⟩ := accepted
  obtain ⟨_, _, allocates, delivers⟩ := pool_shared deployed (onePool_allocated (by decide)) run
  have spare : final.used 0 4 2 < ((onePool 11).pool 0).numEntries := by
    rw [used]
    decide
  exact ⟨final, used, (allocates 1984).mpr ⟨by decide, spare⟩,
    (delivers 1 2 0 0 0 queue desc control found cell).mpr ⟨done, spare⟩⟩

end Run

end IgbDriver
