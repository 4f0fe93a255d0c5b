import IgbDriver.Card

namespace IgbDriver

open Foundation

/-! # What `can_receive` and `can_send` tell

Between calls `can_receive` says whether a frame arrived that was not handed over yet, and
`can_send` whether less than a full ring of accepted packets was not released yet. Both
only get better until the caller acts on them.
-/

section Ring

variable {profile : Profile} {size queueId : Nat} {trace : List Event}

/-- With no call running the descriptor at the cursor is done exactly if a frame waits. -/
theorem RxRing.canRecv_eq {view : RxView} (ring : RxRing size queueId view trace)
    (positive : 0 < size) (quiet : view.phase = .quiet) : view.queue.canRecv =
      .ok (decide ((deliveredOn queueId trace).length < (storedOn queueId trace).length)) := by
  have noCall : view.inCall = 0 := by rw [RxView.inCall, quiet]
  have allArmed : view.unarmed = 0 := by rw [RxView.unarmed, quiet]
  have cursor := ring.rxIndex
  have ordered := ring.ordered
  rw [noCall, Nat.sub_zero] at cursor
  obtain ⟨desc, cell⟩ : ∃ desc,
      view.queue.descriptors.cells[(deliveredOn queueId trace).length % size]? = some desc :=
    ⟨_, List.getElem?_eq_getElem (by rw [ring.cells]; exact Nat.mod_lt _ positive)⟩
  rw [IgbRxQueue.canRecv, cursor, indexSlice_of_some cell, except_ok_bind]
  by_cases waits : (deliveredOn queueId trace).length < (storedOn queueId trace).length
  · obtain ⟨_, _, done, _⟩ := Ring.Window.cell_of ring.holding (Nat.le_refl _) waits cell
    rw [done, decide_eq_true waits]
  · have same : (deliveredOn queueId trace).length = (storedOn queueId trace).length := by omega
    have armed := ring.armed
    rw [allArmed, ← same] at armed
    obtain ⟨clear, _⟩ := Ring.Window.cell_of armed (Nat.le_refl _) (by omega) cell
    rw [clear, decide_eq_false waits]

theorem TxRing.canSend_eq {view : TxView} {gone pending : List Packet}
    (ring : TxRing size queueId view trace gone pending) (power : size.isPowerOfTwo)
    (bound : size < usizeModulus) (quiet : view.phase = .quiet) : view.queue.canSend profile =
      .ok (decide ((sentOn queueId trace).length <
        (releasedOn queueId trace).length + (size - 1))) := by
  have room := ring.room
  have sent := congrArg List.length ring.fifo.sent
  have released := congrArg List.length ring.fifo.released
  rw [List.length_append] at sent
  rw [List.length_map] at released
  rw [ring.canSend_iff profile power bound quiet, released]
  exact congrArg Except.ok (decide_eq_decide.mpr (by omega))

end Ring

/-- The answer for a queue that may not be there. -/
def answered (inside : Prop) [Decidable inside] (answer : Bool) : Except IgbError Bool :=
  if inside then .ok answer else .error .invalidQueue

section Result

variable {σ : Type} {host : Host σ} {translate : Nat → Nat} {qs numRx numTx : Nat} {pool : PoolRef}
  {before : Arcs} {system after final : System} {trace more : List Event}

namespace Deployment

variable (deployed : Deployment host translate qs numRx numTx pool before system)
  (run : Run (next host.profile) (Orderly pool) system trace after) (idle : after.control = .idle)
include deployed run idle

theorem canReceive_eq (queueId : Nat) : canReceive queueId after.machine =
    .ok (answered (queueId < numRx)
      (decide ((deliveredOn queueId trace).length < (storedOn queueId trace).length)),
      after.machine) := by
  obtain ⟨file, booting⟩ := deployed.booted.booting
  rw [canReceive, Prog.bind_read_apply, answered]
  by_cases inside : queueId < numRx
  · obtain ⟨view, seen, ring⟩ := (deployed.custody run).receive queueId inside
    obtain ⟨queue, found, rfl⟩ := Option.map_eq_some_iff.mp seen
    have quiet : (after.control.rxPhase queueId) = .quiet := by rw [idle]; rfl
    have positive : 0 < qs := Nat.lt_of_lt_of_le Nat.zero_lt_two deployed.least
    have asked := ring.canRecv_eq positive quiet
    rw [show after.machine.dev.rxQueues[queueId]? = some queue from found, if_pos inside]
    simp only [show queue.canRecv = _ from asked]
    rfl
  · have absent : after.machine.dev.rxQueues[queueId]? = none := by
      rw [List.getElem?_eq_none_iff, (lengths_run run).1, booting.rxLength]
      exact Nat.not_lt.mp inside
    rw [absent, if_neg inside]
    rfl

theorem canSend_eq (queueId : Nat) : canSend (registerFile host.profile) queueId after.machine =
    .ok (answered (queueId < numTx)
      (decide ((sentOn queueId trace).length < (releasedOn queueId trace).length + (qs - 1))),
      after.machine) := by
  obtain ⟨file, booting⟩ := deployed.booted.booting
  rw [canSend, Prog.bind_read_apply, answered]
  by_cases inside : queueId < numTx
  · obtain ⟨view, gone, pending, known, _⟩ := (deployed.custody run).transmit queueId inside
    obtain ⟨queue, found, rfl⟩ := Option.map_eq_some_iff.mp known.seen
    have quiet : (after.control.txPhase queueId) = .quiet := by rw [idle]; rfl
    have asked : queue.canSend host.profile = _ :=
      known.ring.canSend_eq (deployed.power_of (by omega)) deployed.narrow quiet
    rw [show after.machine.dev.txQueues[queueId]? = some queue from found, if_pos inside]
    simp only [show (registerFile host.profile).profile = host.profile from rfl, asked]
    rfl
  · have absent : after.machine.dev.txQueues[queueId]? = none := by
      rw [List.getElem?_eq_none_iff, (lengths_run run).2, booting.txLength]
      exact Nat.not_lt.mp inside
    rw [absent, if_neg inside]
    rfl

end Deployment

theorem answered_mono {inside : Prop} [Decidable inside] {before after : Bool}
    (better : before = true → after = true)
    (yes : answered inside before = .ok true) : answered inside after = .ok true := by
  unfold answered at yes ⊢
  split at yes
  · rename_i here
    rw [if_pos here, better (Except.ok.inj yes)]
  · cases yes

/-- Between calls both answers are exact; and what was once answered yes stays so, whatever
the device and the caller do, until a frame of that queue is handed over or a packet is
accepted on it. -/
theorem readiness_lasts (deployed : Deployment host translate qs numRx numTx pool before system)
    (run : Run (next host.profile) (Orderly pool) system trace after) (idle : after.control = .idle)
    (later : Run (next host.profile) (Orderly pool) after more final)
    (quiet : final.control = .idle) (queueId : Nat) :
    (canReceive queueId after.machine = .ok (answered (queueId < numRx)
        (decide ((deliveredOn queueId trace).length < (storedOn queueId trace).length)),
        after.machine) ∧
      canSend (registerFile host.profile) queueId after.machine = .ok (answered (queueId < numTx)
        (decide ((sentOn queueId trace).length < (releasedOn queueId trace).length + (qs - 1))),
        after.machine)) ∧
    (canReceive queueId after.machine = .ok (.ok true, after.machine) →
      deliveredOn queueId more = [] →
      canReceive queueId final.machine = .ok (.ok true, final.machine)) ∧
    (canSend (registerFile host.profile) queueId after.machine = .ok (.ok true, after.machine) →
      sentOn queueId more = [] →
      canSend (registerFile host.profile) queueId final.machine =
        .ok (.ok true, final.machine)) := by
  have receives := deployed.canReceive_eq run idle queueId
  have sends := deployed.canSend_eq run idle queueId
  refine ⟨⟨receives, sends⟩, fun ready untouched => ?_, fun ready untouched => ?_⟩
  · rw [deployed.canReceive_eq (run.trans later) quiet queueId]
    have yes := congrArg Prod.fst (Except.ok.inj (receives.symm.trans ready))
    rw [answered_mono _ yes]
    simp only [deliveredOn_append, storedOn_append, untouched, List.length_append, List.length_nil,
      decide_eq_true_eq]
    omega
  · rw [deployed.canSend_eq (run.trans later) quiet queueId]
    have yes := congrArg Prod.fst (Except.ok.inj (sends.symm.trans ready))
    rw [answered_mono _ yes]
    simp only [sentOn_append, releasedOn_append, untouched, List.length_append, List.length_nil,
      decide_eq_true_eq]
    omega

/-- A frame arrived; it still waits after a packet was sent. -/
theorem readiness_lasts_waiting : ∃ final : System, canReceive 0 final.machine =
    .ok (.ok true, final.machine) := by
  obtain ⟨start, trace, after, deployed, run, accepted⟩ :=
    exists_replayOnePool .dev (Orderly 0) 4 1 1 12
    [.pool (.alloc 0 64), .rxStore 0 0 (frameWriteBack 60)]
    (fun after => decide (after.control = .idle) && Prog.returnsWith id
      (canReceive 0 after.machine) &&
      (replay (next .dev) (Orderly 0) [.send 0 0, .resume] after).any
        fun (result : List Event × System) =>
        decide (result.2.control = .idle) && decide (deliveredOn 0 result.1 = []))
    (by decide) (by decide) (by decide) (by decide) (by decide +kernel)
  simp only [Bool.and_eq_true, decide_eq_true_eq, Option.any_eq_true] at accepted
  obtain ⟨⟨idle, asked⟩, ⟨more, final⟩, replayed, quiet, untouched⟩ := accepted
  obtain ⟨_, machine, told, yes⟩ := Prog.exists_of_returnsWith asked
  have same : canReceive 0 after.machine = .ok (.ok true, after.machine) := by
    have answer := deployed.canReceive_eq run idle 0
    rw [told] at answer
    cases answer
    rw [told, show decide _ = true from yes]
  have lasts := readiness_lasts deployed run idle (run_of_replay replayed) quiet 0
  exact ⟨final, lasts.2.1 same untouched⟩

end Result

end IgbDriver
