import IgbDriver.Platform

namespace IgbDriver

open Foundation

/-! # Runs of a receive queue

From the state `init` leaves, under a device that takes each receive ring in order.
-/

namespace RxView

/-- The descriptor the next frame is delivered from. -/
def nextIndex (view : RxView) : Nat :=
  match view.phase with
  | .quiet => view.queue.rxIndex
  | .receiving rxIndex _ _ | .publishing rxIndex _ _ => rxIndex
  | .delivering rxIndex _ _ => (rxIndex + 1) % view.queue.numDescriptors

/-- The callback holds the frame of this descriptor. -/
def Delivering (view : RxView) (slot : Nat) : Prop :=
  match view.phase with
  | .delivering rxIndex _ _ => rxIndex = slot
  | _ => False

end RxView

/-- What has become of the frames stored on a queue. -/
structure RxAccount (size queueId : Nat) (view : RxView) (trace : List Event) : Prop where
  delivered : (deliveredOn queueId trace).map Packet.frame <+: storedOn queueId trace
  located : ∀ packet ∈ deliveredOn queueId trace, packet.pool = view.queue.pool ∧
    view.layout.getPhysAddr packet.poolEntry = .ok packet.addrPhys
  waiting : (storedOn queueId trace).length =
    (deliveredOn queueId trace).length + Ring.distance size view.nextIndex view.head.toNat
  holding : ∀ (k : Nat) frame,
    (storedOn queueId trace)[(deliveredOn queueId trace).length + k]? = some frame →
    ∃ desc, view.queue.descriptors.cells[(view.nextIndex + k) % size]? = some desc ∧
      RxHolds view.layout view.queue.bufsInUse ((view.nextIndex + k) % size) frame desc
  done : ∀ (slot : Nat) desc, view.queue.descriptors.cells[slot]? = some desc →
    ¬ view.Delivering slot →
    (desc.done = true ↔ Ring.Between size view.nextIndex view.head.toNat slot)

namespace RxRing

variable {size queueId : Nat} {view : RxView} {trace : List Event}

theorem nextIndex_eq (ring : RxRing size queueId view trace) :
    view.nextIndex = (deliveredOn queueId trace).length % size := by
  have positioned := ring.positioned
  have taken := ring.inCall
  have index := ring.rxIndex
  have descriptors := ring.numDescriptors
  unfold RxView.Positioned at positioned
  unfold RxView.inCall at taken index
  simp only [RxView.nextIndex]
  cases phase : view.phase with
  | quiet =>
      rw [phase] at index
      exact index
  | receiving rxIndex lastRxIndex recvNums | publishing rxIndex lastRxIndex recvNums =>
      rw [phase] at positioned
      exact positioned.1
  | delivering rxIndex lastRxIndex recvNums =>
      rw [phase] at positioned taken
      simp only at positioned taken ⊢
      rw [positioned, descriptors, Ring.succ_mod, Nat.sub_add_cancel (by omega)]

theorem head_toNat (ring : RxRing size queueId view trace) (positive : 0 < size) :
    view.head.toNat = (storedOn queueId trace).length % size := by
  have below := Nat.mod_lt (storedOn queueId trace).length positive
  rw [ring.head, BitVec.toNat_ofNat]
  by_cases small : 16 * size < 4294967296
  · exact Nat.mod_eq_of_lt (by omega)
  · rw [ring.stalled (by omega), Nat.zero_mod, Nat.zero_mod]

theorem delivering_of_unarmed (ring : RxRing size queueId view trace) (unarmed : view.unarmed ≠ 0) :
    view.unarmed = 1 ∧ view.Delivering (((deliveredOn queueId trace).length - 1) % size) := by
  have positioned := ring.positioned
  simp only [RxView.unarmed] at unarmed ⊢
  unfold RxView.Positioned at positioned
  simp only [RxView.Delivering]
  cases phase : view.phase with
  | quiet | receiving | publishing => rw [phase] at unarmed; exact absurd rfl unarmed
  | delivering rxIndex lastRxIndex recvNums =>
      rw [phase] at positioned
      exact ⟨rfl, positioned⟩

theorem done_iff (ring : RxRing size queueId view trace) (positive : 0 < size) {slot : Nat}
    {desc : AdvancedRxDescriptor} (cell : view.queue.descriptors.cells[slot]? = some desc)
    (settled : ¬ view.Delivering slot) :
    desc.done = true ↔ Ring.Between size view.nextIndex view.head.toNat slot := by
  have ordered := ring.ordered
  have reached := ring.reached
  have taken := ring.inCall
  have few := view.unarmed_le
  have inside : slot < size := by
    rw [← ring.cells]
    exact (List.getElem?_eq_some_iff.mp cell).1
  obtain ⟨counter, lower, upper, rfl⟩ :=
    Ring.exists_counter_of_slot (deliveredOn queueId trace).length inside
  rw [ring.nextIndex_eq, ring.head_toNat positive]
  by_cases stored : counter < (storedOn queueId trace).length
  · obtain ⟨_, _, done, _⟩ := ring.holding.cell_of lower stored cell
    exact ⟨fun _ => Ring.between_of_counter lower stored (by omega), fun _ => done⟩
  · -- Past the stored frames the descriptor is armed, or it is the callback's.
    have armed : counter < (deliveredOn queueId trace).length - view.unarmed + size := by
      by_contra beyond
      obtain ⟨one, delivering⟩ := ring.delivering_of_unarmed (by omega)
      have last : counter = (deliveredOn queueId trace).length - 1 + size := by omega
      rw [last, Nat.add_mod_right] at settled
      exact settled delivering
    obtain ⟨clear, _⟩ := ring.armed.cell_of (by omega) armed cell
    rw [clear]
    refine ⟨nofun, fun between => ?_⟩
    obtain ⟨other, from_, before, same⟩ :=
      Ring.exists_counter_of_between ordered (by omega) between
    exact absurd same (Ring.mod_ne (deliveredOn queueId trace).length from_ (by omega) lower upper
      (by omega))

theorem account (ring : RxRing size queueId view trace) (positive : 0 < size) :
    RxAccount size queueId view trace where
  delivered := ring.delivered
  located := ring.located
  waiting := by
    have ordered := ring.ordered
    have reached := ring.reached
    rw [ring.nextIndex_eq, ring.head_toNat positive, Ring.distance_mod ordered (by omega)]
    omega
  holding := by
    intro k frame stored
    have upper := (List.getElem?_eq_some_iff.mp stored).1
    obtain ⟨desc, cell, other, known, holds⟩ :=
      ring.holding ((deliveredOn queueId trace).length + k) (Nat.le_add_right _ _) upper
    rw [stored] at known
    cases known
    rw [ring.nextIndex_eq, Nat.mod_add_mod]
    exact ⟨desc, cell, holds⟩
  done := fun _ _ cell settled => ring.done_iff positive cell settled

end RxRing

section Run

variable {σ : Type} {host : Host σ} {qs numRx numTx queueId : Nat} {pool : PoolRef}
  {before : Arcs} {system after : System} {trace : List Event}

theorem RxRing.run {policy : Policy} (power : qs.isPowerOfTwo) (least : 2 ≤ qs)
    (bound : qs < usizeModulus) (law : ∀ reg, RingRegister reg → host.Holds reg)
    (booted : Booted host qs numRx numTx pool before system) (inside : queueId < numRx)
    (low : queueId < 128)
    (ordered : ∀ state action, policy state action → RxInOrder state action)
    (run : Run (next host.profile) policy system trace after) :
    ∃ view, after.rxView queueId = some view ∧ RxRing qs queueId view trace := by
  refine run.invariant
    (fun trace state => ∃ view, state.rxView queueId = some view ∧ RxRing qs queueId view trace)
    (booted.rxRing law (by omega) inside low) ?_
  intro trace state action events after known permitted stepped
  obtain ⟨view, seen, ring⟩ := known
  have inOrder := ordered _ _ permitted
  obtain ⟨view', seen', local_⟩ := (next_step stepped).rxView .inOrder seen low (by
    rintro index writeBack rfl
    obtain ⟨queue, found, rfl⟩ := Option.map_eq_some_iff.mp seen
    exact inOrder)
  exact ⟨view', seen', ring.step power bound least local_⟩

/-- Every frame is delivered once, in the order the device stored them, and those not
yet delivered wait in the ring. -/
theorem frames_delivered_in_order (power : qs.isPowerOfTwo) (least : 2 ≤ qs)
    (bound : qs < usizeModulus) (few : numRx ≤ maxQueues)
    (law : ∀ reg, RingRegister reg → host.Holds reg)
    (booted : Booted host qs numRx numTx pool before system) (inside : queueId < numRx)
    (run : Run (next host.profile) RxInOrder system trace after) :
    ∃ view, after.rxView queueId = some view ∧ RxAccount qs queueId view trace := by
  obtain ⟨view, seen, ring⟩ := RxRing.run power least bound law booted inside
    (by unfold maxQueues at few; omega) (fun _ _ => id) run
  exact ⟨view, seen, ring.account (by omega)⟩

/-- Two frames stored, one of them delivered while the second arrives. -/
theorem frames_delivered_in_order_pair :
    ∃ (trace : List Event) (after : System) (view : RxView), after.rxView 0 = some view ∧
      (storedOn 0 trace).length = 2 ∧ (deliveredOn 0 trace).length = 1 ∧
      (deliveredOn 0 trace).map Packet.frame <+: storedOn 0 trace ∧
      Ring.distance 4 view.nextIndex view.head.toNat = 1 := by
  obtain ⟨system, trace, after, booted, _, _, run, accepted⟩ := exists_replayPlatform .dev
    RxInOrder 4 1 1 12
    [.rxStore 0 0 (frameWriteBack 60), .receive 0 8, .resume, .rxStore 0 1 (frameWriteBack 1500),
      .resume]
    (fun trace _ => (storedOn 0 trace).length == 2 && (deliveredOn 0 trace).length == 1)
    (by decide +kernel)
  obtain ⟨view, seen, account⟩ := frames_delivered_in_order ⟨2, rfl⟩ (by decide) (by decide)
    (by decide) (platform_holds .dev) booted Nat.zero_lt_one run
  rw [Bool.and_eq_true] at accepted
  have stored := eq_of_beq accepted.1
  have delivered := eq_of_beq accepted.2
  have waiting := account.waiting
  rw [stored, delivered, Nat.add_comm] at waiting
  exact ⟨trace, after, view, seen, stored, delivered, account.delivered,
    (Nat.succ.inj waiting).symm⟩

end Run

end IgbDriver
