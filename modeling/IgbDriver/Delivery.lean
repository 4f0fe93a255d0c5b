import IgbDriver.Rounds

namespace IgbDriver

open Foundation

/-! # Exactly what `receive_packets` does

A call exchanges the buffers of the ready descriptors, from the cursor on, for the
entries on top of the free stack.
-/

section Round

variable {profile : Profile} {qs queueId k : Nat} {machine : Machine RegisterFile}
  {queue : IgbRxQueue}

/-- Frames the loop can take: the run of ready descriptors, or what the stack holds. -/
def Machine.available (machine : Machine RegisterFile) (qs : Nat) (queue : IgbRxQueue) : Nat :=
  min (queue.readyRun qs) (machine.arcs.free queue.pool).length

/-- The descriptor processed before round `k`. -/
def IgbRxQueue.lastAt (queue : IgbRxQueue) (size k : Nat) : Nat :=
  if k = 0 then queue.rxIndex else (queue.rxIndex + k - 1) % size

/-- The entries that replace the frames `k` up to `limit` are entries of the pool. -/
def Arcs.Refills (arcs : Arcs) (ref : PoolRef) (k limit : Nat) : Prop :=
  ∀ j, k ≤ j → j < limit → arcs.nextFree ref j < (arcs.pool ref).numEntries

instance (arcs : Arcs) (ref : PoolRef) (k limit : Nat) : Decidable (arcs.Refills ref k limit) :=
  decidable_of_iff (∀ j, j < limit → k ≤ j → arcs.nextFree ref j < (arcs.pool ref).numEntries)
    ⟨fun all j lower upper => all j upper lower, fun all j upper lower => all j lower upper⟩

section Loop

variable (power : qs.isPowerOfTwo) (bound : qs < usizeModulus)
  (ready : Deliverable profile qs queueId machine queue)
include power bound ready

theorem receiveLoop_exact {todo : Nat} (started : k ≤ machine.available qs queue)
    (refills : machine.arcs.Refills queue.pool k (min (k + todo) (machine.available qs queue))) :
    receiveLoop (registerFile profile) keepPackets queueId todo ((queue.rxIndex + k) % qs)
        (queue.lastAt qs k) k ((List.range k).map (queue.packetAt qs machine.arcs))
        (machine.afterRounds queueId qs queue k) =
      (let k' := min (k + todo) (machine.available qs queue)
      .ok (.ok ((queue.rxIndex + k') % qs, queue.lastAt qs k', k',
        (List.range k').map (queue.packetAt qs machine.arcs)),
          machine.afterRounds queueId qs queue k')) := by
  induction todo generalizing k with
  | zero =>
      rw [Nat.add_zero, Nat.min_eq_left started]
      rfl
  | succ todo ih =>
      rcases Nat.lt_or_ge k (machine.available qs queue) with waits | stops
      · have wanted : k < min (k + (todo + 1)) (machine.available qs queue) := by omega
        have limit : min (k + 1 + todo) (machine.available qs queue) =
            min (k + (todo + 1)) (machine.available qs queue) := by
              rw [Nat.add_right_comm, Nat.add_assoc]
        have ends : k < queue.readyRun qs ∧ k < (machine.arcs.free queue.pool).length := by
          unfold Machine.available at waits
          omega
        have rest := ih (k := k + 1) waits (fun j lower upper => refills j (by omega) (by omega))
        rw [receiveLoop_round ready ends.1 power bound ends.2,
          if_pos (refills k (Nat.le_refl k) wanted)]
        rw [limit, List.range_succ, List.map_append] at rest
        exact rest
      · obtain rfl := Nat.le_antisymm started stops
        have last : machine.available qs queue = queue.readyRun qs ∨
            machine.available qs queue = (machine.arcs.free queue.pool).length := by
          simp only [Machine.available]
          omega
        have inRun : machine.available qs queue ≤ queue.readyRun qs := Nat.min_le_left _ _
        have idle := takeFrame_last ready inRun last
        rw [receiveLoop_none _ _ _ idle, Nat.min_eq_right (Nat.le_add_right _ _)]

/-- A loop that would put a foreign entry into the ring panics. -/
theorem receiveLoop_panics {todo last : Nat} {kept : List Packet} {j : Nat} (before : k ≤ j)
    (reached : j < min (k + todo) (machine.available qs queue))
    (foreign : (machine.arcs.pool queue.pool).numEntries ≤ machine.arcs.nextFree queue.pool j) :
    receiveLoop (registerFile profile) keepPackets queueId todo
      ((queue.rxIndex + k) % qs) last k kept
      (machine.afterRounds queueId qs queue k) = .error (.panic .indexOutOfBounds) := by
  induction todo generalizing k last kept with
  | zero => omega
  | succ todo ih =>
      have ends : k < queue.readyRun qs ∧ k < (machine.arcs.free queue.pool).length := by
        unfold Machine.available at reached
        omega
      rw [receiveLoop_round ready ends.1 power bound ends.2]
      split
      · rename_i inside
        have later : k ≠ j := by
          intro same
          subst same
          omega
        exact ih (by omega) (by omega)
      · rfl

end Loop

theorem setRxQueue_same (found : machine.dev.rxQueues[queueId]? = some queue) :
    machine.setRxQueue queueId queue = machine := by
  obtain ⟨inside, same⟩ := List.getElem?_eq_some_iff.mp found
  rw [Machine.setRxQueue, ← same, List.set_getElem_self]

theorem refilled_zero (queue : IgbRxQueue) (size : Nat) (arcs : Arcs) :
    queue.refilled size arcs 0 = queue := by
  simp only [IgbRxQueue.refilled, Ring.updateFrom_zero]

theorem afterRounds_zero (ready : Deliverable profile qs queueId machine queue) :
    machine.afterRounds queueId qs queue 0 = machine := by
  rw [Machine.afterRounds, refilled_zero, exchanged_zero, setRxQueue_same ready.found]

/-- Publishing the rounds of a call. -/
theorem publishTaken_afterRounds (ready : Deliverable profile qs queueId machine queue)
    (count : Nat) :
    (machine.afterRounds queueId qs queue count).publishTaken queueId ((queue.rxIndex + count) % qs)
        (queue.lastAt qs count) count = machine.received queueId qs queue count := by
  simp only [Machine.publishTaken, Machine.received]
  split
  · rename_i none
    subst none
    rw [afterRounds_zero ready, refilled_zero, exchanged_zero, Nat.add_zero,
      Nat.mod_eq_of_lt ready.rxIndex, setRxQueue_same ready.found]
  · rename_i moved
    have queues := rxQueues_afterRounds ready count
    have published : (machine.afterRounds queueId qs queue count).dev.rxQueues.modify queueId
        (fun queue' => { queue' with rxIndex := (queue.rxIndex + count) % qs }) =
          machine.dev.rxQueues.set queueId
            { queue.refilled qs machine.arcs count with
                rxIndex := (queue.rxIndex + count) % qs } := by
      rw [List.modify_eq_set_getElem?, queues]
      exact List.set_set ..
    rw [Machine.publishRx, published, IgbRxQueue.lastAt, if_neg moved]
    rfl

/-- The result and the effect of one call are exactly as they should be. -/
structure ReceivesExactly (profile : Profile) (qs queueId packetNums : Nat)
    (machine : Machine RegisterFile) (queue : IgbRxQueue) : Prop where
  refuses : queue.canRecv = .ok false →
    receivePackets (registerFile profile) keepPackets queueId packetNums [] machine =
      .ok (.error .notReady, machine)
  receives : queue.canRecv = .ok true →
    receivePackets (registerFile profile) keepPackets queueId packetNums [] machine =
      (let count := machine.deliverable qs queue packetNums
      .ok (.ok (count, (List.range count).map (queue.packetAt qs machine.arcs)),
        machine.received queueId qs queue count))

theorem deliverable_eq (packetNums : Nat) : machine.deliverable qs queue packetNums =
    min (0 + packetNums) (machine.available qs queue) := by
  rw [Nat.zero_add]
  rfl

theorem deliverable_of_notReady (ready : Deliverable profile qs queueId machine queue)
    (clear : queue.canRecv = .ok false) (packetNums : Nat) :
    machine.deliverable qs queue packetNums = 0 := by
  obtain ⟨desc, cell, asked⟩ := canRecv_apply ready.toReceivable
  rw [clear] at asked
  have none : queue.readyRun qs = 0 := by
    by_contra waiting
    have waits := readyAt_of_lt (Nat.pos_of_ne_zero waiting)
    have first : queue.descriptors.cells[(queue.rxIndex + 0) % qs]? = some desc := by
      rw [Nat.add_zero, Nat.mod_eq_of_lt ready.rxIndex]
      exact cell
    rw [readyAt_iff first,
      ← Except.ok.inj asked] at waits
    cases waits
  simp only [Machine.deliverable]
  omega

section Exact

variable (power : qs.isPowerOfTwo) (least : 2 ≤ qs) (bound : qs < usizeModulus)
  (ready : Deliverable profile qs queueId machine queue)
include power least bound ready

theorem receivePackets_exact (done : queue.canRecv = .ok true) {packetNums : Nat}
    (refills : machine.arcs.Refills queue.pool 0 (machine.deliverable qs queue packetNums)) :
    receivePackets (registerFile profile) keepPackets queueId packetNums [] machine =
      (let count := machine.deliverable qs queue packetNums
      .ok (.ok (count, (List.range count).map (queue.packetAt qs machine.arcs)),
        machine.received queueId qs queue count)) := by
  rw [deliverable_eq] at refills ⊢
  have ran := receiveLoop_exact power bound ready (Nat.zero_le _) refills
  rw [afterRounds_zero ready, Nat.add_zero, Nat.mod_eq_of_lt ready.rxIndex] at ran
  change receiveLoop (registerFile profile) keepPackets queueId packetNums queue.rxIndex
    queue.rxIndex 0 [] machine = _ at ran
  generalize min (0 + packetNums) (machine.available qs queue) = count at ran ⊢
  obtain ⟨_, _, _, _, same, ends, queue', settled, _⟩ :=
    receiveLoop_ends power least bound ready.toReceivable ready.rxIndex ran
  simp only [Nat.zero_add, Except.ok.injEq, Prod.mk.injEq] at same
  obtain ⟨rfl, rfl, rfl, rfl⟩ := same
  have committed := receiveCommit_ends settled ends
  rw [publishTaken_afterRounds ready] at committed
  rw [receivePackets_ready ready.toReceivable done, Prog.bind_of_ok ran]
  simp only [Prog.bind_of_ok committed]
  rfl

/-- The call does exactly this if the entries it takes off the stack are the pool's own. -/
theorem receivesExactly_iff (packetNums : Nat) :
    ReceivesExactly profile qs queueId packetNums machine queue ↔
    machine.arcs.Refills queue.pool 0 (machine.deliverable qs queue packetNums) := by
  obtain ⟨desc, cell, asked⟩ := canRecv_apply ready.toReceivable
  constructor
  · intro receives j _ upper
    by_contra foreign
    cases done : desc.done with
    | false =>
        rw [done] at asked
        rw [deliverable_of_notReady ready asked] at upper
        omega
    | true =>
        rw [done] at asked
        rw [deliverable_eq] at upper
        have panics : receiveLoop (registerFile profile) keepPackets queueId packetNums
            ((queue.rxIndex + 0) % qs) queue.rxIndex 0 [] (machine.afterRounds queueId qs queue 0) =
              _ :=
          receiveLoop_panics power bound ready (Nat.zero_le j) upper (Nat.le_of_not_lt foreign)
        rw [afterRounds_zero ready, Nat.add_zero, Nat.mod_eq_of_lt ready.rxIndex] at panics
        have result := receives.receives asked
        rw [receivePackets_ready ready.toReceivable asked, Prog.bind_of_abort panics] at result
        cases result
  · intro refills
    exact ⟨fun clear => receivePackets_notReady ready.toReceivable clear keepPackets packetNums [],
      fun done => receivePackets_exact power least bound ready done refills⟩

end Exact

end Round

/-- The callback holds the frame of this descriptor. -/
def Control.Delivers (queueId slot : Nat) : Control → Prop
  | .delivering queue _ rxIndex _ _ => queue = queueId ∧ rxIndex = slot
  | _ => False

/-- The receive rings hold entries of their pools, except where a foreign one was just
put and its descriptor not armed yet. -/
def System.RxHeld (system : System) : Prop :=
  ∀ queueId queue slot entry, system.rxQueue? queueId = some queue →
    queue.bufsInUse[slot]? = some entry →
    entry < (system.machine.arcs.layout queue.pool).numEntries ∨
      system.control.Delivers queueId slot

section Held

variable {profile : Profile} {system after : System} {action : Action} {events : List Event}

theorem getPhysAddr_inside {pool : MemPool} {id address : Nat}
    (located : pool.getPhysAddr id = .ok address) :
    id < pool.numEntries := by
  obtain ⟨word, indexed, _⟩ := MemPool.getPhysAddr_ok located
  rw [← pool.physAddr_length]
  exact (List.getElem?_eq_some_iff.mp indexed).1

/-- Nothing moves in the rings and no callback returns. -/
theorem System.RxHeld.still (held : system.RxHeld)
    (queues : ∀ queueId queue, after.rxQueue? queueId = some queue →
      ∃ old, system.rxQueue? queueId = some old ∧ old.bufsInUse = queue.bufsInUse ∧
        old.pool = queue.pool)
    (layout : ∀ ref, after.machine.arcs.layout ref = system.machine.arcs.layout ref)
    (control : ∀ queueId slot, system.control.Delivers queueId slot →
      after.control.Delivers queueId slot) :
    after.RxHeld := by
  intro queueId queue slot entry found here
  obtain ⟨old, found', bufs, pool⟩ := queues queueId queue found
  rw [layout, ← pool]
  exact (held queueId old slot entry found' (by rw [bufs]; exact here)).imp_right
    (control queueId slot)

/-- A queue found after one was set. -/
theorem System.rxQueue?_cases {target queueId : Nat} {new queue : IgbRxQueue}
    (found : (system.setRxQueue target new).rxQueue? queueId = some queue) :
    (target = queueId ∧ queue = new) ∨ (target ≠ queueId ∧ system.rxQueue? queueId = some queue) :=
  getElem?_set_cases found

theorem Step.rxHeld (step : Step profile system action events after) (held : system.RxHeld) :
    after.RxHeld := by
  have layout := step.layout
  cases step with
  | report | allocate | construct | drop | cloneHandle | dropHandle | reject | txDone =>
      exact held.still (fun _ queue found => ⟨queue, found, rfl, rfl⟩) layout (fun _ _ => id)
  | send control | ring control | recycle control | round control | release control | commit control
  | receive control | halt control | finish control =>
      refine held.still (fun _ queue found => ⟨queue, found, rfl, rfl⟩) layout
        (fun _ _ delivers => ?_)
      rw [control] at delivers
      exact delivers.elim
  | publish control moved here =>
      refine held.still (fun queueId queue found => ?_) layout (fun _ _ delivers => ?_)
      · rcases System.rxQueue?_cases found with ⟨rfl, rfl⟩ | ⟨_, found⟩
        · exact ⟨_, here, rfl, rfl⟩
        · exact ⟨queue, found, rfl, rfl⟩
      · rw [control] at delivers
        exact delivers.elim
  | rxStore here cell =>
      refine held.still (fun queueId queue found => ?_) layout (fun _ _ => id)
      rcases System.rxQueue?_cases found with ⟨rfl, rfl⟩ | ⟨_, found⟩
      · exact ⟨_, here, rfl, rfl⟩
      · exact ⟨queue, found, rfl, rfl⟩
  | @take target todo rxIndex lastRxIndex recvNums buf old packet desc rest control here takes =>
      intro queueId queue slot entry found present
      rw [layout]
      rcases System.rxQueue?_cases found with ⟨rfl, rfl⟩ | ⟨_, found⟩
      · by_cases same : rxIndex = slot
        · exact .inr ⟨rfl, same⟩
        · have kept : old.bufsInUse[slot]? = some entry := by
            rw [IgbRxQueue.afterTake, List.getElem?_set_ne same] at present
            exact present
          refine (held target old slot entry here kept).imp_right (fun delivers => ?_)
          rw [control] at delivers
          exact delivers.elim
      · refine (held queueId queue slot entry found present).imp_right (fun delivers => ?_)
        rw [control] at delivers
        exact delivers.elim
  | @rearm target todo rxIndex lastRxIndex recvNums buf phys next old desc control here rearms =>
      intro queueId queue slot entry found present
      rw [layout]
      left
      rcases System.rxQueue?_cases found with ⟨rfl, rfl⟩ | ⟨other, found⟩
      · rcases held target old slot entry here present with inside | delivers
        · exact inside
        · -- The one entry that might be foreign was just given its address.
          rw [control] at delivers
          obtain ⟨_, rfl⟩ := delivers
          have same := rearms.held.symm.trans present
          cases same
          exact getPhysAddr_inside rearms.located
      · rcases held queueId queue slot entry found present with inside | delivers
        · exact inside
        · rw [control] at delivers
          exact absurd delivers.1 other

end Held

section Run

variable {σ : Type} {host : Host σ} {qs numRx numTx queueId : Nat} {pool : PoolRef} {before : Arcs}
  {system final : System} {policy : Policy} {trace : List Event} {queue : IgbRxQueue}

theorem Booted.rxHeld (booted : Booted host qs numRx numTx pool before system) : system.RxHeld := by
  obtain ⟨file, booting⟩ := booted.booting
  intro queueId queue slot entry found here
  have built := booting.rxQueues queueId queue found
  left
  have filled := (List.getElem?_eq_some_iff.mp here).1
  rw [built.bufs] at filled
  obtain ⟨desc, _, _, other, address, present, located, _⟩ := built.armed slot filled
  cases present.symm.trans here
  rw [built.pool, booting.layout]
  exact getPhysAddr_inside located

theorem RxHeld.run {profile : Profile} (booted : Booted host qs numRx numTx pool before system)
    (run : Run (next profile) policy system trace final) : final.RxHeld :=
  run.invariant (fun _ state => state.RxHeld) booted.rxHeld
    (fun _ _ _ _ _ held _ stepped => (next_step stepped).rxHeld held)

/-- Between calls a ring holds entries of its pool only. -/
theorem Booted.rxEntries (positive : 0 < qs) (bound : qs < usizeModulus)
    (booted : Booted host qs numRx numTx pool before system)
    (run : Run (next host.profile) policy system trace final) (idle : final.control = .idle)
    (found : final.rxQueue? queueId = some queue) :
    queue.bufsInUse.length = qs ∧
      ∀ entry ∈ queue.bufsInUse, entry < (final.machine.arcs.pool queue.pool).numEntries := by
  refine ⟨(RxShape.run positive bound booted run found).bufs, fun entry member => ?_⟩
  obtain ⟨slot, here⟩ := List.getElem?_of_mem member
  rcases RxHeld.run booted run queueId queue slot entry found here with inside | delivers
  · exact inside
  · rw [idle] at delivers
    exact delivers.elim

/-- The pool of a receive queue stays as it was allocated. -/
theorem Booted.rxAllocated (positive : 0 < qs) (bound : qs < usizeModulus)
    (booted : Booted host qs numRx numTx pool before system)
    (made : (before.pool pool).Allocated host)
    (run : Run (next host.profile) policy system trace final)
    (found : final.rxQueue? queueId = some queue) :
    (final.machine.arcs.pool queue.pool).Allocated host := by
  obtain ⟨file, booting⟩ := booted.booting
  rw [(RxShape.run positive bound booted run found).pool]
  exact made.of_layout ((layout_run run pool).trans (booting.layout pool))

/-- In every reachable state in which `receive_packets` may be called. -/
theorem Booted.deliverable (positive : 0 < qs) (bound : qs < usizeModulus)
    (booted : Booted host qs numRx numTx pool before system)
    (made : (before.pool pool).Allocated host)
    (run : Run (next host.profile) policy system trace final) (idle : final.control = .idle)
    (found : final.rxQueue? queueId = some queue)
    (whole : ∀ desc ∈ queue.descriptors.cells, desc.done = true → desc.endOfPacket = true) :
    Deliverable host.profile qs queueId final.machine queue := by
  have allocated := booted.rxAllocated positive bound made run found
  obtain ⟨bufs, entries⟩ := booted.rxEntries positive bound run idle found
  exact ⟨booted.receivable positive bound run found, bufs, entries,
    fun id inside => allocated.getVirtAddr_apply inside, whole⟩

/-- A call does exactly what it should if and only if the entries it takes off the free
stack are entries of its pool. -/
theorem receive_exact_iff (least : 2 ≤ qs) (bound : qs < usizeModulus)
    (booted : Booted host qs numRx numTx pool before system) {entries size : Nat} {env env' : σ}
    {made : MemPool} (allocated : MemPool.allocate host entries size env = .ok (.ok made, env'))
    (placed : before.layout pool = made.layout)
    (run : Run (next host.profile) policy system trace final) (idle : final.control = .idle)
    (found : final.rxQueue? queueId = some queue)
    (whole : ∀ desc ∈ queue.descriptors.cells, desc.done = true → desc.endOfPacket = true)
    (packetNums : Nat) :
    ReceivesExactly host.profile qs queueId packetNums final.machine queue ↔
      final.machine.arcs.Refills pool 0 (final.machine.deliverable qs queue packetNums) := by
  have made := (MemPool.allocated_of_allocate allocated).1.of_layout placed
  have ready := booted.deliverable (by omega) bound made run idle found whole
  have inside := booted.rxQueue_inside run found
  have power := booted.power (by omega) (by omega)
  have own := (RxShape.run (by omega) bound booted run found).pool
  rw [receivesExactly_iff power least bound ready packetNums, own]

/-- The test, on a concrete ring, that a descriptor with DD also has EOP. -/
theorem wholeOnly_iff {cells : List AdvancedRxDescriptor} :
    cells.all (fun desc => !desc.done || desc.endOfPacket) = true ↔
      ∀ desc ∈ cells, desc.done = true → desc.endOfPacket = true := by
  simp only [List.all_eq_true, Bool.or_eq_true,
    Bool.not_eq_true', ← Bool.not_eq_true, ← imp_iff_not_or]

/-- A ring of four with three frames that go round its end, asked for nine. -/
theorem receive_exact_iff_lap : ∃ (final : System) (queue : IgbRxQueue),
    final.rxQueue? 0 = some queue ∧
    queue.rxIndex = 1 ∧ final.machine.deliverable 4 queue 9 = 3 ∧
    ReceivesExactly .dev 4 0 9 final.machine queue := by
  obtain ⟨system, trace, final, booted, _, _, run, accepted⟩ :=
    exists_replayAllocated .dev RxInOrder 4 1 1
    (fun _ => 8) (fun _ => 2048)
    [.rxStore 0 0 (frameWriteBack 60), .receive 0 1, .resume, .resume, .resume, .resume,
      .rxStore 0 1 (frameWriteBack 60), .rxStore 0 2 (frameWriteBack 1500),
      .rxStore 0 3 (frameWriteBack 60)]
    (fun _ final => decide (final.control = .idle) &&
      (final.rxQueue? 0).any fun (queue : IgbRxQueue) =>
      queue.descriptors.cells.all (fun desc => !desc.done || desc.endOfPacket) &&
      decide (queue.rxIndex = 1) && decide (final.machine.deliverable 4 queue 9 = 3) &&
      decide (final.machine.arcs.Refills 0 0 3))
    (by decide +kernel)
  simp only [Bool.and_eq_true, decide_eq_true_eq, Option.any_eq_true] at accepted
  obtain ⟨idle, queue, found, ⟨⟨whole, index⟩, count⟩, refills⟩ := accepted
  obtain ⟨env', made⟩ :=
    allocatedPool_made (show (allocatedPool .dev 8 2048).numEntries ≠ 0 by decide +kernel)
  have exactly := receive_exact_iff (by decide) (by decide) booted made rfl run idle found
    (wholeOnly_iff.mp whole) 9
  rw [count] at exactly
  exact ⟨final, queue, found, index, count, exactly.mpr refills⟩

/-- Entries of a larger pool came back to the stack of the receive pool: the callback
gets its packet, then the call panics. -/
theorem receive_panics_on_foreign :
    ∃ (system final : System) (trace : List Event) (queue : IgbRxQueue),
    Booted (platform .dev) 64 1 1 0
      (allocatedArcs .dev (fun ref => if ref = 0 then 66 else 128) (fun _ => 2048)) system ∧
    system.live = [] ∧
    Run (next .dev) (fun state action => (RxInOrder state action ∧ TxInOrder state action) ∧
      NoConstruct state action) system trace final ∧
    final.control = .idle ∧ final.rxQueue? 0 = some queue ∧
    (∀ desc ∈ queue.descriptors.cells, desc.done = true → desc.endOfPacket = true) ∧
    receivePackets (registerFile .dev) keepPackets 0 1 [] final.machine =
      .error (.panic .indexOutOfBounds) ∧
    ¬ ReceivesExactly .dev 64 0 1 final.machine queue := by
  obtain ⟨system, trace, final, booted, _, live, run, accepted⟩ := exists_replayAllocated .dev
    (fun state action => (RxInOrder state action ∧ TxInOrder state action) ∧
      NoConstruct state action)
    64 1 1 (fun ref => if ref = 0 then 66 else 128) (fun _ => 2048)
    (sendActions 0 1 32 ++ sendActions 0 0 1 ++ doneActions 0 32 ++ [.recycle 0, .resume, .resume,
      .rxStore 0 0 (frameWriteBack 60)])
    (fun _ final => decide (final.control = .idle) &&
      Prog.abortsWith (.panic .indexOutOfBounds)
        (receivePackets (registerFile .dev) keepPackets 0 1 [] final.machine) &&
      (final.rxQueue? 0).any fun (queue : IgbRxQueue) =>
        queue.descriptors.cells.all (fun desc => !desc.done || desc.endOfPacket) &&
        decide (queue.canRecv = .ok true))
    (by decide +kernel)
  simp only [Bool.and_eq_true, decide_eq_true_eq, Option.any_eq_true] at accepted
  obtain ⟨⟨idle, panicked⟩, queue, found, whole, canRecv⟩ := accepted
  have panics := Prog.eq_of_abortsWith panicked
  refine ⟨system, final, trace, queue, booted, live, run, idle, found,
    wholeOnly_iff.mp whole, panics, ?_⟩
  intro receives
  have result := receives.receives canRecv
  rw [panics] at result
  cases result

end Run

end IgbDriver
