import IgbDriver.Transfer
import IgbDriver.Foundation.Ring

namespace IgbDriver

open Foundation

/-! # What the pieces of the operations do

One inversion lemma for each piece: from a result, the state that produced it and
everything the piece looked at on the way.
-/

variable {σ : Type} {host : Host σ} {machine after : Machine σ}

/-- Inside the ring nothing overflows, whatever its size. -/
theorem wrapRing_mask {profile : Profile} {size index : Nat} (bound : size < usizeModulus)
    (inside : index < size) : wrapRing profile index size = .ok ((index + 1) &&& (size - 1)) := by
  rw [wrapRing, usizeAdd_of_lt (by omega), usizeSub_of_le (by omega)]
  rfl

/-- `wrap_ring` on a power of two is the successor modulo the ring. -/
theorem wrapRing_of_lt {profile : Profile} {size index : Nat} (power : size.isPowerOfTwo)
    (bound : size < usizeModulus) (inside : index < size) :
    wrapRing profile index size = .ok ((index + 1) % size) := by
  rw [wrapRing_mask bound inside]
  exact congrArg Except.ok (Ring.succ_and_mask power index)

theorem wrapRing_ok {profile : Profile} {size index next : Nat} (power : size.isPowerOfTwo)
    (bound : size < usizeModulus) (inside : index < size)
    (wrapped : wrapRing profile index size = .ok next) : next = (index + 1) % size := by
  rw [wrapRing_of_lt power bound inside] at wrapped
  exact (Except.ok.inj wrapped).symm

theorem withArcs_ok {α : Type} {operation : Arcs → Except (Abort Panic) (α × Arcs)}
    {outcome : Except IgbError α} (ran : withArcs operation machine = .ok (outcome, after)) :
    ∃ value arcs, operation machine.arcs = .ok (value, arcs) ∧ outcome = .ok value ∧
      after = { machine with arcs } := by
  rw [withArcs, Prog.bind_read_apply] at ran
  obtain ⟨⟨value, arcs⟩, result, returned⟩ := Prog.bind_lift_ok ran
  cases returned
  exact ⟨value, arcs, result, rfl, rfl⟩

theorem dropPacket_ok {packet : Packet} {outcome : Except IgbError Unit}
    (ran : dropPacket packet machine = .ok (outcome, after)) :
    ∃ arcs, Frees machine.arcs packet arcs ∧ outcome = .ok () ∧ after = { machine with arcs } := by
  obtain ⟨_, arcs, dropped, rfl, rfl⟩ := withArcs_ok ran
  obtain ⟨freed, drops, same⟩ := except_bind_ok dropped
  cases same
  exact ⟨arcs, Packet.drop_ok drops, rfl, rfl⟩

theorem switchPool_fst (current : Option PoolRef) (ref : PoolRef) (arcs : Arcs) :
    (switchPool current ref arcs).1 = some ref := by
  simp only [switchPool]
  split
  · split <;> simp [*]
  · rfl

theorem enqueuePacket_ok {queueId : Nat} {queue : IgbTxQueue} {packet : Packet}
    {outcome : Except IgbError Unit}
    (ran : enqueuePacket host queueId queue packet machine = .ok (outcome, after)) :
    ∃ txIndex desc, wrapRing host.profile queue.txIndex queue.numDescriptors = .ok txIndex ∧
      queue.descriptors.cells[queue.txIndex]? = some desc ∧ outcome = .ok () ∧
      after = { machine with arcs := (switchPool queue.pool packet.pool machine.arcs).2 }.setTxQueue
        queueId { queue with
          descriptors := queue.descriptors.set queue.txIndex (desc.send packet.addrPhys packet.len)
          pool := some packet.pool
          txIndex
          bufsInUse := queue.bufsInUse ++ [packet.poolEntry] } := by
  have switched : withArcs (fun arcs => .ok (switchPool queue.pool packet.pool arcs)) machine =
      .ok (.ok (some packet.pool),
        { machine with arcs := (switchPool queue.pool packet.pool machine.arcs).2 }) := by
    rw [← switchPool_fst queue.pool packet.pool machine.arcs]
    rfl
  rw [enqueuePacket, Prog.bind_of_ok switched, if_neg (not_not_intro rfl)] at ran
  obtain ⟨txIndex, wrapped, writing⟩ := Prog.bind_lift_ok ran
  obtain ⟨desc, indexed, updating⟩ := Prog.bind_lift_ok writing
  cases updating
  exact ⟨txIndex, desc, wrapped, indexSlice_ok indexed, rfl, rfl⟩

/-- Why `send` returned an error. -/
inductive Rejects (profile : Profile) (dev : IgbDevice) (queueId : Nat) : IgbError → Prop where
  | invalidQueue : dev.txQueues[queueId]? = none → Rejects profile dev queueId .invalidQueue
  | queueFull {queue : IgbTxQueue} : dev.txQueues[queueId]? = some queue →
      queue.canSend profile = .ok false → Rejects profile dev queueId .queueFull

theorem sendEnqueue_error {queueId : Nat} {txBuf : IgbNetBuf} {failure : IgbError}
    (ran : sendEnqueue host queueId txBuf machine = .ok (.error failure, after)) :
    Rejects host.profile machine.dev queueId failure ∧
      ∃ arcs, Frees machine.arcs txBuf.packet arcs ∧ after = { machine with arcs } := by
  simp only [sendEnqueue, Prog.bind_apply, Prog.read_apply] at ran
  cases found : machine.dev.txQueues[queueId]? with
  | none =>
      simp only [found] at ran
      rcases Prog.bind_error ran with ran | ⟨_, middle, dropped, ran⟩
      · obtain ⟨_, _, impossible, _⟩ := dropPacket_ok ran
        cases impossible
      · obtain ⟨arcs, frees, _, rfl⟩ := dropPacket_ok dropped
        cases ran
        exact ⟨.invalidQueue found, arcs, frees, rfl⟩
  | some queue =>
      simp only [found] at ran
      rcases Prog.bind_error ran with ran | ⟨ready, middle, lifted, ran⟩
      · obtain ⟨_, _, impossible, _⟩ := Prog.lift_ok ran
        cases impossible
      · obtain ⟨_, asked, same, rfl⟩ := Prog.lift_ok lifted
        cases same
        cases ready with
        | true =>
            obtain ⟨_, _, _, _, impossible, _⟩ := enqueuePacket_ok ran
            cases impossible
        | false =>
            rcases Prog.bind_error ran with ran | ⟨_, middle, dropped, ran⟩
            · obtain ⟨_, _, impossible, _⟩ := dropPacket_ok ran
              cases impossible
            · obtain ⟨arcs, frees, _, rfl⟩ := dropPacket_ok dropped
              cases ran
              exact ⟨.queueFull found asked, arcs, frees, rfl⟩

theorem sendEnqueue_ok {queueId : Nat} {txBuf : IgbNetBuf}
    (ran : sendEnqueue host queueId txBuf machine = .ok (.ok (), after)) :
    ∃ queue, machine.dev.txQueues[queueId]? = some queue ∧ queue.canSend host.profile = .ok true ∧
      enqueuePacket host queueId queue txBuf.packet machine = .ok (.ok (), after) := by
  simp only [sendEnqueue, Prog.bind_apply, Prog.read_apply] at ran
  cases found : machine.dev.txQueues[queueId]? with
  | none =>
      simp only [found] at ran
      obtain ⟨_, _, _, failed⟩ := Prog.bind_ok ran
      cases failed
  | some queue =>
      simp only [found] at ran
      obtain ⟨ready, middle, lifted, ran⟩ := Prog.bind_ok ran
      obtain ⟨_, asked, same, rfl⟩ := Prog.lift_ok lifted
      cases same
      cases ready with
      | true => exact ⟨queue, rfl, asked, ran⟩
      | false =>
          obtain ⟨_, _, _, failed⟩ := Prog.bind_ok ran
          cases failed

theorem checkWindow_ok {reg : Nat} {outcome : Except IgbError Unit}
    (ran : checkWindow host reg machine = .ok (outcome, after)) :
    outcome = .ok () ∧ after = machine := by
  rw [checkWindow, Prog.bind_read_apply] at ran
  obtain ⟨limit, _, asserted⟩ := Prog.bind_lift_ok ran
  split at asserted
  · cases asserted
    exact ⟨rfl, rfl⟩
  · cases asserted

theorem setReg32_ok {reg : Nat} {value : BitVec 32} {outcome : Except IgbError Unit}
    (ran : setReg32 host reg value machine = .ok (outcome, after)) :
    outcome = .ok () ∧
      after = { machine with env := host.writeVolatile reg value machine.env } := by
  unfold setReg32 at ran
  cases outcome with
  | ok value =>
      obtain ⟨_, middle, checked, written⟩ := Prog.bind_ok ran
      obtain ⟨_, same⟩ := checkWindow_ok checked
      rw [same] at written
      cases written
      exact ⟨rfl, rfl⟩
  | error failure =>
      rcases Prog.bind_error ran with refused | ⟨_, _, _, written⟩
      · cases (checkWindow_ok refused).1
      · cases written

/-- The register passes the bounds assertion of an access. -/
def InWindow (profile : Profile) (len reg : Nat) : Prop :=
  ∃ limit, (usizeSub profile len 4 : Except (Abort Panic) Nat) = .ok limit ∧ reg ≤ limit

theorem checkWindow_window {reg : Nat} (ran : checkWindow host reg machine = .ok (.ok (), after)) :
    InWindow host.profile machine.dev.len reg := by
  rw [checkWindow, Prog.bind_read_apply] at ran
  obtain ⟨limit, bounded, asserted⟩ := Prog.bind_lift_ok ran
  split at asserted
  · rename_i below
    exact ⟨limit, bounded, below⟩
  · cases asserted

/-- A write that returned was inside the register window. -/
theorem setReg32_window {reg : Nat} {value : BitVec 32}
    (ran : setReg32 host reg value machine = .ok (.ok (), after)) :
    InWindow host.profile machine.dev.len reg := by
  obtain ⟨_, _, checked, _⟩ := Prog.bind_ok ran
  exact checkWindow_window checked

theorem checkWindow_apply {reg : Nat} (window : InWindow host.profile machine.dev.len reg) :
    checkWindow host reg machine = .ok (.ok (), machine) := by
  obtain ⟨limit, bounded, below⟩ := window
  rw [checkWindow, Prog.bind_read_apply, bounded, Prog.bind_of_ok (Prog.lift_ok_apply _ _),
    if_pos below]
  rfl

theorem setReg32_apply {reg : Nat} (value : BitVec 32)
    (window : InWindow host.profile machine.dev.len reg) :
    setReg32 host reg value machine =
      .ok (.ok (), { machine with env := host.writeVolatile reg value machine.env }) := by
  rw [setReg32, Prog.bind_of_ok (checkWindow_apply window)]
  rfl

theorem getReg32_apply {reg : Nat} (window : InWindow host.profile machine.dev.len reg) :
    getReg32 host reg machine = .ok (.ok (host.readVolatile reg machine.env).1,
      { machine with env := (host.readVolatile reg machine.env).2 }) := by
  rw [getReg32, Prog.bind_of_ok (checkWindow_apply window), Prog.bind_read_apply]
  rfl

theorem sendDoorbell_ok {queueId : Nat} {outcome : Except IgbError Unit}
    (ran : sendDoorbell host queueId machine = .ok (outcome, after)) :
    ∃ queue, machine.dev.txQueues[queueId]? = some queue ∧ outcome = .ok () ∧
      after = { machine with
        env := host.writeVolatile (igbTdt queueId) (BitVec.ofNat 32 queue.txIndex) machine.env
  } := by
  rw [sendDoorbell, Prog.bind_read_apply] at ran
  obtain ⟨queue, indexed, ringing⟩ := Prog.bind_lift_ok ran
  obtain ⟨returned, state⟩ := setReg32_ok ringing
  exact ⟨queue, indexSlice_ok indexed, returned, state⟩

/-- What a round of recycling saw when it went on. -/
structure RoundSees (profile : Profile) (queue : IgbTxQueue) (curIndex cleanIndex last next : Nat)
    (desc : AdvancedTxDescriptor) (count : Int) : Prop where
  counted : cleanable profile queue.numDescriptors curIndex cleanIndex = .ok count
  enough : (txCleanBatch : Int) ≤ count
  ends : cleanupTo profile queue.numDescriptors cleanIndex = .ok last
  cell : queue.descriptors.cells[last]? = some desc
  done : desc.done = true
  wraps : wrapRing profile last queue.numDescriptors = .ok next

/-- The machine after a batch was handed back. -/
def releasedMachine (machine : Machine σ) (queueId : Nat) (queue : IgbTxQueue) : Machine σ :=
  match queue.pool with
  | none => machine
  | some ref =>
      { machine.setTxQueue queueId queue.afterBatch with
        arcs := machine.arcs.setFree ref (machine.arcs.free ref ++ queue.batch) }

theorem releaseBatch_apply (queueId : Nat) (queue : IgbTxQueue) :
    releaseBatch queueId queue machine = .ok (.ok (), releasedMachine machine queueId queue) := by
  simp only [releaseBatch, releasedMachine]
  cases queue.pool <;> rfl

theorem recycleRound_ok {queueId curIndex cleanIndex : Nat} {outcome : Except IgbError (Option Nat)}
    (ran : recycleRound host queueId curIndex cleanIndex machine = .ok (outcome, after)) :
    ∃ queue, machine.dev.txQueues[queueId]? = some queue ∧
      ((outcome = .ok none ∧ after = machine) ∨
        ∃ last next desc count, outcome = .ok (some next) ∧
          RoundSees host.profile queue curIndex cleanIndex last next desc count ∧
          after = releasedMachine machine queueId queue) := by
  rw [recycleRound, Prog.bind_read_apply] at ran
  obtain ⟨queue, indexed, counting⟩ := Prog.bind_lift_ok ran
  refine ⟨queue, indexSlice_ok indexed, ?_⟩
  obtain ⟨count, counted, branching⟩ := Prog.bind_lift_ok counting
  by_cases few : count < txCleanBatch
  · rw [if_pos few] at branching
    cases branching
    exact .inl ⟨rfl, rfl⟩
  · rw [if_neg few] at branching
    obtain ⟨last, ends, testing⟩ := Prog.bind_lift_ok branching
    obtain ⟨desc, cell, deciding⟩ := Prog.bind_lift_ok testing
    cases done : desc.done with
    | false =>
        rw [done] at deciding
        cases deciding
        exact .inl ⟨rfl, rfl⟩
    | true =>
        rw [done, if_pos rfl, Prog.bind_of_ok (releaseBatch_apply _ _)] at deciding
        obtain ⟨next, wraps, returned⟩ := Prog.bind_lift_ok deciding
        cases returned
        exact .inr ⟨last, next, desc, count, rfl,
          ⟨counted, by omega, ends, indexSlice_ok cell, done, wraps⟩, rfl⟩

theorem recycleCommit_ok {queueId cleanIndex : Nat} {outcome : Except IgbError Unit}
    (ran : recycleCommit queueId cleanIndex machine = .ok (outcome, after)) :
    ∃ queue, machine.dev.txQueues[queueId]? = some queue ∧ outcome = .ok () ∧
      after = machine.setTxQueue queueId { queue with cleanIndex } := by
  rw [recycleCommit, Prog.bind_read_apply] at ran
  obtain ⟨queue, indexed, updating⟩ := Prog.bind_lift_ok ran
  cases updating
  exact ⟨queue, indexSlice_ok indexed, rfl, rfl⟩

/-- What a receive round saw when it took a frame: `buf` is the entry it popped for
the ring, `rest` what it left on the free stack. -/
structure TakesFrame (arcs : Arcs) (queue : IgbRxQueue) (rxIndex : Nat) (packet : Packet)
    (desc : AdvancedRxDescriptor) (buf : Nat) (rest : List Nat) : Prop where
  cell : queue.descriptors.cells[rxIndex]? = some desc
  done : desc.done = true
  ends : desc.endOfPacket = true
  stack : arcs.free queue.pool = rest ++ [buf]
  held : queue.bufsInUse[rxIndex]? = some packet.poolEntry
  pool : packet.pool = queue.pool
  length : packet.len = desc.length
  located : (arcs.pool queue.pool).getPhysAddr packet.poolEntry = .ok packet.addrPhys

theorem takeFrame_ok {queueId rxIndex : Nat} {outcome : Except IgbError (Option IgbNetBuf)}
    (ran : takeFrame host queueId rxIndex machine = .ok (outcome, after)) :
    ∃ queue, machine.dev.rxQueues[queueId]? = some queue ∧
      ((outcome = .ok none ∧ after = machine) ∨
        ∃ packet desc buf rest, outcome = .ok (some { packet }) ∧
          TakesFrame machine.arcs queue rxIndex packet desc buf rest ∧
          after = { machine.setRxQueue queueId
              { queue with bufsInUse := queue.bufsInUse.set rxIndex buf } with
            arcs := (machine.arcs.setFree queue.pool rest).clone queue.pool }) := by
  rw [takeFrame, Prog.bind_read_apply] at ran
  obtain ⟨queue, indexed, testing⟩ := Prog.bind_lift_ok ran
  refine ⟨queue, indexSlice_ok indexed, ?_⟩
  obtain ⟨desc, cell, branching⟩ := Prog.bind_lift_ok testing
  cases done : desc.done with
  | false =>
      rw [done, if_pos (by rfl)] at branching
      cases branching
      exact .inl ⟨rfl, rfl⟩
  | true =>
      rw [done, if_neg (by decide)] at branching
      cases ends : desc.endOfPacket with
      | false => rw [ends, if_pos (by rfl)] at branching; cases branching
      | true =>
          rw [ends, if_neg (by decide)] at branching
          obtain ⟨found, pool, popped⟩ : ∃ found pool,
              (machine.arcs.pool queue.pool).allocBuf = (found, pool) := ⟨_, _, rfl⟩
          rw [popped] at branching
          cases found with
          | none =>
              cases branching
              exact .inl ⟨rfl, rfl⟩
          | some buf =>
              obtain ⟨rest, stack, rfl⟩ := MemPool.allocBuf_some popped
              obtain ⟨idx, held, virtually⟩ := Prog.bind_lift_ok branching
              obtain ⟨addrVirt, _, physically⟩ := Prog.bind_lift_ok virtually
              obtain ⟨addrPhys, located, updating⟩ := Prog.bind_lift_ok physically
              cases updating
              exact .inr ⟨_, desc, buf, rest, rfl,
                ⟨indexSlice_ok cell, done, ends, stack, indexSlice_ok held, rfl, rfl, located⟩, rfl⟩

/-- What re-arming a descriptor looked at. -/
structure Rearms (profile : Profile) (arcs : Arcs) (queue : IgbRxQueue) (rxIndex : Nat)
    (desc : AdvancedRxDescriptor) (buf phys next : Nat) : Prop where
  cell : queue.descriptors.cells[rxIndex]? = some desc
  held : queue.bufsInUse[rxIndex]? = some buf
  located : (arcs.pool queue.pool).getPhysAddr buf = .ok phys
  wraps : wrapRing profile rxIndex queue.numDescriptors = .ok next

theorem rearmDescriptor_ok {queueId rxIndex : Nat} {outcome : Except IgbError Nat}
    (ran : rearmDescriptor host queueId rxIndex machine = .ok (outcome, after)) :
    ∃ queue desc buf phys next, machine.dev.rxQueues[queueId]? = some queue ∧ outcome = .ok next ∧
      Rearms host.profile machine.arcs queue rxIndex desc buf phys next ∧
      after = machine.setRxQueue queueId { queue with
        descriptors :=
  queue.descriptors.set rxIndex (desc.setPacketAddress phys).resetStatus } := by
  rw [rearmDescriptor, Prog.bind_read_apply] at ran
  obtain ⟨queue, indexed, reading⟩ := Prog.bind_lift_ok ran
  obtain ⟨desc, cell, taking⟩ := Prog.bind_lift_ok reading
  obtain ⟨buf, held, locating⟩ := Prog.bind_lift_ok taking
  obtain ⟨phys, located, updating⟩ := Prog.bind_lift_ok locating
  rw [Prog.bind_update_apply] at updating
  obtain ⟨next, wraps, returned, state⟩ := Prog.lift_ok updating
  exact ⟨queue, desc, buf, phys, next, indexSlice_ok indexed, returned,
    ⟨indexSlice_ok cell, indexSlice_ok held, located, wraps⟩, state⟩

theorem receiveCommit_ok {queueId rxIndex lastRxIndex : Nat} {outcome : Except IgbError Unit}
    (ran : receiveCommit host queueId rxIndex lastRxIndex machine = .ok (outcome, after)) :
    outcome = .ok () ∧ ((rxIndex = lastRxIndex ∧ after = machine) ∨
      ∃ queue, rxIndex ≠ lastRxIndex ∧ machine.dev.rxQueues[queueId]? = some queue ∧
        after = { machine.setRxQueue queueId { queue with rxIndex } with
          env := host.writeVolatile (igbRdt queueId) (BitVec.ofNat 32 lastRxIndex) machine.env
  }) := by
  unfold receiveCommit at ran
  split at ran
  · rename_i moved
    cases outcome with
    | ok value =>
        obtain ⟨_, middle, published, committing⟩ := Prog.bind_ok ran
        obtain ⟨_, state⟩ := setReg32_ok published
        rw [state, Prog.bind_read_apply] at committing
        obtain ⟨queue, indexed, updating⟩ := Prog.bind_lift_ok committing
        cases updating
        exact ⟨rfl, .inr ⟨queue, moved, indexSlice_ok indexed, rfl⟩⟩
    | error failure =>
        rcases Prog.bind_error ran with refused | ⟨_, middle, published, committing⟩
        · cases (setReg32_ok refused).1
        · rw [Prog.bind_read_apply] at committing
          obtain ⟨_, _, updating⟩ := Prog.bind_lift_ok committing
          cases updating
  · rename_i still
    cases ran
    exact ⟨rfl, .inl ⟨by omega, rfl⟩⟩

end IgbDriver
