import IgbDriver.Booting

namespace IgbDriver

open Foundation

/-! # What initialisation leaves

`init` builds the queues, fills the receive rings and starts them; where it fails, the
half-built device tells how far it has come.
-/

variable {σ : Type} {host : Host σ}

/-- The byte size of a ring, as its 32-bit length register takes it. -/
theorem ringSizeBytes_eq {profile : Profile} {qs bytes : Nat}
    (size : (usizeMul profile qs 16 : Except (Abort Panic) Nat) = .ok bytes) :
    BitVec.ofNat 32 bytes = BitVec.ofNat 32 (16 * qs) := by
  unfold usizeMul at size
  split at size
  · cases size
    rw [Nat.mul_comm]
  · cases profile with
    | dev => cases size
    | release =>
        cases size
        rw [Nat.mul_comm 16]
        apply BitVec.eq_of_toNat_eq
        simp only [BitVec.toNat_ofNat]
        exact Nat.mod_mod_of_dvd _ (by decide)

/-- The pools and the device that `init` starts from. -/
def Fresh (len numRx numTx : Nat) (start arcs : Arcs) (dev : IgbDevice) : Prop :=
  arcs = start ∧
    dev = { len, numRxQueues := numRx, numTxQueues := numTx, rxQueues := [], txQueues := [] }

/-- How `init` fails: at a ring size that is no power of two, or on an empty free stack. -/
def BootFails (profile : Profile) (qs numRx numTx : Nat) (pool : PoolRef) (start : Arcs)
    (failure : IgbError) (machine : Machine σ) : Prop :=
  ∃ progress file,
  Booting profile qs numRx numTx pool start progress file machine.arcs machine.dev ∧
    ((failure = .queueNotAligned ∧ qs &&& (qs - 1) ≠ 0 ∧ 0 < numRx + numTx) ∨
      (failure = .noMemory ∧ qs &&& (qs - 1) = 0 ∧ machine.arcs.free pool = [] ∧
        progress.taken qs < numRx * qs))

theorem rxQueue_ok {queueId : Nat} {machine after : Machine σ}
    {outcome : Except IgbError IgbRxQueue} (ran : rxQueue queueId machine = .ok (outcome, after)) :
    ∃ queue, machine.dev.rxQueues[queueId]? = some queue ∧ outcome = .ok queue ∧
      after = machine := by
  rw [rxQueue, Prog.bind_read_apply] at ran
  obtain ⟨queue, indexed, returned, same⟩ := Prog.lift_ok ran
  exact ⟨queue, indexSlice_ok indexed, returned, same⟩

/-- The mask test, whatever the profile does with an empty ring. -/
theorem checkAligned_ok {numDescriptors : Nat} {machine after : Machine σ}
    {outcome : Except IgbError Unit}
    (ran : checkAligned host numDescriptors machine = .ok (outcome, after)) :
    after = machine ∧ ((outcome = .ok () ∧ numDescriptors &&& (numDescriptors - 1) = 0) ∨
      (outcome = .error .queueNotAligned ∧ numDescriptors &&& (numDescriptors - 1) ≠ 0)) := by
  unfold checkAligned at ran
  obtain ⟨mask, masked, testing⟩ := Prog.bind_lift_ok ran
  have same : numDescriptors &&& mask = numDescriptors &&& (numDescriptors - 1) := by
    unfold usizeSub at masked
    split at masked
    · cases masked
      rfl
    · rename_i empty
      rw [show numDescriptors = 0 by omega, Nat.zero_and, Nat.zero_and]
  rw [same] at testing
  split at testing
  · rename_i unaligned
    cases testing
    exact ⟨rfl, .inr ⟨rfl, unaligned⟩⟩
  · rename_i aligned
    cases testing
    exact ⟨rfl, .inl ⟨rfl, not_not.mp aligned⟩⟩

theorem armDescriptor_ok {queueId i : Nat} {machine after : Machine σ}
    {outcome : Except IgbError Unit}
    (ran : armDescriptor queueId i machine = .ok (outcome, after)) :
    ∃ queue, machine.dev.rxQueues[queueId]? = some queue ∧
      ((outcome = .error .noMemory ∧ after = machine ∧ machine.arcs.free queue.pool = []) ∨
        ∃ id rest desc phys, outcome = .ok () ∧ machine.arcs.free queue.pool = rest ++ [id] ∧
          queue.descriptors.cells[i]? = some desc ∧
          (machine.arcs.pool queue.pool).getPhysAddr id = .ok phys ∧
          after = { machine.setRxQueue queueId { queue with
              descriptors := queue.descriptors.set i (desc.setPacketAddress phys).resetStatus
              bufsInUse := queue.bufsInUse ++ [id] } with
            arcs := machine.arcs.setFree queue.pool rest }) := by
  rw [armDescriptor, Prog.bind_apply] at ran
  cases first : rxQueue queueId machine with
  | error reason => rw [first] at ran; cases ran
  | ok result =>
      obtain ⟨fetched, middle⟩ := result
      obtain ⟨queue, found, rfl, same⟩ := rxQueue_ok first
      rw [first, same] at ran
      refine ⟨queue, found, ?_⟩
      simp only [Prog.bind_read_apply] at ran
      obtain ⟨top, pool, popped⟩ : ∃ top pool,
          (machine.arcs.pool queue.pool).allocBuf = (top, pool) := ⟨_, _, rfl⟩
      rw [popped] at ran
      cases top with
      | none =>
          cases ran
          exact .inl ⟨rfl, rfl, MemPool.allocBuf_none popped⟩
      | some id =>
          obtain ⟨rest, stack, rfl⟩ := MemPool.allocBuf_some popped
          obtain ⟨desc, cell, locating⟩ := Prog.bind_lift_ok ran
          obtain ⟨phys, located, updating⟩ := Prog.bind_lift_ok locating
          cases updating
          exact .inr ⟨id, rest, desc, phys, rfl, stack, indexSlice_ok cell, located, rfl⟩

/-- With an entry of the pool, or none, the next descriptor is dealt with. -/
theorem armDescriptor_returns {queueId i : Nat} {machine : Machine σ} {queue : IgbRxQueue}
    (found : machine.dev.rxQueues[queueId]? = some queue)
    (below : i < queue.descriptors.cells.length)
    (inside : ∀ id ∈ machine.arcs.free queue.pool, id < (machine.arcs.pool queue.pool).numEntries) :
    ∃ result, armDescriptor queueId i machine = .ok result := by
  have fetched : rxQueue queueId machine = .ok (.ok queue, machine) := by
    rw [rxQueue, Prog.bind_read_apply, indexSlice_of_some found]
    rfl
  rw [armDescriptor, Prog.bind_of_ok fetched, Prog.bind_read_apply]
  obtain ⟨top, pool, popped⟩ : ∃ top pool,
      (machine.arcs.pool queue.pool).allocBuf = (top, pool) := ⟨_, _, rfl⟩
  rw [popped]
  cases top with
  | none => exact ⟨_, rfl⟩
  | some id =>
      obtain ⟨rest, stack, rfl⟩ := MemPool.allocBuf_some popped
      have within := inside id (by rw [Arcs.free, stack]; simp)
      obtain ⟨address, located⟩ : ∃ address, (machine.arcs.pool queue.pool).physAddr[id]? =
          some address :=
        ⟨_, List.getElem?_eq_getElem (by rw [MemPool.physAddr_length]; exact within)⟩
      simp only [indexSlice_of_some (List.getElem?_eq_getElem below),
        Prog.bind_of_ok (Prog.lift_ok_apply _ _),
        MemPool.getPhysAddr, indexSlice_of_some located, except_ok_bind]
      exact ⟨_, rfl⟩

namespace Walk

variable {watch : σ → RegisterFile → Prop} {allowed : Abort Panic → Prop} {len qs numRx numTx : Nat}
  {pool : PoolRef} {start : Arcs} {facts : Facts} {fails : IgbError → Machine σ → Prop}
  (walk : Walk host watch allowed len qs numRx numTx pool start)
include walk

theorem allocateRing {δ : Type} (cleared : δ) :
    Leads watch allowed len facts (allocateRing host qs cleared)
      (fun ring file arcs dev => facts file arcs dev ∧
        BitVec.ofNat 32 ring.1 = BitVec.ofNat 32 (16 * qs) ∧ ring.2.cells =
          List.replicate qs cleared)
      fails := by
  have sized : Leads watch allowed len facts
      (Prog.lift (usizeMul host.profile qs 16) : Driver σ Nat)
      (fun bytes file arcs dev =>
        (usizeMul host.profile qs 16 : Except (Abort Panic) Nat) = .ok bytes ∧ facts file arcs dev)
      fails :=
    Triple.lift (walk.ready.abortsOnly (fun ready => ⟨_, usizeMul_of_lt ready.narrow⟩))
      (fun bytes state size knows => knows.weaken (fun _ _ _ holds => ⟨size, holds⟩))
  refine sized.bind
    (fun bytes => Leads.assuming (fun size => Triple.read (fun snapshot knows => ?_)))
  have mapped : Leads watch allowed len facts
      (Prog.forRange (descriptorPointer (host.dmaAlloc bytes snapshot.env).1.2) 0 qs)
      (fun _ => facts) fails := by
    refine Triple.forRange_const (fun descId _ below => ?_)
    simp only [descriptorPointer]
    split
    · rename_i null
      refine Triple.abort ?_
      rcases walk.ready with all | ready
      · exact all _
      · rw [usizeMul_of_lt ready.narrow] at size
        cases size
        exact absurd null (ready.responsive.maps snapshot.env descId (by omega))
    · exact Triple.pure (fun _ => id)
  refine Triple.andThen (Triple.update ?_) (mapped.bind (fun _ => Triple.pure ?_))
  · intro machine same
    subst same
    exact knows.withEnv (fun file => walk.watching.allocated bytes machine.env file)
  · intro machine knows
    exact knows.weaken (fun _ _ _ holds => ⟨holds, ringSizeBytes_eq size, rfl⟩)

theorem initRxQueue {i : Nat} (inside : i < numRx) :
    Leads watch allowed len (Booting host.profile qs numRx numTx pool start ⟨i, 0, 0, 0, 0, 0⟩)
      (initRxQueue host qs pool i)
      (fun _ => Booting host.profile qs numRx numTx pool start ⟨i + 1, 0, 0, 0, 0, 0⟩) fails := by
  have bank : ∀ {reg}, reg < 0xC02C + 0x40 * i → Reached numRx numTx reg := fun below =>
    .inr (.inl (by omega))
  refine (walk.allocateRing AdvancedRxDescriptor.init).bind (fun ring => ?_)
  apply (walk.wrote (bank (by unfold igbRdbal; omega))
    (.inr (by unfold RingRegister igbRdbal; omega))).andThen
  apply (walk.wrote (bank (by unfold igbRdbah; omega))
    (.inr (by unfold RingRegister igbRdbah; omega))).andThen
  apply (walk.wrote (bank (by unfold igbRdlen; omega))
    (.inr (by unfold RingRegister igbRdlen; omega))).andThen
  apply (walk.wrote (bank (by unfold igbRdh; omega))
    (.inr (by unfold RingRegister igbRdh; omega))).andThen
  apply (walk.wrote (bank (by unfold igbRdt; omega))
    (.inr (by unfold RingRegister igbRdt; omega))).andThen
  apply Triple.update
  rintro machine
    ⟨sized, _, watched, _, ⟨_, ⟨_, ⟨_, ⟨file, ⟨booting, size, cells⟩, rfl⟩, rfl⟩, rfl⟩, rfl⟩, rfl⟩
  have added := booting.addRx ring.2.phys ring.2.virt size
  rw [← cells] at added
  exact ⟨sized, _, watched, added⟩

theorem initTxQueue {j : Nat} (inside : j < numTx) :
    Leads watch allowed len (Booting host.profile qs numRx numTx pool start ⟨numRx, j, j, 0, 0, 0⟩)
      (initTxQueue host qs j)
      (fun _ => Booting host.profile qs numRx numTx pool start ⟨numRx, j + 1, j + 1, 0, 0, 0⟩)
      fails := by
  have bank : ∀ {reg}, reg < 0xE02C + 0x40 * j → Reached numRx numTx reg := fun below =>
    .inr (.inr (by omega))
  have control : Reached numRx numTx (igbTxdctl j) := bank (by unfold igbTxdctl; omega)
  refine (walk.allocateRing AdvancedTxDescriptor.init).bind (fun ring => ?_)
  apply (walk.wrote (bank (by unfold igbTdbal; omega))
    (.inr (by unfold RingRegister igbTdbal; omega))).andThen
  apply (walk.wrote (bank (by unfold igbTdbah; omega))
    (.inr (by unfold RingRegister igbTdbah; omega))).andThen
  apply (walk.wrote (bank (by unfold igbTdlen; omega))
    (.inr (by unfold RingRegister igbTdlen; omega))).andThen
  apply (walk.read control).bind
  intro current
  apply (walk.wrote control (.inl (.txdctl j))).andThen
  apply Triple.update
  rintro machine ⟨sized, _, watched, _, ⟨_, ⟨_, ⟨file, ⟨booting, size, cells⟩, rfl⟩, rfl⟩, rfl⟩,
    rfl⟩
  have added := booting.addTx ring.2.phys ring.2.virt size
  rw [← cells] at added
  exact ⟨sized, _, watched, added.aside (ControlRegister.txdctl j).not_ring _⟩

theorem initRx :
    Leads watch allowed len (Booting host.profile qs numRx numTx pool start ⟨0, 0, 0, 0, 0, 0⟩)
      (initRx host qs pool)
      (fun _ => Booting host.profile qs numRx numTx pool start ⟨numRx, 0, 0, 0, 0, 0⟩) fails := by
  have pages : Leads watch allowed len
    (Booting host.profile qs numRx numTx pool start ⟨0, 0, 0, 0, 0, 0⟩)
      (Prog.forRange (fun i => setReg32 host (igbRxpbsize i) 0) 1 7)
      (fun _ => Booting host.profile qs numRx numTx pool start ⟨0, 0, 0, 0, 0, 0⟩) fails :=
    Triple.forRange_const (fun i _ upper =>
      walk.control Booting.inert (.inl (by unfold igbRxpbsize; omega)) (.packetBuffer (by omega)))
  have round : ∀ i, 0 ≤ i → i < 0 + numRx →
      Leads watch allowed len (Booting host.profile qs numRx numTx pool start ⟨i, 0, 0, 0, 0, 0⟩)
        (IgbDriver.initRxQueue host qs pool i)
        (fun _ => Booting host.profile qs numRx numTx pool start ⟨i + 1, 0, 0, 0, 0, 0⟩) fails :=
    fun i _ below => walk.initRxQueue (by omega)
  have rings := Triple.forRange round
  rw [Nat.zero_add] at rings
  apply (walk.clearFlags Booting.inert (.inl (by decide)) (.control (by decide))).andThen
  apply (walk.control Booting.inert (.inl (by decide)) (.packetBuffer (by decide))).andThen
  apply pages.andThen
  apply (walk.setFlags Booting.inert (.inl (by decide)) (.control (by decide))).andThen
  apply (walk.setFlags Booting.inert (.inl (by decide)) (.control (by decide))).andThen
  apply (walk.setFlags Booting.inert (.inl (by decide)) (.control (by decide))).andThen
  apply Triple.read
  rintro snapshot ⟨sized, file, watched, booting⟩
  rw [booting.numRxQueues]
  apply Triple.strengthen
    (rings.andThen (walk.setFlags Booting.inert (.inl (by decide)) (.control (by decide))))
  rintro _ rfl
  exact ⟨sized, file, watched, booting⟩

theorem initTx :
    Leads watch allowed len (Booting host.profile qs numRx numTx pool start ⟨numRx, 0, 0, 0, 0, 0⟩)
      (initTx host qs)
      (fun _ => Booting host.profile qs numRx numTx pool start ⟨numRx, numTx, numTx, 0, 0, 0⟩)
      fails := by
  have round : ∀ j, 0 ≤ j → j < 0 + numTx →
      Leads watch allowed len
        (Booting host.profile qs numRx numTx pool start ⟨numRx, j, j, 0, 0, 0⟩)
        (IgbDriver.initTxQueue host qs j)
        (fun _ => Booting host.profile qs numRx numTx pool start ⟨numRx, j + 1, j + 1, 0, 0, 0⟩)
          fails :=
    fun j _ below => walk.initTxQueue (by omega)
  have rings := Triple.forRange round
  rw [Nat.zero_add] at rings
  apply Triple.read
  rintro snapshot ⟨sized, file, watched, booting⟩
  rw [booting.numTxQueues]
  apply Triple.strengthen
    (rings.andThen (walk.control Booting.inert (.inl (by decide)) (.control (by decide))))
  rintro _ rfl
  exact ⟨sized, file, watched, booting⟩

theorem checkAligned {progress : Progress} (queues : 0 < numRx + numTx) :
    Leads watch allowed len (Booting host.profile qs numRx numTx pool start progress)
      (checkAligned host qs) (fun _ file arcs dev => qs &&& (qs - 1) = 0 ∧
        Booting host.profile qs numRx numTx pool start progress file arcs dev)
      (BootFails host.profile qs numRx numTx pool start) := by
  refine Triple.of_results (fun machine reason _ => ?_) (fun machine outcome after knows ran => ?_)
  · refine walk.ready.abortsOnly (fun ready => ?_) reason
    rw [IgbDriver.checkAligned, usizeSub_of_le ready.positive,
      Prog.bind_of_ok (Prog.lift_ok_apply _ _)]
    split <;> exact ⟨_, rfl⟩
  · obtain ⟨sized, file, watched, booting⟩ := knows
    obtain ⟨rfl, ⟨rfl, aligned⟩ | ⟨rfl, unaligned⟩⟩ := checkAligned_ok ran
    · exact ⟨sized, file, watched, aligned, booting⟩
    · exact ⟨progress, file, booting, .inl ⟨rfl, unaligned, queues⟩⟩

theorem armDescriptor (aligned : qs &&& (qs - 1) = 0) {queueId i : Nat} (inside : queueId < numRx)
    (below : i < qs) :
    Leads watch allowed len
      (Booting host.profile qs numRx numTx pool start ⟨numRx, numTx, numTx, queueId, i, 0⟩)
      (armDescriptor queueId i)
      (fun _ => Booting host.profile qs numRx numTx pool start
        ⟨numRx, numTx, numTx, queueId, i + 1, 0⟩)
      (BootFails host.profile qs numRx numTx pool start) := by
  refine Triple.of_results (fun machine reason knows => ?_)
    (fun machine outcome after knows ran => ?_)
  · obtain ⟨_, file, _, booting⟩ := knows
    refine walk.ready.abortsOnly (fun ready => ?_) reason
    obtain ⟨queue, found⟩ : ∃ queue, machine.dev.rxQueues[queueId]? = some queue :=
      ⟨_, List.getElem?_eq_getElem (by rw [booting.rxLength]; exact inside)⟩
    have built := booting.rxQueues queueId queue found
    refine armDescriptor_returns found (by rw [built.cells]; exact below) (fun id free => ?_)
    rw [built.pool] at free ⊢
    have entries := congrArg MemPool.numEntries (booting.layout pool)
    change (machine.arcs.pool pool).numEntries = (start.pool pool).numEntries at entries
    rw [entries]
    exact ready.inside id (booting.free_subset free)
  · obtain ⟨sized, file, watched, booting⟩ := knows
    obtain ⟨queue, found, outcomes⟩ := armDescriptor_ok ran
    have built := booting.rxQueues queueId queue found
    rcases outcomes with ⟨rfl, rfl, empty⟩ | ⟨id, rest, desc, phys, rfl, stack, cell, located, rfl⟩
    · rw [built.pool] at empty
      have laps : (queueId + 1) * qs ≤ numRx * qs := Nat.mul_le_mul_right qs inside
      rw [Nat.succ_mul] at laps
      refine ⟨_, file, booting, .inr ⟨rfl, aligned, empty, ?_⟩⟩
      change queueId * qs + i < numRx * qs
      omega
    · have place : (start.layout pool).getPhysAddr id = .ok phys := by
        rw [built.pool] at located
        rw [← booting.layout pool]
        exact located
      exact ⟨sized, file, watched, booting.arm aligned found stack cell place⟩

theorem startRxQueue {queueId : Nat} (inside : queueId < numRx) :
    Leads watch allowed len
      (Booting host.profile qs numRx numTx pool start ⟨numRx, numTx, numTx, queueId, 0, 0⟩)
      (startRxQueue host queueId)
      (fun _ => Booting host.profile qs numRx numTx pool start
        ⟨numRx, numTx, numTx, queueId + 1, 0, 0⟩)
      (BootFails host.profile qs numRx numTx pool start) := by
  have bank : ∀ {reg}, reg < 0xC02C + 0x40 * queueId → Reached numRx numTx reg := fun below =>
    .inr (.inl (by omega))
  have fetched : Leads watch allowed len
      (Booting host.profile qs numRx numTx pool start ⟨numRx, numTx, numTx, queueId, 0, 0⟩)
      (rxQueue queueId)
      (fun queue file arcs dev => queue.numDescriptors = qs ∧
        Booting host.profile qs numRx numTx pool start ⟨numRx, numTx, numTx, queueId, 0,
          0⟩ file arcs dev)
      (BootFails host.profile qs numRx numTx pool start) := by
    rintro machine ⟨sized, file, watched, booting⟩
    obtain ⟨queue, found⟩ : ∃ queue, machine.dev.rxQueues[queueId]? = some queue :=
      ⟨_, List.getElem?_eq_getElem (by rw [booting.rxLength]; exact inside)⟩
    rw [rxQueue, Prog.bind_read_apply, indexSlice_of_some found]
    exact ⟨sized, file, watched, (booting.rxQueues queueId queue found).numDescriptors, booting⟩
  apply fetched.bind
  intro queue
  apply Leads.assuming
  intro size
  rw [size]
  apply (walk.checkAligned (by omega)).bind
  intro _
  apply Leads.assuming
  intro aligned
  have round : ∀ i, 0 ≤ i → i < 0 + qs → Leads watch allowed len
      (Booting host.profile qs numRx numTx pool start ⟨numRx, numTx, numTx, queueId, i, 0⟩)
      (IgbDriver.armDescriptor queueId i)
      (fun _ => Booting host.profile qs numRx numTx pool start
        ⟨numRx, numTx, numTx, queueId, i + 1, 0⟩)
      (BootFails host.profile qs numRx numTx pool start) :=
    fun i _ below => walk.armDescriptor aligned inside (by omega)
  have armed := Triple.forRange round
  rw [Nat.zero_add] at armed
  apply armed.andThen
  apply Triple.andThen (walk.setFlagsAsks Booting.inert (bank (by unfold igbRxdctl; omega))
    (.rxdctl queueId) (fun responsive => responsive.receives queueId))
  apply (walk.wait (bank (by unfold igbRxdctl; omega)) _).andThen
  apply (walk.wrote (bank (by unfold igbRdh; omega))
    (.inr (by unfold RingRegister igbRdh; omega))).andThen
  apply Triple.bind
    (Triple.lift (walk.ready.abortsOnly (fun ready => ⟨_, usizeSub_of_le ready.positive⟩))
    (fun last _ back knows => knows.weaken (fun _ _ _ holds => And.intro back holds)))
  intro last
  apply Leads.assuming
  intro back
  refine walk.write (bank (by unfold igbRdt; omega))
    (.inr (by unfold RingRegister igbRdt; omega)) ?_
  rintro _ arcs dev window ⟨old, booting, rfl⟩
  refine booting.startRx aligned (fun positive => ?_) window
  rw [usizeSub_of_le positive] at back
  cases back
  rfl

theorem startTxQueue {j : Nat} (inside : j < numTx) :
    Leads watch allowed len
      (Booting host.profile qs numRx numTx pool start ⟨numRx, numTx, numTx, numRx, 0, j⟩)
      (startTxQueue host j)
      (fun _ => Booting host.profile qs numRx numTx pool start
        ⟨numRx, numTx, numTx, numRx, 0, j + 1⟩)
      (BootFails host.profile qs numRx numTx pool start) := by
  have bank : ∀ {reg}, reg < 0xE02C + 0x40 * j → Reached numRx numTx reg := fun below =>
    .inr (.inr (by omega))
  have fetched : Leads watch allowed len
      (Booting host.profile qs numRx numTx pool start ⟨numRx, numTx, numTx, numRx, 0, j⟩)
      (txQueue j)
      (fun queue file arcs dev => queue.numDescriptors = qs ∧
        Booting host.profile qs numRx numTx pool start ⟨numRx, numTx, numTx, numRx, 0,
          j⟩ file arcs dev)
      (BootFails host.profile qs numRx numTx pool start) := by
    rintro machine ⟨sized, file, watched, booting⟩
    obtain ⟨queue, found⟩ : ∃ queue, machine.dev.txQueues[j]? = some queue :=
      ⟨_, List.getElem?_eq_getElem (by rw [booting.txLength]; exact inside)⟩
    rw [txQueue, Prog.bind_read_apply, indexSlice_of_some found]
    exact ⟨sized, file, watched, (booting.txQueues j queue found).numDescriptors, booting⟩
  apply fetched.bind
  intro queue
  apply Leads.assuming
  intro size
  rw [size]
  apply (walk.checkAligned (by omega)).bind
  intro _
  apply Leads.assuming
  intro aligned
  apply (walk.wrote (bank (by unfold igbTdh; omega))
    (.inr (by unfold RingRegister igbTdh; omega))).andThen
  apply Triple.andThen (walk.write (bank (by unfold igbTdt; omega))
    (.inr (by unfold RingRegister igbTdt; omega)) ?_)
  · apply Triple.andThen
      (walk.setFlagsAsks Booting.inert (bank (by unfold igbTxdctl; omega)) (.txdctl j)
      (fun responsive => responsive.transmits j))
    exact walk.wait (bank (by unfold igbTxdctl; omega)) _
  · rintro _ arcs dev window ⟨old, booting, rfl⟩
    exact booting.startTx inside aligned window

/-- The whole of `init`: what it leaves when it succeeds, and how it fails. -/
theorem resetAndInit
    (begins : ∀ env, ∃ file, watch (host.writeVolatile igbCtrl igbCtrlGlobalRst env) file) :
    Triple allowed (Knows Unwatched len (fun _ => Fresh len numRx numTx start))
      (resetAndInit host qs pool) (fun _ => Knows watch len
        (Booting host.profile qs numRx numTx pool start ⟨numRx, numTx, numTx, numRx, 0, numTx⟩))
      (BootFails host.profile qs numRx numTx pool start) := by
  have before : Walk host Unwatched allowed len qs numRx numTx pool start :=
    ⟨unwatched host, walk.ready⟩
  have indifferent : Inert (fun _ => Fresh len numRx numTx start) := fun _ _ _ _ _ _ => id
  have receiving : ∀ i, 0 ≤ i → i < 0 + numRx → Leads watch allowed len
      (Booting host.profile qs numRx numTx pool start ⟨numRx, numTx, numTx, i, 0, 0⟩)
      (IgbDriver.startRxQueue host i)
      (fun _ => Booting host.profile qs numRx numTx pool start ⟨numRx, numTx, numTx, i + 1, 0, 0⟩)
      (BootFails host.profile qs numRx numTx pool start) :=
    fun i _ below => walk.startRxQueue (by omega)
  have sending : ∀ j, 0 ≤ j → j < 0 + numTx → Leads watch allowed len
      (Booting host.profile qs numRx numTx pool start ⟨numRx, numTx, numTx, numRx, 0, j⟩)
      (IgbDriver.startTxQueue host j)
      (fun _ => Booting host.profile qs numRx numTx pool start
        ⟨numRx, numTx, numTx, numRx, 0, j + 1⟩)
      (BootFails host.profile qs numRx numTx pool start) :=
    fun j _ below => walk.startTxQueue (by omega)
  have received := Triple.forRange receiving
  have sent := Triple.forRange sending
  rw [Nat.zero_add] at received sent
  apply (before.disableInterrupts indifferent).andThen
  apply (walk.globalReset begins).andThen
  apply (walk.pause 1000).andThen
  apply (walk.disableInterrupts indifferent).andThen
  apply Triple.andThen (walk.setFlagsAsks indifferent (.inl (by decide)) (.control (by decide))
    (fun responsive => responsive.loads))
  apply (walk.wait (.inl (by decide)) _).andThen
  apply (walk.initLink indifferent).andThen
  apply walk.resetStats.andThen
  apply Triple.strengthen (walk.initRx.andThen (walk.initTx.andThen (Triple.read ?_)))
  · rintro machine ⟨sized, file, watched, rfl, fresh⟩
    exact ⟨sized, file, watched, by rw [fresh]; exact .initial _ qs len numRx numTx pool file⟩
  · rintro snapshot ⟨sized, file, watched, booting⟩
    rw [booting.numRxQueues, booting.numTxQueues]
    apply Triple.strengthen (received.andThen (sent.andThen ?_))
    · rintro _ rfl
      exact ⟨sized, file, watched, booting⟩
    · apply (walk.clearInterrupts Booting.inert).andThen
      apply (walk.flag (by decide)).andThen
      apply walk.waitForLink.andThen
      exact walk.getMacAddr.bind (fun _ => Triple.pure (fun _ => id))

end Walk

section Result

variable {watch : σ → RegisterFile → Prop} {tracked : Nat → Prop} {len qs numRx numTx : Nat}
  {pool : PoolRef} {env env' : σ} {start arcs : Arcs} {dev : IgbDevice}

theorem knows_fresh : Knows Unwatched len (fun _ => Fresh len numRx numTx start)
    { env, arcs := start, dev := ⟨len, numRx, numTx, [], []⟩ } :=
  ⟨rfl, fun _ => 0, trivial, rfl, rfl⟩

/-- What a successful `init` leaves behind, with whatever is watched of the registers. -/
theorem init_watched (watching : Watch host watch)
    (begins : ∀ env, ∃ file, watch (host.writeVolatile igbCtrl igbCtrlGlobalRst env) file)
    (returned : init host qs len numRx numTx pool env start = .ok (.ok dev, env', arcs)) :
    ∃ file : RegisterFile, watch env' file ∧
      Booting host.profile qs numRx numTx pool start ⟨numRx, numTx, numTx, numRx, 0, numTx⟩ file
        arcs dev := by
  have walk : Walk host watch (fun _ => True) len qs numRx numTx pool start :=
    ⟨watching, .inl (fun _ => trivial)⟩
  exact ((walk.resetAndInit begins).of_ok (knows_fresh) (init_device returned)).2

theorem init_ok (law : ∀ reg, tracked reg → host.Holds reg)
    (returned : init host qs len numRx numTx pool env start = .ok (.ok dev, env', arcs)) :
    ∃ file : RegisterFile, (∀ reg, tracked reg → host.shows env' reg = file reg) ∧
      Booting host.profile qs numRx numTx pool start ⟨numRx, numTx, numTx, numRx, 0,
        numTx⟩ file arcs dev :=
  init_watched (Host.Follows.watch law) (fun _ => ⟨_, fun _ _ => rfl⟩) returned

/-- A failed `init` got as far as the half-built device says. -/
theorem resetAndInit_failure {failure : IgbError} {half : Machine σ}
    (ran : resetAndInit host qs pool { env, arcs := start, dev := ⟨len, numRx, numTx, [], []⟩ } =
      .ok (.error failure, half)) :
    BootFails host.profile qs numRx numTx pool start failure half := by
  have walk : Walk host Unwatched (fun _ => True) len qs numRx numTx pool start :=
    ⟨unwatched host, .inl (fun _ => trivial)⟩
  exact (walk.resetAndInit (fun _ => ⟨fun _ => 0, trivial⟩)).of_fail (knows_fresh) ran

end Result

theorem foldl_kept {α β : Type} {release : Arcs → α → Arcs} {view : Arcs → β}
    (keeps : ∀ arcs item, view (release arcs item) = view arcs) (items : List α) (arcs : Arcs) :
    view (items.foldl release arcs) = view arcs := by
  induction items generalizing arcs with
  | nil => rfl
  | cons head tail ih => exact (ih _).trans (keeps arcs head)

/-- What dropping a handle keeps, dropping a device keeps. -/
theorem dropDevice_kept {β : Type} (view : Arcs → β)
    (drops : ∀ arcs ref, view (Arcs.drop arcs ref) = view arcs) (dev : IgbDevice)
    (arcs : Arcs) : view (dropDevice dev arcs) = view arcs := by
  apply (foldl_kept _ dev.txQueues _).trans (foldl_kept _ dev.rxQueues arcs)
  · intro arcs queue
    split
    · exact drops _ _
    · rfl
  · exact fun arcs queue => drops arcs queue.pool

/-- Dropping a device gives no entry back: the queues hold plain numbers. -/
theorem free_dropDevice (dev : IgbDevice) (arcs : Arcs) (ref : PoolRef) :
    (dropDevice dev arcs).free ref = arcs.free ref :=
  dropDevice_kept (fun arcs => arcs.free ref)
    (fun arcs other => Arcs.free_drop arcs other ref) dev arcs

theorem layout_dropDevice (dev : IgbDevice) (arcs : Arcs) (ref : PoolRef) :
    (dropDevice dev arcs).layout ref = arcs.layout ref :=
  dropDevice_kept (fun arcs => arcs.layout ref)
    (fun arcs other => Arcs.layout_drop arcs other ref) dev arcs

/-- What a failed `init` leaves of the pools. -/
theorem init_error {qs len numRx numTx : Nat} {pool : PoolRef} {start arcs : Arcs} {env env' : σ}
    {failure : IgbError}
    (returned : init host qs len numRx numTx pool env start = .ok (.error failure, env', arcs)) :
    (failure = .queueNotAligned ∧ qs &&& (qs - 1) ≠ 0 ∧
      ∀ ref id, (arcs.free ref).count id = (start.free ref).count id) ∨
    (failure = .noMemory ∧ qs &&& (qs - 1) = 0 ∧ arcs.free pool = []) := by
  obtain ⟨half, ran, rfl⟩ := init_failure returned
  simp only [free_dropDevice]
  obtain ⟨progress, file, booting, ⟨rfl, unaligned, _⟩ | ⟨rfl, aligned, empty, _⟩⟩ :=
    resetAndInit_failure ran
  · exact .inl ⟨rfl, unaligned, booting.untouched unaligned⟩
  · exact .inr ⟨rfl, aligned, empty⟩

/-- A system as `init` hands it to its caller; the caller may hold any handles and
packets. -/
structure Booted (host : Host σ) (qs numRx numTx : Nat) (pool : PoolRef) (before : Arcs)
    (system : System) : Prop where
  returned : ∃ len env env', init host qs len numRx numTx pool env before =
    .ok (.ok system.machine.dev, env', system.machine.arcs) ∧ system.machine.env = host.shows env'
  control : system.control = .idle

theorem ringRegister_rx {i offset : Nat}
    (bank : offset = 0 ∨ offset = 4 ∨ offset = 8 ∨ offset = 16 ∨ offset = 24) :
    RingRegister (igbRdbal i + offset) := by
  simp only [RingRegister, igbRdbal]
  omega

theorem ringRegister_tx {j offset : Nat}
    (bank : offset = 0 ∨ offset = 4 ∨ offset = 8 ∨ offset = 16 ∨ offset = 24) :
    RingRegister (igbTdbal j + offset) := by
  simp only [RingRegister, igbTdbal]
  omega

namespace Booted

variable {qs numRx numTx queueId : Nat} {pool : PoolRef} {before : Arcs} {system : System}

/-- The device and the pools of a booted system, whatever is known of the registers. -/
theorem booting (booted : Booted host qs numRx numTx pool before system) :
    ∃ file, Booting host.profile qs numRx numTx pool before ⟨numRx, numTx, numTx, numRx,
      0, numTx⟩ file system.machine.arcs system.machine.dev := by
  obtain ⟨len, env, env', returned, _⟩ := booted.returned
  obtain ⟨file, _, booting⟩ :=
    init_watched (unwatched host) (fun _ => ⟨fun _ => 0, trivial⟩) returned
  exact ⟨file, booting⟩

/-- With ring registers that are memory, the registers too. -/
theorem programmed (law : ∀ reg, RingRegister reg → host.Holds reg)
    (booted : Booted host qs numRx numTx pool before system) :
    ∃ file : RegisterFile, (∀ reg, RingRegister reg → system.machine.env reg = file reg) ∧
      Booting host.profile qs numRx numTx pool before ⟨numRx, numTx, numTx, numRx, 0, numTx⟩ file
        system.machine.arcs system.machine.dev := by
  obtain ⟨len, env, env', returned, shown⟩ := booted.returned
  rw [shown]
  exact init_ok law returned

theorem txRing (law : ∀ reg, RingRegister reg → host.Holds reg) (positive : 0 < qs)
    (booted : Booted host qs numRx numTx pool before system) (inside : queueId < numTx) :
    ∃ view, system.txView queueId = some view ∧ TxRing qs queueId view [] [] [] := by
  obtain ⟨file, shown, booting⟩ := booted.programmed law
  obtain ⟨queue, found⟩ : ∃ queue, system.txQueue? queueId = some queue :=
    ⟨_, List.getElem?_eq_getElem (by rw [booting.txLength]; exact inside)⟩
  have built := booting.txQueues queueId queue found
  have started := booting.txTails queueId inside
  have programmed := booting.txRings queueId queue found
  refine ⟨_, System.txView_eq found, ?_⟩
  have phase : system.control.txPhase queueId = .quiet := by rw [booted.control]; rfl
  have head : system.machine.env (igbTdh queueId) = 0 := by
    rw [igbTdh_eq, shown _ (ringRegister_tx (by decide)), started.head]
  have tail : system.machine.env (igbTdt queueId) = 0 := by
    rw [igbTdt_eq, shown _ (ringRegister_tx (by decide)), started.tail]
  have length : system.machine.env (igbTdlen queueId) = BitVec.ofNat 32 (16 * qs) := by
    rw [igbTdlen_eq, shown _ (ringRegister_tx (by decide)), programmed.length]
  simp only [System.txViewOf]
  rw [phase, head, tail, length]
  exact .initial built.numDescriptors built.cells built.bufs built.txIndex built.cleanIndex positive

theorem rxRing (law : ∀ reg, RingRegister reg → host.Holds reg) (positive : 0 < qs)
    (booted : Booted host qs numRx numTx pool before system) (inside : queueId < numRx)
    (low : queueId < 128) :
    ∃ view, system.rxView queueId = some view ∧ RxRing qs queueId view [] := by
  obtain ⟨file, shown, booting⟩ := booted.programmed law
  obtain ⟨queue, found⟩ : ∃ queue, system.rxQueue? queueId = some queue :=
    ⟨_, List.getElem?_eq_getElem (by rw [booting.rxLength]; exact inside)⟩
  have built := booting.rxQueues queueId queue found
  have filled : Progress.armedIn ⟨numRx, numTx, numTx, numRx, 0, numTx⟩ qs queueId = qs :=
    if_pos inside
  rw [filled] at built
  have started := booting.rxTails queueId inside (.inl low) positive
  have programmed := booting.rxRings queueId queue found (.inl low)
  refine ⟨_, System.rxView_eq found, ?_⟩
  have phase : system.control.rxPhase queueId = .quiet := by rw [booted.control]; rfl
  have head : system.machine.env (igbRdh queueId) = 0 := by
    rw [igbRdh_eq, shown _ (ringRegister_rx (by decide)), started.head]
  have tail : system.machine.env (igbRdt queueId) = BitVec.ofNat 32 (qs - 1) := by
    rw [igbRdt_eq, shown _ (ringRegister_rx (by decide)), started.tail]
  have length : system.machine.env (igbRdlen queueId) = BitVec.ofNat 32 (16 * qs) := by
    rw [igbRdlen_eq, shown _ (ringRegister_rx (by decide)), programmed.length]
  have layout : system.machine.arcs.layout queue.pool = before.layout pool := by
    rw [built.pool, booting.layout]
  simp only [System.rxViewOf]
  rw [phase, head, tail, length, layout]
  exact .initial built.numDescriptors built.cells built.bufs built.rxIndex positive built.armed

end Booted

end IgbDriver
