import IgbDriver.Draining

namespace IgbDriver

open Foundation

/-! # Each queue's own registers

Receive queues from 128 on would use the registers of the transmit queues. `init`
checks neither count.
-/

/-- A queue, told from the others by its direction. -/
inductive QueueRing where
  | rx (queueId : Nat)
  | tx (queueId : Nat)
deriving DecidableEq

namespace QueueRing

/-- The registers of base, length and tail. -/
def bal : QueueRing → Nat
  | .rx i => igbRdbal i
  | .tx j => igbTdbal j

def bah : QueueRing → Nat
  | .rx i => igbRdbah i
  | .tx j => igbTdbah j

def len : QueueRing → Nat
  | .rx i => igbRdlen i
  | .tx j => igbTdlen j

def tail : QueueRing → Nat
  | .rx i => igbRdt i
  | .tx j => igbTdt j

def registers (ring : QueueRing) : List Nat := [ring.bal, ring.bah, ring.len, ring.tail]

/-- The queue is one of those asked for. -/
def Among (numRx numTx : Nat) : QueueRing → Prop
  | .rx i => i < numRx
  | .tx j => j < numTx

end QueueRing

/-- The registers assumed to hold what was last written. -/
def StoredRegister (reg : Nat) : Prop :=
  0xC000 ≤ reg ∧ (reg % 64 = 0 ∨ reg % 64 = 4 ∨ reg % 64 = 8 ∨ reg % 64 = 24)

/-- The registers of a queue describe its ring. -/
structure RingShown (file : RegisterFile) (ring : QueueRing) (phys : BitVec 64)
    (bytes tail : Nat) : Prop where
  low : file ring.bal = phys.setWidth 32
  high : file ring.bah = (phys >>> 32).setWidth 32
  length : (file ring.len).toNat = bytes
  tail : (file ring.tail).toNat = tail

/-- What `init` promises of the registers. -/
structure RingsShown (qs : Nat) (system : System) : Prop where
  rx : ∀ i queue, system.rxQueue? i = some queue →
    RingShown system.machine.env (.rx i) queue.descriptors.phys (16 * qs) (qs - 1)
  tx : ∀ j queue, system.txQueue? j = some queue →
    RingShown system.machine.env (.tx j) queue.descriptors.phys (16 * qs) 0

/-- The queue a driver call in progress works on. -/
def Control.ring : Control → Option QueueRing
  | .idle => none
  | .ringing queueId => some (.tx queueId)
  | .recycling queueId _ _ => some (.tx queueId)
  | .receiving queueId .. => some (.rx queueId)
  | .delivering queueId .. => some (.rx queueId)
  | .publishing queueId .. => some (.rx queueId)

def Action.isDevice : Action → Bool
  | .rxStore .. => true
  | .txDone .. => true
  | _ => false

/-- The queue a step of the driver works on. -/
def System.works (system : System) : Action → Option QueueRing
  | .send queueId _ => some (.tx queueId)
  | .recycle queueId => some (.tx queueId)
  | .receive queueId _ => some (.rx queueId)
  | .resume => system.control.ring
  | _ => none

/-- No step of the driver touches the registers of another queue. -/
def System.Isolated (profile : Profile) (numRx numTx : Nat) (system : System) : Prop :=
  ∀ action events after, action.isDevice = false →
    next profile system action = some (.ok (events, after)) →
    ∀ other : QueueRing, other.Among numRx numTx → system.works action ≠ some other →
      ∀ reg ∈ other.registers, after.machine.env reg = system.machine.env reg

/-- The registers are right after `init`, and each queue keeps to its own. -/
def RegistersKept (profile : Profile) (qs numRx numTx : Nat) (system : System) : Prop :=
  RingsShown qs system ∧ ∀ trace after, Run (next profile) (fun _ _ => True) system trace after →
    after.Isolated profile numRx numTx

section Steps

variable {profile : Profile} {system after : System} {action : Action} {events : List Event}

/-- The only registers the driver writes in operation are tails, at the end of a call. -/
theorem Step.env (step : Step profile system action events after)
    (driver : action.isDevice = false) :
    after.machine.env = system.machine.env ∨
      action = .resume ∧ ((∃ queueId value, system.control = .ringing queueId ∧
          queueId < system.machine.dev.txQueues.length ∧
          after.machine.env = system.machine.env.write (igbTdt queueId) value) ∨
        ∃ queueId rxIndex lastRxIndex recvNums value,
          system.control = .publishing queueId rxIndex lastRxIndex recvNums ∧
          rxIndex ≠ lastRxIndex ∧
          queueId < system.machine.dev.rxQueues.length ∧
          after.machine.env = system.machine.env.write (igbRdt queueId) value) := by
  cases step with
  | report | allocate | construct | drop | cloneHandle | dropHandle | reject | send | recycle | round
  | release | commit | receive | take | halt | rearm | finish => exact .inl rfl
  | ring control found =>
      exact .inr ⟨rfl, .inl ⟨_, _, control, (List.getElem?_eq_some_iff.mp found).1, rfl⟩⟩
  | publish control moved found =>
      exact .inr ⟨rfl,
        .inr ⟨_, _, _, _, _, control, moved, (List.getElem?_eq_some_iff.mp found).1, rfl⟩⟩
  | rxStore | txDone => cases driver

theorem tail_not_mem_registers {own other : QueueRing} (different : own ≠ other)
    (unaliased : ∀ j,
      (own = .rx (j + 128) ∧ other = .tx j ∨ own = .tx j ∧ other = .rx (j + 128)) → False) :
    own.tail ∉ other.registers := by
  intro member
  simp only [QueueRing.registers, List.mem_cons, List.not_mem_nil, or_false] at member
  cases own with
  | rx i =>
      cases other with
      | rx k =>
          have apart : i ≠ k := fun same => different (by rw [same])
          simp only [QueueRing.tail, QueueRing.bal, QueueRing.bah, QueueRing.len, igbRdt, igbRdbal,
            igbRdbah, igbRdlen] at member
          omega
      | tx j =>
          have apart : i ≠ j + 128 := fun same => unaliased j (.inl ⟨by rw [same], rfl⟩)
          simp only [QueueRing.tail, QueueRing.bal, QueueRing.bah, QueueRing.len, igbRdt, igbTdt,
            igbTdbal, igbTdbah, igbTdlen] at member
          omega
  | tx j =>
      cases other with
      | rx i =>
          have apart : i ≠ j + 128 := fun same => unaliased j (.inr ⟨rfl, by rw [same]⟩)
          simp only [QueueRing.tail, QueueRing.bal, QueueRing.bah, QueueRing.len, igbRdt, igbTdt,
            igbRdbal, igbRdbah, igbRdlen] at member
          omega
      | tx k =>
          have apart : j ≠ k := fun same => different (by rw [same])
          simp only [QueueRing.tail, QueueRing.bal, QueueRing.bah, QueueRing.len, igbTdt, igbTdbal,
            igbTdbah, igbTdlen] at member
          omega

/-- With few receive queues or no transmit queue, no step touches another's registers. -/
theorem isolated_of_unaliased {numRx numTx : Nat} (unaliased : numRx ≤ 128 ∨ numTx = 0)
    (rxLength : system.machine.dev.rxQueues.length = numRx)
    (txLength : system.machine.dev.txQueues.length = numTx) :
    system.Isolated profile numRx numTx := by
  intro action events after driver stepped other among elsewhere reg member
  have untouched : ∀ own : QueueRing, own.Among numRx numTx → own ≠ other → reg ≠ own.tail := by
    rintro own present different rfl
    refine tail_not_mem_registers different ?_ member
    rintro j (⟨rfl, rfl⟩ | ⟨rfl, rfl⟩)
    · change j + 128 < numRx at present
      change j < numTx at among
      omega
    · change j < numTx at present
      change j + 128 < numRx at among
      omega
  rcases (next_step stepped).env driver with same | ⟨rfl, ⟨queueId, value, control, inside, same⟩ |
    ⟨queueId, _, _, _, value, control, _, inside, same⟩⟩
  · rw [same]
  · rw [same]
    refine RegisterFile.write_of_ne _ _ (untouched (.tx queueId) ?_ ?_)
    · change queueId < numTx
      omega
    · intro same
      subst same
      exact elsewhere (by rw [System.works, control]; rfl)
  · rw [same]
    refine RegisterFile.write_of_ne _ _ (untouched (.rx queueId) ?_ ?_)
    · change queueId < numRx
      omega
    · intro same
      subst same
      exact elsewhere (by rw [System.works, control]; rfl)

end Steps

/-- The call in progress will not write a tail: with one descriptor a queue is full from
the start and no receive call gets past its first descriptor. -/
def Control.Motionless : Control → Prop
  | .ringing _ => False
  | .receiving _ _ rxIndex lastRxIndex _ => rxIndex = 0 ∧ lastRxIndex = 0
  | .delivering _ _ rxIndex _ _ => rxIndex = 0
  | .publishing _ rxIndex lastRxIndex _ => rxIndex = lastRxIndex
  | _ => True

structure System.Still (system : System) : Prop where
  control : system.control.Motionless
  rx : ∀ queue ∈ system.machine.dev.rxQueues, queue.numDescriptors = 1 ∧ queue.rxIndex = 0

theorem TxShape.canSend_one {queue : IgbTxQueue} (shape : TxShape 1 queue) (profile : Profile) :
    queue.canSend profile = .ok false := by
  refine (shape.canSend_eq ⟨0, rfl⟩ (by decide) profile).trans (congrArg Except.ok ?_)
  have near := Ring.distance_lt (show 0 < 1 by decide) queue.cleanIndex queue.txIndex
  exact decide_eq_false (not_not_intro (by omega))

section Still

variable {σ : Type} {host : Host σ} {profile : Profile} {numRx numTx : Nat} {pool : PoolRef}
  {before : Arcs} {system after : System} {action : Action} {events trace : List Event}

theorem System.Still.of (still : system.Still) {queueId : Nat} {queue : IgbRxQueue}
    (found : system.rxQueue? queueId = some queue) : queue.numDescriptors = 1 ∧ queue.rxIndex = 0 :=
  still.rx queue (List.mem_of_getElem? found)

theorem System.Still.set (still : system.Still) {queueId : Nat} {old new : IgbRxQueue}
    (found : system.rxQueue? queueId = some old)
    (same : new.numDescriptors = old.numDescriptors ∧ new.rxIndex = old.rxIndex) :
    ∀ queue ∈ system.machine.dev.rxQueues.set queueId new, queue.numDescriptors = 1 ∧
      queue.rxIndex = 0 := by
  intro queue queued
  rcases List.mem_or_eq_of_mem_set queued with kept | rfl
  · exact still.rx queue kept
  · rw [same.1, same.2]
    exact still.of found

theorem Step.still (step : Step profile system action events after) (still : system.Still)
    (shapes : ∀ (queueId : Nat) queue, system.txQueue? queueId = some queue → TxShape 1 queue) :
    after.Still := by
  have motionless := still.control
  cases step with
  | report | allocate | construct | drop | cloneHandle | dropHandle | reject | txDone =>
      exact ⟨motionless, still.rx⟩
  | ring | recycle | round | release | commit | finish => exact ⟨trivial, still.rx⟩
  | send _ _ found room =>
      rw [(shapes _ _ found).canSend_one] at room
      cases room
  | receive _ found => exact ⟨⟨(still.of found).2, (still.of found).2⟩, still.rx⟩
  | take control found =>
      rw [control] at motionless
      exact ⟨motionless.1, still.set found ⟨rfl, rfl⟩⟩
  | halt control =>
      rw [control] at motionless
      exact ⟨motionless.1.trans motionless.2.symm, still.rx⟩
  | rearm control found rearms =>
      rw [control] at motionless
      have wraps := rearms.wraps
      rw [show _ = 0 from motionless, (still.of found).1] at wraps
      refine ⟨⟨wrapRing_ok ⟨0, rfl⟩ (by decide) (by decide) wraps, motionless⟩,
        still.set found ⟨rfl, rfl⟩⟩
  | publish control moved found =>
      rw [control] at motionless
      exact absurd motionless moved
  | rxStore found => exact ⟨motionless, still.set found ⟨rfl, rfl⟩⟩

theorem Still.run (booted : Booted host 1 numRx numTx pool before system)
    (run : Run (next profile) (fun _ _ => True) system trace after) : after.Still := by
  obtain ⟨file, booting⟩ := booted.booting
  induction run with
  | refl =>
      refine ⟨by rw [booted.control]; trivial, fun queue queued => ?_⟩
      obtain ⟨i, found⟩ := List.getElem?_of_mem queued
      have built := booting.rxQueues i queue found
      exact ⟨built.numDescriptors, built.rxIndex⟩
  | next earlier _ stepped ih =>
      refine (next_step stepped).still ih (fun queueId _ found => ?_)
      have inside : queueId < numTx := by
        have length : system.machine.dev.txQueues.length = numTx := booting.txLength
        rw [← length, ← (lengths_run earlier).2]
        exact (List.getElem?_eq_some_iff.mp found).1
      obtain ⟨same, found', shape⟩ := TxShape.run (by decide) (by decide) booted inside earlier
      rw [found] at found'
      cases found'
      exact shape

theorem isolated_of_still (still : system.Still) : system.Isolated profile numRx numTx := by
  intro action events after driver stepped other among elsewhere reg member
  have motionless := still.control
  rcases (next_step stepped).env driver with same | ⟨rfl, ⟨queueId, value, control, _, _⟩ |
    ⟨queueId, _, _, _, value, control, moved, _, _⟩⟩
  · rw [same]
  · rw [control] at motionless
    cases motionless
  · rw [control] at motionless
    exact absurd motionless moved

end Still

namespace QueueRing

theorem bah_eq (ring : QueueRing) : ring.bah = ring.bal + 4 := by
  cases ring with
  | rx i => exact igbRdbah_eq i
  | tx j => exact igbTdbah_eq j

theorem len_eq (ring : QueueRing) : ring.len = ring.bal + 8 := by
  cases ring with
  | rx i => exact igbRdlen_eq i
  | tx j => exact igbTdlen_eq j

theorem tail_eq (ring : QueueRing) : ring.tail = ring.bal + 24 := by
  cases ring with
  | rx i => exact igbRdt_eq i
  | tx j => exact igbTdt_eq j

theorem stored (ring : QueueRing) {offset : Nat}
    (bank : offset = 0 ∨ offset = 4 ∨ offset = 8 ∨ offset = 24) :
    StoredRegister (ring.bal + offset) := by
  unfold StoredRegister
  cases ring with
  | rx i =>
      simp only [bal, igbRdbal]
      omega
  | tx j =>
      simp only [bal, igbTdbal]
      omega

/-- The receive queue 128 past a transmit queue has its registers. -/
theorem alias_bal (j : Nat) : (QueueRing.rx (j + 128)).bal = (QueueRing.tx j).bal := by
  simp only [bal, igbRdbal, igbTdbal]
  omega

end QueueRing

theorem StoredRegister.ring {reg : Nat} (stored : StoredRegister reg) : RingRegister reg := by
  unfold StoredRegister at stored
  unfold RingRegister
  omega

/-- The halves of an address determine it. -/
theorem phys_of_halves {left right : BitVec 64} (low : left.setWidth 32 = right.setWidth 32)
    (high : (left >>> 32).setWidth 32 = (right >>> 32).setWidth 32) : left = right := by
  have lower := congrArg BitVec.toNat low
  have upper := congrArg BitVec.toNat high
  simp only [BitVec.toNat_setWidth, BitVec.toNat_ushiftRight,
    Nat.shiftRight_eq_div_pow] at lower upper
  have leftBound := left.isLt
  have rightBound := right.isLt
  exact BitVec.eq_of_toNat_eq (by omega)

section Init

variable {σ : Type} {host : Host σ} {file shown : RegisterFile} {phys : BitVec 64}
  {qs numRx numTx : Nat} {pool : PoolRef} {before : Arcs} {system : System}

theorem ringShown (ring : QueueRing) (agrees : ∀ reg, StoredRegister reg → shown reg = file reg)
    (bound : 16 * qs < 4294967296) (programmed : RingProgrammed file ring.bal qs phys)
    {tail : BitVec 32} (started : RingStarted file ring.bal tail) : RingShown shown ring phys
      (16 * qs) tail.toNat where
  low := by
    have same := agrees _ (ring.stored (.inl rfl))
    rw [Nat.add_zero] at same
    rw [same, programmed.low]
  high := by rw [ring.bah_eq, agrees _ (ring.stored (by decide)), programmed.high]
  length := by
    rw [ring.len_eq, agrees _ (ring.stored (by decide)), programmed.length, BitVec.toNat_ofNat]
    exact Nat.mod_eq_of_lt bound
  tail := by rw [ring.tail_eq, agrees _ (ring.stored (by decide)), started.tail]

theorem RingShown.alias {j bytes tail : Nat} (here : RingShown shown (.tx j) phys bytes tail) :
    RingShown shown (.rx (j + 128)) phys bytes tail where
  low := by rw [QueueRing.alias_bal, here.low]
  high := by rw [QueueRing.bah_eq, QueueRing.alias_bal, ← QueueRing.bah_eq, here.high]
  length := by rw [QueueRing.len_eq, QueueRing.alias_bal, ← QueueRing.len_eq, here.length]
  tail := by rw [QueueRing.tail_eq, QueueRing.alias_bal, ← QueueRing.tail_eq, here.tail]

/-- What the registers show after `init`, shared or not. -/
theorem Booted.ringsShown (least : 1 ≤ qs) (bound : 16 * qs < 4294967296)
    (law : ∀ reg, StoredRegister reg → host.Holds reg)
    (booted : Booted host qs numRx numTx pool before system) :
    (∀ i queue, system.rxQueue? i = some queue → Unshared numTx i →
      RingShown system.machine.env (.rx i) queue.descriptors.phys (16 * qs) (qs - 1)) ∧
    ∀ j queue, system.txQueue? j = some queue →
      RingShown system.machine.env (.tx j) queue.descriptors.phys (16 * qs) 0 := by
  obtain ⟨len, env, env', returned, same⟩ := booted.returned
  obtain ⟨file, agrees, booting⟩ := init_ok law returned
  rw [same]
  refine ⟨fun i queue found unshared => ?_, fun j queue found => ?_⟩
  · have inside : i < numRx := by
      have length : system.machine.dev.rxQueues.length = numRx := booting.rxLength
      rw [← length]
      exact (List.getElem?_eq_some_iff.mp found).1
    have started := booting.rxTails i inside unshared least
    have here : RingShown (host.shows env') (.rx i) queue.descriptors.phys (16 * qs)
        (BitVec.ofNat 32 (qs - 1)).toNat :=
      ringShown (.rx i) agrees bound (booting.rxRings i queue found unshared) started
    rwa [BitVec.toNat_ofNat, Nat.mod_eq_of_lt (by omega)] at here
  · have inside : j < numTx := by
      have length : system.machine.dev.txQueues.length = numTx := booting.txLength
      rw [← length]
      exact (List.getElem?_eq_some_iff.mp found).1
    have here : RingShown (host.shows env') (.tx j) queue.descriptors.phys (16 * qs)
        (0 : BitVec 32).toNat :=
      ringShown (.tx j) agrees bound (booting.txRings j queue found) (booting.txTails j inside)
    exact here

/-- The registers are right and stay apart exactly if no receive queue shares those of a
transmit queue, or the rings are of one descriptor and the sharing ones at one place. -/
theorem registers_kept_iff (least : 1 ≤ qs) (bound : 16 * qs < 4294967296)
    (law : ∀ reg, StoredRegister reg → host.Holds reg)
    (booted : Booted host qs numRx numTx pool before system) :
    RegistersKept host.profile qs numRx numTx system ↔
      numRx ≤ 128 ∨ numTx = 0 ∨ qs = 1 ∧ ∀ (j : Nat) rx tx, system.rxQueue? (j + 128) = some rx →
        system.txQueue? j = some tx → rx.descriptors.phys = tx.descriptors.phys := by
  obtain ⟨rxShown, txShown⟩ := booted.ringsShown least bound law
  obtain ⟨file, booting⟩ := booted.booting
  have rxLength : system.machine.dev.rxQueues.length = numRx := booting.rxLength
  have txLength : system.machine.dev.txQueues.length = numTx := booting.txLength
  constructor
  · intro shown
    obtain ⟨kept, _⟩ := shown
    by_contra shared
    have aliased : ∀ (j : Nat) rx tx, system.rxQueue? (j + 128) = some rx →
        system.txQueue? j = some tx → qs = 1 ∧ rx.descriptors.phys = tx.descriptors.phys := by
      intro j rx tx receiving sending
      have mine := kept.rx _ rx receiving
      have theirs := (txShown j tx sending).alias
      refine ⟨?_, phys_of_halves (mine.low.symm.trans theirs.low)
        (mine.high.symm.trans theirs.high)⟩
      have tails := mine.tail.symm.trans theirs.tail
      omega
    obtain ⟨rx, receiving⟩ : ∃ rx, system.rxQueue? (0 + 128) = some rx :=
      ⟨_, List.getElem?_eq_getElem (by omega)⟩
    obtain ⟨tx, sending⟩ : ∃ tx, system.txQueue? 0 = some tx :=
      ⟨_, List.getElem?_eq_getElem (by omega)⟩
    exact shared (.inr (.inr ⟨(aliased 0 rx tx receiving sending).1,
      fun j rx tx receiving sending => (aliased j rx tx receiving sending).2⟩))
  · intro separate
    refine ⟨⟨fun i queue found => ?_, txShown⟩, fun trace after run => ?_⟩
    · have inside : i < numRx := by
        rw [← rxLength]
        exact (List.getElem?_eq_some_iff.mp found).1
      by_cases unshared : Unshared numTx i
      · exact rxShown i queue found unshared
      · obtain ⟨j, rfl⟩ : ∃ j, i = j + 128 := ⟨i - 128, by unfold Unshared at unshared; omega⟩
        unfold Unshared at unshared
        obtain ⟨rfl, same⟩ := (separate.resolve_left (by omega)).resolve_left (by omega)
        obtain ⟨tx, sending⟩ : ∃ tx, system.txQueue? j = some tx :=
          ⟨_, List.getElem?_eq_getElem (by omega)⟩
        rw [same j queue tx found sending]
        exact (txShown j tx sending).alias
    · rcases separate with few | none | ⟨rfl, _⟩
      · exact isolated_of_unaliased (.inl few) ((lengths_run run).1.trans rxLength)
          ((lengths_run run).2.trans txLength)
      · exact isolated_of_unaliased (.inr none) ((lengths_run run).1.trans rxLength)
          ((lengths_run run).2.trans txLength)
      · exact isolated_of_still (Still.run booted run)

/-- Two receive queues and a transmit queue. -/
theorem registers_kept_iff_three : ∃ system : System,
    Booted (platform .dev) 4 2 1 0 (freshArcs 8) system ∧ RegistersKept .dev 4 2 1 system := by
  obtain ⟨system, booted, _⟩ := (Option.any_eq_true _ _).mp
    (show (bootPlatform .dev 4 2 1 8).any (fun _ => true) = true by decide +kernel)
  obtain ⟨boots, _, _⟩ := booted_of_boot booted
  exact ⟨system, boots, (registers_kept_iff (by decide) (by decide)
    (fun reg stored => platform_holds .dev reg stored.ring) boots).mpr (.inl (by decide))⟩

/-- With 129 receive queues `init` succeeds, and the last of them is left with the tail
of the transmit queue. -/
theorem registers_shared : ∃ system : System,
    Booted (platform .dev) 2 129 1 0 (freshArcs 258) system ∧
      ¬ RegistersKept .dev 2 129 1 system := by
  obtain ⟨system, booted, accepted⟩ := (Option.any_eq_true _ _).mp
    (show (bootPlatform .dev 2 129 1 258).any (fun system => (system.rxQueue? 128).isSome &&
      system.machine.env (igbRdt 128) == 0) = true by decide +kernel)
  obtain ⟨boots, _, _⟩ := booted_of_boot booted
  rw [Bool.and_eq_true, beq_iff_eq] at accepted
  obtain ⟨queue, found⟩ := Option.isSome_iff_exists.mp accepted.1
  refine ⟨system, boots, fun kept => ?_⟩
  have tail := (kept.1.rx 128 queue found).tail
  change (system.machine.env (igbRdt 128)).toNat = 2 - 1 at tail
  rw [accepted.2] at tail
  cases tail

end Init

end IgbDriver
