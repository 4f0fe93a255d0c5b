import IgbDriver.Placement
import IgbDriver.RxQueue
import IgbDriver.Stores

namespace IgbDriver

open Foundation

/-! # Whether a frame fits its slot

The device is told no buffer size: it stores up to 2048 bytes wherever a descriptor
points. Nothing compares this with the entry size of the pool.
-/

/-- The bytes from `address` on lie in the memory of entry `id`. -/
def MemPool.SlotHolds (pool : MemPool) (id address length : Nat) : Prop :=
  ∃ base, pool.getPhysAddr id = .ok base ∧ base ≤ address ∧ address + length ≤ base + pool.entrySize

/-- The same as the caller sees the memory. -/
def MemPool.SlotShows (profile : Profile) (pool : MemPool) (id address length : Nat) : Prop :=
  ∃ base, pool.getVirtAddr profile id = .ok base ∧ base ≤ address ∧ address + length ≤
    base + pool.entrySize

def System.rxDescriptor? (system : System) (queueId slot : Nat) : Option AdvancedRxDescriptor :=
  (system.rxQueue? queueId).bind fun queue => queue.descriptors.cells[slot]?

/-- The device owns the descriptors from the head up to the tail, as its registers show
them, until it has set DD in them. -/
def System.DeviceOwns (system : System) (qs queueId slot : Nat) : Prop :=
  Ring.Between qs (system.machine.env (igbRdh queueId)).toNat
    (system.machine.env (igbRdt queueId)).toNat slot ∧
    ∃ desc ∈ system.rxDescriptor? queueId slot, desc.done = false

instance (system : System) (qs queueId slot : Nat) :
    Decidable (system.DeviceOwns qs queueId slot) :=
  inferInstanceAs (Decidable ((_ ∧ _) ∧ _))

/-- Receptions go to descriptors the device owns, in any order, with DD set and at most
2048 bytes. -/
def StoresOwned (qs : Nat) : Policy := fun system action =>
  match action with
  | .rxStore queueId index writeBack => system.DeviceOwns qs queueId index ∧
      writeBack.descriptor.done = true ∧ writeBack.length ≤ 2048
  | _ => True

instance (qs : Nat) (system : System) : (action : Action) → Decidable (StoresOwned qs system action)
  | .rxStore .. => inferInstanceAs (Decidable (_ ∧ _ ∧ _))
  | .pool _ => isTrue trivial
  | .send .. => isTrue trivial
  | .recycle _ => isTrue trivial
  | .receive .. => isTrue trivial
  | .resume => isTrue trivial
  | .txDone .. => isTrue trivial

/-- What the device may store, what it has stored and what was delivered stays in the
slots it belongs to. -/
structure FramesFit (profile : Profile) (qs queueId : Nat) (ref : PoolRef) (system : System)
    (trace : List Event) : Prop where
  owned : ∀ queue slot, system.rxQueue? queueId = some queue → system.DeviceOwns qs queueId slot →
    ∃ desc entry, queue.descriptors.cells[slot]? = some desc ∧ queue.bufsInUse[slot]? = some entry ∧
      (system.machine.arcs.pool ref).SlotHolds entry desc.packetBufferAddress.toNat 2048
  stored : ∀ frame, .stored queueId frame ∈ trace →
    ∃ entry, (system.machine.arcs.pool ref).SlotHolds entry frame.address.toNat frame.length
  delivered : ∀ packet, .delivered queueId packet ∈ trace → packet.pool = ref ∧
    (system.machine.arcs.pool ref).SlotShows profile packet.poolEntry packet.addrVirt packet.len ∧
    (system.machine.arcs.pool ref).SlotHolds packet.poolEntry packet.addrPhys packet.len

/-- A descriptor that a device which owned it wrote back. -/
structure AdvancedRxDescriptor.Written (qs : Nat) (desc : AdvancedRxDescriptor) : Prop where
  done : desc.done = true
  short : desc.length ≤ 2048
  least : 2 ≤ qs

/-- Each descriptor is armed with the entry the queue holds for it, or written back. -/
def RxFit (qs : Nat) (layout : MemPool) (queue : IgbRxQueue) : Prop :=
  ∀ (slot : Nat) desc, queue.descriptors.cells[slot]? = some desc →
    desc.Written qs ∨ RxArmed layout queue.bufsInUse slot desc

section Fit

variable {profile : Profile} {system after : System} {action : Action} {events : List Event}
  {qs queueId slot : Nat} {layout : MemPool} {queue queue' : IgbRxQueue}
  {desc : AdvancedRxDescriptor}

theorem System.DeviceOwns.clear (owns : system.DeviceOwns qs queueId slot)
    (found : system.rxQueue? queueId = some queue) :
    ∃ desc, queue.descriptors.cells[slot]? = some desc ∧ desc.done = false := by
  obtain ⟨_, desc, here, clear⟩ := owns
  rw [Option.mem_def, System.rxDescriptor?, found, Option.bind_some] at here
  exact ⟨desc, here, clear⟩

theorem RxFit.armed (fit : RxFit qs layout queue)
    (cell : queue.descriptors.cells[slot]? = some desc)
    (clear : desc.done = false) : RxArmed layout queue.bufsInUse slot desc := by
  rcases fit slot desc cell with written | armed
  · rw [written.done] at clear
    cases clear
  · exact armed

theorem RxFit.written (fit : RxFit qs layout queue)
    (cell : queue.descriptors.cells[slot]? = some desc)
    (done : desc.done = true) : desc.Written qs := by
  rcases fit slot desc cell with written | armed
  · exact written
  · rw [armed.1] at done
    cases done

theorem RxFit.change (fit : RxFit qs layout queue)
    (own : (system.machine.arcs.layout queue.pool) = layout)
    (permitted : StoresOwned qs system action)
    (change : RxChange profile system queueId queue action events queue') :
    RxFit qs layout queue' := by
  cases change with
  | same | publish => exact fit
  | @take todo rxIndex lastRxIndex recvNums buf packet taken rest control takes =>
      intro slot desc cell
      rcases fit slot desc cell with written | ⟨clear, entry, address, held, located, points⟩
      · exact .inl written
      · -- The descriptor that loses its entry is not an armed one.
        have elsewhere : rxIndex ≠ slot := by
          intro same
          subst same
          have same : taken = desc := Option.some.inj (takes.cell.symm.trans cell)
          rw [← same, takes.done] at clear
          cases clear
        have kept : (queue.bufsInUse.set rxIndex buf)[slot]? = some entry := by
          rw [List.getElem?_set_ne elsewhere]
          exact held
        exact .inr ⟨clear, entry, address, kept, located, points⟩
  | @rearm todo rxIndex lastRxIndex recvNums buf phys next old control rearms =>
      intro slot desc cell
      rcases getElem?_set_cases cell with ⟨rfl, rfl⟩ | ⟨_, cell⟩
      · have located := rearms.located
        rw [← MemPool.getPhysAddr_layout] at located
        exact .inr ⟨AdvancedRxDescriptor.done_resetStatus _, buf, phys, rearms.held,
          own ▸ located, rfl⟩
      · exact fit slot desc cell
  | @rxStore index writeBack old here =>
      intro slot desc cell
      obtain ⟨owns, done, short⟩ := permitted
      rcases getElem?_set_cases cell with ⟨rfl, rfl⟩ | ⟨_, cell⟩
      · exact .inl ⟨done, by rw [WriteBack.length_descriptor _ short]; exact short,
          Ring.Between.two_le owns.1⟩
      · exact fit slot desc cell

/-- Every queue of the state after a step is a change of one before it. -/
theorem Step.rxChange_from (step : Step profile system action events after)
    (found : after.rxQueue? queueId = some queue') :
    ∃ queue, system.rxQueue? queueId = some queue ∧
      RxChange profile system queueId queue action events queue' := by
  have inside : queueId < after.machine.dev.rxQueues.length :=
    (List.getElem?_eq_some_iff.mp found).1
  rw [step.lengths.1] at inside
  have mine : system.rxQueue? queueId = some _ := List.getElem?_eq_getElem inside
  obtain ⟨other, here, change⟩ := step.rxChange mine
  cases here.symm.trans found
  exact ⟨_, mine, change⟩

theorem RxChange.pool (change : RxChange profile system queueId queue action events queue') :
    queue'.pool = queue.pool := by
  cases change <;> rfl

theorem Step.stored (step : Step profile system action events after) {frame : Frame}
    (stored : .stored queueId frame ∈ events) :
    ∃ index writeBack queue desc, action = .rxStore queueId index writeBack ∧
      system.rxQueue? queueId = some queue ∧ queue.descriptors.cells[index]? = some desc ∧
      frame = ⟨desc.packetBufferAddress, writeBack.length⟩ := by
  cases step with
  | report _ reports => cases reports _ stored
  | rxStore found cell =>
      cases List.mem_singleton.mp stored
      exact ⟨_, _, _, _, rfl, found, cell, rfl⟩
  | allocate | construct | drop | cloneHandle | dropHandle | ring | recycle | round | receive | halt
  | rearm =>
      cases stored
  | reject | send | release | commit | publish | finish | take | txDone =>
      cases List.mem_singleton.mp stored

end Fit

/-- What is known of the rings and of the frames in any run. -/
structure RxConfinedBy (profile : Profile) (qs : Nat) (pool : PoolRef) (layout : MemPool)
    (numRx : Nat) (trace : List Event) (system : System) : Prop where
  places : system.machine.arcs.layout pool = layout
  queues : ∀ queueId queue, system.rxQueue? queueId = some queue →
    queueId < numRx ∧ queue.pool = pool ∧ RxFit qs layout queue
  stored : ∀ queueId frame, .stored queueId frame ∈ trace → (queueId < numRx ∧ 2 ≤ qs) ∧
    ∃ entry, layout.getPhysAddr entry = .ok frame.address.toNat ∧ frame.length ≤ 2048
  delivered : ∀ queueId packet, .delivered queueId packet ∈ trace → (queueId < numRx ∧ 2 ≤ qs) ∧
    packet.pool = pool ∧ packet.StartsAt profile 0 system.machine.arcs ∧ packet.len ≤ 2048

section Run

variable {σ : Type} {host : Host σ} {profile : Profile} {qs numRx numTx queueId slot : Nat}
  {pool : PoolRef} {before : Arcs} {system final : System} {action : Action}
  {events trace : List Event} {layout : MemPool}

/-- The address an armed descriptor holds. -/
theorem RxArmed.address {bufs : List Nat} {desc : AdvancedRxDescriptor}
    (armed : RxArmed layout bufs slot desc) :
    ∃ entry, bufs[slot]? = some entry ∧ layout.getPhysAddr entry =
      .ok desc.packetBufferAddress.toNat := by
  obtain ⟨_, entry, address, held, located, points⟩ := armed
  obtain ⟨word, _, rfl⟩ := MemPool.getPhysAddr_ok located
  rw [BitVec.ofNat_toNat, BitVec.setWidth_eq] at points
  exact ⟨entry, held, by rw [points]; exact located⟩

theorem RxConfinedBy.step (confined : RxConfinedBy profile qs pool layout numRx trace system)
    (permitted : StoresOwned qs system action)
    (stepped : next profile system action = some (.ok (events, final))) :
    RxConfinedBy profile qs pool layout numRx (trace ++ events) final := by
  have step := next_step stepped
  refine ⟨(step.layout pool).trans confined.places, fun queueId queue found => ?_,
    fun queueId frame member => ?_, fun queueId packet member => ?_⟩
  · obtain ⟨old, here, change⟩ := step.rxChange_from found
    obtain ⟨inside, own, fit⟩ := confined.queues queueId old here
    exact ⟨inside, change.pool.trans own,
      fit.change (by rw [own]; exact confined.places) permitted change⟩
  · rcases List.mem_append.mp member with old | new
    · exact confined.stored queueId frame old
    · obtain ⟨index, writeBack, queue, desc, rfl, found, cell, rfl⟩ := step.stored new
      obtain ⟨owns, _, short⟩ := permitted
      obtain ⟨inside, _, fit⟩ := confined.queues queueId queue found
      obtain ⟨other, here, clear⟩ := owns.clear found
      cases cell.symm.trans here
      obtain ⟨entry, _, located⟩ := (fit.armed cell clear).address
      exact ⟨⟨inside, Ring.Between.two_le owns.1⟩, entry, located, short⟩
  · rcases List.mem_append.mp member with old | new
    · obtain ⟨sizes, own, starts, short⟩ := confined.delivered queueId packet old
      exact ⟨sizes, own, starts.of_layout (step.layout packet.pool), short⟩
    · obtain ⟨_, _, _, _, _, queue, desc, buf, rest, _, found, takes⟩ := step.delivered new
      obtain ⟨inside, own, fit⟩ := confined.queues queueId queue found
      have written := fit.written takes.cell takes.done
      exact ⟨⟨inside, written.least⟩, takes.pool.trans own,
        (next_delivers stepped new).of_layout (step.layout packet.pool),
        takes.length.trans_le written.short⟩

theorem Booted.rxConfinedBy (booted : Booted host qs numRx numTx pool before system) :
    RxConfinedBy profile qs pool (before.layout pool) numRx [] system := by
  obtain ⟨file, booting⟩ := booted.booting
  refine ⟨booting.layout pool, fun queueId queue found => ?_, nofun, nofun⟩
  have inside : queueId < numRx := (List.getElem?_eq_some_iff.mp found).1.trans_eq booting.rxLength
  have built := booting.rxQueues queueId queue found
  refine ⟨inside, built.pool, fun slot desc cell => .inr ?_⟩
  have short : slot < qs := by
    rw [← built.cells]
    exact (List.getElem?_eq_some_iff.mp cell).1
  obtain ⟨other, here, armed⟩ := built.armed slot (short.trans_eq (if_pos inside).symm)
  cases cell.symm.trans here
  exact armed

theorem RxConfinedBy.run (booted : Booted host qs numRx numTx pool before system)
    (run : Run (next profile) (StoresOwned qs) system trace final) :
    RxConfinedBy profile qs pool (before.layout pool) numRx trace final :=
  run.invariant (RxConfinedBy profile qs pool (before.layout pool) numRx) booted.rxConfinedBy
    (fun _ _ _ _ _ confined permitted stepped => confined.step permitted stepped)

theorem RxConfinedBy.entrySize (confined : RxConfinedBy profile qs pool layout numRx trace system) :
    (system.machine.arcs.pool pool).entrySize = layout.entrySize := by
  rw [← confined.places]
  rfl

/-- With wide enough entries, everything is where it belongs. -/
theorem RxConfinedBy.fit (confined : RxConfinedBy profile qs pool layout numRx trace system)
    (wide : queueId < numRx → 2 ≤ qs → 2048 ≤ layout.entrySize) :
    FramesFit profile qs queueId pool system trace := by
  have size := confined.entrySize
  have located : ∀ id address, layout.getPhysAddr id = .ok address →
      (system.machine.arcs.pool pool).getPhysAddr id = .ok address := by
    intro id address found
    rw [← MemPool.getPhysAddr_layout, ← found]
    exact congrArg (fun pool => MemPool.getPhysAddr pool id) confined.places
  constructor
  · intro queue slot found owns
    obtain ⟨inside, _, fit⟩ := confined.queues queueId queue found
    obtain ⟨desc, cell, clear⟩ := owns.clear found
    obtain ⟨entry, held, address⟩ := (fit.armed cell clear).address
    have enough := wide inside (Ring.Between.two_le owns.1)
    exact ⟨desc, entry, cell, held, _, located _ _ address, Nat.le_refl _, by omega⟩
  · intro frame member
    obtain ⟨⟨inside, least⟩, entry, address, short⟩ := confined.stored queueId frame member
    have enough := wide inside least
    exact ⟨entry, _, located _ _ address, Nat.le_refl _, by omega⟩
  · intro packet member
    obtain ⟨⟨inside, least⟩, own, ⟨⟨virt, locatedVirt, addrVirt⟩, ⟨phys, locatedPhys, addrPhys⟩⟩,
        short⟩ :=
      confined.delivered queueId packet member
    have enough := wide inside least
    rw [own] at locatedVirt locatedPhys
    obtain ⟨word, _, rfl⟩ := MemPool.getPhysAddr_ok locatedPhys
    rw [usizeAdd_of_lt (show word.toNat + 0 < usizeModulus from word.isLt)] at addrPhys
    have same := Except.ok.inj addrPhys
    exact ⟨own, ⟨virt, locatedVirt, by omega, by omega⟩, ⟨_, locatedPhys, by omega, by omega⟩⟩

/-- Right after `init` the device owns the first descriptor of a ring of two or more. -/
theorem Booted.deviceOwns_first (law : ∀ reg, RingRegister reg → host.Holds reg) (least : 2 ≤ qs)
    (booted : Booted host qs numRx numTx pool before system) (some_queue : 0 < numRx) :
    system.DeviceOwns qs 0 0 := by
  obtain ⟨file, shown, booting⟩ := booted.programmed law
  obtain ⟨exponent, power⟩ := booted.power (by omega) (by omega)
  obtain ⟨queue, found⟩ : ∃ queue, system.rxQueue? 0 = some queue :=
    ⟨_, List.getElem?_eq_getElem (by rw [booting.rxLength]; exact some_queue)⟩
  have built := booting.rxQueues 0 queue found
  have started := booting.rxTails 0 some_queue (.inl (by decide)) (by omega)
  have head : (system.machine.env (igbRdh 0)).toNat = 0 := by
    rw [igbRdh_eq, shown _ (ringRegister_rx (by decide)), started.head]
    rfl
  have tail : (system.machine.env (igbRdt 0)).toNat = (qs - 1) % 4294967296 := by
    rw [igbRdt_eq, shown _ (ringRegister_rx (by decide)), started.tail, BitVec.toNat_ofNat]
  obtain ⟨desc, cell, armed⟩ := built.armed 0 (by
    rw [show Progress.armedIn ⟨numRx, numTx, numTx, numRx, 0, numTx⟩ qs 0 =
      qs from if_pos some_queue]
    omega)
  refine ⟨⟨by omega, ?_⟩, desc, ?_, armed.1⟩
  · rw [head, tail]
    have odd : (qs - 1) % 4294967296 ≠ 0 := by
      cases exponent with
      | zero => omega
      | succ exponent => rw [Nat.pow_succ] at power; omega
    have inside : (qs - 1) % 4294967296 < qs := Nat.lt_of_le_of_lt (Nat.mod_le _ _) (by omega)
    rw [Ring.distance_of_le (Nat.le_refl 0) (by omega), Ring.distance_of_le (Nat.zero_le _) inside]
    omega
  · rw [Option.mem_def, System.rxDescriptor?, found, Option.bind_some]
    exact cell

/-- The frames of every run fit their slots if and only if the entries hold a whole
frame, or nothing can be received at all. -/
theorem frames_fit_iff (law : ∀ reg, RingRegister reg → host.Holds reg)
    (booted : Booted host qs numRx numTx pool before system) :
    (∀ queueId trace final, Run (next host.profile) (StoresOwned qs) system trace final →
      FramesFit host.profile qs queueId pool final trace) ↔
      2048 ≤ (before.pool pool).entrySize ∨ numRx = 0 ∨ qs < 2 := by
  have confined : RxConfinedBy host.profile qs pool (before.layout pool) numRx [] system :=
    booted.rxConfinedBy
  constructor
  · intro fits
    by_contra narrow
    have some_queue : 0 < numRx := by omega
    obtain ⟨queue, found⟩ : ∃ queue, system.rxQueue? 0 = some queue := by
      obtain ⟨file, booting⟩ := booted.booting
      exact ⟨_, List.getElem?_eq_getElem (by rw [booting.rxLength]; exact some_queue)⟩
    obtain ⟨desc, entry, cell, held, base, located, lower, upper⟩ :=
      (fits 0 [] system .refl).owned queue 0 found
        (booted.deviceOwns_first law (by omega) (by omega))
    -- The slot begins at the very address the descriptor holds.
    have owns := booted.deviceOwns_first law (by omega) (by omega)
    obtain ⟨other, here, clear⟩ := owns.clear found
    cases cell.symm.trans here
    obtain ⟨entry', held', address⟩ :=
      (((confined.queues 0 queue found).2.2).armed cell clear).address
    cases held.symm.trans held'
    rw [← MemPool.getPhysAddr_layout] at located
    cases (confined.places ▸ located : (before.layout pool).getPhysAddr entry =
      .ok base).symm.trans address
    have size := confined.entrySize
    change _ = (before.pool pool).entrySize at size
    omega
  · intro wide queueId trace final run
    refine (RxConfinedBy.run booted run).fit (fun inside least => ?_)
    change 2048 ≤ (before.pool pool).entrySize
    omega

/-- Entries of the default size, with a frame received. -/
theorem frames_fit_iff_default : ∃ (trace : List Event) (final : System),
    (deliveredOn 0 trace).length = 1 ∧ (storedOn 0 trace).length = 2 ∧
    FramesFit .dev 4 0 0 final trace := by
  obtain ⟨system, trace, final, booted, _, _, run, accepted⟩ :=
    exists_replayAllocated .dev (StoresOwned 4) 4 1 1
    (fun _ => 8) (fun _ => 0)
    [.rxStore 0 0 (frameWriteBack 2048), .rxStore 0 1 (frameWriteBack 60), .receive 0 1,
      .resume, .resume]
    (fun trace _ => (deliveredOn 0 trace).length == 1 && (storedOn 0 trace).length == 2)
    (by decide +kernel)
  rw [Bool.and_eq_true, beq_iff_eq, beq_iff_eq] at accepted
  exact ⟨trace, final, accepted.1, accepted.2,
    (frames_fit_iff (platform_holds .dev) booted).mpr (.inl (by decide +kernel)) 0 trace final run⟩

/-- In entries of 1024 bytes the second of two frames runs into the first. -/
theorem frames_overrun_slots :
    ∃ (system final : System) (trace : List Event) (first second : Frame) (byte : Nat),
    Booted (platform .dev) 4 1 1 0 (allocatedArcs .dev (fun _ => 16) (fun _ => 1024)) system ∧
    Run (next .dev) (StoresOwned 4) system trace final ∧ storedOn 0 trace = [first, second] ∧
    first.Covers byte ∧ second.Covers byte ∧ ¬ FramesFit .dev 4 0 0 final trace := by
  obtain ⟨system, trace, final, booted, _, _, run, accepted⟩ :=
    exists_replayAllocated .dev (StoresOwned 4) 4 1 1
    (fun _ => 16) (fun _ => 1024) [.rxStore 0 0 (frameWriteBack 60),
      .rxStore 0 1 (frameWriteBack 2048)]
    (fun trace final => storedOn 0 trace == [⟨0x103C00, 60⟩, ⟨0x103800, 2048⟩] &&
      (final.machine.arcs.pool 0).entrySize == 1024)
    (by decide +kernel)
  rw [Bool.and_eq_true, beq_iff_eq, beq_iff_eq] at accepted
  obtain ⟨stores, size⟩ := accepted
  refine ⟨system, final, trace, _, _, 0x103C00, booted, run, stores, ⟨by decide, by decide⟩,
    ⟨by decide, by decide⟩, fun fits => ?_⟩
  have member := mem_storedOn.mp (show ⟨0x103800, 2048⟩ ∈ storedOn 0 trace by simp [stores])
  obtain ⟨entry, base, _, lower, upper⟩ := fits.stored _ member
  rw [size] at upper
  simp only at lower upper
  omega

end Run

end IgbDriver
