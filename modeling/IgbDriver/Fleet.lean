import IgbDriver.Sizing
import Mathlib.Data.List.Count

namespace IgbDriver

open Foundation

/-! # Devices that share a pool

A caller may make any number of devices on one pool, in any order with their use, and
drop them again. What a ring holds are plain numbers, which go with the device; nothing
puts the entries back.
-/

/-- What there is without a device. -/
structure World where
  arcs : Arcs
  handles : PoolRef → Nat
  live : List Packet

/-- A device with its queue size, its registers and the call that runs on it. -/
structure Station where
  size : Nat
  dev : IgbDevice
  env : RegisterFile
  control : Control

structure Fleet where
  world : World
  stations : List Station

def System.world (system : System) : World := ⟨system.machine.arcs, system.handles, system.live⟩

def System.station (system : System) (size : Nat) : Station :=
  ⟨size, system.machine.dev, system.machine.env, system.control⟩

/-- The device as its calls see it. -/
def Station.on (station : Station) (world : World) : System where
  machine := ⟨station.env, world.arcs, station.dev⟩
  handles := world.handles
  live := world.live
  control := station.control

/-- What goes when a device does: `armed` counts the receive descriptors it had. -/
structure Loss where
  armed : Nat
  entries : List Nat
deriving Repr

def Loss.nothing : Loss := ⟨0, []⟩

/-- The entries in the rings of the device. -/
def IgbDevice.queued (dev : IgbDevice) : List Nat :=
  dev.rxQueues.flatMap IgbRxQueue.bufsInUse ++ dev.txQueues.flatMap IgbTxQueue.bufsInUse

def Station.queued (station : Station) : List Nat := station.dev.queued

def Station.armed (station : Station) : Nat := station.dev.rxQueues.length * station.size

/-- A device comes up on the pool or fails to, and then what it took goes with the half-built
device; one of the devices makes a step, with the caller or on its own; one of them is dropped
between its calls; or the caller uses the pools where there is no device. -/
inductive Fleet.Move {σ : Type} (host : Host σ) (pool : PoolRef) (fleet : Fleet) : Loss →
    Fleet → Prop where
  | boot {qs numRx numTx : Nat} {system : System} : 0 < qs → 16 * qs < 4294967296 →
      Booted host qs numRx numTx pool fleet.world.arcs system →
      system.handles = fleet.world.handles →
      system.live = fleet.world.live →
      Move host pool fleet .nothing ⟨system.world, fleet.stations ++ [system.station qs]⟩
  | failed {qs len numRx numTx : Nat} {env env' : σ} {arcs : Arcs} {failure : IgbError}
      {half : Machine σ} :
      init host qs len numRx numTx pool env fleet.world.arcs = .ok (.error failure, env', arcs) →
      resetAndInit host qs pool
        { env, arcs := fleet.world.arcs, dev := ⟨len, numRx, numTx, [], []⟩ } =
        .ok (.error failure, half) →
      Move host pool fleet ⟨0, half.dev.queued⟩ { fleet with world := { fleet.world with arcs } }
  | step {position : Nat} {station : Station} {action : Action} {events : List Event}
      {after : System} :
      fleet.stations[position]? = some station → OfPool pool (station.on fleet.world) action →
      next host.profile (station.on fleet.world) action = some (.ok (events, after)) →
      Move host pool fleet .nothing ⟨after.world, fleet.stations.set position
        (after.station station.size)⟩
  | drop {position : Nat} {station : Station} : fleet.stations[position]? = some station →
      station.control = .idle →
      Move host pool fleet ⟨station.armed, station.queued⟩
        ⟨{ fleet.world with arcs := dropDevice station.dev fleet.world.arcs },
          fleet.stations.eraseIdx position⟩
  | caller {system after : System} {action : PoolAction} : system.world = fleet.world →
      NoConstruct system (.pool action) → poolStep host.profile system action = some (.ok after) →
      Move host pool fleet .nothing { fleet with world := after.world }

/-- The entries that are free or in a packet of the caller. -/
def World.usable (world : World) (ref : PoolRef) : List Nat :=
  world.arcs.free ref ++ (world.live.filter fun packet => packet.pool = ref).map Packet.poolEntry

def World.owners (world : World) (ref : PoolRef) (id : Nat) : Nat :=
  (world.arcs.free ref).count id + world.live.countP (fun packet => packet.home = (ref, id))

def Station.share (ref : PoolRef) (id : Nat) (station : Station) : Nat :=
  (station.dev.rxQueues.map (rxShare ref id)).sum + (station.dev.txQueues.map (txShare ref id)).sum

def Fleet.owners (fleet : Fleet) (ref : PoolRef) (id : Nat) : Nat :=
  fleet.world.owners ref id + (fleet.stations.map (Station.share ref id)).sum

section Shares

variable {station : Station} {world : World} {fleet : Fleet} {pool ref : PoolRef} {id : Nat}

theorem World.count_usable (world : World) (ref : PoolRef) (id : Nat) :
    (world.usable ref).count id = world.owners ref id := by
  rw [World.usable, List.count_append, count_liveEntries, World.owners]

theorem System.owners_eq (system : System) (size : Nat) (ref : PoolRef) (id : Nat) :
    system.owners ref id = system.world.owners ref id + (system.station size).share ref id := by
  unfold System.owners World.owners Station.share
  exact Nat.add_assoc _ _ _

theorem Station.owners_on (station : Station) (world : World) (ref : PoolRef) (id : Nat) :
    (station.on world).owners ref id = world.owners ref id + station.share ref id :=
  (station.on world).owners_eq station.size ref id

/-- Rings hold entries of their pool only. -/
theorem Station.share_eq (uses : (station.on world).OnPool pool) (ref : PoolRef) (id : Nat) :
    station.share ref id = if ref = pool then station.queued.count id else 0 := by
  split
  · rename_i same
    subst same
    have held := uses.count_heldEntries id
    rw [System.heldEntries, List.append_assoc, List.count_append, List.count_append,
      count_liveEntries, Station.owners_on, World.owners] at held
    rw [Station.queued, IgbDevice.queued]
    change _ + (station.dev.rxQueues.flatMap IgbRxQueue.bufsInUse ++
      station.dev.txQueues.flatMap IgbTxQueue.bufsInUse).count id = _ at held
    change (world.arcs.free ref).count id + world.live.countP
      (fun packet => packet.home = (ref, id)) + _ = _ at held
    omega
  · rename_i other
    rw [Station.share, Nat.add_eq_zero_iff]
    constructor
    · apply List.sum_eq_zero
      intro share member
      obtain ⟨queue, queued, rfl⟩ := List.mem_map.mp member
      have own := uses.receive queue queued
      exact if_neg (by rw [own]; exact Ne.symm other)
    · apply List.sum_eq_zero
      intro share member
      obtain ⟨queue, queued, rfl⟩ := List.mem_map.mp member
      rw [txShare]
      rcases uses.transmit queue queued with empty | own
      · rw [empty, List.count_nil, ite_self]
      · exact if_neg (by rw [own]; exact fun same => other (Option.some.inj same).symm)

end Shares

/-- The device is on the pool and in shape, whatever becomes of the world around it. -/
structure Station.Fit (profile : Profile) (pool : PoolRef) (station : Station) : Prop where
  small : 16 * station.size < 4294967296
  uses : ∀ world, (station.on world).OnPool pool
  shaped : ∀ world, (station.on world).Shaped profile station.size pool

structure Fleet.Keeps (profile : Profile) (pool : PoolRef) (start : World) (losses : List Loss)
    (fleet : Fleet) : Prop where
  layout : ∀ ref, fleet.world.arcs.layout ref = start.arcs.layout ref
  owners : ∀ ref id,
    fleet.owners ref id + (if ref = pool then (losses.flatMap Loss.entries).count id else 0) =
    start.owners ref id
  armed : (losses.map Loss.armed).sum ≤ (losses.flatMap Loss.entries).length
  fit : ∀ station ∈ fleet.stations, station.Fit profile pool

/-- Half built or not, a device fresh from `init` has entries in its receive rings only. -/
theorem Booting.count_queued {profile : Profile} {qs numRx numTx : Nat} {pool : PoolRef}
    {start arcs : Arcs} {progress : Progress} {file : RegisterFile} {dev : IgbDevice}
    (booting : Booting profile qs numRx numTx pool start progress file arcs dev) (id : Nat) :
    dev.queued.count id = dev.rxEntries id := by
  have sending : (dev.txQueues.flatMap IgbTxQueue.bufsInUse).count id = 0 := by
    rw [List.count_flatMap]
    refine List.sum_eq_zero (fun count member => ?_)
    obtain ⟨queue, queued, rfl⟩ := List.mem_map.mp member
    simp [(booting.txBuilt queued).bufs]
  rw [IgbDevice.queued, List.count_append, sending, List.count_flatMap]
  rfl

section Moves

variable {σ : Type} {host : Host σ} {profile : Profile} {translate : Nat → Nat} {pool : PoolRef}
  {start world : World} {fleet after : Fleet} {losses : List Loss} {loss : Loss} {station : Station}
  {system : System} {size position : Nat}

theorem Station.Fit.of_system (small : 16 * size < 4294967296) (uses : system.OnPool pool)
    (shaped : system.Shaped profile size pool) : (system.station size).Fit profile pool where
  small
  uses := fun _ => ⟨uses.receive, uses.transmit⟩
  shaped := fun _ => ⟨shaped.attached, shaped.positioned, shaped.power, shaped.transmit,
    shaped.receive⟩

/-- The receive rings of a device are full. -/
theorem Station.Fit.armed_le (fit : station.Fit profile pool) : station.armed ≤
    station.queued.length := by
  have each : ∀ queue ∈ station.dev.rxQueues, queue.bufsInUse.length = station.size := by
    intro queue queued
    obtain ⟨queueId, found⟩ := List.getElem?_of_mem queued
    exact ((fit.shaped ⟨fun _ => ⟨0, ⟨0, 0, 0, [], [], rfl⟩⟩, fun _ => 0, []⟩).receive queueId
      queue found).1.bufs
  rw [Station.armed, Station.queued, IgbDevice.queued, List.length_append, length_flatMap_const each]
  exact Nat.le_add_right _ _

namespace Fleet.Move

theorem layout (move : Fleet.Move host pool fleet loss after) (ref : PoolRef) :
    after.world.arcs.layout ref = fleet.world.arcs.layout ref := by
  cases move with
  | boot positive small booted handles live =>
      obtain ⟨file, booting⟩ := booted.booting
      exact booting.layout ref
  | failed returned ran =>
      obtain ⟨_, file, booting, _⟩ := resetAndInit_failure ran
      rw [init_failed returned ran]
      exact (layout_dropDevice _ _ ref).trans (booting.layout ref)
  | step found permitted stepped => exact (next_step stepped).layout ref
  | drop found idle => exact layout_dropDevice _ _ ref
  | caller same honest stepped =>
      rw [← same]
      exact (poolStep_step stepped).layout ref

variable (fit : ∀ station ∈ fleet.stations, station.Fit host.profile pool)
include fit

theorem kept_fit (move : Fleet.Move host pool fleet loss after) :
    ∀ station ∈ after.stations, station.Fit host.profile pool := by
  cases move with
  | boot positive small booted handles live =>
      intro station member
      rcases List.mem_append.mp member with old | new
      · exact fit station old
      · cases List.mem_singleton.mp new
        exact .of_system small booted.onPool (booted.shaped positive)
  | failed | caller => exact fit
  | @step position station action events after found permitted stepped =>
      intro other member
      rcases List.mem_or_eq_of_mem_set member with old | rfl
      · exact fit other old
      · have own := fit station (List.mem_of_getElem? found)
        have step := next_step stepped
        have narrow : station.size < usizeModulus := by
          have := own.small
          simp only [usizeModulus]
          omega
        exact .of_system own.small (step.onPool permitted.2 (own.uses _))
          (step.shaped narrow (own.shaped _))
  | drop found idle => exact fun station member => fit station (List.mem_of_mem_eraseIdx member)

/-- Entries go from one holder to another, or are lost. -/
theorem owners (move : Fleet.Move host pool fleet loss after) (ref : PoolRef) (id : Nat) :
    after.owners ref id + (if ref = pool then loss.entries.count id else 0) =
      fleet.owners ref id := by
  cases move with
  | @boot qs numRx numTx system positive small booted handles live =>
      have held := booted.owners ref id
      rw [system.owners_eq qs ref id, live] at held
      change _ = fleet.world.owners ref id at held
      simp only [Fleet.owners, List.map_append, List.sum_append, List.map_singleton,
        List.sum_singleton, Loss.nothing, List.count_nil, ite_self]
      omega
  | failed returned ran =>
      obtain ⟨_, file, booting, _⟩ := resetAndInit_failure ran
      simp only [Fleet.owners, World.owners, init_failed returned ran, free_dropDevice,
        booting.count_queued]
      split
      · rename_i same
        subst same
        have shared := booting.entries id
        omega
      · rename_i other
        rw [(booting.elsewhere ref other).1]
        rfl
  | @step position station action events after found permitted stepped =>
      have step := next_step stepped
      have own := fit station (List.mem_of_getElem? found)
      have kept := step.owners permitted.1 ((own.uses fleet.world).keepsPool permitted.2) ref id
      rw [after.owners_eq station.size ref id, Station.owners_on] at kept
      have moved := sum_map_set (Station.share ref id) (after.station station.size) found
      simp only [Fleet.owners, Loss.nothing, List.count_nil, ite_self]
      omega
  | @drop position station found idle =>
      have own := fit station (List.mem_of_getElem? found)
      have share := Station.share_eq (own.uses fleet.world) ref id
      have moved := sum_map_eraseIdx (Station.share ref id) found
      simp only [Fleet.owners, World.owners, free_dropDevice]
      rw [← share]
      omega
  | @caller system after action same honest stepped =>
      have step := poolStep_step stepped
      have kept := step.owners honest trivial ref id
      have device : after.machine.dev = system.machine.dev := by
        cases step <;> rfl
      rw [after.owners_eq 0 ref id, system.owners_eq 0 ref id] at kept
      have share : (after.station 0).share ref id = (system.station 0).share ref id := by
        simp only [Station.share, System.station, device]
      simp only [Fleet.owners, Loss.nothing, List.count_nil, ite_self, ← same]
      omega

theorem armed_le (move : Fleet.Move host pool fleet loss after) :
    loss.armed ≤ loss.entries.length := by
  cases move with
  | boot | step | caller => exact Nat.le_refl _
  | failed => exact Nat.zero_le _
  | drop found idle => exact (fit _ (List.mem_of_getElem? found)).armed_le

end Fleet.Move

theorem Fleet.Keeps.run (path : Path (Fleet.Move host pool) ⟨start, []⟩ losses fleet) :
    fleet.Keeps host.profile pool start losses := by
  refine path.invariant (fun losses fleet => fleet.Keeps host.profile pool start losses) ?_ ?_
  · refine ⟨fun _ => rfl, fun ref id => ?_, Nat.le_refl _, nofun⟩
    simp [Fleet.owners]
  · intro losses fleet loss after keeps move
    refine ⟨fun ref => (move.layout ref).trans (keeps.layout ref), fun ref id => ?_, ?_,
      move.kept_fit keeps.fit⟩
    · have before := keeps.owners ref id
      have moved := move.owners keeps.fit ref id
      simp only [List.flatMap_append, List.flatMap_singleton, List.count_append]
      split at before <;> rename_i same
      · rw [if_pos same] at moved ⊢
        omega
      · rw [if_neg same] at moved ⊢
        omega
    · have before := keeps.armed
      have most := move.armed_le keeps.fit
      simp only [List.flatMap_append, List.flatMap_singleton, List.length_append, List.map_append,
        List.map_singleton, List.sum_append, List.sum_singleton]
      omega

end Moves

section Results

variable {σ : Type} {host : Host σ} {translate : Nat → Nat} {pool : PoolRef} {start : World}
  {fleet : Fleet} {losses : List Loss} {station : Station} {position : Nat} {action : Action}
  {reason : Abort Panic}

theorem Fleet.count_queued (fit : ∀ station ∈ fleet.stations, station.Fit host.profile pool)
    (id : Nat) :
    (fleet.stations.flatMap Station.queued).count id =
      (fleet.stations.map (Station.share pool id)).sum := by
  rw [List.count_flatMap]
  refine congrArg List.sum (List.map_congr_left (fun station member => ?_))
  rw [Station.share_eq ((fit station member).uses fleet.world), if_pos rfl]
  rfl

theorem Fleet.armed_le (fit : ∀ station ∈ fleet.stations, station.Fit host.profile pool) :
    (fleet.stations.map Station.armed).sum ≤ (fleet.stations.flatMap Station.queued).length := by
  rw [List.length_flatMap]
  exact List.sum_le_sum fun station member => (fit station member).armed_le

/-- Whatever devices come and go on a pool, in whatever order they and the caller use it:
what is usable, what the rings of the devices that are up hold, and what went with those
that are gone make up what was usable at first. Each device holds at least one entry for
each of its receive descriptors, and takes them along. -/
theorem fleet_conserves (path : Path (Fleet.Move host pool) ⟨start, []⟩ losses fleet) :
    (fleet.world.usable pool ++ fleet.stations.flatMap Station.queued ++
        losses.flatMap Loss.entries).Perm (start.usable pool) ∧
      (fleet.world.usable pool).length + (fleet.stations.map Station.armed).sum +
      (losses.map Loss.armed).sum ≤ (start.usable pool).length := by
  have keeps := Fleet.Keeps.run path
  have whole : (fleet.world.usable pool ++ fleet.stations.flatMap Station.queued ++
      losses.flatMap Loss.entries).Perm (start.usable pool) := by
    refine List.perm_iff_count.mpr (fun id => ?_)
    have counted := keeps.owners pool id
    rw [if_pos rfl, Fleet.owners, ← Fleet.count_queued
      keeps.fit, ← World.count_usable, ← World.count_usable] at counted
    rw [List.count_append, List.count_append]
    exact counted
  have lengths := whole.length_eq
  have up := Fleet.armed_le keeps.fit
  have gone := keeps.armed
  rw [List.length_append, List.length_append] at lengths
  exact ⟨whole, by omega⟩

/-- The runs of one device are histories of the fleet. -/
theorem Fleet.path_of_run {trace : List Event} {after : System}
    (found : fleet.stations[position]? = some station)
    (run : Run (next host.profile) (OfPool pool) (station.on fleet.world) trace after) :
    ∃ losses, (∀ loss ∈ losses, loss = .nothing) ∧ Path (Fleet.Move host pool) fleet losses
      ⟨after.world, fleet.stations.set position (after.station station.size)⟩ := by
  induction run with
  | refl =>
      obtain ⟨inside, rfl⟩ := List.getElem?_eq_some_iff.mp found
      refine ⟨[], List.forall_mem_nil _, ?_⟩
      change Path (Fleet.Move host pool) fleet []
        ⟨fleet.world, fleet.stations.set position fleet.stations[position]⟩
      rw [List.set_getElem_self]
      exact .refl
  | @next trace events state final action run permitted stepped ih =>
      obtain ⟨losses, nothing, path⟩ := ih
      have here : (fleet.stations.set position (state.station station.size))[position]? =
          some (state.station station.size) :=
        set_of_some found
      have permitted' : OfPool pool ((state.station station.size).on state.world) action :=
        permitted
      have stepped' : next host.profile ((state.station station.size).on state.world) action =
          some (.ok (events, final)) :=
        stepped
      have move : Fleet.Move host pool
          ⟨state.world, fleet.stations.set position (state.station station.size)⟩ .nothing _ :=
        .step here permitted' stepped'
      rw [List.set_set] at move
      refine ⟨losses ++ [.nothing], fun loss member => ?_, path.next move⟩
      rcases List.mem_append.mp member with old | new
      · exact nothing loss old
      · exact List.mem_singleton.mp new

/-- Two devices with a queue each way, on one pool. -/
def bootPair (profile : Profile) (qs entries : Nat) : Option (System × System) :=
  (boot (platform profile) qs 0x40000 1 1 0 (fun _ => 0) (onePool entries) (fun _ => 1)
    []).bind fun first =>
    (boot (platform profile) qs 0x40000 1 1 0 (fun _ => 0) first.machine.arcs first.handles
      first.live).map
      fun second => (first, second)

theorem path_of_bootPair {profile : Profile} {qs entries : Nat} {first second : System}
    (positive : 0 < qs) (small : 16 * qs < 4294967296)
    (booted : bootPair profile qs entries = some (first, second)) :
    Path (Fleet.Move (platform profile) 0) ⟨⟨onePool entries, fun _ => 1, []⟩,
      []⟩ [.nothing, .nothing]
      ⟨second.world, [first.station qs, second.station qs]⟩ := by
  obtain ⟨_, once, again⟩ := Option.bind_eq_some_iff.mp booted
  obtain ⟨_, twice, same⟩ := Option.map_eq_some_iff.mp again
  cases same
  obtain ⟨up, handles, live⟩ := booted_of_boot once
  obtain ⟨up', handles', live'⟩ := booted_of_boot twice
  exact .next (.next .refl (.boot positive small up handles live))
    (.boot positive small up' handles' live')

/-- One device receives a frame, the other sends it on; the first is dropped. -/
theorem fleet_conserves_forwarded : ∃ fleet : Fleet, fleet.stations.length = 1 ∧
    (fleet.world.usable 0).length ≤ 4 := by
  have checked : (bootPair .dev 4 12).any (fun pair =>
      (replay (next .dev) (OfPool 0) [.rxStore 0 0 (frameWriteBack 60), .receive 0 1,
        .resume, .resume, .resume, .resume]
        ((pair.1.station 4).on pair.2.world)).any fun received =>
      (replay (next .dev) (OfPool 0)
        [.send 0 0, .resume] ((pair.2.station 4).on received.2.world)).any fun sent =>
        decide (received.2.control = .idle) &&
          decide (received.2.machine.dev.rxQueues.length = 1) &&
          decide (sent.2.machine.dev.rxQueues.length = 1)) = true := by
    decide +kernel
  obtain ⟨⟨first, second⟩, booted, followed⟩ := (Option.any_eq_true _ _).mp checked
  obtain ⟨⟨_, received⟩, receives, forwarded⟩ := (Option.any_eq_true _ _).mp followed
  obtain ⟨⟨_, sent⟩, sends, accepted⟩ := (Option.any_eq_true _ _).mp forwarded
  simp only [Bool.and_eq_true, decide_eq_true_eq] at accepted
  obtain ⟨⟨idle, receivers⟩, senders⟩ := accepted
  have receiving : Run (next (platform .dev).profile) (OfPool 0)
      ((first.station 4).on second.world) _ received :=
    run_of_replay receives
  have sending : Run (next (platform .dev).profile) (OfPool 0)
      ((second.station 4).on received.world) _ sent :=
    run_of_replay sends
  have here : (Fleet.mk second.world [first.station 4, second.station 4]).stations[0]? =
      some (first.station 4) := rfl
  have there :
      (Fleet.mk received.world [received.station 4, second.station 4]).stations[1]? =
        some (second.station 4) := rfl
  obtain ⟨_, _, arriving⟩ := Fleet.path_of_run here receiving
  obtain ⟨_, _, leaving⟩ := Fleet.path_of_run there sending
  have left : (Fleet.mk sent.world [received.station 4, sent.station 4]).stations[0]? =
      some (received.station 4) := rfl
  have up := path_of_bootPair (by decide) (by decide) booted
  have path := Path.next ((up.trans arriving).trans leaving) (.drop left idle)
  have counted := (fleet_conserves path).2
  have entries : ((⟨onePool 12, fun _ => 1, []⟩ : World).usable 0).length = 12 := by decide
  simp only [List.map_append, List.sum_append, List.map_singleton, List.sum_singleton,
    List.set_cons_succ,
    List.set_cons_zero, List.eraseIdx_cons_zero, Station.armed, System.station, receivers, senders,
    entries] at counted
  refine ⟨⟨⟨dropDevice received.machine.dev sent.world.arcs, sent.world.handles, sent.world.live⟩,
    [sent.station 4]⟩, rfl, ?_⟩
  simp only
  omega

/-- On pools that were whole no entry is in two places, across all devices. -/
theorem Fleet.Keeps.within (keeps : fleet.Keeps host.profile pool start losses)
    (whole : ∀ ref, start.arcs.Whole start.live ref) (member : station ∈ fleet.stations)
    (ref : PoolRef) : (station.on fleet.world).Within ref := by
  intro id
  have counted := keeps.owners ref id
  have first := List.perm_iff_count.mp (whole ref) id
  have entries := numEntries_of_layout (keeps.layout ref)
  have mine : station.share ref id ≤ (fleet.stations.map (Station.share ref id)).sum :=
    List.le_sum_of_mem (List.mem_map_of_mem member)
  rw [count_range_eq] at first
  change (start.usable ref).count id = _ at first
  rw [World.count_usable] at first
  rw [Station.owners_on, show (station.on fleet.world).machine.arcs = fleet.world.arcs from rfl,
    entries, ← first]
  unfold Fleet.owners at counted
  omega

theorem Fleet.Keeps.robust (keeps : fleet.Keeps host.profile pool start losses)
    (laid : start.arcs.Laid host.profile translate)
    (allocated : ∀ ref, (start.arcs.pool ref).Allocated host)
    (whole : ∀ ref, start.arcs.Whole start.live ref) (member : station ∈ fleet.stations) :
    Robust host translate station.size pool (station.on fleet.world) where
  laid := laid.of_layout keeps.layout
  allocated := fun ref => (allocated ref).of_layout (keeps.layout ref)
  within := keeps.within whole member
  shaped := (keeps.fit station member).shaped fleet.world

/-- Whatever the devices write into their rings and whenever they do, a step of any of them
aborts only for want of a buffer to copy into, or because a frame is split over several
descriptors. -/
theorem fleet_aborts_iff (laid : start.arcs.Laid host.profile translate)
    (allocated : ∀ ref, (start.arcs.pool ref).Allocated host)
    (whole : ∀ ref, start.arcs.Whole start.live ref)
    (path : Path (Fleet.Move host pool) ⟨start, []⟩ losses fleet)
    (found : fleet.stations[position]? = some station)
    (honest : NoConstruct (station.on fleet.world) action) :
    next host.profile (station.on fleet.world) action = some (.error reason) ↔
      (reason = .panic .noBufferAvailable ∧ (station.on fleet.world).OutOfBuffers action) ∨
        reason = .panic .bufferTooSmall ∧ (station.on fleet.world).OnSplitFrame action := by
  have keeps := Fleet.Keeps.run path
  have member := List.mem_of_getElem? found
  exact (keeps.robust laid allocated whole member).aborts_iff
    (keeps.fit station member).small honest

/-- A device that splits a frame stops the call on it, while another one is up. -/
theorem fleet_aborts_iff_split : ∃ system : System, next .dev system .resume =
    some (.error (.panic .bufferTooSmall)) := by
  have checked : (bootPair .dev 4 12).any (fun pair =>
      (replay (next .dev) (OfPool 0) [.txDone 0 3, .rxStore 0 1 ⟨0, 1⟩,
        .rxStore 0 0 (frameWriteBack 60), .receive 0 2,
        .resume, .resume] ((pair.1.station 4).on pair.2.world)).any fun result =>
        decide (result.2.control = .receiving 0 (0 + 1) 1 0 1) &&
          (result.2.rxQueue? 0).any fun (queue : IgbRxQueue) =>
            queue.descriptors.cells[1]?.any fun (desc : AdvancedRxDescriptor) =>
              desc.done && !desc.endOfPacket) = true := by
    decide +kernel
  obtain ⟨⟨first, second⟩, booted, followed⟩ := (Option.any_eq_true _ _).mp checked
  obtain ⟨⟨trace, final⟩, replayed, accepted⟩ := (Option.any_eq_true _ _).mp followed
  simp only [Bool.and_eq_true, Option.any_eq_true, decide_eq_true_eq, Bool.not_eq_true'] at accepted
  obtain ⟨control, queue, found, desc, cell, done, split⟩ := accepted
  have run : Run (next (platform .dev).profile) (OfPool 0) ((first.station 4).on second.world)
      trace final :=
    run_of_replay replayed
  have here : (Fleet.mk second.world
      [first.station 4, second.station 4]).stations[0]? = some (first.station 4) := rfl
  obtain ⟨losses, _, path⟩ := Fleet.path_of_run here run
  have whole : ∀ ref, (onePool 12).Whole [] ref := onePool_whole 12
  have honest : NoConstruct final .resume := trivial
  exact ⟨final, (fleet_aborts_iff (onePool_laid (by decide)) (onePool_allocated (by decide)) whole
    ((path_of_bootPair (by decide) (by decide) booted).trans path) (set_of_some here) honest).mpr
      (.inr ⟨rfl, 0, 0, 1, 0, 1, queue, desc, rfl, control, found, cell, done, split⟩)⟩

end Results

end IgbDriver
