import IgbDriver.TxView

namespace IgbDriver

open Foundation

/-! # One receive queue, seen by itself

As for transmit queues: the view of a receive queue, its steps, and the theorem that
the system seen through the view takes no others. The layout of the queue's pool, by
which entries are located, belongs to the view but never changes.
-/

/-- Where a running `receive_packets` stands on a queue. -/
inductive RxPhase where
  | quiet
  | receiving (rxIndex lastRxIndex recvNums : Nat)
  | delivering (rxIndex lastRxIndex recvNums : Nat)
  | publishing (rxIndex lastRxIndex recvNums : Nat)
deriving DecidableEq

structure RxView where
  queue : IgbRxQueue
  layout : MemPool
  head : BitVec 32
  tail : BitVec 32
  length : BitVec 32
  phase : RxPhase

def Control.rxPhase (queueId : Nat) : Control → RxPhase
  | .receiving queue _ rxIndex lastRxIndex recvNums =>
      if queue = queueId then .receiving rxIndex lastRxIndex recvNums else .quiet
  | .delivering queue _ rxIndex lastRxIndex recvNums =>
      if queue = queueId then .delivering rxIndex lastRxIndex recvNums else .quiet
  | .publishing queue rxIndex lastRxIndex recvNums =>
      if queue = queueId then .publishing rxIndex lastRxIndex recvNums else .quiet
  | _ => .quiet

namespace Control

variable {target queueId : Nat} (todo rxIndex lastRxIndex recvNums : Nat)

@[simp] theorem rxPhase_receiving :
    (receiving queueId todo rxIndex lastRxIndex recvNums).rxPhase queueId =
    .receiving rxIndex lastRxIndex recvNums := if_pos rfl

@[simp] theorem rxPhase_delivering :
    (delivering queueId todo rxIndex lastRxIndex recvNums).rxPhase queueId =
    .delivering rxIndex lastRxIndex recvNums := if_pos rfl

@[simp] theorem rxPhase_publishing :
    (publishing queueId rxIndex lastRxIndex recvNums).rxPhase queueId =
    .publishing rxIndex lastRxIndex recvNums := if_pos rfl

end Control

/-- The receive queue an action works on. -/
def Action.rxTarget (control : Control) : Action → Option Nat
  | .receive queue _ | .rxStore queue _ _ => some queue
  | .resume => control.rxQueueId
  | _ => none

theorem Control.rxPhase_eq_quiet {queueId : Nat} {control : Control}
    (elsewhere : control.rxQueueId ≠ some queueId) :
    control.rxPhase queueId = .quiet := by
  cases control with
  | receiving | delivering | publishing => exact if_neg (fun same => elsewhere (congrArg some same))
  | _ => rfl

namespace System

def rxViewOf (system : System) (queueId : Nat) (queue : IgbRxQueue) : RxView :=
  { queue
    layout := system.machine.arcs.layout queue.pool
    head := system.machine.env (igbRdh queueId)
    tail := system.machine.env (igbRdt queueId)
    length := system.machine.env (igbRdlen queueId)
    phase := system.control.rxPhase queueId }

def rxView (system : System) (queueId : Nat) : Option RxView :=
  (system.rxQueue? queueId).map (system.rxViewOf queueId)

end System

/-- What the device may store into a receive queue. -/
abbrev RxEnvironment := RxView → Nat → WriteBack → Prop

/-- What the receive loop sees of a descriptor that carries a frame, besides the pool. -/
structure RxStep.Takes (view : RxView) (rxIndex : Nat) (packet : Packet)
    (desc : AdvancedRxDescriptor) : Prop where
  cell : view.queue.descriptors.cells[rxIndex]? = some desc
  done : desc.done = true
  held : view.queue.bufsInUse[rxIndex]? = some packet.poolEntry
  pool : packet.pool = view.queue.pool
  length : packet.len = desc.length
  located : view.layout.getPhysAddr packet.poolEntry = .ok packet.addrPhys

inductive RxStep (profile : Profile) (allowed : RxEnvironment) (queueId : Nat) (view : RxView) :
    List Event → RxView → Prop where
  | other {events : List Event} : RxSilent queueId events →
      RxStep profile allowed queueId view events view
  | receive : view.phase = .quiet →
      RxStep profile allowed queueId view []
        { view with phase := .receiving view.queue.rxIndex view.queue.rxIndex 0 }
  | take {rxIndex lastRxIndex recvNums buf : Nat} {packet : Packet} {desc : AdvancedRxDescriptor} :
      view.phase = .receiving rxIndex lastRxIndex recvNums →
      RxStep.Takes view rxIndex packet desc →
      RxStep profile allowed queueId view [.delivered queueId packet]
        { view with
          queue := view.queue.afterTake rxIndex buf
          phase := .delivering rxIndex lastRxIndex recvNums }
  | halt {rxIndex lastRxIndex recvNums : Nat} :
      view.phase = .receiving rxIndex lastRxIndex recvNums →
      RxStep profile allowed queueId view []
        { view with phase := .publishing rxIndex lastRxIndex recvNums }
  | rearm {rxIndex lastRxIndex recvNums buf phys next : Nat} {desc : AdvancedRxDescriptor} :
      view.phase = .delivering rxIndex lastRxIndex recvNums →
      view.queue.bufsInUse[rxIndex]? = some buf → view.layout.getPhysAddr buf = .ok phys →
      wrapRing profile rxIndex view.queue.numDescriptors = .ok next →
      RxStep profile allowed queueId view []
        { view with
          queue := view.queue.afterRearm rxIndex desc phys
          phase := .receiving next rxIndex (recvNums + 1) }
  | publish {rxIndex lastRxIndex recvNums : Nat} :
      view.phase = .publishing rxIndex lastRxIndex recvNums → rxIndex ≠ lastRxIndex →
      RxStep profile allowed queueId view [.received queueId (.ok recvNums)]
        { view with
          queue := { view.queue with rxIndex }
          tail := BitVec.ofNat 32 lastRxIndex
          phase := .quiet }
  | finish {rxIndex recvNums : Nat} : view.phase = .publishing rxIndex rxIndex recvNums →
      RxStep profile allowed queueId view [.received queueId (.ok recvNums)]
        { view with phase := .quiet }
  | rxStore {index : Nat} {writeBack : WriteBack} {desc : AdvancedRxDescriptor} :
      allowed view index writeBack → view.queue.descriptors.cells[index]? = some desc →
      RxStep profile allowed queueId view
        [.stored queueId ⟨desc.packetBufferAddress, writeBack.length⟩]
        { view with
          queue := { view.queue with
            descriptors := view.queue.descriptors.set index writeBack.descriptor }
          head := BitVec.ofNat 32 ((index + 1) % (view.length.toNat / 16)) }

section Registers

variable {queueId other : Nat}

theorem igbRdh_ne_igbRdt : igbRdh queueId ≠ igbRdt other := by
  simp only [igbRdh, igbRdt]
  omega

theorem igbRdlen_ne_igbRdt : igbRdlen queueId ≠ igbRdt other := by
  simp only [igbRdlen, igbRdt]
  omega

theorem igbRdlen_ne_igbRdh : igbRdlen queueId ≠ igbRdh other := by
  simp only [igbRdlen, igbRdh]
  omega

theorem igbRdt_ne (apart : queueId ≠ other) : igbRdt queueId ≠ igbRdt other := by
  simp only [igbRdt]
  omega

theorem igbRdh_ne (apart : queueId ≠ other) : igbRdh queueId ≠ igbRdh other := by
  simp only [igbRdh]
  omega

theorem igbRdh_ne_igbTdt : igbRdh queueId ≠ igbTdt other := by
  simp only [igbRdh, igbTdt]
  omega

theorem igbRdlen_ne_igbTdt : igbRdlen queueId ≠ igbTdt other := by
  simp only [igbRdlen, igbTdt]
  omega

theorem igbRdt_ne_igbTdh : igbRdt queueId ≠ igbTdh other := by
  simp only [igbRdt, igbTdh]
  omega

theorem igbRdlen_ne_igbTdh : igbRdlen queueId ≠ igbTdh other := by
  simp only [igbRdlen, igbTdh]
  omega

/-- The registers of the first 128 receive queues are no transmit queue's. -/
theorem igbRdt_ne_igbTdt_of_lt (low : queueId < 128) : igbRdt queueId ≠ igbTdt other := by
  simp only [igbRdt, igbTdt]
  omega

theorem igbRdh_ne_igbTdh_of_lt (low : queueId < 128) : igbRdh queueId ≠ igbTdh other := by
  simp only [igbRdh, igbTdh]
  omega

end Registers

namespace System

variable {system : System} {queueId other : Nat} {queue queue' : IgbRxQueue}

theorem rxView_eq (found : system.rxQueue? queueId = some queue) :
    system.rxView queueId = some (system.rxViewOf queueId queue) := by
  rw [rxView, found]
  rfl

theorem rxQueue?_set (found : system.rxQueue? other = some queue) :
    (system.setRxQueue other queue').rxQueue? other = some queue' := set_of_some found

theorem rxQueue?_set_ne (apart : other ≠ queueId) :
    (system.setRxQueue other queue').rxQueue? queueId = system.rxQueue? queueId :=
  List.getElem?_set_ne apart

theorem rxView_same (system after : System)
    (queues : after.rxQueue? queueId = system.rxQueue? queueId)
    (layout : ∀ ref, after.machine.arcs.layout ref = system.machine.arcs.layout ref)
    (head : after.machine.env (igbRdh queueId) = system.machine.env (igbRdh queueId))
    (tail : after.machine.env (igbRdt queueId) = system.machine.env (igbRdt queueId))
    (length : after.machine.env (igbRdlen queueId) = system.machine.env (igbRdlen queueId))
    (phase : after.control.rxPhase queueId = system.control.rxPhase queueId) :
    after.rxView queueId = system.rxView queueId := by
  have seen : after.rxViewOf queueId = system.rxViewOf queueId := by
    funext queue
    simp only [rxViewOf, layout, head, tail, length, phase]
  rw [rxView, rxView, queues, seen]

end System

theorem layout_switchPool (current : Option PoolRef) (packetPool : PoolRef) (arcs : Arcs)
    (ref : PoolRef) : (switchPool current packetPool arcs).2.layout ref = arcs.layout ref := by
  simp only [switchPool]
  split
  · split
    · rfl
    · rw [Arcs.layout_drop, Arcs.layout_clone]
  · rw [Arcs.layout_clone]

/-- No step moves an entry of a pool to another place. -/
theorem Step.layout {profile : Profile} {system after : System} {action : Action}
    {events : List Event} (step : Step profile system action events after) (ref : PoolRef) :
    after.machine.arcs.layout ref = system.machine.arcs.layout ref := by
  cases step with
  | report | ring | recycle | round | commit | receive | halt | rearm | publish | finish | rxStore
  | txDone => rfl
  | allocate allocates =>
      obtain ⟨rest, _, rfl⟩ := allocates.taken
      exact (Arcs.layout_clone _ _ _).trans (Arcs.layout_setFree _ _ _ _)
  | construct => exact Arcs.layout_clone _ _ _
  | drop _ frees | reject _ _ _ frees =>
      rw [frees.given]
      exact (Arcs.layout_drop _ _ _).trans (Arcs.layout_setFree _ _ _ _)
  | cloneHandle => exact Arcs.layout_clone _ _ _
  | dropHandle => exact Arcs.layout_drop _ _ _
  | send => exact layout_switchPool _ _ _ _
  | release => exact Arcs.layout_setFree _ _ _ _
  | take => exact (Arcs.layout_clone _ _ _).trans (Arcs.layout_setFree _ _ _ _)

theorem layout_run {profile : Profile} {policy : Policy} {system after : System}
    {trace : List Event} (run : Run (next profile) policy system trace after) (ref : PoolRef) :
    after.machine.arcs.layout ref = system.machine.arcs.layout ref :=
  run.invariant (fun _ state => state.machine.arcs.layout ref = system.machine.arcs.layout ref) rfl
    (fun _ _ _ _ _ kept _ stepped => ((next_step stepped).layout ref).trans kept)

section Steps

variable {profile : Profile} {system after : System} {action : Action} {events : List Event}
  {queueId : Nat}

theorem Step.rxQueue?_elsewhere (step : Step profile system action events after)
    (elsewhere : action.rxTarget system.control ≠ some queueId) :
    after.rxQueue? queueId = system.rxQueue? queueId := by
  cases step with
  | take control | rearm control | publish control =>
      rw [Action.rxTarget, control] at elsewhere
      exact System.rxQueue?_set_ne (fun same => elsewhere (congrArg some same))
  | rxStore => exact System.rxQueue?_set_ne (fun same => elsewhere (congrArg some same))
  | _ => rfl

theorem Step.rxPhase_elsewhere (step : Step profile system action events after)
    (elsewhere : action.rxTarget system.control ≠ some queueId) :
    after.control.rxPhase queueId = system.control.rxPhase queueId := by
  cases step with
  | receive idle =>
      rw [idle]
      exact Control.rxPhase_eq_quiet elsewhere
  | take control | halt control | rearm control =>
      rw [Action.rxTarget, control] at elsewhere
      rw [control, Control.rxPhase_eq_quiet elsewhere]
      exact Control.rxPhase_eq_quiet elsewhere
  | publish control | finish control =>
      rw [Action.rxTarget, control] at elsewhere
      rw [control, Control.rxPhase_eq_quiet elsewhere]
      rfl
  | send control | ring control | recycle control | round control | release control
  | commit control =>
      rw [control]
      rfl
  | _ => rfl

theorem Step.rxRegisters_elsewhere (step : Step profile system action events after)
    (elsewhere : action.rxTarget system.control ≠ some queueId) (low : queueId < 128) :
    after.machine.env (igbRdh queueId) = system.machine.env (igbRdh queueId) ∧
      after.machine.env (igbRdt queueId) = system.machine.env (igbRdt queueId) ∧
      after.machine.env (igbRdlen queueId) = system.machine.env (igbRdlen queueId) := by
  cases step with
  | ring =>
      exact ⟨RegisterFile.write_of_ne _ _ igbRdh_ne_igbTdt,
        RegisterFile.write_of_ne _ _ (igbRdt_ne_igbTdt_of_lt low),
        RegisterFile.write_of_ne _ _ igbRdlen_ne_igbTdt⟩
  | @publish target _ _ _ queue control =>
      rw [Action.rxTarget, control] at elsewhere
      have other : queueId ≠ target := fun same => elsewhere (congrArg some same.symm)
      exact ⟨RegisterFile.write_of_ne _ _ igbRdh_ne_igbRdt,
        RegisterFile.write_of_ne _ _ (igbRdt_ne other),
        RegisterFile.write_of_ne _ _ igbRdlen_ne_igbRdt⟩
  | @rxStore target =>
      have other : queueId ≠ target := fun same => elsewhere (congrArg some same.symm)
      exact ⟨RegisterFile.write_of_ne _ _ (igbRdh_ne other),
        RegisterFile.write_of_ne _ _ (Ne.symm igbRdh_ne_igbRdt),
        RegisterFile.write_of_ne _ _ igbRdlen_ne_igbRdh⟩
  | txDone =>
      exact ⟨RegisterFile.write_of_ne _ _ (igbRdh_ne_igbTdh_of_lt low),
        RegisterFile.write_of_ne _ _ igbRdt_ne_igbTdh,
        RegisterFile.write_of_ne _ _ igbRdlen_ne_igbTdh⟩
  | _ => exact ⟨rfl, rfl, rfl⟩

theorem Step.rxSilent_elsewhere (step : Step profile system action events after)
    (elsewhere : action.rxTarget system.control ≠ some queueId) : RxSilent queueId events := by
  cases step with
  | report _ reports => exact .of_reports reports
  | take control =>
      rw [Action.rxTarget, control] at elsewhere
      exact ⟨deliveredOn_delivered_ne (fun same => elsewhere (congrArg some same)) _, rfl⟩
  | rxStore => exact ⟨rfl, storedOn_stored_ne (fun same => elsewhere (congrArg some same)) _⟩
  | reject | commit | publish | finish => exact .of_reports (by simp [Event.isReport])
  | _ => exact ⟨rfl, rfl⟩

/-- A step that works on the queue is a step of its view. -/
theorem Step.rxView_own (allowed : RxEnvironment) (step : Step profile system action events after)
    {mine : IgbRxQueue} (own : system.rxQueue? queueId = some mine)
    (here : action.rxTarget system.control = some queueId)
    (stores : ∀ index writeBack, action = .rxStore queueId index writeBack →
      allowed (system.rxViewOf queueId mine) index writeBack) :
    ∃ view', after.rxView queueId = some view' ∧
      RxStep profile allowed queueId (system.rxViewOf queueId mine) events view' := by
  have layout := step.layout
  cases step with
  | report _ reports => exact ⟨_, System.rxView_eq own, .other (.of_reports reports)⟩
  | @receive target packetNums queue idle found =>
      obtain rfl : target = queueId := Option.some.inj here
      obtain rfl : queue = mine := Option.some.inj (found.symm.trans own)
      refine ⟨_, System.rxView_eq found, ?_⟩
      have quiet : system.control.rxPhase target = .quiet := by rw [idle]; rfl
      simp only [System.rxViewOf, System.withControl]
      rw [Control.rxPhase_receiving]
      exact .receive quiet
  | @take target todo rxIndex lastRxIndex recvNums buf queue packet desc rest control found takes =>
      rw [Action.rxTarget, control] at here
      obtain rfl : target = queueId := Option.some.inj here
      obtain rfl : queue = mine := Option.some.inj (found.symm.trans own)
      refine ⟨_, System.rxView_eq (System.rxQueue?_set found), ?_⟩
      have before : system.control.rxPhase target = .receiving rxIndex lastRxIndex recvNums := by
        rw [control, Control.rxPhase_receiving]
      simp only [System.rxViewOf]
      rw [layout]
      simp only [System.withControl]
      rw [Control.rxPhase_delivering]
      exact .take before ⟨takes.cell, takes.done, takes.held, takes.pool, takes.length,
        takes.located⟩
  | @halt target todo rxIndex lastRxIndex recvNums control =>
      rw [Action.rxTarget, control] at here
      obtain rfl : target = queueId := Option.some.inj here
      refine ⟨_, System.rxView_eq own, ?_⟩
      have before : system.control.rxPhase target = .receiving rxIndex lastRxIndex recvNums := by
        rw [control, Control.rxPhase_receiving]
      simp only [System.rxViewOf, System.withControl]
      rw [Control.rxPhase_publishing]
      exact .halt before
  | @rearm target todo rxIndex lastRxIndex recvNums buf phys next queue desc control found rearms =>
      rw [Action.rxTarget, control] at here
      obtain rfl : target = queueId := Option.some.inj here
      obtain rfl : queue = mine := Option.some.inj (found.symm.trans own)
      refine ⟨_, System.rxView_eq (System.rxQueue?_set found), ?_⟩
      have before : system.control.rxPhase target = .delivering rxIndex lastRxIndex recvNums := by
        rw [control, Control.rxPhase_delivering]
      simp only [System.rxViewOf, System.withControl]
      rw [Control.rxPhase_receiving]
      exact .rearm before rearms.held rearms.located rearms.wraps
  | @publish target rxIndex lastRxIndex recvNums queue control moved found =>
      rw [Action.rxTarget, control] at here
      obtain rfl : target = queueId := Option.some.inj here
      obtain rfl : queue = mine := Option.some.inj (found.symm.trans own)
      refine ⟨_, System.rxView_eq (System.rxQueue?_set found), ?_⟩
      have before : system.control.rxPhase target = .publishing rxIndex lastRxIndex recvNums := by
        rw [control, Control.rxPhase_publishing]
      simp only [System.rxViewOf]
      simp only [System.withEnv, System.withControl, RegisterFile.write_self,
        RegisterFile.write_of_ne _ _ igbRdh_ne_igbRdt,
        RegisterFile.write_of_ne _ _ igbRdlen_ne_igbRdt]
      exact .publish before moved
  | @finish target rxIndex recvNums control =>
      rw [Action.rxTarget, control] at here
      obtain rfl : target = queueId := Option.some.inj here
      refine ⟨_, System.rxView_eq own, ?_⟩
      have before : system.control.rxPhase target = .publishing rxIndex rxIndex recvNums := by
        rw [control, Control.rxPhase_publishing]
      exact .finish before
  | @rxStore target index writeBack queue desc found cell =>
      obtain rfl : target = queueId := Option.some.inj here
      obtain rfl : queue = mine := Option.some.inj (found.symm.trans own)
      refine ⟨_, System.rxView_eq (System.rxQueue?_set found), ?_⟩
      simp only [System.rxViewOf]
      simp only [System.withEnv, advanceHead_eq, RegisterFile.write_self,
        RegisterFile.write_of_ne _ _ (Ne.symm igbRdh_ne_igbRdt),
        RegisterFile.write_of_ne _ _ igbRdlen_ne_igbRdh]
      exact .rxStore (stores index writeBack rfl) cell
  | ring control | round control | release control | commit control =>
      rw [Action.rxTarget, control] at here
      cases here
  | allocate | construct | drop | cloneHandle | dropHandle | reject | send | recycle | txDone =>
      cases here

theorem Step.rxView {view : RxView} (allowed : RxEnvironment)
    (step : Step profile system action events after) (seen : system.rxView queueId = some view)
    (low : queueId < 128)
    (stores : ∀ index writeBack, action = .rxStore queueId index writeBack →
      allowed view index writeBack) :
    ∃ view', after.rxView queueId = some view' ∧
      RxStep profile allowed queueId view events view' := by
  by_cases here : action.rxTarget system.control = some queueId
  · obtain ⟨mine, own, rfl⟩ := Option.map_eq_some_iff.mp seen
    exact step.rxView_own allowed own here stores
  · -- A step on another queue, or on none, is not seen.
    obtain ⟨head, tail, length⟩ := step.rxRegisters_elsewhere here low
    have same : after.rxView queueId = system.rxView queueId :=
      System.rxView_same system after (step.rxQueue?_elsewhere here) step.layout head tail length
        (step.rxPhase_elsewhere here)
    exact ⟨view, same.trans seen, .other (step.rxSilent_elsewhere here)⟩

end Steps

end IgbDriver
