import IgbDriver.Trace
import IgbDriver.Foundation.Tally

namespace IgbDriver

open Foundation

/-! # One transmit queue, seen by itself

A transmit queue shares nothing with the others but the pools. Its view is the
queue, its three moving registers and the part of the control that concerns it;
`TxStep` is the step relation of the view, and `Step.txView` says that the system
seen through the view takes no other steps.
-/

/-- What the driver is doing on a transmit queue. -/
inductive TxPhase where
  | quiet
  | ringing
  | recycling (curIndex cleanIndex : Nat)
deriving DecidableEq

structure TxView where
  queue : IgbTxQueue
  head : BitVec 32
  tail : BitVec 32
  length : BitVec 32
  phase : TxPhase

/-- The clean index the driver works with: the local of a running recycle, else the
field. -/
def TxView.cleanIndex (view : TxView) : Nat :=
  match view.phase with
  | .recycling _ cleanIndex => cleanIndex
  | _ => view.queue.cleanIndex

def Control.txPhase (queueId : Nat) : Control → TxPhase
  | .ringing queue => if queue = queueId then .ringing else .quiet
  | .recycling queue curIndex cleanIndex =>
      if queue = queueId then .recycling curIndex cleanIndex else .quiet
  | _ => .quiet

namespace Control

variable {target queueId : Nat}

@[simp] theorem txPhase_ringing : (ringing queueId).txPhase queueId = .ringing := if_pos rfl

@[simp] theorem txPhase_recycling (curIndex cleanIndex : Nat) :
    (recycling queueId curIndex cleanIndex).txPhase queueId = .recycling curIndex cleanIndex :=
  if_pos rfl

end Control

/-- The transmit queue a running driver call works on. -/
def Control.txQueueId : Control → Option Nat
  | .ringing queue => some queue
  | .recycling queue .. => some queue
  | _ => none

/-- The receive queue a running `receive_packets` works on. -/
def Control.rxQueueId : Control → Option Nat
  | .receiving queue .. => some queue
  | .delivering queue .. => some queue
  | .publishing queue .. => some queue
  | _ => none

/-- The transmit queue an action works on. -/
def Action.txTarget (control : Control) : Action → Option Nat
  | .send queue _ | .recycle queue | .txDone queue _ => some queue
  | .resume => control.txQueueId
  | _ => none

theorem Control.txPhase_eq_quiet {queueId : Nat} {control : Control}
    (elsewhere : control.txQueueId ≠ some queueId) :
    control.txPhase queueId = .quiet := by
  cases control with
  | ringing | recycling => exact if_neg (fun same => elsewhere (congrArg some same))
  | _ => rfl

theorem Control.eq_recycling {queueId curIndex cleanIndex : Nat} {control : Control}
    (phase : control.txPhase queueId = .recycling curIndex cleanIndex) :
    control = .recycling queueId curIndex cleanIndex := by
  cases control with
  | recycling target cur clean =>
      rw [Control.txPhase] at phase
      split at phase
      · rename_i here
        cases phase
        rw [here]
      · cases phase
  | ringing target =>
      rw [Control.txPhase] at phase
      split at phase <;> cases phase
  | _ => cases phase

namespace System

def txViewOf (system : System) (queueId : Nat) (queue : IgbTxQueue) : TxView :=
  { queue
    head := system.machine.env (igbTdh queueId)
    tail := system.machine.env (igbTdt queueId)
    length := system.machine.env (igbTdlen queueId)
    phase := system.control.txPhase queueId }

def txView (system : System) (queueId : Nat) : Option TxView :=
  (system.txQueue? queueId).map (system.txViewOf queueId)

end System

/-- What the surroundings of a transmit queue may do to it. -/
structure TxEnvironment where
  sends : TxView → Packet → Prop
  completes : TxView → Nat → Prop

inductive TxStep (profile : Profile) (allowed : TxEnvironment) (queueId : Nat) (view : TxView) :
    List Event → TxView → Prop where
  | other {events : List Event} : TxSilent queueId events →
      TxStep profile allowed queueId view events view
  | send {packet : Packet} {txIndex : Nat} {desc : AdvancedTxDescriptor} :
      view.phase = .quiet → allowed.sends view packet → view.queue.canSend profile = .ok true →
      wrapRing profile view.queue.txIndex view.queue.numDescriptors = .ok txIndex →
      view.queue.descriptors.cells[view.queue.txIndex]? = some desc →
      TxStep profile allowed queueId view [.sent queueId packet]
        { view with queue := view.queue.afterSend packet txIndex desc, phase := .ringing }
  | ring : view.phase = .ringing →
      TxStep profile allowed queueId view []
        { view with tail := BitVec.ofNat 32 view.queue.txIndex, phase := .quiet }
  | recycle : view.phase = .quiet →
      TxStep profile allowed queueId view []
        { view with phase := .recycling view.queue.txIndex view.queue.cleanIndex }
  | round {curIndex cleanIndex last next : Nat} {desc : AdvancedTxDescriptor} {count : Int} :
      view.phase = .recycling curIndex cleanIndex →
      RoundSees profile view.queue curIndex cleanIndex last next desc count →
      view.queue.pool = none →
      TxStep profile allowed queueId view [] { view with phase := .recycling curIndex next }
  | release {curIndex cleanIndex last next : Nat} {desc : AdvancedTxDescriptor} {count : Int}
      {ref : PoolRef} :
      view.phase = .recycling curIndex cleanIndex →
      RoundSees profile view.queue curIndex cleanIndex last next desc count →
      view.queue.pool = some ref →
      TxStep profile allowed queueId view [.released queueId ref view.queue.batch]
        { view with queue := view.queue.afterBatch, phase := .recycling curIndex next }
  | commit {curIndex cleanIndex : Nat} :
      view.phase = .recycling curIndex cleanIndex →
      TxStep profile allowed queueId view [.recycled queueId (.ok ())]
        { view with queue := { view.queue with cleanIndex }, phase := .quiet }
  | txDone {index : Nat} {desc : AdvancedTxDescriptor} : allowed.completes view index →
      view.queue.descriptors.cells[index]? = some desc →
      TxStep profile allowed queueId view [.fetched queueId desc.packetBufferAddress]
        { view with
          queue := { view.queue with descriptors := view.queue.descriptors.set index desc.complete }
          head := BitVec.ofNat 32 ((index + 1) % (view.length.toNat / 16)) }

section Registers

variable {queueId other : Nat}

theorem igbTdh_ne_igbTdt : igbTdh queueId ≠ igbTdt other := by
  simp only [igbTdh, igbTdt]
  omega

theorem igbTdlen_ne_igbTdt : igbTdlen queueId ≠ igbTdt other := by
  simp only [igbTdlen, igbTdt]
  omega

theorem igbTdlen_ne_igbTdh : igbTdlen queueId ≠ igbTdh other := by
  simp only [igbTdlen, igbTdh]
  omega

theorem igbTdt_ne (apart : queueId ≠ other) : igbTdt queueId ≠ igbTdt other := by
  simp only [igbTdt]
  omega

theorem igbTdh_ne (apart : queueId ≠ other) : igbTdh queueId ≠ igbTdh other := by
  simp only [igbTdh]
  omega

theorem igbTdh_ne_igbRdt : igbTdh queueId ≠ igbRdt other := by
  simp only [igbTdh, igbRdt]
  omega

theorem igbTdlen_ne_igbRdt : igbTdlen queueId ≠ igbRdt other := by
  simp only [igbTdlen, igbRdt]
  omega

theorem igbTdt_ne_igbRdh : igbTdt queueId ≠ igbRdh other := by
  simp only [igbTdt, igbRdh]
  omega

theorem igbTdlen_ne_igbRdh : igbTdlen queueId ≠ igbRdh other := by
  simp only [igbTdlen, igbRdh]
  omega

/-- Only the receive queue 128 further on shares registers with a transmit queue. -/
theorem igbTdt_ne_igbRdt (apart : other ≠ queueId + 128) : igbTdt queueId ≠ igbRdt other := by
  simp only [igbTdt, igbRdt]
  omega

theorem igbTdh_ne_igbRdh (apart : other ≠ queueId + 128) : igbTdh queueId ≠ igbRdh other := by
  simp only [igbTdh, igbRdh]
  omega

end Registers

theorem advanceHead_eq (file : RegisterFile) (headReg lengthReg index : Nat) :
    advanceHead file headReg lengthReg index =
      file.write headReg (BitVec.ofNat 32 ((index + 1) % ringLength file lengthReg)) := rfl

namespace System

variable {system : System} {queueId other : Nat} {queue queue' : IgbTxQueue}

theorem txView_eq (found : system.txQueue? queueId = some queue) :
    system.txView queueId = some (system.txViewOf queueId queue) := by
  rw [txView, found]
  rfl

theorem txQueue?_set (found : system.txQueue? other = some queue) :
    (system.setTxQueue other queue').txQueue? other = some queue' := set_of_some found

theorem txQueue?_set_ne (apart : other ≠ queueId) :
    (system.setTxQueue other queue').txQueue? queueId = system.txQueue? queueId :=
  List.getElem?_set_ne apart

/-- A step that leaves the queue, its registers and its phase alone is not seen. -/
theorem txView_same (system after : System)
    (queues : after.txQueue? queueId = system.txQueue? queueId)
    (head : after.machine.env (igbTdh queueId) = system.machine.env (igbTdh queueId))
    (tail : after.machine.env (igbTdt queueId) = system.machine.env (igbTdt queueId))
    (length : after.machine.env (igbTdlen queueId) = system.machine.env (igbTdlen queueId))
    (phase : after.control.txPhase queueId = system.control.txPhase queueId) :
    after.txView queueId = system.txView queueId := by
  have seen : after.txViewOf queueId = system.txViewOf queueId := by
    funext queue
    simp only [txViewOf, head, tail, length, phase]
  rw [txView, txView, queues, seen]

end System

section Steps

variable {profile : Profile} {system after : System} {action : Action} {events : List Event}
  {queueId : Nat}

theorem Step.txQueue?_elsewhere (step : Step profile system action events after)
    (elsewhere : action.txTarget system.control ≠ some queueId) :
    after.txQueue? queueId = system.txQueue? queueId := by
  cases step with
  | send => exact System.txQueue?_set_ne (fun same => elsewhere (congrArg some same))
  | txDone => exact System.txQueue?_set_ne (fun same => elsewhere (congrArg some same))
  | release control | commit control =>
      rw [Action.txTarget, control] at elsewhere
      exact System.txQueue?_set_ne (fun same => elsewhere (congrArg some same))
  | _ => rfl

theorem Step.txPhase_elsewhere (step : Step profile system action events after)
    (elsewhere : action.txTarget system.control ≠ some queueId) :
    after.control.txPhase queueId = system.control.txPhase queueId := by
  cases step with
  | send idle =>
      rw [idle]
      exact Control.txPhase_eq_quiet elsewhere
  | recycle idle =>
      rw [idle]
      exact Control.txPhase_eq_quiet elsewhere
  | round control | release control =>
      rw [Action.txTarget, control] at elsewhere
      rw [control, Control.txPhase_eq_quiet elsewhere]
      exact Control.txPhase_eq_quiet elsewhere
  | ring control | commit control =>
      rw [Action.txTarget, control] at elsewhere
      rw [control, Control.txPhase_eq_quiet elsewhere]
      rfl
  | receive control | take control | halt control | rearm control | publish control
  | finish control =>
      rw [control]
      rfl
  | _ => rfl

theorem Step.txRegisters_elsewhere (step : Step profile system action events after)
    (elsewhere : action.txTarget system.control ≠ some queueId)
    (apart : system.rxQueue? (queueId + 128) = none ∨
      system.control.rxQueueId ≠ some (queueId + 128) ∧
        ∀ index writeBack, action ≠ .rxStore (queueId + 128) index writeBack) :
    after.machine.env (igbTdh queueId) = system.machine.env (igbTdh queueId) ∧
      after.machine.env (igbTdt queueId) = system.machine.env (igbTdt queueId) ∧
      after.machine.env (igbTdlen queueId) = system.machine.env (igbTdlen queueId) := by
  cases step with
  | @ring target queue control found =>
      rw [Action.txTarget, control] at elsewhere
      have other : queueId ≠ target := fun same => elsewhere (congrArg some same.symm)
      exact ⟨RegisterFile.write_of_ne _ _ igbTdh_ne_igbTdt,
        RegisterFile.write_of_ne _ _ (igbTdt_ne other),
        RegisterFile.write_of_ne _ _ igbTdlen_ne_igbTdt⟩
  | @txDone target =>
      have other : queueId ≠ target := fun same => elsewhere (congrArg some same.symm)
      exact ⟨RegisterFile.write_of_ne _ _ (igbTdh_ne other),
        RegisterFile.write_of_ne _ _ (Ne.symm igbTdh_ne_igbTdt),
        RegisterFile.write_of_ne _ _ igbTdlen_ne_igbTdh⟩
  | @publish target _ _ _ queue control _ found =>
      have other : target ≠ queueId + 128 := by
        intro same
        subst same
        rcases apart with absent | ⟨free, _⟩
        · cases absent.symm.trans found
        · exact free (by rw [control]; rfl)
      exact ⟨RegisterFile.write_of_ne _ _ igbTdh_ne_igbRdt,
        RegisterFile.write_of_ne _ _ (igbTdt_ne_igbRdt other),
        RegisterFile.write_of_ne _ _ igbTdlen_ne_igbRdt⟩
  | @rxStore target index writeBack queue desc found =>
      have other : target ≠ queueId + 128 := by
        intro same
        subst same
        rcases apart with absent | ⟨_, stores⟩
        · cases absent.symm.trans found
        · exact stores index writeBack rfl
      exact ⟨RegisterFile.write_of_ne _ _ (igbTdh_ne_igbRdh other),
        RegisterFile.write_of_ne _ _ igbTdt_ne_igbRdh,
        RegisterFile.write_of_ne _ _ igbTdlen_ne_igbRdh⟩
  | _ => exact ⟨rfl, rfl, rfl⟩

theorem Step.txSilent_elsewhere (step : Step profile system action events after)
    (elsewhere : action.txTarget system.control ≠ some queueId) : TxSilent queueId events := by
  cases step with
  | report _ reports => exact .of_reports reports
  | send => exact ⟨sentOn_sent_ne (fun same => elsewhere (congrArg some same)) _, rfl, rfl⟩
  | txDone => exact ⟨rfl, rfl, fetchedOn_fetched_ne (fun same => elsewhere (congrArg some same)) _⟩
  | release control =>
      rw [Action.txTarget, control] at elsewhere
      exact ⟨rfl, releasedOn_released_ne (fun same => elsewhere (congrArg some same)) _ _, rfl⟩
  | reject | commit | publish | finish => exact .of_reports (by simp [Event.isReport])
  | _ => exact ⟨rfl, rfl, rfl⟩

/-- A step that works on the queue is a step of its view. -/
theorem Step.txView_own (allowed : TxEnvironment) (step : Step profile system action events after)
    {mine : IgbTxQueue} (own : system.txQueue? queueId = some mine)
    (here : action.txTarget system.control = some queueId)
    (sends : ∀ position packet, action = .send queueId position →
      system.live[position]? = some packet → mine.canSend profile = .ok true →
      allowed.sends (system.txViewOf queueId mine) packet)
    (completes : ∀ index, action = .txDone queueId index →
      allowed.completes (system.txViewOf queueId mine) index) :
    ∃ view', after.txView queueId = some view' ∧
      TxStep profile allowed queueId (system.txViewOf queueId mine) events view' := by
  cases step with
  | report _ reports => exact ⟨_, System.txView_eq own, .other (.of_reports reports)⟩
  | reject => exact ⟨_, System.txView_eq own, .other (.of_reports (by simp [Event.isReport]))⟩
  | @send target position txIndex packet queue desc idle owned found room wraps cell =>
      obtain rfl : target = queueId := Option.some.inj here
      obtain rfl : queue = mine := Option.some.inj (found.symm.trans own)
      refine ⟨_, System.txView_eq (System.txQueue?_set found), ?_⟩
      have quiet : system.control.txPhase target = .quiet := by rw [idle]; rfl
      simp only [System.txViewOf]
      rw [show System.control (System.withControl _ _) = .ringing target from rfl,
        Control.txPhase_ringing]
      exact .send quiet (sends position packet rfl owned room) room wraps cell
  | @ring target queue control found =>
      rw [Action.txTarget, control] at here
      obtain rfl : target = queueId := Option.some.inj here
      obtain rfl : queue = mine := Option.some.inj (found.symm.trans own)
      refine ⟨_, System.txView_eq found, ?_⟩
      have ringing : system.control.txPhase target = .ringing := by
        rw [control, Control.txPhase_ringing]
      simp only [System.txViewOf]
      simp only [System.withEnv, System.withControl, RegisterFile.write_self,
        RegisterFile.write_of_ne _ _ igbTdh_ne_igbTdt,
        RegisterFile.write_of_ne _ _ igbTdlen_ne_igbTdt]
      exact .ring ringing
  | @recycle target queue idle found =>
      obtain rfl : target = queueId := Option.some.inj here
      obtain rfl : queue = mine := Option.some.inj (found.symm.trans own)
      refine ⟨_, System.txView_eq found, ?_⟩
      have quiet : system.control.txPhase target = .quiet := by rw [idle]; rfl
      simp only [System.txViewOf, System.withControl]
      rw [Control.txPhase_recycling]
      exact .recycle quiet
  | @round target curIndex cleanIndex last next queue desc count control found sees pool =>
      rw [Action.txTarget, control] at here
      obtain rfl : target = queueId := Option.some.inj here
      obtain rfl : queue = mine := Option.some.inj (found.symm.trans own)
      refine ⟨_, System.txView_eq found, ?_⟩
      have before : system.control.txPhase target = .recycling curIndex cleanIndex := by
        rw [control, Control.txPhase_recycling]
      simp only [System.txViewOf, System.withControl]
      rw [Control.txPhase_recycling]
      exact .round before sees pool
  | @release target curIndex cleanIndex last next queue desc count ref control found sees pool =>
      rw [Action.txTarget, control] at here
      obtain rfl : target = queueId := Option.some.inj here
      obtain rfl : queue = mine := Option.some.inj (found.symm.trans own)
      refine ⟨_, System.txView_eq (System.txQueue?_set found), ?_⟩
      have before : system.control.txPhase target = .recycling curIndex cleanIndex := by
        rw [control, Control.txPhase_recycling]
      simp only [System.txViewOf, System.withControl]
      rw [Control.txPhase_recycling]
      exact .release before sees pool
  | @commit target curIndex cleanIndex queue control found =>
      rw [Action.txTarget, control] at here
      obtain rfl : target = queueId := Option.some.inj here
      obtain rfl : queue = mine := Option.some.inj (found.symm.trans own)
      refine ⟨_, System.txView_eq (System.txQueue?_set found), ?_⟩
      have before : system.control.txPhase target = .recycling curIndex cleanIndex := by
        rw [control, Control.txPhase_recycling]
      exact .commit before
  | @txDone target index queue desc found cell =>
      obtain rfl : target = queueId := Option.some.inj here
      obtain rfl : queue = mine := Option.some.inj (found.symm.trans own)
      refine ⟨_, System.txView_eq (System.txQueue?_set found), ?_⟩
      simp only [System.txViewOf]
      simp only [System.withEnv, advanceHead_eq, RegisterFile.write_self,
        RegisterFile.write_of_ne _ _ (Ne.symm igbTdh_ne_igbTdt),
        RegisterFile.write_of_ne _ _ igbTdlen_ne_igbTdh]
      exact .txDone (completes index rfl) cell
  | take control | halt control | rearm control | publish control | finish control =>
      rw [Action.txTarget, control] at here
      cases here
  | allocate | construct | drop | cloneHandle | dropHandle | receive | rxStore => cases here

theorem Step.txView {view : TxView} (allowed : TxEnvironment)
    (step : Step profile system action events after) (seen : system.txView queueId = some view)
    (apart : system.rxQueue? (queueId + 128) = none ∨
      system.control.rxQueueId ≠ some (queueId + 128) ∧
        ∀ index writeBack, action ≠ .rxStore (queueId + 128) index writeBack)
    (sends : ∀ position packet, action = .send queueId position →
      system.live[position]? = some packet → view.queue.canSend profile = .ok true →
      allowed.sends view packet)
    (completes : ∀ index, action = .txDone queueId index → allowed.completes view index) :
    ∃ view', after.txView queueId = some view' ∧
      TxStep profile allowed queueId view events view' := by
  by_cases here : action.txTarget system.control = some queueId
  · obtain ⟨mine, own, rfl⟩ := Option.map_eq_some_iff.mp seen
    exact step.txView_own allowed own here sends completes
  · -- A step on another queue, or on none, is not seen.
    obtain ⟨head, tail, length⟩ := step.txRegisters_elsewhere here apart
    have same : after.txView queueId = system.txView queueId :=
      System.txView_same system after (step.txQueue?_elsewhere here) head tail length
        (step.txPhase_elsewhere here)
    exact ⟨view, same.trans seen, .other (step.txSilent_elsewhere here)⟩

end Steps

end IgbDriver
