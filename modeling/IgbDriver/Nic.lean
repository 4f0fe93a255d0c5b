import IgbDriver.Foundation.Refine
import Mathlib.Logic.Function.Basic

namespace IgbDriver

open Foundation

/-! # What a network card is for

Buffers of bytes in the caller's hands, and a line of frames for each queue: those
accepted and not sent yet, and those that arrived and were not handed over yet. There
is no memory here, no descriptor and no pool.
-/

variable {β : Type}

structure Nic (β : Type) where
  buffers : List (List β)
  outgoing : Nat → List (List β)
  incoming : Nat → List (List β)

namespace Nic

/-- What the caller, the driver and the wire show of a card. Buffers are named by their
position among the caller's. -/
inductive Label (β : Type) where
  | allocated (bytes : List β)
  | cloned (position : Nat)
  | dropped (position : Nat)
  | written (position offset : Nat) (byte : β)
  | accepted (queueId position : Nat) (bytes : List β)
  | refused (queueId position : Nat)
  | transmitted (queueId : Nat) (frame : List β)
  | arrived (queueId : Nat) (frame : List β)
  | delivered (queueId : Nat) (frame : List β)
deriving DecidableEq, Repr

/-- `wire` is what becomes of a buffer on the way to the wire. -/
inductive Move (wire : List β → List β) (nic : Nic β) : Label β → Nic β → Prop where
  | allocate (bytes : List β) :
      Move wire nic (.allocated bytes) { nic with buffers := nic.buffers ++ [bytes] }
  | clone {position : Nat} {bytes : List β} : nic.buffers[position]? = some bytes →
      Move wire nic (.cloned position) { nic with buffers := nic.buffers ++ [bytes] }
  | drop {position : Nat} {bytes : List β} : nic.buffers[position]? = some bytes →
      Move wire nic (.dropped position) { nic with buffers := nic.buffers.eraseIdx position }
  | write {position offset : Nat} {bytes : List β} (byte : β) :
      nic.buffers[position]? = some bytes → offset < bytes.length →
      Move wire nic (.written position offset byte)
        { nic with buffers := nic.buffers.set position (bytes.set offset byte) }
  | accept {position : Nat} {bytes : List β} (queueId : Nat) : nic.buffers[position]? = some bytes →
      Move wire nic (.accepted queueId position bytes)
        { nic with
          buffers := nic.buffers.eraseIdx position
          outgoing := Function.update nic.outgoing queueId (nic.outgoing queueId ++ [wire bytes]) }
  | refuse {position : Nat} {bytes : List β} (queueId : Nat) : nic.buffers[position]? = some bytes →
      Move wire nic (.refused queueId position)
        { nic with buffers := nic.buffers.eraseIdx position }
  | transmit {queueId : Nat} {frame : List β} {rest : List (List β)} :
      nic.outgoing queueId = frame :: rest →
      Move wire nic (.transmitted queueId frame)
        { nic with outgoing := Function.update nic.outgoing queueId rest }
  | arrive (queueId : Nat) (frame : List β) :
      Move wire nic (.arrived queueId frame)
        { nic with incoming :=
          Function.update nic.incoming queueId (nic.incoming queueId ++ [frame]) }
  | deliver {queueId : Nat} {frame : List β} {rest : List (List β)} :
      nic.incoming queueId = frame :: rest →
      Move wire nic (.delivered queueId frame)
        { nic with
          buffers := nic.buffers ++ [frame]
          incoming := Function.update nic.incoming queueId rest }

namespace Label

variable (queueId : Nat)

def accepted? : Label β → Option (List β)
  | .accepted queue _ bytes => if queue = queueId then some bytes else none
  | _ => none

def transmitted? : Label β → Option (List β)
  | .transmitted queue frame => if queue = queueId then some frame else none
  | _ => none

def arrived? : Label β → Option (List β)
  | .arrived queue frame => if queue = queueId then some frame else none
  | _ => none

def delivered? : Label β → Option (List β)
  | .delivered queue frame => if queue = queueId then some frame else none
  | _ => none

end Label

section Traffic

variable (queueId : Nat) (labels : List (Label β))

def acceptedOn : List (List β) := labels.filterMap (Label.accepted? queueId)

def transmittedOn : List (List β) := labels.filterMap (Label.transmitted? queueId)

def arrivedOn : List (List β) := labels.filterMap (Label.arrived? queueId)

def deliveredOn : List (List β) := labels.filterMap (Label.delivered? queueId)

end Traffic

variable {wire : List β → List β} {start nic after : Nic β} {labels : List (Label β)}
  {label : Label β} {queueId : Nat}

/-- One move keeps count of what a queue has taken in and given out. -/
theorem Move.outgoing_eq (queueId : Nat) (move : Move wire nic label after) :
    nic.outgoing queueId ++ (acceptedOn queueId [label]).map wire =
      transmittedOn queueId [label] ++ after.outgoing queueId := by
  cases move with
  | allocate | clone | drop | write | refuse | arrive | deliver =>
      simp [acceptedOn, transmittedOn, List.filterMap_cons, Label.accepted?, Label.transmitted?]
  | @accept position bytes target found =>
      by_cases same : target = queueId
      · subst same
        simp [acceptedOn, transmittedOn, List.filterMap_cons, Label.accepted?, Label.transmitted?]
      · simp [acceptedOn, transmittedOn, Label.accepted?, Label.transmitted?, same, Ne.symm same]
  | @transmit target frame rest waiting =>
      by_cases same : target = queueId
      · subst same
        simp [acceptedOn, transmittedOn, Label.accepted?, Label.transmitted?, waiting]
      · simp [acceptedOn, transmittedOn, Label.accepted?, Label.transmitted?, same, Ne.symm same]

theorem Move.incoming_eq (queueId : Nat) (move : Move wire nic label after) :
    nic.incoming queueId ++ arrivedOn queueId [label] =
      deliveredOn queueId [label] ++ after.incoming queueId := by
  cases move with
  | allocate | clone | drop | write | refuse | accept | transmit =>
      simp [arrivedOn, deliveredOn, List.filterMap_cons, Label.arrived?, Label.delivered?]
  | @arrive target frame =>
      by_cases same : target = queueId
      · subst same
        simp [arrivedOn, deliveredOn, List.filterMap_cons, Label.arrived?, Label.delivered?]
      · simp [arrivedOn, deliveredOn, Label.arrived?, Label.delivered?, same, Ne.symm same]
  | @deliver target frame rest waiting =>
      by_cases same : target = queueId
      · subst same
        simp [arrivedOn, deliveredOn, Label.arrived?, Label.delivered?, waiting]
      · simp [arrivedOn, deliveredOn, Label.arrived?, Label.delivered?, same, Ne.symm same]

/-- Along a path a line gives out what it took in, in order, and keeps the rest. -/
theorem outgoing_of_path (queueId : Nat) (path : Path (Move wire) start labels nic) :
    start.outgoing queueId ++ (acceptedOn queueId labels).map wire =
      transmittedOn queueId labels ++ nic.outgoing queueId := by
  refine path.invariant
    (fun labels state => start.outgoing queueId ++ (acceptedOn queueId labels).map wire =
    transmittedOn queueId labels ++ state.outgoing queueId) (by simp [acceptedOn, transmittedOn]) ?_
  intro labels state label after before moved
  have moves := moved.outgoing_eq queueId
  simp only [acceptedOn, transmittedOn, List.filterMap_append, List.map_append] at before moves ⊢
  rw [← List.append_assoc, before, List.append_assoc, moves, ← List.append_assoc]

theorem incoming_of_path (queueId : Nat) (path : Path (Move wire) start labels nic) :
    start.incoming queueId ++ arrivedOn queueId labels =
      deliveredOn queueId labels ++ nic.incoming queueId := by
  refine path.invariant (fun labels state => start.incoming queueId ++ arrivedOn queueId labels =
    deliveredOn queueId labels ++ state.incoming queueId) (by simp [arrivedOn, deliveredOn]) ?_
  intro labels state label after before moved
  have moves := moved.incoming_eq queueId
  simp only [arrivedOn, deliveredOn, List.filterMap_append] at before moves ⊢
  rw [← List.append_assoc, before, List.append_assoc, moves, ← List.append_assoc]

end Nic

end IgbDriver
