import IgbDriver.Custody
import IgbDriver.Nic

namespace IgbDriver

open Foundation

/-! # The bytes of the packets

The system together with the memory of its pools. The caller reads and writes its
packets through `translate`; the device reads a packet when it finishes its descriptor
and writes a frame when it stores one, at the bus addresses in the descriptors.
-/

/-- The slice `as_bytes` returns. -/
def Packet.asBytes (translate : Nat → Nat) (memory : Memory Byte) (packet : Packet) : List Byte :=
  Memory.load translate memory packet.addrVirt packet.len

/-- `clone_from_slice` into a packet of the same length. -/
def Packet.cloneFromSlice (translate : Nat → Nat) (memory : Memory Byte) (packet : Packet)
    (bytes : List Byte) :
    Memory Byte := Memory.store translate memory packet.addrVirt bytes

/-- What the device reads for a transmit descriptor. -/
def AdvancedTxDescriptor.fetch (memory : Memory Byte) (desc : AdvancedTxDescriptor) : List Byte :=
  Memory.load id memory desc.packetBufferAddress.toNat desc.dataLen.toNat

/-- The bytes of a frame where the device stored it. -/
def Frame.bytes (memory : Memory Byte) (frame : Frame) : List Byte :=
  Memory.load id memory frame.address.toNat frame.length

/-- `send` hands the device the low 16 bits of the length. -/
def truncated (bytes : List Byte) : List Byte := bytes.take (bytes.length % 65536)

structure LoadedSystem where
  system : System
  memory : Memory Byte

/-- An action of the system, with the frame the device stores if it is a store; or the
caller writes a byte of a live packet. -/
inductive LoadedAction where
  | act (action : Action) (frame : List Byte)
  | write (position offset : Nat) (byte : Byte)
deriving Repr

namespace LoadedSystem

variable (translate : Nat → Nat) (state : LoadedSystem)

/-- Only `clone` and the stores of the device touch the packets' memory. -/
def memoryAfter (frame : List Byte) (events : List Event) (after : System) : Action → Memory Byte
  | .pool (.clone position) =>
      match state.system.live[position]?, after.live.getLast? with
      | some packet, some copy =>
          copy.cloneFromSlice translate state.memory (packet.asBytes translate state.memory)
      | _, _ => state.memory
  | .rxStore .. =>
      match events with
      | [.stored _ stored] => Memory.store id state.memory stored.address.toNat frame
      | _ => state.memory
  | _ => state.memory

end LoadedSystem

/-- What came of a packet handed to `send`. -/
def Event.outcome? (bytes : Packet → List Byte) (position : Nat) : Event → Option (Nic.Label Byte)
  | .sent queueId packet => some (.accepted queueId position (bytes packet))
  | .rejected queueId _ _ => some (.refused queueId position)
  | _ => none

def Event.delivery? (bytes : Packet → List Byte) : Event → Option (Nic.Label Byte)
  | .delivered queueId packet => some (.delivered queueId (bytes packet))
  | _ => none

/-- What an action, its events and the state it led to say of the card. -/
def LoadedSystem.labels (translate : Nat → Nat) (state : LoadedSystem) (frame : List Byte)
    (events : List Event) (after : System) : Action → List (Nic.Label Byte)
  | .pool (.alloc ..) | .pool (.construct ..) =>
      (after.live.drop state.system.live.length).map fun packet =>
        .allocated (packet.asBytes translate state.memory)
  | .pool (.clone position) => [.cloned position]
  | .pool (.drop position) => [.dropped position]
  | .pool (.cloneHandle _) | .pool (.dropHandle _) => []
  | .send _ position =>
      events.filterMap (Event.outcome? (Packet.asBytes translate state.memory) position)
  | .txDone queueId index =>
      ((state.system.txQueue? queueId).bind fun queue => queue.descriptors.cells[index]?).toList.map
        fun desc => .transmitted queueId (desc.fetch state.memory)
  | .rxStore queueId .. => [.arrived queueId frame]
  | .recycle _ | .receive .. | .resume =>
      events.filterMap (Event.delivery? (Packet.asBytes translate state.memory))

/-- One step of the system with its memory. -/
def loadedNext (profile : Profile) (translate : Nat → Nat) (state : LoadedSystem) :
    LoadedAction → Option (Except (Abort Panic) (List (Nic.Label Byte) × LoadedSystem))
  | .act action frame =>
      (next profile state.system action).map fun result => do
        let (events, after) ← result
        .ok (state.labels translate frame events after action,
          { system := after, memory := state.memoryAfter translate frame events after action })
  | .write position offset byte =>
      if state.system.control.admitsCaller then
        match state.system.live[position]? with
        | none => none
        | some packet =>
            if offset < packet.len then
              some (.ok ([.written position offset byte],
                { state with
                  memory := Memory.store translate state.memory
                    (packet.addrVirt + offset) [byte] }))
            else none
      else none

/-- The frame the device stores is as long as its descriptor says. -/
def FrameFits (frame : List Byte) : Action → Prop
  | .rxStore _ _ writeBack => frame.length = writeBack.length
  | _ => True

/-- The policy of the system, for frames of the right length. -/
def Loads (policy : Policy) (state : LoadedSystem) : LoadedAction → Prop
  | .act action frame => policy state.system action ∧ FrameFits frame action
  | .write .. => True

instance (frame : List Byte) : (action : Action) → Decidable (FrameFits frame action)
  | .rxStore .. => inferInstanceAs (Decidable (_ = _))
  | .pool _ => isTrue trivial
  | .send .. => isTrue trivial
  | .recycle _ => isTrue trivial
  | .receive .. => isTrue trivial
  | .resume => isTrue trivial
  | .txDone .. => isTrue trivial

instance (policy : Policy) [∀ state action, Decidable (policy state action)]
    (state : LoadedSystem) :
    (action : LoadedAction) → Decidable (Loads policy state action)
  | .act .. => inferInstanceAs (Decidable (_ ∧ _))
  | .write .. => isTrue trivial

section Projection

variable {profile : Profile} {translate : Nat → Nat} {policy : Policy}
  {start state after : LoadedSystem} {action : Action} {frame : List Byte}
  {labels emitted : List (Nic.Label Byte)}

/-- What a step of the system does with the memory. -/
theorem loadedNext_act
    (stepped : loadedNext profile translate state (.act action frame) =
      some (.ok (emitted, after))) :
    ∃ events, next profile state.system action = some (.ok (events, after.system)) ∧
      emitted = state.labels translate frame events after.system action ∧
      after.memory = state.memoryAfter translate frame events after.system action := by
  obtain ⟨result, ran, same⟩ := Option.map_eq_some_iff.mp stepped
  obtain ⟨⟨events, final⟩, rfl, returned⟩ := except_bind_ok same
  cases returned
  exact ⟨events, ran, rfl, rfl⟩

theorem loadedNext_write {position offset : Nat} {byte : Byte}
    (stepped : loadedNext profile translate state (.write position offset byte) =
      some (.ok (emitted, after))) :
    ∃ packet, state.system.live[position]? = some packet ∧ offset < packet.len ∧
      emitted = [.written position offset byte] ∧ after.system = state.system ∧
      after.memory = Memory.store translate state.memory (packet.addrVirt + offset) [byte] := by
  simp only [loadedNext] at stepped
  split at stepped
  · split at stepped
    · cases stepped
    · rename_i packet owned
      split at stepped
      · rename_i inside
        cases stepped
        exact ⟨packet, owned, inside, rfl, rfl, rfl⟩
      · cases stepped
  · cases stepped

end Projection

end IgbDriver
