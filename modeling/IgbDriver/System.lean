import IgbDriver.Transfer
import IgbDriver.Foundation.Run
import Mathlib.Logic.Function.Basic

namespace IgbDriver

open Foundation

/-! # The driver, its caller and the device

One step of the system is one uninterrupted piece of a driver call, one operation
of the caller on the pools, or one completion of the device. The caller runs between
driver calls and inside the receive callback; the device runs at any time.
-/

/-- Where the driver is. `delivering` is inside the callback, `publishing` past the
receive loop, `ringing` before the doorbell of an accepted packet. -/
inductive Control where
  | idle
  | ringing (queueId : Nat)
  | recycling (queueId curIndex cleanIndex : Nat)
  | receiving (queueId todo rxIndex lastRxIndex recvNums : Nat)
  | delivering (queueId todo rxIndex lastRxIndex recvNums : Nat)
  | publishing (queueId rxIndex lastRxIndex recvNums : Nat)
deriving DecidableEq, Repr

/-- `handles` counts the `Arc`s the caller holds, `live` lists the packets it owns. -/
structure System where
  machine : Machine RegisterFile
  handles : PoolRef → Nat
  live : List Packet
  control : Control

/-- What a device writes over a receive descriptor, in the advanced layout. -/
structure WriteBack where
  lower : BitVec 64
  upper : BitVec 64
deriving DecidableEq, Repr

def WriteBack.descriptor (writeBack : WriteBack) : AdvancedRxDescriptor :=
  { packetBufferAddress := writeBack.lower, headerBufferAddress := writeBack.upper }

/-- The 16-bit length field. -/
def WriteBack.length (writeBack : WriteBack) : Nat := writeBack.upper.toNat / 2 ^ 32 % 2 ^ 16

inductive PoolAction where
  | alloc (ref : PoolRef) (size : Nat)
  | construct (poolEntry : Nat) (ref : PoolRef) (len : Nat)
  | clone (position : Nat)
  | drop (position : Nat)
  | cloneHandle (ref : PoolRef)
  | dropHandle (ref : PoolRef)
deriving DecidableEq, Repr

/-- `send` takes the live packet at a position. `resume` lets the running driver call
go on; in `delivering` it is the return of the callback. -/
inductive Action where
  | pool (action : PoolAction)
  | send (queueId position : Nat)
  | recycle (queueId : Nat)
  | receive (queueId packetNums : Nat)
  | resume
  | rxStore (queueId index : Nat) (writeBack : WriteBack)
  | txDone (queueId index : Nat)
deriving DecidableEq, Repr

/-- A frame as the device stored it: the address it wrote to and its length. -/
structure Frame where
  address : BitVec 64
  length : Nat
deriving DecidableEq, Repr

inductive Event where
  | sent (queueId : Nat) (packet : Packet)
  | rejected (queueId : Nat) (packet : Packet) (failure : IgbError)
  | released (queueId : Nat) (ref : PoolRef) (ids : List Nat)
  | recycled (queueId : Nat) (result : Except IgbError Unit)
  | delivered (queueId : Nat) (packet : Packet)
  | received (queueId : Nat) (result : Except IgbError Nat)
  | stored (queueId : Nat) (frame : Frame)
  | fetched (queueId : Nat) (address : BitVec 64)

namespace System

def withArcs (system : System) (arcs : Arcs) : System :=
  { system with machine := { system.machine with arcs } }

end System

/-- The caller may use the pools between driver calls and in the callback. -/
def Control.admitsCaller : Control → Bool
  | .idle => true
  | .delivering .. => true
  | _ => false

/-- An operation on a pool needs a handle on it; one on a packet needs the packet. -/
def poolStep (profile : Profile) (system : System) : PoolAction →
    Option (Except (Abort Panic) System)
  | .alloc ref size =>
      if system.handles ref = 0 then none
      else some do
        let (result, arcs) ← IgbNetBuf.alloc profile ref size system.machine.arcs
        match result with
        | .ok buf => .ok { system.withArcs arcs with live := system.live ++ [buf.packet] }
        | .error _ => .ok (system.withArcs arcs)
  | .construct poolEntry ref len =>
      if system.handles ref = 0 then none
      else some do
        let (result, arcs) ← IgbNetBuf.construct profile poolEntry ref len system.machine.arcs
        match result with
        | .ok buf => .ok { system.withArcs arcs with live := system.live ++ [buf.packet] }
        | .error _ => .ok (system.withArcs arcs)
  | .clone position =>
      match system.live[position]? with
      | none => none
      | some packet => some do
          let (copy, arcs) ← packet.clone profile system.machine.arcs
          .ok { system.withArcs arcs with live := system.live ++ [copy] }
  | .drop position =>
      match system.live[position]? with
      | none => none
      | some packet => some do
          let arcs ← packet.drop system.machine.arcs
          .ok { system.withArcs arcs with live := system.live.eraseIdx position }
  | .cloneHandle ref =>
      if system.handles ref = 0 then none
      else some (.ok { system.withArcs (system.machine.arcs.clone ref) with
        handles := Function.update system.handles ref (system.handles ref + 1) })
  | .dropHandle ref =>
      if system.handles ref = 0 then none
      else some (.ok { system.withArcs (system.machine.arcs.drop ref) with
        handles := Function.update system.handles ref (system.handles ref - 1) })

section Driver

variable (profile : Profile) (system : System)

/-- A driver program run on the machine of the system. -/
def System.perform {α : Type} (program : Driver RegisterFile α) :
    Except (Abort Panic) (Except IgbError α × System) := do
  let (result, machine) ← program system.machine
  .ok (result, { system with machine })

def sendStep (queueId : Nat) (packet : Packet) (position : Nat) :
    Except (Abort Panic) (List Event × System) := do
  let taken := { system with live := system.live.eraseIdx position }
  let (result, after) ← taken.perform (sendEnqueue (registerFile profile) queueId { packet })
  match result with
  | .ok () => .ok ([.sent queueId packet], { after with control := .ringing queueId })
  | .error failure => .ok ([.rejected queueId packet failure], after)

def recycleStep (queueId : Nat) : List Event × System :=
  match system.machine.dev.txQueues[queueId]? with
  | none => ([.recycled queueId (.error .invalidQueue)], system)
  | some queue => ([], { system with control := .recycling queueId queue.txIndex queue.cleanIndex })

def receiveStep (queueId packetNums : Nat) : Except (Abort Panic) (List Event × System) :=
  match system.machine.dev.rxQueues[queueId]? with
  | none => .ok ([.received queueId (.error .invalidQueue)], system)
  | some queue => do
      if ← queue.canRecv then
        .ok ([], { system with
          control := .receiving queueId packetNums queue.rxIndex queue.rxIndex 0 })
      else .ok ([.received queueId (.error .notReady)], system)

/-- The entries a round of recycling hands back, for the trace. -/
def releasedBy (queueId : Nat) : List Event :=
  match system.machine.dev.txQueues[queueId]? with
  | none => []
  | some queue => queue.pool.toList.map fun ref => .released queueId ref queue.batch

def recycleRoundStep (queueId curIndex cleanIndex : Nat) :
    Except (Abort Panic) (List Event × System) := do
  let (result, after) ← system.perform
    (recycleRound (registerFile profile) queueId curIndex cleanIndex)
  match result with
  | .ok (some next) =>
      .ok (releasedBy system queueId, { after with control := .recycling queueId curIndex next })
  | .ok none => do
      let (_, after) ← after.perform (recycleCommit queueId cleanIndex)
      .ok ([.recycled queueId (.ok ())], { after with control := .idle })
  | .error failure => .ok ([.recycled queueId (.error failure)], { after with control := .idle })

def takeFrameStep (queueId todo rxIndex lastRxIndex recvNums : Nat) :
    Except (Abort Panic) (List Event × System) :=
  match todo with
  | 0 => .ok ([], { system with control := .publishing queueId rxIndex lastRxIndex recvNums })
  | todo + 1 => do
      let (result, after) ← system.perform (takeFrame (registerFile profile) queueId rxIndex)
      match result with
      | .ok (some rxBuf) => .ok ([.delivered queueId rxBuf.packet], { after with
          live := after.live ++ [rxBuf.packet]
          control := .delivering queueId todo rxIndex lastRxIndex recvNums })
      | _ => .ok ([], { after with control := .publishing queueId rxIndex lastRxIndex recvNums })

def rearmStep (queueId todo rxIndex recvNums : Nat) : Except (Abort Panic)
    (List Event × System) := do
  let (result, after) ← system.perform (rearmDescriptor (registerFile profile) queueId rxIndex)
  match result with
  | .ok next =>
      .ok ([], { after with control := .receiving queueId todo next rxIndex (recvNums + 1) })
  | .error _ => .ok ([], after)

def publishStep (queueId rxIndex lastRxIndex recvNums : Nat) :
    Except (Abort Panic) (List Event × System) := do
  let (_, after) ← system.perform (receiveCommit (registerFile profile) queueId rxIndex lastRxIndex)
  .ok ([.received queueId (.ok recvNums)], { after with control := .idle })

def resumeStep : Control → Option (Except (Abort Panic) (List Event × System))
  | .idle => none
  | .ringing queueId => some do
      let (_, after) ← system.perform (sendDoorbell (registerFile profile) queueId)
      .ok ([], { after with control := .idle })
  | .recycling queueId curIndex cleanIndex =>
      some (recycleRoundStep profile system queueId curIndex cleanIndex)
  | .receiving queueId todo rxIndex lastRxIndex recvNums =>
      some (takeFrameStep profile system queueId todo rxIndex lastRxIndex recvNums)
  | .delivering queueId todo rxIndex _ recvNums =>
      some (rearmStep profile system queueId todo rxIndex recvNums)
  | .publishing queueId rxIndex lastRxIndex recvNums =>
      some (publishStep profile system queueId rxIndex lastRxIndex recvNums)

end Driver

/-- Entries of a ring, as its length register has them. -/
def ringLength (regs : RegisterFile) (lengthReg : Nat) : Nat := (regs lengthReg).toNat / 16

/-- The head register after descriptor `index` is finished. -/
def advanceHead (regs : RegisterFile) (headReg lengthReg index : Nat) : RegisterFile :=
  fun other =>
    if other = headReg then BitVec.ofNat 32 ((index + 1) % ringLength regs lengthReg)
    else regs other

def rxStoreStep (system : System) (queueId index : Nat) (writeBack : WriteBack) :
    Option (List Event × System) :=
  match system.machine.dev.rxQueues[queueId]? with
  | none => none
  | some queue =>
      match queue.descriptors.cells[index]? with
      | none => none
      | some desc =>
          let machine := system.machine.setRxQueue queueId
            { queue with descriptors := queue.descriptors.set index writeBack.descriptor }
          let env := advanceHead machine.env (igbRdh queueId) (igbRdlen queueId) index
          some ([.stored queueId ⟨desc.packetBufferAddress, writeBack.length⟩],
            { system with machine := { machine with env } })

/-- Set the done bit of a transmit descriptor. -/
def AdvancedTxDescriptor.complete (desc : AdvancedTxDescriptor) : AdvancedTxDescriptor :=
  { desc with paylenPoptsCcIdxSta := desc.paylenPoptsCcIdxSta ||| igbAdvtxdStatDd }

def txDoneStep (system : System) (queueId index : Nat) : Option (List Event × System) :=
  match system.machine.dev.txQueues[queueId]? with
  | none => none
  | some queue =>
      match queue.descriptors.cells[index]? with
      | none => none
      | some desc =>
          let machine := system.machine.setTxQueue queueId
            { queue with descriptors := queue.descriptors.set index desc.complete }
          let env := advanceHead machine.env (igbTdh queueId) (igbTdlen queueId) index
          some ([.fetched queueId desc.packetBufferAddress],
            { system with machine := { machine with env } })

/-- One step of the system; `none` when the action is not possible. -/
def next (profile : Profile) (system : System) :
    Action → Option (Except (Abort Panic) (List Event × System))
  | .pool action =>
      if system.control.admitsCaller then
        (poolStep profile system action).map fun result => result.map fun after => ([], after)
      else none
  | .send queueId position =>
      if system.control = .idle then
        (system.live[position]?).map fun packet => sendStep profile system queueId packet position
      else none
  | .recycle queueId =>
      if system.control = .idle then some (.ok (recycleStep system queueId)) else none
  | .receive queueId packetNums =>
      if system.control = .idle then some (receiveStep system queueId packetNums) else none
  | .resume => resumeStep profile system system.control
  | .rxStore queueId index writeBack => (rxStoreStep system queueId index writeBack).map .ok
  | .txDone queueId index => (txDoneStep system queueId index).map .ok

/-- A restriction on the surroundings: which actions it allows in which states. -/
abbrev Policy := System → Action → Prop

/-- The device takes the descriptor at its head, which it owns as long as the head
has not caught up with the tail. -/
def TakesHead (regs : RegisterFile) (headReg tailReg lengthReg index : Nat) : Prop :=
  (regs headReg).toNat = index ∧ regs headReg ≠ regs tailReg ∧ 0 < ringLength regs lengthReg

instance (regs : RegisterFile) (headReg tailReg lengthReg index : Nat) :
    Decidable (TakesHead regs headReg tailReg lengthReg index) :=
  inferInstanceAs (Decidable (_ ∧ _ ∧ _))

/-- Receptions go through each ring in order, one frame of at most 2048 bytes per
descriptor, with DD and EOP set. -/
def RxInOrder : Policy := fun system action =>
  match action with
  | .rxStore queueId index writeBack =>
      TakesHead system.machine.env (igbRdh queueId) (igbRdt queueId) (igbRdlen queueId) index ∧
        writeBack.descriptor.done = true ∧ writeBack.descriptor.endOfPacket = true ∧
        writeBack.length ≤ 2048
  | _ => True

/-- Transmissions go through each ring in order. -/
def TxInOrder : Policy := fun system action =>
  match action with
  | .txDone queueId index =>
      TakesHead system.machine.env (igbTdh queueId) (igbTdt queueId) (igbTdlen queueId) index
  | _ => True

/-- The caller and the device leave one receive queue alone. -/
def SparesRx (queueId : Nat) : Policy := fun _ action =>
  match action with
  | .receive queue _ => queue ≠ queueId
  | .rxStore queue _ _ => queue ≠ queueId
  | _ => True

/-- `IgbNetBuf::construct`, which makes a packet out of any entry, is not used. -/
def NoConstruct : Policy := fun _ action =>
  match action with
  | .pool (.construct ..) => False
  | _ => True

/-- Every packet handed to `send` is of the pool `ref`. -/
def SendsFrom (ref : PoolRef) : Policy := fun system action =>
  match action with
  | .send _ position => ∀ packet, system.live[position]? = some packet → packet.pool = ref
  | _ => True

end IgbDriver
