import IgbDriver.Operations
import IgbDriver.System

namespace IgbDriver

open Foundation

/-! # The steps of the system, case by case

`Step` says once what a step can do, guards included; every invariant is proved by
cases on it. `next_step` is the only place where the pieces of the driver are run.
-/

namespace System

def setTxQueue (system : System) (queueId : Nat) (queue : IgbTxQueue) : System :=
  { system with machine := system.machine.setTxQueue queueId queue }

def setRxQueue (system : System) (queueId : Nat) (queue : IgbRxQueue) : System :=
  { system with machine := system.machine.setRxQueue queueId queue }

def withEnv (system : System) (env : RegisterFile) : System :=
  { system with machine := { system.machine with env } }

def withLive (system : System) (live : List Packet) : System := { system with live }

def withControl (system : System) (control : Control) : System := { system with control }

def txQueue? (system : System) (queueId : Nat) : Option IgbTxQueue :=
  system.machine.dev.txQueues[queueId]?

def rxQueue? (system : System) (queueId : Nat) : Option IgbRxQueue :=
  system.machine.dev.rxQueues[queueId]?

end System

/-- Events that only report the outcome of a call. -/
def Event.isReport : Event → Bool
  | .rejected .. => true
  | .recycled .. => true
  | .received .. => true
  | _ => false

/-- The queue after an accepted packet was put in its ring. -/
def IgbTxQueue.afterSend (queue : IgbTxQueue) (packet : Packet) (txIndex : Nat)
    (desc : AdvancedTxDescriptor) : IgbTxQueue :=
  { queue with
    descriptors := queue.descriptors.set queue.txIndex (desc.send packet.addrPhys packet.len)
    pool := some packet.pool
    txIndex
    bufsInUse := queue.bufsInUse ++ [packet.poolEntry] }

/-- The queue after a frame was taken and `buf` put in its place. -/
def IgbRxQueue.afterTake (queue : IgbRxQueue) (rxIndex buf : Nat) : IgbRxQueue :=
  { queue with bufsInUse := queue.bufsInUse.set rxIndex buf }

def IgbRxQueue.afterRearm (queue : IgbRxQueue) (rxIndex : Nat) (desc : AdvancedRxDescriptor)
    (phys : Nat) : IgbRxQueue :=
  { queue with descriptors := queue.descriptors.set rxIndex (desc.setPacketAddress phys).resetStatus
    }

inductive Step (profile : Profile) (system : System) : Action → List Event → System → Prop where
  | report {action : Action} {events : List Event} :
      (∀ queueId position, action ≠ .send queueId position) →
      (∀ event ∈ events, event.isReport = true) → Step profile system action events system
  | allocate {action : PoolAction} {ref : PoolRef} {packet : Packet} {arcs : Arcs} :
      Allocates system.machine.arcs ref packet arcs →
      Step profile system (.pool action) []
        ((system.withArcs arcs).withLive (system.live ++ [packet]))
  | construct {poolEntry len : Nat} {ref : PoolRef} {packet : Packet} :
      packet.pool = ref → packet.poolEntry = poolEntry →
      Step profile system (.pool (.construct poolEntry ref len)) []
        ((system.withArcs (system.machine.arcs.clone ref)).withLive (system.live ++ [packet]))
  | drop {action : PoolAction} {position : Nat} {packet : Packet} {arcs : Arcs} :
      system.live[position]? = some packet → Frees system.machine.arcs packet arcs →
      Step profile system (.pool action) []
        ((system.withArcs arcs).withLive (system.live.eraseIdx position))
  | cloneHandle {action : PoolAction} {ref : PoolRef} : system.handles ref ≠ 0 →
      Step profile system (.pool action) []
        { system.withArcs (system.machine.arcs.clone ref) with
          handles := Function.update system.handles ref (system.handles ref + 1) }
  | dropHandle {action : PoolAction} {ref : PoolRef} : system.handles ref ≠ 0 →
      Step profile system (.pool action) []
        { system.withArcs (system.machine.arcs.drop ref) with
          handles := Function.update system.handles ref (system.handles ref - 1) }
  | reject {queueId position : Nat} {packet : Packet} {failure : IgbError} {arcs : Arcs} :
      system.control = .idle → system.live[position]? = some packet →
      Rejects profile system.machine.dev queueId failure → Frees system.machine.arcs packet arcs →
      Step profile system (.send queueId position) [.rejected queueId packet failure]
        ((system.withArcs arcs).withLive (system.live.eraseIdx position))
  | send {queueId position txIndex : Nat} {packet : Packet} {queue : IgbTxQueue}
      {desc : AdvancedTxDescriptor} :
      system.control = .idle → system.live[position]? = some packet →
      system.txQueue? queueId = some queue → queue.canSend profile = .ok true →
      wrapRing profile queue.txIndex queue.numDescriptors = .ok txIndex →
      queue.descriptors.cells[queue.txIndex]? = some desc →
      Step profile system (.send queueId position) [.sent queueId packet]
        ((((system.withArcs (switchPool queue.pool packet.pool system.machine.arcs).2).setTxQueue
          queueId (queue.afterSend packet txIndex desc)).withLive
            (system.live.eraseIdx position)).withControl (.ringing queueId))
  | ring {queueId : Nat} {queue : IgbTxQueue} : system.control = .ringing queueId →
      system.txQueue? queueId = some queue →
      Step profile system .resume []
        ((system.withEnv (system.machine.env.write (igbTdt queueId)
          (BitVec.ofNat 32 queue.txIndex))).withControl .idle)
  | recycle {queueId : Nat} {queue : IgbTxQueue} : system.control = .idle →
      system.txQueue? queueId = some queue →
      Step profile system (.recycle queueId) []
        (system.withControl (.recycling queueId queue.txIndex queue.cleanIndex))
  | round {queueId curIndex cleanIndex last next : Nat} {queue : IgbTxQueue}
      {desc : AdvancedTxDescriptor} {count : Int} :
      system.control = .recycling queueId curIndex cleanIndex →
      system.txQueue? queueId = some queue →
      RoundSees profile queue curIndex cleanIndex last next desc count → queue.pool = none →
      Step profile system .resume [] (system.withControl (.recycling queueId curIndex next))
  | release {queueId curIndex cleanIndex last next : Nat} {queue : IgbTxQueue}
      {desc : AdvancedTxDescriptor} {count : Int} {ref : PoolRef} :
      system.control = .recycling queueId curIndex cleanIndex →
      system.txQueue? queueId = some queue →
      RoundSees profile queue curIndex cleanIndex last next desc count → queue.pool = some ref →
      Step profile system .resume [.released queueId ref queue.batch]
        (((system.withArcs (system.machine.arcs.setFree ref
          (system.machine.arcs.free ref ++ queue.batch))).setTxQueue queueId
            queue.afterBatch).withControl (.recycling queueId curIndex next))
  | commit {queueId curIndex cleanIndex : Nat} {queue : IgbTxQueue} :
      system.control = .recycling queueId curIndex cleanIndex →
      system.txQueue? queueId = some queue →
      Step profile system .resume [.recycled queueId (.ok ())]
        ((system.setTxQueue queueId { queue with cleanIndex }).withControl .idle)
  | receive {queueId packetNums : Nat} {queue : IgbRxQueue} : system.control = .idle →
      system.rxQueue? queueId = some queue → queue.canRecv = .ok true →
      Step profile system (.receive queueId packetNums) []
        (system.withControl (.receiving queueId packetNums queue.rxIndex queue.rxIndex 0))
  | take {queueId todo rxIndex lastRxIndex recvNums buf : Nat} {queue : IgbRxQueue}
      {packet : Packet} {desc : AdvancedRxDescriptor} {rest : List Nat} :
      system.control = .receiving queueId (todo + 1) rxIndex lastRxIndex recvNums →
      system.rxQueue? queueId = some queue →
      TakesFrame system.machine.arcs queue rxIndex packet desc buf rest →
      Step profile system .resume [.delivered queueId packet]
        ((((system.withArcs ((system.machine.arcs.setFree queue.pool rest).clone
          queue.pool)).setRxQueue queueId (queue.afterTake rxIndex buf)).withLive
            (system.live ++ [packet])).withControl
              (.delivering queueId todo rxIndex lastRxIndex recvNums))
  | halt {queueId todo rxIndex lastRxIndex recvNums : Nat} :
      system.control = .receiving queueId todo rxIndex lastRxIndex recvNums →
      Step profile system .resume []
        (system.withControl (.publishing queueId rxIndex lastRxIndex recvNums))
  | rearm {queueId todo rxIndex lastRxIndex recvNums buf phys next : Nat} {queue : IgbRxQueue}
      {desc : AdvancedRxDescriptor} :
      system.control = .delivering queueId todo rxIndex lastRxIndex recvNums →
      system.rxQueue? queueId = some queue →
      Rearms profile system.machine.arcs queue rxIndex desc buf phys next →
      Step profile system .resume []
        ((system.setRxQueue queueId (queue.afterRearm rxIndex desc phys)).withControl
          (.receiving queueId todo next rxIndex (recvNums + 1)))
  | publish {queueId rxIndex lastRxIndex recvNums : Nat} {queue : IgbRxQueue} :
      system.control = .publishing queueId rxIndex lastRxIndex recvNums → rxIndex ≠ lastRxIndex →
      system.rxQueue? queueId = some queue →
      Step profile system .resume [.received queueId (.ok recvNums)]
        (((system.setRxQueue queueId { queue with rxIndex }).withEnv (system.machine.env.write
          (igbRdt queueId) (BitVec.ofNat 32 lastRxIndex))).withControl .idle)
  | finish {queueId rxIndex recvNums : Nat} :
      system.control = .publishing queueId rxIndex rxIndex recvNums →
      Step profile system .resume [.received queueId (.ok recvNums)] (system.withControl .idle)
  | rxStore {queueId index : Nat} {writeBack : WriteBack} {queue : IgbRxQueue}
      {desc : AdvancedRxDescriptor} :
      system.rxQueue? queueId = some queue → queue.descriptors.cells[index]? = some desc →
      Step profile system (.rxStore queueId index writeBack)
        [.stored queueId ⟨desc.packetBufferAddress, writeBack.length⟩]
        ((system.setRxQueue queueId
          { queue with descriptors := queue.descriptors.set index writeBack.descriptor }).withEnv
            (advanceHead system.machine.env (igbRdh queueId) (igbRdlen queueId) index))
  | txDone {queueId index : Nat} {queue : IgbTxQueue} {desc : AdvancedTxDescriptor} :
      system.txQueue? queueId = some queue → queue.descriptors.cells[index]? = some desc →
      Step profile system (.txDone queueId index) [.fetched queueId desc.packetBufferAddress]
        ((system.setTxQueue queueId
          { queue with descriptors := queue.descriptors.set index desc.complete }).withEnv
            (advanceHead system.machine.env (igbTdh queueId) (igbTdlen queueId) index))

variable {profile : Profile} {system after : System} {events : List Event}

theorem perform_ok {α : Type} {program : Driver RegisterFile α}
    {outcome : Except IgbError α × System} (ran : system.perform program = .ok outcome) :
    ∃ machine, program system.machine = .ok (outcome.1, machine) ∧
      outcome.2 = { system with machine } := by
  obtain ⟨⟨result, machine⟩, ran', returned⟩ := except_bind_ok ran
  cases returned
  exact ⟨machine, ran', rfl⟩

theorem poolStep_step {action : PoolAction}
    (stepped : poolStep profile system action = some (.ok after)) :
    Step profile system (.pool action) [] after := by
  cases action with
  | alloc ref size =>
      simp only [poolStep] at stepped
      split at stepped
      · cases stepped
      · obtain ⟨⟨result, arcs⟩, allocated, returned⟩ := except_bind_ok (Option.some.inj stepped)
        rcases IgbNetBuf.alloc_ok allocated with ⟨rfl, rfl⟩ | ⟨packet, rfl, _, allocates⟩
        · cases returned
          exact .report nofun (by simp)
        · cases returned
          exact .allocate allocates
  | construct poolEntry ref len =>
      simp only [poolStep] at stepped
      split at stepped
      · cases stepped
      · obtain ⟨⟨result, arcs⟩, constructed, returned⟩ := except_bind_ok (Option.some.inj stepped)
        obtain ⟨packet, rfl, pool, entry, rfl⟩ := IgbNetBuf.construct_ok constructed
        cases returned
        exact .construct pool entry
  | clone position =>
      simp only [poolStep] at stepped
      split at stepped
      · cases stepped
      · obtain ⟨⟨copy, arcs⟩, cloned, returned⟩ := except_bind_ok (Option.some.inj stepped)
        cases returned
        exact .allocate (Packet.clone_ok cloned)
  | drop position =>
      simp only [poolStep] at stepped
      split at stepped
      · cases stepped
      · rename_i packet owned
        obtain ⟨arcs, dropped, returned⟩ := except_bind_ok (Option.some.inj stepped)
        cases returned
        exact .drop owned (Packet.drop_ok dropped)
  | cloneHandle ref =>
      simp only [poolStep] at stepped
      split at stepped
      · cases stepped
      · rename_i held
        cases stepped
        exact .cloneHandle held
  | dropHandle ref =>
      simp only [poolStep] at stepped
      split at stepped
      · cases stepped
      · rename_i held
        cases stepped
        exact .dropHandle held

theorem sendStep_step {queueId position : Nat} {packet : Packet} (idle : system.control = .idle)
    (owned : system.live[position]? = some packet)
    (stepped : sendStep profile system queueId packet position = .ok (events, after)) :
    Step profile system (.send queueId position) events after := by
  obtain ⟨⟨result, middle⟩, performed, returned⟩ := except_bind_ok stepped
  obtain ⟨machine, ran, state⟩ := perform_ok performed
  simp only at ran state
  cases result with
  | error failure =>
      obtain ⟨rejects, arcs, frees, changed⟩ := sendEnqueue_error ran
      subst state changed
      cases returned
      exact .reject idle owned rejects frees
  | ok value =>
      obtain ⟨queue, found, room, enqueued⟩ := sendEnqueue_ok ran
      obtain ⟨txIndex, desc, wraps, cell, _, changed⟩ := enqueuePacket_ok enqueued
      subst state changed
      cases returned
      exact .send idle owned found room wraps cell

theorem recycleRoundStep_step {queueId curIndex cleanIndex : Nat}
    (control : system.control = .recycling queueId curIndex cleanIndex)
    (stepped : recycleRoundStep profile system queueId curIndex cleanIndex = .ok (events, after)) :
    Step profile system .resume events after := by
  obtain ⟨⟨result, middle⟩, performed, returned⟩ := except_bind_ok stepped
  obtain ⟨machine, ran, state⟩ := perform_ok performed
  simp only at ran state
  obtain ⟨queue, found, ⟨rfl, rfl⟩ | ⟨last, next, desc, count, rfl, sees, changed⟩⟩ :=
    recycleRound_ok ran
  · subst state
    obtain ⟨⟨result, final⟩, committed, returned⟩ := except_bind_ok returned
    obtain ⟨machine, ran, state⟩ := perform_ok committed
    simp only at ran state
    obtain ⟨queue, found, _, changed⟩ := recycleCommit_ok ran
    subst state changed
    cases returned
    exact .commit control found
  · subst state
    unfold releasedMachine at changed
    cases pool : queue.pool with
    | none =>
        rw [pool] at changed
        subst changed
        cases returned
        have silent : releasedBy system queueId = [] := by
          rw [releasedBy, found]
          simp [pool]
        rw [silent]
        exact .round control found sees pool
    | some ref =>
        rw [pool] at changed
        subst changed
        cases returned
        have announced : releasedBy system queueId = [.released queueId ref queue.batch] := by
          rw [releasedBy, found]
          simp [pool]
        rw [announced]
        exact .release control found sees pool

theorem takeFrameStep_step {queueId todo rxIndex lastRxIndex recvNums : Nat}
    (control : system.control = .receiving queueId todo rxIndex lastRxIndex recvNums)
    (stepped : takeFrameStep profile system queueId todo rxIndex lastRxIndex recvNums =
      .ok (events, after)) : Step profile system .resume events after := by
  cases todo with
  | zero => cases stepped; exact .halt control
  | succ todo =>
      obtain ⟨⟨result, middle⟩, performed, returned⟩ := except_bind_ok stepped
      obtain ⟨machine, ran, state⟩ := perform_ok performed
      simp only at ran state
      obtain ⟨queue, found, ⟨rfl, rfl⟩ | ⟨packet, desc, buf, rest, rfl, takes, changed⟩⟩ :=
        takeFrame_ok ran
      · subst state
        cases returned
        exact .halt control
      · subst state changed
        cases returned
        exact .take control found takes

theorem rearmStep_step {queueId todo rxIndex lastRxIndex recvNums : Nat}
    (control : system.control = .delivering queueId todo rxIndex lastRxIndex recvNums)
    (stepped : rearmStep profile system queueId todo rxIndex recvNums = .ok (events, after)) :
    Step profile system .resume events after := by
  obtain ⟨⟨result, middle⟩, performed, returned⟩ := except_bind_ok stepped
  obtain ⟨machine, ran, state⟩ := perform_ok performed
  simp only at ran state
  obtain ⟨queue, desc, buf, phys, next, found, rfl, rearms, changed⟩ := rearmDescriptor_ok ran
  subst state changed
  cases returned
  exact .rearm control found rearms

theorem publishStep_step {queueId rxIndex lastRxIndex recvNums : Nat}
    (control : system.control = .publishing queueId rxIndex lastRxIndex recvNums)
    (stepped : publishStep profile system queueId rxIndex lastRxIndex recvNums =
      .ok (events, after)) :
    Step profile system .resume events after := by
  obtain ⟨⟨result, middle⟩, performed, returned⟩ := except_bind_ok stepped
  obtain ⟨machine, ran, state⟩ := perform_ok performed
  simp only at ran state
  obtain ⟨_, ⟨rfl, rfl⟩ | ⟨queue, moved, found, changed⟩⟩ := receiveCommit_ok ran
  · subst state
    cases returned
    exact .finish control
  · subst state changed
    cases returned
    exact .publish control moved found

theorem resumeStep_step
    (stepped : resumeStep profile system system.control = some (.ok (events, after))) :
    Step profile system .resume events after := by
  cases control : system.control with
  | idle => rw [control] at stepped; cases stepped
  | ringing queueId =>
      rw [control] at stepped
      obtain ⟨⟨result, middle⟩, performed, returned⟩ := except_bind_ok (Option.some.inj stepped)
      obtain ⟨machine, ran, state⟩ := perform_ok performed
      simp only at ran state
      obtain ⟨queue, found, _, changed⟩ := sendDoorbell_ok ran
      subst state changed
      cases returned
      exact .ring control found
  | recycling queueId curIndex cleanIndex =>
      rw [control] at stepped
      exact recycleRoundStep_step control (Option.some.inj stepped)
  | receiving queueId todo rxIndex lastRxIndex recvNums =>
      rw [control] at stepped
      exact takeFrameStep_step control (Option.some.inj stepped)
  | delivering queueId todo rxIndex lastRxIndex recvNums =>
      rw [control] at stepped
      exact rearmStep_step control (Option.some.inj stepped)
  | publishing queueId rxIndex lastRxIndex recvNums =>
      rw [control] at stepped
      exact publishStep_step control (Option.some.inj stepped)

theorem receiveStep_step {queueId packetNums : Nat} (idle : system.control = .idle)
    (stepped : receiveStep system queueId packetNums = .ok (events, after)) :
    Step profile system (.receive queueId packetNums) events after := by
  unfold receiveStep at stepped
  split at stepped
  · cases stepped
    exact .report nofun (by simp [Event.isReport])
  · rename_i queue found
    obtain ⟨ready, asked, returned⟩ := except_bind_ok stepped
    cases ready with
    | true => cases returned; exact .receive idle found asked
    | false => cases returned; exact .report nofun (by simp [Event.isReport])

/-- Every step of the system is one of the cases. -/
theorem next_step {action : Action}
    (stepped : next profile system action = some (.ok (events, after))) :
    Step profile system action events after := by
  cases action with
  | pool action =>
      simp only [next] at stepped
      split at stepped
      · obtain ⟨result, pooled, same⟩ := Option.map_eq_some_iff.mp stepped
        cases result with
        | error reason => cases same
        | ok state => cases same; exact poolStep_step pooled
      · cases stepped
  | send queueId position =>
      simp only [next] at stepped
      split at stepped
      · rename_i idle
        obtain ⟨packet, owned, same⟩ := Option.map_eq_some_iff.mp stepped
        exact sendStep_step idle owned same
      · cases stepped
  | recycle queueId =>
      simp only [next] at stepped
      split at stepped
      · rename_i idle
        have same := Except.ok.inj (Option.some.inj stepped)
        unfold recycleStep at same
        split at same
        · cases same
          exact .report nofun (by simp [Event.isReport])
        · rename_i queue found
          cases same
          exact .recycle idle found
      · cases stepped
  | receive queueId packetNums =>
      simp only [next] at stepped
      split at stepped
      · rename_i idle
        exact receiveStep_step idle (Option.some.inj stepped)
      · cases stepped
  | resume => exact resumeStep_step stepped
  | rxStore queueId index writeBack =>
      obtain ⟨result, stored, same⟩ := Option.map_eq_some_iff.mp stepped
      unfold rxStoreStep at stored
      split at stored
      · cases stored
      · rename_i queue found
        split at stored
        · cases stored
        · rename_i desc cell
          cases stored
          cases same
          exact .rxStore found cell
  | txDone queueId index =>
      obtain ⟨result, fetched, same⟩ := Option.map_eq_some_iff.mp stepped
      unfold txDoneStep at fetched
      split at fetched
      · cases fetched
      · rename_i queue found
        split at fetched
        · cases fetched
        · rename_i desc cell
          cases fetched
          cases same
          exact .txDone found cell

end IgbDriver
