import IgbDriver.Draining

namespace IgbDriver

open Foundation

/-! # A receive queue without its registers

What a step of the system does to the memory of one receive queue, and what every run
keeps of it. No register and no order of the device matters to it.
-/

inductive RxChange (profile : Profile) (system : System) (queueId : Nat) (queue : IgbRxQueue) :
    Action → List Event → IgbRxQueue → Prop where
  | same {action : Action} {events : List Event} : deliveredOn queueId events = [] →
      RxChange profile system queueId queue action events queue
  | take {todo rxIndex lastRxIndex recvNums buf : Nat} {packet : Packet}
      {desc : AdvancedRxDescriptor} {rest : List Nat} :
      system.control = .receiving queueId (todo + 1) rxIndex lastRxIndex recvNums →
      TakesFrame system.machine.arcs queue rxIndex packet desc buf rest →
      RxChange profile system queueId queue .resume [.delivered queueId packet]
        (queue.afterTake rxIndex buf)
  | rearm {todo rxIndex lastRxIndex recvNums buf phys next : Nat} {desc : AdvancedRxDescriptor} :
      system.control = .delivering queueId todo rxIndex lastRxIndex recvNums →
      Rearms profile system.machine.arcs queue rxIndex desc buf phys next →
      RxChange profile system queueId queue .resume [] (queue.afterRearm rxIndex desc phys)
  | publish {rxIndex lastRxIndex recvNums : Nat} :
      system.control = .publishing queueId rxIndex lastRxIndex recvNums →
      RxChange profile system queueId queue .resume [.received queueId (.ok recvNums)]
        { queue with rxIndex }
  | rxStore {index : Nat} {writeBack : WriteBack} {desc : AdvancedRxDescriptor} :
      queue.descriptors.cells[index]? = some desc →
      RxChange profile system queueId queue (.rxStore queueId index writeBack)
        [.stored queueId ⟨desc.packetBufferAddress, writeBack.length⟩]
        { queue with descriptors := queue.descriptors.set index writeBack.descriptor }

/-- The descriptor a running `receive_packets` goes on from. -/
def RxPhase.position : RxPhase → Option Nat
  | .quiet => none
  | .receiving rxIndex _ _ => some rxIndex
  | .delivering rxIndex _ _ => some rxIndex
  | .publishing rxIndex _ _ => some rxIndex

section Steps

variable {profile : Profile} {system after : System} {action : Action} {events : List Event}
  {queueId : Nat} {queue : IgbRxQueue}

theorem Step.rxChange (step : Step profile system action events after)
    (mine : system.rxQueue? queueId = some queue) :
    ∃ queue', after.rxQueue? queueId = some queue' ∧
      RxChange profile system queueId queue action events queue' := by
  by_cases here : action.rxTarget system.control = some queueId
  · cases step with
    | report _ reports => exact ⟨queue, mine, .same (RxSilent.of_reports reports).delivered⟩
    | receive | halt | finish => exact ⟨queue, mine, .same rfl⟩
    | @take target todo rxIndex lastRxIndex recvNums buf other packet desc rest control
        found takes =>
        rw [Action.rxTarget, control] at here
        obtain rfl : target = queueId := Option.some.inj here
        obtain rfl : other = queue := Option.some.inj (found.symm.trans mine)
        exact ⟨_, System.rxQueue?_set found, .take control takes⟩
    | @rearm target todo rxIndex lastRxIndex recvNums buf phys next other desc control
        found rearms =>
        rw [Action.rxTarget, control] at here
        obtain rfl : target = queueId := Option.some.inj here
        obtain rfl : other = queue := Option.some.inj (found.symm.trans mine)
        exact ⟨_, System.rxQueue?_set found, .rearm control rearms⟩
    | @publish target rxIndex lastRxIndex recvNums other control moved found =>
        rw [Action.rxTarget, control] at here
        obtain rfl : target = queueId := Option.some.inj here
        obtain rfl : other = queue := Option.some.inj (found.symm.trans mine)
        exact ⟨_, System.rxQueue?_set found, .publish control⟩
    | @rxStore target index writeBack other desc found cell =>
        obtain rfl : target = queueId := Option.some.inj here
        obtain rfl : other = queue := Option.some.inj (found.symm.trans mine)
        exact ⟨_, System.rxQueue?_set found, .rxStore cell⟩
    | ring control | round control | release control | commit control =>
        rw [Action.rxTarget, control] at here
        cases here
    | allocate | construct | drop | cloneHandle | dropHandle | reject | send | recycle | txDone =>
        cases here
  · exact ⟨queue, (step.rxQueue?_elsewhere here).trans mine,
      .same (step.rxSilent_elsewhere here).delivered⟩

/-- No step moves the register window. -/
theorem Step.len (step : Step profile system action events after) :
    after.machine.dev.len = system.machine.dev.len := by
  cases step <;> rfl

theorem len_run {policy : Policy} {trace : List Event}
    (run : Run (next profile) policy system trace after) :
    after.machine.dev.len = system.machine.dev.len :=
  run.invariant (fun _ state => state.machine.dev.len = system.machine.dev.len) rfl
    (fun _ _ _ _ _ same _ stepped => (next_step stepped).len.trans same)

/-- Where the position of a running `receive_packets` comes from. -/
theorem Step.rxPosition (step : Step profile system action events after) {position : Nat}
    (running : (after.control.rxPhase queueId).position = some position) :
    (system.control.rxPhase queueId).position = some position ∨
      ∃ queue, system.rxQueue? queueId = some queue ∧ (queue.rxIndex = position ∨
        ∃ rxIndex, rxIndex < queue.descriptors.cells.length ∧
          wrapRing profile rxIndex queue.numDescriptors = .ok position) := by
  by_cases here : action.rxTarget system.control = some queueId
  · cases step with
    | report | rxStore => exact .inl running
    | publish | finish => cases running
    | @receive target packetNums other idle found =>
        obtain rfl : target = queueId := Option.some.inj here
        rw [System.withControl, Control.rxPhase_receiving] at running
        cases running
        exact .inr ⟨other, found, .inl rfl⟩
    | take control | halt control =>
        rw [control]
        revert running
        simp only [System.withControl, Control.rxPhase]
        split
        · exact .inl
        · intro running
          cases running
    | @rearm target todo rxIndex lastRxIndex recvNums buf phys next other desc control
        found rearms =>
        rw [Action.rxTarget, control] at here
        obtain rfl : target = queueId := Option.some.inj here
        rw [System.withControl, Control.rxPhase_receiving] at running
        cases running
        exact .inr ⟨other, found, .inr ⟨rxIndex, (List.getElem?_eq_some_iff.mp rearms.cell).1,
          rearms.wraps⟩⟩
    | ring control | round control | release control | commit control =>
        rw [Action.rxTarget, control] at here
        cases here
    | allocate | construct | drop | cloneHandle | dropHandle | reject | send | recycle | txDone =>
        cases here
  · rw [step.rxPhase_elsewhere here] at running
    exact .inl running

end Steps

/-- The indices of a queue stay inside its ring and its buffers stay of one pool. -/
structure RxShape (qs : Nat) (pool : PoolRef) (queue : IgbRxQueue) : Prop where
  numDescriptors : queue.numDescriptors = qs
  cells : queue.descriptors.cells.length = qs
  bufs : queue.bufsInUse.length = qs
  pool : queue.pool = pool
  rxIndex : queue.rxIndex < qs

section Shape

variable {σ : Type} {host : Host σ} {profile : Profile} {system after : System} {action : Action}
  {policy : Policy} {events trace : List Event} {qs numRx numTx queueId : Nat} {pool : PoolRef}
  {before : Arcs} {queue queue' : IgbRxQueue}

theorem RxShape.change (shape : RxShape qs pool queue)
    (running : ∀ position, (system.control.rxPhase queueId).position = some position →
      position < qs)
    (change : RxChange profile system queueId queue action events queue') :
    RxShape qs pool queue' := by
  cases change with
  | same => exact shape
  | take => exact { shape with bufs := List.length_set.trans shape.bufs }
  | rearm | rxStore => exact { shape with cells := List.length_set.trans shape.cells }
  | publish control =>
      have inside := running _ (by rw [control, Control.rxPhase_publishing]; rfl)
      exact { shape with rxIndex := inside }

theorem Booted.rxQueue_inside (booted : Booted host qs numRx numTx pool before system)
    (run : Run (next profile) policy system trace after)
    (found : after.rxQueue? queueId = some queue) :
    queueId < numRx := by
  obtain ⟨file, booting⟩ := booted.booting
  have inside : queueId < after.machine.dev.rxQueues.length :=
    (List.getElem?_eq_some_iff.mp found).1
  rw [(lengths_run run).1, booting.rxLength] at inside
  exact inside

theorem Booted.rxShape (booted : Booted host qs numRx numTx pool before system) (positive : 0 < qs)
    (inside : queueId < numRx) : ∃ queue, system.rxQueue? queueId = some queue ∧
      RxShape qs pool queue := by
  obtain ⟨file, booting⟩ := booted.booting
  obtain ⟨queue, found⟩ : ∃ queue, system.rxQueue? queueId = some queue :=
    ⟨_, List.getElem?_eq_getElem (by rw [booting.rxLength]; exact inside)⟩
  have built := booting.rxQueues queueId queue found
  refine ⟨queue, found, built.numDescriptors, built.cells, built.bufs.trans (if_pos inside),
    built.pool, ?_⟩
  rw [built.rxIndex]
  exact positive

/-- In every run, whatever the device does, the indices stay inside the ring. -/
theorem RxShape.run (positive : 0 < qs) (bound : qs < usizeModulus)
    (booted : Booted host qs numRx numTx pool before system)
    (run : Run (next profile) policy system trace after)
    (found : after.rxQueue? queueId = some queue) :
    RxShape qs pool queue := by
  have inside := booted.rxQueue_inside run found
  have power := booted.power positive (by omega)
  have invariant := run.invariant (fun _ state =>
    (∃ queue, state.rxQueue? queueId = some queue ∧ RxShape qs pool queue) ∧
      ∀ position, (state.control.rxPhase queueId).position = some position → position < qs)
    ⟨booted.rxShape positive inside, by rw [booted.control]; nofun⟩ (by
      intro trace state action events final known _ stepped
      obtain ⟨⟨queue, found, shape⟩, running⟩ := known
      have step := next_step stepped
      obtain ⟨queue', found', change⟩ := step.rxChange found
      refine ⟨⟨queue', found', shape.change running change⟩, fun position goes => ?_⟩
      rcases step.rxPosition goes with before | ⟨other, here, same | ⟨rxIndex, indexed, wraps⟩⟩
      · exact running _ before
      · rw [found] at here
        cases here
        rw [← same]
        exact shape.rxIndex
      · rw [found] at here
        cases here
        rw [shape.numDescriptors] at wraps
        rw [shape.cells] at indexed
        exact wrapRing_lt power bound indexed wraps)
  obtain ⟨⟨other, here, shape⟩, _⟩ := invariant
  rw [found] at here
  cases here
  exact shape

end Shape

end IgbDriver
