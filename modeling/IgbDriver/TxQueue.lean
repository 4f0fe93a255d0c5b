import IgbDriver.TxRing

namespace IgbDriver

open Foundation

/-! # A transmit queue without its registers

What a step of the system does to the memory of one transmit queue. No register and
no order of the device matters to it.
-/

inductive TxChange (profile : Profile) (system : System) (queueId : Nat) (queue : IgbTxQueue) :
    Action → List Event → IgbTxQueue → Prop where
  | same {action : Action} {events : List Event} : sentOn queueId events = [] →
      releasedOn queueId events = [] → TxChange profile system queueId queue action events queue
  | send {position txIndex : Nat} {packet : Packet} {desc : AdvancedTxDescriptor} :
      system.live[position]? = some packet → queue.canSend profile = .ok true →
      wrapRing profile queue.txIndex queue.numDescriptors = .ok txIndex →
      queue.descriptors.cells[queue.txIndex]? = some desc →
      TxChange profile system queueId queue (.send queueId position) [.sent queueId packet]
        (queue.afterSend packet txIndex desc)
  | release {ref : PoolRef} : queue.pool = some ref →
      TxChange profile system queueId queue .resume [.released queueId ref queue.batch]
        queue.afterBatch
  | commit {curIndex cleanIndex : Nat} : system.control = .recycling queueId curIndex cleanIndex →
      TxChange profile system queueId queue .resume [.recycled queueId (.ok ())]
        { queue with cleanIndex }
  | txDone {index : Nat} {desc : AdvancedTxDescriptor} :
      queue.descriptors.cells[index]? = some desc →
      TxChange profile system queueId queue (.txDone queueId index)
        [.fetched queueId desc.packetBufferAddress]
        { queue with descriptors := queue.descriptors.set index desc.complete }

section Steps

variable {profile : Profile} {system after : System} {action : Action} {events : List Event}
  {queueId : Nat} {queue : IgbTxQueue}

theorem Step.txChange (step : Step profile system action events after)
    (mine : system.txQueue? queueId = some queue) :
    ∃ queue', after.txQueue? queueId = some queue' ∧
      TxChange profile system queueId queue action events queue' := by
  by_cases here : action.txTarget system.control = some queueId
  · cases step with
    | report _ reports =>
        have silent : TxSilent queueId events := .of_reports reports
        exact ⟨queue, mine, .same silent.sent silent.released⟩
    | ring | recycle | round | reject => exact ⟨queue, mine, .same rfl rfl⟩
    | @send target position txIndex packet other desc idle owned found room wraps cell =>
        obtain rfl : target = queueId := Option.some.inj here
        obtain rfl : other = queue := Option.some.inj (found.symm.trans mine)
        exact ⟨_, System.txQueue?_set found, .send owned room wraps cell⟩
    | @release target curIndex cleanIndex last next other desc count ref control found sees pool =>
        rw [Action.txTarget, control] at here
        obtain rfl : target = queueId := Option.some.inj here
        obtain rfl : other = queue := Option.some.inj (found.symm.trans mine)
        exact ⟨_, System.txQueue?_set found, .release pool⟩
    | @commit target curIndex cleanIndex other control found =>
        rw [Action.txTarget, control] at here
        obtain rfl : target = queueId := Option.some.inj here
        obtain rfl : other = queue := Option.some.inj (found.symm.trans mine)
        exact ⟨_, System.txQueue?_set found, .commit control⟩
    | @txDone target index other desc found cell =>
        obtain rfl : target = queueId := Option.some.inj here
        obtain rfl : other = queue := Option.some.inj (found.symm.trans mine)
        exact ⟨_, System.txQueue?_set found, .txDone cell⟩
    | take control | halt control | rearm control | publish control | finish control =>
        rw [Action.txTarget, control] at here
        cases here
    | allocate | construct | drop | cloneHandle | dropHandle | receive | rxStore => cases here
  · have silent := step.txSilent_elsewhere here
    exact ⟨queue, (step.txQueue?_elsewhere here).trans mine, .same silent.sent silent.released⟩

/-- No step adds or removes a queue. -/
theorem Step.lengths (step : Step profile system action events after) :
    after.machine.dev.rxQueues.length = system.machine.dev.rxQueues.length ∧
      after.machine.dev.txQueues.length = system.machine.dev.txQueues.length := by
  cases step with
  | report | allocate | construct | drop | cloneHandle | dropHandle | reject | ring | recycle | round
  | receive | halt | finish => exact ⟨rfl, rfl⟩
  | send | release | commit | txDone => exact ⟨rfl, List.length_set⟩
  | take | rearm | publish | rxStore => exact ⟨List.length_set, rfl⟩

theorem lengths_run {policy : Policy} {trace : List Event}
    (run : Run (next profile) policy system trace after) :
    after.machine.dev.rxQueues.length = system.machine.dev.rxQueues.length ∧
      after.machine.dev.txQueues.length = system.machine.dev.txQueues.length :=
  run.invariant (fun _ state =>
    state.machine.dev.rxQueues.length = system.machine.dev.rxQueues.length ∧
      state.machine.dev.txQueues.length = system.machine.dev.txQueues.length) ⟨rfl, rfl⟩
    (fun _ _ _ _ _ same _ stepped =>
      ⟨(next_step stepped).lengths.1.trans same.1, (next_step stepped).lengths.2.trans same.2⟩)

/-- Where the clean index of a running recycle comes from. -/
theorem Step.recycling (step : Step profile system action events after) {curIndex cleanIndex : Nat}
    (running : after.control = .recycling queueId curIndex cleanIndex) :
    system.control = .recycling queueId curIndex cleanIndex ∨
      (∃ queue, system.txQueue? queueId = some queue ∧ queue.cleanIndex = cleanIndex) ∨
      ∃ queue before last desc count, system.txQueue? queueId = some queue ∧
        RoundSees profile queue curIndex before last cleanIndex desc count := by
  cases step with
  | report | allocate | construct | drop | cloneHandle | dropHandle | reject | rxStore | txDone =>
      exact .inl running
  | send | ring | commit | receive | take | halt | rearm | publish | finish => cases running
  | recycle idle found =>
      cases running
      exact .inr (.inl ⟨_, found, rfl⟩)
  | round control found sees | release control found sees =>
      cases running
      exact .inr (.inr ⟨_, _, _, _, _, found, sees⟩)

end Steps

/-- The two outcomes of `send` on a queue that exists. -/
theorem Step.send_cases {profile : Profile} {system after : System} {events : List Event}
    {queueId position : Nat} {queue : IgbTxQueue} {packet : Packet}
    (step : Step profile system (.send queueId position) events after)
    (found : system.txQueue? queueId = some queue) (owned : system.live[position]? = some packet) :
    system.control = .idle ∧
      ((queue.canSend profile = .ok false ∧ events = [.rejected queueId packet .queueFull] ∧
          after.txQueue? queueId = some queue) ∨
        ∃ txIndex desc, queue.canSend profile = .ok true ∧ events = [.sent queueId packet] ∧
          after.txQueue? queueId = some (queue.afterSend packet txIndex desc)) := by
  cases step with
  | report other => exact absurd rfl (other queueId position)
  | reject idle owned' rejects =>
      rw [owned] at owned'
      cases owned'
      refine ⟨idle, .inl ?_⟩
      cases rejects with
      | invalidQueue absent => exact absurd (absent.symm.trans found) nofun
      | queueFull found' full =>
          rw [System.txQueue?, found'] at found
          cases found
          exact ⟨full, rfl, found'⟩
  | send idle owned' found' room =>
      rw [owned] at owned'
      rw [found] at found'
      cases owned'
      cases found'
      exact ⟨idle, .inr ⟨_, _, room, rfl, System.txQueue?_set found⟩⟩

/-- The indices of a queue stay inside its ring. -/
structure TxShape (qs : Nat) (queue : IgbTxQueue) : Prop where
  numDescriptors : queue.numDescriptors = qs
  cells : queue.descriptors.cells.length = qs
  txIndex : queue.txIndex < qs
  cleanIndex : queue.cleanIndex < qs

section Shape

variable {profile : Profile} {system after : System} {action : Action} {events : List Event}
  {qs queueId : Nat} {queue queue' : IgbTxQueue}

theorem wrapRing_lt {index next : Nat} (power : qs.isPowerOfTwo) (bound : qs < usizeModulus)
    (inside : index < qs) (wraps : wrapRing profile index qs = .ok next) : next < qs := by
  rw [wrapRing_ok power bound inside wraps]
  exact Nat.mod_lt _ (Ring.pos_of_isPowerOfTwo power)

theorem TxShape.roundSees (shape : TxShape qs queue) (power : qs.isPowerOfTwo)
    (bound : qs < usizeModulus) {curIndex cleanIndex last next : Nat} {desc : AdvancedTxDescriptor}
    {count : Int} (sees : RoundSees profile queue curIndex cleanIndex last next desc count) :
    next < qs := by
  have inside : last < qs := by
    rw [← shape.cells]
    exact (List.getElem?_eq_some_iff.mp sees.cell).1
  have wraps := sees.wraps
  rw [shape.numDescriptors] at wraps
  exact wrapRing_lt power bound inside wraps

theorem TxShape.change (shape : TxShape qs queue) (power : qs.isPowerOfTwo)
    (bound : qs < usizeModulus)
    (running : ∀ curIndex cleanIndex, system.control = .recycling queueId curIndex cleanIndex →
      cleanIndex < qs)
    (change : TxChange profile system queueId queue action events queue') : TxShape qs queue' := by
  cases change with
  | same => exact shape
  | send _ _ wraps =>
      rw [shape.numDescriptors] at wraps
      exact ⟨shape.numDescriptors, List.length_set.trans shape.cells,
        wrapRing_lt power bound shape.txIndex wraps, shape.cleanIndex⟩
  | release => exact ⟨shape.numDescriptors, shape.cells, shape.txIndex, shape.cleanIndex⟩
  | commit control => exact ⟨shape.numDescriptors, shape.cells, shape.txIndex, running _ _ control⟩
  | txDone => exact ⟨shape.numDescriptors, List.length_set.trans shape.cells, shape.txIndex,
      shape.cleanIndex⟩

end Shape

end IgbDriver
