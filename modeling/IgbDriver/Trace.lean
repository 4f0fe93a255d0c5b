import IgbDriver.Steps

namespace IgbDriver

/-! # What a trace says about one queue -/

namespace Event

variable (queueId : Nat)

def sent? : Event → Option Packet
  | .sent queue packet => if queue = queueId then some packet else none
  | _ => none

def released? : Event → List (PoolRef × Nat)
  | .released queue ref ids => if queue = queueId then ids.map fun id => (ref, id) else []
  | _ => []

def fetched? : Event → Option (BitVec 64)
  | .fetched queue address => if queue = queueId then some address else none
  | _ => none

def delivered? : Event → Option Packet
  | .delivered queue packet => if queue = queueId then some packet else none
  | _ => none

def stored? : Event → Option Frame
  | .stored queue frame => if queue = queueId then some frame else none
  | _ => none

end Event

/-- The packets `send` accepted on a queue. -/
def sentOn (queueId : Nat) (trace : List Event) : List Packet :=
  trace.filterMap (Event.sent? queueId)

/-- The entries `recycle_tx_buffers` handed back, each with the pool it went to. -/
def releasedOn (queueId : Nat) (trace : List Event) : List (PoolRef × Nat) :=
  trace.flatMap (Event.released? queueId)

/-- The addresses the device fetched from. -/
def fetchedOn (queueId : Nat) (trace : List Event) : List (BitVec 64) :=
  trace.filterMap (Event.fetched? queueId)

/-- The packets passed to the receive callback. -/
def deliveredOn (queueId : Nat) (trace : List Event) : List Packet :=
  trace.filterMap (Event.delivered? queueId)

/-- The frames the device stored. -/
def storedOn (queueId : Nat) (trace : List Event) : List Frame :=
  trace.filterMap (Event.stored? queueId)

variable {queueId : Nat} {trace events : List Event}

@[simp] theorem sentOn_append :
    sentOn queueId (trace ++ events) = sentOn queueId trace ++ sentOn queueId events := by
  simp [sentOn]

@[simp] theorem releasedOn_append :
    releasedOn queueId (trace ++ events) =
      releasedOn queueId trace ++ releasedOn queueId events := by
  simp [releasedOn]

@[simp] theorem fetchedOn_append :
    fetchedOn queueId (trace ++ events) = fetchedOn queueId trace ++ fetchedOn queueId events := by
  simp [fetchedOn]

@[simp] theorem deliveredOn_append :
    deliveredOn queueId (trace ++ events) =
      deliveredOn queueId trace ++ deliveredOn queueId events := by
  simp [deliveredOn]

@[simp] theorem storedOn_append :
    storedOn queueId (trace ++ events) = storedOn queueId trace ++ storedOn queueId events := by
  simp [storedOn]

section OneEvent

variable {target : Nat}

@[simp] theorem sentOn_sent (packet : Packet) : sentOn queueId [.sent queueId packet] =
    [packet] := by
  simp [sentOn, Event.sent?]

@[simp] theorem releasedOn_released (ref : PoolRef) (ids : List Nat) :
    releasedOn queueId [.released queueId ref ids] = ids.map fun id => (ref, id) := by
  simp [releasedOn, Event.released?]

@[simp] theorem fetchedOn_fetched (address : BitVec 64) :
    fetchedOn queueId [.fetched queueId address] = [address] := by
  simp [fetchedOn, Event.fetched?]

@[simp] theorem deliveredOn_delivered (packet : Packet) :
    deliveredOn queueId [.delivered queueId packet] = [packet] := by
  simp [deliveredOn, Event.delivered?]

@[simp] theorem storedOn_stored (frame : Frame) : storedOn queueId [.stored queueId frame] =
    [frame] := by
  simp [storedOn, Event.stored?]

theorem sentOn_sent_ne (apart : target ≠ queueId) (packet : Packet) :
    sentOn queueId [.sent target packet] = [] := by
  simp [sentOn, Event.sent?, apart]

theorem releasedOn_released_ne (apart : target ≠ queueId) (ref : PoolRef) (ids : List Nat) :
    releasedOn queueId [.released target ref ids] = [] := by
  simp [releasedOn, Event.released?, apart]

theorem fetchedOn_fetched_ne (apart : target ≠ queueId) (address : BitVec 64) :
    fetchedOn queueId [.fetched target address] = [] := by
  simp [fetchedOn, Event.fetched?, apart]

theorem deliveredOn_delivered_ne (apart : target ≠ queueId) (packet : Packet) :
    deliveredOn queueId [.delivered target packet] = [] := by
  simp [deliveredOn, Event.delivered?, apart]

theorem storedOn_stored_ne (apart : target ≠ queueId) (frame : Frame) :
    storedOn queueId [.stored target frame] = [] := by
  simp [storedOn, Event.stored?, apart]

end OneEvent

theorem mem_deliveredOn {packet : Packet} : packet ∈ deliveredOn queueId trace ↔
    .delivered queueId packet ∈ trace := by
  rw [deliveredOn, List.mem_filterMap]
  constructor
  · intro delivered
    obtain ⟨event, member, delivers⟩ := delivered
    cases event with
    | delivered queue other =>
        simp only [Event.delivered?, Option.ite_none_right_eq_some, Option.some.injEq] at delivers
        obtain ⟨rfl, rfl⟩ := delivers
        exact member
    | _ => cases delivers
  · intro member
    exact ⟨_, member, if_pos rfl⟩

theorem mem_storedOn {frame : Frame} : frame ∈ storedOn queueId trace ↔
    .stored queueId frame ∈ trace := by
  rw [storedOn, List.mem_filterMap]
  constructor
  · intro stored
    obtain ⟨event, member, stores⟩ := stored
    cases event with
    | stored queue other =>
        simp only [Event.stored?, Option.ite_none_right_eq_some, Option.some.injEq] at stores
        obtain ⟨rfl, rfl⟩ := stores
        exact member
    | _ => cases stores
  · intro member
    exact ⟨_, member, if_pos rfl⟩

/-- Events in which a transmit queue has no part. -/
structure TxSilent (queueId : Nat) (events : List Event) : Prop where
  sent : sentOn queueId events = []
  released : releasedOn queueId events = []
  fetched : fetchedOn queueId events = []

/-- Events in which a receive queue has no part. -/
structure RxSilent (queueId : Nat) (events : List Event) : Prop where
  delivered : deliveredOn queueId events = []
  stored : storedOn queueId events = []

theorem TxSilent.nil : TxSilent queueId [] := ⟨rfl, rfl, rfl⟩

theorem RxSilent.nil : RxSilent queueId [] := ⟨rfl, rfl⟩

theorem TxSilent.of_reports (reports : ∀ event ∈ events, event.isReport = true) :
    TxSilent queueId events := by
  refine ⟨List.filterMap_eq_nil_iff.mpr ?_, List.flatMap_eq_nil_iff.mpr ?_,
    List.filterMap_eq_nil_iff.mpr ?_⟩
  all_goals
    intro event member
    have reported := reports event member
    cases event <;> first | rfl | cases reported

theorem RxSilent.of_reports (reports : ∀ event ∈ events, event.isReport = true) :
    RxSilent queueId events := by
  refine ⟨List.filterMap_eq_nil_iff.mpr ?_, List.filterMap_eq_nil_iff.mpr ?_⟩
  all_goals
    intro event member
    have reported := reports event member
    cases event <;> first | rfl | cases reported

end IgbDriver
