import IgbDriver.TxView

namespace IgbDriver

open Foundation

/-! # The transmit ring

Abstractly a transmit queue is the list of the packets it accepted, cut in three:
those released (`gone`), those the device fetched, and those it has still to fetch.
The cursors of the ring are the residues of the three cuts.
-/

/-- The address the device is given for a packet. -/
def Packet.busAddress (packet : Packet) : BitVec 64 := BitVec.ofNat 64 packet.addrPhys

/-- The pool entry a packet occupies. -/
def Packet.home (packet : Packet) : PoolRef × Nat := (packet.pool, packet.poolEntry)

/-- The queue's entries are those of the accepted packets that were not released, in
order, and the pool it remembers is the pool of all of them. -/
structure TxFifo (queueId : Nat) (queue : IgbTxQueue) (trace : List Event)
    (gone pending : List Packet) : Prop where
  sent : sentOn queueId trace = gone ++ pending
  released : releasedOn queueId trace = gone.map Packet.home
  bufs : queue.bufsInUse = pending.map Packet.poolEntry
  pools : ∀ packet ∈ pending, queue.pool = some packet.pool
  untouched : queue.pool = none → gone = []

theorem IgbTxQueue.batch_eq (queue : IgbTxQueue) :
    queue.batch = queue.bufsInUse.take txCleanBatch := by
  simp only [batch]
  split
  · rename_i few
    exact (List.take_of_length_le few).symm
  · rfl

theorem IgbTxQueue.bufsInUse_afterBatch (queue : IgbTxQueue) :
    queue.afterBatch.bufsInUse = queue.bufsInUse.drop txCleanBatch := by
  simp only [afterBatch]
  split
  · rename_i few
    exact (List.drop_of_length_le few).symm
  · rfl

namespace TxFifo

variable {queueId : Nat} {queue queue' : IgbTxQueue} {trace events : List Event}
  {gone pending : List Packet}

theorem initial (empty : queue.bufsInUse = []) : TxFifo queueId queue [] [] [] :=
  ⟨rfl, rfl, empty, by simp, fun _ => rfl⟩

theorem kept (fifo : TxFifo queueId queue trace gone pending) (sent : sentOn queueId events = [])
    (released : releasedOn queueId events = []) (bufs : queue'.bufsInUse = queue.bufsInUse)
    (pool : queue'.pool = queue.pool) : TxFifo queueId queue' (trace ++ events) gone pending where
  sent := by rw [sentOn_append, sent, List.append_nil, fifo.sent]
  released := by rw [releasedOn_append, released, List.append_nil, fifo.released]
  bufs := bufs.trans fifo.bufs
  pools := by rw [pool]; exact fifo.pools
  untouched := by rw [pool]; exact fifo.untouched

theorem silent (fifo : TxFifo queueId queue trace gone pending) (quiet : TxSilent queueId events)
    (bufs : queue'.bufsInUse = queue.bufsInUse) (pool : queue'.pool = queue.pool) :
    TxFifo queueId queue' (trace ++ events) gone pending :=
  fifo.kept quiet.sent quiet.released bufs pool

theorem send (fifo : TxFifo queueId queue trace gone pending) {packet : Packet} {txIndex : Nat}
    {desc : AdvancedTxDescriptor}
    (keeps : queue.bufsInUse = [] ∨ queue.pool = some packet.pool) :
    TxFifo queueId (queue.afterSend packet txIndex desc) (trace ++ [.sent queueId packet]) gone
      (pending ++ [packet]) where
  sent := by
    rw [sentOn_append, fifo.sent, List.append_assoc, sentOn_sent]
  released := by
    rw [releasedOn_append, fifo.released]
    exact List.append_nil _
  bufs := by simp only [IgbTxQueue.afterSend, fifo.bufs, List.map_append,
    List.map_cons, List.map_nil]
  pools := by
    intro other member
    rcases List.mem_append.mp member with waiting | last
    · rcases keeps with empty | same
      · rw [fifo.bufs, List.map_eq_nil_iff] at empty
        rw [empty] at waiting
        cases waiting
      · have other := fifo.pools other waiting
        rw [same] at other
        exact other
    · rw [List.mem_singleton.mp last]
      rfl
  untouched := nofun

theorem release (fifo : TxFifo queueId queue trace gone pending) {ref : PoolRef}
    (pool : queue.pool = some ref) :
    TxFifo queueId queue.afterBatch (trace ++ [.released queueId ref queue.batch])
      (gone ++ pending.take txCleanBatch) (pending.drop txCleanBatch) where
  sent := by
    rw [sentOn_append, fifo.sent, List.append_assoc gone (pending.take _), List.take_append_drop]
    exact List.append_nil _
  released := by
    have homes : ∀ packet ∈ pending.take txCleanBatch, (ref, packet.poolEntry) = packet.home := by
      intro packet member
      have same := fifo.pools packet (List.mem_of_mem_take member)
      rw [pool] at same
      rw [Option.some.inj same]
      rfl
    rw [releasedOn_append, fifo.released, List.map_append, queue.batch_eq,
      fifo.bufs, ← List.map_take, releasedOn_released, List.map_map]
    exact congrArg _ (List.map_congr_left homes)
  bufs := by rw [queue.bufsInUse_afterBatch, fifo.bufs, List.map_drop]
  pools := fun packet member => fifo.pools packet (List.mem_of_mem_drop member)
  untouched := fun none => absurd (pool.symm.trans none) nofun

/-- The entries released are a prefix of the entries sent. -/
theorem released_prefix (fifo : TxFifo queueId queue trace gone pending) :
    releasedOn queueId trace <+: (sentOn queueId trace).map Packet.home := by
  rw [fifo.released, fifo.sent, List.map_append]
  exact List.prefix_append _ _

end TxFifo

section Arithmetic

variable {profile : Profile} {size gone sent : Nat}

/-- On rings whose indices fit an `i32`, the folded difference is the number of
descriptors in use. -/
theorem cleanable_eq (bound : size < 2147483648) (ordered : gone ≤ sent)
    (room : sent < gone + size) :
    cleanable profile size (sent % size) (gone % size) = .ok ((sent - gone : Nat) : Int) := by
  have positive : 0 < size := by omega
  have belowSent := Nat.mod_lt sent positive
  have belowGone := Nat.mod_lt gone positive
  have distance := Ring.distance_mod ordered room
  rw [Ring.distance] at distance
  have differs : (i32Sub profile (asI32 (sent % size)) (asI32 (gone % size)) :
      Except (Abort Panic) Int) = .ok ((sent % size : Nat) - (gone % size : Nat) : Int) := by
    rw [asI32_of_lt (by omega), asI32_of_lt (by omega)]
    exact if_pos ⟨by omega, by omega⟩
  simp only [cleanable]
  rw [differs]
  by_cases wrapped : sent % size < gone % size
  · rw [Nat.mod_eq_of_lt (by omega)] at distance
    have added : (i32Add profile ((sent % size : Nat) - (gone % size : Nat) : Int) (asI32 size) :
        Except (Abort Panic) Int) = .ok ((sent - gone : Nat) : Int) := by
      rw [asI32_of_lt bound, i32Add, if_pos ⟨by omega, by omega⟩, ← distance]
      exact congrArg Except.ok (by omega)
    exact (if_pos (by omega)).trans added
  · have folded : sent % size + size - gone % size = sent % size - gone % size + size := by omega
    rw [folded, Nat.add_mod_right, Nat.mod_eq_of_lt (by omega)] at distance
    refine (if_neg (by omega)).trans ?_
    rw [← distance]
    exact congrArg Except.ok (by omega)

theorem cleanupTo_eq (bound : size + txCleanBatch ≤ usizeModulus) (batch : txCleanBatch ≤ size) :
    cleanupTo profile size (gone % size) = .ok ((gone + (txCleanBatch - 1)) % size) := by
  have positive : 0 < size := by
    unfold txCleanBatch at batch
    omega
  have below := Nat.mod_lt gone positive
  rw [← Nat.mod_add_mod]
  revert below
  generalize gone % size = start
  intro below
  have past : (usizeAdd profile start txCleanBatch : Except (Abort Panic) Nat) =
      .ok (start + txCleanBatch) := usizeAdd_of_lt (by omega)
  have back : (usizeSub profile (start + txCleanBatch) 1 : Except (Abort Panic) Nat) =
      .ok (start + (txCleanBatch - 1)) := usizeSub_of_le (by simp only [txCleanBatch]; omega)
  simp only [cleanupTo]
  rw [past, except_ok_bind, back, except_ok_bind]
  by_cases wraps : size ≤ start + (txCleanBatch - 1)
  · have short : start + (txCleanBatch - 1) - size < size := by
      simp only [txCleanBatch] at *
      omega
    rw [if_pos wraps, usizeSub_of_le wraps, Nat.mod_eq_sub_mod wraps, Nat.mod_eq_of_lt short]
  · rw [if_neg wraps, Nat.mod_eq_of_lt (Nat.lt_of_not_le wraps)]

/-- What a round sees of a batch, in terms of the counters behind its indices. -/
theorem RoundSees.batch {queue : IgbTxQueue} {last next : Nat} {desc : AdvancedTxDescriptor}
    {count : Int} (power : size.isPowerOfTwo) (bound : 16 * size < 4294967296)
    (entries : queue.numDescriptors = size) (ordered : gone ≤ sent) (room : sent < gone + size)
    (sees : RoundSees profile queue (sent % size) (gone % size) last next desc count) :
    gone + txCleanBatch ≤ sent ∧ last = (gone + (txCleanBatch - 1)) % size ∧
      next = (gone + txCleanBatch) % size := by
  have counted := sees.counted
  rw [entries, cleanable_eq (by omega) ordered room] at counted
  have enough : txCleanBatch ≤ sent - gone := by
    have enough := sees.enough
    rw [← Except.ok.inj counted] at enough
    exact_mod_cast enough
  have ends := sees.ends
  rw [entries, cleanupTo_eq (by simp only [txCleanBatch, usizeModulus]; omega) (by omega)] at ends
  have last_eq : last = (gone + (txCleanBatch - 1)) % size := (Except.ok.inj ends).symm
  have inside : last < queue.numDescriptors := by
    rw [last_eq, entries]
    exact Nat.mod_lt _ (by omega)
  refine ⟨by omega, last_eq, ?_⟩
  rw [wrapRing_ok (by rwa [entries]) (by rw [entries]; simp only [usizeModulus]; omega) inside
    sees.wraps, entries, last_eq, Ring.succ_mod]
  rfl

end Arithmetic

/-- The device takes the descriptor at TDH and only while TDH has not reached TDT. -/
def TxEnvironment.inOrder : TxEnvironment where
  sends view packet := view.queue.bufsInUse = [] ∨ view.queue.pool = some packet.pool
  completes view index :=
    view.head.toNat = index ∧ view.head ≠ view.tail ∧ 0 < view.length.toNat / 16

/-- How many of `sent` packets the last doorbell covered. -/
def TxView.published (view : TxView) (sent : Nat) : Nat :=
  match view.phase with
  | .ringing => sent - 1
  | _ => sent

/-- A descriptor carries the packet its slot was written for, and is done once the
device fetched it. -/
def TxShows (sent : List Packet) (fetched counter : Nat) (desc : AdvancedTxDescriptor) : Prop :=
  (sent[counter]?).map Packet.busAddress = some desc.packetBufferAddress ∧
    (desc.done = true ↔ counter < fetched)

structure TxRing (size queueId : Nat) (view : TxView) (trace : List Event)
    (gone pending : List Packet) : Prop where
  fifo : TxFifo queueId view.queue trace gone pending
  numDescriptors : view.queue.numDescriptors = size
  cells : view.queue.descriptors.cells.length = size
  length : view.length = BitVec.ofNat 32 (16 * size)
  txIndex : view.queue.txIndex = (sentOn queueId trace).length % size
  cleanIndex : view.cleanIndex = gone.length % size
  current : ∀ curIndex cleanIndex, view.phase = .recycling curIndex cleanIndex →
    curIndex = view.queue.txIndex
  head : view.head = BitVec.ofNat 32 ((fetchedOn queueId trace).length % size)
  tail : view.tail = BitVec.ofNat 32 (view.published (sentOn queueId trace).length % size)
  ordered : gone.length ≤ (fetchedOn queueId trace).length
  reached : (fetchedOn queueId trace).length ≤ view.published (sentOn queueId trace).length
  room : (sentOn queueId trace).length < gone.length + size
  fetched : fetchedOn queueId trace <+: (sentOn queueId trace).map Packet.busAddress
  slots : Ring.Window size gone.length (sentOn queueId trace).length
    (TxShows (sentOn queueId trace) (fetchedOn queueId trace).length) view.queue.descriptors.cells

theorem TxView.published_le (view : TxView) (sent : Nat) : view.published sent ≤ sent := by
  simp only [published]
  split <;> omega

/-- A list that is a prefix stays one when the next element of the other joins it. -/
theorem prefix_concat {α : Type} {left right : List α} {value : α} (ahead : left <+: right)
    (here : right[left.length]? = some value) : left ++ [value] <+: right := by
  obtain ⟨rest, rfl⟩ := ahead
  rw [List.getElem?_append_right (Nat.le_refl _), Nat.sub_self] at here
  cases rest with
  | nil => cases here
  | cons head tail =>
      cases here
      exact ⟨tail, by simp⟩

theorem AdvancedTxDescriptor.done_complete (desc : AdvancedTxDescriptor) :
    desc.complete.done = true := by
  have masked : (desc.paylenPoptsCcIdxSta ||| 1#32) &&& 1#32 = 1#32 := by
    apply BitVec.eq_of_getLsbD_eq
    intro position bound
    cases position with
    | zero => simp
    | succ position => simp
  simp [AdvancedTxDescriptor.complete, AdvancedTxDescriptor.done, igbAdvtxdStatDd, masked]

namespace TxRing

variable {size queueId : Nat} {profile : Profile} {view view' : TxView} {trace events : List Event}
  {gone pending : List Packet}

theorem silent (ring : TxRing size queueId view trace gone pending)
    (quiet : TxSilent queueId events) :
    TxRing size queueId view (trace ++ events) gone pending := by
  have sent : sentOn queueId (trace ++ events) = sentOn queueId trace := by
    rw [sentOn_append, quiet.sent, List.append_nil]
  have fetched : fetchedOn queueId (trace ++ events) = fetchedOn queueId trace := by
    rw [fetchedOn_append, quiet.fetched, List.append_nil]
  exact {
    fifo := ring.fifo.silent quiet rfl rfl
    numDescriptors := ring.numDescriptors
    cells := ring.cells
    length := ring.length
    txIndex := by rw [sent]; exact ring.txIndex
    cleanIndex := ring.cleanIndex
    current := ring.current
    head := by rw [fetched]; exact ring.head
    tail := by rw [sent]; exact ring.tail
    ordered := by rw [fetched]; exact ring.ordered
    reached := by rw [sent, fetched]; exact ring.reached
    room := by rw [sent]; exact ring.room
    fetched := by rw [sent, fetched]; exact ring.fetched
    slots := by rw [sent, fetched]; exact ring.slots }

/-- There is room exactly when fewer than `size - 1` packets are in the queue. -/
theorem canSend_iff (profile : Profile) (ring : TxRing size queueId view trace gone pending)
    (power : size.isPowerOfTwo) (bound : size < usizeModulus) (quiet : view.phase = .quiet) :
    view.queue.canSend profile = .ok (decide (pending.length ≠ size - 1)) := by
  have positive := Ring.pos_of_isPowerOfTwo power
  have inside : view.queue.txIndex < view.queue.numDescriptors := by
    rw [ring.txIndex, ring.numDescriptors]
    exact Nat.mod_lt _ positive
  have wraps : wrapRing profile view.queue.txIndex view.queue.numDescriptors =
      .ok (((sentOn queueId trace).length + 1) % size) := by
    rw [wrapRing_of_lt (by rwa [ring.numDescriptors]) (by rwa [ring.numDescriptors]) inside,
      ring.txIndex, ring.numDescriptors, Ring.succ_mod]
  have clean : view.queue.cleanIndex = gone.length % size := by
    have local_ := ring.cleanIndex
    rwa [TxView.cleanIndex, quiet] at local_
  have lengths : (sentOn queueId trace).length = gone.length + pending.length := by
    rw [ring.fifo.sent, List.length_append]
  have room := ring.room
  rw [IgbTxQueue.canSend, wraps, except_ok_bind, clean]
  refine congrArg Except.ok (decide_eq_decide.mpr (not_congr ⟨fun same => ?_, fun full => ?_⟩))
  · by_contra different
    exact Ring.mod_ne gone.length (by omega) (by omega) (Nat.le_refl _) (by omega) (by omega) same
  · rw [lengths, full, show gone.length + (size - 1) + 1 = gone.length + size by omega,
      Nat.add_mod_right]

theorem send (ring : TxRing size queueId view trace gone pending) (power : size.isPowerOfTwo)
    (bound : size < usizeModulus) {packet : Packet} {txIndex : Nat} {desc : AdvancedTxDescriptor}
    (quiet : view.phase = .quiet)
    (keeps : view.queue.bufsInUse = [] ∨ view.queue.pool = some packet.pool)
    (room : view.queue.canSend profile = .ok true)
    (wraps : wrapRing profile view.queue.txIndex view.queue.numDescriptors = .ok txIndex) :
    TxRing size queueId
      { view with queue := view.queue.afterSend packet txIndex desc, phase := .ringing }
      (trace ++ [.sent queueId packet]) gone (pending ++ [packet]) := by
  have positive := Ring.pos_of_isPowerOfTwo power
  have sent : sentOn queueId (trace ++ [.sent queueId packet]) =
      sentOn queueId trace ++ [packet] := by
    rw [sentOn_append, sentOn_sent]
  have fetched : fetchedOn queueId (trace ++ [.sent queueId packet]) = fetchedOn queueId trace := by
    rw [fetchedOn_append]
    exact List.append_nil _
  have lengths : (sentOn queueId trace).length = gone.length + pending.length := by
    rw [ring.fifo.sent, List.length_append]
  have space : pending.length ≠ size - 1 := by
    rw [ring.canSend_iff profile power bound quiet] at room
    exact of_decide_eq_true (Except.ok.inj room)
  have below := ring.room
  have reached : (fetchedOn queueId trace).length ≤ (sentOn queueId trace).length :=
    Nat.le_trans ring.reached (view.published_le _)
  have published : view.published (sentOn queueId trace).length =
      (sentOn queueId trace).length := by
    rw [TxView.published, quiet]
  have longer : (sentOn queueId trace ++ [packet]).length = (sentOn queueId trace).length + 1 := by
    simp
  have clean := ring.cleanIndex
  rw [TxView.cleanIndex, quiet] at clean
  have next : txIndex = ((sentOn queueId trace).length + 1) % size := by
    have inside : view.queue.txIndex < view.queue.numDescriptors := by
      rw [ring.txIndex, ring.numDescriptors]
      exact Nat.mod_lt _ positive
    rw [wrapRing_ok (by rwa [ring.numDescriptors]) (by rwa [ring.numDescriptors]) inside wraps,
      ring.txIndex, ring.numDescriptors, Ring.succ_mod]
  have slots : Ring.Window size gone.length (sentOn queueId trace).length
      (TxShows (sentOn queueId trace ++ [packet]) (fetchedOn queueId trace).length)
      view.queue.descriptors.cells := by
    refine ring.slots.mono (fun counter cell _ upper shown => ⟨?_, shown.2⟩)
    rw [List.getElem?_append_left upper]
    exact shown.1
  exact {
    fifo := ring.fifo.send keeps
    numDescriptors := ring.numDescriptors
    cells := by simp only [IgbTxQueue.afterSend, Dma.set, List.length_set, ring.cells]
    length := ring.length
    txIndex := by rw [sent, longer]; exact next
    cleanIndex := clean
    current := by
      intro _ _ running
      cases running
    head := by rw [fetched]; exact ring.head
    tail := by
      rw [sent, longer]
      exact ring.tail.trans (by rw [published]; rfl)
    ordered := by rw [fetched]; exact ring.ordered
    reached := by
      rw [sent, fetched, longer]
      exact reached
    room := by rw [sent, longer]; omega
    fetched := by
      rw [sent, fetched, List.map_append]
      exact ring.fetched.trans (List.prefix_append _ _)
    slots := by
      rw [sent, fetched, longer]
      simp only [IgbTxQueue.afterSend, Dma.set, ring.txIndex]
      refine slots.push below ring.cells ⟨?_, ?_⟩
      · rw [List.getElem?_append_right (Nat.le_refl _)]
        simp [Packet.busAddress]
      · rw [AdvancedTxDescriptor.done_send]
        constructor
        · intro done
          cases done
        · intro before
          omega }

/-- The doorbell changes no cursor of the abstract queue. -/
theorem ring (ring : TxRing size queueId view trace gone pending)
    (ringing : view.phase = .ringing) :
    TxRing size queueId { view with tail := BitVec.ofNat 32 view.queue.txIndex, phase := .quiet }
      trace gone pending := by
  have clean := ring.cleanIndex
  rw [TxView.cleanIndex, ringing] at clean
  exact { ring with
    cleanIndex := clean
    current := nofun
    tail := by rw [ring.txIndex]; rfl
    reached := Nat.le_trans ring.reached (view.published_le _) }

theorem recycle (ring : TxRing size queueId view trace gone pending) (quiet : view.phase = .quiet) :
    TxRing size queueId { view with phase := .recycling view.queue.txIndex view.queue.cleanIndex }
      trace gone pending := by
  have clean := ring.cleanIndex
  have published : view.published (sentOn queueId trace).length =
      (sentOn queueId trace).length := by
    rw [TxView.published, quiet]
  rw [TxView.cleanIndex, quiet] at clean
  exact { ring with
    cleanIndex := clean
    current := by rintro _ _ ⟨⟩; rfl
    tail := ring.tail.trans (by rw [published]; rfl)
    reached := Nat.le_trans ring.reached (view.published_le _) }

theorem commit (ring : TxRing size queueId view trace gone pending) {curIndex cleanIndex : Nat}
    (recycling : view.phase = .recycling curIndex cleanIndex) :
    TxRing size queueId { view with queue := { view.queue with cleanIndex }, phase := .quiet }
      trace gone pending := by
  have clean := ring.cleanIndex
  have published : view.published (sentOn queueId trace).length =
      (sentOn queueId trace).length := by
    rw [TxView.published, recycling]
  rw [TxView.cleanIndex, recycling] at clean
  exact {
    fifo := ⟨ring.fifo.sent, ring.fifo.released, ring.fifo.bufs, ring.fifo.pools,
      ring.fifo.untouched⟩
    numDescriptors := ring.numDescriptors
    cells := ring.cells
    length := ring.length
    txIndex := ring.txIndex
    cleanIndex := clean
    current := nofun
    head := ring.head
    tail := ring.tail.trans (by rw [published]; rfl)
    ordered := ring.ordered
    reached := Nat.le_trans ring.reached (view.published_le _)
    room := ring.room
    fetched := ring.fetched
    slots := ring.slots }

/-- The one descriptor a round looks at vouches for the whole batch. -/
theorem sees (ring : TxRing size queueId view trace gone pending) (power : size.isPowerOfTwo)
    (bound : 16 * size < 4294967296) {curIndex cleanIndex last next : Nat}
    {desc : AdvancedTxDescriptor} {count : Int}
    (recycling : view.phase = .recycling curIndex cleanIndex)
    (sees : RoundSees profile view.queue curIndex cleanIndex last next desc count) :
    txCleanBatch ≤ pending.length ∧ next = (gone.length + txCleanBatch) % size ∧
      gone.length + txCleanBatch ≤ (fetchedOn queueId trace).length := by
  have lengths : (sentOn queueId trace).length = gone.length + pending.length := by
    rw [ring.fifo.sent, List.length_append]
  have room := ring.room
  have clean := ring.cleanIndex
  rw [TxView.cleanIndex, recycling] at clean
  simp only at clean
  rw [ring.current _ _ recycling, ring.txIndex, clean] at sees
  obtain ⟨enough, rfl, next_eq⟩ := sees.batch power bound ring.numDescriptors (by omega) room
  have shown := ring.slots.cell_of (by omega) (by simp only [txCleanBatch] at *; omega) sees.cell
  have done := shown.2.mp sees.done
  exact ⟨by omega, next_eq, by simp only [txCleanBatch] at *; omega⟩

theorem release (ring : TxRing size queueId view trace gone pending) (power : size.isPowerOfTwo)
    (bound : 16 * size < 4294967296) {curIndex cleanIndex last next : Nat}
    {desc : AdvancedTxDescriptor} {count : Int} {ref : PoolRef}
    (recycling : view.phase = .recycling curIndex cleanIndex)
    (sees : RoundSees profile view.queue curIndex cleanIndex last next desc count)
    (pool : view.queue.pool = some ref) :
    TxRing size queueId
      { view with queue := view.queue.afterBatch, phase := .recycling curIndex next }
      (trace ++ [.released queueId ref view.queue.batch])
      (gone ++ pending.take txCleanBatch) (pending.drop txCleanBatch) := by
  obtain ⟨enough, next_eq, completed⟩ := ring.sees power bound recycling sees
  have sent : sentOn queueId (trace ++ [.released queueId ref view.queue.batch]) =
      sentOn queueId trace := by
    rw [sentOn_append]
    exact List.append_nil _
  have fetched : fetchedOn queueId (trace ++ [.released queueId ref view.queue.batch]) =
      fetchedOn queueId trace := by
    rw [fetchedOn_append]
    exact List.append_nil _
  have longer : (gone ++ pending.take txCleanBatch).length = gone.length + txCleanBatch := by
    rw [List.length_append, List.length_take, Nat.min_eq_left enough]
  have published : view.published (sentOn queueId trace).length =
      (sentOn queueId trace).length := by
    rw [TxView.published, recycling]
  have room := ring.room
  exact {
    fifo := ring.fifo.release pool
    numDescriptors := ring.numDescriptors
    cells := ring.cells
    length := ring.length
    txIndex := by rw [sent]; exact ring.txIndex
    cleanIndex := by rw [longer]; exact next_eq
    current := by
      intro _ _ same
      cases same
      exact ring.current _ _ recycling
    head := by rw [fetched]; exact ring.head
    tail := by rw [sent]; exact ring.tail.trans (by rw [published]; rfl)
    ordered := by rw [fetched, longer]; exact completed
    reached := by
      rw [sent, fetched]
      exact Nat.le_trans ring.reached (view.published_le _)
    room := by rw [sent, longer]; omega
    fetched := by rw [sent, fetched]; exact ring.fetched
    slots := by
      rw [sent, fetched, longer]
      exact ring.slots.raise (by omega) }

theorem txDone (ring : TxRing size queueId view trace gone pending)
    (bound : 16 * size < 4294967296) {index : Nat} {desc : AdvancedTxDescriptor}
    (takes : TxEnvironment.inOrder.completes view index)
    (cell : view.queue.descriptors.cells[index]? = some desc) :
    TxRing size queueId { view with
        queue := { view.queue with descriptors := view.queue.descriptors.set index desc.complete }
        head := BitVec.ofNat 32 ((index + 1) % (view.length.toNat / 16)) }
      (trace ++ [.fetched queueId desc.packetBufferAddress]) gone pending := by
  obtain ⟨atHead, behind, _⟩ := takes
  have sent : sentOn queueId (trace ++ [.fetched queueId desc.packetBufferAddress]) =
      sentOn queueId trace := by
    rw [sentOn_append]
    exact List.append_nil _
  have released : releasedOn queueId (trace ++ [.fetched queueId desc.packetBufferAddress]) =
      releasedOn queueId trace := by
    rw [releasedOn_append]
    exact List.append_nil _
  have fetched : fetchedOn queueId (trace ++ [.fetched queueId desc.packetBufferAddress]) =
      fetchedOn queueId trace ++ [desc.packetBufferAddress] := by
    rw [fetchedOn_append, fetchedOn_fetched]
  have longer : (fetchedOn queueId trace ++ [desc.packetBufferAddress]).length =
      (fetchedOn queueId trace).length + 1 := by simp
  have room := ring.room
  have ordered := ring.ordered
  have published := view.published_le (sentOn queueId trace).length
  have waiting : (fetchedOn queueId trace).length < view.published
      (sentOn queueId trace).length := by
    refine Nat.lt_of_le_of_ne ring.reached (fun same => behind ?_)
    rw [ring.head, ring.tail, same]
  have positive : 0 < size := by omega
  have small : (fetchedOn queueId trace).length % size < size := Nat.mod_lt _ positive
  have here : index = (fetchedOn queueId trace).length % size := by
    rw [← atHead, ring.head, BitVec.toNat_ofNat, Nat.mod_eq_of_lt (by omega)]
  have entries : view.length.toNat / 16 = size := by
    rw [ring.length, BitVec.toNat_ofNat, Nat.mod_eq_of_lt (by omega)]
    omega
  subst here
  have shown := ring.slots.cell_of ordered (by omega) cell
  exact {
    fifo := ⟨by rw [sent]; exact ring.fifo.sent, by rw [released]; exact ring.fifo.released,
      ring.fifo.bufs, ring.fifo.pools, ring.fifo.untouched⟩
    numDescriptors := ring.numDescriptors
    cells := by simp only [Dma.set, List.length_set, ring.cells]
    length := ring.length
    txIndex := by rw [sent]; exact ring.txIndex
    cleanIndex := ring.cleanIndex
    current := ring.current
    head := by rw [fetched, longer, entries, Ring.succ_mod]
    tail := by rw [sent]; exact ring.tail
    ordered := by rw [fetched, longer]; omega
    reached := by rw [sent, fetched, longer]; exact waiting
    room := by rw [sent]; exact room
    fetched := by
      rw [sent, fetched]
      exact prefix_concat ring.fetched (by rw [List.getElem?_map]; exact shown.1)
    slots := by
      rw [sent, fetched, longer]
      refine ring.slots.set_inside (by omega) ordered (by omega) ⟨shown.1, ?_⟩ ?_
      · rw [AdvancedTxDescriptor.done_complete]
        exact ⟨fun _ => by omega, fun _ => rfl⟩
      · intro other kept _ _ different shows
        exact ⟨shows.1, shows.2.trans (by omega)⟩ }

theorem initial {queue : IgbTxQueue} (numDescriptors : queue.numDescriptors = size)
    (cells : queue.descriptors.cells.length = size) (bufs : queue.bufsInUse = [])
    (txIndex : queue.txIndex = 0) (cleanIndex : queue.cleanIndex = 0) (positive : 0 < size) :
    TxRing size queueId
      { queue, head := 0, tail := 0, length := BitVec.ofNat 32 (16 * size), phase := .quiet }
      [] [] [] where
  fifo := .initial bufs
  numDescriptors := numDescriptors
  cells := cells
  length := rfl
  txIndex := by rw [txIndex]; exact (Nat.zero_mod _).symm
  cleanIndex := by
    change queue.cleanIndex = _
    rw [cleanIndex]
    exact (Nat.zero_mod _).symm
  current := nofun
  head := by simp [fetchedOn]
  tail := by simp [sentOn, TxView.published]
  ordered := Nat.le_refl _
  reached := Nat.le_refl _
  room := by simpa [sentOn] using positive
  fetched := List.nil_prefix
  slots := .empty

/-- Every step of the queue keeps the ring invariant. -/
theorem step (ring : TxRing size queueId view trace gone pending) (power : size.isPowerOfTwo)
    (bound : 16 * size < 4294967296) (step : TxStep profile .inOrder queueId view events view') :
    ∃ gone' pending', TxRing size queueId view' (trace ++ events) gone' pending' := by
  have narrow : size < usizeModulus := by simp only [usizeModulus]; omega
  cases step with
  | other quiet => exact ⟨_, _, ring.silent quiet⟩
  | send quiet keeps room wraps => exact ⟨_, _, ring.send power narrow quiet keeps room wraps⟩
  | ring ringing =>
      rw [List.append_nil]
      exact ⟨_, _, ring.ring ringing⟩
  | recycle quiet =>
      rw [List.append_nil]
      exact ⟨_, _, ring.recycle quiet⟩
  | round recycling sees pool =>
      -- Without a pool nothing was ever sent, so no round finds a batch.
      have nothing : pending = [] := by
        rw [List.eq_nil_iff_forall_not_mem]
        intro packet member
        exact absurd (pool.symm.trans (ring.fifo.pools packet member)) nofun
      have enough := (ring.sees power bound recycling sees).1
      rw [nothing] at enough
      exact absurd enough (by decide)
  | release recycling sees pool => exact ⟨_, _, ring.release power bound recycling sees pool⟩
  | commit recycling =>
      exact ⟨_, _, (ring.commit recycling).silent ⟨rfl, rfl, rfl⟩⟩
  | txDone takes cell => exact ⟨_, _, ring.txDone bound takes cell⟩

end TxRing

end IgbDriver
