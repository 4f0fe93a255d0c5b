import IgbDriver.RxView
import IgbDriver.TxRing

namespace IgbDriver

open Foundation

/-! # The receive ring

Abstractly a receive queue is the list of the frames the device stored, cut in two:
those delivered and those still in the ring. One lap ahead of the delivered frames
every other descriptor is armed with a buffer of the queue.
-/

/-- The frame a delivered packet is: where it lies and how long it is. -/
def Packet.frame (packet : Packet) : Frame := ⟨packet.busAddress, packet.len⟩

/-- A descriptor handed to the device: not done, and pointing at the entry the queue
holds for it. -/
def RxArmed (layout : MemPool) (bufs : List Nat) (index : Nat)
    (desc : AdvancedRxDescriptor) : Prop :=
  desc.done = false ∧ ∃ entry address, bufs[index]? = some entry ∧
    layout.getPhysAddr entry = .ok address ∧ desc.packetBufferAddress = BitVec.ofNat 64 address

/-- A descriptor written back by the device: the frame lies in the entry the queue
holds for it. -/
def RxHolds (layout : MemPool) (bufs : List Nat) (index : Nat) (frame : Frame)
    (desc : AdvancedRxDescriptor) : Prop :=
  desc.done = true ∧ desc.length = frame.length ∧ ∃ entry address, bufs[index]? = some entry ∧
    layout.getPhysAddr entry = .ok address ∧ frame.address = BitVec.ofNat 64 address

/-- The device takes the descriptor at RDH and only while RDH has not reached RDT; it
writes back DD and EOP and at most one buffer's length. -/
def RxEnvironment.inOrder : RxEnvironment := fun view index writeBack =>
  (view.head.toNat = index ∧ view.head ≠ view.tail ∧ 0 < view.length.toNat / 16) ∧
    writeBack.descriptor.done = true ∧ writeBack.descriptor.endOfPacket = true ∧
    writeBack.length ≤ 2048

namespace RxView

/-- Frames taken by the running call and not published yet. -/
def inCall (view : RxView) : Nat :=
  match view.phase with
  | .quiet => 0
  | .receiving _ _ recvNums => recvNums
  | .delivering _ _ recvNums => recvNums + 1
  | .publishing _ _ recvNums => recvNums

/-- The frame in the callback's hands is delivered but its descriptor not re-armed. -/
def unarmed (view : RxView) : Nat :=
  match view.phase with
  | .delivering .. => 1
  | _ => 0

/-- The index the driver goes on from. -/
def Positioned (view : RxView) (size delivered : Nat) : Prop :=
  match view.phase with
  | .quiet => True
  | .receiving rxIndex lastRxIndex recvNums | .publishing rxIndex lastRxIndex recvNums =>
      rxIndex = delivered % size ∧
        lastRxIndex = if recvNums = 0 then rxIndex else (delivered - 1) % size
  | .delivering rxIndex _ _ => rxIndex = (delivered - 1) % size

theorem unarmed_le (view : RxView) : view.unarmed ≤ view.inCall := by
  simp only [unarmed, inCall]
  split <;> split <;> simp_all

end RxView

structure RxRing (size queueId : Nat) (view : RxView) (trace : List Event) : Prop where
  numDescriptors : view.queue.numDescriptors = size
  cells : view.queue.descriptors.cells.length = size
  bufs : view.queue.bufsInUse.length = size
  length : view.length = BitVec.ofNat 32 (16 * size)
  head : view.head = BitVec.ofNat 32 ((storedOn queueId trace).length % size)
  inCall : view.inCall ≤ (deliveredOn queueId trace).length
  rxIndex : view.queue.rxIndex = ((deliveredOn queueId trace).length - view.inCall) % size
  tail : view.tail =
    BitVec.ofNat 32 (((deliveredOn queueId trace).length - view.inCall + size - 1) % size)
  positioned : view.Positioned size (deliveredOn queueId trace).length
  ordered : (deliveredOn queueId trace).length ≤ (storedOn queueId trace).length
  reached : (storedOn queueId trace).length + 1 ≤
    (deliveredOn queueId trace).length - view.inCall + size
  stalled : 4294967296 ≤ 16 * size → (storedOn queueId trace).length = 0
  delivered : (deliveredOn queueId trace).map Packet.frame <+: storedOn queueId trace
  located : ∀ packet ∈ deliveredOn queueId trace, packet.pool = view.queue.pool ∧
    view.layout.getPhysAddr packet.poolEntry = .ok packet.addrPhys
  holding : Ring.Window size (deliveredOn queueId trace).length (storedOn queueId trace).length
    (fun counter desc => ∃ frame, (storedOn queueId trace)[counter]? = some frame ∧
      RxHolds view.layout view.queue.bufsInUse (counter % size) frame desc)
    view.queue.descriptors.cells
  armed : Ring.Window size (storedOn queueId trace).length
    ((deliveredOn queueId trace).length - view.unarmed + size)
    (fun counter desc => RxArmed view.layout view.queue.bufsInUse (counter % size) desc)
    view.queue.descriptors.cells

/-- A ring whose byte size does not fit its 32-bit length register has length zero
for the device. -/
theorem ringBytes_eq_zero {size : Nat} (power : size.isPowerOfTwo)
    (large : 4294967296 ≤ 16 * size) : (BitVec.ofNat 32 (16 * size)).toNat = 0 := by
  obtain ⟨exponent, rfl⟩ := power
  have least : 28 ≤ exponent := by
    by_contra small
    have below : 2 ^ exponent ≤ 2 ^ 27 := Nat.pow_le_pow_right (by decide) (by omega)
    omega
  obtain ⟨extra, rfl⟩ := Nat.exists_eq_add_of_le least
  rw [BitVec.toNat_ofNat, Nat.pow_add, ← Nat.mul_assoc]
  exact Nat.mul_mod_right _ _

theorem WriteBack.length_descriptor (writeBack : WriteBack) (bound : writeBack.length ≤ 2048) :
    writeBack.descriptor.length = writeBack.length :=
  AdvancedRxDescriptor.length_of_lt _ (by
    change writeBack.length < 2 ^ 15
    omega)

namespace RxRing

variable {size queueId : Nat} {profile : Profile} {view view' : RxView} {trace events : List Event}

theorem silent (ring : RxRing size queueId view trace) (quiet : RxSilent queueId events) :
    RxRing size queueId view (trace ++ events) := by
  have delivered : deliveredOn queueId (trace ++ events) = deliveredOn queueId trace := by
    rw [deliveredOn_append, quiet.delivered, List.append_nil]
  have stored : storedOn queueId (trace ++ events) = storedOn queueId trace := by
    rw [storedOn_append, quiet.stored, List.append_nil]
  exact {
    numDescriptors := ring.numDescriptors
    cells := ring.cells
    bufs := ring.bufs
    length := ring.length
    head := by rw [stored]; exact ring.head
    inCall := by rw [delivered]; exact ring.inCall
    rxIndex := by rw [delivered]; exact ring.rxIndex
    tail := by rw [delivered]; exact ring.tail
    positioned := by rw [delivered]; exact ring.positioned
    ordered := by rw [delivered, stored]; exact ring.ordered
    reached := by rw [delivered, stored]; exact ring.reached
    stalled := by rw [stored]; exact ring.stalled
    delivered := by rw [delivered, stored]; exact ring.delivered
    located := by rw [delivered]; exact ring.located
    holding := by rw [delivered, stored]; exact ring.holding
    armed := by rw [delivered, stored]; exact ring.armed }

/-- A descriptor that carries a frame at the next index carries the next frame. -/
theorem pending (ring : RxRing size queueId view trace) (positive : 0 < size)
    (rearmed : view.unarmed = 0) {desc : AdvancedRxDescriptor}
    (cell : view.queue.descriptors.cells[(deliveredOn queueId trace).length % size]? = some desc)
    (done : desc.done = true) :
    (deliveredOn queueId trace).length < (storedOn queueId trace).length := by
  refine Nat.lt_of_le_of_ne ring.ordered (fun same => ?_)
  rw [same] at cell
  have armed := ring.armed.cell_of (Nat.le_refl _) (by omega) cell
  rw [armed.1] at done
  cases done

/-- What the receive loop takes is the oldest frame not delivered, at the next index. -/
theorem next_frame (ring : RxRing size queueId view trace) (positive : 0 < size)
    {rxIndex lastRxIndex recvNums : Nat} {packet : Packet} {desc : AdvancedRxDescriptor}
    (receiving : view.phase = .receiving rxIndex lastRxIndex recvNums)
    (takes : RxStep.Takes view rxIndex packet desc) :
    rxIndex = (deliveredOn queueId trace).length % size ∧
      (deliveredOn queueId trace).length < (storedOn queueId trace).length ∧
      (storedOn queueId trace)[(deliveredOn queueId trace).length]? = some packet.frame := by
  have rearmed : view.unarmed = 0 := by rw [RxView.unarmed, receiving]
  have position := ring.positioned
  rw [RxView.Positioned, receiving] at position
  obtain ⟨here, _⟩ := position
  have cell := takes.cell
  have held := takes.held
  subst here
  have behind := ring.pending positive rearmed cell takes.done
  obtain ⟨frame, kept, _, frameLength, entry, address, bound, located, frameAddress⟩ :=
    ring.holding.cell_of (Nat.le_refl _) behind cell
  rw [bound] at held
  cases held
  have same : address = packet.addrPhys := Except.ok.inj (located.symm.trans takes.located)
  have frame_eq : packet.frame = frame := by
    cases frame
    simp only at frameLength frameAddress
    rw [Packet.frame, Packet.busAddress, takes.length, frameLength, ← same, frameAddress]
  exact ⟨rfl, behind, by rw [frame_eq]; exact kept⟩

/-- A buffer swapped at one counter is none of the others of its lap. -/
theorem swapped_elsewhere {bufs : List Nat} {base counter : Nat} (buf : Nat)
    (later : base < counter)
    (lap : counter < base + size) : (bufs.set (base % size) buf)[counter % size]? =
      bufs[counter % size]? :=
  List.getElem?_set_ne (Ring.mod_ne base (Nat.le_refl _) (by omega) (by omega) lap (by omega))

theorem take (ring : RxRing size queueId view trace) (positive : 0 < size)
    {rxIndex lastRxIndex recvNums buf : Nat} {packet : Packet} {desc : AdvancedRxDescriptor}
    (receiving : view.phase = .receiving rxIndex lastRxIndex recvNums)
    (takes : RxStep.Takes view rxIndex packet desc) :
    RxRing size queueId { view with
      queue := view.queue.afterTake rxIndex buf
      phase := .delivering rxIndex lastRxIndex recvNums }
        (trace ++ [.delivered queueId packet]) := by
  have delivered : deliveredOn queueId (trace ++ [.delivered queueId packet]) =
      deliveredOn queueId trace ++ [packet] := by
    rw [deliveredOn_append, deliveredOn_delivered]
  have stored : storedOn queueId (trace ++ [.delivered queueId packet]) =
      storedOn queueId trace := by
    rw [storedOn_append]
    exact List.append_nil _
  have longer : (deliveredOn queueId trace ++ [packet]).length =
      (deliveredOn queueId trace).length + 1 := by simp
  have inCall : view.inCall = recvNums := by rw [RxView.inCall, receiving]
  have rearmed : view.unarmed = 0 := by rw [RxView.unarmed, receiving]
  have inCall_le := ring.inCall
  have reached := ring.reached
  obtain ⟨rfl, behind, kept⟩ := ring.next_frame positive receiving takes
  exact {
    numDescriptors := ring.numDescriptors
    cells := ring.cells
    bufs := by rw [← ring.bufs]; exact List.length_set
    length := ring.length
    head := by rw [stored]; exact ring.head
    inCall := by
      rw [delivered, longer]
      change recvNums + 1 ≤ _
      omega
    rxIndex := by
      rw [delivered, longer]
      change view.queue.rxIndex = (_ + 1 - (recvNums + 1)) % size
      rw [Nat.add_sub_add_right, ring.rxIndex, inCall]
    tail := by
      rw [delivered, longer]
      change view.tail = BitVec.ofNat 32 ((_ + 1 - (recvNums + 1) + size - 1) % size)
      rw [Nat.add_sub_add_right, ring.tail, inCall]
    positioned := by
      rw [delivered, longer]
      rfl
    ordered := by
      rw [delivered, stored, longer]
      exact behind
    reached := by
      rw [delivered, stored, longer]
      change _ ≤ _ + 1 - (recvNums + 1) + size
      omega
    stalled := by rw [stored]; exact ring.stalled
    delivered := by
      rw [delivered, stored, List.map_append, List.map_cons, List.map_nil]
      exact prefix_concat ring.delivered (by rw [List.length_map]; exact kept)
    located := by
      rw [delivered]
      intro other member
      rcases List.mem_append.mp member with earlier | last
      · exact ring.located other earlier
      · rw [List.mem_singleton.mp last]
        exact ⟨takes.pool, takes.located⟩
    holding := by
      rw [delivered, stored, longer]
      refine (ring.holding.raise (Nat.le_succ _)).mono ?_
      intro counter desc lower upper known
      obtain ⟨frame, kept, done, length, entry, address, bound, place⟩ := known
      exact ⟨frame, kept, done, length, entry, address,
        (swapped_elsewhere buf (by omega) (by omega)).trans bound, place⟩
    armed := by
      rw [delivered, stored, longer]
      change Ring.Window size _ ((deliveredOn queueId trace).length + 1 - 1 + size) _ _
      rw [Nat.add_sub_cancel]
      have armed := ring.armed
      rw [rearmed] at armed
      refine armed.mono ?_
      intro counter desc lower upper known
      obtain ⟨clear, entry, address, bound, place⟩ := known
      exact ⟨clear, entry, address, (swapped_elsewhere buf (by omega) (by omega)).trans bound,
        place⟩ }

theorem rearm (ring : RxRing size queueId view trace) (power : size.isPowerOfTwo)
    (bound : size < usizeModulus) {rxIndex lastRxIndex recvNums buf phys next : Nat}
    {desc : AdvancedRxDescriptor}
    (delivering : view.phase = .delivering rxIndex lastRxIndex recvNums)
    (held : view.queue.bufsInUse[rxIndex]? = some buf)
    (located : view.layout.getPhysAddr buf = .ok phys)
    (wraps : wrapRing profile rxIndex view.queue.numDescriptors = .ok next) :
    RxRing size queueId { view with
      queue := view.queue.afterRearm rxIndex desc phys
      phase := .receiving next rxIndex (recvNums + 1) } trace := by
  have positive := Ring.pos_of_isPowerOfTwo power
  have inCall : view.inCall = recvNums + 1 := by rw [RxView.inCall, delivering]
  have unarmed : view.unarmed = 1 := by rw [RxView.unarmed, delivering]
  have inCall_le := ring.inCall
  have ordered := ring.ordered
  have reached := ring.reached
  have here : rxIndex = ((deliveredOn queueId trace).length - 1) % size := by
    have position := ring.positioned
    rwa [RxView.Positioned, delivering] at position
  have inside : rxIndex < view.queue.numDescriptors := by
    rw [here, ring.numDescriptors]
    exact Nat.mod_lt _ positive
  have next_eq : next = (deliveredOn queueId trace).length % size := by
    rw [wrapRing_ok (by rwa [ring.numDescriptors]) (by rwa [ring.numDescriptors]) inside wraps,
      here, ring.numDescriptors, Ring.succ_mod, Nat.sub_add_cancel (by omega)]
  have lap : ((deliveredOn queueId trace).length - 1 + size) % size = rxIndex := by
    rw [here, Nat.add_mod_right]
  exact {
    numDescriptors := ring.numDescriptors
    cells := by rw [← ring.cells]; exact List.length_set
    bufs := ring.bufs
    length := ring.length
    head := ring.head
    inCall := by
      rw [inCall] at inCall_le
      exact inCall_le
    rxIndex := ring.rxIndex.trans (by rw [inCall]; rfl)
    tail := ring.tail.trans (by rw [inCall]; rfl)
    positioned := ⟨next_eq, here⟩
    ordered := ordered
    reached := by
      rw [inCall] at reached
      exact reached
    stalled := ring.stalled
    delivered := ring.delivered
    located := ring.located
    holding := by
      rw [here]
      exact ring.holding.set_outside ((deliveredOn queueId trace).length - 1) (by omega)
        (by omega) ⟨Nat.le_refl _, by omega⟩ (.inl (by omega)) _
    armed := by
      have armed := ring.armed
      rw [unarmed] at armed
      change Ring.Window size _ ((deliveredOn queueId trace).length - 0 + size) _ _
      have range : (deliveredOn queueId trace).length - 0 + size =
          (deliveredOn queueId trace).length - 1 + size + 1 := by omega
      rw [range]
      have fits : RxArmed view.layout view.queue.bufsInUse
          (((deliveredOn queueId trace).length - 1 + size) % size)
          (desc.setPacketAddress phys).resetStatus :=
        ⟨AdvancedRxDescriptor.done_resetStatus _, buf, phys, by rw [lap]; exact held, located, rfl⟩
      have pushed := armed.push (by omega) ring.cells fits
      rw [lap] at pushed
      exact pushed }

theorem receive (ring : RxRing size queueId view trace) (quiet : view.phase = .quiet) :
    RxRing size queueId
      { view with phase := .receiving view.queue.rxIndex view.queue.rxIndex 0 } trace := by
  have inCall : view.inCall = 0 := by rw [RxView.inCall, quiet]
  have rearmed : view.unarmed = 0 := by rw [RxView.unarmed, quiet]
  have rxIndex := ring.rxIndex
  have tail := ring.tail
  have reached := ring.reached
  have armed := ring.armed
  rw [inCall] at rxIndex tail reached
  rw [rearmed] at armed
  exact { ring with
    inCall := Nat.zero_le _
    rxIndex := rxIndex
    tail := tail
    positioned := ⟨rxIndex, rfl⟩
    reached := reached
    armed := armed }

theorem halt (ring : RxRing size queueId view trace) {rxIndex lastRxIndex recvNums : Nat}
    (receiving : view.phase = .receiving rxIndex lastRxIndex recvNums) :
    RxRing size queueId { view with phase := .publishing rxIndex lastRxIndex recvNums } trace := by
  have inCall : view.inCall = recvNums := by rw [RxView.inCall, receiving]
  have rearmed : view.unarmed = 0 := by rw [RxView.unarmed, receiving]
  have taken := ring.inCall
  have rxIndex := ring.rxIndex
  have tail := ring.tail
  have position := ring.positioned
  have reached := ring.reached
  have armed := ring.armed
  rw [inCall] at taken rxIndex tail reached
  rw [rearmed] at armed
  rw [RxView.Positioned, receiving] at position
  exact { ring with
    inCall := taken
    rxIndex := rxIndex
    tail := tail
    positioned := position
    reached := reached
    armed := armed }

theorem publish (ring : RxRing size queueId view trace) {rxIndex lastRxIndex recvNums : Nat}
    (publishing : view.phase = .publishing rxIndex lastRxIndex recvNums)
    (moved : rxIndex ≠ lastRxIndex) :
    RxRing size queueId { view with
      queue := { view.queue with rxIndex }
      tail := BitVec.ofNat 32 lastRxIndex
      phase := .quiet } trace := by
  have inCall : view.inCall = recvNums := by rw [RxView.inCall, publishing]
  have rearmed : view.unarmed = 0 := by rw [RxView.unarmed, publishing]
  have taken := ring.inCall
  have position := ring.positioned
  have reached := ring.reached
  have armed := ring.armed
  rw [rearmed] at armed
  rw [RxView.Positioned, publishing] at position
  obtain ⟨here, last⟩ := position
  have progress : recvNums ≠ 0 := by
    intro same
    subst same
    exact moved last.symm
  rw [if_neg progress] at last
  exact {
    numDescriptors := ring.numDescriptors
    cells := ring.cells
    bufs := ring.bufs
    length := ring.length
    head := ring.head
    inCall := Nat.zero_le _
    rxIndex := here
    tail := by
      change BitVec.ofNat 32 lastRxIndex =
        BitVec.ofNat 32 (((deliveredOn queueId trace).length - 0 + size - 1) % size)
      rw [last, show (deliveredOn queueId trace).length - 0 + size - 1 =
        (deliveredOn queueId trace).length - 1 + size by omega, Nat.add_mod_right]
    positioned := trivial
    ordered := ring.ordered
    reached := by
      change _ ≤ (deliveredOn queueId trace).length - 0 + size
      omega
    stalled := ring.stalled
    delivered := ring.delivered
    located := ring.located
    holding := ring.holding
    armed := armed }

theorem finish (ring : RxRing size queueId view trace) (least : 2 ≤ size) {rxIndex recvNums : Nat}
    (publishing : view.phase = .publishing rxIndex rxIndex recvNums) :
    RxRing size queueId { view with phase := .quiet } trace := by
  have inCall : view.inCall = recvNums := by rw [RxView.inCall, publishing]
  have rearmed : view.unarmed = 0 := by rw [RxView.unarmed, publishing]
  have taken := ring.inCall
  have position := ring.positioned
  rw [RxView.Positioned, publishing] at position
  obtain ⟨here, last⟩ := position
  have idle : recvNums = 0 := by
    by_contra progress
    rw [if_neg progress, here] at last
    exact Ring.mod_ne ((deliveredOn queueId trace).length - 1) (by omega) (by omega) (Nat.le_refl _)
      (by omega) (by omega) last
  have rxIndex := ring.rxIndex
  have tail := ring.tail
  have reached := ring.reached
  have armed := ring.armed
  rw [inCall, idle] at rxIndex tail reached
  rw [rearmed] at armed
  exact { ring with
    inCall := Nat.zero_le _
    rxIndex := rxIndex
    tail := tail
    positioned := trivial
    reached := reached
    armed := armed }

/-- The device only ever finds armed descriptors at its head. -/
theorem owned (ring : RxRing size queueId view trace) (power : size.isPowerOfTwo) {index : Nat}
    {writeBack : WriteBack} (stores : RxEnvironment.inOrder view index writeBack) :
    16 * size < 4294967296 ∧ index = (storedOn queueId trace).length % size ∧
      (storedOn queueId trace).length + 2 ≤
        (deliveredOn queueId trace).length - view.inCall + size := by
  obtain ⟨⟨atHead, behind, entries⟩, _⟩ := stores
  have positive := Ring.pos_of_isPowerOfTwo power
  have bound : 16 * size < 4294967296 := by
    by_contra large
    rw [ring.length, ringBytes_eq_zero power (by omega)] at entries
    omega
  have small : (storedOn queueId trace).length % size < size := Nat.mod_lt _ positive
  refine ⟨bound, ?_, ?_⟩
  · rw [← atHead, ring.head, BitVec.toNat_ofNat, Nat.mod_eq_of_lt (by omega)]
  · have reached := ring.reached
    by_contra full
    have same : (storedOn queueId trace).length =
        (deliveredOn queueId trace).length - view.inCall + size - 1 := by omega
    exact behind (by rw [ring.head, ring.tail, ← same])

theorem rxStore (ring : RxRing size queueId view trace) (power : size.isPowerOfTwo) {index : Nat}
    {writeBack : WriteBack} {desc : AdvancedRxDescriptor}
    (stores : RxEnvironment.inOrder view index writeBack)
    (cell : view.queue.descriptors.cells[index]? = some desc) :
    RxRing size queueId { view with
        queue := { view.queue with
          descriptors := view.queue.descriptors.set index writeBack.descriptor }
        head := BitVec.ofNat 32 ((index + 1) % (view.length.toNat / 16)) }
      (trace ++ [.stored queueId ⟨desc.packetBufferAddress, writeBack.length⟩]) := by
  obtain ⟨bound, here, space⟩ := ring.owned power stores
  obtain ⟨_, done, _, short⟩ := stores
  have delivered : deliveredOn queueId (trace ++ [.stored queueId ⟨desc.packetBufferAddress,
      writeBack.length⟩]) = deliveredOn queueId trace := by
    rw [deliveredOn_append]
    exact List.append_nil _
  have stored : storedOn queueId (trace ++ [.stored queueId ⟨desc.packetBufferAddress,
      writeBack.length⟩]) =
        storedOn queueId trace ++ [⟨desc.packetBufferAddress, writeBack.length⟩] := by
    rw [storedOn_append, storedOn_stored]
  have longer :
    (storedOn queueId trace ++ [Frame.mk desc.packetBufferAddress writeBack.length]).length =
      (storedOn queueId trace).length + 1 := by simp
  have entries : view.length.toNat / 16 = size := by
    rw [ring.length, BitVec.toNat_ofNat, Nat.mod_eq_of_lt (by omega)]
    omega
  have ordered := ring.ordered
  have taken := ring.inCall
  have few := view.unarmed_le
  subst here
  obtain ⟨_, entry, address, held, located, points⟩ :=
    ring.armed.cell_of (Nat.le_refl _) (by omega) cell
  exact {
    numDescriptors := ring.numDescriptors
    cells := by rw [← ring.cells]; exact List.length_set
    bufs := ring.bufs
    length := ring.length
    head := by rw [stored, longer, entries, Ring.succ_mod]
    inCall := by rw [delivered]; exact ring.inCall
    rxIndex := by rw [delivered]; exact ring.rxIndex
    tail := by rw [delivered]; exact ring.tail
    positioned := by rw [delivered]; exact ring.positioned
    ordered := by rw [delivered, stored, longer]; omega
    reached := by rw [delivered, stored, longer]; exact space
    stalled := fun large => by omega
    delivered := by
      rw [delivered, stored]
      exact ring.delivered.trans (List.prefix_append _ _)
    located := by rw [delivered]; exact ring.located
    holding := by
      rw [delivered, stored, longer]
      refine Ring.Window.push ?_ (by omega) ring.cells ?_
      · refine ring.holding.mono ?_
        intro counter kept lower upper known
        obtain ⟨frame, known, holds⟩ := known
        exact ⟨frame, by rw [List.getElem?_append_left upper]; exact known, holds⟩
      · have holds : RxHolds view.layout view.queue.bufsInUse
          ((storedOn queueId trace).length % size)
            ⟨desc.packetBufferAddress, writeBack.length⟩ writeBack.descriptor :=
          ⟨done, writeBack.length_descriptor short, entry, address, held, located, points⟩
        exact ⟨_, by rw [List.getElem?_append_right (Nat.le_refl _), Nat.sub_self]; rfl, holds⟩
    armed := by
      rw [delivered, stored, longer]
      exact (ring.armed.raise (Nat.le_succ _)).set_outside (storedOn queueId trace).length
        (Nat.le_succ _) (by omega) ⟨Nat.le_refl _, by omega⟩ (.inl (Nat.lt_succ_self _)) _ }

/-- Every step of the queue keeps the ring invariant. -/
theorem step (ring : RxRing size queueId view trace) (power : size.isPowerOfTwo)
    (bound : size < usizeModulus) (least : 2 ≤ size)
    (step : RxStep profile .inOrder queueId view events view') :
    RxRing size queueId view' (trace ++ events) := by
  have positive := Ring.pos_of_isPowerOfTwo power
  cases step with
  | other quiet => exact ring.silent quiet
  | receive quiet =>
      rw [List.append_nil]
      exact ring.receive quiet
  | take receiving takes => exact ring.take positive receiving takes
  | halt receiving =>
      rw [List.append_nil]
      exact ring.halt receiving
  | rearm delivering held located wraps =>
      rw [List.append_nil]
      exact ring.rearm power bound delivering held located wraps
  | publish publishing moved => exact (ring.publish publishing moved).silent ⟨rfl, rfl⟩
  | finish publishing => exact (ring.finish least publishing).silent ⟨rfl, rfl⟩
  | rxStore stores cell => exact ring.rxStore power stores cell

theorem initial {queue : IgbRxQueue} {layout : MemPool}
    (numDescriptors : queue.numDescriptors = size)
    (cells : queue.descriptors.cells.length = size) (bufs : queue.bufsInUse.length = size)
    (rxIndex : queue.rxIndex = 0) (positive : 0 < size)
    (armed : ∀ index, index < size → ∃ desc, queue.descriptors.cells[index]? = some desc ∧
      RxArmed layout queue.bufsInUse index desc) :
    RxRing size queueId
      { queue, layout, head := 0, tail := BitVec.ofNat 32 (size - 1),
        length := BitVec.ofNat 32 (16 * size), phase := .quiet } [] where
  numDescriptors := numDescriptors
  cells := cells
  bufs := bufs
  length := rfl
  head := by simp [storedOn]
  inCall := Nat.zero_le _
  rxIndex := by
    change queue.rxIndex = _
    rw [rxIndex]
    exact (Nat.zero_mod _).symm
  tail := by
    change BitVec.ofNat 32 (size - 1) = BitVec.ofNat 32 ((0 - 0 + size - 1) % size)
    rw [Nat.mod_eq_of_lt (by omega)]
    congr 1
    omega
  positioned := trivial
  ordered := Nat.le_refl _
  reached := by
    change 0 + 1 ≤ 0 - 0 + size
    omega
  stalled := fun _ => rfl
  delivered := List.nil_prefix
  located := nofun
  holding := .empty
  armed := by
    intro counter _ upper
    have inside : counter < size := by
      change counter < 0 - 0 + size at upper
      omega
    obtain ⟨desc, cell, ready⟩ := armed counter inside
    refine ⟨desc, by rw [Nat.mod_eq_of_lt inside]; exact cell, ?_⟩
    change RxArmed layout queue.bufsInUse (counter % size) desc
    rwa [Nat.mod_eq_of_lt inside]

end RxRing

end IgbDriver
