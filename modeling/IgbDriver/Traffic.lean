import IgbDriver.Payload

namespace IgbDriver

open Foundation

/-! # The driver as a network card

Seen through its packets' bytes, the driver on its rings and pools is the card of the
specification: its buffers are the live packets, its lines the packets and the frames
still in the rings.
-/

variable {σ : Type} {host : Host σ} {translate : Nat → Nat} {qs numRx numTx queueId : Nat}
  {pool ref : PoolRef} {before arcs : Arcs} {system after : System} {trace events : List Event}
  {action : Action} {packet : Packet} {memory memory' : Memory Byte} {nic : Nic Byte}

/-- The bytes of a packet that reach the wire. -/
def Packet.onWire (memory : Memory Byte) (packet : Packet) : List Byte :=
  Memory.load id memory packet.addrPhys (packet.len % 65536)

section Housed

variable {profile : Profile}

theorem Packet.Housed.asBytes_eq (housed : packet.Housed profile arcs)
    (laid : arcs.Laid profile translate) :
    packet.asBytes translate memory = Memory.load id memory packet.addrPhys packet.len :=
  (housed.places laid).load

theorem Packet.Housed.onWire_eq (housed : packet.Housed profile arcs)
    (laid : arcs.Laid profile translate) :
    packet.onWire memory = truncated (packet.asBytes translate memory) := by
  rw [housed.asBytes_eq laid, truncated, Memory.length_load, Memory.take_load (Nat.mod_le _ _)]
  rfl

end Housed

/-- The memory changed in the slot of one entry only. -/
def ChangesIn (pool : MemPool) (entry : Nat) (memory memory' : Memory Byte) : Prop :=
  ∀ byte, ¬ pool.InSlot entry byte → memory' byte = memory byte

section Changes

variable {profile : Profile} {entry entry' start count : Nat} {ref' : PoolRef}

theorem Arcs.Laid.load_kept (laid : arcs.Laid profile translate)
    (changes : ChangesIn (arcs.pool ref) entry memory memory')
    (apart : (ref', entry') ≠ (ref, entry))
    (inside : ∀ byte, start ≤ byte → byte < start + count → (arcs.pool ref').InSlot entry' byte) :
    Memory.load id memory' start count = Memory.load id memory start count := by
  refine Memory.load_eq_of_agree (fun byte lower upper => changes byte (fun other => ?_))
  obtain ⟨rfl, rfl⟩ := laid.apart ref' ref entry' entry byte (inside byte lower upper) other
  exact apart rfl

theorem Packet.Housed.asBytes_kept (housed : packet.Housed profile arcs)
    (laid : arcs.Laid profile translate) (changes : ChangesIn (arcs.pool ref) entry memory memory')
    (apart : packet.home ≠ (ref, entry)) :
    packet.asBytes translate memory' = packet.asBytes translate memory := by
  rw [housed.asBytes_eq laid, housed.asBytes_eq laid]
  exact laid.load_kept changes apart (fun byte lower upper => housed.inSlot lower upper)

theorem Packet.Housed.onWire_kept (housed : packet.Housed profile arcs)
    (laid : arcs.Laid profile translate) (changes : ChangesIn (arcs.pool ref) entry memory memory')
    (apart : packet.home ≠ (ref, entry)) : packet.onWire memory' = packet.onWire memory := by
  rw [housed.onWire_eq laid, housed.onWire_eq laid, housed.asBytes_kept laid changes apart]

/-- A store into a packet stays in its slot. -/
theorem Packet.Housed.store_changes (housed : packet.Housed profile arcs)
    (laid : arcs.Laid profile translate) {offset : Nat} {bytes : List Byte}
    (fits : offset + bytes.length ≤ packet.len) :
    ChangesIn (arcs.pool packet.pool) packet.poolEntry memory
      (Memory.store translate memory (packet.addrVirt + offset) bytes) := by
  have places :=
    ((housed.places laid).drop offset).fewer (show bytes.length ≤ packet.len - offset by omega)
  intro byte outside
  refine Memory.store_outside places ?_
  by_contra covered
  exact outside (housed.inSlot (by omega) (by omega))

end Changes

/-- The accepted packets the device has still to fetch. -/
def unfetched (queueId : Nat) (trace : List Event) : List Packet :=
  (sentOn queueId trace).drop (fetchedOn queueId trace).length

/-- The stored frames still to be delivered. -/
def undelivered (queueId : Nat) (trace : List Event) : List Frame :=
  (storedOn queueId trace).drop (deliveredOn queueId trace).length

namespace Custody

variable (custody : Custody host translate qs numRx numTx pool trace system)
include custody

/-- A packet the device has still to fetch holds an entry of its queue. -/
theorem unfetched_held (inside : queueId < numTx) (member : packet ∈ unfetched queueId trace) :
    ∃ queue, system.txQueue? queueId = some queue ∧ queue.pool = some packet.pool ∧
      packet.poolEntry ∈ queue.bufsInUse := by
  obtain ⟨view, gone, pending, known, _⟩ := custody.transmit queueId inside
  obtain ⟨queue, found, rfl⟩ := Option.map_eq_some_iff.mp known.seen
  have ring := known.ring
  have waiting : packet ∈ pending := by
    rw [unfetched, ring.fifo.sent, List.drop_append, List.drop_eq_nil_of_le ring.ordered] at member
    exact List.mem_of_mem_drop member
  refine ⟨queue, found, ring.fifo.pools packet waiting, ?_⟩
  rw [show queue.bufsInUse = pending.map Packet.poolEntry from ring.fifo.bufs]
  exact List.mem_map_of_mem waiting

/-- The descriptor of a packet that was not released makes the device read its bytes. -/
theorem fetches (memory : Memory Byte) (inside : queueId < numTx) {queue : IgbTxQueue}
    (found : system.txQueue? queueId = some queue) {counter : Nat}
    (kept : (releasedOn queueId trace).length ≤ counter)
    (sent : (sentOn queueId trace)[counter]? = some packet) :
    ∃ desc, queue.descriptors.cells[counter % qs]? = some desc ∧ desc.fetch memory =
      packet.onWire memory := by
  obtain ⟨view, gone, pending, known, sized⟩ := custody.transmit queueId inside
  have ring := known.ring
  have own := known.seen
  rw [System.txView_eq found] at own
  cases own
  have upper := (List.getElem?_eq_some_iff.mp sent).1
  have released := ring.released_length
  obtain ⟨desc, cell, shown, _⟩ := ring.slots counter (by omega) upper
  have length := Ring.Window.cell_of sized kept upper cell
  rw [sent] at shown length
  have housed := custody.sent queueId packet (List.mem_of_getElem? sent)
  refine ⟨desc, cell, ?_⟩
  rw [AdvancedTxDescriptor.fetch, ← Option.some.inj shown, ← Option.some.inj length,
    housed.busAddress custody.laid, BitVec.toNat_ofNat]
  rfl

/-- A frame still to be delivered lies in the entry its queue holds at its turn. -/
theorem undelivered_held (inside : queueId < numRx) {k : Nat} {frame : Frame}
    (here : (undelivered queueId trace)[k]? = some frame) :
    ∃ queue entry, system.rxQueue? queueId = some queue ∧
      queue.bufsInUse[((deliveredOn queueId trace).length + k) % qs]? = some entry ∧
      ∀ byte, frame.address.toNat ≤ byte → byte < frame.address.toNat + frame.length →
        (system.machine.arcs.pool pool).InSlot entry byte := by
  obtain ⟨view, seen, ring⟩ := custody.receive queueId inside
  obtain ⟨queue, found, rfl⟩ := Option.map_eq_some_iff.mp seen
  rw [undelivered, List.getElem?_drop] at here
  have upper := (List.getElem?_eq_some_iff.mp here).1
  obtain ⟨desc, _, other, known, _, _, entry, address, held, located, points⟩ :=
    ring.holding ((deliveredOn queueId trace).length + k) (Nat.le_add_right _ _) upper
  cases here.symm.trans known
  have own := custody.uses.receive_of found
  have short := custody.stored queueId frame (List.mem_of_getElem? here)
  have wide := custody.wide
  refine ⟨queue, entry, found, held, fun byte lower upper => ?_⟩
  change (system.machine.arcs.layout queue.pool).getPhysAddr entry = .ok address at located
  rw [own] at located
  have placed : (system.machine.arcs.pool pool).getPhysAddr entry = .ok address := located
  exact covers_inSlot placed points (by omega) ⟨lower, upper⟩

/-- Two live packets have different homes. -/
theorem live_apart {i j : Nat} {first second : Packet} (here : system.live[i]? = some first)
    (there : system.live[j]? = some second) (apart : i ≠ j) : first.home ≠ second.home := by
  intro same
  simp only [Packet.home, Prod.mk.injEq] at same
  exact (custody.accounted second.pool).live_distinct here there apart same.1 rfl same.2

/-- A live packet's slot is no packet's that is on its way. -/
theorem live_not_unfetched {other : Packet} (owned : packet ∈ system.live)
    (inside : queueId < numTx)
    (member : other ∈ unfetched queueId trace) : other.home ≠ packet.home := by
  intro same
  simp only [Packet.home, Prod.mk.injEq] at same
  obtain ⟨queue, found, own, held⟩ := custody.unfetched_held inside member
  rw [same.1] at own
  rw [same.2] at held
  exact (custody.accounted packet.pool).live_not_tx owned (List.mem_of_getElem? found) own held

/-- Nor the slot of an entry in a receive ring. -/
theorem live_not_received (owned : packet ∈ system.live) {queue : IgbRxQueue} {slot entry : Nat}
    (found : system.rxQueue? queueId = some queue) (held : queue.bufsInUse[slot]? = some entry) :
    (pool, entry) ≠ packet.home := by
  intro same
  exact (custody.accounted pool).owners_le.not_outsideRx custody.uses found held
    (.inr (.inl ⟨packet, owned, same.symm⟩))

theorem received_not_unfetched {queueId' : Nat} (inside : queueId' < numTx) {queue : IgbRxQueue}
    {slot entry : Nat} (found : system.rxQueue? queueId = some queue)
    (held : queue.bufsInUse[slot]? = some entry)
    (member : packet ∈ unfetched queueId' trace) : packet.home ≠ (pool, entry) := by
  intro same
  obtain ⟨other, found', own, waiting⟩ := custody.unfetched_held inside member
  simp only [Packet.home, Prod.mk.injEq] at same
  rw [same.2] at waiting
  exact (custody.accounted pool).owners_le.not_outsideRx custody.uses found held
    (.inr (.inr ⟨other, List.mem_of_getElem? found', waiting⟩))

/-- A frame still to be delivered is not touched by a store elsewhere. -/
theorem undelivered_kept (inside : queueId < numRx) {k entry : Nat} {frame : Frame}
    (here : (undelivered queueId trace)[k]? = some frame)
    (changes : ChangesIn (system.machine.arcs.pool ref) entry memory memory')
    (apart : ∀ queue held, system.rxQueue? queueId = some queue →
      queue.bufsInUse[((deliveredOn queueId trace).length + k) % qs]? = some held →
        (pool, held) ≠ (ref, entry)) :
    frame.bytes memory' = frame.bytes memory := by
  obtain ⟨queue, held, found, holds, inSlot⟩ := custody.undelivered_held inside here
  exact custody.laid.load_kept changes (apart queue held found holds) inSlot

theorem unfetched_kept {entry : Nat} (member : packet ∈ unfetched queueId trace)
    (changes : ChangesIn (system.machine.arcs.pool ref) entry memory memory')
    (apart : packet.home ≠ (ref, entry)) : packet.onWire memory' = packet.onWire memory :=
  (custody.sent queueId packet (List.mem_of_mem_drop member)).onWire_kept custody.laid changes apart

end Custody

/-- The lines of the card are what is still in the rings. -/
structure Lines (numRx numTx : Nat) (trace : List Event) (memory : Memory Byte)
    (nic : Nic Byte) : Prop where
  outgoing : ∀ queueId, queueId < numTx →
    nic.outgoing queueId = (unfetched queueId trace).map (Packet.onWire memory)
  incoming : ∀ queueId, queueId < numRx →
    nic.incoming queueId = (undelivered queueId trace).map (Frame.bytes memory)
  outgoing_none : ∀ queueId, numTx ≤ queueId → nic.outgoing queueId = []
  incoming_none : ∀ queueId, numRx ≤ queueId → nic.incoming queueId = []

/-- Events that move nothing in any line. -/
structure Still (events : List Event) : Prop where
  sent : ∀ queueId, sentOn queueId events = []
  fetched : ∀ queueId, fetchedOn queueId events = []
  stored : ∀ queueId, storedOn queueId events = []
  delivered : ∀ queueId, deliveredOn queueId events = []

theorem Still.nil : Still [] := ⟨fun _ => rfl, fun _ => rfl, fun _ => rfl, fun _ => rfl⟩

theorem Still.of_reports (reports : ∀ event ∈ events, event.isReport = true) : Still events where
  sent := fun _ => (TxSilent.of_reports reports).sent
  fetched := fun _ => (TxSilent.of_reports reports).fetched
  stored := fun _ => (RxSilent.of_reports reports).stored
  delivered := fun _ => (RxSilent.of_reports reports).delivered

theorem unfetched_append (sent : sentOn queueId events = [])
    (fetched : fetchedOn queueId events = []) :
    unfetched queueId (trace ++ events) = unfetched queueId trace := by
  rw [unfetched, sentOn_append, fetchedOn_append, sent, fetched, List.append_nil,
    List.append_nil, unfetched]

theorem undelivered_append (stored : storedOn queueId events = [])
    (delivered : deliveredOn queueId events = []) :
    undelivered queueId (trace ++ events) = undelivered queueId trace := by
  rw [undelivered, storedOn_append, deliveredOn_append, stored, delivered, List.append_nil,
    List.append_nil, undelivered]

theorem Lines.still (lines : Lines numRx numTx trace memory nic) (still : Still events) :
    Lines numRx numTx (trace ++ events) memory nic where
  outgoing := fun queueId inside => by
    rw [unfetched_append (still.sent queueId) (still.fetched queueId)]
    exact lines.outgoing queueId inside
  incoming := fun queueId inside => by
    rw [undelivered_append (still.stored queueId) (still.delivered queueId)]
    exact lines.incoming queueId inside
  outgoing_none := lines.outgoing_none
  incoming_none := lines.incoming_none

/-- A store into a live packet touches no line. -/
theorem Lines.change (lines : Lines numRx numTx trace memory nic)
    (custody : Custody host translate qs numRx numTx pool trace system)
    (owned : packet ∈ system.live)
    (changes : ChangesIn (system.machine.arcs.pool packet.pool) packet.poolEntry memory memory') :
    Lines numRx numTx trace memory' nic where
  outgoing := fun queueId inside => by
    rw [lines.outgoing queueId inside]
    refine List.map_congr_left (fun other member => ?_)
    exact (custody.unfetched_kept member changes
      (custody.live_not_unfetched owned inside member)).symm
  incoming := fun queueId inside => by
    rw [lines.incoming queueId inside]
    refine List.map_congr_left (fun frame member => ?_)
    obtain ⟨k, here⟩ := List.getElem?_of_mem member
    exact (custody.undelivered_kept inside here changes
      (fun _ _ found held => custody.live_not_received owned found held)).symm
  outgoing_none := lines.outgoing_none
  incoming_none := lines.incoming_none

/-- The card that the driver's state amounts to. -/
structure Carries (translate : Nat → Nat) (numRx numTx : Nat) (trace : List Event)
    (state : LoadedSystem) (nic : Nic Byte) : Prop where
  buffers : nic.buffers = state.system.live.map (Packet.asBytes translate state.memory)
  lines : Lines numRx numTx trace state.memory nic

section Match

variable {state : LoadedSystem} {frame : List Byte} {position : Nat}

theorem Carries.buffer (carries : Carries translate numRx numTx trace state nic)
    (owned : state.system.live[position]? = some packet) :
    nic.buffers[position]? = some (packet.asBytes translate state.memory) := by
  rw [carries.buffers, List.getElem?_map, owned]
  rfl

theorem Carries.silent (carries : Carries translate numRx numTx trace state nic)
    (still : Still events) : Carries translate numRx numTx (trace ++ events) state nic :=
  ⟨carries.buffers, carries.lines.still still⟩

/-- Nothing moves: the same packets, the same memory, no line touched. -/
theorem Carries.still (carries : Carries translate numRx numTx trace state nic)
    (live : after.live = state.system.live)
    (still : Still events) : Carries translate numRx numTx (trace ++ events)
      ⟨after, state.memory⟩ nic :=
  ⟨by rw [live]; exact carries.buffers, carries.lines.still still⟩

/-- The caller writes a byte of one of its packets. -/
theorem Carries.write (carries : Carries translate numRx numTx trace state nic)
    (custody : Custody host translate qs numRx numTx pool trace state.system)
    (owned : state.system.live[position]? = some packet) {offset : Nat}
    (inside : offset < packet.len) (byte : Byte) :
    Carries translate numRx numTx trace
      ⟨state.system, Memory.store translate state.memory (packet.addrVirt + offset) [byte]⟩
      { nic with buffers :=
        nic.buffers.set position ((packet.asBytes translate state.memory).set offset byte) } := by
  have housed := custody.live packet (List.mem_of_getElem? owned)
  have changes : ChangesIn (state.system.machine.arcs.pool packet.pool)
    packet.poolEntry state.memory
      (Memory.store translate state.memory (packet.addrVirt + offset) [byte]) :=
    housed.store_changes custody.laid (show offset + 1 ≤ packet.len by omega)
  have lines := carries.lines.change custody (List.mem_of_getElem? owned) changes
  refine ⟨List.ext_getElem? fun i => ?_, lines.outgoing, lines.incoming, lines.outgoing_none,
    lines.incoming_none⟩
  have length : position < nic.buffers.length := by
    rw [carries.buffers, List.length_map]
    exact (List.getElem?_eq_some_iff.mp owned).1
  by_cases same : position = i
  · subst same
    rw [List.getElem?_set_self length, List.getElem?_map, owned, Option.map_some,
      housed.asBytes_eq custody.laid, housed.asBytes_eq custody.laid,
      Memory.load_store_byte (housed.places custody.laid offset inside) rfl inside]
  · rw [List.getElem?_set_ne same, carries.buffers, List.getElem?_map, List.getElem?_map]
    cases there : state.system.live[i]? with
    | none => rfl
    | some other =>
        have apart := custody.live_apart there owned (Ne.symm same)
        have kept :=
          (custody.live other (List.mem_of_getElem? there)).asBytes_kept custody.laid changes apart
        exact congrArg some kept.symm

end Match

end IgbDriver
