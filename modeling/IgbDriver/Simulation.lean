import IgbDriver.Traffic

namespace IgbDriver

open Foundation

/-! # Each step is a move of the card

By cases on the action: what the caller does with its packets, what `send` makes of
one, what the device does, and the pieces of the driver's own calls, of which only the
delivery of a frame is seen from outside.
-/

variable {σ : Type} {host : Host σ} {profile : Profile} {translate : Nat → Nat}
  {qs numRx numTx queueId : Nat} {pool : PoolRef} {state : LoadedSystem} {after : System}
  {trace events : List Event} {packet : Packet} {position : Nat} {nic : Nic Byte}
  {frame : List Byte}

theorem Lines.withBuffers {memory : Memory Byte} (lines : Lines numRx numTx trace memory nic)
    (buffers : List (List Byte)) : Lines numRx numTx trace memory { nic with buffers } :=
  ⟨lines.outgoing, lines.incoming, lines.outgoing_none, lines.incoming_none⟩

/-- One transmit line changes, the others stay. -/
theorem Lines.setOutgoing {memory : Memory Byte} {line : List (List Byte)}
    (lines : Lines numRx numTx trace memory nic) (inside : queueId < numTx)
    (mine : line = (unfetched queueId (trace ++ events)).map (Packet.onWire memory))
    (apart : ∀ other, other ≠ queueId → sentOn other events = [] ∧ fetchedOn other events = [])
    (quiet : ∀ other, storedOn other events = [] ∧ deliveredOn other events = []) :
    Lines numRx numTx (trace ++ events) memory
      { nic with outgoing := Function.update nic.outgoing queueId line } where
  outgoing := by
    intro other inside'
    by_cases same : other = queueId
    · subst same
      simp [mine]
    · simp [same, unfetched_append (apart other same).1 (apart other same).2,
        lines.outgoing other inside']
  incoming := by
    intro other inside'
    simp [undelivered_append (quiet other).1 (quiet other).2, lines.incoming other inside']
  outgoing_none := by
    intro other outside
    simp [show other ≠ queueId by omega, lines.outgoing_none other outside]
  incoming_none := lines.incoming_none

/-- One receive line changes, the others stay. -/
theorem Lines.setIncoming {memory : Memory Byte} {line : List (List Byte)}
    (lines : Lines numRx numTx trace memory nic) (inside : queueId < numRx)
    (mine : line = (undelivered queueId (trace ++ events)).map (Frame.bytes memory))
    (apart : ∀ other, other ≠ queueId → storedOn other events = [] ∧ deliveredOn other events = [])
    (quiet : ∀ other, sentOn other events = [] ∧ fetchedOn other events = []) :
    Lines numRx numTx (trace ++ events) memory
      { nic with incoming := Function.update nic.incoming queueId line } where
  outgoing := by
    intro other inside'
    simp [unfetched_append (quiet other).1 (quiet other).2, lines.outgoing other inside']
  incoming := by
    intro other inside'
    by_cases same : other = queueId
    · subst same
      simp [mine]
    · simp [same, undelivered_append (apart other same).1 (apart other same).2,
        lines.incoming other inside']
  outgoing_none := lines.outgoing_none
  incoming_none := by
    intro other outside
    simp [show other ≠ queueId by omega, lines.incoming_none other outside]

namespace Carries

variable (carries : Carries translate numRx numTx trace state nic)
include carries

/-- A packet more, its bytes as they lie in memory. -/
theorem allocate (live : after.live = state.system.live ++ [packet]) :
    Carries translate numRx numTx trace ⟨after, state.memory⟩
      { nic with buffers := nic.buffers ++ [packet.asBytes translate state.memory] } where
  buffers := by simp [live, carries.buffers]
  lines := carries.lines.withBuffers _

theorem remove (live : after.live = state.system.live.eraseIdx position) :
    Carries translate numRx numTx trace ⟨after, state.memory⟩
      { nic with buffers := nic.buffers.eraseIdx position } where
  buffers := by simp [live, carries.buffers, List.eraseIdx_map]
  lines := carries.lines.withBuffers _

/-- The copy gets the bytes of the packet, and no other packet loses its own. -/
theorem clone {copy : Packet} (custody : Custody host translate qs numRx numTx pool trace after)
    (live : after.live = state.system.live ++ [copy]) (length : copy.len = packet.len) :
    Carries translate numRx numTx trace
      ⟨after, copy.cloneFromSlice translate state.memory (packet.asBytes translate state.memory)⟩
      { nic with buffers := nic.buffers ++ [packet.asBytes translate state.memory] } := by
  have last : after.live[state.system.live.length]? = some copy := by simp [live]
  have member : copy ∈ after.live := List.mem_of_getElem? last
  have housed := custody.live copy member
  have bytes : (packet.asBytes translate state.memory).length = copy.len := by
    rw [Packet.asBytes, Memory.length_load, length]
  have changes : ChangesIn (after.machine.arcs.pool copy.pool) copy.poolEntry state.memory
      (copy.cloneFromSlice translate state.memory (packet.asBytes translate state.memory)) :=
    housed.store_changes custody.laid (show 0 + _ ≤ _ by omega)
  refine ⟨?_, (carries.lines.change custody member changes).withBuffers _⟩
  have others : ∀ other ∈ state.system.live, other.asBytes translate state.memory =
      other.asBytes translate
        (copy.cloneFromSlice translate state.memory (packet.asBytes translate state.memory)) := by
    intro other member
    obtain ⟨i, here⟩ := List.getElem?_of_mem member
    have inside := (List.getElem?_eq_some_iff.mp here).1
    have there : after.live[i]? = some other := by rw [live, List.getElem?_append_left inside, here]
    have apart := custody.live_apart there last (by omega)
    exact ((custody.live other (List.mem_of_getElem? there)).asBytes_kept custody.laid
      changes apart).symm
  have own : copy.asBytes translate
      (copy.cloneFromSlice translate state.memory (packet.asBytes translate state.memory)) =
        packet.asBytes translate state.memory := by
    rw [housed.asBytes_eq custody.laid, ← bytes]
    exact Memory.load_store ((housed.places custody.laid).fewer (by omega))
  simp only [live, List.map_append, List.map_cons, List.map_nil, own, carries.buffers]
  rw [List.map_congr_left others]

/-- An accepted packet joins the line of its queue. -/
theorem accept (custody : Custody host translate qs numRx numTx pool trace state.system)
    (inside : queueId < numTx) (owned : state.system.live[position]? = some packet)
    (live : after.live = state.system.live.eraseIdx position) :
    Carries translate numRx numTx (trace ++ [.sent queueId packet]) ⟨after, state.memory⟩
      { nic with
        buffers := nic.buffers.eraseIdx position
        outgoing := Function.update nic.outgoing queueId
          (nic.outgoing queueId ++ [truncated (packet.asBytes translate state.memory)]) } := by
  obtain ⟨view, gone, pending, known, _⟩ := custody.transmit queueId inside
  have fetched := known.ring.fetched_le
  have longer : unfetched queueId (trace ++ [.sent queueId packet]) =
      unfetched queueId trace ++ [packet] := by
    rw [unfetched, sentOn_append, sentOn_sent, fetchedOn_append,
      show fetchedOn queueId [.sent queueId packet] = [] from rfl, List.append_nil,
      List.drop_append_of_le_length fetched, unfetched]
  have housed := custody.live packet (List.mem_of_getElem? owned)
  have grown : nic.outgoing queueId ++ [truncated (packet.asBytes translate state.memory)] =
      (unfetched queueId (trace ++ [.sent queueId packet])).map (Packet.onWire state.memory) := by
    rw [longer, List.map_append, List.map_singleton, housed.onWire_eq custody.laid,
      carries.lines.outgoing queueId inside]
  refine ⟨by simp [live, carries.buffers, List.eraseIdx_map], ?_⟩
  exact (carries.lines.setOutgoing inside grown
    (fun _ other => ⟨sentOn_sent_ne (Ne.symm other) _, rfl⟩)
    (fun _ => ⟨rfl, rfl⟩)).withBuffers _

/-- The frame at the head of the line goes out. -/
theorem transmit {address : BitVec 64} (inside : queueId < numTx)
    (live : after.live = state.system.live)
    (head : (sentOn queueId trace)[(fetchedOn queueId trace).length]? = some packet) :
    ∃ rest, nic.outgoing queueId = packet.onWire state.memory :: rest ∧
      Carries translate numRx numTx (trace ++ [.fetched queueId address]) ⟨after, state.memory⟩
        { nic with outgoing := Function.update nic.outgoing queueId rest } := by
  have shorter : unfetched queueId trace = packet :: unfetched queueId
      (trace ++ [.fetched queueId address]) := by
    obtain ⟨short, here⟩ := List.getElem?_eq_some_iff.mp head
    rw [unfetched, unfetched, sentOn_append, fetchedOn_append, fetchedOn_fetched,
      show sentOn queueId [.fetched queueId address] = [] from rfl, List.append_nil,
      List.length_append, List.length_singleton, List.drop_eq_getElem_cons short, here]
  refine ⟨(unfetched queueId (trace ++ [.fetched queueId address])).map
    (Packet.onWire state.memory), ?_, by rw [live]; exact carries.buffers, ?_⟩
  · rw [carries.lines.outgoing queueId inside, shorter, List.map_cons]
  · exact carries.lines.setOutgoing inside rfl
      (fun _ other => ⟨rfl, fetchedOn_fetched_ne (Ne.symm other) _⟩)
      (fun _ => ⟨rfl, rfl⟩)

omit carries in
/-- A stored frame joins those not delivered. -/
theorem undelivered_stored {stored : Frame}
    (ordered : (IgbDriver.deliveredOn queueId trace).length ≤ (storedOn queueId trace).length) :
    undelivered queueId (trace ++ [.stored queueId stored]) =
      undelivered queueId trace ++ [stored] := by
  have delivered : IgbDriver.deliveredOn queueId (trace ++ [.stored queueId stored]) =
      IgbDriver.deliveredOn queueId trace := by
    rw [deliveredOn_append]
    exact List.append_nil _
  rw [undelivered, delivered, storedOn_append, storedOn_stored,
    List.drop_append_of_le_length ordered, undelivered]

/-- The buffer a frame is stored into belongs to no frame on another line or earlier on
its own. -/
theorem arrive_spares {stored : Frame} {queue : IgbRxQueue} {entry : Nat} {memory' : Memory Byte}
    (custody : Custody host translate qs numRx numTx pool trace state.system)
    (custody' : Custody host translate qs numRx numTx pool
      (trace ++ [.stored queueId stored]) after) (inside : queueId < numRx)
    (found : after.rxQueue? queueId = some queue)
    (held : queue.bufsInUse[((IgbDriver.deliveredOn queueId
      (trace ++ [.stored queueId stored])).length +
      (undelivered queueId trace).length) % qs]? = some entry)
    (changes : ChangesIn (after.machine.arcs.pool pool) entry state.memory memory') :
    Lines numRx numTx trace memory' nic := by
  obtain ⟨view, seen, ring⟩ := custody.receive queueId inside
  obtain ⟨view', seen', ring'⟩ := custody'.receive queueId inside
  have ordered := ring.ordered
  have reached := ring'.reached
  have delivered : IgbDriver.deliveredOn queueId (trace ++ [.stored queueId stored]) =
      IgbDriver.deliveredOn queueId trace := by
    rw [deliveredOn_append]
    exact List.append_nil _
  have count : (undelivered queueId trace).length =
      (storedOn queueId trace).length - (IgbDriver.deliveredOn queueId trace).length := by
    simp [undelivered]
  refine ⟨fun other inside' => ?_, fun other inside' => ?_, carries.lines.outgoing_none,
    carries.lines.incoming_none⟩
  · rw [carries.lines.outgoing other inside']
    refine List.map_congr_left (fun packet member => ?_)
    have waiting : packet ∈ unfetched other (trace ++ [.stored queueId stored]) := by
      rwa [unfetched_append rfl rfl]
    exact (custody'.unfetched_kept waiting changes
      (custody'.received_not_unfetched inside' found held waiting)).symm
  · rw [carries.lines.incoming other inside']
    refine List.map_congr_left (fun waiting member => ?_)
    obtain ⟨k, here⟩ := List.getElem?_of_mem member
    have short := (List.getElem?_eq_some_iff.mp here).1
    have here' : (undelivered other (trace ++ [.stored queueId stored]))[k]? = some waiting := by
      by_cases same : other = queueId
      · subst same
        rw [undelivered_stored ordered, List.getElem?_append_left short, here]
      · rw [undelivered_append (storedOn_stored_ne (Ne.symm same) _) rfl, here]
    refine (custody'.undelivered_kept inside' here' changes ?_).symm
    -- Two frames in the rings lie in different slots.
    intro queue' entry' found' held' same
    cases same
    obtain ⟨rfl, slots⟩ :=
      custody'.uses.rx_injective (custody'.accounted pool) found' found held' held
    rw [delivered] at slots
    rw [delivered, storedOn_append, storedOn_stored, List.length_append,
      List.length_singleton] at reached
    exact Ring.mod_ne (IgbDriver.deliveredOn other trace).length (by omega) (by omega)
      (by omega) (by omega) (by omega) slots

/-- A frame the device stores joins the line; nothing else lies where it does. -/
theorem arrive {stored : Frame}
    (custody : Custody host translate qs numRx numTx pool trace state.system)
    (custody' : Custody host translate qs numRx numTx pool
      (trace ++ [.stored queueId stored]) after) (inside : queueId < numRx)
    (live : after.live = state.system.live)
    (length : frame.length = stored.length) :
    Carries translate numRx numTx (trace ++ [.stored queueId stored])
      ⟨after, Memory.store id state.memory stored.address.toNat frame⟩
      { nic with incoming := Function.update nic.incoming queueId (nic.incoming queueId ++ [frame])
        } := by
  obtain ⟨view, seen, ring⟩ := custody.receive queueId inside
  have longer : undelivered queueId (trace ++ [.stored queueId stored]) =
      undelivered queueId trace ++ [stored] :=
    undelivered_stored ring.ordered
  have there :
    (undelivered queueId (trace ++ [.stored queueId stored]))[(undelivered queueId trace).length]? =
      some stored := by simp [longer]
  obtain ⟨queue, entry, found, held, covers⟩ := custody'.undelivered_held inside there
  have places := Memory.Places.identity stored.address.toNat frame.length
  have changes : ChangesIn (after.machine.arcs.pool pool) entry state.memory
      (Memory.store id state.memory stored.address.toNat frame) := by
    intro byte outside
    refine Memory.store_outside places ?_
    by_contra covered
    exact outside (covers byte (by omega) (by omega))
  have kept := carries.arrive_spares custody custody' inside found held changes
  have grown : nic.incoming queueId ++ [frame] =
    (undelivered queueId (trace ++ [.stored queueId stored])).map
      (Frame.bytes (Memory.store id state.memory stored.address.toNat frame)) := by
    have own : stored.bytes (Memory.store id state.memory stored.address.toNat frame) = frame := by
      rw [Frame.bytes, ← length]
      exact Memory.load_store places
    rw [longer, List.map_append, List.map_singleton, own, kept.incoming queueId inside]
  refine ⟨?_, kept.setIncoming inside grown
    (fun _ other => ⟨storedOn_stored_ne (Ne.symm other) _, rfl⟩)
    (fun _ => ⟨rfl, rfl⟩)⟩
  rw [live]
  refine carries.buffers.trans (List.map_congr_left (fun packet owned => ?_))
  rw [← live] at owned
  exact ((custody'.live packet owned).asBytes_kept custody'.laid changes
    (Ne.symm (custody'.live_not_received owned found held))).symm

/-- The frame at the head of the line is handed over. -/
theorem deliver (custody : Custody host translate qs numRx numTx pool
      (trace ++ [.delivered queueId packet]) after) (inside : queueId < numRx)
    (live : after.live = state.system.live ++ [packet]) :
    ∃ rest, nic.incoming queueId = packet.asBytes translate state.memory :: rest ∧
      Carries translate numRx numTx (trace ++ [.delivered queueId packet]) ⟨after, state.memory⟩
        { nic with
          buffers := nic.buffers ++ [packet.asBytes translate state.memory]
          incoming := Function.update nic.incoming queueId rest } := by
  obtain ⟨view, seen, ring⟩ := custody.receive queueId inside
  have housed := custody.live packet (by rw [live]; simp)
  have delivered : IgbDriver.deliveredOn queueId (trace ++ [.delivered queueId packet]) =
      IgbDriver.deliveredOn queueId trace ++ [packet] := by
    rw [deliveredOn_append, deliveredOn_delivered]
  have stored : storedOn queueId (trace ++ [.delivered queueId packet]) =
      storedOn queueId trace := by
    rw [storedOn_append]
    exact List.append_nil _
  have head : (storedOn queueId trace)[(IgbDriver.deliveredOn queueId trace).length]? =
      some packet.frame := by
    have ahead := ring.delivered
    rw [delivered, stored, List.map_append, List.map_singleton] at ahead
    obtain ⟨rest, same⟩ := ahead
    rw [← same, List.append_assoc, List.getElem?_append_right (by simp),
      List.length_map, Nat.sub_self]
    rfl
  have shorter : undelivered queueId trace =
      packet.frame :: undelivered queueId (trace ++ [.delivered queueId packet]) := by
    obtain ⟨short, here⟩ := List.getElem?_eq_some_iff.mp head
    rw [undelivered, undelivered, stored, delivered, List.length_append, List.length_singleton,
      List.drop_eq_getElem_cons short, here]
  have bytes : packet.frame.bytes state.memory = packet.asBytes translate state.memory := by
    rw [housed.asBytes_eq custody.laid, Frame.bytes, Packet.frame, housed.busAddress custody.laid]
  refine ⟨(undelivered queueId (trace ++ [.delivered queueId packet])).map
    (Frame.bytes state.memory), ?_, by simp [live, carries.buffers], ?_⟩
  · rw [carries.lines.incoming queueId inside, shorter, List.map_cons, bytes]
  · exact (carries.lines.setIncoming inside rfl
      (fun _ other => ⟨rfl, deliveredOn_delivered_ne (Ne.symm other) _⟩)
      (fun _ => ⟨rfl, rfl⟩)).withBuffers _

end Carries

end IgbDriver
