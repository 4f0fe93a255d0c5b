import IgbDriver.Allocation

namespace IgbDriver

open Foundation

/-! # Where packets begin

A packet begins at a fixed distance from its entry: the headroom for the packets the
caller makes, nothing for those a receive callback is handed.
-/

variable {profile : Profile} {ref : PoolRef} {arcs after : Arcs} {packet : Packet} {headroom : Nat}

/-- The packet begins `headroom` bytes into its entry, for the caller and on the bus. -/
structure Packet.StartsAt (profile : Profile) (headroom : Nat) (arcs : Arcs)
    (packet : Packet) : Prop where
  virt : ∃ base, (arcs.pool packet.pool).getVirtAddr profile packet.poolEntry = .ok base ∧
    packet.addrVirt = base + headroom
  phys : ∃ base, (arcs.pool packet.pool).getPhysAddr packet.poolEntry = .ok base ∧
    (usizeAdd profile base headroom : Except (Abort Panic) Nat) = .ok packet.addrPhys

theorem MemPool.getVirtAddr_layout (pool : MemPool) (id : Nat) :
    pool.layout.getVirtAddr profile id = pool.getVirtAddr profile id := rfl

theorem Packet.StartsAt.of_layout (starts : packet.StartsAt profile headroom arcs)
    (same : after.layout packet.pool = arcs.layout packet.pool) :
    packet.StartsAt profile headroom after := by
  obtain ⟨⟨virt, locatedVirt, addrVirt⟩, ⟨phys, locatedPhys, addrPhys⟩⟩ := starts
  simp only [Arcs.layout] at same
  rw [← MemPool.getVirtAddr_layout, ← same] at locatedVirt
  rw [← MemPool.getPhysAddr_layout, ← same] at locatedPhys
  exact ⟨⟨virt, locatedVirt, addrVirt⟩, ⟨phys, locatedPhys, addrPhys⟩⟩

/-- A packet begins at one distance only. -/
theorem Packet.StartsAt.unique {other : Nat} (starts : packet.StartsAt profile headroom arcs)
    (starts' : packet.StartsAt profile other arcs) : headroom = other := by
  obtain ⟨base, located, same⟩ := starts.virt
  obtain ⟨base', located', same'⟩ := starts'.virt
  cases located.symm.trans located'
  omega

theorem allocPkt_starts {size : Nat}
    (allocated : allocPkt profile ref size arcs = .ok (some packet, after)) :
    packet.StartsAt profile packetHeadroom arcs := by
  obtain ⟨limit, _, allocated⟩ := except_bind_ok allocated
  split at allocated
  · cases allocated
  · split at allocated
    · cases allocated
    · rename_i id pool popped
      obtain ⟨rest, stack, rfl⟩ := MemPool.allocBuf_some popped
      obtain ⟨virt, locatedVirt, allocated⟩ := except_bind_ok allocated
      obtain ⟨phys, locatedPhys, allocated⟩ := except_bind_ok allocated
      obtain ⟨addrPhys, added, allocated⟩ := except_bind_ok allocated
      cases allocated
      exact ⟨⟨virt, locatedVirt, rfl⟩, ⟨phys, locatedPhys, added⟩⟩

theorem IgbNetBuf.alloc_starts {size : Nat} {buf : IgbNetBuf}
    (allocated : IgbNetBuf.alloc profile ref size arcs = .ok (.ok buf, after)) :
    buf.packet.StartsAt profile packetHeadroom arcs :=
  allocPkt_starts (IgbNetBuf.alloc_allocPkt allocated)

theorem Packet.clone_starts {copy : Packet}
    (cloned : packet.clone profile arcs = .ok (copy, after)) :
    copy.StartsAt profile packetHeadroom arcs :=
  allocPkt_starts (Packet.clone_allocPkt cloned)

theorem IgbNetBuf.construct_starts {poolEntry len : Nat} {buf : IgbNetBuf}
    (constructed : IgbNetBuf.construct profile poolEntry ref len arcs = .ok (.ok buf, after)) :
    buf.packet.StartsAt profile packetHeadroom arcs := by
  obtain ⟨virt, locatedVirt, constructed⟩ := except_bind_ok constructed
  obtain ⟨phys, locatedPhys, constructed⟩ := except_bind_ok constructed
  obtain ⟨addrPhys, added, constructed⟩ := except_bind_ok constructed
  cases constructed
  exact ⟨⟨virt, locatedVirt, rfl⟩, ⟨phys, locatedPhys, added⟩⟩

/-- A received packet has no headroom. -/
theorem takeFrame_starts {σ : Type} {host : Host σ} {queueId rxIndex : Nat}
    {machine final : Machine σ} {buf : IgbNetBuf}
    (ran : takeFrame host queueId rxIndex machine = .ok (.ok (some buf), final)) :
    buf.packet.StartsAt host.profile 0 machine.arcs := by
  rw [takeFrame, Prog.bind_read_apply] at ran
  obtain ⟨queue, _, ran⟩ := Prog.bind_lift_ok ran
  obtain ⟨desc, _, ran⟩ := Prog.bind_lift_ok ran
  cases done : desc.done with
  | false =>
      rw [done, if_pos (by rfl)] at ran
      cases ran
  | true =>
      rw [done, if_neg (by decide)] at ran
      cases ends : desc.endOfPacket with
      | false => rw [ends, if_pos (by rfl)] at ran; cases ran
      | true =>
          rw [ends, if_neg (by decide)] at ran
          obtain ⟨entry, pool, popped⟩ : ∃ entry pool,
              (machine.arcs.pool queue.pool).allocBuf = (entry, pool) := ⟨_, _, rfl⟩
          rw [popped] at ran
          cases entry with
          | none => cases ran
          | some entry =>
              obtain ⟨rest, stack, rfl⟩ := MemPool.allocBuf_some popped
              obtain ⟨idx, _, ran⟩ := Prog.bind_lift_ok ran
              obtain ⟨virt, locatedVirt, ran⟩ := Prog.bind_lift_ok ran
              obtain ⟨phys, locatedPhys, ran⟩ := Prog.bind_lift_ok ran
              cases ran
              obtain ⟨word, _, rfl⟩ := MemPool.getPhysAddr_ok locatedPhys
              exact ⟨⟨virt, locatedVirt, rfl⟩, ⟨word.toNat, locatedPhys, usizeAdd_of_lt word.isLt⟩⟩

section Steps

variable {policy : Policy} {system final : System} {action : Action} {events trace : List Event}
  {queueId : Nat}

theorem poolStep_starts {action : PoolAction}
    (stepped : poolStep profile system action = some (.ok final)) (owned : packet ∈ final.live) :
    packet ∈ system.live ∨ packet.StartsAt profile packetHeadroom system.machine.arcs := by
  cases action with
  | alloc ref size =>
      simp only [poolStep] at stepped
      split at stepped
      · cases stepped
      · obtain ⟨⟨result, arcs⟩, allocated, returned⟩ := except_bind_ok (Option.some.inj stepped)
        cases result with
        | error failure => cases returned; exact .inl owned
        | ok buf =>
            cases returned
            rcases List.mem_append.mp owned with old | new
            · exact .inl old
            · cases List.mem_singleton.mp new
              exact .inr (IgbNetBuf.alloc_starts allocated)
  | construct poolEntry ref len =>
      simp only [poolStep] at stepped
      split at stepped
      · cases stepped
      · obtain ⟨⟨result, arcs⟩, constructed, returned⟩ := except_bind_ok (Option.some.inj stepped)
        cases result with
        | error failure => cases returned; exact .inl owned
        | ok buf =>
            cases returned
            rcases List.mem_append.mp owned with old | new
            · exact .inl old
            · cases List.mem_singleton.mp new
              exact .inr (IgbNetBuf.construct_starts constructed)
  | clone position =>
      simp only [poolStep] at stepped
      split at stepped
      · cases stepped
      · obtain ⟨⟨copy, arcs⟩, cloned, returned⟩ := except_bind_ok (Option.some.inj stepped)
        cases returned
        rcases List.mem_append.mp owned with old | new
        · exact .inl old
        · cases List.mem_singleton.mp new
          exact .inr (Packet.clone_starts cloned)
  | drop position =>
      simp only [poolStep] at stepped
      split at stepped
      · cases stepped
      · obtain ⟨arcs, dropped, returned⟩ := except_bind_ok (Option.some.inj stepped)
        cases returned
        exact .inl (List.mem_of_mem_eraseIdx owned)
  | cloneHandle ref | dropHandle ref =>
      simp only [poolStep] at stepped
      split at stepped
      · cases stepped
      · cases stepped
        exact .inl owned

theorem takeFrameStep_starts {target todo rxIndex lastRxIndex recvNums : Nat}
    (stepped : takeFrameStep profile system target todo rxIndex lastRxIndex recvNums =
      .ok (events, final))
    (delivered : .delivered queueId packet ∈ events) :
    packet.StartsAt profile 0 system.machine.arcs := by
  cases todo with
  | zero => cases stepped; cases delivered
  | succ todo =>
      obtain ⟨⟨result, middle⟩, performed, returned⟩ := except_bind_ok stepped
      obtain ⟨machine, ran, _⟩ := perform_ok performed
      cases result with
      | error failure => cases returned; cases delivered
      | ok taken =>
          cases taken with
          | none => cases returned; cases delivered
          | some buf =>
              cases returned
              cases List.mem_singleton.mp delivered
              exact takeFrame_starts ran

/-- Only the receive loop delivers packets, each in the buffer of a finished descriptor. -/
theorem Step.delivered (step : Step profile system action events final)
    (delivered : .delivered queueId packet ∈ events) : action = .resume ∧
      ∃ todo rxIndex lastRxIndex recvNums queue desc buf rest,
        system.control = .receiving queueId todo rxIndex lastRxIndex recvNums ∧
        system.rxQueue? queueId = some queue ∧
        TakesFrame system.machine.arcs queue rxIndex packet desc buf rest := by
  cases step with
  | report _ reports => cases reports _ delivered
  | take control found takes =>
      cases List.mem_singleton.mp delivered
      exact ⟨rfl, _, _, _, _, _, _, _, _, control, found, takes⟩
  | allocate | construct | drop | cloneHandle | dropHandle | ring | recycle | round | receive | halt
  | rearm =>
      cases delivered
  | reject | send | release | commit | publish | finish | rxStore | txDone =>
      cases List.mem_singleton.mp delivered

theorem next_delivers (stepped : next profile system action = some (.ok (events, final)))
    (delivered : .delivered queueId packet ∈ events) :
    packet.StartsAt profile 0 system.machine.arcs := by
  obtain ⟨rfl, todo, rxIndex, lastRxIndex, recvNums, _, _, _, _, control, _, _⟩ :=
    (next_step stepped).delivered delivered
  rw [next, control] at stepped
  exact takeFrameStep_starts (Option.some.inj stepped) delivered

/-- The caller gets packets from the pools and from callbacks. -/
theorem Step.live_origin (step : Step profile system action events final)
    (owned : packet ∈ final.live) :
    packet ∈ system.live ∨ (∃ pooled, action = .pool pooled) ∨ ∃ queueId,
      .delivered queueId packet ∈ events := by
  cases step with
  | allocate | construct | drop | cloneHandle | dropHandle => exact .inr (.inl ⟨_, rfl⟩)
  | reject | send => exact .inl (List.mem_of_mem_eraseIdx owned)
  | take =>
      rcases List.mem_append.mp owned with old | new
      · exact .inl old
      · cases List.mem_singleton.mp new
        exact .inr (.inr ⟨_, List.mem_singleton_self _⟩)
  | report | ring | recycle | round | release | commit | receive | halt | rearm | publish | finish
  | rxStore | txDone => exact .inl owned

theorem next_live (stepped : next profile system action = some (.ok (events, final)))
    (owned : packet ∈ final.live) : packet ∈ system.live ∨
      packet.StartsAt profile packetHeadroom system.machine.arcs ∨
        ∃ queueId, .delivered queueId packet ∈ events := by
  rcases (next_step stepped).live_origin owned with old | ⟨pooled, rfl⟩ | delivered
  · exact .inl old
  · simp only [next] at stepped
    split at stepped
    · obtain ⟨result, ran, same⟩ := Option.map_eq_some_iff.mp stepped
      cases result with
      | error reason => cases same
      | ok state =>
          cases same
          exact (poolStep_starts ran owned).imp_right .inl
    · cases stepped
  · exact .inr (.inr delivered)

/-- Every packet of the caller begins at the headroom, unless a callback was handed it. -/
theorem live_starts (run : Run (next profile) policy system trace final)
    (initially : ∀ packet ∈ system.live,
      packet.StartsAt profile packetHeadroom system.machine.arcs) :
    ∀ packet ∈ final.live, packet.StartsAt profile packetHeadroom final.machine.arcs ∨
      (packet.StartsAt profile 0 final.machine.arcs ∧ ∃ queueId,
        .delivered queueId packet ∈ trace) := by
  refine run.invariant (fun trace state => ∀ packet ∈ state.live,
    packet.StartsAt profile packetHeadroom state.machine.arcs ∨
      (packet.StartsAt profile 0 state.machine.arcs ∧ ∃ queueId, .delivered queueId packet ∈ trace))
    (fun packet owned => .inl (initially packet owned)) ?_
  intro trace state action events after starts _ stepped packet owned
  have layout := (next_step stepped).layout packet.pool
  rcases next_live stepped owned with old | made | ⟨queueId, delivered⟩
  · rcases starts packet old with begins | ⟨begins, queueId, before⟩
    · exact .inl (begins.of_layout layout)
    · exact .inr ⟨begins.of_layout layout, queueId, List.mem_append_left _ before⟩
  · exact .inl (made.of_layout layout)
  · exact .inr ⟨(next_delivers stepped delivered).of_layout layout, queueId,
      List.mem_append_right _ delivered⟩

/-- A packet handed to a callback begins where its entry does. -/
theorem delivered_starts (run : Run (next profile) policy system trace final)
    (delivered : .delivered queueId packet ∈ trace) :
    packet.StartsAt profile 0 final.machine.arcs := by
  refine run.invariant (fun trace state => .delivered queueId packet ∈ trace →
    packet.StartsAt profile 0 state.machine.arcs) nofun ?_ delivered
  intro trace state action events after starts _ stepped member
  have layout := (next_step stepped).layout packet.pool
  rcases List.mem_append.mp member with old | new
  · exact (starts old).of_layout layout
  · exact (next_delivers stepped new).of_layout layout

end Steps

/-- `construct` on the entry and the length of the packet returns the packet again. -/
def Packet.Rebuilds (profile : Profile) (arcs : Arcs) (packet : Packet) : Prop :=
  ∃ after, IgbNetBuf.construct profile packet.poolEntry packet.pool packet.len arcs =
    .ok (.ok { packet }, after)

theorem Packet.rebuilds_iff : packet.Rebuilds profile arcs ↔
    packet.StartsAt profile packetHeadroom arcs := by
  constructor
  · intro rebuilt
    obtain ⟨after, constructed⟩ := rebuilt
    exact IgbNetBuf.construct_starts constructed
  · intro starts
    obtain ⟨⟨virt, locatedVirt, addrVirt⟩, ⟨phys, locatedPhys, addrPhys⟩⟩ := starts
    refine ⟨arcs.clone packet.pool, ?_⟩
    rw [IgbNetBuf.construct, locatedVirt, except_ok_bind, locatedPhys, except_ok_bind, addrPhys,
      except_ok_bind, ← addrVirt]

section Rebuild

variable {policy : Policy} {system final : System} {trace : List Event}

/-- A buffer of the caller is rebuilt from its parts if and only if no receive callback
handed it out. -/
theorem packets_rebuild_iff
    (initially : ∀ packet ∈ system.live, packet.StartsAt profile packetHeadroom
      system.machine.arcs) (run : Run (next profile) policy system trace final) :
    ∀ packet ∈ final.live, packet.Rebuilds profile final.machine.arcs ↔
      ∀ queueId, .delivered queueId packet ∉ trace := by
  intro packet owned
  rw [Packet.rebuilds_iff]
  constructor
  · intro starts queueId delivered
    cases starts.unique (delivered_starts run delivered)
  · intro never
    rcases live_starts run initially packet owned with starts | ⟨_, queueId, delivered⟩
    · exact starts
    · exact absurd delivered (never queueId)

def Event.delivers (packet : Packet) : Event → Bool
  | .delivered _ other => other == packet
  | _ => false

/-- A packet made by `alloc` while a frame is in a callback. -/
theorem packets_rebuild_iff_alloc : ∃ (trace : List Event) (final : System) (packet : Packet),
    packet ∈ final.live ∧ (∃ other, .delivered 0 other ∈ trace) ∧
      packet.Rebuilds .dev final.machine.arcs := by
  obtain ⟨system, trace, final, _, _, live, run, accepted⟩ :=
    exists_replayAllocated .dev RxInOrder 2 1 1
    (fun _ => 8) (fun _ => 2048) [.rxStore 0 0 (frameWriteBack 60), .receive 0 1,
      .resume, .pool (.alloc 0 60)]
    (fun trace final => !(deliveredOn 0 trace).isEmpty && final.live.any fun packet =>
      trace.all fun event => !event.delivers packet)
    (by decide +kernel)
  rw [Bool.and_eq_true, List.any_eq_true] at accepted
  obtain ⟨some_delivered, packet, owned, never⟩ := accepted
  rw [List.all_eq_true] at never
  refine ⟨trace, final, packet, owned, ?_,
    (packets_rebuild_iff (by rw [live]; nofun) run packet owned).mpr
    fun queueId delivered => ?_⟩
  · cases taken : deliveredOn 0 trace with
    | nil => rw [taken] at some_delivered; cases some_delivered
    | cons other rest =>
        exact ⟨other, mem_deliveredOn.mp (by rw [taken]; exact List.mem_cons_self)⟩
  · have apart := never _ delivered
    simp only [Event.delivers, BEq.rfl, Bool.not_true, Bool.false_eq_true] at apart

/-- A received packet, taken apart and rebuilt, begins 32 bytes later. -/
theorem received_packet_shifted : ∃ (system final : System) (trace : List Event) (packet : Packet)
    (other : IgbNetBuf) (arcs : Arcs),
    Booted (platform .dev) 2 1 1 0 (allocatedArcs .dev (fun _ => 8) (fun _ => 2048)) system ∧
    system.live = [] ∧
    Run (next .dev) RxInOrder system trace final ∧ packet ∈ final.live ∧
    .delivered 0 packet ∈ trace ∧
    IgbNetBuf.construct .dev packet.poolEntry packet.pool packet.len final.machine.arcs =
      .ok (.ok other, arcs) ∧
    other.packet.addrVirt = packet.addrVirt + 32 ∧ ¬ packet.Rebuilds .dev final.machine.arcs := by
  obtain ⟨system, trace, final, booted, _, live, run, accepted⟩ :=
    exists_replayAllocated .dev RxInOrder 2 1 1
    (fun _ => 8) (fun _ => 2048) [.rxStore 0 0 (frameWriteBack 60), .receive 0 1, .resume]
    (fun trace final => final.live.any fun packet => decide (packet ∈ deliveredOn 0 trace) &&
      Prog.returnsWith (fun other => other.packet.addrVirt == packet.addrVirt + 32)
        (IgbNetBuf.construct .dev packet.poolEntry packet.pool packet.len final.machine.arcs))
    (by decide +kernel)
  obtain ⟨packet, owned, checked⟩ := List.any_eq_true.mp accepted
  rw [Bool.and_eq_true, decide_eq_true_eq] at checked
  obtain ⟨other, arcs, constructed, shifted⟩ := Prog.exists_of_returnsWith checked.2
  rw [beq_iff_eq] at shifted
  refine ⟨system, final, trace, packet, other, arcs, booted, live, run, owned,
    mem_deliveredOn.mp checked.1, constructed, shifted, ?_⟩
  intro rebuilds
  obtain ⟨_, rebuilt⟩ := rebuilds
  cases constructed.symm.trans rebuilt
  simp only at shifted
  omega

end Rebuild

end IgbDriver
