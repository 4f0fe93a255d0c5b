import IgbDriver.Stores

namespace IgbDriver

open Foundation

/-! # One buffer, one place

With every entry accounted for, two places that hold the same entry are the same place.
-/

/-- Members of a family of lists without repetition are told apart by their elements. -/
theorem flatMap_injective {α β : Type} {values : List α} {entries : α → List β} {first second : α}
    {i j s t : Nat} {entry : β} (nodup : (values.flatMap entries).Nodup)
    (here : values[i]? = some first) (there : values[j]? = some second)
    (held : (entries first)[s]? = some entry) (held' : (entries second)[t]? = some entry) :
    i = j ∧ s = t := by
  obtain ⟨each, apart⟩ := List.nodup_flatMap.mp nodup
  have disjoint : ∀ {k l : Nat} {a b : α}, k < l → values[k]? = some a → values[l]? = some b →
      entry ∈ entries a → entry ∉ entries b := by
    intro k l a b before here there present present'
    obtain ⟨inside, rfl⟩ := List.getElem?_eq_some_iff.mp here
    obtain ⟨inside', rfl⟩ := List.getElem?_eq_some_iff.mp there
    exact List.pairwise_iff_getElem.mp apart k l inside inside' before present present'
  have present := List.mem_of_getElem? held
  have present' := List.mem_of_getElem? held'
  rcases Nat.lt_trichotomy i j with before | same | after
  · exact absurd present' (disjoint before here there present)
  · subst same
    cases here.symm.trans there
    refine ⟨rfl, ?_⟩
    have inside := (List.getElem?_eq_some_iff.mp held).1
    exact (List.getElem?_inj inside (each first (List.mem_of_getElem? here))).mp
      (held.trans held'.symm)
  · exact absurd present (disjoint after there here present')

namespace System

variable {system : System} {pool : PoolRef} {packet : Packet}

/-- A live packet's entry waits in no transmit queue. -/
theorem Accounted.live_not_tx (accounted : system.Accounted packet.pool)
    (owned : packet ∈ system.live) {queue : IgbTxQueue}
    (queued : queue ∈ system.machine.dev.txQueues)
    (own : queue.pool = some packet.pool) : packet.poolEntry ∉ queue.bufsInUse := by
  intro waiting
  have one := accounted.owners_le packet.poolEntry
  have mine := System.Accounted.live_count owned
  have share : 0 < txShare packet.pool packet.poolEntry queue := by
    rw [txShare, if_pos own]
    exact List.count_pos_iff.mpr waiting
  have theirs : txShare packet.pool packet.poolEntry queue ≤
      (system.machine.dev.txQueues.map (txShare packet.pool packet.poolEntry)).sum :=
    List.le_sum_of_mem (List.mem_map_of_mem queued)
  rw [Packet.home] at mine
  unfold System.owners at one
  omega

/-- No entry is twice among the entries held. -/
theorem OnPool.heldEntries_nodup (uses : system.OnPool pool) (accounted : system.Accounted pool) :
    (system.heldEntries pool).Nodup := by
  refine List.nodup_iff_count_le_one.mpr (fun id => ?_)
  rw [uses.count_heldEntries]
  exact accounted.owners_le id

/-- Two slots of the receive rings hold different entries. -/
theorem OnPool.rx_injective (uses : system.OnPool pool) (accounted : system.Accounted pool)
    {queueId queueId' slot slot' entry : Nat} {queue queue' : IgbRxQueue}
    (found : system.rxQueue? queueId = some queue) (found' : system.rxQueue? queueId' = some queue')
    (held : queue.bufsInUse[slot]? = some entry) (held' : queue'.bufsInUse[slot']? = some entry) :
    queueId = queueId' ∧ slot = slot' := by
  have nodup := uses.heldEntries_nodup accounted
  exact flatMap_injective (List.nodup_append.mp (List.nodup_append.mp nodup).1).2.1 found
    found' held held'

end System

end IgbDriver
