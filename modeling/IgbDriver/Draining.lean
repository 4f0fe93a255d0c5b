import IgbDriver.Platform
import IgbDriver.TxQueue

namespace IgbDriver

open Foundation

/-! # Draining a transmit ring

The recycle loop hands back whole batches only, counted in `i32`. Whether a ring whose
descriptors are all done accepts a packet afterwards depends on its size.
-/

section Count

variable {profile : Profile} {size curIndex cleanIndex : Nat} {count : Int}

/-- The `i32` arithmetic of a round does not overflow, or wraps without a panic. -/
def CountFits (profile : Profile) (size curIndex cleanIndex : Nat) : Prop :=
  profile = .release ∨
    FitsI32 (asI32 curIndex - asI32 cleanIndex) ∧
      (asI32 curIndex - asI32 cleanIndex < 0 →
        FitsI32 (asI32 curIndex - asI32 cleanIndex + asI32 size))

theorem i32Sub_returns (left right : Int) :
    ∃ result, (i32Sub .release left right : Except (Abort Panic) Int) = .ok result := by
  simp only [i32Sub]
  split <;> exact ⟨_, rfl⟩

theorem i32Add_returns (left right : Int) :
    ∃ result, (i32Add .release left right : Except (Abort Panic) Int) = .ok result := by
  simp only [i32Add]
  split <;> exact ⟨_, rfl⟩

theorem i32Sub_dev {left right result : Int}
    (subtracted : (i32Sub .dev left right : Except (Abort Panic) Int) = .ok result) :
    FitsI32 (left - right) ∧ result = left - right := by
  unfold i32Sub at subtracted
  split at subtracted
  · rename_i fits
    cases subtracted
    exact ⟨fits, rfl⟩
  · cases subtracted

theorem i32Add_dev {left right result : Int}
    (added : (i32Add .dev left right : Except (Abort Panic) Int) = .ok result) :
    FitsI32 (left + right) ∧ result = left + right := by
  unfold i32Add at added
  split at added
  · rename_i fits
    cases added
    exact ⟨fits, rfl⟩
  · cases added

theorem cleanable_returns (fits : CountFits profile size curIndex cleanIndex) :
    ∃ count, cleanable profile size curIndex cleanIndex = .ok count := by
  cases profile with
  | release =>
      obtain ⟨difference, subtracted⟩ := i32Sub_returns (asI32 curIndex) (asI32 cleanIndex)
      obtain ⟨sum, added⟩ := i32Add_returns difference (asI32 size)
      rw [cleanable, subtracted, except_ok_bind]
      split
      · exact ⟨sum, added⟩
      · exact ⟨difference, rfl⟩
  | dev =>
      obtain ⟨inRange, folded⟩ := fits.resolve_left (by decide)
      have subtracted : (i32Sub .dev (asI32 curIndex) (asI32 cleanIndex) : Except
        (Abort Panic) Int) =
          .ok (asI32 curIndex - asI32 cleanIndex) := if_pos inRange
      rw [cleanable, subtracted, except_ok_bind]
      split
      · rename_i negative
        exact ⟨_, if_pos (folded negative)⟩
      · exact ⟨_, rfl⟩

theorem countFits_of_cleanable (counted : cleanable profile size curIndex cleanIndex = .ok count) :
    CountFits profile size curIndex cleanIndex := by
  cases profile with
  | release => exact .inl rfl
  | dev =>
      obtain ⟨difference, subtracted, adding⟩ := except_bind_ok counted
      obtain ⟨inRange, rfl⟩ := i32Sub_dev subtracted
      refine .inr ⟨inRange, fun negative => ?_⟩
      rw [if_pos negative] at adding
      exact (i32Add_dev adding).1

/-- A power of two is small or a multiple of `2 ^ 32`. -/
theorem small_or_multiple (power : size.isPowerOfTwo) :
    size ≤ 2147483648 ∨ size % 4294967296 = 0 := by
  obtain ⟨exponent, rfl⟩ := power
  by_cases small : exponent ≤ 31
  · have bound : 2 ^ exponent ≤ 2 ^ 31 := Nat.pow_le_pow_right (by decide) small
    exact .inl bound
  · obtain ⟨extra, rfl⟩ := Nat.exists_eq_add_of_le (show 32 ≤ exponent by omega)
    rw [Nat.pow_add]
    exact .inr (Nat.mul_mod_right _ _)

theorem asI32_emod (value : Nat) : asI32 value % 4294967296 = (value : Int) % 4294967296 :=
  wrapI32_emod value

/-- In a small ring the difference of the indices is exact. -/
theorem difference_of_small {difference : Int} (small : size ≤ 2147483648)
    (insideCur : curIndex < size) (insideClean : cleanIndex < size)
    (same : difference = wrapI32 (asI32 curIndex - asI32 cleanIndex)) :
    difference = (curIndex : Int) - cleanIndex := by
  rw [asI32_of_lt (by omega), asI32_of_lt (by omega)] at same
  rw [same]
  exact wrapI32_of_fits ⟨by omega, by omega⟩

/-- The distance of the indices modulo `2 ^ 32`, whatever the ring. In a large ring a
lap is worth nothing. -/
theorem distance_emod {difference cur clean whole : Int}
    (sizes : size ≤ 2147483648 ∨ size % 4294967296 = 0)
    (small : size ≤ 2147483648 → difference = (curIndex : Int) - cleanIndex)
    (insideCur : curIndex < size) (insideClean : cleanIndex < size)
    (curMod : cur % 4294967296 = (curIndex : Int) % 4294967296)
    (cleanMod : clean % 4294967296 = (cleanIndex : Int) % 4294967296)
    (wholeMod : whole % 4294967296 = (size : Int) % 4294967296)
    (congruent : difference % 4294967296 = (cur - clean) % 4294967296) :
    (if difference < 0 then difference + whole else difference) % 4294967296 =
      (Ring.distance size cleanIndex curIndex : Int) % 4294967296 := by
  rcases Nat.lt_or_ge curIndex cleanIndex with wrapped | ordered
  · rw [Ring.distance_of_lt wrapped insideClean]
    rcases sizes with few | multiple
    · have value := small few
      rw [if_pos (by omega)]
      omega
    · split <;> omega
  · rw [Ring.distance_of_le ordered insideCur]
    rcases sizes with few | multiple
    · have value := small few
      rw [if_neg (by omega)]
      omega
    · split <;> omega

/-- The count is the number of descriptors in flight, as an `i32`. -/
theorem cleanable_count (power : size.isPowerOfTwo) (insideCur : curIndex < size)
    (insideClean : cleanIndex < size)
    (counted : cleanable profile size curIndex cleanIndex = .ok count) :
    count = wrapI32 (Ring.distance size cleanIndex curIndex) := by
  obtain ⟨difference, subtracted, adding⟩ := except_bind_ok counted
  obtain ⟨fits, same⟩ := i32Sub_ok subtracted
  have congruent := wrapI32_emod (asI32 curIndex - asI32 cleanIndex)
  rw [← same] at congruent
  have far := distance_emod (small_or_multiple power)
    (fun small => difference_of_small small insideCur insideClean same) insideCur insideClean
    (asI32_emod curIndex) (asI32_emod cleanIndex) (asI32_emod size) congruent
  by_cases negative : difference < 0
  · rw [if_pos negative] at adding far
    obtain ⟨fitsSum, sum⟩ := i32Add_ok adding
    have congruentSum := wrapI32_emod (difference + asI32 size)
    rw [← sum] at congruentSum
    exact eq_wrapI32 fitsSum (congruentSum.trans far)
  · rw [if_neg negative] at adding far
    cases adding
    exact eq_wrapI32 fits far

theorem fitsI32_asI32 (value : Nat) : FitsI32 (asI32 value) := fitsI32_wrapI32 value

/-- A batch in flight is one in the count's low 32 bits too. -/
theorem batch_le_of_count {inFlight : Nat} (enough : (txCleanBatch : Int) ≤ wrapI32 inFlight) :
    txCleanBatch ≤ inFlight := by
  by_contra few
  rw [wrapI32_of_fits ⟨by omega, by unfold txCleanBatch at few; omega⟩] at enough
  omega

/-- The indices of a ring, cast, and one batch later. -/
theorem batch_fits {cur clean next whole count : Int} {nextIndex : Nat}
    (sizes : size ≤ 2147483648 ∨ size % 4294967296 = 0)
    (insideCur : curIndex < size) (insideClean : cleanIndex < size)
    (advanced : nextIndex = cleanIndex + txCleanBatch ∧ nextIndex < size ∨
      nextIndex + size = cleanIndex + txCleanBatch)
    (exact_ : ∀ index value, index < 2147483648 →
      (index = curIndex ∧ value = cur ∨ index = cleanIndex ∧ value = clean ∨
        index = nextIndex ∧ value = next ∨ index = size ∧ value = whole) → value = (index : Int))
    (fitsCur : FitsI32 cur) (fitsClean : FitsI32 clean) (fitsNext : FitsI32 next)
    (fitsWhole : FitsI32 whole)
    (cleanMod : clean % 4294967296 = (cleanIndex : Int) % 4294967296)
    (nextMod : next % 4294967296 = (nextIndex : Int) % 4294967296)
    (wholeMod : whole % 4294967296 = (size : Int) % 4294967296)
    (inRange : FitsI32 (cur - clean)) (folded : cur - clean < 0 → FitsI32 (cur - clean + whole))
    (counted : count = if cur - clean < 0 then cur - clean + whole else cur - clean)
    (enough : (txCleanBatch : Int) ≤ count) :
    FitsI32 (cur - next) ∧ (cur - next < 0 → FitsI32 (cur - next + whole)) := by
  simp only [FitsI32] at *
  simp only [txCleanBatch] at *
  rcases sizes with small | multiple
  · have curExact := exact_ curIndex cur (by omega) (.inl ⟨rfl, rfl⟩)
    have cleanExact := exact_ cleanIndex clean (by omega) (.inr (.inl ⟨rfl, rfl⟩))
    have nextExact := exact_ nextIndex next (by omega) (.inr (.inr (.inl ⟨rfl, rfl⟩)))
    rcases Nat.lt_or_ge size 2147483648 with below | largest
    · have wholeExact := exact_ size whole below (.inr (.inr (.inr ⟨rfl, rfl⟩)))
      omega
    · -- The largest ring that fits: folding it in would overflow.
      have negative : whole = -2147483648 := by omega
      split at counted <;> omega
  · have zero : whole = 0 := by omega
    split at counted
    · omega
    · have step : next = clean + 32 := by omega
      omega

theorem CountFits.batch (fits : CountFits profile size curIndex cleanIndex)
    (power : size.isPowerOfTwo) (insideCur : curIndex < size) (insideClean : cleanIndex < size)
    (counted : cleanable profile size curIndex cleanIndex = .ok count)
    (enough : (txCleanBatch : Int) ≤ count) :
    CountFits profile size curIndex ((cleanIndex + txCleanBatch) % size) := by
  cases profile with
  | release => exact .inl rfl
  | dev =>
      obtain ⟨inRange, folded⟩ := fits.resolve_left (by decide)
      obtain ⟨difference, subtracted, adding⟩ := except_bind_ok counted
      obtain ⟨_, rfl⟩ := i32Sub_dev subtracted
      have value : count = if asI32 curIndex - asI32 cleanIndex < 0 then
          asI32 curIndex - asI32 cleanIndex + asI32 size else
            asI32 curIndex - asI32 cleanIndex := by
        by_cases negative : asI32 curIndex - asI32 cleanIndex < 0
        · rw [if_pos negative] at adding ⊢
          exact (i32Add_dev adding).2
        · rw [if_neg negative] at adding ⊢
          exact (Except.ok.inj adding).symm
      have far := cleanable_count power insideCur insideClean counted
      rw [far] at enough
      have short := batch_le_of_count enough
      have inLap := Ring.distance_lt (show 0 < size by omega) cleanIndex curIndex
      have advanced : (cleanIndex + txCleanBatch) % size = cleanIndex + txCleanBatch ∧
          (cleanIndex + txCleanBatch) % size < size ∨
          (cleanIndex + txCleanBatch) % size + size = cleanIndex + txCleanBatch := by
        rcases Nat.lt_or_ge (cleanIndex + txCleanBatch) size with inside | past
        · exact .inl ⟨Nat.mod_eq_of_lt inside, Nat.mod_lt _ (by omega)⟩
        · rw [Nat.mod_eq_sub_mod past, Nat.mod_eq_of_lt (by omega)]
          exact .inr (by omega)
      rw [← far] at enough
      refine .inr (batch_fits (small_or_multiple power) insideCur insideClean advanced ?_
        (fitsI32_asI32 _) (fitsI32_asI32 _) (fitsI32_asI32 _) (fitsI32_asI32 _) (asI32_emod _)
        (asI32_emod _) (asI32_emod _) inRange folded value enough)
      rintro index _ below (⟨rfl, rfl⟩ | ⟨rfl, rfl⟩ | ⟨rfl, rfl⟩ | ⟨rfl, rfl⟩) <;>
        exact asI32_of_lt below

end Count

section Loop

variable {σ : Type} {host : Host σ} {machine : Machine σ} {size queueId curIndex cleanIndex : Nat}
  {queue queue' : IgbTxQueue} {count : Int}

/-- The device has finished everything from `cleanIndex` up to the tail. -/
def IgbTxQueue.Drained (queue : IgbTxQueue) (size cleanIndex : Nat) : Prop :=
  ∀ slot, Ring.Between size cleanIndex queue.txIndex slot →
    ∃ desc, queue.descriptors.cells[slot]? = some desc ∧ desc.done = true

/-- The same ring, whatever entries were released from it. -/
structure SameRing (queue queue' : IgbTxQueue) : Prop where
  descriptors : queue'.descriptors = queue.descriptors
  numDescriptors : queue'.numDescriptors = queue.numDescriptors
  txIndex : queue'.txIndex = queue.txIndex
  cleanIndex : queue'.cleanIndex = queue.cleanIndex

theorem SameRing.refl (queue : IgbTxQueue) : SameRing queue queue := ⟨rfl, rfl, rfl, rfl⟩

theorem SameRing.trans {queue'' : IgbTxQueue} (first : SameRing queue queue')
    (second : SameRing queue' queue'') : SameRing queue queue'' :=
  ⟨second.descriptors.trans first.descriptors, second.numDescriptors.trans first.numDescriptors,
    second.txIndex.trans first.txIndex, second.cleanIndex.trans first.cleanIndex⟩

theorem TxShape.sameRing (shape : TxShape size queue) (same : SameRing queue queue') :
    TxShape size queue' := by
  refine ⟨same.numDescriptors.trans shape.numDescriptors, ?_, ?_, ?_⟩
  · rw [same.descriptors]
    exact shape.cells
  · rw [same.txIndex]
    exact shape.txIndex
  · rw [same.cleanIndex]
    exact shape.cleanIndex

theorem IgbTxQueue.Drained.sameRing (drained : queue.Drained size cleanIndex)
    (same : SameRing queue queue') : queue'.Drained size cleanIndex := by
  simp only [Drained]
  rw [same.txIndex, same.descriptors]
  exact drained

theorem releasedMachine_queue (found : machine.dev.txQueues[queueId]? = some queue) :
    ∃ queue', (releasedMachine machine queueId queue).dev.txQueues[queueId]? = some queue' ∧
      SameRing queue queue' := by
  simp only [releasedMachine]
  cases queue.pool with
  | none => exact ⟨queue, found, .refl queue⟩
  | some ref => exact ⟨queue.afterBatch, set_of_some found, ⟨rfl, rfl, rfl, rfl⟩⟩

theorem recycleRound_break (found : machine.dev.txQueues[queueId]? = some queue)
    (counted : cleanable host.profile queue.numDescriptors curIndex cleanIndex = .ok count)
    (few : count < txCleanBatch) :
    recycleRound host queueId curIndex cleanIndex machine = .ok (.ok none, machine) := by
  rw [recycleRound, Prog.bind_read_apply, indexSlice_of_some found,
    Prog.bind_of_ok (Prog.lift_ok_apply _ _), counted, Prog.bind_of_ok (Prog.lift_ok_apply _ _),
    if_pos few]
  rfl

theorem recycleLoop_stops
    (round : recycleRound host queueId curIndex cleanIndex machine = .ok (.ok none, machine))
    (fuel : Nat) :
    recycleLoop host queueId curIndex (fuel + 1) cleanIndex machine =
      .ok (.ok cleanIndex, machine) := by
  rw [recycleLoop, Prog.bind_of_ok round]
  rfl

theorem recycleLoop_continues {next : Nat} {after : Machine σ}
    (round : recycleRound host queueId curIndex cleanIndex machine = .ok (.ok (some next), after))
    (fuel : Nat) :
    recycleLoop host queueId curIndex (fuel + 1) cleanIndex machine =
      recycleLoop host queueId curIndex fuel next after := by
  rw [recycleLoop, Prog.bind_of_ok round]

theorem half_usize (power : size.isPowerOfTwo) (bound : size < usizeModulus) :
    size ≤ 9223372036854775808 := by
  obtain ⟨exponent, rfl⟩ := power
  by_contra large
  have least : 64 ≤ exponent := by
    by_contra small
    have below : 2 ^ exponent ≤ 2 ^ 63 := Nat.pow_le_pow_right (by decide) (by omega)
    omega
  have above : 2 ^ 64 ≤ 2 ^ exponent := Nat.pow_le_pow_right (by decide) least
  unfold usizeModulus at bound
  omega

/-- A round that counts a batch looks at the last descriptor of it. -/
theorem recycleRound_at {desc : AdvancedTxDescriptor} (power : size.isPowerOfTwo)
    (bound : size < usizeModulus) (found : machine.dev.txQueues[queueId]? = some queue)
    (entries : queue.numDescriptors = size) (insideClean : cleanIndex < size)
    (batch : txCleanBatch ≤ size)
    (counted : cleanable host.profile size curIndex cleanIndex = .ok count)
    (enough : (txCleanBatch : Int) ≤ count)
    (cell : queue.descriptors.cells[(cleanIndex + (txCleanBatch - 1)) % size]? = some desc) :
    recycleRound host queueId curIndex cleanIndex machine =
      .ok (.ok (if desc.done then some ((cleanIndex + txCleanBatch) % size) else none),
        if desc.done then releasedMachine machine queueId queue else machine) := by
  have half := half_usize power bound
  have ends : cleanupTo host.profile size cleanIndex =
      .ok ((cleanIndex + (txCleanBatch - 1)) % size) := by
    have general : cleanupTo host.profile size (cleanIndex % size) = _ :=
      cleanupTo_eq (by simp only [txCleanBatch, usizeModulus]; omega) batch
    rwa [Nat.mod_eq_of_lt insideClean] at general
  have inside : (cleanIndex + (txCleanBatch - 1)) % size < size := Nat.mod_lt _ (by omega)
  have wraps : wrapRing host.profile ((cleanIndex + (txCleanBatch - 1)) % size) size =
      .ok ((cleanIndex + txCleanBatch) % size) := by
    rw [wrapRing_of_lt power bound inside, Ring.succ_mod]
    rfl
  rw [recycleRound, Prog.bind_read_apply, indexSlice_of_some found,
    Prog.bind_of_ok (Prog.lift_ok_apply _ _), entries, counted,
    Prog.bind_of_ok (Prog.lift_ok_apply _ _), if_neg (by omega), ends,
    Prog.bind_of_ok (Prog.lift_ok_apply _ _), indexSlice_of_some cell,
    Prog.bind_of_ok (Prog.lift_ok_apply _ _)]
  cases desc.done with
  | false => rfl
  | true =>
      rw [if_pos rfl, Prog.bind_of_ok (releaseBatch_apply _ _), wraps,
        Prog.bind_of_ok (Prog.lift_ok_apply _ _)]
      rfl

theorem recycleRound_batch (power : size.isPowerOfTwo) (bound : size < usizeModulus)
    (found : machine.dev.txQueues[queueId]? = some queue) (shape : TxShape size queue)
    (insideClean : cleanIndex < size) (drained : queue.Drained size cleanIndex)
    (counted : cleanable host.profile size queue.txIndex cleanIndex = .ok count)
    (enough : (txCleanBatch : Int) ≤ count) :
    recycleRound host queueId queue.txIndex cleanIndex machine =
      .ok (.ok (some ((cleanIndex + txCleanBatch) % size)),
        releasedMachine machine queueId queue) := by
  have short : txCleanBatch ≤ Ring.distance size cleanIndex queue.txIndex :=
    batch_le_of_count (cleanable_count power shape.txIndex insideClean counted ▸ enough)
  have inLap := Ring.distance_lt (show 0 < size by omega) cleanIndex queue.txIndex
  obtain ⟨desc, cell, done⟩ := drained ((cleanIndex + (txCleanBatch - 1)) % size) (by
    refine ⟨Nat.mod_lt _ (by omega), ?_⟩
    rw [Ring.distance_slot insideClean (by omega)]
    simp only [txCleanBatch] at *
    omega)
  rw [recycleRound_at power bound found shape.numDescriptors insideClean
    (by omega) counted enough cell, done]
  rfl

theorem IgbTxQueue.Drained.advance (drained : queue.Drained size cleanIndex) {batch : Nat}
    (shape : TxShape size queue) (insideClean : cleanIndex < size)
    (short : batch ≤ Ring.distance size cleanIndex queue.txIndex) :
    queue.Drained size ((cleanIndex + batch) % size) :=
  fun slot between => drained slot (between.of_advance insideClean shape.txIndex short)

/-- With everything done, the recycle loop ends when no whole batch is counted. -/
theorem recycleLoop_returns (power : size.isPowerOfTwo) (bound : size < usizeModulus)
    (found : machine.dev.txQueues[queueId]? = some queue) (shape : TxShape size queue)
    (insideClean : cleanIndex < size) (drained : queue.Drained size cleanIndex)
    (fits : CountFits host.profile size queue.txIndex cleanIndex) :
    ∃ fuel last after queue',
      recycleLoop host queueId queue.txIndex fuel cleanIndex machine = .ok (.ok last, after) ∧
      after.dev.txQueues[queueId]? = some queue' ∧ SameRing queue queue' ∧ last < size ∧
      Ring.distance size last queue.txIndex ≤ Ring.distance size cleanIndex queue.txIndex ∧
      wrapI32 (Ring.distance size last queue.txIndex) < txCleanBatch := by
  induction far : Ring.distance size cleanIndex queue.txIndex using Nat.strong_induction_on
    generalizing machine queue cleanIndex with
  | _ steps ih =>
      obtain ⟨count, counted⟩ := cleanable_returns fits
      have exact_ := cleanable_count power shape.txIndex insideClean counted
      by_cases few : count < txCleanBatch
      · refine ⟨1, cleanIndex, machine, queue, ?_, found, .refl queue, insideClean,
          Nat.le_of_eq far, ?_⟩
        · rw [← shape.numDescriptors] at counted
          exact recycleLoop_stops (recycleRound_break found counted few) 0
        · rw [← exact_]
          exact few
      · have enough : (txCleanBatch : Int) ≤ count := by omega
        have short : txCleanBatch ≤ Ring.distance size cleanIndex queue.txIndex :=
          batch_le_of_count (exact_ ▸ enough)
        have closer := Ring.distance_advance insideClean shape.txIndex short
        obtain ⟨queue', found', same⟩ := releasedMachine_queue found
        have index := same.txIndex
        obtain ⟨fuel, last, after, queue'', ran, final, same', inside, nearer, rest⟩ :=
          ih (steps - txCleanBatch) (by simp only [txCleanBatch] at *; omega) found'
            (shape.sameRing same)
            (Nat.mod_lt _ (by omega)) ((drained.advance shape insideClean short).sameRing same)
            (by rw [index]; exact fits.batch power shape.txIndex insideClean counted enough)
            (by rw [index, closer, far])
        rw [index] at ran nearer rest
        refine ⟨fuel + 1, last, after, queue'', ?_, final, same.trans same', inside, by omega, rest⟩
        have round := recycleRound_batch power bound found shape insideClean drained counted enough
        exact (recycleLoop_continues round fuel).trans ran

/-- A queue has room unless all but one of its descriptors are in flight. -/
theorem TxShape.canSend_eq (shape : TxShape size queue) (power : size.isPowerOfTwo)
    (bound : size < usizeModulus) (profile : Profile) : queue.canSend profile =
      .ok (decide (Ring.distance size queue.cleanIndex queue.txIndex ≠ size - 1)) := by
  have clean := shape.cleanIndex
  have inside := shape.txIndex
  rw [IgbTxQueue.canSend, shape.numDescriptors, wrapRing_of_lt power bound inside, except_ok_bind]
  refine congrArg Except.ok (decide_eq_decide.mpr (not_congr ?_))
  rcases Nat.lt_or_ge queue.txIndex queue.cleanIndex with wrapped | ordered
  · rw [Ring.distance_of_lt wrapped clean, Nat.mod_eq_of_lt (by omega)]
    omega
  · rw [Ring.distance_of_le ordered inside]
    rcases Nat.lt_or_ge (queue.txIndex + 1) size with short | last
    · rw [Nat.mod_eq_of_lt short]
      omega
    · rw [Nat.mod_eq_sub_mod last, Nat.mod_eq_of_lt (by omega)]
      omega

theorem recycleTxBuffers_of_loop {fuel last : Nat} {middle : Machine σ}
    (found : machine.dev.txQueues[queueId]? = some queue)
    (ran : recycleLoop host queueId queue.txIndex fuel queue.cleanIndex machine =
      .ok (.ok last, middle))
    (final : middle.dev.txQueues[queueId]? = some queue') :
    recycleTxBuffers host fuel queueId machine =
      .ok (.ok (), middle.setTxQueue queueId { queue' with cleanIndex := last }) := by
  rw [recycleTxBuffers, Prog.bind_read_apply]
  simp only [found]
  rw [Prog.bind_of_ok ran, recycleCommit, Prog.bind_read_apply, indexSlice_of_some final,
    Prog.bind_of_ok (Prog.lift_ok_apply _ _)]
  rfl

theorem canSend_apply (found : machine.dev.txQueues[queueId]? = some queue) {ready : Bool}
    (asked : queue.canSend host.profile = .ok ready) :
    canSend host queueId machine = .ok (.ok ready, machine) := by
  rw [canSend, Prog.bind_read_apply]
  simp only [found, asked]
  rfl

/-- Recycling returns and leaves room for a packet. -/
def Recovers (host : Host σ) (queueId : Nat) (machine : Machine σ) : Prop :=
  ∃ fuel after, recycleTxBuffers host fuel queueId machine = .ok (.ok (), after) ∧
    canSend host queueId after = .ok (.ok true, after)

theorem recovers_of_room (power : size.isPowerOfTwo) (bound : size < usizeModulus)
    (found : machine.dev.txQueues[queueId]? = some queue) (shape : TxShape size queue)
    (drained : queue.Drained size queue.cleanIndex)
    (fits : CountFits host.profile size queue.txIndex queue.cleanIndex)
    (room : Ring.distance size queue.cleanIndex queue.txIndex < size - 1 ∨
      txCleanBatch < size ∧ size ≤ 2147483648) : Recovers host queueId machine := by
  obtain ⟨fuel, last, middle, queue', ran, final, same, inside, nearer, rest⟩ :=
    recycleLoop_returns power bound found shape shape.cleanIndex drained fits
  have left : Ring.distance size last queue.txIndex ≠ size - 1 := by
    rcases room with below | ⟨large, small⟩
    · omega
    · have inLap := Ring.distance_lt (show 0 < size by omega) last queue.txIndex
      rw [wrapI32_of_fits ⟨by omega, by omega⟩] at rest
      omega
  have moved := shape.sameRing same
  have shape' : TxShape size { queue' with cleanIndex := last } :=
    ⟨moved.numDescriptors, moved.cells, moved.txIndex, inside⟩
  rw [← same.txIndex] at left
  have asked := (shape'.canSend_eq power bound host.profile).trans
    (congrArg Except.ok (decide_eq_true left))
  exact ⟨fuel, _, recycleTxBuffers_of_loop found ran final, canSend_apply (set_of_some final) asked⟩

/-- The first round of a recycle that returned could count. -/
theorem countFits_of_recycle {fuel : Nat} {after : Machine σ}
    (found : machine.dev.txQueues[queueId]? = some queue) (shape : TxShape size queue)
    (ran : recycleTxBuffers host fuel queueId machine = .ok (.ok (), after)) :
    CountFits host.profile size queue.txIndex queue.cleanIndex := by
  rw [recycleTxBuffers, Prog.bind_read_apply] at ran
  simp only [found] at ran
  obtain ⟨last, middle, looped, _⟩ := Prog.bind_ok ran
  cases fuel with
  | zero => cases looped
  | succ fuel =>
      obtain ⟨next, state, round, _⟩ := Prog.bind_ok looped
      rw [recycleRound, Prog.bind_read_apply, indexSlice_of_some found] at round
      obtain ⟨_, same, counting⟩ := Prog.bind_lift_ok round
      cases same
      obtain ⟨count, counted, _⟩ := Prog.bind_lift_ok counting
      rw [shape.numDescriptors] at counted
      exact countFits_of_cleanable counted

/-- A full ring in which no whole batch is counted stays full. -/
theorem not_recovers_of_full (power : size.isPowerOfTwo) (bound : size < usizeModulus)
    (found : machine.dev.txQueues[queueId]? = some queue) (shape : TxShape size queue)
    (full : Ring.distance size queue.cleanIndex queue.txIndex = size - 1)
    (wedges : size ≤ txCleanBatch ∨ 2147483648 < size) : ¬ Recovers host queueId machine := by
  intro recovers
  obtain ⟨fuel, after, ran, asked⟩ := recovers
  obtain ⟨count, counted⟩ := cleanable_returns (countFits_of_recycle found shape ran)
  have few : count < txCleanBatch := by
    rw [cleanable_count power shape.txIndex shape.cleanIndex counted, full]
    rcases wedges with small | large
    · have exact_ : wrapI32 ((size - 1 : Nat) : Int) = ((size - 1 : Nat) : Int) :=
        wrapI32_of_fits ⟨by omega, by unfold txCleanBatch at small; omega⟩
      have inside := shape.txIndex
      rw [exact_]
      omega
    · have multiple := (small_or_multiple power).resolve_left (by omega)
      have minus : (-1 : Int) = wrapI32 ((size - 1 : Nat) : Int) :=
        eq_wrapI32 ⟨by decide, by decide⟩ (by omega)
      rw [← minus]
      decide
  cases fuel with
  | zero =>
      rw [recycleTxBuffers, Prog.bind_read_apply] at ran
      simp only [found] at ran
      obtain ⟨_, _, impossible, _⟩ := Prog.bind_ok ran
      cases impossible
  | succ fuel =>
      have looped : recycleLoop host queueId queue.txIndex (fuel + 1) queue.cleanIndex machine =
          .ok (.ok queue.cleanIndex, machine) := by
        rw [← shape.numDescriptors] at counted
        exact recycleLoop_stops (recycleRound_break found counted few) fuel
      rw [recycleTxBuffers_of_loop found looped found] at ran
      cases ran
      have refuses := (shape.canSend_eq power bound host.profile).trans
        (congrArg Except.ok (decide_eq_false (not_not_intro full)))
      rw [canSend_apply (set_of_some found) refuses] at asked
      cases asked

end Loop

section Run

variable {σ : Type} {host : Host σ} {qs numRx numTx queueId : Nat} {pool : PoolRef} {before : Arcs}
  {system after : System} {trace : List Event}

/-- With a queue to start, `init` accepts powers of two only. -/
theorem Booted.power (booted : Booted host qs numRx numTx pool before system) (positive : 0 < qs)
    (queues : 0 < numRx + numTx) : qs.isPowerOfTwo := by
  obtain ⟨file, booting⟩ := booted.booting
  refine (Nat.and_sub_one_eq_zero_iff_isPowerOfTwo (by omega)).mp (booting.aligned ?_)
  change 0 < numRx + 0 + numTx
  omega

/-- In every run, whatever the device does, the indices stay inside the ring. -/
theorem TxShape.run {profile : Profile} {policy : Policy} (positive : 0 < qs)
    (bound : qs < usizeModulus) (booted : Booted host qs numRx numTx pool before system)
    (inside : queueId < numTx) (run : Run (next profile) policy system trace after) :
    ∃ queue, after.txQueue? queueId = some queue ∧ TxShape qs queue := by
  have power := booted.power positive (by omega)
  obtain ⟨file, booting⟩ := booted.booting
  obtain ⟨queue, found⟩ : ∃ queue, system.txQueue? queueId = some queue :=
    ⟨_, List.getElem?_eq_getElem (by rw [booting.txLength]; exact inside)⟩
  have built := booting.txQueues queueId queue found
  have initial : TxShape qs queue :=
    ⟨built.numDescriptors, built.cells, by rw [built.txIndex]; exact positive,
      by rw [built.cleanIndex]; exact positive⟩
  have invariant := run.invariant (fun _ state =>
    (∃ queue, state.txQueue? queueId = some queue ∧ TxShape qs queue) ∧
      ∀ curIndex cleanIndex, state.control = .recycling queueId curIndex cleanIndex →
        cleanIndex < qs)
    ⟨⟨queue, found, initial⟩, by rw [booted.control]; nofun⟩ (by
      intro trace state action events final known _ stepped
      obtain ⟨⟨queue, found, shape⟩, running⟩ := known
      have step := next_step stepped
      obtain ⟨queue', found', change⟩ := step.txChange found
      refine ⟨⟨queue', found', shape.change power bound running change⟩,
        fun curIndex cleanIndex goes => ?_⟩
      rcases step.recycling goes with before | ⟨other, here, same⟩ | ⟨other, _, _, _, _, here, sees⟩
      · exact running _ _ before
      · rw [found] at here
        cases here
        rw [← same]
        exact shape.cleanIndex
      · rw [found] at here
        cases here
        exact shape.roundSees power bound sees)
  exact invariant.1

/-- When everything in flight is done, recycling makes room exactly if the ring was not
full, or is larger than a batch and its indices fit an `i32`. -/
theorem drained_ring_accepts_iff {queue : IgbTxQueue} (least : 2 ≤ qs) (bound : qs < usizeModulus)
    (booted : Booted host qs numRx numTx pool before system) (inside : queueId < numTx)
    (run : Run (next host.profile) (fun _ _ => True) system trace after)
    (found : after.txQueue? queueId = some queue) (drained : queue.Drained qs queue.cleanIndex) :
    Recovers (registerFile host.profile) queueId after.machine ↔
      CountFits host.profile qs queue.txIndex queue.cleanIndex ∧
        (Ring.distance qs queue.cleanIndex queue.txIndex < qs - 1 ∨
          txCleanBatch < qs ∧ qs ≤ 2147483648) := by
  have power := booted.power (by omega) (by omega)
  obtain ⟨queue', found', shape⟩ := TxShape.run (by omega) bound booted inside run
  rw [found] at found'
  cases found'
  constructor
  · intro recovers
    obtain ⟨fuel, final, ran, _⟩ := id recovers
    have fits : CountFits (registerFile host.profile).profile qs queue.txIndex queue.cleanIndex :=
      countFits_of_recycle found shape ran
    refine ⟨fits, ?_⟩
    by_contra stuck
    have inLap := Ring.distance_lt (show 0 < qs by omega) queue.cleanIndex queue.txIndex
    exact not_recovers_of_full power bound found shape (by omega) (by omega) recovers
  · intro fits
    obtain ⟨fits, room⟩ := fits
    have fits' : CountFits (registerFile host.profile).profile qs queue.txIndex queue.cleanIndex :=
      fits
    exact recovers_of_room power bound found shape drained fits' room

/-- Nothing was given back yet and all that was sent is done. -/
theorem IgbTxQueue.drained_of_first {queue : IgbTxQueue} {size count : Nat}
    (clean : queue.cleanIndex = 0) (index : queue.txIndex = count)
    (done : ∀ slot, slot < count → ∃ desc, queue.descriptors.cells[slot]? = some desc ∧
      desc.done = true) :
    queue.Drained size queue.cleanIndex := by
  intro slot between
  obtain ⟨inside, closer⟩ := between
  rw [clean, index] at closer
  refine done slot (Nat.lt_of_not_le fun late => ?_)
  rw [Ring.distance_of_le (Nat.zero_le _) inside, Ring.distance_of_le (Nat.zero_le _)
    (by omega)] at closer
  omega

/-- Forty packets on a ring of 64: eight are left after a batch was released. -/
theorem drained_ring_accepts_iff_batch :
    ∃ (after : System) (queue : IgbTxQueue), after.txQueue? 0 = some queue ∧
      Ring.distance 64 queue.cleanIndex queue.txIndex = 40 ∧
      Recovers (registerFile .dev) 0 after.machine := by
  obtain ⟨system, trace, after, booted, _, _, run, accepted⟩ := exists_replayPlatform .dev
    (fun _ _ => True) 64 0 1 40 (sendActions 0 0 40 ++ doneActions 0 40)
    (fun _ after => (after.txQueue? 0).any (fun queue =>
      queue.cleanIndex == 0 && queue.txIndex == 40 && (List.range 40).all (fun slot =>
        queue.descriptors.cells[slot]?.any (·.done))))
    (by decide +kernel)
  simp only [Option.any_eq_true, Bool.and_eq_true, beq_iff_eq, List.all_eq_true, List.mem_range]
    at accepted
  obtain ⟨queue, found, ⟨clean, index⟩, done⟩ := accepted
  have drained : queue.Drained 64 queue.cleanIndex := IgbTxQueue.drained_of_first clean index done
  have far : Ring.distance 64 queue.cleanIndex queue.txIndex = 40 := by
    rw [clean, index]
    rfl
  refine ⟨after, queue, found, far, (drained_ring_accepts_iff (by decide) (by decide) booted
    Nat.zero_lt_one run found drained).mpr ⟨?_, .inr ⟨by decide, by decide⟩⟩⟩
  rw [clean, index, CountFits, asI32_of_lt (by decide), asI32_of_lt (by decide)]
  exact .inr ⟨by decide, by decide⟩

/-- A ring of 16, once full, stays full with everything in it done. -/
theorem drained_ring_stays_full :
    ∃ (system after : System) (trace : List Event) (queue : IgbTxQueue),
    Booted (platform .dev) 16 0 1 0 (freshArcs 20) system ∧
      Run (next .dev) TxInOrder system trace after ∧ after.control = .idle ∧
      after.txQueue? 0 = some queue ∧ queue.Drained 16 queue.cleanIndex ∧
      ¬ Recovers (registerFile .dev) 0 after.machine := by
  obtain ⟨system, trace, after, booted, _, _, run, accepted⟩ := exists_replayPlatform .dev
    TxInOrder 16 0 1 20 (sendActions 0 0 15 ++ doneActions 0 15)
    (fun _ after => after.control == .idle && (after.txQueue? 0).any (fun queue =>
      queue.cleanIndex == 0 && queue.txIndex == 15 && (List.range 15).all (fun slot =>
        queue.descriptors.cells[slot]?.any (·.done))))
    (by decide +kernel)
  simp only [Option.any_eq_true, Bool.and_eq_true, beq_iff_eq, List.all_eq_true, List.mem_range]
    at accepted
  obtain ⟨idle, queue, found, ⟨clean, index⟩, done⟩ := accepted
  obtain ⟨queue', found', shape⟩ := TxShape.run (by decide) (by decide) booted Nat.zero_lt_one run
  rw [found] at found'
  cases found'
  refine ⟨system, after, trace, queue, booted, run, idle, found,
    IgbTxQueue.drained_of_first clean index done, ?_⟩
  refine not_recovers_of_full ⟨4, rfl⟩ (by decide) found shape ?_ (.inl (by decide))
  rw [clean, index]
  rfl

end Run

end IgbDriver
