import TierAudit.Schedule

/-!
# Schedules — what is recorded

A run records the outcomes of the first profiles, in their order: of all of them, or up to the end
of the batch with the first failure if it is to stop there (`outcomes_run`).  So whether a tier
fails, and whether all are clean, is the same for every schedule (`exists_fail_run_iff`,
`forall_clean_run_iff`).
-/

namespace TierAudit

namespace Schedule

/-! ### Batches -/

section
variable {α : Type} {p : α → Bool} {items : List α}

/-- Batches hold all items in order. -/
theorem flatten_chunks (size : Nat) (items : List α) :
    (chunks size items).flatten = items := by
  fun_induction chunks size items with
  | case1 => rfl
  | case2 x rest ih =>
      rw [List.flatten_cons, ih, List.cons_append, List.take_append_drop]

/-- How many items there are up to the end of the batch with the first item of a kind, if batches
have a size; without such an item there are all. -/
def batchEnd (size : Nat) (p : α → Bool) (items : List α) : Nat :=
  match items.findIdx? p with
  | some i => min items.length (size * (i / size + 1))
  | none => items.length

theorem batchEnd_le_length (size : Nat) (p : α → Bool) (items : List α) :
    batchEnd size p items ≤ items.length := by
  unfold batchEnd
  split
  · exact Nat.min_le_left _ _
  · exact Nat.le_refl _

/-- A batch does not end before its first item of the kind does. -/
theorem batchEnd_one_le {size : Nat} (h : 0 < size) (p : α → Bool) (items : List α) :
    batchEnd 1 p items ≤ batchEnd size p items := by
  unfold batchEnd
  split
  · next i _ =>
    have hlt : i < size * (i / size + 1) := Nat.lt_mul_div_succ i h
    rw [Nat.div_one, Nat.one_mul]
    omega
  · exact Nat.le_refl _

/-- An item of the kind in the first batch makes it the last one. -/
theorem take_batchEnd_of_any {size : Nat} (h : (items.take size).any p = true) :
    items.take (batchEnd size p items) = items.take size := by
  obtain ⟨i, hi⟩ : ∃ i, (items.take size).findIdx? p = some i := by
    rw [← Option.isSome_iff_exists, List.findIdx?_isSome]
    exact h
  have hlt : i < size := by
    obtain ⟨hlen, -⟩ := List.findIdx?_eq_some_iff_getElem.mp hi
    exact Nat.lt_of_lt_of_le hlen (List.length_take_le ..)
  have hfirst : items.findIdx? p = some i := by
    rw [← List.take_append_drop size items, List.findIdx?_append, hi, Option.some_or]
  have hend : batchEnd size p items = min items.length size := by
    simp only [batchEnd, hfirst, Nat.div_eq_of_lt hlt, Nat.zero_add, Nat.mul_one]
  rw [hend, List.take_eq_take_iff]
  omega

/-- Otherwise the first batch is followed by what the rest of the items gives. -/
theorem take_batchEnd_of_not_any {size : Nat} (hsize : 0 < size)
    (h : (items.take size).any p = false) :
    items.take (batchEnd size p items) =
      items.take size ++ (items.drop size).take (batchEnd size p (items.drop size)) := by
  have hnone : (items.take size).findIdx? p = none := by
    rw [List.findIdx?_eq_none_iff]
    simpa using h
  have hfirst : items.findIdx? p =
      ((items.drop size).findIdx? p).map fun i => i + (items.take size).length := by
    have happend := @List.findIdx?_append _ (items.take size) (items.drop size) p
    rwa [List.take_append_drop, hnone, Option.none_or] at happend
  cases hrest : (items.drop size).findIdx? p with
  | none =>
      simp only [batchEnd, hfirst, hrest, Option.map_none]
      rw [List.take_length, List.take_length, List.take_append_drop]
  | some j =>
      -- There is an item behind the first batch, so that one is complete.
      obtain ⟨hj, -⟩ := List.findIdx?_eq_some_iff_getElem.mp hrest
      rw [List.length_drop] at hj
      have hlen : (items.take size).length = size := by
        rw [List.length_take]
        omega
      have hend : min items.length (size * ((j + size) / size + 1)) =
          size + min (items.drop size).length (size * (j / size + 1)) := by
        rw [Nat.add_div_right _ hsize, Nat.mul_succ, List.length_drop]
        omega
      simp only [batchEnd, hfirst, hrest, Option.map_some, hlen]
      rw [hend, List.take_add]

end

/-! ### What is recorded -/

section
variable {schedule : Schedule} {check : Profile → Outcome}

theorem batchSize_pos (schedule : Schedule) : 0 < schedule.batchSize := by
  unfold batchSize
  split <;> omega

/-- Whether the check of a profile fails. -/
def fails (check : Profile → Outcome) (profile : Profile) : Bool := (check profile).status = .fail

/-- How many of the profiles are checked, from the first one on. -/
def reach (schedule : Schedule) (check : Profile → Outcome) (profiles : List Profile) : Nat :=
  if schedule.failFast then batchEnd schedule.batchSize (fails check) profiles
  else profiles.length

theorem reach_le_length (schedule : Schedule) (check : Profile → Outcome)
    (profiles : List Profile) : schedule.reach check profiles ≤ profiles.length := by
  unfold reach
  split
  · exact batchEnd_le_length ..
  · exact Nat.le_refl _

/-- The first failure ends the run with its batch. -/
theorem reach_of_findIdx? {profiles : List Profile} {i : Nat} (hfast : schedule.failFast = true)
    (hi : profiles.findIdx? (fun p => (check p).status = .fail) = some i) :
    schedule.reach check profiles =
      min profiles.length (schedule.batchSize * (i / schedule.batchSize + 1)) := by
  have hfirst : profiles.findIdx? (fails check) = some i := hi
  rw [reach, if_pos hfast, batchEnd, hfirst]

/-- Without a failure a run goes to the end. -/
theorem reach_of_forall_ne {profiles : List Profile}
    (h : ∀ p ∈ profiles, (check p).status ≠ .fail) :
    schedule.reach check profiles = profiles.length := by
  have hnone : profiles.findIdx? (fails check) = none :=
    List.findIdx?_eq_none_iff.mpr fun p hp => decide_eq_false (h p hp)
  unfold reach batchEnd
  rw [hnone]
  split <;> rfl

theorem hasFailures_recordAll (ledger : Ledger) (batch : List Profile) :
    (ledger.recordAll (batch.map check)).hasFailures =
      (ledger.hasFailures || batch.any (fails check)) := by
  rw [Ledger.hasFailures, Ledger.recordAll, List.any_append, List.any_map]
  rfl

/-- A run that does not stop at failures records everything. -/
theorem outcomes_runBatches (hfast : schedule.failFast = false) (ledger : Ledger)
    (batches : List (List Profile)) :
    (schedule.runBatches check ledger batches).outcomes =
      ledger.outcomes ++ batches.flatten.map check := by
  induction batches generalizing ledger with
  | nil => exact (List.append_nil _).symm
  | cons batch rest ih =>
      rw [runBatches, hfast, Bool.false_and, if_neg Bool.false_ne_true, ih, Ledger.recordAll,
        List.append_assoc, List.flatten_cons, List.map_append]

/-- A run that stops at failures goes on to the end of the batch with the first one. -/
theorem outcomes_runBatches_failFast (hfast : schedule.failFast = true) {ledger : Ledger}
    (h : ledger.hasFailures = false) (size : Nat) (profiles : List Profile) :
    (schedule.runBatches check ledger (chunks size profiles)).outcomes =
      ledger.outcomes ++
        (profiles.take (batchEnd (size + 1) (fails check) profiles)).map check := by
  fun_induction chunks size profiles generalizing ledger with
  | case1 => simp [runBatches]
  | case2 x rest ih =>
      have hbatch : x :: rest.take size = (x :: rest).take (size + 1) := rfl
      have hrest : rest.drop size = (x :: rest).drop (size + 1) := rfl
      rw [runBatches, hfast, Bool.true_and, hbatch, hasFailures_recordAll, h, Bool.false_or]
      rw [hrest] at ih ⊢
      split
      · next hfail =>
        rw [take_batchEnd_of_any hfail]
        rfl
      · next hgo =>
        have hnone : ((x :: rest).take (size + 1)).any (fails check) = false :=
          Bool.not_eq_true _ ▸ hgo
        rw [ih (by rw [hasFailures_recordAll, h, hnone, Bool.false_or]), Ledger.recordAll,
          take_batchEnd_of_not_any (Nat.succ_pos size) hnone, List.append_assoc, List.map_append]

/-- **What a run records**: the outcomes of the profiles within its reach. -/
theorem outcomes_run (schedule : Schedule) (check : Profile → Outcome) (profiles : List Profile) :
    (schedule.run check profiles).outcomes =
      (profiles.take (schedule.reach check profiles)).map check := by
  unfold run reach batches
  cases hfast : schedule.failFast with
  | false =>
      rw [outcomes_runBatches hfast, flatten_chunks, if_neg Bool.false_ne_true, List.take_length]
      rfl
  | true =>
      rw [outcomes_runBatches_failFast hfast rfl, if_pos rfl,
        Nat.sub_add_cancel schedule.batchSize_pos]
      rfl

/-- A profile out of reach is left out for one within reach that fails. -/
theorem exists_fails_of_mem_drop {profiles : List Profile} {profile : Profile}
    (h : profile ∈ profiles.drop (schedule.reach check profiles)) :
    ∃ p ∈ profiles.take (schedule.reach check profiles), (check p).status = .fail := by
  have hlt : schedule.reach check profiles < profiles.length := by
    have hpos := List.length_pos_of_mem h
    rw [List.length_drop] at hpos
    omega
  unfold reach batchEnd at hlt ⊢
  split at hlt
  · next hfast =>
    split at hlt
    · next i hi =>
      obtain ⟨hlen, hfail, -⟩ := List.findIdx?_eq_some_iff_getElem.mp hi
      have hreach : i < schedule.batchSize * (i / schedule.batchSize + 1) :=
        Nat.lt_mul_div_succ i schedule.batchSize_pos
      refine ⟨profiles[i], ?_, of_decide_eq_true hfail⟩
      simp only [if_pos hfast]
      rw [List.mem_take_iff_getElem]
      exact ⟨i, by omega, rfl⟩
    · exact absurd hlt (Nat.lt_irrefl _)
  · exact absurd hlt (Nat.lt_irrefl _)

/-- A failure is found in every schedule. -/
theorem exists_fail_run_iff {profiles : List Profile} :
    (∃ o ∈ (schedule.run check profiles).outcomes, o.status = .fail) ↔
      ∃ p ∈ profiles, (check p).status = .fail := by
  rw [outcomes_run]
  constructor
  · rintro ⟨o, ho, hfail⟩
    obtain ⟨p, hp, rfl⟩ := List.mem_map.mp ho
    exact ⟨p, List.mem_of_mem_take hp, hfail⟩
  · rintro ⟨p, hp, hfail⟩
    rw [← List.take_append_drop (schedule.reach check profiles) profiles] at hp
    rcases List.mem_append.mp hp with hp | hp
    · exact ⟨check p, List.mem_map_of_mem hp, hfail⟩
    · obtain ⟨p', hp', hfail'⟩ := exists_fails_of_mem_drop hp
      exact ⟨check p', List.mem_map_of_mem hp', hfail'⟩

/-- Only tiers that are all clean leave nothing but clean outcomes. -/
theorem forall_clean_run_iff {profiles : List Profile} :
    (∀ o ∈ (schedule.run check profiles).outcomes, o.status = .clean) ↔
      ∀ p ∈ profiles, (check p).status = .clean := by
  rw [outcomes_run]
  constructor
  · intro h p hp
    rw [← List.take_append_drop (schedule.reach check profiles) profiles] at hp
    rcases List.mem_append.mp hp with hp | hp
    · exact h _ (List.mem_map_of_mem hp)
    · obtain ⟨p', hp', hfail⟩ := exists_fails_of_mem_drop hp
      have hclean := h _ (List.mem_map_of_mem hp')
      rw [hfail] at hclean
      cases hclean
  · intro h o ho
    obtain ⟨p, hp, rfl⟩ := List.mem_map.mp ho
    exact h p (List.mem_of_mem_take hp)

end

end Schedule

end TierAudit
