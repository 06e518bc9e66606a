/-!
# Results

What it means that a computation which may fail has succeeded.
-/

namespace TierAudit

section
variable {ε α β : Type}

/-- Two steps succeed if the first does and then the second. -/
theorem bind_eq_ok_iff {x : Except ε α} {f : α → Except ε β} {b : β} :
    x >>= f = .ok b ↔ ∃ a, x = .ok a ∧ f a = .ok b := by
  cases x with
  | error e =>
      constructor
      · intro h
        cases h
      · rintro ⟨a, ha, -⟩
        cases ha
  | ok a =>
      constructor
      · exact fun h => ⟨a, rfl, h⟩
      · rintro ⟨a', ha, h⟩
        cases ha
        exact h

/-- Renaming an error does not help. -/
theorem mapError_eq_ok_iff {ε' : Type} {x : Except ε α} {f : ε → ε'} {a : α} :
    x.mapError f = .ok a ↔ x = .ok a := by
  cases x with
  | error e => exact ⟨nofun, nofun⟩
  | ok a' =>
      change Except.ok a' = .ok a ↔ _
      simp

/-- What every step keeps is kept by a run that succeeds. -/
theorem foldlM_keeps {σ : Type} {f : σ → α → Except ε σ} {P : σ → Prop} {items : List α} {s t : σ}
    (hstep : ∀ a ∈ items, ∀ s t, P s → f s a = .ok t → P t) (h : P s)
    (hrun : items.foldlM f s = .ok t) : P t := by
  induction items generalizing s with
  | nil =>
      cases hrun
      exact h
  | cons a rest ih =>
      rw [List.foldlM_cons] at hrun
      obtain ⟨next, hnext, hrest⟩ := bind_eq_ok_iff.mp hrun
      obtain ⟨hfirst, hothers⟩ := List.forall_mem_cons.mp hstep
      exact ih hothers (hfirst s next h hnext) hrest

theorem map_eq_ok_iff {x : Except ε α} {f : α → β} {b : β} :
    x.map f = .ok b ↔ ∃ a, x = .ok a ∧ f a = b := by
  cases x <;> simp [Except.map]

theorem eq_ok_of_toOption {x : Except ε α} {a : α} (h : x.toOption = some a) : x = .ok a := by
  cases x with
  | error e => cases h
  | ok a' =>
      cases h
      rfl

end

end TierAudit
