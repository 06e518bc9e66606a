import TierAudit.Decimal
import TierAudit.Time.Timestamp

/-!
# Text — figures

Numbers and times are written with digits and a few signs (`isFigures_seconds`,
`isFigures_toSeconds`), so they stand as they are in every format.
-/

namespace TierAudit.Text

/-- A character that numbers and times are written with. -/
def isFigure (c : Char) : Bool := c.isDigit || "+-.:TZ".toList.contains c

/-- Nothing but figures. -/
def IsFigures (s : String) : Prop := ∀ c ∈ s.toList, isFigure c = true

-- Character by character of the text, not of all characters there are.
instance (s : String) : Decidable (IsFigures s) :=
  List.decidableBAll (isFigure · = true) s.toList

@[simp] theorem isFigures_append {s t : String} :
    IsFigures (s ++ t) ↔ IsFigures s ∧ IsFigures t := by
  simp only [IsFigures, String.toList_append, List.mem_append, or_imp, forall_and]

theorem isFigure_of_mem_toDigits {n : Nat} {c : Char} (h : c ∈ Nat.toDigits 10 n) :
    isFigure c = true := by
  rw [isFigure, Nat.isDigit_of_mem_toDigits (by decide) (by decide) h, Bool.true_or]

theorem isFigures_toString (n : Nat) : IsFigures (toString n) :=
  fun _ hc => isFigure_of_mem_toDigits (Nat.toList_repr ▸ hc)

theorem isFigures_padded (width n : Nat) : IsFigures (Decimal.padded width n) := by
  intro c hc
  rw [Decimal.padded, String.toList_ofList, List.mem_append] at hc
  rcases hc with hc | hc
  · rw [List.eq_of_mem_replicate hc]
    decide
  · exact isFigure_of_mem_toDigits hc

theorem isFigures_seconds (places : Nat) (milliseconds : UInt64) :
    IsFigures (Decimal.seconds places milliseconds) := by
  simp only [Decimal.seconds, Decimal.fixed, isFigures_append]
  exact ⟨⟨isFigures_toString _, by decide⟩, isFigures_padded _ _⟩

theorem isFigures_yearText (year : Int) : IsFigures (Timestamp.yearText year) := by
  unfold Timestamp.yearText
  rw [isFigures_append]
  refine ⟨?_, isFigures_padded _ _⟩
  split
  · decide
  · split <;> decide

theorem isFigures_toSeconds (timestamp : Timestamp) : IsFigures timestamp.toSeconds := by
  simp only [Timestamp.toSeconds, Timestamp.dateTimeText, isFigures_append, isFigures_padded,
    isFigures_yearText, and_true, true_and]
  decide

end TierAudit.Text
