import Mathlib.Data.List.Forall2
import TierAudit.Report.Format

/-!
# Report — the table of variables

The separator stands in one column of the table (`toTable_aligned`).  The width of the column of names
is a number of bytes and a name is filled up with blanks by its characters: a name has no more
characters than bytes (`Text.length_le_utf8ByteSize`), so it fits into the column, and filled up it
has as many characters as every other name.
-/

namespace TierAudit

/-- A text has at least one byte for every character. -/
theorem Text.length_le_utf8ByteSize (text : String) : text.length ≤ text.utf8ByteSize := by
  have hchars : ∀ cs : List Char, cs.length ≤ (String.ofList cs).utf8ByteSize := by
    intro cs
    induction cs with
    | nil => exact Nat.zero_le _
    | cons c rest ih =>
        have hpos := c.utf8Size_pos
        rw [String.ofList_cons, String.utf8ByteSize_append, String.utf8ByteSize_singleton,
          List.length_cons]
        omega
  have h := hchars text.toList
  rwa [String.length_toList, String.ofList_toList] at h

namespace Variables
open Text

/-! ### The width of the column of names -/

theorem foldl_max_le_iff {names : List String} {start width : Nat} :
    names.foldl (fun width name => max width name.utf8ByteSize) start ≤ width ↔
      start ≤ width ∧ ∀ name ∈ names, name.utf8ByteSize ≤ width := by
  induction names generalizing start with
  | nil => simp
  | cons name rest ih =>
      rw [List.foldl_cons, ih, Nat.max_le, List.forall_mem_cons, and_assoc]

/-- The width is that of the longest name. -/
theorem columnWidth_le_iff {vars : Variables} {width : Nat} :
    vars.columnWidth ≤ width ↔ ∀ entry ∈ vars.entries, entry.name.utf8ByteSize ≤ width := by
  rw [columnWidth, foldl_max_le_iff, names, List.forall_mem_map]
  exact and_iff_right (Nat.zero_le width)

theorem utf8ByteSize_le_columnWidth {vars : Variables} {entry : Variable}
    (h : entry ∈ vars.entries) : entry.name.utf8ByteSize ≤ vars.columnWidth :=
  columnWidth_le_iff.mp (Nat.le_refl _) entry h

/-! ### Rows -/

/-- A line with a variable.  Its separator begins behind `column` characters, and these are a margin,
the whole name and blanks. -/
def IsRow (column : Nat) (entry : Variable) (line : String) : Prop :=
  ∃ padding, line = "  " ++ entry.name ++ blanks padding ++ " = " ++ entry.value ++ "\n" ∧
    ("  " ++ entry.name ++ blanks padding).length = column

/-- A row is as wide as it should be if the name fits. -/
theorem isRow_row {width : Nat} {entry : Variable} (h : entry.name.length ≤ width) :
    IsRow (2 + width) entry (row width entry) := by
  refine ⟨width - entry.name.length, ?_, ?_⟩
  · simp only [row, padRight, String.append_assoc]
  · have hmargin : "  ".length = 2 := rfl
    have hpadded := length_padRight width entry.name
    rw [padRight] at hpadded
    rw [String.append_assoc, String.length_append, hpadded, hmargin]
    omega

/-- **The separator stands in one column.**  The table, as a text and for build servers, is a header
and a row for every variable in its order.  In every row the same number of characters stands in
front of the separator, and these end with the whole name and blanks.  It is the number of bytes of
the longest name, and of the margin. -/
theorem toTable_aligned (vars : Variables) (file : Path) :
    (∀ format, format = .text ∨ format = .junit → vars.render file format = vars.toTable file) ∧
    ∃ column rows,
      vars.toTable file =
        file.text ++ " (" ++ toString vars.entries.length ++ " variables)\n" ++ String.join rows ∧
      List.Forall₂ (IsRow column) vars.entries rows ∧
      (∀ entry ∈ vars.entries, 2 + entry.name.length ≤ column) ∧
      ∀ n, column ≤ 2 + n ↔ ∀ entry ∈ vars.entries, entry.name.utf8ByteSize ≤ n := by
  have hfits : ∀ entry ∈ vars.entries, entry.name.length ≤ vars.columnWidth := fun entry hentry =>
    Nat.le_trans (length_le_utf8ByteSize entry.name) (utf8ByteSize_le_columnWidth hentry)
  refine ⟨?_, 2 + vars.columnWidth, vars.entries.map (row vars.columnWidth), rfl, ?_, ?_, ?_⟩
  · rintro format (rfl | rfl) <;> rfl
  · rw [List.forall₂_map_right_iff, List.forall₂_same]
    exact fun entry hentry => isRow_row (hfits entry hentry)
  · exact fun entry hentry => Nat.add_le_add_left (hfits entry hentry) 2
  · exact fun n => (Nat.add_le_add_iff_left).trans columnWidth_le_iff

/-- A name with more bytes than characters, in front of a longer text of fewer bytes. -/
def umlauts : Variables := .ofList [("Größe", "1"), ("length", "2")]

theorem toTable_aligned_umlauts :
    umlauts.toTable ⟨"IT.substvar"⟩ = "IT.substvar (2 variables)\n  Größe   = 1\n  length  = 2\n" ∧
      ∃ rows, List.Forall₂ (IsRow 9) umlauts.entries rows := by
  obtain ⟨-, column, rows, -, hrows, -, hcolumn⟩ := toTable_aligned umlauts ⟨"IT.substvar"⟩
  have hnine : column = 9 := by
    refine Nat.le_antisymm ((hcolumn 7).mpr (by decide +kernel)) (Nat.not_lt.mp fun hlt => ?_)
    exact absurd ((hcolumn 6).mp (Nat.le_of_lt_succ hlt)) (by decide +kernel)
  exact ⟨by decide +kernel, rows, hnine ▸ hrows⟩

end Variables
end TierAudit
