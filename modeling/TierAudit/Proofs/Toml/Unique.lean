import TierAudit.Toml.Document

/-!
# TOML — keys are unique

In what is read from a document no table has a key twice, however deep it lies (`unique_read?`).
Every way to add to a table keeps that: one that finds the key already there replaces its value or
refuses.
-/

namespace TierAudit.Toml

/-! ### Values -/

/-- Neither an array nor a table. -/
def Value.isScalar : Value → Bool
  | text _ | integer _ | boolean _ | float _ | dateTime _ => true
  | array _ | table .. | tables _ => false

/-- No table in the value has a key twice. -/
inductive Value.Unique : Value → Prop where
  | scalar {value : Value} : value.isScalar = true → Unique value
  | array {items : List Value} : (∀ value ∈ items, Unique value) → Unique (.array items)
  | table {origin : Origin} {entries : Entries} :
      (entries.map (·.1)).Nodup → (∀ entry ∈ entries, Unique entry.2) →
        Unique (.table origin entries)
  | tables {all : List Entries} :
      (∀ entries ∈ all, (entries.map (·.1)).Nodup) →
        (∀ entries ∈ all, ∀ entry ∈ entries, Unique entry.2) → Unique (.tables all)

/-- No key stands there twice, and the same holds of the values. -/
structure Entries.Unique (entries : Entries) : Prop where
  keys : (entries.map (·.1)).Nodup
  values : ∀ entry ∈ entries, entry.2.Unique

theorem Value.unique_table_iff {origin : Origin} {entries : Entries} :
    (Value.table origin entries).Unique ↔ entries.Unique := by
  constructor
  · intro h
    cases h with
    | scalar h => cases h
    | table hkeys hvalues => exact ⟨hkeys, hvalues⟩
  · exact fun h => .table h.keys h.values

theorem Value.unique_tables_iff {all : List Entries} :
    (Value.tables all).Unique ↔ ∀ entries ∈ all, entries.Unique := by
  constructor
  · intro h
    cases h with
    | scalar h => cases h
    | tables hkeys hvalues => exact fun entries he => ⟨hkeys entries he, hvalues entries he⟩
  · exact fun h => .tables (fun entries he => (h entries he).keys)
      fun entries he => (h entries he).values

/-! ### Adding to a table -/

namespace Entries
variable {entries entries' : Entries} {key : String} {value : Value}

theorem mem_of_get? (h : entries.get? key = some value) : (key, value) ∈ entries := by
  obtain ⟨entry, hfind, rfl⟩ := Option.map_eq_some_iff.mp h
  have hkey : entry.1 = key := by simpa using List.find?_some hfind
  exact hkey ▸ List.mem_of_find?_eq_some hfind

theorem not_mem_keys_of_get? (h : entries.get? key = none) : key ∉ entries.map (·.1) := by
  rw [get?, Option.map_eq_none_iff, List.find?_eq_none] at h
  rintro hmem
  obtain ⟨entry, he, rfl⟩ := List.mem_map.mp hmem
  exact h entry he (decide_eq_true rfl)

theorem mem_put {entry : String × Value} (h : entry ∈ put key value entries) :
    entry = (key, value) ∨ entry ∈ entries := by
  induction entries with
  | nil => exact .inl (List.mem_singleton.mp h)
  | cons first rest ih =>
      rw [put] at h
      split at h
      · exact (List.mem_cons.mp h).imp_right (List.mem_cons_of_mem _)
      · rcases List.mem_cons.mp h with rfl | h
        · exact .inr List.mem_cons_self
        · exact (ih h).imp_right (List.mem_cons_of_mem _)

namespace Unique

theorem nil : Unique [] := ⟨List.nodup_nil, by simp⟩

theorem get? (h : entries.Unique) (hget : entries.get? key = some value) : value.Unique :=
  h.values _ (mem_of_get? hget)

theorem put (h : entries.Unique) (hvalue : value.Unique) : (entries.put key value).Unique := by
  refine ⟨?_, fun entry he => ?_⟩
  · have hkeys := h.keys
    clear h
    induction entries with
    | nil => simp [Entries.put]
    | cons first rest ih =>
        rw [List.map_cons, List.nodup_cons] at hkeys
        rw [Entries.put]
        split
        · next hfirst => rwa [List.map_cons, List.nodup_cons, ← hfirst]
        · next hfirst =>
          rw [List.map_cons, List.nodup_cons]
          refine ⟨fun hmem => ?_, ih hkeys.2⟩
          obtain ⟨entry, he, hentry⟩ := List.mem_map.mp hmem
          rcases mem_put he with rfl | he
          · exact hfirst hentry.symm
          · exact hkeys.1 (hentry ▸ List.mem_map_of_mem he)
  · rcases mem_put he with rfl | he
    · exact hvalue
    · exact h.values entry he

theorem add? (h : entries.Unique) (hvalue : value.Unique)
    (hadd : Entries.add? key value entries = some entries') : entries'.Unique := by
  unfold Entries.add? at hadd
  split at hadd
  · cases hadd
  · next hnone =>
    cases hadd
    have hkey := not_mem_keys_of_get? (Option.not_isSome_iff_eq_none.mp hnone)
    refine ⟨?_, fun entry he => ?_⟩
    · rw [List.map_append, List.map_singleton, List.nodup_append]
      refine ⟨h.keys, by simp, fun other hother last hlast hsame => hkey ?_⟩
      have hlast : last = key := List.mem_singleton.mp hlast
      rwa [← hlast, ← hsame]
    · rcases List.mem_append.mp he with he | he
      · exact h.values entry he
      · rwa [List.mem_singleton.mp he]

/-- A change that keeps keys unique where keys lead keeps them unique all the way. -/
theorem update? {byDots : Bool} {change : Origin → Entries → Option Entries}
    (hchange : ∀ {origin entries entries'}, change origin entries = some entries' →
      Unique entries → Unique entries') {keys : List String} {origin : Origin}
    (h : entries.Unique) (hupdate : Entries.update? byDots change keys origin entries =
      some entries') : entries'.Unique := by
  induction keys generalizing origin entries entries' with
  | nil => exact hchange hupdate h
  | cons key keys ih =>
      rw [Entries.update?] at hupdate
      split at hupdate
      · obtain ⟨inner, hinner, hentries⟩ := Option.bind_eq_some_iff.mp hupdate
        cases hentries
        exact h.put (Value.unique_table_iff.mpr (ih nil hinner))
      · next inner hget =>
        split at hupdate
        · cases hupdate
        · obtain ⟨inner', hinner, hentries⟩ := Option.bind_eq_some_iff.mp hupdate
          cases hentries
          have hold := Value.unique_table_iff.mp (h.get? hget)
          exact h.put (Value.unique_table_iff.mpr (ih hold hinner))
      · next all hget =>
        obtain ⟨inner, hinner, hentries⟩ := Option.bind_eq_some_iff.mp hupdate
        cases hentries
        have hold := Value.unique_tables_iff.mp (h.get? hget)
        have hlast : Unique (all.getLast?.getD []) := by
          cases hlast : all.getLast? with
          | none => exact nil
          | some last => exact hold last (List.mem_of_getLast? hlast)
        refine h.put (Value.unique_tables_iff.mpr fun entries he => ?_)
        rcases List.mem_append.mp he with he | he
        · exact hold entries ((List.dropLast_sublist all).subset he)
        · exact List.mem_singleton.mp he ▸ ih hlast hinner
      · cases hupdate

theorem assign? {keys : List String} {origin : Origin} (h : entries.Unique)
    (hvalue : value.Unique) (hassign : entries.assign? keys key value origin = some entries') :
    entries'.Unique := by
  refine h.update? (fun {origin inner inner'} hchange hinner => ?_) hassign
  split at hchange
  · exact hinner.add? hvalue hchange
  · cases hchange

theorem openTable? {keys : List String} (h : entries.Unique)
    (hopen : entries.openTable? keys key = some entries') : entries'.Unique := by
  refine h.update? (fun {origin inner inner'} hchange hinner => ?_) hopen
  split at hchange
  · cases hchange
    exact hinner.put (Value.unique_table_iff.mpr nil)
  · next more hget =>
    cases hchange
    exact hinner.put (Value.unique_table_iff.mpr (Value.unique_table_iff.mp (hinner.get? hget)))
  · cases hchange

theorem appendTable? {keys : List String} (h : entries.Unique)
    (happend : entries.appendTable? keys key = some entries') : entries'.Unique := by
  refine h.update? (fun {origin inner inner'} hchange hinner => ?_) happend
  split at hchange
  · cases hchange
    exact hinner.put (Value.unique_tables_iff.mpr (List.forall_mem_singleton.mpr nil))
  · next all hget =>
    cases hchange
    have hold := Value.unique_tables_iff.mp (hinner.get? hget)
    refine hinner.put (Value.unique_tables_iff.mpr ?_)
    exact List.forall_mem_append.mpr ⟨hold, List.forall_mem_singleton.mpr nil⟩
  · cases hchange

end Unique
end Entries

/-! ### Reading -/

theorem unique_scalar? {cs : List Char} {value : Value} (h : scalar? cs = some value) :
    value.Unique := by
  refine .scalar ?_
  unfold scalar? at h
  repeat' split at h
  all_goals cases h
  all_goals rfl

/-- What the three readers of values read, with the same number of steps. -/
structure ReadsUnique (fuel : Nat) : Prop where
  value : ∀ {depth cs value rest}, value? fuel depth cs = some (value, rest) → value.Unique
  items : ∀ {depth cs items rest}, items? fuel depth cs = some (items, rest) →
    ∀ value ∈ items, value.Unique
  pairs : ∀ {depth cs rest} {entries entries' : Entries}, entries.Unique →
    pairs? fuel depth entries cs = some (entries', rest) → entries'.Unique

theorem readsUnique (fuel : Nat) : ReadsUnique fuel := by
  induction fuel with
  | zero =>
    refine ⟨fun h => ?_, fun h => ?_, fun _ h => ?_⟩
    · simp [value?] at h
    · simp [items?] at h
    · simp [pairs?] at h
  | succ fuel ih =>
    refine ⟨fun {depth cs value rest} h => ?_, fun {depth cs items rest} h => ?_,
      fun {depth cs rest entries entries'} hentries h => ?_⟩
    · unfold value? at h
      split at h
      · cases h
      · cases h
      · obtain ⟨⟨items, rest'⟩, hitems, hvalue⟩ := Option.map_eq_some_iff.mp h
        cases hvalue
        exact .array (ih.items hitems)
      · split at h
        · cases h
          exact Value.unique_table_iff.mpr .nil
        · obtain ⟨⟨entries, rest'⟩, hpairs, hvalue⟩ := Option.map_eq_some_iff.mp h
          cases hvalue
          exact Value.unique_table_iff.mpr (ih.pairs .nil hpairs)
      · obtain ⟨⟨text, rest'⟩, -, hvalue⟩ := Option.map_eq_some_iff.mp h
        cases hvalue
        exact .scalar rfl
      · obtain ⟨⟨text, rest'⟩, -, hvalue⟩ := Option.map_eq_some_iff.mp h
        cases hvalue
        exact .scalar rfl
      · obtain ⟨value', hscalar, hvalue⟩ := Option.map_eq_some_iff.mp h
        cases hvalue
        exact unique_scalar? hscalar
    · unfold items? at h
      split at h
      · cases h
        simp
      · obtain ⟨⟨value, rest'⟩, hvalue, h⟩ := Option.bind_eq_some_iff.mp h
        dsimp only at h
        split at h
        · cases h
          exact List.forall_mem_singleton.mpr (ih.value hvalue)
        · obtain ⟨⟨values, rest''⟩, hvalues, h⟩ := Option.bind_eq_some_iff.mp h
          cases h
          exact List.forall_mem_cons.mpr ⟨ih.value hvalue, ih.items hvalues⟩
        · cases h
    · unfold pairs? at h
      obtain ⟨⟨keys, key, rest'⟩, -, h⟩ := Option.bind_eq_some_iff.mp h
      dsimp only at h
      split at h
      · obtain ⟨⟨value, rest''⟩, hvalue, h⟩ := Option.bind_eq_some_iff.mp h
        obtain ⟨more, hassign, h⟩ := Option.bind_eq_some_iff.mp h
        have hmore := hentries.assign? (ih.value hvalue) hassign
        dsimp only at h
        split at h
        · cases h
          exact hmore
        · exact ih.pairs hmore h
        · cases h
      · cases h

theorem unique_line? {fuel : Nat} {here here' : Section} {cs rest : List Char}
    (h : here.root.Unique) (hline : line? fuel here cs = some (here', rest)) :
    here'.root.Unique := by
  unfold line? at hline
  split at hline
  · obtain ⟨⟨keys, key, rest'⟩, -, hline⟩ := Option.bind_eq_some_iff.mp hline
    dsimp only at hline
    split at hline
    · obtain ⟨root, happend, hline⟩ := Option.bind_eq_some_iff.mp hline
      obtain ⟨rest, -, hline⟩ := Option.bind_eq_some_iff.mp hline
      cases hline
      exact h.appendTable? happend
    · cases hline
  · obtain ⟨⟨keys, key, rest'⟩, -, hline⟩ := Option.bind_eq_some_iff.mp hline
    obtain ⟨root, hopen, hline⟩ := Option.bind_eq_some_iff.mp hline
    obtain ⟨rest, -, hline⟩ := Option.bind_eq_some_iff.mp hline
    cases hline
    exact h.openTable? hopen
  · split at hline
    · cases hline
      exact h
    · obtain ⟨⟨keys, key, rest'⟩, -, hline⟩ := Option.bind_eq_some_iff.mp hline
      dsimp only at hline
      split at hline
      · obtain ⟨⟨value, rest''⟩, hvalue, hline⟩ := Option.bind_eq_some_iff.mp hline
        obtain ⟨root, hupdate, hline⟩ := Option.bind_eq_some_iff.mp hline
        obtain ⟨rest, -, hline⟩ := Option.bind_eq_some_iff.mp hline
        cases hline
        refine h.update? (fun hassign hinner => ?_) hupdate
        exact hinner.assign? ((readsUnique fuel).value hvalue) hassign
      · cases hline

theorem unique_lines? {fuel : Nat} {here : Section} {cs : List Char} {entries : Entries}
    (h : here.root.Unique) (hlines : lines? fuel here cs = some entries) : entries.Unique := by
  induction fuel generalizing here cs with
  | zero =>
    cases cs with
    | nil =>
      cases hlines
      exact h
    | cons c rest => cases hlines
  | succ fuel ih =>
    cases cs with
    | nil =>
      cases hlines
      exact h
    | cons c rest =>
      obtain ⟨⟨here', rest'⟩, hline, hlines⟩ := Option.bind_eq_some_iff.mp hlines
      exact ih (unique_line? h hline) hlines

/-- **In a document no table has a key twice.** -/
theorem unique_read? {text : String} {entries : Entries} (h : read? text = some entries) :
    entries.Unique :=
  unique_lines? .nil h

end TierAudit.Toml
