import Mathlib.Data.List.Induction
import TierAudit.Variables

/-!
# Variables — declared one after another

What there is in variables that pairs of a name and a value declare one after another: every name
once, trimmed and where it is declared first (`names_ofList`), with the value of its last
declaration (`get?_ofList`).  Blank names are passed over.

All that can be asked of variables can be told by going through them in order (`IsOrderly`), and
what is met on the way, declared again, gives the same variables (`ofList_toList`).
-/

namespace TierAudit.Variables
open Text

/-! ### Going through variables -/

section
variable {vars : Variables} {name value : String}

/-- The value of a name is that of the one variable of this name. -/
theorem get?_eq_some_iff : vars.get? name = some value ↔
    ∃ v ∈ vars.entries, v.name = name ∧ v.value = value := by
  obtain ⟨entries, nodup⟩ := vars
  simp only [get?]
  induction entries with
  | nil => simp
  | cons e rest ih =>
      rw [List.map_cons, List.nodup_cons] at nodup
      by_cases he : e.name = name
      · rw [List.find?_cons_of_pos (by simpa using he), Option.map_some, Option.some.injEq]
        constructor
        · rintro rfl
          exact ⟨e, List.mem_cons_self, he, rfl⟩
        · rintro ⟨v, hv, hname, rfl⟩
          rcases List.mem_cons.mp hv with rfl | hv
          · rfl
          · -- A second variable of this name is excluded.
            exact absurd (List.mem_map.mpr ⟨v, hv, hname.trans he.symm⟩) nodup.1
      · rw [List.find?_cons_of_neg (by simpa using he), ih nodup.2]
        constructor
        · rintro ⟨v, hv, h⟩
          exact ⟨v, List.mem_cons_of_mem _ hv, h⟩
        · rintro ⟨v, hv, hname, hvalue⟩
          rcases List.mem_cons.mp hv with rfl | hv
          · exact absurd hname he
          · exact ⟨v, hv, hname, hvalue⟩

theorem mem_toList_iff : (name, value) ∈ vars.toList ↔ vars.get? name = some value := by
  rw [get?_eq_some_iff, toList, List.mem_map]
  simp only [Prod.mk.injEq]

theorem mem_names_iff : name ∈ vars.names ↔ ∃ value, vars.get? name = some value := by
  simp only [get?_eq_some_iff, names, List.mem_map]
  constructor
  · rintro ⟨v, hv, hname⟩
    exact ⟨v.value, v, hv, hname, rfl⟩
  · rintro ⟨value, v, hv, hname, -⟩
    exact ⟨v, hv, hname⟩

theorem names_eq_map_toList (vars : Variables) : vars.names = vars.toList.map (·.1) := by
  rw [names, toList, List.map_map]
  rfl

/-- A name that is declared is trimmed, and so is its value. -/
theorem trim_of_get? (h : vars.get? name = some value) : trim name = name ∧ trim value = value := by
  obtain ⟨v, -, rfl, rfl⟩ := get?_eq_some_iff.mp h
  exact ⟨v.name_trimmed, v.value_trimmed⟩

theorem ne_of_get? (h : vars.get? name = some value) : name ≠ "" := by
  obtain ⟨v, -, rfl, -⟩ := get?_eq_some_iff.mp h
  exact v.name_ne

end

/-- Trimmed names that are not empty can be given any trimmed values. -/
theorem exists_get? (pairs : List (String × String))
    (h : ∀ pair ∈ pairs, trim pair.1 = pair.1 ∧ pair.1 ≠ "" ∧ trim pair.2 = pair.2)
    (hnodup : (pairs.map (·.1)).Nodup) :
    ∃ vars : Variables, ∀ pair ∈ pairs, vars.get? pair.1 = some pair.2 := by
  have hnames : (pairs.pmap (fun pair hp => (⟨pair.1, pair.2, hp.1, hp.2.1, hp.2.2⟩ : Variable))
      h).map Variable.name = pairs.map (·.1) := by
    rw [List.map_pmap, List.pmap_eq_map]
  refine ⟨⟨_, hnames.symm ▸ hnodup⟩, fun pair hp => ?_⟩
  exact get?_eq_some_iff.mpr ⟨_, List.mem_pmap.mpr ⟨pair, hp, rfl⟩, rfl, rfl⟩

/-! ### What variables have in common -/

/-- Both declare the same values for some names, or no values. -/
def AgreeOn (a b : Variables) (names : List String) : Prop :=
  ∀ name ∈ names, a.get? name = b.get? name

instance (a b : Variables) (names : List String) : Decidable (a.AgreeOn b names) :=
  inferInstanceAs (Decidable (∀ name ∈ names, a.get? name = b.get? name))

/-- Both declare the same values for all other names. -/
def AgreeBeside (a b : Variables) (names : List String) : Prop :=
  ∀ name, name ∉ names → a.get? name = b.get? name

/-- Whatever the one declares, the other declares with the same value. -/
def Within (a b : Variables) : Prop :=
  ∀ name value, a.get? name = some value → b.get? name = some value

section
variable {a b : Variables}

theorem within_iff : a.Within b ↔ ∀ v ∈ a.entries, b.get? v.name = some v.value := by
  constructor
  · intro h v hv
    exact h v.name v.value (get?_eq_some_iff.mpr ⟨v, hv, rfl, rfl⟩)
  · intro h name value hvalue
    obtain ⟨v, hv, rfl, rfl⟩ := get?_eq_some_iff.mp hvalue
    exact h v hv

instance : Decidable (a.Within b) := decidable_of_iff _ within_iff.symm

theorem within_of_subset (h : a.entries ⊆ b.entries) : a.Within b :=
  within_iff.mpr fun v hv => get?_eq_some_iff.mpr ⟨v, h hv, rfl, rfl⟩

/-- The order of variables does not matter to their values. -/
theorem get?_eq_of_perm (h : a.entries.Perm b.entries) (name : String) :
    a.get? name = b.get? name :=
  Option.ext fun value =>
    ⟨within_of_subset h.subset name value, within_of_subset h.symm.subset name value⟩

end

/-! ### One declaration -/

section
variable (vars : Variables) (name value : String)

theorem find?_put (v : Variable) (entries : List Variable) (name : String) :
    (put v entries).find? (·.name = name) =
      if v.name = name then some v else entries.find? (·.name = name) := by
  induction entries with
  | nil => by_cases hv : v.name = name <;> simp [put, hv]
  | cons e rest ih =>
      by_cases he : e.name = v.name
      · by_cases hv : v.name = name <;> simp [put, he, hv]
      · rw [put, if_neg he]
        by_cases hname : e.name = name
        · -- The first variable is neither replaced nor passed over.
          have hv : v.name ≠ name := fun hv => he (hname.trans hv.symm)
          simp [hname, hv]
        · simp [hname, ih]

/-- A blank name declares nothing. -/
theorem ofRaw?_eq_none_iff : Variable.ofRaw? name value = none ↔ trim name = "" := by
  rw [Variable.ofRaw?]
  split
  · next h => simp [h]
  · next h => simpa using h

theorem insert_of_blank (h : trim name = "") : vars.insert name value = vars := by
  rw [insert, (ofRaw?_eq_none_iff name value).mpr h]

theorem entries_insert (h : trim name ≠ "") : (vars.insert name value).entries =
    put ⟨trim name, trim value, trim_trim name, h, trim_trim value⟩ vars.entries := by
  rw [insert, Variable.ofRaw?, dif_pos h]

theorem tryInsert_snd : (vars.tryInsert name value).2 = vars.insert name value := by
  rw [tryInsert]

theorem tryInsert_eq_false_iff : (vars.tryInsert name value).1 = false ↔ trim name = "" := by
  rw [tryInsert, Option.isSome_eq_false_iff, Option.isNone_iff_eq_none, ofRaw?_eq_none_iff]

/-- A declaration adds its name at the end, unless it is blank or there already. -/
theorem names_insert : (vars.insert name value).names =
    if trim name = "" ∨ trim name ∈ vars.names then vars.names
    else vars.names ++ [trim name] := by
  by_cases h : trim name = ""
  · rw [insert_of_blank vars name value h, if_pos (.inl h)]
  · rw [names, entries_insert vars name value h, names_put]
    simp only [h, false_or, names]

/-- A declaration gives its name its value, unless it is blank, and leaves other names alone. -/
theorem get?_insert (other : String) : (vars.insert name value).get? other =
    if trim name ≠ "" ∧ trim name = other then some (trim value) else vars.get? other := by
  by_cases h : trim name = ""
  · rw [insert_of_blank vars name value h, if_neg fun hname => hname.1 h]
  · rw [get?, entries_insert vars name value h, find?_put, apply_ite (Option.map Variable.value)]
    exact if_congr (and_iff_right h).symm rfl rfl

end

/-! ### Declarations one after another -/

/-- The names that pairs declare, in the order in which each is declared first. -/
def declaredNames (pairs : List (String × String)) : List String :=
  ((pairs.map fun pair => trim pair.1).filter (· ≠ "")).eraseDups

/-- The value that the last of the pairs for a name gives it. -/
def lastValue? (pairs : List (String × String)) (name : String) : Option String :=
  (pairs.filter fun pair => trim pair.1 = name).getLast?.map fun pair => trim pair.2

/-- Of a text that is there already nothing is added. -/
theorem eraseDups_concat (texts : List String) (text : String) :
    (texts ++ [text]).eraseDups =
      if text ∈ texts then texts.eraseDups else texts.eraseDups ++ [text] := by
  rw [List.eraseDups_append, List.removeAll]
  by_cases htext : text ∈ texts <;> simp [htext, List.eraseDups_cons]

section
variable (pairs : List (String × String)) (pair : String × String)

theorem ofList_concat : ofList (pairs ++ [pair]) = (ofList pairs).insert pair.1 pair.2 := by
  rw [ofList, List.foldl_append, ← ofList, List.foldl_cons, List.foldl_nil]

theorem declaredNames_concat : declaredNames (pairs ++ [pair]) =
    if trim pair.1 = "" ∨ trim pair.1 ∈ declaredNames pairs then declaredNames pairs
    else declaredNames pairs ++ [trim pair.1] := by
  by_cases hblank : trim pair.1 = ""
  · simp [declaredNames, hblank]
  · have hfilter : [trim pair.1].filter (· ≠ "") = [trim pair.1] := by simp [hblank]
    simp only [hblank, false_or]
    rw [declaredNames, List.map_append, List.map_singleton, List.filter_append, hfilter,
      eraseDups_concat]
    exact if_congr List.mem_eraseDups.symm rfl rfl

theorem lastValue?_concat (name : String) : lastValue? (pairs ++ [pair]) name =
    if trim pair.1 = name then some (trim pair.2) else lastValue? pairs name := by
  by_cases hname : trim pair.1 = name <;> simp [lastValue?, List.filter_append, hname]

/-- **The names are in the order of their first declarations.** -/
theorem names_ofList : (ofList pairs).names = declaredNames pairs := by
  -- From the end: the last pair is the last that is inserted.
  induction pairs using List.reverseRecOn with
  | nil => rfl
  | append_singleton pairs pair ih =>
      rw [ofList_concat, names_insert, declaredNames_concat, ih]

/-- **Each name has the value of its last declaration.** -/
theorem get?_ofList {name : String} (hname : name ≠ "") :
    (ofList pairs).get? name = lastValue? pairs name := by
  induction pairs using List.reverseRecOn with
  | nil => rfl
  | append_singleton pairs pair ih =>
      rw [ofList_concat, get?_insert, lastValue?_concat, ih]
      by_cases hpair : trim pair.1 = name <;> simp [hpair, hname]

end

/-! ### Declaring the same again -/

theorem put_of_notMem {v : Variable} {entries : List Variable}
    (h : v.name ∉ entries.map Variable.name) : put v entries = entries ++ [v] := by
  induction entries with
  | nil => rfl
  | cons e rest ih =>
      rw [List.map_cons, List.mem_cons, not_or] at h
      rw [put, if_neg (Ne.symm h.1), ih h.2, List.cons_append]

/-- A variable is declared by its own name and value. -/
theorem ofRaw?_self (v : Variable) : Variable.ofRaw? v.name v.value = some v := by
  obtain ⟨name, value, hname, hne, hvalue⟩ := v
  simp [Variable.ofRaw?, hname, hne, hvalue]

/-- New variables are added behind those that are there. -/
theorem entries_foldl_insert (entries : List Variable) (vars : Variables)
    (h : ((vars.entries ++ entries).map Variable.name).Nodup) :
    ((entries.map fun v => (v.name, v.value)).foldl
      (fun vars (name, value) => vars.insert name value) vars).entries = vars.entries ++ entries := by
  -- What is still to be declared stays new, since all names together are distinct.
  induction entries generalizing vars with
  | nil => simp
  | cons v rest ih =>
      have hnew : v.name ∉ vars.entries.map Variable.name := by
        rw [List.map_append, List.map_cons, List.nodup_append] at h
        exact fun hmem => h.2.2 _ hmem _ List.mem_cons_self rfl
      have hinsert : (vars.insert v.name v.value).entries = vars.entries ++ [v] := by
        simp only [insert, ofRaw?_self, put_of_notMem hnew]
      rw [List.map_cons, List.foldl_cons, ih _ (by rw [hinsert, List.append_assoc]; exact h),
        hinsert, List.append_assoc, List.singleton_append]

theorem eq_of_entries_eq {a b : Variables} (h : a.entries = b.entries) : a = b := by
  cases a
  cases b
  cases h
  rfl

/-- **Variables that are declared again in their own order are the same.** -/
theorem ofList_toList (vars : Variables) : ofList vars.toList = vars :=
  eq_of_entries_eq (entries_foldl_insert vars.entries empty vars.nodup)

/-! ### What going through variables tells -/

/-- All that can be asked of variables can be told by going through them: how many there are, which
names they have and with which values.  The names are distinct, none is empty, and they and the
values are trimmed. -/
structure IsOrderly (vars : Variables) : Prop where
  size_eq : vars.size = vars.toList.length
  names_eq : vars.names = vars.toList.map (·.1)
  nodup : vars.names.Nodup
  contains_iff : ∀ name, vars.contains name = true ↔ name ∈ vars.names
  get?_iff : ∀ name value, vars.get? name = some value ↔ (name, value) ∈ vars.toList
  trimmed : ∀ pair ∈ vars.toList, pair.1 ≠ "" ∧ trim pair.1 = pair.1 ∧ trim pair.2 = pair.2
  get?_untrimmed : ∀ name, trim name ≠ name → vars.get? name = none
  rebuilt : ofList vars.toList = vars

theorem isOrderly (vars : Variables) : vars.IsOrderly where
  size_eq := by rw [size, toList, List.length_map]
  names_eq := vars.names_eq_map_toList
  nodup := vars.nodup
  contains_iff name := by rw [contains, Option.isSome_iff_exists, mem_names_iff]
  get?_iff _ _ := mem_toList_iff.symm
  trimmed pair hpair :=
    have hget := mem_toList_iff.mp hpair
    ⟨ne_of_get? hget, trim_of_get? hget⟩
  get?_untrimmed name hname :=
    Option.eq_none_iff_forall_not_mem.mpr fun _ hvalue => hname (trim_of_get? hvalue).1
  rebuilt := vars.ofList_toList

end TierAudit.Variables
