import TierAudit.Text.Blank

/-!
# Variables

The global variables that a file declares: name and value pairs in the order in which the names were
first declared.  Names and values are trimmed, a blank name declares nothing, and of two
declarations of one name the later gives the value and the earlier the place.
-/

namespace TierAudit
open Text

/-- A declared variable. -/
structure Variable where
  name : String
  value : String
  name_trimmed : trim name = name
  name_ne : name ≠ ""
  value_trimmed : trim value = value
  deriving DecidableEq

/-- The variable that a name and a value declare, if the name is not blank. -/
def Variable.ofRaw? (name value : String) : Option Variable :=
  if h : trim name ≠ "" then
    some ⟨trim name, trim value, trim_trim name, h, trim_trim value⟩
  else none

/-- Variables of distinct names. -/
structure Variables where
  entries : List Variable
  nodup : (entries.map Variable.name).Nodup
  deriving DecidableEq

namespace Variables

/-- No variable. -/
def empty : Variables := ⟨[], List.nodup_nil⟩

instance : Inhabited Variables := ⟨empty⟩

/-- A variable takes the place of the one of its name, or the last place. -/
def put (v : Variable) : List Variable → List Variable
  | [] => [v]
  | e :: rest => if e.name = v.name then v :: rest else e :: put v rest

/-- Putting a variable adds its name at the end, unless it is there already. -/
theorem names_put (v : Variable) (entries : List Variable) :
    (put v entries).map Variable.name =
      if v.name ∈ entries.map Variable.name then entries.map Variable.name
      else entries.map Variable.name ++ [v.name] := by
  induction entries with
  | nil => simp [put]
  | cons e rest ih =>
    by_cases he : e.name = v.name
    · simp [put, he]
    · have hne : v.name ≠ e.name := fun h => he h.symm
      by_cases hm : v.name ∈ rest.map Variable.name
      · simp only [put, he, if_false, List.map_cons, ih, hm, if_true, List.mem_cons, or_true]
      · simp only [put, he, if_false, List.map_cons, ih, hm, List.mem_cons, hne, or_self,
          List.cons_append]

theorem nodup_put (v : Variable) {entries : List Variable}
    (h : (entries.map Variable.name).Nodup) : ((put v entries).map Variable.name).Nodup := by
  rw [names_put]
  split
  · exact h
  · rename_i hm
    rw [List.nodup_append]
    exact ⟨h, by simp, fun a ha b hb hab => hm (by simp_all)⟩

/-- Adds what a name and a value declare. -/
def insert (vars : Variables) (name value : String) : Variables :=
  match Variable.ofRaw? name value with
  | some v => ⟨put v vars.entries, nodup_put v vars.nodup⟩
  | none => vars

/-- Adds what a name and a value declare, and says whether they declare anything. -/
def tryInsert (vars : Variables) (name value : String) : Bool × Variables :=
  ((Variable.ofRaw? name value).isSome, vars.insert name value)

/-- The variables that pairs declare one after another. -/
def ofList (pairs : List (String × String)) : Variables :=
  pairs.foldl (fun vars (name, value) => vars.insert name value) empty

/-- The pairs in order. -/
def toList (vars : Variables) : List (String × String) :=
  vars.entries.map fun v => (v.name, v.value)

/-- The names in order. -/
def names (vars : Variables) : List String :=
  vars.entries.map Variable.name

/-- The value of a name. -/
def get? (vars : Variables) (name : String) : Option String :=
  (vars.entries.find? (·.name = name)).map Variable.value

def contains (vars : Variables) (name : String) : Bool :=
  (vars.get? name).isSome

def size (vars : Variables) : Nat := vars.entries.length

/-- The same names with the same values, in any order. -/
def sameAs (a b : Variables) : Bool :=
  a.size = b.size && a.entries.all fun v => b.get? v.name = some v.value

end Variables

end TierAudit
