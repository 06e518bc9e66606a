import TierAudit.Toml.Value

/-!
# TOML — tables

Adding to a table.  A key is given a value once; a header opens a table once; and a dotted key adds
only to tables that dotted keys have made.
-/

namespace TierAudit.Toml

namespace Entries

/-- The value of a key. -/
def get? (entries : Entries) (key : String) : Option Value :=
  (entries.find? (·.1 = key)).map (·.2)

/-- Replaces the value of a key, or adds one at the end. -/
def put (key : String) (value : Value) : Entries → Entries
  | [] => [(key, value)]
  | entry :: rest =>
    if entry.1 = key then (key, value) :: rest else entry :: put key value rest

/-- Adds a key that is not there yet. -/
def add? (key : String) (value : Value) (entries : Entries) : Option Entries :=
  if (entries.get? key).isSome then none else some (entries ++ [(key, value)])

/-- Changes the table that keys lead to, and makes the tables on the way that are not there.  A
header leads through any table and into the last one of a list, a dotted key not through a table
that has a header. -/
def update? (byDots : Bool) (change : Origin → Entries → Option Entries) :
    List String → Origin → Entries → Option Entries
  | [], origin, entries => change origin entries
  | key :: keys, _, entries =>
    match entries.get? key with
    | none => do
      let origin := if byDots then .dotted else .implied
      let inner ← update? byDots change keys origin []
      return entries.put key (.table origin inner)
    | some (.table origin inner) =>
      if origin = .inlined || (byDots && origin = .header) then none
      else do
        let inner ← update? byDots change keys origin inner
        return entries.put key (.table origin inner)
    | some (.tables all) => do
      let inner ← update? byDots change keys .header (all.getLast?.getD [])
      return entries.put key (.tables (all.dropLast ++ [inner]))
    | some _ => none

/-- Gives a dotted key a value.  Only a table that dotted keys have made can be added to by more
than one key. -/
def assign? (keys : List String) (key : String) (value : Value) (origin : Origin)
    (entries : Entries) : Option Entries :=
  update? true
    (fun origin inner =>
      if keys.isEmpty || origin = .dotted then add? key value inner else none)
    keys origin entries

/-- Opens the table of a header, which may so far have been implied by headers below it. -/
def openTable? (keys : List String) (key : String) (entries : Entries) : Option Entries :=
  update? false
    (fun _ inner =>
      match inner.get? key with
      | none => some (inner.put key (.table .header []))
      | some (.table .implied more) => some (inner.put key (.table .header more))
      | some _ => none)
    keys .header entries

/-- Opens one more table of a list. -/
def appendTable? (keys : List String) (key : String) (entries : Entries) : Option Entries :=
  update? false
    (fun _ inner =>
      match inner.get? key with
      | none => some (inner.put key (.tables [[]]))
      | some (.tables all) => some (inner.put key (.tables (all ++ [[]])))
      | some _ => none)
    keys .header entries

end Entries

end TierAudit.Toml
