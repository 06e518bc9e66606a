import TierAudit.Proofs.Substvar.Acceptance
import TierAudit.Proofs.Variables
import TierAudit.Substvar.File

/-!
# Substitution variable files — declarations one after another

The variables of a file are those that its declarations declare one after another
(`declaredBy_of_ofDocument`).  So they stand in the order in which the file declares them first, and
have the values that it gives them last (`declared_in_order`).
-/

namespace TierAudit.Markup.Item
open Substvar

/-- The names and values that items declare. -/
def pairsAll (items : List Item) : List (String × String) :=
  (declarationsAll items).filterMap Parts.pair?

end TierAudit.Markup.Item

namespace TierAudit.Substvar
open Markup Text Variables

/-- Variables are what the declarations of a document declare, one after another. -/
def DeclaredBy (document : Document) (vars : Variables) : Prop :=
  ∃ items, document.events = Item.eventsAll items ∧ vars = ofList (Item.pairsAll items)

theorem declaredBy_of_ofDocument {document : Document} {names : List Bytes} {vars : Variables}
    (hn : openAfter [] document.events = some names) (h : ofDocument document = .ok vars) :
    DeclaredBy document vars := by
  obtain ⟨hread, rfl⟩ := closed_of_ofDocument hn h
  obtain ⟨items, hitems⟩ := exists_items hn
  rw [ofDocument_of_read hread, hitems] at h
  refine ⟨items, hitems, ?_⟩
  rw [Item.pairsAll, ofList_filterMap_pair?]
  exact (run_document items).eq_of_ok h

theorem declaredBy_of_ofText {text : String} {vars : Variables} (h : ofText text = .ok vars) :
    DeclaredBy (.ofText text) vars := by
  obtain ⟨names, hn⟩ := openAfter_ofText text
  exact declaredBy_of_ofDocument hn h

theorem declaredBy_of_load {fs : FileSystem} {path : Path} {vars : Variables}
    (h : load fs path = .ok vars) :
    ∃ bytes, fs.read path = .ok bytes ∧ DeclaredBy (.ofBytes bytes) vars := by
  unfold load at h
  split at h
  · cases h
  · next bytes hread =>
    obtain ⟨names, hn⟩ := openAfter_ofBytes bytes
    exact ⟨bytes, hread, declaredBy_of_ofDocument hn (mapError_eq_ok_iff.mp h)⟩

/-- **Variables stand in the order in which they are first declared, with the values that they are
given last.**  A declaration is refused, and changes nothing, exactly if its name is blank.  All that
can be asked of variables can be told by going through them.  This holds of variables that pairs
declare one after another, and so it does of those that are read from a file or a text: there the
pairs are the declarations of the document. -/
theorem declared_in_order :
    (∀ pairs : List (String × String), (ofList pairs).names = declaredNames pairs ∧
      ∀ name ∈ declaredNames pairs, ∃ value,
        lastValue? pairs name = some value ∧ (ofList pairs).get? name = some value) ∧
    (∀ (vars : Variables) (name value : String),
      (vars.tryInsert name value).2 = vars.insert name value ∧
        ((vars.tryInsert name value).1 = false ↔ trim name = "") ∧
        (trim name = "" → vars.insert name value = vars)) ∧
    (∀ vars : Variables, vars.IsOrderly) ∧
    (∀ (fs : FileSystem) (path : Path) (vars : Variables), load fs path = .ok vars →
      vars.IsOrderly ∧ ∃ bytes, fs.read path = .ok bytes ∧ DeclaredBy (.ofBytes bytes) vars) ∧
    ∀ (text : String) (vars : Variables), ofText text = .ok vars →
      vars.IsOrderly ∧ DeclaredBy (.ofText text) vars := by
  refine ⟨fun pairs => ⟨names_ofList pairs, fun name hname => ?_⟩, fun vars name value => ?_,
    isOrderly, fun fs path vars h => ⟨vars.isOrderly, declaredBy_of_load h⟩,
    fun text vars h => ⟨vars.isOrderly, declaredBy_of_ofText h⟩⟩
  · obtain ⟨value, hvalue⟩ := mem_names_iff.mp (names_ofList pairs ▸ hname)
    exact ⟨value, get?_ofList pairs (ne_of_get? hvalue) ▸ hvalue, hvalue⟩
  · exact ⟨vars.tryInsert_snd name value, vars.tryInsert_eq_false_iff name value,
      vars.insert_of_blank name value⟩

/-- A file that declares a variable twice. -/
def redeclaration : String :=
  "<r><globalVariable><name> B </name></globalVariable>" ++
    "<globalVariable><name>A</name></globalVariable>" ++
    "<globalVariable><name>B</name><value> 2 </value></globalVariable></r>"

def redeclarations : FileSystem where
  root := .directory .full [("f", .file .full (Bytes.ofText redeclaration))]
  workingDirectory := .ofLocation []
  wellNamed := by decide +kernel
  anchored := by decide +kernel

/-- The variable keeps its place, in front of the other one, and has the later value. -/
theorem declared_in_order_redeclaration :
    load redeclarations ⟨"/f"⟩ = .ok (ofList [("B", "2"), ("A", "")]) ∧
      (ofList [("B", "2"), ("A", "")]).IsOrderly ∧
      (ofList [(" B ", ""), (" ", "1"), ("A", ""), ("B", " 2 ")]).names = ["B", "A"] := by
  obtain ⟨hpairs, -, -, hload, -⟩ := declared_in_order
  have hread : load redeclarations ⟨"/f"⟩ = .ok (ofList [("B", "2"), ("A", "")]) :=
    eq_ok_of_toOption (by decide +kernel)
  refine ⟨hread, (hload _ _ _ hread).1, ?_⟩
  rw [(hpairs _).1]
  decide +kernel

end TierAudit.Substvar
