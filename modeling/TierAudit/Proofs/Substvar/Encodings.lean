import TierAudit.Proofs.Markup.Transcoding
import TierAudit.Proofs.Substvar.Truncation
import TierAudit.Substvar.File

/-!
# Substitution variable files — encodings

Reading a file agrees with reading the text that it holds (`load_ofText`).  In UTF-8 the two scans
are the same, with or without a mark (`ofBytes_ofText`).  In another encoding the scans differ, but
not in what is read: a lexeme and the recoded lexeme are read alike (`step_recode`), and so are two
scans, one after the other lexeme (`readsFrom_recode`).
-/

namespace TierAudit.Substvar
open Markup Text
open Bytes (AllAscii Recoding)

/-! ### Reading recoded events -/

section
variable {f : Recoding} {source target : Encoding}

theorem ofLocalName?_apply (localName : Bytes) :
    Field.ofLocalName? (f.apply localName) = Field.ofLocalName? localName := by
  have hname : AllAscii (Bytes.ofText "name") := by decide
  have hvalue : AllAscii (Bytes.ofText "value") := by decide
  unfold Field.ofLocalName?
  simp only [f.apply_eq_ascii_iff hname, f.apply_eq_ascii_iff hvalue]

theorem wanted?_apply (pending : Pending) (localName : Bytes) :
    pending.wanted? (f.apply localName) = pending.wanted? localName := by
  rw [Pending.wanted?, ofLocalName?_apply, Pending.wanted?]

namespace Progress

theorem openElement_apply (p : Progress) (localName : Bytes) :
    p.openElement (f.apply localName) = p.openElement localName := by
  have hname : AllAscii globalVariable := by decide
  unfold openElement Pending.openElement
  simp only [wanted?_apply, f.apply_eq_ascii_iff hname]

theorem emptyElement_apply (p : Progress) (localName : Bytes) :
    p.emptyElement (f.apply localName) = p.emptyElement localName := by
  unfold emptyElement Pending.emptyElement
  simp only [wanted?_apply]

theorem decode_apply (hf : f.Transcodes source target) (bytes : Bytes) :
    decode target (f.apply bytes) = decode source bytes := by
  rw [decode, hf.decode?, decode]

/-- **A recoded lexeme** is read as the lexeme itself. -/
theorem step_recode (hf : f.Transcodes source target) (p : Progress) {event : Event}
    (hsource : event.encoding = source) : p.step (event.recode f target) = p.step event := by
  obtain ⟨lexeme, encoding⟩ := event
  obtain rfl : encoding = source := hsource
  cases lexeme with
  | start tag =>
      simp only [Event.recode, Lexeme.recode, step, Tag.localName_recode, openElement_apply]
  | empty tag =>
      simp only [Event.recode, Lexeme.recode, step, Tag.localName_recode, emptyElement_apply]
  | text run =>
      simp only [Event.recode, Lexeme.recode, step, f.all_apply .isAsciiBlank, decode_apply hf]
  | cdata body => simp only [Event.recode, Lexeme.recode, step, decode_apply hf]
  | finish _ | comment _ | instruction _ | declaration _ | doctype _ => rfl

/-- Recoded events are read as the events themselves. -/
theorem run_recode (hf : f.Transcodes source target) {events : List Event}
    (hsource : ∀ event ∈ events, event.encoding = source) (p : Progress) :
    (events.map (Event.recode f target)).foldlM step p = events.foldlM step p := by
  induction events generalizing p with
  | nil => rfl
  | cons event events ih =>
      rw [List.forall_mem_cons] at hsource
      rw [List.map_cons, List.foldlM_cons, List.foldlM_cons, step_recode hf p hsource.1]
      exact congrArg _ (funext (ih hsource.2))

end Progress

/-- **The same document in another encoding** declares the same variables. -/
theorem readsFrom_recode (hf : f.Transcodes source target) {context : Context}
    (h : context.Keeps source) (p : Progress) (bytes : Bytes) (vars : Variables) :
    ReadsFrom p (Scan.fromContext (context.recode f target) (f.apply bytes)) vars ↔
      ReadsFrom p (Scan.fromContext context bytes) vars := by
  obtain ⟨hevents, hfault⟩ := fromContext_recode hf h bytes
  have hnone : (Scan.fromContext (context.recode f target) (f.apply bytes)).fault = none ↔
      (Scan.fromContext context bytes).fault = none := by
    rw [← Option.map_eq_none_iff (f := (·.2)), hfault, Option.map_eq_none_iff]
  rw [ReadsFrom, hevents, Progress.run_recode hf (encoding_of_mem_events h bytes), hnone, ReadsFrom]

end

/-! ### Files -/

/-- A file in UTF-8, with or without a mark, and the text that it holds. -/
theorem ofBytes_ofText {text : String} (hnul : '\x00' ∉ text.toList)
    (hmark : text.toList.head? ≠ some '\ufeff')
    (hdeclared : ∀ body ∈ declarations (Document.ofText text).events,
      ∀ encoding ∈ Context.declared? body, encoding = .utf8) :
    ofBytes (Bytes.ofText text) = ofText text ∧
      ofBytes (byteOrderMark ++ Bytes.ofText text) = ofText text := by
  have hnone := ofMark?_ofText hnul hmark
  have htext := Document.ofText_of_ofMark? hnone
  have hmarked : Document.ofBytes (byteOrderMark ++ Bytes.ofText text) =
      .scan .utf8 false (Bytes.ofText text) := rfl
  have hscan : Document.scan .utf8 false (Bytes.ofText text) =
      .scan .utf8 true (Bytes.ofText text) := by
    rw [htext] at hdeclared
    have hkeeps : Context.Keeps ⟨.utf8, true, []⟩ .utf8 := ⟨rfl, rfl⟩
    have hsame := fromContext_unsettled hkeeps _ hdeclared
    rw [Document.scan, Document.scan, ← hsame]
    rfl
  rw [ofBytes, ofBytes, ofText, Document.ofBytes_of_ofMark? hnone, hmarked, htext, hscan]
  exact ⟨rfl, rfl⟩

/-- A declaration is read on behind it. -/
theorem readsFrom_declaration {p : Progress} {context context' : Context} {bytes body rest : Bytes}
    {vars : Variables} (hlex : lex bytes = .ok (.declaration body, rest))
    (hafter : context.after (.declaration body) = .ok context') :
    ReadsFrom p (Scan.fromContext context bytes) vars ↔
      ReadsFrom p (Scan.fromContext context' rest) vars := by
  have hne : bytes ≠ [] := by
    rintro rfl
    cases hlex
  rw [fromContext_of_lex hne hlex hafter, readsFrom_prepend_iff]
  exact ⟨fun ⟨_, hq, h⟩ => by cases hq; exact h, fun h => ⟨p, rfl, h⟩⟩

/-- A file in a page that its declaration names, and the text that it holds. -/
theorem ofBytes_page {page : CodePage} (hpage : page.IsFull) {text : String}
    {bytes body rest : Bytes} (hlex : lex (Bytes.ofText text) = .ok (.declaration body, rest))
    (hdeclared : Context.declared? body = some (.page page))
    (hbytes : page.decode? bytes = some text.toList) (vars : Variables) :
    ofBytes bytes = .ok vars ↔ ofText text = .ok vars := by
  rw [ofText, Document.ofText_of_ofMark? (ofMark?_of_declaration hlex), ofDocument_scan_iff,
    readsFrom_declaration hlex rfl]
  -- The text is that of the recoded file, and begins with the recoded declaration.
  rw [← hpage.toUtf8_of_decode? hbytes, lex_apply] at hlex
  obtain ⟨⟨lexeme, rest'⟩, hlex', heq⟩ := map_eq_ok_iff.mp hlex
  obtain ⟨hlexeme, rfl⟩ := Prod.mk.inj heq
  cases lexeme with
  | declaration body' =>
      cases hlexeme
      rw [declared?_apply] at hdeclared
      have hafter : Context.after ⟨.utf8, false, []⟩ (.declaration body') =
          .ok ⟨.page page, true, []⟩ := by
        simp only [Context.after, hdeclared]
        rfl
      have hkeeps : Context.Keeps ⟨.page page, true, []⟩ (.page page) := ⟨rfl, rfl⟩
      rw [ofBytes, Document.ofBytes_of_ofMark? (ofMark?_of_declaration hlex'),
        ofDocument_scan_iff, readsFrom_declaration hlex' hafter]
      exact (readsFrom_recode hpage.transcodes hkeeps _ _ _).symm
  | start _ | empty _ | text _ | finish _ | cdata _ | comment _ | instruction _ | doctype _ =>
      cases hlexeme

/-- **Reading from disk agrees with reading a text.**  A file in UTF-8 is read exactly as its text,
with or without a mark, unless a declaration names another encoding.  A file that begins with a
declaration of windows-1252, and is written in it, declares the same variables as its text. -/
theorem load_ofText (fs : FileSystem) (path : Path) (text : String) :
    ('\x00' ∉ text.toList → text.toList.head? ≠ some '\ufeff' →
      (∀ body ∈ declarations (Document.ofText text).events,
        ∀ encoding ∈ Context.declared? body, encoding = .utf8) →
      fs.read path = .ok (Bytes.ofText text) ∨
        fs.read path = .ok (byteOrderMark ++ Bytes.ofText text) →
      load fs path = (ofText text).mapError (⟨path.label, ·⟩)) ∧
    ∀ body rest bytes, lex (Bytes.ofText text) = .ok (.declaration body, rest) →
      Context.declared? body = some (.page .windows1252) →
      CodePage.windows1252.decode? bytes = some text.toList → fs.read path = .ok bytes →
      ∀ vars, load fs path = .ok vars ↔ ofText text = .ok vars := by
  constructor
  · intro hnul hmark hdeclared hread
    obtain ⟨hplain, hmarked⟩ := ofBytes_ofText hnul hmark hdeclared
    rcases hread with hread | hread
    · simp only [load, hread, hplain]
    · simp only [load, hread, hmarked]
  · intro body rest bytes hlex hdeclared hbytes hread vars
    simp only [load, hread, mapError_eq_ok_iff]
    exact ofBytes_page CodePage.isFull_windows1252 hlex hdeclared hbytes vars

/-- A text that is not all ASCII. -/
def umlaut : String := "<r><globalVariable><name>Ä</name></globalVariable></r>"

/-- The same with a declaration. -/
def declaredUmlaut : String := "<?xml encoding='latin1'?>" ++ umlaut

/-- The bytes of a text in ISO-8859-1, which has the first characters of all. -/
def latin (text : String) : Bytes := text.toList.map fun c => c.toNat.toUInt8

/-- A file with a mark, and one with a declaration, in which the umlaut is one byte. -/
def umlauts : FileSystem where
  root := .directory .full [("marked", .file .full (byteOrderMark ++ Bytes.ofText umlaut)),
    ("declared", .file .full (latin declaredUmlaut))]
  workingDirectory := .ofLocation []
  wellNamed := by decide +kernel
  anchored := by decide +kernel

theorem load_ofText_umlauts :
    load umlauts ⟨"/marked"⟩ = .ok (.ofList [("Ä", "")]) ∧
      load umlauts ⟨"/declared"⟩ = .ok (.ofList [("Ä", "")]) := by
  constructor
  · have hmarked := (load_ofText umlauts ⟨"/marked"⟩ umlaut).1 (by decide +kernel)
      (by decide +kernel) (by decide +kernel) (.inr (eq_ok_of_toOption (by decide +kernel)))
    rw [hmarked, mapError_eq_ok_iff]
    exact eq_ok_of_toOption (by decide +kernel)
  · have hvalue : Attribute.value? (Bytes.ofText "encoding") (Bytes.ofText " encoding='latin1'") =
        some (Bytes.ofText "latin1") := by
      decide +kernel
    have hencoding : Context.declared? (Bytes.ofText " encoding='latin1'") =
        some (.page .windows1252) := by
      rw [Context.declared?, hvalue, Option.bind_some,
        ofLabel?_ofText (i := 20) (by decide +kernel) (by decide +kernel)]
      rfl
    have hbytes : CodePage.windows1252.decode? (latin declaredUmlaut) =
        some declaredUmlaut.toList := by
      rw [CodePage.windows1252, CodePage.ofUpper, String.toList_append, String.toList_ofList,
        String.toList_ofList]
      decide +kernel
    have hdeclared := (load_ofText umlauts ⟨"/declared"⟩ declaredUmlaut).2
      (Bytes.ofText " encoding='latin1'") (Bytes.ofText umlaut) _
      (eq_ok_of_toOption (by decide +kernel)) hencoding hbytes
      (eq_ok_of_toOption (by decide +kernel))
    rw [hdeclared]
    exact eq_ok_of_toOption (by decide +kernel)

end TierAudit.Substvar
