import TierAudit.Proofs.Report.Summary
import TierAudit.Proofs.Text.Figures
import TierAudit.Report.Terminal

/-!
# Report — colors and quiet on the terminal

Colors and the quiet view change how a report looks and not what it says (`render_restyled`).

* Without its escape sequences a colored text is the text without colors
  (`removeSequences_text`), as long as the texts in it have none of their own.  All that a report
  says of its own is free of them (`isPlain_of_mem_pieces`), so that this depends on its paths, rule
  keys and messages (`PlainTexts`).
* The quiet view shows what is shown of the report without its clean tiers
  (`tiersPieces_withoutClean`).  A clean tier has no findings, so that the counts differ only in the
  number of clean tiers (`footerWith_withoutClean`).
-/

namespace TierAudit

namespace Terminal
open Text

/-! ### Escape sequences -/

/-- The character that an escape sequence begins with. -/
def escapeChar : Char := '\x1b'

/-- What follows an escape sequence that chooses colors.  Behind the escape character it has a
bracket, digits and an `m`. -/
def afterSequence? : List Char → Option (List Char)
  | '\x1b' :: '[' :: digit :: rest =>
    if digit.isDigit then
      match rest.dropWhile Char.isDigit with
      | 'm' :: rest => some rest
      | _ => none
    else none
  | _ => none

theorem length_afterSequence? {cs rest : List Char} (h : afterSequence? cs = some rest) :
    rest.length < cs.length := by
  unfold afterSequence? at h
  split at h
  · next digit tail =>
    split at h
    · split at h
      · next rest' hdrop =>
        cases h
        have hle := (List.dropWhile_suffix Char.isDigit (l := tail)).length_le
        rw [hdrop] at hle
        simp only [List.length_cons] at hle ⊢
        omega
      · cases h
    · cases h
  · cases h

/-- Leaves the escape sequences out. -/
def removeSequences : List Char → List Char
  | [] => []
  | c :: cs =>
    match _h : afterSequence? (c :: cs) with
    | some rest => removeSequences rest
    | none => c :: removeSequences cs
termination_by cs => cs.length
decreasing_by
  · exact length_afterSequence? _h
  · exact Nat.lt_succ_self _

/-- A text without its escape sequences. -/
def withoutSequences (text : String) : String := String.ofList (removeSequences text.toList)

/-- A text without an escape character. -/
def IsPlain (text : String) : Prop := ∀ c ∈ text.toList, c ≠ escapeChar

-- Character by character of the text, not of all characters there are.
instance (text : String) : Decidable (IsPlain text) :=
  List.decidableBAll (· ≠ escapeChar) text.toList

@[simp] theorem isPlain_append {s t : String} : IsPlain (s ++ t) ↔ IsPlain s ∧ IsPlain t := by
  simp only [IsPlain, String.toList_append, List.mem_append, or_imp, forall_and]

theorem isPlain_of_isFigures {s : String} (h : IsFigures s) : IsPlain s := by
  rintro c hc rfl
  exact absurd (h _ hc) (by decide)

theorem afterSequence?_of_ne {c : Char} (h : c ≠ escapeChar) (cs : List Char) :
    afterSequence? (c :: cs) = none := by
  unfold afterSequence?
  split
  · next heq => exact absurd (List.cons.inj heq).1 h
  · rfl

/-- What is plain stays as it is. -/
theorem removeSequences_append {cs : List Char} (h : ∀ c ∈ cs, c ≠ escapeChar)
    (rest : List Char) : removeSequences (cs ++ rest) = cs ++ removeSequences rest := by
  induction cs with
  | nil => rfl
  | cons c cs ih =>
      obtain ⟨hc, hcs⟩ := List.forall_mem_cons.mp h
      rw [List.cons_append, removeSequences, List.cons_append]
      split
      · next hafter => rw [afterSequence?_of_ne hc] at hafter; cases hafter
      · rw [ih hcs]

/-- A sequence is left out. -/
theorem removeSequences_of_afterSequence? {cs rest : List Char}
    (h : afterSequence? cs = some rest) : removeSequences cs = removeSequences rest := by
  cases cs with
  | nil => cases h
  | cons c cs =>
      rw [removeSequences]
      split
      · next hafter => rw [Option.some.inj (hafter.symm.trans h)]
      · next hafter => rw [hafter] at h; cases h

/-! ### Colors -/

/-- Pieces as they are sent to a terminal. -/
def text (showColors : Bool) (pieces : List Piece) : String :=
  String.join (pieces.map (·.render showColors))

@[simp] theorem text_append (showColors : Bool) (pieces pieces' : List Piece) :
    text showColors (pieces ++ pieces') = text showColors pieces ++ text showColors pieces' := by
  rw [text, List.map_append, String.join_append]
  rfl

theorem text_cons (showColors : Bool) (piece : Piece) (pieces : List Piece) :
    text showColors (piece :: pieces) = piece.render showColors ++ text showColors pieces :=
  text_append showColors [piece] pieces

theorem render_eq (showColors : Bool) (view : View) (report : Report) :
    render showColors view report = text showColors (pieces view report) := rfl

/-- A piece loses its color and nothing else. -/
theorem removeSequences_render {piece : Piece} (h : IsPlain piece.text) (rest : List Char) :
    removeSequences ((piece.render true).toList ++ rest) =
      (piece.render false).toList ++ removeSequences rest := by
  obtain ⟨color, text⟩ := piece
  cases color with
  | none => exact removeSequences_append h rest
  | some color =>
      -- The text stands between a sequence that chooses its color and one that ends it.
      have hbegin : afterSequence? ((Piece.render true ⟨some color, text⟩).toList ++ rest) =
          some (text.toList ++ "\x1b[0m".toList ++ rest) := by
        cases color <;> simp [Piece.render, Color.code, afterSequence?]
      have hend : afterSequence? ("\x1b[0m".toList ++ rest) = some rest := rfl
      rw [removeSequences_of_afterSequence? hbegin, List.append_assoc, removeSequences_append h,
        removeSequences_of_afterSequence? hend]
      rfl

theorem removeSequences_text {pieces : List Piece} (h : ∀ piece ∈ pieces, IsPlain piece.text) :
    removeSequences (text true pieces).toList = (text false pieces).toList := by
  induction pieces with
  | nil => simp [text, removeSequences]
  | cons piece rest ih =>
      obtain ⟨hpiece, hrest⟩ := List.forall_mem_cons.mp h
      rw [text_cons, text_cons, String.toList_append, String.toList_append,
        removeSequences_render hpiece, ih hrest]

theorem isPlain_text {pieces : List Piece} (h : ∀ piece ∈ pieces, IsPlain piece.text) :
    IsPlain (text false pieces) := by
  induction pieces with
  | nil => decide
  | cons piece rest ih =>
      obtain ⟨hpiece, hrest⟩ := List.forall_mem_cons.mp h
      obtain ⟨color, text⟩ := piece
      rw [text_cons, isPlain_append]
      refine ⟨?_, ih hrest⟩
      cases color <;> exact hpiece

/-- The texts that a report repeats have no escape character. -/
structure PlainTexts (report : Report) : Prop where
  project : IsPlain report.project.text
  ruleKey : ∀ outcome ∈ report.tiers, IsPlain outcome.ruleKey
  tierFile : ∀ outcome ∈ report.tiers, ∀ file ∈ outcome.tierFile, IsPlain file.text
  message : ∀ outcome ∈ report.tiers, ∀ finding ∈ outcome.findings, IsPlain finding.message

theorem isPlain_toString (n : Nat) : IsPlain (toString n) :=
  isPlain_of_isFigures (isFigures_toString n)

theorem isPlain_exitText (exitCode : Nat) : IsPlain (exitText exitCode) := by
  unfold exitText
  split <;> decide

theorem isPlain_header {report : Report} (h : IsPlain report.project.text) :
    IsPlain (header report) := by
  have htimestamp := isPlain_of_isFigures (isFigures_toSeconds report.timestamp)
  simp only [header, isPlain_append, h, htimestamp, and_true]
  decide

theorem isPlain_footer (report : Report) : IsPlain (footer report) := by
  have hduration := isPlain_of_isFigures (isFigures_seconds 1 report.duration)
  unfold footer countsLine
  simp only [isPlain_append, isPlain_toString, isPlain_exitText, hduration, and_true]
  decide

theorem isPlain_headline (outcome : Outcome) : IsPlain (headline outcome) := by
  unfold headline
  split
  · decide
  · simp +decide only [isPlain_append, isPlain_toString, true_and]

theorem isPlain_of_mem_findingPieces {finding : Finding} (h : IsPlain finding.message) :
    ∀ piece ∈ findingPieces finding, IsPlain piece.text := by
  have hmark : IsPlain (markPiece finding.severity).text := by
    cases finding.severity <;> decide
  simp +decide only [findingPieces, List.forall_mem_cons, Piece.plain, isPlain_append, hmark, h,
    and_true]

theorem isPlain_of_mem_tierPieces (view : View) {outcome : Outcome}
    (hkey : IsPlain outcome.ruleKey) (hfile : ∀ file ∈ outcome.tierFile, IsPlain file.text)
    (hmessage : ∀ finding ∈ outcome.findings, IsPlain finding.message) :
    ∀ piece ∈ tierPieces view outcome, IsPlain piece.text := by
  have hstatus : IsPlain (statusPiece outcome.status).text := by
    cases outcome.status <;> decide
  have hname : IsPlain outcome.tier.name := by
    cases outcome.tier <;> decide
  simp only [tierPieces, List.forall_mem_append]
  refine ⟨⟨⟨⟨?_, ?_⟩, ?_⟩, ?_⟩, ?_⟩
  · simp +decide only [List.forall_mem_cons, Piece.plain, isPlain_append, hstatus, hname, hkey,
      isPlain_headline, and_true]
  · split
    · simp +decide only [List.mem_singleton, forall_eq, isPlain_append, isPlain_toString,
        and_true]
    · exact fun _ h => by cases h
  · decide
  · split
    · next file hsome =>
      split
      · simp +decide only [List.forall_mem_cons, Piece.plain, hfile file hsome, and_true]
      · exact fun _ h => by cases h
    · exact fun _ h => by cases h
  · intro piece hpiece
    obtain ⟨finding, hfinding, hpiece⟩ := List.mem_flatMap.mp hpiece
    exact isPlain_of_mem_findingPieces (hmessage finding hfinding) piece hpiece

theorem mem_pieces {view : View} {report : Report} {piece : Piece}
    (h : piece ∈ pieces view report) :
    piece = .plain (header report) ∨ piece = .plain "TIER CHECKS\n" ∨ piece = .plain "\n" ∨
      piece = .plain (footer report) ∨
      ∃ outcome ∈ report.tiers, piece ∈ tierPieces view outcome := by
  simp only [pieces, tiersPieces] at h
  split at h
  · simp only [List.mem_append, List.mem_singleton] at h
    exact h.imp_right fun hfooter => .inr (.inr (.inl hfooter))
  · next hshown =>
    simp only [List.cons_append, List.mem_cons, List.mem_append, List.not_mem_nil, or_false,
      List.mem_flatMap] at h
    rcases h with h | h | (⟨outcome, houtcome, hpiece⟩ | h) | h
    · exact .inl h
    · exact .inr (.inl h)
    · exact .inr (.inr (.inr (.inr ⟨outcome, List.mem_of_mem_filter houtcome, hpiece⟩)))
    · exact .inr (.inr (.inl h))
    · exact .inr (.inr (.inr (.inl h)))

/-- What a report says of its own is plain. -/
theorem isPlain_of_mem_pieces {report : Report} (h : PlainTexts report) (view : View) :
    ∀ piece ∈ pieces view report, IsPlain piece.text := by
  intro piece hpiece
  rcases mem_pieces hpiece with rfl | rfl | rfl | rfl | ⟨outcome, houtcome, hpiece⟩
  · exact isPlain_header h.project
  · decide
  · decide
  · exact isPlain_footer report
  · exact isPlain_of_mem_tierPieces view (h.ruleKey outcome houtcome)
      (h.tierFile outcome houtcome) (h.message outcome houtcome) piece hpiece

/-! ### Quiet -/

/-- A report without its clean tiers. -/
def withoutClean (report : Report) : Report :=
  { report with tiers := report.tiers.filter (·.status ≠ .clean) }

/-- The exit code, and below it the end of the report. -/
def exitLine (summary : Summary) : String :=
  "Exit code: " ++ toString summary.exitCode ++ " (" ++ exitText summary.exitCode ++ ")\n" ++ rule

/-- What stands below the tiers of a report, with other counts than its own. -/
def footerWith (summary : Summary) (report : Report) : String :=
  rule ++ "\n" ++ countsLine summary ++ "\nTotal time: " ++ Decimal.seconds 1 report.duration ++
    "s\n" ++ exitLine summary

/-- A report as it is sent to a terminal, with other counts than its own. -/
def page (showColors : Bool) (view : View) (report : Report) (summary : Summary) : String :=
  text showColors
    (.plain (header report) :: tiersPieces view report.tiers ++ [.plain (footerWith summary report)])

theorem footer_eq (report : Report) : footer report = footerWith report.summary report := by
  unfold footer footerWith exitLine
  rw [show "s\nExit code: " = "s\n" ++ "Exit code: " from rfl]
  simp only [String.append_assoc]

theorem render_eq_page (showColors : Bool) (view : View) (report : Report) :
    render showColors view report = page showColors view report report.summary := by
  rw [render_eq, pieces, footer_eq]
  rfl

theorem exists_page_eq_append_exitLine (showColors : Bool) (view : View) (report : Report)
    (summary : Summary) :
    ∃ before, page showColors view report summary = before ++ exitLine summary := by
  refine ⟨text showColors (.plain (header report) :: tiersPieces view report.tiers ++
    [.plain (rule ++ "\n" ++ countsLine summary ++ "\nTotal time: " ++
      Decimal.seconds 1 report.duration ++ "s\n")]), ?_⟩
  rw [page, text_append, text_append, String.append_assoc]
  refine congrArg (_ ++ ·) ?_
  simp only [text, List.map_cons, List.map_nil, Piece.render, Piece.plain, String.join_cons,
    String.join_nil, String.append_empty]
  rfl

/-- The tiers that the quiet view shows. -/
theorem tiersPieces_withoutClean (verbose : Bool) (report : Report) :
    tiersPieces ⟨verbose, true⟩ report.tiers =
      tiersPieces ⟨verbose, false⟩ (withoutClean report).tiers := by
  have hquiet : report.tiers.filter (isShown ⟨verbose, true⟩) = (withoutClean report).tiers := rfl
  have hall : (withoutClean report).tiers.filter (isShown ⟨verbose, false⟩) =
      (withoutClean report).tiers := List.filter_eq_self.mpr fun _ _ => rfl
  rw [tiersPieces, tiersPieces, hquiet, hall]
  rfl

theorem findings_withoutClean (report : Report) :
    (withoutClean report).findings = report.findings := by
  simp only [Report.findings, withoutClean]
  induction report.tiers with
  | nil => rfl
  | cons outcome rest ih =>
      by_cases hclean : outcome.status = .clean
      · rw [List.filter_cons_of_neg (by simpa using hclean), ih, List.flatMap_cons,
          Outcome.status_eq_clean_iff.mp hclean, List.nil_append]
      · rw [List.filter_cons_of_pos (by simpa using hclean), List.flatMap_cons, List.flatMap_cons,
          ih]

/-- Tiers that are not clean are all still there. -/
theorem counter_withoutClean {counter : Summary → UInt32} {p : Outcome → Bool}
    (h : Summary.CountsTiers counter p) (hp : ∀ outcome, p outcome = true → outcome.status ≠ .clean)
    (report : Report) : counter (withoutClean report).summary = counter report.summary := by
  rw [Report.summary, Report.summary, h.ofOutcomes, h.ofOutcomes, withoutClean, List.countP_filter]
  refine congrArg UInt32.ofNat (List.countP_congr fun outcome _ => ?_)
  rw [Bool.and_eq_true, decide_eq_true_eq]
  exact and_iff_left_of_imp (hp outcome)

/-- So are all findings. -/
theorem findingCounter_withoutClean {counter : Summary → UInt32} {p : Finding → Bool}
    (h : Summary.Counts counter p) (report : Report) :
    counter (withoutClean report).summary = counter report.summary := by
  rw [Report.summary, Report.summary, h.ofOutcomes, h.ofOutcomes]
  exact congrArg (fun findings => UInt32.ofNat (findings.countP p)) (findings_withoutClean report)

/-- The counts differ in the number of clean tiers. -/
theorem footerWith_withoutClean (report : Report) :
    footerWith { (withoutClean report).summary with clean := report.summary.clean }
        (withoutClean report) = footerWith report.summary report := by
  have hwarned := counter_withoutClean Summary.countsTiers_warned
    (fun outcome h => by simp_all) report
  have hfailed := counter_withoutClean Summary.countsTiers_failed
    (fun outcome h => by simp_all) report
  have herrors := findingCounter_withoutClean Summary.counts_errors report
  have hwarnings := findingCounter_withoutClean Summary.counts_warnings report
  have hcode : Summary.exitCode { (withoutClean report).summary with
      clean := report.summary.clean } = report.summary.exitCode := by
    rw [Summary.exitCode, Summary.exitCode, herrors, hwarnings]
  unfold footerWith countsLine exitLine
  rw [hcode, hwarned, hfailed, herrors, hwarnings]
  rfl

/-- The line of a finding. -/
def findingLine (showColors : Bool) (finding : Finding) : String :=
  text showColors (findingPieces finding)

/-- A piece of the tiers is a piece of the report. -/
theorem exists_render_of_isInfix {view : View} {report : Report} {shown : List Piece}
    (h : shown <:+: tiersPieces view report.tiers) (showColors : Bool) :
    ∃ before after, render showColors view report = before ++ text showColors shown ++ after := by
  obtain ⟨front, back, hsplit⟩ := h
  refine ⟨text showColors (.plain (header report) :: front),
    text showColors (back ++ [.plain (footer report)]), ?_⟩
  rw [render_eq, pieces, ← hsplit]
  simp only [text_cons, text_append, String.append_assoc]

theorem infix_flatMap_of_mem {α β : Type} {f : α → List β} {a : α} {as : List α} (h : a ∈ as) :
    f a <:+: as.flatMap f := by
  obtain ⟨front, back, rfl⟩ := List.append_of_mem h
  refine ⟨front.flatMap f, back.flatMap f, ?_⟩
  rw [List.flatMap_append, List.flatMap_cons, List.append_assoc]

/-- Whatever the view, the line of a finding is shown. -/
theorem isInfix_findingPieces (view : View) {outcomes : List Outcome} {outcome : Outcome}
    (houtcome : outcome ∈ outcomes) {finding : Finding} (hfinding : finding ∈ outcome.findings) :
    findingPieces finding <:+: tiersPieces view outcomes := by
  have hne : outcome.findings ≠ [] := List.ne_nil_of_mem hfinding
  have hshown : outcome ∈ outcomes.filter (isShown view) := by
    refine List.mem_filter.mpr ⟨houtcome, ?_⟩
    rw [isShown, Bool.or_eq_true, decide_eq_true_eq]
    exact .inr fun hclean => hne (Outcome.status_eq_clean_iff.mp hclean)
  have htier : findingPieces finding <:+: tierPieces view outcome :=
    (infix_flatMap_of_mem hfinding).trans (List.suffix_append _ _).isInfix
  unfold tiersPieces
  split
  · next hnil =>
    rw [hnil] at hshown
    cases hshown
  · exact (htier.trans (infix_flatMap_of_mem hshown)).trans
      ⟨[.plain "TIER CHECKS\n"], [.plain "\n"], rfl⟩

/-- **Colors and quiet only change how a report looks.**  Without its escape sequences the colored
text is the other one, which has none.  The quiet view shows what is shown of the report without its
clean tiers, except that it counts those, too; no finding is hidden, and the exit code below it is
the same. -/
theorem render_restyled (report : Report) :
    (PlainTexts report → ∀ view,
      withoutSequences (render true view report) = render false view report ∧
        IsPlain (render false view report)) ∧
    ∀ showColors verbose,
      render showColors ⟨verbose, true⟩ report =
          page showColors ⟨verbose, false⟩ (withoutClean report)
            { (withoutClean report).summary with clean := report.summary.clean } ∧
        render showColors ⟨verbose, false⟩ (withoutClean report) =
          page showColors ⟨verbose, false⟩ (withoutClean report) (withoutClean report).summary ∧
        (withoutClean report).findings = report.findings ∧
        (∀ finding ∈ report.findings, ∃ before after,
          render showColors ⟨verbose, true⟩ report =
            before ++ findingLine showColors finding ++ after) ∧
        ∀ quiet, ∃ before,
          render showColors ⟨verbose, quiet⟩ report = before ++ exitLine report.summary := by
  refine ⟨fun hplain view => ?_, fun showColors verbose => ⟨?_, render_eq_page .., ?_, ?_, ?_⟩⟩
  · have hpieces := isPlain_of_mem_pieces hplain view
    refine ⟨?_, isPlain_text hpieces⟩
    rw [withoutSequences, render_eq, removeSequences_text hpieces, String.ofList_toList]
    rfl
  · rw [render_eq_page, page, page, tiersPieces_withoutClean, footerWith_withoutClean]
    rfl
  · exact findings_withoutClean report
  · intro finding hfinding
    obtain ⟨outcome, houtcome, hfinding⟩ := List.mem_flatMap.mp hfinding
    exact exists_render_of_isInfix (isInfix_findingPieces _ houtcome hfinding) showColors
  · intro quiet
    rw [render_eq_page]
    exact exists_page_eq_append_exitLine ..

/-- A report with a clean tier and one that has no file. -/
def oneWarning : Report where
  project := ⟨"/ws/App.module"⟩
  timestamp := ⟨0, 0⟩
  tiers := [
    ⟨.dev4, "DEV4SubstvarValidation", some ⟨"/ws/App/META-INF/DEV4.substvar"⟩, [], 3⟩,
    ⟨.it, "ITSubstvarValidation", none, [.of .it .missingTierFile], 1⟩]
  duration := 4

theorem render_restyled_oneWarning :
    PlainTexts oneWarning ∧
      (withoutSequences (render true ⟨true, true⟩ oneWarning) =
        render false ⟨true, true⟩ oneWarning) ∧
      ∃ before after, render true ⟨true, true⟩ oneWarning =
        before ++ "         \x1b[33m!\x1b[0m Missing IT.substvar in application folder\n" ++
          after := by
  have hplain : PlainTexts oneWarning := by
    constructor <;> decide
  have hline : findingLine true (.of .it .missingTierFile) =
      "         \x1b[33m!\x1b[0m Missing IT.substvar in application folder\n" := by decide
  obtain ⟨hcolors, hquiet⟩ := render_restyled oneWarning
  obtain ⟨-, -, -, hfindings, -⟩ := hquiet true true
  exact ⟨hplain, (hcolors hplain ⟨true, true⟩).1, hline ▸ hfindings _ (by decide)⟩

end Terminal
end TierAudit
