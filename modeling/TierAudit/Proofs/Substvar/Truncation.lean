import TierAudit.Proofs.Markup.RootEnd
import TierAudit.Proofs.Substvar.Acceptance

/-!
# Substitution variable files — files that are cut short

A file that is cut before the end of its root element declares nothing, cut right behind it the same
as the whole file (`ofBytes_take`).

The root element is unfinished until the lexeme with which it ends has been read, and closed from
there on (`Progress.Unfinished`, `Progress.Closed`).  A scan that is cut short runs over the lexemes
of the whole, except that a run of text at its end may be shorter, and so it ends unfinished
(`not_readsFrom_of_cut`); behind a closed root element nothing is declared any more
(`readsFrom_take`).
-/

namespace TierAudit.Substvar
open Markup Text

/-! ### Before the end of the root element -/

/-- The root element has not begun, or it is still open and holds the declaration in the making. -/
structure Progress.Unfinished (p : Progress) : Prop where
  seenRoot_iff : p.seenRoot = true ↔ p.depth ≠ 0
  pending_inside : ∀ pending ∈ p.pending, 0 < pending.depth ∧ pending.depth ≤ p.depth

/-- The root element has ended. -/
structure Progress.Closed (p : Progress) : Prop where
  depth_eq : p.depth = 0
  seenRoot_eq : p.seenRoot = true
  pending_eq : p.pending = none

namespace Progress

theorem unfinished_start : start.Unfinished := ⟨by decide, fun _ h => by cases h⟩

/-- Nothing is declared before the root element has ended. -/
theorem Unfinished.finish_ne {p : Progress} (h : p.Unfinished) (vars : Variables) :
    p.finish ≠ .ok vars := by
  unfold finish
  by_cases hd : p.depth = 0
  · have hseen : p.seenRoot = false := by
      cases hs : p.seenRoot with
      | false => rfl
      | true => exact absurd hd (h.seenRoot_iff.mp hs)
    simp [hd, hseen]
  · simp [hd]

variable {p p' : Progress} {lexeme : Lexeme} {encoding : Encoding}

theorem depth_of_step (hs : p.step ⟨lexeme, encoding⟩ = .ok p') :
    p'.depth = lexeme.depthAfter p.depth := by
  rw [depth_step hs]
  cases lexeme <;> rfl

/-- **Reading on before the end of the root element.** -/
theorem Unfinished.step (h : p.Unfinished) (hs : p.step ⟨lexeme, encoding⟩ = .ok p')
    (hend : lexeme.endsRoot p.depth = false) : p'.Unfinished := by
  cases does_of_step hs with
  | opensInside tag pending hroot hpending =>
      obtain ⟨hpos, hle⟩ := h.pending_inside pending hpending
      refine ⟨by simp, fun _ hp => ?_⟩
      obtain rfl := Option.some.inj hp
      rw [Pending.depth_openElement]
      exact ⟨hpos, Nat.le_succ_of_le hle⟩
  | opensDeclaration tag hroot hpending hname =>
      refine ⟨by simp, fun _ hp => ?_⟩
      obtain rfl := Option.some.inj hp
      exact ⟨Nat.succ_pos _, Nat.le_refl _⟩
  | opensOutside tag hroot hpending hname => exact ⟨by simp, nofun⟩
  | isEmpty tag hroot =>
      have hd : p.depth ≠ 0 := of_decide_eq_false hend
      refine ⟨by simp [hd], fun _ hp => ?_⟩
      obtain ⟨pending, hpending, rfl⟩ := Option.map_eq_some_iff.mp hp
      rw [Pending.depth_emptyElement]
      exact h.pending_inside pending hpending
  | closesInside name pending hpending hother =>
      obtain ⟨hpos, hle⟩ := h.pending_inside pending hpending
      refine ⟨h.seenRoot_iff.trans (by simp only; omega), fun _ hp => ?_⟩
      obtain rfl := Option.some.inj hp
      rw [Pending.depth_closeElement]
      exact ⟨hpos, by simp only; omega⟩
  | closesDeclaration name | closesOutside name =>
      have hd : p.depth ≠ 1 := of_decide_eq_false hend
      exact ⟨h.seenRoot_iff.trans (by simp only; omega), nofun⟩
  | collects _ text htag hinside =>
      refine ⟨h.seenRoot_iff, fun _ hp => ?_⟩
      obtain ⟨pending, hpending, rfl⟩ := Option.map_eq_some_iff.mp hp
      exact h.pending_inside pending hpending
  | passes => exact h

/-- **Reading the end of the root element.** -/
theorem Unfinished.step_endsRoot (h : p.Unfinished) (hs : p.step ⟨lexeme, encoding⟩ = .ok p')
    (hend : lexeme.endsRoot p.depth = true) : p'.Closed := by
  cases does_of_step hs with
  | opensInside | opensDeclaration | opensOutside => cases hend
  | isEmpty tag hroot =>
      have hd : p.depth = 0 := of_decide_eq_true hend
      have hnone : p.pending = none := by
        refine Option.eq_none_iff_forall_ne_some.mpr fun pending hpending => ?_
        obtain ⟨hpos, hle⟩ := h.pending_inside pending hpending
        omega
      exact ⟨hd, rfl, by simp [hnone]⟩
  | closesInside name pending hpending hother =>
      -- A declaration that is still open has the root element for its own.
      have hd : p.depth = 1 := of_decide_eq_true hend
      obtain ⟨hpos, hle⟩ := h.pending_inside pending hpending
      omega
  | closesDeclaration name | closesOutside name =>
      have hd : p.depth = 1 := of_decide_eq_true hend
      exact ⟨by simp [hd], h.seenRoot_iff.mpr (by omega), rfl⟩
  | collects _ text htag | passes _ htag => cases lexeme <;> first | cases hend | cases htag

/-- Behind the root element nothing changes any more. -/
theorem Closed.step_eq (h : p.Closed) {event : Event} (hs : p.step event = .ok p') : p' = p := by
  obtain ⟨lexeme, encoding⟩ := event
  cases does_of_step hs with
  | opensInside _ _ hroot | opensDeclaration _ hroot | opensOutside _ hroot | isEmpty _ hroot =>
      exact absurd h.depth_eq (hroot h.seenRoot_eq)
  | closesInside _ pending hpending | closesDeclaration _ pending hpending =>
      rw [h.pending_eq] at hpending
      cases hpending
  | closesOutside name hpending =>
      obtain ⟨vars, depth, seenRoot, pending⟩ := p
      obtain ⟨rfl, rfl, rfl⟩ := h
      rfl
  | collects _ text htag hinside => exact absurd h.depth_eq hinside
  | passes => rfl

theorem Closed.run_eq (h : p.Closed) {events : List Event}
    (hs : events.foldlM Progress.step p = .ok p') : p' = p := by
  induction events with
  | nil =>
      cases hs
      rfl
  | cons event rest ih =>
      rw [List.foldlM_cons] at hs
      obtain ⟨q, hone, hrest⟩ := bind_eq_ok_iff.mp hs
      obtain rfl := h.step_eq hone
      exact ih hrest

end Progress

/-! ### Scans that are cut short -/

/-- From here on a scan is read to its end and declares variables. -/
def ReadsFrom (p : Progress) (scan : Scan) (vars : Variables) : Prop :=
  ∃ p', scan.events.foldlM Progress.step p = .ok p' ∧ scan.fault = none ∧ p'.finish = .ok vars

section
variable {p : Progress} {context : Context} {vars : Variables} {bytes : Bytes} {k : Nat}

theorem readsFrom_prepend_iff {event : Event} {scan : Scan} :
    ReadsFrom p (scan.prepend [event]) vars ↔
      ∃ q, p.step event = .ok q ∧ ReadsFrom q scan vars := by
  simp only [ReadsFrom, Scan.prepend, List.cons_append, List.nil_append, List.foldlM_cons,
    bind_eq_ok_iff]
  constructor
  · rintro ⟨p', ⟨q, hstep, hrun⟩, hend⟩
    exact ⟨q, hstep, p', hrun, hend⟩
  · rintro ⟨q, hstep, p', hrun, hend⟩
    exact ⟨p', ⟨q, hstep, hrun⟩, hend⟩

/-- A scan is read on behind a lexeme. -/
theorem readsFrom_iff_of_lex {rest : Bytes} {lexeme : Lexeme} (hne : bytes ≠ [])
    (h : lex bytes = .ok (lexeme, rest)) :
    ReadsFrom p (Scan.fromContext context bytes) vars ↔
      ∃ context' q, context.after lexeme = .ok context' ∧
        p.step ⟨lexeme, context.encoding⟩ = .ok q ∧
          ReadsFrom q (Scan.fromContext context' rest) vars := by
  cases hafter : context.after lexeme with
  | ok context' =>
      rw [fromContext_of_lex hne h hafter, readsFrom_prepend_iff]
      constructor
      · rintro ⟨q, hq⟩
        exact ⟨context', q, rfl, hq⟩
      · rintro ⟨_, q, hc, hq⟩
        cases hc
        exact ⟨q, hq⟩
  | error fault =>
      constructor
      · rintro ⟨p', -, hfault, -⟩
        rw [Scan.fromContext, dif_neg hne] at hfault
        split at hfault
        · cases hfault
        · next hl =>
          rw [h] at hl
          cases hl
          rw [hafter] at hfault
          cases hfault
      · rintro ⟨_, q, hc, -⟩
        cases hc

theorem ofDocument_scan_iff {encoding : Encoding} {settled : Bool} :
    ofDocument (.scan encoding settled bytes) = .ok vars ↔
      ReadsFrom .start (Scan.fromContext ⟨encoding, settled, []⟩ bytes) vars := by
  unfold ofDocument Document.scan ReadsFrom
  rw [bind_eq_ok_iff]
  refine exists_congr fun p' => and_congr_right fun _ => ?_
  cases hfault : (Scan.fromContext ⟨encoding, settled, []⟩ bytes).fault <;> simp [hfault]

/-- **A cut before the end of the root element.**  The bytes are not all of the root element, or it
does not end at all, also with what would follow them. -/
theorem not_readsFrom_of_cut (h : p.Unfinished) (other : Bytes)
    (hcut : ∀ k, closingEnd? p.depth (bytes ++ other) = some k → bytes.length < k) :
    ¬ ReadsFrom p (Scan.fromContext context bytes) vars := by
  fun_induction Scan.fromContext context bytes generalizing p other with
  | case1 =>
      rintro ⟨p', hrun, -, hfinish⟩
      cases hrun
      exact h.finish_ne vars hfinish
  | case2 | case3 =>
      rintro ⟨p', -, hfault, -⟩
      cases hfault
  | case4 context bytes hne lexeme rest hlex context' hafter scan =>
      rename_i ih
      intro hreads
      obtain ⟨q, hstep, hq⟩ := readsFrom_prepend_iff.mp hreads
      have hdepth := Progress.depth_of_step hstep
      rcases lex_append_or hne hlex with ⟨⟨run, rfl⟩, rfl⟩ | happend
      · -- Nothing is left behind a text that was cut short.
        refine ih (h.step hstep rfl) [] (fun k hk => ?_) hq
        rw [List.append_nil, closingEnd?_nil] at hk
        cases hk
      · have hcuts := @closingEnd?_of_lex _ _ _ p.depth
          (fun he => hne (List.append_eq_nil_iff.mp he).1) (happend other)
        have hsize : (bytes ++ other).length - (rest ++ other).length =
            bytes.length - rest.length := by
          rw [List.length_append, List.length_append]
          omega
        have hlt := length_lex hne hlex
        cases hend : lexeme.endsRoot p.depth with
        | true =>
            rw [hend, if_pos rfl, hsize] at hcuts
            have hle := hcut _ hcuts
            omega
        | false =>
            refine ih (h.step hstep hend) other (fun k hk => ?_) hq
            rw [hdepth] at hk
            rw [hend, if_neg Bool.false_ne_true, hk, Option.map_some, hsize] at hcuts
            have hle := hcut _ hcuts
            omega

/-- A scan that is read to its end gets to the end of the root element. -/
theorem exists_closingEnd?_of_readsFrom (h : p.Unfinished)
    (hreads : ReadsFrom p (Scan.fromContext context bytes) vars) :
    ∃ k, closingEnd? p.depth bytes = some k := by
  refine Option.isSome_iff_exists.mp (Option.ne_none_iff_isSome.mp fun hnone => ?_)
  refine not_readsFrom_of_cut h [] (fun k hk => ?_) hreads
  rw [List.append_nil, hnone] at hk
  cases hk

/-- **A cut right behind the root element** loses nothing. -/
theorem readsFrom_take (h : p.Unfinished)
    (hreads : ReadsFrom p (Scan.fromContext context bytes) vars)
    (hk : closingEnd? p.depth bytes = some k) :
    ReadsFrom p (Scan.fromContext context (bytes.take k)) vars := by
  induction hn : bytes.length using Nat.strongRecOn generalizing p context bytes k with
  | _ n ih =>
      obtain ⟨hne, lexeme, rest, hlex⟩ := exists_lex_of_closingEnd? hk
      obtain ⟨context', q, hafter, hstep, hq⟩ := (readsFrom_iff_of_lex hne hlex).mp hreads
      rcases exists_take_of_closingEnd? hne hlex hk with
        ⟨hend, hpiece⟩ | ⟨hend, k', piece, hk', hpiece, htake, hlex'⟩
      · -- Behind the root element nothing was declared any more.
        obtain ⟨q', hrun, -, hfinish⟩ := hq
        obtain rfl := (h.step_endsRoot hstep hend).run_eq hrun
        have hlex' := hpiece.reads []
        rw [List.append_nil] at hlex'
        refine (readsFrom_iff_of_lex hpiece.ne_nil hlex').mpr ⟨context', q', hafter, hstep, ?_⟩
        rw [Scan.fromContext, dif_pos rfl]
        exact ⟨q', rfl, rfl, hfinish⟩
      · rw [htake]
        refine (readsFrom_iff_of_lex (fun he => hpiece (List.append_eq_nil_iff.mp he).1) hlex').mpr
          ⟨context', q, hafter, hstep, ?_⟩
        rw [← Progress.depth_of_step hstep] at hk'
        have hlt := length_lex hne hlex
        exact ih rest.length (hn ▸ hlt) (h.step hstep hend) hq hk' rfl

end

/-! ### Files that are cut short -/

section
variable {encoding : Encoding} {settled : Bool} {bytes start other : Bytes} {vars : Variables}

/-- A document that declares variables has a root element that ends. -/
theorem exists_rootEnd?
    (h : ofDocument (.scan encoding settled (bytes.drop (Document.markSize bytes))) = .ok vars) :
    ∃ k, Document.rootEnd? bytes = some k := by
  obtain ⟨k, hk⟩ := exists_closingEnd?_of_readsFrom Progress.unfinished_start
    (ofDocument_scan_iff.mp h)
  exact ⟨_, Option.map_eq_some_iff.mpr ⟨k, hk, rfl⟩⟩

/-- Cut before that end it declares none. -/
theorem exists_error_of_cut {k : Nat} (hk : Document.rootEnd? (start ++ other) = some k)
    (hlt : start.length < k) :
    ∃ cause, ofDocument (.scan encoding settled (start.drop (Document.markSize start))) =
      .error cause := by
  cases hread : ofDocument (.scan encoding settled (start.drop (Document.markSize start))) with
  | error cause => exact ⟨cause, rfl⟩
  | ok vars =>
      obtain ⟨other', hcut⟩ := Document.exists_cut hk hlt
      exact absurd (ofDocument_scan_iff.mp hread)
        (not_readsFrom_of_cut Progress.unfinished_start other' hcut)

end

/-- **A file that is cut short.**  Of a file that declares variables, and of a text that does, the
root element ends somewhere, with a `>`.  What ends before that declares nothing, wherever it is
cut, and what ends there declares the same. -/
theorem ofBytes_take :
    (∀ bytes vars, ofBytes bytes = .ok vars → ∃ k, Document.rootEnd? bytes = some k ∧
      [0x3E] <:+ bytes.take k ∧ ofBytes (bytes.take k) = .ok vars ∧
        ∀ n < k, ∃ cause, ofBytes (bytes.take n) = .error cause) ∧
    ∀ text vars, ofText text = .ok vars → ∃ k, Document.rootEnd? (Bytes.ofText text) = some k ∧
      ∀ start rest, text = start ++ rest → (Bytes.ofText start).length < k →
        ∃ cause, ofText start = .error cause := by
  constructor
  · intro bytes vars h
    rw [ofBytes, Document.ofBytes_eq] at h
    obtain ⟨k, hk⟩ := exists_rootEnd? h
    refine ⟨k, hk, Document.suffix_take_rootEnd? hk, ?_, fun n hn => ?_⟩
    · obtain ⟨hmark, k', hk', htake⟩ := Document.ofMark?_take hk
      have hsize : Document.markSize (bytes.take k) = Document.markSize bytes := by
        rw [Document.markSize, hmark]
        rfl
      rw [ofBytes, Document.ofBytes_eq, hmark, hsize, htake]
      exact ofDocument_scan_iff.mpr
        (readsFrom_take Progress.unfinished_start (ofDocument_scan_iff.mp h) hk')
    · rw [ofBytes, Document.ofBytes_eq]
      rw [← List.take_append_drop n bytes] at hk
      exact exists_error_of_cut hk (Nat.lt_of_le_of_lt (List.length_take_le n bytes) hn)
  · intro text vars h
    rw [ofText, Document.ofText_eq] at h
    obtain ⟨k, hk⟩ := exists_rootEnd? h
    refine ⟨k, hk, fun start rest hsplit hlt => ?_⟩
    rw [ofText, Document.ofText_eq]
    rw [hsplit, Utf8.ofText_append] at hk
    exact exists_error_of_cut hk hlt

/-- A file with a second end tag, in a comment behind its root element. -/
def commentedEnd : String :=
  "<r><globalVariable><name>Ä</name></globalVariable></r> <!-- </r> -->"

theorem ofBytes_take_commentedEnd :
    Document.rootEnd? (Bytes.ofText commentedEnd) = some 55 ∧
      ofBytes ((Bytes.ofText commentedEnd).take 55) = .ok (.ofList [("Ä", "")]) ∧
      (∀ n < 55, ∃ cause, ofBytes ((Bytes.ofText commentedEnd).take n) = .error cause) ∧
      ∃ cause, ofText "<r><globalVariable><name>Ä</name></globalVariable>" = .error cause := by
  have hend : Document.rootEnd? (Bytes.ofText commentedEnd) = some 55 := by decide +kernel
  have hbytes : (ofBytes (Bytes.ofText commentedEnd)).toOption = some (.ofList [("Ä", "")]) := by
    decide +kernel
  have htext : (ofText commentedEnd).toOption = some (.ofList [("Ä", "")]) := by decide +kernel
  obtain ⟨k, hk, -, htake, hcut⟩ := ofBytes_take.1 _ _ (eq_ok_of_toOption hbytes)
  obtain rfl : k = 55 := Option.some.inj (hk.symm.trans hend)
  obtain ⟨k, hk, hcut'⟩ := ofBytes_take.2 _ _ (eq_ok_of_toOption htext)
  obtain rfl : k = 55 := Option.some.inj (hk.symm.trans hend)
  exact ⟨hend, htake, hcut, hcut' _ "</r> <!-- </r> -->" (by decide +kernel) (by decide +kernel)⟩

end TierAudit.Substvar
