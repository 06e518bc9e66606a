import TierAudit.Proofs.CommandLine.Readable

/-!
# Command line — the command that need not be named

A check may be asked for with its command word and without it.  The two forms differ in the flag for
the version and in what a second operand is, and neither difference leads to a check: such an
argument ends the reading of either form (`Argument.Stops`).  So the arguments of the two forms are
alike (`Argument.alike_ofWords`), and they give the same.

What sets the forms apart is the environment.  Behind its command word a check is asked for like any
other named command, and the environment is asked for everything, even for what an argument has
given.  So the named check is the one without the command word in those environments whose variables
can all be read (`Command.read_check_iff`).
-/

namespace TierAudit.CommandLine

namespace Argument

/-! ### Arguments that end the reading -/

/-- Whether no command is read from words with this argument, whatever else there is. -/
def Stops : Argument → Prop
  | flag .help | flag .version | wrong _ | misplaced _ => True
  | _ => False

/-- The same arguments, or both with one that ends the reading. -/
def Alike (xs ys : List Argument) : Prop :=
  xs = ys ∨ (∃ argument ∈ xs, argument.Stops) ∧ ∃ argument ∈ ys, argument.Stops

namespace Alike
variable {x y : Argument} {xs ys xs' ys' : List Argument}

theorem refl (xs : List Argument) : Alike xs xs := .inl rfl

theorem of_stops (hx : x.Stops) (hy : y.Stops) : Alike (x :: xs) (y :: ys) :=
  .inr ⟨⟨x, List.mem_cons_self, hx⟩, y, List.mem_cons_self, hy⟩

theorem append (h : Alike xs ys) (h' : Alike xs' ys') : Alike (xs ++ xs') (ys ++ ys') := by
  rcases h with rfl | ⟨⟨x, hx, hxstops⟩, y, hy, hystops⟩
  · rcases h' with rfl | ⟨⟨x, hx, hxstops⟩, y, hy, hystops⟩
    · exact .inl rfl
    · exact .inr ⟨⟨x, List.mem_append_right _ hx, hxstops⟩,
        y, List.mem_append_right _ hy, hystops⟩
  · exact .inr ⟨⟨x, List.mem_append_left _ hx, hxstops⟩, y, List.mem_append_left _ hy, hystops⟩

theorem cons (h : Alike [x] [y]) (h' : Alike xs ys) : Alike (x :: xs) (y :: ys) := h.append h'

end Alike

/-! ### The words of the two forms -/

theorem alike_ofLetters (letters : List Char) :
    Alike (ofLetters .bare letters) (ofLetters .check letters) := by
  induction letters with
  | nil => exact .refl []
  | cons letter rest ih =>
      unfold ofLetters
      by_cases hversion : Flag.version.letter? = some letter
      · -- `-V` is a flag of the unnamed check alone
        obtain rfl : 'V' = letter := Option.some.inj hversion
        exact .of_stops trivial trivial
      · have hflag : Signature.bare.flagOfLetter? letter = Signature.check.flagOfLetter? letter :=
          List.find?_cons_of_neg (by simpa using hversion)
        rw [hflag]
        cases Signature.check.flagOfLetter? letter with
        | none => exact .refl _
        | some raised => exact .cons (.refl [_]) ih

theorem alike_ofLong (name : String) (value next : Option String) :
    ofLong .bare name value next = ofLong .check name value next ∨
      (ofLong .bare name value next).Stops ∧ (ofLong .check name value next).Stops := by
  by_cases hversion : Flag.version.name = name
  · subst hversion
    cases value <;> exact .inr ⟨trivial, trivial⟩
  · have hflag : Signature.bare.flag? name = Signature.check.flag? name :=
      List.find?_cons_of_neg (by simpa using hversion)
    have hsetting : Signature.bare.setting? name = Signature.check.setting? name := rfl
    left
    unfold ofLong
    rw [hflag, hsetting]

theorem alike_ofPlain (taken : Bool) (text : String) :
    Alike [ofPlain .bare taken text] [ofPlain .check taken text] := by
  cases taken with
  | false => exact .refl _
  | true => exact .of_stops trivial trivial

theorem alike_ofOperands (taken : Bool) (words : List String) :
    Alike (ofOperands .bare taken words) (ofOperands .check taken words) := by
  induction words generalizing taken with
  | nil => exact .refl []
  | cons text rest ih => exact .cons (alike_ofPlain taken text) (ih true)

section
variable {signature : Signature} {taken : Bool} {word name : String} {value : Option String}
  {rest : List String}

/-- The value of a setting may be a word of its own. -/
theorem ofWords_separate {setting : Setting} {given : Option String} {first after : String}
    (hword : Word.ofText word = .long name value)
    (hnext : nextValue? (after :: rest) = some first)
    (hlong : ofLong signature name value (nextValue? (after :: rest)) = .separate setting given) :
    ofWords signature taken (word :: after :: rest) =
      .separate setting given :: ofWords signature taken rest := by
  rw [hnext] at hlong
  simp only [ofWords, hword, hnext, hlong]

/-- Any other word with two hyphens is an argument by itself. -/
theorem ofWords_long (hword : Word.ofText word = .long name value)
    (hlong : ∀ setting given first after rest', ofLong signature name value (nextValue? rest) =
      .separate setting given → nextValue? rest = some first → rest = after :: rest' → False) :
    ofWords signature taken (word :: rest) =
      ofLong signature name value (nextValue? rest) :: ofWords signature taken rest := by
  simp only [ofWords, hword]

end

/-- With the command word and without it, words are the same arguments or lead to no check. -/
theorem alike_ofWords (taken : Bool) (words : List String) :
    Alike (ofWords .bare taken words) (ofWords .check taken words) := by
  induction taken, words using ofWords.induct Signature.bare with
  | case1 taken =>
      simp only [ofWords]
      exact .refl []
  | case2 taken word rest hword =>
      simp only [ofWords, hword]
      exact alike_ofOperands taken rest
  | case3 taken word rest letters hword ih =>
      simp only [ofWords, hword]
      exact (alike_ofLetters letters).append ih
  | case4 taken word rest text hword ih =>
      simp only [ofWords, hword]
      exact .cons (alike_ofPlain taken text) ih
  | case5 taken word name value hword setting given _ after rest next hnext hlong ih =>
      have hcheck : ofLong .check name value next = .separate setting given := by
        rcases alike_ofLong name value next with hsame | ⟨hstops, -⟩
        · rw [← hsame, hlong]
        · rw [hlong] at hstops
          exact hstops.elim
      rw [ofWords_separate hword hnext hlong, ofWords_separate hword hnext hcheck]
      exact .cons (.refl [_]) ih
  | case6 taken word name value hword rest next hlong ih =>
      have hbare : ofWords .bare taken (word :: rest) =
          ofLong .bare name value next :: ofWords .bare taken rest := ofWords_long hword hlong
      rcases alike_ofLong name value next with hsame | ⟨hbarestops, hstops⟩
      · rw [hsame] at hlong
        rw [hbare, ofWords_long hword hlong, hsame]
        exact .cons (.refl [_]) ih
      · have hlong : ∀ setting given first after rest', ofLong .check name value next =
            .separate setting given → next = some first → rest = after :: rest' → False := by
          intro setting given _ _ _ hseparate
          rw [hseparate] at hstops
          exact hstops.elim
        rw [hbare, ofWords_long hword hlong]
        exact .of_stops hbarestops hstops

end Argument

/-! ### What the two forms give -/

namespace Given
variable {given given' : Given} {arguments : List Argument}

theorem not_stops_of_takeAll (h : given.takeAll arguments = .ok given') :
    ∀ argument ∈ arguments, ¬argument.Stops := by
  induction arguments generalizing given with
  | nil => simp
  | cons argument arguments ih =>
      obtain ⟨next, hfirst, hrest⟩ := takeAll_cons h
      refine List.forall_mem_cons.mpr ⟨fun hstops => ?_, ih hrest⟩
      cases argument with
      | flag raised =>
        cases raised with
        | help | version => cases hfirst
        | quiet | verbose | noColor | parallel | failFast => exact hstops.elim
      | wrong error => cases hfirst
      | misplaced text => cases hfirst
      | attached | separate | operand => exact hstops.elim

/-- Alike arguments give the same, if they give anything. -/
theorem takeAll_alike {xs ys : List Argument} (h : Argument.Alike xs ys) :
    given.takeAll xs = .ok given' ↔ given.takeAll ys = .ok given' := by
  rcases h with rfl | ⟨⟨x, hx, hxstops⟩, y, hy, hystops⟩
  · rfl
  · exact ⟨fun htake => (not_stops_of_takeAll htake x hx hxstops).elim,
      fun htake => (not_stops_of_takeAll htake y hy hystops).elim⟩

end Given

/-! ### Everything that the environment is asked for -/

section
variable {environment : Environment} {argument name text : String}

theorem readPath_of_ne (h : text ≠ "") : ∃ path, readPath argument text = .ok path :=
  ⟨⟨text⟩, if_neg h⟩

theorem readFormat_of_takes (h : Setting.format.Takes text) :
    ∃ format, readFormat argument text = .ok format := by
  obtain ⟨format, hformat⟩ := h
  exact ⟨format, by simp only [readFormat, hformat]⟩

/-- A variable that can be read is, and without one nothing is missing. -/
theorem fallback_eq_ok {α : Type} {read : Reader α} (old : Option α)
    (h : ∀ text, environment.get? name = some text → ∃ a, read argument text = .ok a) :
    ∃ value, fallback read argument environment name old = .ok value := by
  cases old with
  | some a => exact ⟨some a, rfl⟩
  | none =>
    cases hname : environment.get? name with
    | none => exact ⟨none, by simp only [fallback, hname]⟩
    | some text =>
      obtain ⟨a, ha⟩ := h text hname
      exact ⟨some a, by simp only [fallback, hname, ha, Except.map]⟩

/-- The environment can be asked for everything exactly if all of its variables can be read. -/
theorem complete_nothing_iff :
    (∃ given, Given.nothing.complete environment = .ok given) ↔
      ∀ entry ∈ Setting.variables, ∀ text, environment.get? entry.2 = some text →
        entry.1.Takes text := by
  constructor
  · rintro ⟨given, hgiven⟩ entry hentry
    exact takes_of_complete hgiven entry hentry
      (Bool.eq_false_iff.mpr (Given.not_has_nothing entry.1))
  · simp only [Setting.variables, List.forall_mem_cons]
    rintro ⟨hbaselineDir, hconfig, hformat, -⟩
    obtain ⟨baselineDir, hbaselineDir⟩ : ∃ value, fallback readPath Setting.baselineDir.label
        environment "BW_PREFLIGHT_BASELINE_DIR" none = .ok value :=
      fallback_eq_ok none fun text htext => readPath_of_ne (hbaselineDir text htext)
    obtain ⟨config, hconfig⟩ : ∃ value, fallback readPath Setting.config.label
        environment "BW_PREFLIGHT_CONFIG" none = .ok value :=
      fallback_eq_ok none fun text htext => readPath_of_ne (hconfig text htext)
    obtain ⟨format, hformat⟩ : ∃ value, fallback readFormat Setting.format.label
        environment "BW_PREFLIGHT_FORMAT" none = .ok value :=
      fallback_eq_ok none fun text htext => readFormat_of_takes (hformat text htext)
    exact ⟨_, bind_eq_ok_iff.mpr ⟨baselineDir, hbaselineDir, bind_eq_ok_iff.mpr ⟨config, hconfig,
      bind_eq_ok_iff.mpr ⟨format, hformat, rfl⟩⟩⟩⟩

end

/-! ### The two forms -/

namespace Command
variable {environment : Environment} {words : List String} {command : Command}

/-- What the words give to a check does not depend on the form. -/
theorem readCheck_check_iff :
    readCheck .check environment words = .ok command ↔
      readCheck .bare environment words = .ok command := by
  unfold readCheck Given.ofWords
  simp only [bind_eq_ok_iff, Given.takeAll_alike (Argument.alike_ofWords false words)]

/-- Words of which the first is no command word are a check. -/
theorem read_of_unnamed (h : ∀ name : CommandWord, words.head? ≠ some name.name) :
    read environment words = readCheck .bare environment words := by
  cases words with
  | nil => rfl
  | cons word rest =>
    have hword : CommandWord.ofText? word = none := by
      refine List.find?_eq_none.mpr fun name _ hname => h name ?_
      rw [List.head?_cons, of_decide_eq_true hname]
    simp only [read, hword]

/-- **A check is asked for with its command word and without it.**  Words of which the first is no
command word are behind the command word of a check the check that they are by themselves, provided
that the environment makes sense: `BW_PREFLIGHT_BASELINE_DIR` and `BW_PREFLIGHT_CONFIG` are not
empty and `BW_PREFLIGHT_FORMAT` is a format, wherever they are set.  Without the command word a
variable that an argument stands for is not asked for, and may be anything. -/
theorem read_check_iff {options : CheckOptions}
    (h : ∀ name : CommandWord, words.head? ≠ some name.name) :
    read environment (CommandWord.check.name :: words) = .ok (.check options) ↔
      read environment words = .ok (.check options) ∧
        ∀ entry ∈ Setting.variables, ∀ text, environment.get? entry.2 = some text →
          entry.1.Takes text := by
  have hnamed : CommandWord.ofText? CommandWord.check.name = some .check := by decide
  simp only [read_of_unnamed h, ← complete_nothing_iff, ← readCheck_check_iff]
  simp only [read, hnamed]
  exact named_eq_ok_iff

/-- Where `BW_PREFLIGHT_FORMAT` is no format. -/
def unknownFormat : Environment := ⟨[("BW_PREFLIGHT_FORMAT", "yaml")]⟩

/-- With `--format json`, an unknown format in the environment does not matter to a check without
the command word, and refuses the one with it. -/
theorem read_check_iff_overriddenFormat :
    (∀ name : CommandWord, ["--format", "json"].head? ≠ some name.name) ∧
      (∃ options, read unknownFormat ["--format", "json"] = .ok (.check options) ∧
        options.format = .json) ∧
      ∀ options, read unknownFormat [CommandWord.check.name, "--format", "json"] ≠
        .ok (.check options) := by
  have hunnamed : ∀ name : CommandWord, ["--format", "json"].head? ≠ some name.name := by
    intro name
    cases name <;> decide
  refine ⟨hunnamed, ⟨{ Given.nothing.toCheck with format := .json }, ?_, rfl⟩, ?_⟩
  · exact eq_ok_of_toOption (by decide +kernel)
  · intro options hread
    obtain ⟨-, htakes⟩ := (read_check_iff hunnamed).mp hread
    obtain ⟨format, hformat⟩ := htakes (.format, "BW_PREFLIGHT_FORMAT")
      (by decide) "yaml" (by decide)
    cases hformat

end Command
end TierAudit.CommandLine
