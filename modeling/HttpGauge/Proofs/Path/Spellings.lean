import HttpGauge.Proofs.Extraction
import HttpGauge.Proofs.Path.Quotes
import HttpGauge.Proofs.Path.Splitting

/-!
# Spellings of a path

A relative path may be written as it is, behind a dot, or from the root, and each of these with
braces around it.  All of them are read as the same expression, with one exception: the scanner of
templates ends a string at the next quote of its kind, also behind a backslash, so that a path in
which this leaves a string open has no spelling with braces.
-/

namespace HttpGauge.Text

section Trimming

variable {c : Char} {text : List Char}

/-- In front, nothing is removed from a text that begins with no blank. -/
theorem trimBlank_cons (visible : isBlank c = false) :
    trimBlank (c :: text) = c :: (text.reverse.dropWhile isBlank).reverse := by
  have stays : ¬ isBlank c = true := by simp [visible]
  rw [trimBlank, trimBy, List.dropWhile_cons_of_neg stays, List.reverse_cons,
    List.dropWhile_append]
  split
  · rename_i blank
    rw [List.isEmpty_iff.mp blank, List.dropWhile_cons_of_neg stays]
    rfl
  · rw [List.reverse_append]
    rfl

theorem trimBlank_cons_cons {d : Char} (visible : isBlank c = false) (follows : isBlank d = false) :
    trimBlank (c :: d :: text) = c :: trimBlank (d :: text) := by
  rw [trimBlank_cons visible, trimBlank, trimBy,
    List.dropWhile_cons_of_neg (by simp [follows])]

theorem trimBlank_blank_cons (blank : isBlank c = true) :
    trimBlank (c :: text) = trimBlank text := by
  rw [trimBlank, trimBy, List.dropWhile_cons_of_pos blank]
  rfl

/-- Behind, only blanks are removed from it. -/
theorem exists_blanks_behind (visible : isBlank c = false) :
    ∃ blanks, (∀ blank ∈ blanks, isBlank blank = true) ∧
      c :: text = trimBlank (c :: text) ++ blanks := by
  refine ⟨(text.reverse.takeWhile isBlank).reverse, fun blank member => ?_, ?_⟩
  · exact List.mem_takeWhile_imp (List.mem_reverse.mp member)
  · rw [trimBlank_cons visible, List.cons_append, ← List.reverse_append,
      List.takeWhile_append_dropWhile, List.reverse_reverse]

theorem trimBlank_concat {d : Char} (visible : isBlank c = false) (blank : isBlank d = true) :
    trimBlank (c :: (text ++ [d])) = trimBlank (c :: text) := by
  rw [trimBlank_cons visible, trimBlank_cons visible, List.reverse_concat,
    List.dropWhile_cons_of_pos blank]

end Trimming

end HttpGauge.Text

namespace HttpGauge.Path

open HttpGauge.Text HttpGauge.Path.Template

/-! ## Paths in braces -/

/-- The place in an expression at which this quote is open. -/
def placeIn : Option Char → Place
  | none => .expression 0
  | some quote => .string 0 quote

section Braced

variable {open? : Option Char} {held text rest : List Char}

/-- Text without braces is passed over. -/
theorem scan_unbraced (unbraced : ∀ c ∈ text, isBrace c = false) :
    scan (placeIn open?) held (text ++ rest) =
      scan (placeIn (text.foldl quoteBehind open?)) (text.reverse ++ held) rest := by
  induction text generalizing open? held with
  | nil => rfl
  | cons c text ih =>
      have noBrace := unbraced c List.mem_cons_self
      simp only [isBrace, Bool.or_eq_false_iff, decide_eq_false_iff_not] at noBrace
      have step : scan (placeIn open?) held (c :: (text ++ rest)) =
          scan (placeIn (quoteBehind open? c)) (c :: held) (text ++ rest) := by
        cases open? with
        | none =>
            by_cases isQuote : IsQuote c
            · rw [placeIn, scan_quote isQuote, quoteBehind,
                if_pos (show c = '\'' ∨ c = '"' from isQuote), placeIn]
            · rw [quoteBehind_of_not_isQuote (by simp) isQuote, placeIn, scan_expression isQuote,
                depthAfter?, if_neg noBrace.1, if_neg noBrace.2]
        | some quote =>
            rw [placeIn, scan, quoteBehind]
            split <;> rfl
      rw [List.cons_append, step, ih fun d member => unbraced d (List.mem_cons_of_mem _ member)]
      simp

/-- Text in braces is an expression if it leaves no quote open. -/
theorem split_braced (unbraced : ∀ c ∈ text, isBrace c = false) :
    split ('\x7b' :: (text ++ ['\x7d'])) =
      if openQuote text = none then .ok [.expression (trimBlank text)] else .error .unclosed := by
  have scanned : scan (.expression 0) [] (text ++ ['\x7d']) =
      scan (placeIn (openQuote text)) text.reverse ['\x7d'] := by
    have passed := @scan_unbraced none [] text ['\x7d'] unbraced
    rw [List.append_nil] at passed
    exact passed
  rw [split, if_pos (by rw [List.any_cons]; rfl), scan, if_pos rfl, scanned]
  cases openQuote text with
  | none =>
      rw [placeIn, if_pos rfl]
      simp [scan, expressionOf, literalOf, Except.map]
  | some quote =>
      rw [placeIn, if_neg (by simp), scan]
      split <;> rfl

end Braced

/-! ## Texts that spell a path -/

/-- A text that, put at the root, is the path from there. -/
structure Spells (path raw : List Char) : Prop where
  unbraced : ∀ c ∈ raw, isBrace c = false
  openQuote_eq : openQuote raw = openQuote path
  rooted : normalize (trimBlank raw) = '$' :: '.' :: trimBlank path

/-- A path without braces that is not written from the root: it begins with none of the characters
that would lead there, and with no blank. -/
structure IsRelative (path : List Char) : Prop where
  unbraced : ∀ c ∈ path, isBrace c = false
  begins : ∃ c rest, path = c :: rest ∧ isBlank c = false ∧ c ≠ '$' ∧ c ≠ '.' ∧ c ≠ '['

namespace IsRelative

variable {path : List Char} (relative : IsRelative path)

include relative

theorem spells_self : Spells path path := by
  refine ⟨relative.unbraced, rfl, ?_⟩
  rcases relative.begins with ⟨c, rest, rfl, visible, noRoot, noDot, noBracket⟩
  rw [trimBlank_cons visible]
  unfold normalize
  split
  · contradiction
  · rename_i same
    exact absurd (List.cons.inj same).1 noRoot
  · rename_i same
    exact absurd (List.cons.inj same).1 noDot
  · rename_i same
    exact absurd (List.cons.inj same).1 noBracket
  · rfl

theorem trimBlank_dot : trimBlank ('.' :: path) = '.' :: trimBlank path := by
  rcases relative.begins with ⟨c, rest, rfl, visible, -⟩
  exact trimBlank_cons_cons (by decide) visible

theorem spells_dot : Spells path ('.' :: path) := by
  refine ⟨List.forall_mem_cons.mpr ⟨rfl, relative.unbraced⟩, openQuote_cons (by simp [IsQuote]), ?_⟩
  rw [relative.trimBlank_dot]
  rfl

theorem spells_root : Spells path ('$' :: '.' :: path) := by
  refine ⟨List.forall_mem_cons.mpr ⟨rfl, relative.spells_dot.unbraced⟩, ?_, ?_⟩
  · rw [openQuote_cons (by simp [IsQuote]), relative.spells_dot.openQuote_eq]
  · rw [trimBlank_cons_cons (by decide) (by decide), relative.trimBlank_dot]
    rfl

theorem spells_spaced : Spells path (' ' :: '.' :: (path ++ [' '])) := by
  refine ⟨?_, ?_, ?_⟩
  · intro c member
    simp only [List.mem_cons, List.mem_append, List.not_mem_nil, or_false] at member
    rcases member with rfl | rfl | inside | rfl
    · rfl
    · rfl
    · exact relative.unbraced c inside
    · rfl
  · rw [openQuote_cons (by simp [IsQuote]), openQuote_cons (by simp [IsQuote]),
      openQuote_append (by simp [IsQuote])]
  · rw [trimBlank_blank_cons (by decide), trimBlank_concat (by decide) (by decide),
      relative.trimBlank_dot]
    rfl

theorem exists_blanks : ∃ blanks, (∀ blank ∈ blanks, isBlank blank = true) ∧
    path = trimBlank path ++ blanks := by
  rcases relative.begins with ⟨c, rest, rfl, visible, -⟩
  exact exists_blanks_behind visible

theorem openQuote_trimBlank : openQuote (trimBlank path) = openQuote path := by
  rcases relative.exists_blanks with ⟨blanks, blank, same⟩
  calc openQuote (trimBlank path)
    _ = openQuote (trimBlank path ++ blanks) :=
        (openQuote_append fun c member => not_isQuote_of_class (by decide) (blank c member)).symm
    _ = openQuote path := by rw [← same]

/-- Where strings have to end, a path that leaves a quote open is no expression, unless it has a
backslash or a backquote. -/
theorem read_rooted {language : PathLanguage} (ends : language.EndsStrings)
    (unescaped : Token.IsUnescaped path) (isOpen : openQuote path ≠ none) :
    ∃ reason, language.read ('$' :: '.' :: trimBlank path) = .error reason := by
  have within : trimBlank path ⊆ path := by
    rcases relative.exists_blanks with ⟨blanks, -, same⟩
    intro c member
    rw [same]
    exact List.mem_append_left _ member
  have rooted : Token.IsUnescaped ('$' :: '.' :: trimBlank path) := by
    constructor
    · simpa using mt (@within _) unescaped.noBackslash
    · simpa using mt (@within _) unescaped.noBackquote
  cases read : language.read ('$' :: '.' :: trimBlank path) with
  | error reason => exact ⟨reason, rfl⟩
  | ok search =>
      have closed := ends.openQuote_eq_none _ search rooted read
      rw [openQuote_cons (by simp [IsQuote]), openQuote_cons (by simp [IsQuote]),
        relative.openQuote_trimBlank] at closed
      exact absurd closed isOpen

end IsRelative

end HttpGauge.Path

namespace HttpGauge.Extractor

open HttpGauge.Json HttpGauge.Path HttpGauge.Text

variable {language : PathLanguage}

/-! ## Templates that are alike -/

/-- Templates none of which compiles, or that all compile to the same extraction of a single set. -/
def Alike (language : PathLanguage) (templates : List String) : Prop :=
  (∀ template ∈ templates, ∃ fault,
    (compile language template).outcome = .error (.configuration fault)) ∨
  ∃ found : Value → Except Failure (List Value), ∀ template ∈ templates, ∃ extractor,
    (compile language template).outcome = .ok extractor ∧
      ∀ document, extractor.find document = (found document).map fun values => [values]

/-- Where one of the templates does not compile, none does. -/
theorem Alike.fails {templates : List String} {template : String}
    (alike : Alike language templates) (member : template ∈ templates)
    (fails : ∃ fault, (compile language template).outcome = .error (.configuration fault)) :
    ∀ other ∈ templates, ∃ fault,
      (compile language other).outcome = .error (.configuration fault) := by
  rcases alike with fail | ⟨found, compiles⟩
  · exact fail
  · rcases compiles template member with ⟨extractor, compiled, -⟩
    rcases fails with ⟨fault, failed⟩
    cases compiled.symm.trans failed

/-- A template that is a single expression, the path from the root. -/
structure IsRooted (path : List Char) (template : String) : Prop where
  nonempty : template ≠ ""
  expression : ∃ text, split template.toList = .ok [.expression text] ∧
    normalize text = '$' :: '.' :: trimBlank path

/-- A template of a path that is no expression does not compile. -/
theorem IsRooted.fails {path : List Char} {template reason : String}
    (rooted : IsRooted path template)
    (unread : language.read ('$' :: '.' :: trimBlank path) = .error reason) :
    ∃ fault, (compile language template).outcome = .error (.configuration fault) := by
  rcases rooted.expression with ⟨text, splits, same⟩
  have fails : (compile language template).outcome = _ :=
    outcome_compile_expression rooted.nonempty splits
  rw [same, unread] at fails
  exact ⟨_, fails⟩

/-- A path from the root is the same in every template. -/
theorem alike_of_isRooted {path : List Char} {templates : List String}
    (rooted : ∀ template ∈ templates, IsRooted path template) : Alike language templates := by
  cases read : language.read ('$' :: '.' :: trimBlank path) with
  | error reason =>
      left
      intro template member
      exact (rooted template member).fails read
  | ok search =>
      right
      refine ⟨fun document => select document (.query search), fun template member => ?_⟩
      rcases rooted template member with ⟨nonempty, text, splits, same⟩
      have compiles : (compile language template).outcome = _ :=
        outcome_compile_expression nonempty splits
      rw [same, read] at compiles
      exact ⟨_, compiles, find_single template (.query search)⟩

section Spelled

variable {path raw : List Char} {template : String}

/-- Without braces a text that spells a path is a template of it. -/
theorem isRooted_of_spells (spells : Spells path template.toList) : IsRooted path template := by
  have unbraced : template.toList.any isBrace = false := by
    simpa using spells.unbraced
  refine ⟨?_, trimBlank template.toList, ?_, spells.rooted⟩
  · rintro rfl
    exact absurd (List.cons.inj spells.rooted).2 (List.cons_ne_nil _ _).symm
  · rw [split, unbraced, if_neg Bool.false_ne_true]

/-- In braces it is one too if no quote is left open; otherwise a string does not end. -/
theorem isRooted_of_braced (spells : Spells path raw)
    (braced : template.toList = '\x7b' :: (raw ++ ['\x7d'])) (closed : openQuote path = none) :
    IsRooted path template := by
  refine ⟨?_, trimBlank raw, ?_, spells.rooted⟩
  · rintro rfl
    contradiction
  · rw [braced, split_braced spells.unbraced, spells.openQuote_eq, if_pos closed]

theorem unclosed_of_braced (spells : Spells path raw)
    (braced : template.toList = '\x7b' :: (raw ++ ['\x7d'])) (isOpen : openQuote path ≠ none) :
    (compile language template).outcome =
      .error (.configuration (.unclosedExpression template)) := by
  have nonempty : template ≠ "" := by
    rintro rfl
    contradiction
  rw [outcome_compile nonempty, ofTemplate, braced, split_braced spells.unbraced,
    spells.openQuote_eq, if_neg isOpen]
  rfl

end Spelled

/-! ## The spellings of a path -/

/-- The spellings of a path without braces. -/
def bareSpellings (path : String) : List String :=
  [path, "." ++ path, "$." ++ path]

/-- The spellings of a path with braces. -/
def bracedSpellings (path : String) : List String :=
  ["\x7b" ++ path ++ "\x7d", "\x7b." ++ path ++ "\x7d", "\x7b$." ++ path ++ "\x7d",
    "\x7b ." ++ path ++ " \x7d"]

section Spellings

variable {path : String} (relative : IsRelative path.toList)

include relative

theorem isRooted_of_mem_bareSpellings :
    ∀ template ∈ bareSpellings path, IsRooted path.toList template := by
  have spelled : ∀ template ∈ bareSpellings path, Spells path.toList template.toList := by
    simp only [bareSpellings, List.forall_mem_cons, String.toList_append]
    exact ⟨relative.spells_self, relative.spells_dot, relative.spells_root, by simp⟩
  exact fun template member => isRooted_of_spells (spelled template member)

theorem spells_of_mem_bracedSpellings :
    ∀ template ∈ bracedSpellings path, ∃ raw, Spells path.toList raw ∧
      template.toList = '\x7b' :: (raw ++ ['\x7d']) := by
  simp only [bracedSpellings, List.forall_mem_cons, String.toList_append]
  refine ⟨⟨_, relative.spells_self, rfl⟩, ⟨_, relative.spells_dot, rfl⟩,
    ⟨_, relative.spells_root, rfl⟩, ⟨_, relative.spells_spaced, ?_⟩, by simp⟩
  simp

theorem isRooted_of_mem_spellings (closed : openQuote path.toList = none) :
    ∀ template ∈ bareSpellings path ++ bracedSpellings path, IsRooted path.toList template := by
  intro template member
  rcases List.mem_append.mp member with isBare | isBraced
  · exact isRooted_of_mem_bareSpellings relative template isBare
  · rcases spells_of_mem_bracedSpellings relative template isBraced with ⟨raw, spells, braced⟩
    exact isRooted_of_braced spells braced closed

theorem unclosed_of_mem_bracedSpellings (isOpen : openQuote path.toList ≠ none) :
    ∀ template ∈ bracedSpellings path,
      (compile language template).outcome =
        .error (.configuration (.unclosedExpression template)) := by
  intro template member
  rcases spells_of_mem_bracedSpellings relative template member with ⟨raw, spells, braced⟩
  exact unclosed_of_braced spells braced isOpen

end Spellings

/-! ## Main statement -/

/-- The spellings of a path without braces are alike.  Those with braces are refused if the path
leaves a quote open, and only then is any of them unlike the others: where the path itself does not
compile, none does.  So, where strings have to end, all are alike if the path has neither a
backslash nor a backquote. -/
theorem alike_spellings_iff (language : PathLanguage) (path : String)
    (relative : IsRelative path.toList) :
    Alike language (bareSpellings path) ∧
      (openQuote path.toList ≠ none → ∀ template ∈ bracedSpellings path,
        (compile language template).outcome =
          .error (.configuration (.unclosedExpression template))) ∧
      (Alike language (bareSpellings path ++ bracedSpellings path) ↔
        openQuote path.toList = none ∨
          ∃ fault, (compile language path).outcome = .error (.configuration fault)) ∧
      (language.EndsStrings → Token.IsUnescaped path.toList →
        Alike language (bareSpellings path ++ bracedSpellings path)) := by
  have bare := isRooted_of_mem_bareSpellings relative
  have refused (isOpen : openQuote path.toList ≠ none) : ∀ template ∈ bracedSpellings path,
      (compile language template).outcome =
        .error (.configuration (.unclosedExpression template)) :=
    unclosed_of_mem_bracedSpellings relative isOpen
  have self : path ∈ bareSpellings path := by simp [bareSpellings]
  have inBraces : "\x7b" ++ path ++ "\x7d" ∈ bracedSpellings path := by simp [bracedSpellings]
  have alike : Alike language (bareSpellings path ++ bracedSpellings path) ↔
      openQuote path.toList = none ∨
        ∃ fault, (compile language path).outcome = .error (.configuration fault) := by
    by_cases closed : openQuote path.toList = none
    · constructor
      · exact fun _ => Or.inl closed
      · exact fun _ => alike_of_isRooted (isRooted_of_mem_spellings relative closed)
    · constructor
      · intro alike
        exact Or.inr (alike.fails (List.mem_append_right _ inBraces)
          ⟨_, refused closed _ inBraces⟩ path (List.mem_append_left _ self))
      · rintro (none | fails)
        · exact absurd none closed
        · left
          intro template member
          rcases List.mem_append.mp member with isBare | isBraced
          · exact (alike_of_isRooted bare).fails self fails template isBare
          · exact ⟨_, refused closed template isBraced⟩
  refine ⟨alike_of_isRooted bare, refused, alike, fun ends unescaped => alike.mpr ?_⟩
  by_cases closed : openQuote path.toList = none
  · exact Or.inl closed
  · rcases relative.read_rooted ends unescaped closed with ⟨reason, unread⟩
    exact Or.inr ((bare path self).fails unread)

/-- A quote behind a backslash: without braces the path compiles, with braces it does not. -/
theorem not_alike_of_escaped_quote :
    (∃ extractor, (compile Query.language "a['it\\'s']").outcome = .ok extractor) ∧
      (compile Query.language "\x7ba['it\\'s']\x7d").outcome =
        .error (.configuration (.unclosedExpression "\x7ba['it\\'s']\x7d")) ∧
      ¬ Alike Query.language
        (bareSpellings "a['it\\'s']" ++ bracedSpellings "a['it\\'s']") := by
  have relative : IsRelative "a['it\\'s']".toList := by
    refine ⟨fun c member => ?_, 'a', "['it\\'s']".toList, rfl, by decide⟩
    exact eq_false_of_ne_true
      (List.any_eq_false.mp (by decide : "a['it\\'s']".toList.any isBrace = false) c member)
  have isOpen : openQuote "a['it\\'s']".toList ≠ none := by decide
  have isRead : (Query.read (normalize "a['it\\'s']".toList)).isSome = true := by decide +kernel
  have splits : split "a['it\\'s']".toList = .ok [.expression "a['it\\'s']".toList] := rfl
  rcases Option.isSome_iff_exists.mp isRead with ⟨query, read⟩
  have reads := Query.read_language_eq_ok_iff.mpr ⟨query, read, rfl⟩
  have compiles : (compile Query.language "a['it\\'s']").outcome = _ :=
    outcome_compile_expression (by decide) splits
  rw [reads] at compiles
  rcases alike_spellings_iff Query.language "a['it\\'s']" relative with ⟨-, refused, alike, -⟩
  refine ⟨⟨_, compiles⟩, refused isOpen _ List.mem_cons_self, ?_⟩
  rw [alike]
  rintro (closed | ⟨fault, fails⟩)
  · exact isOpen closed
  · rw [compiles] at fails
    cases fails

end HttpGauge.Extractor
