import HttpGauge.Proofs.Extraction
import HttpGauge.Proofs.Path.Splitting

/-!
# Templates in a row

A template behind another one.  Where both have braces and both compile, so does the whole: its
segments are those of both in turn, except that a literal at the end of the first and one at the
beginning of the second are a single literal.  Unless two literals meet in this way, the whole finds
what both find, and fails as the leftmost of their segments that fails.
-/

namespace HttpGauge.Path

open HttpGauge.Text HttpGauge.Path.Template

/-! ## Fusing lists -/

section Fusing

variable {α β : Type}

/-- A list behind an element, which is fused with the first one if that can be. -/
def fusedTo (fuse? : α → α → Option α) (last : α) : List α → List α
  | [] => [last]
  | next :: rest =>
      match fuse? last next with
      | some both => both :: rest
      | none => last :: next :: rest

/-- A list behind another one, fused where they meet if that can be. -/
def fused (fuse? : α → α → Option α) : List α → List α → List α
  | [], second => second
  | [last], second => fusedTo fuse? last second
  | first :: next :: rest, second => first :: fused fuse? (next :: rest) second

variable {fuse? : α → α → Option α} {fuseToo? : β → β → Option β} {element : α}
  {front first second : List α}

/-- What stands before the last element stays as it is. -/
theorem fused_append_cons :
    fused fuse? (front ++ element :: first) second =
      front ++ fused fuse? (element :: first) second := by
  induction front with
  | nil => rfl
  | cons head front ih =>
      cases front with
      | nil => rfl
      | cons next front => exact congrArg (head :: ·) ih

/-- What cannot be fused with anything stays as it is. -/
theorem fused_cons (alone : ∀ next, fuse? element next = none) :
    fused fuse? (element :: first) second = element :: fused fuse? first second := by
  cases first with
  | nil =>
      cases second with
      | nil => rfl
      | cons next second => simp only [fused, fusedTo, alone next]
  | cons next first => rfl

/-- Where nothing can be fused the lists are appended. -/
theorem fused_eq_append
    (apart : ∀ last ∈ first.getLast?, ∀ next ∈ second.head?, fuse? last next = none) :
    fused fuse? first second = first ++ second := by
  rcases List.eq_nil_or_concat first with rfl | ⟨front, last, rfl⟩
  · rfl
  · rw [List.concat_eq_append] at apart ⊢
    rw [fused_append_cons, List.append_assoc]
    cases second with
    | nil => rfl
    | cons next second =>
        have separate := apart last (by simp) next (by simp)
        simp only [fused, fusedTo, separate, List.singleton_append]

section Related

variable {R : α → β → Prop} {last : α} {other : β} {third fourth : List β}
  (related : ∀ {a b : α} {c d : β}, R a c → R b d → Option.Rel R (fuse? a b) (fuseToo? c d))

include related

theorem forall₂_fusedTo (head : R last other) (tail : List.Forall₂ R second fourth) :
    List.Forall₂ R (fusedTo fuse? last second) (fusedTo fuseToo? other fourth) := by
  cases tail with
  | nil => exact .cons head .nil
  | @cons next following _ _ first tail =>
      have both := related head first
      dsimp only [fusedTo]
      generalize fuse? last next = one, fuseToo? other following = another at both ⊢
      cases both with
      | some both => exact .cons both tail
      | none => exact .cons head (.cons first tail)

/-- Related lists are fused to related ones if related elements are. -/
theorem forall₂_fused (fronts : List.Forall₂ R first third)
    (backs : List.Forall₂ R second fourth) :
    List.Forall₂ R (fused fuse? first second) (fused fuseToo? third fourth) := by
  induction fronts with
  | nil => exact backs
  | cons head tail ih =>
      cases tail with
      | cons next tail => exact .cons head ih
      | nil => exact forall₂_fusedTo related head backs

end Related

end Fusing

/-! ## Segments in a row -/

/-- Two literals are a single one. -/
def Segment.fuse? : Segment → Segment → Option Segment
  | .literal first, .literal second => some (.literal (first ++ second))
  | _, _ => none

theorem Segment.fuse?_expression (text : List Char) (next : Segment) :
    fuse? (.expression text) next = none :=
  rfl

/-- A row of chunks behind a held text that ends where the row begins. -/
theorem scan_apart {chunks : List Chunk} {held : List Char} (row : IsRow chunks)
    (noLiteral : ∀ text, chunks.head? ≠ some (.literal text)) :
    scan .literal held (written chunks) = .ok (literalOf held ++ chunks.map Chunk.segment) := by
  have scanned := scan_written row .done (Or.inr noLiteral : held = [] ∨ _)
  rw [List.append_nil] at scanned
  exact scanned

/-- A row of chunks behind a held text, which belongs to its first literal if it begins with one. -/
theorem scan_held {chunks : List Chunk} (row : IsRow chunks) (held : List Char) :
    scan .literal held (written chunks) =
      .ok (fused Segment.fuse? (literalOf held) (chunks.map Chunk.segment)) := by
  by_cases empty : held = []
  · rw [empty]
    exact scan_eq_ok_iff.mpr ⟨chunks, row, rfl, rfl⟩
  · have single : literalOf held = [.literal held.reverse] := by simp [literalOf, empty]
    cases row with
    | none =>
        rw [scan_apart .none (by simp), single]
        rfl
    | literal nonempty unbraced noLiteral more =>
        rw [written_literal, scan_literal unbraced, scan_apart more noLiteral, single]
        simp [literalOf, nonempty, fused, fusedTo, Segment.fuse?, Chunk.segment]
    | group balanced more =>
        rw [scan_apart (.group balanced more) (by simp), single]
        rfl

/-- A row of chunks behind another one. -/
theorem scan_rows {chunks others : List Chunk} {held : List Char} (row : IsRow chunks)
    (rowToo : IsRow others) (apart : held = [] ∨ ∀ text, chunks.head? ≠ some (.literal text)) :
    scan .literal held (written chunks ++ written others) =
      .ok (fused Segment.fuse? (literalOf held ++ chunks.map Chunk.segment)
        (others.map Chunk.segment)) := by
  induction row generalizing held with
  | none => simpa using scan_held rowToo held
  | @literal text chunks nonempty unbraced noLiteral _ ih =>
      rcases apart with rfl | apart
      · rw [written_literal, List.append_assoc, scan_literal unbraced, List.append_nil,
          ih (Or.inr noLiteral), literalOf_reverse nonempty]
        rfl
      · exact absurd rfl (apart text)
  | group balanced _ ih =>
      -- Behind a group nothing is held, and the group itself is not fused with what follows.
      rw [written_group, List.cons_append, List.append_assoc, List.cons_append,
        scan_group balanced, ih (Or.inl rfl), List.map_cons, fused_append_cons]
      simp only [Chunk.segment, fused_cons (Segment.fuse?_expression _)]
      rfl

/-- A template behind another one is split into the segments of both, fused where they meet. -/
theorem split_append {first second : List Char} {segments others : List Segment}
    (braced : first.any isBrace = true) (bracedToo : second.any isBrace = true)
    (splits : split first = .ok segments) (splitsToo : split second = .ok others) :
    split (first ++ second) = .ok (fused Segment.fuse? segments others) := by
  rw [split, if_pos braced] at splits
  rw [split, if_pos bracedToo] at splitsToo
  rcases scan_eq_ok_iff.mp splits with ⟨chunks, row, rfl, rfl⟩
  rcases scan_eq_ok_iff.mp splitsToo with ⟨following, rowToo, rfl, rfl⟩
  rw [split, if_pos (by rw [List.any_append, braced, Bool.true_or])]
  exact scan_rows row rowToo (Or.inl rfl)

end HttpGauge.Path

namespace HttpGauge

open HttpGauge.Json HttpGauge.Path HttpGauge.Text

/-! ## Selectors in a row -/

/-- Two literals are a single one. -/
def Selector.fuse? : Selector → Selector → Option Selector
  | .literal first, .literal second => some (.literal (first ++ second))
  | _, _ => none

variable {language : PathLanguage}

/-- A segment and the selector that it compiles to. -/
def Path.Segment.CompilesTo (language : PathLanguage) (segment : Segment) (selector : Selector) :
    Prop :=
  segment.compile language = .ok selector

/-- An expression compiles to the search that is read. -/
theorem Path.Segment.CompilesTo.of_read {text : List Char} {search : Search}
    (read : language.read (normalize text) = .ok search) :
    CompilesTo language (.expression text) (.query search) := by
  rw [CompilesTo, Segment.compile, read]
  rfl

theorem Path.Segment.CompilesTo.exists_search {text : List Char} {selector : Selector}
    (compiles : CompilesTo language (.expression text) selector) :
    ∃ search, language.read (normalize text) = .ok search ∧ selector = .query search := by
  rw [CompilesTo, Segment.compile] at compiles
  cases read : language.read (normalize text) with
  | error reason =>
      rw [read] at compiles
      cases compiles
  | ok search =>
      rw [read] at compiles
      cases compiles
      exact ⟨search, rfl, rfl⟩

/-- Fused segments compile to fused selectors. -/
theorem Path.Segment.CompilesTo.fuse? {segment next : Segment} {selector following : Selector}
    (compiles : segment.CompilesTo language selector)
    (compilesToo : next.CompilesTo language following) :
    Option.Rel (CompilesTo language) (segment.fuse? next) (selector.fuse? following) := by
  cases segment with
  | literal text =>
      cases compiles
      cases next with
      | literal other =>
          cases compilesToo
          exact .some (by simp [CompilesTo, compile])
      | expression other =>
          rcases compilesToo.exists_search with ⟨search, -, rfl⟩
          exact .none
  | expression text =>
      rcases compiles.exists_search with ⟨search, -, rfl⟩
      exact .none

namespace Extractor

variable {first second : String} {front back whole : Extractor}

/-- A template behind another one compiles to the selectors of both, fused where they meet. -/
theorem outcome_compile_append (braced : first.toList.any isBrace = true)
    (bracedToo : second.toList.any isBrace = true)
    (compiles : (compile language first).outcome = .ok front)
    (compilesToo : (compile language second).outcome = .ok back) :
    (compile language (first ++ second)).outcome =
      .ok ⟨first ++ second, fused Selector.fuse? front.selectors back.selectors⟩ := by
  have nonempty {template : String} (braced : template.toList.any isBrace = true) :
      template ≠ "" := by
    rintro rfl
    contradiction
  have bracedBoth : (first ++ second).toList.any isBrace = true := by
    rw [String.toList_append, List.any_append, braced, Bool.true_or]
  rcases (outcome_compile_eq_ok_iff (nonempty braced)).mp compiles with
    ⟨segments, splits, selects, -⟩
  rcases (outcome_compile_eq_ok_iff (nonempty bracedToo)).mp compilesToo with
    ⟨others, splitsToo, selectsToo, -⟩
  rw [outcome_compile_eq_ok_iff (nonempty bracedBoth)]
  refine ⟨fused Segment.fuse? segments others, ?_, ?_, rfl⟩
  · rw [String.toList_append]
    exact split_append braced bracedToo splits splitsToo
  · exact mapM_eq_ok_iff.mpr (forall₂_fused Segment.CompilesTo.fuse?
      (mapM_eq_ok_iff.mp selects) (mapM_eq_ok_iff.mp selectsToo))

/-! ## Extraction -/

/-- A literal ends some selectors, and another one begins others. -/
def LiteralsMeet (first second : List Selector) : Prop :=
  ∃ text other, first.getLast? = some (.literal text) ∧ second.head? = some (.literal other)

/-- Unless literals meet, nothing is fused. -/
theorem fused_of_not_literalsMeet {first second : List Selector}
    (apart : ¬ LiteralsMeet first second) :
    fused Selector.fuse? first second = first ++ second := by
  apply fused_eq_append
  intro last isLast next isNext
  cases last with
  | query _ => rfl
  | literal text =>
      cases next with
      | query _ => rfl
      | literal other => exact absurd ⟨text, other, isLast, isNext⟩ apart

/-- An extractor finds in a document what two others find, in turn. -/
structure FindsInTurn (first second whole : Extractor) (document : Value) : Prop where
  found : ∀ sets, whole.find document = .ok sets ↔
    ∃ front back, first.find document = .ok front ∧ second.find document = .ok back ∧
      sets = front ++ back
  /-- There is one set for each segment. -/
  length_found : ∀ sets, whole.find document = .ok sets →
    sets.length = first.selectors.length + second.selectors.length
  /-- An extraction fails if that of one of both does. -/
  extraction : (∃ fault, whole.find document = .error (.extraction fault)) ↔
    (∃ fault, first.find document = .error (.extraction fault)) ∨
      ∃ fault, second.find document = .error (.extraction fault)
  /-- The second fails only where the first finds something. -/
  failed : ∀ failure, whole.find document = .error failure ↔
    first.find document = .error failure ∨
      (∃ front, first.find document = .ok front) ∧ second.find document = .error failure
  /-- Whatever fails, the path language says it of the leftmost segment that fails. -/
  leftmost : ∀ failure, whole.find document = .error failure ↔
    ∃ search reason,
      IsLeftmostFailing document (first.selectors ++ second.selectors) (.query search) ∧
        search document = .error reason ∧ failure = .extraction (.pathFailed reason)

/-- An extraction fails as one of both, the first one if both do. -/
theorem find_eq_error_iff_of_append (joined : whole.selectors = front.selectors ++ back.selectors)
    {document : Value} {failure : Failure} :
    whole.find document = .error failure ↔
      front.find document = .error failure ∨
        (∃ sets, front.find document = .ok sets) ∧ back.find document = .error failure := by
  rw [find_append joined document]
  cases front.find document with
  | error other => simp [Except.bind]
  | ok sets => cases back.find document <;> simp [Except.bind, Except.map]

/-- An extraction fails if that of one of both does. -/
theorem find_fails_iff_of_append (joined : whole.selectors = front.selectors ++ back.selectors)
    {document : Value} :
    (∃ fault, whole.find document = .error (.extraction fault)) ↔
      (∃ fault, front.find document = .error (.extraction fault)) ∨
        ∃ fault, back.find document = .error (.extraction fault) := by
  constructor
  · rintro ⟨fault, raised⟩
    rcases (find_eq_error_iff_of_append joined).mp raised with fails | ⟨-, fails⟩
    · exact Or.inl ⟨fault, fails⟩
    · exact Or.inr ⟨fault, fails⟩
  · rintro (⟨fault, fails⟩ | ⟨fault, fails⟩)
    · exact ⟨fault, (find_eq_error_iff_of_append joined).mpr (Or.inl fails)⟩
    · cases found : front.find document with
      | ok sets =>
          exact ⟨fault, (find_eq_error_iff_of_append joined).mpr (Or.inr ⟨⟨sets, found⟩, fails⟩)⟩
      | error failure =>
          rcases find_error found with ⟨reason, rfl⟩
          exact ⟨.pathFailed reason, (find_eq_error_iff_of_append joined).mpr (Or.inl found)⟩

/-- Extractors in a row find in turn. -/
theorem findsInTurn_of_append (joined : whole.selectors = front.selectors ++ back.selectors)
    (document : Value) : FindsInTurn front back whole document := by
  constructor
  · intro sets
    rw [find_append joined document]
    cases front.find document with
    | error other => simp [Except.bind]
    | ok sets => cases back.find document <;> simp [Except.bind, Except.map, eq_comm]
  · intro sets found
    rw [length_of_find found, joined, List.length_append]
  · exact find_fails_iff_of_append joined
  · exact fun failure => find_eq_error_iff_of_append joined
  · intro failure
    rw [find_eq_error_iff_search, joined]

/-! ## Main statement -/

/-- Two templates with braces that compile make up one that compiles: it is split into the segments
of both, and so are its selectors, except that a literal at the end of the first and one at the
beginning of the second are one.  Unless two literals meet, it finds in every document what both
find, in turn.  The extraction fails if that of one of them does, with what the path language says
of the leftmost segment that fails. -/
theorem compile_append (language : PathLanguage) (braced : first.toList.any isBrace = true)
    (bracedToo : second.toList.any isBrace = true)
    (compiles : (compile language first).outcome = .ok front)
    (compilesToo : (compile language second).outcome = .ok back) :
    ∃ whole, (compile language (first ++ second)).outcome = .ok whole ∧
      (∀ segments others, split first.toList = .ok segments → split second.toList = .ok others →
        split (first ++ second).toList = .ok (fused Segment.fuse? segments others)) ∧
      whole.selectors = fused Selector.fuse? front.selectors back.selectors ∧
      (∀ before text other behind, front.selectors = before ++ [.literal text] →
        back.selectors = .literal other :: behind →
        whole.selectors = before ++ .literal (text ++ other) :: behind) ∧
      (¬ LiteralsMeet front.selectors back.selectors →
        whole.selectors = front.selectors ++ back.selectors ∧
          ∀ document, FindsInTurn front back whole document) := by
  refine ⟨_, outcome_compile_append braced bracedToo compiles compilesToo, ?_, rfl, ?_, ?_⟩
  · intro segments others splits splitsToo
    rw [String.toList_append]
    exact split_append braced bracedToo splits splitsToo
  · intro before text other behind ends begins
    simp only [ends, begins, fused_append_cons]
    rfl
  · intro apart
    have joined := fused_of_not_literalsMeet apart
    exact ⟨joined, findsInTurn_of_append joined⟩

/-- A template behind one that finds something, with an expression that cannot be applied. -/
theorem compile_append_of_failing :
    ∃ finding failing whole reason,
      (compile Query.language "\x7b$\x7dx").outcome = .ok finding ∧
      (compile Query.language "\x7b$.a & $.b\x7d").outcome = .ok failing ∧
      (compile Query.language ("\x7b$\x7dx" ++ "\x7b$.a & $.b\x7d")).outcome = .ok whole ∧
      finding.find (.int 1) = .ok [[.int 1], [.str "x"]] ∧
      failing.find (.int 1) = .error (.extraction (.pathFailed reason)) ∧
      whole.find (.int 1) = .error (.extraction (.pathFailed reason)) := by
  have splits : split "\x7b$\x7dx".toList = .ok [.expression ['$'], .literal ['x']] := rfl
  have splitsToo : split "\x7b$.a & $.b\x7d".toList = .ok [.expression "$.a & $.b".toList] := rfl
  have reads : Query.read (normalize ['$']) = some .root := by cbv
  have read := Query.read_language_eq_ok_iff.mpr ⟨_, reads, rfl⟩
  have compiled : List.Forall₂ (Segment.CompilesTo Query.language)
      [.expression ['$'], .literal ['x']] [.query (Query.search .root), .literal "x"] :=
    .cons (.of_read read) (.cons rfl .nil)
  have compiles : (compile Query.language "\x7b$\x7dx").outcome =
      .ok ⟨"\x7b$\x7dx", [.query (Query.search .root), .literal "x"]⟩ :=
    (outcome_compile_eq_ok_iff (by decide)).mpr ⟨_, splits, mapM_eq_ok_iff.mpr compiled, rfl⟩
  have compilesToo : (compile Query.language "\x7b$.a & $.b\x7d").outcome = _ :=
    outcome_compile_expression (by decide) splitsToo
  rw [read_intersection] at compilesToo
  rcases compile_append Query.language (by decide) (by decide) compiles compilesToo with
    ⟨whole, compilesBoth, -, -, -, finds⟩
  have apart : ¬ LiteralsMeet [.query (Query.search .root), .literal "x"]
      [.query (Query.search (.child (.child .root (.intersection (.fields ["a"]) .root))
        (.fields ["b"])))] := by
    rintro ⟨_, _, -, begins⟩
    cases begins
  have inTurn := (finds apart).2 (.int 1)
  exact ⟨_, _, whole, _, compiles, compilesToo, compilesBoth, rfl, rfl,
    (inTurn.failed _).mpr (Or.inr ⟨⟨_, rfl⟩, rfl⟩)⟩

end Extractor

end HttpGauge
