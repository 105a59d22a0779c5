import HttpGauge.Path.Template

/-!
# The grammar of templates

What a template is, stated without a scanner: a row of chunks, each of them a literal or a text in
braces.  Inside of braces, strings are closed by the quote that opens them, and the braces outside
of strings are balanced.  Main statement: a text is the writing of at most one row.
-/

namespace HttpGauge.Path.Template

/-! ## Strings -/

/-- The characters that open a string, and close the ones that they opened. -/
def IsQuote (c : Char) : Prop :=
  c = '\'' ∨ c = '"'

/-- A text in which every string is closed, and what stands outside of its strings. -/
inductive Outside : List Char → List Char → Prop where
  | none : Outside [] []
  | plain {c : Char} {text outside : List Char} (noQuote : ¬ IsQuote c)
      (more : Outside text outside) : Outside (c :: text) (c :: outside)
  /-- A string up to the next quote of its kind. -/
  | string {quote : Char} {inner text outside : List Char} (opens : IsQuote quote)
      (inside : quote ∉ inner) (more : Outside text outside) :
      Outside (quote :: (inner ++ quote :: text)) outside

theorem Outside.of_cons {c : Char} {text outside : List Char} (noQuote : ¬ IsQuote c)
    (read : Outside (c :: text) outside) : ∃ rest, outside = c :: rest ∧ Outside text rest := by
  cases read with
  | plain _ more => exact ⟨_, rfl, more⟩
  | string opens _ _ => exact absurd opens noQuote

theorem Outside.of_quote {quote : Char} {text outside : List Char} (opens : IsQuote quote)
    (read : Outside (quote :: text) outside) :
    ∃ inner rest, text = inner ++ quote :: rest ∧ quote ∉ inner ∧ Outside rest outside := by
  cases read with
  | plain noQuote _ => exact absurd opens noQuote
  | string _ inside more => exact ⟨_, _, rfl, inside, more⟩

/-- A string ends in one place. -/
theorem string_unique {quote : Char} {inner other rest later : List Char} (inside : quote ∉ inner)
    (within : quote ∉ other) (same : inner ++ quote :: rest = other ++ quote :: later) :
    inner = other ∧ rest = later := by
  induction inner generalizing other with
  | nil =>
      cases other with
      | nil => exact ⟨rfl, (List.cons.inj same).2⟩
      | cons c other =>
          rw [(List.cons.inj same).1] at within
          exact absurd List.mem_cons_self within
  | cons c inner ih =>
      cases other with
      | nil =>
          rw [← (List.cons.inj same).1] at inside
          exact absurd List.mem_cons_self inside
      | cons d other =>
          obtain ⟨rfl, tails⟩ := List.cons.inj same
          obtain ⟨rfl, ends⟩ := ih (fun member => inside (List.mem_cons_of_mem _ member))
            (fun member => within (List.mem_cons_of_mem _ member)) tails
          exact ⟨rfl, ends⟩

/-! ## Braces -/

/-- The braces of a text close those that are open before it, so many of them, and their own. -/
structure Closes (depth : Nat) (text : List Char) : Prop where
  /-- Nowhere are more braces closed than have been opened. -/
  opened : ∀ front, front <+: text → front.count '\x7d' ≤ depth + front.count '\x7b'
  /-- In the end all of them are. -/
  closed : text.count '\x7d' = depth + text.count '\x7b'

/-- How many braces are open behind a character; one that is not open cannot be closed. -/
def depthAfter? (c : Char) (depth : Nat) : Option Nat :=
  if c = '\x7b' then some (depth + 1)
  else if c = '\x7d' then (if depth = 0 then none else some (depth - 1))
  else some depth

theorem depthAfter?_eq_some_iff {c : Char} {depth next : Nat} :
    depthAfter? c depth = some next ↔ next + [c].count '\x7d' = depth + [c].count '\x7b' := by
  unfold depthAfter?
  by_cases opens : c = '\x7b'
  · simp [opens, eq_comm]
  · by_cases closes : c = '\x7d'
    · by_cases least : depth = 0
      · simp [closes, least]
      · simp [closes, least]
        omega
    · simp [opens, closes, eq_comm]

theorem depthAfter?_eq_none_iff {c : Char} {depth : Nat} :
    depthAfter? c depth = none ↔ c = '\x7d' ∧ depth = 0 := by
  unfold depthAfter?
  by_cases opens : c = '\x7b'
  · simp [opens]
  · by_cases closes : c = '\x7d' <;> simp [opens, closes]

theorem count_cons (c brace : Char) (text : List Char) :
    (c :: text).count brace = [c].count brace + text.count brace := by
  rw [← List.singleton_append, List.count_append]

/-- Braces are closed one character after another. -/
theorem closes_cons_iff {c : Char} {text : List Char} {depth : Nat} :
    Closes depth (c :: text) ↔ ∃ next, depthAfter? c depth = some next ∧ Closes next text := by
  simp only [depthAfter?_eq_some_iff]
  constructor
  · rintro ⟨opened, closed⟩
    have first := opened [c] ⟨text, rfl⟩
    refine ⟨depth + [c].count '\x7b' - [c].count '\x7d', by omega, ?_, ?_⟩
    · intro front start
      have bound := opened (c :: front) (List.cons_prefix_cons.mpr ⟨rfl, start⟩)
      rw [count_cons c _ front, count_cons c _ front] at bound
      omega
    · rw [count_cons c _ text, count_cons c _ text] at closed
      omega
  · rintro ⟨next, moved, opened, closed⟩
    constructor
    · intro front start
      rcases List.prefix_cons_iff.mp start with rfl | ⟨rest, rfl, inside⟩
      · simp
      · have bound := opened rest inside
        rw [count_cons c _ rest, count_cons c _ rest]
        omega
    · rw [count_cons c _ text, count_cons c _ text]
      omega

theorem closes_nil_iff {depth : Nat} : Closes depth [] ↔ depth = 0 := by
  constructor
  · intro closes
    have closed := closes.closed
    simpa [eq_comm] using closed
  · rintro rfl
    exact ⟨by simp, by simp⟩

/-- A text between braces: its strings are closed, and so are its braces outside of strings. -/
def IsBalanced (raw : List Char) : Prop :=
  ∃ outside, Outside raw outside ∧ Closes 0 outside

/-! ## Rows of chunks -/

/-- A part of a template. -/
inductive Chunk where
  | literal (text : List Char)
  /-- A text in braces. -/
  | group (raw : List Char)
  deriving DecidableEq, Repr

/-- The text of a chunk, with its braces. -/
def Chunk.text : Chunk → List Char
  | .literal text => text
  | .group raw => '\x7b' :: (raw ++ ['\x7d'])

/-- The segment that a chunk denotes. -/
def Chunk.segment : Chunk → Segment
  | .literal text => .literal text
  | .group raw => .expression (Text.trimBlank raw)

/-- The chunks of a template: literals have text but no braces, and no two of them touch. -/
inductive IsRow : List Chunk → Prop where
  | none : IsRow []
  | literal {text : List Char} {chunks : List Chunk} (nonempty : text ≠ [])
      (unbraced : ∀ c ∈ text, isBrace c = false)
      (apart : ∀ other, chunks.head? ≠ some (.literal other)) (more : IsRow chunks) :
      IsRow (.literal text :: chunks)
  | group {raw : List Char} {chunks : List Chunk} (balanced : IsBalanced raw)
      (more : IsRow chunks) : IsRow (.group raw :: chunks)

/-- The text of a row. -/
def written (chunks : List Chunk) : List Char :=
  chunks.flatMap Chunk.text

@[simp]
theorem written_nil : written [] = [] :=
  rfl

@[simp]
theorem written_literal (text : List Char) (chunks : List Chunk) :
    written (.literal text :: chunks) = text ++ written chunks :=
  rfl

@[simp]
theorem written_group (raw : List Char) (chunks : List Chunk) :
    written (.group raw :: chunks) = '\x7b' :: (raw ++ '\x7d' :: written chunks) := by
  simp [written, Chunk.text]

/-! ## Uniqueness -/

/-- A closing brace where no other is open ends the text. -/
theorem not_closes_of_closing {depth : Nat} {text beyond : List Char} (least : depth = 0)
    (read : Outside ('\x7d' :: text) beyond) : ¬ Closes depth beyond := by
  intro closes
  obtain ⟨later, rfl, -⟩ := read.of_cons (by simp [IsQuote])
  obtain ⟨next, moved, -⟩ := closes_cons_iff.mp closes
  rw [least] at moved
  contradiction

/-- The braces around a text end in one place. -/
theorem balanced_unique {depth : Nat} {raw other outside beyond rest later : List Char}
    (read : Outside raw outside) (closes : Closes depth outside) (alike : Outside other beyond)
    (closesToo : Closes depth beyond) (same : raw ++ '\x7d' :: rest = other ++ '\x7d' :: later) :
    raw = other ∧ rest = later := by
  induction read generalizing depth other beyond with
  | none =>
      have least := closes_nil_iff.mp closes
      cases other with
      | nil => exact ⟨rfl, (List.cons.inj same).2⟩
      | cons c other =>
          obtain ⟨rfl, -⟩ := List.cons.inj same
          exact absurd closesToo (not_closes_of_closing least alike)
  | @plain c text outside noQuote more ih =>
      cases other with
      | nil =>
          cases alike
          have least := closes_nil_iff.mp closesToo
          obtain ⟨rfl, -⟩ := List.cons.inj same
          exact absurd closes (not_closes_of_closing least (.plain noQuote more))
      | cons d other =>
          obtain ⟨rfl, tails⟩ := List.cons.inj same
          obtain ⟨later, rfl, moreToo⟩ := alike.of_cons noQuote
          obtain ⟨next, moved, closesMore⟩ := closes_cons_iff.mp closes
          obtain ⟨nextToo, movedToo, closesMoreToo⟩ := closes_cons_iff.mp closesToo
          obtain rfl := Option.some.inj (moved.symm.trans movedToo)
          obtain ⟨rfl, ends⟩ := ih closesMore moreToo closesMoreToo tails
          exact ⟨rfl, ends⟩
  | @string quote inner text outside opens inside more ih =>
      cases other with
      | nil =>
          obtain ⟨rfl, -⟩ := List.cons.inj same
          simp [IsQuote] at opens
      | cons d other =>
          obtain ⟨rfl, tails⟩ := List.cons.inj same
          obtain ⟨within, afterString, rfl, outsideToo, moreToo⟩ := alike.of_quote opens
          simp only [List.append_eq, List.append_assoc, List.cons_append] at tails
          obtain ⟨rfl, behind⟩ := string_unique inside outsideToo tails
          obtain ⟨rfl, ends⟩ := ih closes moreToo closesToo behind
          exact ⟨rfl, ends⟩

/-- What a row starts with: nothing, or a brace, or the text of a literal. -/
theorem IsRow.head?_written {chunks : List Chunk} (row : IsRow chunks)
    (apart : ∀ text, chunks.head? ≠ some (.literal text)) :
    ∀ c, (written chunks).head? = some c → isBrace c = true := by
  cases row with
  | none => simp
  | literal => exact absurd rfl (apart _)
  | group =>
      intro c head
      cases head
      rfl

/-- A literal ends where the next chunk begins. -/
theorem literal_unique {text other rest later : List Char}
    (unbraced : ∀ c ∈ text, isBrace c = false) (unbracedToo : ∀ c ∈ other, isBrace c = false)
    (ends : ∀ c, rest.head? = some c → isBrace c = true)
    (endsToo : ∀ c, later.head? = some c → isBrace c = true)
    (same : text ++ rest = other ++ later) : text = other ∧ rest = later := by
  induction text generalizing other with
  | nil =>
      cases other with
      | nil => exact ⟨rfl, same⟩
      | cons d other =>
          have brace := ends d (by rw [← List.nil_append rest, same]; rfl)
          rw [unbracedToo d List.mem_cons_self] at brace
          exact absurd brace Bool.false_ne_true
  | cons c text ih =>
      cases other with
      | nil =>
          have brace := endsToo c (by rw [← List.nil_append later, ← same]; rfl)
          rw [unbraced c List.mem_cons_self] at brace
          exact absurd brace Bool.false_ne_true
      | cons d other =>
          obtain ⟨rfl, tails⟩ := List.cons.inj same
          obtain ⟨rfl, behind⟩ := ih (fun c member => unbraced c (List.mem_cons_of_mem _ member))
            (fun c member => unbracedToo c (List.mem_cons_of_mem _ member)) tails
          exact ⟨rfl, behind⟩

/-- A literal and a group begin with different characters. -/
theorem literal_ne_group {text rest later : List Char} (nonempty : text ≠ [])
    (unbraced : ∀ c ∈ text, isBrace c = false) : text ++ rest ≠ '\x7b' :: later := by
  intro same
  cases text with
  | nil => contradiction
  | cons c text =>
      obtain ⟨rfl, -⟩ := List.cons.inj same
      have plain := unbraced _ List.mem_cons_self
      contradiction

/-- A text is the writing of at most one row. -/
theorem IsRow.unique {chunks others : List Chunk} (row : IsRow chunks) (rowToo : IsRow others)
    (same : written chunks = written others) : chunks = others := by
  induction row generalizing others with
  | none =>
      cases rowToo with
      | none => rfl
      | literal nonempty unbraced apart more =>
          exact absurd (List.append_eq_nil_iff.mp same.symm).1 nonempty
      | group balanced more => simp at same
  | literal nonempty unbraced apart more ih =>
      cases rowToo with
      | none => exact absurd (List.append_eq_nil_iff.mp same).1 nonempty
      | literal nonemptyToo unbracedToo apartToo moreToo =>
          obtain ⟨rfl, tails⟩ := literal_unique unbraced unbracedToo (more.head?_written apart)
            (moreToo.head?_written apartToo) same
          rw [ih moreToo tails]
      | group balanced moreToo =>
          rw [written_literal, written_group] at same
          exact absurd same (literal_ne_group nonempty unbraced)
  | group balanced more ih =>
      cases rowToo with
      | none => simp at same
      | literal nonempty unbraced apart moreToo =>
          rw [written_literal, written_group] at same
          exact absurd same.symm (literal_ne_group nonempty unbraced)
      | group balancedToo moreToo =>
          rw [written_group, written_group] at same
          obtain ⟨outside, read, closes⟩ := balanced
          obtain ⟨beyond, alike, closesToo⟩ := balancedToo
          obtain ⟨rfl, tails⟩ := balanced_unique read closes alike closesToo (List.cons.inj same).2
          rw [ih moreToo tails]

end HttpGauge.Path.Template
