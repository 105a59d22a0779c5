import HttpGauge.Extractor
import HttpGauge.Proofs.Path.Grammar

/-!
# Splitting templates

A template with braces is split exactly when it is the writing of a row of chunks, and then into
the segments of that row; otherwise the scanner names the first thing that is wrong.  Both
directions go along the template: a row is scanned chunk by chunk, and a scan that does not run
into the end of an open expression has found chunks, up to the end or to a stray brace.
-/

namespace HttpGauge.Path

open HttpGauge.Text HttpGauge.Path.Template

/-! ## Scanning what the grammar admits -/

section Admitted

variable {depth : Nat} {c : Char} {held text rest : List Char}

theorem scan_quote (opens : IsQuote c) :
    scan (.expression depth) held (c :: rest) = scan (.string depth c) (c :: held) rest := by
  rw [scan.eq_def]
  dsimp only
  rw [if_pos]
  rcases opens with rfl | rfl <;> rfl

/-- Braces of an expression are counted, up to the one that ends it. -/
theorem scan_expression (noQuote : ¬ IsQuote c) :
    scan (.expression depth) held (c :: rest) =
      match depthAfter? c depth with
      | some next => scan (.expression next) (c :: held) rest
      | none => (scan .literal [] rest).map (expressionOf held :: ·) := by
  have plain : ¬ (decide (c = '\'') || decide (c = '"')) = true := by
    simpa [IsQuote] using noQuote
  rw [scan.eq_def, depthAfter?]
  dsimp only
  rw [if_neg plain]
  by_cases opens : c = '\x7b'
  · rw [if_pos opens, if_pos opens]
  · rw [if_neg opens, if_neg opens]
    by_cases closes : c = '\x7d'
    · rw [if_pos closes, if_pos closes]
      cases depth <;> rfl
    · rw [if_neg closes, if_neg closes]

/-- A string is passed over. -/
theorem scan_string {quote : Char} (inside : quote ∉ text) :
    scan (.string depth quote) held (text ++ quote :: rest) =
      scan (.expression depth) (quote :: (text.reverse ++ held)) rest := by
  induction text generalizing held with
  | nil => simp [scan]
  | cons c text ih =>
      obtain ⟨differ, within⟩ := not_or.mp (mt List.mem_cons.mpr inside)
      rw [List.cons_append, scan, if_neg (Ne.symm differ), ih within]
      simp

/-- An expression is scanned up to its closing brace. -/
theorem scan_balanced {raw outside : List Char} (read : Outside raw outside)
    (closes : Closes depth outside) :
    scan (.expression depth) held (raw ++ '\x7d' :: rest) =
      (scan .literal [] rest).map (expressionOf (raw.reverse ++ held) :: ·) := by
  induction read generalizing depth held with
  | none =>
      rw [closes_nil_iff.mp closes, List.nil_append, scan_expression (by simp [IsQuote])]
      rfl
  | plain noQuote _ ih =>
      obtain ⟨next, moved, closes⟩ := closes_cons_iff.mp closes
      rw [List.cons_append, scan_expression noQuote, moved]
      simp only [ih closes, List.reverse_cons, List.append_assoc, List.singleton_append]
  | string opens inside _ ih =>
      rw [List.cons_append, List.append_assoc, List.cons_append, scan_quote opens,
        scan_string inside, ih closes]
      simp

/-- A group ends the literal before it, if there is one. -/
theorem scan_group {raw : List Char} (balanced : IsBalanced raw) :
    scan .literal held ('\x7b' :: (raw ++ '\x7d' :: rest)) =
      (scan .literal [] rest).map (literalOf held ++ .expression (trimBlank raw) :: ·) := by
  obtain ⟨outside, read, closes⟩ := balanced
  rw [scan, if_pos rfl, scan_balanced read closes]
  cases scan .literal [] rest with
  | error imbalance => rfl
  | ok segments => simp [Except.map, expressionOf]

/-- A literal is held. -/
theorem scan_literal (unbraced : ∀ c ∈ text, isBrace c = false) :
    scan .literal held (text ++ rest) = scan .literal (text.reverse ++ held) rest := by
  induction text generalizing held with
  | nil => rfl
  | cons c text ih =>
      have plain := unbraced c List.mem_cons_self
      simp only [isBrace, Bool.or_eq_false_iff, decide_eq_false_iff_not] at plain
      rw [List.cons_append, scan, if_neg plain.1, if_neg plain.2,
        ih fun c member => unbraced c (List.mem_cons_of_mem _ member)]
      simp

end Admitted

/-- What a scan between chunks ends in: the end of the template, or a brace that closes nothing. -/
inductive Halts : List Char → Except Imbalance Unit → Prop where
  | done : Halts [] (.ok ())
  | stray (rest : List Char) : Halts ('\x7d' :: rest) (.error .strayBrace)

theorem literalOf_reverse {text : List Char} (nonempty : text ≠ []) :
    literalOf text.reverse = [.literal text] := by
  simp [literalOf, nonempty]

theorem Halts.scan_eq {tail : List Char} {ending : Except Imbalance Unit}
    (halts : Halts tail ending) (held : List Char) :
    scan .literal held tail = ending.map fun _ => literalOf held := by
  cases halts <;> rfl

/-- A row is scanned chunk by chunk. -/
theorem scan_written {chunks : List Chunk} {tail held : List Char}
    {ending : Except Imbalance Unit} (row : IsRow chunks) (halts : Halts tail ending)
    (apart : held = [] ∨ ∀ text, chunks.head? ≠ some (.literal text)) :
    scan .literal held (written chunks ++ tail) =
      ending.map fun _ => literalOf held ++ chunks.map Chunk.segment := by
  induction row generalizing held with
  | none => simpa using halts.scan_eq held
  | @literal text chunks nonempty unbraced noLiteral _ ih =>
      rcases apart with rfl | apart
      · rw [written_literal, List.append_assoc, scan_literal unbraced, List.append_nil,
          ih (Or.inr noLiteral), literalOf_reverse nonempty]
        rfl
      · exact absurd rfl (apart text)
  | group balanced _ ih =>
      rw [written_group, List.cons_append, List.append_assoc, List.cons_append,
        scan_group balanced, ih (Or.inl rfl)]
      cases halts <;> rfl

/-! ## What has been scanned -/

/-- A text that is a row of chunks up to where a scan halts. -/
def Reaches (text : List Char) : Prop :=
  ∃ chunks tail ending, IsRow chunks ∧ Halts tail ending ∧ text = written chunks ++ tail

/-- A literal before a row of chunks that does not begin with one. -/
theorem reaches_literal {text tail : List Char} {chunks : List Chunk}
    {ending : Except Imbalance Unit} (unbraced : ∀ c ∈ text, isBrace c = false)
    (row : IsRow chunks) (apart : ∀ other, chunks.head? ≠ some (.literal other))
    (halts : Halts tail ending) : Reaches (text ++ (written chunks ++ tail)) := by
  by_cases empty : text = []
  · rw [empty]
    exact ⟨chunks, tail, ending, row, halts, rfl⟩
  · refine ⟨.literal text :: chunks, tail, ending, .literal empty unbraced apart row, halts, ?_⟩
    rw [written_literal, List.append_assoc]

/-- A text that closes so many braces of an expression and the expression itself, and then is a row
of chunks. -/
def LeadsOut (depth : Nat) (text : List Char) : Prop :=
  ∃ raw outside later, text = raw ++ '\x7d' :: later ∧ Outside raw outside ∧
    Closes depth outside ∧ Reaches later

/-- A text that ends a string of an expression, and then leads out of the expression. -/
def LeadsOutOfString (depth : Nat) (quote : Char) (text : List Char) : Prop :=
  ∃ inner later, text = inner ++ quote :: later ∧ quote ∉ inner ∧ LeadsOut depth later

/-- Where the rest of a template leads from a place: to the next place at which a scan halts. -/
def Leads (held : List Char) : Place → List Char → Prop
  | .literal, rest => Reaches (held.reverse ++ rest)
  | .expression depth, rest => LeadsOut depth rest
  | .string depth quote, rest => LeadsOutOfString depth quote rest

section Places

variable {c : Char} {depth : Nat} {rest : List Char}

/-- A group before what follows it. -/
theorem LeadsOut.group {held : List Char} (unbraced : ∀ c ∈ held, isBrace c = false)
    (leads : LeadsOut 0 rest) : Reaches (held.reverse ++ '\x7b' :: rest) := by
  obtain ⟨raw, outside, later, rfl, read, closes, chunks, tail, ending, row, halts, rfl⟩ := leads
  have reached := reaches_literal (by simpa using unbraced : ∀ c ∈ held.reverse, isBrace c = false)
    (IsRow.group ⟨outside, read, closes⟩ row) (by simp) halts
  simpa using reached

/-- An expression that goes on with a character. -/
theorem LeadsOut.plain {next : Nat} (noQuote : ¬ IsQuote c)
    (moved : depthAfter? c depth = some next) (leads : LeadsOut next rest) :
    LeadsOut depth (c :: rest) := by
  obtain ⟨raw, outside, later, rfl, read, closes, reached⟩ := leads
  exact ⟨c :: raw, c :: outside, later, rfl, .plain noQuote read,
    closes_cons_iff.mpr ⟨next, moved, closes⟩, reached⟩

/-- An expression that ends. -/
theorem Reaches.closing (reached : Reaches rest) : LeadsOut 0 ('\x7d' :: rest) :=
  ⟨[], [], rest, rfl, .none, closes_nil_iff.mpr rfl, reached⟩

/-- An expression that goes on with a string. -/
theorem LeadsOutOfString.opening (opens : IsQuote c) (leads : LeadsOutOfString depth c rest) :
    LeadsOut depth (c :: rest) := by
  obtain ⟨inner, later, rfl, inside, raw, outside, last, rfl, read, closes, reached⟩ := leads
  exact ⟨c :: (inner ++ c :: raw), outside, last, by simp, .string opens inside read, closes,
    reached⟩

theorem LeadsOut.endOfString (leads : LeadsOut depth rest) :
    LeadsOutOfString depth c (c :: rest) :=
  ⟨[], rest, rfl, List.not_mem_nil, leads⟩

theorem LeadsOutOfString.plain {quote : Char} (differ : c ≠ quote)
    (leads : LeadsOutOfString depth quote rest) : LeadsOutOfString depth quote (c :: rest) := by
  obtain ⟨inner, later, rfl, inside, leads⟩ := leads
  exact ⟨c :: inner, later, rfl, by simp [differ.symm, inside], leads⟩

end Places

theorem ne_of_map_ne {α β ε : Type} {result : Except ε α} {adapt : α → β} {failure : ε}
    (ended : result.map adapt ≠ .error failure) : result ≠ .error failure := by
  rintro rfl
  exact ended rfl

/-- Every scan of a text that does not run into the end of an open expression is led to where it
halts. -/
def LeadsOn (rest : List Char) : Prop :=
  ∀ (place : Place) (held : List Char),
    (place = .literal → ∀ c ∈ held, isBrace c = false) →
      scan place held rest ≠ .error .unclosed → Leads held place rest

section Steps

variable {c quote : Char} {depth : Nat} {held rest : List Char}

theorem LeadsOn.literal (on : LeadsOn rest) (unbraced : ∀ c ∈ held, isBrace c = false)
    (ended : scan .literal held (c :: rest) ≠ .error .unclosed) :
    Leads held .literal (c :: rest) := by
  rw [scan] at ended
  by_cases opens : c = '\x7b'
  · rw [if_pos opens] at ended
    subst opens
    exact LeadsOut.group unbraced (on (.expression 0) [] (by simp) (ne_of_map_ne ended))
  · by_cases closes : c = '\x7d'
    · subst closes
      exact reaches_literal (by simpa using unbraced) .none (by simp) (.stray rest)
    · rw [if_neg opens, if_neg closes] at ended
      have plain : isBrace c = false := by simp [isBrace, opens, closes]
      have reached := on .literal (c :: held) (by simpa [plain] using unbraced) ended
      simpa [Leads] using reached

theorem LeadsOn.expression (on : LeadsOn rest)
    (ended : scan (.expression depth) held (c :: rest) ≠ .error .unclosed) :
    Leads held (.expression depth) (c :: rest) := by
  by_cases opens : IsQuote c
  · rw [scan_quote opens] at ended
    exact LeadsOutOfString.opening opens (on (.string depth c) _ (by simp) ended)
  · rw [scan_expression opens] at ended
    cases moved : depthAfter? c depth with
    | some next =>
        rw [moved] at ended
        exact LeadsOut.plain opens moved (on (.expression next) _ (by simp) ended)
    | none =>
        rw [moved] at ended
        have reached := on .literal [] (by simp) (ne_of_map_ne ended)
        obtain ⟨rfl, rfl⟩ := depthAfter?_eq_none_iff.mp moved
        exact Reaches.closing reached

theorem LeadsOn.string (on : LeadsOn rest)
    (ended : scan (.string depth quote) held (c :: rest) ≠ .error .unclosed) :
    Leads held (.string depth quote) (c :: rest) := by
  rw [scan] at ended
  by_cases closes : c = quote
  · rw [if_pos closes] at ended
    subst closes
    exact LeadsOut.endOfString (on (.expression depth) _ (by simp) ended)
  · rw [if_neg closes] at ended
    exact LeadsOutOfString.plain closes (on (.string depth quote) _ (by simp) ended)

end Steps

/-- Every text leads on, character by character. -/
theorem leadsOn (rest : List Char) : LeadsOn rest := by
  induction rest with
  | nil =>
      intro place held unbraced ended
      cases place with
      | literal => exact reaches_literal (by simpa using unbraced rfl) .none (by simp) .done
      | expression depth => exact absurd rfl ended
      | string depth quote => exact absurd rfl ended
  | cons c rest ih =>
      intro place held unbraced ended
      cases place with
      | literal => exact ih.literal (unbraced rfl) ended
      | expression depth => exact ih.expression ended
      | string depth quote => exact ih.string ended

/-! ## Templates -/

/-- The writing of a row up to a brace that closes nothing: it stands outside of every group. -/
def MeetsStrayBrace (text : List Char) : Prop :=
  ∃ chunks rest, IsRow chunks ∧ text = written chunks ++ '\x7d' :: rest

section Scans

variable {text : List Char} {segments : List Segment}

/-- A scan runs into the end of an open expression, or it finds a row of chunks and halts. -/
theorem scan_cases (text : List Char) :
    scan .literal [] text = .error .unclosed ∨
      ∃ chunks tail ending, IsRow chunks ∧ Halts tail ending ∧ text = written chunks ++ tail ∧
        scan .literal [] text = ending.map fun _ => chunks.map Chunk.segment := by
  by_cases unclosed : scan .literal [] text = .error .unclosed
  · exact Or.inl unclosed
  · obtain ⟨chunks, tail, ending, row, halts, same⟩ :=
      leadsOn text .literal [] (by simp) unclosed
    refine Or.inr ⟨chunks, tail, ending, row, halts, same, ?_⟩
    rw [show text = written chunks ++ tail from same, scan_written row halts (Or.inl rfl)]
    rfl

/-- Rows of chunks are scanned, and nothing else is. -/
theorem scan_eq_ok_iff :
    scan .literal [] text = .ok segments ↔
      ∃ chunks, IsRow chunks ∧ written chunks = text ∧ segments = chunks.map Chunk.segment := by
  constructor
  · intro scanned
    rcases scan_cases text with unclosed | ⟨chunks, tail, ending, row, halts, same, ends⟩
    · rw [unclosed] at scanned
      contradiction
    · rw [ends] at scanned
      cases halts with
      | done =>
          cases scanned
          exact ⟨chunks, row, by rw [same, List.append_nil], rfl⟩
      | stray rest => contradiction
  · rintro ⟨chunks, row, rfl, rfl⟩
    have scanned := scan_written row .done (Or.inl rfl)
    rw [List.append_nil] at scanned
    exact scanned

/-- A stray brace is met behind a row of chunks. -/
theorem scan_eq_strayBrace_iff :
    scan .literal [] text = .error .strayBrace ↔ MeetsStrayBrace text := by
  constructor
  · intro scanned
    rcases scan_cases text with unclosed | ⟨chunks, tail, ending, row, halts, same, ends⟩
    · rw [unclosed] at scanned
      cases scanned
    · rw [ends] at scanned
      cases halts with
      | done => contradiction
      | stray rest => exact ⟨chunks, rest, row, same⟩
  · rintro ⟨chunks, rest, row, rfl⟩
    exact scan_written row (.stray rest) (Or.inl rfl)

/-- Where there is neither a row nor a stray brace, an expression is left open. -/
theorem scan_eq_unclosed_iff :
    scan .literal [] text = .error .unclosed ↔
      (¬ ∃ chunks, IsRow chunks ∧ written chunks = text) ∧ ¬ MeetsStrayBrace text := by
  rw [← scan_eq_strayBrace_iff]
  constructor
  · intro unclosed
    constructor
    · rintro ⟨chunks, row, same⟩
      rw [scan_eq_ok_iff.mpr ⟨chunks, row, same, rfl⟩] at unclosed
      contradiction
    · intro stray
      rw [stray] at unclosed
      cases unclosed
  · rintro ⟨noRow, noStray⟩
    cases scanned : scan .literal [] text with
    | ok segments =>
        obtain ⟨chunks, row, same, -⟩ := scan_eq_ok_iff.mp scanned
        exact absurd ⟨chunks, row, same⟩ noRow
    | error imbalance =>
        cases imbalance with
        | strayBrace => exact absurd scanned noStray
        | unclosed => rfl

end Scans

/-! ## Canonical segments -/

/-- The chunk that is written for a segment. -/
def Segment.chunk : Segment → Chunk
  | .literal text => .literal text
  | .expression text => .group text

/-- Segments as a template has them: their chunks are a row, with an expression among them, and
expressions have no blanks around them. -/
structure IsCanonical (segments : List Segment) : Prop where
  row : IsRow (segments.map Segment.chunk)
  stripped : ∀ text, .expression text ∈ segments → trimBlank text = text
  braced : ∃ text, .expression text ∈ segments

/-- The template that segments make up. -/
def rendered (segments : List Segment) : List Char :=
  written (segments.map Segment.chunk)

/-- Each chunk of canonical segments denotes the segment that it is written for. -/
theorem IsCanonical.segments_eq {segments : List Segment} (canonical : IsCanonical segments) :
    (segments.map Segment.chunk).map Chunk.segment = segments := by
  have same : ∀ segment ∈ segments, (Chunk.segment ∘ Segment.chunk) segment = segment := by
    intro segment member
    cases segment with
    | literal text => rfl
    | expression text => exact congrArg Segment.expression (canonical.stripped text member)
  rw [List.map_map, List.map_congr_left same, List.map_id']

/-- Canonical segments make up a template with braces. -/
theorem IsCanonical.any_isBrace {segments : List Segment} (canonical : IsCanonical segments) :
    (rendered segments).any isBrace = true := by
  obtain ⟨text, member⟩ := canonical.braced
  rw [List.any_eq_true]
  refine ⟨'\x7b', ?_, rfl⟩
  rw [rendered, written, List.mem_flatMap]
  exact ⟨.group text, List.mem_map.mpr ⟨_, member, rfl⟩, List.mem_cons_self⟩

/-! ## Main statement -/

/-- A template with braces is split exactly when it is the writing of a row of chunks, of which
there is at most one, and then into the segments of that row; so canonical segments are read back
from their template.  Otherwise the template is refused in every path language, with the text that
goes with the first thing that is wrong. -/
theorem split_exactly_rows (template : String) (braced : template.toList.any isBrace = true) :
    (∀ segments, split template.toList = .ok segments ↔
      ∃ chunks, IsRow chunks ∧ written chunks = template.toList ∧
        segments = chunks.map Chunk.segment) ∧
    (∀ chunks others, IsRow chunks → IsRow others → written chunks = template.toList →
      written others = template.toList → chunks = others) ∧
    (∀ segments, IsCanonical segments → split (rendered segments) = .ok segments) ∧
    (split template.toList = .error .strayBrace ↔ MeetsStrayBrace template.toList) ∧
    (split template.toList = .error .unclosed ↔
      (¬ ∃ chunks, IsRow chunks ∧ written chunks = template.toList) ∧
        ¬ MeetsStrayBrace template.toList) ∧
    (MeetsStrayBrace template.toList → ∀ language, ∃ fault,
      Extractor.ofTemplate language template = .error fault ∧
        fault.message = "unexpected '\x7d' in JSONPath " ++ quote template) ∧
    (¬ (∃ chunks, IsRow chunks ∧ written chunks = template.toList) →
      ¬ MeetsStrayBrace template.toList → ∀ language, ∃ fault,
        Extractor.ofTemplate language template = .error fault ∧
          fault.message = "unclosed expression in JSONPath " ++ quote template) := by
  have scanned : split template.toList = scan .literal [] template.toList := by
    rw [split, if_pos braced]
  rw [scanned]
  refine ⟨fun segments => scan_eq_ok_iff, ?_, ?_, scan_eq_strayBrace_iff, scan_eq_unclosed_iff,
    ?_, ?_⟩
  · intro chunks others row rowToo same sameToo
    exact row.unique rowToo (same.trans sameToo.symm)
  · intro segments canonical
    rw [split, if_pos canonical.any_isBrace]
    exact scan_eq_ok_iff.mpr ⟨_, canonical.row, rfl, canonical.segments_eq.symm⟩
  · intro stray language
    refine ⟨.strayBrace template, ?_, rfl⟩
    rw [Extractor.ofTemplate, scanned, scan_eq_strayBrace_iff.mpr stray]
  · intro noRow noStray language
    refine ⟨.unclosedExpression template, ?_, rfl⟩
    rw [Extractor.ofTemplate, scanned, scan_eq_unclosed_iff.mpr ⟨noRow, noStray⟩]

/-- A brace in a string does not end the expression around it. -/
theorem split_exactly_rows_of_quoted_brace :
    "a\x7b'\x7d'\x7d".toList.any isBrace = true ∧
      split "a\x7b'\x7d'\x7d".toList =
        .ok [.literal ['a'], .expression ['\'', '\x7d', '\'']] := by
  have braced : "a\x7b'\x7d'\x7d".toList.any isBrace = true := by decide
  have read : Outside ('\'' :: (['\x7d'] ++ '\'' :: [])) [] :=
    .string (Or.inl rfl) (by decide) .none
  have balanced : IsBalanced ['\'', '\x7d', '\''] := ⟨[], read, closes_nil_iff.mpr rfl⟩
  have row : IsRow [.literal ['a'], .group ['\'', '\x7d', '\'']] :=
    .literal (by simp) (List.forall_mem_singleton.mpr rfl) (by simp) (.group balanced .none)
  exact ⟨braced, ((split_exactly_rows _ braced).1 _).mpr ⟨_, row, by decide, by decide⟩⟩

end HttpGauge.Path
