import HttpGauge.Proofs.Json.Bytes
import HttpGauge.Proofs.Json.Lexing

/-!
# Reading what the grammar denotes

The reader finds what a text denotes, merged, and the rest of the text.  The only documents that it
does not read are those with an integer that is too long, anywhere and even where a later member
replaces it; about these it says so.  One induction over the grammar covers values, items and
members, with turns enough for each.
-/

namespace HttpGauge.Json

open HttpGauge.Json.Reader HttpGauge.Number HttpGauge.Text

namespace Grammar

/-! ## Beginnings -/

/-- A text that begins with a token of a value. -/
def Begins (text : List Char) : Prop :=
  ∃ c later, text = c :: later ∧ isSpace c = false ∧ c ≠ ']' ∧ c ≠ '\x7d' ∧ c ≠ '\uFEFF'

theorem begins_cons {c : Char} (later : List Char)
    (begins : isSpace c = false ∧ c ≠ ']' ∧ c ≠ '\x7d' ∧ c ≠ '\uFEFF') :
    Begins (c :: later) :=
  ⟨c, later, rfl, begins⟩

theorem Begins.skipSpace_eq {text : List Char} (begins : Begins text) : skipSpace text = text := by
  obtain ⟨c, later, rfl, solid, -⟩ := begins
  exact skipSpace_cons later solid

/-- Blanks are skipped up to what begins behind them. -/
theorem Blanks.skipSpace_begins {text rest : List Char} (blanks : Blanks text rest)
    (begins : Begins rest) : skipSpace text = rest :=
  blanks.skipSpace_eq.trans begins.skipSpace_eq

/-- Blanks are skipped up to the character behind them. -/
theorem Blanks.skipSpace_token {c : Char} {text rest : List Char} (blanks : Blanks text (c :: rest))
    (solid : isSpace c = false) : skipSpace text = c :: rest :=
  blanks.skipSpace_eq.trans (skipSpace_cons rest solid)

/-- A number starts with a digit, with or without a sign. -/
theorem Number.head {text rest : List Char} {value : Value} (number : Number text value rest) :
    ∃ negative first later, text = withMinus negative (first :: later) ∧ first.isDigit = true := by
  cases number with
  | int negative whole =>
      obtain ⟨first, later, rfl, digit⟩ := whole.head
      exact ⟨negative, first, later, rfl, digit⟩
  | float negative whole _ _ _ =>
      obtain ⟨first, later, rfl, digit⟩ := whole.head
      exact ⟨negative, first, later, rfl, digit⟩

theorem Number.begins {text rest : List Char} {value : Value} (number : Number text value rest) :
    Begins text := by
  obtain ⟨negative, first, later, rfl, digit⟩ := number.head
  cases negative with
  | true => exact begins_cons _ (by decide)
  | false =>
      have solid : isSpace first = false := by
        simp only [isSpace, Bool.or_eq_false_iff, decide_eq_false_iff_not]
        exact ⟨⟨⟨ne_of_isDigit digit rfl, ne_of_isDigit digit rfl⟩, ne_of_isDigit digit rfl⟩,
          ne_of_isDigit digit rfl⟩
      exact ⟨first, later, rfl, solid, ne_of_isDigit digit rfl, ne_of_isDigit digit rfl,
        ne_of_isDigit digit rfl⟩

/-- What a text denotes begins with the text. -/
theorem Denotes.begins {part : Part} {text rest : List Char} {value : Value}
    (denoted : Denotes part text value rest) : Begins text := by
  induction denoted with
  | word named rest =>
      simp only [words, List.mem_cons, Prod.mk.injEq, List.not_mem_nil, or_false] at named
      rcases named with ⟨rfl, rfl⟩ | ⟨rfl, rfl⟩ | ⟨rfl, rfl⟩ <;> exact begins_cons _ (by decide)
  | number number => exact number.begins
  | string => exact begins_cons _ (by decide)
  | emptyArray => exact begins_cons _ (by decide)
  | array => exact begins_cons _ (by decide)
  | emptyObject => exact begins_cons _ (by decide)
  | object => exact begins_cons _ (by decide)
  | lastItem _ _ ih => exact ih
  | item _ _ _ _ ih => exact ih
  | lastMember => exact begins_cons _ (by decide)
  | member => exact begins_cons _ (by decide)

/-! ## Lengths -/

theorem Whole.length_lt {text digits rest : List Char} (whole : Whole text digits rest) :
    rest.length < text.length := by
  cases whole with
  | zero rest => exact Nat.lt_succ_self _
  | digits _ found => exact found.length_lt

theorem Fraction.length_le {text rest : List Char} {fraction : Option (List Char)}
    (fractional : Fraction text fraction rest) : rest.length ≤ text.length := by
  cases fractional with
  | none text => exact Nat.le_refl _
  | some found => exact Nat.le_succ_of_le (Nat.le_of_lt found.length_lt)

theorem Exponent.length_le {text rest : List Char} {exponent : Option Int}
    (scaled : Exponent text exponent rest) : rest.length ≤ text.length := by
  cases scaled with
  | none text => exact Nat.le_refl _
  | some _ sign found =>
      have shorter := found.length_lt
      cases sign <;> simp only [List.length_cons] at * <;> omega

theorem length_withMinus_ge (negative : Bool) (text : List Char) :
    text.length ≤ (withMinus negative text).length := by
  cases negative with
  | true => exact Nat.le_succ _
  | false => exact Nat.le_refl _

theorem Number.length_lt {text rest : List Char} {value : Value} (number : Number text value rest) :
    rest.length < text.length := by
  cases number with
  | int negative whole => exact Nat.lt_of_lt_of_le whole.length_lt (length_withMinus_ge negative _)
  | float negative whole fractional scaled _ =>
      calc rest.length ≤ _ := scaled.length_le
        _ ≤ _ := fractional.length_le
        _ < _ := whole.length_lt
        _ ≤ _ := length_withMinus_ge negative _

/-- What a text denotes takes at least a character of it. -/
theorem Denotes.length_lt {part : Part} {text rest : List Char} {value : Value}
    (denoted : Denotes part text value rest) : rest.length < text.length := by
  induction denoted with
  | word named rest =>
      have nonempty : ∀ named ∈ words, 0 < named.1.toList.length := by simp [words]
      rw [List.length_append]
      exact Nat.lt_add_of_pos_left (nonempty _ named)
  | number number => exact number.length_lt
  | string spelled => exact Nat.lt_succ_of_lt spelled.length_lt
  | emptyArray inside => exact Nat.lt_succ_of_lt inside.length_le
  | array inside _ ih => exact Nat.lt_succ_of_lt (Nat.lt_of_lt_of_le ih inside.length_le)
  | emptyObject inside => exact Nat.lt_succ_of_lt inside.length_le
  | object inside _ ih => exact Nat.lt_succ_of_lt (Nat.lt_of_lt_of_le ih inside.length_le)
  | lastItem _ behind ih =>
      exact Nat.lt_trans (Nat.lt_of_lt_of_le (Nat.lt_succ_self _) behind.length_le) ih
  | item _ behind ahead _ ih ihMore =>
      have afterValue := behind.length_le
      have beforeNext := ahead.length_le
      simp only [List.length_cons] at *
      omega
  | lastMember key behindKey aheadOfValue _ behind ih =>
      have afterKey := key.length_lt
      have beforeColon := behindKey.length_le
      have beforeValue := aheadOfValue.length_le
      have afterValue := behind.length_le
      simp only [List.length_cons] at *
      omega
  | member key behindKey aheadOfValue _ behind ahead _ ih ihMore =>
      have afterKey := key.length_lt
      have beforeColon := behindKey.length_le
      have beforeValue := aheadOfValue.length_le
      have afterValue := behind.length_le
      have beforeNext := ahead.length_le
      simp only [List.length_cons] at *
      omega

/-! ## Values -/

/-- Where a value may end. -/
def Ends (text : List Char) : Prop :=
  ∀ c, text.head? = some c → c ∈ [' ', '\t', '\n', '\r', ',', ']', '\x7d']

theorem Ends.stops {text : List Char} (ends : Ends text) : Stops text := by
  intro c head
  have ender := ends c head
  simp only [List.mem_cons, List.not_mem_nil, or_false] at ender
  rcases ender with rfl | rfl | rfl | rfl | rfl | rfl | rfl <;> exact ⟨rfl, by simp⟩

/-- Blanks end a value, as what follows them does. -/
theorem Blanks.ends {text rest : List Char} (blanks : Blanks text rest) (ends : Ends rest) :
    Ends text := by
  cases blanks with
  | none text => exact ends
  | some blank _ =>
      rintro c head
      cases head
      simp only [List.mem_cons, List.not_mem_nil, or_false] at blank ⊢
      rcases blank with same | same | same | same <;> simp [same]

theorem Blanks.ends_token {c : Char} {text rest : List Char} (blanks : Blanks text (c :: rest))
    (ender : c ∈ [' ', '\t', '\n', '\r', ',', ']', '\x7d']) : Ends text := by
  apply blanks.ends
  intro other head
  cases head
  exact ender

theorem Reads.andThen {α β : Type} {long later : Bool} {result : α} {final : β}
    {rest behind : List Char} {reading : Reading α} {next : α → List Char → Reading β}
    (first : Reads long result rest reading)
    (second : Reads later final behind (next result rest)) :
    Reads (long || later) final behind (reading.andThen next) := by
  cases long with
  | true =>
      obtain ⟨digits, remaining, same⟩ := first
      exact ⟨digits, remaining, by rw [same]; rfl⟩
  | false =>
      have same : reading = .ok (result, rest) := first
      rw [same]
      exact second

/-- A reading whose result is only adapted. -/
theorem Reads.map {α β : Type} {long : Bool} {result : α} {rest : List Char} {reading : Reading α}
    (first : Reads long result rest reading) (adapt : α → β) :
    Reads long (adapt result) rest
      (reading.andThen fun result rest => .ok (adapt result, rest)) := by
  have both : Reads (long || false) (adapt result) rest
      (reading.andThen fun result rest => .ok (adapt result, rest)) :=
    first.andThen rfl
  rwa [Bool.or_false] at both

/-- What the reader makes of what a text denotes, given turns enough. -/
def IsRead (lenient : Bool) : Part → List Char → Value → List Char → Prop
  | .value, text, value, rest =>
      Ends rest → ∀ turns, 2 * text.length ≤ turns →
        Reads value.hasLongInt value.merged rest (readValue lenient turns text)
  | .items, text, .arr items, rest =>
      ∀ turns, 2 * text.length + 1 ≤ turns →
        Reads (Value.itemsHaveLongInt items) (Value.mergedItems items) rest
          (readItems lenient turns text)
  | .members, text, .obj members, rest =>
      ∀ turns, 2 * text.length + 1 ≤ turns →
        Reads (Value.membersHaveLongInt members) (Value.mergedMembers members) rest
          (readMembers lenient turns text)
  | _, _, _, _ => True

/-- A number is read as one. -/
theorem Number.readValue_eq (lenient : Bool) (turns : Nat) {text rest : List Char} {value : Value}
    (number : Number text value rest) :
    readValue lenient (turns + 1) text = readNumber text := by
  obtain ⟨negative, first, later, rfl, digit⟩ := number.head
  rw [← readScalar_withMinus lenient negative later digit]
  cases negative with
  | true => exact readValue_scalar lenient turns _ (by simp) (by simp) (by simp)
  | false =>
      exact readValue_scalar lenient turns _ (ne_of_isDigit digit rfl)
        (ne_of_isDigit digit rfl) (ne_of_isDigit digit rfl)

theorem Number.merged_eq {text rest : List Char} {value : Value}
    (number : Number text value rest) : value.merged = value := by
  cases number <;> rfl

/-- An array that begins with an item is read by its items. -/
theorem readValue_array (lenient : Bool) (turns : Nat) {text start : List Char}
    (inside : Blanks text start) (begins : Begins start) :
    readValue lenient (turns + 1) ('[' :: text) =
      (readItems lenient turns start).andThen fun items rest => .ok (.arr items, rest) := by
  have skipped := inside.skipSpace_begins begins
  obtain ⟨c, later, rfl, -, noClose, -⟩ := begins
  rw [readValue, skipped]
  split
  · rename_i same
    exact absurd (List.cons.inj same).1 noClose
  · rfl

theorem readValue_emptyArray (lenient : Bool) (turns : Nat) {text rest : List Char}
    (inside : Blanks text (']' :: rest)) :
    readValue lenient (turns + 1) ('[' :: text) = .ok (.arr [], rest) := by
  rw [readValue, inside.skipSpace_token rfl]
  rfl

/-- An object that begins with a member is read by its members. -/
theorem readValue_object (lenient : Bool) (turns : Nat) {text start : List Char}
    (inside : Blanks text start) (begins : Begins start) :
    readValue lenient (turns + 1) ('\x7b' :: text) =
      (readMembers lenient turns start).andThen fun members rest =>
        .ok (.obj (Members.ofPairs members), rest) := by
  have skipped := inside.skipSpace_begins begins
  obtain ⟨c, later, rfl, -, -, noClose, -⟩ := begins
  rw [readValue, skipped]
  split
  · rename_i same
    exact absurd (List.cons.inj same).1 noClose
  · rfl

theorem readValue_emptyObject (lenient : Bool) (turns : Nat) {text rest : List Char}
    (inside : Blanks text ('\x7d' :: rest)) :
    readValue lenient (turns + 1) ('\x7b' :: text) = .ok (.obj [], rest) := by
  rw [readValue, inside.skipSpace_token rfl]
  rfl

/-- A member is read by its key and its value. -/
theorem readMembers_key (lenient : Bool) (turns : Nat)
    {text afterKey colon start : List Char} {codes : List Nat} (key : Codes text codes afterKey)
    (behindKey : Blanks afterKey (':' :: colon)) (aheadOfValue : Blanks colon start)
    (begins : Begins start) :
    readMembers lenient (turns + 1) ('"' :: text) =
      (readValue lenient turns start).andThen fun value rest =>
        match skipSpace rest with
        | '\x7d' :: after => .ok ([(textOf codes, value)], after)
        | ',' :: after =>
            (readMembers lenient turns (skipSpace after)).andThen fun members rest =>
              .ok ((textOf codes, value) :: members, rest)
        | rest => .error ⟨.expectingComma, rest⟩ := by
  rw [readMembers, key.readString_eq, Reading.andThen_ok, behindKey.skipSpace_token rfl,
    ← aheadOfValue.skipSpace_begins begins]
  rfl

/-- There is a turn for every value. -/
theorem exists_turns {text rest : List Char} {turns : Nat} (shorter : rest.length < text.length)
    (enough : 2 * text.length ≤ turns) : ∃ left, turns = left + 1 ∧ 2 * rest.length + 1 ≤ left := by
  obtain ⟨left, rfl⟩ : ∃ left, turns = left + 1 := ⟨turns - 1, by omega⟩
  exact ⟨left, rfl, by omega⟩

/-- There is a turn for every item and every member. -/
theorem exists_turn {needed turns : Nat} (enough : needed + 1 ≤ turns) :
    ∃ left, turns = left + 1 ∧ needed ≤ left :=
  ⟨turns - 1, by omega, by omega⟩

/-! ## What is denoted is read -/

section Parts

variable {lenient : Bool} {text start after comma next afterKey colon rest : List Char}
  {codes : List Nat} {first value : Value} {items : List Value} {members : List (String × Value)}

theorem isRead_word {word : String} (named : (word, value) ∈ words) (rest : List Char) :
    IsRead lenient .value (word.toList ++ rest) value rest := by
  intro ends turns enough
  obtain ⟨left, rfl, -⟩ := exists_turns (Denotes.word named rest).length_lt enough
  simp only [words, List.mem_cons, Prod.mk.injEq, List.not_mem_nil, or_false] at named
  rcases named with ⟨rfl, rfl⟩ | ⟨rfl, rfl⟩ | ⟨rfl, rfl⟩ <;> rfl

theorem Number.isRead (number : Number text value rest) :
    IsRead lenient .value text value rest := by
  intro ends turns enough
  obtain ⟨left, rfl, -⟩ := exists_turns number.length_lt enough
  rw [number.readValue_eq lenient left, number.merged_eq]
  exact number.reads ends.stops

theorem Codes.isRead (spelled : Codes text codes rest) :
    IsRead lenient .value ('"' :: text) (.str (textOf codes)) rest := by
  intro ends turns enough
  obtain ⟨left, rfl, -⟩ := exists_turns (Nat.lt_succ_of_lt spelled.length_lt) enough
  rw [readValue_string, spelled.readString_eq]
  rfl

theorem isRead_emptyArray (inside : Blanks text (']' :: rest)) :
    IsRead lenient .value ('[' :: text) (.arr []) rest := by
  intro ends turns enough
  obtain ⟨left, rfl, -⟩ := exists_turns (Nat.lt_succ_of_lt inside.length_le) enough
  rw [readValue_emptyArray lenient left inside]
  rfl

/-- An array is read if its items are. -/
theorem IsRead.array (read : IsRead lenient .items start (.arr items) rest)
    (inside : Blanks text start) (begins : Begins start) :
    IsRead lenient .value ('[' :: text) (.arr items) rest := by
  intro ends turns enough
  obtain ⟨left, rfl, fewer⟩ := exists_turns (Nat.lt_succ_of_le inside.length_le) enough
  rw [readValue_array lenient left inside begins, Value.hasLongInt, Value.merged]
  exact (read left fewer).map Value.arr

theorem isRead_emptyObject (inside : Blanks text ('\x7d' :: rest)) :
    IsRead lenient .value ('\x7b' :: text) (.obj []) rest := by
  intro ends turns enough
  obtain ⟨left, rfl, -⟩ := exists_turns (Nat.lt_succ_of_lt inside.length_le) enough
  rw [readValue_emptyObject lenient left inside]
  rfl

/-- An object is read if its members are. -/
theorem IsRead.object (read : IsRead lenient .members start (.obj members) rest)
    (inside : Blanks text start) (begins : Begins start) :
    IsRead lenient .value ('\x7b' :: text) (.obj members) rest := by
  intro ends turns enough
  obtain ⟨left, rfl, fewer⟩ := exists_turns (Nat.lt_succ_of_le inside.length_le) enough
  rw [readValue_object lenient left inside begins, Value.hasLongInt, Value.merged]
  exact (read left fewer).map fun members => Value.obj (Members.ofPairs members)

/-- An item before the closing bracket is the last one. -/
theorem IsRead.lastItem (read : IsRead lenient .value text first after)
    (behind : Blanks after (']' :: rest)) : IsRead lenient .items text (.arr [first]) rest := by
  intro turns enough
  obtain ⟨left, rfl, fewer⟩ := exists_turn enough
  rw [readItems]
  apply (read (behind.ends_token (by simp)) left (by omega)).andThen
  rw [behind.skipSpace_token rfl]
  rfl

/-- An item before a comma is followed by others. -/
theorem IsRead.item (read : IsRead lenient .value text first after)
    (shorter : after.length < text.length) (behind : Blanks after (',' :: comma))
    (ahead : Blanks comma next) (begins : Begins next)
    (more : IsRead lenient .items next (.arr items) rest) :
    IsRead lenient .items text (.arr (first :: items)) rest := by
  intro turns enough
  obtain ⟨left, rfl, fewer⟩ := exists_turn enough
  have afterValue := behind.length_le
  have beforeNext := ahead.length_le
  rw [List.length_cons] at afterValue
  rw [readItems]
  apply (read (behind.ends_token (by simp)) left (by omega)).andThen
  rw [behind.skipSpace_token rfl]
  change Reads _ _ _ ((readItems lenient left (skipSpace _)).andThen _)
  rw [ahead.skipSpace_begins begins]
  exact (more left (by omega)).map (List.cons _)

/-- The value of a member stands behind its key and a colon. -/
theorem Codes.length_start_le (key : Codes text codes afterKey)
    (behindKey : Blanks afterKey (':' :: colon)) (aheadOfValue : Blanks colon start) :
    start.length + 2 ≤ text.length := by
  have afterKey := key.length_lt
  have beforeColon := behindKey.length_le
  have beforeValue := aheadOfValue.length_le
  rw [List.length_cons] at beforeColon
  omega

/-- A member before the closing brace is the last one. -/
theorem IsRead.lastMember (read : IsRead lenient .value start value after) (begins : Begins start)
    (key : Codes text codes afterKey) (behindKey : Blanks afterKey (':' :: colon))
    (aheadOfValue : Blanks colon start) (behind : Blanks after ('\x7d' :: rest)) :
    IsRead lenient .members ('"' :: text) (.obj [(textOf codes, value)]) rest := by
  intro turns enough
  obtain ⟨left, rfl, fewer⟩ := exists_turn enough
  have beforeValue := key.length_start_le behindKey aheadOfValue
  rw [List.length_cons] at fewer
  rw [readMembers_key lenient left key behindKey aheadOfValue begins]
  apply (read (behind.ends_token (by simp)) left (by omega)).andThen
  rw [behind.skipSpace_token rfl]
  rfl

/-- A member before a comma is followed by others. -/
theorem IsRead.member (read : IsRead lenient .value start value after) (begins : Begins start)
    (shorter : after.length < start.length) (key : Codes text codes afterKey)
    (behindKey : Blanks afterKey (':' :: colon)) (aheadOfValue : Blanks colon start)
    (behind : Blanks after (',' :: comma)) (ahead : Blanks comma next) (beginsNext : Begins next)
    (more : IsRead lenient .members next (.obj members) rest) :
    IsRead lenient .members ('"' :: text) (.obj ((textOf codes, value) :: members)) rest := by
  intro turns enough
  obtain ⟨left, rfl, fewer⟩ := exists_turn enough
  have beforeValue := key.length_start_le behindKey aheadOfValue
  have afterValue := behind.length_le
  have beforeNext := ahead.length_le
  rw [List.length_cons] at fewer afterValue
  rw [readMembers_key lenient left key behindKey aheadOfValue begins]
  apply (read (behind.ends_token (by simp)) left (by omega)).andThen
  rw [behind.skipSpace_token rfl]
  change Reads _ _ _ ((readMembers lenient left (skipSpace _)).andThen _)
  rw [ahead.skipSpace_begins beginsNext]
  exact (more left (by omega)).map (List.cons _)

end Parts

/-- Whatever a text denotes is read from it. -/
theorem Denotes.isRead (lenient : Bool) {part : Part} {text rest : List Char} {value : Value}
    (denoted : Denotes part text value rest) : IsRead lenient part text value rest := by
  induction denoted with
  | word named rest => exact isRead_word named rest
  | number number => exact number.isRead
  | string spelled => exact spelled.isRead
  | emptyArray inside => exact isRead_emptyArray inside
  | array inside denoted ih => exact ih.array inside denoted.begins
  | emptyObject inside => exact isRead_emptyObject inside
  | object inside denoted ih => exact ih.object inside denoted.begins
  | lastItem denoted behind ih => exact ih.lastItem behind
  | item denoted behind ahead more ih ihMore =>
      exact ih.item denoted.length_lt behind ahead more.begins ihMore
  | lastMember key behindKey aheadOfValue denoted behind ih =>
      exact ih.lastMember denoted.begins key behindKey aheadOfValue behind
  | member key behindKey aheadOfValue denoted behind ahead more ih ihMore =>
      exact ih.member denoted.begins denoted.length_lt key behindKey aheadOfValue behind ahead
        more.begins ihMore

/-! ## Documents -/

/-- A document is read, unless it holds an integer that is too long. -/
theorem Document.readDocument_eq (lenient : Bool) {text : List Char} {value : Value}
    (document : Document text value) :
    if value.hasLongInt then
      ∃ digits remaining, readDocument lenient text = .error ⟨.integerTooLong digits, remaining⟩
    else readDocument lenient text = .ok value.merged := by
  obtain ⟨ahead, denoted, behind⟩ := document
  have shorter := ahead.length_le
  have ends : Ends _ := behind.ends (by rintro c head; contradiction)
  have reads := denoted.isRead lenient ends (2 * text.length + 2) (by omega)
  rw [readDocument, ahead.skipSpace_begins denoted.begins]
  cases long : value.hasLongInt with
  | true =>
      rw [long] at reads
      obtain ⟨digits, remaining, same⟩ := reads
      exact ⟨digits, remaining, by rw [same]⟩
  | false =>
      rw [long] at reads
      have same : readValue lenient (2 * text.length + 2) _ = .ok (value.merged, _) := reads
      rw [same, if_neg Bool.false_ne_true]
      dsimp only
      rw [behind.skipSpace_eq]
      rfl

/-! ## Documents in bytes -/

/-- A document does not begin with a byte order mark. -/
theorem Document.unmarked {text : List Char} {value : Value} (document : Document text value) :
    text.head? ≠ some '\uFEFF' := by
  obtain ⟨ahead, denoted, behind⟩ := document
  cases ahead with
  | none text =>
      obtain ⟨c, later, rfl, -, -, -, noMark⟩ := denoted.begins
      simpa using noMark
  | some blank _ =>
      rintro head
      cases head
      contradiction

/-- A document is read from its bytes, unless it holds an integer that is too long. -/
theorem Document.readBytes_eq (lenient : Bool) {text : List Char} {value : Value}
    (document : Document text value) :
    if value.hasLongInt then ∃ reason, readBytes lenient (Utf8.encodeChars text) = .error reason
    else readBytes lenient (Utf8.encodeChars text) = .ok value.merged := by
  have read := document.readDocument_eq lenient
  rw [readBytes, decodeBytes_encodeChars document.unmarked document.noNull]
  cases long : value.hasLongInt with
  | true =>
      rw [long] at read
      obtain ⟨digits, remaining, same⟩ := read
      exact ⟨_, by simp only [readChars, same]; rfl⟩
  | false =>
      rw [long] at read
      have same : readDocument lenient text = .ok value.merged := read
      rw [if_neg Bool.false_ne_true]
      simp only [readChars, same]
      rfl

end Grammar

end HttpGauge.Json
