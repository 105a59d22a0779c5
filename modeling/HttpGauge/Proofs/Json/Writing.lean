import HttpGauge.Proofs.Json.Reading
import HttpGauge.Proofs.Json.WrittenNumbers

/-!
# Written values are read back

The text of a value denotes the value, in both styles of escaping: a character stands for itself,
for a short escape, or for one or two escaped code units.  Read from its bytes, the text is the
value again, provided that JSON has a text for it at all.
-/

namespace HttpGauge.Text

/-- Hexadecimal digits read as the number that they are written from. -/
theorem readHex_hexPlaces {places value : Nat} (small : value < 16 ^ places) :
    readHex (hexPlaces places value) = some value := by
  induction places generalizing value with
  | zero =>
      rw [Nat.lt_one_iff.mp small]
      rfl
  | succ places ih =>
      have front : value / 16 < 16 ^ places :=
        Nat.div_lt_of_lt_mul (by rwa [Nat.mul_comm, ← Nat.pow_succ])
      have read := ih front
      rw [readHex] at read
      rw [hexPlaces, readHex, List.foldl_append, read, List.foldl_cons, List.foldl_nil,
        hexValue?_hexDigit (Nat.mod_lt _ (by decide))]
      exact congrArg some (Nat.div_add_mod value 16)

/-- The code point of a character is the character's. -/
theorem charOfCode_toNat (c : Char) : charOfCode c.toNat = c := by
  have valid : c.toNat.isValidChar := c.valid
  rw [charOfCode, if_pos valid, Char.ofNat_toNat]

/-- The codes that stand for a character: its code point, or the surrogates that make it up. -/
inductive Encodes (c : Char) : List Nat → Prop where
  | point : Encodes c [c.toNat]
  | pair (beyond : 0x10000 ≤ c.toNat) :
      Encodes c [(splitSurrogates c.toNat).1, (splitSurrogates c.toNat).2]

/-- A code that is no surrogate is read by itself. -/
theorem charsOfUnits16_cons {code : Nat} (codes : List Nat)
    (noSurrogate : isHighSurrogate code = false) :
    charsOfUnits16 (code :: codes) = charOfCode code :: charsOfUnits16 codes := by
  cases codes with
  | nil => rfl
  | cons next later => rw [charsOfUnits16, noSurrogate, Bool.false_and, if_neg Bool.false_ne_true]

/-- A code point above the others is split into two surrogates. -/
theorem surrogates_splitSurrogates {code : Nat} (beyond : 0x10000 ≤ code)
    (bounded : code < 0x110000) :
    isHighSurrogate (splitSurrogates code).1 = true ∧
      isLowSurrogate (splitSurrogates code).2 = true := by
  unfold isHighSurrogate isLowSurrogate splitSurrogates
  dsimp only
  constructor
  · rw [Bool.and_eq_true, decide_eq_true_iff, decide_eq_true_iff]
    omega
  · rw [Bool.and_eq_true, decide_eq_true_iff, decide_eq_true_iff]
    omega

/-- The codes of a character are read as the character. -/
theorem Encodes.charsOfUnits16_append {c : Char} {codes : List Nat} (encodes : Encodes c codes)
    (more : List Nat) : charsOfUnits16 (codes ++ more) = c :: charsOfUnits16 more := by
  have scalar := Utf8.code_not_surrogate c
  cases encodes with
  | point =>
      have noSurrogate : isHighSurrogate c.toNat = false := by
        simp only [isHighSurrogate, Bool.and_eq_false_iff, decide_eq_false_iff_not]
        omega
      rw [List.singleton_append, charsOfUnits16_cons more noSurrogate, charOfCode_toNat]
  | pair beyond =>
      obtain ⟨high, low⟩ := surrogates_splitSurrogates beyond (by omega)
      rw [List.cons_append, List.singleton_append, charsOfUnits16, high, low, Bool.and_self,
        if_pos rfl, joinSurrogates_splitSurrogates beyond, charOfCode_toNat]

end HttpGauge.Text

namespace HttpGauge.Json

open HttpGauge.Json.Grammar HttpGauge.Json.Writer HttpGauge.Number HttpGauge.Text

/-! ## Strings -/

theorem codes_unitEscape {unit : Nat} {text rest : List Char} {codes : List Nat}
    (small : unit < 0x10000) (more : Codes text codes rest) :
    Codes (unitEscape unit ++ text) (unit :: codes) rest := by
  have read : readHex (hexPlaces 4 unit) = some unit := readHex_hexPlaces small
  exact .unit read more

theorem escapes_of_shortEscape? {c letter : Char} (short : shortEscape? c = some letter) :
    (letter, c) ∈ escapes := by
  unfold shortEscape? at short
  split at short <;> cases short <;> decide

/-- What has no short escape is neither a quote nor a backslash. -/
theorem ne_of_shortEscape?_eq_none {c : Char} (short : shortEscape? c = none) :
    c ≠ '"' ∧ c ≠ '\\' := by
  constructor
  · rintro rfl
    contradiction
  · rintro rfl
    contradiction

theorem le_of_isBare {style : Style} {c : Char} (bare : isBare style c = true) : ' ' ≤ c := by
  cases style <;> simp_all [isBare]

/-- A written character is read as codes that stand for it. -/
theorem codes_writeChar (style : Style) (c : Char) : ∃ units, Encodes c units ∧
    ∀ {text rest codes}, Codes text codes rest →
      Codes (writeChar style c ++ text) (units ++ codes) rest := by
  have scalar := Utf8.code_not_surrogate c
  unfold writeChar
  cases short : shortEscape? c with
  | some letter => exact ⟨_, .point, .escape (escapes_of_shortEscape? short)⟩
  | none =>
      dsimp only
      obtain ⟨noQuote, noBackslash⟩ := ne_of_shortEscape?_eq_none short
      by_cases bare : isBare style c = true
      · rw [if_pos bare]
        exact ⟨_, .point, .plain noQuote noBackslash (le_of_isBare bare)⟩
      · rw [if_neg bare]
        by_cases small : c.toNat < 0x10000
        · rw [if_pos small]
          exact ⟨_, .point, codes_unitEscape small⟩
        · rw [if_neg small]
          refine ⟨_, .pair (Nat.le_of_not_lt small), fun more => ?_⟩
          rw [List.append_assoc]
          apply codes_unitEscape
          · simp only [splitSurrogates]
            omega
          · apply codes_unitEscape _ more
            simp only [splitSurrogates]
            omega

/-- The characters of a string are read up to its closing quote. -/
theorem codes_flatMap_writeChar (style : Style) (chars rest : List Char) :
    ∃ codes, Codes (chars.flatMap (writeChar style) ++ '"' :: rest) codes rest ∧
      charsOfUnits16 codes = chars := by
  induction chars with
  | nil => exact ⟨[], .close rest, rfl⟩
  | cons c later ih =>
      obtain ⟨units, encodes, reads⟩ := codes_writeChar style c
      obtain ⟨codes, more, same⟩ := ih
      refine ⟨units ++ codes, ?_, ?_⟩
      · rw [List.flatMap_cons, List.append_assoc]
        exact reads more
      · rw [encodes.charsOfUnits16_append, same]

/-- A written string begins with a quote, and its codes denote it. -/
theorem codes_writeString (style : Style) (content : String) (rest : List Char) :
    ∃ text codes, writeString style content ++ rest = '"' :: text ∧ Codes text codes rest ∧
      textOf codes = content := by
  obtain ⟨codes, spelled, same⟩ := codes_flatMap_writeChar style content.toList rest
  refine ⟨_, codes, ?_, spelled, ?_⟩
  · rw [writeString, List.append_assoc]
    rfl
  · rw [textOf, same, String.ofList_toList]

/-! ## Values -/

/-- A value whose doubles are finite: JSON has words for no others. -/
inductive Value.IsFinite : Value → Prop where
  | null : IsFinite .null
  | bool (truth : Bool) : IsFinite (.bool truth)
  | int (n : Int) : IsFinite (.int n)
  | float (negative : Bool) (rank : Fin finiteCount) : IsFinite (.float (.finite negative rank))
  | str (text : String) : IsFinite (.str text)
  | arr {items : List Value} (each : ∀ item ∈ items, IsFinite item) : IsFinite (.arr items)
  | obj {members : Members} (each : ∀ member ∈ members, IsFinite member.2) :
      IsFinite (.obj members)

/-- A value that JSON has a text for: its doubles are finite, its integers are not too long, and no
key of an object occurs twice. -/
inductive Value.IsWritable : Value → Prop where
  | null : IsWritable .null
  | bool (truth : Bool) : IsWritable (.bool truth)
  | int {n : Int} (short : exceedsLimit n = false) : IsWritable (.int n)
  | float (negative : Bool) (rank : Fin finiteCount) : IsWritable (.float (.finite negative rank))
  | str (text : String) : IsWritable (.str text)
  | arr {items : List Value} (each : ∀ item ∈ items, IsWritable item) : IsWritable (.arr items)
  | obj {members : Members} (distinct : (members.map Prod.fst).Nodup)
      (each : ∀ member ∈ members, IsWritable member.2) : IsWritable (.obj members)

theorem Value.IsWritable.isFinite {value : Value} (writable : value.IsWritable) :
    value.IsFinite := by
  induction writable with
  | null => exact .null
  | bool truth => exact .bool truth
  | int => exact .int _
  | float negative rank => exact .float negative rank
  | str text => exact .str text
  | arr _ ih => exact .arr ih
  | obj _ _ ih => exact .obj ih

theorem writeItems_cons (style : Style) (item next : Value) (later : List Value) :
    writeItems style (item :: next :: later) =
      Writer.write style item ++ ',' :: writeItems style (next :: later) := by
  rw [writeItems]
  exact List.cons_ne_nil _ _

theorem writeMembers_cons (style : Style) (key : String) (value : Value)
    (next : String × Value) (later : Members) :
    writeMembers style ((key, value) :: next :: later) =
      writeString style key ++ ':' :: Writer.write style value ++
        ',' :: writeMembers style (next :: later) := by
  rw [writeMembers]
  exact List.cons_ne_nil _ _

theorem denotes_writeItems (style : Style) {first : Value} {later : List Value} (rest : List Char)
    (each : ∀ item ∈ first :: later, ∀ rest,
      Denotes .value (Writer.write style item ++ rest) item rest) :
    Denotes .items (writeItems style (first :: later) ++ rest) (.arr (first :: later)) rest := by
  induction later generalizing first with
  | nil =>
      have denoted := each first List.mem_cons_self (']' :: rest)
      rw [writeItems, List.append_assoc]
      exact .lastItem denoted (.none _)
  | cons next later ih =>
      have more := ih fun item member => each item (List.mem_cons_of_mem _ member)
      have denoted := each first List.mem_cons_self
        (',' :: (writeItems style (next :: later) ++ rest))
      rw [writeItems_cons, List.append_assoc]
      exact .item denoted (.none _) (.none _) more

theorem denotes_writeMembers (style : Style) {key : String} {value : Value} {later : Members}
    (rest : List Char) (each : ∀ member ∈ (key, value) :: later, ∀ rest,
      Denotes .value (Writer.write style member.2 ++ rest) member.2 rest) :
    Denotes .members (writeMembers style ((key, value) :: later) ++ rest)
      (.obj ((key, value) :: later)) rest := by
  induction later generalizing key value with
  | nil =>
      have denoted := each (key, value) List.mem_cons_self ('\x7d' :: rest)
      obtain ⟨text, codes, begins, spelled, same⟩ :=
        codes_writeString style key (':' :: (Writer.write style value ++ '\x7d' :: rest))
      have written : writeMembers style [(key, value)] ++ rest = '"' :: text := by
        rw [← begins, writeMembers]
        simp
      rw [written, ← same]
      exact .lastMember spelled (.none _) (.none _) denoted (.none _)
  | cons next later ih =>
      have more := ih fun member inLater => each member (List.mem_cons_of_mem _ inLater)
      have denoted := each (key, value) List.mem_cons_self
        (',' :: (writeMembers style (next :: later) ++ rest))
      obtain ⟨text, codes, begins, spelled, same⟩ :=
        codes_writeString style key (':' :: (Writer.write style value ++
          ',' :: (writeMembers style (next :: later) ++ rest)))
      have written : writeMembers style ((key, value) :: next :: later) ++ rest = '"' :: text := by
        rw [← begins, writeMembers_cons]
        simp
      rw [written, ← same]
      exact .member spelled (.none _) (.none _) denoted (.none _) (.none _) more

/-- The text of a value denotes the value, whatever follows. -/
theorem Value.IsFinite.denotes (style : Style) {value : Value} (finite : value.IsFinite)
    (rest : List Char) : Denotes .value (Writer.write style value ++ rest) value rest := by
  induction finite generalizing rest with
  | null =>
      have named : ("null", Value.null) ∈ words := by decide
      exact .word named rest
  | bool truth =>
      cases truth with
      | true =>
          have named : ("true", Value.bool true) ∈ words := by decide
          exact .word named rest
      | false =>
          have named : ("false", Value.bool false) ∈ words := by decide
          exact .word named rest
  | int n =>
      rw [Writer.write]
      exact .number (number_intText n rest)
  | float negative rank =>
      rw [Writer.write]
      exact .number (number_finite negative rank rest)
  | str content =>
      obtain ⟨text, codes, begins, spelled, same⟩ := codes_writeString style content rest
      rw [Writer.write, begins, ← same]
      exact .string spelled
  | @arr items _ ih =>
      rw [Writer.write, List.cons_append]
      cases items with
      | nil => exact .emptyArray (.none _)
      | cons first later => exact .array (.none _) (denotes_writeItems style rest ih)
  | @obj members _ ih =>
      rw [Writer.write, List.cons_append]
      cases members with
      | nil => exact .emptyObject (.none _)
      | cons first later => exact .object (.none _) (denotes_writeMembers style rest ih)

/-- The text of a value is a document that denotes the value. -/
theorem Value.IsFinite.document (style : Style) {value : Value} (finite : value.IsFinite) :
    Document (value.write style).toList value := by
  have denoted := finite.denotes style []
  rw [List.append_nil] at denoted
  rw [Value.write, String.toList_ofList]
  exact ⟨.none _, denoted, .none _⟩

/-! ## Reading back -/

section Maps

variable {items : List Value} {members : Members}

theorem Value.mergedItems_eq_map : Value.mergedItems items = items.map Value.merged := by
  induction items with
  | nil => rfl
  | cons item later ih => rw [Value.mergedItems, ih, List.map_cons]

theorem Value.mergedMembers_eq_map :
    Value.mergedMembers members = members.map fun member => (member.1, member.2.merged) := by
  induction members with
  | nil => rfl
  | cons member later ih => rw [Value.mergedMembers, ih, List.map_cons]

theorem Value.itemsHaveLongInt_eq_any :
    Value.itemsHaveLongInt items = items.any Value.hasLongInt := by
  induction items with
  | nil => rfl
  | cons item later ih => rw [Value.itemsHaveLongInt, ih, List.any_cons]

theorem Value.membersHaveLongInt_eq_any :
    Value.membersHaveLongInt members = members.any fun member => member.2.hasLongInt := by
  induction members with
  | nil => rfl
  | cons member later ih => rw [Value.membersHaveLongInt, ih, List.any_cons]

end Maps

/-- A member with a new key comes last. -/
theorem Members.put_of_notMem {key : String} (value : Value) {members : Members}
    (fresh : key ∉ members.map Prod.fst) : members.put key value = members ++ [(key, value)] := by
  induction members with
  | nil => rfl
  | cons member later ih =>
      rw [List.map_cons, List.mem_cons, not_or] at fresh
      obtain ⟨differ, absent⟩ := fresh
      rw [Members.put, if_neg (Ne.symm differ), ih absent]
      rfl

/-- Members with a key each are set one behind the other. -/
theorem Members.foldl_put {held pairs : Members}
    (distinct : ((held ++ pairs).map Prod.fst).Nodup) :
    pairs.foldl (fun members pair => members.put pair.1 pair.2) held = held ++ pairs := by
  induction pairs generalizing held with
  | nil => exact (List.append_nil held).symm
  | cons pair later ih =>
      have fresh : pair.1 ∉ held.map Prod.fst := by
        rw [List.map_append, List.nodup_append] at distinct
        intro member
        exact distinct.2.2 _ member _ List.mem_cons_self rfl
      rw [List.foldl_cons, Members.put_of_notMem _ fresh, ih]
      · rw [List.append_assoc]
        rfl
      · rwa [List.append_assoc]

/-- Nothing is merged where no key occurs twice. -/
theorem Members.ofPairs_of_nodup {pairs : Members} (distinct : (pairs.map Prod.fst).Nodup) :
    Members.ofPairs pairs = pairs :=
  Members.foldl_put distinct

theorem Value.IsWritable.merged_eq {value : Value} (writable : value.IsWritable) :
    value.merged = value := by
  induction writable with
  | null | bool | int | float | str => rfl
  | @arr items _ ih =>
      have each (item : Value) (inside : item ∈ items) : item.merged = id item := ih item inside
      rw [Value.merged, Value.mergedItems_eq_map, List.map_congr_left each, List.map_id]
  | @obj members distinct _ ih =>
      have same : Value.mergedMembers members = members := by
        have each (member : String × Value) (inside : member ∈ members) :
            (member.1, member.2.merged) = id member := Prod.ext rfl (ih member inside)
        rw [Value.mergedMembers_eq_map, List.map_congr_left each, List.map_id]
      rw [Value.merged, same, Members.ofPairs_of_nodup distinct]

theorem Value.IsWritable.hasLongInt_eq {value : Value} (writable : value.IsWritable) :
    value.hasLongInt = false := by
  induction writable with
  | null | bool | float | str => rfl
  | int short => exact short
  | arr _ ih =>
      rw [Value.hasLongInt, Value.itemsHaveLongInt_eq_any, List.any_eq_false]
      exact fun item member => Bool.not_eq_true _ ▸ ih item member
  | obj _ _ ih =>
      rw [Value.hasLongInt, Value.membersHaveLongInt_eq_any, List.any_eq_false]
      exact fun member inside => Bool.not_eq_true _ ▸ ih member inside

/-- The text of a value is read back from its bytes as the value. -/
theorem Value.IsWritable.readBytes_write (style : Style) (lenient : Bool) {value : Value}
    (writable : value.IsWritable) :
    readBytes lenient (Utf8.encode (value.write style)) = .ok value := by
  have read := (writable.isFinite.document style).readBytes_eq lenient
  rwa [writable.hasLongInt_eq, if_neg Bool.false_ne_true, writable.merged_eq] at read

/-- Two values with the same text are the same value. -/
theorem Value.IsWritable.eq_of_write_eq (style : Style) {value other : Value}
    (writable : value.IsWritable) (writableToo : other.IsWritable)
    (same : value.write style = other.write style) : value = other := by
  have read := writable.readBytes_write style false
  rw [same, writableToo.readBytes_write style false] at read
  exact (Except.ok.inj read).symm

/-! ## ASCII texts -/

/-- A text of ASCII characters. -/
def IsAscii (text : List Char) : Prop :=
  ∀ c ∈ text, c.toNat < 0x80

instance (text : List Char) : Decidable (IsAscii text) :=
  List.decidableBAll (fun c : Char => c.toNat < 0x80) text

theorem isAscii_nil : IsAscii [] :=
  nofun

theorem IsAscii.cons {c : Char} {text : List Char} (ascii : c.toNat < 0x80)
    (more : IsAscii text) : IsAscii (c :: text) :=
  List.forall_mem_cons.mpr ⟨ascii, more⟩

theorem IsAscii.append {front back : List Char} (ascii : IsAscii front) (more : IsAscii back) :
    IsAscii (front ++ back) :=
  List.forall_mem_append.mpr ⟨ascii, more⟩

theorem isAscii_of_isDigit {text : List Char} (digits : ∀ c ∈ text, c.isDigit = true) :
    IsAscii text := by
  intro c member
  have bound := (digit_bounds (digits c member)).1
  have zero : '0'.toNat = 48 := rfl
  omega

theorem isAscii_natDigits (n : Nat) : IsAscii (natDigits n) :=
  isAscii_of_isDigit fun _ => isDigit_of_mem_natDigits

theorem isAscii_intText (n : Int) : IsAscii (intText n).toList := by
  rw [intText_eq]
  by_cases negative : n < 0
  · rw [decide_eq_true negative]
    exact (isAscii_natDigits _).cons (by decide)
  · rw [decide_eq_false negative]
    exact isAscii_natDigits _

theorem isAscii_positional {digits : List Char} (ascii : IsAscii digits) (point : Int) :
    IsAscii (positional digits point) := by
  have zeros (places : Nat) : IsAscii (List.replicate places '0') :=
    isAscii_of_isDigit fun _ => isDigit_of_mem_replicate
  unfold positional
  split
  · exact (((zeros _).append ascii).cons (by decide)).cons (by decide)
  · split
    · exact (ascii.append (zeros _)).append (by decide)
    · have front : IsAscii (digits.take point.toNat) :=
        fun c member => ascii c (List.mem_of_mem_take member)
      have back : IsAscii (digits.drop point.toNat) :=
        fun c member => ascii c (List.mem_of_mem_drop member)
      exact front.append (back.cons (by decide))

theorem isAscii_exponentText (exponent : Int) : IsAscii (exponentText exponent) := by
  obtain ⟨digits, text, ascii, -, -⟩ := exponentText_eq exponent
  rw [text]
  exact (isAscii_of_isDigit ascii).cons (by split <;> decide)

theorem isAscii_scientific {digits : List Char} (ascii : IsAscii digits) (point : Int) :
    IsAscii (scientific digits point) := by
  unfold scientific
  cases digits with
  | nil => exact isAscii_nil
  | cons first later =>
      obtain ⟨head, tail⟩ := List.forall_mem_cons.mp ascii
      have fraction : IsAscii (if later.isEmpty then [] else '.' :: later) := by
        split
        · exact isAscii_nil
        · exact IsAscii.cons (by decide) tail
      have exponent := (isAscii_exponentText (point - 1)).cons (show 'e'.toNat < 0x80 by decide)
      exact (fraction.append exponent).cons head

theorem isAscii_decimalText (decimal : Decimal) : IsAscii (decimalText decimal) := by
  have digits : IsAscii (stripZeros (natDigits decimal.digits)) := by
    obtain ⟨zeros, split⟩ := stripZeros_append (natDigits decimal.digits)
    have all := isAscii_natDigits decimal.digits
    rw [split] at all
    exact (List.forall_mem_append.mp all).1
  unfold decimalText
  dsimp only
  split
  · exact isAscii_positional digits _
  · exact isAscii_scientific digits _

theorem isAscii_chars (x : Binary64) : IsAscii (x.chars Spelling.json) := by
  have sign (negative : Bool) : IsAscii (if negative then ['-'] else []) := by
    cases negative <;> decide
  cases x with
  | nan => decide
  | infinite negative => exact (sign negative).append (by decide)
  | finite negative rank =>
      refine (sign negative).append ?_
      split
      · decide
      · exact isAscii_decimalText _

theorem isAscii_hexPlaces (places value : Nat) : IsAscii (hexPlaces places value) := by
  have digit : ∀ value : Fin 16, (hexDigit value.val).toNat < 0x80 := by decide
  induction places generalizing value with
  | zero => exact isAscii_nil
  | succ places ih =>
      have last := digit ⟨value % 16, Nat.mod_lt _ (by decide)⟩
      exact (ih (value / 16)).append (isAscii_nil.cons last)

theorem isAscii_unitEscape (unit : Nat) : IsAscii (unitEscape unit) :=
  ((isAscii_hexPlaces 4 unit).cons (by decide)).cons (by decide)

/-- In the ASCII style every character of a string is escaped that is not ASCII. -/
theorem isAscii_writeChar (c : Char) : IsAscii (writeChar .ascii c) := by
  unfold writeChar
  cases short : shortEscape? c with
  | some letter =>
      have table : ∀ escape ∈ escapes, escape.1.toNat < 0x80 := by decide
      have ascii := table _ (escapes_of_shortEscape? short)
      exact (isAscii_nil.cons ascii).cons (by decide)
  | none =>
      dsimp only
      split
      · have bare : isBare .ascii c = true := by assumption
        have most := of_decide_eq_true (Bool.and_eq_true_iff.mp bare).2
        have small : c.toNat ≤ 126 := UInt32.le_iff_toNat_le.mp most
        exact isAscii_nil.cons (Nat.lt_succ_of_lt (Nat.lt_succ_of_le small))
      · split
        · exact isAscii_unitEscape _
        · exact (isAscii_unitEscape _).append (isAscii_unitEscape _)

theorem isAscii_writeString (text : String) : IsAscii (writeString .ascii text) := by
  have content : IsAscii (text.toList.flatMap (writeChar .ascii)) := by
    intro c member
    obtain ⟨written, -, inside⟩ := List.mem_flatMap.mp member
    exact isAscii_writeChar written c inside
  exact (content.cons (by decide)).append (by decide)

theorem isAscii_writeItems {items : List Value}
    (each : ∀ item ∈ items, IsAscii (Writer.write .ascii item)) :
    IsAscii (writeItems .ascii items) := by
  induction items with
  | nil => decide
  | cons item later ih =>
      obtain ⟨first, rest⟩ := List.forall_mem_cons.mp each
      cases later with
      | nil =>
          rw [writeItems]
          exact first.append (by decide)
      | cons next later =>
          rw [writeItems_cons]
          exact first.append ((ih rest).cons (by decide))

theorem isAscii_writeMembers {members : Members}
    (each : ∀ member ∈ members, IsAscii (Writer.write .ascii member.2)) :
    IsAscii (writeMembers .ascii members) := by
  induction members with
  | nil => decide
  | cons member later ih =>
      obtain ⟨first, rest⟩ := List.forall_mem_cons.mp each
      cases later with
      | nil =>
          rw [writeMembers]
          exact ((isAscii_writeString _).append (first.cons (by decide))).append (by decide)
      | cons next later =>
          rw [writeMembers_cons]
          have key := isAscii_writeString member.1
          exact (key.append (first.cons (by decide))).append ((ih rest).cons (by decide))

/-- In the ASCII style every text is ASCII. -/
theorem Value.IsWritable.isAscii {value : Value} (writable : value.IsWritable) :
    IsAscii (Writer.write .ascii value) := by
  induction writable with
  | null => decide
  | bool truth => cases truth <;> decide
  | @int n short =>
      rw [Writer.write]
      exact isAscii_intText n
  | float negative rank =>
      rw [Writer.write]
      exact isAscii_chars _
  | str text =>
      rw [Writer.write]
      exact isAscii_writeString text
  | arr _ ih =>
      rw [Writer.write]
      exact (isAscii_writeItems ih).cons (by decide)
  | obj _ _ ih =>
      rw [Writer.write]
      exact (isAscii_writeMembers ih).cons (by decide)

/-- The bytes of an ASCII text are its characters. -/
theorem lt_of_mem_encode {text : String} (ascii : IsAscii text.toList) :
    ∀ byte ∈ Utf8.encode text, byte < 0x80 := by
  intro byte member
  obtain ⟨c, inside, inChar⟩ := List.mem_flatMap.mp member
  have small := ascii c inside
  rw [Utf8.encodeChar, if_pos small, List.mem_singleton] at inChar
  rw [inChar, UInt8.lt_iff_toNat_lt, Utf8.toNat_ofNat_of_lt (by omega)]
  exact small

end HttpGauge.Json
