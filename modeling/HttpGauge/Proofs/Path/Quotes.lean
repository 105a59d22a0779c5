import HttpGauge.Path.Language
import HttpGauge.Proofs.Path.Grammar
import Mathlib.Data.List.TakeWhile

/-!
# Strings of a path

Where the scanner of templates sees strings: they go up to the next quote of their kind.  The
reader of queries has them end there too unless a backslash takes the quote as it is, and it takes
quotes as they are between backquotes.  So a text that is read leaves no quote open if it has
neither of these, which is all that is asked of the strings of a path language.
-/

namespace HttpGauge.Path

open HttpGauge.Number HttpGauge.Text HttpGauge.Path.Template

/-! ## Strings as the scanner sees them -/

/-- The quote that is open behind a character. -/
def quoteBehind (open? : Option Char) (c : Char) : Option Char :=
  match open? with
  | none => if c = '\'' ∨ c = '"' then some c else none
  | some quote => if c = quote then none else some quote

/-- The quote that a text leaves open, if there is one: a backslash does not keep a quote from
closing a string. -/
def openQuote (text : List Char) : Option Char :=
  text.foldl quoteBehind none

section Quotes

variable {c quote : Char} {open? : Option Char} {text rest : List Char}

theorem quoteBehind_of_not_isQuote (open_isQuote : ∀ quote ∈ open?, IsQuote quote)
    (noQuote : ¬ IsQuote c) : quoteBehind open? c = open? := by
  cases open? with
  | none => exact if_neg noQuote
  | some quote =>
      apply if_neg
      rintro rfl
      exact noQuote (open_isQuote c rfl)

theorem isQuote_of_quoteBehind (open_isQuote : ∀ quote ∈ open?, IsQuote quote) :
    ∀ quote ∈ quoteBehind open? c, IsQuote quote := by
  by_cases isQuote : IsQuote c
  · cases open? with
    | none => simpa [quoteBehind, if_pos (show c = '\'' ∨ c = '"' from isQuote)] using isQuote
    | some quote =>
        have opened := open_isQuote quote rfl
        simp only [quoteBehind]
        split
        · simp
        · simpa using opened
  · rw [quoteBehind_of_not_isQuote open_isQuote isQuote]
    exact open_isQuote

/-- Only quotes are left open. -/
theorem isQuote_of_openQuote (text : List Char) : ∀ quote ∈ openQuote text, IsQuote quote := by
  have kept {open? : Option Char} (open_isQuote : ∀ quote ∈ open?, IsQuote quote) :
      ∀ quote ∈ text.foldl quoteBehind open?, IsQuote quote := by
    induction text generalizing open? with
    | nil => exact open_isQuote
    | cons c text ih => exact ih (isQuote_of_quoteBehind open_isQuote)
  exact kept (by simp)

/-- What is no quote opens and closes nothing. -/
theorem openQuote_append (noQuotes : ∀ c ∈ rest, ¬ IsQuote c) :
    openQuote (text ++ rest) = openQuote text := by
  have stays {open? : Option Char} (open_isQuote : ∀ quote ∈ open?, IsQuote quote) :
      rest.foldl quoteBehind open? = open? := by
    induction rest with
    | nil => rfl
    | cons c rest ih =>
        rcases List.forall_mem_cons.mp noQuotes with ⟨noQuote, noQuotes⟩
        rw [List.foldl_cons, quoteBehind_of_not_isQuote open_isQuote noQuote, ih noQuotes]
  rw [openQuote, List.foldl_append]
  exact stays (isQuote_of_openQuote text)

theorem openQuote_cons (noQuote : ¬ IsQuote c) : openQuote (c :: text) = openQuote text := by
  rw [openQuote, List.foldl_cons, quoteBehind_of_not_isQuote (by simp) noQuote]
  rfl

/-- A string is closed by the next quote of its kind. -/
theorem openQuote_string {inner : List Char} (isQuote : IsQuote quote) (inside : quote ∉ inner) :
    openQuote (quote :: (inner ++ quote :: rest)) = openQuote rest := by
  have opened : quoteBehind none quote = some quote := if_pos isQuote
  have stays : inner.foldl quoteBehind (some quote) = some quote := by
    induction inner with
    | nil => rfl
    | cons c inner ih =>
        rcases not_or.mp (mt List.mem_cons.mpr inside) with ⟨differ, inside⟩
        have still : quoteBehind (some quote) c = some quote := if_neg (Ne.symm differ)
        rw [List.foldl_cons, still, ih inside]
  have closed : quoteBehind (some quote) quote = none := if_pos rfl
  rw [openQuote, List.foldl_cons, List.foldl_append, opened, stays, List.foldl_cons, closed]
  rfl

end Quotes

/-! ## Tokens -/

/-- What follows a text behind characters that are no quotes. -/
def Passes (text rest : List Char) : Prop :=
  ∃ front, text = front ++ rest ∧ ∀ c ∈ front, ¬ IsQuote c

theorem not_isQuote_of_class {holds : Char → Bool} {c : Char}
    (apart : holds '\'' = false ∧ holds '"' = false) (member : holds c = true) : ¬ IsQuote c := by
  rintro (rfl | rfl)
  · exact absurd member (by simp [apart.1])
  · exact absurd member (by simp [apart.2])

namespace Passes

variable {c : Char} {text rest later : List Char}

theorem refl (text : List Char) : Passes text text :=
  ⟨[], rfl, by simp⟩

theorem cons (noQuote : ¬ IsQuote c) (passes : Passes text rest) : Passes (c :: text) rest := by
  rcases passes with ⟨front, rfl, noQuotes⟩
  exact ⟨c :: front, rfl, List.forall_mem_cons.mpr ⟨noQuote, noQuotes⟩⟩

theorem trans (first : Passes text rest) (second : Passes rest later) : Passes text later := by
  rcases first with ⟨front, rfl, noQuotes⟩
  rcases second with ⟨behind, rfl, noQuotesToo⟩
  exact ⟨front ++ behind, by rw [List.append_assoc],
    List.forall_mem_append.mpr ⟨noQuotes, noQuotesToo⟩⟩

theorem suffix (passes : Passes text rest) : rest <:+ text := by
  rcases passes with ⟨front, rfl, -⟩
  exact List.suffix_append front rest

/-- Some characters without quotes are passed. -/
theorem append (front : List Char) {rest : List Char} (apart : '\'' ∉ front ∧ '"' ∉ front) :
    Passes (front ++ rest) rest := by
  refine ⟨front, rfl, fun c member => ?_⟩
  rintro (rfl | rfl)
  · exact apart.1 member
  · exact apart.2 member

/-- A class of characters without quotes is passed. -/
theorem dropWhile {drop : Char → Bool} (apart : drop '\'' = false ∧ drop '"' = false)
    (text : List Char) : Passes text (text.dropWhile drop) := by
  refine ⟨text.takeWhile drop, by rw [List.takeWhile_append_dropWhile], fun c member => ?_⟩
  exact not_isQuote_of_class apart (List.mem_takeWhile_imp member)

theorem openQuote_eq (passes : Passes text rest) : openQuote text = openQuote rest := by
  rcases passes with ⟨front, rfl, noQuotes⟩
  induction front with
  | nil => rfl
  | cons c front ih =>
      rcases List.forall_mem_cons.mp noQuotes with ⟨noQuote, noQuotes⟩
      rw [List.cons_append, openQuote_cons noQuote, ih noQuotes]

end Passes

namespace Token

variable {token : Token} {text rest : List Char}

theorem passes_truth? (read : truth? text = some (token, rest)) : Passes text rest := by
  unfold truth? at read
  split at read
  · cases read
    exact .append ['t', 'r', 'u', 'e'] (by decide)
  · cases read
    exact .append ['f', 'a', 'l', 's', 'e'] (by decide)
  · contradiction

/-- A text without the comma that may stand at its start. -/
def behindComma (text : List Char) : List Char :=
  match text with
  | ',' :: rest => rest
  | _ => text

theorem passes_behindComma : Passes text (behindComma text) := by
  unfold behindComma
  split
  · exact .append [','] (by decide)
  · exact .refl _

theorem passes_sortKey? (read : sortKey? text = some (token, rest)) : Passes text rest := by
  have blanks : Passes text ((behindComma text).dropWhile isBlank) :=
    passes_behindComma.trans (.dropWhile (by decide) _)
  have behindSign {sign : Char} (noQuote : ¬ IsQuote sign)
      (signed : (behindComma text).dropWhile isBlank = sign :: rest) : Passes text rest := by
    rw [signed] at blanks
    exact blanks.trans (.cons noQuote (.refl rest))
  unfold sortKey? at read
  dsimp only at read
  split at read
  · rename_i slash
    cases read
    exact behindSign (by simp [IsQuote]) slash
  · rename_i slash
    cases read
    exact behindSign (by simp [IsQuote]) slash
  · contradiction

/-- The mark that may stand at the start of a text, and what stands behind it. -/
def splitMark (text : List Char) : List Char × List Char :=
  match text with
  | '@' :: rest => (['@'], rest)
  | _ => ([], text)

theorem passes_splitMark : Passes text (splitMark text).2 := by
  unfold splitMark
  split
  · exact .append ['@'] (by decide)
  · exact .refl _

theorem passes_name? (read : name? text = some (token, rest)) : Passes text rest := by
  have mark : Passes text (splitMark text).2 := passes_splitMark
  unfold name? at read
  dsimp only at read
  split at read
  · contradiction
  · rename_i name
    replace name : (splitMark text).2 = _ := name
    split at read
    · rename_i letter
      cases read
      have noQuote := not_isQuote_of_class (by decide) letter
      rw [name] at mark
      exact mark.trans (.cons noQuote (.dropWhile (by decide) _))
    · contradiction

theorem passes_numeric (read : numeric text = .found token rest) : Passes text rest := by
  have signed : Passes text (if text.head? == some '-' then text.drop 1 else text) := by
    split
    · rename_i negative
      cases text with
      | nil => contradiction
      | cons c text =>
          obtain rfl : c = '-' := by simpa using negative
          exact .append ['-'] (by decide)
    · exact .refl _
  unfold numeric at read
  dsimp only at read
  generalize (if text.head? == some '-' then text.drop 1 else text) = unsigned at signed read
  have whole : Passes text (digits unsigned).2 := signed.trans (.dropWhile (by decide) _)
  have integral (read : (if digitLimit < (digits unsigned).1.length then .tooLong
      else .found (.number (withSign (text.head? == some '-') (ofDigits (digits unsigned).1)))
        (digits unsigned).2) = Numeric.found token rest) : Passes text rest := by
    split at read
    · contradiction
    · cases read
      exact whole
  split at read
  · contradiction
  · split at read
    · rename_i point
      split at read
      · cases read
        exact Passes.trans (point ▸ whole) (.cons (by simp [IsQuote]) (.dropWhile (by decide) _))
      · exact integral read
    · exact integral read

theorem passes_comparison? (read : comparison? text = some (token, rest)) : Passes text rest := by
  unfold comparison? at read
  split at read
  case h_1 | h_2 | h_4 | h_5 | h_6 =>
    cases read
    exact .append [_, _] (by decide)
  case h_3 | h_7 | h_8 =>
    cases read
    exact .append [_] (by decide)
  case h_9 => contradiction

theorem passes_sign? (read : sign? text = some (token, rest)) : Passes text rest := by
  unfold sign? at read
  split at read
  · cases read
    exact .append ['.', '.'] (by decide)
  · split at read
    · rename_i symbol
      cases read
      refine .cons ?_ (.refl _)
      rintro (rfl | rfl) <;> contradiction
    · contradiction
  · contradiction

/-! ## Strings -/

/-- Without backslashes a string ends at the next quote. -/
theorem eq_of_quoted {quote : Char} {inner : List Char} (noEscape : '\\' ∉ text)
    (read : quoted quote text = some (inner, rest)) :
    text = inner ++ quote :: rest ∧ quote ∉ inner := by
  fun_induction quoted generalizing inner with
  | case1 => contradiction
  | case2 => exact absurd List.mem_cons_self noEscape
  | case3 => exact absurd List.mem_cons_self noEscape
  | case4 later =>
      cases read
      exact ⟨rfl, List.not_mem_nil⟩
  | case5 => contradiction
  | case6 c later _ differ _ ih =>
      rcases Option.map_eq_some_iff.mp read with ⟨⟨inside, behind⟩, found, same⟩
      cases same
      rcases ih (mt (List.mem_cons_of_mem _) noEscape) found with ⟨rfl, apart⟩
      exact ⟨rfl, by simp [Ne.symm differ, apart]⟩

/-- A text without the characters that the scanner of templates does not know of. -/
structure IsUnescaped (text : List Char) : Prop where
  noBackslash : '\\' ∉ text
  noBackquote : '\x60' ∉ text

theorem IsUnescaped.of_suffix (unescaped : IsUnescaped text) (suffix : rest <:+ text) :
    IsUnescaped rest :=
  ⟨fun member => unescaped.noBackslash (suffix.subset member),
    fun member => unescaped.noBackquote (suffix.subset member)⟩

/-- A token without these leaves no quote open. -/
theorem openQuote_of_next? (unescaped : IsUnescaped text)
    (read : next? text = some (token, rest)) :
    rest <:+ text ∧ openQuote text = openQuote rest := by
  have plain (passes : Passes text rest) : rest <:+ text ∧ openQuote text = openQuote rest :=
    ⟨passes.suffix, passes.openQuote_eq⟩
  have string {quote : Char} {inner later : List Char} (isQuote : IsQuote quote)
      (same : text = quote :: later) (found : quoted quote later = some (inner, rest)) :
      rest <:+ text ∧ openQuote text = openQuote rest := by
    have noEscape : '\\' ∉ later := fun member =>
      unescaped.noBackslash (by rw [same]; exact List.mem_cons_of_mem _ member)
    rcases eq_of_quoted noEscape found with ⟨rfl, inside⟩
    rw [same]
    exact ⟨⟨quote :: (inner ++ [quote]), by simp⟩, openQuote_string isQuote inside⟩
  unfold next? at read
  rcases Option.or_eq_some_iff.mp read with truth | ⟨-, read⟩
  · exact plain (passes_truth? truth)
  rcases Option.or_eq_some_iff.mp read with sortKey | ⟨-, read⟩
  · exact plain (passes_sortKey? sortKey)
  rcases Option.or_eq_some_iff.mp read with name | ⟨-, read⟩
  · exact plain (passes_name? name)
  split at read
  · rename_i number
    cases read
    exact plain (passes_numeric number)
  · contradiction
  · split at read
    · rcases Option.map_eq_some_iff.mp read with ⟨found, ends, same⟩
      cases same
      exact string (Or.inl rfl) rfl ends
    · rcases Option.map_eq_some_iff.mp read with ⟨found, ends, same⟩
      cases same
      exact string (Or.inr rfl) rfl ends
    -- The name of an operator may hold a single quote.
    · exact absurd List.mem_cons_self unescaped.noBackquote
    · rcases Option.or_eq_some_iff.mp read with comparison | ⟨-, sign⟩
      · exact plain (passes_comparison? comparison)
      · exact plain (passes_sign? sign)

/-- What is read in so many steps leaves no quote open. -/
theorem openQuote_of_readWithin {fuel : Nat} {tokens : List Token} (unescaped : IsUnescaped text)
    (read : readWithin fuel text = some tokens) : openQuote text = none := by
  induction fuel generalizing text tokens with
  | zero =>
      cases text with
      | nil => rfl
      | cons c text => contradiction
  | succ fuel ih =>
      cases text with
      | nil => rfl
      | cons c text =>
          have behind := unescaped.of_suffix (List.suffix_cons c text)
          have skipped (noQuote : ¬ IsQuote c) (read : readWithin fuel text = some tokens) :
              openQuote (c :: text) = none := by
            rw [openQuote_cons noQuote, ih behind read]
          rw [readWithin] at read
          split at read
          · rename_i blank
            refine skipped ?_ read
            rintro (rfl | rfl) <;> exact absurd blank (by decide)
          · split at read
            · rename_i found
              rcases Option.map_eq_some_iff.mp read with ⟨later, more, rfl⟩
              rcases openQuote_of_next? unescaped found with ⟨suffix, same⟩
              rw [same, ih (unescaped.of_suffix suffix) more]
            · split at read
              · rename_i newline
                refine skipped ?_ read
                rintro (rfl | rfl) <;> exact absurd newline (by decide)
              · contradiction

end Token

/-- A path that can be read leaves no quote open, unless it has a backslash or a backquote. -/
theorem Query.openQuote_of_read {text : List Char} {query : Query}
    (unescaped : Token.IsUnescaped text) (read : Query.read text = some query) :
    openQuote text = none := by
  unfold Query.read at read
  split at read
  · contradiction
  · rename_i tokens
    exact Token.openQuote_of_readWithin unescaped tokens

end HttpGauge.Path

namespace HttpGauge

open HttpGauge.Path

/-- A path language in which strings have to end: without a backslash and a backquote, a text that
leaves a quote open is no expression. -/
structure PathLanguage.EndsStrings (language : PathLanguage) : Prop where
  openQuote_eq_none : ∀ text search, Token.IsUnescaped text → language.read text = .ok search →
    openQuote text = none

/-- The language of queries is one. -/
theorem Path.Query.endsStrings_language : language.EndsStrings := by
  constructor
  intro text search unescaped reads
  rcases read_language_eq_ok_iff.mp reads with ⟨query, read, -⟩
  exact openQuote_of_read unescaped read

end HttpGauge
