import HttpGauge.Proofs.Json.Recognition
import HttpGauge.Proofs.Json.Writing
import Mathlib.Logic.Basic

/-!
# Doubles that are not finite

Such doubles are written as words that JSON does not have.  Whatever stands around them, the words
remain outside of strings, so that the text is no document.  Main statement: the text of a value is
JSON exactly when all of the doubles in the value are finite.
-/

namespace HttpGauge.Json

open HttpGauge.Json.Grammar HttpGauge.Json.Writer HttpGauge.Number HttpGauge.Text

theorem Value.isFinite_arr_iff {items : List Value} :
    (Value.arr items).IsFinite ↔ ∀ item ∈ items, item.IsFinite := by
  constructor
  · intro finite
    cases finite with
    | arr each => exact each
  · exact .arr

theorem Value.isFinite_obj_iff {members : Members} :
    (Value.obj members).IsFinite ↔ ∀ member ∈ members, member.2.IsFinite := by
  constructor
  · intro finite
    cases finite with
    | obj each => exact each
  · exact .obj

/-! ## What written texts are made of -/

/-- The characters of written texts outside of strings: the marks of JSON, and what the words for
doubles consist of besides. -/
def isWrittenMark (c : Char) : Bool :=
  isMark c || ['N', 'I', 'i', 'y'].contains c

theorem isWrittenMark_of_isMark (c : Char) (mark : isMark c = true) : isWrittenMark c = true := by
  rw [isWrittenMark, mark, Bool.true_or]

theorem lexes_writeString (style : Style) (text : String) (rest : List Char) :
    Lexes isWrittenMark (writeString style text ++ rest) rest := by
  obtain ⟨text, codes, begins, spelled, -⟩ := codes_writeString style text rest
  rw [begins]
  exact .string spelled (.none rest)

theorem Value.IsFinite.lexes_write (style : Style) {value : Value} (finite : value.IsFinite)
    (rest : List Char) : Lexes isWrittenMark (Writer.write style value ++ rest) rest :=
  (finite.denotes style rest).lexes.mono isWrittenMark_of_isMark

theorem lexes_chars (x : Binary64) (rest : List Char) :
    Lexes isWrittenMark (x.chars Spelling.json ++ rest) rest := by
  cases x with
  | nan =>
      have letters : ∀ c ∈ Spelling.json.nan.toList, isWrittenMark c = true :=
        List.all_eq_true.mp rfl
      exact (Lexes.none rest).append letters
  | infinite negative =>
      have letters : ∀ c ∈ (Binary64.infinite negative).chars Spelling.json,
          isWrittenMark c = true := by
        cases negative <;> exact List.all_eq_true.mp rfl
      exact (Lexes.none rest).append letters
  | finite negative rank =>
      have written := (Value.IsFinite.float negative rank).lexes_write .plain rest
      rwa [Writer.write] at written

section Lists

variable {style : Style} {items : List Value} {members : Members}

theorem lexes_writeItems
    (each : ∀ item ∈ items, ∀ rest, Lexes isWrittenMark (Writer.write style item ++ rest) rest)
    (rest : List Char) : Lexes isWrittenMark (writeItems style items ++ rest) rest := by
  induction items with
  | nil => exact .mark rfl (.none rest)
  | cons item later ih =>
      obtain ⟨first, others⟩ := List.forall_mem_cons.mp each
      cases later with
      | nil =>
          rw [writeItems, List.append_assoc]
          exact (first _).trans (.mark rfl (.none rest))
      | cons next later =>
          rw [writeItems_cons, List.append_assoc]
          exact (first _).trans (.mark rfl (ih others))

theorem lexes_writeMembers
    (each : ∀ member ∈ members, ∀ rest,
      Lexes isWrittenMark (Writer.write style member.2 ++ rest) rest)
    (rest : List Char) : Lexes isWrittenMark (writeMembers style members ++ rest) rest := by
  induction members with
  | nil => exact .mark rfl (.none rest)
  | cons member later ih =>
      obtain ⟨key, value⟩ := member
      obtain ⟨first, others⟩ := List.forall_mem_cons.mp each
      have key := lexes_writeString style key
      cases later with
      | nil =>
          simp only [writeMembers, List.append_assoc, List.cons_append]
          exact (key _).trans (.mark rfl ((first _).trans (.mark rfl (.none rest))))
      | cons next later =>
          simp only [writeMembers_cons, List.append_assoc, List.cons_append]
          exact (key _).trans (.mark rfl ((first _).trans (.mark rfl (ih others))))

end Lists

theorem lexes_write (style : Style) (value : Value) (rest : List Char) :
    Lexes isWrittenMark (Writer.write style value ++ rest) rest := by
  induction value generalizing rest with
  | null => exact Value.IsFinite.null.lexes_write style rest
  | bool truth => exact (Value.IsFinite.bool truth).lexes_write style rest
  | int n => exact (Value.IsFinite.int n).lexes_write style rest
  | float x =>
      rw [Writer.write]
      exact lexes_chars x rest
  | str text =>
      rw [Writer.write]
      exact lexes_writeString style text rest
  | arr items ih =>
      rw [Writer.write]
      exact .mark rfl (lexes_writeItems ih rest)
  | obj members ih =>
      rw [Writer.write]
      exact .mark rfl (lexes_writeMembers ih rest)

/-! ## Words that JSON does not have -/

/-- Outside of strings a text has a character that no JSON text has there. -/
def HasForeign (text : List Char) : Prop :=
  ∃ c ∈ outside text, isMark c = false

theorem not_hasForeign_of_document {text : List Char} {value : Value}
    (document : Document text value) : ¬ HasForeign text := by
  rintro ⟨c, member, foreign⟩
  obtain ⟨front, same, marks⟩ := document.lexes.outside_eq rfl
  rw [same, outside, List.append_nil] at member
  rw [marks c member] at foreign
  contradiction

/-- What is foreign to the rest of a text is foreign to the text. -/
theorem HasForeign.of_lexes {text rest : List Char} (lexes : Lexes isWrittenMark text rest)
    (shown : HasForeign rest) : HasForeign text := by
  obtain ⟨c, member, foreign⟩ := shown
  obtain ⟨front, same, -⟩ := lexes.outside_eq rfl
  refine ⟨c, ?_, foreign⟩
  rw [same]
  exact List.mem_append_right front member

theorem hasForeign_nan (rest : List Char) :
    HasForeign (Binary64.nan.chars Spelling.json ++ rest) :=
  ⟨'N', List.mem_cons_self, rfl⟩

theorem hasForeign_infinite (negative : Bool) (rest : List Char) :
    HasForeign ((Binary64.infinite negative).chars Spelling.json ++ rest) := by
  have word : HasForeign (Spelling.json.infinity.toList ++ rest) :=
    ⟨'I', List.mem_cons_self, rfl⟩
  cases negative with
  | true => exact word.of_lexes (.mark rfl (.none _))
  | false => exact word

section Lists

variable {style : Style} {items : List Value} {members : Members}

theorem hasForeign_writeItems {item : Value} (inside : item ∈ items)
    (foreign : ∀ rest, HasForeign (Writer.write style item ++ rest)) (rest : List Char) :
    HasForeign (writeItems style items ++ rest) := by
  induction items with
  | nil => contradiction
  | cons first later ih =>
      rcases List.mem_cons.mp inside with rfl | inLater
      · cases later with
        | nil =>
            rw [writeItems, List.append_assoc]
            exact foreign _
        | cons next later =>
            rw [writeItems_cons, List.append_assoc]
            exact foreign _
      · cases later with
        | nil => contradiction
        | cons next later =>
            rw [writeItems_cons, List.append_assoc]
            exact ((ih inLater).of_lexes (.mark rfl (.none _))).of_lexes (lexes_write style first _)

theorem hasForeign_writeMembers {member : String × Value} (inside : member ∈ members)
    (foreign : ∀ rest, HasForeign (Writer.write style member.2 ++ rest)) (rest : List Char) :
    HasForeign (writeMembers style members ++ rest) := by
  induction members with
  | nil => contradiction
  | cons first later ih =>
      obtain ⟨key, value⟩ := first
      -- Every key and its colon are passed over, to the value or to what follows it.
      have behindKey {text : List Char} (shown : HasForeign text) :
          HasForeign (writeString style key ++ ':' :: text) :=
        (shown.of_lexes (.mark rfl (.none _))).of_lexes (lexes_writeString style key _)
      rcases List.mem_cons.mp inside with rfl | inLater
      · cases later with
        | nil =>
            simp only [writeMembers, List.append_assoc, List.cons_append]
            exact behindKey (foreign _)
        | cons next later =>
            simp only [writeMembers_cons, List.append_assoc, List.cons_append]
            exact behindKey (foreign _)
      · cases later with
        | nil => contradiction
        | cons next later =>
            have shown := (ih inLater).of_lexes (.mark (c := ',') rfl (.none _))
            simp only [writeMembers_cons, List.append_assoc, List.cons_append]
            exact behindKey (shown.of_lexes (lexes_write style value _))

end Lists

/-- The text of a value with a double that is not finite has a foreign character. -/
theorem hasForeign_write (style : Style) {value : Value} (infinite : ¬ value.IsFinite)
    (rest : List Char) : HasForeign (Writer.write style value ++ rest) := by
  induction value generalizing rest with
  | null => exact absurd .null infinite
  | bool truth => exact absurd (.bool truth) infinite
  | int n => exact absurd (.int n) infinite
  | float x =>
      rw [Writer.write]
      cases x with
      | nan => exact hasForeign_nan rest
      | infinite negative => exact hasForeign_infinite negative rest
      | finite negative rank => exact absurd (.float negative rank) infinite
  | str text => exact absurd (.str text) infinite
  | arr items ih =>
      obtain ⟨item, inside, infinite⟩ := not_forall₂.mp fun each => infinite (.arr each)
      have shown := hasForeign_writeItems inside (ih item inside infinite) rest
      rw [Writer.write]
      exact shown.of_lexes (.mark rfl (.none _))
  | obj members ih =>
      obtain ⟨member, inside, infinite⟩ := not_forall₂.mp fun each => infinite (.obj each)
      have shown := hasForeign_writeMembers inside (ih member inside infinite) rest
      rw [Writer.write]
      exact shown.of_lexes (.mark rfl (.none _))

/-! ## Texts of values as JSON -/

/-- The text of a value is a document exactly when its doubles are finite. -/
theorem document_write_iff (style : Style) (value : Value) :
    (∃ written, Document (value.write style).toList written) ↔ value.IsFinite := by
  constructor
  · rintro ⟨written, document⟩
    refine Classical.byContradiction fun infinite => ?_
    have foreign := hasForeign_write style infinite []
    rw [Value.write, String.toList_ofList] at document
    rw [List.append_nil] at foreign
    exact not_hasForeign_of_document document foreign
  · intro finite
    exact ⟨value, finite.document style⟩

theorem lexes_write_nil (style : Style) (value : Value) :
    Lexes isWrittenMark (value.write style).toList [] := by
  rw [Value.write, String.toList_ofList, ← List.append_nil (Writer.write style value)]
  exact lexes_write style value []

/-- So it is read again, unless an integer is too long. -/
theorem readBytes_write_eq_ok_iff (style : Style) {value again : Value}
    (short : value.hasLongInt = false) :
    readBytes false (Utf8.encode (value.write style)) = .ok again ↔
      value.IsFinite ∧ again = value.merged := by
  have lexes := lexes_write_nil style value
  have unmarked := lexes.head?_ne (c := '\uFEFF') rfl (by decide)
  have noNull : '\x00' ∉ (value.write style).toList := by
    intro member
    have nothing := lexes.null_mem rfl member
    contradiction
  have reads (finite : value.IsFinite) :
      readBytes false (Utf8.encode (value.write style)) = .ok value.merged :=
    (readBytes_eq_ok_iff unmarked noNull).mpr ⟨value, finite.document style, short, rfl⟩
  constructor
  · intro read
    obtain ⟨written, document, -, -⟩ := (readBytes_eq_ok_iff unmarked noNull).mp read
    have finite := (document_write_iff style value).mp ⟨written, document⟩
    exact ⟨finite, Except.ok.inj (read.symm.trans (reads finite))⟩
  · rintro ⟨finite, rfl⟩
    exact reads finite

end HttpGauge.Json
