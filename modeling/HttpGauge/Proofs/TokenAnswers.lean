import HttpGauge.Proofs.Json.Writing
import HttpGauge.Proofs.Number.Numeral
import HttpGauge.Proofs.SendFailures
import HttpGauge.Proofs.Text.FormEncoding

/-!
# Forms and JSON of token endpoints

A token endpoint states a grant in a form, where everything is text, or in JSON, where the lifetime
is a number.  Main statement: whatever the texts are and in whatever order the fields stand, both
ways lead to the same exchange and to the same token.
-/

namespace HttpGauge.Json

/-! ## Members in any order -/

/-- Where no key occurs twice, the value of a key is that of its member. -/
theorem Members.get?_eq_some_iff {members : Members} (distinct : (members.map Prod.fst).Nodup)
    {key : String} {value : Value} : members.get? key = some value ↔ (key, value) ∈ members := by
  induction members with
  | nil => simp [get?]
  | cons member later ih =>
      rw [List.map_cons, List.nodup_cons] at distinct
      obtain ⟨absent, rest⟩ := distinct
      by_cases same : member.1 = key
      · have noLater : (key, value) ∉ later := by
          intro inLater
          exact absent (same ▸ List.mem_map_of_mem inLater)
        subst same
        simp [get?, noLater, Prod.ext_iff, eq_comm]
      · have differ : (key, value) ≠ member := by
          rintro rfl
          exact same rfl
        have more := ih rest
        rw [List.mem_cons, ← more]
        simp [get?, same, differ]

/-- The order of members does not matter to their values. -/
theorem Members.get?_perm {members other : Members} (distinct : (members.map Prod.fst).Nodup)
    (same : members.Perm other) (key : String) : members.get? key = other.get? key := by
  have distinctToo : (other.map Prod.fst).Nodup := (same.map Prod.fst).nodup_iff.mp distinct
  apply Option.ext
  intro value
  rw [get?_eq_some_iff distinct, get?_eq_some_iff distinctToo, same.mem_iff]

end HttpGauge.Json

namespace HttpGauge

open HttpGauge.Json HttpGauge.Manifest HttpGauge.Number HttpGauge.Text

/-! ## Fields of grants -/

namespace Grant

/-- The members of a grant, with a spelling of its lifetime. -/
def members (spell : Int → Value) (grant : Grant) : Members :=
  [("access_token", .str grant.access), ("token_type", .str grant.type)] ++
    (grant.lifetime.map fun seconds => ("expires_in", spell seconds)).toList

/-- The fields of a grant, all of them texts. -/
def fields (grant : Grant) : List (String × String) :=
  [("access_token", grant.access), ("token_type", grant.type)] ++
    (grant.lifetime.map fun seconds => ("expires_in", intText seconds)).toList

/-- A grant that both ways can state: no text is empty, and the lifetime is of fewer than three
hundred digits. -/
structure IsStatable (grant : Grant) : Prop where
  access : grant.access ≠ ""
  type : grant.type ≠ ""
  lifetime : ∀ seconds, grant.lifetime = some seconds → (natDigits seconds.natAbs).length < 300

theorem nodup_members (spell : Int → Value) (grant : Grant) :
    ((grant.members spell).map Prod.fst).Nodup := by
  unfold members
  cases grant.lifetime <;> simp

theorem nonempty_of_mem_fields {grant : Grant} (statable : grant.IsStatable) :
    ∀ field ∈ grant.fields, field.2 ≠ "" := by
  have written (n : Int) : intText n ≠ "" := by
    intro empty
    have read := splitSign_intText n
    rw [empty] at read
    exact Json.Grammar.natDigits_ne_nil _ (congrArg Prod.snd read).symm
  unfold fields
  cases grant.lifetime <;> simp [statable.access, statable.type, written]

theorem nodup_fields (grant : Grant) : (grant.fields.map Prod.fst).Nodup := by
  unfold fields
  cases grant.lifetime <;> simp

/-- With its lifetime as a number, every member has a JSON text. -/
theorem IsStatable.isWritable {grant : Grant} (statable : grant.IsStatable) :
    ∀ member ∈ grant.members .int, member.2.IsWritable := by
  have short (seconds : Int) (stated : grant.lifetime = some seconds) :
      exceedsLimit seconds = false := by
    have few := statable.lifetime seconds stated
    have count := digitCount_le_length_natDigits seconds.natAbs
    have limit : 300 ≤ digitLimit := by decide
    rw [exceedsLimit, decide_eq_false_iff_not]
    omega
  intro member inside
  rw [members, List.mem_append] at inside
  rcases inside with text | lifetime
  · simp only [List.mem_cons, List.not_mem_nil, or_false] at text
    rcases text with rfl | rfl <;> exact .str _
  · simp only [Option.mem_toList, Option.map_eq_some_iff] at lifetime
    obtain ⟨seconds, stated, rfl⟩ := lifetime
    exact .int (short seconds stated)

/-- As members of texts, the fields spell the lifetime by its digits. -/
theorem map_fields (grant : Grant) :
    grant.fields.map (fun field => (field.1, Value.str field.2)) =
      grant.members fun seconds => .str (intText seconds) := by
  unfold fields members
  cases grant.lifetime <;> rfl

/-- Reading a grant takes nothing but the values of keys from its document. -/
theorem read_of_get?_eq {members other : Members}
    (same : ∀ key, members.get? key = other.get? key) :
    read (.obj members) = read (.obj other) := by
  simp only [read, readObject, Field.required, Field.orElse, Field.find?, same]

/-- A part that is read from a value may be null, but this one is not. -/
theorem readOptional_of_ok {value : Value} {n : Int} (fits : readInt value = .ok n) :
    readOptional readInt value = .ok (some n) := by
  cases value with
  | null => cases fits
  | _ => exact congrArg (Except.map some) fits

/-- A grant is read from its members, if its lifetime is read from the spelling. -/
theorem read_members {spell : Int → Value} {grant : Grant} (nonempty : grant.access ≠ "")
    (spelled : ∀ seconds, grant.lifetime = some seconds → readInt (spell seconds) = .ok seconds) :
    read (.obj (grant.members spell)) = .ok grant := by
  have access : readAccess (.str grant.access) = .ok grant.access := by
    simp [readAccess, readString, nonempty]
  have accessRead : Field.required ⟨"access_token", "access_token"⟩ readAccess
      (grant.members spell) = .ok grant.access :=
    Field.required_of_get? rfl access
  have typeRead : Field.orElse ⟨"token_type", "token_type"⟩ Token.bearer readString
      (grant.members spell) = .ok grant.type :=
    Field.orElse_of_get? _ rfl rfl
  have lifetimeRead : Field.orElse ⟨"expires_in", "expires_in"⟩ none (readOptional readInt)
      (grant.members spell) = .ok grant.lifetime := by
    cases stated : grant.lifetime with
    | none =>
        have missing : (grant.members spell).get? "expires_in" = none := by
          rw [members, stated]
          rfl
        exact Field.orElse_of_absent _ _ missing missing
    | some seconds =>
        have found : (grant.members spell).get? "expires_in" = some (spell seconds) := by
          rw [members, stated]
          rfl
        exact Field.orElse_of_get? _ found (readOptional_of_ok (spelled seconds stated))
  rw [read, readObject, accessRead, typeRead, lifetimeRead]
  rfl

/-- The same in any order of the members. -/
theorem read_of_perm {spell : Int → Value} {grant : Grant} {given : Members}
    (nonempty : grant.access ≠ "")
    (spelled : ∀ seconds, grant.lifetime = some seconds → readInt (spell seconds) = .ok seconds)
    (order : given.Perm (grant.members spell)) : read (.obj given) = .ok grant := by
  rw [← read_members nonempty spelled]
  apply read_of_get?_eq
  intro key
  exact (Members.get?_perm (nodup_members spell grant) order.symm key).symm

/-! ## Tokens of grants -/

/-- A number of fewer than three hundred digits is no larger than some doubles are. -/
theorem IsStatable.lt_overflowBound {grant : Grant} (statable : grant.IsStatable) {seconds : Int}
    (stated : grant.lifetime = some seconds) : seconds.natAbs < Binary64.overflowBound := by
  have few := statable.lifetime seconds stated
  have count := digitCount_le_length_natDigits seconds.natAbs
  calc seconds.natAbs
      < 10 ^ Binary64.digitCount seconds.natAbs := Binary64.lt_pow_digitCount _
    _ ≤ 10 ^ 299 := Nat.pow_le_pow_right (by decide) (by omega)
    _ ≤ Binary64.overflowBound := by decide +kernel

/-- A lifetime of fewer than three hundred digits is that of a token: unless it is zero, the token
ends as many seconds after it was asked for. -/
theorem token_of_statable {grant : Grant} (statable : grant.IsStatable) (requestedAt : Binary64) :
    grant.token requestedAt = .ok ⟨grant.access, grant.type,
      (grant.lifetime.filter (· ≠ 0)).map fun seconds =>
        requestedAt.add (Binary64.ofInt seconds)⟩ := by
  rw [token]
  cases stated : grant.lifetime with
  | none => rfl
  | some seconds =>
      dsimp only
      by_cases zero : seconds = 0
      · rw [if_pos zero, zero]
        rfl
      · have kept : (some seconds).filter (· ≠ 0) = some seconds :=
          Option.filter_some_pos (decide_eq_true zero)
        rw [if_neg zero, kept]
        cases converted : Binary64.ofInt? seconds with
        | none =>
            have large := Binary64.ofInt?_eq_none_iff.mp converted
            exact absurd large (Nat.not_le.mpr (statable.lt_overflowBound stated))
        | some double =>
            rw [Option.map_some, Binary64.ofInt_of_ofInt? converted]

end Grant

/-! ## Answers -/

namespace TokenAnswer

/-- A success whose body is a form of the fields of a grant, in some order. -/
structure StatesInForm (answer : TokenAnswer) (grant : Grant) : Prop where
  success : 200 ≤ answer.status ∧ answer.status < 300
  type : answer.contentType ∈ formTypes
  body : ∃ fields : List (String × String), fields.Perm grant.fields ∧
    answer.body = .ok (Utf8.encode (FormEncoding.writeFields fields))

/-- A success whose body is a JSON text for an object of the members of a grant, in some order. -/
structure StatesInJson (answer : TokenAnswer) (grant : Grant) : Prop where
  success : 200 ≤ answer.status ∧ answer.status < 300
  type : answer.contentType ∉ formTypes
  body : ∃ (members : Members) (text : List Char), members.Perm (grant.members .int) ∧
    Grammar.Document text (.obj members) ∧ answer.body = .ok (Utf8.encodeChars text)

variable {answer : TokenAnswer} {grant : Grant}

/-- A grant is granted by a success whose document is its members with a spelling that is read. -/
theorem grant_of_document {body : List UInt8} {spell : Int → Value} {given : Members}
    (success : 200 ≤ answer.status ∧ answer.status < 300) (arrived : answer.body = .ok body)
    (read : document answer.contentType body = .ok (.obj given)) (nonempty : grant.access ≠ "")
    (spelled : ∀ seconds, grant.lifetime = some seconds → readInt (spell seconds) = .ok seconds)
    (order : given.Perm (grant.members spell)) : answer.grant = .ok grant := by
  rw [grant_of_arrived arrived, if_pos (isSuccess_iff.mpr success), grantOf, read]
  dsimp only
  rw [Grant.read_of_perm nonempty spelled order]
  rfl

/-- A form holds the fields that it is written from. -/
theorem document_writeFields {type : String} {fields : List (String × String)}
    (isForm : type ∈ formTypes) (distinct : (fields.map Prod.fst).Nodup)
    (nonempty : ∀ field ∈ fields, field.2 ≠ "") :
    document type (Utf8.encode (FormEncoding.writeFields fields)) =
      .ok (.obj (fields.map fun field => (field.1, .str field.2))) := by
  have distinctToo :
      ((fields.map fun field => (field.1, Value.str field.2)).map Prod.fst).Nodup := by
    rwa [List.map_map]
  rw [document, if_pos (List.contains_iff_mem.mpr isForm), Utf8.decode_encode]
  rw [Except.map, mapError_ok, formObject, FormEncoding.readFields_writeFields nonempty,
    Members.ofPairs_of_nodup distinctToo]

/-- A JSON text for members that have one holds the members. -/
theorem document_of_json {type : String} {members : Members} {text : List Char}
    (noForm : type ∉ formTypes) (writable : (Value.obj members).IsWritable)
    (written : Grammar.Document text (.obj members)) :
    document type (Utf8.encodeChars text) = .ok (.obj members) := by
  have read := written.readBytes_eq true
  rw [writable.hasLongInt_eq, if_neg Bool.false_ne_true, writable.merged_eq] at read
  rw [document, if_neg (by simpa using noForm), read]

/-- What a form states is granted. -/
theorem StatesInForm.grant_eq (stated : answer.StatesInForm grant)
    (statable : grant.IsStatable) : answer.grant = .ok grant := by
  obtain ⟨success, isForm, fields, order, arrived⟩ := stated
  have asMembers : (fields.map fun field => (field.1, Value.str field.2)).Perm
      (grant.members fun seconds => .str (intText seconds)) := by
    rw [← Grant.map_fields]
    exact order.map _
  have distinct : (fields.map Prod.fst).Nodup :=
    (order.map Prod.fst).nodup_iff.mpr grant.nodup_fields
  have nonempty : ∀ field ∈ fields, field.2 ≠ "" :=
    fun field member => Grant.nonempty_of_mem_fields statable field (order.mem_iff.mp member)
  have spelled (seconds : Int) (given : grant.lifetime = some seconds) :
      readInt (.str (intText seconds)) = .ok seconds := by
    have few := statable.lifetime seconds given
    rw [readInt, manifestInt?_intText (Nat.le_trans (Nat.le_of_lt few) (by decide))]
  exact grant_of_document success arrived (document_writeFields isForm distinct nonempty)
    statable.access spelled asMembers

/-- What a JSON text states is granted. -/
theorem StatesInJson.grant_eq (stated : answer.StatesInJson grant)
    (statable : grant.IsStatable) : answer.grant = .ok grant := by
  obtain ⟨success, noForm, given, text, order, written, arrived⟩ := stated
  have distinct : (given.map Prod.fst).Nodup :=
    (order.map Prod.fst).nodup_iff.mpr (grant.nodup_members .int)
  have writable : (Value.obj given).IsWritable :=
    .obj distinct fun member inside => statable.isWritable member (order.mem_iff.mp inside)
  exact grant_of_document success arrived (document_of_json noForm writable written)
    statable.access (fun _ _ => rfl) order

end TokenAnswer

/-! ## Exchanges -/

namespace TokenSource

/-- Whatever a token endpoint grants, in a form or in JSON and in any order of the fields: both
answers lead to the same exchange, which ends with the token of the grant. -/
theorem exchange_in_form_eq_in_json {grant : Grant} {form json : TokenAnswer}
    (statable : grant.IsStatable) (inForm : form.StatesInForm grant)
    (inJson : json.StatesInJson grant) (source : TokenSource) (connection : Connection)
    (now : Binary64) :
    (source.exchange connection now (.ok form)).outcome =
        .ok ⟨grant.access, grant.type, (grant.lifetime.filter (· ≠ 0)).map fun seconds =>
          now.add (Binary64.ofInt seconds)⟩ ∧
      source.exchange connection now (.ok json) = source.exchange connection now (.ok form) := by
  have granted := inForm.grant_eq statable
  have grantedToo := inJson.grant_eq statable
  have received : source.receive now (.ok json) = source.receive now (.ok form) := by
    simp only [receive, granted, grantedToo]
  have ended : (source.exchange connection now (.ok form)).outcome =
      (source.receive now (.ok form)).outcome := rfl
  constructor
  · rw [ended, outcome_receive_ok, granted]
    dsimp only
    rw [Grant.token_of_statable statable now]
    rfl
  · rw [exchange, received]
    rfl

/-- Texts with marks of both notations and a negative lifetime, in opposite orders. -/
theorem exchange_in_form_eq_in_json_reverse :
    let grant : Grant := ⟨"a&b=c+d %\"é☃", "my: type", some (-30)⟩
    let form : TokenAnswer :=
      ⟨200, "text/plain", .ok (Utf8.encode (FormEncoding.writeFields grant.fields.reverse)), ""⟩
    let json : TokenAnswer :=
      ⟨299, "application/json",
        .ok (Utf8.encode ((Value.obj (grant.members .int)).write .plain)), ""⟩
    let source : TokenSource := ⟨"http://h/token", "id", "secret", []⟩
    let now := Binary64.ofInt 100
    (grant.IsStatable ∧ form.StatesInForm grant ∧ json.StatesInJson grant) ∧
      (source.exchange ⟨10, .verify⟩ now (.ok form)).outcome =
        .ok ⟨"a&b=c+d %\"é☃", "my: type", some (now.add (Binary64.ofInt (-30)))⟩ ∧
      source.exchange ⟨10, .verify⟩ now (.ok json) =
        source.exchange ⟨10, .verify⟩ now (.ok form) := by
  intro grant form json source now
  have statable : grant.IsStatable := by
    refine ⟨by decide, by decide, fun seconds stated => ?_⟩
    cases stated
    decide
  have writable : (Value.obj (grant.members .int)).IsWritable :=
    .obj (grant.nodup_members .int) statable.isWritable
  have inForm : form.StatesInForm grant :=
    ⟨by decide, by decide, grant.fields.reverse, List.reverse_perm _, rfl⟩
  have inJson : json.StatesInJson grant :=
    ⟨by decide, by decide, grant.members .int, _, .refl _, writable.isFinite.document .plain, rfl⟩
  exact ⟨⟨statable, inForm, inJson⟩,
    exchange_in_form_eq_in_json statable inForm inJson source ⟨10, .verify⟩ now⟩

end TokenSource

end HttpGauge
