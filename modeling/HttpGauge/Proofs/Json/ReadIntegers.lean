import HttpGauge.Proofs.Json.Recognition

/-!
# Integers that are read

The lenient reader admits words for doubles that are not finite, and is as strict as the other one
about integers.  Main statement: whatever it reads holds no integer that is too long.
-/

namespace HttpGauge.Json

open HttpGauge.Json.Reader HttpGauge.Json.Grammar HttpGauge.Number HttpGauge.Text

/-! ## Members -/

/-- Members that are short remain so when a short one is set. -/
theorem Members.hasLongInt_put {key : String} {value : Value} {members : Members}
    (short : value.hasLongInt = false) (others : Value.membersHaveLongInt members = false) :
    Value.membersHaveLongInt (members.put key value) = false := by
  induction members with
  | nil => simp [put, Value.membersHaveLongInt, short]
  | cons member later ih =>
      rw [Value.membersHaveLongInt, Bool.or_eq_false_iff] at others
      obtain ⟨first, rest⟩ := others
      unfold put
      split
      · rw [Value.membersHaveLongInt, short, rest]
        rfl
      · rw [Value.membersHaveLongInt, first, ih rest]
        rfl

/-- So do the members that remain of short pairs. -/
theorem Members.hasLongInt_ofPairs {pairs : Members}
    (short : Value.membersHaveLongInt pairs = false) :
    Value.membersHaveLongInt (ofPairs pairs) = false := by
  have kept (pairs held : Members) (short : Value.membersHaveLongInt pairs = false)
      (shortToo : Value.membersHaveLongInt held = false) :
      Value.membersHaveLongInt
        (pairs.foldl (fun members pair => Members.put pair.1 pair.2 members) held) = false := by
    induction pairs generalizing held with
    | nil => exact shortToo
    | cons pair later ih =>
        rw [Value.membersHaveLongInt, Bool.or_eq_false_iff] at short
        exact ih _ short.2 (hasLongInt_put short.1 shortToo)
  exact kept pairs [] short rfl

/-! ## Turns -/

/-- What so many turns find holds no integer that is too long. -/
structure FindsShort (turns : Nat) : Prop where
  value : ∀ {text value rest}, readValue true turns text = .ok (value, rest) →
    value.hasLongInt = false
  items : ∀ {text items rest}, readItems true turns text = .ok (items, rest) →
    Value.itemsHaveLongInt items = false
  members : ∀ {text members rest}, readMembers true turns text = .ok (members, rest) →
    Value.membersHaveLongInt members = false

section Turns

variable {turns : Nat} {text rest : List Char}

theorem hasLongInt_of_readScalar {value : Value}
    (read : readScalar true text = .ok (value, rest)) : value.hasLongInt = false := by
  unfold readScalar at read
  split at read
  · rename_i found named
    cases read
    obtain ⟨word, member, starts⟩ := List.exists_of_findSome?_eq_some named
    obtain ⟨behind, after, same⟩ := Option.map_eq_some_iff.mp starts
    cases same
    simp only [Reader.words, List.mem_cons, List.not_mem_nil, or_false] at member
    rcases member with rfl | rfl | rfl <;> rfl
  · split at read
    · rw [if_pos rfl] at read
      cases read
      rfl
    · exact (number_of_readNumber read).2

theorem FindsShort.readValue (fewer : FindsShort turns) {value : Value}
    (read : readValue true (turns + 1) text = .ok (value, rest)) : value.hasLongInt = false := by
  unfold Reader.readValue at read
  split at read
  · obtain ⟨content, behind, readString, same⟩ := andThen_eq_ok_iff.mp read
    cases same
    rfl
  · split at read
    · cases read
      rfl
    · obtain ⟨items, behind, readItems, same⟩ := andThen_eq_ok_iff.mp read
      cases same
      exact fewer.items readItems
  · split at read
    · cases read
      rfl
    · obtain ⟨members, behind, readMembers, same⟩ := andThen_eq_ok_iff.mp read
      cases same
      exact Members.hasLongInt_ofPairs (fewer.members readMembers)
  · exact hasLongInt_of_readScalar read

theorem FindsShort.readItems (fewer : FindsShort turns) {items : List Value}
    (read : readItems true (turns + 1) text = .ok (items, rest)) :
    Value.itemsHaveLongInt items = false := by
  unfold Reader.readItems at read
  obtain ⟨item, behind, readItem, more⟩ := andThen_eq_ok_iff.mp read
  have short := fewer.value readItem
  split at more
  · cases more
    rw [Value.itemsHaveLongInt, short]
    rfl
  · obtain ⟨later, behindLater, readLater, same⟩ := andThen_eq_ok_iff.mp more
    cases same
    rw [Value.itemsHaveLongInt, short, fewer.items readLater]
    rfl
  · contradiction

theorem FindsShort.readMembers (fewer : FindsShort turns) {members : Members}
    (read : readMembers true (turns + 1) text = .ok (members, rest)) :
    Value.membersHaveLongInt members = false := by
  unfold Reader.readMembers at read
  split at read
  · obtain ⟨key, behindKey, readKey, afterKey⟩ := andThen_eq_ok_iff.mp read
    split at afterKey
    · obtain ⟨value, behind, readValue, more⟩ := andThen_eq_ok_iff.mp afterKey
      have short := fewer.value readValue
      split at more
      · cases more
        rw [Value.membersHaveLongInt, short]
        rfl
      · obtain ⟨later, behindLater, readLater, same⟩ := andThen_eq_ok_iff.mp more
        cases same
        rw [Value.membersHaveLongInt, short, fewer.members readLater]
        rfl
      · contradiction
    · contradiction
  · contradiction

end Turns

/-- However many turns there are. -/
theorem findsShort (turns : Nat) : FindsShort turns := by
  induction turns with
  | zero => constructor <;> intros <;> contradiction
  | succ turns fewer => exact ⟨fewer.readValue, fewer.readItems, fewer.readMembers⟩

/-! ## Texts -/

/-- A text that is read leniently holds no integer that is too long. -/
theorem hasLongInt_of_readText {text : String} {document : Value}
    (decoded : readText true text = .ok document) : document.hasLongInt = false := by
  unfold readText at decoded
  split at decoded
  · contradiction
  · unfold readChars readDocument at decoded
    split at decoded
    · contradiction
    · rename_i found behind readValue
      have short := (findsShort _).value readValue
      split at decoded
      · cases decoded
        exact short
      · contradiction

end HttpGauge.Json
