import HttpGauge.Proofs.Manifest.Variations
import Mathlib.Control.Monad.Basic

/-!
# Keys and names of fields

A field that has a name beside its key may be written either way.  Main statement: documents that
are the same but for the spellings of fields lead to the same metric, or to the same flaws in the
same order at the same places but for those spellings; and a name counts for nothing where the key
of its field occurs as well.
-/

namespace HttpGauge.Manifest

open HttpGauge.Json

/-! ## Members that correspond -/

/-- The first items that are wanted correspond, if related items are wanted together. -/
theorem rel_find? {α β : Type} {related : α → β → Prop} {items : List α} {others : List β}
    (wanted : α → Bool) (wantedToo : β → Bool) (each : List.Forall₂ related items others)
    (agree : ∀ item other, related item other → wanted item = wantedToo other) :
    Option.Rel (fun item other => wanted item ∧ related item other) (items.find? wanted)
      (others.find? wantedToo) := by
  induction each with
  | nil => exact .none
  | @cons item other items others pair _ ih =>
      rw [List.find?_cons, List.find?_cons, ← agree item other pair]
      cases found : wanted item with
      | true => exact .some ⟨found, pair⟩
      | false => exact ih

section Members

variable {part : String → Value → Value → Prop} {field : Field} {members others : Members}

/-- Under equal keys that hold values that correspond, so does what is found. -/
theorem rel_get?
    (each : List.Forall₂
      (fun member other => member.1 = other.1 ∧ part member.1 member.2 other.2) members others)
    (key : String) : Option.Rel (part key) (members.get? key) (others.get? key) := by
  have related := rel_find? (·.1 == key) (·.1 == key) each fun member other pair => by rw [pair.1]
  unfold Members.get?
  generalize members.find? _ = first, others.find? _ = second at related ⊢
  cases related with
  | none => exact .none
  | some found => exact .some (eq_of_beq found.1 ▸ found.2.2)

theorem FoundAlike.of_get?
    (keyed : Option.Rel (part field.key) (members.get? field.key) (others.get? field.key))
    (named : members.get? field.key = none →
      Option.Rel (part field.name) (members.get? field.name) (others.get? field.name)) :
    FoundAlike Eq part field members others := by
  unfold FoundAlike Field.find?
  generalize members.get? field.key = first, others.get? field.key = second at keyed named ⊢
  cases keyed with
  | some alike => exact .some ⟨by simp [Field.spellings], rfl, alike⟩
  | none =>
      specialize named rfl
      generalize members.get? field.name = first, others.get? field.name = second at named ⊢
      cases named with
      | none => exact .none
      | some alike => exact .some ⟨by simp [Field.spellings], rfl, alike⟩

/-- Members that are left out do not change what another key holds. -/
theorem get?_filter (kept : String → Bool) {key : String} (keeps : kept key) (members : Members) :
    Members.get? key (members.filter fun member => kept member.1) = Members.get? key members := by
  induction members with
  | nil => rfl
  | cons member rest ih =>
      obtain ⟨spelling, value⟩ := member
      by_cases same : spelling = key
      · simp [same, keeps]
      · cases keeping : kept spelling with
        | true => simp [keeping, same, ih]
        | false => simp [keeping, same, ih]

/-- A field that occurs under one spelling is the first member that is spelled in one of its
ways. -/
theorem Field.find?_eq
    (once : field.name = field.key ∨ members.get? field.key = none ∨
      members.get? field.name = none) :
    field.find? members = members.find? fun member => decide (member.1 ∈ field.spellings) := by
  induction members with
  | nil => rfl
  | cons member rest ih =>
      obtain ⟨spelling, value⟩ := member
      by_cases asKey : spelling = field.key
      · simp [find?, spellings, asKey]
      · by_cases asName : spelling = field.name
        · have other : field.name ≠ field.key := fun equal => asKey (asName.trans equal)
          have unkeyed : Members.get? field.key rest = none := by simpa [asName, other] using once
          simp [find?, spellings, asName, other, unkeyed]
        · have passed : field.find? ((spelling, value) :: rest) = field.find? rest := by
            simp [find?, asKey, asName]
          rw [passed, ih (by simpa [asKey, asName] using once)]
          simp [spellings, asKey, asName]

end Members

/-! ## Respelling -/

/-- Spellings of one of these fields, or equal. -/
def SameField (fields : List Field) (first second : String) : Prop :=
  first = second ∨ ∃ field ∈ fields, first ∈ field.spellings ∧ second ∈ field.spellings

instance (fields : List Field) (first second : String) :
    Decidable (SameField fields first second) :=
  inferInstanceAs
    (Decidable (first = second ∨ ∃ field ∈ fields, first ∈ field.spellings ∧
      second ∈ field.spellings))

/-- No field occurs under both of its spellings. -/
def SpelledOnce (fields : List Field) (members : Members) : Prop :=
  ∀ field ∈ fields, members.get? field.key = none ∨ members.get? field.name = none

instance (fields : List Field) (members : Members) : Decidable (SpelledOnce fields members) :=
  inferInstanceAs
    (Decidable (∀ field ∈ fields, members.get? field.key = none ∨ members.get? field.name = none))

/-- The same document, or objects that are the same but for the spellings of fields, each of which
occurs under one of them. -/
inductive Respelled (fields : List Field) (part : String → Value → Value → Prop) :
    Value → Value → Prop where
  | same (value : Value) : Respelled fields part value value
  | obj {members others : Members} (once : SpelledOnce fields members)
      (onceToo : SpelledOnce fields others)
      (each : List.Forall₂
        (fun member other => SameField fields member.1 other.1 ∧ part member.1 member.2 other.2)
        members others) :
      Respelled fields part (.obj members) (.obj others)

theorem SameField.mem_spellings_iff {fields : List Field} {field : Field} {first second : String}
    (suits : field.Suits fields) (same : SameField fields first second) :
    first ∈ field.spellings ↔ second ∈ field.spellings := by
  obtain rfl | ⟨other, listed, member, memberToo⟩ := same
  · rfl
  · obtain rfl | apart := suits.apart other listed
    · exact iff_of_true member memberToo
    · exact iff_of_false (apart first member) (apart second memberToo)

theorem SameField.mono {fields more : List Field} (subset : fields ⊆ more) {first second : String}
    (same : SameField fields first second) : SameField more first second := by
  obtain rfl | ⟨field, listed, member, memberToo⟩ := same
  · exact Or.inl rfl
  · exact Or.inr ⟨field, subset listed, member, memberToo⟩

theorem respelled_keeps : Variation.Keeps (SameField namedFields) Respelled where
  reflexive _ := Or.inl rfl
  found := by
    intro fields part value other subset respelled
    cases respelled with
    | same => exact Or.inl rfl
    | @obj members others once onceToo each =>
        refine Or.inr ⟨members, others, rfl, rfl, fun field suits => ?_⟩
        have single (members : Members) (once : SpelledOnce fields members) :=
          Field.find?_eq (suits.listed.imp_right (once field))
        have agree (member other : String × Value)
            (pair : SameField fields member.1 other.1 ∧ part member.1 member.2 other.2) :
            decide (member.1 ∈ field.spellings) = decide (other.1 ∈ field.spellings) :=
          decide_eq_decide.mpr (pair.1.mem_spellings_iff suits)
        have related := rel_find? _ _ each agree
        rw [FoundAlike, single members once, single others onceToo]
        generalize members.find? _ = first, others.find? _ = second at related ⊢
        cases related with
        | none => exact .none
        | some found =>
            exact .some ⟨of_decide_eq_true found.1, found.2.1.mono subset, found.2.2⟩

/-! ## Both spellings -/

/-- The same document, or objects of which the second lacks some names of fields that occur in the
first under their keys as well. -/
inductive Unshadowed (fields : List Field) (part : String → Value → Value → Prop) :
    Value → Value → Prop where
  | same (value : Value) : Unshadowed fields part value value
  | obj {members others : Members} (dropped : List Field) (listed : dropped ⊆ fields)
      (present : ∀ field ∈ dropped, (members.get? field.key).isSome)
      (each : List.Forall₂
        (fun member other => member.1 = other.1 ∧ part member.1 member.2 other.2)
        (members.filter fun member => decide (member.1 ∉ dropped.map Field.name)) others) :
      Unshadowed fields part (.obj members) (.obj others)

theorem name_ne_key : ∀ field ∈ namedFields, field.name ≠ field.key := by
  decide

/-- A field of a level loses only its own name. -/
theorem Field.Suits.of_dropped {fields dropped : List Field} {field : Field} {spelling : String}
    (suits : field.Suits fields) (listed : dropped ⊆ fields) (member : spelling ∈ field.spellings)
    (named : spelling ∈ dropped.map Field.name) : field ∈ dropped ∧ spelling = field.name := by
  obtain ⟨other, chosen, rfl⟩ := List.mem_map.mp named
  obtain rfl | apart := suits.apart other (listed chosen)
  · exact ⟨chosen, rfl⟩
  · exact absurd member (apart other.name (by simp [Field.spellings]))

theorem unshadowed_keeps : Variation.Keeps Eq Unshadowed where
  reflexive _ := rfl
  found := by
    intro fields part value other subset unshadowed
    cases unshadowed with
    | same => exact Or.inl rfl
    | @obj members others dropped listed present each =>
        refine Or.inr ⟨members, others, rfl, rfl, fun field suits => ?_⟩
        have kept (spelling : String) (kept : spelling ∉ dropped.map Field.name) :
            Option.Rel (part spelling) (members.get? spelling) (others.get? spelling) := by
          have unchanged := get?_filter (fun key => decide (key ∉ dropped.map Field.name))
            (decide_eq_true kept) members
          exact unchanged ▸ rel_get? each spelling
        apply FoundAlike.of_get?
        · apply kept field.key
          intro named
          obtain ⟨chosen, equal⟩ := suits.of_dropped listed (by simp [Field.spellings]) named
          exact name_ne_key field (subset (listed chosen)) equal.symm
        · intro unkeyed
          apply kept field.name
          intro named
          obtain ⟨chosen, -⟩ := suits.of_dropped listed (by simp [Field.spellings]) named
          simpa [unkeyed] using present field chosen

/-! ## Reading either style -/

/-- Documents that are respelled at any of their levels are read as the same metric, or with the
same flaws at the same places but for the spellings of those fields; and names may go wherever
their keys occur. -/
theorem readMetric_spelling :
    (∀ value other : Value, Variation.ofMetric Respelled value other →
      (readMetric value).Alike (SameField namedFields) (readMetric other)) ∧
    ∀ value other : Value, Variation.ofMetric Unshadowed value other →
      readMetric value = readMetric other := by
  constructor
  · intro value other respelled
    exact readMetric_alike respelled_keeps respelled
  · intro value other unshadowed
    exact (readMetric_alike unshadowed_keeps unshadowed).eq

/-- A metric with flaws at every level, and an unknown member. -/
def mixedMetric : Value :=
  .obj [("failure_condition", .int 3), ("name", .str "latency"), ("weight", .null),
    ("provider", .obj [("web", .obj [("json_path", .null), ("timeoutSeconds", .str "5 s"),
      ("authentication", .obj [("oauth2", .obj [("client_id", .bool true)])])])])]

/-- The same metric with each of these fields in its other spelling. -/
def respelledMetric : Value :=
  .obj [("failureCondition", .int 3), ("name", .str "latency"), ("weight", .null),
    ("provider", .obj [("web", .obj [("jsonPath", .null), ("timeout_seconds", .str "5 s"),
      ("authentication", .obj [("oauth2", .obj [("clientId", .bool true)])])])])]

theorem respelled_mixedMetric : Variation.ofMetric Respelled mixedMetric respelledMetric := by
  apply Respelled.obj (by decide) (by decide)
  refine .cons ⟨by decide, by simp [within]⟩ (.cons ⟨by decide, by simp [within]⟩
    (.cons ⟨by decide, by simp [within]⟩ (.cons ⟨by decide, ?provider⟩ .nil)))
  apply Respelled.obj (by decide) (by decide)
  refine .cons ⟨by decide, ?web⟩ .nil
  apply Respelled.obj (by decide) (by decide)
  refine .cons ⟨by decide, by simp [within]⟩ (.cons ⟨by decide, by simp [within]⟩
    (.cons ⟨by decide, ?authentication⟩ .nil))
  apply Respelled.obj (by decide) (by decide)
  refine .cons ⟨by decide, ?oauth2⟩ .nil
  apply Respelled.obj (by decide) (by decide)
  exact .cons ⟨by decide, rfl⟩ .nil

/-- A metric with a field under its key and a flaw under its name. -/
def shadowingMetric : Value :=
  .obj [("name", .str "latency"), ("provider", .obj [("web", .obj [("json_path", .null),
    ("url", .str "u"), ("jsonPath", .str "p")])])]

/-- The same metric without the name. -/
def shadowlessMetric : Value :=
  .obj [("name", .str "latency"), ("provider", .obj [("web", .obj [
    ("url", .str "u"), ("jsonPath", .str "p")])])]

theorem unshadowed_shadowingMetric :
    Variation.ofMetric Unshadowed shadowingMetric shadowlessMetric := by
  apply Unshadowed.obj [] (by decide) (by decide)
  refine .cons ⟨rfl, by simp [within]⟩ (.cons ⟨rfl, ?provider⟩ .nil)
  apply Unshadowed.obj [] (by decide) (by decide)
  refine .cons ⟨rfl, ?web⟩ .nil
  apply Unshadowed.obj [⟨"jsonPath", "json_path"⟩] (by decide) (by decide)
  exact .cons ⟨rfl, by simp [within]⟩ (.cons ⟨rfl, by simp [within]⟩ .nil)

/-- Flaws at places that differ in spelling, and a flaw that a key hides. -/
theorem readMetric_spelling_of_mixed :
    readMetric mixedMetric = .error
      [⟨["failure_condition"], .notString⟩, ⟨["provider", "web", "url"], .missing⟩,
        ⟨["provider", "web", "timeoutSeconds"], .intSyntax⟩,
        ⟨["provider", "web", "json_path"], .notString⟩,
        ⟨["provider", "web", "authentication", "oauth2", "client_id"], .notString⟩] ∧
    Variation.ofMetric Respelled mixedMetric respelledMetric ∧
    (readMetric mixedMetric).Alike (SameField namedFields) (readMetric respelledMetric) ∧
    Variation.ofMetric Unshadowed shadowingMetric shadowlessMetric ∧
    readMetric shadowingMetric = readMetric shadowlessMetric := by
  refine ⟨by decide +kernel, respelled_mixedMetric, ?_, unshadowed_shadowingMetric, ?_⟩
  · exact readMetric_spelling.1 mixedMetric respelledMetric respelled_mixedMetric
  · exact readMetric_spelling.2 shadowingMetric shadowlessMetric unshadowed_shadowingMetric

end HttpGauge.Manifest
