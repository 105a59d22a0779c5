import HttpGauge.Manifest.Metric
import Mathlib.Data.List.Forall2

/-!
# Variations of manifests

Eight fields of a manifest have a plain name beside their key.  A variation relates documents
through the levels of the model, given what may differ at one level.  Main statement: documents
that vary are read alike, if a variation keeps the fields of each level.
-/

namespace HttpGauge.Manifest

open HttpGauge.Json

/-! ## Results that are alike -/

/-- The same flaw at places of which the steps correspond. -/
structure Problem.Alike (same : String → String → Prop) (first second : Problem) : Prop where
  flaw : first.flaw = second.flaw
  location : List.Forall₂ same first.location second.location

namespace Checked

/-- The same part, or problems that are alike one by one. -/
inductive Alike (same : String → String → Prop) {α : Type} : Checked α → Checked α → Prop where
  | fits (value : α) : Alike same (.ok value) (.ok value)
  | fails {problems others : List Problem}
      (each : List.Forall₂ (Problem.Alike same) problems others) :
      Alike same (.error problems) (.error others)

namespace Alike

variable {α β : Type} {same : String → String → Prop}

theorem refl (reflexive : ∀ step, same step step) (part : Checked α) : Alike same part part := by
  cases part with
  | ok value => exact .fits value
  | error problems =>
      apply fails
      exact List.forall₂_same.mpr fun problem _ =>
        ⟨rfl, List.forall₂_same.mpr fun step _ => reflexive step⟩

/-- Problems of a later part come after those of the parts before it, on both sides. -/
theorem also {sofar otherSofar : Checked (α → β)} {part other : Checked α}
    (earlier : Alike same sofar otherSofar) (later : Alike same part other) :
    Alike same (sofar.also part) (otherSofar.also other) := by
  cases earlier with
  | fits build =>
      cases later with
      | fits value => exact .fits _
      | fails each => exact .fails each
  | fails each =>
      cases later with
      | fits value => exact .fails each
      | fails eachToo => exact .fails (List.rel_append each eachToo)

theorem under {step other : String} (steps : same step other) {first second : Checked α}
    (alike : Alike same first second) :
    Alike same (Checked.under step first) (Checked.under other second) := by
  cases alike with
  | fits value => exact .fits value
  | fails each =>
      apply fails
      rw [List.forall₂_map_left_iff, List.forall₂_map_right_iff]
      exact each.imp fun problem other alike => ⟨alike.flaw, .cons steps alike.location⟩

/-- Where steps correspond only to themselves, the results are equal. -/
theorem eq {first second : Checked α} (alike : Alike Eq first second) : first = second := by
  cases alike with
  | fits value => rfl
  | fails each =>
      congr 1
      rw [← List.forall₂_eq_eq_eq]
      apply each.imp
      rintro ⟨location, flaw⟩ ⟨otherLocation, otherFlaw⟩ ⟨flaws, locations⟩
      rw [List.forall₂_eq_eq_eq] at locations
      exact Problem.mk.injEq .. ▸ ⟨locations, flaws⟩

end Alike

end Checked

/-- Values that vary are read alike. -/
def ReadAlike (same : String → String → Prop) (vary : Value → Value → Prop) {α : Type}
    (read : Value → Checked α) : Prop :=
  ∀ ⦃value other : Value⦄, vary value other → (read value).Alike same (read other)

/-! ## Fields -/

/-- The spellings of a field. -/
def Field.spellings (field : Field) : List String := [field.key, field.name]

/-- The fields of a metric that have a name beside their key. -/
def metricNames : List Field :=
  [⟨"successCondition", "success_condition"⟩, ⟨"failureCondition", "failure_condition"⟩]

/-- Those of a web block. -/
def webNames : List Field :=
  [⟨"jsonBody", "json_body"⟩, ⟨"timeoutSeconds", "timeout_seconds"⟩, ⟨"jsonPath", "json_path"⟩]

/-- Those of the client credentials grant. -/
def oauth2Names : List Field :=
  [⟨"tokenUrl", "token_url"⟩, ⟨"clientId", "client_id"⟩, ⟨"clientSecret", "client_secret"⟩]

/-- All of them. -/
def namedFields : List Field := metricNames ++ webNames ++ oauth2Names

/-- A field of a level with these names: if it has a name beside its key it is listed, and it shares
no spelling with another field that is. -/
structure Field.Suits (fields : List Field) (field : Field) : Prop where
  listed : field.name = field.key ∨ field ∈ fields
  apart : ∀ other ∈ fields,
    other = field ∨ ∀ spelling ∈ other.spellings, spelling ∉ field.spellings

instance (fields : List Field) (field : Field) : Decidable (field.Suits fields) :=
  decidable_of_iff
    ((field.name = field.key ∨ field ∈ fields) ∧ ∀ other ∈ fields,
      other = field ∨ ∀ spelling ∈ other.spellings, spelling ∉ field.spellings)
    ⟨fun ⟨listed, apart⟩ => ⟨listed, apart⟩, fun suits => ⟨suits.listed, suits.apart⟩⟩

section Found

variable {same : String → String → Prop} {part : String → Value → Value → Prop} {field : Field}
  {members others : Members}

/-- A field occurs in neither of two objects, or in both, with spellings and values that
correspond. -/
def FoundAlike (same : String → String → Prop) (part : String → Value → Value → Prop)
    (field : Field) (members others : Members) : Prop :=
  Option.Rel
    (fun found other => found.1 ∈ field.spellings ∧ same found.1 other.1 ∧
      part found.1 found.2 other.2)
    (field.find? members) (field.find? others)

variable {α : Type} {read : Value → Checked α}

theorem FoundAlike.required (found : FoundAlike same part field members others)
    (reflexive : ∀ step, same step step)
    (reads : ∀ spelling ∈ field.spellings, ReadAlike same (part spelling) read) :
    (field.required read members).Alike same (field.required read others) := by
  unfold FoundAlike at found
  unfold Field.required
  generalize field.find? members = first, field.find? others = second at found ⊢
  cases found with
  | none => exact .refl reflexive _
  | some alike => exact (reads _ alike.1 alike.2.2).under alike.2.1

theorem FoundAlike.orElse (found : FoundAlike same part field members others) (absent : α)
    (reads : ∀ spelling ∈ field.spellings, ReadAlike same (part spelling) read) :
    (field.orElse absent read members).Alike same (field.orElse absent read others) := by
  unfold FoundAlike at found
  unfold Field.orElse
  generalize field.find? members = first, field.find? others = second at found ⊢
  cases found with
  | none => exact .fits absent
  | some alike => exact (reads _ alike.1 alike.2.2).under alike.2.1

end Found

/-! ## Levels -/

/-- How two documents of one level may differ, given its fields that have a name beside their key,
and given how the values under each key may differ. -/
abbrev Variation := List Field → (String → Value → Value → Prop) → Value → Value → Prop

/-- Only the value under one key varies. -/
def within (inner : String) (vary : Value → Value → Prop) (key : String) (value other : Value) :
    Prop :=
  if key = inner then vary value other else value = other

namespace Variation

variable (vary : Variation)

/-- Variations of the client credentials grant. -/
def ofOAuth2 : Value → Value → Prop := vary oauth2Names fun _ => Eq

/-- Variations of the authentication block. -/
def ofAuthentication : Value → Value → Prop := vary [] (within "oauth2" vary.ofOAuth2)

/-- Variations of the web block. -/
def ofWebMetric : Value → Value → Prop :=
  vary webNames (within "authentication" vary.ofAuthentication)

/-- Variations of the provider block. -/
def ofProvider : Value → Value → Prop := vary [] (within "web" vary.ofWebMetric)

/-- Variations of a metric, at each of its levels. -/
def ofMetric : Value → Value → Prop := vary metricNames (within "provider" vary.ofProvider)

/-- Documents are equal, or objects in which the fields of their level correspond. -/
structure Keeps (same : String → String → Prop) (vary : Variation) : Prop where
  reflexive : ∀ step, same step step
  found : ∀ {fields part value other}, fields ⊆ namedFields → vary fields part value other →
    value = other ∨ ∃ members others, value = .obj members ∧ other = .obj others ∧
      ∀ field : Field, field.Suits fields → FoundAlike same part field members others

end Variation

/-! ## Reading -/

section Reading

variable {same : String → String → Prop}

theorem ReadAlike.eq {α : Type} (reflexive : ∀ step, same step step) (read : Value → Checked α) :
    ReadAlike same Eq read := by
  rintro value _ rfl
  exact .refl reflexive _

/-- A field other than the one that varies is read alike. -/
theorem ReadAlike.outside {α : Type} {inner : String} {field : Field}
    (vary : Value → Value → Prop) (reflexive : ∀ step, same step step) (read : Value → Checked α)
    (apart : inner ∉ field.spellings) :
    ∀ spelling ∈ field.spellings, ReadAlike same (within inner vary spelling) read := by
  intro spelling member value other varied
  have differ : spelling ≠ inner := fun equal => apart (equal ▸ member)
  rw [within, if_neg differ] at varied
  exact ReadAlike.eq reflexive read varied

/-- The field that varies is read alike if its values are. -/
theorem ReadAlike.inside {α : Type} {inner : String} {vary : Value → Value → Prop}
    {read : Value → Checked α} (reads : ReadAlike same vary read) :
    ∀ spelling ∈ Field.spellings ⟨inner, inner⟩,
      ReadAlike same (within inner vary spelling) read := by
  intro spelling member value other varied
  have equal : spelling = inner := by simpa [Field.spellings] using member
  rw [within, if_pos equal] at varied
  exact reads varied

variable {vary : Variation} (keeps : vary.Keeps same)
include keeps

theorem readOAuth2_alike : ReadAlike same vary.ofOAuth2 readOAuth2 := by
  intro value other varied
  obtain rfl | ⟨members, others, rfl, rfl, found⟩ := keeps.found (by decide) varied
  · exact .refl keeps.reflexive _
  · have text := ReadAlike.eq keeps.reflexive readString
    have texts := ReadAlike.eq keeps.reflexive (readList readString)
    refine .also (.also (.also (.also (.fits _) ?url) ?id) ?secret) ?scopes
    case url => exact (found ⟨"tokenUrl", "token_url"⟩ (by decide)).orElse "" fun _ _ => text
    case id => exact (found ⟨"clientId", "client_id"⟩ (by decide)).orElse "" fun _ _ => text
    case secret =>
      exact (found ⟨"clientSecret", "client_secret"⟩ (by decide)).orElse "" fun _ _ => text
    case scopes => exact (found ⟨"scopes", "scopes"⟩ (by decide)).orElse [] fun _ _ => texts

theorem readAuthentication_alike : ReadAlike same vary.ofAuthentication readAuthentication := by
  intro value other varied
  obtain rfl | ⟨members, others, rfl, rfl, found⟩ := keeps.found (by decide) varied
  · exact .refl keeps.reflexive _
  · exact (found ⟨"oauth2", "oauth2"⟩ (by decide)).orElse { }
      (ReadAlike.inside (readOAuth2_alike keeps))

theorem readWebMetric_alike : ReadAlike same vary.ofWebMetric readWebMetric := by
  intro value other varied
  obtain rfl | ⟨members, others, rfl, rfl, found⟩ := keeps.found (by decide) varied
  · exact .refl keeps.reflexive _
  · have outside {α : Type} {field : Field} (read : Value → Checked α)
        (apart : "authentication" ∉ field.spellings) :=
      ReadAlike.outside vary.ofAuthentication keeps.reflexive read apart
    refine .also (.also (.also (.also (.also (.also (.also (.also (.also (.fits _) ?method) ?url)
      ?headers) ?body) ?json) ?timeout) ?path) ?insecure) ?authentication
    case method =>
      exact (found ⟨"method", "method"⟩ (by decide)).orElse none (outside readMethod (by decide))
    case url =>
      exact (found ⟨"url", "url"⟩ (by decide)).required keeps.reflexive
        (outside readString (by decide))
    case headers =>
      exact (found ⟨"headers", "headers"⟩ (by decide)).orElse []
        (outside (readList readHeader) (by decide))
    case body =>
      exact (found ⟨"body", "body"⟩ (by decide)).orElse "" (outside readString (by decide))
    case json =>
      exact (found ⟨"jsonBody", "json_body"⟩ (by decide)).orElse none
        (outside readJsonBody (by decide))
    case timeout =>
      exact (found ⟨"timeoutSeconds", "timeout_seconds"⟩ (by decide)).orElse 0
        (outside readInt (by decide))
    case path =>
      exact (found ⟨"jsonPath", "json_path"⟩ (by decide)).orElse ""
        (outside readString (by decide))
    case insecure =>
      exact (found ⟨"insecure", "insecure"⟩ (by decide)).orElse false
        (outside readBool (by decide))
    case authentication =>
      exact (found ⟨"authentication", "authentication"⟩ (by decide)).orElse { }
        (ReadAlike.inside (readAuthentication_alike keeps))

theorem readProvider_alike : ReadAlike same vary.ofProvider readProvider := by
  intro value other varied
  obtain rfl | ⟨members, others, rfl, rfl, found⟩ := keeps.found (by decide) varied
  · exact .refl keeps.reflexive _
  · exact (found ⟨"web", "web"⟩ (by decide)).required keeps.reflexive
      (ReadAlike.inside (readWebMetric_alike keeps))

/-- Variations of a metric are read alike. -/
theorem readMetric_alike : ReadAlike same vary.ofMetric readMetric := by
  intro value other varied
  obtain rfl | ⟨members, others, rfl, rfl, found⟩ := keeps.found (by decide) varied
  · exact .refl keeps.reflexive _
  · have outside {field : Field} (apart : "provider" ∉ field.spellings) :=
      ReadAlike.outside vary.ofProvider keeps.reflexive readString apart
    refine .also (.also (.also (.also (.fits _) ?name) ?success) ?failure) ?provider
    case name =>
      exact (found ⟨"name", "name"⟩ (by decide)).required keeps.reflexive (outside (by decide))
    case success =>
      exact (found ⟨"successCondition", "success_condition"⟩ (by decide)).orElse ""
        (outside (by decide))
    case failure =>
      exact (found ⟨"failureCondition", "failure_condition"⟩ (by decide)).orElse ""
        (outside (by decide))
    case provider =>
      exact (found ⟨"provider", "provider"⟩ (by decide)).required keeps.reflexive
        (ReadAlike.inside (readProvider_alike keeps))

end Reading

end HttpGauge.Manifest
