import HttpGauge.Proofs.Headers

/-!
# Headers as they are declared

The header set of a request against the declarations that it is built from: its keys are the
canonical forms of the declared ones, in the order in which they are declared first, each with the
value that is declared last.  Declarations share a header exactly when their keys are equal but for
their case.
-/

namespace HttpGauge

open HttpGauge.Text

/-! ## Keys -/

/-- The canonical form tells ASCII keys apart exactly as far as they are not equal but for their
case. -/
theorem canonicalKey_eq_iff {first second : String} (asciiFirst : IsAscii first.toList)
    (asciiSecond : IsAscii second.toList) :
    canonicalKey first = canonicalKey second ↔ lower first = lower second := by
  constructor
  · intro same
    calc lower first
      _ = lower (canonicalKey first) := (lower_canonicalKey asciiFirst).symm
      _ = lower (canonicalKey second) := by rw [same]
      _ = lower second := lower_canonicalKey asciiSecond
  · exact canonicalKey_eq_of_lower_eq asciiFirst asciiSecond

namespace HeaderSet

variable {declared : List Header} {key : String}

/-- The keys that declarations result in, without repetitions in the order of their first
occurrence. -/
def declaredKeys (declared : List Header) : List String :=
  (declared.map fun header => canonicalKey header.key).eraseDups

/-- The keys are set in the order in which they are declared first. -/
theorem keys_ofDeclared (declared : List Header) :
    (ofDeclared declared).keys = declaredKeys declared := by
  induction declared using List.reverseRecOn with
  | nil => rfl
  | append_singleton declared header ih =>
      rw [ofDeclared_concat, keys_set, ih, declaredKeys, declaredKeys, List.map_append,
        List.eraseDups_append]
      simp only [List.mem_eraseDups, List.map_cons, List.map_nil]
      generalize (declared.map fun header => canonicalKey header.key) = keys
      by_cases present : canonicalKey header.key ∈ keys
      · simp [List.removeAll, present]
      · simp [List.removeAll, List.eraseDups_cons, present]

/-- The keys are the canonical forms of the declared ones. -/
theorem mem_declaredKeys :
    key ∈ declaredKeys declared ↔ ∃ header ∈ declared, canonicalKey header.key = key := by
  rw [declaredKeys, List.mem_eraseDups, List.mem_map]

/-- A key is set exactly when it is declared in some spelling. -/
theorem mem_declaredKeys_iff (ascii : ∀ header ∈ declared, IsAscii header.key.toList)
    (isKey : IsCanonicalKey key) :
    key ∈ declaredKeys declared ↔ ∃ header ∈ declared, lower header.key = lower key := by
  rw [mem_declaredKeys]
  constructor
  · rintro ⟨header, member, rfl⟩
    exact ⟨header, member, (lower_canonicalKey (ascii header member)).symm⟩
  · rintro ⟨header, member, same⟩
    refine ⟨header, member, ?_⟩
    rw [canonicalKey_eq_of_lower_eq (ascii header member) isKey.ascii same, isKey.fixed]

/-- The canonical form of a key has the value of the last declaration of the key in some
spelling. -/
theorem get?_ofDeclared (ascii : ∀ header ∈ declared, IsAscii header.key.toList)
    (asciiKey : IsAscii key.toList) :
    (ofDeclared declared).get? (canonicalKey key) =
      (lastDeclared? (lower key) declared).map Header.value := by
  induction declared using List.reverseRecOn with
  | nil => rfl
  | append_singleton declared header ih =>
      rcases List.forall_mem_append.mp ascii with ⟨before, last⟩
      have asciiLast := last header List.mem_cons_self
      rw [ofDeclared_concat, lastDeclared?, List.filter_append]
      by_cases same : lower header.key = lower key
      · rw [(canonicalKey_eq_iff asciiLast asciiKey).mpr same, get?_set_self]
        simp [same]
      · rw [get?_set_of_ne _ _ (mt (canonicalKey_eq_iff asciiLast asciiKey).mp same), ih before]
        simp [same, lastDeclared?]

end HeaderSet

/-! ## Requests -/

namespace WebMetric

open HeaderSet

/-- The headers of a request against the declarations of its metric. -/
structure AsDeclared (web : WebMetric) (headers : HeaderSet) : Prop where
  /-- A key has the value that is declared last for it, in whatever case. -/
  value : ∀ key, IsAscii key.toList → (lower key = "content-type" → web.jsonBody = none) →
    headers.get? (canonicalKey key) = (lastDeclared? (lower key) web.headers).map Header.value
  /-- A value as body is labelled. -/
  label : web.jsonBody ≠ none → headers.get? "Content-Type" = some "application/json"
  /-- Keys stand in the order of their first declarations. -/
  order : (web.jsonBody ≠ none → ∃ header ∈ web.headers, lower header.key = "content-type") →
    headers.keys = declaredKeys web.headers
  /-- A label that is not declared comes last. -/
  labelLast : web.jsonBody ≠ none →
    (∀ header ∈ web.headers, lower header.key ≠ "content-type") →
      headers.keys = declaredKeys web.headers ++ ["Content-Type"]
  /-- Nothing else is set. -/
  declared : ∀ key ∈ headers.keys, (∃ header ∈ web.headers, canonicalKey header.key = key) ∨
    (web.jsonBody ≠ none ∧ key = "Content-Type")
  distinct : headers.keys.Nodup
  /-- Declarations share a header if their keys are equal but for their case. -/
  shared : ∀ first ∈ web.headers, ∀ second ∈ web.headers,
    (∃ header ∈ headers, header.1 = canonicalKey first.key ∧ header.1 = canonicalKey second.key) ↔
      lower first.key = lower second.key

variable {web : WebMetric}

/-- The keys that are sent are the declared ones, and then the label if it is not among them. -/
theorem keys_sentHeaders (web : WebMetric) :
    web.sentHeaders.keys =
      if web.jsonBody = none ∨ contentTypeKey ∈ declaredKeys web.headers
      then declaredKeys web.headers
      else declaredKeys web.headers ++ [contentTypeKey] := by
  rw [sentHeaders_eq]
  by_cases json : web.jsonBody = none
  · rw [if_pos json, if_pos (Or.inl json), keys_ofDeclared]
  · rw [if_neg json, keys_set, keys_ofDeclared]
    simp only [json, false_or]

/-- The label is among the declared keys when it is declared in some spelling. -/
theorem contentTypeKey_mem_declaredKeys_iff
    (ascii : ∀ header ∈ web.headers, IsAscii header.key.toList) :
    contentTypeKey ∈ declaredKeys web.headers ↔
      ∃ header ∈ web.headers, lower header.key = "content-type" := by
  rw [mem_declaredKeys_iff ascii isCanonicalKey_contentTypeKey, lower_contentTypeKey]

/-- A key other than the label of the body has the value that is declared last for it. -/
theorem get?_sentHeaders (ascii : ∀ header ∈ web.headers, IsAscii header.key.toList)
    {key : String} (asciiKey : IsAscii key.toList)
    (unlabelled : lower key = "content-type" → web.jsonBody = none) :
    web.sentHeaders.get? (canonicalKey key) =
      (lastDeclared? (lower key) web.headers).map Header.value := by
  rw [← get?_ofDeclared ascii asciiKey, sentHeaders_eq]
  split
  · rfl
  · rename_i json
    apply get?_set_of_ne
    intro same
    apply json ∘ unlabelled
    rw [← lower_canonicalKey asciiKey, ← same, lower_contentTypeKey]

/-- Every key that is declared is sent. -/
theorem mem_keys_sentHeaders_of_declared {key : String} (member : key ∈ declaredKeys web.headers) :
    key ∈ web.sentHeaders.keys := by
  rw [keys_sentHeaders]
  split
  · exact member
  · exact List.mem_append_left _ member

/-- Every key that is sent is declared or labels the body. -/
theorem declared_of_mem_keys_sentHeaders {key : String} (member : key ∈ web.sentHeaders.keys) :
    (∃ header ∈ web.headers, canonicalKey header.key = key) ∨
      (web.jsonBody ≠ none ∧ key = contentTypeKey) := by
  rw [keys_sentHeaders] at member
  split at member
  · exact Or.inl (mem_declaredKeys.mp member)
  · rename_i unlabelled
    rcases List.mem_append.mp member with earlier | last
    · exact Or.inl (mem_declaredKeys.mp earlier)
    · exact Or.inr ⟨(not_or.mp unlabelled).1, List.mem_singleton.mp last⟩

/-- Two declarations share a header exactly when their keys have one canonical form. -/
theorem shares_sentHeaders_iff {first second : Header} (member : first ∈ web.headers) :
    (∃ header ∈ web.sentHeaders, header.1 = canonicalKey first.key ∧
        header.1 = canonicalKey second.key) ↔
      canonicalKey first.key = canonicalKey second.key := by
  constructor
  · rintro ⟨header, -, same, sameToo⟩
    exact same.symm.trans sameToo
  · intro same
    have present : canonicalKey first.key ∈ web.sentHeaders.keys :=
      mem_keys_sentHeaders_of_declared (mem_declaredKeys.mpr ⟨first, member, rfl⟩)
    rcases List.mem_map.mp present with ⟨header, isSet, key⟩
    exact ⟨header, isSet, key, key.trans same⟩

/-- What a metric declares is what it sends. -/
theorem asDeclared_sentHeaders (ascii : ∀ header ∈ web.headers, IsAscii header.key.toList) :
    web.AsDeclared web.sentHeaders := by
  constructor
  case value => exact fun key asciiKey => get?_sentHeaders ascii asciiKey
  case label =>
    intro json
    rcases Option.ne_none_iff_exists'.mp json with ⟨value, given⟩
    exact get?_label_sentHeaders given
  case order =>
    intro labelled
    rw [keys_sentHeaders, if_pos]
    by_cases json : web.jsonBody = none
    · exact Or.inl json
    · exact Or.inr ((contentTypeKey_mem_declaredKeys_iff ascii).mpr (labelled json))
  case labelLast =>
    intro json unlabelled
    rw [keys_sentHeaders, if_neg]
    · rfl
    · rintro (none | present)
      · exact json none
      · rcases (contentTypeKey_mem_declaredKeys_iff ascii).mp present with ⟨header, member, same⟩
        exact unlabelled header member same
  case declared => exact fun key => declared_of_mem_keys_sentHeaders
  case distinct => exact (isCanonical_sentHeaders ascii).nodup
  case shared =>
    intro first member second memberToo
    rw [← canonicalKey_eq_iff (ascii first member) (ascii second memberToo)]
    exact shares_sentHeaders_iff member

/-! ## Main statement -/

/-- A request has the headers that its metric declares: one for the declarations of a key in
whatever case, in the order of the first and with the value of the last, and the label of a value
as body in any case.  This is so because the canonical form of a key is one, and tells ASCII keys
apart that are not equal but for their case. -/
theorem headers_asDeclared {request : Request} (built : web.request = .ok request)
    (ascii : ∀ header ∈ web.headers, IsAscii header.key.toList) :
    web.AsDeclared request.headers ∧
      (∀ key, IsAscii key.toList → canonicalKey (canonicalKey key) = canonicalKey key) ∧
      ∀ first second, IsAscii first.toList → IsAscii second.toList →
        (canonicalKey first = canonicalKey second ↔ lower first = lower second) := by
  refine ⟨?_, fun key asciiKey => (isCanonicalKey_canonicalKey asciiKey).fixed,
    fun first second => canonicalKey_eq_iff⟩
  rw [headers_of_request built]
  exact asDeclared_sentHeaders ascii

/-- Keys with hyphens at their ends and in a row, and a label that gives way to that of the body. -/
theorem headers_asDeclared_of_hyphens :
    let web : WebMetric :=
      { method := some .post
        url := "http://h/m"
        headers := [⟨"-x--TRACE-", "1"⟩, ⟨"content-type", "text/plain"⟩, ⟨"-X--trace-", "2"⟩]
        jsonBody := some (.int 1) }
    let request : Request :=
      ⟨.post, "http://h/m", some "1", [("-X--Trace-", "2"), ("Content-Type", "application/json")]⟩
    web.request = .ok request ∧ (∀ header ∈ web.headers, IsAscii header.key.toList) ∧
      web.AsDeclared request.headers := by
  intro web request
  have built : web.request = .ok request := by decide +kernel
  have ascii : ∀ header ∈ web.headers, IsAscii header.key.toList := by decide +kernel
  exact ⟨built, ascii, (headers_asDeclared built ascii).1⟩

end WebMetric

end HttpGauge
