import HttpGauge.Proofs.Effects
import HttpGauge.Proofs.Text.Casing
import Mathlib.Data.List.Induction
import Mathlib.Data.List.Nodup

/-!
# Headers of requests

Header sets seen by names, which are keys in lower case.  All keys of a set that is built from
declarations are canonical, so a name has at most one header there, whose value is the one declared
last.  The headers of a run are such a set even after a label and a token were added.
-/

namespace HttpGauge

open HttpGauge.Number HttpGauge.Text

/-! ## Names -/

namespace HeaderSet

/-- The headers of a name. -/
def named (name : String) (headers : HeaderSet) : HeaderSet :=
  headers.filter fun header => lower header.1 = name

/-- A header set without keys that are equal but for their case. -/
structure IsCanonical (headers : HeaderSet) : Prop where
  nodup : headers.keys.Nodup
  canonical : ∀ key ∈ headers.keys, IsCanonicalKey key

variable {headers : HeaderSet} {key value name : String}

theorem hasKey_iff : headers.hasKey name = true ↔ headers.named name ≠ [] := by
  rw [hasKey, named, ne_eq, List.filter_eq_nil_iff, List.any_eq_true]
  simp

@[simp]
theorem keys_cons (header : String × String) (rest : HeaderSet) :
    keys (header :: rest) = header.1 :: keys rest :=
  rfl

/-- A key that is set already keeps its place, and any other comes last. -/
theorem keys_set (key value : String) (headers : HeaderSet) :
    (headers.set key value).keys =
      if key ∈ headers.keys then headers.keys else headers.keys ++ [key] := by
  induction headers with
  | nil => rfl
  | cons header rest ih =>
      by_cases same : header.1 = key
      · simp [set, same]
      · have differs : ¬ key = header.1 := fun equal => same equal.symm
        rw [set, if_neg same, keys_cons, keys_cons, ih]
        by_cases later : key ∈ keys rest
        · simp [later]
        · simp [differs, later]

/-- The headers whose keys a property leaves out are not changed by setting one of them. -/
theorem filter_set (keep : String → Bool) (left : keep key = false) (value : String)
    (headers : HeaderSet) :
    (headers.set key value).filter (fun header => keep header.1) =
      headers.filter fun header => keep header.1 := by
  induction headers with
  | nil => simp [set, left]
  | cons header rest ih =>
      by_cases same : header.1 = key
      · simp [set, same, left]
      · rw [set, if_neg same, List.filter_cons, List.filter_cons, ih]

/-- Setting a header leaves those of other names. -/
theorem named_set_of_ne (differs : lower key ≠ name) (value : String) (headers : HeaderSet) :
    (headers.set key value).named name = headers.named name :=
  filter_set (lower · = name) (decide_eq_false differs) value headers

namespace IsCanonical

theorem of_cons {header : String × String} {rest : HeaderSet}
    (canonical : IsCanonical (header :: rest)) : IsCanonical rest :=
  ⟨canonical.nodup.of_cons, fun key member =>
    canonical.canonical key (List.mem_cons_of_mem _ member)⟩

/-- A name has no header besides that of its canonical key. -/
theorem named_eq_nil (canonical : headers.IsCanonical) (isKey : IsCanonicalKey key)
    (unset : key ∉ headers.keys) : headers.named (lower key) = [] := by
  rw [named, List.filter_eq_nil_iff]
  intro header member
  have present : header.1 ∈ headers.keys := List.mem_map_of_mem member
  rw [decide_eq_true_eq]
  intro same
  rw [(canonical.canonical header.1 present).eq_of_lower_eq isKey same] at present
  exact unset present

/-- Setting a canonical key gives its name one header. -/
theorem named_set_self (canonical : headers.IsCanonical) (isKey : IsCanonicalKey key)
    (value : String) : (headers.set key value).named (lower key) = [(key, value)] := by
  induction headers with
  | nil => simp [set, named]
  | cons header rest ih =>
      obtain ⟨unset, -⟩ := List.nodup_cons.mp canonical.nodup
      by_cases same : header.1 = key
      · have others := canonical.of_cons.named_eq_nil isKey (same ▸ unset)
        rw [named] at others
        rw [set, if_pos same, named, List.filter_cons_of_pos (by simp), others]
      · have isHead := canonical.canonical header.1 List.mem_cons_self
        have differs : ¬ lower header.1 = lower key :=
          fun equal => same (isHead.eq_of_lower_eq isKey equal)
        have rest := ih canonical.of_cons
        rw [named] at rest
        rw [set, if_neg same, named, List.filter_cons_of_neg (by simpa using differs), rest]

/-- Setting a canonical key keeps a set canonical. -/
theorem set (canonical : headers.IsCanonical) (isKey : IsCanonicalKey key) (value : String) :
    (headers.set key value).IsCanonical := by
  by_cases present : key ∈ headers.keys
  · have same : (headers.set key value).keys = headers.keys := by rw [keys_set, if_pos present]
    exact ⟨same ▸ canonical.nodup, same ▸ canonical.canonical⟩
  · have more : (headers.set key value).keys = headers.keys ++ [key] := by
      rw [keys_set, if_neg present]
    constructor
    · rw [more, List.nodup_append_comm]
      exact List.nodup_cons.mpr ⟨present, canonical.nodup⟩
    · rw [more, List.forall_mem_append]
      exact ⟨canonical.canonical, List.forall_mem_singleton.mpr isKey⟩

/-- No two keys are equal but for their case. -/
theorem nodup_lower (canonical : headers.IsCanonical) : (headers.keys.map lower).Nodup :=
  canonical.nodup.map_on fun first present second other same =>
    (canonical.canonical first present).eq_of_lower_eq (canonical.canonical second other) same

end IsCanonical

/-! ## Declarations -/

/-- The last declaration of a name. -/
def lastDeclared? (name : String) (declared : List Header) : Option Header :=
  (declared.filter fun header => lower header.key = name).getLast?

/-- Declaring one more header sets it. -/
theorem ofDeclared_concat (declared : List Header) (header : Header) :
    ofDeclared (declared ++ [header]) =
      (ofDeclared declared).set (canonicalKey header.key) header.value := by
  rw [ofDeclared, List.foldl_append]
  rfl

variable {declared : List Header}

/-- Declarations result in canonical keys. -/
theorem isCanonical_ofDeclared (ascii : ∀ header ∈ declared, IsAscii header.key.toList) :
    (ofDeclared declared).IsCanonical := by
  induction declared using List.reverseRecOn with
  | nil => exact ⟨List.nodup_nil, fun key member => absurd member List.not_mem_nil⟩
  | append_singleton declared header ih =>
      obtain ⟨before, last⟩ := List.forall_mem_append.mp ascii
      rw [ofDeclared_concat]
      exact (ih before).set (isCanonicalKey_canonicalKey (last header List.mem_cons_self)) _

/-- A name has the value declared last, if it is declared. -/
theorem named_ofDeclared (ascii : ∀ header ∈ declared, IsAscii header.key.toList) (name : String) :
    (ofDeclared declared).named name =
      ((lastDeclared? name declared).map fun header =>
        (canonicalKey header.key, header.value)).toList := by
  induction declared using List.reverseRecOn with
  | nil => rfl
  | append_singleton declared header ih =>
      obtain ⟨before, last⟩ := List.forall_mem_append.mp ascii
      have lastAscii := last header List.mem_cons_self
      have lowered := lower_canonicalKey lastAscii
      rw [ofDeclared_concat, lastDeclared?, List.filter_append]
      by_cases same : lower header.key = name
      · have one := (isCanonical_ofDeclared before).named_set_self
          (isCanonicalKey_canonicalKey lastAscii) header.value
        rw [lowered, same] at one
        rw [one]
        simp [same]
      · rw [named_set_of_ne (by rwa [lowered]), ih before]
        simp [same, lastDeclared?]

end HeaderSet

/-! ## Requests before authorisation -/

theorem lower_contentTypeKey : lower contentTypeKey = "content-type" := by
  decide +kernel

theorem lower_authorizationKey : lower Client.authorizationKey = "authorization" := by
  decide +kernel

theorem isCanonicalKey_contentTypeKey : IsCanonicalKey contentTypeKey :=
  ⟨by decide +kernel, by decide +kernel⟩

theorem isCanonicalKey_authorizationKey : IsCanonicalKey Client.authorizationKey :=
  ⟨by decide +kernel, by decide +kernel⟩

namespace WebMetric

variable {web : WebMetric}

/-- The headers of a metric with a value as body are labelled, and those of any other are the
declared ones. -/
theorem sentHeaders_eq (web : WebMetric) :
    web.sentHeaders =
      if web.jsonBody = none then HeaderSet.ofDeclared web.headers
      else (HeaderSet.ofDeclared web.headers).set contentTypeKey contentTypeJson := by
  unfold sentHeaders hasJsonBody
  cases web.jsonBody <;> rfl

theorem isCanonical_sentHeaders (ascii : ∀ header ∈ web.headers, IsAscii header.key.toList) :
    web.sentHeaders.IsCanonical := by
  have declared := HeaderSet.isCanonical_ofDeclared ascii
  rw [sentHeaders_eq]
  split
  · exact declared
  · exact declared.set isCanonicalKey_contentTypeKey contentTypeJson

/-- A value as body is labelled, whatever is declared. -/
theorem named_contentType_sentHeaders
    (ascii : ∀ header ∈ web.headers, IsAscii header.key.toList) (json : web.jsonBody ≠ none) :
    web.sentHeaders.named (lower contentTypeKey) = [(contentTypeKey, contentTypeJson)] := by
  rw [sentHeaders_eq, if_neg json]
  exact (HeaderSet.isCanonical_ofDeclared ascii).named_set_self isCanonicalKey_contentTypeKey _

/-- All other names have the values declared last. -/
theorem named_sentHeaders {name : String}
    (ascii : ∀ header ∈ web.headers, IsAscii header.key.toList)
    (free : name = lower contentTypeKey → web.jsonBody = none) :
    web.sentHeaders.named name =
      ((HeaderSet.lastDeclared? name web.headers).map fun header =>
        (canonicalKey header.key, header.value)).toList := by
  rw [← HeaderSet.named_ofDeclared ascii, sentHeaders_eq]
  split
  · rfl
  · rename_i json
    have differs : lower contentTypeKey ≠ name := fun same => json (free same.symm)
    exact HeaderSet.named_set_of_ne differs _ _

/-- A request has the headers of its metric. -/
theorem headers_of_request {request : Request} (built : web.request = .ok request) :
    request.headers = web.sentHeaders := by
  rw [eq_of_request built]

end WebMetric

/-! ## Authorised requests -/

namespace Client

variable {client : Client} {cache : Option Token} {now : Binary64} {answers : Answers}
  {request : Request}

/-- A token keeps the headers of a request canonical. -/
theorem isCanonical_headers_attach (canonical : request.headers.IsCanonical)
    (token : Option Token) : (attach token request).headers.IsCanonical := by
  cases token with
  | none => exact canonical
  | some token => exact canonical.set isCanonicalKey_authorizationKey token.authorization

/-- A token has one header. -/
theorem named_authorization_attach (canonical : request.headers.IsCanonical) (token : Token) :
    (attach (some token) request).headers.named (lower authorizationKey) =
      [(authorizationKey, token.authorization)] :=
  canonical.named_set_self isCanonicalKey_authorizationKey token.authorization

/-- A token leaves the headers of other names. -/
theorem named_attach {name : String} (differs : lower authorizationKey ≠ name)
    (token : Option Token) (request : Request) :
    (attach token request).headers.named name = request.headers.named name := by
  cases token with
  | none => rfl
  | some token => exact HeaderSet.named_set_of_ne differs token.authorization request.headers

/-- A token leaves all other headers in their places. -/
theorem filter_attach (token : Option Token) (request : Request) :
    (attach token request).headers.filter (fun header => lower header.1 ≠ lower authorizationKey) =
      request.headers.filter fun header => lower header.1 ≠ lower authorizationKey := by
  cases token with
  | none => rfl
  | some token =>
      exact HeaderSet.filter_set (fun key => lower key ≠ lower authorizationKey) (by simp)
        token.authorization request.headers

/-- A request that is sent carries what it is authorised with. -/
theorem of_metric_mem_sent_send {complete : Request} {skipped : List String}
    {connection : Connection}
    (member : .metric complete skipped connection ∈
      (client.send cache now answers request).trace.sent) :
    ∃ token, (client.authorize cache now answers.token).outcome = .ok token ∧
      complete = attach token request ∧ skipped = skippedHeaders complete.headers := by
  rw [sent_send, List.mem_append] at member
  rcases member with forToken | forValue
  · cases asked : client.asked cache now with
    | none => simp [asked] at forToken
    | some source => simp [asked] at forToken
  · cases authorized : (client.authorize cache now answers.token).outcome with
    | error failure => simp [authorized] at forValue
    | ok token =>
        simp only [authorized, List.mem_singleton, Sent.metric.injEq] at forValue
        obtain ⟨rfl, rfl, -⟩ := forValue
        exact ⟨token, rfl, rfl, rfl⟩

/-- A client with a source authorises with the token that it caches, and any other with none. -/
theorem cacheAfter_of_authorized {token : Option Token}
    (authorized : (client.authorize cache now answers.token).outcome = .ok token) :
    (client.source = none ∧ token = none) ∨
      (client.source ≠ none ∧ ∃ carried, token = some carried ∧
        client.cacheAfter cache now answers = some carried) := by
  cases owner : client.source with
  | none =>
      rw [authorize_eq, owner] at authorized
      exact Or.inl ⟨rfl, (Except.ok.inj authorized).symm⟩
  | some source =>
      cases token with
      | some carried =>
          refine Or.inr ⟨Option.some_ne_none source, carried, rfl, ?_⟩
          rw [cacheAfter, authorized]
      | none =>
          rw [authorize_eq, owner] at authorized
          cases ended : (source.token client.connection cache now answers.token).outcome with
          | error failure => simp [ended, Except.map] at authorized
          | ok carried => simp [ended, Except.map] at authorized

/-- The headers that must not be added are the label where there is none. -/
theorem skippedHeaders_eq (headers : HeaderSet) :
    skippedHeaders headers =
      if headers.named (lower contentTypeKey) = [] then [contentTypeKey] else [] := by
  unfold skippedHeaders
  by_cases unlabelled : headers.named (lower contentTypeKey) = []
  · rw [if_pos unlabelled, if_neg (mt HeaderSet.hasKey_iff.mp (not_not_intro unlabelled))]
  · rw [if_neg unlabelled, if_pos (HeaderSet.hasKey_iff.mpr unlabelled)]

end Client

/-! ## Headers of runs -/

namespace Provider

/-- The headers that a run sends, given the metric that its provider was built for and the token
that is cached after it. -/
structure Headers (metric : Metric) (order : RunOrder) (cached : Option Token)
    (headers : HeaderSet) (skipped : List String) : Prop where
  /-- No two keys are equal but for their case. -/
  distinct : (headers.keys.map lower).Nodup
  /-- A value as body has one label, whatever is declared. -/
  labelled : order.metric.web.jsonBody ≠ none →
    headers.named "content-type" = [("Content-Type", "application/json")]
  /-- Apart from that label and the token, a name is sent exactly when it is declared in some
  spelling, with the value declared last. -/
  declared : ∀ name, (name = "content-type" → order.metric.web.jsonBody = none) →
    (name = "authorization" → metric.web.oauth2.tokenUrl = "") →
      headers.named name =
        ((HeaderSet.lastDeclared? name order.metric.web.headers).map fun header =>
          (canonicalKey header.key, header.value)).toList
  /-- No label is added on the way exactly where there is none. -/
  skipped : skipped = if headers.named "content-type" = [] then ["Content-Type"] else []
  /-- Where tokens are issued the current one is sent, whatever is declared. -/
  authorized : metric.web.oauth2.tokenUrl ≠ "" → ∃ token, cached = some token ∧
    headers.named "authorization" = [("Authorization", token.authorization)]
  /-- A token has no effect on other headers, nor on their order. -/
  unaffected :
    headers.filter (fun header => lower header.1 ≠ "authorization") =
      order.metric.web.sentHeaders.filter fun header => lower header.1 ≠ "authorization"
  /-- Where no tokens are issued nothing is added. -/
  unauthorized : metric.web.oauth2.tokenUrl = "" → headers = order.metric.web.sentHeaders

/-- A run leaves the token that its request leaves. -/
theorem cache_run_of_built (provider : Provider) (state : State) {order : RunOrder}
    {request : Request} (built : order.metric.web.request = .ok request) :
    (provider.run state order).state.cache =
      provider.client.cacheAfter state.cache order.scene.now order.scene.answers := by
  have kept : provider.cacheAfter state.cache order =
      provider.client.cacheAfter state.cache order.scene.now order.scene.answers := by
    rw [cacheAfter, built]
  cases ended : (provider.pipeline state.cache order).outcome with
  | error failure => simp only [run, ended, kept]
  | ok result => simp only [run, ended, kept]

/-- A run whose request is sent sends these headers, in whatever case and order they are
declared. -/
theorem run_headers {language : PathLanguage} {settings : Settings} {metric : Metric}
    {provider : Provider} (built : (build language settings metric).outcome = .ok provider)
    (state : State) (order : RunOrder)
    (ascii : ∀ header ∈ order.metric.web.headers, IsAscii header.key.toList)
    {request : Request} {skipped : List String} {connection : Connection}
    (sends : .metric request skipped connection ∈ (provider.run state order).trace.sent) :
    Headers metric order (provider.run state order).state.cache request.headers skipped := by
  have noSource_iff := (client_of_build built).2
  obtain ⟨plain, requested, sending⟩ := built_of_mem_sent_run sends
  obtain ⟨token, authorized, rfl, rfl⟩ := Client.of_metric_mem_sent_send sending
  have plainHeaders := WebMetric.headers_of_request requested
  have canonical : plain.headers.IsCanonical :=
    plainHeaders ▸ WebMetric.isCanonical_sentHeaders ascii
  have issued := Client.cacheAfter_of_authorized authorized
  rw [← cache_run_of_built provider state requested, ne_eq, noSource_iff] at issued
  have labels : (Client.attach token plain).headers.named "content-type" =
      plain.headers.named "content-type" :=
    Client.named_attach (by decide +kernel) token plain
  constructor
  case distinct => exact (Client.isCanonical_headers_attach canonical token).nodup_lower
  case labelled =>
    intro json
    rw [labels, plainHeaders, ← lower_contentTypeKey]
    exact WebMetric.named_contentType_sentHeaders ascii json
  case declared =>
    intro name unlabelled untaken
    rw [← lower_contentTypeKey] at unlabelled
    rw [← WebMetric.named_sentHeaders ascii unlabelled, ← plainHeaders]
    by_cases differs : lower Client.authorizationKey = name
    · have noTokens := untaken (differs.symm.trans lower_authorizationKey)
      rcases issued with ⟨-, rfl⟩ | ⟨tokens, -⟩
      · rfl
      · contradiction
    · exact Client.named_attach differs token plain
  case skipped => exact lower_contentTypeKey ▸ Client.skippedHeaders_eq _
  case authorized =>
    intro tokens
    rcases issued with ⟨noTokens, -⟩ | ⟨-, carried, rfl, cached⟩
    · contradiction
    · rw [← lower_authorizationKey]
      exact ⟨carried, cached, Client.named_authorization_attach canonical carried⟩
  case unaffected =>
    rw [← plainHeaders, ← lower_authorizationKey]
    exact Client.filter_attach token plain
  case unauthorized =>
    intro noTokens
    rcases issued with ⟨-, rfl⟩ | ⟨tokens, -⟩
    · exact plainHeaders
    · contradiction

/-- The headers of a run with a cached token, for a text as body with two labels and a token
declared. -/
theorem run_headers_of_repeated :
    let declared : List Header :=
      [⟨"content-TYPE", "text/plain"⟩, ⟨"AUTHORIZATION", "none"⟩, ⟨"x-trace-id", "1"⟩,
        ⟨"Content-type", "text/html"⟩]
    let metric : Metric :=
      ⟨"m", "", "", {
        method := some .post
        url := "http://h/m"
        headers := declared
        body := "text"
        oauth2 := ⟨"http://h/token", "id", "secret", []⟩ }⟩
    let order : RunOrder :=
      ⟨"run-1", metric, fun _ _ => .ok (.phase .successful),
        ⟨Binary64.ofInt 0, ⟨.error (.host ⟨.timeout, none⟩), .ok ⟨200, .ok []⟩⟩⟩⟩
    let state : State := { cache := some ⟨"granted", "bearer", none⟩ }
    let headers : HeaderSet :=
      [("Content-Type", "text/html"), ("Authorization", "Bearer granted"), ("X-Trace-Id", "1")]
    ∃ provider, (build Path.Query.language { } metric).outcome = .ok provider ∧
      (∀ header ∈ declared, IsAscii header.key.toList) ∧
      (.metric ⟨.post, "http://h/m", some "text", headers⟩ [] ⟨10, .verify⟩ ∈
        (provider.run state order).trace.sent) ∧
      Headers metric order (provider.run state order).state.cache headers [] := by
  have ascii : ∀ header ∈ ([⟨"content-TYPE", "text/plain"⟩, ⟨"AUTHORIZATION", "none"⟩,
      ⟨"x-trace-id", "1"⟩, ⟨"Content-type", "text/html"⟩] : List Header),
      IsAscii header.key.toList := by
    decide +kernel
  refine ⟨_, rfl, ascii, ?sends, @run_headers Path.Query.language _ _ _ rfl _ _ ascii _ _ _ ?sends⟩
  decide +kernel

end Provider

end HttpGauge
