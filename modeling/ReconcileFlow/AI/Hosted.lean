import ReconcileFlow.AI.Evaluation
import ReconcileFlow.AI.OpenAICompatible
import ReconcileFlow.Support.Retry

/-!
# AI — Hosted

The provider that asks an endpoint.  The endpoint has a state of its own and may answer, fail or be
cancelled as it likes; `urlsplit`, `json.dumps` and `json.loads` are parameters.

`infer_dealings`: one request is posted as often as the retries allow and no more, always the same,
and only as long as the endpoint is temporarily unavailable; what is returned is a valid response to
it, and what is raised tells nothing of what the endpoint has answered.
-/

namespace ReconcileFlow.AI

open Support

/-! ### Setting it up -/

/-- What `urlsplit` makes of a text; `None` and an empty text are the same here. -/
structure SplitUrl where
  scheme : String
  hostname : String
  username : String
  password : String
  query : String
  fragment : String

/-- An HTTPS URL, or one of this host, without credentials. -/
def SplitUrl.isSafe (url : SplitUrl) : Bool :=
  let localHttp := decide (url.scheme = "http") &&
    decide (url.hostname ∈ ["localhost", "127.0.0.1", "::1"])
  (decide (url.scheme = "https") || localHttp) && decide (url.hostname ≠ "") &&
    decide (url.username = "") && decide (url.password = "") && decide (url.query = "") &&
    decide (url.fragment = "")

structure OpenAICompatibleInferenceProvider where
  endpointUrl : String
  apiKey : String
  modelVersion : String
  maxRetries : ℕ
  retryBackoffSeconds : ℚ
  maximumResponseBytes : ℕ
  apiKey_valid : isText apiKey = true := by decide
  modelVersion_valid : isTextWithin 100 modelVersion = true := by decide
  maxRetries_range : maxRetries ≤ 5 := by decide
  maximumResponseBytes_range :
    1024 ≤ maximumResponseBytes ∧ maximumResponseBytes ≤ 1048576 := by decide

theorem isText_of_strip {value : String} (h : strip value ≠ "") : isText (strip value) = true := by
  refine isText_strip (Bool.not_eq_true _ ▸ fun hblank => h (strip_eq_empty hblank))

/-- `__init__`. -/
def OpenAICompatibleInferenceProvider.ofArguments (urlsplit : String → Except Failure SplitUrl)
    (endpointUrl apiKey modelVersion : String) (maxRetries : ℤ) (retryBackoffSeconds : ℚ)
    (maximumResponseBytes : ℤ) : Except Failure OpenAICompatibleInferenceProvider := do
  let parsedEndpoint ← urlsplit endpointUrl
  raiseUnless (parsedEndpoint.isSafe = true)
    (valueError "hosted inference endpoint must be an HTTPS URL without credentials")
  if hkey : strip apiKey ≠ "" then
    if hmodel : strip modelVersion ≠ "" ∧ modelVersion.length ≤ 100 then
      if hretries : 0 ≤ maxRetries ∧ maxRetries ≤ 5 then
        if hbytes : 1024 ≤ maximumResponseBytes ∧ maximumResponseBytes ≤ 1048576 then
          return {
            endpointUrl
            apiKey := strip apiKey
            modelVersion := strip modelVersion
            maxRetries := maxRetries.toNat
            retryBackoffSeconds
            maximumResponseBytes := maximumResponseBytes.toNat
            apiKey_valid := isText_of_strip hkey
            modelVersion_valid :=
              isTextWithin_strip ⟨hmodel.1, (length_strip_le modelVersion).trans hmodel.2⟩
            maxRetries_range := by omega
            maximumResponseBytes_range := by omega }
        else throw (valueError "maximum_response_bytes must be between 1024 and 1048576")
      else throw (valueError "max_retries must be between 0 and 5")
    else throw (valueError "model_version must be nonblank and at most 100 characters")
  else throw (valueError "hosted inference API key must not be blank")

/-! ### What is posted -/

/-- `_OUTPUT_SCHEMA`, with more limits of the list of suggestions. -/
def outputSchema (limits : List (String × Json)) : Json :=
  let ofType (kind : String) (more : List (String × Json)) : Json :=
    .obj (("type", .str kind) :: more)
  ofType "object" [("additionalProperties", .bool false),
    ("required", .arr [.str "suggestions"]),
    ("properties", .obj [("suggestions", ofType "array" (("items",
      ofType "object" [("additionalProperties", .bool false),
        ("required", .arr [.str "candidate_reference", .str "confidence", .str "reason_codes",
          .str "explanation"]),
        ("properties", .obj [
          ("candidate_reference", ofType "string" [("maxLength", .int 200)]),
          ("confidence", ofType "number" [("minimum", .int 0), ("maximum", .int 1)]),
          ("reason_codes", ofType "array" [("minItems", .int 1), ("maxItems", .int 10),
            ("items", ofType "string" [("pattern", .str "^[A-Z][A-Z0-9_]\x7b0,49\x7d$")])]),
          ("explanation", ofType "string" [("minLength", .int 1), ("maxLength", .int 500)])])]) ::
      limits))])]

/-- The signals of a candidate. -/
def NormalizedMatchFeatures.signals (item : NormalizedMatchFeatures) : Json :=
  .obj [("candidate_reference", .str item.candidateReference),
    ("amount_similarity", .float (.finite item.amountSimilarity)),
    ("date_similarity", .float (.finite item.dateSimilarity)),
    ("reference_similarity", .float (.finite item.referenceSimilarity)),
    ("currency_matches", .bool item.currencyMatches)]

structure HttpPost where
  url : String
  headers : List (String × String)
  json : Json

structure HttpResponse where
  statusCode : ℕ
  /-- `len(response.content)`. -/
  contentLength : ℕ
  /-- `response.json()`. -/
  body : Except PyError Json

/-- What comes of a post. -/
inductive HttpReply
  | timeoutException
  | networkError
  | response (response : HttpResponse)
  /-- Any other exception of the client, or the cancellation of the task. -/
  | raised (failure : Failure)

/-- What is asked for an answer over the network, with a state of its own. -/
structure Endpoint (σ : Type) where
  post : HttpPost → σ → HttpReply × σ
  /-- `sleep`, which may be cancelled. -/
  sleep : ℚ → σ → Except Failure Unit × σ

/-- What the encoder and the decoder of JSON do. -/
structure JsonRuntime where
  dumps : Json → String
  loads : String → Except PyError Json

def PyError.name : PyError → String
  | .keyError => "KeyError"
  | .typeError => "TypeError"
  | .valueError => "ValueError"
  | .attributeError => "AttributeError"
  | .overflowError => "OverflowError"
  | .stopIteration => "StopIteration"
  | .recursionError => "RecursionError"

/-- What leaves the reading of an answer, to the callers of a provider. -/
def ParseError.toFailure : ParseError → Failure
  | .inference message => .inference message
  | .other error => .other (PyError.name error)

def unavailable : Failure := .inference "AI inference provider is temporarily unavailable"

def authenticationFailed : Failure := .inference "AI inference provider authentication failed"

def requestRejected : Failure := .inference "AI inference provider rejected the request"

def invalidAnswer : Failure := .inference "inference provider returned an invalid response"

/-- The endpoint is to be asked again. -/
def HttpReply.isTransient : HttpReply → Bool
  | .timeoutException | .networkError => true
  | .response r => decide (r.statusCode = 429) ||
      (decide (500 ≤ r.statusCode) && decide (r.statusCode ≤ 599))
  | .raised _ => false

namespace OpenAICompatibleInferenceProvider

variable (self : OpenAICompatibleInferenceProvider) (json : JsonRuntime)

/-- `_payload`. -/
def payload (request : AIInferenceRequest) : Json :=
  let candidates := request.features.map (·.signals)
  let schema := outputSchema [("maxItems", .int candidates.length)]
  .obj [("model", .str self.modelVersion),
    ("instructions", .str ("Rank only the supplied opaque candidates using their normalized " ++
      "signals. Do not invent candidates or request source financial data.")),
    ("input", .str (json.dumps (.obj [("prompt_version", .str request.promptVersion),
      ("candidates", .arr candidates)]))),
    ("text", .obj [("format", .obj [("type", .str "json_schema"),
      ("name", .str "reconcileflow_match_suggestions"), ("strict", .bool true),
      ("schema", schema)])])]

/-- What is posted for a request. -/
def post (request : AIInferenceRequest) : HttpPost where
  url := self.endpointUrl
  headers := [("Authorization", "Bearer " ++ self.apiKey), ("Content-Type", "application/json")]
  json := self.payload json request

/-- What is made of a response that is not temporary. -/
def settleResponse (request : AIInferenceRequest) (response : HttpResponse) :
    Except Failure AIInferenceResponse :=
  if response.statusCode ∈ [401, 403] then .error authenticationFailed
  else if 400 ≤ response.statusCode then .error requestRejected
  else if self.maximumResponseBytes < response.contentLength then .error invalidAnswer
  else (parseResponse self.modelVersion json.loads response.body request).mapError
    ParseError.toFailure

def settle (request : AIInferenceRequest) : HttpReply → Except Failure AIInferenceResponse
  | .response response => self.settleResponse json request response
  | .raised failure => .error failure
  | .timeoutException | .networkError => .error unavailable

variable {σ : Type}

/-- How a request is repeated. -/
def retry (endpoint : Endpoint σ) (request : AIInferenceRequest) :
    Retry σ HttpReply Failure AIInferenceResponse where
  request := endpoint.post (self.post json request)
  pause attempt := endpoint.sleep (self.retryBackoffSeconds * 2 ^ attempt)
  isTransient := HttpReply.isTransient
  settle := self.settle json request
  exhausted := unavailable

def infer (endpoint : Endpoint σ) : Provider σ := fun request state =>
  (self.retry json endpoint request).run self.maxRetries (List.range (self.maxRetries + 1)) state

end OpenAICompatibleInferenceProvider

/-! ### What the reading of an answer tells -/

/-- What is raised says nothing of the answer. -/
def IsConstant (error : ParseError) : Prop :=
  ∀ message, error = .inference message → error = invalidResponse

section

variable {modelVersion : String} {loads : String → Except PyError Json}
  {body : Except PyError Json} {request : AIInferenceRequest}

theorem constant_invalidResponse : IsConstant invalidResponse := fun _ _ => rfl

theorem constant_attempt {α : Type} {x : Except PyError α} :
    RaisesOnly IsConstant (attempt x) := by
  refine raisesOnly_attempt.mpr fun error _ message h => ?_
  cases h

theorem constant_boundedText {value : String} {maximum : ℕ} :
    RaisesOnly IsConstant (boundedText value maximum) := by
  unfold boundedText
  split
  · exact raisesOnly_ok _
  · exact raisesOnly_error.mpr constant_invalidResponse

theorem constant_readConfidence {value : Json} : RaisesOnly IsConstant (readConfidence value) := by
  have hscore (found : Option Decimal) : RaisesOnly IsConstant (scoreOf found) := by
    unfold scoreOf
    split
    · split
      · exact raisesOnly_ok _
      · exact raisesOnly_error.mpr constant_invalidResponse
    · exact raisesOnly_error.mpr constant_invalidResponse
  unfold readConfidence
  split
  · exact raisesOnly_error.mpr constant_invalidResponse
  · exact raisesOnly_bind.mpr ⟨constant_attempt, fun found _ => hscore found⟩

theorem constant_readReasonCodes {values : List Json} :
    RaisesOnly IsConstant (readReasonCodes values) := by
  unfold readReasonCodes
  split
  · split
    · next e hcodes =>
      refine raisesOnly_error.mpr ?_
      obtain ⟨before, value, after, -, -, he⟩ := mapM_eq_error_iff.mp hcodes
      unfold readReasonCode at he
      split at he
      · split at he
        · cases he
        · cases he
          exact constant_invalidResponse
      · cases he
        intro message h
        cases h
    · exact raisesOnly_ok _
  · exact raisesOnly_error.mpr constant_invalidResponse

theorem constant_readSuggestion {item : Json} : RaisesOnly IsConstant (readSuggestion item) := by
  refine raisesOnly_bind.mpr ⟨constant_attempt, fun fields _ => ?_⟩
  refine raisesOnly_bind.mpr ⟨constant_attempt, fun reference _ => ?_⟩
  refine raisesOnly_bind.mpr ⟨constant_attempt, fun summary _ => ?_⟩
  refine raisesOnly_bind.mpr ⟨constant_boundedText, fun reference _ => ?_⟩
  refine raisesOnly_bind.mpr ⟨constant_readConfidence, fun score _ => ?_⟩
  refine raisesOnly_bind.mpr ⟨constant_boundedText, fun summary _ => ?_⟩
  exact raisesOnly_bind.mpr ⟨constant_readReasonCodes, fun codes _ => raisesOnly_pure _⟩

theorem constant_readAnswer : RaisesOnly IsConstant (readAnswer loads body) := by
  refine raisesOnly_bind.mpr ⟨constant_attempt, fun read _ => ?_⟩
  refine raisesOnly_bind.mpr ⟨?_, fun suggestions _ => raisesOnly_pure _⟩
  exact raisesOnly_mapM.mpr fun before item after _ _ => constant_readSuggestion

theorem constant_readTokens {value : Json} : RaisesOnly IsConstant (readTokens value) := by
  unfold readTokens
  split
  · split
    · exact raisesOnly_ok _
    · exact raisesOnly_error.mpr constant_invalidResponse
  · exact raisesOnly_error.mpr constant_invalidResponse

theorem constant_ofJson {suggestions : List AIInferenceSuggestion} {model prompt : String}
    {input output : Json} :
    RaisesOnly IsConstant (AIInferenceResponse.ofJson suggestions model prompt input output) := by
  unfold AIInferenceResponse.ofJson
  split
  · split
    · split
      · refine raisesOnly_bind.mpr ⟨constant_readTokens, fun input _ => ?_⟩
        exact raisesOnly_bind.mpr ⟨constant_readTokens, fun output _ => raisesOnly_pure _⟩
      · exact raisesOnly_error.mpr constant_invalidResponse
    · exact raisesOnly_error.mpr constant_invalidResponse
  · exact raisesOnly_error.mpr constant_invalidResponse

/-- All inference errors of the reading are the same. -/
theorem constant_parseResponse :
    RaisesOnly IsConstant (parseResponse modelVersion loads body request) := by
  refine raisesOnly_bind.mpr ⟨raisesOnly_mapError.mpr fun error herror => ?_, fun read _ => ?_⟩
  · have hconstant := constant_readAnswer error herror
    cases error with
    | inference message => exact hconstant
    | other error =>
      simp only [ParseError.handled]
      split
      · exact constant_invalidResponse
      · exact hconstant
  · obtain ⟨usage, suggestions⟩ := read
    show RaisesOnly IsConstant (buildResponse modelVersion request usage suggestions)
    unfold buildResponse
    by_cases hmany : request.features.length < suggestions.length
    · rw [if_pos hmany]
      exact raisesOnly_error.mpr constant_invalidResponse
    · rw [if_neg hmany]
      refine raisesOnly_bind.mpr ⟨constant_attempt, fun input _ => ?_⟩
      exact raisesOnly_bind.mpr ⟨constant_attempt, fun output _ => constant_ofJson⟩

theorem inference_of_legible (h : Legible loads body request) :
    RaisesOnly IsInference (parseResponse modelVersion loads body request) := by
  refine inference_parseResponse.mpr ⟨safe_readAnswer.mpr ⟨caught_readEntries.mpr ⟨h.parsed,
    fun envelope hbody => ⟨?_, fun text => h.text envelope text hbody⟩⟩, h.entries⟩, h.usage⟩
  exact caught_outputText.mpr fun output items => h.items envelope output items hbody

theorem versions_of_ofJson {suggestions : List AIInferenceSuggestion} {model prompt : String}
    {input output : Json} {response : AIInferenceResponse}
    (h : AIInferenceResponse.ofJson suggestions model prompt input output = .ok response) :
    response.modelVersion = model ∧ response.promptVersion = prompt := by
  unfold AIInferenceResponse.ofJson at h
  split at h
  · split at h
    · split at h
      · obtain ⟨_, _, h⟩ := bind_eq_ok_iff.mp h
        obtain ⟨_, _, h⟩ := bind_eq_ok_iff.mp h
        rw [← Except.ok.inj h]
        exact ⟨rfl, rfl⟩
      · cases h
    · cases h
  · cases h

theorem versions_of_parse {response : AIInferenceResponse}
    (h : parseResponse modelVersion loads body request = .ok response) :
    response.modelVersion = modelVersion ∧ response.promptVersion = request.promptVersion := by
  obtain ⟨⟨usage, suggestions⟩, -, h⟩ := bind_eq_ok_iff.mp h
  change buildResponse modelVersion request usage suggestions = .ok response at h
  unfold buildResponse at h
  by_cases hmany : request.features.length < suggestions.length
  · rw [if_pos hmany] at h
    cases h
  · rw [if_neg hmany] at h
    obtain ⟨_, -, h⟩ := bind_eq_ok_iff.mp h
    obtain ⟨_, -, h⟩ := bind_eq_ok_iff.mp h
    exact versions_of_ofJson h

end

/-! ### What comes of a request -/

/-- A call that an endpoint receives. -/
inductive HostedCall
  | posted (post : HttpPost) (reply : HttpReply)
  | slept (seconds : ℚ) (result : Except Failure Unit)

/-- The endpoint records what it receives. -/
def Endpoint.recorded {σ : Type} (endpoint : Endpoint σ) : Endpoint (σ × List HostedCall) where
  post post state :=
    let (reply, next) := endpoint.post post state.1
    (reply, next, state.2 ++ [.posted post reply])
  sleep seconds state :=
    let (result, next) := endpoint.sleep seconds state.1
    (result, next, state.2 ++ [.slept seconds result])

namespace OpenAICompatibleInferenceProvider

variable (self : OpenAICompatibleInferenceProvider) (json : JsonRuntime)
  (request : AIInferenceRequest)

/-- The pause after an attempt; it is twice as long as the one before. -/
def pauseAfter (attempt : ℕ) : ℚ := self.retryBackoffSeconds * 2 ^ attempt

/-- The calls of attempts that have failed, from the number `attempt` on: the same is posted each
time, and each post is followed by its pause. -/
def failedAttempts : ℕ → List HttpReply → List HostedCall
  | _, [] => []
  | attempt, reply :: replies =>
    .posted (self.post json request) reply :: .slept (self.pauseAfter attempt) (.ok ()) ::
      failedAttempts (attempt + 1) replies

end OpenAICompatibleInferenceProvider

/-- What an endpoint receives for a request, and what is answered to it. -/
structure Dealings (provider : OpenAICompatibleInferenceProvider) (json : JsonRuntime)
    (request : AIInferenceRequest) (calls : List HostedCall)
    (result : Except Failure AIInferenceResponse) : Prop where
  /-- It is posted again as long as the endpoint is temporarily unavailable and the retries last,
  unless a pause is interrupted. -/
  ordered : ∃ failed last rest, calls = provider.failedAttempts json request 0 failed ++
      .posted (provider.post json request) last :: rest ∧
    (∀ reply ∈ failed, reply.isTransient = true) ∧ failed.length ≤ provider.maxRetries ∧
    (rest = [] ∧ (last.isTransient = true → failed.length = provider.maxRetries) ∨
      ∃ e, rest = [.slept (provider.pauseAfter failed.length) (.error e)] ∧
        last.isTransient = true ∧ failed.length < provider.maxRetries ∧ result = .error e)
  returned : ∀ response, result = .ok response → Valid request response ∧
    response.modelVersion = provider.modelVersion ∧ response.promptVersion = request.promptVersion ∧
    ∃ r, calls.getLast? = some (.posted (provider.post json request) (.response r)) ∧
      r.statusCode < 400 ∧ r.contentLength ≤ provider.maximumResponseBytes ∧
      parseResponse provider.modelVersion json.loads r.body request = .ok response
  /-- What is raised is one of four errors, unless the client or the pause has raised it, or the
  answer is not legible. -/
  raised : ∀ e, result = .error e →
    e ∈ [unavailable, authenticationFailed, requestRejected, invalidAnswer] ∨
    (∃ post, HostedCall.posted post (.raised e) ∈ calls) ∨
    (∃ seconds, HostedCall.slept seconds (.error e) ∈ calls) ∨
    ∃ post r, HostedCall.posted post (.response r) ∈ calls ∧ ¬ Legible json.loads r.body request

namespace OpenAICompatibleInferenceProvider

variable (self : OpenAICompatibleInferenceProvider) (json : JsonRuntime) {σ : Type}
  (request : AIInferenceRequest)

/-- The calls that an event is about. -/
def note : Retry.Event HttpReply Failure → HostedCall
  | .requested reply => .posted (self.post json request) reply
  | .paused attempt result => .slept (self.pauseAfter attempt) result

theorem recorded_retry (endpoint : Endpoint σ) : self.retry json endpoint.recorded request =
    (self.retry json endpoint request).recorded (self.note json request) := rfl

variable {self json request}

/-- The calls of failed attempts. -/
theorem note_failures {attempt : ℕ} {failed : List HttpReply} :
    (Retry.failures attempt failed).map (self.note json request) =
      self.failedAttempts json request attempt failed := by
  induction failed generalizing attempt with
  | nil => rfl
  | cons reply failed ih =>
    rw [Retry.failures, List.map_cons, List.map_cons, ih]
    rfl

/-- An error that a reply is settled with. -/
theorem settle_error {reply : HttpReply} {e : Failure}
    (h : self.settle json request reply = .error e) :
    e ∈ [unavailable, authenticationFailed, requestRejected, invalidAnswer] ∨ reply = .raised e ∨
      ∃ r, reply = .response r ∧ ¬ Legible json.loads r.body request := by
  cases reply with
  | timeoutException | networkError =>
    obtain rfl := Except.error.inj h
    exact .inl (by simp)
  | raised failure => exact .inr (.inl (congrArg _ (Except.error.inj h)))
  | response r =>
    simp only [settle, settleResponse] at h
    split at h
    · obtain rfl := Except.error.inj h
      exact .inl (by simp)
    · split at h
      · obtain rfl := Except.error.inj h
        exact .inl (by simp)
      · split at h
        · obtain rfl := Except.error.inj h
          exact .inl (by simp)
        · obtain ⟨error, hparse, rfl⟩ := mapError_eq_error_iff.mp h
          cases error with
          | inference message =>
            obtain h := constant_parseResponse _ hparse message rfl
            rw [h]
            exact .inl (by simp [ParseError.toFailure, invalidResponse, invalidAnswer])
          | other error =>
            refine .inr (.inr ⟨r, rfl, fun hlegible => ?_⟩)
            obtain ⟨message, hmessage⟩ := inference_of_legible hlegible _ hparse
            cases hmessage

/-- What a reply is settled with. -/
theorem settle_ok {reply : HttpReply} {response : AIInferenceResponse}
    (h : self.settle json request reply = .ok response) :
    Valid request response ∧ response.modelVersion = self.modelVersion ∧
      response.promptVersion = request.promptVersion ∧
      ∃ r, reply = .response r ∧ r.statusCode < 400 ∧
        r.contentLength ≤ self.maximumResponseBytes ∧
        parseResponse self.modelVersion json.loads r.body request = .ok response := by
  cases reply with
  | timeoutException | networkError | raised failure => cases h
  | response r =>
    simp only [settle, settleResponse] at h
    split at h
    · cases h
    · split at h
      · cases h
      · split at h
        · cases h
        · next hstatus hlength =>
          have hparse := mapError_eq_ok_iff.mp h
          obtain ⟨hmodel, hprompt⟩ := versions_of_parse hparse
          exact ⟨valid_of_parse hparse, hmodel, hprompt, r, rfl, not_le.mp hstatus,
            not_lt.mp hlength, hparse⟩

/-- What happened, in the words of the endpoint. -/
theorem dealings_of_history {endpoint : Endpoint σ}
    {seen : List (Retry.Event HttpReply Failure)} {result : Except Failure AIInferenceResponse}
    (h : (self.retry json endpoint request).History 0 self.maxRetries seen result) :
    Dealings self json request (seen.map (self.note json request)) result := by
  cases h with
  | settled failed reply hlength hfailed hreply =>
    rw [List.map_append, note_failures]
    have hlast : HostedCall.posted (self.post json request) reply ∈
        self.failedAttempts json request 0 failed ++
          [.posted (self.post json request) reply] :=
      List.mem_append_right _ List.mem_cons_self
    refine ⟨⟨failed, reply, [], rfl, hfailed, hlength, .inl ⟨rfl, fun htransient => ?_⟩⟩,
      fun response hresponse => ?_, fun e he => ?_⟩
    · cases hreply.symm.trans htransient
    · obtain ⟨hvalid, hmodel, hprompt, r, rfl, hr⟩ := settle_ok hresponse
      exact ⟨hvalid, hmodel, hprompt, r, List.getLast?_concat, hr⟩
    · obtain hmem | rfl | ⟨r, rfl, hr⟩ := settle_error he
      · exact .inl hmem
      · exact .inr (.inl ⟨_, hlast⟩)
      · exact .inr (.inr (.inr ⟨_, r, hlast, hr⟩))
  | exhausted failed reply hlength hfailed hreply =>
    rw [List.map_append, note_failures]
    refine ⟨⟨failed, reply, [], rfl, hfailed, hlength.le, .inl ⟨rfl, fun _ => hlength⟩⟩,
      fun response hresponse => ?_, fun e he => ?_⟩
    · cases hresponse
    · obtain rfl := Except.error.inj he
      exact .inl (by simp [retry])
  | interrupted failed reply e hlength hfailed hreply =>
    rw [List.map_append, note_failures, Nat.zero_add]
    have hcall : HostedCall.slept (self.pauseAfter failed.length) (.error e) ∈
        self.failedAttempts json request 0 failed ++
          [.posted (self.post json request) reply,
            .slept (self.pauseAfter failed.length) (.error e)] :=
      List.mem_append_right _ (List.mem_cons_of_mem _ List.mem_cons_self)
    refine ⟨⟨failed, reply, _, rfl, hfailed, hlength.le, .inr ⟨e, rfl, hreply, hlength, rfl⟩⟩,
      fun response hresponse => ?_, fun other hother => ?_⟩
    · cases hresponse
    · obtain rfl := Except.error.inj hother
      exact .inr (.inr (.inl ⟨_, hcall⟩))

/-- A provider that was set up asks a safe endpoint. -/
theorem safe_of_ofArguments {urlsplit : String → Except Failure SplitUrl}
    {endpointUrl apiKey modelVersion : String} {maxRetries maximumResponseBytes : ℤ}
    {retryBackoffSeconds : ℚ}
    (h : ofArguments urlsplit endpointUrl apiKey modelVersion maxRetries retryBackoffSeconds
      maximumResponseBytes = .ok self) :
    ∃ url, urlsplit self.endpointUrl = .ok url ∧ url.isSafe = true := by
  obtain ⟨url, hurl, h⟩ := bind_ok.mp h
  obtain ⟨_, hsafe, h⟩ := bind_ok.mp h
  split at h
  · split at h
    · split at h
      · split at h
        · obtain rfl := Except.ok.inj h
          exact ⟨url, hurl, raiseUnless_ok.mp hsafe⟩
        · cases h
      · cases h
    · cases h
  · cases h

theorem exists_ofArguments {urlsplit : String → Except Failure SplitUrl}
    {endpointUrl apiKey modelVersion : String} {maxRetries maximumResponseBytes : ℕ}
    {url : SplitUrl}
    (hurl : urlsplit endpointUrl = .ok url) (hsafe : url.isSafe = true) (hkey : strip apiKey ≠ "")
    (hmodel : strip modelVersion ≠ "" ∧ modelVersion.length ≤ 100) (hretries : maxRetries ≤ 5)
    (retryBackoffSeconds : ℚ)
    (hbytes : 1024 ≤ maximumResponseBytes ∧ maximumResponseBytes ≤ 1048576) :
    ∃ provider, ofArguments urlsplit endpointUrl apiKey modelVersion maxRetries retryBackoffSeconds
      maximumResponseBytes = .ok provider := by
  unfold ofArguments
  rw [hurl, dif_pos hkey, dif_pos hmodel, dif_pos (by omega), dif_pos (by omega)]
  exact ⟨_, bind_ok.mpr ⟨url, rfl, bind_ok.mpr ⟨(), raiseUnless_ok.mpr hsafe, rfl⟩⟩⟩

/-- **What an endpoint receives for a request**, and what comes of it. -/
theorem infer_dealings {urlsplit : String → Except Failure SplitUrl}
    {endpointUrl apiKey modelVersion : String} {maxRetries maximumResponseBytes : ℤ}
    {retryBackoffSeconds : ℚ}
    (h : ofArguments urlsplit endpointUrl apiKey modelVersion maxRetries retryBackoffSeconds
      maximumResponseBytes = .ok self) (endpoint : Endpoint σ) (state : σ) :
    (∃ url, urlsplit self.endpointUrl = .ok url ∧ url.isSafe = true) ∧
      (self.infer json endpoint.recorded request (state, [])).1 =
        (self.infer json endpoint request state).1 ∧
      Dealings self json request (self.infer json endpoint.recorded request (state, [])).2.2
        (self.infer json endpoint request state).1 := by
  refine ⟨safe_of_ofArguments h, ?_⟩
  unfold infer
  rw [recorded_retry, List.range_eq_range']
  refine ⟨Retry.recorded_run, ?_⟩
  obtain ⟨seen, hseen, hhistory⟩ := @Retry.run_history _ _ _ _ _ (self.retry json endpoint request)
    (self.note json request) 0 state [] self.maxRetries
  rw [Nat.zero_add] at hseen hhistory
  rw [hseen]
  exact dealings_of_history hhistory

end OpenAICompatibleInferenceProvider

/-! ### An answer at the second attempt -/

def hostedRequest : AIInferenceRequest :=
  ⟨[⟨"candidate-opaque", ⟨false, 95, -2⟩, ⟨false, 8, -1⟩, ⟨false, 75, -2⟩, true⟩], "prompt-v1"⟩

/-- What the encoder and the decoder make of the payload and of the answer. -/
def hostedJson : JsonRuntime where
  dumps _ := "\x7b\"prompt_version\": \"prompt-v1\", \"candidates\": " ++
    "[\x7b\"candidate_reference\": \"candidate-opaque\", \"amount_similarity\": 0.95, " ++
    "\"date_similarity\": 0.8, \"reference_similarity\": 0.75, \"currency_matches\": true\x7d]\x7d"
  loads _ := .ok (.obj [("suggestions", .arr [])])

def noSuggestion : Json :=
  .obj [("output", .arr [.obj [("type", .str "message"), ("content", .arr [
    .obj [("type", .str "output_text"), ("text", .str "\x7b\"suggestions\": []\x7d")]])]])]

/-- The replies are given one after another. -/
def scripted : Endpoint (List HttpReply) where
  post _ replies := (replies.headD .networkError, replies.tail)
  sleep _ replies := (.ok (), replies)

def hostedReplies : List HttpReply :=
  [.response ⟨503, 0, .error .valueError⟩, .response ⟨200, 120, .ok noSuggestion⟩]

def hostedProvider : OpenAICompatibleInferenceProvider where
  endpointUrl := "https://api.example.com/v1/responses"
  apiKey := "super-secret-api-key"
  modelVersion := "hosted-model-v1"
  maxRetries := 2
  retryBackoffSeconds := 1 / 4
  maximumResponseBytes := 4096

theorem infer_dealings_scripted : ∃ calls response,
    hostedProvider.infer hostedJson scripted.recorded hostedRequest (hostedReplies, []) =
      (.ok response, [], calls) ∧
    calls.length = 3 ∧ Dealings hostedProvider hostedJson hostedRequest calls (.ok response) := by
  have hself : OpenAICompatibleInferenceProvider.ofArguments
      (fun _ => .ok ⟨"https", "api.example.com", "", "", "", ""⟩)
      "https://api.example.com/v1/responses" "super-secret-api-key" "hosted-model-v1" 2 (1 / 4)
      4096 = .ok hostedProvider := rfl
  refine ⟨_, _, rfl, rfl, ?_⟩
  exact (OpenAICompatibleInferenceProvider.infer_dealings hself scripted hostedReplies).2.2

end ReconcileFlow.AI
