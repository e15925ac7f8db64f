import LaunchOS.AiRuntime.AgentRun
import LaunchOS.AiRuntime.Definitions
import LaunchOS.Analytics.Contracts

/-!
# The model router and the provider

What stands between an agent run and the provider of its model: the router picks a route for the
capability of the contract, and the adapter of the route turns what the provider answers into a typed
result or one of two errors, of which only one is worth another attempt.

The module introduces:

* `ModelRequest`, `ProviderResult`, `ModelAdapter`: what is asked, and what comes back;
* `ModelRouter`: the routes of a deployment;
* `ClientError`, `Response`: what the client of the provider may do;
* `OpenAIResponsesAdapter.invoke`: the adapter;
* `parsed_iff`, `invoke_eq_error`: when an output is accepted, and when the call fails.
-/

namespace LaunchOS

variable {M : Type}

/-! ## Requests and results -/

/-- `AIConfigurationError`, a `PermanentJobError`. -/
def JobError.aiConfigurationError (message : String) : JobError :=
  ⟨.permanent, "AIConfigurationError", message⟩

/-- `AIPermanentProviderError`, a `PermanentJobError`. -/
def JobError.aiPermanentProviderError (message : String) : JobError :=
  ⟨.permanent, "AIPermanentProviderError", message⟩

/-- `AITransientProviderError`, a `TransientJobError`. -/
def JobError.aiTransientProviderError (message : String) : JobError :=
  ⟨.transient, "AITransientProviderError", message⟩

/-- `ModelRequest`, less the ids that correlate it. -/
structure ModelRequest where
  capability : ModelCapability
  selectedProviderName : String
  selectedModelName : String
  systemInstructions : String
  instructionVersion : String
  structuredContext : Text
  contextManifest : Json
  contextHash : Text
  outputType : OutputModel
  safeGenerationPolicy : Option String := none

/-- `ProviderMetadata`; times are written in ISO format. -/
structure ProviderMetadata where
  providerName : String
  modelName : String
  responseId : Option String
  tokenUsage : List (String × ℤ)
  latencyMs : Option ℤ
  startedAt : Text
  completedAt : Text

/-- `ModelResultKind` -/
inductive ModelResultKind
  | parsed
  | refusal
  | incomplete
  | invalidOutput
deriving DecidableEq, Repr

/-- `ModelResult`, all of it. -/
structure ProviderResult (M : Type) where
  kind : ModelResultKind
  parsedOutput : Option M := none
  refusal : Option String := none
  incompleteReason : Option String := none
  invalidOutputReason : Option String := none
  metadata : ProviderMetadata

/-- `incomplete_reason or invalid_output_reason` -/
def ProviderResult.reason (result : ProviderResult M) : Option String :=
  match result.incompleteReason with
  | some text => if text = "" then result.invalidOutputReason else some text
  | none => result.invalidOutputReason

/-- What `_persist_model_result` reads of a result, less its metadata. -/
def ProviderResult.toModelResult (result : ProviderResult M) : ModelResult M :=
  match result.kind with
  | .parsed => .parsed result.parsedOutput
  | .refusal => .refusal result.refusal
  | .incomplete => .incomplete result.reason
  | .invalidOutput => .invalidOutput result.reason

/-- `ModelAdapter.invoke` -/
abbrev ModelAdapter (M : Type) := ModelRequest → Except JobError (ProviderResult M)

/-! ## The router -/

/-- `ModelRoute` -/
structure ModelRoute where
  capability : ModelCapability
  providerName : String
  modelName : String

/-- `ModelRouter` -/
structure ModelRouter (M : Type) where
  routes : List (ModelCapability × ModelRoute)
  adapters : List (String × ModelAdapter M)
  /-- "model route capability mismatch" -/
  matched : ∀ entry ∈ routes, entry.2.capability = entry.1

/-- `ResolvedModelRoute` -/
structure ResolvedModelRoute (M : Type) where
  route : ModelRoute
  adapter : ModelAdapter M

namespace ModelRouter

variable {router : ModelRouter M} {capability : ModelCapability} {resolved : ResolvedModelRoute M}

/-- `ModelRouter.resolve` -/
def resolve (router : ModelRouter M) (capability : ModelCapability) :
    Except JobError (ResolvedModelRoute M) := do
  let route ← orRaise (.aiConfigurationError
      ("no model route configured for capability " ++ capability.value))
    (router.routes.lookup capability)
  let adapter ← orRaise (.aiConfigurationError
      ("no adapter configured for provider " ++ route.providerName))
    (router.adapters.lookup route.providerName)
  return ⟨route, adapter⟩

/-- A route that is found is one of the capability, with the adapter of its provider. -/
theorem resolve_eq_ok (h : router.resolve capability = .ok resolved) :
    (capability, resolved.route) ∈ router.routes ∧ resolved.route.capability = capability ∧
      router.adapters.lookup resolved.route.providerName = some resolved.adapter := by
  obtain ⟨route, hroute, h⟩ := Except.bind_eq_ok_iff.mp h
  obtain ⟨adapter, hadapter, h⟩ := Except.bind_eq_ok_iff.mp h
  obtain rfl := Except.ok.inj h
  obtain ⟨before, after, hroutes, -⟩ := List.lookup_eq_some_iff.mp (orRaise_eq_ok_iff.mp hroute)
  have hmem : (capability, route) ∈ router.routes := by
    rw [hroutes]
    simp
  exact ⟨hmem, router.matched _ hmem, orRaise_eq_ok_iff.mp hadapter⟩

end ModelRouter

/-! ## The client of the provider -/

/-- What `self._client.responses.parse` raises. -/
inductive ClientError
  /-- `APIConnectionError`, or `APITimeoutError`, which is one -/
  | connection (timeout : Bool)
  /-- `RateLimitError`, an `APIStatusError` -/
  | rateLimit (statusCode : ℕ)
  /-- any other `APIStatusError` -/
  | status (className : String) (statusCode : ℕ)
  /-- any other `APIError` -/
  | api (className : String)
  /-- `ValidationError`, with the message of its first error -/
  | validation (message : String)
  /-- any other exception -/
  | raised (error : JobError)

/-- A response: its attributes, and `output_parsed`. -/
structure Response (M : Type) where
  attributes : Analytics.Json
  outputParsed : Option M := none

/-- `getattr(value, name, None)` -/
def getattr (value : Analytics.Json) (name : String) : Analytics.Json :=
  match value with
  | .dict fields => (fields.lookup name).getD .null
  | _ => .null

/-- `value or other`, where `value` counts as false. -/
def isFalsy : Analytics.Json → Bool
  | .null => true
  | .bool value => !value
  | .int value => value = 0
  | .float text => text = "0.0" ∨ text = "-0.0"
  | .str value => value = ""
  | .list items => items.isEmpty
  | .dict fields => fields.isEmpty

/-- `isinstance(value, str)` -/
def asStr : Analytics.Json → Option String
  | .str value => some value
  | _ => none

namespace OpenAIResponsesAdapter

/-- `_is_transient_status` -/
def isTransientStatus (statusCode : ℕ) : Bool :=
  statusCode ∈ [408, 409, 429] ∨ 500 ≤ statusCode

/-- `_safe_error` -/
def safeError : ClientError → String
  | .rateLimit code => "RateLimitError: provider status " ++ toString code
  | .status className code => className ++ ": provider status " ++ toString code
  | .connection timeout =>
      (if timeout then "APITimeoutError" else "APIConnectionError") ++ ": provider request failed"
  | .api className => className ++ ": provider request failed"
  | .validation _ => "ValidationError: provider request failed"
  | .raised error => error.className ++ ": provider request failed"

/-- `_response_id` -/
def responseId (response : Response M) : Option String :=
  let id := getattr response.attributes "id"
  asStr (if isFalsy id then getattr response.attributes "_request_id" else id)

/-- `_token_usage` -/
def tokenUsage (response : Response M) : List (String × ℤ) :=
  ["input_tokens", "output_tokens", "total_tokens"].filterMap fun name =>
    (getattr (getattr response.attributes "usage") name).asInt.map (name, ·)

/-- A part of the content of an item of the output. -/
def partRefusal (part : Analytics.Json) : Option String :=
  match getattr part "type" with
  | .str "refusal" => asStr (getattr part "refusal")
  | _ => none

/-- An item of the output. -/
def itemRefusal (item : Analytics.Json) : Option String :=
  match getattr item "content" with
  | .list parts => parts.findSome? partRefusal
  | _ => none

/-- `_extract_refusal` -/
def extractRefusal (response : Response M) : Option String :=
  match getattr response.attributes "output" with
  | .list items => items.findSome? itemRefusal
  | _ => none

/-- `_incomplete_reason` -/
def incompleteReason (response : Response M) : Option String :=
  match getattr response.attributes "status" with
  | .str "incomplete" =>
      some ((asStr (getattr (getattr response.attributes "incomplete_details") "reason")).getD
        "incomplete")
  | _ => none

/-- When the call was made, and how long it took. -/
structure Timing where
  startedAt : Text
  completedAt : Text
  latencyMs : ℤ

section Invoke

-- the class of an output
variable (className : M → String) (timing : Timing)

/-- The metadata of a call that has not given a response. -/
def metadata (request : ModelRequest) : ProviderMetadata where
  providerName := "openai"
  modelName := request.selectedModelName
  responseId := none
  tokenUsage := []
  latencyMs := some timing.latencyMs
  startedAt := timing.startedAt
  completedAt := timing.completedAt

/-- The part of `invoke` after the call. -/
def readResponse (request : ModelRequest) (response : Response M) : ProviderResult M :=
  let metadata := { metadata timing request with
    responseId := responseId response
    tokenUsage := tokenUsage response }
  match extractRefusal response, incompleteReason response, response.outputParsed with
  | some refusal, _, _ => { kind := .refusal, refusal := some refusal, metadata := metadata }
  | none, some reason, _ =>
      { kind := .incomplete, incompleteReason := some reason, metadata := metadata }
  | none, none, none =>
      { kind := .invalidOutput
        invalidOutputReason := some "OpenAI response did not include parsed structured output"
        metadata := metadata }
  | none, none, some parsed =>
      if className parsed = request.outputType.name then
        { kind := .parsed, parsedOutput := some parsed, metadata := metadata }
      else
        { kind := .invalidOutput
          invalidOutputReason :=
            some "OpenAI parsed output type did not match requested schema"
          metadata := metadata }

/-- The `except` clauses of `invoke`, in their order. -/
def handleError (request : ModelRequest) (error : ClientError) :
    Except JobError (ProviderResult M) :=
  match error with
  | .connection _ | .rateLimit _ => .error (.aiTransientProviderError (safeError error))
  | .status _ code =>
      if isTransientStatus code then .error (.aiTransientProviderError (safeError error))
      else .error (.aiPermanentProviderError (safeError error))
  | .api _ => .error (.aiPermanentProviderError (safeError error))
  | .validation message =>
      .ok { kind := .invalidOutput
            invalidOutputReason := some message
            metadata := metadata timing request }
  | .raised error => .error error

/-- `OpenAIResponsesAdapter.invoke`, over what the client does with the request. -/
def invoke (client : ModelRequest → Except ClientError (Response M)) : ModelAdapter M :=
  fun request =>
    match client request with
    | .ok response => .ok (readResponse className timing request response)
    | .error error => handleError timing request error

variable {className timing} {client : ModelRequest → Except ClientError (Response M)}
variable {request : ModelRequest} {response : Response M} {result : ProviderResult M}

/-- Whatever the response, the result names the model that was asked. -/
theorem metadata_readResponse :
    (readResponse className timing request response).metadata.providerName = "openai" ∧
      (readResponse className timing request response).metadata.modelName =
        request.selectedModelName := by
  unfold readResponse
  dsimp only
  split
  · exact ⟨rfl, rfl⟩
  · exact ⟨rfl, rfl⟩
  · exact ⟨rfl, rfl⟩
  · split <;> exact ⟨rfl, rfl⟩

/-- A result names the model that was asked. -/
theorem metadata_invoke (h : invoke className timing client request = .ok result) :
    result.metadata.providerName = "openai" ∧
      result.metadata.modelName = request.selectedModelName := by
  unfold invoke at h
  split at h
  next response _ =>
    rw [← Except.ok.inj h]
    exact metadata_readResponse
  next error _ =>
    unfold handleError at h
    split at h
    next => cases h
    next => cases h
    next => split at h <;> cases h
    next => cases h
    next =>
      rw [← Except.ok.inj h]
      exact ⟨rfl, rfl⟩
    next => cases h

/-- A part that refuses. -/
def Refuses (part : Analytics.Json) : Prop :=
  getattr part "type" = .str "refusal" ∧ ∃ text, getattr part "refusal" = .str text

theorem partRefusal_eq_none_iff {part : Analytics.Json} :
    partRefusal part = none ↔ ¬ Refuses part := by
  unfold partRefusal Refuses
  cases htype : getattr part "type" with
  | str type =>
      by_cases hrefusal : type = "refusal"
      · subst hrefusal
        cases getattr part "refusal" <;> simp [asStr]
      · simp [hrefusal]
  | _ => simp

/-- No part of the output refuses. -/
def Unrefused (response : Response M) : Prop :=
  ∀ items, getattr response.attributes "output" = .list items →
    ∀ item ∈ items, ∀ parts, getattr item "content" = .list parts → ∀ part ∈ parts, ¬ Refuses part

theorem extractRefusal_eq_none_iff : extractRefusal response = none ↔ Unrefused response := by
  have hitem : ∀ item, itemRefusal item = none ↔
      ∀ parts, getattr item "content" = .list parts → ∀ part ∈ parts, ¬ Refuses part := by
    intro item
    unfold itemRefusal
    cases getattr item "content" <;> simp [List.findSome?_eq_none_iff, partRefusal_eq_none_iff]
  unfold extractRefusal Unrefused
  cases getattr response.attributes "output" <;> simp [List.findSome?_eq_none_iff, hitem]

theorem incompleteReason_eq_none_iff :
    incompleteReason response = none ↔
      getattr response.attributes "status" ≠ .str "incomplete" := by
  unfold incompleteReason
  split
  next h => simp [h]
  next h => simpa using h

/-- An output is accepted exactly if no part of the response refuses, the response is complete, and
the output is of the class that the contract asks for. -/
theorem parsed_iff : (readResponse className timing request response).kind = .parsed ↔
    Unrefused response ∧ getattr response.attributes "status" ≠ .str "incomplete" ∧
      ∃ output, response.outputParsed = some output ∧
        className output = request.outputType.name := by
  rw [← extractRefusal_eq_none_iff, ← incompleteReason_eq_none_iff]
  unfold readResponse
  cases extractRefusal response with
  | some refusal => simp
  | none =>
      cases incompleteReason response with
      | some reason => simp
      | none =>
          cases response.outputParsed with
          | none => simp
          | some output =>
              by_cases hclass : className output = request.outputType.name <;> simp [hclass]

/-- And it is the output of the response that is kept. -/
theorem parsedOutput_readResponse
    (h : (readResponse className timing request response).kind = .parsed) :
    (readResponse className timing request response).parsedOutput = response.outputParsed := by
  obtain ⟨hrefusal, hcomplete, output, houtput, hclass⟩ := parsed_iff.mp h
  rw [← extractRefusal_eq_none_iff] at hrefusal
  rw [← incompleteReason_eq_none_iff] at hcomplete
  unfold readResponse
  simp [hrefusal, hcomplete, houtput, hclass]

/-- The errors that another attempt may mend. -/
def Transient : ClientError → Prop
  | .connection _ | .rateLimit _ => True
  | .status _ code => code ∈ [408, 409, 429] ∨ 500 ≤ code
  | .api _ | .validation _ => False
  | .raised error => error.kind = .transient

/-- What the adapter raises is worth another attempt exactly if the error of the client is. -/
theorem kind_of_handleError {raised : ClientError} {error : JobError}
    (h : handleError (M := M) timing request raised = .error error) :
    error.kind = .transient ↔ Transient raised := by
  cases raised with
  | connection timeout | rateLimit code =>
      rw [← Except.error.inj h]
      simp [JobError.aiTransientProviderError, Transient]
  | api name =>
      rw [← Except.error.inj h]
      simp [JobError.aiPermanentProviderError, Transient]
  | validation message => cases h
  | raised other =>
      rw [← Except.error.inj h]
      exact Iff.rfl
  | status name code =>
      have htransient : isTransientStatus code = true ↔ Transient (.status name code) :=
        decide_eq_true_iff
      simp only [handleError] at h
      rw [← htransient]
      split at h
      next hcode =>
        rw [← Except.error.inj h]
        simp [JobError.aiTransientProviderError, hcode]
      next hcode =>
        rw [← Except.error.inj h]
        simp [JobError.aiPermanentProviderError, hcode]

/-- The call fails only if the client does, other than for an output that is not valid, and it is tried
again exactly if the failure may pass. -/
theorem invoke_eq_error {error : JobError}
    (h : invoke className timing client request = .error error) :
    ∃ raised, client request = .error raised ∧ (∀ message, raised ≠ .validation message) ∧
      (error.kind = .transient ↔ Transient raised) := by
  unfold invoke at h
  split at h
  next => cases h
  next raised hclient =>
    refine ⟨raised, hclient, ?_, kind_of_handleError h⟩
    rintro message rfl
    cases h

end Invoke

end OpenAIResponsesAdapter

end LaunchOS
