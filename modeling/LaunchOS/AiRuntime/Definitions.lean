import LaunchOS.AiRuntime.Registry
import LaunchOS.AiRuntime.ContextText

/-!
# Contracts and their durable definitions

A contract is code. Each tenant keeps a row of the contracts it has used, and each agent run the
fingerprint of the contract it was created under, so that a deployment that changes the code of a
contract but not its version is noticed.

The module introduces:

* `ContractTerms`, `validateContract`: what a contract says, and the checks of it;
* `CodeContract`, `CodeContract.fingerprint`: a contract that has passed them, and its digest;
* `fingerprint_identifies`: contracts with one fingerprint say the same, or the digest has a collision;
* `CodeRegistry`: the contracts of a deployment;
* `AgentDefinition`, `ensureAgentDefinition`, `assertAgentDefinitionParity`: the row of a tenant.
-/

namespace LaunchOS

open ContextBuilder (fields)
open Sorting

/-! ## Contracts -/

/-- `ModelCapability` -/
inductive ModelCapability
  | deepReasoning
  | standardReasoning
  | fastStructuredClassification
  | creativeCopy
  | vision
  | imageGeneration
  | speechToText
  | embeddings
deriving DecidableEq, Repr

def ModelCapability.value : ModelCapability → String
  | .deepReasoning => "DEEP_REASONING"
  | .standardReasoning => "STANDARD_REASONING"
  | .fastStructuredClassification => "FAST_STRUCTURED_CLASSIFICATION"
  | .creativeCopy => "CREATIVE_COPY"
  | .vision => "VISION"
  | .imageGeneration => "IMAGE_GENERATION"
  | .speechToText => "SPEECH_TO_TEXT"
  | .embeddings => "EMBEDDINGS"

/-- `AgentAuthority` -/
inductive AgentAuthority
  | readContext
  | proposeAnalysis
  | proposeRecommendation
  | proposeDecisionCandidate
  | reviewDecisionCandidate
  | proposeExperiment
  | proposeContentStrategy
  | proposeAssetDraft
  | reviewAssetVersion
deriving DecidableEq, Repr

def AgentAuthority.value : AgentAuthority → String
  | .readContext => "READ_CONTEXT"
  | .proposeAnalysis => "PROPOSE_ANALYSIS"
  | .proposeRecommendation => "PROPOSE_RECOMMENDATION"
  | .proposeDecisionCandidate => "PROPOSE_DECISION_CANDIDATE"
  | .reviewDecisionCandidate => "REVIEW_DECISION_CANDIDATE"
  | .proposeExperiment => "PROPOSE_EXPERIMENT"
  | .proposeContentStrategy => "PROPOSE_CONTENT_STRATEGY"
  | .proposeAssetDraft => "PROPOSE_ASSET_DRAFT"
  | .reviewAssetVersion => "REVIEW_ASSET_VERSION"

theorem ModelCapability.value_injective : Function.Injective ModelCapability.value := by
  intro a b h
  cases a <;> cases b <;> first | rfl | simp [value] at h

theorem AgentAuthority.value_injective : Function.Injective AgentAuthority.value := by
  intro a b h
  cases a <;> cases b <;> first | rfl | simp [value] at h

/-- The fields of `AgentContract` that `definition_payload` writes down. -/
structure ContractTerms extends ContextContract where
  contractKey : String
  contractVersion : ℕ := 1
  roleName : String
  mission : String
  outputSchemaName : String
  outputSchemaVersion : ℕ := 1
  modelCapability : ModelCapability
  authorityBoundaries : List AgentAuthority
  prohibitedActions : List String
  requiredControllerTypes : List String
  abstentionPolicy : String
  escalationPolicy : String
  instructionVersion : String
  systemInstructions : String
  evalSuiteIdentifier : String

/-- The authorities that no contract with a key of this kind has, and the error if it has one. -/
def forbiddenAuthorities : List (String × List AgentAuthority × String) :=
  [("ai.specialist.",
      [.proposeDecisionCandidate, .reviewDecisionCandidate, .proposeContentStrategy,
        .proposeAssetDraft, .reviewAssetVersion],
      "specialist contract cannot acquire other-role authority"),
    ("ai.chief.",
      [.reviewDecisionCandidate, .proposeContentStrategy, .proposeAssetDraft, .reviewAssetVersion],
      "chief contract cannot acquire controller/production authority"),
    ("ai.controller.",
      [.proposeRecommendation, .proposeDecisionCandidate, .proposeContentStrategy,
        .proposeAssetDraft],
      "controller contract cannot acquire proposal authority")]

/-- The only authorities of the contract with this key, and the error if it has another one. -/
def allowedAuthorities : List (String × List AgentAuthority × String) :=
  [(contentDirectorContractKey, [.readContext, .proposeContentStrategy],
      "content director authority must be default-deny"),
    (telegramWriterContractKey, [.readContext, .proposeAssetDraft],
      "telegram writer authority must be default-deny")]

/-- `not value.strip()` -/
def isBlank (value : String) : Bool := value.toList.all Security.isSpace

/-- `str.startswith` -/
def startsWith (value start : String) : Prop := start.toList <+: value.toList

instance (value start : String) : Decidable (startsWith value start) :=
  inferInstanceAs (Decidable (start.toList <+: value.toList))

namespace ContractTerms

variable (terms : ContractTerms)

/-- `required_strings` -/
def requiredStrings : List (String × String) :=
  [("contract_key", terms.contractKey), ("role_name", terms.roleName), ("mission", terms.mission),
    ("output_schema_name", terms.outputSchemaName),
    ("abstention_policy", terms.abstentionPolicy),
    ("escalation_policy", terms.escalationPolicy),
    ("instruction_version", terms.instructionVersion),
    ("system_instructions", terms.systemInstructions),
    ("eval_suite_identifier", terms.evalSuiteIdentifier)]

/-- A rule on the authorities of the contracts that it is about. -/
def requireAuthorities (concerns : String → Prop) [DecidablePred concerns]
    (accepts : AgentAuthority → Prop) [DecidablePred accepts] (message : String) :
    Except JobError Unit :=
  require (concerns terms.contractKey → ∀ authority ∈ terms.authorityBoundaries, accepts authority)
    (.aiContractError message)

/-- `_validate_contract` -/
def validateContract : Except JobError Unit := do
  let missing := (terms.requiredStrings.filter fun entry => isBlank entry.2).map Prod.fst
  require (missing = []) (.aiContractError
    ("incomplete agent contract fields: " ++ String.intercalate ", " (sortByKey id missing)))
  require (1 ≤ terms.contractVersion) (.aiContractError "agent contract version must be positive")
  require (1 ≤ terms.outputSchemaVersion) (.aiContractError "output schema version must be positive")
  require (terms.allowedContextTypes ≠ [])
    (.aiContractError "agent contract must declare allowed context types")
  require (terms.requiredContextTypes ⊆ terms.allowedContextTypes)
    (.aiContractError "required context types must be a subset of allowed context types")
  require (terms.authorityBoundaries ≠ [])
    (.aiContractError "agent contract must declare positive allowed authorities")
  require (terms.prohibitedActions ≠ [])
    (.aiContractError "agent contract must declare prohibited actions")
  require (terms.requiredControllerTypes ≠ [])
    (.aiContractError "agent contract must declare required controller types")
  require (.readContext ∈ terms.authorityBoundaries)
    (.aiContractError "agent contract must explicitly allow scoped context reads")
  forbiddenAuthorities.forM fun rule =>
    terms.requireAuthorities (startsWith · rule.1) (· ∉ rule.2.1) rule.2.2
  allowedAuthorities.forM fun rule =>
    terms.requireAuthorities (· = rule.1) (· ∈ rule.2.1) rule.2.2

/-- A list of strings. -/
def strings (values : List String) : Json := .array (values.map fun value => .string value.toList)

/-- `definition_payload` -/
def definitionPayload : List (String × Json) :=
  [("contract_key", .string terms.contractKey.toList),
    ("contract_version", .number (.ofNat terms.contractVersion)),
    ("role_name", .string terms.roleName.toList),
    ("mission", .string terms.mission.toList),
    ("allowed_context_types", strings terms.allowedContextTypes),
    ("required_context_types", strings terms.requiredContextTypes),
    ("output_schema_name", .string terms.outputSchemaName.toList),
    ("output_schema_version", .number (.ofNat terms.outputSchemaVersion)),
    ("model_capability", .string terms.modelCapability.value.toList),
    ("authority_boundaries", strings (terms.authorityBoundaries.map AgentAuthority.value)),
    ("prohibited_actions", strings terms.prohibitedActions),
    ("required_controller_types", strings terms.requiredControllerTypes),
    ("abstention_policy", .string terms.abstentionPolicy.toList),
    ("escalation_policy", .string terms.escalationPolicy.toList),
    ("instruction_version", .string terms.instructionVersion.toList),
    ("system_instructions", .string terms.systemInstructions.toList),
    ("eval_suite_identifier", .string terms.evalSuiteIdentifier.toList)]

end ContractTerms

/-- `type[BaseModel]`: a class of outputs, with what `model_json_schema` says of it. -/
structure OutputModel where
  name : String
  jsonSchema : Json
  /-- The numbers of the schema are written somehow. -/
  written : jsonSchema.Written

/-- `AgentContract`, all of it. -/
structure CodeContract extends ContractTerms where
  outputModel : OutputModel
  /-- `__post_init__` -/
  valid : toContractTerms.validateContract = .ok ()

namespace CodeContract

variable {contract contract' : CodeContract}

/-- What `fingerprint` hashes: the payload with the schema of the outputs. -/
def payload (contract : CodeContract) : List (String × Json) :=
  contract.definitionPayload ++ [("output_schema", contract.outputModel.jsonSchema)]

/-- The text that `fingerprint` hashes. -/
def text (contract : CodeContract) : Text := (fields contract.payload).sortKeys.dumps .compact

/-- `fingerprint` -/
def fingerprint (sha256 : Text → Text) (contract : CodeContract) : Text := sha256 contract.text

/-- The contracts say the same, up to the order of the keys in the schema of their outputs. -/
structure SameTerms (contract contract' : CodeContract) : Prop where
  terms : contract.toContractTerms = contract'.toContractTerms
  schema : contract.outputModel.jsonSchema.sortKeys = contract'.outputModel.jsonSchema.sortKeys

/-! ### What a valid contract may do -/

/-- What the checks say of a contract. -/
structure Checked (terms : ContractTerms) : Prop where
  complete : ∀ entry ∈ terms.requiredStrings, isBlank entry.2 = false
  version_pos : 1 ≤ terms.contractVersion
  schemaVersion_pos : 1 ≤ terms.outputSchemaVersion
  allowed_ne_nil : terms.allowedContextTypes ≠ []
  required_subset : terms.requiredContextTypes ⊆ terms.allowedContextTypes
  prohibited_ne_nil : terms.prohibitedActions ≠ []
  controllers_ne_nil : terms.requiredControllerTypes ≠ []
  reads : .readContext ∈ terms.authorityBoundaries
  forbidden : ∀ rule ∈ forbiddenAuthorities, startsWith terms.contractKey rule.1 →
    ∀ authority ∈ terms.authorityBoundaries, authority ∉ rule.2.1
  allowed : ∀ rule ∈ allowedAuthorities, terms.contractKey = rule.1 →
    ∀ authority ∈ terms.authorityBoundaries, authority ∈ rule.2.1

theorem forM_eq_ok_iff {α : Type} {f : α → Except JobError Unit} {xs : List α} :
    xs.forM f = .ok () ↔ ∀ x ∈ xs, f x = .ok () := by
  induction xs with
  | nil => simp [pure, Except.pure]
  | cons x xs ih =>
      show (f x >>= fun _ => xs.forM f) = .ok () ↔ _
      rw [Except.bind_eq_ok_iff, List.forall_mem_cons]
      constructor
      · rintro ⟨⟨⟩, hx, hxs⟩
        exact ⟨hx, ih.mp hxs⟩
      · rintro ⟨hx, hxs⟩
        exact ⟨(), hx, ih.mpr hxs⟩

/-- The checks of a contract, in order. -/
theorem validateContract_eq_ok {terms : ContractTerms} (h : terms.validateContract = .ok ()) :
    Checked terms := by
  unfold ContractTerms.validateContract at h
  obtain ⟨_, hcomplete, h⟩ := Except.bind_eq_ok_iff.mp h
  obtain ⟨_, hversion, h⟩ := Except.bind_eq_ok_iff.mp h
  obtain ⟨_, hschema, h⟩ := Except.bind_eq_ok_iff.mp h
  obtain ⟨_, hallowed, h⟩ := Except.bind_eq_ok_iff.mp h
  obtain ⟨_, hrequired, h⟩ := Except.bind_eq_ok_iff.mp h
  obtain ⟨_, -, h⟩ := Except.bind_eq_ok_iff.mp h
  obtain ⟨_, hprohibited, h⟩ := Except.bind_eq_ok_iff.mp h
  obtain ⟨_, hcontrollers, h⟩ := Except.bind_eq_ok_iff.mp h
  obtain ⟨_, hreads, h⟩ := Except.bind_eq_ok_iff.mp h
  obtain ⟨_, hforbidden, hconfined⟩ := Except.bind_eq_ok_iff.mp h
  refine ⟨fun entry hentry => ?_, require_eq_ok_iff.mp hversion, require_eq_ok_iff.mp hschema,
    require_eq_ok_iff.mp hallowed, require_eq_ok_iff.mp hrequired, require_eq_ok_iff.mp hprohibited,
    require_eq_ok_iff.mp hcontrollers, require_eq_ok_iff.mp hreads, fun rule hrule => ?_,
    fun rule hrule => ?_⟩
  · -- a blank field would be among the missing ones
    by_contra hblank
    rw [Bool.not_eq_false] at hblank
    have hmem : entry ∈ terms.requiredStrings.filter fun entry => isBlank entry.2 :=
      List.mem_filter.mpr ⟨hentry, hblank⟩
    have hmissing := List.mem_map_of_mem (f := Prod.fst) hmem
    rw [require_eq_ok_iff.mp hcomplete] at hmissing
    exact List.not_mem_nil hmissing
  · exact require_eq_ok_iff.mp (forM_eq_ok_iff.mp hforbidden rule hrule)
  · exact require_eq_ok_iff.mp (forM_eq_ok_iff.mp hconfined rule hrule)

theorem checked (contract : CodeContract) : Checked contract.toContractTerms :=
  validateContract_eq_ok contract.valid

/-- As far as the context builder reads it. -/
def toAgentContract (contract : CodeContract) : AgentContract where
  toContextContract := contract.toContextContract
  contractKey := contract.contractKey
  contractVersion := contract.contractVersion
  version_pos := contract.checked.version_pos
  allowed_ne_nil := contract.checked.allowed_ne_nil
  required_subset := contract.checked.required_subset

/-! ### What a fingerprint says -/

theorem ofNat_injective : Function.Injective Json.Number.ofNat := by
  intro n m h
  have hdigits : Nat.toDigits 10 n = Nat.toDigits 10 m := congrArg Json.Number.text h
  have hread := congrArg (fun digits => Nat.ofDigitChars 10 digits 0) hdigits
  simpa [Nat.ofDigitChars_toDigits] using hread

theorem strings_inj {xs ys : List String} :
    ContractTerms.strings xs = ContractTerms.strings ys ↔ xs = ys := by
  have hinj : Function.Injective fun value : String => Json.string value.toList := by
    intro a b h
    exact String.toList_inj.mp (Json.string.inj h)
  rw [ContractTerms.strings, ContractTerms.strings, Json.array.injEq, hinj.list_map.eq_iff]

theorem sortKeys_strings (xs : List String) :
    (ContractTerms.strings xs).sortKeys = ContractTerms.strings xs := by
  rw [ContractTerms.strings, Json.sortKeys, Json.sortKeysItems_eq_map, List.map_map]
  rfl

/-- What is hashed says all of the terms, and what the outputs are like. -/
theorem sameTerms_of_payload
    (h : (fields contract.payload).sortKeys = (fields contract'.payload).sortKeys) :
    SameTerms contract contract' := by
  have hvalues := ContextBuilder.fields_sortKeys (by rfl)
    (by simp [payload, ContractTerms.definitionPayload]) h
  simp only [payload, ContractTerms.definitionPayload, List.cons_append, List.nil_append,
    List.map_cons, List.map_nil, List.cons.injEq, Json.sortKeys, sortKeys_strings, strings_inj,
    Json.string.injEq, Json.number.injEq, String.toList_inj, ofNat_injective.eq_iff,
    ModelCapability.value_injective.eq_iff, AgentAuthority.value_injective.list_map.eq_iff] at hvalues
  obtain ⟨h1, h2, h3, h4, h5, h6, h7, h8, h9, h10, h11, h12, h13, h14, h15, h16, h17, hschema, -⟩ :=
    hvalues
  refine ⟨?_, hschema⟩
  obtain ⟨⟨⟨_, _⟩, _, _, _, _, _, _, _, _, _, _, _, _, _, _, _⟩, _, _⟩ := contract
  obtain ⟨⟨⟨_, _⟩, _, _, _, _, _, _, _, _, _, _, _, _, _, _, _⟩, _, _⟩ := contract'
  dsimp only at *
  subst h1 h2 h3 h4 h5 h6 h7 h8 h9 h10 h11 h12 h13 h14 h15 h16 h17
  rfl

theorem written_payload (contract : CodeContract) : (fields contract.payload).Written := by
  have hstrings : ∀ xs : List String, (ContractTerms.strings xs).Written := by
    intro xs
    show Json.WrittenItems _
    rw [Json.writtenItems_iff, List.forall_mem_map]
    exact fun _ _ => trivial
  rw [ContextBuilder.written_fields]
  simp only [payload, ContractTerms.definitionPayload, List.cons_append, List.nil_append,
    List.forall_mem_cons, hstrings, ContextBuilder.written_ofNat, contract.outputModel.written]
  exact ⟨trivial, trivial, trivial, trivial, trivial, trivial, trivial, trivial, trivial, trivial,
    trivial, trivial, trivial, trivial, trivial, trivial, trivial, trivial, List.forall_mem_nil _⟩

/-- The payload is read back from the text. -/
theorem loads_text (contract : CodeContract) :
    Json.loads .compact contract.text = some (fields contract.payload).sortKeys := by
  have hwritten := written_payload contract
  unfold text
  -- only that it is written matters of the payload
  generalize fields contract.payload = value at hwritten ⊢
  exact Json.loads_dumps (by rfl) (Json.written_sortKeys hwritten)

/-- Contracts with one text say the same. -/
theorem sameTerms_of_text (h : contract.text = contract'.text) : SameTerms contract contract' := by
  have hread := contract.loads_text
  rw [h, contract'.loads_text] at hread
  exact sameTerms_of_payload (Option.some.inj hread).symm

theorem SameTerms.symm (h : SameTerms contract contract') : SameTerms contract' contract :=
  ⟨h.terms.symm, h.schema.symm⟩

theorem SameTerms.trans {contract'' : CodeContract} (h : SameTerms contract contract')
    (h' : SameTerms contract' contract'') : SameTerms contract contract'' :=
  ⟨h.terms.trans h'.terms, h.schema.trans h'.schema⟩

/-- Contracts that say the same have one text. -/
theorem SameTerms.text_eq (h : SameTerms contract contract') : contract.text = contract'.text := by
  have hpayload : ∀ contract : CodeContract, (fields contract.payload).sortKeys =
      .object (sortByKey Prod.fst ((contract.definitionPayload.map fun entry =>
        (entry.1.toList, entry.2.sortKeys)) ++
          [("output_schema".toList, contract.outputModel.jsonSchema.sortKeys)])) := by
    intro contract
    simp [fields, payload, Json.sortKeys, Json.sortKeysFields_eq_map, Function.comp_def]
  rw [text, text, hpayload, hpayload, h.terms, h.schema]

/-- The digest is the same for two texts. -/
def Collide (sha256 : Text → Text) (contract contract' : CodeContract) : Prop :=
  contract.text ≠ contract'.text ∧ sha256 contract.text = sha256 contract'.text

/-- Contracts with one fingerprint say the same, or their texts are a collision of the digest. -/
theorem fingerprint_identifies {sha256 : Text → Text}
    (h : contract.fingerprint sha256 = contract'.fingerprint sha256) :
    SameTerms contract contract' ∨ Collide sha256 contract contract' := by
  by_cases htext : contract.text = contract'.text
  · exact .inl (sameTerms_of_text htext)
  · exact .inr ⟨htext, h⟩

end CodeContract

/-! ## The contracts of a deployment -/

/-- `AgentRegistry`, with all of its contracts. -/
structure CodeRegistry where
  contracts : List CodeContract
  /-- "duplicate agent contract version" -/
  keys : Table.KeysNodup (fun contract : CodeContract => contract.toAgentContract.registryKey)
    contracts

namespace CodeRegistry

variable {registry : CodeRegistry} {contractKey : String} {contractVersion : ℕ}

/-- `AgentRegistry.resolve` -/
def resolve (registry : CodeRegistry) (contractKey : String) (contractVersion : ℕ) :
    Except JobError CodeContract :=
  orRaise (.aiContractError
      ("unknown agent contract: " ++ contractKey ++ " v" ++ toString contractVersion))
    (Table.find (fun contract : CodeContract => contract.toAgentContract.registryKey)
      (contractKey, contractVersion) registry.contracts)

/-- As far as the context builder reads it. -/
def toAgentRegistry (registry : CodeRegistry) : AgentRegistry where
  contracts := registry.contracts.map CodeContract.toAgentContract
  keys := by
    rw [Table.KeysNodup, List.map_map]
    exact registry.keys

theorem key_of_resolve {contract : CodeContract}
    (h : registry.resolve contractKey contractVersion = .ok contract) :
    contract.contractKey = contractKey ∧ contract.contractVersion = contractVersion := by
  have hkey := Table.key_of_find (orRaise_eq_ok_iff.mp h)
  exact Prod.mk.inj hkey

/-- Both registries find the same contract. -/
theorem resolve_toAgentRegistry :
    registry.toAgentRegistry.resolve contractKey contractVersion =
      (registry.resolve contractKey contractVersion).map CodeContract.toAgentContract := by
  have hfind : Table.find AgentContract.registryKey (contractKey, contractVersion)
      (registry.contracts.map CodeContract.toAgentContract) =
      (Table.find (fun contract : CodeContract => contract.toAgentContract.registryKey)
        (contractKey, contractVersion) registry.contracts).map CodeContract.toAgentContract := by
    unfold Table.find
    rw [List.find?_map]
    rfl
  rw [AgentRegistry.resolve, toAgentRegistry, hfind, resolve]
  cases Table.find (fun contract : CodeContract => contract.toAgentContract.registryKey)
    (contractKey, contractVersion) registry.contracts <;> rfl

end CodeRegistry

/-! ## Durable definitions -/

/-- A row of `agent_definitions`. -/
structure AgentDefinition where
  id : Id
  scope : TenantScope
  name : String
  mission : String
  outputSchema : Json
  enabled : Bool
  contractKey : String
  contractVersion : ℕ
  roleName : String
  modelCapability : String
  allowedContextTypes : List String
  requiredContextTypes : List String
  authorityBoundaries : List String
  prohibitedActions : List String
  requiredControllerTypes : List String
  abstentionPolicy : String
  escalationPolicy : String
  instructionVersion : String
  evalSuiteIdentifier : String
  contractFingerprint : Text
  outputSchemaName : String
  outputSchemaVersion : ℕ

/-- The row that `ensure_agent_definition` inserts. -/
def CodeContract.definition (sha256 : Text → Text) (contract : CodeContract) (id : Id)
    (scope : TenantScope) : AgentDefinition where
  id := id
  scope := scope
  name := contract.roleName
  mission := contract.mission
  outputSchema := contract.outputModel.jsonSchema
  enabled := true
  contractKey := contract.contractKey
  contractVersion := contract.contractVersion
  roleName := contract.roleName
  modelCapability := contract.modelCapability.value
  allowedContextTypes := contract.allowedContextTypes
  requiredContextTypes := contract.requiredContextTypes
  authorityBoundaries := contract.authorityBoundaries.map AgentAuthority.value
  prohibitedActions := contract.prohibitedActions
  requiredControllerTypes := contract.requiredControllerTypes
  abstentionPolicy := contract.abstentionPolicy
  escalationPolicy := contract.escalationPolicy
  instructionVersion := contract.instructionVersion
  evalSuiteIdentifier := contract.evalSuiteIdentifier
  contractFingerprint := contract.fingerprint sha256
  outputSchemaName := contract.outputSchemaName
  outputSchemaVersion := contract.outputSchemaVersion

/-- The tenant, the key and the version of a definition; the table has a unique constraint on them. -/
def AgentDefinition.contractOf (definition : AgentDefinition) : TenantScope × String × ℕ :=
  (definition.scope, definition.contractKey, definition.contractVersion)

/-- What `assert_agent_definition_parity` compares. -/
structure ParityFields where
  contractKey : String
  contractVersion : ℕ
  roleName : String
  mission : String
  modelCapability : String
  outputSchemaName : String
  outputSchemaVersion : ℕ
  contractFingerprint : Text
deriving DecidableEq

/-- `actual` -/
def AgentDefinition.parityFields (definition : AgentDefinition) : ParityFields where
  contractKey := definition.contractKey
  contractVersion := definition.contractVersion
  roleName := definition.roleName
  mission := definition.mission
  modelCapability := definition.modelCapability
  outputSchemaName := definition.outputSchemaName
  outputSchemaVersion := definition.outputSchemaVersion
  contractFingerprint := definition.contractFingerprint

/-- `expected` -/
def CodeContract.parityFields (sha256 : Text → Text) (contract : CodeContract) : ParityFields where
  contractKey := contract.contractKey
  contractVersion := contract.contractVersion
  roleName := contract.roleName
  mission := contract.mission
  modelCapability := contract.modelCapability.value
  outputSchemaName := contract.outputSchemaName
  outputSchemaVersion := contract.outputSchemaVersion
  contractFingerprint := contract.fingerprint sha256

section Definitions

variable (sha256 : Text → Text)

/-- `assert_agent_definition_parity` -/
def assertAgentDefinitionParity (definition : AgentDefinition) (contract : CodeContract) :
    Except JobError Unit := do
  require (definition.parityFields = contract.parityFields sha256)
    (.aiContractError "durable AgentDefinition does not match exact code contract")
  require (definition.enabled = true) (.aiContractError "AgentDefinition is disabled")

/-- `ensure_agent_definition`: the definition, and the definitions after it. -/
def ensureAgentDefinition (nextId : Id) (scope : TenantScope) (contract : CodeContract)
    (definitions : List AgentDefinition) : Except JobError (AgentDefinition × List AgentDefinition) :=
  match Table.find AgentDefinition.contractOf (scope, contract.contractKey, contract.contractVersion)
      definitions with
  | some existing => do
      require (existing.contractFingerprint = contract.fingerprint sha256)
        (.aiContractError "durable AgentDefinition fingerprint does not match code contract")
      return (existing, definitions)
  | none =>
      let definition := contract.definition sha256 nextId scope
      .ok (definition, definitions ++ [definition])

variable {sha256} {nextId : Id} {scope : TenantScope} {contract : CodeContract}
variable {definitions definitions' : List AgentDefinition} {definition : AgentDefinition}

/-- The definition is there already, with the fingerprint of the contract, or is made of it. -/
theorem ensureAgentDefinition_eq_ok
    (h : ensureAgentDefinition sha256 nextId scope contract definitions =
      .ok (definition, definitions')) :
    (definitions' = definitions ∧ definition ∈ definitions ∧
      definition.contractOf = (scope, contract.contractKey, contract.contractVersion) ∧
      definition.contractFingerprint = contract.fingerprint sha256) ∨
    ((∀ existing ∈ definitions,
        existing.contractOf ≠ (scope, contract.contractKey, contract.contractVersion)) ∧
      definition = contract.definition sha256 nextId scope ∧
      definitions' = definitions ++ [definition]) := by
  unfold ensureAgentDefinition at h
  split at h
  next existing hfind =>
    obtain ⟨_, hsame, h⟩ := Except.bind_eq_ok_iff.mp h
    obtain ⟨rfl, rfl⟩ := Prod.mk.inj (Except.ok.inj h)
    exact .inl ⟨rfl, Table.mem_of_find hfind, Table.key_of_find hfind, require_eq_ok_iff.mp hsame⟩
  next hfind =>
    obtain ⟨rfl, rfl⟩ := Prod.mk.inj (Except.ok.inj h)
    exact .inr ⟨Table.find_eq_none_iff.mp hfind, rfl, rfl⟩

theorem assertAgentDefinitionParity_eq_ok_iff :
    assertAgentDefinitionParity sha256 definition contract = .ok () ↔
      definition.parityFields = contract.parityFields sha256 ∧ definition.enabled = true := by
  unfold assertAgentDefinitionParity
  rw [Except.bind_eq_ok_iff]
  simp only [require_eq_ok_iff]
  constructor
  · rintro ⟨⟨⟩, hfields, henabled⟩
    exact ⟨hfields, henabled⟩
  · rintro ⟨hfields, henabled⟩
    exact ⟨(), hfields, henabled⟩

/-- The row of a contract passes the check against every contract that says the same. -/
theorem assertAgentDefinitionParity_of_sameTerms {contract' : CodeContract}
    (h : contract.SameTerms contract')
    (hfingerprint : contract.fingerprint sha256 = contract'.fingerprint sha256) (id : Id)
    (scope : TenantScope) :
    assertAgentDefinitionParity sha256 (contract.definition sha256 id scope) contract' = .ok () := by
  rw [assertAgentDefinitionParity_eq_ok_iff]
  refine ⟨?_, rfl⟩
  simp only [AgentDefinition.parityFields, CodeContract.definition, CodeContract.parityFields,
    hfingerprint, h.terms]

end Definitions

end LaunchOS
