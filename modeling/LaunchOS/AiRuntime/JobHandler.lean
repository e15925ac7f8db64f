import LaunchOS.AiRuntime.Provider

/-!
# The job handler of agent runs

`AgentRunJobHandler` with everything it reads and writes: the durable definition, the contract and the
context of a run, the route to a model, and the trace of the call that it leaves in the row.

The module introduces:

* `AgentRunRow`: a row of `agent_runs` with all of its columns;
* `Deployment`: the code that an attempt is made with;
* `checkContract`, `prepare`, `complete`, `handleAgentRun`: the handler;
* `handleAgentRun_refines`: it is the handler of `AgentRun` with the answers it works out.
-/

namespace LaunchOS

open ContextBuilder (fields optionalText)

variable {M T : Type}

/-! ## Rows and deployments -/

/-- A row of `agent_runs`, all of it. -/
structure AgentRunRow (M : Type) extends AgentRun M where
  agentDefinitionId : Id
  agentContractFingerprint : Text
  outputSchemaName : String
  outputSchemaVersion : ℕ
  contextManifest : Json := .object []
  contextHash : Option Text := none
  providerName : Option String := none
  providerModel : Option String := none
  providerResponseId : Option String := none
  tokenUsage : List (String × ℤ) := []
  latencyMs : Option ℤ := none
  safeTraceMetadata : Json := .object []

/-- The fields of a row that other code reads. -/
def AgentRunRow.update (f : AgentRun M → AgentRun M) (row : AgentRunRow M) : AgentRunRow M :=
  { row with toAgentRun := f row.toAgentRun }

/-- What a worker is deployed with. -/
structure Deployment (M : Type) where
  registry : CodeRegistry
  builder : ContextBuilder.Builder
  budget : ContextBuilder.ContextBudget := {}
  router : ModelRouter M

/-- The code that every deployment shares, and the clock of the database. -/
structure Platform (M : Type) where
  sha256 : Text → Text
  hexadecimal : ∀ text, '=' ∉ sha256 text
  /-- The instants that the texts of the times stand for. -/
  instant : Text → ℤ
  /-- `model_dump(mode="json")` -/
  modelDump : M → Json

/-! ## The handler -/

/-- A number with its sign. -/
def intNumber (n : ℤ) : Json.Number where
  text := if n < 0 then '-' :: Nat.toDigits 10 n.natAbs else Nat.toDigits 10 n.natAbs
  plain c hc := by
    have hdigits : ∀ c ∈ Nat.toDigits 10 n.natAbs, c.isDigit = true := fun c hc =>
      Nat.isDigit_of_mem_toDigits (by decide) (by decide) hc
    split at hc
    next =>
      rcases List.mem_cons.mp hc with rfl | hc
      · exact .inr (by decide)
      · exact .inl (hdigits c hc)
    next => exact .inl (hdigits c hc)

/-- `metadata.safe_dict()` -/
def ProviderMetadata.safeDict (metadata : ProviderMetadata) : List (String × Json) :=
  [("provider_name", .string metadata.providerName.toList),
    ("model_name", .string metadata.modelName.toList),
    ("response_id", optionalText (metadata.responseId.map String.toList)),
    ("token_usage", fields (metadata.tokenUsage.map fun entry =>
      (entry.1, .number (intNumber entry.2)))),
    ("latency_ms", (metadata.latencyMs.map fun ms => Json.number (intNumber ms)).getD .null),
    ("started_at", .string metadata.startedAt),
    ("completed_at", .string metadata.completedAt)]

/-- What `handle` knows before it asks the provider. -/
structure PreparedRun (M : Type) where
  contract : CodeContract
  bundle : ContextBuilder.ContextBundle
  resolved : ResolvedModelRoute M

namespace PreparedRun

variable (prepared : PreparedRun M)

/-- `model_request` -/
def request : ModelRequest where
  capability := prepared.contract.modelCapability
  selectedProviderName := prepared.resolved.route.providerName
  selectedModelName := prepared.resolved.route.modelName
  systemInstructions := prepared.contract.systemInstructions
  instructionVersion := prepared.contract.instructionVersion
  structuredContext := prepared.bundle.structuredContext
  contextManifest := prepared.bundle.manifest
  contextHash := prepared.bundle.contextHash
  outputType := prepared.contract.outputModel
  safeGenerationPolicy := some "strict_structured_output_no_tools_no_truth_promotion"

/-- `_safe_trace` -/
def trace (outcome : String) (metadata : ProviderMetadata) : Json :=
  let route := prepared.resolved.route
  fields (metadata.safeDict ++
    [("schema_name", .string "AgentRunProviderTrace".toList),
      ("schema_version", .number (.ofNat 1)),
      ("outcome", .string outcome.toList),
      ("requested_capability", .string prepared.contract.modelCapability.value.toList),
      ("selected_provider_name", .string route.providerName.toList),
      ("selected_model_name", .string route.modelName.toList),
      ("actual_provider_name", .string metadata.providerName.toList),
      ("actual_model_name", .string metadata.modelName.toList)])

/-- `_assert_route_trace` -/
def assertRouteTrace (metadata : ProviderMetadata) : Except JobError Unit :=
  let route := prepared.resolved.route
  require (metadata.providerName = route.providerName ∧ metadata.modelName = route.modelName)
    (.aiContractError ("model route trace mismatch: requested=" ++
      prepared.contract.modelCapability.value ++ " selected=" ++ route.providerName ++ "/" ++
      route.modelName ++ " invoked=" ++ metadata.providerName ++ "/" ++ metadata.modelName))

end PreparedRun

/-- The status that a result is recorded under. -/
def ModelResultKind.outcome : ModelResultKind → String
  | .parsed => "SUCCEEDED"
  | .refusal => "REFUSED"
  | .incomplete | .invalidOutput => "INVALID_OUTPUT"

section Handler

variable (P : Platform M) (D : Deployment M) (T : ContextBuilder.Tables)

/-- The checks of `handle` on the definition of a run and on the contract that the deployment has for
it. -/
def checkContract (registry : CodeRegistry) (definitions : List AgentDefinition)
    (row : AgentRunRow M) : Except JobError CodeContract := do
  let definition ← orRaise (.aiContractError "AgentDefinition not found for AgentRun")
    (Table.find AgentDefinition.id row.agentDefinitionId definitions)
  let contract ← registry.resolve row.contractKey row.contractVersion
  assertAgentDefinitionParity P.sha256 definition contract
  require (row.agentContractFingerprint = contract.fingerprint P.sha256)
    (.aiContractError "AgentRun contract fingerprint does not match AgentDefinition")
  return contract

/-- `handle` between the load of the run and the call of the provider. -/
def prepare (scope : TenantScope) (definitions : List AgentDefinition) (row : AgentRunRow M) :
    Except JobError (PreparedRun M) := do
  let contract ← checkContract P D.registry definitions row
  let bundle ← ContextBuilder.build P.instant (.ofText P.sha256 P.hexadecimal) D.builder D.budget T
    scope contract.toAgentContract.context row.contextRefs
  let resolved ← D.router.resolve contract.modelCapability
  return ⟨contract, bundle, resolved⟩

/-- The scan of an output. -/
def assertOutput (result : ModelResult M) : Except JobError Unit :=
  match result with
  | .parsed (some output) => (P.modelDump output).assertNoSecrets "payload".toList
  | _ => .ok ()

/-- The scans of `_persist_model_result`: those of the output, and of the trace. -/
def assertResult (prepared : PreparedRun M) (result : ProviderResult M) : Except JobError Unit := do
  assertOutput P result.toModelResult
  (prepared.trace result.kind.outcome result.metadata).assertNoSecrets "payload".toList

/-- What the handler writes next to the fields of `AgentRun`. -/
def AgentRunRow.traced (prepared : PreparedRun M) (result : ProviderResult M) (row : AgentRunRow M) :
    AgentRunRow M :=
  { row with
    contextManifest := prepared.bundle.manifest
    contextHash := some prepared.bundle.contextHash
    providerName := some result.metadata.providerName
    providerModel := some result.metadata.modelName
    providerResponseId := result.metadata.responseId
    tokenUsage := result.metadata.tokenUsage
    latencyMs := result.metadata.latencyMs
    safeTraceMetadata := prepared.trace result.kind.outcome result.metadata }

/-- `handle` after the call of the provider: `_assert_route_trace` and `_persist_model_result`. -/
def complete (prepared : PreparedRun M) (result : ProviderResult M) (startedAt now : Time) :
    Except JobError (AgentRunRow M → AgentRunRow M) := do
  prepared.assertRouteTrace result.metadata
  let persist ← persistModelResult result.toModelResult now
  assertResult P prepared result
  return fun row => (row.traced prepared result).update fun run => persist (run.markRunning startedAt)

/-- The row of the run that `load_run` finds. -/
def loadRow (context : RuntimeJobContext) (payload : JobPayload) (rows : List (AgentRunRow M)) :
    Except JobError (Option (AgentRunRow M)) := do
  let loaded ← loadAgentRun context payload (rows.map AgentRunRow.toAgentRun)
  return loaded.bind fun run => Table.find (fun row : AgentRunRow M => row.id) run.id rows

/-- `AgentRunJobHandler.handle`: the rows that it commits. -/
def handleAgentRun (context : RuntimeJobContext) (payload : JobPayload) (startedAt now : Time)
    (definitions : List AgentDefinition) (rows : List (AgentRunRow M)) :
    Except JobError (List (AgentRunRow M)) := do
  match ← loadRow context payload rows with
  | none => return rows
  | some row =>
      let prepared ← prepare P D T context.scope definitions row
      let result ← prepared.resolved.adapter prepared.request
      let write ← complete P prepared result startedAt now
      return Table.modify (fun row : AgentRunRow M => row.id) row.id write rows

end Handler

/-! ## What the handler does -/

section Steps

variable {P : Platform M} {D : Deployment M} {tables : ContextBuilder.Tables}
variable {scope : TenantScope} {definitions : List AgentDefinition} {row : AgentRunRow M}
variable {rows rows' : List (AgentRunRow M)} {prepared : PreparedRun M} {result : ProviderResult M}
variable {startedAt now : Time}

/-- The contract of a run is the one that its definition and the run itself have the fingerprint of. -/
theorem checkContract_eq_ok_iff {registry : CodeRegistry} {contract : CodeContract} :
    checkContract P registry definitions row = .ok contract ↔
      registry.resolve row.contractKey row.contractVersion = .ok contract ∧
      row.agentContractFingerprint = contract.fingerprint P.sha256 ∧
      ∃ definition, Table.find AgentDefinition.id row.agentDefinitionId definitions =
          some definition ∧
        definition.parityFields = contract.parityFields P.sha256 ∧ definition.enabled = true := by
  unfold checkContract
  simp only [Except.bind_eq_ok_iff, orRaise_eq_ok_iff, require_eq_ok_iff]
  constructor
  · rintro ⟨definition, hdefinition, found, hfound, u, hparity, -, hfingerprint, heq⟩
    obtain rfl := Except.ok.inj heq
    exact ⟨hfound, hfingerprint, definition, hdefinition,
      assertAgentDefinitionParity_eq_ok_iff.mp hparity⟩
  · rintro ⟨hfound, hfingerprint, definition, hdefinition, hparity⟩
    exact ⟨definition, hdefinition, contract, hfound, (),
      assertAgentDefinitionParity_eq_ok_iff.mpr hparity, (), hfingerprint, rfl⟩

theorem prepare_eq_ok (h : prepare P D tables scope definitions row = .ok prepared) :
    checkContract P D.registry definitions row = .ok prepared.contract ∧
      prepared.resolved.route.capability = prepared.contract.modelCapability := by
  obtain ⟨contract, hcontract, h⟩ := Except.bind_eq_ok_iff.mp h
  obtain ⟨bundle, -, h⟩ := Except.bind_eq_ok_iff.mp h
  obtain ⟨resolved, hresolved, h⟩ := Except.bind_eq_ok_iff.mp h
  obtain rfl := Except.ok.inj h
  exact ⟨hcontract, (ModelRouter.resolve_eq_ok hresolved).2.1⟩

/-- A result that is recorded names the route, and neither its output nor its trace has a secret. -/
structure RecordableResult (P : Platform M) (prepared : PreparedRun M) (result : ProviderResult M) :
    Prop where
  provider : result.metadata.providerName = prepared.resolved.route.providerName
  model : result.metadata.modelName = prepared.resolved.route.modelName
  output : ∀ output, result.toModelResult = .parsed (some output) →
    (P.modelDump output).accepted = true
  trace : (prepared.trace result.kind.outcome result.metadata).accepted = true

/-- What is written of a result that can be recorded. -/
theorem complete_eq_ok {write : AgentRunRow M → AgentRunRow M}
    (h : complete P prepared result startedAt now = .ok write) :
    RecordableResult P prepared result ∧
    ∃ persist, persistModelResult result.toModelResult now = .ok persist ∧
      write = fun row =>
        (row.traced prepared result).update fun run => persist (run.markRunning startedAt) := by
  obtain ⟨_, hroute, h⟩ := Except.bind_eq_ok_iff.mp h
  obtain ⟨persist, hpersist, h⟩ := Except.bind_eq_ok_iff.mp h
  obtain ⟨_, hscan, h⟩ := Except.bind_eq_ok_iff.mp h
  obtain ⟨_, houtput, htrace⟩ := Except.bind_eq_ok_iff.mp hscan
  obtain ⟨hprovider, hmodel⟩ := require_eq_ok_iff.mp hroute
  refine ⟨⟨hprovider, hmodel, fun output hparsed => ?_, ?_⟩, persist, hpersist,
    (Except.ok.inj h).symm⟩
  · rw [hparsed] at houtput
    exact (Json.assertNoSecrets_eq_ok_iff _ _).mp houtput
  · exact (Json.assertNoSecrets_eq_ok_iff _ _).mp htrace

/-- What an attempt does: nothing to a run that is terminal, or it asks the provider and writes what
comes back into the row of the run. -/
theorem handleAgentRun_eq_ok {context : RuntimeJobContext} {payload : JobPayload}
    (h : handleAgentRun P D tables context payload startedAt now definitions rows = .ok rows') :
    (loadRow context payload rows = .ok none ∧ rows' = rows) ∨
    ∃ row prepared result write,
      loadRow context payload rows = .ok (some row) ∧
      prepare P D tables context.scope definitions row = .ok prepared ∧
      complete P prepared result startedAt now = .ok write ∧
      rows' = Table.modify (fun row : AgentRunRow M => row.id) row.id write rows := by
  obtain ⟨loaded, hload, h⟩ := Except.bind_eq_ok_iff.mp h
  cases loaded with
  | none => exact .inl ⟨hload, (Except.ok.inj h).symm⟩
  | some row =>
      obtain ⟨prepared, hprepare, h⟩ := Except.bind_eq_ok_iff.mp h
      obtain ⟨result, -, h⟩ := Except.bind_eq_ok_iff.mp h
      obtain ⟨write, hwrite, h⟩ := Except.bind_eq_ok_iff.mp h
      exact .inr ⟨row, prepared, result, write, hload, hprepare, hwrite, (Except.ok.inj h).symm⟩

end Steps

/-! ## The handler without its details -/

section Refinement

variable {P : Platform M} {D : Deployment M} {tables : ContextBuilder.Tables}
variable {context : RuntimeJobContext} {payload : JobPayload} {startedAt now : Time}
variable {definitions : List AgentDefinition} {rows : List (AgentRunRow M)}

/-- The handler of `AgentRun` with both of its answers: the runs that it commits. -/
def agentRunJobHandlerWith (context : RuntimeJobContext) (payload : JobPayload) (startedAt now : Time)
    (prepared : Except JobError Unit) (invoked : Except JobError (ModelResult M))
    (db : AgentDatabase M T) : Except JobError (List (AgentRun M)) :=
  match agentRunJobHandler context payload startedAt (.prepared prepared) .loading db with
  | .raise error => .error error
  | .commit db' => .ok db'.tables.agentRuns
  | .next progress () =>
      match agentRunJobHandler context payload now (.invoked invoked) progress db with
      | .raise error => .error error
      | .commit db' => .ok db'.tables.agentRuns
      | .next _ () => .ok db.tables.agentRuns

/-- The run that the handler goes on with is the one its payload names. -/
theorem loadAgentRun_open {runs : List (AgentRun M)} {run : AgentRun M}
    (h : loadAgentRun context payload runs = .ok (some run)) :
    payload = .agentRun run.id ∧ Table.find AgentRun.id run.id runs = some run ∧
      context.scope = run.scope ∧ (run.jobId = none ∨ run.jobId = some context.jobId) ∧
      run.terminal = false := by
  unfold loadAgentRun at h
  split at h
  next agentRunId =>
    split at h
    next => cases h
    next found hfind =>
      obtain ⟨_, hscope, h⟩ := Except.bind_eq_ok_iff.mp h
      split at h
      next => cases h
      next hbound =>
        split at h
        next => cases h
        next hterminal =>
          obtain rfl := Option.some.inj (Except.ok.inj h)
          have hid := Table.key_of_find hfind
          rw [← hid] at hfind
          refine ⟨by rw [hid], hfind, TenantScope.assertMatches_eq_ok_iff.mp hscope, ?_, ?_⟩
          · by_contra hother
            rw [not_or] at hother
            exact hbound hother
          · simpa using hterminal
  next => cases h

/-- And its row is there. -/
theorem loadRow_of_some {run : AgentRun M}
    (h : loadAgentRun context payload (rows.map AgentRunRow.toAgentRun) = .ok (some run)) :
    ∃ row ∈ rows, row.toAgentRun = run ∧ loadRow context payload rows = .ok (some row) := by
  obtain ⟨-, hfind, -⟩ := loadAgentRun_open h
  have hmap : (Table.find (fun row : AgentRunRow M => row.id) run.id rows).map
      AgentRunRow.toAgentRun = some run := by
    rw [← hfind]
    unfold Table.find
    rw [List.find?_map]
    rfl
  obtain ⟨row, hrow, rfl⟩ := Option.map_eq_some_iff.mp hmap
  refine ⟨row, Table.mem_of_find hrow, rfl, ?_⟩
  rw [loadRow, h]
  exact congrArg Except.ok hrow

theorem loadRow_eq_some {row : AgentRunRow M} (h : loadRow context payload rows = .ok (some row)) :
    row ∈ rows ∧ loadAgentRun context payload (rows.map AgentRunRow.toAgentRun) =
      .ok (some row.toAgentRun) := by
  obtain ⟨loaded, hloaded, hfind⟩ := Except.bind_eq_ok_iff.mp h
  cases loaded with
  | none => cases hfind
  | some run =>
      obtain ⟨row', hmem, rfl, hload⟩ := loadRow_of_some hloaded
      rw [hload] at h
      obtain rfl := Option.some.inj (Except.ok.inj h)
      exact ⟨hmem, hloaded⟩

/-- The columns of the other code are written by their own function. -/
theorem map_modify_update {id : Id} {f : AgentRun M → AgentRun M}
    {write : AgentRunRow M → AgentRunRow M} (h : ∀ row, (write row).toAgentRun = f row.toAgentRun) :
    (Table.modify (fun row : AgentRunRow M => row.id) id write rows).map AgentRunRow.toAgentRun =
      Table.modify AgentRun.id id f (rows.map AgentRunRow.toAgentRun) := by
  unfold Table.modify
  rw [List.map_map, List.map_map]
  refine List.map_congr_left fun row _ => ?_
  simp only [Function.comp_apply]
  split
  · exact h row
  · rfl

/-- What a result comes to for the handler of `AgentRun`. -/
def answerOf (P : Platform M) (prepared : PreparedRun M) (result : ProviderResult M) :
    Except JobError (ModelResult M) := do
  prepared.assertRouteTrace result.metadata
  -- the scans come after the check that there is an output
  match result.toModelResult with
  | .parsed none => return .parsed none
  | answer =>
      assertResult P prepared result
      return answer

/-- Both handlers fail alike, or write alike. -/
inductive WritesAlike (startedAt : Time) :
    Except JobError (AgentRunRow M → AgentRunRow M) → Except JobError (AgentRun M → AgentRun M) → Prop
  | error (error : JobError) : WritesAlike startedAt (.error error) (.error error)
  | ok (write : AgentRunRow M → AgentRunRow M) (persist : AgentRun M → AgentRun M)
      (h : ∀ row, (write row).toAgentRun = persist (row.toAgentRun.markRunning startedAt)) :
      WritesAlike startedAt (.ok write) (.ok persist)

theorem writesAlike_complete (prepared : PreparedRun M) (result : ProviderResult M) :
    WritesAlike startedAt (complete P prepared result startedAt now)
      ((answerOf P prepared result).bind fun answer => persistModelResult answer now) := by
  unfold complete answerOf
  cases prepared.assertRouteTrace result.metadata with
  | error error => exact .error error
  | ok u =>
      show WritesAlike startedAt
        (persistModelResult result.toModelResult now >>= fun persist =>
          assertResult P prepared result >>= fun _ => _) _
      cases assertResult P prepared result with
      | error error =>
          cases result.toModelResult with
          | parsed output => cases output <;> exact .error _
          | _ => exact .error _
      | ok u =>
          cases result.toModelResult with
          | parsed output =>
              cases output with
              | none => exact .error _
              | some output => exact .ok _ _ fun _ => rfl
          | _ => exact .ok _ _ fun _ => rfl

/-- `handle` is the handler of `AgentRun` with answers that are worked out from the definition, the
contract, the context, the route and the provider. -/
theorem handleAgentRun_refines {db : AgentDatabase M T}
    (hdb : db.tables.agentRuns = rows.map AgentRunRow.toAgentRun) :
    ∃ prepared invoked,
      agentRunJobHandlerWith context payload startedAt now prepared invoked db =
        (handleAgentRun P D tables context payload startedAt now definitions rows).map
          (List.map AgentRunRow.toAgentRun) := by
  cases hrun : loadAgentRun context payload (rows.map AgentRunRow.toAgentRun) with
  | error error =>
      refine ⟨.ok (), .ok (.parsed none), ?_⟩
      simp only [agentRunJobHandlerWith, agentRunJobHandler, hdb, hrun, handleAgentRun, loadRow]
      rfl
  | ok loaded =>
      cases loaded with
      | none =>
          refine ⟨.ok (), .ok (.parsed none), ?_⟩
          simp only [agentRunJobHandlerWith, agentRunJobHandler, hdb, hrun, handleAgentRun, loadRow]
          rfl
      | some run =>
          obtain ⟨row, -, rfl, hload⟩ := loadRow_of_some hrun
          obtain ⟨hpayload, -⟩ := loadAgentRun_open hrun
          cases hprepare : prepare P D tables context.scope definitions row with
          | error error =>
              refine ⟨.error error, .ok (.parsed none), ?_⟩
              simp only [agentRunJobHandlerWith, agentRunJobHandler, hdb, hrun, handleAgentRun, hload]
              show _ = Except.map _ (prepare P D tables context.scope definitions row >>= _)
              rw [hprepare]
              rfl
          | ok prepared =>
              refine ⟨.ok (), prepared.resolved.adapter prepared.request >>= answerOf P prepared, ?_⟩
              simp only [agentRunJobHandlerWith, agentRunJobHandler, hdb, hrun, handleAgentRun, hload]
              show _ = Except.map _ (prepare P D tables context.scope definitions row >>= _)
              rw [hprepare]
              show _ = Except.map _ (prepared.resolved.adapter prepared.request >>= _)
              cases prepared.resolved.adapter prepared.request with
              | error error =>
                  rw [hpayload]
                  rfl
              | ok result =>
                  have halike : WritesAlike startedAt (complete P prepared result startedAt now) _ :=
                    writesAlike_complete prepared result
                  have hbind : (Except.ok result >>= answerOf P prepared) =
                      answerOf P prepared result := rfl
                  simp only [hpayload, hbind]
                  show _ = Except.map _ (complete P prepared result startedAt now >>= _)
                  revert halike
                  generalize complete P prepared result startedAt now = written
                  generalize (answerOf P prepared result).bind _ = persisted
                  rintro (⟨error⟩ | ⟨write, persist, hwrite⟩)
                  · rfl
                  · show Except.ok (Table.modify AgentRun.id row.id _ db.tables.agentRuns) =
                      Except.ok _
                    rw [hdb, map_modify_update (f := fun run => persist (run.markRunning startedAt))
                      hwrite]

end Refinement

end LaunchOS
