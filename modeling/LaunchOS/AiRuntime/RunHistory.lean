import LaunchOS.AiRuntime.JobHandler
import LaunchOS.Lib.Run

/-!
# The history of agent runs

Agent runs are created, attempted and failed by workers that may be deployed with different code. What
a run may be answered by, and what its row says in the end, is fixed by the contract that it was
created under.

The module introduces:

* `AgentStore`, `AgentStore.step`: the definitions and runs of all tenants, and what happens to them;
* `AgentStore.Bound`: the contracts behind the definitions, the runs and the requests;
* `requests_of_created_contract`: what the provider is asked for a run is the text of its contract;
* `contract_checks_exact`: an attempt passes the checks with that contract, and with no other;
* `AgentRunRow.Consistent`, `AgentRunRow.Answered`: what the status of a run says of its columns;
* `agent_run_rows_consistent`: which holds in every run, and of ended rows forever.
-/

namespace LaunchOS

open Transition

variable {M : Type}

/-! ## The system -/

/-- The definitions and agent runs of all tenants. The last two lists are not in the database: under
which contract each run was created, and what the provider has been asked for it. -/
structure AgentStore (M : Type) where
  nextId : Id := 0
  definitions : List AgentDefinition := []
  agentRuns : List (AgentRunRow M) := []
  created : List (Id × CodeContract) := []
  requests : List (Id × ModelRequest) := []

/-- What workers do with agent runs, each with the code it is deployed with. -/
inductive AgentStoreOp (M : Type)
  | createAgentRun (registry : CodeRegistry) (args : CreateAgentRun)
  | handle (deployment : Deployment M) (tables : ContextBuilder.Tables) (context : RuntimeJobContext)
      (payload : JobPayload) (startedAt now : Time)
  | recordAttemptFailure (job : Job) (error : JobError) (willRetry : Bool) (now : Time)

/-- The contracts that an operation is deployed with. -/
def AgentStoreOp.contracts : AgentStoreOp M → List CodeContract
  | .createAgentRun registry _ => registry.contracts
  | .handle deployment _ _ _ _ _ => deployment.registry.contracts
  | .recordAttemptFailure _ _ _ _ => []

/-- The row that `create_agent_run` inserts. -/
def CreateAgentRun.agentRunRow (sha256 : Text → Text) (args : CreateAgentRun) (contract : CodeContract)
    (definition : AgentDefinition) (id jobId : Id) : AgentRunRow M where
  toAgentRun := args.row id jobId
  agentDefinitionId := definition.id
  agentContractFingerprint := contract.fingerprint sha256
  outputSchemaName := contract.outputSchemaName
  outputSchemaVersion := contract.outputSchemaVersion

/-- `AgentRunFailureTrace` -/
def failureTrace (job : Job) (willRetry : Bool) : Json :=
  ContextBuilder.fields
    [("schema_name", .string "AgentRunFailureTrace".toList), ("schema_version", .number (.ofNat 1)),
      ("will_retry", .bool willRetry), ("job_id", .string (Nat.toDigits 10 job.id)),
      ("job_attempt_count", .number (.ofNat job.attemptCount))]

/-- What `record_attempt_failure` writes. -/
def AgentRunRow.failed (job : Job) (error : JobError) (willRetry : Bool) (now : Time)
    (row : AgentRunRow M) : AgentRunRow M :=
  { row.update (AgentRun.recordFailure error willRetry now) with
    safeTraceMetadata := failureTrace job willRetry }

namespace AgentStore

variable (P : Platform M)

/-- `create_agent_run` past the lookup of an existing run. -/
def insertRun (args : CreateAgentRun) (contract : CodeContract) (definition : AgentDefinition)
    (definitions : List AgentDefinition) (s : AgentStore M) : AgentStore M :=
  { s with
    nextId := s.nextId + 3
    definitions := definitions
    agentRuns := s.agentRuns ++
      [args.agentRunRow P.sha256 contract definition (s.nextId + 1) (s.nextId + 2)]
    created := s.created ++ [(s.nextId + 1, contract)] }

/-- `create_agent_run`; what it has done so far is rolled back if it raises. -/
def create (registry : CodeRegistry) (args : CreateAgentRun) (s : AgentStore M) : AgentStore M :=
  match registry.resolve args.contractKey args.contractVersion with
  | .error _ => s
  | .ok contract =>
      match ensureAgentDefinition P.sha256 s.nextId args.scope contract s.definitions with
      | .error _ => s
      | .ok (definition, definitions) =>
          match args.idempotencyKey.bind fun key =>
              findAgentRun args.scope key (s.agentRuns.map AgentRunRow.toAgentRun) with
          | some existing =>
              if existing.jobId = none then s
              else { s with nextId := s.nextId + 1, definitions := definitions }
          | none => s.insertRun P args contract definition definitions

/-- What an attempt asks the provider, whatever becomes of it. -/
def asked (D : Deployment M) (tables : ContextBuilder.Tables) (context : RuntimeJobContext)
    (payload : JobPayload) (s : AgentStore M) : List (Id × ModelRequest) :=
  match loadRow context payload s.agentRuns with
  | .ok (some row) =>
      match prepare P D tables context.scope s.definitions row with
      | .ok prepared => [(row.id, prepared.request)]
      | .error _ => []
  | _ => []

/-- One attempt; if it raises, nothing of it is committed. -/
def attempt (D : Deployment M) (tables : ContextBuilder.Tables) (context : RuntimeJobContext)
    (payload : JobPayload) (startedAt now : Time) (s : AgentStore M) : AgentStore M :=
  let agentRuns :=
    match handleAgentRun P D tables context payload startedAt now s.definitions s.agentRuns with
    | .ok rows => rows
    | .error _ => s.agentRuns
  { s with agentRuns := agentRuns, requests := s.requests ++ s.asked P D tables context payload }

/-- `record_attempt_failure` -/
def recordFailure (job : Job) (error : JobError) (willRetry : Bool) (now : Time) (s : AgentStore M) :
    AgentStore M :=
  match job.payload with
  | .agentRun agentRunId =>
      match Table.find (fun row : AgentRunRow M => row.id) agentRunId s.agentRuns with
      | some row =>
          if row.terminal ∨ job.scope ≠ row.scope then s
          else { s with
            agentRuns := Table.modify (fun row : AgentRunRow M => row.id) agentRunId
              (AgentRunRow.failed job error willRetry now) s.agentRuns }
      | none => s
  | _ => s

/-- What an operation does. -/
def step (op : AgentStoreOp M) (s : AgentStore M) : AgentStore M :=
  match op with
  | .createAgentRun registry args => s.create P registry args
  | .handle D tables context payload startedAt now =>
      s.attempt P D tables context payload startedAt now
  | .recordAttemptFailure job error willRetry now => s.recordFailure job error willRetry now

/-! ## What a step can do -/

/-- What a step does: nothing, a definition, a run that is created, a request without an answer that is
kept, an answer, or a failure. -/
inductive Moves (op : AgentStoreOp M) (s : AgentStore M) : AgentStore M → Prop
  | none : Moves op s s
  | defined {contract : CodeContract} {args : CreateAgentRun} {definition : AgentDefinition}
      {definitions : List AgentDefinition} (hcontract : contract ∈ op.contracts)
      (hensure : ensureAgentDefinition P.sha256 s.nextId args.scope contract s.definitions =
        .ok (definition, definitions)) :
      Moves op s { s with nextId := s.nextId + 1, definitions := definitions }
  | created {contract : CodeContract} {args : CreateAgentRun} {definition : AgentDefinition}
      {definitions : List AgentDefinition} (hcontract : contract ∈ op.contracts)
      (hkey : contract.contractKey = args.contractKey)
      (hversion : contract.contractVersion = args.contractVersion)
      (hensure : ensureAgentDefinition P.sha256 s.nextId args.scope contract s.definitions =
        .ok (definition, definitions)) :
      Moves op s (s.insertRun P args contract definition definitions)
  | asked {row : AgentRunRow M} {registry : CodeRegistry} {prepared : PreparedRun M}
      (hrow : row ∈ s.agentRuns) (hregistry : registry.contracts = op.contracts)
      (hcheck : checkContract P registry s.definitions row = .ok prepared.contract) :
      Moves op s { s with requests := s.requests ++ [(row.id, prepared.request)] }
  | answered {row : AgentRunRow M} {registry : CodeRegistry} {prepared : PreparedRun M}
      {result : ProviderResult M} {startedAt now : Time} {write : AgentRunRow M → AgentRunRow M}
      (hrow : row ∈ s.agentRuns) (hopen : row.terminal = false)
      (hregistry : registry.contracts = op.contracts)
      (hcheck : checkContract P registry s.definitions row = .ok prepared.contract)
      (hwrite : complete P prepared result startedAt now = .ok write) :
      Moves op s { s with
        agentRuns := Table.modify (fun row : AgentRunRow M => row.id) row.id write s.agentRuns
        requests := s.requests ++ [(row.id, prepared.request)] }
  | failed {row : AgentRunRow M} {job : Job} {error : JobError} {willRetry : Bool} {now : Time}
      (hrow : row ∈ s.agentRuns) (hopen : row.terminal = false) :
      Moves op s { s with
        agentRuns := Table.modify (fun row : AgentRunRow M => row.id) row.id
          (AgentRunRow.failed job error willRetry now) s.agentRuns }

variable {P}

theorem moves_create (registry : CodeRegistry) (args : CreateAgentRun) (s : AgentStore M) :
    Moves P (.createAgentRun registry args) s (s.create P registry args) := by
  unfold create
  split
  next => exact .none
  next contract hresolve =>
    have hcontract : contract ∈ registry.contracts :=
      Table.mem_of_find (orRaise_eq_ok_iff.mp hresolve)
    obtain ⟨hkey, hversion⟩ := CodeRegistry.key_of_resolve hresolve
    split
    next => exact .none
    next definition definitions hensure =>
      split
      next existing _ =>
        split
        · exact .none
        · exact .defined hcontract hensure
      next => exact .created hcontract hkey hversion hensure

theorem moves_attempt (D : Deployment M) (tables : ContextBuilder.Tables)
    (context : RuntimeJobContext) (payload : JobPayload) (startedAt now : Time) (s : AgentStore M) :
    Moves P (.handle D tables context payload startedAt now) s
      (s.attempt P D tables context payload startedAt now) := by
  unfold attempt asked
  cases hload : loadRow context payload s.agentRuns with
  | error error =>
      have hhandle : handleAgentRun P D tables context payload startedAt now s.definitions
          s.agentRuns = .error error := by
        rw [handleAgentRun, hload]
        rfl
      simp only [hhandle, List.append_nil]
      exact .none
  | ok loaded =>
      cases loaded with
      | none =>
          have hhandle : handleAgentRun P D tables context payload startedAt now s.definitions
              s.agentRuns = .ok s.agentRuns := by
            rw [handleAgentRun, hload]
            rfl
          simp only [hhandle, List.append_nil]
          exact .none
      | some row =>
          obtain ⟨hrow, hrun⟩ := loadRow_eq_some hload
          obtain ⟨-, -, -, -, hopen⟩ := loadAgentRun_open hrun
          cases hhandle : handleAgentRun P D tables context payload startedAt now s.definitions
              s.agentRuns with
          | error error =>
              cases hprepare : prepare P D tables context.scope s.definitions row with
              | error error =>
                  simp only [hprepare, List.append_nil]
                  exact .none
              | ok prepared =>
                  simp only [hprepare]
                  refine .asked hrow ?_ (prepare_eq_ok hprepare).1
                  rfl
          | ok rows =>
              rcases handleAgentRun_eq_ok hhandle with ⟨hnone, -⟩ |
                ⟨row', prepared, result, write, hload', hprepare, hwrite, rfl⟩
              · rw [hload] at hnone
                cases hnone
              · rw [hload] at hload'
                obtain rfl := Option.some.inj (Except.ok.inj hload')
                simp only [hprepare]
                refine .answered hrow hopen ?_ (prepare_eq_ok hprepare).1 hwrite
                rfl

theorem moves_recordFailure (job : Job) (error : JobError) (willRetry : Bool) (now : Time)
    (s : AgentStore M) :
    Moves P (.recordAttemptFailure job error willRetry now) s
      (s.recordFailure job error willRetry now) := by
  unfold recordFailure
  split
  next agentRunId =>
    split
    next row hfind =>
      split
      · exact .none
      next hopen =>
        rw [not_or, Bool.not_eq_true] at hopen
        obtain rfl := Table.key_of_find hfind
        exact .failed (Table.mem_of_find hfind) hopen.1
    next => exact .none
  next => exact .none

theorem moves_step (op : AgentStoreOp M) (s : AgentStore M) : Moves P op s (s.step P op) := by
  cases op with
  | createAgentRun registry args => exact moves_create registry args s
  | handle D tables context payload startedAt now =>
      exact moves_attempt D tables context payload startedAt now s
  | recordAttemptFailure job error willRetry now => exact moves_recordFailure job error willRetry now s

end AgentStore

/-! ## The contracts behind the rows -/

/-- Nothing that a row keeps for good differs. -/
structure AgentRunRow.SameContract (row row' : AgentRunRow M) : Prop where
  id : row'.id = row.id
  scope : row'.scope = row.scope
  contractKey : row'.contractKey = row.contractKey
  contractVersion : row'.contractVersion = row.contractVersion
  definition : row'.agentDefinitionId = row.agentDefinitionId
  fingerprint : row'.agentContractFingerprint = row.agentContractFingerprint

theorem sameContract_update {row : AgentRunRow M} {f : AgentRun M → AgentRun M}
    (h : row.toAgentRun.SameIdentity (f row.toAgentRun)) : row.SameContract (row.update f) :=
  ⟨h.id, h.scope, h.contractKey, h.contractVersion, rfl, rfl⟩

theorem sameContract_complete {P : Platform M} {prepared : PreparedRun M} {result : ProviderResult M}
    {startedAt now : Time} {write : AgentRunRow M → AgentRunRow M}
    (h : complete P prepared result startedAt now = .ok write) (row : AgentRunRow M) :
    row.SameContract (write row) := by
  obtain ⟨-, persist, hpersist, rfl⟩ := complete_eq_ok h
  obtain ⟨hsame, -⟩ := persistModelResult_eq_ok hpersist (row.toAgentRun.markRunning startedAt)
  exact ⟨hsame.id, hsame.scope, hsame.contractKey, hsame.contractVersion, rfl, rfl⟩

theorem sameContract_failed (job : Job) (error : JobError) (willRetry : Bool) (now : Time)
    (row : AgentRunRow M) : row.SameContract (row.failed job error willRetry now) :=
  have h := sameContract_update (row.toAgentRun.sameIdentity_recordFailure error willRetry now)
  ⟨h.id, h.scope, h.contractKey, h.contractVersion, rfl, rfl⟩

/-- The run was created under the contract, and has the definition of it. -/
structure AgentRunRow.Under (P : Platform M) (definitions : List AgentDefinition)
    (row : AgentRunRow M) (contract : CodeContract) : Prop where
  contractKey : row.contractKey = contract.contractKey
  contractVersion : row.contractVersion = contract.contractVersion
  fingerprint : row.agentContractFingerprint = contract.fingerprint P.sha256
  definition : ∃ definition ∈ definitions, definition.id = row.agentDefinitionId ∧
    definition.contractOf = (row.scope, row.contractKey, row.contractVersion) ∧
    definition.contractFingerprint = row.agentContractFingerprint

namespace AgentRunRow

variable {P : Platform M} {definitions : List AgentDefinition} {row row' : AgentRunRow M}
variable {contract : CodeContract}

theorem Under.mono {definitions' : List AgentDefinition} (h : row.Under P definitions contract)
    (hsub : definitions ⊆ definitions') : row.Under P definitions' contract := by
  obtain ⟨definition, hmem, hrest⟩ := h.definition
  exact ⟨h.contractKey, h.contractVersion, h.fingerprint, definition, hsub hmem, hrest⟩

theorem SameContract.under (hsame : row.SameContract row') (h : row.Under P definitions contract) :
    row'.Under P definitions contract := by
  constructor
  · exact hsame.contractKey.trans h.contractKey
  · exact hsame.contractVersion.trans h.contractVersion
  · exact hsame.fingerprint.trans h.fingerprint
  · rw [hsame.definition, hsame.scope, hsame.contractKey, hsame.contractVersion, hsame.fingerprint]
    exact h.definition

end AgentRunRow

/-- The request is made with the text of the contract, and for its outputs. -/
structure ModelRequest.AsksFor (request : ModelRequest) (contract : CodeContract) : Prop where
  capability : request.capability = contract.modelCapability
  instructions : request.systemInstructions = contract.systemInstructions
  instructionVersion : request.instructionVersion = contract.instructionVersion
  output : request.outputType.jsonSchema.sortKeys = contract.outputModel.jsonSchema.sortKeys

theorem PreparedRun.asksFor (prepared : PreparedRun M) :
    prepared.request.AsksFor prepared.contract := by
  constructor <;> rfl

theorem ModelRequest.AsksFor.of_sameTerms {request : ModelRequest} {contract contract' : CodeContract}
    (h : request.AsksFor contract') (hsame : contract.SameTerms contract') :
    request.AsksFor contract := by
  constructor
  · rw [h.capability, hsame.terms]
  · rw [h.instructions, hsame.terms]
  · rw [h.instructionVersion, hsame.terms]
  · rw [h.output, hsame.schema]

namespace AgentStore

variable {P : Platform M} {R : CodeContract → Prop} {s s' : AgentStore M} {op : AgentStoreOp M}

/-- The contracts behind the rows, all of them such as `R` says. -/
structure Bound (P : Platform M) (R : CodeContract → Prop) (s : AgentStore M) : Prop where
  definitionKeys : Table.KeysNodup AgentDefinition.contractOf s.definitions
  definitionIds : Table.Issued AgentDefinition.id s.nextId s.definitions
  definitions : ∀ definition ∈ s.definitions, ∃ contract, R contract ∧
    definition = contract.definition P.sha256 definition.id definition.scope
  runIds : Table.Issued (fun row : AgentRunRow M => row.id) s.nextId s.agentRuns
  createdIds : Table.Issued Prod.fst s.nextId s.created
  created : ∀ entry ∈ s.created, R entry.2
  runs : ∀ row ∈ s.agentRuns, ∃ contract, (row.id, contract) ∈ s.created ∧
    row.Under P s.definitions contract
  requests : ∀ entry ∈ s.requests, ∃ contract contract', (entry.1, contract) ∈ s.created ∧
    R contract' ∧ contract.fingerprint P.sha256 = contract'.fingerprint P.sha256 ∧
    entry.2.AsksFor contract'

theorem bound_initial : ({} : AgentStore M).Bound P R := by
  refine ⟨Table.keysNodup_nil, Table.issued_nil, ?_, Table.issued_nil, Table.issued_nil, ?_, ?_, ?_⟩
  all_goals exact fun _ h => absurd h List.not_mem_nil

/-- The definitions after `ensure_agent_definition`. -/
theorem Bound.ensure (h : s.Bound P R) {contract : CodeContract} (hcontract : R contract)
    {scope : TenantScope} {definition : AgentDefinition} {definitions : List AgentDefinition}
    (hensure : ensureAgentDefinition P.sha256 s.nextId scope contract s.definitions =
      .ok (definition, definitions)) {nextId : Id} (hlt : s.nextId < nextId) :
    { s with nextId := nextId, definitions := definitions }.Bound P R ∧ definition ∈ definitions ∧
      definition.contractOf = (scope, contract.contractKey, contract.contractVersion) ∧
      definition.contractFingerprint = contract.fingerprint P.sha256 := by
  rcases ensureAgentDefinition_eq_ok hensure with ⟨rfl, hmem, hkey, hfingerprint⟩ |
    ⟨hnew, rfl, rfl⟩
  · exact ⟨{ h with
      definitionIds := h.definitionIds.mono hlt.le
      runIds := h.runIds.mono hlt.le
      createdIds := h.createdIds.mono hlt.le }, hmem, hkey, hfingerprint⟩
  · refine ⟨{ h with
      definitionKeys := ?_
      definitionIds := h.definitionIds.concat le_rfl hlt
      definitions := ?_
      runIds := h.runIds.mono hlt.le
      createdIds := h.createdIds.mono hlt.le
      runs := ?_ }, List.mem_append_right _ (List.mem_singleton_self _), rfl, rfl⟩
    · refine h.definitionKeys.append (Table.keysNodup_singleton _) fun added hadded old hold => ?_
      rw [List.mem_singleton.mp hadded]
      exact hnew old hold
    · intro row hrow
      rcases List.mem_append.mp hrow with hold | hadded
      · exact h.definitions row hold
      · rw [List.mem_singleton.mp hadded]
        exact ⟨contract, hcontract, rfl⟩
    · intro row hrow
      obtain ⟨made, hmade, hunder⟩ := h.runs row hrow
      exact ⟨made, hmade, hunder.mono (List.subset_append_left _ _)⟩

/-- A row that is written keeps its contract. -/
theorem Bound.modify (h : s.Bound P R) (id : Id) {f : AgentRunRow M → AgentRunRow M}
    (hf : ∀ row, AgentRunRow.SameContract row (f row)) :
    { s with
      agentRuns := Table.modify (fun row : AgentRunRow M => row.id) id f s.agentRuns }.Bound P R := by
  refine { h with runIds := ⟨h.runIds.nodup.modify fun row _ hid => ?_, ?_⟩, runs := ?_ }
  · rw [(hf row).id, hid]
  · intro row hrow
    rcases Table.mem_modify_cases hrow with ⟨old, hold, -, rfl⟩ | ⟨hold, -⟩
    · rw [(hf old).id]
      exact h.runIds.lt old hold
    · exact h.runIds.lt row hold
  · intro row hrow
    rcases Table.mem_modify_cases hrow with ⟨old, hold, -, rfl⟩ | ⟨hold, -⟩
    · obtain ⟨contract, hmade, hunder⟩ := h.runs old hold
      rw [(hf old).id]
      exact ⟨contract, hmade, (hf old).under hunder⟩
    · exact h.runs row hold

/-- A request for a run whose contract has been checked. -/
theorem Bound.ask (h : s.Bound P R) {row : AgentRunRow M} (hrow : row ∈ s.agentRuns)
    {registry : CodeRegistry} (hregistry : ∀ contract ∈ registry.contracts, R contract)
    {prepared : PreparedRun M}
    (hcheck : checkContract P registry s.definitions row = .ok prepared.contract) :
    { s with requests := s.requests ++ [(row.id, prepared.request)] }.Bound P R := by
  refine { h with requests := fun entry hentry => ?_ }
  rcases List.mem_append.mp hentry with hold | hnew
  · exact h.requests entry hold
  · obtain ⟨hresolve, hfingerprint, -⟩ := checkContract_eq_ok_iff.mp hcheck
    obtain ⟨made, hmade, hunder⟩ := h.runs row hrow
    rw [List.mem_singleton.mp hnew]
    refine ⟨made, prepared.contract, hmade, hregistry _ ?_, ?_, prepared.asksFor⟩
    · exact Table.mem_of_find (orRaise_eq_ok_iff.mp hresolve)
    · rw [← hunder.fingerprint, hfingerprint]

theorem Bound.moves (h : s.Bound P R) (hop : ∀ contract ∈ op.contracts, R contract)
    (hmoves : Moves P op s s') : s'.Bound P R := by
  cases hmoves with
  | none => exact h
  | defined hcontract hensure => exact (h.ensure (hop _ hcontract) hensure (Nat.lt_succ_self _)).1
  | asked hrow hregistry hcheck =>
      refine h.ask hrow (fun contract hmem => ?_) hcheck
      rw [hregistry] at hmem
      exact hop contract hmem
  | answered hrow hopen hregistry hcheck hwrite =>
      refine (h.ask hrow (fun contract hmem => ?_) hcheck).modify _ (sameContract_complete hwrite)
      rw [hregistry] at hmem
      exact hop contract hmem
  | failed hrow hopen => exact h.modify _ (sameContract_failed _ _ _ _)
  | @created contract args definition definitions hcontract hkey hversion hensure =>
      have hlt : s.nextId < s.nextId + 3 := Nat.lt_add_of_pos_right (Nat.succ_pos 2)
      have hrow : s.nextId + 1 < s.nextId + 3 := Nat.add_lt_add_left (by decide) s.nextId
      obtain ⟨hensured, hmem, hdefinition, hfingerprint⟩ :=
        h.ensure (hop _ hcontract) hensure hlt
      have hunder : (args.agentRunRow (M := M) P.sha256 contract definition (s.nextId + 1)
          (s.nextId + 2)).Under P definitions contract := by
        refine ⟨hkey.symm, hversion.symm, rfl, definition, hmem, rfl, ?_, hfingerprint⟩
        rw [hdefinition, hkey, hversion]
        rfl
      refine { hensured with
        runIds := h.runIds.concat (Nat.le_succ _) hrow
        createdIds := h.createdIds.concat (Nat.le_succ _) hrow
        created := ?_, runs := ?_, requests := ?_ }
      · intro entry hentry
        rcases List.mem_append.mp hentry with hold | hnew
        · exact h.created entry hold
        · rw [List.mem_singleton.mp hnew]
          exact hop contract hcontract
      · intro row hrow
        rcases List.mem_append.mp hrow with hold | hnew
        · obtain ⟨made, hmade, hold⟩ := hensured.runs row hold
          exact ⟨made, List.mem_append_left _ hmade, hold⟩
        · rw [List.mem_singleton.mp hnew]
          exact ⟨contract, List.mem_append_right _ (List.mem_singleton_self _), hunder⟩
      · intro entry hentry
        obtain ⟨made, other, hmade, hrest⟩ := h.requests entry hentry
        exact ⟨made, other, List.mem_append_left _ hmade, hrest⟩

/-- The contracts that a run of workers is deployed with. -/
def Deployed (ops : List (AgentStoreOp M)) (contract : CodeContract) : Prop :=
  ∃ op ∈ ops, contract ∈ op.contracts

theorem bound_run (P : Platform M) (ops : List (AgentStoreOp M)) :
    (run (step P) {} ops).Bound P (Deployed ops) := by
  refine invariant_run (G := fun _ op => ∀ contract ∈ op.contracts, Deployed ops contract)
    (fun s op h hop => h.moves hop (moves_step op s)) bound_initial ?_
  exact guarded_of_forall_mem (fun op hop _ contract hcontract => ⟨op, hop, hcontract⟩) _

/-- Whatever the workers are deployed with over time, what the provider is asked for a run is the text
of the one contract that the run was created under, unless a contract that one of them is deployed with
collides with it. -/
theorem requests_of_created_contract (P : Platform M) (ops : List (AgentStoreOp M)) :
    ∀ entry ∈ (run (step P) {} ops).requests, ∃ contract,
      (∀ contract', (entry.1, contract') ∈ (run (step P) {} ops).created ↔ contract' = contract) ∧
      (entry.2.AsksFor contract ∨
        ∃ contract', Deployed ops contract' ∧ contract.Collide P.sha256 contract') := by
  intro entry hentry
  have h := bound_run P ops
  obtain ⟨contract, contract', hmade, hdeployed, hfingerprint, hasks⟩ := h.requests entry hentry
  refine ⟨contract, fun other => ⟨fun hother => ?_, ?_⟩, ?_⟩
  · exact congrArg Prod.snd (h.createdIds.nodup.eq_of_key_eq hother hmade rfl)
  · rintro rfl
    exact hmade
  · rcases CodeContract.fingerprint_identifies hfingerprint with hsame | hcollide
    · exact .inl (hasks.of_sameTerms hsame)
    · exact .inr ⟨contract', hdeployed, hcollide⟩

/-- The definition of a run has the fingerprint of the run, and is the row of some contract. -/
theorem Bound.definition (h : s.Bound P R) {row : AgentRunRow M} {contract : CodeContract}
    (hunder : row.Under P s.definitions contract) : ∃ source definition, R source ∧
      Table.find AgentDefinition.id row.agentDefinitionId s.definitions = some definition ∧
      definition = source.definition P.sha256 definition.id definition.scope ∧
      contract.fingerprint P.sha256 = source.fingerprint P.sha256 := by
  obtain ⟨definition, hmem, hid, -, hfingerprint⟩ := hunder.definition
  obtain ⟨source, hsource, hdefinition⟩ := h.definitions definition hmem
  refine ⟨source, definition, hsource, h.definitionIds.nodup.find_eq_some_iff.mpr ⟨hmem, hid⟩,
    hdefinition, ?_⟩
  rw [← hunder.fingerprint, ← hfingerprint, hdefinition]
  rfl

/-- In every state of every run of workers, an attempt of a run passes the checks on its contract with a
contract that says what the one says that the run was created under, and with no other, unless the
digest has a collision. -/
theorem contract_checks_exact (P : Platform M) (ops : List (AgentStoreOp M)) :
    ∀ row ∈ (run (step P) {} ops).agentRuns, ∃ made,
      (row.id, made) ∈ (run (step P) {} ops).created ∧
      ∀ registry contract, registry.resolve row.contractKey row.contractVersion = .ok contract →
        (checkContract P registry (run (step P) {} ops).definitions row = .ok contract ↔
          made.SameTerms contract) ∨
        ∃ contract', (Deployed ops contract' ∨ contract' = contract) ∧
          made.Collide P.sha256 contract' := by
  intro row hrow
  have h := bound_run P ops
  obtain ⟨made, hmade, hunder⟩ := h.runs row hrow
  obtain ⟨source, definition, hsource, hfind, hdefinition, hfingerprint⟩ := h.definition hunder
  refine ⟨made, hmade, fun registry contract hresolve => ?_⟩
  -- the definition may be the row of another contract with the fingerprint
  rcases CodeContract.fingerprint_identifies hfingerprint with hsame | hcollide
  swap
  · exact .inr ⟨source, .inl hsource, hcollide⟩
  by_cases hprint : made.fingerprint P.sha256 = contract.fingerprint P.sha256
  · rcases CodeContract.fingerprint_identifies hprint with hterms | hcollide
    · refine .inl ⟨fun _ => hterms, fun _ => checkContract_eq_ok_iff.mpr ⟨hresolve, ?_, ?_⟩⟩
      · exact hunder.fingerprint.trans hprint
      · refine ⟨definition, hfind, ?_⟩
        rw [hdefinition]
        exact assertAgentDefinitionParity_eq_ok_iff.mp
          (assertAgentDefinitionParity_of_sameTerms (hsame.symm.trans hterms)
            (hfingerprint.symm.trans hprint) _ _)
    · exact .inr ⟨contract, .inr rfl, hcollide⟩
  · refine .inl ⟨fun hcheck => ?_, fun hterms => ?_⟩
    · obtain ⟨-, hrun, -⟩ := checkContract_eq_ok_iff.mp hcheck
      exact absurd (hunder.fingerprint.symm.trans hrun) hprint
    · exact absurd (congrArg P.sha256 hterms.text_eq) hprint

end AgentStore

/-! ## What a row says in the end -/

namespace Security

theorem length_redactedErrorSummary_le (className message : String) :
    (redactedErrorSummary className message).length ≤ 500 := by
  unfold redactedErrorSummary
  dsimp only
  split
  next h =>
    have htake :
        (List.take (500 - 3) (redact (className ++ ": " ++ message).toList)).length ≤ 500 - 3 :=
      List.length_take_le _ _
    have hdots : "...".length = 3 := rfl
    rw [String.length_append, String.length_ofList]
    omega
  next h => simpa using Nat.le_of_not_lt h

end Security

theorem length_safeText_le (value : String) : (safeText value).length ≤ 500 := by
  have h := Security.length_redactedErrorSummary_le "RuntimeError" value
  rw [← String.length_toList] at h
  simp only [safeText, String.length_ofList, List.length_drop]
  omega

/-- The provider has answered. -/
def AgentRunStatus.answered : AgentRunStatus → Bool
  | .succeeded | .refused | .invalidOutput => true
  | .queued | .running | .retryWait | .failed => false

/-- Something went wrong. -/
def AgentRunStatus.erred : AgentRunStatus → Bool
  | .retryWait | .invalidOutput | .failed => true
  | .queued | .running | .succeeded | .refused => false

namespace AgentRunRow

/-- What the status of a committed row says of its other columns. -/
structure Consistent (P : Platform M) (row : AgentRunRow M) : Prop where
  committed : row.status ≠ .running
  ended : row.completedAt.isSome = row.terminal
  output : row.outputData.isSome = true ↔ row.status = .succeeded
  refusal : row.refusalSummary.isSome = true ↔ row.status = .refused
  errorClass : row.errorClass.isSome = row.status.erred
  errorSummary : row.errorSummary.isSome = row.status.erred
  provider : row.providerName.isSome = row.status.answered
  clean : ∀ output ∈ row.outputData, (P.modelDump output).accepted = true
  trace : row.safeTraceMetadata.accepted = true
  bounded : ∀ text, row.errorSummary = some text ∨ row.refusalSummary = some text →
    text.length ≤ 500

/-- The row names what the provider was asked for the run. -/
def Answered (requests : List (Id × ModelRequest)) (row : AgentRunRow M) : Prop :=
  row.status.answered = true → ∃ request, (row.id, request) ∈ requests ∧
    row.providerName = some request.selectedProviderName ∧
    row.providerModel = some request.selectedModelName ∧
    row.contextHash = some request.contextHash ∧ row.contextManifest = request.contextManifest

end AgentRunRow

section Consistent

variable {P : Platform M} {row : AgentRunRow M}

theorem consistent_created (args : CreateAgentRun) (contract : CodeContract)
    (definition : AgentDefinition) (id jobId : Id) :
    (args.agentRunRow (M := M) P.sha256 contract definition id jobId).Consistent P := by
  constructor
  all_goals simp [CreateAgentRun.agentRunRow, CreateAgentRun.row, AgentRun.terminal,
    AgentRunStatus.terminal, AgentRunStatus.erred, AgentRunStatus.answered, Json.accepted,
    Json.acceptedFields]

/-- A row that is open and committed has neither an output nor a refusal. -/
theorem AgentRunRow.Consistent.open_columns (h : row.Consistent P) (hopen : row.terminal = false) :
    row.outputData = none ∧ row.refusalSummary = none ∧ row.providerName = none := by
  have hcommitted := h.committed
  have hterminal : row.status.terminal = false := hopen
  have houtput := h.output
  have hrefusal := h.refusal
  have hprovider := h.provider
  cases hstatus : row.status
  all_goals simp_all [AgentRunStatus.terminal, AgentRunStatus.answered]

/-- What is written of a result. -/
theorem consistent_complete {prepared : PreparedRun M} {result : ProviderResult M}
    {startedAt now : Time} {write : AgentRunRow M → AgentRunRow M}
    (h : complete P prepared result startedAt now = .ok write) (row : AgentRunRow M) :
    (write row).Consistent P := by
  obtain ⟨hrecorded, persist, hpersist, rfl⟩ := complete_eq_ok h
  have hclean := hrecorded.output
  have htrace := hrecorded.trace
  cases hresult : result.toModelResult with
  | parsed output =>
      rw [hresult] at hpersist hclean
      cases output with
      | none => cases hpersist
      | some output =>
          cases hpersist
          refine ⟨nofun, rfl, by simp [AgentRunRow.update], by simp [AgentRunRow.update,
            AgentRun.markRunning], rfl, rfl, rfl, fun other hother => ?_, htrace, ?_⟩
          · rw [← Option.mem_some.mp hother]
            exact hclean output rfl
          · rintro text (hnone | hnone) <;> cases hnone
  | refusal text =>
      rw [hresult] at hpersist
      cases hpersist
      refine ⟨nofun, rfl, by simp [AgentRunRow.update], by simp [AgentRunRow.update], rfl, rfl, rfl,
        nofun, htrace, ?_⟩
      rintro text (hnone | hsome)
      · cases hnone
      · have htext : safeText _ = text := Option.some.inj hsome
        rw [← htext]
        exact length_safeText_le _
  | incomplete reason | invalidOutput reason =>
      rw [hresult] at hpersist
      cases hpersist
      refine ⟨nofun, rfl, by simp [AgentRunRow.update], by simp [AgentRunRow.update,
        AgentRun.markRunning], rfl, rfl, rfl, nofun, htrace, ?_⟩
      rintro text (hsome | hnone)
      · have htext : safeText _ = text := Option.some.inj hsome
        rw [← htext]
        exact length_safeText_le _
      · cases hnone

theorem accepted_failureTrace (job : Job) (willRetry : Bool) :
    (failureTrace job willRetry).accepted = true := by
  have hdigits : '=' ∉ Nat.toDigits 10 job.id := by
    intro hmem
    have hdigit := Nat.isDigit_of_mem_toDigits (by decide) (by decide) hmem
    exact absurd hdigit (by decide)
  have hname : '=' ∉ "AgentRunFailureTrace".toList := by decide
  have hkeys : ∀ key ∈ ["schema_name", "schema_version", "will_retry", "job_id", "job_attempt_count"],
      Security.isSecretKey key.toList = false := by decide +kernel
  simp only [List.forall_mem_cons] at hkeys
  obtain ⟨h1, h2, h3, h4, h5, -⟩ := hkeys
  simp only [failureTrace, ContextBuilder.fields, List.map_cons, List.map_nil, Json.accepted,
    Json.acceptedFields, Json.acceptedField, h1, h2, h3, h4, h5,
    Security.hasSecretAssignment_of_not_mem hdigits, Security.hasSecretAssignment_of_not_mem hname,
    Bool.not_false, Bool.and_true]

/-- What is written of a failure. -/
theorem consistent_failed (h : row.Consistent P) (hopen : row.terminal = false) (job : Job)
    (error : JobError) (willRetry : Bool) (now : Time) :
    (row.failed job error willRetry now).Consistent P := by
  obtain ⟨houtput, hrefusal, hprovider⟩ := h.open_columns hopen
  have hbounded : error.redactedSummary.length ≤ 500 :=
    Security.length_redactedErrorSummary_le _ _
  cases willRetry
  all_goals
    refine ⟨nofun, rfl, ?_, ?_, rfl, rfl, ?_, ?_, accepted_failureTrace _ _, ?_⟩
    · simp [AgentRunRow.failed, AgentRunRow.update, AgentRun.recordFailure, houtput]
    · simp [AgentRunRow.failed, AgentRunRow.update, AgentRun.recordFailure, hrefusal]
    · simp [AgentRunRow.failed, AgentRunRow.update, AgentRun.recordFailure, hprovider,
        AgentRunStatus.answered]
    · simp [AgentRunRow.failed, AgentRunRow.update, AgentRun.recordFailure, houtput]
    · rintro text (hsome | hnone)
      · cases hsome
        exact hbounded
      · have hother : row.refusalSummary = some text := hnone
        rw [hrefusal] at hother
        cases hother

/-- An answer that is recorded names the route of its request. -/
theorem answered_complete {prepared : PreparedRun M} {result : ProviderResult M} {startedAt now : Time}
    {write : AgentRunRow M → AgentRunRow M}
    (h : complete P prepared result startedAt now = .ok write) (row : AgentRunRow M)
    {requests : List (Id × ModelRequest)} (hasked : (row.id, prepared.request) ∈ requests) :
    (write row).Answered requests := by
  have hid := (sameContract_complete h row).id
  obtain ⟨hrecorded, persist, -, rfl⟩ := complete_eq_ok h
  intro _
  refine ⟨prepared.request, ?_, ?_, ?_, rfl, rfl⟩
  · rwa [hid]
  · exact congrArg some hrecorded.provider
  · exact congrArg some hrecorded.model

namespace AgentStore

variable {s s' : AgentStore M} {op : AgentStoreOp M}

/-- What holds of all rows. -/
structure RowsConsistent (P : Platform M) (s : AgentStore M) : Prop where
  consistent : ∀ row ∈ s.agentRuns, row.Consistent P
  answered : ∀ row ∈ s.agentRuns, row.Answered s.requests

theorem Moves.rowsConsistent (hmoves : Moves P op s s') (hbound : Table.KeysNodup
      (fun row : AgentRunRow M => row.id) s.agentRuns) (h : s.RowsConsistent P) :
    s'.RowsConsistent P := by
  have hmore : ∀ {row : AgentRunRow M} {more : List (Id × ModelRequest)},
      row.Answered s.requests → row.Answered (s.requests ++ more) := by
    intro row more hanswered hstatus
    obtain ⟨request, hmem, hrest⟩ := hanswered hstatus
    exact ⟨request, List.mem_append_left _ hmem, hrest⟩
  cases hmoves with
  | none => exact h
  | defined => exact ⟨h.consistent, h.answered⟩
  | asked => exact ⟨h.consistent, fun row hrow => hmore (h.answered row hrow)⟩
  | created =>
      constructor
      · intro row hrow
        rcases List.mem_append.mp hrow with hold | hnew
        · exact h.consistent row hold
        · rw [List.mem_singleton.mp hnew]
          exact consistent_created _ _ _ _ _
      · intro row hrow
        rcases List.mem_append.mp hrow with hold | hnew
        · exact h.answered row hold
        · rw [List.mem_singleton.mp hnew]
          exact nofun
  | @answered row _ prepared _ _ _ _ hrow _ _ _ hwrite =>
      constructor
      · intro row' hrow'
        rcases Table.mem_modify_cases hrow' with ⟨old, hold, -, rfl⟩ | ⟨hold, -⟩
        · exact consistent_complete hwrite old
        · exact h.consistent row' hold
      · intro row' hrow'
        rcases Table.mem_modify_cases hrow' with ⟨old, hold, hid, rfl⟩ | ⟨hold, -⟩
        · apply answered_complete hwrite old
          rw [hid]
          exact List.mem_append_right _ (List.mem_singleton_self _)
        · exact hmore (h.answered row' hold)
  | @failed row _ _ _ _ hrow hopen =>
      constructor
      · intro row' hrow'
        rcases Table.mem_modify_cases hrow' with ⟨old, hold, hid, rfl⟩ | ⟨hold, -⟩
        · obtain rfl := hbound.eq_of_key_eq hold hrow hid
          exact consistent_failed (h.consistent old hold) hopen _ _ _ _
        · exact h.consistent row' hold
      · intro row' hrow'
        rcases Table.mem_modify_cases hrow' with ⟨old, hold, -, rfl⟩ | ⟨hold, -⟩
        · -- the provider has not answered a run that has failed
          rename_i willRetry _
          cases willRetry <;> exact nofun
        · exact h.answered row' hold

/-- A step leaves rows that have ended alone. -/
theorem Moves.keeps_ended (hmoves : Moves P op s s') (hbound : Table.KeysNodup
      (fun row : AgentRunRow M => row.id) s.agentRuns) {row : AgentRunRow M}
    (hrow : row ∈ s.agentRuns) (hended : row.terminal = true) : row ∈ s'.agentRuns := by
  have hother : ∀ {open' : AgentRunRow M} (write : AgentRunRow M → AgentRunRow M),
      open' ∈ s.agentRuns → open'.terminal = false →
        row ∈ Table.modify (fun row : AgentRunRow M => row.id) open'.id write s.agentRuns := by
    intro open' write hmem hopen
    refine Table.mem_modify_of_ne hrow fun hid => ?_
    obtain rfl := hbound.eq_of_key_eq hrow hmem hid
    rw [hended] at hopen
    cases hopen
  cases hmoves with
  | none | defined | asked => exact hrow
  | created => exact List.mem_append_left _ hrow
  | answered hmem hopen _ _ _ => exact hother _ hmem hopen
  | failed hmem hopen => exact hother _ hmem hopen

theorem rowsConsistent_run (ops : List (AgentStoreOp M)) :
    (run (step P) {} ops).RowsConsistent P := by
  have hinitial : ({} : AgentStore M).Bound P (fun _ => True) ∧
      ({} : AgentStore M).RowsConsistent P :=
    ⟨bound_initial, fun _ h => absurd h List.not_mem_nil, fun _ h => absurd h List.not_mem_nil⟩
  refine (invariant_run_of_step (step P) (I := fun s => s.Bound P (fun _ => True) ∧
    s.RowsConsistent P) (fun s op h => ?_) hinitial ops).2
  have hmoves := moves_step (P := P) op s
  exact ⟨h.1.moves (fun _ _ => trivial) hmoves, hmoves.rowsConsistent h.1.runIds.nodup h.2⟩

theorem ended_run {s : AgentStore M} (hs : s.Bound P fun _ => True) (ops : List (AgentStoreOp M))
    {row : AgentRunRow M} (hrow : row ∈ s.agentRuns) (hended : row.terminal = true) :
    row ∈ (run (step P) s ops).agentRuns := by
  induction ops generalizing s with
  | nil => exact hrow
  | cons op ops ih =>
      have hmoves := moves_step (P := P) op s
      exact ih (hs.moves (fun _ _ => trivial) hmoves)
        (hmoves.keeps_ended hs.runIds.nodup hrow hended)

end AgentStore

end Consistent

/-! ## A probe of the runtime -/

/-- A contract with short texts, for the probe. -/
def probeTerms : ContractTerms where
  allowedContextTypes := ["goal"]
  requiredContextTypes := []
  contractKey := "probe"
  roleName := "Probe"
  mission := "probe"
  outputSchemaName := "Output"
  modelCapability := .fastStructuredClassification
  authorityBoundaries := [.readContext, .proposeAnalysis]
  prohibitedActions := ["external write"]
  requiredControllerTypes := ["none"]
  abstentionPolicy := "refuse"
  escalationPolicy := "owner"
  instructionVersion := "v1"
  systemInstructions := "probe"
  evalSuiteIdentifier := "probe.v1"

def probeCode : CodeContract where
  toContractTerms := probeTerms
  outputModel := ⟨"Output", .object [("title".toList, .string "Output".toList)], ⟨trivial, trivial⟩⟩
  valid := by decide +kernel

/-- A deployment with the probe, and with a model that is never reached. -/
def probeDeployment : Deployment String where
  registry := ⟨[probeCode], List.nodup_singleton _⟩
  builder := .base
  router :=
    { routes := [(.fastStructuredClassification,
        ⟨.fastStructuredClassification, "openai", "probe-model"⟩)]
      adapters := [("openai", OpenAIResponsesAdapter.invoke (fun _ => "Output") ⟨[], [], 0⟩
        fun _ => .error (.connection true))]
      matched := by simp }

/-- The digest is a toy. -/
def probePlatform : Platform String where
  sha256 _ := ['0']
  hexadecimal _ := by decide
  instant _ := 0
  modelDump output := .string output.toList

/-- The job of the run. -/
def probeJob : Job where
  id := 2
  scope := ContextBuilder.demoTenant
  jobType := .aiRunAgent
  payload := .agentRun 1
  payloadSchemaVersion := 1
  status := .failed
  idempotencyKey := .agentRun 1
  attemptCount := 1
  maxAttempts := 1
  availableAt := 0

/-- A run is created, attempted, and given up. -/
def probeOps : List (AgentStoreOp String) :=
  [.createAgentRun probeDeployment.registry
      { scope := ContextBuilder.demoTenant, contractKey := "probe",
        isAgentRun := JobType.isAgentRun_aiRunAgent },
    .handle probeDeployment ⟨[], Table.keysNodup_nil, fun _ h => absurd h List.not_mem_nil⟩
      ⟨ContextBuilder.demoTenant, 2, .aiRunAgent, 1⟩ (.agentRun 1) 5 6,
    .recordAttemptFailure probeJob (.aiTransientProviderError "timeout") false 7]

/-- The provider was asked, and the run has failed. -/
theorem probe_asked_and_failed :
    ((run (AgentStore.step probePlatform) {} probeOps).requests.map Prod.fst,
      (run (AgentStore.step probePlatform) {} probeOps).agentRuns.map fun row => row.status) =
        ([1], [.failed]) := by
  decide +kernel

theorem probe_request :
    ∃ entry, entry ∈ (run (AgentStore.step probePlatform) {} probeOps).requests := by
  have h := (Prod.mk.inj probe_asked_and_failed).1
  obtain ⟨entry, rest, hrequests, -, -⟩ := List.map_eq_cons_iff.mp h
  rw [hrequests]
  exact ⟨entry, List.mem_cons_self⟩

theorem probe_row :
    ∃ row, row ∈ (run (AgentStore.step probePlatform) {} probeOps).agentRuns := by
  have h := (Prod.mk.inj probe_asked_and_failed).2
  obtain ⟨row, rest, hrows, -, -⟩ := List.map_eq_cons_iff.mp h
  rw [hrows]
  exact ⟨row, List.mem_cons_self⟩

theorem probe_asked_of_contract :
    ∃ entry ∈ (run (AgentStore.step probePlatform) {} probeOps).requests, ∃ contract,
      (∀ contract', (entry.1, contract') ∈
        (run (AgentStore.step probePlatform) {} probeOps).created ↔ contract' = contract) ∧
      (entry.2.AsksFor contract ∨ ∃ contract', AgentStore.Deployed probeOps contract' ∧
        contract.Collide probePlatform.sha256 contract') := by
  obtain ⟨entry, hentry⟩ := probe_request
  exact ⟨entry, hentry, AgentStore.requests_of_created_contract probePlatform probeOps entry hentry⟩

theorem probe_checks_exact :
    ∃ row ∈ (run (AgentStore.step probePlatform) {} probeOps).agentRuns, ∃ made,
      (row.id, made) ∈ (run (AgentStore.step probePlatform) {} probeOps).created ∧
      ∀ registry contract, registry.resolve row.contractKey row.contractVersion = .ok contract →
        (checkContract probePlatform registry
            (run (AgentStore.step probePlatform) {} probeOps).definitions row = .ok contract ↔
          made.SameTerms contract) ∨
        ∃ contract', (AgentStore.Deployed probeOps contract' ∨ contract' = contract) ∧
          made.Collide probePlatform.sha256 contract' := by
  obtain ⟨row, hrow⟩ := probe_row
  exact ⟨row, hrow, AgentStore.contract_checks_exact probePlatform probeOps row hrow⟩

end LaunchOS
