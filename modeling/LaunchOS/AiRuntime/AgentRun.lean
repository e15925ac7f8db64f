import LaunchOS.Runtime.Worker

/-!
# Agent runs

The `agent_runs` table, `AgentRunService.create_agent_run` and `AgentRunJobHandler`.

The module introduces:

* `RunRef`, `RunKey`: the input references and idempotency keys that the workflows build;
* `ContextReference`: what a run is to be shown;
* `AgentRun`, with its state machine `AgentRunStatus`;
* `AgentTables`: the tables of domain code that uses agent runs;
* `createAgentRun`: the run and its job, or the run that already has the key;
* `loadAgentRun`, `persistModelResult`: the handler before and after the call of the provider;
* `recordAgentRunFailure`: what the handler records when an attempt fails.

The output of a run is of an arbitrary type `M`; the schemas and checks of the workflows are about
it. What stands between the run and the provider, i.e. the agent registry, the durable definition,
the context builder, the model router, the adapter and the secret scan of the output, answers from
outside: each of them may fail with any error.
-/

namespace LaunchOS

/-- `AgentRunStatus`. -/
inductive AgentRunStatus
  | queued
  | running
  | retryWait
  | succeeded
  | refused
  | invalidOutput
  | failed
deriving DecidableEq, Repr

/-- `TERMINAL_AGENT_RUN_STATUSES`; the others are the workflows' `_PENDING_AGENT_RUN_STATUSES`. -/
def AgentRunStatus.terminal : AgentRunStatus → Bool
  | .succeeded | .refused | .invalidOutput | .failed => true
  | .queued | .running | .retryWait => false

/-- The input references the code builds, one constructor for each format string. -/
inductive RunRef
  /-- `decision_workflow:{workflow.id}:specialist:{contract_key}` -/
  | specialist (workflowId : Id) (contractKey : String)
  /-- `decision_workflow:{workflow.id}:chief:v{version}` -/
  | chief (workflowId : Id) (version : ℕ)
  /-- `decision_workflow:{workflow.id}:candidate:{candidate.version_number}:{contract_key}` -/
  | candidate (workflowId : Id) (version : ℕ) (contractKey : String)
  /-- `production_workflow:{workflow.id}:content_strategy` -/
  | contentStrategy (workflowId : Id)
  /-- `production_workflow:{workflow.id}:asset:v{version}` -/
  | asset (workflowId : Id) (version : ℕ)
  /-- `production_workflow:{workflow.id}:asset:{version_number}:{contract_key}` -/
  | assetController (workflowId : Id) (version : ℕ) (contractKey : String)
  /-- any other reference -/
  | other (text : String)
deriving DecidableEq, Repr

/-- The idempotency keys of agent runs. -/
inductive RunKey
  /-- the reference itself -/
  | base (ref : RunRef)
  /-- `{ref}:retry:{count}` -/
  | retry (ref : RunRef) (count : ℕ)
deriving DecidableEq, Repr

/-- The reference that a key is built from. -/
def RunKey.ref : RunKey → RunRef
  | .base ref | .retry ref _ => ref

/-- `ContextReference` -/
structure ContextReference where
  objectType : String
  objectId : String
deriving DecidableEq, Repr

/-- A row of `agent_runs`. -/
structure AgentRun (M : Type) where
  id : Id
  scope : TenantScope
  contractKey : String
  contractVersion : ℕ
  status : AgentRunStatus := .queued
  inputRef : Option RunRef
  contextRefs : List ContextReference := []
  outputData : Option M := none
  refusalSummary : Option String := none
  errorClass : Option String := none
  errorSummary : Option String := none
  startedAt : Option Time := none
  completedAt : Option Time := none
  jobId : Option Id := none
  idempotencyKey : Option RunKey
deriving DecidableEq, Repr

/-- `agent_run_is_terminal`. -/
def AgentRun.terminal {M : Type} (run : AgentRun M) : Bool := run.status.terminal

/-- What neither the handler nor its failure recorder changes in a run. -/
structure AgentRun.SameIdentity {M : Type} (run run' : AgentRun M) : Prop where
  id : run'.id = run.id
  scope : run'.scope = run.scope
  contractKey : run'.contractKey = run.contractKey
  contractVersion : run'.contractVersion = run.contractVersion
  inputRef : run'.inputRef = run.inputRef
  contextRefs : run'.contextRefs = run.contextRefs
  jobId : run'.jobId = run.jobId
  idempotencyKey : run'.idempotencyKey = run.idempotencyKey

/-- The tables of domain code that uses agent runs: the runs and its own tables `T`. -/
structure AgentTables (M T : Type) where
  agentRuns : List (AgentRun M) := []
  domain : T

/-- The committed state of the runtime, the agent runs and the domain. -/
abbrev AgentDatabase (M T : Type) := Database (AgentTables M T)

variable {M T : Type}

namespace AgentTables

/-- Update the run with the given id. -/
def updateRun (id : Id) (f : AgentRun M → AgentRun M) (t : AgentTables M T) :
    AgentTables M T :=
  { t with agentRuns := Table.modify AgentRun.id id f t.agentRuns }

end AgentTables

/-- `AIContractError`, a `PermanentJobError`. -/
def JobError.aiContractError (message : String) : JobError :=
  ⟨.permanent, "AIContractError", message⟩

/-- `AIInvalidOutputError`, a `PermanentJobError`. -/
def JobError.aiInvalidOutputError (message : String) : JobError :=
  ⟨.permanent, "AIInvalidOutputError", message⟩

/-! ## Creation -/

/-- The job types of agent runs. -/
def JobType.isAgentRun : JobType → Bool
  | .aiRunAgent | .aiRunController => true
  | _ => false

theorem JobType.isAgentRun_aiRunAgent : JobType.aiRunAgent.isAgentRun = true := rfl

theorem JobType.isAgentRun_aiRunController : JobType.aiRunController.isAgentRun = true := rfl

/-- The keyword arguments of `create_agent_run`. -/
structure CreateAgentRun where
  scope : TenantScope
  contractKey : String
  contractVersion : ℕ := 1
  inputRef : Option RunRef := none
  contextRefs : List ContextReference := []
  jobType : JobType := .aiRunAgent
  idempotencyKey : Option RunKey := none
  /-- The callers pass one of the two job types of agent runs. -/
  isAgentRun : jobType.isAgentRun = true := by rfl

/-- The run that `create_agent_run` looks for: the one with the tenant and the idempotency key. -/
def findAgentRun (scope : TenantScope) (key : RunKey) (runs : List (AgentRun M)) :
    Option (AgentRun M) :=
  runs.find? fun run => run.scope = scope ∧ run.idempotencyKey = some key

/-- The row that `create_agent_run` inserts, with the job it binds. -/
def CreateAgentRun.row (args : CreateAgentRun) (id jobId : Id) : AgentRun M where
  id := id
  scope := args.scope
  contractKey := args.contractKey
  contractVersion := args.contractVersion
  inputRef := args.inputRef
  contextRefs := args.contextRefs
  jobId := some jobId
  idempotencyKey := args.idempotencyKey

/-- The job that `create_agent_run` creates for the run `id`. -/
def CreateAgentRun.job (args : CreateAgentRun) (id : Id) : CreateJob where
  scope := args.scope
  jobType := args.jobType
  payload := .agentRun id
  idempotencyKey := .agentRun id
  maxAttempts := 3

/-- `create_agent_run` past the lookup of an existing run: insert the run and its job, and bind
them. -/
def insertAgentRun (now : Time) (args : CreateAgentRun) (db : AgentDatabase M T) :
    Except JobError (AgentRun M × AgentDatabase M T) :=
  let runId := db.nextId
  match createJob now (args.job runId) db.toJobTable.newId.2 with
  | .error error => .error error
  | .ok (job, t) =>
      let run : AgentRun M := args.row runId job.id
      .ok (run, { db with
        toJobTable := t
        tables := { db.tables with agentRuns := db.tables.agentRuns ++ [run] } })

/-- `create_agent_run`. `admission` is what `AgentRegistry.resolve` and `ensure_agent_definition`
answer. -/
def createAgentRun (now : Time) (args : CreateAgentRun) (admission : Except JobError Unit)
    (db : AgentDatabase M T) : Except JobError (AgentRun M × AgentDatabase M T) :=
  match admission with
  | .error error => .error error
  | .ok () =>
      match args.idempotencyKey.bind fun key => findAgentRun args.scope key db.tables.agentRuns with
      | some existing =>
          if existing.jobId = none then
            .error (.aiContractError "idempotent AgentRun exists without a Job binding")
          else .ok (existing, db)
      | none => insertAgentRun now args db

/-! ## The job handler -/

/-- `ModelResult`, less its metadata; the reason is `incomplete_reason or invalid_output_reason`. -/
inductive ModelResult (M : Type)
  | parsed (output : Option M)
  | refusal (text : Option String)
  | incomplete (reason : Option String)
  | invalidOutput (reason : Option String)
deriving DecidableEq, Repr

/-- What answers the handler from outside. -/
inductive AgentAnswer (M : Type)
  /-- The definition, the contract, the context and the route. -/
  | prepared (result : Except JobError Unit)
  /-- The adapter, the route trace and the secret scan of the output. -/
  | invoked (result : Except JobError (ModelResult M))

/-- Where the handler stands: before or after it has sent its request to the provider. -/
inductive AgentProgress
  | loading
  | invoking (startedAt : Time)
deriving DecidableEq, Repr

/-- `_load_run` and the checks of `handle` before the run is marked `RUNNING`; `none` if the run is
terminal already, and the handler returns. -/
def loadAgentRun (context : RuntimeJobContext) (payload : JobPayload)
    (runs : List (AgentRun M)) : Except JobError (Option (AgentRun M)) :=
  match payload with
  | .agentRun agentRunId =>
      match Table.find AgentRun.id agentRunId runs with
      | none => .error (.permanentJobError ("AgentRun not found: " ++ toString agentRunId))
      | some run => do
          context.scope.assertMatches run.scope
          if run.jobId ≠ none ∧ run.jobId ≠ some context.jobId then
            .error (.aiContractError "AgentRun is bound to a different Job")
          else if run.terminal then .ok none
          else .ok (some run)
  | _ => .error (.permanentJobError "ai.run_agent payload_schema_version must be 1")

/-- `_safe_text`. -/
def safeText (value : String) : String :=
  String.ofList ((Security.redactedErrorSummary "RuntimeError" value).toList.drop
    "RuntimeError: ".length)

/-- The fields the handler sets before it asks the provider. -/
def AgentRun.markRunning (startedAt : Time) (run : AgentRun M) : AgentRun M :=
  { run with
    status := .running
    startedAt := some startedAt
    completedAt := none
    errorClass := none
    errorSummary := none
    refusalSummary := none }

/-- `_persist_model_result`, on a run marked `RUNNING`. A parsed result without its output object is
an error. -/
def persistModelResult (result : ModelResult M) (now : Time) :
    Except JobError (AgentRun M → AgentRun M) :=
  match result with
  | .parsed none => .error (.aiInvalidOutputError "parsed result missing output object")
  | .parsed (some output) => .ok fun run =>
      { run with status := .succeeded, outputData := some output, completedAt := some now }
  | .refusal text => .ok fun run =>
      { run with
        status := .refused
        refusalSummary := some (safeText (orDefault text "provider refusal"))
        outputData := none
        completedAt := some now }
  | .incomplete reason => .ok fun run =>
      { run with
        status := .invalidOutput
        errorClass := some "INCOMPLETE"
        errorSummary := some (safeText (orDefault reason "invalid output"))
        outputData := none
        completedAt := some now }
  | .invalidOutput reason => .ok fun run =>
      { run with
        status := .invalidOutput
        errorClass := some "INVALID_OUTPUT"
        errorSummary := some (safeText (orDefault reason "invalid output"))
        outputData := none
        completedAt := some now }

/-- `AgentRunJobHandler.handle`. The run that it has loaded is written when its transaction
commits. -/
def agentRunJobHandler (context : RuntimeJobContext) (payload : JobPayload) (now : Time)
    (answer : AgentAnswer M) (progress : AgentProgress) (db : AgentDatabase M T) :
    Stage (AgentTables M T) Unit AgentProgress :=
  match progress, answer with
  | .loading, .prepared result =>
      match loadAgentRun context payload db.tables.agentRuns with
      | .error error => .raise error
      | .ok none => .commit db
      | .ok (some _) =>
          match result with
          | .error error => .raise error
          | .ok () => .next (.invoking now) ()
  | .invoking startedAt, .invoked result =>
      match payload, result.bind fun result => persistModelResult result now with
      | .agentRun agentRunId, .ok persist =>
          .commit { db with
            tables := db.tables.updateRun agentRunId fun run => persist (run.markRunning startedAt) }
      | _, .error error => .raise error
      | _, _ => .raise (.permanentJobError "ai.run_agent payload_schema_version must be 1")
  -- an answer to another question than the one the handler asks
  | progress, _ => .next progress ()

/-- `AgentRunJobHandler.record_attempt_failure`, on the run it finds. -/
def AgentRun.recordFailure (error : JobError) (willRetry : Bool) (now : Time)
    (run : AgentRun M) : AgentRun M :=
  { run with
    status := if willRetry then .retryWait else .failed
    errorClass := some error.className
    errorSummary := some error.redactedSummary
    completedAt := if willRetry then none else some now }

/-- `AgentRunJobHandler.record_attempt_failure`. -/
def recordAgentRunFailure (job : Job) (error : JobError) (willRetry : Bool) (now : Time)
    (t : AgentTables M T) : AgentTables M T :=
  match job.payload with
  | .agentRun agentRunId =>
      match Table.find AgentRun.id agentRunId t.agentRuns with
      | some run =>
          if run.terminal ∨ job.scope ≠ run.scope then t
          else t.updateRun agentRunId (AgentRun.recordFailure error willRetry now)
      | none => t
  | _ => t

/-! ## What the handler does to a run -/

theorem AgentRun.sameIdentity_recordFailure (error : JobError) (willRetry : Bool) (now : Time)
    (run : AgentRun M) : run.SameIdentity (run.recordFailure error willRetry now) := by
  constructor <;> rfl

/-- A persisted result leaves the run terminal. -/
theorem persistModelResult_eq_ok {result : ModelResult M} {now : Time}
    {f : AgentRun M → AgentRun M} (h : persistModelResult result now = .ok f)
    (run : AgentRun M) : run.SameIdentity (f run) ∧ (f run).terminal := by
  cases result with
  | parsed output =>
      cases output with
      | none => cases h
      | some output =>
          cases h
          exact ⟨by constructor <;> rfl, rfl⟩
  | refusal text | incomplete reason | invalidOutput reason =>
      cases h
      exact ⟨by constructor <;> rfl, rfl⟩

/-- A run that the handler finds terminal is the one its payload names. -/
theorem loadAgentRun_eq_none {context : RuntimeJobContext} {payload : JobPayload}
    {runs : List (AgentRun M)} (h : loadAgentRun context payload runs = .ok none) :
    ∃ run ∈ runs, payload = .agentRun run.id ∧ run.terminal := by
  unfold loadAgentRun at h
  split at h
  next agentRunId =>
    split at h
    next => cases h
    next run hfind =>
      obtain ⟨-, -, h⟩ := Except.bind_eq_ok_iff.mp h
      split at h
      · cases h
      · split at h
        next hterminal =>
          exact ⟨run, Table.mem_of_find hfind, by rw [Table.key_of_find hfind], hterminal⟩
        next => cases h
  next => cases h

end LaunchOS
