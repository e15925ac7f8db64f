import LaunchOS.Lib.Table
import LaunchOS.Runtime.Security
import Mathlib.Data.List.Sort
import Mathlib.Data.Option.Basic

/-!
# Durable jobs

The `jobs` table and the functions of `runtime/repositories.py` that write it. The table is a
list of rows in insertion order together with the supply of fresh ids (`new_id`); every function
is one committed transaction on it.

* `createJob`: insert a `QUEUED` job unless the tenant, job type and idempotency key exist;
* `claimJob`: the conditional `UPDATE … RETURNING` that starts an attempt under a lease;
* `Job.markSucceeded`, `Job.markFailedOrRetrying`: how an attempt ends;
* `recoverExpiredLeases`: the scheduler's treatment of `RUNNING` jobs with an expired lease;
* `dueJobIds`: the ordered batch the scheduler enqueues.

Times are integers (microseconds). The queue carries job ids only and may duplicate or lose them,
so it has no state here: a delivery of any job id may happen at any moment. Trace fields that no
function reads (`correlation_id`, `causation_id`, `run_after`) are left out.
-/

namespace LaunchOS

/-- A point in time, in microseconds. -/
abbrev Time := ℤ

/-- A `timedelta`, in microseconds. -/
abbrev Duration := ℤ

/-- A primary key made by `new_id()`. -/
abbrev Id := ℕ

/-- `Worker.worker_id`. Distinct worker processes may share one. -/
abbrev WorkerId := ℕ

/-- `TenantScope`: the organization and business a row belongs to. -/
structure TenantScope where
  organizationId : String
  businessId : String
deriving DecidableEq, Repr

/-- How `Worker.process_job_id` classifies an exception. -/
inductive ErrorKind
  | transient
  | permanent
  | tenantScopeViolation
  | unexpected
deriving DecidableEq, Repr

/-- An exception: its kind, `error.__class__.__name__` and `str(error)`. -/
structure JobError where
  kind : ErrorKind
  className : String
  message : String
deriving DecidableEq, Repr

namespace JobError

/-- `PermanentJobError`: a failure that must become terminal `FAILED`. -/
def permanentJobError (message : String) : JobError :=
  ⟨.permanent, "PermanentJobError", message⟩

/-- `SecretRejectedError`, a `PermanentJobError`. -/
def secretRejectedError (message : String) : JobError :=
  ⟨.permanent, "SecretRejectedError", message⟩

/-- `TransientJobError`: a failure that may be retried by the durable runtime. -/
def transientJobError (message : String) : JobError :=
  ⟨.transient, "TransientJobError", message⟩

/-- `TenantScopeViolation`, raised by `TenantScope.assert_matches`. -/
def tenantScopeViolation (expected actual : TenantScope) : JobError :=
  ⟨.tenantScopeViolation, "TenantScopeViolation",
    "object scope does not match repository scope: " ++
      "expected organization=" ++ expected.organizationId ++
      " business=" ++ expected.businessId ++ ", " ++
      "got organization=" ++ actual.organizationId ++ " business=" ++ actual.businessId⟩

/-- The `retry` argument `process_job_id` passes on: only a `TransientJobError` is retried. -/
def retry (e : JobError) : Bool := e.kind = .transient

/-- `redacted_error_summary(error)`. -/
def redactedSummary (e : JobError) : String :=
  Security.redactedErrorSummary e.className e.message

end JobError

/-- `TenantScope.assert_matches`. -/
def TenantScope.assertMatches (expected actual : TenantScope) : Except JobError Unit :=
  if expected = actual then .ok () else .error (.tenantScopeViolation expected actual)

theorem TenantScope.assertMatches_eq_ok_iff {expected actual : TenantScope} {u : Unit} :
    expected.assertMatches actual = .ok u ↔ expected = actual := by
  unfold TenantScope.assertMatches
  split <;> simp_all

/-- The registered job types of `runtime/contracts.py`. -/
inductive JobType
  | aiRunAgent
  | aiRunController
  | workflowAdvance
  | executionTelegramPublish
  | experimentCheckpoint
  | learningEvaluate
  | connectorTelegramObserveUpdates
  | analyticsNormalizeConnectorObservation
  | analyticsCalculateMetricVersion
  | learningInterpretCheckpoint
  | learningRunGoverned
  | outboxDispatch
  | runtimeProbe
deriving DecidableEq, Repr

/-- The suffix of a decision workflow's `workflow.advance` idempotency key. -/
inductive DecisionAdvance
  /-- `start` -/
  | start
  /-- `resume:{status}:{revision_count}`, with the rendered status -/
  | resume (status : String) (revisionCount : ℕ)
  /-- `after-specialists` -/
  | afterSpecialists
  /-- `after-specialists:specialist-output-retry:{generation}` -/
  | specialistOutputRetry (generation : ℕ)
  /-- `after-chief:{version}` -/
  | afterChief (version : ℕ)
  /-- `after-chief:{version}:chief-output-retry:{generation}` -/
  | chiefOutputRetry (version generation : ℕ)
  /-- `after-controllers:{version}` -/
  | afterControllers (version : ℕ)
  /-- `after-controllers:{version}:controller-output-retry:{generation}` -/
  | controllerOutputRetry (version generation : ℕ)
deriving DecidableEq, Repr

/-- The suffix of a production workflow's `workflow.advance` idempotency key. -/
inductive ProductionAdvance
  /-- `start` -/
  | start
  /-- `after-content-strategy` -/
  | afterContentStrategy
  /-- `after-writer:{version}` -/
  | afterWriter (version : ℕ)
  /-- `after-asset-controllers:{version}` -/
  | afterAssetControllers (version : ℕ)
deriving DecidableEq, Repr

/-- The idempotency keys the code builds, one constructor for each format string. -/
inductive JobKey
  /-- `outbox:{outbox_event.id}` -/
  | outbox (outboxEventId : Id)
  /-- `agent_run:{run.id}` -/
  | agentRun (agentRunId : Id)
  /-- `decision_workflow:{workflow.id}:advance:{suffix}` -/
  | decisionWorkflow (workflowId : Id) (suffix : DecisionAdvance)
  /-- `production_workflow:{workflow.id}:advance:{suffix}` -/
  | productionWorkflow (workflowId : Id) (suffix : ProductionAdvance)
  /-- `telegram-execution:{execution.id}` -/
  | telegramExecution (executionId : Id)
  /-- `telegram-observe:{connector_account_id}:{cycle_id}` -/
  | telegramObserve (connectorAccountId : Id) (cycleId : String)
  /-- `metric:{publication_id}:observation-job:{context.job_id}` -/
  | metric (publicationId jobId : Id)
  /-- `checkpoint-interpret:{metric.id}` -/
  | checkpointInterpret (metricVersionId : Id)
  /-- `governed-learning:{experiment_result.id}` -/
  | governedLearning (experimentResultId : Id)
  /-- any other key, such as that of a `runtime.probe` job -/
  | other (text : String)
deriving DecidableEq, Repr

/-- `RuntimeProbeHandler`'s payload fields. -/
structure ProbePayload where
  writeBusinessEvent : Bool := false
  escapeScope : Bool := false
  transientUntilAttempt : Option ℕ := none
  outcome : String := "success"
deriving DecidableEq, Repr

/-- The payloads of the jobs the code creates. A handler that looks for a field its payload does
not carry meets a constructor it does not know. -/
inductive JobPayload
  | outboxDispatch (outboxEventId : Id)
  | runtimeProbe (probe : ProbePayload)
  | agentRun (agentRunId : Id)
  | decisionAdvance (workflowId : Id)
  | productionAdvance (productionWorkflowId : Id)
  | telegramPublish (actionId executionId : Id)
  | observeUpdates (connectorAccountId : Id)
  | normalizeObservation (observationId : Id)
  | calculateMetricVersion (publicationId : Id)
  | interpretCheckpoint (metricVersionId : Id)
  | runGovernedLearning (experimentResultId : Id)
deriving DecidableEq, Repr

/-- `JobStatus`, less `PENDING`, which the table's check constraint excludes. -/
inductive JobStatus
  | queued
  | running
  | retryWait
  | succeeded
  | failed
deriving DecidableEq, Repr

/-- `SUCCEEDED` and `FAILED` are terminal. -/
def JobStatus.terminal : JobStatus → Bool
  | .succeeded | .failed => true
  | .queued | .running | .retryWait => false

/-- A row of the `jobs` table (`JobModel`). -/
structure Job where
  id : Id
  scope : TenantScope
  jobType : JobType
  status : JobStatus
  payload : JobPayload
  payloadSchemaVersion : ℕ
  attemptCount : ℕ
  maxAttempts : ℕ
  availableAt : Time
  startedAt : Option Time := none
  completedAt : Option Time := none
  leaseOwner : Option WorkerId := none
  leaseExpiresAt : Option Time := none
  errorClass : Option String := none
  errorSummary : Option String := none
  idempotencyKey : JobKey
deriving DecidableEq, Repr

/-- A job is terminal when its status is. -/
def Job.terminal (job : Job) : Bool := job.status.terminal

/-- The `jobs` table and the supply of fresh ids. -/
structure JobTable where
  /-- The next value of `new_id()`. -/
  nextId : Id := 0
  jobs : List Job := []
deriving Repr

/-- The keyword arguments of `create_job`. -/
structure CreateJob where
  scope : TenantScope
  jobType : JobType
  payload : JobPayload
  payloadSchemaVersion : ℕ := 1
  idempotencyKey : JobKey
  maxAttempts : ℕ := 3
  availableAt : Option Time := none
deriving DecidableEq, Repr

/-- The unique key of a job: tenant, job type and idempotency key
(`uq_jobs_tenant_type_idempotency`). -/
def Job.uniqueKey (job : Job) : TenantScope × JobType × JobKey :=
  (job.scope, job.jobType, job.idempotencyKey)

/-- The unique key `create_job` looks up. -/
def CreateJob.uniqueKey (args : CreateJob) : TenantScope × JobType × JobKey :=
  (args.scope, args.jobType, args.idempotencyKey)

/-- The row `create_job` inserts. -/
def CreateJob.row (args : CreateJob) (id : Id) (now : Time) : Job where
  id := id
  scope := args.scope
  jobType := args.jobType
  status := .queued
  payload := args.payload
  payloadSchemaVersion := args.payloadSchemaVersion
  attemptCount := 0
  maxAttempts := args.maxAttempts
  availableAt := args.availableAt.getD now
  idempotencyKey := args.idempotencyKey

/-- `assert_no_secrets(payload)`. The only free text of a payload is the outcome of a probe, and
no payload has a secret-like key. -/
def JobPayload.assertNoSecrets : JobPayload → Except JobError Unit
  | .runtimeProbe probe =>
      if Security.hasSecretAssignment probe.outcome.toList then
        .error (.secretRejectedError "secret-like value rejected at payload.outcome")
      else .ok ()
  | _ => .ok ()

/-- The checks of `create_job`. Every `JobType` is registered, so the first of the four always
passes. -/
def CreateJob.check (args : CreateJob) : Except JobError Unit :=
  if args.payloadSchemaVersion < 1 then
    .error (.permanentJobError "payload_schema_version must be positive")
  else if args.maxAttempts < 1 then
    .error (.permanentJobError "max_attempts must be positive")
  else args.payload.assertNoSecrets

/-- `create_job`: the job with the unique key, old or new, and the table. -/
def createJob (now : Time) (args : CreateJob) (t : JobTable) : Except JobError (Job × JobTable) :=
  match args.check with
  | .error error => .error error
  | .ok () =>
      match Table.find Job.uniqueKey args.uniqueKey t.jobs with
      | some existing => .ok (existing, t)
      | none =>
          let job := args.row t.nextId now
          .ok (job, { nextId := t.nextId + 1, jobs := t.jobs ++ [job] })

/-- `session.get(JobModel, job_id)`. -/
def getJob (id : Id) (jobs : List Job) : Option Job := Table.find Job.id id jobs

/-- A lease that has run out at `now`. -/
def Job.leaseExpired (now : Time) (job : Job) : Bool :=
  match job.leaseExpiresAt with
  | some expiresAt => decide (expiresAt ≤ now)
  | none => false

/-- The `claimable` condition of `claim_job`. -/
def Job.claimable (now : Time) (job : Job) : Bool :=
  match job.status with
  | .queued | .retryWait => decide (job.availableAt ≤ now)
  | .running => job.leaseExpired now
  | .succeeded | .failed => false

/-- The row `claim_job` writes. -/
def Job.claimedBy (worker : WorkerId) (now : Time) (leaseDuration : Duration) (job : Job) : Job :=
  { job with
    status := .running
    attemptCount := job.attemptCount + 1
    startedAt := some now
    completedAt := none
    leaseOwner := some worker
    leaseExpiresAt := some (now + leaseDuration) }

/-- `claim_job`: the claimed row and the updated table, or `none` if the job is not claimable. -/
def claimJob (id : Id) (worker : WorkerId) (now : Time) (leaseDuration : Duration)
    (jobs : List Job) : Option (Job × List Job) :=
  match getJob id jobs with
  | some job =>
      if job.claimable now then
        some (job.claimedBy worker now leaseDuration,
          Table.modify Job.id id (Job.claimedBy worker now leaseDuration) jobs)
      else none
  | none => none

/-- What a successful claim says about the job it meets. -/
theorem claimJob_eq_some {id : Id} {worker : WorkerId} {now : Time} {leaseDuration : Duration}
    {jobs jobs' : List Job} {claimed : Job}
    (h : claimJob id worker now leaseDuration jobs = some (claimed, jobs')) :
    ∃ job, getJob id jobs = some job ∧ job.claimable now ∧
      claimed = job.claimedBy worker now leaseDuration := by
  unfold claimJob at h
  split at h
  next job hget =>
    split at h
    next hclaim =>
      simp only [Option.some.injEq, Prod.mk.injEq] at h
      exact ⟨job, hget, hclaim, h.1.symm⟩
    next => cases h
  next => cases h

/-- `mark_job_succeeded`. -/
def Job.markSucceeded (now : Time) (job : Job) : Job :=
  { job with
    status := .succeeded
    completedAt := some now
    leaseOwner := none
    leaseExpiresAt := none
    errorClass := none
    errorSummary := none }

/-- `mark_job_failed_or_retrying`, on the row it loads. -/
def Job.markFailedOrRetrying (error : JobError) (retry : Bool) (now : Time)
    (retryBackoff : Duration) (job : Job) : Job :=
  if retry && decide (job.attemptCount < job.maxAttempts) then
    { job with
      errorClass := some error.className
      errorSummary := some error.redactedSummary
      leaseOwner := none
      leaseExpiresAt := none
      status := .retryWait
      availableAt := now + retryBackoff
      completedAt := none }
  else
    { job with
      errorClass := some error.className
      errorSummary := some error.redactedSummary
      leaseOwner := none
      leaseExpiresAt := none
      status := .failed
      completedAt := some now }

/-- The jobs `recover_expired_leases` selects. -/
def Job.expiredRunning (now : Time) (job : Job) : Bool :=
  job.status = .running && job.leaseExpired now

/-- Python's `value or default` on a nullable text: `None` and the empty text give way. -/
def orDefault (value : Option String) (default : String) : String :=
  match value with
  | some text => if text = "" then default else text
  | none => default

/-- The body of the loop of `recover_expired_leases`, on a selected row. -/
def Job.recoverLease (now : Time) (job : Job) : Job :=
  if job.maxAttempts ≤ job.attemptCount then
    { job with
      leaseOwner := none
      leaseExpiresAt := none
      status := .failed
      completedAt := some now
      errorClass := some (orDefault job.errorClass "LeaseExpired")
      errorSummary := some (orDefault job.errorSummary "Lease expired at max attempts.") }
  else
    { job with
      leaseOwner := none
      leaseExpiresAt := none
      status := .retryWait
      availableAt := now }

/-- `recover_expired_leases` on one row of the table. -/
def Job.recoverIfExpired (now : Time) (job : Job) : Job :=
  if job.expiredRunning now then job.recoverLease now else job

/-- `recover_expired_leases`: the number of recovered jobs and the updated table. -/
def recoverExpiredLeases (now : Time) (jobs : List Job) : ℕ × List Job :=
  ((jobs.filter (Job.expiredRunning now)).length, jobs.map (Job.recoverIfExpired now))

/-- A job the scheduler may wake: `QUEUED` or `RETRY_WAIT` and available. -/
def Job.due (now : Time) (job : Job) : Bool :=
  (job.status = .queued || job.status = .retryWait) && decide (job.availableAt ≤ now)

/-- `due_job_ids`: ordered by `available_at`, then by creation, and cut to `limit`. -/
def dueJobIds (now : Time) (limit : ℕ) (jobs : List Job) : List Id :=
  (((jobs.filter (Job.due now)).insertionSort fun a b => a.availableAt ≤ b.availableAt).take
    limit).map Job.id

end LaunchOS
