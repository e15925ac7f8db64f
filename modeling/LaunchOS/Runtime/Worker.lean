import LaunchOS.Runtime.Handlers

/-!
# Workers, scheduler and clock

The durable runtime as a transition system: any number of workers, the scheduler, the clock, the
commands of the domain, and crashes, interleaved in any order. The unit of interleaving is the
database transaction, except that a handler may take several steps inside its transaction, since it
may call a provider in between.

The module introduces:

* `App`: the domain code that runs on the runtime, i.e. its job handlers and its commands;
* `Attempt`, `Phase`: where `Worker.process_job_id` stands in one attempt;
* `RuntimeState`, `Action`, `step`: the system;
* `RuntimeState.Initial`.

A queue delivery is an action `claim`, enabled for any worker and any job id at any time, so that
deliveries may be duplicated, delayed or lost. A crash drops the attempt and with it its open
transaction; what a provider has seen stays.

A transaction takes effect when it commits, on the state it then meets: `Stage.commit` carries the
whole effect of the handler. The row of the job itself is written by `mark_job_succeeded` as it is
in the source, without looking again at who holds the lease.
-/

namespace LaunchOS

/-- What a handler does next: it makes a provider call and goes on, or it returns, or it raises. -/
inductive Stage (T W L : Type)
  | next (state : L) (world : W)
  | commit (db : Database T)
  | raise (error : JobError)

/-- The domain code on top of the runtime: `T` are its tables, `W` is the world outside the
database, `L` is what a handler remembers between its steps, `O` is what the world answers and `C`
are the commands. -/
structure App (T W L O C : Type) where
  /-- Where a handler starts. -/
  start : L
  /-- The handlers of the job types other than those of `default_handler_registry`. -/
  handle : RuntimeJobContext → JobPayload → Time → O → L → W → Database T → Stage T W L
  /-- The `record_attempt_failure` of the handlers, on the job as it is before it is marked. -/
  recordAttemptFailure : Job → JobError → (willRetry : Bool) → Time → T → T
  /-- A command of the application layer, in a transaction of its own. -/
  command : Time → C → Database T → Except JobError (Database T)
  /-- A handler touches the tables of the runtime only through `new_id`, `create_job` and the
  outbox. -/
  handle_grows : ∀ {context payload now answer state world db db'},
    handle context payload now answer state world db = .commit db' →
      RuntimeTables.Grows now db.toRuntimeTables db'.toRuntimeTables
  /-- So does a command. -/
  command_grows : ∀ {now c db db'}, command now c db = .ok db' →
    RuntimeTables.Grows now db.toRuntimeTables db'.toRuntimeTables

/-- A `Worker`: its id, the job types its registry has a handler for, and its two durations. -/
structure Worker where
  workerId : WorkerId
  handlers : JobType → Bool
  leaseDuration : Duration
  retryBackoff : Duration

/-- An attempt: the job and the value of `attempt_count` its claim wrote. -/
structure AttemptId where
  jobId : Id
  number : ℕ
deriving DecidableEq, Repr

/-- Where an attempt stands in `process_job_id`. -/
inductive Phase (L : Type)
  /-- `_claim` has committed. -/
  | claimed
  /-- The handler has been entered; its transaction is open. -/
  | running (context : RuntimeJobContext) (payload : JobPayload) (state : L)
  /-- The attempt has raised `error` and goes to `_record_failure`. -/
  | failing (error : JobError)

/-- A live attempt. -/
structure Attempt (L : Type) where
  worker : Worker
  phase : Phase L

/-- What happened to an attempt. -/
inductive RunEvent
  /-- Its handler was called. -/
  | started (attempt : AttemptId)
  /-- Its transaction, i.e. the effects of its handler and `mark_job_succeeded`, was committed. -/
  | committed (attempt : AttemptId)
deriving DecidableEq, Repr

/-- The state of the system. -/
structure RuntimeState (T W L : Type) where
  now : Time
  db : Database T
  world : W
  attempts : AttemptId → Option (Attempt L)
  history : List RunEvent

/-- The steps of the system. -/
inductive Action (O C : Type)
  | tick (elapsed : ℕ)
  | command (c : C)
  /-- A delivery of a job id to a worker: `process_job_id` up to the end of `_claim`. -/
  | claim (worker : Worker) (jobId : Id)
  /-- The attempt opens its transaction, loads the job and calls the handler. -/
  | start (attempt : AttemptId)
  /-- The handler goes on, with the given answer of the world. -/
  | proceed (attempt : AttemptId) (answer : O)
  /-- Something in the transaction of the attempt raises an exception of another class than the
  three that `process_job_id` names. -/
  | fault (attempt : AttemptId) (className message : String)
  /-- The attempt runs `_record_failure`. -/
  | recordFailure (attempt : AttemptId)
  | crash (attempt : AttemptId)
  /-- `RuntimeScheduler.run_once` with the given batch size. -/
  | schedule (batchSize : ℕ)

/-- The registered job type as a text. -/
def JobType.value : JobType → String
  | .aiRunAgent => "ai.run_agent"
  | .aiRunController => "ai.run_controller"
  | .workflowAdvance => "workflow.advance"
  | .executionTelegramPublish => "execution.telegram_publish"
  | .experimentCheckpoint => "experiment.checkpoint"
  | .learningEvaluate => "learning.evaluate"
  | .connectorTelegramObserveUpdates => "connector.telegram.observe_updates"
  | .analyticsNormalizeConnectorObservation => "analytics.normalize_connector_observation"
  | .analyticsCalculateMetricVersion => "analytics.calculate_metric_version"
  | .learningInterpretCheckpoint => "learning.interpret_checkpoint"
  | .learningRunGoverned => "learning.run_governed_learning"
  | .outboxDispatch => "outbox.dispatch"
  | .runtimeProbe => "runtime.probe"

variable {T W L O C : Type}

namespace Database

/-- Apply a job operation to the `jobs` table. -/
def applyJobOp (now : Time) (op : JobOp) (db : Database T) : Database T :=
  { db with toRuntimeTables := db.toRuntimeTables.applyJobOp now op }

@[simp]
theorem tables_applyJobOp (now : Time) (op : JobOp) (db : Database T) :
    (db.applyJobOp now op).tables = db.tables := rfl

end Database

/-- A handler that needs one step and touches the tables of the runtime only. -/
def Stage.ofTables (db : Database T) : Except JobError RuntimeTables → Stage T W L
  | .ok t => .commit { db with toRuntimeTables := t }
  | .error error => .raise error

namespace App

variable (A : App T W L O C)

/-- `handler.handle`, with the handler the registry has for the job type. -/
def handleJob (context : RuntimeJobContext) (payload : JobPayload) (now : Time) (answer : O)
    (state : L) (world : W) (db : Database T) : Stage T W L :=
  match context.jobType with
  | .outboxDispatch =>
      .ofTables db (outboxDispatchHandler context payload now db.toRuntimeTables)
  | .runtimeProbe =>
      .ofTables db (runtimeProbeHandler context payload now db.toRuntimeTables)
  | _ => A.handle context payload now answer state world db

end App

namespace RuntimeState

variable (s : RuntimeState T W L)

/-- Replace an attempt, or drop it. -/
def setAttempt (a : AttemptId) (attempt : Option (Attempt L)) : RuntimeState T W L :=
  { s with attempts := Function.update s.attempts a attempt }

/-- `process_job_id` from the opening of its transaction to the call of the handler. -/
def startAttempt (A : App T W L O C) (a : AttemptId) (worker : Worker) : RuntimeState T W L :=
  match getJob a.jobId s.db.jobs with
  | none =>
      s.setAttempt a (some ⟨worker,
        .failing (.permanentJobError ("job not found: " ++ toString a.jobId))⟩)
  | some job =>
      if job.status ≠ .running ∨ job.leaseOwner ≠ some worker.workerId then
        s.setAttempt a none
      else if worker.handlers job.jobType then
        { s.setAttempt a (some ⟨worker, .running job.context job.payload A.start⟩) with
          history := s.history ++ [.started a] }
      else
        s.setAttempt a (some ⟨worker,
          .failing (.permanentJobError ("no executable handler for " ++ job.jobType.value))⟩)

/-- The handler returns, raises, or makes a provider call. -/
def proceedAttempt (a : AttemptId) (worker : Worker) (context : RuntimeJobContext)
    (payload : JobPayload) : Stage T W L → RuntimeState T W L
  | .next state world =>
      { s.setAttempt a (some ⟨worker, .running context payload state⟩) with world := world }
  | .commit db =>
      { s.setAttempt a none with
        db := db.applyJobOp s.now (.markJobSucceeded a.jobId)
        history := s.history ++ [.committed a] }
  | .raise error => s.setAttempt a (some ⟨worker, .failing error⟩)

/-- `_record_failure`. If the job is gone, `mark_job_failed_or_retrying` raises and the worker is
lost. -/
def recordAttemptFailure (A : App T W L O C) (a : AttemptId) (worker : Worker)
    (error : JobError) : RuntimeState T W L :=
  match getJob a.jobId s.db.jobs with
  | none => s.setAttempt a none
  | some job =>
      let willRetry := error.retry && decide (job.attemptCount < job.maxAttempts)
      let tables :=
        if worker.handlers job.jobType then
          A.recordAttemptFailure job error willRetry s.now s.db.tables
        else s.db.tables
      { s.setAttempt a none with
        db := { s.db with tables := tables }.applyJobOp s.now
          (.markJobFailedOrRetrying a.jobId error error.retry worker.retryBackoff) }

/-- The part of `run_once` that writes the database; what it enqueues are deliveries. -/
def schedule (batchSize : ℕ) : RuntimeState T W L :=
  { s with
    db := { s.db with
      toRuntimeTables := enqueuePendingOutbox s.now batchSize
        (s.db.toRuntimeTables.applyJobOp s.now .recoverExpiredLeases) } }

end RuntimeState

/-- Take one step. A step that is not enabled does nothing. -/
def App.step (A : App T W L O C) (action : Action O C) (s : RuntimeState T W L) :
    RuntimeState T W L :=
  match action with
  | .tick elapsed => { s with now := s.now + elapsed }
  | .command c =>
      match A.command s.now c s.db with
      | .ok db => { s with db := db }
      | .error _ => s
  | .claim worker jobId =>
      match claimJob jobId worker.workerId s.now worker.leaseDuration s.db.jobs with
      | some (job, _) =>
          { s.setAttempt ⟨jobId, job.attemptCount⟩ (some ⟨worker, .claimed⟩) with
            db := s.db.applyJobOp s.now (.claimJob jobId worker.workerId worker.leaseDuration) }
      | none => s
  | .start a =>
      match s.attempts a with
      | some ⟨worker, .claimed⟩ => s.startAttempt A a worker
      | _ => s
  | .proceed a answer =>
      match s.attempts a with
      | some ⟨worker, .running context payload state⟩ =>
          s.proceedAttempt a worker context payload
            (A.handleJob context payload s.now answer state s.world s.db)
      | _ => s
  | .fault a className message =>
      match s.attempts a with
      | some ⟨worker, .claimed⟩ | some ⟨worker, .running _ _ _⟩ =>
          s.setAttempt a (some ⟨worker, .failing ⟨.unexpected, className, message⟩⟩)
      | _ => s
  | .recordFailure a =>
      match s.attempts a with
      | some ⟨worker, .failing error⟩ => s.recordAttemptFailure A a worker error
      | _ => s
  | .crash a => s.setAttempt a none
  | .schedule batchSize => s.schedule batchSize

/-! ## The runtime with its default handlers -/

/-- What other code does to a runtime that only has the default handlers. -/
inductive RuntimeCommand
  | createJob (args : CreateJob) (hargs : args.jobType ≠ .outboxDispatch)
  | addOutboxEvent (scope : TenantScope) (eventType : String)

/-- The runtime on its own: `default_handler_registry` and no other handler. -/
def defaultApp : App Unit Unit Unit Unit RuntimeCommand where
  start := ()
  handle context _ _ _ _ _ _ :=
    .raise (.permanentJobError ("no executable handler for " ++ context.jobType.value))
  recordAttemptFailure _ _ _ _ tables := tables
  command now c db :=
    match c with
    | .createJob args _ => .ok (db.applyJobOp now (.createJob args))
    | .addOutboxEvent scope eventType =>
        .ok { db with toRuntimeTables := db.toRuntimeTables.addOutboxEvent now scope eventType }
  handle_grows h := by cases h
  command_grows {now c db db'} h := by
    cases c with
    | createJob args hargs =>
        cases h
        exact .createJob args hargs .refl
    | addOutboxEvent scope eventType =>
        cases h
        exact .outboxEvent scope eventType .refl

/-- A worker that has the default handlers only, with the default lease and backoff of
60 seconds. -/
def defaultWorker (workerId : WorkerId) : Worker where
  workerId := workerId
  handlers jobType := jobType = .outboxDispatch || jobType = .runtimeProbe
  leaseDuration := 60000000
  retryBackoff := 60000000

/-- A worker with the handlers of the whole application. -/
def applicationWorker : Worker := { defaultWorker 1 with handlers := fun _ => true }

/-- The runtime before anything has happened. -/
def defaultStart : RuntimeState Unit Unit Unit where
  now := 0
  db := { tables := () }
  world := ()
  attempts _ := none
  history := []

/-- A state with no jobs, no outbox events, no attempts and no history. -/
structure RuntimeState.Initial (s : RuntimeState T W L) : Prop where
  jobs : s.db.jobs = []
  outboxEvents : s.db.outboxEvents = []
  attempts : ∀ a, s.attempts a = none
  history : s.history = []

theorem defaultStart_initial : defaultStart.Initial where
  jobs := rfl
  outboxEvents := rfl
  attempts _ := rfl
  history := rfl

end LaunchOS
