import LaunchOS.AiRuntime.AgentRun
import LaunchOS.Runtime.Attempts

/-!
# Domain code that uses agent runs

The governed workflows are job handlers and commands that work in one transaction each and use the
runtime through `create_agent_run`, `create_job` and the outbox. The handler of the agent runs
themselves is `AgentRunJobHandler`.

The module introduces:

* `AgentGrows`: what such code may do to the tables outside its own;
* `DomainApp`, and `DomainApp.app`, the runtime with the handlers of the domain and of the agent
  runs (`compose_application_handler_registry`);
* `DomainApp.handleJob_cases`: what a handler that returns has done.
-/

namespace LaunchOS

open Transition

variable {M T O C : Type}

/-- What domain code may do to the database at time `now`: anything to its own tables, and to the
others only through `new_id`, `create_job`, the outbox and `create_agent_run`. Only the scheduler
creates dispatch jobs, and only `create_agent_run` uses keys of the form `agent_run:{run.id}`. -/
inductive AgentGrows (now : Time) (db : AgentDatabase M T) : AgentDatabase M T → Prop
  | refl : AgentGrows now db db
  | domain {db' : AgentDatabase M T} (t : T) : AgentGrows now db db' →
      AgentGrows now db { db' with tables := { db'.tables with domain := t } }
  | newId {db' : AgentDatabase M T} : AgentGrows now db db' →
      AgentGrows now db (db'.applyJobOp now .newId)
  | createJob {db' : AgentDatabase M T} (args : CreateJob)
      (hdispatch : args.jobType ≠ .outboxDispatch)
      (hkey : ∀ id, args.idempotencyKey ≠ .agentRun id) : AgentGrows now db db' →
      AgentGrows now db (db'.applyJobOp now (.createJob args))
  | outboxEvent {db' : AgentDatabase M T} (scope : TenantScope) (eventType : String) :
      AgentGrows now db db' →
      AgentGrows now db { db' with
        toRuntimeTables := db'.toRuntimeTables.addOutboxEvent now scope eventType }
  | createAgentRun {db' db'' : AgentDatabase M T} (args : CreateAgentRun)
      {run : AgentRun M} (hinsert : insertAgentRun now args db' = .ok (run, db'')) :
      AgentGrows now db db' → AgentGrows now db db''

namespace AgentGrows

variable {now : Time} {db db' db'' : AgentDatabase M T}

theorem trans (h : AgentGrows now db db') (h' : AgentGrows now db' db'') :
    AgentGrows now db db'' := by
  induction h' with
  | refl => exact h
  | domain t _ ih => exact ih.domain t
  | newId _ ih => exact ih.newId
  | createJob args hdispatch hkey _ ih => exact ih.createJob args hdispatch hkey
  | outboxEvent scope eventType _ ih => exact ih.outboxEvent scope eventType
  | createAgentRun args hinsert _ ih => exact ih.createAgentRun args hinsert

end AgentGrows

/-- What `insertAgentRun` does: it takes an id, creates the job, and appends the run. -/
theorem insertAgentRun_eq_ok {now : Time} {args : CreateAgentRun} {db db' : AgentDatabase M T}
    {run : AgentRun M} (h : insertAgentRun now args db = .ok (run, db')) :
    ∃ job ∈ db'.jobs, job.uniqueKey = (args.job db.nextId).uniqueKey ∧
      (job ∈ db.jobs ∨ job = (args.job db.nextId).row (db.nextId + 1) now) ∧
      run = args.row db.nextId job.id ∧
      db' = { (db.applyJobOp now .newId).applyJobOp now (.createJob (args.job db.nextId)) with
        tables := { db.tables with agentRuns := db.tables.agentRuns ++ [run] } } := by
  unfold insertAgentRun at h
  simp only at h
  split at h
  next => cases h
  next job t hjob =>
    cases h
    obtain ⟨rfl, hmem, hkey, hold⟩ := createJob_eq_ok hjob
    exact ⟨job, hmem, hkey, hold, rfl, rfl⟩

/-- `create_agent_run` inserts a run, or finds one and changes nothing. -/
theorem createAgentRun_eq_ok {now : Time} {args : CreateAgentRun} {admission : Except JobError Unit}
    {db db' : AgentDatabase M T} {run : AgentRun M}
    (h : createAgentRun now args admission db = .ok (run, db')) :
    (db' = db ∧ run ∈ db.tables.agentRuns ∧ run.scope = args.scope ∧
      run.idempotencyKey.isSome ∧ run.idempotencyKey = args.idempotencyKey) ∨
    insertAgentRun now args db = .ok (run, db') := by
  unfold createAgentRun at h
  split at h
  next => cases h
  next =>
    split at h
    next existing hfind =>
      split at h
      next => cases h
      next =>
        cases h
        obtain ⟨key, hkey, hfound⟩ := Option.bind_eq_some_iff.mp hfind
        have hsame := List.find?_some hfound
        simp only [decide_eq_true_eq] at hsame
        refine .inl ⟨rfl, List.mem_of_find?_eq_some hfound, hsame.1, ?_, hsame.2.trans hkey.symm⟩
        rw [hsame.2]
        rfl
    next => exact .inr h

theorem AgentGrows.of_createAgentRun {now : Time} {args : CreateAgentRun}
    {admission : Except JobError Unit} {db db' : AgentDatabase M T} {run : AgentRun M}
    (h : LaunchOS.createAgentRun now args admission db = .ok (run, db')) :
    AgentGrows now db db' := by
  rcases createAgentRun_eq_ok h with ⟨rfl, -⟩ | hinsert
  · exact .refl
  · exact .createAgentRun args hinsert .refl

theorem AgentGrows.runtimeGrows {now : Time} {db db' : AgentDatabase M T}
    (h : AgentGrows now db db') :
    RuntimeTables.Grows now db.toRuntimeTables db'.toRuntimeTables := by
  induction h with
  | refl => exact .refl
  | domain t _ ih => exact ih
  | newId _ ih => exact ih.newId
  | createJob args hdispatch _ _ ih => exact ih.createJob args hdispatch
  | outboxEvent scope eventType _ ih => exact ih.outboxEvent scope eventType
  | createAgentRun args hinsert _ ih =>
      obtain ⟨job, -, -, -, -, rfl⟩ := insertAgentRun_eq_ok hinsert
      refine ih.newId.createJob _ ?_
      intro hdispatch
      have hagent := args.isAgentRun
      rw [show args.jobType = .outboxDispatch from hdispatch] at hagent
      cases hagent

/-- The handlers and commands of a domain. -/
structure DomainApp (M T O C : Type) where
  /-- The handlers of the job types that are neither of the runtime nor of the agent runs. -/
  handle : RuntimeJobContext → JobPayload → Time → O → AgentDatabase M T →
    Except JobError (AgentDatabase M T)
  command : Time → C → AgentDatabase M T → Except JobError (AgentDatabase M T)
  handle_grows : ∀ {context payload now answer db db'},
    handle context payload now answer db = .ok db' → AgentGrows now db db'
  command_grows : ∀ {now c db db'}, command now c db = .ok db' → AgentGrows now db db'

/-- What the world answers to a handler: the domain's own handlers, or that of the agent runs. -/
inductive DomainAnswer (M O : Type)
  | domain (answer : O)
  | agent (answer : AgentAnswer M)

/-- A handler of the domain takes one step. -/
def Stage.ofDomain {W L : Type} : Except JobError (AgentDatabase M T) →
    Stage (AgentTables M T) W L
  | .ok db => .commit db
  | .error error => .raise error

/-- The handler of a job type of the domain or of the agent runs. -/
def DomainApp.handleStage (D : DomainApp M T O C) (context : RuntimeJobContext)
    (payload : JobPayload) (now : Time) (answer : DomainAnswer M O) (progress : AgentProgress)
    (db : AgentDatabase M T) : Stage (AgentTables M T) Unit AgentProgress :=
  if context.jobType.isAgentRun then
    match answer with
    | .agent answer => agentRunJobHandler context payload now answer progress db
    | .domain _ => .next progress ()
  else
    match answer with
    | .domain answer => .ofDomain (D.handle context payload now answer db)
    | .agent _ => .next progress ()

/-- What a handler of a domain that returns has done. -/
inductive DomainApp.Handled (D : DomainApp M T O C) (context : RuntimeJobContext)
    (payload : JobPayload) (now : Time) (db : AgentDatabase M T) : AgentDatabase M T → Prop
  /-- The run was terminal already. -/
  | terminal {run : AgentRun M} (hagent : context.jobType.isAgentRun)
      (hpayload : payload = .agentRun run.id) (hrun : run ∈ db.tables.agentRuns)
      (hterminal : run.terminal) : Handled D context payload now db db
  /-- The result of the provider was persisted. -/
  | persisted {runId : Id} (hagent : context.jobType.isAgentRun)
      (hpayload : payload = .agentRun runId) {f : AgentRun M → AgentRun M}
      (hidentity : ∀ run : AgentRun M, run.SameIdentity (f run))
      (hterminal : ∀ run, (f run).terminal) :
      Handled D context payload now db
        { db with tables := db.tables.updateRun runId f }
  /-- A handler of the domain returned. -/
  | domain {answer : O} {db' : AgentDatabase M T} (hagent : context.jobType.isAgentRun = false)
      (hhandle : D.handle context payload now answer db = .ok db') :
      Handled D context payload now db db'

theorem DomainApp.handled_of_commit (D : DomainApp M T O C) {context : RuntimeJobContext}
    {payload : JobPayload} {now : Time} {answer : DomainAnswer M O} {progress : AgentProgress}
    {db db' : AgentDatabase M T}
    (h : D.handleStage context payload now answer progress db = .commit db') :
    D.Handled context payload now db db' := by
  unfold DomainApp.handleStage at h
  split at h
  next hagent =>
    split at h
    next answer =>
      unfold agentRunJobHandler at h
      split at h
      next result =>
        split at h
        next => cases h
        next hload =>
          cases h
          obtain ⟨run, hrun, hpayload, hterminal⟩ := loadAgentRun_eq_none hload
          exact .terminal hagent hpayload hrun hterminal
        next => split at h <;> cases h
      next startedAt result =>
        split at h
        next runId persist hpersist =>
          cases h
          obtain ⟨modelResult, -, hok⟩ := Except.bind_eq_ok_iff.mp hpersist
          have hspec := fun run : AgentRun M => persistModelResult_eq_ok hok (run.markRunning startedAt)
          refine .persisted hagent rfl (fun run => ?_) (fun run => (hspec run).2)
          obtain ⟨hid, hscope, hkey, hversion, href, hcontext, hjob, hidem⟩ := (hspec run).1
          exact ⟨hid, hscope, hkey, hversion, href, hcontext, hjob, hidem⟩
        next => cases h
        next => cases h
      next => cases h
    next => cases h
  next hagent =>
    split at h
    next answer =>
      cases hhandle : D.handle context payload now answer db with
      | error e =>
          rw [hhandle] at h
          cases h
      | ok db'' =>
          rw [hhandle] at h
          cases h
          exact .domain (by simpa using hagent) hhandle
    next => cases h

theorem DomainApp.Handled.runtimeGrows {D : DomainApp M T O C} {context : RuntimeJobContext}
    {payload : JobPayload} {now : Time} {db db' : AgentDatabase M T}
    (h : D.Handled context payload now db db') :
    RuntimeTables.Grows now db.toRuntimeTables db'.toRuntimeTables := by
  cases h with
  | terminal => exact .refl
  | persisted => exact .refl
  | domain _ hhandle => exact (D.handle_grows hhandle).runtimeGrows

/-- The runtime with the handlers of the domain and of the agent runs. -/
def DomainApp.app (D : DomainApp M T O C) :
    App (AgentTables M T) Unit AgentProgress (DomainAnswer M O) C where
  start := .loading
  handle context payload now answer progress _ db :=
    D.handleStage context payload now answer progress db
  recordAttemptFailure job error willRetry now t :=
    if job.jobType.isAgentRun then recordAgentRunFailure job error willRetry now t else t
  command := D.command
  handle_grows h := (D.handled_of_commit h).runtimeGrows
  command_grows h := (D.command_grows h).runtimeGrows

/-- A state with no jobs, no attempts and no agent runs. -/
structure RuntimeState.AgentInitial (s : RuntimeState (AgentTables M T) Unit AgentProgress) :
    Prop extends RuntimeState.Initial s where
  agentRuns : s.db.tables.agentRuns = []

/-- What any handler that returns has done: a default handler leaves jobs and domain alone. -/
theorem DomainApp.handleJob_cases (D : DomainApp M T O C) {context : RuntimeJobContext}
    {payload : JobPayload} {now : Time} {answer : DomainAnswer M O} {progress : AgentProgress}
    {world : Unit} {db db' : AgentDatabase M T}
    (h : D.app.handleJob context payload now answer progress world db = .commit db') :
    (context.jobType = .outboxDispatch ∨ context.jobType = .runtimeProbe) ∧
        db'.toJobTable = db.toJobTable ∧ db'.tables = db.tables ∨
      D.Handled context payload now db db' := by
  have hdefault : ∀ {result : Except JobError RuntimeTables},
      (∀ t', result = .ok t' → t'.toJobTable = db.toJobTable) →
      Stage.ofTables (W := Unit) (L := AgentProgress) db result = .commit db' →
      db'.toJobTable = db.toJobTable ∧ db'.tables = db.tables := by
    intro result hresult hok
    cases result with
    | error e => cases hok
    | ok t' =>
        cases hok
        exact ⟨hresult t' rfl, rfl⟩
  unfold App.handleJob at h
  split at h
  next htype => exact .inl ⟨.inl htype, hdefault (fun _ => outboxDispatchHandler_jobTable) h⟩
  next htype => exact .inl ⟨.inr htype, hdefault (fun _ => runtimeProbeHandler_jobTable) h⟩
  next => exact .inr (D.handled_of_commit h)

end LaunchOS
