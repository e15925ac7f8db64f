import LaunchOS.AiRuntime.DomainApp

/-!
# Pending agent runs and their jobs

An agent run and the job it is bound to are two state machines. The handler and its failure recorder
move both in one transaction; `recover_expired_leases` moves the job alone, and so does
`_record_failure` in a worker whose registry has no handler for agent runs.

The module introduces:

* `AgentDatabase.RunsLive`: every run is bound to the job made for it, which is not terminal while
  the run is pending;
* `Action.SparesRuns`: the two steps that move the job alone do not end the job of a pending run;
* `pending_run_has_live_job`: the invariant over all runs of such steps;
* a run in which the scheduler leaves a pending run behind with a `FAILED` job.
-/

namespace LaunchOS

open Transition

variable {M T O C : Type}

/-- The job was made for the run. -/
structure Job.MadeFor (job : Job) (run : AgentRun M) : Prop where
  jobId : run.jobId = some job.id
  payload : job.payload = .agentRun run.id
  scope : job.scope = run.scope
  isAgentRun : job.jobType.isAgentRun

/-- Every run is bound to the job made for it, which is not terminal while the run is pending. -/
structure AgentDatabase.RunsLive (db : AgentDatabase M T) : Prop where
  ids : Table.KeysNodup AgentRun.id db.tables.agentRuns
  id_lt : ∀ run ∈ db.tables.agentRuns, run.id < db.nextId
  keys : ∀ job ∈ db.jobs, ∀ id, job.idempotencyKey = .agentRun id → id < db.nextId
  live : ∀ run ∈ db.tables.agentRuns, ∃ job ∈ db.jobs, job.MadeFor run ∧
    (run.terminal = false → job.terminal = false)

theorem AgentRun.SameIdentity.refl (run : AgentRun M) : run.SameIdentity run := by
  constructor <;> rfl

theorem Job.MadeFor.row {job : Job} {run : AgentRun M} (h : job.MadeFor run) (now : Time)
    (op : JobOp) : (op.row now job).MadeFor run := by
  have hsame : job.SameIdentity (op.row now job) := op.sameIdentity_row
  exact ⟨h.jobId.trans (congrArg some hsame.id.symm), hsame.payload.trans h.payload,
    hsame.scope.trans h.scope, by rw [hsame.jobType]; exact h.isAgentRun⟩

/-- The job serves a pending run. -/
def AgentDatabase.AwaitsRun (db : AgentDatabase M T) (job : Job) : Prop :=
  ∃ run ∈ db.tables.agentRuns, run.jobId = some job.id ∧ run.terminal = false

instance (db : AgentDatabase M T) (job : Job) : Decidable (db.AwaitsRun job) := by
  unfold AgentDatabase.AwaitsRun
  infer_instance

namespace AgentDatabase.RunsLive

variable {db : AgentDatabase M T} {now : Time}

/-- A job operation keeps the invariant if it ends no job of a pending run and uses no key of a run
that is not there yet. -/
theorem applyJobOp (h : db.RunsLive) (hwf : db.toJobTable.WellFormed) (op : JobOp)
    (hrow : ∀ job ∈ db.jobs, db.AwaitsRun job → job.terminal = false →
      (op.row now job).terminal = false)
    (hkey : ∀ args, op = .createJob args → ∀ id, args.idempotencyKey = .agentRun id →
      id < db.nextId) : AgentDatabase.RunsLive (db.applyJobOp now op) := by
  have hnext : db.nextId ≤ (db.applyJobOp now op).nextId := db.toJobTable.nextId_le_apply now op
  constructor
  · exact h.ids
  · intro run hrun
    exact (h.id_lt run hrun).trans_le hnext
  · intro job' hjob' id hid
    rcases (JobTable.mem_apply_iff hwf.ids).mp hjob' with ⟨job, hjob, rfl⟩ | hjob
    · have hsame : job.SameIdentity (op.row now job) := op.sameIdentity_row
      exact (h.keys job hjob id (hsame.idempotencyKey.symm.trans hid)).trans_le hnext
    · obtain ⟨args, hop, -, -, rfl⟩ := JobOp.mem_inserted_iff.mp hjob
      exact (hkey args hop id hid).trans_le hnext
  · intro run hrun
    obtain ⟨job, hjob, hmade, hlive⟩ := h.live run hrun
    refine ⟨op.row now job, JobTable.row_mem_apply hwf.ids now op hjob, hmade.row now op, ?_⟩
    intro hpending
    exact hrow job hjob ⟨run, hrun, hmade.jobId, hpending⟩ (hlive hpending)

/-- Creating a job ends none. -/
theorem createJob (h : db.RunsLive) (hwf : db.toJobTable.WellFormed) (args : CreateJob)
    (hkey : ∀ id, args.idempotencyKey = .agentRun id → id < db.nextId) :
    AgentDatabase.RunsLive (db.applyJobOp now (.createJob args)) := by
  refine h.applyJobOp hwf _ (fun job _ _ hlive => hlive) ?_
  rintro args' heq
  cases heq
  exact hkey

theorem newId (h : db.RunsLive) (hwf : db.toJobTable.WellFormed) (now : Time) :
    AgentDatabase.RunsLive (db.applyJobOp now .newId) :=
  h.applyJobOp hwf .newId (fun _ _ _ hlive => hlive) (by simp)

/-- Replacing the runs one by one keeps the invariant if no terminal run comes back. -/
theorem replace (h : db.RunsLive) {t : AgentTables M T}
    (hids : t.agentRuns.map AgentRun.id = db.tables.agentRuns.map AgentRun.id)
    (hcases : ∀ run' ∈ t.agentRuns, ∃ run ∈ db.tables.agentRuns, run.SameIdentity run' ∧
      (run'.terminal = false → run.terminal = false)) :
    AgentDatabase.RunsLive { db with tables := t } := by
  constructor
  · rw [Table.KeysNodup, hids]
    exact h.ids
  · intro run' hrun'
    obtain ⟨run, hrun, hsame, -⟩ := hcases run' hrun'
    rw [hsame.id]
    exact h.id_lt run hrun
  · exact h.keys
  · intro run' hrun'
    obtain ⟨run, hrun, hsame, hback⟩ := hcases run' hrun'
    obtain ⟨job, hjob, ⟨hjobId, hpayload, hscope, hagent⟩, hlive⟩ := h.live run hrun
    exact ⟨job, hjob, ⟨hsame.jobId.trans hjobId, by rw [hsame.id]; exact hpayload,
      hscope.trans hsame.scope.symm, hagent⟩, fun hterminal => hlive (hback hterminal)⟩

/-- Updating runs in place keeps the invariant if it brings no terminal run back. -/
theorem updateRun (h : db.RunsLive) (id : Id) {f : AgentRun M → AgentRun M}
    (hidentity : ∀ run : AgentRun M, run.SameIdentity (f run))
    (hpending : ∀ run ∈ db.tables.agentRuns, run.id = id → (f run).terminal = false →
      run.terminal = false) :
    AgentDatabase.RunsLive { db with tables := db.tables.updateRun id f } := by
  refine h.replace (Table.map_key_modify fun run _ hid => (hidentity run).id.trans hid) ?_
  intro run' hrun'
  rcases Table.mem_modify_cases hrun' with ⟨run, hrun, hid, rfl⟩ | ⟨hrun, -⟩
  · exact ⟨run, hrun, hidentity run, hpending run hrun hid⟩
  · exact ⟨run', hrun, .refl run', fun hterminal => hterminal⟩

/-- A new run is bound to a new job: no job has its key yet. -/
theorem insertAgentRun (h : db.RunsLive) (hwf : db.toJobTable.WellFormed) {args : CreateAgentRun}
    {run : AgentRun M} {db' : AgentDatabase M T}
    (hinsert : LaunchOS.insertAgentRun now args db = .ok (run, db')) : db'.RunsLive := by
  obtain ⟨job, hjob, hkey, hold, rfl, rfl⟩ := insertAgentRun_eq_ok hinsert
  have hnew : job = (args.job db.nextId).row (db.nextId + 1) now := by
    refine hold.resolve_left fun hmem => ?_
    have hidem : job.idempotencyKey = .agentRun db.nextId := congrArg (fun key => key.2.2) hkey
    exact absurd (h.keys job hmem db.nextId hidem) (lt_irrefl _)
  let db₁ : AgentDatabase M T := db.applyJobOp now .newId
  have hbase : AgentDatabase.RunsLive (db₁.applyJobOp now (.createJob (args.job db.nextId))) := by
    refine (h.newId hwf now).createJob (hwf.apply now .newId) (args.job db.nextId) ?_
    intro id hid
    rw [← JobKey.agentRun.inj hid]
    exact Nat.lt_succ_self _
  constructor
  · refine hbase.ids.append (Table.keysNodup_singleton _) ?_
    simp only [List.mem_singleton, forall_eq]
    intro run' hrun'
    exact (h.id_lt run' hrun').ne
  · simp only [List.mem_append, List.mem_singleton]
    rintro run' (hrun' | rfl)
    · exact hbase.id_lt run' hrun'
    · exact Nat.lt_of_succ_le (db₁.toJobTable.nextId_le_apply now _)
  · exact hbase.keys
  · simp only [List.mem_append, List.mem_singleton]
    rintro run' (hrun' | rfl)
    · exact hbase.live run' hrun'
    · refine ⟨job, hjob, ⟨rfl, ?_, ?_, ?_⟩, fun _ => ?_⟩
      · rw [hnew]; rfl
      · rw [hnew]; rfl
      · rw [hnew]; exact args.isAgentRun
      · rw [hnew]; rfl

/-- Domain code keeps the invariant. -/
theorem grows {db' : AgentDatabase M T} (h : db.RunsLive) (hwf : db.toJobTable.WellFormed)
    (hgrows : AgentGrows now db db') : db'.RunsLive := by
  suffices hboth : db'.toJobTable.WellFormed ∧ db'.RunsLive from hboth.2
  induction hgrows with
  | refl => exact ⟨hwf, h⟩
  | domain t _ ih => exact ⟨ih.1, ih.2.ids, ih.2.id_lt, ih.2.keys, ih.2.live⟩
  | newId _ ih => exact ⟨ih.1.apply now .newId, ih.2.newId ih.1 now⟩
  | createJob args _ hkey _ ih =>
      exact ⟨ih.1.apply now (.createJob args),
        ih.2.createJob ih.1 args fun id hid => absurd hid (hkey id)⟩
  | outboxEvent scope eventType _ ih =>
      have hnew := ih.2.newId ih.1 now
      exact ⟨ih.1.apply now .newId, hnew.ids, hnew.id_lt, hnew.keys, hnew.live⟩
  | createAgentRun args hinsert hgrows ih =>
      have hgrows' := hgrows.createAgentRun args hinsert
      exact ⟨hgrows'.runtimeGrows.growth.wellFormed hwf, ih.2.insertAgentRun ih.1 hinsert⟩

/-- So does the outbox scan. -/
theorem enqueue (h : db.RunsLive) (hwf : db.toJobTable.WellFormed) (limit : ℕ) :
    AgentDatabase.RunsLive { db with
      toRuntimeTables := enqueuePendingOutbox now limit db.toRuntimeTables } := by
  unfold enqueuePendingOutbox
  generalize pendingOutbox limit db.outboxEvents = events
  induction events generalizing db with
  | nil => exact h
  | cons event events ih =>
      have hcreate : AgentDatabase.RunsLive
          (db.applyJobOp now (.createJob (event.dispatchJob now))) :=
        h.createJob hwf _ (by simp [OutboxEvent.dispatchJob])
      exact ih hcreate (hwf.apply now (.createJob (event.dispatchJob now)))

end AgentDatabase.RunsLive

/-! ## The two machines in one run -/

/-- The job of a pending run is not ended alone: the scheduler does not meet it with an expired
lease and no attempts left, and the worker that records its failure has a handler for it. -/
def Action.SparesRuns (s : RuntimeState (AgentTables M T) Unit AgentProgress) :
    Action (DomainAnswer M O) C → Prop
  | .schedule _ => ∀ job ∈ s.db.jobs, AgentDatabase.AwaitsRun s.db job → job.exhausted s.now = false
  | .recordFailure a => ∀ worker ∈ s.failingWorker a, ∀ job ∈ s.db.jobs, job.id = a.jobId →
      AgentDatabase.AwaitsRun s.db job → worker.handlers job.jobType
  | _ => True

instance (s : RuntimeState (AgentTables M T) Unit AgentProgress)
    (action : Action (DomainAnswer M O) C) : Decidable (action.SparesRuns s) := by
  cases action <;> unfold Action.SparesRuns <;> infer_instance


theorem map_id_recordAgentRunFailure (job : Job) (error : JobError) (willRetry : Bool)
    (now : Time) (t : AgentTables M T) :
    (recordAgentRunFailure job error willRetry now t).agentRuns.map AgentRun.id =
      t.agentRuns.map AgentRun.id := by
  unfold recordAgentRunFailure
  split
  next =>
    split
    next =>
      split
      next => rfl
      next => exact Table.map_key_modify fun _ _ hid => hid
    next => rfl
  next => rfl

/-- Where the runs come from that the failure recorder leaves behind: it brings no terminal run
back, and a run that the job was made for is pending only if the job is retried. -/
theorem exists_of_mem_recordAgentRunFailure {t : AgentTables M T}
    (hids : Table.KeysNodup AgentRun.id t.agentRuns) {job : Job} {error : JobError}
    {willRetry : Bool} {now : Time} {run' : AgentRun M}
    (hrun' : run' ∈ (recordAgentRunFailure job error willRetry now t).agentRuns) :
    ∃ run ∈ t.agentRuns, run.SameIdentity run' ∧
      (run'.terminal = false → run.terminal = false ∧ (job.MadeFor run → willRetry = true)) := by
  unfold recordAgentRunFailure at hrun'
  split at hrun'
  next runId hpayload =>
    have hmine : ∀ {run : AgentRun M}, job.MadeFor run → run.id = runId := fun hmade =>
      JobPayload.agentRun.inj (hmade.payload.symm.trans hpayload)
    split at hrun'
    next found hfind =>
      obtain ⟨hfound, hid⟩ := hids.find_eq_some_iff.mp hfind
      split at hrun'
      next hskip =>
        refine ⟨run', hrun', .refl run', fun hpending => ⟨hpending, fun hmade => ?_⟩⟩
        have heq : run' = found := hids.eq_of_key_eq hrun' hfound ((hmine hmade).trans hid.symm)
        subst heq
        rcases hskip with hterminal | hscope
        · rw [hterminal] at hpending
          cases hpending
        · exact absurd hmade.scope hscope
      next hwrite =>
        rcases Table.mem_modify_cases hrun' with ⟨run, hrun, hrunId, rfl⟩ | ⟨hrun, hne⟩
        · have heq : run = found := hids.eq_of_key_eq hrun hfound (hrunId.trans hid.symm)
          refine ⟨run, hrun, AgentRun.sameIdentity_recordFailure error willRetry now run, ?_⟩
          intro hpending
          refine ⟨by simpa [heq] using (not_or.mp hwrite).1, fun _ => ?_⟩
          by_contra hgiveup
          simp [AgentRun.recordFailure, AgentRun.terminal, AgentRunStatus.terminal, hgiveup]
            at hpending
        · exact ⟨run', hrun, .refl run', fun hpending =>
            ⟨hpending, fun hmade => absurd (hmine hmade) hne⟩⟩
    next hfind =>
      exact ⟨run', hrun', .refl run', fun hpending => ⟨hpending, fun hmade =>
        absurd (hmine hmade) (Table.find_eq_none_iff.mp hfind run' hrun')⟩⟩
  next hother =>
    exact ⟨run', hrun', .refl run', fun hpending => ⟨hpending, fun hmade =>
      absurd hmade.payload (hother _)⟩⟩

namespace AgentDatabase.RunsLive

variable {db : AgentDatabase M T} {now : Time}

/-- The job made for a run is the one the run is bound to. -/
theorem madeFor (h : db.RunsLive) (hwf : db.toJobTable.WellFormed) {run : AgentRun M}
    (hrun : run ∈ db.tables.agentRuns) {job : Job} (hjob : job ∈ db.jobs)
    (hbound : run.jobId = some job.id) :
    job.MadeFor run ∧ (run.terminal = false → job.terminal = false) := by
  obtain ⟨job', hjob', hmade, hlive⟩ := h.live run hrun
  have hid : job'.id = job.id := Option.some.inj (hmade.jobId.symm.trans hbound)
  have heq : job' = job := hwf.ids.eq_of_key_eq hjob' hjob hid
  exact heq ▸ ⟨hmade, hlive⟩

/-- `_record_failure` keeps the invariant if it records the failure of a pending run in the run
too. -/
theorem recordFailure (h : db.RunsLive) (hwf : db.toJobTable.WellFormed) {job : Job}
    (hjob : job ∈ db.jobs) (error : JobError) (retryBackoff : Duration) (now : Time)
    {t : AgentTables M T}
    (ht : t = db.tables ∧ ¬ db.AwaitsRun job ∨ t = LaunchOS.recordAgentRunFailure job error
      (error.retry && decide (job.attemptCount < job.maxAttempts)) now db.tables) :
    AgentDatabase.RunsLive (Database.applyJobOp now
      (.markJobFailedOrRetrying job.id error error.retry retryBackoff)
      { db with tables := t }) := by
  have hcases : ∀ run' ∈ t.agentRuns, ∃ run ∈ db.tables.agentRuns, run.SameIdentity run' ∧
      (run'.terminal = false → run.terminal = false ∧ (run.jobId = some job.id →
        (error.retry && decide (job.attemptCount < job.maxAttempts)) = true)) := by
    intro run' hrun'
    rcases ht with ⟨rfl, hawaits⟩ | rfl
    · exact ⟨run', hrun', .refl run', fun hpending =>
        ⟨hpending, fun hbound => absurd ⟨run', hrun', hbound, hpending⟩ hawaits⟩⟩
    · obtain ⟨run, hrun, hsame, hback⟩ := exists_of_mem_recordAgentRunFailure h.ids hrun'
      exact ⟨run, hrun, hsame, fun hpending => ⟨(hback hpending).1, fun hbound =>
        (hback hpending).2 (h.madeFor hwf hrun hjob hbound).1⟩⟩
  have hreplaced : AgentDatabase.RunsLive { db with tables := t } := by
    refine h.replace ?_ fun run' hrun' => ?_
    · rcases ht with ⟨rfl, -⟩ | rfl
      · rfl
      · exact map_id_recordAgentRunFailure job error _ now db.tables
    · obtain ⟨run, hrun, hsame, hback⟩ := hcases run' hrun'
      exact ⟨run, hrun, hsame, fun hpending => (hback hpending).1⟩
  refine hreplaced.applyJobOp hwf _ ?_ (by simp)
  rintro job' hjob' ⟨run', hrun', hbound, hpending⟩ hlive
  by_cases hid : job'.id = job.id
  · have heq : job' = job := hwf.ids.eq_of_key_eq hjob' hjob hid
    obtain ⟨run, -, hsame, hback⟩ := hcases run' hrun'
    have hretry := (hback hpending).2 (by rw [← hsame.jobId, hbound, hid])
    subst heq
    simp only [JobOp.row, if_true, Job.markFailedOrRetrying, hretry]
    rfl
  · simpa only [JobOp.row, hid, if_false] using hlive

/-- `mark_job_succeeded` keeps the invariant once the runs bound to the job are terminal. -/
theorem markJobSucceeded (h : db.RunsLive) (hwf : db.toJobTable.WellFormed) (jobId : Id)
    (hdone : ∀ run ∈ db.tables.agentRuns, run.jobId = some jobId → run.terminal) :
    AgentDatabase.RunsLive (db.applyJobOp now (.markJobSucceeded jobId)) := by
  refine h.applyJobOp hwf _ ?_ (by simp)
  rintro job hjob ⟨run, hrun, hbound, hpending⟩ hlive
  by_cases hid : job.id = jobId
  · rw [hdone run hrun (hid ▸ hbound)] at hpending
    cases hpending
  · simpa only [JobOp.row, hid, if_false] using hlive

/-- Recovery of expired leases keeps the invariant if it gives up no job of a pending run. -/
theorem recover (h : db.RunsLive) (hwf : db.toJobTable.WellFormed)
    (hspare : ∀ job ∈ db.jobs, db.AwaitsRun job → job.exhausted now = false) :
    AgentDatabase.RunsLive (db.applyJobOp now .recoverExpiredLeases) := by
  refine h.applyJobOp hwf _ ?_ (by simp)
  intro job hjob hawaits hlive
  have hnot := hspare job hjob hawaits
  simp only [JobOp.row, Job.recoverIfExpired, Job.recoverLease]
  split
  next hexpired =>
    split
    next hmax => simp [Job.exhausted, hexpired, hmax] at hnot
    next => rfl
  next => exact hlive

end AgentDatabase.RunsLive

/-- A handler that returns keeps the invariant, and afterwards the runs that its job was made for
are terminal. -/
theorem DomainApp.handleJob_runsLive (D : DomainApp M T O C) {context : RuntimeJobContext}
    {payload : JobPayload} {now : Time} {answer : DomainAnswer M O} {progress : AgentProgress}
    {world : Unit} {db db' : AgentDatabase M T}
    (hcommit : D.app.handleJob context payload now answer progress world db = .commit db')
    (hwf : db.toJobTable.WellFormed) (h : db.RunsLive) :
    db'.RunsLive ∧ (context.jobType.isAgentRun → ∀ run ∈ db'.tables.agentRuns,
      payload = .agentRun run.id → run.terminal) := by
  rcases D.handleJob_cases hcommit with ⟨htype, htable, htables⟩ | hhandled
  · refine ⟨⟨?_, ?_, ?_, ?_⟩, fun hagent => ?_⟩
    · rw [htables]
      exact h.ids
    · rw [htables, htable]
      exact h.id_lt
    · rw [htable]
      exact h.keys
    · rw [htables, htable]
      exact h.live
    · rcases htype with htype | htype <;> simp [htype, JobType.isAgentRun] at hagent
  · cases hhandled with
    | @terminal run hagent hpayload hrun hterminal =>
        refine ⟨h, fun _ run' hrun' hpayload' => ?_⟩
        have hid : run'.id = run.id := JobPayload.agentRun.inj (hpayload'.symm.trans hpayload)
        have heq : run' = run := h.ids.eq_of_key_eq hrun' hrun hid
        rw [heq]
        exact hterminal
    | @persisted runId hagent hpayload f hidentity hterminal =>
        refine ⟨h.updateRun runId hidentity ?_, fun _ run' hrun' hpayload' => ?_⟩
        · intro run _ _ hpending
          rw [hterminal run] at hpending
          cases hpending
        · rcases Table.mem_modify_cases hrun' with ⟨run, -, -, rfl⟩ | ⟨-, hne⟩
          · exact hterminal run
          · exact absurd (JobPayload.agentRun.inj (hpayload'.symm.trans hpayload)) hne
    | domain hagent hhandle =>
        exact ⟨h.grows hwf (D.handle_grows hhandle), fun htrue => by simp [hagent] at htrue⟩

/-- A step that spares the pending runs keeps every pending run bound to a live job. -/
theorem DomainApp.runsLive_step (D : DomainApp M T O C)
    {s : RuntimeState (AgentTables M T) Unit AgentProgress} (hs : s.WellFormed)
    (h : AgentDatabase.RunsLive s.db) {action : Action (DomainAnswer M O) C}
    (haction : action.SparesRuns s) : AgentDatabase.RunsLive (D.app.step action s).db := by
  cases action with
  | tick elapsed => exact h
  | command c =>
      simp only [App.step]
      split
      next db hdb => exact h.grows hs.table (D.command_grows hdb)
      next => exact h
  | claim worker jobId =>
      simp only [App.step]
      split
      next =>
        refine h.applyJobOp hs.table _ ?_ (by simp)
        intro job hjob _ hlive
        simp only [JobOp.row]
        split
        · rfl
        · exact hlive
      next => exact h
  | start a =>
      simp only [App.step]
      split
      next worker ha =>
        unfold RuntimeState.startAttempt
        split
        · exact h
        · split
          · exact h
          · split <;> exact h
      next => exact h
  | proceed a answer =>
      simp only [App.step]
      split
      next worker context payload state ha =>
        cases hstage : D.app.handleJob context payload s.now answer state s.world s.db with
        | next _ _ => exact h
        | raise _ => exact h
        | commit db =>
            obtain ⟨⟨served, hserved, hid, -, -, htype, hpayload⟩, -⟩ :=
              hs.serves a worker context payload state ha
            have hgrows := D.app.growth_handleJob hstage
            have hwf := hgrows.wellFormed hs.table
            obtain ⟨hruns, hdone⟩ := D.handleJob_runsLive hstage hs.table h
            refine hruns.markJobSucceeded hwf a.jobId fun run hrun hbound => ?_
            -- the job of the attempt is the job made for the run, so its handler ended the run
            obtain ⟨hmade, -⟩ := hruns.madeFor hwf hrun (hgrows.subset hserved)
              (by rw [hid]; exact hbound)
            exact hdone (by rw [htype]; exact hmade.isAgentRun) run hrun
              (hpayload.trans hmade.payload)
      next => exact h
  | fault a className message =>
      simp only [App.step]
      split <;> exact h
  | recordFailure a =>
      simp only [App.step]
      split
      next worker error ha =>
        unfold RuntimeState.recordAttemptFailure
        split
        next => exact h
        next held hget =>
          obtain ⟨hheld, hid⟩ := hs.table.getJob_eq_some_iff.mp hget
          have hagent : AgentDatabase.AwaitsRun s.db held →
              worker.handlers held.jobType ∧ held.jobType.isAgentRun := by
            rintro ⟨run, hrun, hbound, hpending⟩
            exact ⟨haction worker (by simp [RuntimeState.failingWorker, ha]) held hheld hid
              ⟨run, hrun, hbound, hpending⟩, (h.madeFor hs.table hrun hheld hbound).1.isAgentRun⟩
          rw [← hid]
          refine h.recordFailure hs.table hheld error worker.retryBackoff s.now ?_
          split
          next hhandler =>
            by_cases htype : held.jobType.isAgentRun
            · exact .inr (by simp [DomainApp.app, htype])
            · exact .inl ⟨by simp [DomainApp.app, htype], fun hawaits => htype (hagent hawaits).2⟩
          next hhandler => exact .inl ⟨rfl, fun hawaits => hhandler (hagent hawaits).1⟩
      next => exact h
  | crash a => exact h
  | schedule batchSize =>
      exact (h.recover hs.table haction).enqueue
        (hs.table.apply s.now .recoverExpiredLeases) batchSize

theorem RuntimeState.AgentInitial.runsLive
    {s : RuntimeState (AgentTables M T) Unit AgentProgress} (h : s.AgentInitial) :
    AgentDatabase.RunsLive s.db := by
  constructor <;> simp [h.jobs, h.agentRuns, Table.keysNodup_nil]

theorem DomainApp.runsLive_run (D : DomainApp M T O C)
    {s : RuntimeState (AgentTables M T) Unit AgentProgress} (hs : s.AgentInitial)
    {actions : List (Action (DomainAnswer M O) C)}
    (hactions : Guarded D.app.step Action.SparesRuns s actions) :
    (run D.app.step s actions).WellFormed ∧
      AgentDatabase.RunsLive (run D.app.step s actions).db := by
  refine invariant_run (I := fun s => s.WellFormed ∧ AgentDatabase.RunsLive s.db) ?_
    ⟨hs.wellFormed, hs.runsLive⟩ hactions
  rintro s action ⟨hwf, h⟩ haction
  exact ⟨hwf.step D.app action, D.runsLive_step hwf h haction⟩

/-- In a run that spares the pending runs every agent run is bound to a job, which is not terminal
while the run is pending. -/
theorem pending_run_has_live_job (D : DomainApp M T O C)
    {s : RuntimeState (AgentTables M T) Unit AgentProgress} (hs : s.AgentInitial)
    {actions : List (Action (DomainAnswer M O) C)}
    (hactions : Guarded D.app.step Action.SparesRuns s actions) :
    ∀ agentRun ∈ (run D.app.step s actions).db.tables.agentRuns, agentRun.terminal = false →
      ∃ job ∈ (run D.app.step s actions).db.jobs,
        agentRun.jobId = some job.id ∧ job.terminal = false := by
  intro agentRun hrun hpending
  obtain ⟨job, hjob, hmade, hlive⟩ := (D.runsLive_run hs hactions).2.live agentRun hrun
  exact ⟨job, hjob, hmade.jobId, hlive hpending⟩

/-! ### A run left behind by its job, and one that is not -/

/-- Code that does nothing but create agent runs. -/
def agentRunCreator : DomainApp Unit Unit Unit CreateAgentRun where
  handle context _ _ _ _ :=
    .error (.permanentJobError ("no executable handler for " ++ context.jobType.value))
  command now args db := (createAgentRun now args (.ok ()) db).map Prod.snd
  handle_grows h := by cases h
  command_grows {now args db db'} h := by
    cases hcreate : createAgentRun now args (.ok ()) db with
    | error e =>
        rw [hcreate] at h
        cases h
    | ok result =>
        rw [hcreate] at h
        cases h
        exact .of_createAgentRun hcreate

/-- Before anything has happened. -/
def agentRunStart : RuntimeState (AgentTables Unit Unit) Unit AgentProgress where
  now := 0
  db := { tables := { domain := () } }
  world := ()
  attempts _ := none
  history := []

theorem agentRunStart_initial : agentRunStart.AgentInitial where
  jobs := rfl
  outboxEvents := rfl
  attempts _ := rfl
  history := rfl
  agentRuns := rfl

/-- A worker with the handlers of agent runs. -/
def agentWorker : Worker := { defaultWorker 1 with handlers := JobType.isAgentRun }

/-- A run for a specialist. -/
def specialistRun : CreateAgentRun where
  scope := ⟨"organization", "business"⟩
  contractKey := "business_analyst"
  inputRef := some (.specialist 0 "business_analyst")
  idempotencyKey := some (.base (.specialist 0 "business_analyst"))

/-- A worker claims the job of the run and dies; its lease of 60 seconds expires and the scheduler
runs. -/
def lostAgentRun (attempt : ℕ) : List (Action (DomainAnswer Unit Unit) CreateAgentRun) :=
  [.claim agentWorker 1, .start ⟨1, attempt⟩, .proceed ⟨1, attempt⟩ (.agent (.prepared (.ok ()))),
    .crash ⟨1, attempt⟩, .tick 60000000, .schedule 100]

/-- Three lost attempts leave a `QUEUED` run with a `FAILED` job. -/
theorem abandoned_run_has_failed_job :
    ∃ agentRun ∈ (run agentRunCreator.app.step agentRunStart (.command specialistRun ::
        (lostAgentRun 1 ++ lostAgentRun 2 ++ lostAgentRun 3))).db.tables.agentRuns,
      agentRun.status = .queued ∧
      ∃ job ∈ (run agentRunCreator.app.step agentRunStart (.command specialistRun ::
          (lostAgentRun 1 ++ lostAgentRun 2 ++ lostAgentRun 3))).db.jobs,
        agentRun.jobId = some job.id ∧ job.status = .failed := by
  decide

/-- A lost attempt, and then one in which the provider cannot be reached. -/
def retriedAgentRun : List (Action (DomainAnswer Unit Unit) CreateAgentRun) :=
  .command specialistRun :: (lostAgentRun 1 ++
    [.claim agentWorker 1, .start ⟨1, 2⟩, .proceed ⟨1, 2⟩ (.agent (.prepared (.ok ()))),
      .proceed ⟨1, 2⟩ (.agent (.invoked (.error (.transientJobError "provider unavailable")))),
      .recordFailure ⟨1, 2⟩])

theorem retried_run_has_live_job :
    ∃ agentRun ∈ (run agentRunCreator.app.step agentRunStart retriedAgentRun).db.tables.agentRuns,
      ∃ job ∈ (run agentRunCreator.app.step agentRunStart retriedAgentRun).db.jobs,
        agentRun.jobId = some job.id ∧ job.terminal = false := by
  have hpending : ∃ agentRun ∈ (run agentRunCreator.app.step agentRunStart
      retriedAgentRun).db.tables.agentRuns, agentRun.terminal = false := by decide
  obtain ⟨agentRun, hmem, hterminal⟩ := hpending
  exact ⟨agentRun, hmem, pending_run_has_live_job agentRunCreator agentRunStart_initial (by decide)
    agentRun hmem hterminal⟩

end LaunchOS
