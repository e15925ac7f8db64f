import LaunchOS.Execution.App

/-!
# One publication call for each execution

The call of `publish_text` cannot be taken back, so a handler that dies after it must not run again.
What prevents it is the attempt budget: `approve_action_proposal` creates one publish job for an
execution, with a single attempt, and an attempt makes at most one call. The budget fails when
`claim_job` takes over an expired lease with no attempts left, and then the provider is called again.

The module introduces:

* `PublishLedger`: publish jobs have one attempt and are bound to the execution of their key;
* `Spares`: what leaves the publish jobs and the identity of actions and executions alone;
* `PublishedOnce`: a job that has called the provider has used up its attempt;
* `publish_at_most_once`: the calls for an execution in all runs within the budget;
* a run in which the provider is called twice.
-/

namespace LaunchOS

open Txn Transition

variable {M : Type}

/-! ## Publish jobs -/

/-- The job is that of the execution. -/
structure Job.Publishes (job : Job) (execution : Execution) : Prop where
  scope : job.scope = execution.scope
  key : job.idempotencyKey = .telegramExecution execution.id
  payload : job.payload = .telegramPublish execution.actionId execution.id

/-- Every execution belongs to its action, and every publish job to its execution. -/
structure PublishLedger (db : AgentDatabase M ExecutionTables) : Prop where
  actions : Table.KeysNodup ActionProposal.id db.tables.domain.actions
  action_lt : ∀ action ∈ db.tables.domain.actions, action.id < db.nextId
  executions : Table.KeysNodup Execution.id db.tables.domain.executions
  execution_lt : ∀ execution ∈ db.tables.domain.executions, execution.id < db.nextId
  bound : ∀ execution ∈ db.tables.domain.executions, ∃ action ∈ db.tables.domain.actions,
    action.id = execution.actionId ∧ action.scope = execution.scope
  jobs : ∀ job ∈ db.jobs, job.jobType = .executionTelegramPublish →
    job.maxAttempts = 1 ∧ ∃ execution ∈ db.tables.domain.executions, job.Publishes execution

/-- An execution has one publish job. -/
theorem PublishLedger.job_unique {db : AgentDatabase M ExecutionTables} (h : PublishLedger db)
    (hwf : db.toJobTable.WellFormed) {job job' : Job} (hjob : job ∈ db.jobs) (hjob' : job' ∈ db.jobs)
    (htype : job.jobType = .executionTelegramPublish)
    (htype' : job'.jobType = .executionTelegramPublish) {actionId actionId' executionId : Id}
    (hpayload : job.payload = .telegramPublish actionId executionId)
    (hpayload' : job'.payload = .telegramPublish actionId' executionId) : job = job' := by
  obtain ⟨-, execution, hexecution, hscope, hkey, hbound⟩ := h.jobs job hjob htype
  obtain ⟨-, execution', hexecution', hscope', hkey', hbound'⟩ := h.jobs job' hjob' htype'
  have hid : executionId = execution.id := by
    rw [hpayload] at hbound
    exact (JobPayload.telegramPublish.inj hbound).2
  have hid' : executionId = execution'.id := by
    rw [hpayload'] at hbound'
    exact (JobPayload.telegramPublish.inj hbound').2
  have hsame : execution = execution' :=
    h.executions.eq_of_key_eq hexecution hexecution' (hid.symm.trans hid')
  subst hsame
  refine hwf.keys.eq_of_key_eq hjob hjob' ?_
  rw [Job.uniqueKey, Job.uniqueKey, hscope, hscope', htype, htype', hkey, hkey']

/-! ## What leaves them alone -/

/-- No publish job is new, and actions and executions keep their identity. -/
structure Spares (db db' : AgentDatabase M ExecutionTables) : Prop where
  nextId : db.nextId ≤ db'.nextId
  back : ∀ job' ∈ db'.jobs, job'.jobType = .executionTelegramPublish →
    ∃ job ∈ db.jobs, job.SameIdentity job'
  bindings : SameBindings db.tables.domain db'.tables.domain

instance : IsPreorder (AgentDatabase M ExecutionTables) Spares where
  refl _ := ⟨le_rfl, fun job hjob _ => ⟨job, hjob, .refl job⟩, refl _⟩
  trans _ _ _ h h' := by
    refine ⟨h.nextId.trans h'.nextId, fun job'' hjob'' htype => ?_,
      trans_of SameBindings h.bindings h'.bindings⟩
    obtain ⟨job', hjob', hsame'⟩ := h'.back job'' hjob'' htype
    obtain ⟨job, hjob, hsame⟩ := h.back job' hjob' (hsame'.jobType.symm.trans htype)
    exact ⟨job, hjob, hsame.trans hsame'⟩

/-- The ledger survives. -/
theorem PublishLedger.spare {db db' : AgentDatabase M ExecutionTables} (h : PublishLedger db)
    (hspares : Spares db db') : PublishLedger db' := by
  obtain ⟨hnext, hback, hbindings⟩ := hspares
  constructor
  · rw [Table.KeysNodup, hbindings.action_ids]
    exact h.actions
  · intro action haction
    obtain ⟨old, hold, hid, -⟩ := hbindings.symm.mem_actions haction
    exact hid ▸ (h.action_lt old hold).trans_le hnext
  · rw [Table.KeysNodup, hbindings.execution_ids]
    exact h.executions
  · intro execution hexecution
    obtain ⟨old, hold, hid, -⟩ := hbindings.symm.mem_executions hexecution
    exact hid ▸ (h.execution_lt old hold).trans_le hnext
  · intro execution hexecution
    obtain ⟨old, hold, -, hscope, hactionId⟩ := hbindings.symm.mem_executions hexecution
    obtain ⟨action, haction, hid, hscope'⟩ := h.bound old hold
    obtain ⟨action', haction', hid', hscope''⟩ := hbindings.mem_actions haction
    exact ⟨action', haction', hid'.trans (hid.trans hactionId),
      hscope''.trans (hscope'.trans hscope)⟩
  · intro job' hjob' htype
    obtain ⟨job, hjob, hsame⟩ := hback job' hjob' htype
    obtain ⟨hmax, execution, hexecution, hpublishes⟩ :=
      h.jobs job hjob (hsame.jobType.symm.trans htype)
    obtain ⟨execution', hexecution', hid, hscope, hactionId⟩ :=
      hbindings.mem_executions hexecution
    refine ⟨hsame.maxAttempts.trans hmax, execution', hexecution', ?_⟩
    constructor
    · exact hsame.scope.trans (hpublishes.scope.trans hscope.symm)
    · rw [hsame.idempotencyKey, hpublishes.key, hid]
    · rw [hsame.payload, hid, hactionId]
      exact hpublishes.payload

section Spares

variable {now : Time}

/-- Taking an id and creating another job. -/
theorem spares_applyGrowth {op : JobOp} (hop : op.isGrowth)
    (hargs : ∀ args, op = .createJob args → args.jobType ≠ .executionTelegramPublish)
    (db : AgentDatabase M ExecutionTables) : Spares db (db.applyJobOp now op) := by
  refine ⟨db.toJobTable.nextId_le_apply now op, fun job' hjob' htype => ?_, refl _⟩
  have hjobs : (db.applyJobOp now op).jobs = db.jobs ++ op.inserted now db.toJobTable :=
    JobTable.Growth.apply_jobs_of_isGrowth hop db.toJobTable
  rw [hjobs, List.mem_append] at hjob'
  refine ⟨job', hjob'.resolve_right fun hnew => ?_, .refl job'⟩
  obtain ⟨args, rfl, -, -, rfl⟩ := JobOp.mem_inserted_iff.mp hnew
  exact hargs args rfl htype

/-- Writing the rows that are there. -/
theorem spares_applyRows {op : JobOp} (hop : ∀ t, op.inserted now t = [])
    {db : AgentDatabase M ExecutionTables} (hwf : db.toJobTable.WellFormed) :
    Spares db (db.applyJobOp now op) := by
  refine ⟨db.toJobTable.nextId_le_apply now op, fun job' hjob' _ => ?_, refl _⟩
  rcases (JobTable.mem_apply_iff hwf.ids).mp hjob' with ⟨job, hjob, rfl⟩ | hnew
  · exact ⟨job, hjob, op.sameIdentity_row⟩
  · rw [hop] at hnew
    cases hnew

theorem sparesWithin_createJob {args : CreateJob}
    (hargs : args.jobType ≠ .executionTelegramPublish) :
    Within Spares (DomainTxn.createJob (M := M) (T := ExecutionTables) now args) := by
  intro db job db' h
  obtain ⟨rfl, -⟩ := DomainTxn.createJob_eq_ok h
  refine spares_applyGrowth rfl (fun args' heq => ?_) db
  cases heq
  exact hargs

theorem sparesWithin_createAgentRun (args : CreateAgentRun) (admission : Except JobError Unit) :
    Within Spares (DomainTxn.createAgentRun (M := M) (T := ExecutionTables) now args admission) := by
  intro db run db' h
  rcases createAgentRun_eq_ok h with ⟨rfl, -⟩ | hinsert
  · exact refl _
  · obtain ⟨job, -, -, -, -, rfl⟩ := insertAgentRun_eq_ok hinsert
    let db₁ : AgentDatabase M ExecutionTables := db.applyJobOp now .newId
    have hnew : Spares db db₁ := spares_applyGrowth rfl (by simp) db
    have hcreate : Spares db₁ (db₁.applyJobOp now (.createJob (args.job db.nextId))) := by
      refine spares_applyGrowth rfl (fun args' heq htype => ?_) db₁
      cases heq
      have hagent := args.isAgentRun
      rw [show args.jobType = .executionTelegramPublish from htype] at hagent
      cases hagent
    obtain ⟨hnext, hback, -⟩ := trans_of Spares hnew hcreate
    exact ⟨hnext, hback, refl _⟩

theorem domainRelation_spares_bindings (now : Time) :
    DomainRelation (M := M) now (fun _ => true) SameBindings Spares where
  modifyTables f hf := within_modify _ fun db =>
    ⟨le_rfl, fun job hjob _ => ⟨job, hjob, .refl job⟩, hf db.tables.domain⟩
  newId := by
    rintro db id db' ⟨⟩
    have hspares : Spares db (db.applyJobOp 0 .newId) := spares_applyGrowth rfl (by simp) db
    exact hspares
  addOutboxEvent scope eventType := within_modify _ fun db =>
    ⟨Nat.le_succ _, fun job hjob _ => ⟨job, hjob, .refl job⟩, refl _⟩
  createAgentRun args admission _ _ := sparesWithin_createAgentRun args admission

theorem domainRelation_spares (now : Time) :
    DomainRelation (M := M) now (fun _ => true) SameRecords Spares :=
  (domainRelation_spares_bindings now).mono fun _ _ h => h.toSameBindings

theorem sparesWithin_perform {work : ForeignWork} (hwork : work.sparesPublish) :
    Within Spares (work.perform (M := M) (T := ExecutionTables) now (fun _ => false)
      fun _ => false) := by
  have h := domainRelation_spares (M := M) now
  refine within_ite (fun _ => ?_) fun _ => within_pure _
  cases work with
  | createJob args =>
      exact h.bind (sparesWithin_createJob (by simpa [ForeignWork.sparesPublish] using hwork))
        fun _ => h.pure _
  | createAgentRun args admission =>
      exact h.bind (sparesWithin_createAgentRun args admission) fun _ => h.pure _
  | outboxEvent scope eventType => exact h.addOutboxEvent scope eventType

theorem sparesWithin_performEffect (effect : ForeignEffect) :
    Within Spares (effect.perform (M := M) now) := by
  have h := domainRelation_spares (M := M) now
  refine h.bind (fun db => ?_) fun _ => h.modifyTables _ fun t => ?same
  case same => exact .of_eq rfl rfl rfl rfl rfl rfl rfl
  refine Ensures.foldlM (I := fun _ db' => Spares db db') (fun work hwork b db' hdb' => ?_) (refl _)
  refine Ensures.mono (sparesWithin_perform (List.mem_filter.mp hwork).2 db') fun _ db'' hdb'' => ?_
  exact trans_of Spares hdb' hdb''

end Spares

/-! ## Commands -/

section Commands

variable {now : Time} {db db' : AgentDatabase M ExecutionTables}

/-- Inserting an action. -/
theorem PublishLedger.insertAction (h : PublishLedger db) {action : ActionProposal}
    (hlt : action.id < db.nextId) (hnew : ∀ old ∈ db.tables.domain.actions, old.id ≠ action.id)
    (hnext : db'.nextId = db.nextId) (hjobs : db'.jobs = db.jobs)
    (hexecutions : db'.tables.domain.executions = db.tables.domain.executions)
    (hactions : db'.tables.domain.actions = db.tables.domain.actions ++ [action]) :
    PublishLedger db' := by
  constructor
  · rw [hactions]
    refine h.actions.append (Table.keysNodup_singleton action) ?_
    simpa using hnew
  · rw [hactions, hnext]
    intro row hrow
    rcases List.mem_append.mp hrow with hold | hrow
    · exact h.action_lt row hold
    · rwa [List.mem_singleton.mp hrow]
  · rw [hexecutions]
    exact h.executions
  · rw [hexecutions, hnext]
    exact h.execution_lt
  · rw [hexecutions, hactions]
    intro execution hexecution
    obtain ⟨row, hrow, hbound⟩ := h.bound execution hexecution
    exact ⟨row, List.mem_append_left _ hrow, hbound⟩
  · rw [hexecutions, hjobs]
    exact h.jobs

/-- Inserting an execution of an action that is there. -/
theorem PublishLedger.insertExecution (h : PublishLedger db) {execution : Execution}
    (hlt : execution.id < db.nextId)
    (hnew : ∀ old ∈ db.tables.domain.executions, old.id ≠ execution.id)
    (hbound : ∃ action ∈ db.tables.domain.actions,
      action.id = execution.actionId ∧ action.scope = execution.scope)
    (hnext : db'.nextId = db.nextId) (hjobs : db'.jobs = db.jobs)
    (hactions : db'.tables.domain.actions = db.tables.domain.actions)
    (hexecutions : db'.tables.domain.executions = db.tables.domain.executions ++ [execution]) :
    PublishLedger db' := by
  constructor
  · rw [hactions]
    exact h.actions
  · rw [hactions, hnext]
    exact h.action_lt
  · rw [hexecutions]
    refine h.executions.append (Table.keysNodup_singleton execution) ?_
    simpa using hnew
  · rw [hexecutions, hnext]
    intro row hrow
    rcases List.mem_append.mp hrow with hold | hrow
    · exact h.execution_lt row hold
    · rwa [List.mem_singleton.mp hrow]
  · rw [hexecutions, hactions]
    intro row hrow
    rcases List.mem_append.mp hrow with hold | hrow
    · exact h.bound row hold
    · rwa [List.mem_singleton.mp hrow]
  · rw [hexecutions, hjobs]
    intro job hjob htype
    obtain ⟨hmax, row, hrow, hpublishes⟩ := h.jobs job hjob htype
    exact ⟨hmax, row, List.mem_append_left _ hrow, hpublishes⟩

/-- Creating the job of an execution that is there. -/
theorem PublishLedger.createPublishJob (h : PublishLedger db) {execution : Execution}
    (hexecution : execution ∈ db.tables.domain.executions) :
    Ensures (DomainTxn.createJob now (publishJob execution.scope execution.actionId execution.id))
      (fun _ => PublishLedger) db := by
  intro job db' hcreate
  obtain ⟨rfl, -, -, -⟩ := DomainTxn.createJob_eq_ok hcreate
  let op : JobOp :=
    .createJob (publishJob execution.scope execution.actionId execution.id)
  have hle : db.nextId ≤ (db.applyJobOp now op).nextId := db.toJobTable.nextId_le_apply now op
  refine ⟨h.actions, fun action haction => (h.action_lt action haction).trans_le hle, h.executions,
    fun row hrow => (h.execution_lt row hrow).trans_le hle, h.bound, fun job' hjob' htype => ?_⟩
  have hjobs : (db.applyJobOp now op).jobs = db.jobs ++ op.inserted now db.toJobTable :=
    JobTable.Growth.apply_jobs_of_isGrowth rfl db.toJobTable
  rw [hjobs, List.mem_append] at hjob'
  rcases hjob' with hold | hnew
  · exact h.jobs job' hold htype
  · obtain ⟨args, heq, -, -, rfl⟩ := JobOp.mem_inserted_iff.mp hnew
    obtain rfl := JobOp.createJob.inj heq
    exact ⟨rfl, execution, hexecution, ⟨rfl, rfl, rfl⟩⟩

variable (D : Digest)

theorem PublishLedger.createActionProposal (h : PublishLedger db) (scope : TenantScope)
    (productionWorkflowId connectorAccountId : Id) :
    Ensures (createActionProposal D now scope productionWorkflowId connectorAccountId)
      (fun _ => PublishLedger) db := by
  have hs := domainRelation_spares (M := M) now
  unfold LaunchOS.createActionProposal
  rw [ensures_bind, ensures_tables, ensures_bind, ensures_check]
  rintro ⟨workflow, version, account⟩ -
  rw [ensures_bind, ensures_check]
  intro _ _
  dsimp only
  split
  next existing _ =>
    refine Ensures.mono ?_ fun _ db' hdb' => h.spare hdb'
    exact hs.bind (hs.check _) (fun _ => hs.bind (hs.check _) fun _ => hs.pure existing) db
  next =>
    -- the action takes its id first and is inserted last
    rw [ensures_bind, ensures_newId]
    have h₀ : Spares db (db.applyJobOp 0 .newId) := spares_applyGrowth rfl (by simp) db
    refine hs.newId.ensures_bind fun detailId db₁ h₁ => ?_
    refine Within.ensures_bind ((domainRelation_spares_bindings now).modifyTables _ ?_)
      fun _ db₂ h₂ => ?_
    · exact fun t => ⟨rfl, rfl⟩
    refine (within_materializeReviews .sameRecords hs _ _ _).ensures_bind fun _ db₃ h₃ => ?_
    refine (within_ensureDefaultTelegramPermissionPolicy .sameRecords hs _).ensures_bind fun policy db₄ h₄ => ?_
    refine hs.newId.ensures_bind fun permissionId db₅ h₅ => ?_
    rw [ensures_bind, ensures_tables, ensures_bind, ensures_modifyTables, ensures_pure]
    have hrest : Spares (db.applyJobOp 0 .newId) db₅ :=
      trans_of Spares h₁ (trans_of Spares h₂ (trans_of Spares h₃ (trans_of Spares h₄ h₅)))
    have hall := trans_of Spares h₀ hrest
    refine (h.spare hall).insertAction ?_ ?_ rfl rfl rfl rfl
    · exact lt_of_lt_of_le (Nat.lt_succ_self db.nextId) hrest.nextId
    intro old hold heq
    obtain ⟨first, hfirst, hid, -⟩ := hall.bindings.symm.mem_actions hold
    exact absurd (h.action_lt first hfirst) (by rw [hid, heq]; exact lt_irrefl _)

theorem approvableAction_eq_ok {scope : TenantScope} {actionId : Id} {userId : String}
    {t : ExecutionTables} {action : ActionProposal}
    (h : approvableAction D scope actionId userId t = .ok action) :
    action ∈ t.actions ∧ action.scope = scope := by
  unfold approvableAction at h
  obtain ⟨found, hfound, h⟩ := Except.bind_eq_ok_iff.mp h
  obtain ⟨_, hscope, h⟩ := Except.bind_eq_ok_iff.mp h
  obtain ⟨_, -, h⟩ := Except.bind_eq_ok_iff.mp h
  obtain ⟨_, -, h⟩ := Except.bind_eq_ok_iff.mp h
  obtain ⟨_, -, h⟩ := Except.bind_eq_ok_iff.mp h
  obtain ⟨_, -, h⟩ := Except.bind_eq_ok_iff.mp h
  obtain ⟨_, -, h⟩ := Except.bind_eq_ok_iff.mp h
  obtain ⟨_, -, h⟩ := Except.bind_eq_ok_iff.mp h
  cases h
  exact ⟨Table.mem_of_find (orRaise_eq_ok_iff.mp hfound),
    (TenantScope.assertMatches_eq_ok_iff.mp hscope).symm⟩

/-- The execution of an action is one of its tenant. -/
theorem PublishLedger.ensureExecution (h : PublishLedger db) {action : ActionProposal}
    (haction : ∃ row ∈ db.tables.domain.actions, row.id = action.id ∧ row.scope = action.scope)
    (approval : Approval) :
    Ensures (ensureExecution action.scope action approval)
      (fun execution db' => PublishLedger db' ∧ execution ∈ db'.tables.domain.executions ∧
        execution.scope = action.scope ∧ execution.actionId = action.id) db := by
  unfold LaunchOS.ensureExecution
  rw [ensures_bind, ensures_tables]
  split
  next existing hfind =>
    rw [ensures_pure]
    have hexisting := Table.mem_of_find hfind
    refine ⟨h, hexisting, ?_⟩
    obtain ⟨row, hrow, hid, hscope⟩ := haction
    obtain ⟨owner, howner, hid', hscope'⟩ := h.bound existing hexisting
    have hsame : row = owner := h.actions.eq_of_key_eq hrow howner
      (hid.trans ((Table.key_of_find hfind).symm.trans hid'.symm))
    exact ⟨by rw [← hscope', ← hsame, hscope], Table.key_of_find hfind⟩
  next =>
    rw [ensures_bind, ensures_newId, ensures_bind, ensures_modifyTables, ensures_pure]
    have hspares : Spares db (db.applyJobOp 0 .newId) := spares_applyGrowth rfl (by simp) db
    refine ⟨?_, List.mem_append_right _ (List.mem_singleton_self _), rfl, rfl⟩
    refine (h.spare hspares).insertExecution ?_ ?_ ?_ rfl rfl rfl rfl
    · exact Nat.lt_succ_self db.nextId
    · exact fun old hold => (h.execution_lt old hold).ne
    · exact haction

theorem PublishLedger.approveActionProposal (h : PublishLedger db) (scope : TenantScope)
    (actionId : Id) (userId : String) :
    Ensures (approveActionProposal D now scope actionId userId) (fun _ => PublishLedger) db := by
  have hs := domainRelation_spares (M := M) now
  unfold LaunchOS.approveActionProposal
  rw [ensures_bind, ensures_tables, ensures_bind, ensures_check]
  intro action happrovable
  obtain ⟨haction, rfl⟩ := approvableAction_eq_ok D happrovable
  refine (within_ensureApproval .sameRecords hs _ _ _).ensures_bind fun approval db₁ h₁ => ?_
  refine (within_setActionStatus .sameRecords hs _ _).ensures_bind fun _ db₂ h₂ => ?_
  have hspares := trans_of Spares h₁ h₂
  rw [ensures_bind]
  refine Ensures.mono ((h.spare hspares).ensureExecution (hspares.bindings.mem_actions haction)
    approval) ?_
  rintro execution db₃ ⟨hledger, hexecution, hscope, hactionId⟩
  rw [← hscope, ← hactionId]
  exact hledger.createPublishJob hexecution

theorem PublishLedger.command (h : PublishLedger db) (c : ExecutionCommand) :
    Ensures (c.run D now) (fun _ => PublishLedger) db := by
  have hs := domainRelation_spares (M := M) now
  have hspare : ∀ {m : ExecutionTxn M Unit}, Within Spares m →
      Ensures m (fun _ => PublishLedger) db :=
    fun hm => Ensures.mono (hm db) fun _ db' hdb' => h.spare hdb'
  cases c with
  | probeAndRegisterTelegramConnector scope channelId targetChatId readiness =>
      exact hspare (within_probeAndRegisterTelegramConnector hs scope channelId targetChatId readiness
        CommandWrites.sameRecords.accounts CommandWrites.sameRecords.insertAccount)
  | createActionProposal scope productionWorkflowId connectorAccountId =>
      simp only [ExecutionCommand.run]
      rw [ensures_bind]
      refine Ensures.mono (h.createActionProposal D scope _ _) fun _ db' hdb' => ?_
      exact (ensures_pure ()).mpr hdb'
  | approveActionProposal scope actionId userId =>
      simp only [ExecutionCommand.run]
      rw [ensures_bind]
      refine Ensures.mono (h.approveActionProposal D scope actionId userId) fun _ db' hdb' => ?_
      exact (ensures_pure ()).mpr hdb'
  | approveAction scope actionId userId =>
      exact hspare (within_approveAction .sameRecords hs scope actionId userId)
  | setGlobalExecutionControls scope userId automationPaused executionPaused revokeAll =>
      exact hspare (within_setGlobalExecutionControls (domainRelation_spares_bindings now)
        (fun _ _ => ⟨rfl, rfl⟩) scope userId _ _ _)
  | foreign effect => exact hspare (sparesWithin_performEffect effect)

end Commands

/-! ## The handler -/

section Handler

variable {D : Digest} {context : RuntimeJobContext} {payload : JobPayload} {now : Time}
variable {answer : ExecutionAnswer} {progress : TelegramProgress} {calls : List PublishCall}
variable {db db' : AgentDatabase M ExecutionTables}

/-- A call is for the execution of the job's payload. -/
theorem prepareExecution_executionId :
    Ensures (prepareExecution (M := M) D context payload) (fun result _ => ∀ request,
      result = some request → ∃ actionId, payload = .telegramPublish actionId request.executionId)
      db := by
  unfold prepareExecution
  rw [ensures_bind, ensures_tables, ensures_bind, ensures_check]
  rintro ⟨action, execution⟩ hbound
  dsimp only
  split
  next =>
    rw [ensures_pure]
    simp
  next =>
    have hpayload : ∃ actionId, payload = .telegramPublish actionId execution.id := by
      cases payload with
      | telegramPublish actionId executionId =>
          obtain ⟨_, -, hbound⟩ := Except.bind_eq_ok_iff.mp hbound
          obtain ⟨found, hfound, hbound⟩ := Except.bind_eq_ok_iff.mp hbound
          obtain ⟨_, -, hbound⟩ := Except.bind_eq_ok_iff.mp hbound
          obtain ⟨_, -, hbound⟩ := Except.bind_eq_ok_iff.mp hbound
          obtain ⟨_, -, hbound⟩ := Except.bind_eq_ok_iff.mp hbound
          cases hbound
          have hid : execution.id = executionId := Table.key_of_find (orRaise_eq_ok_iff.mp hfound)
          exact ⟨actionId, by rw [hid]⟩
      | _ => cases hbound
    rw [ensures_bind, ensures_check]
    intro detail _
    rw [ensures_bind, ensures_check]
    intro approval _
    rw [ensures_bind, ensures_check]
    intro account _
    rw [ensures_bind, ensures_check]
    rintro (_ | reason) _
    · dsimp only
      split
      next =>
        rw [ensures_bind]
        intro _ _ _
        rw [ensures_pure]
        simp
      next =>
        rw [ensures_bind, ensures_check]
        intro command _
        rw [ensures_bind]
        intro _ _ _
        rw [ensures_pure]
        rintro request ⟨⟩
        exact hpayload
    · dsimp only
      rw [ensures_bind]
      intro _ _ _
      rw [ensures_bind]
      intro _ _ _
      rw [ensures_pure]
      simp

/-- Only the publish handler makes a step before it returns, and that is a call for the execution of
its job. -/
theorem executionApp_next {progress' : TelegramProgress} {calls' : List PublishCall}
    (h : (executionApp (M := M) D).handleJob context payload now answer progress calls db =
      .next progress' calls') :
    context.jobType = .executionTelegramPublish ∧ progress = .preparing ∧
      ∃ request actionId, payload = .telegramPublish actionId request.executionId ∧
        progress' = .called request ∧
        calls' = calls ++ [⟨context.jobId, request.executionId, request.command⟩] := by
  have htables : ∀ result : Except JobError RuntimeTables,
      Stage.ofTables db result ≠ .next progress' calls' := by
    rintro (_ | _) <;> simp [Stage.ofTables]
  have hdomain : ∀ result : Except JobError (AgentDatabase M ExecutionTables),
      Stage.ofDomain result ≠ .next progress' calls' := by
    rintro (_ | _) <;> simp [Stage.ofDomain]
  unfold App.handleJob at h
  split at h
  · exact absurd h (htables _)
  · exact absurd h (htables _)
  · simp only [executionApp, executionHandler] at h
    split at h
    next htype =>
      cases progress with
      | called request => exact absurd h (hdomain _)
      | preparing =>
          simp only [telegramExecutionHandler] at h
          split at h
          next => cases h
          next request _ hprepare =>
            cases h
            obtain ⟨actionId, hpayload⟩ := prepareExecution_executionId _ _ hprepare request rfl
            exact ⟨htype, rfl, request, actionId, hpayload, rfl, rfl⟩
          next => cases h
    next => exact absurd h (hdomain _)

/-- No handler creates a publish job or touches the identity of an execution. -/
theorem executionApp_commit
    (h : (executionApp D).handleJob context payload now answer progress calls db = .commit db') :
    Spares db db' := by
  refine executionApp_commit_within ServiceWrites.sameRecords.handler .sameRecords
    (domainRelation_spares now) (fun htable htables => ?_)
    (fun effect => sparesWithin_performEffect effect) h
  refine ⟨htable ▸ le_rfl, fun job hjob _ => ⟨job, ?_, .refl job⟩, ?_⟩
  · rw [← htable]
    exact hjob
  · rw [htables]
    exact refl _

end Handler

/-! ## Runs -/

/-- The states of the runtime with the execution service on it. -/
abbrev ExecutionState (M : Type) :=
  RuntimeState (AgentTables M ExecutionTables) (List PublishCall) TelegramProgress

/-- The attempt is in its handler and has not called the provider. -/
def RuntimeState.Preparing (s : ExecutionState M) (a : AttemptId) : Prop :=
  ∃ worker context payload, s.attempts a = some ⟨worker, .running context payload .preparing⟩

/-- No call is made, and no attempt that has started is back before its call. -/
structure Calm (s s' : ExecutionState M) : Prop where
  world : s'.world = s.world
  started : s.started ⊆ s'.started
  preparing : ∀ a ∈ s.started, s'.Preparing a → s.Preparing a

/-- The call was made in the only attempt of a publish job for its execution. -/
structure PublishCall.MadeIn (call : PublishCall) (s : ExecutionState M) : Prop where
  job : ∃ job ∈ s.db.jobs, job.id = call.jobId ∧ job.jobType = .executionTelegramPublish ∧
    ∃ actionId, job.payload = .telegramPublish actionId call.executionId
  started : ⟨call.jobId, 1⟩ ∈ s.started
  past : ¬ s.Preparing ⟨call.jobId, 1⟩

/-- The invariant: every job has called at most once, in its only attempt. -/
structure PublishedOnce (s : ExecutionState M) : Prop where
  ledger : PublishLedger s.db
  jobs_nodup : (s.world.map PublishCall.jobId).Nodup
  calls : ∀ call ∈ s.world, call.MadeIn s

namespace PublishedOnce

variable {s s' : ExecutionState M}

/-- A step without a call keeps the invariant. -/
theorem calm (h : PublishedOnce s) (hcalm : Calm s s') (hledger : PublishLedger s'.db)
    (hext : s.db.Extends s'.db.toJobTable) : PublishedOnce s' := by
  obtain ⟨hworld, hstarted, hpreparing⟩ := hcalm
  refine ⟨hledger, hworld ▸ h.jobs_nodup, fun call hcall => ?_⟩
  obtain ⟨⟨job, hjob, hid, htype, actionId, hpayload⟩, hcalled, hpast⟩ :=
    h.calls call (hworld ▸ hcall)
  obtain ⟨job', hjob', hsame, -⟩ := hext job hjob
  exact
    { job := ⟨job', hjob', hsame.id.trans hid, hsame.jobType.trans htype, actionId,
        hsame.payload.trans hpayload⟩
      started := hstarted hcalled
      past := fun hback => hpast (hpreparing _ hcalled hback) }

/-- Every execution has been published at most once. -/
theorem call_unique (h : PublishedOnce s) (hwf : s.db.toJobTable.WellFormed)
    {call call' : PublishCall} (hcall : call ∈ s.world) (hcall' : call' ∈ s.world)
    (heq : call.executionId = call'.executionId) : call.jobId = call'.jobId := by
  obtain ⟨⟨job, hjob, hid, htype, _, hpayload⟩, -, -⟩ := h.calls call hcall
  obtain ⟨⟨job', hjob', hid', htype', _, hpayload'⟩, -, -⟩ := h.calls call' hcall'
  rw [heq] at hpayload
  rw [← hid, ← hid', h.ledger.job_unique hwf hjob hjob' htype htype' hpayload hpayload']

end PublishedOnce

theorem spares_enqueuePendingOutbox (now : Time) (limit : ℕ)
    (db : AgentDatabase M ExecutionTables) :
    Spares db { db with toRuntimeTables := enqueuePendingOutbox now limit db.toRuntimeTables } := by
  unfold enqueuePendingOutbox
  generalize pendingOutbox limit db.outboxEvents = events
  induction events generalizing db with
  | nil => exact refl _
  | cons event events ih =>
      have hcreate : Spares db (db.applyJobOp now (.createJob (event.dispatchJob now))) := by
        refine spares_applyGrowth rfl (fun args heq => ?_) db
        cases heq
        simp [OutboxEvent.dispatchJob]
      exact trans_of Spares hcreate (ih _)

/-- Recording a failure writes agent runs and job rows. -/
theorem spares_recordAttemptFailure (D : Digest) (worker : Worker) (job : Job) (error : JobError)
    (now : Time) (db : AgentDatabase M ExecutionTables) :
    Spares db { db with
      tables :=
        if worker.handlers job.jobType then
          (executionApp D).recordAttemptFailure job error
            (error.retry && decide (job.attemptCount < job.maxAttempts)) now db.tables
        else db.tables } := by
  refine ⟨le_rfl, fun job hjob _ => ⟨job, hjob, .refl job⟩, ?_⟩
  dsimp only [executionApp]
  split
  · split
    · unfold recordAgentRunFailure
      split
      · split
        · split <;> exact refl _
        · exact refl _
      · exact refl _
    · exact refl _
  · exact refl _

/-- Every step leaves the ledger in order. -/
theorem publishLedger_step (D : Digest) {s : ExecutionState M} (hs : s.WellFormed)
    (h : PublishLedger s.db) (action : Action ExecutionAnswer ExecutionCommand) :
    PublishLedger ((executionApp D).step action s).db := by
  cases action with
  | tick elapsed => exact h
  | command c =>
      simp only [App.step]
      split
      next db hdb => exact Ensures.of_exec (Q := PublishLedger) (h.command D c) hdb
      next => exact h
  | claim worker jobId =>
      simp only [App.step]
      split
      next => exact h.spare (spares_applyRows (fun _ => rfl) hs.table)
      next => exact h
  | start a =>
      simp only [App.step]
      split
      next worker ha =>
        unfold RuntimeState.startAttempt
        split
        · exact h
        · split
          · exact h
          · split <;> exact h
      next => exact h
  | proceed a answer =>
      simp only [App.step]
      split
      next worker context payload progress ha =>
        cases hstage : (executionApp D).handleJob context payload s.now answer progress s.world
            s.db with
        | next _ _ => exact h
        | raise _ => exact h
        | commit db =>
            have hwf := ((executionApp D).growth_handleJob hstage).wellFormed hs.table
            exact (h.spare (executionApp_commit hstage)).spare
              (spares_applyRows (fun _ => rfl) hwf)
      next => exact h
  | fault a className message =>
      simp only [App.step]
      split <;> exact h
  | recordFailure a =>
      simp only [App.step]
      split
      next worker error ha =>
        unfold RuntimeState.recordAttemptFailure
        split
        next => exact h
        next job hget =>
          exact (h.spare (spares_recordAttemptFailure D worker job error s.now s.db)).spare
            (spares_applyRows (fun _ => rfl) hs.table)
      next => exact h
  | crash a => exact h
  | schedule batchSize =>
      have hspares : Spares s.db (s.db.applyJobOp s.now .recoverExpiredLeases) :=
        spares_applyRows (fun _ => rfl) hs.table
      have hrecover := h.spare hspares
      exact hrecover.spare (spares_enqueuePendingOutbox s.now batchSize _)

section Step

variable (D : Digest) {s s' : ExecutionState M}

/-- Setting an attempt to something that is not before its call. -/
theorem Calm.of_setAttempt {a : AttemptId} {attempt : Option (Attempt TelegramProgress)}
    (hworld : s'.world = s.world) (hhistory : s.started ⊆ s'.started)
    (hattempts : s'.attempts = (s.setAttempt a attempt).attempts)
    (hattempt : ∀ worker context payload,
      attempt ≠ some ⟨worker, .running context payload .preparing⟩) : Calm s s' := by
  refine ⟨hworld, hhistory, ?_⟩
  rintro b - ⟨worker, context, payload, hb⟩
  rw [hattempts] at hb
  by_cases hba : b = a
  · subst hba
    simp only [RuntimeState.setAttempt, Function.update_self] at hb
    exact absurd hb (hattempt worker context payload)
  · refine ⟨worker, context, payload, ?_⟩
    simpa [RuntimeState.setAttempt, hba] using hb

theorem Calm.of_eq (hworld : s'.world = s.world) (hattempts : s'.attempts = s.attempts)
    (hhistory : s'.history = s.history) : Calm s s' := by
  refine ⟨hworld, ?_, ?_⟩
  · rw [RuntimeState.started, RuntimeState.started, hhistory]
    exact List.Subset.refl _
  · rintro a - ⟨worker, context, payload, ha⟩
    exact ⟨worker, context, payload, hattempts ▸ ha⟩

theorem calm_startAttempt (hs : s.WellFormed) {a : AttemptId} {worker : Worker}
    (ha : s.attempts a = some ⟨worker, .claimed⟩) :
    Calm s (s.startAttempt (executionApp D) a worker) := by
  unfold RuntimeState.startAttempt
  split
  · exact .of_setAttempt rfl (List.Subset.refl _) rfl (by simp)
  · split
    · exact .of_setAttempt rfl (List.Subset.refl _) rfl (by simp)
    · split
      · -- the attempt that enters its handler has not started before
        refine ⟨rfl, fun b hb => ?_, fun b hb => ?_⟩
        · rw [RuntimeState.started, List.filterMap_append]
          exact List.mem_append_left _ hb
        · have hne : b ≠ a := fun heq => hs.fresh a worker ha (heq ▸ hb)
          rintro ⟨worker', context, payload, hattempt⟩
          refine ⟨worker', context, payload, ?_⟩
          simpa [RuntimeState.setAttempt, hne] using hattempt
      · exact .of_setAttempt rfl (List.Subset.refl _) rfl (by simp)

/-- Every step but the call is calm. -/
theorem calm_or_call (hs : s.WellFormed) (action : Action ExecutionAnswer ExecutionCommand) :
    Calm s ((executionApp D).step action s) ∨
      ∃ a worker context payload progress answer progress' calls,
        s.attempts a = some ⟨worker, .running context payload progress⟩ ∧
        (executionApp D).handleJob context payload s.now answer progress s.world s.db =
          .next progress' calls ∧
        (executionApp D).step action s =
          s.proceedAttempt a worker context payload (.next progress' calls) := by
  cases action with
  | tick elapsed => exact .inl (.of_eq rfl rfl rfl)
  | command c =>
      simp only [App.step]
      split <;> exact .inl (.of_eq rfl rfl rfl)
  | claim worker jobId =>
      simp only [App.step]
      split
      · exact .inl (.of_setAttempt rfl (List.Subset.refl _) rfl (by simp))
      · exact .inl (.of_eq rfl rfl rfl)
  | start a =>
      simp only [App.step]
      split
      next worker ha => exact .inl (calm_startAttempt D hs ha)
      next => exact .inl (.of_eq rfl rfl rfl)
  | proceed a answer =>
      simp only [App.step]
      split
      next worker context payload progress ha =>
        cases hstage : (executionApp D).handleJob context payload s.now answer progress s.world
            s.db with
        | next progress' calls =>
            exact .inr ⟨a, worker, context, payload, progress, answer, progress', calls, ha,
              hstage, rfl⟩
        | commit db =>
            refine .inl (.of_setAttempt rfl (fun b hb => ?_) rfl (by simp))
            rw [RuntimeState.started, RuntimeState.proceedAttempt, List.filterMap_append]
            exact List.mem_append_left _ hb
        | raise error => exact .inl (.of_setAttempt rfl (List.Subset.refl _) rfl (by simp))
      next => exact .inl (.of_eq rfl rfl rfl)
  | fault a className message =>
      simp only [App.step]
      split
      · exact .inl (.of_setAttempt rfl (List.Subset.refl _) rfl (by simp))
      · exact .inl (.of_setAttempt rfl (List.Subset.refl _) rfl (by simp))
      · exact .inl (.of_eq rfl rfl rfl)
  | recordFailure a =>
      simp only [App.step]
      split
      next worker error ha =>
        unfold RuntimeState.recordAttemptFailure
        split <;> exact .inl (.of_setAttempt rfl (List.Subset.refl _) rfl (by simp))
      next => exact .inl (.of_eq rfl rfl rfl)
  | crash a => exact .inl (.of_setAttempt rfl (List.Subset.refl _) rfl (by simp))
  | schedule batchSize => exact .inl (.of_eq rfl rfl rfl)

/-- Under the budget, an attempt of a publish job is the first. -/
theorem PublishLedger.number_eq_one (h : PublishLedger s.db) (hs : s.WellFormed)
    (hbounded : s.db.AttemptsBounded (fun type => type = .executionTelegramPublish))
    {a : AttemptId} (ha : s.attempts a ≠ none) {job : Job} (hjob : job ∈ s.db.jobs)
    (hid : job.id = a.jobId) (htype : job.jobType = .executionTelegramPublish) :
    a = ⟨a.jobId, 1⟩ := by
  obtain ⟨job', hjob', hid', hpos, hle⟩ := hs.live a ha
  have hsame : job' = job := hs.table.ids.eq_of_key_eq hjob' hjob (hid'.trans hid.symm)
  subst hsame
  have hbudget := (hbounded job' hjob (by simp [htype])).le
  have hmax := (h.jobs job' hjob htype).1
  have hnumber : a.number = 1 := by omega
  rw [← hnumber]

/-- The call of the provider. -/
theorem PublishedOnce.call (hs : s.WellFormed)
    (hbounded : s.db.AttemptsBounded (fun type => type = .executionTelegramPublish))
    (h : PublishedOnce s) {a : AttemptId} {worker : Worker} {context : RuntimeJobContext}
    {payload : JobPayload} {progress progress' : TelegramProgress} {calls : List PublishCall}
    {answer : ExecutionAnswer}
    (ha : s.attempts a = some ⟨worker, .running context payload progress⟩)
    (hstage : (executionApp D).handleJob context payload s.now answer progress s.world s.db =
      .next progress' calls) :
    PublishedOnce (s.proceedAttempt a worker context payload (.next progress' calls)) := by
  obtain ⟨htype, rfl, request, actionId, hpayload, rfl, rfl⟩ := executionApp_next hstage
  obtain ⟨⟨job, hjob, hid, hcontext, -, hjobType, hjobPayload⟩, hentered⟩ :=
    hs.serves a worker context payload .preparing ha
  have hpublish : job.jobType = .executionTelegramPublish := hjobType.symm.trans htype
  have hfirst := h.ledger.number_eq_one hs hbounded (by simp [ha]) hjob hid hpublish
  have hjobId : context.jobId = a.jobId := hcontext.trans hid
  have hpreparing : s.Preparing ⟨a.jobId, 1⟩ := hfirst ▸ ⟨worker, context, payload, ha⟩
  have hcalm : Calm s (s.setAttempt a (some ⟨worker, .running context payload
      (.called request)⟩)) := .of_setAttempt rfl (List.Subset.refl _) rfl (by simp)
  refine ⟨h.ledger, ?_, fun call hcall => ?_⟩
  · -- a job that is before its call has not called yet
    simp only [RuntimeState.proceedAttempt, List.map_append, List.map_cons, List.map_nil]
    refine h.jobs_nodup.append (List.nodup_singleton _) ?_
    rw [List.disjoint_singleton, hjobId]
    intro hmem
    obtain ⟨call, hcall, heq⟩ := List.mem_map.mp hmem
    exact (h.calls call hcall).past (heq ▸ hpreparing)
  · simp only [RuntimeState.proceedAttempt, List.mem_append, List.mem_singleton] at hcall
    rcases hcall with hcall | rfl
    · obtain ⟨hjob, hstarted, hpast⟩ := h.calls call hcall
      exact ⟨hjob, hstarted, fun hback => hpast (hcalm.preparing _ hstarted hback)⟩
    · refine ⟨⟨job, hjob, hcontext.symm, hpublish, actionId, hjobPayload.symm.trans hpayload⟩,
        ?_, ?_⟩
      · rw [hjobId, ← hfirst]
        exact hentered
      · rw [hjobId, ← hfirst]
        rintro ⟨worker', context', payload', hb⟩
        simp [RuntimeState.proceedAttempt, RuntimeState.setAttempt] at hb

/-- Every step within the budget keeps the invariant. -/
theorem publishedOnce_step (hs : s.WellFormed)
    (hbounded : s.db.AttemptsBounded (fun type => type = .executionTelegramPublish))
    (h : PublishedOnce s) (action : Action ExecutionAnswer ExecutionCommand) :
    PublishedOnce ((executionApp D).step action s) := by
  rcases calm_or_call D hs action with hcalm |
    ⟨a, worker, context, payload, progress, answer, progress', calls, ha, hstage, heq⟩
  · exact h.calm hcalm (publishLedger_step D hs h.ledger action)
      ((executionApp D).wellFormed_step action hs.table).2
  · rw [heq]
    exact h.call D hs hbounded ha hstage

end Step

/-- How often the provider was called for an execution. -/
def RuntimeState.publishCount (s : ExecutionState M) (executionId : Id) : ℕ :=
  (s.world.filter fun call => call.executionId = executionId).length

theorem PublishedOnce.publishCount_le {s : ExecutionState M} (h : PublishedOnce s)
    (hwf : s.db.toJobTable.WellFormed) (executionId : Id) : s.publishCount executionId ≤ 1 := by
  let calls := s.world.filter fun call => call.executionId = executionId
  have hmem : ∀ call ∈ calls, call ∈ s.world ∧ call.executionId = executionId := by
    intro call hcall
    simpa [calls] using hcall
  have hnodup : (calls.map PublishCall.jobId).Nodup :=
    h.jobs_nodup.sublist (List.filter_sublist.map _)
  have hsame : ∀ call ∈ calls, ∀ call' ∈ calls, call = call' := by
    intro call hcall call' hcall'
    obtain ⟨hworld, hid⟩ := hmem call hcall
    obtain ⟨hworld', hid'⟩ := hmem call' hcall'
    exact List.inj_on_of_nodup_map hnodup hcall hcall'
      (h.call_unique hwf hworld hworld' (hid.trans hid'.symm))
  have hcalls : calls.Nodup := hnodup.of_map _
  change calls.length ≤ 1
  rcases hcases : calls with _ | ⟨first, _ | ⟨second, rest⟩⟩
  · simp
  · simp
  · rw [hcases] at hcalls hsame
    have heq : first = second := hsame first (by simp) second (by simp)
    simp [heq] at hcalls

/-- A state with nothing of the runtime in it, no call, no action and no execution. -/
structure RuntimeState.ExecutionInitial (s : ExecutionState M) : Prop
    extends RuntimeState.Initial s where
  world : s.world = []
  actions : s.db.tables.domain.actions = []
  executions : s.db.tables.domain.executions = []

theorem RuntimeState.ExecutionInitial.publishedOnce {s : ExecutionState M}
    (h : s.ExecutionInitial) : PublishedOnce s := by
  refine ⟨⟨?_, ?_, ?_, ?_, ?_, ?_⟩, ?_, ?_⟩ <;>
    simp [h.world, h.actions, h.executions, h.jobs, Table.keysNodup_nil]

/-- As long as no claim takes over a publish job with no attempts left, the provider is called at
most once for each execution, whatever the workers, the scheduler, the clock and the rest of the
application do. -/
theorem publish_at_most_once (D : Digest) {s : ExecutionState M} (hs : s.ExecutionInitial)
    {actions : List (Action ExecutionAnswer ExecutionCommand)}
    (hactions : Guarded (executionApp D).step
      (Action.WithinBudget fun type => type = .executionTelegramPublish) s actions) :
    ∀ executionId, (run (executionApp D).step s actions).publishCount executionId ≤ 1 := by
  have hempty : s.db.AttemptsBounded (fun type => type = .executionTelegramPublish) := by
    simp [JobTable.AttemptsBounded, hs.jobs]
  have hinv : (run (executionApp D).step s actions).WellFormed ∧
      (run (executionApp D).step s actions).db.AttemptsBounded
        (fun type => type = .executionTelegramPublish) ∧
      PublishedOnce (run (executionApp D).step s actions) := by
    refine invariant_run (I := fun s => s.WellFormed ∧
      s.db.AttemptsBounded (fun type => type = .executionTelegramPublish) ∧ PublishedOnce s) ?_
      ⟨hs.wellFormed, hempty, hs.publishedOnce⟩ hactions
    rintro s action ⟨hwf, hbounded, h⟩ haction
    exact ⟨hwf.step _ action, (executionApp D).attemptsBounded_step hwf.table hbounded haction,
      publishedOnce_step D hwf hbounded h action⟩
  intro executionId
  exact hinv.2.2.publishCount_le hinv.1.table executionId

/-! ### A run that publishes twice, and one that does not -/

/-- Before anything has happened. -/
def executionStart : ExecutionState Unit where
  now := 0
  db := { tables := { domain := {} } }
  world := []
  attempts _ := none
  history := []

theorem executionStart_initial : executionStart.ExecutionInitial where
  jobs := rfl
  outboxEvents := rfl
  attempts _ := rfl
  history := rfl
  world := rfl
  actions := rfl
  executions := rfl

/-- A digest that keeps what it digests. -/
def plainDigest : Digest where
  payloadHash payload := payload.text.getD ""
  actionIdempotencyKey workflowId versionId accountId chatId hash :=
    toString workflowId ++ toString versionId ++ toString accountId ++ chatId ++ hash

/-- The tenant of the runs below. -/
def demoScope : TenantScope := ⟨"organization", "business"⟩

/-- A business with an owner, a Telegram channel and a finished post. -/
def finishedPost : ExecutionContext where
  channels := [{ id := 100, scope := demoScope, provider := "telegram" }]
  businessMemberships := [{ scope := demoScope, userId := "owner", role := "owner" }]
  productionWorkflows := [{
    id := 101, scope := demoScope, decisionId := 102, decisionVersion := 1
    decisionApprovalId := 103, snapshotId := 100, status := .readyForActionProposal,
    maxRevisionRounds := 1
    assetId := some 104, finalAssetVersionId := some 105 }]
  assetVersions := [{
    id := 105, scope := demoScope, assetId := 104, versionNumber := 1, body := "A post."
    claimInventory := [], createdByAgentRunId := 106 }]
  publicationRights := [{ assetVersionId := 105 }]

/-- The post is proposed, approved, and delivered to a worker that calls the provider. -/
def publishedPost : List (Action ExecutionAnswer ExecutionCommand) :=
  [.command (.foreign { context := fun _ => finishedPost }),
    .command (.probeAndRegisterTelegramConnector demoScope 100 "@channel" ⟨true, true, true⟩),
    .command (.createActionProposal demoScope 101 0),
    .command (.approveActionProposal demoScope 1 "owner"),
    .claim applicationWorker 12, .start ⟨12, 1⟩, .proceed ⟨12, 1⟩ {}]

/-- The worker dies, its lease of 60 seconds expires, and a second delivery of the job is claimed
before the scheduler has run. -/
def publishedTwice : List (Action ExecutionAnswer ExecutionCommand) :=
  publishedPost ++
    [.crash ⟨12, 1⟩, .tick 60000000, .claim applicationWorker 12, .start ⟨12, 2⟩,
      .proceed ⟨12, 2⟩ {}]

theorem exhausted_claim_publishes_twice :
    ∃ execution ∈ (run (executionApp plainDigest).step executionStart
        publishedTwice).db.tables.domain.executions,
      1 < (run (executionApp plainDigest).step executionStart publishedTwice).publishCount
        execution.id := by
  decide

/-- The same with a run of the scheduler before the second delivery. -/
def publishedAndRecovered : List (Action ExecutionAnswer ExecutionCommand) :=
  publishedPost ++
    [.crash ⟨12, 1⟩, .tick 60000000, .schedule 100, .claim applicationWorker 12, .start ⟨12, 2⟩,
      .proceed ⟨12, 2⟩ {}]

theorem recovered_job_publishes_once :
    (run (executionApp plainDigest).step executionStart publishedAndRecovered).publishCount 11 ≤ 1 :=
  publish_at_most_once plainDigest executionStart_initial (by decide) 11

end LaunchOS
