import LaunchOS.Application.DecisionAdvance

/-!
# Wake-ups of the decision workflow

A decision workflow whose runs are not ready leaves a job behind that is to look again, under a key
that counts the runs of its stage. When nothing has been created since the last look, the key is in
use: if it is that of the very job that is looking, the workflow is left without a job.

The module introduces:

* `DecisionWorkflow.isAdvanceJob`, `DecisionKeyed`, `DecisionLive`: the invariant;
* `DecisionWorkflow.SafePoll`, `Action.SparesWakeUps`: the steps that lose no wake-up;
* `decisionLive_step`: such a step keeps the invariant;
* `decision_wakeUp_not_lost`: the invariant over runs of such steps;
* a run in which the wake-up is lost.
-/

namespace LaunchOS

open Txn Transition DecisionWorkflow

variable {M : Type}

/-! ## The invariant -/

/-- A `workflow.advance` job of the workflow. -/
def DecisionWorkflow.isAdvanceJob (w : DecisionWorkflow) (job : Job) : Bool :=
  job.scope = w.scope && job.jobType = .workflowAdvance && job.payload = .decisionAdvance w.id

/-- Some advance job of the workflow has not succeeded; `P` says more about it. -/
def DecisionWorkflow.Awake (w : DecisionWorkflow) (db : AgentDatabase M DecisionTables)
    (P : Job → Prop) : Prop :=
  ∃ job ∈ db.jobs, w.isAdvanceJob job ∧ job.status ≠ .succeeded ∧ P job

/-- Every advance job belongs to a suffix that its workflow has reached. -/
structure DecisionKeyed (db : AgentDatabase M DecisionTables) : Prop where
  ids : Table.KeysNodup DecisionWorkflow.id db.tables.domain.decisionWorkflows
  id_lt : ∀ w ∈ db.tables.domain.decisionWorkflows, w.id < db.nextId
  runs : RunsKeyed db.tables.agentRuns
  keys : ∀ job ∈ db.jobs, ∀ id suffix, job.idempotencyKey = .decisionWorkflow id suffix →
    id < db.nextId ∧ ∀ w ∈ db.tables.domain.decisionWorkflows, w.id = id → w.Reached db suffix

/-- The invariant: moreover every workflow that waits for runs has an advance job that has not
succeeded. -/
structure DecisionLive (db : AgentDatabase M DecisionTables) : Prop
    extends DecisionKeyed db where
  live : ∀ w ∈ db.tables.domain.decisionWorkflows, w.running → w.Awake db fun _ => True

variable {db db' : AgentDatabase M DecisionTables} {now : Time}

/-- Workflows, versions of candidates and advance jobs are left alone, and no run of a workflow is
lost. -/
structure Undisturbed (db db' : AgentDatabase M DecisionTables) : Prop where
  nextId : db.nextId ≤ db'.nextId
  subset : ∀ job ∈ db.jobs, job ∈ db'.jobs
  back : ∀ job ∈ db'.jobs, job.idempotencyKey.isDecision → job ∈ db.jobs
  domain : SameVersions db.tables.domain db'.tables.domain
  runs : ∀ scope refs, (∀ ref ∈ refs, ref.isDecision) →
    countRuns scope refs db.tables.agentRuns ≤ countRuns scope refs db'.tables.agentRuns
  keyed : RunsKeyed db.tables.agentRuns → RunsKeyed db'.tables.agentRuns

namespace Undisturbed

theorem of_quiet (h : DecisionWorkflow.Quiet db db') : Undisturbed db db' where
  nextId := h.nextId
  subset := h.subset
  back := h.back
  domain := h.domain
  runs scope refs hrefs := by
    rw [← countRuns_filter_owned scope hrefs db.tables.agentRuns,
      ← countRuns_filter_owned scope hrefs db'.tables.agentRuns]
    exact (congrArg (countRuns scope refs) h.runs).ge
  keyed hkeyed := hkeyed.of_ownRuns h.runs

/-- Changing a run without its identity. -/
theorem updateRun (db : AgentDatabase M DecisionTables) (runId : Id)
    {f : AgentRun M → AgentRun M} (hf : ∀ run : AgentRun M, run.SameIdentity (f run)) :
    Undisturbed db { db with tables := db.tables.updateRun runId f } := by
  have hrow : ∀ run : AgentRun M, run.SameIdentity (if run.id = runId then f run else run) := by
    intro run
    split
    · exact hf run
    · constructor <;> rfl
  refine ⟨le_rfl, fun _ h => h, fun _ h _ => h, refl _, fun scope refs _ => ?_, fun h => ?_⟩
  · exact (countRuns_map scope refs hrow db.tables.agentRuns).ge
  · exact h.map hrow

/-- Every suffix stays reached. -/
theorem reached (h : Undisturbed db db') {w : DecisionWorkflow} {suffix : DecisionAdvance}
    (hreached : w.Reached db suffix) : w.Reached db' suffix :=
  hreached.mono rfl rfl (latestCandidateVersion_congr (h.domain.2 w.id)).ge h.runs
    (fun hstart => hstart) .inl

end Undisturbed

/-- What leaves workflows, versions, advance jobs and runs alone keeps the invariant. -/
theorem DecisionLive.undisturbed (h : DecisionLive db) (hsame : Undisturbed db db') :
    DecisionLive db' := by
  refine ⟨⟨?_, ?_, hsame.keyed h.runs, ?_⟩, ?_⟩
  · rw [hsame.domain.1]
    exact h.ids
  · rw [hsame.domain.1]
    exact fun w hw => (h.id_lt w hw).trans_le hsame.nextId
  · intro job hjob id suffix hkey
    have hold : job ∈ db.jobs := hsame.back job hjob (by rw [hkey]; rfl)
    obtain ⟨hlt, hreached⟩ := h.keys job hold id suffix hkey
    refine ⟨hlt.trans_le hsame.nextId, ?_⟩
    rw [hsame.domain.1]
    exact fun w hw hid => hsame.reached (hreached w hw hid)
  · rw [hsame.domain.1]
    intro w hw hrunning
    obtain ⟨job, hjob, hrest⟩ := h.live w hw hrunning
    exact ⟨job, hsame.subset job hjob, hrest⟩

/-- An operation on the rows of the jobs keeps the invariant if it leaves every workflow that waits
a job that has not succeeded. -/
theorem DecisionKeyed.rows (h : DecisionKeyed db) (hwf : db.toJobTable.WellFormed) (op : JobOp)
    (hop : ∀ args, op ≠ .createJob args)
    (hlive : ∀ w ∈ db.tables.domain.decisionWorkflows, w.running →
      w.Awake db fun job => (op.row now job).status ≠ .succeeded) :
    DecisionLive (db.applyJobOp now op) := by
  have hnext : db.nextId ≤ (db.applyJobOp now op).nextId := db.toJobTable.nextId_le_apply now op
  refine ⟨⟨h.ids, fun w hw => (h.id_lt w hw).trans_le hnext, h.runs, ?_⟩, ?_⟩
  · intro job' hjob' id suffix hkey
    rcases (JobTable.mem_apply_iff hwf.ids).mp hjob' with ⟨job, hjob, rfl⟩ | hnew
    · have hsame : job.SameIdentity (op.row now job) := op.sameIdentity_row
      obtain ⟨hlt, hreached⟩ := h.keys job hjob id suffix (hsame.idempotencyKey.symm.trans hkey)
      exact ⟨hlt.trans_le hnext, hreached⟩
    · obtain ⟨args, heq, -⟩ := JobOp.mem_inserted_iff.mp hnew
      exact absurd heq (hop args)
  · intro w hw hrunning
    obtain ⟨job, hjob, hadvance, -, hstatus⟩ := hlive w hw hrunning
    have hsame : job.SameIdentity (op.row now job) := op.sameIdentity_row
    refine ⟨op.row now job, JobTable.row_mem_apply hwf.ids now op hjob, ?_, hstatus, trivial⟩
    rw [isAdvanceJob, hsame.scope, hsame.jobType, hsame.payload]
    exact hadvance

/-- Only `mark_job_succeeded` makes a job succeed. -/
theorem DecisionLive.rows (h : DecisionLive db) (hwf : db.toJobTable.WellFormed) (op : JobOp)
    (hop : ∀ args, op ≠ .createJob args)
    (hrow : ∀ job : Job, job.status ≠ .succeeded → (op.row now job).status ≠ .succeeded) :
    DecisionLive (db.applyJobOp now op) := by
  refine h.toDecisionKeyed.rows hwf op hop fun w hw hrunning => ?_
  obtain ⟨job, hjob, hadvance, hstatus, -⟩ := h.live w hw hrunning
  exact ⟨job, hjob, hadvance, hstatus, hrow job hstatus⟩

/-- Asking for an advance job with a suffix that its workflow has reached keeps the keys in order. -/
theorem DecisionKeyed.enqueueAdvance (h : DecisionKeyed db) (now : Time) {w : DecisionWorkflow}
    (hw : w ∈ db.tables.domain.decisionWorkflows) {suffix : DecisionAdvance}
    (hreached : w.Reached db suffix) :
    DecisionKeyed (db.applyJobOp now (.createJob (advanceJob w suffix))) ∧
      ∀ (w' : DecisionWorkflow) P, w'.Awake db P →
        w'.Awake (db.applyJobOp now (.createJob (advanceJob w suffix))) P := by
  have hnext : db.nextId ≤ (db.applyJobOp now (.createJob (advanceJob w suffix))).nextId :=
    db.toJobTable.nextId_le_apply now _
  have hjobs : (db.applyJobOp now (.createJob (advanceJob w suffix))).jobs =
      db.jobs ++ (JobOp.createJob (advanceJob w suffix)).inserted now db.toJobTable :=
    congrArg JobTable.jobs (JobTable.apply_createJob db.toJobTable now _)
  refine ⟨⟨h.ids, fun w hw => (h.id_lt w hw).trans_le hnext, h.runs, ?_⟩, ?_⟩
  · intro job hjob id suffix' hkey
    rw [hjobs, List.mem_append] at hjob
    rcases hjob with hjob | hnew
    · obtain ⟨hlt, hold⟩ := h.keys job hjob id suffix' hkey
      exact ⟨hlt.trans_le hnext, hold⟩
    · obtain ⟨args, heq, -, -, rfl⟩ := JobOp.mem_inserted_iff.mp hnew
      cases heq
      obtain ⟨rfl, rfl⟩ := JobKey.decisionWorkflow.inj hkey
      refine ⟨(h.id_lt w hw).trans_le hnext, fun w' hw' hid => ?_⟩
      rw [h.ids.eq_of_key_eq hw' hw hid]
      exact hreached
  · rintro w' P ⟨job, hjob, hrest⟩
    refine ⟨job, ?_, hrest⟩
    rw [hjobs]
    exact List.mem_append_left _ hjob

/-- If the suffix is a new one, the job is there and younger than all others. -/
theorem awake_enqueueAdvance (db : AgentDatabase M DecisionTables) (now : Time)
    (w : DecisionWorkflow) {suffix : DecisionAdvance}
    (hfresh : ∀ job ∈ db.jobs, job.uniqueKey ≠ w.advanceKey suffix) :
    w.Awake (db.applyJobOp now (.createJob (advanceJob w suffix)))
      fun job => job.id = db.nextId := by
  have hinserted : (JobOp.createJob (advanceJob w suffix)).inserted now db.toJobTable =
      [(advanceJob w suffix).row db.nextId now] := by
    have hnone : Table.find Job.uniqueKey (advanceJob w suffix).uniqueKey db.jobs = none :=
      Table.find_eq_none_iff.mpr hfresh
    have hcheck : (advanceJob w suffix).check.isOk := rfl
    simp only [JobOp.inserted, hnone, hcheck, and_self, if_true]
  have hjobs : (db.applyJobOp now (.createJob (advanceJob w suffix))).jobs =
      db.jobs ++ [(advanceJob w suffix).row db.nextId now] := by
    rw [← hinserted]
    exact congrArg JobTable.jobs (JobTable.apply_createJob db.toJobTable now _)
  refine ⟨(advanceJob w suffix).row db.nextId now, ?_, ?_, ?_, rfl⟩
  · rw [hjobs]
    exact List.mem_append_right _ (List.mem_singleton_self _)
  · simp [isAdvanceJob, advanceJob, CreateJob.row]
  · simp [CreateJob.row]

/-- The database with the row of the workflow written. -/
def DecisionWorkflow.written (w : DecisionWorkflow) (db : AgentDatabase M DecisionTables) :
    AgentDatabase M DecisionTables :=
  { db with tables := { db.tables with domain := { db.tables.domain with
      decisionWorkflows :=
        Table.modify DecisionWorkflow.id w.id (fun _ => w) db.tables.domain.decisionWorkflows } } }

/-- Writing the row that an advance has ended with keeps the keys in order, and leaves the other
workflows their jobs. -/
theorem DecisionLive.moved (h : DecisionLive db) {w w' : DecisionWorkflow}
    (hw : w ∈ db.tables.domain.decisionWorkflows) (hmoved : Moved w w' db db')
    (hreached : ∀ suffix, w.Reached db suffix → w'.Reached db' suffix) :
    DecisionKeyed (w'.written db') ∧
      (∀ w₂ ∈ (w'.written db').tables.domain.decisionWorkflows, w₂ = w' ∨
        w₂ ∈ db.tables.domain.decisionWorkflows ∧ w₂.id ≠ w.id) ∧
      ∀ w₂ ∈ db.tables.domain.decisionWorkflows, w₂.running →
        w₂.Awake (w'.written db') fun job => job ∈ db.jobs := by
  have hcases : ∀ w₂ ∈ (w'.written db').tables.domain.decisionWorkflows, w₂ = w' ∨
      w₂ ∈ db.tables.domain.decisionWorkflows ∧ w₂.id ≠ w.id := by
    intro w₂ hw₂
    rcases Table.mem_modify_cases hw₂ with ⟨-, -, -, rfl⟩ | ⟨hmem, hne⟩
    · exact .inl rfl
    · rw [hmoved.workflows] at hmem
      exact .inr ⟨hmem, hmoved.id ▸ hne⟩
  refine ⟨⟨?_, ?_, hmoved.keyed, ?_⟩, hcases, ?_⟩
  · change Table.KeysNodup _ (Table.modify _ _ _ db'.tables.domain.decisionWorkflows)
    rw [hmoved.workflows]
    exact h.ids.modify fun _ _ _ => rfl
  · intro w₂ hw₂
    rcases hcases w₂ hw₂ with rfl | ⟨hmem, -⟩
    · rw [hmoved.id]
      exact (h.id_lt w hw).trans_le hmoved.nextId
    · exact (h.id_lt w₂ hmem).trans_le hmoved.nextId
  · intro job hjob id suffix hkey
    have hold : job ∈ db.jobs := hmoved.back job hjob (by rw [hkey]; rfl)
    obtain ⟨hlt, hsuffix⟩ := h.keys job hold id suffix hkey
    refine ⟨hlt.trans_le hmoved.nextId, fun w₂ hw₂ hid => ?_⟩
    rcases hcases w₂ hw₂ with rfl | ⟨hmem, hne⟩
    · exact hreached suffix (hsuffix w hw (hmoved.id.symm.trans hid))
    · -- the versions of another workflow have not changed
      exact (hsuffix w₂ hmem hid).mono rfl rfl
        (latestCandidateVersion_congr (hmoved.others w₂.id hne)).ge hmoved.runs
        (fun hstart => hstart) .inl
  · intro w₂ hw₂ hrunning
    obtain ⟨job, hjob, hadvance, hstatus, -⟩ := h.live w₂ hw₂ hrunning
    exact ⟨job, hmoved.subset job hjob, hadvance, hstatus, hjob⟩

/-! ## Polling -/

/-- A job that looks at the workflow may succeed: the wake-up it asks for is a new one, or another
advance job of the workflow has not succeeded. -/
def DecisionWorkflow.SafePoll (w : DecisionWorkflow) (db : AgentDatabase M DecisionTables)
    (jobId : Id) : Prop :=
  (∀ job ∈ db.jobs, some job.uniqueKey ≠ (w.wakeUp db).map w.advanceKey) ∨
    ∃ job ∈ db.jobs, job.id ≠ jobId ∧ w.isAdvanceJob job ∧ job.status ≠ .succeeded

instance (w : DecisionWorkflow) (db : AgentDatabase M DecisionTables) (jobId : Id) :
    Decidable (w.SafePoll db jobId) := by
  unfold DecisionWorkflow.SafePoll
  infer_instance

/-- The wake-up counts the runs that are there. -/
theorem DecisionWorkflow.reached_wakeUp {w : DecisionWorkflow} {suffix : DecisionAdvance}
    (h : w.wakeUp db = some suffix) : w.Reached db suffix := by
  unfold wakeUp at h
  dsimp only at h
  split at h
  next => cases h; exact le_rfl
  next => cases h; exact le_rfl
  next => cases h; exact le_rfl
  next => cases h

/-- A handler that has advanced a workflow leaves the invariant, with a job other than its own. -/
theorem DecisionLive.advanced (h : DecisionLive db) {R : RunReader M} {w w' : DecisionWorkflow}
    (hw : w ∈ db.tables.domain.decisionWorkflows) {jobId : Id} (hjobId : jobId < db.nextId)
    (hsafe : w.polls R db → w.SafePoll db jobId) (hadvanced : Advanced R now w db w' db') :
    DecisionKeyed (w'.written db') ∧
      ∀ w₂ ∈ (w'.written db').tables.domain.decisionWorkflows, w₂.running →
        w₂.Awake (w'.written db') fun job => w₂.id = w.id → job.id ≠ jobId := by
  cases hadvanced with
  | ended hmoved hreached hended =>
      obtain ⟨hkeyed, hcases, hlive⟩ := h.moved hw hmoved hreached
      refine ⟨hkeyed, fun w₂ hw₂ hrunning => ?_⟩
      rcases hcases w₂ hw₂ with rfl | ⟨hmem, hne⟩
      · rw [hended] at hrunning
        cases hrunning
      · obtain ⟨job, hjob, hadvance, hstatus, -⟩ := hlive w₂ hmem hrunning
        exact ⟨job, hjob, hadvance, hstatus, fun hid => absurd hid hne⟩
  | @waits w' db₁ suffix hmoved hreached hsuffix hfresh =>
      obtain ⟨hkeyed, hcases, hlive⟩ := h.moved hw hmoved hreached
      have hjob : advanceJob w suffix = advanceJob w' suffix := by
        rw [advanceJob, advanceJob, hmoved.id, hmoved.scope]
      have hmem' : w' ∈ (w'.written db₁).tables.domain.decisionWorkflows := by
        change w' ∈ Table.modify _ _ _ db₁.tables.domain.decisionWorkflows
        rw [hmoved.workflows]
        exact Table.mem_modify_of_eq (f := fun _ => w') hw hmoved.id.symm
      have hunused : ∀ job ∈ (w'.written db₁).jobs, job.uniqueKey ≠ w'.advanceKey suffix := by
        intro job hjob' hkey
        have hidem : job.idempotencyKey = .decisionWorkflow w'.id suffix :=
          congrArg (fun key => key.2.2) hkey
        have hold : job ∈ db.jobs := hmoved.back job hjob' (by rw [hidem]; rfl)
        exact hfresh ((h.keys job hold _ suffix hidem).2 w hw hmoved.id.symm)
      have hsuffix' : w'.Reached (w'.written db₁) suffix :=
        hsuffix.mono rfl rfl le_rfl (fun _ _ _ => le_rfl) (fun hstart => hstart) .inl
      obtain ⟨hkeyed', hold⟩ := hkeyed.enqueueAdvance now hmem' hsuffix'
      have hnew := awake_enqueueAdvance (w'.written db₁) now w' hunused
      rw [hjob]
      refine ⟨hkeyed', fun w₂ hw₂ hrunning => ?_⟩
      rcases hcases w₂ hw₂ with rfl | ⟨hmem, hne⟩
      · obtain ⟨job, hjob', hadvance, hstatus, hid⟩ := hnew
        refine ⟨job, hjob', hadvance, hstatus, fun _ => ?_⟩
        rw [hid]
        exact (hjobId.trans_le hmoved.nextId).ne'
      · obtain ⟨job, hjob', hadvance, hstatus, -⟩ := hold w₂ _ (hlive w₂ hmem hrunning)
        exact ⟨job, hjob', hadvance, hstatus, fun hid => absurd hid hne⟩
  | polls suffix hpolls hwakeUp =>
      have hmoved : Moved w w db db := .refl w h.runs
      obtain ⟨hkeyed, hcases, hlive⟩ := h.moved hw hmoved fun _ hreached => hreached
      have hmem' : w ∈ (w.written db).tables.domain.decisionWorkflows :=
        Table.mem_modify_of_eq (f := fun _ => w) hw rfl
      have hsuffix : w.Reached (w.written db) suffix :=
        (reached_wakeUp hwakeUp).mono rfl rfl le_rfl (fun _ _ _ => le_rfl)
          (fun hstart => hstart) .inl
      obtain ⟨hkeyed', hold⟩ := hkeyed.enqueueAdvance now hmem' hsuffix
      refine ⟨hkeyed', fun w₂ hw₂ hrunning => ?_⟩
      rcases hcases w₂ hw₂ with rfl | ⟨hmem, hne⟩
      · rcases hsafe hpolls with hunused | ⟨job, hjob, hid, hadvance, hstatus⟩
        · have hfresh : ∀ job ∈ (w₂.written db).jobs, job.uniqueKey ≠ w₂.advanceKey suffix := by
            intro job hjob hkey
            refine hunused job hjob ?_
            rw [hwakeUp, hkey]
            rfl
          obtain ⟨job, hjob, hadvance, hstatus, hid⟩ :=
            awake_enqueueAdvance (w₂.written db) now w₂ hfresh
          refine ⟨job, hjob, hadvance, hstatus, fun _ => ?_⟩
          rw [hid]
          exact hjobId.ne'
        · exact hold w₂ _ ⟨job, hjob, hadvance, hstatus, fun _ => hid⟩
      · obtain ⟨job, hjob', hadvance, hstatus, -⟩ := hold w₂ _ (hlive w₂ hmem hrunning)
        exact ⟨job, hjob', hadvance, hstatus, fun hid => absurd hid hne⟩

/-! ## Handlers and commands -/

section Handlers

variable {R : RunReader M} {answer : DecisionAnswer}

theorem decisionWorkflowAdvanceHandler_spec (h : DecisionLive db) (context : RuntimeJobContext)
    {workflowId jobId : Id} (hjobId : jobId < db.nextId)
    (hsafe : ∀ w ∈ db.tables.domain.decisionWorkflows, w.id = workflowId →
      w.polls R db → w.SafePoll db jobId) :
    Ensures (decisionWorkflowAdvanceHandler R now answer context workflowId)
      (fun _ db' => DecisionKeyed db' ∧
        ∀ w ∈ db'.tables.domain.decisionWorkflows, w.running →
          w.Awake db' fun job => w.id = workflowId → job.id ≠ jobId) db := by
  rw [decisionWorkflowAdvanceHandler, ensures_bind, ensures_tables, ensures_bind, ensures_check]
  intro w hfound
  have hfind := orRaise_eq_ok_iff.mp hfound
  have hw : w ∈ db.tables.domain.decisionWorkflows := Table.mem_of_find hfind
  have hid : w.id = workflowId := Table.key_of_find hfind
  rw [ensures_bind, ensures_check]
  intro _ _
  rw [ensures_bind]
  refine (advanceWorkflow_spec h.runs).mono fun w' db' hadvanced => ?_
  have hdone := h.advanced hw hjobId (hsafe w hw hid) hadvanced
  rw [hid] at hdone
  rw [ensures_bind, DecisionWorkflow.putWorkflow, ensures_modifyTables, ensures_ite, ensures_check, ensures_pure]
  exact ⟨fun _ _ _ => hdone, fun _ => hdone⟩

/-- The work of the rest of the application keeps the invariant. -/
theorem DecisionLive.performForeign (h : DecisionLive db) (works : List ForeignWork) :
    Ensures (DecisionWorkflow.performForeign now works) (fun _ db' => DecisionLive db') db := by
  have hquiet : Within DecisionWorkflow.Quiet
      (DecisionWorkflow.performForeign (M := M) now works) :=
    within_foldlM (fun _ work => keepsWithin_perform now (fun _ => rfl) work) ()
  exact (hquiet db).mono fun _ db' hdb' => h.undisturbed (.of_quiet hdb')

/-- The database with a new workflow, whose id has just been taken. -/
def DecisionWorkflow.inserted (w : DecisionWorkflow) (db : AgentDatabase M DecisionTables) :
    AgentDatabase M DecisionTables :=
  { db.applyJobOp 0 .newId with
    tables := { db.tables with domain := { db.tables.domain with
      decisionWorkflows := db.tables.domain.decisionWorkflows ++ [w] } } }

/-- A new workflow does not wait for runs yet. -/
theorem DecisionLive.inserted (h : DecisionLive db) {w : DecisionWorkflow}
    (hid : w.id = db.nextId) (hstatus : w.status = .snapshotReady) :
    DecisionLive (w.inserted db) := by
  have hmem : ∀ w₂ ∈ (w.inserted db).tables.domain.decisionWorkflows,
      w₂ ∈ db.tables.domain.decisionWorkflows ∨ w₂ = w := by
    intro w₂ hw₂
    simpa using List.mem_append.mp hw₂
  refine ⟨⟨?_, ?_, h.runs, ?_⟩, ?_⟩
  · refine h.ids.append (Table.keysNodup_singleton w) ?_
    simp only [List.mem_singleton, forall_eq, hid]
    exact fun w₂ hw₂ => (h.id_lt w₂ hw₂).ne
  · intro w₂ hw₂
    rcases hmem w₂ hw₂ with hold | rfl
    · exact (h.id_lt w₂ hold).trans (Nat.lt_succ_self _)
    · rw [hid]
      exact Nat.lt_succ_self _
  · intro job hjob id suffix hkey
    obtain ⟨hlt, hreached⟩ := h.keys job hjob id suffix hkey
    refine ⟨hlt.trans (Nat.lt_succ_self _), fun w₂ hw₂ hid₂ => ?_⟩
    rcases hmem w₂ hw₂ with hold | rfl
    · exact (hreached w₂ hold hid₂).mono rfl rfl le_rfl (fun _ _ _ => le_rfl)
        (fun hstart => hstart) .inl
    · exact absurd (hid₂.symm.trans hid) hlt.ne
  · intro w₂ hw₂ hrunning
    rcases hmem w₂ hw₂ with hold | rfl
    · exact h.live w₂ hold hrunning
    · simp [running, hstatus] at hrunning

/-- Asking for an advance job from outside, as starting a workflow does. -/
theorem DecisionLive.enqueueAdvance (h : DecisionLive db) (now : Time) {w : DecisionWorkflow}
    (hw : w ∈ db.tables.domain.decisionWorkflows) {suffix : DecisionAdvance}
    (hreached : w.Reached db suffix) :
    DecisionLive (db.applyJobOp now (.createJob (advanceJob w suffix))) := by
  obtain ⟨hkeyed, hold⟩ := h.toDecisionKeyed.enqueueAdvance now hw hreached
  exact ⟨hkeyed, fun w₂ hw₂ hrunning => hold w₂ _ (h.live w₂ hw₂ hrunning)⟩

theorem DecisionLive.startDecisionWorkflow (h : DecisionLive db) (scope : TenantScope)
    (source : SnapshotSource) (launchId : Option Id) (maxRevisionRounds : ℤ) :
    Ensures (DecisionWorkflow.startDecisionWorkflow now scope source launchId maxRevisionRounds)
      (fun _ db' => DecisionLive db') db := by
  rw [DecisionWorkflow.startDecisionWorkflow, ensures_bind]
  refine (within_takeSnapshot (quietRelation now) (fun _ _ => ⟨rfl, fun _ => rfl⟩) scope
    source db).mono fun snapshot db₁ hquiet => ?_
  have h₁ : DecisionLive db₁ := h.undisturbed (.of_quiet hquiet)
  rw [ensures_bind, ensures_tables, ensures_bind, ensures_check]
  intro _ _
  split
  next existing hfound =>
    rw [ensures_bind]
    refine (ensures_enqueueWorkflowAdvance _).mono ?_
    rintro _ _ rfl
    rw [ensures_pure]
    exact h₁.enqueueAdvance now (List.mem_of_find?_eq_some hfound) trivial
  next =>
    rw [ensures_bind, ensures_check]
    intro _ _
    rw [ensures_bind, ensures_newId]
    dsimp only
    rw [ensures_bind, ensures_modifyTables, ensures_bind]
    refine ((quietRelation now).addOutboxEvent scope _ _).mono fun _ db₂ hquiet' => ?_
    rw [ensures_bind]
    refine (ensures_enqueueWorkflowAdvance _).mono ?_
    rintro _ _ rfl
    rw [ensures_pure]
    have h₂ : DecisionLive db₂ := (h₁.inserted rfl rfl).undisturbed (.of_quiet hquiet')
    refine h₂.enqueueAdvance now ?_ trivial
    rw [hquiet'.domain.1]
    exact List.mem_append_right _ (List.mem_singleton_self _)

/-- Writing other tables. -/
theorem ensures_modifyDomain {f : DecisionTables → DecisionTables} (hf : ∀ t, SameVersions t (f t)) :
    Ensures (DomainTxn.modifyTables (M := M) f) (fun _ db' => DecisionWorkflow.Quiet db db') db :=
  keepsWithin_modifyTables hf db

/-- Only a workflow that awaits approval is approved, and it has its Decision. -/
theorem awaitedDecision_eq_ok {scope : TenantScope} {w : DecisionWorkflow} {t : DecisionTables}
    {awaited : FinalDecision × Id} (h : awaitedDecision scope w t = .ok awaited) :
    w.status = .awaitingDecisionApproval ∧ w.finalDecisionId = some awaited.1.id ∧
      awaited.1 ∈ t.decisions := by
  obtain ⟨_, hstatus, h⟩ := Except.bind_eq_ok_iff.mp h
  obtain ⟨decisionId, hfinal, h⟩ := Except.bind_eq_ok_iff.mp h
  obtain ⟨decision, hfind, h⟩ := Except.bind_eq_ok_iff.mp h
  obtain ⟨candidateId, -, h⟩ := Except.bind_eq_ok_iff.mp h
  obtain ⟨_, -, h⟩ := Except.bind_eq_ok_iff.mp h
  obtain rfl := Except.pure_eq_ok_iff.mp h
  have hfound := orRaise_eq_ok_iff.mp hfind
  obtain rfl : decision.id = decisionId := Table.key_of_find hfound
  exact ⟨require_eq_ok_iff.mp hstatus, orRaise_eq_ok_iff.mp hfinal, Table.mem_of_find hfound⟩

/-- Writing the row of a workflow that has ended keeps the invariant. -/
theorem DecisionLive.written (h : DecisionLive db) {w w' : DecisionWorkflow}
    (hw : w ∈ db.tables.domain.decisionWorkflows) (hid : w'.id = w.id) (hscope : w'.scope = w.scope)
    (hchief : w.status ≠ .chiefRunning) (hstart : w'.status ≠ .snapshotReady)
    (hended : w'.running = false) : DecisionLive (w'.written db) := by
  have hmoved : Moved w w' db db := (Moved.refl w h.runs).row hid hscope
  obtain ⟨hkeyed, hcases, hlive⟩ := h.moved hw hmoved
    (hmoved.reached (fun _ => hstart) fun hstatus => absurd hstatus hchief)
  refine ⟨hkeyed, fun w₂ hw₂ hrunning => ?_⟩
  rcases hcases w₂ hw₂ with rfl | ⟨hmem, -⟩
  · rw [hended] at hrunning
    cases hrunning
  · obtain ⟨job, hjob, hadvance, hstatus, -⟩ := hlive w₂ hmem hrunning
    exact ⟨job, hjob, hadvance, hstatus, trivial⟩

theorem DecisionLive.approveDecisionForProduction (h : DecisionLive db) (scope : TenantScope)
    (workflowId : Id) (approvedByUserId : String) :
    Ensures (DecisionWorkflow.approveDecisionForProduction now scope workflowId approvedByUserId)
      (fun _ db' => DecisionLive db') db := by
  rw [DecisionWorkflow.approveDecisionForProduction, ensures_bind, ensures_tables, ensures_bind,
    ensures_check]
  intro w hfound
  have hw : w ∈ db.tables.domain.decisionWorkflows :=
    Table.mem_of_find (orRaise_eq_ok_iff.mp hfound)
  rw [ensures_bind, ensures_check]
  intro _ _
  rw [ensures_ite]
  constructor
  · intro _
    rw [ensures_check]
    exact fun _ _ => h
  · intro _
    rw [ensures_bind, ensures_check]
    rintro ⟨decision, candidateId⟩ hawaited
    have hstatus := (awaitedDecision_eq_ok hawaited).1
    dsimp only
    split
    next =>
      rw [ensures_pure]
      exact h
    next =>
      rw [ensures_bind]
      refine ((quietRelation now).newId db).mono fun id db₁ hquiet => ?_
      rw [ensures_bind]
      refine Ensures.mono (ensures_modifyDomain ?same) fun _ db₂ hquiet' => ?_
      case same => exact fun _ => ⟨rfl, fun _ => rfl⟩
      have h₂ : DecisionLive db₂ :=
        (h.undisturbed (.of_quiet hquiet)).undisturbed (.of_quiet hquiet')
      have hw₂ : w ∈ db₂.tables.domain.decisionWorkflows := by
        rw [hquiet'.domain.1, hquiet.domain.1]
        exact hw
      rw [ensures_bind, DecisionWorkflow.putWorkflow, ensures_modifyTables, ensures_bind]
      refine ((quietRelation now).addOutboxEvent scope _ _).mono fun _ db₃ hquiet₃ => ?_
      rw [ensures_pure]
      refine DecisionLive.undisturbed ?_ (.of_quiet hquiet₃)
      exact h₂.written hw₂ rfl rfl (by simp [hstatus]) (by simp) rfl

/-- A command keeps the invariant. -/
theorem DecisionLive.command (h : DecisionLive db) (c : DecisionCommand) :
    Ensures (runCommand now c) (fun _ db' => DecisionLive db') db := by
  cases c with
  | startDecisionWorkflow scope source launchId maxRevisionRounds =>
      exact h.startDecisionWorkflow scope source launchId maxRevisionRounds
  | approveDecisionForProduction scope workflowId approvedByUserId =>
      rw [runCommand, ensures_bind]
      refine (h.approveDecisionForProduction scope workflowId approvedByUserId).mono
        fun _ db' h' => ?_
      rw [ensures_pure]
      exact h'
  | writeBusiness businessSnapshots launches =>
      rw [runCommand]
      refine Ensures.mono (ensures_modifyDomain ?same)
        fun _ db' hquiet => h.undisturbed (.of_quiet hquiet)
      exact fun _ => ⟨rfl, fun _ => rfl⟩
  | foreign work => exact h.performForeign [work]

/-- What a handler that returns leaves behind, whatever job it is for: every workflow that waits for
runs has an advance job that has not succeeded, other than the handler's own. -/
theorem DecisionLive.handled (h : DecisionLive db) (hwf : db.toJobTable.WellFormed)
    {context : RuntimeJobContext} {answer : DomainAnswer M DecisionAnswer}
    {progress : AgentProgress} {world : Unit} {own : Job} (hown : own ∈ db.jobs)
    (htype : context.jobType = own.jobType)
    (hsafe : ∀ w ∈ db.tables.domain.decisionWorkflows, own.jobType = .workflowAdvance →
      own.payload = .decisionAdvance w.id → w.polls R db → w.SafePoll db own.id)
    (hcommit : (decisionApp R).app.handleJob context own.payload now answer progress world db =
      .commit db') :
    DecisionKeyed db' ∧ ∀ w ∈ db'.tables.domain.decisionWorkflows, w.running →
      w.Awake db' fun job => job.id ≠ own.id := by
  have hgrows := (decisionApp R).app.growth_handleJob hcommit
  have hwf' := hgrows.wellFormed hwf
  -- only an advance job of a workflow can be the job it has left
  have hsame : ∀ {w : DecisionWorkflow} {job : Job}, job ∈ db'.jobs → w.isAdvanceJob job →
      job.id = own.id → own.jobType = .workflowAdvance ∧ own.payload = .decisionAdvance w.id := by
    intro w job hjob hadvance hid
    have heq : job = own := hwf'.ids.eq_of_key_eq hjob (hgrows.subset hown) hid
    subst heq
    simp only [isAdvanceJob, Bool.and_eq_true, decide_eq_true_eq] at hadvance
    exact ⟨hadvance.1.2, hadvance.2⟩
  have hother : DecisionLive db' →
      (own.jobType = .workflowAdvance → ∀ id, own.payload ≠ .decisionAdvance id) →
      DecisionKeyed db' ∧ ∀ w ∈ db'.tables.domain.decisionWorkflows, w.running →
        w.Awake db' fun job => job.id ≠ own.id := by
    intro h' hne
    refine ⟨h'.toDecisionKeyed, fun w hw hrunning => ?_⟩
    obtain ⟨job, hjob, hadvance, hstatus, -⟩ := h'.live w hw hrunning
    refine ⟨job, hjob, hadvance, hstatus, fun hid => ?_⟩
    obtain ⟨hown, hpayload⟩ := hsame hjob hadvance hid
    exact hne hown w.id hpayload
  rcases (decisionApp R).handleJob_cases hcommit with ⟨hdefault, htable, htables⟩ | hhandled
  · refine hother (h.undisturbed (.of_quiet (.of_eq htable htables))) fun hadvance => ?_
    rw [htype, hadvance] at hdefault
    simp at hdefault
  · cases hhandled with
    | terminal hagent =>
        refine hother h fun hadvance => ?_
        rw [htype, hadvance] at hagent
        cases hagent
    | persisted hagent hpayload hidentity =>
        refine hother (h.undisturbed (.updateRun db _ hidentity)) fun hadvance => ?_
        rw [htype, hadvance] at hagent
        cases hagent
    | @domain a _ hagent hhandle =>
        have hexec : exec (handler R now a context own.payload) db = .ok db' := hhandle
        unfold handler at hexec
        split at hexec
        next workflowId hadvance hpayload =>
          have hdone := (decisionWorkflowAdvanceHandler_spec h context (hwf.id_lt own hown)
            fun w hw hid hpolls => hsafe w hw (htype.symm.trans hadvance)
              (by rw [hid]; exact hpayload) hpolls).of_exec hexec
          refine ⟨hdone.1, fun w hw hrunning => ?_⟩
          obtain ⟨job, hjob, hadvance', hstatus, hne⟩ := hdone.2 w hw hrunning
          refine ⟨job, hjob, hadvance', hstatus, fun hid => ?_⟩
          have hmine := (hsame hjob hadvance' hid).2
          exact hne (JobPayload.decisionAdvance.inj (hmine.symm.trans hpayload)) hid
        next hnone =>
          have hforeign : DecisionLive db' := by
            refine Ensures.of_exec (Q := DecisionLive) ?_ hexec
            rw [ensures_bind, ensures_check]
            exact fun works _ => h.performForeign works
          exact hother hforeign fun hadvance id hpayload =>
            hnone id (htype.trans hadvance) hpayload

end Handlers

/-! ## Runs -/

/-- The state of the runtime with a decision workflow. -/
abbrev DecisionState (M : Type) :=
  RuntimeState (AgentTables M DecisionTables) Unit AgentProgress

/-- The attempt is in the handler, for the given workflow. -/
def DecisionState.advances (s : DecisionState M) (a : AttemptId) (w : DecisionWorkflow) : Bool :=
  match s.attempts a with
  | some ⟨_, .running context payload _⟩ =>
      context.jobType = .workflowAdvance && payload = .decisionAdvance w.id
  | _ => false

/-- If the step commits an attempt that polls, then it may. -/
def Action.SparesWakeUps (R : RunReader M) (s : DecisionState M)
    (action : Action (DomainAnswer M DecisionAnswer) DecisionCommand) : Prop :=
  ∀ a ∈ (decisionApp R).app.ends s action, ∀ w ∈ s.db.tables.domain.decisionWorkflows,
    s.advances a w → w.polls R s.db → w.SafePoll s.db a.jobId

instance (R : RunReader M) (s : DecisionState M)
    (action : Action (DomainAnswer M DecisionAnswer) DecisionCommand) :
    Decidable (action.SparesWakeUps R s) := by
  unfold Action.SparesWakeUps
  infer_instance

/-- Recording a failure changes no run's identity and no row of the workflow. -/
theorem undisturbed_recordAttemptFailure (R : RunReader M) (worker : Worker) (held : Job)
    (error : JobError) (now : Time) (db : AgentDatabase M DecisionTables) :
    Undisturbed db { db with
      tables :=
        if worker.handlers held.jobType then
          (decisionApp R).app.recordAttemptFailure held error
            (error.retry && decide (held.attemptCount < held.maxAttempts)) now db.tables
        else db.tables } := by
  have hsame : Undisturbed db db := .of_quiet (refl _)
  split
  · simp only [DomainApp.app]
    split
    · unfold recordAgentRunFailure
      split
      · split
        · split
          · exact hsame
          · exact .updateRun db _ fun run => run.sameIdentity_recordFailure _ _ _
        · exact hsame
      · exact hsame
    · exact hsame
  · exact hsame

theorem undisturbed_enqueuePendingOutbox (now : Time) (limit : ℕ)
    (db : AgentDatabase M DecisionTables) :
    Undisturbed db
      { db with toRuntimeTables := enqueuePendingOutbox now limit db.toRuntimeTables } := by
  refine .of_quiet ?_
  unfold enqueuePendingOutbox
  generalize pendingOutbox limit db.outboxEvents = events
  induction events generalizing db with
  | nil => exact refl _
  | cons event events ih =>
      have hcreate : DecisionWorkflow.Quiet db
          (db.applyJobOp now (.createJob (event.dispatchJob now))) :=
        keeps_applyCreateJob now rfl db
      exact trans_of DecisionWorkflow.Quiet hcreate (ih _)

/-- A step that spares the wake-ups keeps the invariant. -/
theorem decisionLive_step (R : RunReader M) {s : DecisionState M} (hs : s.WellFormed)
    (h : DecisionLive s.db) {action : Action (DomainAnswer M DecisionAnswer) DecisionCommand}
    (haction : action.SparesWakeUps R s) :
    DecisionLive ((decisionApp R).app.step action s).db := by
  cases action with
  | tick elapsed => exact h
  | command c =>
      simp only [App.step]
      split
      next db hdb => exact Ensures.of_exec (Q := DecisionLive) (h.command c) hdb
      next => exact h
  | claim worker jobId =>
      simp only [App.step]
      split
      next =>
        refine h.rows hs.table _ (by simp) fun job hstatus => ?_
        simp only [JobOp.row]
        split
        · simp [Job.claimedBy]
        · exact hstatus
      next => exact h
  | start a =>
      simp only [App.step]
      split
      next worker ha =>
        unfold RuntimeState.startAttempt
        split
        · exact h
        · split
          · exact h
          · split <;> exact h
      next => exact h
  | proceed a answer =>
      simp only [App.step]
      split
      next worker context payload state ha =>
        cases hstage : (decisionApp R).app.handleJob context payload s.now answer state s.world
            s.db with
        | next _ _ => exact h
        | raise _ => exact h
        | commit db =>
            obtain ⟨⟨own, hown, hid, -, -, htype, rfl⟩, -⟩ :=
              hs.serves a worker context payload state ha
            have hends : (decisionApp R).app.ends s (.proceed a answer) = some a := by
              simp [App.ends, ha, hstage]
            have hsafe : ∀ w ∈ s.db.tables.domain.decisionWorkflows,
                own.jobType = .workflowAdvance → own.payload = .decisionAdvance w.id →
                  w.polls R s.db → w.SafePoll s.db own.id := by
              intro w hw hadvance hpayload
              rw [hid]
              refine haction a hends w hw ?_
              simp [DecisionState.advances, ha, htype, hadvance, hpayload]
            have hwf := ((decisionApp R).app.growth_handleJob hstage).wellFormed hs.table
            obtain ⟨hkeyed, hlive⟩ := h.handled hs.table hown htype hsafe hstage
            refine hkeyed.rows hwf (.markJobSucceeded a.jobId) (by simp) fun w hw hrunning => ?_
            obtain ⟨job, hjob, hadvance, hstatus, hne⟩ := hlive w hw hrunning
            refine ⟨job, hjob, hadvance, hstatus, ?_⟩
            simpa only [JobOp.row, hid ▸ hne, if_false] using hstatus
      next => exact h
  | fault a className message =>
      simp only [App.step]
      split <;> exact h
  | recordFailure a =>
      simp only [App.step]
      split
      next worker error ha =>
        unfold RuntimeState.recordAttemptFailure
        split
        next => exact h
        next held hget =>
          have hrow : ∀ job : Job, job.status ≠ .succeeded →
              ((JobOp.markJobFailedOrRetrying a.jobId error error.retry worker.retryBackoff).row
                s.now job).status ≠ .succeeded := by
            intro job hstatus
            simp only [JobOp.row, Job.markFailedOrRetrying]
            split
            · split <;> simp
            · exact hstatus
          exact (h.undisturbed (undisturbed_recordAttemptFailure R worker held error s.now
            s.db)).rows hs.table (.markJobFailedOrRetrying a.jobId error error.retry
              worker.retryBackoff) (by simp) hrow
      next => exact h
  | crash a => exact h
  | schedule batchSize =>
      have hrecover : DecisionLive (s.db.applyJobOp s.now .recoverExpiredLeases) := by
        refine h.rows hs.table _ (by simp) fun job hstatus => ?_
        simp only [JobOp.row, Job.recoverIfExpired, Job.recoverLease]
        split
        · split <;> simp
        · exact hstatus
      exact hrecover.undisturbed (undisturbed_enqueuePendingOutbox s.now batchSize _)

/-- A state with nothing of the runtime in it and no decision workflow. -/
structure DecisionState.Initial (s : DecisionState M) : Prop
    extends RuntimeState.AgentInitial s where
  decisionWorkflows : s.db.tables.domain.decisionWorkflows = []

theorem DecisionState.Initial.live {s : DecisionState M} (h : DecisionState.Initial s) :
    DecisionLive s.db := by
  refine ⟨⟨?_, ?_, ?_, ?_⟩, ?_⟩ <;>
    simp [h.decisionWorkflows, h.agentRuns, h.jobs, Table.keysNodup_nil, RunsKeyed]

theorem decisionLive_run (R : RunReader M) {s : DecisionState M}
    (hs : DecisionState.Initial s)
    {actions : List (Action (DomainAnswer M DecisionAnswer) DecisionCommand)}
    (hactions : Guarded (decisionApp R).app.step (fun s action => action.SparesWakeUps R s) s
      actions) :
    (run (decisionApp R).app.step s actions).WellFormed ∧
      DecisionLive (run (decisionApp R).app.step s actions).db := by
  refine invariant_run (I := fun s => s.WellFormed ∧ DecisionLive s.db) ?_
    ⟨hs.wellFormed, hs.live⟩ hactions
  rintro s action ⟨hwf, h⟩ haction
  exact ⟨hwf.step _ action, decisionLive_step R hwf h haction⟩

/-- In a run that spares the wake-ups, a workflow that waits for runs and of which no advance job
has `FAILED` has an advance job that is not terminal. -/
theorem decision_wakeUp_not_lost (R : RunReader M) {s : DecisionState M}
    (hs : DecisionState.Initial s)
    {actions : List (Action (DomainAnswer M DecisionAnswer) DecisionCommand)}
    (hactions : Guarded (decisionApp R).app.step (fun s action => action.SparesWakeUps R s) s
      actions) :
    ∀ w ∈ (run (decisionApp R).app.step s actions).db.tables.domain.decisionWorkflows,
      (w.status = .specialistsRunning ∨ w.status = .chiefRunning ∨
        w.status = .controllersRunning) →
      (∀ job ∈ (run (decisionApp R).app.step s actions).db.jobs,
        w.isAdvanceJob job → job.status ≠ .failed) →
        ∃ job ∈ (run (decisionApp R).app.step s actions).db.jobs,
          w.isAdvanceJob job ∧ job.terminal = false := by
  intro w hw hstatus hfailed
  have hrunning : w.running := by
    rcases hstatus with hstatus | hstatus | hstatus <;> simp [running, hstatus]
  obtain ⟨job, hjob, hadvance, hsucceeded, -⟩ := (decisionLive_run R hs hactions).2.live w hw hrunning
  refine ⟨job, hjob, hadvance, ?_⟩
  have hnot := hfailed job hjob hadvance
  simp only [Job.terminal]
  cases hcases : job.status with
  | queued | running | retryWait => rfl
  | succeeded => exact absurd hcases hsucceeded
  | failed => exact absurd hcases hnot

/-! ### A lost wake-up, and one that is kept -/

/-- A reader for which no output is of use. -/
def noReader : RunReader Unit := { noSchemas with contextManifest := fun _ => [] }

/-- Before anything has happened. -/
def decisionStart : DecisionState Unit where
  now := 0
  db := { tables := { domain := {} } }
  world := ()
  attempts _ := none
  history := []

theorem decisionStart_initial : DecisionState.Initial decisionStart where
  jobs := rfl
  outboxEvents := rfl
  attempts _ := rfl
  history := rfl
  agentRuns := rfl
  decisionWorkflows := rfl

/-- A delivery of an advance job to a worker that commits it. -/
def advanceDecision (jobId : Id) : List (Action (DomainAnswer Unit DecisionAnswer) DecisionCommand) :=
  [.claim applicationWorker jobId, .start ⟨jobId, 1⟩, .proceed ⟨jobId, 1⟩ (.domain {})]

/-- A workflow is started, its first job creates the runs of the specialists, and the second one
looks at them: none has run yet. -/
def polledDecision : List (Action (DomainAnswer Unit DecisionAnswer) DecisionCommand) :=
  .command (.startDecisionWorkflow ⟨"organization", "business"⟩ (.created (.ok [])) none 2) ::
    (advanceDecision 3 ++ advanceDecision 10)

/-- The third job looks before any of the runs has run: the workflow is `SPECIALISTS_RUNNING`, and
all of its advance jobs have `SUCCEEDED`. -/
theorem polled_decision_loses_wakeUp :
    ∃ w ∈ (run (decisionApp noReader).app.step decisionStart
        (polledDecision ++ advanceDecision 11)).db.tables.domain.decisionWorkflows,
      w.status = .specialistsRunning ∧
      ∀ job ∈ (run (decisionApp noReader).app.step decisionStart
          (polledDecision ++ advanceDecision 11)).db.jobs,
        w.isAdvanceJob job → job.status = .succeeded := by
  decide

theorem polled_decision_keeps_wakeUp :
    ∃ w ∈ (run (decisionApp noReader).app.step decisionStart
        polledDecision).db.tables.domain.decisionWorkflows,
      ∃ job ∈ (run (decisionApp noReader).app.step decisionStart polledDecision).db.jobs,
        w.isAdvanceJob job ∧ job.terminal = false := by
  have hrunning : ∃ w ∈ (run (decisionApp noReader).app.step decisionStart
        polledDecision).db.tables.domain.decisionWorkflows,
      (w.status = .specialistsRunning ∨ w.status = .chiefRunning ∨
        w.status = .controllersRunning) ∧
      ∀ job ∈ (run (decisionApp noReader).app.step decisionStart polledDecision).db.jobs,
        w.isAdvanceJob job → job.status ≠ .failed := by decide
  obtain ⟨w, hw, hstatus, hjobs⟩ := hrunning
  exact ⟨w, hw, decision_wakeUp_not_lost noReader decisionStart_initial (by decide) w hw hstatus
    hjobs⟩

end LaunchOS
