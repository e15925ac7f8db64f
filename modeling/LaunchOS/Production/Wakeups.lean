import LaunchOS.Production.Advance

/-!
# Wake-ups of the production workflow

A production workflow that is not over waits for one `workflow.advance` job: the one made when it
entered the stage it is in. Its handler advances the workflow and makes the job of the next stage in
the same transaction, or it raises and changes nothing. So the job of the stage can only end by
failing, and a workflow that stands still has a `FAILED` job to show for it.

The module introduces:

* `WaitsForJob`, `ProductionKeyed`, `ProductionLive`: the invariant;
* `productionLive_step`: every step of the runtime keeps it;
* `production_waits_for_job`: the invariant over all runs;
* a run in which the content director refuses and the workflow stands still.
-/

namespace LaunchOS

open Txn Transition

variable {M : Type}

/-! ## The invariant -/

/-- The advance job of the stage of a workflow is there and has not succeeded; `P` says more about
it. -/
def WaitsForJob (db : AgentDatabase M ProductionTables) (w : ProductionWorkflow)
    (P : Job → Prop) : Prop :=
  ∃ suffix, w.stage db.tables.domain = some suffix ∧
    ∃ job ∈ db.jobs, job.uniqueKey = w.advanceKey suffix ∧ job.status ≠ .succeeded ∧ P job

/-- Every advance job belongs to a suffix that its workflow has reached. -/
structure ProductionKeyed (db : AgentDatabase M ProductionTables) : Prop where
  ids : Table.KeysNodup ProductionWorkflow.id db.tables.domain.productionWorkflows
  id_lt : ∀ w ∈ db.tables.domain.productionWorkflows, w.id < db.nextId
  asset_lt : ∀ w ∈ db.tables.domain.productionWorkflows, ∀ a, w.assetId = some a → a < db.nextId
  asset_inj : ∀ w ∈ db.tables.domain.productionWorkflows,
    ∀ w' ∈ db.tables.domain.productionWorkflows, ∀ a, w.assetId = some a → w'.assetId = some a →
      w.id = w'.id
  version_lt : ∀ v ∈ db.tables.domain.assetVersions, v.assetId < db.nextId
  keys : ∀ job ∈ db.jobs, ∀ id suffix, job.idempotencyKey = .productionWorkflow id suffix →
    id < db.nextId ∧ job.payload = .productionAdvance id ∧
      ∀ w ∈ db.tables.domain.productionWorkflows, w.id = id →
        w.Reached db.tables.domain suffix

/-- The invariant: moreover every workflow that is not over waits for a job. -/
structure ProductionLive (db : AgentDatabase M ProductionTables) : Prop
    extends ProductionKeyed db where
  live : ∀ w ∈ db.tables.domain.productionWorkflows, w.ended = false →
    WaitsForJob db w fun _ => True

namespace ProductionWorkflow

variable {w : ProductionWorkflow} {t t' : ProductionTables}

/-- Stage and suffixes depend on the latest version only. -/
theorem reached_congr (h : latestVersionNumber w t' = latestVersionNumber w t)
    (suffix : ProductionAdvance) : w.Reached t' suffix ↔ w.Reached t suffix := by
  cases suffix <;> simp [Reached, nextAssetVersionNumber, h]

theorem stage_congr (h : latestVersionNumber w t' = latestVersionNumber w t) :
    w.stage t' = w.stage t := by
  unfold stage
  simp [nextAssetVersionNumber, h]

end ProductionWorkflow

variable {db db' : AgentDatabase M ProductionTables} {now : Time}

/-- What leaves workflows, versions and advance jobs alone keeps the invariant. -/
theorem ProductionLive.quiet (h : ProductionLive db) (hquiet : Quiet db db') :
    ProductionLive db' := by
  obtain ⟨hworkflows, hversions⟩ := hquiet.domain
  have hlatest : ∀ w, latestVersionNumber w db'.tables.domain =
      latestVersionNumber w db.tables.domain :=
    fun w => latestVersionNumber_congr rfl rfl hversions
  refine ⟨⟨?_, ?_, ?_, ?_, ?_, ?_⟩, ?_⟩
  · rw [hworkflows]
    exact h.ids
  · rw [hworkflows]
    exact fun w hw => (h.id_lt w hw).trans_le hquiet.nextId
  · rw [hworkflows]
    exact fun w hw a ha => (h.asset_lt w hw a ha).trans_le hquiet.nextId
  · rw [hworkflows]
    exact h.asset_inj
  · rw [hversions]
    exact fun v hv => (h.version_lt v hv).trans_le hquiet.nextId
  · intro job hjob id suffix hkey
    have hold : job ∈ db.jobs := hquiet.back job hjob (by rw [hkey]; rfl)
    obtain ⟨hlt, hpayload, hreached⟩ := h.keys job hold id suffix hkey
    refine ⟨hlt.trans_le hquiet.nextId, hpayload, ?_⟩
    rw [hworkflows]
    intro w hw hid
    exact (ProductionWorkflow.reached_congr (hlatest w) suffix).mpr (hreached w hw hid)
  · rw [hworkflows]
    intro w hw hover
    obtain ⟨suffix, hstage, job, hjob, hrest⟩ := h.live w hw hover
    exact ⟨suffix, (ProductionWorkflow.stage_congr (hlatest w)).trans hstage, job,
      hquiet.subset job hjob, hrest⟩

/-- An operation on the rows of the jobs keeps the invariant if it leaves every workflow a job that
has not succeeded. -/
theorem ProductionKeyed.rows (h : ProductionKeyed db) (hwf : db.toJobTable.WellFormed) (op : JobOp)
    (hop : ∀ args, op ≠ .createJob args)
    (hlive : ∀ w ∈ db.tables.domain.productionWorkflows, w.ended = false →
      WaitsForJob db w fun job => (op.row now job).status ≠ .succeeded) :
    ProductionLive (db.applyJobOp now op) := by
  have hnext : db.nextId ≤ (db.applyJobOp now op).nextId := db.toJobTable.nextId_le_apply now op
  refine ⟨⟨h.ids, ?_, ?_, h.asset_inj, ?_, ?_⟩, ?_⟩
  · exact fun w hw => (h.id_lt w hw).trans_le hnext
  · exact fun w hw a ha => (h.asset_lt w hw a ha).trans_le hnext
  · exact fun v hv => (h.version_lt v hv).trans_le hnext
  · intro job' hjob' id suffix hkey
    rcases (JobTable.mem_apply_iff hwf.ids).mp hjob' with ⟨job, hjob, rfl⟩ | hnew
    · have hsame : job.SameIdentity (op.row now job) := op.sameIdentity_row
      obtain ⟨hlt, hpayload, hreached⟩ :=
        h.keys job hjob id suffix (hsame.idempotencyKey.symm.trans hkey)
      exact ⟨hlt.trans_le hnext, hsame.payload.trans hpayload, hreached⟩
    · obtain ⟨args, heq, -⟩ := JobOp.mem_inserted_iff.mp hnew
      exact absurd heq (hop args)
  · intro w hw hover
    obtain ⟨suffix, hstage, job, hjob, hkey, -, hstatus⟩ := hlive w hw hover
    refine ⟨suffix, hstage, op.row now job, JobTable.row_mem_apply hwf.ids now op hjob, ?_,
      hstatus, trivial⟩
    rw [JobOp.row_uniqueKey, hkey]

/-- Only `mark_job_succeeded` makes a job succeed. -/
theorem ProductionLive.rows (h : ProductionLive db) (hwf : db.toJobTable.WellFormed) (op : JobOp)
    (hop : ∀ args, op ≠ .createJob args)
    (hrow : ∀ job : Job, job.status ≠ .succeeded → (op.row now job).status ≠ .succeeded) :
    ProductionLive (db.applyJobOp now op) := by
  refine h.toProductionKeyed.rows hwf op hop fun w hw hover => ?_
  obtain ⟨suffix, hstage, job, hjob, hkey, hstatus, -⟩ := h.live w hw hover
  exact ⟨suffix, hstage, job, hjob, hkey, hstatus, hrow job hstatus⟩

/-- Creating an advance job that its workflow has reached keeps the keys in order, and the workflow
then waits for it if it is new. -/
theorem ProductionKeyed.enqueueAdvance (h : ProductionKeyed db) (now : Time)
    {w : ProductionWorkflow}
    (hw : w ∈ db.tables.domain.productionWorkflows) {suffix : ProductionAdvance}
    (hstage : w.stage db.tables.domain = some suffix)
    (hfresh : ∀ job ∈ db.jobs, job.idempotencyKey ≠ .productionWorkflow w.id suffix) :
    ProductionKeyed (db.applyJobOp now (.createJob (advanceJob w suffix))) ∧
      (∀ w' P, WaitsForJob db w' P →
        WaitsForJob (db.applyJobOp now (.createJob (advanceJob w suffix))) w' P) ∧
      WaitsForJob (db.applyJobOp now (.createJob (advanceJob w suffix))) w
        fun job => job.id = db.nextId := by
  have hnext : db.nextId ≤ (db.applyJobOp now (.createJob (advanceJob w suffix))).nextId :=
    db.toJobTable.nextId_le_apply now _
  have hinserted : (JobOp.createJob (advanceJob w suffix)).inserted now db.toJobTable =
      [(advanceJob w suffix).row db.nextId now] := by
    have hnone : Table.find Job.uniqueKey (advanceJob w suffix).uniqueKey db.jobs = none := by
      rw [Table.find_eq_none_iff]
      intro job hjob hkey
      exact hfresh job hjob (congrArg (fun key => key.2.2) hkey)
    have hcheck : (advanceJob w suffix).check.isOk := rfl
    simp only [JobOp.inserted, hnone, hcheck, and_self, if_true]
  have hjobs : (db.applyJobOp now (.createJob (advanceJob w suffix))).jobs =
      db.jobs ++ [(advanceJob w suffix).row db.nextId now] := by
    rw [← hinserted]
    exact congrArg JobTable.jobs (JobTable.apply_createJob db.toJobTable now _)
  refine ⟨⟨h.ids, ?_, ?_, h.asset_inj, ?_, ?_⟩, ?_, ?_⟩
  · exact fun w hw => (h.id_lt w hw).trans_le hnext
  · exact fun w hw a ha => (h.asset_lt w hw a ha).trans_le hnext
  · exact fun v hv => (h.version_lt v hv).trans_le hnext
  · intro job hjob id suffix' hkey
    rw [hjobs, List.mem_append, List.mem_singleton] at hjob
    rcases hjob with hjob | rfl
    · obtain ⟨hlt, hpayload, hreached⟩ := h.keys job hjob id suffix' hkey
      exact ⟨hlt.trans_le hnext, hpayload, hreached⟩
    · obtain ⟨rfl, rfl⟩ := JobKey.productionWorkflow.inj hkey
      refine ⟨(h.id_lt w hw).trans_le hnext, rfl, fun w' hw' hid => ?_⟩
      rw [h.ids.eq_of_key_eq hw' hw hid]
      exact ProductionWorkflow.reached_of_stage hstage
  · rintro w' P ⟨suffix', hstage', job, hjob, hrest⟩
    refine ⟨suffix', hstage', job, ?_, hrest⟩
    rw [hjobs]
    exact List.mem_append_left _ hjob
  · refine ⟨suffix, hstage, (advanceJob w suffix).row db.nextId now, ?_, rfl, ?_, rfl⟩
    · rw [hjobs]
      exact List.mem_append_right _ (List.mem_singleton_self _)
    · simp [CreateJob.row]

/-- The database with the row of a workflow written. -/
def writeWorkflow (w : ProductionWorkflow) (db : AgentDatabase M ProductionTables) :
    AgentDatabase M ProductionTables :=
  { db with tables := { db.tables with domain := { db.tables.domain with
      productionWorkflows :=
        Table.modify ProductionWorkflow.id w.id (fun _ => w)
          db.tables.domain.productionWorkflows } } }

/-- Writing the row that an advance has ended with keeps the keys in order, and leaves every other
workflow the job it waits for. -/
theorem ProductionLive.moved (h : ProductionLive db) {w w' : ProductionWorkflow}
    (hw : w ∈ db.tables.domain.productionWorkflows) (hmoved : Moved w w' db db')
    (hreached : ∀ suffix, w.Reached db.tables.domain suffix →
      w'.Reached db'.tables.domain suffix) :
    ProductionKeyed (writeWorkflow w' db') ∧
      ∀ w₂ ∈ db.tables.domain.productionWorkflows, w₂.id ≠ w.id → w₂.ended = false →
        WaitsForJob (writeWorkflow w' db') w₂ fun _ => True := by
  obtain ⟨new, hversions, hnew⟩ := hmoved.versions
  -- the asset of the advanced workflow belongs to no other one
  have hforeign : ∀ w₂ ∈ db.tables.domain.productionWorkflows, w₂.id ≠ w.id →
      ∀ a, w₂.assetId = some a → w'.assetId ≠ some a := by
    intro w₂ hw₂ hne a ha ha'
    rcases hmoved.asset with hsame | ⟨-, b, hb, hge, -⟩
    · exact hne (h.asset_inj w₂ hw₂ w hw a ha (hsame.symm.trans ha'))
    · have hab : b = a := Option.some.inj (hb.symm.trans ha')
      exact absurd (h.asset_lt w₂ hw₂ a ha) (not_lt.mpr (hab ▸ hge))
  have hlatest : ∀ w₂ ∈ db.tables.domain.productionWorkflows, w₂.id ≠ w.id →
      latestVersionNumber w₂ db'.tables.domain = latestVersionNumber w₂ db.tables.domain :=
    fun w₂ hw₂ hne => latestVersionNumber_append_of_ne hversions fun v hv ha =>
      hforeign w₂ hw₂ hne v.assetId ha (hnew v hv)
  have hasset : ∀ a, w'.assetId = some a → a < db'.nextId := by
    intro a ha
    rcases hmoved.asset with hsame | ⟨-, b, hb, -, hlt⟩
    · exact (h.asset_lt w hw a (hsame.symm.trans ha)).trans_le hmoved.nextId
    · exact Option.some.inj (hb.symm.trans ha) ▸ hlt
  have hcases : ∀ w₂ ∈ (writeWorkflow w' db').tables.domain.productionWorkflows,
      w₂ = w' ∨ w₂ ∈ db.tables.domain.productionWorkflows ∧ w₂.id ≠ w.id := by
    intro w₂ hw₂
    rcases Table.mem_modify_cases hw₂ with ⟨-, -, -, rfl⟩ | ⟨hmem, hne⟩
    · exact .inl rfl
    · rw [hmoved.workflows] at hmem
      exact .inr ⟨hmem, hmoved.id ▸ hne⟩
  refine ⟨⟨?_, ?_, ?_, ?_, ?_, ?_⟩, ?_⟩
  · change Table.KeysNodup _ (Table.modify _ _ _ db'.tables.domain.productionWorkflows)
    rw [hmoved.workflows]
    exact h.ids.modify fun _ _ _ => rfl
  · intro w₂ hw₂
    rcases hcases w₂ hw₂ with rfl | ⟨hmem, -⟩
    · rw [hmoved.id]
      exact (h.id_lt w hw).trans_le hmoved.nextId
    · exact (h.id_lt w₂ hmem).trans_le hmoved.nextId
  · intro w₂ hw₂ a ha
    rcases hcases w₂ hw₂ with rfl | ⟨hmem, -⟩
    · exact hasset a ha
    · exact (h.asset_lt w₂ hmem a ha).trans_le hmoved.nextId
  · intro w₂ hw₂ w₃ hw₃ a ha ha'
    rcases hcases w₂ hw₂ with rfl | ⟨hmem, hne⟩ <;> rcases hcases w₃ hw₃ with rfl | ⟨hmem', hne'⟩
    · rfl
    · exact absurd ha (hforeign w₃ hmem' hne' a ha')
    · exact absurd ha' (hforeign w₂ hmem hne a ha)
    · exact h.asset_inj w₂ hmem w₃ hmem' a ha ha'
  · intro v hv
    have hmem : v ∈ db.tables.domain.assetVersions ++ new := hversions ▸ hv
    rcases List.mem_append.mp hmem with hmem | hmem
    · exact (h.version_lt v hmem).trans_le hmoved.nextId
    · exact hasset v.assetId (hnew v hmem)
  · intro job hjob id suffix hkey
    have hold : job ∈ db.jobs := hmoved.back job hjob (by rw [hkey]; rfl)
    obtain ⟨hlt, hpayload, hold⟩ := h.keys job hold id suffix hkey
    refine ⟨hlt.trans_le hmoved.nextId, hpayload, fun w₂ hw₂ hid => ?_⟩
    rcases hcases w₂ hw₂ with rfl | ⟨hmem, hne⟩
    · exact hreached suffix (hold w hw (hmoved.id.symm.trans hid))
    · exact (ProductionWorkflow.reached_congr (hlatest w₂ hmem hne) suffix).mpr (hold w₂ hmem hid)
  · intro w₂ hw₂ hne hover
    obtain ⟨suffix, hstage, job, hjob, hrest⟩ := h.live w₂ hw₂ hover
    exact ⟨suffix, (ProductionWorkflow.stage_congr (hlatest w₂ hw₂ hne)).trans hstage, job,
      hmoved.subset job hjob, hrest⟩

/-- A handler that has advanced a workflow leaves the invariant, and the job the workflow now waits
for is younger than the handler's own. -/
theorem ProductionLive.advanced (h : ProductionLive db) {w w' : ProductionWorkflow}
    (hw : w ∈ db.tables.domain.productionWorkflows) (hadvanced : Advanced now w db w' db') :
    ProductionKeyed (writeWorkflow w' db') ∧
      ∀ w₂ ∈ (writeWorkflow w' db').tables.domain.productionWorkflows, w₂.ended = false →
        WaitsForJob (writeWorkflow w' db') w₂ fun job => w₂.id = w.id → db.nextId ≤ job.id := by
  cases hadvanced with
  | ended hmoved hreached hover =>
      obtain ⟨hkeyed, hlive⟩ := h.moved hw hmoved hreached
      refine ⟨hkeyed, fun w₂ hw₂ hover₂ => ?_⟩
      rcases Table.mem_modify_cases hw₂ with ⟨-, -, -, rfl⟩ | ⟨hmem, hne⟩
      · rw [hover] at hover₂
        cases hover₂
      · rw [hmoved.workflows] at hmem
        rw [hmoved.id] at hne
        obtain ⟨suffix, hstage, job, hjob, hkey, hstatus, -⟩ := hlive w₂ hmem hne hover₂
        exact ⟨suffix, hstage, job, hjob, hkey, hstatus, fun hid => absurd hid hne⟩
  | @waits db₁ suffix hmoved hreached hstage hfresh =>
      obtain ⟨hkeyed, hlive⟩ := h.moved hw hmoved hreached
      have hjob : advanceJob w suffix = advanceJob w' suffix := by
        rw [advanceJob, advanceJob, hmoved.id, hmoved.scope]
      have hmem' : w' ∈ (writeWorkflow w' db₁).tables.domain.productionWorkflows := by
        change w' ∈ Table.modify _ _ _ db₁.tables.domain.productionWorkflows
        rw [hmoved.workflows]
        exact Table.mem_modify_of_eq (f := fun _ => w') hw hmoved.id.symm
      have hunused : ∀ job ∈ (writeWorkflow w' db₁).jobs,
          job.idempotencyKey ≠ .productionWorkflow w'.id suffix := by
        intro job hjob' hkey
        have hold : job ∈ db.jobs := hmoved.back job hjob' (by rw [hkey]; rfl)
        exact hfresh ((h.keys job hold _ suffix hkey).2.2 w hw hmoved.id.symm)
      obtain ⟨hkeyed', hold, hnew⟩ := hkeyed.enqueueAdvance now hmem' hstage hunused
      rw [hjob]
      refine ⟨hkeyed', fun w₂ hw₂ hover₂ => ?_⟩
      rcases Table.mem_modify_cases hw₂ with ⟨-, -, -, rfl⟩ | ⟨hmem, hne⟩
      · obtain ⟨suffix', hstage', job, hjob', hkey, hstatus, hid⟩ := hnew
        refine ⟨suffix', hstage', job, hjob', hkey, hstatus, fun _ => ?_⟩
        rw [hid]
        exact hmoved.nextId
      · have hmem₁ : w₂ ∈ db.tables.domain.productionWorkflows := hmoved.workflows ▸ hmem
        rw [hmoved.id] at hne
        obtain ⟨suffix', hstage', job, hjob', hkey, hstatus, -⟩ :=
          hold w₂ _ (hlive w₂ hmem₁ hne hover₂)
        exact ⟨suffix', hstage', job, hjob', hkey, hstatus, fun hid => absurd hid hne⟩

/-! ## Handlers and commands -/

section Handlers

variable {S : OutputSchemas M} {answer : ProductionAnswer}

/-- A workflow that is not over waits for a job, so that one of the stages applies. -/
theorem ProductionLive.advanceable (h : ProductionLive db) {w : ProductionWorkflow}
    (hw : w ∈ db.tables.domain.productionWorkflows) :
    w.ended ∨ (w.stage db.tables.domain).isSome := by
  by_cases hover : w.ended
  · exact .inl hover
  · obtain ⟨suffix, hstage, -⟩ := h.live w hw (by simpa using hover)
    exact .inr (by rw [hstage]; rfl)

/-- An advance handler that returns leaves its workflow a younger job to wait for. -/
theorem productionWorkflowAdvanceHandler_spec (h : ProductionLive db)
    (context : RuntimeJobContext) (workflowId : Id) :
    Ensures (productionWorkflowAdvanceHandler S now answer context workflowId)
      (fun _ db' => ProductionKeyed db' ∧
        ∀ w ∈ db'.tables.domain.productionWorkflows, w.ended = false →
          WaitsForJob db' w fun job => w.id = workflowId → db.nextId ≤ job.id) db := by
  rw [productionWorkflowAdvanceHandler, ensures_bind, ensures_tables, ensures_bind, ensures_check]
  intro w hfound
  obtain ⟨hw, hid⟩ : w ∈ db.tables.domain.productionWorkflows ∧ w.id = workflowId := by
    cases hfind : Table.find ProductionWorkflow.id workflowId
        db.tables.domain.productionWorkflows with
    | none =>
        rw [hfind] at hfound
        cases hfound
    | some found =>
        rw [hfind] at hfound
        cases hfound
        exact ⟨Table.mem_of_find hfind, Table.key_of_find hfind⟩
  rw [ensures_bind, ensures_check]
  intro _ _
  rw [ensures_bind]
  refine (advance_spec h.version_lt (h.advanceable hw)).mono fun w' db' hadvanced => ?_
  rw [putWorkflow, ensures_modifyTables, ← hid]
  exact h.advanced hw hadvanced

/-- The work of the rest of the application keeps the invariant. -/
theorem ProductionLive.performForeign (h : ProductionLive db) (works : List ForeignWork) :
    Ensures (LaunchOS.performForeign now works) (fun _ db' => ProductionLive db') db := by
  have hwork : ∀ work : ForeignWork,
      Within Quiet (work.perform (M := M) now JobKey.isProduction RunRef.isProduction) :=
    fun work db => (keepsWithin_perform now (fun _ => rfl) work db).mono fun _ _ hkeeps =>
      { hkeeps with runs := by rw [AgentTables.ownRuns_false, AgentTables.ownRuns_false] }
  have hquiet : Within Quiet (LaunchOS.performForeign (M := M) now works) :=
    within_foldlM (fun _ work => hwork work) ()
  exact (hquiet db).mono fun _ db' hdb' => h.quiet hdb'

/-- The database with a new workflow, whose id has just been taken. -/
def insertWorkflow (w : ProductionWorkflow) (db : AgentDatabase M ProductionTables) :
    AgentDatabase M ProductionTables :=
  { db.applyJobOp 0 .newId with
    tables := { db.tables with domain := { db.tables.domain with
      productionWorkflows := db.tables.domain.productionWorkflows ++ [w] } } }

/-- A new workflow waits for its first job. -/
theorem ProductionLive.insertWorkflow (h : ProductionLive db) (now : Time)
    {w : ProductionWorkflow} (hid : w.id = db.nextId) (hasset : w.assetId = none)
    (hstatus : w.status = .decisionApprovalVerified) :
    ProductionLive ((LaunchOS.insertWorkflow w db).applyJobOp now
      (.createJob (advanceJob w .start))) := by
  have hmem : ∀ w₂ ∈ db.tables.domain.productionWorkflows ++ [w],
      w₂ ∈ db.tables.domain.productionWorkflows ∨ w₂ = w := by
    intro w₂ hw₂
    simpa using hw₂
  have hkeyed : ProductionKeyed (LaunchOS.insertWorkflow w db) := by
    refine ⟨?_, ?_, ?_, ?_, ?_, ?_⟩
    · refine h.ids.append (Table.keysNodup_singleton w) ?_
      simp only [List.mem_singleton, forall_eq, hid]
      exact fun w₂ hw₂ => (h.id_lt w₂ hw₂).ne
    · intro w₂ hw₂
      rcases hmem w₂ hw₂ with hold | rfl
      · exact (h.id_lt w₂ hold).trans (Nat.lt_succ_self _)
      · rw [hid]
        exact Nat.lt_succ_self _
    · intro w₂ hw₂ a ha
      rcases hmem w₂ hw₂ with hold | rfl
      · exact (h.asset_lt w₂ hold a ha).trans (Nat.lt_succ_self _)
      · rw [hasset] at ha
        cases ha
    · intro w₂ hw₂ w₃ hw₃ a ha ha'
      rcases hmem w₂ hw₂ with hold | rfl
      · rcases hmem w₃ hw₃ with hold' | rfl
        · exact h.asset_inj w₂ hold w₃ hold' a ha ha'
        · rw [hasset] at ha'
          cases ha'
      · rw [hasset] at ha
        cases ha
    · exact fun v hv => (h.version_lt v hv).trans (Nat.lt_succ_self _)
    · intro job hjob id suffix hkey
      obtain ⟨hlt, hpayload, hreached⟩ := h.keys job hjob id suffix hkey
      refine ⟨hlt.trans (Nat.lt_succ_self _), hpayload, fun w₂ hw₂ hid₂ => ?_⟩
      rcases hmem w₂ hw₂ with hold | rfl
      · exact hreached w₂ hold hid₂
      · exact absurd (hid₂.symm.trans hid) hlt.ne
  have hw : w ∈ (LaunchOS.insertWorkflow w db).tables.domain.productionWorkflows :=
    List.mem_append_right _ (List.mem_singleton_self w)
  have hstage : w.stage (LaunchOS.insertWorkflow w db).tables.domain = some .start := by
    rw [ProductionWorkflow.stage, hstatus]
  have hunused : ∀ job ∈ (LaunchOS.insertWorkflow w db).jobs,
      job.idempotencyKey ≠ .productionWorkflow w.id .start := by
    intro job hjob hkey
    exact absurd (h.keys job hjob _ _ hkey).1 (by rw [hid]; exact lt_irrefl _)
  obtain ⟨hkeyed', hold, hnew⟩ := hkeyed.enqueueAdvance now hw hstage hunused
  refine ⟨hkeyed', fun w₂ hw₂ hover => ?_⟩
  rcases hmem w₂ hw₂ with hmem₂ | rfl
  · exact hold w₂ _ (h.live w₂ hmem₂ hover)
  · obtain ⟨suffix, hsuffix, job, hjob, hkey, hstatus', -⟩ := hnew
    exact ⟨suffix, hsuffix, job, hjob, hkey, hstatus', trivial⟩

theorem ProductionLive.startProductionWorkflow (h : ProductionLive db) (scope : TenantScope)
    (decisionId : Id) (maxRevisionRounds : ℤ) :
    Ensures (LaunchOS.startProductionWorkflow now scope decisionId maxRevisionRounds)
      (fun _ db' => ProductionLive db') db := by
  rw [LaunchOS.startProductionWorkflow, ensures_bind, ensures_check]
  intro _ _
  rw [ensures_bind, ensures_tables, ensures_bind, ensures_check]
  intro decision _
  rw [ensures_bind, ensures_check]
  intro _ _
  rw [ensures_bind, ensures_check]
  intro _ _
  rw [ensures_bind, ensures_check]
  intro _ _
  rw [ensures_bind, ensures_check]
  intro _ _
  rw [ensures_bind, ensures_check]
  intro approval _
  rw [ensures_bind, ensures_check]
  intro _ _
  split
  next =>
    rw [ensures_bind, ensures_get, ensures_check]
    exact fun _ _ => h
  next =>
    rw [ensures_bind, ensures_newId]
    dsimp only
    rw [ensures_bind, ensures_modifyTables, ensures_bind]
    refine (ensures_enqueueAdvance _).mono ?_
    rintro _ _ rfl
    rw [ensures_pure]
    exact h.insertWorkflow now rfl rfl rfl

/-- A command keeps the invariant. -/
theorem ProductionLive.command (h : ProductionLive db) (c : ProductionCommand) :
    Ensures (c.run now) (fun _ db' => ProductionLive db') db := by
  cases c with
  | startProductionWorkflow scope decisionId maxRevisionRounds =>
      exact h.startProductionWorkflow scope decisionId maxRevisionRounds
  | writeDecisions decisions decisionApprovals evidence =>
      simp only [ProductionCommand.run]
      have hquiet : Within (Quiet (M := M)) (DomainTxn.modifyTables fun t =>
          { t with
            decisions := decisions
            decisionApprovals := decisionApprovals
            evidence := evidence }) :=
        keepsWithin_modifyTables fun _ => ⟨rfl, rfl⟩
      exact (hquiet db).mono fun _ db' hdb' => h.quiet hdb'
  | foreign work => exact h.performForeign [work]

/-- What a handler that returns leaves behind, whatever job it is for: every workflow waits for a
job that is not the handler's own. -/
theorem ProductionLive.handled (h : ProductionLive db) (hwf : db.toJobTable.WellFormed)
    {context : RuntimeJobContext} {answer : DomainAnswer M ProductionAnswer}
    {progress : AgentProgress} {world : Unit} {own : Job} (hown : own ∈ db.jobs)
    (htype : context.jobType = own.jobType)
    (hcommit : (productionApp S).app.handleJob context own.payload now answer progress world db =
      .commit db') :
    ProductionKeyed db' ∧ ∀ w ∈ db'.tables.domain.productionWorkflows, w.ended = false →
      WaitsForJob db' w fun job => job.id ≠ own.id := by
  have hgrows := (productionApp S).app.growth_handleJob hcommit
  have hwf' := hgrows.wellFormed hwf
  -- the job a workflow waits for is one of its own advance jobs
  have hsame : ∀ {w : ProductionWorkflow} {suffix} {job : Job}, ProductionKeyed db' →
      job ∈ db'.jobs → job.uniqueKey = w.advanceKey suffix → job.id = own.id →
        own.jobType = .workflowAdvance ∧ own.payload = .productionAdvance w.id := by
    intro w suffix job hkeyed hjob hkey hid
    have heq : job = own := hwf'.ids.eq_of_key_eq hjob (hgrows.subset hown) hid
    subst heq
    exact ⟨congrArg (fun key => key.2.1) hkey,
      (hkeyed.keys job hjob _ suffix (congrArg (fun key => key.2.2) hkey)).2.1⟩
  have hother : ProductionLive db' →
      (own.jobType = .workflowAdvance → ∀ id, own.payload ≠ .productionAdvance id) →
      ProductionKeyed db' ∧ ∀ w ∈ db'.tables.domain.productionWorkflows, w.ended = false →
        WaitsForJob db' w fun job => job.id ≠ own.id := by
    intro h' hne
    refine ⟨h'.toProductionKeyed, fun w hw hover => ?_⟩
    obtain ⟨suffix, hstage, job, hjob, hkey, hstatus, -⟩ := h'.live w hw hover
    refine ⟨suffix, hstage, job, hjob, hkey, hstatus, fun hid => ?_⟩
    obtain ⟨hadvance, hpayload⟩ := hsame h'.toProductionKeyed hjob hkey hid
    exact hne hadvance w.id hpayload
  rcases (productionApp S).handleJob_cases hcommit with ⟨hdefault, htable, htables⟩ | hhandled
  · refine hother (h.quiet (.of_eq htable htables)) fun hadvance => ?_
    rw [htype, hadvance] at hdefault
    simp at hdefault
  · cases hhandled with
    | terminal hagent =>
        refine hother h fun hadvance => ?_
        rw [htype, hadvance] at hagent
        cases hagent
    | persisted hagent =>
        refine hother (h.quiet ?_) fun hadvance => ?_
        · exact ⟨le_rfl, fun _ hjob => hjob, fun _ hjob _ => hjob, by simp, rfl, rfl⟩
        · rw [htype, hadvance] at hagent
          cases hagent
    | @domain a _ hagent hhandle =>
        have hexec : exec (productionHandler S now a context own.payload) db = .ok db' := hhandle
        unfold productionHandler at hexec
        split at hexec
        next workflowId hadvance hpayload =>
          obtain ⟨hkeyed, hlive⟩ :=
            (productionWorkflowAdvanceHandler_spec h context workflowId).of_exec hexec
          refine ⟨hkeyed, fun w hw hover => ?_⟩
          obtain ⟨suffix, hstage, job, hjob, hkey, hstatus, hyounger⟩ := hlive w hw hover
          refine ⟨suffix, hstage, job, hjob, hkey, hstatus, fun hid => ?_⟩
          have hmine := (hsame hkeyed hjob hkey hid).2
          have hw : w.id = workflowId :=
            JobPayload.productionAdvance.inj (hmine.symm.trans hpayload)
          exact absurd (hwf.id_lt own hown) (not_lt.mpr (hid ▸ hyounger hw))
        next hnone =>
          have hforeign : ProductionLive db' := by
            refine Ensures.of_exec (Q := ProductionLive) ?_ hexec
            rw [ensures_bind, ensures_check]
            exact fun works _ => h.performForeign works
          exact hother hforeign fun hadvance id hpayload =>
            hnone id (htype.trans hadvance) hpayload

end Handlers

/-! ## Runs -/

theorem same_recordAttemptFailure (S : OutputSchemas M) (job : Job) (error : JobError)
    (willRetry : Bool) (now : Time) (t : AgentTables M ProductionTables) :
    SameAssets t.domain
      ((productionApp S).app.recordAttemptFailure job error willRetry now t).domain := by
  simp only [DomainApp.app]
  split
  · unfold recordAgentRunFailure
    split
    · split
      · split <;> exact refl _
      · exact refl _
    · exact refl _
  · exact refl _

theorem quiet_enqueuePendingOutbox (now : Time) (limit : ℕ)
    (db : AgentDatabase M ProductionTables) :
    Quiet db { db with toRuntimeTables := enqueuePendingOutbox now limit db.toRuntimeTables } := by
  unfold enqueuePendingOutbox
  generalize pendingOutbox limit db.outboxEvents = events
  induction events generalizing db with
  | nil => exact refl _
  | cons event events ih =>
      have hcreate : Quiet db (db.applyJobOp now (.createJob (event.dispatchJob now))) :=
        keeps_applyCreateJob now rfl db
      exact trans_of Quiet hcreate (ih _)

/-- Recording a failure writes agent runs and no row that the wake-ups are about. -/
theorem quiet_recordAttemptFailure (S : OutputSchemas M) (worker : Worker) (held : Job)
    (error : JobError) (now : Time) (db : AgentDatabase M ProductionTables) :
    Quiet db { db with
      tables :=
        if worker.handlers held.jobType then
          (productionApp S).app.recordAttemptFailure held error
            (error.retry && decide (held.attemptCount < held.maxAttempts)) now db.tables
        else db.tables } := by
  refine ⟨le_rfl, fun _ hjob => hjob, fun _ hjob _ => hjob, by simp, ?_⟩
  dsimp only
  split
  · exact same_recordAttemptFailure S held error _ now db.tables
  · exact refl _

/-- Every step of the runtime keeps the invariant. -/
theorem productionLive_step (S : OutputSchemas M)
    {s : RuntimeState (AgentTables M ProductionTables) Unit AgentProgress} (hs : s.WellFormed)
    (h : ProductionLive s.db) (action : Action (DomainAnswer M ProductionAnswer) ProductionCommand) :
    ProductionLive ((productionApp S).app.step action s).db := by
  cases action with
  | tick elapsed => exact h
  | command c =>
      simp only [App.step]
      split
      next db hdb => exact Ensures.of_exec (Q := ProductionLive) (h.command c) hdb
      next => exact h
  | claim worker jobId =>
      simp only [App.step]
      split
      next =>
        refine h.rows hs.table _ (by simp) fun job hstatus => ?_
        simp only [JobOp.row]
        split
        · simp [Job.claimedBy]
        · exact hstatus
      next => exact h
  | start a =>
      simp only [App.step]
      split
      next worker ha =>
        unfold RuntimeState.startAttempt
        split
        · exact h
        · split
          · exact h
          · split <;> exact h
      next => exact h
  | proceed a answer =>
      simp only [App.step]
      split
      next worker context payload state ha =>
        cases hstage : (productionApp S).app.handleJob context payload s.now answer state s.world
            s.db with
        | next _ _ => exact h
        | raise _ => exact h
        | commit db =>
            obtain ⟨⟨own, hown, hid, -, -, htype, rfl⟩, -⟩ :=
              hs.serves a worker context payload state ha
            have hwf := ((productionApp S).app.growth_handleJob hstage).wellFormed hs.table
            obtain ⟨hkeyed, hlive⟩ := h.handled hs.table hown htype hstage
            refine hkeyed.rows hwf (.markJobSucceeded a.jobId) (by simp) fun w hw hover => ?_
            obtain ⟨suffix, hsuffix, job, hjob, hkey, hstatus, hne⟩ := hlive w hw hover
            refine ⟨suffix, hsuffix, job, hjob, hkey, hstatus, ?_⟩
            simpa only [JobOp.row, hid ▸ hne, if_false] using hstatus
      next => exact h
  | fault a className message =>
      simp only [App.step]
      split <;> exact h
  | recordFailure a =>
      simp only [App.step]
      split
      next worker error ha =>
        unfold RuntimeState.recordAttemptFailure
        split
        next => exact h
        next held hget =>
          have hrow : ∀ job : Job, job.status ≠ .succeeded →
              ((JobOp.markJobFailedOrRetrying a.jobId error error.retry worker.retryBackoff).row
                s.now job).status ≠ .succeeded := by
            intro job hstatus
            simp only [JobOp.row, Job.markFailedOrRetrying]
            split
            · split <;> simp
            · exact hstatus
          exact (h.quiet (quiet_recordAttemptFailure S worker held error s.now s.db)).rows hs.table
            (.markJobFailedOrRetrying a.jobId error error.retry worker.retryBackoff) (by simp) hrow
      next => exact h
  | crash a => exact h
  | schedule batchSize =>
      have hrecover : ProductionLive (s.db.applyJobOp s.now .recoverExpiredLeases) := by
        refine h.rows hs.table _ (by simp) fun job hstatus => ?_
        simp only [JobOp.row, Job.recoverIfExpired, Job.recoverLease]
        split
        · split <;> simp
        · exact hstatus
      exact hrecover.quiet (quiet_enqueuePendingOutbox s.now batchSize _)

/-- A state with nothing of the runtime in it, no production workflow and no asset. -/
structure RuntimeState.ProductionInitial
    (s : RuntimeState (AgentTables M ProductionTables) Unit AgentProgress) : Prop
    extends RuntimeState.AgentInitial s where
  productionWorkflows : s.db.tables.domain.productionWorkflows = []
  assetVersions : s.db.tables.domain.assetVersions = []

theorem RuntimeState.ProductionInitial.live
    {s : RuntimeState (AgentTables M ProductionTables) Unit AgentProgress}
    (h : s.ProductionInitial) : ProductionLive s.db := by
  refine ⟨⟨?_, ?_, ?_, ?_, ?_, ?_⟩, ?_⟩ <;>
    simp [h.productionWorkflows, h.assetVersions, h.jobs, Table.keysNodup_nil]

theorem productionLive_run (S : OutputSchemas M)
    {s : RuntimeState (AgentTables M ProductionTables) Unit AgentProgress}
    (hs : s.ProductionInitial)
    (actions : List (Action (DomainAnswer M ProductionAnswer) ProductionCommand)) :
    (run (productionApp S).app.step s actions).WellFormed ∧
      ProductionLive (run (productionApp S).app.step s actions).db := by
  refine invariant_run_of_step (productionApp S).app.step
    (I := fun s => s.WellFormed ∧ ProductionLive s.db) ?_ ⟨hs.wellFormed, hs.live⟩ actions
  rintro s action ⟨hwf, h⟩
  exact ⟨hwf.step _ action, productionLive_step S hwf h action⟩

/-- In every run, a production workflow that is not over has a `workflow.advance` job, the one made
for the stage it is in, which is not terminal, or has `FAILED` and says why. -/
theorem production_waits_for_job (S : OutputSchemas M)
    {s : RuntimeState (AgentTables M ProductionTables) Unit AgentProgress}
    (hs : s.ProductionInitial)
    (actions : List (Action (DomainAnswer M ProductionAnswer) ProductionCommand)) :
    ∀ w ∈ (run (productionApp S).app.step s actions).db.tables.domain.productionWorkflows,
      w.ended = false →
        ∃ suffix,
          w.stage (run (productionApp S).app.step s actions).db.tables.domain = some suffix ∧
          ∃ job ∈ (run (productionApp S).app.step s actions).db.jobs,
            job.uniqueKey = w.advanceKey suffix ∧ job.payload = .productionAdvance w.id ∧
            (job.terminal = false ∨
              job.status = .failed ∧ job.errorClass.isSome ∧ job.errorSummary.isSome) := by
  intro w hw hover
  obtain ⟨hwf, hkeyed, hlive⟩ := productionLive_run S hs actions
  obtain ⟨suffix, hstage, job, hjob, hkey, hstatus, -⟩ := hlive w hw hover
  have hpayload : job.payload = .productionAdvance w.id :=
    (hkeyed.keys job hjob w.id suffix (congrArg (fun key => key.2.2) hkey)).2.1
  refine ⟨suffix, hstage, job, hjob, hkey, hpayload, ?_⟩
  simp only [Job.terminal]
  cases hcases : job.status with
  | queued | running | retryWait => exact .inl rfl
  | failed => exact .inr ⟨rfl, (hwf.table.rows job hjob).failed_error hcases⟩
  | succeeded => exact absurd hcases hstatus

/-! ### A workflow that stands still, and one that goes on -/

/-- Before anything has happened. -/
def productionStart : RuntimeState (AgentTables Unit ProductionTables) Unit AgentProgress where
  now := 0
  db := { tables := { domain := {} } }
  world := ()
  attempts _ := none
  history := []

theorem productionStart_initial : productionStart.ProductionInitial where
  jobs := rfl
  outboxEvents := rfl
  attempts _ := rfl
  history := rfl
  agentRuns := rfl
  productionWorkflows := rfl
  assetVersions := rfl

/-- A Decision that is approved for production, and the approval. -/
def approvedDecision : ProductionCommand :=
  .writeDecisions
    [{ id := 7, scope := ⟨"organization", "business"⟩, version := 1, approvedForProduction := true
       snapshotId := some 6 }]
    [{ id := 8, scope := ⟨"organization", "business"⟩, decisionId := 7, objectId := 7
       objectVersionId := 7, objectVersion := 1, approved := true, createdAt := 0 }]
    []

/-- The workflow is started, and its first job waits for the content director. -/
def startedProduction : List (Action (DomainAnswer Unit ProductionAnswer) ProductionCommand) :=
  [.command approvedDecision,
    .command (.startProductionWorkflow ⟨"organization", "business"⟩ 7 1),
    .claim applicationWorker 1, .start ⟨1, 1⟩, .proceed ⟨1, 1⟩ (.domain {})]

/-- The provider refuses, and then the next advance job is delivered. -/
def refusedProduction : List (Action (DomainAnswer Unit ProductionAnswer) ProductionCommand) :=
  startedProduction ++
    [.claim applicationWorker 3, .start ⟨3, 1⟩, .proceed ⟨3, 1⟩ (.agent (.prepared (.ok ()))),
      .proceed ⟨3, 1⟩ (.agent (.invoked (.ok (.refusal none)))),
      .claim applicationWorker 4, .start ⟨4, 1⟩, .proceed ⟨4, 1⟩ (.domain {}),
      .recordFailure ⟨4, 1⟩]

/-- The workflow is still `CONTENT_STRATEGY_RUNNING`, and all of its jobs are terminal. -/
theorem refused_production_stands_still :
    ∃ w ∈ (run (productionApp noSchemas).app.step productionStart
        refusedProduction).db.tables.domain.productionWorkflows,
      w.status = .contentStrategyRunning ∧ w.ended = false ∧
      ∀ job ∈ (run (productionApp noSchemas).app.step productionStart refusedProduction).db.jobs,
        job.payload = .productionAdvance w.id → job.terminal := by
  decide

theorem started_production_waits_for_job :
    ∃ w ∈ (run (productionApp noSchemas).app.step productionStart
        startedProduction).db.tables.domain.productionWorkflows,
        ∃ suffix,
          w.stage (run (productionApp noSchemas).app.step productionStart
            startedProduction).db.tables.domain = some suffix ∧
          ∃ job ∈ (run (productionApp noSchemas).app.step productionStart
              startedProduction).db.jobs,
            job.uniqueKey = w.advanceKey suffix ∧ job.payload = .productionAdvance w.id ∧
            (job.terminal = false ∨
              job.status = .failed ∧ job.errorClass.isSome ∧ job.errorSummary.isSome) := by
  have hwaiting : ∃ w ∈ (run (productionApp noSchemas).app.step productionStart
      startedProduction).db.tables.domain.productionWorkflows, w.ended = false := by decide
  obtain ⟨w, hw, hended⟩ := hwaiting
  exact ⟨w, hw,
    production_waits_for_job noSchemas productionStart_initial startedProduction w hw hended⟩

end LaunchOS
