import LaunchOS.Lib.Run
import LaunchOS.Runtime.Job

/-!
# The job store

The jobs table under any interleaving of the functions of `runtime/repositories.py` and of the
clock. This is the store as its callers see it: each operation may meet any job at any time.

The module introduces:

* `JobOp`, `JobStore.step`: the operations and what they do;
* `JobOp.row`, `JobOp.inserted`: the effect of an operation on one existing row and the row it
  inserts, with `JobStore.step_jobs`, which says that an operation does nothing else;
* `JobTable.WellFormed`: ids and unique keys are distinct, ids come from the supply, and only a
  started `RUNNING` row holds a lease;
* `JobTable.AttemptsBounded`: the attempt budget of the jobs of some types, which every operation
  keeps except a claim that takes over an expired lease of such a job with no attempts left
  (`JobOp.WithinBudget`).
-/

namespace LaunchOS

/-- The jobs table and the clock. -/
structure JobStore where
  now : Time := 0
  table : JobTable := {}

/-- A store with no jobs. -/
def JobStore.empty (now : Time) : JobStore := { now := now }

/-- The operations on the jobs table. -/
inductive JobOp
  | tick (elapsed : ℕ)
  | newId
  | createJob (args : CreateJob)
  | claimJob (id : Id) (worker : WorkerId) (leaseDuration : Duration)
  | markJobSucceeded (id : Id)
  | markJobFailedOrRetrying (id : Id) (error : JobError) (retry : Bool) (retryBackoff : Duration)
  | recoverExpiredLeases

namespace JobTable

/-- `new_id()`: an id no row carries yet. -/
def newId (t : JobTable) : Id × JobTable :=
  (t.nextId, { t with nextId := t.nextId + 1 })

/-- Update the row with primary key `id`. -/
def updateJob (id : Id) (f : Job → Job) (t : JobTable) : JobTable :=
  { t with jobs := Table.modify Job.id id f t.jobs }

/-- One operation at time `now`. A failing `create_job` leaves the table alone. -/
def apply (now : Time) (t : JobTable) : JobOp → JobTable
  | .tick _ => t
  | .newId => t.newId.2
  | .createJob args =>
      match LaunchOS.createJob now args t with
      | .ok (_, t') => t'
      | .error _ => t
  | .claimJob id worker leaseDuration =>
      match LaunchOS.claimJob id worker now leaseDuration t.jobs with
      | some (_, jobs) => { t with jobs := jobs }
      | none => t
  | .markJobSucceeded id => t.updateJob id (Job.markSucceeded now)
  | .markJobFailedOrRetrying id error retry retryBackoff =>
      t.updateJob id (Job.markFailedOrRetrying error retry now retryBackoff)
  | .recoverExpiredLeases => { t with jobs := (LaunchOS.recoverExpiredLeases now t.jobs).2 }

end JobTable

/-- Take one operation; `tick` moves the clock and nothing else does. -/
def JobStore.step (op : JobOp) (s : JobStore) : JobStore where
  now := match op with
    | .tick elapsed => s.now + elapsed
    | _ => s.now
  table := s.table.apply s.now op

/-! ## What one operation does -/

section Rows

variable (now : Time)

/-- The effect of an operation on a row that is already there. -/
def JobOp.row (job : Job) : JobOp → Job
  | .tick _ | .newId | .createJob _ => job
  | .claimJob id worker leaseDuration =>
      if job.id = id ∧ job.claimable now then job.claimedBy worker now leaseDuration else job
  | .markJobSucceeded id => if job.id = id then job.markSucceeded now else job
  | .markJobFailedOrRetrying id error retry retryBackoff =>
      if job.id = id then job.markFailedOrRetrying error retry now retryBackoff else job
  | .recoverExpiredLeases => job.recoverIfExpired now

/-- The rows an operation inserts: the row of a `create_job` that passes its checks and meets
no row with its unique key. -/
def JobOp.inserted (t : JobTable) : JobOp → List Job
  | .createJob args =>
      if args.check.isOk ∧ Table.find Job.uniqueKey args.uniqueKey t.jobs = none then
        [args.row t.nextId now]
      else []
  | _ => []

/-- No operation changes what identifies a job: its id, its unique key, its payload and its
budget. -/
structure Job.SameIdentity (job job' : Job) : Prop where
  id : job'.id = job.id
  scope : job'.scope = job.scope
  jobType : job'.jobType = job.jobType
  idempotencyKey : job'.idempotencyKey = job.idempotencyKey
  payload : job'.payload = job.payload
  payloadSchemaVersion : job'.payloadSchemaVersion = job.payloadSchemaVersion
  maxAttempts : job'.maxAttempts = job.maxAttempts

variable {now} {job : Job}

theorem Job.SameIdentity.refl (job : Job) : job.SameIdentity job := by
  constructor <;> rfl

theorem Job.SameIdentity.uniqueKey {job' : Job} (h : job.SameIdentity job') :
    job'.uniqueKey = job.uniqueKey := by
  simp only [Job.uniqueKey, h.scope, h.jobType, h.idempotencyKey]

theorem Job.sameIdentity_claimedBy (worker : WorkerId) (leaseDuration : Duration) :
    job.SameIdentity (job.claimedBy worker now leaseDuration) := by
  constructor <;> rfl

theorem Job.sameIdentity_markSucceeded : job.SameIdentity (job.markSucceeded now) := by
  constructor <;> rfl

theorem Job.sameIdentity_markFailedOrRetrying (error : JobError) (retry : Bool)
    (retryBackoff : Duration) :
    job.SameIdentity (job.markFailedOrRetrying error retry now retryBackoff) := by
  unfold Job.markFailedOrRetrying
  split <;> constructor <;> rfl

theorem Job.sameIdentity_recoverIfExpired : job.SameIdentity (job.recoverIfExpired now) := by
  unfold Job.recoverIfExpired Job.recoverLease
  split
  · split <;> constructor <;> rfl
  · exact .refl job

theorem JobOp.sameIdentity_row (op : JobOp) : job.SameIdentity (op.row now job) := by
  cases op with
  | tick _ => exact .refl job
  | newId => exact .refl job
  | createJob _ => exact .refl job
  | claimJob id worker leaseDuration =>
      simp only [JobOp.row]
      split
      · exact job.sameIdentity_claimedBy worker leaseDuration
      · exact .refl job
  | markJobSucceeded id =>
      simp only [JobOp.row]
      split
      · exact job.sameIdentity_markSucceeded
      · exact .refl job
  | markJobFailedOrRetrying id error retry retryBackoff =>
      simp only [JobOp.row]
      split
      · exact job.sameIdentity_markFailedOrRetrying error retry retryBackoff
      · exact .refl job
  | recoverExpiredLeases => exact job.sameIdentity_recoverIfExpired

@[simp]
theorem JobOp.row_id (op : JobOp) : (op.row now job).id = job.id :=
  op.sameIdentity_row.id

@[simp]
theorem JobOp.row_uniqueKey (op : JobOp) : (op.row now job).uniqueKey = job.uniqueKey :=
  op.sameIdentity_row.uniqueKey

end Rows

/-! ## Well-formed tables -/

/-- What every reachable row satisfies on its own: a budget of at least one attempt, a lease exactly
while it is `RUNNING`, which it is only once an attempt has started, and an error if it has
`FAILED`. -/
structure Job.WellFormed (job : Job) : Prop where
  maxAttempts_pos : 1 ≤ job.maxAttempts
  lease_iff : job.leaseExpiresAt.isSome ↔ job.status = .running
  attempt_pos : job.status = .running → 1 ≤ job.attemptCount
  queued_fresh : job.status = .queued → job.attemptCount = 0
  failed_error : job.status = .failed → job.errorClass.isSome ∧ job.errorSummary.isSome

/-- The table's constraints: primary keys come from `new_id()` and are distinct, so are the keys
of `uq_jobs_tenant_type_idempotency`, and every row is well formed. -/
structure JobTable.WellFormed (t : JobTable) : Prop where
  ids : Table.KeysNodup Job.id t.jobs
  keys : Table.KeysNodup Job.uniqueKey t.jobs
  id_lt : ∀ job ∈ t.jobs, job.id < t.nextId
  rows : ∀ job ∈ t.jobs, job.WellFormed

theorem JobTable.wellFormed_empty (nextId : Id) : JobTable.WellFormed ⟨nextId, []⟩ where
  ids := Table.keysNodup_nil
  keys := Table.keysNodup_nil
  id_lt := by simp
  rows := by simp

/-- A well-formed table finds every row by its id. -/
theorem JobTable.WellFormed.getJob_eq_some_iff {t : JobTable} (h : t.WellFormed) {id : Id}
    {job : Job} : getJob id t.jobs = some job ↔ job ∈ t.jobs ∧ job.id = id :=
  h.ids.find_eq_some_iff

/-- On distinct ids, the claim's `UPDATE` acts row by row. -/
theorem JobTable.apply_claimJob_jobs {t : JobTable} (ht : Table.KeysNodup Job.id t.jobs)
    (now : Time) (id : Id) (worker : WorkerId) (leaseDuration : Duration) :
    (t.apply now (.claimJob id worker leaseDuration)).jobs =
      t.jobs.map (fun job => (JobOp.claimJob id worker leaseDuration).row now job) := by
  have hskip : (∀ job ∈ t.jobs, job.id = id → job.claimable now = false) →
      t.jobs.map (fun job => (JobOp.claimJob id worker leaseDuration).row now job) = t.jobs := by
    intro h
    refine (List.map_congr_left fun job hjob => ?_).trans (List.map_id' _)
    have hjob := h job hjob
    simp only [JobOp.row]
    rw [if_neg (by grind)]
  simp only [JobTable.apply, LaunchOS.claimJob]
  cases hget : getJob id t.jobs with
  | none =>
      have hne := Table.find_eq_none_iff.mp hget
      exact (hskip fun job hjob hid => absurd hid (hne job hjob)).symm
  | some found =>
      obtain ⟨hfound, hid⟩ := ht.find_eq_some_iff.mp hget
      have honly : ∀ job ∈ t.jobs, job.id = id → job = found :=
        fun job hjob h => ht.eq_of_key_eq hjob hfound (h.trans hid.symm)
      by_cases hclaim : found.claimable now
      · simp only [hclaim, if_true, Table.modify]
        refine List.map_congr_left fun job hjob => ?_
        by_cases hjid : job.id = id
        · simp [JobOp.row, honly job hjob hjid, hid, hclaim]
        · simp [JobOp.row, hjid]
      · simp only [hclaim]
        exact (hskip fun job hjob h => by simpa [honly job hjob h] using hclaim).symm

/-- `create_job` inserts its row, with a fresh id, or leaves the table alone. -/
theorem JobTable.apply_createJob (t : JobTable) (now : Time) (args : CreateJob) :
    t.apply now (.createJob args) =
      { nextId := t.nextId + ((JobOp.createJob args).inserted now t).length
        jobs := t.jobs ++ (JobOp.createJob args).inserted now t } := by
  simp only [JobTable.apply, JobOp.inserted, LaunchOS.createJob]
  cases hcheck : args.check with
  | error error => simp [Except.isOk, Except.toBool]
  | ok _ =>
      cases hfind : Table.find Job.uniqueKey args.uniqueKey t.jobs <;>
        simp [Except.isOk, Except.toBool]

/-- What `create_job` returns: the job that has the unique key, or the row it has just inserted. -/
theorem createJob_eq_ok {now : Time} {args : CreateJob} {t t' : JobTable} {job : Job}
    (h : LaunchOS.createJob now args t = .ok (job, t')) :
    t' = t.apply now (.createJob args) ∧ job ∈ t'.jobs ∧ job.uniqueKey = args.uniqueKey ∧
      (job ∈ t.jobs ∨ job = args.row t.nextId now) := by
  refine ⟨by simp [JobTable.apply, h], ?_⟩
  unfold LaunchOS.createJob at h
  split at h
  next => cases h
  next =>
    split at h
    next existing hfind =>
      cases h
      exact ⟨Table.mem_of_find hfind, Table.key_of_find hfind, .inl (Table.mem_of_find hfind)⟩
    next =>
      cases h
      exact ⟨by simp, rfl, .inr rfl⟩

/-- After a `create_job` that passes its checks there is a job with its unique key. -/
theorem JobTable.exists_uniqueKey_createJob (t : JobTable) (now : Time) (args : CreateJob)
    (hcheck : args.check.isOk) :
    ∃ job ∈ (t.apply now (.createJob args)).jobs, job.uniqueKey = args.uniqueKey := by
  rw [JobTable.apply_createJob]
  cases hfind : Table.find Job.uniqueKey args.uniqueKey t.jobs with
  | some job =>
      exact ⟨job, List.mem_append_left _ (Table.mem_of_find hfind), Table.key_of_find hfind⟩
  | none =>
      refine ⟨args.row t.nextId now, List.mem_append_right _ ?_, rfl⟩
      simp [JobOp.inserted, hfind, hcheck]

/-- Everything an operation does to the rows: it rewrites each row by `JobOp.row` and appends
`JobOp.inserted`. -/
theorem JobTable.apply_jobs {t : JobTable} (ht : Table.KeysNodup Job.id t.jobs) (now : Time)
    (op : JobOp) :
    (t.apply now op).jobs = t.jobs.map (fun job => op.row now job) ++ op.inserted now t := by
  cases op with
  | tick _ => simp [JobTable.apply, JobOp.row, JobOp.inserted]
  | newId => simp [JobTable.apply, JobTable.newId, JobOp.row, JobOp.inserted]
  | createJob args => simp [JobTable.apply_createJob, JobOp.row]
  | claimJob id worker leaseDuration =>
      simp [JobTable.apply_claimJob_jobs ht, JobOp.inserted]
  | markJobSucceeded id =>
      simp [JobTable.apply, JobTable.updateJob, Table.modify, JobOp.row, JobOp.inserted]
  | markJobFailedOrRetrying id error retry retryBackoff =>
      simp [JobTable.apply, JobTable.updateJob, Table.modify, JobOp.row, JobOp.inserted]
  | recoverExpiredLeases =>
      simp [JobTable.apply, LaunchOS.recoverExpiredLeases, JobOp.row, JobOp.inserted]

/-- A row after an operation is an old row rewritten or the inserted one. -/
theorem JobTable.mem_apply_iff {t : JobTable} (ht : Table.KeysNodup Job.id t.jobs) {now : Time}
    {op : JobOp} {job' : Job} :
    job' ∈ (t.apply now op).jobs ↔
      (∃ job ∈ t.jobs, op.row now job = job') ∨ job' ∈ op.inserted now t := by
  rw [JobTable.apply_jobs ht, List.mem_append, List.mem_map]

/-- Every row is still there after an operation, rewritten. -/
theorem JobTable.row_mem_apply {t : JobTable} (ht : Table.KeysNodup Job.id t.jobs) (now : Time)
    (op : JobOp) {job : Job} (hjob : job ∈ t.jobs) : op.row now job ∈ (t.apply now op).jobs :=
  (JobTable.mem_apply_iff ht).mpr (.inl ⟨job, hjob, rfl⟩)

/-- What an inserted row is. -/
theorem JobOp.mem_inserted_iff {now : Time} {t : JobTable} {op : JobOp} {job : Job} :
    job ∈ op.inserted now t ↔
      ∃ args, op = .createJob args ∧ args.check.isOk ∧
        (∀ job' ∈ t.jobs, job'.uniqueKey ≠ args.uniqueKey) ∧ job = args.row t.nextId now := by
  cases op with
  | createJob args =>
      simp only [JobOp.inserted, Table.find_eq_none_iff, JobOp.createJob.injEq, exists_eq_left']
      split
      next h =>
        rw [List.mem_singleton]
        exact ⟨fun hjob => ⟨h.1, h.2, hjob⟩, fun hjob => hjob.2.2⟩
      next h =>
        simp only [List.not_mem_nil, false_iff]
        rintro ⟨hc, hk, -⟩
        exact h ⟨hc, hk⟩
  | _ => simp [JobOp.inserted]

/-- A job that passes the checks of `create_job` has at least one attempt. -/
theorem CreateJob.maxAttempts_pos {args : CreateJob} (h : args.check.isOk) :
    1 ≤ args.maxAttempts := by
  rw [CreateJob.check] at h
  split at h
  · simp [Except.isOk, Except.toBool] at h
  · split at h
    next => simp [Except.isOk, Except.toBool] at h
    next hmax => omega

theorem JobOp.keysNodup_inserted {ι : Type} {key : Job → ι} {now : Time} {t : JobTable}
    (op : JobOp) : Table.KeysNodup key (op.inserted now t) := by
  cases op with
  | createJob args =>
      simp only [JobOp.inserted]
      split
      · exact Table.keysNodup_singleton _
      · exact Table.keysNodup_nil
  | _ => exact Table.keysNodup_nil

/-- Only `new_id` and an insertion take an id from the supply. -/
theorem JobTable.nextId_apply (t : JobTable) (now : Time) (op : JobOp) :
    (t.apply now op).nextId =
      match op with
      | .newId => t.nextId + 1
      | op => t.nextId + (op.inserted now t).length := by
  cases op with
  | createJob args => rw [JobTable.apply_createJob]
  | claimJob id worker leaseDuration =>
      simp only [JobTable.apply, JobOp.inserted]
      split <;> rfl
  | _ => rfl

theorem JobTable.nextId_le_apply (t : JobTable) (now : Time) (op : JobOp) :
    t.nextId ≤ (t.apply now op).nextId := by
  rw [JobTable.nextId_apply]
  cases op <;> simp

/-! ### Well-formedness is kept -/

theorem Job.WellFormed.row {now : Time} {job : Job} (h : job.WellFormed) (op : JobOp) :
    (op.row now job).WellFormed := by
  obtain ⟨hmax, hlease, hpos, hfresh, herror⟩ := h
  cases op with
  | tick _ | newId | createJob _ => exact ⟨hmax, hlease, hpos, hfresh, herror⟩
  | claimJob id worker leaseDuration =>
      simp only [JobOp.row]
      split
      · constructor <;> simp [Job.claimedBy, hmax]
      · exact ⟨hmax, hlease, hpos, hfresh, herror⟩
  | markJobSucceeded id =>
      simp only [JobOp.row]
      split
      · constructor <;> simp [Job.markSucceeded, hmax]
      · exact ⟨hmax, hlease, hpos, hfresh, herror⟩
  | markJobFailedOrRetrying id error retry retryBackoff =>
      simp only [JobOp.row, Job.markFailedOrRetrying]
      split
      · split <;> constructor <;> simp [hmax]
      · exact ⟨hmax, hlease, hpos, hfresh, herror⟩
  | recoverExpiredLeases =>
      simp only [JobOp.row, Job.recoverIfExpired, Job.recoverLease]
      split
      · split <;> constructor <;> simp [hmax]
      · exact ⟨hmax, hlease, hpos, hfresh, herror⟩

theorem CreateJob.wellFormed_row {args : CreateJob} (h : args.check.isOk) (id : Id)
    (now : Time) : (args.row id now).WellFormed := by
  constructor <;> simp [CreateJob.row, CreateJob.maxAttempts_pos h]

/-- Every operation keeps a table well formed. -/
theorem JobTable.WellFormed.apply {t : JobTable} (h : t.WellFormed) (now : Time) (op : JobOp) :
    (t.apply now op).WellFormed := by
  refine ⟨?_, ?_, ?_, ?_⟩
  · rw [JobTable.apply_jobs h.ids]
    refine (h.ids.map fun _ => op.row_id).append op.keysNodup_inserted ?_
    simp only [List.forall_mem_map, JobOp.row_id]
    intro job hjob job' hjob'
    obtain ⟨args, rfl, -, -, rfl⟩ := JobOp.mem_inserted_iff.mp hjob
    exact (h.id_lt job' hjob').ne
  · rw [JobTable.apply_jobs h.ids]
    refine (h.keys.map fun _ => op.row_uniqueKey).append op.keysNodup_inserted ?_
    simp only [List.forall_mem_map, JobOp.row_uniqueKey]
    intro job hjob job' hjob'
    obtain ⟨args, rfl, -, hnew, rfl⟩ := JobOp.mem_inserted_iff.mp hjob
    exact hnew job' hjob'
  · intro job' hjob'
    rcases (JobTable.mem_apply_iff h.ids).mp hjob' with ⟨job, hjob, rfl⟩ | hjob
    · rw [JobOp.row_id]
      exact (h.id_lt job hjob).trans_le (t.nextId_le_apply now op)
    · obtain ⟨args, rfl, -, hnew, rfl⟩ := JobOp.mem_inserted_iff.mp hjob
      rw [JobTable.nextId_apply]
      exact Nat.lt_add_of_pos_right (List.length_pos_of_mem hjob)
  · intro job' hjob'
    rcases (JobTable.mem_apply_iff h.ids).mp hjob' with ⟨job, hjob, rfl⟩ | hjob
    · exact (h.rows job hjob).row op
    · obtain ⟨args, -, hcheck, -, rfl⟩ := JobOp.mem_inserted_iff.mp hjob
      exact CreateJob.wellFormed_row hcheck _ _

/-! ## The attempt budget -/

/-- A row keeps within its budget, and waits for another attempt only if it has one left. -/
structure Job.AttemptsBounded (job : Job) : Prop where
  le : job.attemptCount ≤ job.maxAttempts
  lt_of_waiting : job.status = .queued ∨ job.status = .retryWait →
    job.attemptCount < job.maxAttempts

section Budget

variable (types : JobType → Bool)

/-- Every job of the given types keeps within its budget. -/
def JobTable.AttemptsBounded (t : JobTable) : Prop :=
  ∀ job ∈ t.jobs, types job.jobType → job.AttemptsBounded

/-- A lease has expired on a job with no attempts left. `recover_expired_leases` makes such a job
`FAILED`; `claim_job` takes it over. -/
def Job.exhausted (now : Time) (job : Job) : Bool :=
  job.expiredRunning now && decide (job.maxAttempts ≤ job.attemptCount)

/-- The operation does not claim an exhausted job of the given types. -/
def JobOp.WithinBudget (s : JobStore) : JobOp → Prop
  | .claimJob id _ _ =>
      ∀ job ∈ s.table.jobs, types job.jobType → job.id = id → job.exhausted s.now = false
  | _ => True

instance (s : JobStore) (op : JobOp) : Decidable (op.WithinBudget types s) := by
  cases op <;> unfold JobOp.WithinBudget <;> infer_instance

variable {types}

theorem Job.AttemptsBounded.row {s : JobStore} {op : JobOp} {job : Job} (h : job.AttemptsBounded)
    (hjob : job ∈ s.table.jobs) (htype : types job.jobType) (hop : op.WithinBudget types s) :
    (op.row s.now job).AttemptsBounded := by
  obtain ⟨hle, hlt⟩ := h
  cases op with
  | tick _ | newId | createJob _ => exact ⟨hle, hlt⟩
  | claimJob id worker leaseDuration =>
      simp only [JobOp.row]
      split
      next hclaim =>
        have hlt : job.attemptCount < job.maxAttempts := by
          have hbudget := hop job hjob htype hclaim.1
          have hclaimable := hclaim.2
          revert hbudget hclaimable
          cases hstatus : job.status <;>
            simp_all [Job.exhausted, Job.expiredRunning, Job.claimable]
        exact ⟨hlt, by simp [Job.claimedBy]⟩
      next => exact ⟨hle, hlt⟩
  | markJobSucceeded id =>
      simp only [JobOp.row]
      split
      · exact ⟨hle, by simp [Job.markSucceeded]⟩
      · exact ⟨hle, hlt⟩
  | markJobFailedOrRetrying id error retry retryBackoff =>
      simp only [JobOp.row, Job.markFailedOrRetrying]
      split
      · split
        next hretry =>
          rw [Bool.and_eq_true, decide_eq_true_eq] at hretry
          exact ⟨hle, fun _ => hretry.2⟩
        next => exact ⟨hle, by simp⟩
      · exact ⟨hle, hlt⟩
  | recoverExpiredLeases =>
      simp only [JobOp.row, Job.recoverIfExpired, Job.recoverLease]
      split
      · split
        next => exact ⟨hle, by simp⟩
        next hleft => exact ⟨hle, fun _ => not_le.mp hleft⟩
      · exact ⟨hle, hlt⟩

/-- An operation within the budget keeps the jobs within their budget. -/
theorem JobStore.attemptsBounded_step {s : JobStore} (hwf : s.table.WellFormed)
    (h : s.table.AttemptsBounded types) {op : JobOp} (hop : op.WithinBudget types s) :
    (JobStore.step op s).table.AttemptsBounded types := by
  intro job' hjob' htype
  rcases (JobTable.mem_apply_iff hwf.ids).mp hjob' with ⟨job, hjob, rfl⟩ | hjob
  · rw [op.sameIdentity_row.jobType] at htype
    exact (h job hjob htype).row hjob htype hop
  · obtain ⟨args, -, hcheck, -, rfl⟩ := JobOp.mem_inserted_iff.mp hjob
    exact ⟨by simp [CreateJob.row], fun _ => CreateJob.maxAttempts_pos hcheck⟩

/-- An operation outside the budget breaks it: the claimed row has used one attempt too many. -/
theorem JobStore.not_attemptsBounded_step {s : JobStore} (hwf : s.table.WellFormed) {op : JobOp}
    (hop : ¬ op.WithinBudget types s) : ¬ (JobStore.step op s).table.AttemptsBounded types := by
  cases op with
  | claimJob id worker leaseDuration =>
      simp only [JobOp.WithinBudget, not_forall, Bool.not_eq_false] at hop
      obtain ⟨job, hjob, htype, hid, hexhausted⟩ := hop
      simp only [Job.exhausted, Job.expiredRunning, Bool.and_eq_true, decide_eq_true_eq]
        at hexhausted
      intro hbounded
      have hrow := hbounded _ (JobTable.row_mem_apply hwf.ids s.now _ hjob)
        (by rw [(JobOp.sameIdentity_row _).jobType]; exact htype)
      have hclaim : job.claimable s.now = true := by
        simp [Job.claimable, hexhausted.1.1, hexhausted.1.2]
      have hle := hrow.le
      simp only [JobOp.row, hid, hclaim, and_self, if_true, Job.claimedBy] at hle
      omega
  | _ => simp [JobOp.WithinBudget] at hop

/-- A run within the budget keeps the jobs within their budget. -/
theorem JobStore.attemptsBounded_run {s : JobStore} {ops : List JobOp}
    (hwf : s.table.WellFormed) (hs : s.table.AttemptsBounded types)
    (hops : Transition.Guarded JobStore.step (JobOp.WithinBudget types) s ops) :
    (Transition.run JobStore.step s ops).table.WellFormed ∧
      (Transition.run JobStore.step s ops).table.AttemptsBounded types := by
  refine Transition.invariant_run
    (I := fun s => s.table.WellFormed ∧ s.table.AttemptsBounded types) ?_ ⟨hwf, hs⟩ hops
  rintro s op ⟨hwf, hb⟩ hop
  exact ⟨hwf.apply s.now op, JobStore.attemptsBounded_step hwf hb hop⟩

end Budget

end LaunchOS
