import LaunchOS.Runtime.JobStore

/-!
# The representation of a job

Every function that writes a job writes some of its fields. The module introduces:

* `Job.Represented`: how the lease, the completion and the status of a row go together;
* `JobStore.claimCount`: how often a job is claimed in a run;
* `exists_row_run`, `attemptCount_run`: a row stays, and its `attempt_count` is the number of its
  claims;
* `job_representation`: all of it, in every state of the job store.
-/

namespace LaunchOS

open Transition

/-- A lease exactly while the job is `RUNNING`, and a time of completion exactly when it is over. -/
structure Job.Represented (job : Job) : Prop where
  owner_iff : job.leaseOwner.isSome ↔ job.status = .running
  lease_iff : job.leaseExpiresAt.isSome ↔ job.status = .running
  completed_iff : job.completedAt.isSome ↔ job.status = .succeeded ∨ job.status = .failed

/-- Every operation keeps a row represented. -/
theorem Job.Represented.row {now : Time} {job : Job} (h : job.Represented) (op : JobOp) :
    (op.row now job).Represented := by
  cases op with
  | tick _ | newId | createJob _ => exact h
  | claimJob id worker leaseDuration =>
      simp only [JobOp.row]
      split
      · constructor <;> simp [Job.claimedBy]
      · exact h
  | markJobSucceeded id =>
      simp only [JobOp.row]
      split
      · constructor <;> simp [Job.markSucceeded]
      · exact h
  | markJobFailedOrRetrying id error retry retryBackoff =>
      simp only [JobOp.row, Job.markFailedOrRetrying]
      split
      · split <;> constructor <;> simp
      · exact h
  | recoverExpiredLeases =>
      simp only [JobOp.row, Job.recoverIfExpired]
      split
      next hexpired =>
        -- a row that was `RUNNING` has no time of completion to be cleared
        have hrunning : job.status = .running := by
          rw [Job.expiredRunning, Bool.and_eq_true, decide_eq_true_eq] at hexpired
          exact hexpired.1
        have hopen : job.completedAt = none := by
          have hcompleted := h.completed_iff
          rw [hrunning] at hcompleted
          simpa using hcompleted
        unfold Job.recoverLease
        split <;> constructor <;> simp [hopen]
      next => exact h

theorem CreateJob.represented_row (args : CreateJob) (id : Id) (now : Time) :
    (args.row id now).Represented := by
  constructor <;> simp [CreateJob.row]

namespace JobStore

/-! ## Claims -/

/-- The operation claims the job with the given id. -/
def claims (id : Id) (s : JobStore) : JobOp → Bool
  | .claimJob id' worker leaseDuration =>
      id' = id && (LaunchOS.claimJob id' worker s.now leaseDuration s.table.jobs).isSome
  | _ => false

/-- How often the job with the given id is claimed in a run. -/
def claimCount (id : Id) : JobStore → List JobOp → ℕ
  | _, [] => 0
  | s, op :: ops => (s.claims id op).toNat + claimCount id (JobStore.step op s) ops

variable {s : JobStore}

/-- A job that does not exist is not claimed. -/
theorem claims_eq_false {id : Id} (h : ∀ job ∈ s.table.jobs, job.id ≠ id) (op : JobOp) :
    s.claims id op = false := by
  cases op with
  | claimJob id' worker leaseDuration =>
      rw [claims, Bool.and_eq_false_iff, decide_eq_false_iff_not]
      by_cases hid : id' = id
      · have hnone : getJob id' s.table.jobs = none :=
          Table.find_eq_none_iff.mpr fun job hjob => hid ▸ h job hjob
        simp [claimJob, hnone]
      · exact .inl hid
  | _ => rfl

/-- The operation claims a job that is there if it claims a claimable one. -/
theorem claims_claimJob (hwf : s.table.WellFormed) {job : Job} (hjob : job ∈ s.table.jobs)
    (id : Id) (worker : WorkerId) (leaseDuration : Duration) :
    s.claims job.id (.claimJob id worker leaseDuration) =
      decide (job.id = id ∧ job.claimable s.now = true) := by
  by_cases hid : job.id = id
  · have hget : getJob id s.table.jobs = some job := hwf.getJob_eq_some_iff.mpr ⟨hjob, hid⟩
    by_cases hclaim : job.claimable s.now <;> simp [claims, claimJob, hget, hid, hclaim]
  · simp [claims, hid, Ne.symm hid]

/-- A claim is what counts an attempt. -/
theorem attemptCount_row (hwf : s.table.WellFormed) {job : Job} (hjob : job ∈ s.table.jobs)
    (op : JobOp) :
    (op.row s.now job).attemptCount = job.attemptCount + (s.claims job.id op).toNat := by
  cases op with
  | tick _ | newId | createJob _ => rfl
  | claimJob id worker leaseDuration =>
      rw [claims_claimJob hwf hjob]
      simp only [JobOp.row]
      split
      next hclaim => simp [Job.claimedBy, hclaim]
      next hclaim => simp [hclaim]
  | markJobSucceeded id =>
      simp only [JobOp.row]
      split <;> rfl
  | markJobFailedOrRetrying id error retry retryBackoff =>
      simp only [JobOp.row, Job.markFailedOrRetrying]
      split
      · split <;> rfl
      · rfl
  | recoverExpiredLeases =>
      simp only [JobOp.row, Job.recoverIfExpired, Job.recoverLease]
      split
      · split <;> rfl
      · rfl

/-! ## Runs -/

theorem wellFormed_run (hwf : s.table.WellFormed) (ops : List JobOp) :
    (run JobStore.step s ops).table.WellFormed :=
  invariant_run_of_step _ (I := fun s : JobStore => s.table.WellFormed)
    (fun s op h => h.apply s.now op) hwf ops

/-- A row stays, and counts its claims. -/
theorem exists_row_run (hwf : s.table.WellFormed) {job : Job} (hjob : job ∈ s.table.jobs)
    (ops : List JobOp) :
    ∃ job' ∈ (run JobStore.step s ops).table.jobs, job.SameIdentity job' ∧
      job'.attemptCount = job.attemptCount + claimCount job.id s ops := by
  induction ops generalizing s job with
  | nil => exact ⟨job, hjob, .refl job, rfl⟩
  | cons op ops ih =>
      have hwf' : (JobStore.step op s).table.WellFormed := hwf.apply s.now op
      have hrow : op.row s.now job ∈ (JobStore.step op s).table.jobs :=
        JobTable.row_mem_apply hwf.ids s.now op hjob
      have hsame : job.SameIdentity (op.row s.now job) := op.sameIdentity_row
      obtain ⟨job', hjob', hsame', hcount⟩ := ih hwf' hrow
      refine ⟨job', hjob', ?_, ?_⟩
      · constructor
        · exact hsame'.id.trans hsame.id
        · exact hsame'.scope.trans hsame.scope
        · exact hsame'.jobType.trans hsame.jobType
        · exact hsame'.idempotencyKey.trans hsame.idempotencyKey
        · exact hsame'.payload.trans hsame.payload
        · exact hsame'.payloadSchemaVersion.trans hsame.payloadSchemaVersion
        · exact hsame'.maxAttempts.trans hsame.maxAttempts
      · rw [hcount, attemptCount_row hwf hjob, hsame.id, claimCount, Nat.add_assoc]

/-- A row is an old one, with the attempts it had and its claims, or it has its claims alone. -/
theorem attemptCount_run (hwf : s.table.WellFormed) (ops : List JobOp) {job' : Job}
    (hjob' : job' ∈ (run JobStore.step s ops).table.jobs) :
    (∃ job ∈ s.table.jobs, job.id = job'.id ∧
      job'.attemptCount = job.attemptCount + claimCount job'.id s ops) ∨
    s.table.nextId ≤ job'.id ∧ job'.attemptCount = claimCount job'.id s ops := by
  induction ops generalizing s with
  | nil => exact .inl ⟨job', hjob', rfl, rfl⟩
  | cons op ops ih =>
      have hwf' : (JobStore.step op s).table.WellFormed := hwf.apply s.now op
      -- an id that is not in use yet is not claimed by this operation
      have hunclaimed : s.table.nextId ≤ job'.id → s.claims job'.id op = false := fun hle =>
        claims_eq_false (fun job hjob => ((hwf.id_lt job hjob).trans_le hle).ne) op
      rcases ih hwf' hjob' with ⟨job₁, hjob₁, hid, hcount⟩ | ⟨hle, hcount⟩
      · rcases (JobTable.mem_apply_iff hwf.ids).mp hjob₁ with ⟨job, hjob, rfl⟩ | hinserted
        · rw [JobOp.row_id] at hid
          refine .inl ⟨job, hjob, hid, ?_⟩
          rw [hcount, attemptCount_row hwf hjob, hid, claimCount, Nat.add_assoc]
        · obtain ⟨args, -, -, -, rfl⟩ := JobOp.mem_inserted_iff.mp hinserted
          have hnew : s.table.nextId ≤ job'.id := hid.le
          refine .inr ⟨hnew, ?_⟩
          rw [hcount, claimCount, hunclaimed hnew]
          rfl
      · have hnew := (s.table.nextId_le_apply s.now op).trans hle
        refine .inr ⟨hnew, ?_⟩
        rw [hcount, claimCount, hunclaimed hnew, Bool.toNat_false, Nat.zero_add]

theorem represented_run (hwf : s.table.WellFormed) (h : ∀ job ∈ s.table.jobs, job.Represented)
    (ops : List JobOp) : ∀ job ∈ (run JobStore.step s ops).table.jobs, job.Represented := by
  have hrun := invariant_run_of_step JobStore.step
    (I := fun s : JobStore => s.table.WellFormed ∧ ∀ job ∈ s.table.jobs, job.Represented) ?_
    ⟨hwf, h⟩ ops
  · exact hrun.2
  · rintro s op ⟨hwf, h⟩
    refine ⟨hwf.apply s.now op, fun job' hjob' => ?_⟩
    rcases (JobTable.mem_apply_iff hwf.ids).mp hjob' with ⟨job, hjob, rfl⟩ | hinserted
    · exact (h job hjob).row op
    · obtain ⟨args, -, -, -, rfl⟩ := JobOp.mem_inserted_iff.mp hinserted
      exact args.represented_row _ _

end JobStore

/-- `create_job` with the key of a job returns that job, unless its other arguments are refused, and
leaves the table alone. -/
theorem createJob_of_mem {t : JobTable} (hwf : t.WellFormed) {job : Job} (hjob : job ∈ t.jobs)
    {args : CreateJob} (hkey : args.uniqueKey = job.uniqueKey) (now : Time) :
    createJob now args t = args.check.map fun _ => (job, t) := by
  have hfind : Table.find Job.uniqueKey args.uniqueKey t.jobs = some job :=
    hwf.keys.find_eq_some_iff.mpr ⟨hjob, hkey.symm⟩
  unfold createJob
  rw [hfind]
  cases args.check <;> rfl

/-- In every state of the job store: the fields of a job go together, it has as many attempts as it
was claimed, which never get fewer, its key is its own, and creating it again returns it. -/
theorem job_representation (now : Time) (ops : List JobOp) :
    let s := run JobStore.step (.empty now) ops
    (∀ job ∈ s.table.jobs, job.Represented ∧
      job.attemptCount = JobStore.claimCount job.id (.empty now) ops ∧
      ∀ more, ∃ job' ∈ (run JobStore.step s more).table.jobs, job.SameIdentity job' ∧
        job.attemptCount ≤ job'.attemptCount) ∧
    (∀ job ∈ s.table.jobs, ∀ job' ∈ s.table.jobs, job.uniqueKey = job'.uniqueKey → job = job') ∧
    ∀ job ∈ s.table.jobs, ∀ time args, args.uniqueKey = job.uniqueKey →
      createJob time args s.table = args.check.map fun _ => (job, s.table) := by
  intro s
  have hempty : (JobStore.empty now).table.WellFormed := JobTable.wellFormed_empty 0
  have hwf : s.table.WellFormed := JobStore.wellFormed_run hempty ops
  refine ⟨fun job hjob => ⟨?_, ?_, fun more => ?_⟩, fun job hjob job' hjob' hkey => ?_,
    fun job hjob time args hkey => createJob_of_mem hwf hjob hkey time⟩
  · exact JobStore.represented_run hempty (by simp [JobStore.empty]) ops job hjob
  · rcases JobStore.attemptCount_run hempty ops hjob with ⟨old, hold, -⟩ | ⟨-, hcount⟩
    · simp [JobStore.empty] at hold
    · exact hcount
  · obtain ⟨job', hjob', hsame, hcount⟩ := JobStore.exists_row_run hwf hjob more
    refine ⟨job', hjob', hsame, ?_⟩
    omega
  · exact hwf.keys.eq_of_key_eq hjob hjob' hkey

end LaunchOS
