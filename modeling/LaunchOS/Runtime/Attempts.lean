import LaunchOS.Runtime.Worker
import Mathlib.Data.Finset.Card
import Mathlib.Order.Interval.Finset.Nat

/-!
# Attempts and the attempt budget

What every run of the runtime does to the jobs table and to its attempts.

The module introduces:

* `RuntimeState.store`, `App.StoreStep`, `App.storeStep`: the runtime refines the job store, each
  of its steps being a named operation next to the creation of jobs;
* `JobTable.Extends`: jobs are never deleted, keep their identity and count their attempts upwards;
* `RuntimeState.WellFormed`: every live attempt and every event of the history belongs to a job
  that has counted it, and no handler is called twice in one attempt;
* `attempts_within_budget`: as long as no claim takes over an exhausted job, `attempt_count` stays
  within `max_attempts` and so does the number of handler calls.
-/

namespace LaunchOS

open Transition

variable {T W L O C : Type}

/-! ## The runtime refines the job store -/

/-- The job store a state contains. -/
def RuntimeState.store (s : RuntimeState T W L) : JobStore := ⟨s.now, s.db.toJobTable⟩

/-- The operations by which the domain code and the scheduler's outbox scan add jobs. -/
def JobOp.isGrowth : JobOp → Bool
  | .newId | .createJob _ => true
  | _ => false

/-- `t'` is reached from `t` at time `now` by taking ids and creating jobs. -/
inductive JobTable.Growth (now : Time) (t : JobTable) : JobTable → Prop
  | refl : Growth now t t
  | apply {t' : JobTable} (op : JobOp) (hop : op.isGrowth) :
      Growth now t t' → Growth now t (t'.apply now op)

namespace JobTable.Growth

variable {now : Time} {t t' t'' : JobTable}

theorem trans (h : t.Growth now t') (h' : t'.Growth now t'') : t.Growth now t'' := by
  induction h' with
  | refl => exact h
  | apply op hop _ ih => exact ih.apply op hop

/-- What every growing operation preserves, growth preserves. -/
theorem induct {P : JobTable → Prop} (hstep : ∀ t op, op.isGrowth → P t → P (t.apply now op))
    (h : t.Growth now t') (ht : P t) : P t' := by
  induction h with
  | refl => exact ht
  | apply op hop _ ih => exact hstep _ op hop ih

/-- A growing operation appends what it inserts and leaves the other rows alone. -/
theorem apply_jobs_of_isGrowth {op : JobOp} (hop : op.isGrowth) (t : JobTable) :
    (t.apply now op).jobs = t.jobs ++ op.inserted now t := by
  cases op with
  | newId => simp [JobTable.apply, JobTable.newId, JobOp.inserted]
  | createJob args => rw [JobTable.apply_createJob]
  | _ => cases hop

theorem nextId_le (h : t.Growth now t') : t.nextId ≤ t'.nextId :=
  h.induct (P := fun u => t.nextId ≤ u.nextId)
    (fun u op _ hu => hu.trans (u.nextId_le_apply now op)) le_rfl

theorem subset (h : t.Growth now t') {job : Job} (hjob : job ∈ t.jobs) : job ∈ t'.jobs := by
  refine h.induct (P := fun u => job ∈ u.jobs) (fun u op hop hu => ?_) hjob
  rw [apply_jobs_of_isGrowth hop]
  exact List.mem_append_left _ hu

/-- A row after growth is an old row, or a row that `create_job` has just made. -/
theorem mem_cases (h : t.Growth now t') {job : Job} (hjob : job ∈ t'.jobs) :
    job ∈ t.jobs ∨ ∃ (args : CreateJob) (id : Id),
      args.check.isOk ∧ t.nextId ≤ id ∧ job = args.row id now := by
  induction h with
  | refl => exact .inl hjob
  | @apply u op hop hgrow ih =>
      rw [apply_jobs_of_isGrowth hop, List.mem_append] at hjob
      rcases hjob with hjob | hjob
      · exact ih hjob
      · obtain ⟨args, -, hcheck, -, rfl⟩ := JobOp.mem_inserted_iff.mp hjob
        exact .inr ⟨args, u.nextId, hcheck, hgrow.nextId_le, rfl⟩

/-- Growth keeps a table well formed. -/
theorem wellFormed (h : t.Growth now t') (ht : t.WellFormed) : t'.WellFormed :=
  h.induct (fun _ op _ hu => hu.apply now op) ht

end JobTable.Growth

theorem RuntimeTables.Grows.growth {now : Time} {t t' : RuntimeTables} (h : t.Grows now t') :
    t.toJobTable.Growth now t'.toJobTable := by
  refine h.induct (P := fun u => t.toJobTable.Growth now u.toJobTable) ?_ ?_ ?_ .refl
  · intro u hu
    exact hu.apply .newId rfl
  · intro u args _ hu
    exact hu.apply (.createJob args) rfl
  · intro u scope eventType hu
    exact hu.apply .newId rfl

theorem growth_foldl_dispatchJob (now : Time) (events : List OutboxEvent) (t : RuntimeTables) :
    t.toJobTable.Growth now (events.foldl
      (fun t event => t.applyJobOp now (.createJob (event.dispatchJob now))) t).toJobTable := by
  induction events generalizing t with
  | nil => exact .refl
  | cons event events ih =>
      have hone : t.toJobTable.Growth now
          (t.toJobTable.apply now (.createJob (event.dispatchJob now))) := .apply _ rfl .refl
      exact hone.trans (ih (t.applyJobOp now (.createJob (event.dispatchJob now))))

/-- The dispatch handler leaves the jobs table alone. -/
theorem outboxDispatchHandler_jobTable {context : RuntimeJobContext} {payload : JobPayload}
    {now : Time} {t t' : RuntimeTables} (h : outboxDispatchHandler context payload now t = .ok t') :
    t'.toJobTable = t.toJobTable := by
  cases payload with
  | outboxDispatch outboxEventId =>
      simp only [outboxDispatchHandler] at h
      split at h
      · cases h
      · obtain ⟨-, -, h⟩ := Except.bind_eq_ok_iff.mp h
        split at h <;> cases h <;> rfl
  | _ => cases h

/-- So does the probe handler. -/
theorem runtimeProbeHandler_jobTable {context : RuntimeJobContext} {payload : JobPayload}
    {now : Time} {t t' : RuntimeTables} (h : runtimeProbeHandler context payload now t = .ok t') :
    t'.toJobTable = t.toJobTable := by
  obtain ⟨-, -, h⟩ := Except.bind_eq_ok_iff.mp h
  obtain ⟨-, -, h⟩ := Except.bind_eq_ok_iff.mp h
  obtain ⟨-, -, h⟩ := Except.bind_eq_ok_iff.mp h
  cases h
  rfl

/-- What any handler does to the jobs table. -/
theorem App.growth_handleJob (A : App T W L O C) {context : RuntimeJobContext}
    {payload : JobPayload} {now : Time} {answer : O} {state : L} {world : W} {db db' : Database T}
    (h : A.handleJob context payload now answer state world db = .commit db') :
    db.toJobTable.Growth now db'.toJobTable := by
  have hdefault : ∀ {result : Except JobError RuntimeTables},
      (∀ t', result = .ok t' → t'.toJobTable = db.toJobTable) →
      Stage.ofTables (W := W) (L := L) db result = .commit db' →
      db.toJobTable.Growth now db'.toJobTable := by
    intro result hresult h
    cases result with
    | error e => cases h
    | ok t' =>
        cases h
        rw [show db.toJobTable = t'.toJobTable from (hresult t' rfl).symm]
        exact .refl
  unfold App.handleJob at h
  split at h
  · exact hdefault (fun _ => outboxDispatchHandler_jobTable) h
  · exact hdefault (fun _ => runtimeProbeHandler_jobTable) h
  · exact (A.handle_grows h).growth

/-- The operation ends an attempt of the job. -/
def JobOp.EndsAttempt (jobId : Id) : JobOp → Prop
  | .markJobSucceeded id => id = jobId
  | .markJobFailedOrRetrying id _ _ _ => id = jobId
  | _ => False

/-- The attempt that a step ends in the database: its handler returns and the transaction commits,
or `_record_failure` runs. -/
def App.ends (A : App T W L O C) (s : RuntimeState T W L) : Action O C → Option AttemptId
  | .proceed a answer =>
      match s.attempts a with
      | some ⟨_, .running context payload state⟩ =>
          match A.handleJob context payload s.now answer state s.world s.db with
          | .commit _ => some a
          | _ => none
      | _ => none
  | .recordFailure a =>
      match s.attempts a with
      | some ⟨_, .failing _⟩ => some a
      | _ => none
  | _ => none

/-- The worker of an attempt that has raised and goes to `_record_failure`. -/
def RuntimeState.failingWorker (s : RuntimeState T W L) (a : AttemptId) : Option Worker :=
  match s.attempts a with
  | some ⟨worker, .failing _⟩ => some worker
  | _ => none

/-- What a step may do to the job store. -/
inductive App.StoreStep (A : App T W L O C) (s : RuntimeState T W L) :
    Action O C → JobStore → Prop
  | tick (elapsed : ℕ) : StoreStep A s (.tick elapsed) (JobStore.step (.tick elapsed) s.store)
  | claim (worker : Worker) (jobId : Id) : StoreStep A s (.claim worker jobId)
      (JobStore.step (.claimJob jobId worker.workerId worker.leaseDuration) s.store)
  | schedule (batchSize : ℕ) {t : JobTable}
      (hgrows : (s.db.toJobTable.apply s.now .recoverExpiredLeases).Growth s.now t) :
      StoreStep A s (.schedule batchSize) ⟨s.now, t⟩
  | ends {action : Action O C} {a : AttemptId} (hends : A.ends s action = some a) {t : JobTable}
      (hgrows : s.db.toJobTable.Growth s.now t) (op : JobOp) (hop : op.EndsAttempt a.jobId) :
      StoreStep A s action ⟨s.now, t.apply s.now op⟩
  | grows {action : Action O C} (hends : A.ends s action = none) {t : JobTable}
      (hgrows : s.db.toJobTable.Growth s.now t) : StoreStep A s action ⟨s.now, t⟩

/-- The runtime refines the job store. -/
theorem App.storeStep (A : App T W L O C) (action : Action O C) (s : RuntimeState T W L) :
    A.StoreStep s action (A.step action s).store := by
  cases action with
  | tick elapsed => exact .tick elapsed
  | command c =>
      simp only [App.step]
      split
      next db h => exact .grows rfl (A.command_grows h).growth
      next => exact .grows rfl .refl
  | claim worker jobId =>
      have hstore : (A.step (.claim worker jobId) s).store =
          JobStore.step (.claimJob jobId worker.workerId worker.leaseDuration) s.store := by
        simp only [App.step]
        split
        next => rfl
        next hclaim =>
          simp [RuntimeState.store, JobStore.step, JobTable.apply, hclaim]
      rw [hstore]
      exact .claim worker jobId
  | start a =>
      simp only [App.step]
      split
      next worker h =>
        unfold RuntimeState.startAttempt
        split
        · exact .grows rfl .refl
        · split
          · exact .grows rfl .refl
          · split <;> exact .grows rfl .refl
      next => exact .grows rfl .refl
  | proceed a answer =>
      simp only [App.step]
      split
      next worker context payload state h =>
        cases hstage : A.handleJob context payload s.now answer state s.world s.db with
        | commit db =>
            exact .ends (by simp [App.ends, h, hstage]) (A.growth_handleJob hstage)
              (.markJobSucceeded a.jobId) rfl
        | next state' world' => exact .grows (by simp [App.ends, h, hstage]) .refl
        | raise error => exact .grows (by simp [App.ends, h, hstage]) .refl
      next h =>
        refine .grows ?_ .refl
        simp only [App.ends]
  | fault a className message =>
      simp only [App.step]
      split <;> exact .grows rfl .refl
  | recordFailure a =>
      simp only [App.step]
      split
      next worker error h =>
        unfold RuntimeState.recordAttemptFailure
        split
        next hget =>
          have hsame : s.db.toJobTable.apply s.now
              (.markJobFailedOrRetrying a.jobId error error.retry worker.retryBackoff) =
              s.db.toJobTable := by
            simp only [JobTable.apply, JobTable.updateJob]
            rw [Table.modify_of_find_eq_none hget]
          have hends : A.ends s (.recordFailure a) = some a := by simp [App.ends, h]
          have hstep := App.StoreStep.ends hends .refl
            (.markJobFailedOrRetrying a.jobId error error.retry worker.retryBackoff) rfl
          rw [hsame] at hstep
          exact hstep
        next =>
          exact .ends (by simp [App.ends, h]) .refl
            (.markJobFailedOrRetrying a.jobId error error.retry worker.retryBackoff) rfl
      next h =>
        refine .grows ?_ .refl
        simp only [App.ends]
  | crash a => exact .grows rfl .refl
  | schedule batchSize =>
      exact .schedule batchSize (growth_foldl_dispatchJob s.now _
        (s.db.toRuntimeTables.applyJobOp s.now .recoverExpiredLeases))

/-! ## Jobs persist -/

/-- Every job of `t` is still in `t'`, with the same identity and no fewer attempts. -/
def JobTable.Extends (t t' : JobTable) : Prop :=
  ∀ job ∈ t.jobs, ∃ job' ∈ t'.jobs, job.SameIdentity job' ∧ job.attemptCount ≤ job'.attemptCount

theorem Job.SameIdentity.trans {a b c : Job} (h : a.SameIdentity b) (h' : b.SameIdentity c) :
    a.SameIdentity c where
  id := h'.id.trans h.id
  scope := h'.scope.trans h.scope
  jobType := h'.jobType.trans h.jobType
  idempotencyKey := h'.idempotencyKey.trans h.idempotencyKey
  payload := h'.payload.trans h.payload
  payloadSchemaVersion := h'.payloadSchemaVersion.trans h.payloadSchemaVersion
  maxAttempts := h'.maxAttempts.trans h.maxAttempts

theorem JobTable.Extends.refl (t : JobTable) : t.Extends t :=
  fun job hjob => ⟨job, hjob, .refl job, le_rfl⟩

theorem JobTable.Extends.trans {t t' t'' : JobTable} (h : t.Extends t') (h' : t'.Extends t'') :
    t.Extends t'' := by
  intro job hjob
  obtain ⟨job', hjob', hsame, hle⟩ := h job hjob
  obtain ⟨job'', hjob'', hsame', hle'⟩ := h' job' hjob'
  exact ⟨job'', hjob'', hsame.trans hsame', hle.trans hle'⟩

theorem JobOp.attemptCount_le_row (op : JobOp) (now : Time) (job : Job) :
    job.attemptCount ≤ (op.row now job).attemptCount := by
  cases op with
  | claimJob id worker leaseDuration =>
      simp only [JobOp.row]
      split
      · exact Nat.le_succ _
      · exact le_rfl
  | markJobSucceeded id =>
      simp only [JobOp.row]
      split <;> exact le_rfl
  | markJobFailedOrRetrying id error retry retryBackoff =>
      simp only [JobOp.row, Job.markFailedOrRetrying]
      split
      · split <;> exact le_rfl
      · exact le_rfl
  | recoverExpiredLeases =>
      simp only [JobOp.row, Job.recoverIfExpired, Job.recoverLease]
      split
      · split <;> exact le_rfl
      · exact le_rfl
  | _ => exact le_rfl

theorem JobTable.WellFormed.extends_apply {t : JobTable} (h : t.WellFormed) (now : Time)
    (op : JobOp) : t.Extends (t.apply now op) := fun _ hjob =>
  ⟨_, row_mem_apply h.ids now op hjob, op.sameIdentity_row, op.attemptCount_le_row now _⟩

theorem JobTable.Growth.extends {now : Time} {t t' : JobTable} (h : t.Growth now t') :
    t.Extends t' :=
  fun job hjob => ⟨job, h.subset hjob, .refl job, le_rfl⟩

/-- Every step of the runtime keeps the jobs table well formed and its jobs in place. -/
theorem App.wellFormed_step (A : App T W L O C) (action : Action O C) {s : RuntimeState T W L}
    (h : s.db.toJobTable.WellFormed) :
    (A.step action s).db.toJobTable.WellFormed ∧
      s.db.toJobTable.Extends (A.step action s).db.toJobTable := by
  suffices hstep : ∀ s' : JobStore, A.StoreStep s action s' →
      s'.table.WellFormed ∧ s.db.toJobTable.Extends s'.table from
    hstep _ (A.storeStep action s)
  intro s' hs'
  cases hs' with
  | tick elapsed => exact ⟨h, .refl _⟩
  | claim worker jobId =>
      let op : JobOp := .claimJob jobId worker.workerId worker.leaseDuration
      exact ⟨h.apply s.now op, h.extends_apply s.now op⟩
  | schedule batchSize hgrows =>
      exact ⟨hgrows.wellFormed (h.apply s.now _),
        (h.extends_apply s.now _).trans hgrows.extends⟩
  | ends hends hgrows op hop =>
      have hwf := hgrows.wellFormed h
      exact ⟨hwf.apply s.now op, hgrows.extends.trans (hwf.extends_apply s.now op)⟩
  | grows hends hgrows => exact ⟨hgrows.wellFormed h, hgrows.extends⟩

/-! ## Attempts -/

/-- The attempts whose handler was called. -/
def RuntimeState.started (s : RuntimeState T W L) : List AttemptId :=
  s.history.filterMap fun
    | .started a => some a
    | .committed _ => none

/-- The attempts that committed. -/
def RuntimeState.committed (s : RuntimeState T W L) : List AttemptId :=
  s.history.filterMap fun
    | .started _ => none
    | .committed a => some a

/-- The table counts the attempt. -/
def JobTable.Counted (t : JobTable) (a : AttemptId) : Prop :=
  ∃ job ∈ t.jobs, job.id = a.jobId ∧ 1 ≤ a.number ∧ a.number ≤ job.attemptCount

theorem JobTable.Counted.mono {t t' : JobTable} {a : AttemptId} (h : t.Counted a)
    (hext : t.Extends t') : t'.Counted a := by
  obtain ⟨job, hjob, hid, hpos, hle⟩ := h
  obtain ⟨job', hjob', hsame, hcount⟩ := hext job hjob
  exact ⟨job', hjob', hsame.id.trans hid, hpos, hle.trans hcount⟩

/-- An attempt in its handler works on its own job. -/
def JobTable.Serves (t : JobTable) (a : AttemptId) (context : RuntimeJobContext)
    (payload : JobPayload) : Prop :=
  ∃ job ∈ t.jobs, job.id = a.jobId ∧ context.jobId = job.id ∧ context.scope = job.scope ∧
    context.jobType = job.jobType ∧ payload = job.payload

theorem JobTable.Serves.mono {t t' : JobTable} {a : AttemptId} {context : RuntimeJobContext}
    {payload : JobPayload} (h : t.Serves a context payload) (hext : t.Extends t') :
    t'.Serves a context payload := by
  obtain ⟨job, hjob, hid, hctx, hscope, htype, hpayload⟩ := h
  obtain ⟨job', hjob', hsame, -⟩ := hext job hjob
  exact ⟨job', hjob', hsame.id.trans hid, hctx.trans hsame.id.symm,
    hscope.trans hsame.scope.symm, htype.trans hsame.jobType.symm,
    hpayload.trans hsame.payload.symm⟩

/-- The invariant of the attempts. -/
structure RuntimeState.WellFormed (s : RuntimeState T W L) : Prop where
  table : s.db.toJobTable.WellFormed
  live : ∀ a, s.attempts a ≠ none → s.db.Counted a
  past : ∀ a ∈ s.started, s.db.Counted a
  serves : ∀ a worker context payload state,
    s.attempts a = some ⟨worker, .running context payload state⟩ →
      s.db.Serves a context payload ∧ a ∈ s.started
  fresh : ∀ a worker, s.attempts a = some ⟨worker, .claimed⟩ → a ∉ s.started
  ended : ∀ a ∈ s.committed, a ∈ s.started ∧ s.attempts a = none
  started_nodup : s.started.Nodup
  committed_nodup : s.committed.Nodup

namespace RuntimeState.WellFormed

variable {s s' : RuntimeState T W L}

/-- A step that only changes the tables keeps the invariant. -/
theorem extend (h : s.WellFormed) (hattempts : s'.attempts = s.attempts)
    (hhistory : s'.history = s.history)
    (htable : s'.db.toJobTable.WellFormed ∧ s.db.toJobTable.Extends s'.db.toJobTable) :
    s'.WellFormed := by
  have hstarted : s'.started = s.started := by rw [started, started, hhistory]
  have hcommitted : s'.committed = s.committed := by rw [committed, committed, hhistory]
  obtain ⟨hwf, hext⟩ := htable
  constructor
  · exact hwf
  · intro a ha
    rw [hattempts] at ha
    exact (h.live a ha).mono hext
  · intro a ha
    rw [hstarted] at ha
    exact (h.past a ha).mono hext
  · intro a worker context payload state ha
    rw [hattempts] at ha
    obtain ⟨hserves, hentered⟩ := h.serves a worker context payload state ha
    exact ⟨hserves.mono hext, hstarted ▸ hentered⟩
  · rw [hattempts, hstarted]
    exact h.fresh
  · rw [hattempts, hstarted, hcommitted]
    exact h.ended
  · rw [hstarted]
    exact h.started_nodup
  · rw [hcommitted]
    exact h.committed_nodup

/-- Dropping an attempt keeps the invariant. -/
theorem drop (h : s.WellFormed) (a : AttemptId) : (s.setAttempt a none).WellFormed := by
  have hsub : ∀ b attempt, (s.setAttempt a none).attempts b = some attempt →
      s.attempts b = some attempt := by
    intro b attempt hb
    by_cases hba : b = a
    · simp [setAttempt, hba] at hb
    · simpa [setAttempt, hba] using hb
  constructor
  · exact h.table
  · intro b hb
    obtain ⟨attempt, hattempt⟩ := Option.ne_none_iff_exists'.mp hb
    exact h.live b (by simp [hsub b attempt hattempt])
  · exact h.past
  · intro b worker context payload state hb
    exact h.serves b worker context payload state (hsub b _ hb)
  · intro b worker hb
    exact h.fresh b worker (hsub b _ hb)
  · intro b hb
    refine ⟨(h.ended b hb).1, ?_⟩
    by_contra hne
    obtain ⟨attempt, hattempt⟩ := Option.ne_none_iff_exists'.mp hne
    exact absurd (hsub b attempt hattempt) (by simp [(h.ended b hb).2])
  · exact h.started_nodup
  · exact h.committed_nodup

/-- So does setting an attempt that the table counts and that has not committed. -/
theorem set (h : s.WellFormed) {a : AttemptId} (attempt : Attempt L) (hcounted : s.db.Counted a)
    (hserves : ∀ context payload state, attempt.phase = .running context payload state →
      s.db.Serves a context payload ∧ a ∈ s.started)
    (hfresh : attempt.phase = .claimed → a ∉ s.started) (hover : a ∉ s.committed) :
    (s.setAttempt a (some attempt)).WellFormed := by
  constructor
  · exact h.table
  · intro b hb
    by_cases hba : b = a
    · exact hba ▸ hcounted
    · exact h.live b (by simpa [setAttempt, hba] using hb)
  · exact h.past
  · intro b worker context payload state hb
    by_cases hba : b = a
    · subst hba
      simp only [setAttempt, Function.update_self, Option.some.injEq] at hb
      exact hserves context payload state (by rw [hb])
    · exact h.serves b worker context payload state (by simpa [setAttempt, hba] using hb)
  · intro b worker hb
    by_cases hba : b = a
    · subst hba
      simp only [setAttempt, Function.update_self, Option.some.injEq] at hb
      exact hfresh (by rw [hb])
    · exact h.fresh b worker (by simpa [setAttempt, hba] using hb)
  · intro b hb
    have hba : b ≠ a := fun heq => hover (heq ▸ hb)
    exact ⟨(h.ended b hb).1, by simpa [setAttempt, hba] using (h.ended b hb).2⟩
  · exact h.started_nodup
  · exact h.committed_nodup

/-- Recording the first handler call of an attempt keeps the invariant. -/
theorem addStarted (h : s.WellFormed) {a : AttemptId} (hcounted : s.db.Counted a)
    (hnew : a ∉ s.started) (hphase : ∀ worker, s.attempts a ≠ some ⟨worker, .claimed⟩) :
    RuntimeState.WellFormed { s with history := s.history ++ [.started a] } := by
  have hstarted : RuntimeState.started { s with history := s.history ++ [.started a] } =
      s.started ++ [a] := by simp [started]
  have hcommitted : RuntimeState.committed { s with history := s.history ++ [.started a] } =
      s.committed := by simp [committed]
  constructor
  · exact h.table
  · exact h.live
  · intro b hb
    rw [hstarted, List.mem_append, List.mem_singleton] at hb
    rcases hb with hb | rfl
    · exact h.past b hb
    · exact hcounted
  · intro b worker context payload state hb
    obtain ⟨hserves, hentered⟩ := h.serves b worker context payload state hb
    exact ⟨hserves, by rw [hstarted]; exact List.mem_append_left _ hentered⟩
  · intro b worker hb
    rw [hstarted, List.mem_append, List.mem_singleton, not_or]
    exact ⟨h.fresh b worker hb, fun heq => hphase worker (heq ▸ hb)⟩
  · intro b hb
    rw [hcommitted] at hb
    rw [hstarted, List.mem_append]
    exact ⟨.inl (h.ended b hb).1, (h.ended b hb).2⟩
  · rw [hstarted]
    exact h.started_nodup.append (List.nodup_singleton a) (by simpa using hnew)
  · rw [hcommitted]
    exact h.committed_nodup

/-- So does recording the commit of an attempt that is over. -/
theorem addCommitted (h : s.WellFormed) {a : AttemptId} (hstart : a ∈ s.started)
    (hover : s.attempts a = none) (hnew : a ∉ s.committed) :
    RuntimeState.WellFormed { s with history := s.history ++ [.committed a] } := by
  have hstarted : RuntimeState.started { s with history := s.history ++ [.committed a] } =
      s.started := by simp [started]
  have hcommitted : RuntimeState.committed { s with history := s.history ++ [.committed a] } =
      s.committed ++ [a] := by simp [committed]
  constructor
  · exact h.table
  · exact h.live
  · rw [hstarted]
    exact h.past
  · rw [hstarted]
    exact h.serves
  · rw [hstarted]
    exact h.fresh
  · intro b hb
    rw [hcommitted, List.mem_append, List.mem_singleton] at hb
    rw [hstarted]
    rcases hb with hb | rfl
    · exact h.ended b hb
    · exact ⟨hstart, hover⟩
  · rw [hstarted]
    exact h.started_nodup
  · rw [hcommitted]
    exact h.committed_nodup.append (List.nodup_singleton a) (by simpa using hnew)

/-- A live attempt has not committed. -/
theorem not_committed (h : s.WellFormed) {a : AttemptId} {attempt : Attempt L}
    (ha : s.attempts a = some attempt) : a ∉ s.committed := by
  intro hmem
  rw [(h.ended a hmem).2] at ha
  cases ha

/-- An attempt may turn to failing at any moment. -/
theorem fail (h : s.WellFormed) {a : AttemptId} {attempt : Attempt L}
    (ha : s.attempts a = some attempt) (worker : Worker) (error : JobError) :
    (s.setAttempt a (some ⟨worker, .failing error⟩)).WellFormed :=
  h.set _ (h.live a (by simp [ha])) (by simp) (by simp) (h.not_committed ha)

end RuntimeState.WellFormed

/-- A claim starts an attempt that nothing in the state refers to yet: the number it takes is
larger than every number the job has counted. -/
theorem RuntimeState.WellFormed.claim {s : RuntimeState T W L} (h : s.WellFormed) {worker : Worker}
    {jobId : Id} {claimed : Job} {jobs : List Job}
    (hclaim : claimJob jobId worker.workerId s.now worker.leaseDuration s.db.jobs =
      some (claimed, jobs))
    {db : Database T}
    (hdb : db = s.db.applyJobOp s.now (.claimJob jobId worker.workerId worker.leaseDuration))
    (htable : db.toJobTable.WellFormed ∧ s.db.toJobTable.Extends db.toJobTable) :
    RuntimeState.WellFormed { s.setAttempt ⟨jobId, claimed.attemptCount⟩
      (some ⟨worker, .claimed⟩) with db := db } := by
  obtain ⟨job, hget, hclaimable, rfl⟩ := claimJob_eq_some hclaim
  obtain ⟨hjob, hid⟩ := h.table.getJob_eq_some_iff.mp hget
  have hnew : ¬ s.db.Counted ⟨jobId, job.attemptCount + 1⟩ := by
    rintro ⟨job', hjob', hid', -, hle⟩
    have heq : job' = job := h.table.ids.eq_of_key_eq hjob' hjob (hid'.trans hid.symm)
    subst heq
    exact absurd hle (by simp)
  have hextended : RuntimeState.WellFormed { s with db := db } := h.extend rfl rfl htable
  refine hextended.set _ ?_ (by simp) (fun _ hmem => hnew (h.past _ hmem))
    fun hmem => hnew (h.past _ (h.ended _ hmem).1)
  have hrow := JobTable.row_mem_apply h.table.ids s.now
    (.claimJob jobId worker.workerId worker.leaseDuration) hjob
  refine ⟨_, by rw [hdb]; exact hrow, ?_, by simp [Job.claimedBy], ?_⟩
  · rw [JobOp.row_id, hid]
  · simp [JobOp.row, hid, hclaimable]

theorem RuntimeState.wellFormed_startAttempt (A : App T W L O C) {s : RuntimeState T W L}
    (h : s.WellFormed) {a : AttemptId} {worker : Worker}
    (ha : s.attempts a = some ⟨worker, .claimed⟩) : (s.startAttempt A a worker).WellFormed := by
  unfold RuntimeState.startAttempt
  split
  next => exact h.fail ha worker _
  next job hget =>
    obtain ⟨hjob, hid⟩ := h.table.getJob_eq_some_iff.mp hget
    split
    · exact h.drop a
    · split
      next =>
        -- the attempt enters its handler: drop it, record the call, put it back
        have hcounted : s.db.Counted a := h.live a (by simp [ha])
        have hcalled := (h.drop a).addStarted hcounted (h.fresh a worker ha)
          (by simp [RuntimeState.setAttempt])
        have hset := hcalled.set ⟨worker, .running job.context job.payload A.start⟩
          hcounted ?_ (by simp)
          (by simpa [RuntimeState.committed, RuntimeState.setAttempt] using h.not_committed ha)
        · simpa [RuntimeState.setAttempt] using hset
        · intro context payload state hphase
          simp only [Phase.running.injEq] at hphase
          obtain ⟨rfl, rfl, -⟩ := hphase
          exact ⟨⟨job, hjob, hid, rfl, rfl, rfl, rfl⟩, by simp [RuntimeState.started]⟩
      next => exact h.fail ha worker _

theorem RuntimeState.wellFormed_proceedAttempt {s : RuntimeState T W L} (h : s.WellFormed)
    {a : AttemptId} {worker : Worker} {context : RuntimeJobContext} {payload : JobPayload}
    {state : L} (ha : s.attempts a = some ⟨worker, .running context payload state⟩)
    (stage : Stage T W L)
    (htable : (s.proceedAttempt a worker context payload stage).db.toJobTable.WellFormed ∧
      s.db.toJobTable.Extends (s.proceedAttempt a worker context payload stage).db.toJobTable) :
    (s.proceedAttempt a worker context payload stage).WellFormed := by
  obtain ⟨hserves, hentered⟩ := h.serves a worker context payload state ha
  have hcounted : s.db.Counted a := h.live a (by simp [ha])
  have hover := h.not_committed ha
  cases stage with
  | next state' world =>
      have hset := h.set ⟨worker, .running context payload state'⟩ hcounted ?_
        (by simp) hover
      · exact hset.extend rfl rfl ⟨hset.table, .refl _⟩
      · intro context' payload' state'' hphase
        simp only [Phase.running.injEq] at hphase
        obtain ⟨rfl, rfl, -⟩ := hphase
        exact ⟨hserves, hentered⟩
  | commit db =>
      -- write the tables, then close the attempt and record its commit
      have hwritten : RuntimeState.WellFormed
          { s with db := db.applyJobOp s.now (.markJobSucceeded a.jobId) } :=
        h.extend rfl rfl htable
      exact (hwritten.drop a).addCommitted hentered (by simp [RuntimeState.setAttempt]) hover
  | raise error => exact h.fail ha worker error

/-- Every step keeps the invariant of the attempts. -/
theorem RuntimeState.WellFormed.step (A : App T W L O C) {s : RuntimeState T W L}
    (h : s.WellFormed) (action : Action O C) : (A.step action s).WellFormed := by
  have htable := A.wellFormed_step action h.table
  cases action with
  | tick elapsed => exact h.extend rfl rfl htable
  | command c =>
      simp only [App.step] at htable ⊢
      split
      next db hdb => exact h.extend rfl rfl (by simpa only [hdb] using htable)
      next => exact h
  | claim worker jobId =>
      simp only [App.step] at htable ⊢
      split
      next job jobs hclaim =>
        simp only [hclaim] at htable
        exact h.claim hclaim rfl htable
      next => exact h
  | start a =>
      simp only [App.step]
      split
      next worker ha => exact RuntimeState.wellFormed_startAttempt A h ha
      next => exact h
  | proceed a answer =>
      simp only [App.step] at htable ⊢
      split
      next worker context payload state ha =>
        simp only [ha] at htable
        exact RuntimeState.wellFormed_proceedAttempt h ha _ htable
      next => exact h
  | fault a className message =>
      simp only [App.step]
      split
      next worker ha => exact h.fail ha worker _
      next worker context payload state ha => exact h.fail ha worker _
      next => exact h
  | recordFailure a =>
      simp only [App.step] at htable ⊢
      split
      next worker error ha =>
        simp only [ha] at htable
        unfold RuntimeState.recordAttemptFailure at htable ⊢
        split
        next => exact h.drop a
        next job hget =>
          simp only [hget] at htable
          exact (h.drop a).extend rfl rfl htable
      next => exact h
  | crash a => exact h.drop a
  | schedule batchSize => exact h.extend rfl rfl htable

theorem RuntimeState.Initial.wellFormed {s : RuntimeState T W L} (h : s.Initial) :
    s.WellFormed := by
  have hjobs : s.db.toJobTable = ⟨s.db.nextId, []⟩ := by
    rw [← h.jobs]
  constructor
  · rw [hjobs]
    exact JobTable.wellFormed_empty _
  · intro a ha
    exact absurd (h.attempts a) ha
  · simp [RuntimeState.started, h.history]
  · intro a worker context payload state ha
    simp [h.attempts a] at ha
  · intro a worker ha
    simp [h.attempts a] at ha
  · simp [RuntimeState.committed, h.history]
  · simp [RuntimeState.started, h.history]
  · simp [RuntimeState.committed, h.history]

/-- Every run keeps the invariant of the attempts. -/
theorem RuntimeState.WellFormed.run (A : App T W L O C) {s : RuntimeState T W L}
    (h : s.WellFormed) (actions : List (Action O C)) : (run A.step s actions).WellFormed :=
  invariant_run_of_step _ (fun _ action hs => hs.step A action) h actions

/-! ## The attempt budget -/

/-- How often a handler was called for a job. -/
def RuntimeState.startCount (s : RuntimeState T W L) (jobId : Id) : ℕ :=
  (s.started.filter fun a => a.jobId = jobId).length

/-- A handler is called at most once for every attempt the job counts. -/
theorem RuntimeState.WellFormed.startCount_le {s : RuntimeState T W L} (h : s.WellFormed)
    {job : Job} (hjob : job ∈ s.db.jobs) : s.startCount job.id ≤ job.attemptCount := by
  let starts := s.started.filter fun a => a.jobId = job.id
  have hmem : ∀ a ∈ starts, a.jobId = job.id ∧ a.number ∈ Finset.Icc 1 job.attemptCount := by
    intro a ha
    obtain ⟨hstart, hid⟩ : a ∈ s.started ∧ a.jobId = job.id := by simpa [starts] using ha
    obtain ⟨job', hjob', hid', hpos, hle⟩ := h.past a hstart
    have heq : job' = job := h.table.ids.eq_of_key_eq hjob' hjob (hid'.trans hid)
    exact ⟨hid, Finset.mem_Icc.mpr ⟨hpos, heq ▸ hle⟩⟩
  have hnodup : (starts.map AttemptId.number).Nodup := by
    refine (h.started_nodup.filter _).map_on ?_
    rintro ⟨jobId, number⟩ ha ⟨jobId', number'⟩ hb heq
    have hjobId : jobId = jobId' := (hmem _ ha).1.trans (hmem _ hb).1.symm
    have hnumber : number = number' := heq
    rw [hjobId, hnumber]
  calc s.startCount job.id = (starts.map AttemptId.number).toFinset.card := by
        rw [List.toFinset_card_of_nodup hnodup, List.length_map]
        rfl
    _ ≤ (Finset.Icc 1 job.attemptCount).card := by
        refine Finset.card_le_card fun number hnumber => ?_
        obtain ⟨a, ha, rfl⟩ := List.mem_map.mp (List.mem_toFinset.mp hnumber)
        exact (hmem a ha).2
    _ = job.attemptCount := by simp

section Budget

variable {types : JobType → Bool}

/-- The step claims no exhausted job of the given types. -/
def Action.WithinBudget (types : JobType → Bool) (s : RuntimeState T W L) : Action O C → Prop
  | .claim worker jobId =>
      (JobOp.claimJob jobId worker.workerId worker.leaseDuration).WithinBudget types s.store
  | _ => True

instance (s : RuntimeState T W L) (action : Action O C) :
    Decidable (action.WithinBudget types s) := by
  cases action <;> unfold Action.WithinBudget <;> infer_instance

theorem JobTable.Growth.attemptsBounded {now : Time} {t t' : JobTable} (h : t.Growth now t')
    (hbounded : t.AttemptsBounded types) : t'.AttemptsBounded types := by
  intro job hjob htype
  rcases h.mem_cases hjob with hold | ⟨args, id, hcheck, -, rfl⟩
  · exact hbounded job hold htype
  · exact ⟨by simp [CreateJob.row], fun _ => CreateJob.maxAttempts_pos hcheck⟩

/-- A step within the budget keeps the jobs within their budget. -/
theorem App.attemptsBounded_step (A : App T W L O C) {s : RuntimeState T W L}
    (h : s.db.toJobTable.WellFormed) (hbounded : s.db.AttemptsBounded types)
    {action : Action O C} (haction : action.WithinBudget types s) :
    (A.step action s).db.AttemptsBounded types := by
  suffices hstep : ∀ s' : JobStore, A.StoreStep s action s' → s'.table.AttemptsBounded types from
    hstep _ (A.storeStep action s)
  intro s' hs'
  cases hs' with
  | tick elapsed => exact hbounded
  | claim worker jobId => exact JobStore.attemptsBounded_step (s := s.store) h hbounded haction
  | schedule batchSize hgrows =>
      exact hgrows.attemptsBounded (JobStore.attemptsBounded_step (s := s.store) h hbounded
        (show JobOp.WithinBudget types s.store .recoverExpiredLeases from trivial))
  | @ends _ _ _ t hgrows op hop =>
      refine JobStore.attemptsBounded_step (s := ⟨s.now, t⟩) (hgrows.wellFormed h)
        (hgrows.attemptsBounded hbounded) ?_
      cases op <;> trivial
  | grows hends hgrows => exact hgrows.attemptsBounded hbounded

theorem App.attemptsBounded_run (A : App T W L O C) {s : RuntimeState T W L} (h : s.WellFormed)
    (hbounded : s.db.AttemptsBounded types) {actions : List (Action O C)}
    (hactions : Guarded A.step (Action.WithinBudget types) s actions) :
    (run A.step s actions).WellFormed ∧ (run A.step s actions).db.AttemptsBounded types := by
  refine invariant_run (I := fun s => s.WellFormed ∧ s.db.AttemptsBounded types) ?_
    ⟨h, hbounded⟩ hactions
  rintro s action ⟨hs, hb⟩ haction
  exact ⟨hs.step A action, A.attemptsBounded_step hs.table hb haction⟩

end Budget

/-- All job types. -/
def allJobTypes : JobType → Bool := fun _ => true

/-- As long as no claim takes over an exhausted job, no job uses more attempts than it has: in the
job store under any order of its operations, and in the runtime, where moreover no handler is called
more often than that. -/
theorem attempts_within_budget (A : App T W L O C) {s : RuntimeState T W L} (hs : s.Initial)
    {actions : List (Action O C)}
    (hactions : Guarded A.step (Action.WithinBudget allJobTypes) s actions)
    {now : Time} {ops : List JobOp}
    (hops : Guarded JobStore.step (JobOp.WithinBudget allJobTypes) (.empty now) ops) :
    (∀ job ∈ (run JobStore.step (.empty now) ops).table.jobs,
      job.attemptCount ≤ job.maxAttempts) ∧
    ∀ job ∈ (run A.step s actions).db.jobs, job.attemptCount ≤ job.maxAttempts ∧
      (run A.step s actions).startCount job.id ≤ job.maxAttempts := by
  constructor
  · intro job hjob
    have hempty : (JobStore.empty now).table.AttemptsBounded allJobTypes := by
      simp [JobTable.AttemptsBounded, JobStore.empty]
    exact ((JobStore.attemptsBounded_run (JobTable.wellFormed_empty 0) hempty hops).2
      job hjob rfl).le
  · intro job hjob
    have hempty : s.db.AttemptsBounded allJobTypes := by
      simp [JobTable.AttemptsBounded, hs.jobs]
    obtain ⟨hwf, hbounded⟩ := A.attemptsBounded_run hs.wellFormed hempty hactions
    have hle := (hbounded job hjob rfl).le
    exact ⟨hle, (hwf.startCount_le hjob).trans hle⟩

/-! ### A run that breaks the budget and one that keeps it -/

/-- A probe job with a single attempt. -/
def singleAttemptProbe : CreateJob where
  scope := ⟨"organization", "business"⟩
  jobType := .runtimeProbe
  payload := .runtimeProbe { writeBusinessEvent := true }
  idempotencyKey := .other "probe"
  maxAttempts := 1

/-- The job is claimed, its lease of 60 seconds expires, and a second delivery claims it again
before the scheduler has run. -/
def exhaustedClaim : List JobOp :=
  [.createJob singleAttemptProbe, .claimJob 0 1 60000000, .tick 60000000, .claimJob 0 2 60000000]

/-- The same in the runtime, where both attempts call the handler. -/
def exhaustedStart : List (Action Unit RuntimeCommand) :=
  [.command (.createJob singleAttemptProbe (by decide)), .claim (defaultWorker 1) 0, .start ⟨0, 1⟩,
    .tick 60000000, .claim (defaultWorker 2) 0, .start ⟨0, 2⟩]

theorem exhausted_claim_exceeds_budget :
    (∃ job ∈ (run JobStore.step (.empty 0) exhaustedClaim).table.jobs,
      job.maxAttempts < job.attemptCount) ∧
    ∃ job ∈ (run defaultApp.step defaultStart exhaustedStart).db.jobs,
      job.maxAttempts < (run defaultApp.step defaultStart exhaustedStart).startCount job.id := by
  decide

/-- The same deliveries with a run of the scheduler before the second. -/
def recoveredClaim : List JobOp :=
  [.createJob singleAttemptProbe, .claimJob 0 1 60000000, .tick 60000000, .recoverExpiredLeases,
    .claimJob 0 2 60000000]

/-- The same in the runtime. -/
def recoveredStart : List (Action Unit RuntimeCommand) :=
  [.command (.createJob singleAttemptProbe (by decide)), .claim (defaultWorker 1) 0, .start ⟨0, 1⟩,
    .tick 60000000, .schedule 100, .claim (defaultWorker 2) 0, .start ⟨0, 2⟩]

theorem recovered_claim_within_budget :
    (∀ job ∈ (run JobStore.step (.empty 0) recoveredClaim).table.jobs,
      job.attemptCount ≤ job.maxAttempts) ∧
    ∀ job ∈ (run defaultApp.step defaultStart recoveredStart).db.jobs,
      job.attemptCount ≤ job.maxAttempts ∧
      (run defaultApp.step defaultStart recoveredStart).startCount job.id ≤ job.maxAttempts :=
  attempts_within_budget defaultApp defaultStart_initial (by decide) (by decide)

end LaunchOS
