import LaunchOS.Runtime.Attempts

/-!
# Fencing of superseded attempts

An attempt is current while its job is `RUNNING` under the claim that started it, and superseded
once the job has been claimed again or has left `RUNNING`. `process_job_id` looks at the owner of
the lease when it opens its transaction, but neither its commit nor `_record_failure` looks again.

The module introduces:

* `JobTable.Current`, `JobTable.Superseded`;
* `App.Fenced`: the attempt that a step commits, or whose failure it records, is current;
* `fenced_run`: in a run of fenced steps a superseded attempt changes nothing, at most one attempt
  of a job commits, and terminal jobs stay as they are;
* two runs without the condition in which this fails.
-/

namespace LaunchOS

open Transition

variable {T W L O C : Type}

/-- The attempt holds its job: the job is `RUNNING` and its last claim is the attempt's. -/
def JobTable.Current (t : JobTable) (a : AttemptId) : Prop :=
  ∃ job ∈ t.jobs, job.id = a.jobId ∧ job.status = .running ∧ job.attemptCount = a.number

instance (t : JobTable) (a : AttemptId) : Decidable (t.Current a) := by
  unfold JobTable.Current
  infer_instance

/-- The job has been claimed again since, or it is no longer `RUNNING`. -/
def JobTable.Superseded (t : JobTable) (a : AttemptId) : Prop :=
  ∃ job ∈ t.jobs, job.id = a.jobId ∧ (a.number < job.attemptCount ∨ job.status ≠ .running)

theorem JobTable.Superseded.not_current {t : JobTable} (ht : t.WellFormed) {a : AttemptId}
    (h : t.Superseded a) : ¬ t.Current a := by
  rintro ⟨job, hjob, hid, hstatus, hcount⟩
  obtain ⟨job', hjob', hid', hlater⟩ := h
  have heq : job' = job := ht.ids.eq_of_key_eq hjob' hjob (hid'.trans hid.symm)
  subst heq
  rcases hlater with hlt | hne
  · omega
  · exact hne hstatus

/-- The attempt a step belongs to. -/
def Action.attempt : Action O C → Option AttemptId
  | .start a | .proceed a _ | .fault a _ _ | .recordFailure a | .crash a => some a
  | .tick _ | .command _ | .claim _ _ | .schedule _ => none

/-- An attempt that the step ends in the database is current. -/
def App.Fenced (A : App T W L O C) (s : RuntimeState T W L) (action : Action O C) : Prop :=
  ∀ a ∈ A.ends s action, s.db.Current a

instance (A : App T W L O C) (s : RuntimeState T W L) (action : Action O C) :
    Decidable (A.Fenced s action) := by
  unfold App.Fenced
  infer_instance

/-! ## Terminal jobs -/

/-- A job operation that leaves terminal rows alone. -/
def JobOp.SparesTerminal (t : JobTable) : JobOp → Prop
  | .markJobSucceeded id | .markJobFailedOrRetrying id _ _ _ =>
      ∀ job ∈ t.jobs, job.id = id → job.terminal = false
  | _ => True

theorem JobOp.row_eq_of_terminal {t : JobTable} {op : JobOp} (hop : op.SparesTerminal t)
    {now : Time} {job : Job} (hjob : job ∈ t.jobs) (hterminal : job.terminal) :
    op.row now job = job := by
  cases op with
  | claimJob id worker leaseDuration =>
      have hclaim : job.claimable now = false := by
        unfold Job.claimable
        cases hstatus : job.status <;> simp_all [Job.terminal, JobStatus.terminal]
      simp [JobOp.row, hclaim]
  | markJobSucceeded id | markJobFailedOrRetrying id _ _ _ =>
      have hid : job.id ≠ id := by
        intro hid
        rw [hop job hjob hid] at hterminal
        cases hterminal
      simp [JobOp.row, hid]
  | recoverExpiredLeases =>
      have hexpired : job.expiredRunning now = false := by
        unfold Job.expiredRunning
        cases hstatus : job.status <;> simp_all [Job.terminal, JobStatus.terminal]
      simp [JobOp.row, Job.recoverIfExpired, hexpired]
  | _ => rfl

/-- A fenced step leaves terminal rows alone. -/
theorem App.mem_step_of_terminal (A : App T W L O C) {s : RuntimeState T W L}
    (h : s.db.toJobTable.WellFormed) {action : Action O C} (haction : A.Fenced s action) {job : Job}
    (hjob : job ∈ s.db.jobs) (hterminal : job.terminal) :
    job ∈ (A.step action s).db.jobs := by
  have hspare : ∀ {t : JobTable} (op : JobOp), t.WellFormed → job ∈ t.jobs →
      op.SparesTerminal t → job ∈ (t.apply s.now op).jobs := by
    intro t op ht hmem hop
    have hrow := JobTable.row_mem_apply ht.ids s.now op hmem
    rwa [JobOp.row_eq_of_terminal hop hmem hterminal] at hrow
  suffices hstep : ∀ s' : JobStore, A.StoreStep s action s' → job ∈ s'.table.jobs from
    hstep _ (A.storeStep action s)
  intro s' hs'
  cases hs' with
  | tick elapsed => exact hjob
  | claim worker jobId =>
      exact hspare (.claimJob jobId worker.workerId worker.leaseDuration) h hjob trivial
  | schedule batchSize hgrows =>
      exact hgrows.subset (hspare .recoverExpiredLeases h hjob trivial)
  | @ends _ a hends t hgrows op hop =>
      refine hspare op (hgrows.wellFormed h) (hgrows.subset hjob) ?_
      -- the job that the step marks is the one of the current attempt, so it is `RUNNING`
      obtain ⟨held, hheld, hid, hstatus, -⟩ := haction a hends
      have hmarked : ∀ job' ∈ t.jobs, job'.id = a.jobId → job'.terminal = false := by
        intro job' hjob' hid'
        have heq : job' = held := (hgrows.wellFormed h).ids.eq_of_key_eq hjob'
          (hgrows.subset hheld) (hid'.trans hid.symm)
        simp [heq, Job.terminal, hstatus, JobStatus.terminal]
      cases op <;> first | exact trivial | (cases hop; exact hmarked)
  | grows hends hgrows => exact hgrows.subset hjob

/-! ## Commits -/

/-- A step commits at most one attempt, and then leaves its job `SUCCEEDED`. -/
theorem App.committed_step (A : App T W L O C) {s : RuntimeState T W L} (h : s.WellFormed)
    (action : Action O C) :
    (A.step action s).committed = s.committed ∨
    ∃ a, A.ends s action = some a ∧ (A.step action s).committed = s.committed ++ [a] ∧
      ∃ job ∈ (A.step action s).db.jobs, job.id = a.jobId ∧ job.status = .succeeded := by
  cases action with
  | tick _ | crash _ | schedule _ => exact .inl rfl
  | command c =>
      simp only [App.step]
      split <;> exact .inl rfl
  | claim worker jobId =>
      simp only [App.step]
      split <;> exact .inl rfl
  | start a =>
      simp only [App.step]
      split
      next worker ha =>
        unfold RuntimeState.startAttempt
        split
        · exact .inl rfl
        · split
          · exact .inl rfl
          · split
            · exact .inl (by simp [RuntimeState.committed])
            · exact .inl rfl
      next => exact .inl rfl
  | proceed a answer =>
      simp only [App.step]
      split
      next worker context payload state ha =>
        cases hstage : A.handleJob context payload s.now answer state s.world s.db with
        | next _ _ => exact .inl rfl
        | raise _ => exact .inl rfl
        | commit db =>
            have hgrows := A.growth_handleJob hstage
            obtain ⟨job, hjob, hid, -⟩ := h.live a (by simp [ha])
            refine .inr ⟨a, by simp [App.ends, ha, hstage], ?_, ?_⟩
            · simp [RuntimeState.proceedAttempt, RuntimeState.committed]
            · have hrow := JobTable.row_mem_apply (hgrows.wellFormed h.table).ids s.now
                (.markJobSucceeded a.jobId) (hgrows.subset hjob)
              exact ⟨_, hrow, by simp [hid], by simp [JobOp.row, hid, Job.markSucceeded]⟩
      next => exact .inl rfl
  | fault a className message =>
      simp only [App.step]
      split <;> exact .inl rfl
  | recordFailure a =>
      simp only [App.step]
      split
      next worker error ha =>
        unfold RuntimeState.recordAttemptFailure
        split <;> exact .inl rfl
      next => exact .inl rfl

/-- The invariant of fenced runs: the job of a committed attempt is `SUCCEEDED`, and no two
committed attempts have one job. -/
structure RuntimeState.CommitsOnce (s : RuntimeState T W L) : Prop where
  succeeded : ∀ a ∈ s.committed, ∃ job ∈ s.db.jobs, job.id = a.jobId ∧ job.status = .succeeded
  nodup : (s.committed.map AttemptId.jobId).Nodup

theorem App.commitsOnce_step (A : App T W L O C) {s : RuntimeState T W L} (h : s.WellFormed)
    (honce : s.CommitsOnce) {action : Action O C} (haction : A.Fenced s action) :
    (A.step action s).CommitsOnce := by
  have hold : ∀ a ∈ s.committed, ∃ job ∈ (A.step action s).db.jobs,
      job.id = a.jobId ∧ job.status = .succeeded := by
    intro a ha
    obtain ⟨job, hjob, hid, hstatus⟩ := honce.succeeded a ha
    have hterminal : job.terminal := by simp [Job.terminal, hstatus, JobStatus.terminal]
    exact ⟨job, A.mem_step_of_terminal h.table haction hjob hterminal, hid, hstatus⟩
  rcases A.committed_step h action with heq | ⟨a, hends, heq, hnew⟩
  · exact ⟨by rw [heq]; exact hold, by rw [heq]; exact honce.nodup⟩
  · constructor
    · rw [heq]
      simp only [List.mem_append, List.mem_singleton]
      rintro b (hb | rfl)
      · exact hold b hb
      · exact hnew
    · rw [heq, List.map_append]
      refine honce.nodup.append (List.nodup_singleton _) ?_
      -- a second commit for the job would find it `SUCCEEDED`, but its attempt is current
      obtain ⟨held, hheld, hid, hstatus, -⟩ := haction a hends
      simp only [List.map_cons, List.map_nil, List.disjoint_singleton, List.mem_map, not_exists,
        not_and]
      intro b hb hbid
      obtain ⟨job, hjob, hjobid, hsucceeded⟩ := honce.succeeded b hb
      have hsame : job = held := h.table.ids.eq_of_key_eq hjob hheld
        (hjobid.trans (hbid.trans hid.symm))
      rw [hsame, hstatus] at hsucceeded
      cases hsucceeded

/-! ## Fencing -/

/-- A step of a superseded attempt that does not end it in the database leaves the database
alone. -/
theorem App.db_step_of_ends_eq_none (A : App T W L O C) {s : RuntimeState T W L}
    {action : Action O C} {a : AttemptId} (ha : action.attempt = some a)
    (hends : A.ends s action = none) : (A.step action s).db = s.db := by
  cases action with
  | tick _ | command _ | claim _ _ | schedule _ => cases ha
  | start b =>
      simp only [App.step]
      split
      next worker hb =>
        unfold RuntimeState.startAttempt
        split
        · rfl
        · split
          · rfl
          · split <;> rfl
      next => rfl
  | proceed b answer =>
      simp only [App.step]
      split
      next worker context payload state hb =>
        cases hstage : A.handleJob context payload s.now answer state s.world s.db with
        | commit db => simp [App.ends, hb, hstage] at hends
        | next _ _ => rfl
        | raise _ => rfl
      next => rfl
  | fault b className message =>
      simp only [App.step]
      split <;> rfl
  | recordFailure b =>
      simp only [App.step]
      split
      next worker error hb => simp [App.ends, hb] at hends
      next => rfl
  | crash b => rfl

/-- The attempt that a step ends is the one it belongs to. -/
theorem App.ends_eq_attempt (A : App T W L O C) {s : RuntimeState T W L} {action : Action O C}
    {a b : AttemptId} (ha : action.attempt = some a) (hends : A.ends s action = some b) :
    b = a := by
  cases action with
  | proceed c answer =>
      simp only [App.ends] at hends
      split at hends
      · split at hends
        · exact Option.some.inj (hends.symm.trans ha)
        · cases hends
      · cases hends
  | recordFailure c =>
      simp only [App.ends] at hends
      split at hends
      · exact Option.some.inj (hends.symm.trans ha)
      · cases hends
  | _ => cases hends

theorem App.invariant_fenced_run (A : App T W L O C) {s : RuntimeState T W L} (hs : s.Initial)
    {actions : List (Action O C)} (hactions : Guarded A.step A.Fenced s actions) :
    (run A.step s actions).WellFormed ∧ (run A.step s actions).CommitsOnce := by
  refine invariant_run (I := fun s => s.WellFormed ∧ s.CommitsOnce) ?_ ⟨hs.wellFormed, ?_⟩ hactions
  · rintro s action ⟨hwf, honce⟩ haction
    exact ⟨hwf.step A action, A.commitsOnce_step hwf honce haction⟩
  · constructor <;> simp [RuntimeState.committed, hs.history]

/-- In a run in which only current attempts commit or record a failure, a step of a superseded
attempt leaves the database alone, at most one attempt of every job commits, and a job that is
`SUCCEEDED` or `FAILED` keeps its whole row from then on. -/
theorem fenced_run (A : App T W L O C) {s : RuntimeState T W L} (hs : s.Initial)
    {actions : List (Action O C)} (hactions : Guarded A.step A.Fenced s actions) :
    (∀ before action after a, actions = before ++ action :: after → action.attempt = some a →
      (run A.step s before).db.Superseded a →
        (A.step action (run A.step s before)).db = (run A.step s before).db) ∧
    (∀ a ∈ (run A.step s actions).committed, ∀ b ∈ (run A.step s actions).committed,
      a.jobId = b.jobId → a = b) ∧
    ∀ before after, actions = before ++ after → ∀ job ∈ (run A.step s before).db.jobs,
      job.terminal → job ∈ (run A.step s actions).db.jobs := by
  refine ⟨?_, ?_, ?_⟩
  · rintro before action after a rfl ha hsuperseded
    rw [guarded_append, guarded_cons] at hactions
    obtain ⟨hbefore, haction, -⟩ := hactions
    have hwf := (A.invariant_fenced_run hs hbefore).1
    refine A.db_step_of_ends_eq_none ha ?_
    by_contra hne
    obtain ⟨b, hends⟩ := Option.ne_none_iff_exists'.mp hne
    have hcurrent := haction b hends
    rw [A.ends_eq_attempt ha hends] at hcurrent
    exact hsuperseded.not_current hwf.table hcurrent
  · intro a ha b hb heq
    exact List.inj_on_of_nodup_map (A.invariant_fenced_run hs hactions).2.nodup ha hb heq
  · rintro before after rfl job hjob hterminal
    rw [guarded_append] at hactions
    rw [run_append]
    refine (invariant_run (I := fun s => s.db.toJobTable.WellFormed ∧ job ∈ s.db.jobs) ?_
      ⟨(A.invariant_fenced_run hs hactions.1).1.table, hjob⟩ hactions.2).2
    rintro s action ⟨hwf, hmem⟩ haction
    exact ⟨(A.wellFormed_step action hwf).1, A.mem_step_of_terminal hwf haction hmem hterminal⟩

/-! ### Runs that are not fenced, and one that is -/

/-- A probe job that writes a business event and may be attempted three times. -/
def writingProbe : CreateJob :=
  { singleAttemptProbe with maxAttempts := 3 }

/-- A first attempt outlives its lease of 60 seconds, a second worker claims the job and runs it. -/
def overtaken : List (Action Unit RuntimeCommand) :=
  [.command (.createJob writingProbe (by decide)), .claim (defaultWorker 1) 0, .start ⟨0, 1⟩, .tick 60000000,
    .claim (defaultWorker 2) 0, .start ⟨0, 2⟩, .proceed ⟨0, 2⟩ ()]

/-- Then the first attempt commits as well: the effects of both are there. Or it fails: the job
goes from `SUCCEEDED` to `FAILED`. -/
theorem overtaken_attempt_not_fenced :
    (run defaultApp.step defaultStart (overtaken ++ [.proceed ⟨0, 1⟩ ()])).committed =
        [⟨0, 2⟩, ⟨0, 1⟩] ∧
    (run defaultApp.step defaultStart
        (overtaken ++ [.proceed ⟨0, 1⟩ ()])).db.businessEvents.map BusinessEvent.jobId = [0, 0] ∧
    (run defaultApp.step defaultStart overtaken).db.jobs.map Job.status = [.succeeded] ∧
    (run defaultApp.step defaultStart (overtaken ++ [.fault ⟨0, 1⟩ "OperationalError" "",
        .recordFailure ⟨0, 1⟩])).db.jobs.map Job.status = [.failed] := by
  decide

/-- The overtaken attempt dies instead. -/
theorem overtaken_attempt_crash_fenced :
    (∀ before action after a, overtaken ++ [.crash ⟨0, 1⟩] = before ++ action :: after →
      action.attempt = some a →
      (run defaultApp.step defaultStart before).db.Superseded a →
        (defaultApp.step action (run defaultApp.step defaultStart before)).db =
          (run defaultApp.step defaultStart before).db) ∧
    (∀ a ∈ (run defaultApp.step defaultStart (overtaken ++ [.crash ⟨0, 1⟩])).committed,
      ∀ b ∈ (run defaultApp.step defaultStart (overtaken ++ [.crash ⟨0, 1⟩])).committed,
        a.jobId = b.jobId → a = b) ∧
    ∀ before after, overtaken ++ [.crash ⟨0, 1⟩] = before ++ after →
      ∀ job ∈ (run defaultApp.step defaultStart before).db.jobs, job.terminal →
        job ∈ (run defaultApp.step defaultStart (overtaken ++ [.crash ⟨0, 1⟩])).db.jobs :=
  fenced_run defaultApp defaultStart_initial (by decide)

end LaunchOS
