import LaunchOS.Runtime.Attempts

/-!
# Steps as the domain sees them

Most steps of the runtime move attempts and rows of the `jobs` table and leave the tables of the
domain and the world alone.

The module introduces:

* `App.Effect`: what a step can do to the tables of the domain and to the world;
* `App.effect`: that every step does one of these;
* `App.tables_cases`: the three actions that write the tables of the domain, and what they write;
* `App.running_step`: where the progress of a handler comes from.
-/

namespace LaunchOS

variable {T W L O C : Type}

/-- What a step from `s` does to the database and to the world. -/
inductive App.Effect (A : App T W L O C) (s : RuntimeState T W L) :
    Action O C → Database T → W → Prop
  /-- At most the tables of the runtime are written. -/
  | quiet {action : Action O C} {db : Database T} (hnext : s.db.nextId ≤ db.nextId)
      (htables : db.tables = s.db.tables) : Effect A s action db s.world
  /-- A command commits. -/
  | command {db : Database T} (c : C) (hcommand : A.command s.now c s.db = .ok db) :
      Effect A s (.command c) db s.world
  /-- A handler makes a provider call. -/
  | called {a : AttemptId} {worker : Worker} {context : RuntimeJobContext} {payload : JobPayload}
      {state state' : L} {answer : O} {world : W}
      (ha : s.attempts a = some ⟨worker, .running context payload state⟩)
      (hstage : A.handleJob context payload s.now answer state s.world s.db = .next state' world) :
      Effect A s (.proceed a answer) s.db world
  /-- A handler commits, and its job is marked. -/
  | committed {a : AttemptId} {worker : Worker} {context : RuntimeJobContext}
      {payload : JobPayload} {state : L} {answer : O} {db db' : Database T}
      (ha : s.attempts a = some ⟨worker, .running context payload state⟩)
      (hstage : A.handleJob context payload s.now answer state s.world s.db = .commit db)
      (hnext : db.nextId ≤ db'.nextId) (htables : db'.tables = db.tables) :
      Effect A s (.proceed a answer) db' s.world
  /-- A failure is recorded. -/
  | failed {action : Action O C} {db : Database T} (job : Job) (error : JobError)
      (willRetry : Bool) (hnext : s.db.nextId ≤ db.nextId)
      (htables : db.tables = A.recordAttemptFailure job error willRetry s.now s.db.tables) :
      Effect A s action db s.world

theorem nextId_le_enqueuePendingOutbox (now : Time) (limit : ℕ) (t : RuntimeTables) :
    t.nextId ≤ (enqueuePendingOutbox now limit t).nextId :=
  (growth_foldl_dispatchJob now (pendingOutbox limit t.outboxEvents) t).nextId_le

/-- Every step has an effect. -/
theorem App.effect (A : App T W L O C) (action : Action O C) (s : RuntimeState T W L) :
    A.Effect s action (A.step action s).db (A.step action s).world := by
  have hquiet : ∀ {action : Action O C}, A.Effect s action s.db s.world := .quiet le_rfl rfl
  cases action with
  | tick elapsed => exact hquiet
  | command c =>
      simp only [App.step]
      split
      next db hdb => exact .command c hdb
      next => exact hquiet
  | claim worker jobId =>
      simp only [App.step]
      split
      next => exact .quiet (s.db.toJobTable.nextId_le_apply _ _) rfl
      next => exact hquiet
  | start a =>
      simp only [App.step]
      split
      next worker ha =>
        unfold RuntimeState.startAttempt
        split
        · exact hquiet
        · split
          · exact hquiet
          · split <;> exact hquiet
      next => exact hquiet
  | proceed a answer =>
      simp only [App.step]
      split
      next worker context payload state ha =>
        cases hstage : A.handleJob context payload s.now answer state s.world s.db with
        | next state' world => exact .called ha hstage
        | commit db => exact .committed ha hstage (db.toJobTable.nextId_le_apply _ _) rfl
        | raise error => exact hquiet
      next => exact hquiet
  | fault a className message =>
      simp only [App.step]
      split <;> exact hquiet
  | recordFailure a =>
      simp only [App.step]
      split
      next worker error ha =>
        unfold RuntimeState.recordAttemptFailure
        split
        next => exact hquiet
        next job hget =>
          by_cases hhandler : worker.handlers job.jobType
          · refine .failed job error (error.retry && decide (job.attemptCount < job.maxAttempts))
              (s.db.toJobTable.nextId_le_apply _ _) ?_
            simp only [Database.applyJobOp, hhandler, if_true]
          · refine .quiet (s.db.toJobTable.nextId_le_apply _ _) ?_
            simp only [Database.applyJobOp, hhandler, if_false, Bool.false_eq_true]
      next => exact hquiet
  | crash a => exact hquiet
  | schedule batchSize =>
      have hrecover := s.db.toJobTable.nextId_le_apply s.now .recoverExpiredLeases
      refine .quiet (hrecover.trans ?_) rfl
      exact nextId_le_enqueuePendingOutbox s.now batchSize
        (s.db.toRuntimeTables.applyJobOp s.now .recoverExpiredLeases)

/-- Only a command, a handler that commits and a failure that is recorded write the tables of the
domain. -/
theorem App.tables_cases (A : App T W L O C) (action : Action O C) (s : RuntimeState T W L) :
    (A.step action s).db.tables = s.db.tables ∨
    (∃ c db, action = .command c ∧ A.command s.now c s.db = .ok db ∧ (A.step action s).db = db) ∨
    (∃ a answer worker context payload state db, action = .proceed a answer ∧
      s.attempts a = some ⟨worker, .running context payload state⟩ ∧
      A.handleJob context payload s.now answer state s.world s.db = .commit db ∧
      (A.step action s).db.tables = db.tables) ∨
    ∃ a worker error job, action = .recordFailure a ∧
      s.attempts a = some ⟨worker, .failing error⟩ ∧ getJob a.jobId s.db.jobs = some job ∧
      worker.handlers job.jobType ∧
      (A.step action s).db.tables = A.recordAttemptFailure job error
        (error.retry && decide (job.attemptCount < job.maxAttempts)) s.now s.db.tables := by
  cases action with
  | tick elapsed => exact .inl rfl
  | command c =>
      cases hcommand : A.command s.now c s.db with
      | error error =>
          refine .inl ?_
          simp only [App.step, hcommand]
      | ok db =>
          refine .inr (.inl ⟨c, db, rfl, hcommand, ?_⟩)
          simp only [App.step, hcommand]
  | claim worker jobId =>
      simp only [App.step]
      split <;> exact .inl rfl
  | start a =>
      simp only [App.step]
      split
      · unfold RuntimeState.startAttempt
        repeat' split
        all_goals exact .inl rfl
      · exact .inl rfl
  | proceed a answer =>
      simp only [App.step]
      split
      next worker context payload state ha =>
        cases hstage : A.handleJob context payload s.now answer state s.world s.db with
        | next state' world => exact .inl rfl
        | raise error => exact .inl rfl
        | commit db =>
            exact .inr (.inr (.inl
              ⟨a, answer, worker, context, payload, state, db, rfl, ha, hstage, rfl⟩))
      next => exact .inl rfl
  | fault a className message =>
      simp only [App.step]
      split <;> exact .inl rfl
  | recordFailure a =>
      simp only [App.step]
      split
      next worker error ha =>
        unfold RuntimeState.recordAttemptFailure
        split
        next => exact .inl rfl
        next job hget =>
          -- a worker without a handler for the job records nothing but the job
          by_cases hhandler : worker.handlers job.jobType
          · refine .inr (.inr (.inr ⟨a, worker, error, job, rfl, ha, hget, hhandler, ?_⟩))
            simp only [Database.applyJobOp, hhandler, if_true]
          · refine .inl ?_
            simp only [Database.applyJobOp, hhandler, if_false, Bool.false_eq_true]
      next => exact .inl rfl
  | crash a => exact .inl rfl
  | schedule batchSize => exact .inl rfl

/-- The clock never goes back. -/
theorem App.now_le_step (A : App T W L O C) (action : Action O C) (s : RuntimeState T W L) :
    s.now ≤ (A.step action s).now := by
  cases action with
  | tick elapsed =>
      simp only [App.step, Time] at *
      omega
  | command c =>
      simp only [App.step]
      split <;> exact le_rfl
  | claim worker jobId =>
      simp only [App.step]
      split <;> exact le_rfl
  | start a =>
      simp only [App.step]
      split
      · unfold RuntimeState.startAttempt
        split
        · exact le_rfl
        · split
          · exact le_rfl
          · split <;> exact le_rfl
      · exact le_rfl
  | proceed a answer =>
      simp only [App.step]
      split
      next worker context payload state ha =>
        cases A.handleJob context payload s.now answer state s.world s.db <;> exact le_rfl
      next => exact le_rfl
  | fault a className message =>
      simp only [App.step]
      split <;> exact le_rfl
  | recordFailure a =>
      simp only [App.step]
      split
      · unfold RuntimeState.recordAttemptFailure
        split <;> exact le_rfl
      · exact le_rfl
  | crash a => exact le_rfl
  | schedule batchSize => exact le_rfl

/-- An attempt that is in its handler was there before, or it has just started, or it has made a
call. -/
theorem App.running_step (A : App T W L O C) {action : Action O C} {s : RuntimeState T W L}
    {a : AttemptId} {worker : Worker} {context : RuntimeJobContext} {payload : JobPayload} {state : L}
    (h : (A.step action s).attempts a = some ⟨worker, .running context payload state⟩) :
    s.attempts a = some ⟨worker, .running context payload state⟩ ∨ state = A.start ∨
      ∃ before answer world, action = .proceed a answer ∧
        s.attempts a = some ⟨worker, .running context payload before⟩ ∧
        A.handleJob context payload s.now answer before s.world s.db = .next state world ∧
        (A.step action s).db = s.db ∧ (A.step action s).world = world := by
  have hset : ∀ {b : AttemptId} {attempt : Option (Attempt L)},
      (∀ worker context payload state,
        attempt ≠ some ⟨worker, Phase.running context payload state⟩) →
      (s.setAttempt b attempt).attempts a = some ⟨worker, .running context payload state⟩ →
      s.attempts a = some ⟨worker, .running context payload state⟩ := by
    intro b attempt hattempt hrunning
    have hupdate : Function.update s.attempts b attempt a =
        some ⟨worker, .running context payload state⟩ := hrunning
    by_cases hab : a = b
    · rw [hab, Function.update_self] at hupdate
      exact absurd hupdate (hattempt _ _ _ _)
    · rwa [Function.update_of_ne hab] at hupdate
  cases action with
  | tick elapsed => exact .inl h
  | command c =>
      simp only [App.step] at h
      split at h <;> exact .inl h
  | claim worker' jobId =>
      simp only [App.step] at h
      split at h
      next => exact .inl (hset (by simp) h)
      next => exact .inl h
  | start b =>
      simp only [App.step] at h
      split at h
      next worker' hb =>
        unfold RuntimeState.startAttempt at h
        split at h
        next => exact .inl (hset (by simp) h)
        next job hjob =>
          split at h
          next => exact .inl (hset (by simp) h)
          next =>
            split at h
            next =>
              by_cases hab : a = b
              · subst hab
                simp only [RuntimeState.setAttempt, Function.update_self, Option.some.injEq,
                  Attempt.mk.injEq, Phase.running.injEq] at h
                exact .inr (.inl h.2.2.2.symm)
              · simp only [RuntimeState.setAttempt, Function.update_of_ne hab] at h
                exact .inl h
            next => exact .inl (hset (by simp) h)
      next => exact .inl h
  | proceed b answer =>
      by_cases hab : a = b
      · subst hab
        cases hattempt : s.attempts a with
        | none =>
            simp only [App.step, hattempt] at h
            cases h
        | some attempt =>
            obtain ⟨worker', phase⟩ := attempt
            cases phase with
            | claimed | failing =>
                simp only [App.step, hattempt] at h
                cases h
            | running context' payload' before =>
                simp only [App.step, hattempt] at h ⊢
                cases hstage : A.handleJob context' payload' s.now answer before s.world s.db with
                | next state' world =>
                    rw [hstage] at h
                    simp only [RuntimeState.proceedAttempt, RuntimeState.setAttempt,
                      Function.update_self, Option.some.injEq, Attempt.mk.injEq,
                      Phase.running.injEq] at h
                    obtain ⟨rfl, rfl, rfl, rfl⟩ := h
                    exact .inr (.inr ⟨before, answer, world, rfl, rfl, hstage, rfl, rfl⟩)
                | commit db =>
                    rw [hstage] at h
                    simp [RuntimeState.proceedAttempt, RuntimeState.setAttempt] at h
                | raise error =>
                    rw [hstage] at h
                    simp [RuntimeState.proceedAttempt, RuntimeState.setAttempt] at h
      · left
        cases hattempt : s.attempts b with
        | none => simpa only [App.step, hattempt] using h
        | some attempt =>
            obtain ⟨worker', phase⟩ := attempt
            cases phase with
            | claimed | failing => simpa only [App.step, hattempt] using h
            | running context' payload' before =>
                simp only [App.step, hattempt] at h
                cases hstage : A.handleJob context' payload' s.now answer before s.world s.db <;>
                  rw [hstage] at h <;>
                  simpa only [RuntimeState.proceedAttempt, RuntimeState.setAttempt,
                    Function.update_of_ne hab] using h
  | fault b className message =>
      simp only [App.step] at h
      split at h
      next => exact .inl (hset (by simp) h)
      next => exact .inl (hset (by simp) h)
      next => exact .inl h
  | recordFailure b =>
      simp only [App.step] at h
      split at h
      next worker' error hb =>
        unfold RuntimeState.recordAttemptFailure at h
        split at h <;> exact .inl (hset (by simp) h)
      next => exact .inl h
  | crash b => exact .inl (hset (by simp) h)
  | schedule batchSize => exact .inl h

end LaunchOS
