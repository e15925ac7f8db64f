import LaunchOS.AiRuntime.DomainSteps
import LaunchOS.AiRuntime.PendingRuns
import LaunchOS.Runtime.Fencing

/-!
# Agent runs and the job they are bound to

`AgentRunJobHandler.handle` refuses a run that is bound to another job than its own. Its
`record_attempt_failure` compares the tenants of run and job only.

The module introduces:

* `Job.Intrudes`: a job names a pending run of its tenant that is bound to another job;
* `Action.SparesBindings`: a worker records no failure of such a job;
* `RuntimeState.RunsBound`: a handler that is past its checks works on a run of its own job;
* `bound_run_kept`: in a run of such steps only the attempts of its job change a run;
* `find_recordFailure_of_intrudes`: a step that is none of them overwrites the run;
* a run in which a second job of the tenant fails the run of the first, and one in which it does
  not.
-/

namespace LaunchOS

open Transition

variable {M T O C : Type}

/-- The job names a pending run of its tenant, which is bound to another job. -/
def Job.Intrudes (job : Job) (agentRun : AgentRun M) : Prop :=
  job.jobType.isAgentRun ∧ job.payload = .agentRun agentRun.id ∧ job.scope = agentRun.scope ∧
    agentRun.terminal = false ∧ agentRun.jobId ≠ none ∧ agentRun.jobId ≠ some job.id

instance (job : Job) (agentRun : AgentRun M) : Decidable (job.Intrudes agentRun) := by
  unfold Job.Intrudes
  infer_instance

/-- No failure is recorded for a job that names a pending run bound to another. -/
def Action.SparesBindings (s : RuntimeState (AgentTables M T) Unit AgentProgress) :
    Action (DomainAnswer M O) C → Prop
  | .recordFailure a => ∀ worker ∈ s.failingWorker a, ∀ job ∈ s.db.jobs, job.id = a.jobId →
      worker.handlers job.jobType → ∀ agentRun ∈ s.db.tables.agentRuns, ¬ job.Intrudes agentRun
  | _ => True

instance (s : RuntimeState (AgentTables M T) Unit AgentProgress) :
    (action : Action (DomainAnswer M O) C) → Decidable (action.SparesBindings s)
  | .recordFailure a => inferInstanceAs (Decidable (∀ worker ∈ s.failingWorker a, ∀ job ∈ s.db.jobs,
      job.id = a.jobId → worker.handlers job.jobType →
        ∀ agentRun ∈ s.db.tables.agentRuns, ¬ job.Intrudes agentRun))
  | .tick _ | .command _ | .claim _ _ | .start _ | .proceed _ _ | .fault _ _ _ | .crash _
  | .schedule _ => inferInstanceAs (Decidable True)

/-! ## The rows of the runs -/

/-- Domain code leaves the runs alone that are there. -/
theorem AgentGrows.agentRuns_subset {now : Time} {db db' : AgentDatabase M T}
    (h : AgentGrows now db db') : db.tables.agentRuns ⊆ db'.tables.agentRuns := by
  induction h with
  | refl => exact List.Subset.refl _
  | domain _ _ ih | newId _ ih | createJob _ _ _ _ ih | outboxEvent _ _ _ ih => exact ih
  | createAgentRun args hinsert _ ih =>
      obtain ⟨job, -, -, -, -, rfl⟩ := insertAgentRun_eq_ok hinsert
      intro agentRun hrun
      exact List.mem_append_left _ (ih hrun)

/-- The runs it inserts have new ids. -/
theorem AgentGrows.issued {now : Time} {db db' : AgentDatabase M T} (h : AgentGrows now db db')
    (hissued : Table.Issued AgentRun.id db.nextId db.tables.agentRuns) :
    Table.Issued AgentRun.id db'.nextId db'.tables.agentRuns := by
  induction h with
  | refl => exact hissued
  | domain _ _ ih => exact ih
  | newId _ ih | outboxEvent _ _ _ ih => exact ih.mono (Nat.le_succ _)
  | @createJob db' args _ _ _ ih => exact ih.mono (db'.toJobTable.nextId_le_apply now _)
  | @createAgentRun db' db'' args _ hinsert _ ih =>
      obtain ⟨job, -, -, -, rfl, rfl⟩ := insertAgentRun_eq_ok hinsert
      -- the run takes the next id before its job takes one
      have hnew : db'.nextId < (db'.applyJobOp now .newId).nextId := Nat.lt_succ_self _
      exact ih.concat le_rfl (hnew.trans_le
        ((db'.applyJobOp now .newId).toJobTable.nextId_le_apply now _))

/-- An update of one run that keeps its identity keeps that of all. -/
theorem AgentTables.sameIdentity_updateRun {t : AgentTables M T} (id : Id)
    {f : AgentRun M → AgentRun M} (hf : ∀ agentRun, AgentRun.SameIdentity agentRun (f agentRun)) :
    ∀ agentRun ∈ t.agentRuns, ∃ agentRun' ∈ (t.updateRun id f).agentRuns,
      agentRun.SameIdentity agentRun' := by
  intro agentRun hrun
  by_cases hid : agentRun.id = id
  · exact ⟨f agentRun, Table.mem_modify_of_eq hrun hid, hf agentRun⟩
  · exact ⟨agentRun, Table.mem_modify_of_ne hrun hid, .refl agentRun⟩

/-- Every run keeps its identity in every step. -/
theorem DomainApp.sameIdentity_step (D : DomainApp M T O C)
    (s : RuntimeState (AgentTables M T) Unit AgentProgress) (action : Action (DomainAnswer M O) C) :
    ∀ agentRun ∈ s.db.tables.agentRuns,
      ∃ agentRun' ∈ (D.app.step action s).db.tables.agentRuns, agentRun.SameIdentity agentRun' := by
  have hsubset : ∀ {t : AgentTables M T}, s.db.tables.agentRuns ⊆ t.agentRuns →
      ∀ agentRun ∈ s.db.tables.agentRuns, ∃ agentRun' ∈ t.agentRuns,
        agentRun.SameIdentity agentRun' :=
    fun hsub agentRun hrun => ⟨agentRun, hsub hrun, .refl agentRun⟩
  rcases D.app.tables_cases action s with hsame | ⟨c, db, -, hcommand, hdb⟩ |
    ⟨a, answer, worker, context, payload, state, db, -, -, hstage, htables⟩ |
    ⟨a, worker, error, job, -, -, -, -, htables⟩
  · rw [hsame]
    exact hsubset (List.Subset.refl _)
  · rw [hdb]
    exact hsubset (D.command_grows hcommand).agentRuns_subset
  · rw [htables]
    rcases D.handleJob_cases hstage with ⟨-, -, hsame⟩ | hhandled
    · rw [hsame]
      exact hsubset (List.Subset.refl _)
    · cases hhandled with
      | terminal => exact hsubset (List.Subset.refl _)
      | persisted _ _ hidentity => exact AgentTables.sameIdentity_updateRun _ hidentity
      | domain _ hok => exact hsubset (D.handle_grows hok).agentRuns_subset
  · rw [htables]
    simp only [DomainApp.app]
    split
    · rcases recordAgentRunFailure_cases job error
        (error.retry && decide (job.attemptCount < job.maxAttempts)) s.now s.db.tables with
        hsame | ⟨runId, f, hf, hupdated⟩
      · rw [hsame]
        exact hsubset (List.Subset.refl _)
      · rw [hupdated]
        exact AgentTables.sameIdentity_updateRun runId hf
    · exact hsubset (List.Subset.refl _)

/-! ## What a handler works on -/

/-- A run that the handler has loaded is the one its payload names, and of its own job. -/
theorem loadAgentRun_eq_some {context : RuntimeJobContext} {payload : JobPayload}
    {runs : List (AgentRun M)} {agentRun : AgentRun M}
    (h : loadAgentRun context payload runs = .ok (some agentRun)) :
    agentRun ∈ runs ∧ payload = .agentRun agentRun.id ∧
      (agentRun.jobId = none ∨ agentRun.jobId = some context.jobId) := by
  unfold loadAgentRun at h
  split at h
  next agentRunId =>
    split at h
    next => cases h
    next found hfind =>
      obtain ⟨-, -, h⟩ := Except.bind_eq_ok_iff.mp h
      split at h
      next => cases h
      next hbinding =>
        split at h
        next => cases h
        next =>
          cases h
          refine ⟨Table.mem_of_find hfind, by rw [Table.key_of_find hfind], ?_⟩
          by_cases hnone : agentRun.jobId = none
          · exact .inl hnone
          · exact .inr (not_not.mp fun hne => hbinding ⟨hnone, hne⟩)
  next => cases h

/-- The handler of agent runs sends its request once it has loaded the run. -/
theorem DomainApp.handleJob_eq_next (D : DomainApp M T O C) {context : RuntimeJobContext}
    {payload : JobPayload} {now startedAt : Time} {answer : DomainAnswer M O}
    {progress : AgentProgress} {world world' : Unit} {db : AgentDatabase M T}
    (hagent : context.jobType.isAgentRun)
    (h : D.app.handleJob context payload now answer progress world db =
      .next (.invoking startedAt) world') :
    progress = .invoking startedAt ∨
      ∃ agentRun, loadAgentRun context payload db.tables.agentRuns = .ok (some agentRun) := by
  have hstage : D.handleStage context payload now answer progress db =
      .next (.invoking startedAt) world' := by
    unfold App.handleJob at h
    split at h
    next htype => simp [htype, JobType.isAgentRun] at hagent
    next htype => simp [htype, JobType.isAgentRun] at hagent
    next => exact h
  unfold DomainApp.handleStage at hstage
  rw [if_pos hagent] at hstage
  split at hstage
  next answer =>
    unfold agentRunJobHandler at hstage
    split at hstage
    next result =>
      split at hstage
      next => cases hstage
      next => cases hstage
      next agentRun hload => exact .inr ⟨agentRun, hload⟩
    next => split at hstage <;> cases hstage
    next =>
      cases hstage
      exact .inl rfl
  next =>
    cases hstage
    exact .inl rfl

/-- When it commits, it has found the run terminal, or it writes the run it has loaded. -/
theorem DomainApp.handleJob_eq_commit (D : DomainApp M T O C) {context : RuntimeJobContext}
    {payload : JobPayload} {now : Time} {answer : DomainAnswer M O} {progress : AgentProgress}
    {world : Unit} {db db' : AgentDatabase M T} (hagent : context.jobType.isAgentRun)
    (h : D.app.handleJob context payload now answer progress world db = .commit db') :
    db' = db ∨ ∃ startedAt runId, ∃ f : AgentRun M → AgentRun M,
      progress = .invoking startedAt ∧ payload = .agentRun runId ∧
        db' = { db with tables := db.tables.updateRun runId f } := by
  have hstage : D.handleStage context payload now answer progress db = .commit db' := by
    unfold App.handleJob at h
    split at h
    next htype => simp [htype, JobType.isAgentRun] at hagent
    next htype => simp [htype, JobType.isAgentRun] at hagent
    next => exact h
  unfold DomainApp.handleStage at hstage
  rw [if_pos hagent] at hstage
  split at hstage
  next answer =>
    unfold agentRunJobHandler at hstage
    split at hstage
    next result =>
      split at hstage
      next => cases hstage
      next =>
        cases hstage
        exact .inl rfl
      next => split at hstage <;> cases hstage
    next startedAt result =>
      split at hstage
      next runId persist _ =>
        cases hstage
        exact .inr ⟨startedAt, runId, _, rfl, rfl, rfl⟩
      next => cases hstage
      next => cases hstage
    next => cases hstage
  next => cases hstage

/-! ## The failure of another job -/

section Failure

variable {t : AgentTables M T} {job : Job} {agentRun : AgentRun M}

/-- A job that does not intrude on a run of another job leaves it alone when it fails. -/
theorem mem_recordAgentRunFailure (hids : Table.KeysNodup AgentRun.id t.agentRuns)
    (hrun : agentRun ∈ t.agentRuns) (hagent : job.jobType.isAgentRun)
    (hbound : agentRun.jobId ≠ none) (hother : agentRun.jobId ≠ some job.id)
    (hspared : ¬ job.Intrudes agentRun) (error : JobError) (willRetry : Bool) (now : Time) :
    agentRun ∈ (recordAgentRunFailure job error willRetry now t).agentRuns := by
  unfold recordAgentRunFailure
  split
  next runId hpayload =>
    by_cases hid : agentRun.id = runId
    · subst hid
      rw [(hids.find_eq_some_iff).mpr ⟨hrun, rfl⟩]
      by_cases hskip : agentRun.terminal ∨ job.scope ≠ agentRun.scope
      · simpa only [if_pos hskip] using hrun
      · -- the code compares nothing else
        rw [not_or, not_not] at hskip
        exact absurd ⟨hagent, hpayload, hskip.2, by simpa using hskip.1, hbound, hother⟩ hspared
    · split
      next =>
        split
        next => exact hrun
        next => exact Table.mem_modify_of_ne hrun hid
      next => exact hrun
  next => exact hrun

/-- The failure of a job that intrudes is recorded in the run of the other job. -/
theorem find_recordAgentRunFailure (hids : Table.KeysNodup AgentRun.id t.agentRuns)
    (hrun : agentRun ∈ t.agentRuns) (hintrudes : job.Intrudes agentRun) (error : JobError)
    (willRetry : Bool) (now : Time) :
    Table.find AgentRun.id agentRun.id (recordAgentRunFailure job error willRetry now t).agentRuns =
      some (agentRun.recordFailure error willRetry now) := by
  obtain ⟨-, hpayload, hscope, hpending, -, -⟩ := hintrudes
  have hfind : Table.find AgentRun.id agentRun.id t.agentRuns = some agentRun :=
    hids.find_eq_some_iff.mpr ⟨hrun, rfl⟩
  unfold recordAgentRunFailure
  rw [hpayload]
  simp only [hfind]
  rw [if_neg (by simp [hpending, hscope])]
  have hsame : ∀ r : AgentRun M, r.id = agentRun.id →
      (r.recordFailure error willRetry now).id = agentRun.id := fun _ hid => hid
  rw [AgentTables.updateRun, Table.find_modify_self hsame, hfind]
  rfl

end Failure

/-! ## The run of a handler that is past its checks -/

/-- The ids of the runs are their own, and a handler that has sent its request works on a run that
is bound to no other job. -/
structure RuntimeState.RunsBound (s : RuntimeState (AgentTables M T) Unit AgentProgress) :
    Prop where
  issued : Table.Issued AgentRun.id s.db.nextId s.db.tables.agentRuns
  invoking : ∀ a worker context payload startedAt,
    s.attempts a = some ⟨worker, .running context payload (.invoking startedAt)⟩ →
      context.jobType.isAgentRun → ∃ agentRun ∈ s.db.tables.agentRuns,
        payload = .agentRun agentRun.id ∧
        (agentRun.jobId = none ∨ agentRun.jobId = some context.jobId)

theorem RuntimeState.AgentInitial.runsBound
    {s : RuntimeState (AgentTables M T) Unit AgentProgress} (h : s.AgentInitial) : s.RunsBound where
  issued := by
    rw [h.agentRuns]
    exact Table.issued_nil
  invoking a worker context payload startedAt ha := by
    rw [h.attempts a] at ha
    cases ha

theorem DomainApp.issued_step (D : DomainApp M T O C)
    {s : RuntimeState (AgentTables M T) Unit AgentProgress}
    (h : Table.Issued AgentRun.id s.db.nextId s.db.tables.agentRuns)
    (action : Action (DomainAnswer M O) C) :
    Table.Issued AgentRun.id (D.app.step action s).db.nextId
      (D.app.step action s).db.tables.agentRuns := by
  refine D.tables_step (I := fun n t => Table.Issued AgentRun.id n t.agentRuns)
    (fun hle h => h.mono hle) (fun runId f hf h => ⟨?_, ?_⟩) h
    (fun c db hcommand => (D.command_grows hcommand).issued h)
    (fun context payload answer db hhandle => (D.handle_grows hhandle).issued h) action
  · exact h.nodup.modify fun agentRun _ hid => (hf agentRun).id.trans hid
  · intro agentRun' hrun'
    rcases Table.mem_modify_cases hrun' with ⟨agentRun, hrun, -, rfl⟩ | ⟨hrun, -⟩
    · rw [(hf agentRun).id]
      exact h.lt agentRun hrun
    · exact h.lt agentRun' hrun

/-- The runtime keeps it in every step: a run that was loaded keeps its id and its binding. -/
theorem DomainApp.runsBound_step (D : DomainApp M T O C)
    {s : RuntimeState (AgentTables M T) Unit AgentProgress} (h : s.RunsBound)
    (action : Action (DomainAnswer M O) C) : (D.app.step action s).RunsBound where
  issued := D.issued_step h.issued action
  invoking a worker context payload startedAt ha hagent := by
    have hloaded : ∃ agentRun ∈ s.db.tables.agentRuns, payload = .agentRun agentRun.id ∧
        (agentRun.jobId = none ∨ agentRun.jobId = some context.jobId) := by
      rcases D.app.running_step ha with hbefore | hstart |
        ⟨before, answer, world, -, hbefore, hnext, -, -⟩
      · exact h.invoking a worker context payload startedAt hbefore hagent
      · cases hstart
      · rcases D.handleJob_eq_next hagent hnext with rfl | ⟨agentRun, hload⟩
        · exact h.invoking a worker context payload startedAt hbefore hagent
        · exact ⟨agentRun, loadAgentRun_eq_some hload⟩
    obtain ⟨agentRun, hrun, hpayload, hbinding⟩ := hloaded
    obtain ⟨agentRun', hrun', hsame⟩ := D.sameIdentity_step s action agentRun hrun
    exact ⟨agentRun', hrun', by rw [hpayload, hsame.id], by rwa [hsame.jobId]⟩

/-! ## Only the job of a run decides it -/

/-- A step that is no attempt of the job of a run leaves the run alone, if it spares the bindings. -/
theorem DomainApp.mem_agentRuns_step (D : DomainApp M T O C)
    {s : RuntimeState (AgentTables M T) Unit AgentProgress} (hs : s.WellFormed) (h : s.RunsBound)
    {action : Action (DomainAnswer M O) C} (hspares : action.SparesBindings s)
    {agentRun : AgentRun M} (hrun : agentRun ∈ s.db.tables.agentRuns) {jobId : Id}
    (hbound : agentRun.jobId = some jobId)
    (hother : ∀ a, action.attempt = some a → a.jobId ≠ jobId) :
    agentRun ∈ (D.app.step action s).db.tables.agentRuns := by
  rcases D.app.tables_cases action s with hsame | ⟨c, db, -, hcommand, hdb⟩ |
    ⟨a, answer, worker, context, payload, state, db, rfl, ha, hstage, htables⟩ |
    ⟨a, worker, error, job, rfl, ha, hget, hhandler, htables⟩
  · rw [hsame]
    exact hrun
  · rw [hdb]
    exact (D.command_grows hcommand).agentRuns_subset hrun
  · rw [htables]
    by_cases hagent : context.jobType.isAgentRun
    · rcases D.handleJob_eq_commit hagent hstage with rfl | ⟨startedAt, runId, f, rfl, rfl, rfl⟩
      · exact hrun
      · -- the run that is written was loaded by this attempt, so it is not bound to another job
        obtain ⟨loaded, hloaded, hpayload, hbinding⟩ :=
          h.invoking a worker context _ startedAt ha hagent
        obtain ⟨⟨served, -, hserved, hcontext, -⟩, -⟩ := hs.serves a worker context _ _ ha
        have hid : runId = loaded.id := JobPayload.agentRun.inj hpayload
        refine Table.mem_modify_of_ne hrun fun hnamed => ?_
        have heq : agentRun = loaded :=
          h.issued.nodup.eq_of_key_eq hrun hloaded (hnamed.trans hid)
        subst heq
        rcases hbinding with hnone | hsome
        · rw [hbound] at hnone
          cases hnone
        · have hjob : jobId = a.jobId := by
            rw [← hserved, ← hcontext]
            exact Option.some.inj (hbound.symm.trans hsome)
          exact hother a rfl hjob.symm
    · rcases D.handleJob_cases hstage with ⟨-, -, hsame⟩ | hhandled
      · rw [hsame]
        exact hrun
      · cases hhandled with
        | terminal htype | persisted htype => exact absurd htype hagent
        | domain _ hok => exact (D.handle_grows hok).agentRuns_subset hrun
  · rw [htables]
    obtain ⟨hjob, hid⟩ := hs.table.getJob_eq_some_iff.mp hget
    simp only [DomainApp.app]
    by_cases hagent : job.jobType.isAgentRun
    · rw [if_pos hagent]
      refine mem_recordAgentRunFailure h.issued.nodup hrun hagent (by simp [hbound]) ?_ ?_ _ _ _
      · rw [hbound, hid]
        exact fun heq => hother a rfl (Option.some.inj heq).symm
      · exact hspares worker (by simp [RuntimeState.failingWorker, ha]) job hjob hid hhandler
          agentRun hrun
    · rw [if_neg hagent]
      exact hrun

/-- What holds in every state that the runtime reaches. -/
theorem DomainApp.runsBound_run (D : DomainApp M T O C)
    {s : RuntimeState (AgentTables M T) Unit AgentProgress} (hs : s.AgentInitial)
    (actions : List (Action (DomainAnswer M O) C)) :
    (run D.app.step s actions).WellFormed ∧ (run D.app.step s actions).RunsBound :=
  invariant_run_of_step D.app.step (I := fun s => s.WellFormed ∧ s.RunsBound)
    (fun _ action ⟨hwf, h⟩ => ⟨hwf.step D.app action, D.runsBound_step h action⟩)
    ⟨hs.wellFormed, hs.runsBound⟩ actions

/-- In a run that records no failure of a job naming a pending run bound to another, every field of
a run stays as it is in all steps but the attempts of the job it is bound to. -/
theorem bound_run_kept (D : DomainApp M T O C)
    {s : RuntimeState (AgentTables M T) Unit AgentProgress} (hs : s.AgentInitial)
    {actions : List (Action (DomainAnswer M O) C)} {action : Action (DomainAnswer M O) C}
    (hactions : Guarded D.app.step Action.SparesBindings s (actions ++ [action]))
    {agentRun : AgentRun M} (hrun : agentRun ∈ (run D.app.step s actions).db.tables.agentRuns)
    {jobId : Id} (hbound : agentRun.jobId = some jobId)
    (hother : ∀ a, action.attempt = some a → a.jobId ≠ jobId) :
    Table.find AgentRun.id agentRun.id
      (run D.app.step s (actions ++ [action])).db.tables.agentRuns = some agentRun := by
  obtain ⟨hwf, h⟩ := D.runsBound_run hs actions
  obtain ⟨-, hspares, -⟩ := (guarded_append _ _ _ _ _).mp hactions
  have hkept := D.mem_agentRuns_step hwf h hspares hrun hbound hother
  rw [run_append, run_cons, run_nil]
  exact (D.runsBound_step h action).issued.nodup.find_eq_some_iff.mpr ⟨hkept, rfl⟩

/-- A step that does not spare the bindings overwrites the run of another job. -/
theorem find_recordFailure_of_intrudes (D : DomainApp M T O C)
    {s : RuntimeState (AgentTables M T) Unit AgentProgress} (hs : s.WellFormed) (h : s.RunsBound)
    {a : AttemptId} (hspares : ¬ (Action.recordFailure a).SparesBindings (O := O) (C := C) s) :
    ∃ agentRun ∈ s.db.tables.agentRuns, ∃ jobId ≠ a.jobId, agentRun.jobId = some jobId ∧
      ∃ error willRetry, Table.find AgentRun.id agentRun.id
        (D.app.step (.recordFailure a) s).db.tables.agentRuns =
          some (agentRun.recordFailure error willRetry s.now) := by
  simp only [Action.SparesBindings, not_forall, not_not] at hspares
  obtain ⟨worker, hworker, job, hjob, hid, hhandler, agentRun, hrun, hintrudes⟩ := hspares
  obtain ⟨jobId, hbound⟩ := Option.ne_none_iff_exists'.mp hintrudes.2.2.2.2.1
  have hne : jobId ≠ a.jobId := by
    rintro rfl
    exact hintrudes.2.2.2.2.2 (by rw [hbound, hid])
  obtain ⟨error, ha⟩ : ∃ error, s.attempts a = some ⟨worker, .failing error⟩ := by
    unfold RuntimeState.failingWorker at hworker
    split at hworker
    next found error ha =>
      obtain rfl : found = worker := Option.some.inj hworker
      exact ⟨error, ha⟩
    next => cases hworker
  have hget : getJob a.jobId s.db.jobs = some job :=
    hs.table.getJob_eq_some_iff.mpr ⟨hjob, hid⟩
  refine ⟨agentRun, hrun, jobId, hne, hbound, error,
    error.retry && decide (job.attemptCount < job.maxAttempts), ?_⟩
  have htables : (D.app.step (.recordFailure a) s).db.tables = recordAgentRunFailure job error
      (error.retry && decide (job.attemptCount < job.maxAttempts)) s.now s.db.tables := by
    simp only [App.step, ha, RuntimeState.recordAttemptFailure, hget, hhandler, if_true,
      Database.applyJobOp, DomainApp.app, hintrudes.1]
  rw [htables]
  exact find_recordAgentRunFailure h.issued.nodup hrun hintrudes error _ s.now

/-! ### A second job for a run -/

/-- Code that creates agent runs, and jobs of any kind but those of the runtime. -/
inductive AgentJobCommand
  | createAgentRun (args : CreateAgentRun)
  | createJob (args : CreateJob)

/-- A handler that refuses its job writes nothing. -/
theorem grows_of_refused {context : RuntimeJobContext} {now : Time}
    {db db' : AgentDatabase Unit Unit}
    (h : Except.error (JobError.permanentJobError
      ("no executable handler for " ++ context.jobType.value)) = .ok db') : AgentGrows now db db' := by
  cases h

/-- Jobs that the scheduler or `create_agent_run` make are refused. -/
def agentJobCreator : DomainApp Unit Unit Unit AgentJobCommand where
  handle context _ _ _ _ :=
    .error (.permanentJobError ("no executable handler for " ++ context.jobType.value))
  command now c db :=
    match c with
    | .createAgentRun args => (createAgentRun now args (.ok ()) db).map Prod.snd
    | .createJob args =>
        match args.jobType, args.idempotencyKey with
        | .outboxDispatch, _ | _, .agentRun _ => .error (.permanentJobError "not a job of the domain")
        | _, _ => .ok (db.applyJobOp now (.createJob args))
  handle_grows {_ _ _ _ _ _} h := grows_of_refused h
  command_grows {now c db db'} h := by
    cases c with
    | createAgentRun args =>
        cases hcreate : createAgentRun now args (.ok ()) db with
        | error e =>
            simp only [hcreate] at h
            cases h
        | ok result =>
            simp only [hcreate] at h
            cases h
            exact .of_createAgentRun hcreate
    | createJob args =>
        dsimp only at h
        split at h
        next => cases h
        next => cases h
        next hdispatch hkey =>
          cases h
          exact .createJob args (fun htype => hdispatch htype) (fun id hid => hkey id hid) .refl

/-- A job that names the run 0 and has one attempt. -/
def secondJob (organizationId : String) : CreateJob where
  scope := ⟨organizationId, "business"⟩
  jobType := .aiRunAgent
  payload := .agentRun 0
  idempotencyKey := .other "second job"
  maxAttempts := 1

/-- The run 0 is bound to the job 1; a second job names it, and its handler refuses. -/
def refusedJob (organizationId : String) : List (Action (DomainAnswer Unit Unit) AgentJobCommand) :=
  [.command (.createAgentRun specialistRun), .command (.createJob (secondJob organizationId)),
    .claim agentWorker 2, .start ⟨2, 1⟩, .proceed ⟨2, 1⟩ (.agent (.prepared (.ok ())))]

/-- The failure of a second job of the tenant ends the run that is bound to the first. -/
theorem second_job_fails_run :
    ∃ agentRun ∈ (run agentJobCreator.app.step agentRunStart
        (refusedJob "organization")).db.tables.agentRuns,
      agentRun.jobId = some 1 ∧ agentRun.status = .queued ∧
      ∃ agentRun' ∈ (run agentJobCreator.app.step agentRunStart
          (refusedJob "organization" ++ [.recordFailure ⟨2, 1⟩])).db.tables.agentRuns,
        agentRun'.id = agentRun.id ∧ agentRun'.status = .failed ∧
          agentRun'.errorClass = some "AIContractError" := by
  decide

/-- The failure of a job of another tenant does not. -/
theorem foreign_job_spares_run :
    Table.find AgentRun.id 0 (run agentJobCreator.app.step agentRunStart
      (refusedJob "other" ++ [.recordFailure ⟨2, 1⟩])).db.tables.agentRuns =
        some (specialistRun.row 0 1) := by
  have hrun : specialistRun.row 0 1 ∈ (run agentJobCreator.app.step agentRunStart
      (refusedJob "other")).db.tables.agentRuns := by decide
  exact bound_run_kept agentJobCreator agentRunStart_initial (by decide) hrun rfl (by
    rintro a ⟨⟩
    decide)

end LaunchOS
