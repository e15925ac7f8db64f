import LaunchOS.Runtime.Attempts

/-!
# The outbox

Every outbox event gets one dispatch job from the scheduler, and only a run of that job publishes
it. If the job ends without publishing the event, `create_job` finds the ended job again and the
event is stranded.

The module introduces:

* `OutboxEvent.dispatchKey`: the unique key under which `enqueue_pending_outbox` looks up or creates
  the dispatch job of an event;
* `RuntimeTables.OutboxWellFormed`: every dispatch job has its event, which is `PUBLISHED` if the
  job is terminal;
* `App.SparesOutbox`: the scheduler does not give up, and no failure is recorded for, the dispatch
  job of a `PENDING` event;
* `outbox_not_stranded`: in a run of such steps no event is stranded, every event of a scheduler
  batch has a job that is not terminal, and every such event can still be published;
* a run in which the scheduler gives up, and a newer event starves.
-/

namespace LaunchOS

open Transition

variable {T W L O C : Type}

/-- The unique key of the dispatch job of an event. -/
def OutboxEvent.dispatchKey (event : OutboxEvent) : TenantScope × JobType × JobKey :=
  (event.scope, .outboxDispatch, .outbox event.id)

@[simp]
theorem OutboxEvent.uniqueKey_dispatchJob (event : OutboxEvent) (now : Time) :
    (event.dispatchJob now).uniqueKey = event.dispatchKey := rfl

/-- What the outbox and the dispatch jobs satisfy. -/
structure RuntimeTables.OutboxWellFormed (t : RuntimeTables) : Prop where
  ids : Table.KeysNodup OutboxEvent.id t.outboxEvents
  id_lt : ∀ event ∈ t.outboxEvents, event.id < t.nextId
  dispatch : ∀ job ∈ t.jobs, job.jobType = .outboxDispatch → ∃ event ∈ t.outboxEvents,
    job.payload = .outboxDispatch event.id ∧ job.uniqueKey = event.dispatchKey ∧
      (job.terminal → event.status = .published)

namespace RuntimeTables.OutboxWellFormed

variable {t : RuntimeTables} {now : Time}

/-- A job operation keeps the invariant if the dispatch jobs that it makes terminal belong to
published events, and if the dispatch job that it may create belongs to an event. -/
theorem applyJobOp (h : t.OutboxWellFormed) (hwf : t.toJobTable.WellFormed) (op : JobOp)
    (hrow : ∀ job ∈ t.jobs, job.jobType = .outboxDispatch → job.terminal = false →
      (op.row now job).terminal → ∀ event ∈ t.outboxEvents,
        job.payload = .outboxDispatch event.id → event.status = .published)
    (hnew : ∀ args, op = .createJob args → args.jobType = .outboxDispatch →
      ∃ event ∈ t.outboxEvents, args.payload = .outboxDispatch event.id ∧
        args.uniqueKey = event.dispatchKey) :
    (t.applyJobOp now op).OutboxWellFormed := by
  refine ⟨h.ids, ?_, ?_⟩
  · intro event hevent
    exact (h.id_lt event hevent).trans_le (t.toJobTable.nextId_le_apply now op)
  · intro job' hjob' htype
    rcases (JobTable.mem_apply_iff hwf.ids).mp hjob' with ⟨job, hjob, rfl⟩ | hjob
    · have hsame : job.SameIdentity (op.row now job) := op.sameIdentity_row
      rw [hsame.jobType] at htype
      obtain ⟨event, hevent, hpayload, hkey, hpublished⟩ := h.dispatch job hjob htype
      refine ⟨event, hevent, hsame.payload.trans hpayload, hsame.uniqueKey.trans hkey, ?_⟩
      intro hterminal
      by_cases hold : job.terminal
      · exact hpublished hold
      · exact hrow job hjob htype (by simpa using hold) hterminal event hevent hpayload
    · obtain ⟨args, hop, -, -, rfl⟩ := JobOp.mem_inserted_iff.mp hjob
      obtain ⟨event, hevent, hpayload, hkey⟩ := hnew args hop htype
      exact ⟨event, hevent, hpayload, hkey,
        by simp [CreateJob.row, Job.terminal, JobStatus.terminal]⟩

/-- The dispatch job of an event is terminal only if the event is `PUBLISHED`. -/
theorem live_of_dispatchKey (h : t.OutboxWellFormed) {event : OutboxEvent}
    (hevent : event ∈ t.outboxEvents) {job : Job} (hjob : job ∈ t.jobs)
    (hkey : job.uniqueKey = event.dispatchKey) :
    job.payload = .outboxDispatch event.id ∧ (job.terminal → event.status = .published) := by
  have htype : job.jobType = .outboxDispatch := congrArg (fun key => key.2.1) hkey
  obtain ⟨event', hevent', hpayload, hkey', hpublished⟩ := h.dispatch job hjob htype
  have hid : event'.id = event.id :=
    JobKey.outbox.inj (congrArg (fun key => key.2.2) (hkey'.symm.trans hkey))
  have hsame : event' = event := h.ids.eq_of_key_eq hevent' hevent hid
  subst hsame
  exact ⟨hpayload, hpublished⟩

/-- A claim never makes a job terminal. -/
theorem claimJob (h : t.OutboxWellFormed) (hwf : t.toJobTable.WellFormed) (id : Id)
    (worker : WorkerId) (leaseDuration : Duration) :
    (t.applyJobOp now (.claimJob id worker leaseDuration)).OutboxWellFormed := by
  refine h.applyJobOp hwf _ ?_ (by simp)
  intro job hjob htype hold hterminal
  simp only [JobOp.row] at hterminal
  split at hterminal
  · simp [Job.claimedBy, Job.terminal, JobStatus.terminal] at hterminal
  · rw [hold] at hterminal
    cases hterminal

/-- Nor does the creation of a job. -/
theorem createJob (h : t.OutboxWellFormed) (hwf : t.toJobTable.WellFormed) (args : CreateJob)
    (hargs : args.jobType = .outboxDispatch → ∃ event ∈ t.outboxEvents,
      args.payload = .outboxDispatch event.id ∧ args.uniqueKey = event.dispatchKey) :
    (t.applyJobOp now (.createJob args)).OutboxWellFormed := by
  refine h.applyJobOp hwf _ ?_ ?_
  · intro job hjob htype hold hterminal
    rw [JobOp.row, hold] at hterminal
    cases hterminal
  · rintro args' heq htype
    cases heq
    exact hargs htype

/-- A new event has no dispatch job yet. -/
theorem addOutboxEvent (h : t.OutboxWellFormed) (scope : TenantScope) (eventType : String) :
    (t.addOutboxEvent now scope eventType).OutboxWellFormed := by
  refine ⟨?_, ?_, ?_⟩
  · exact h.ids.append (Table.keysNodup_singleton _)
      (by simpa using fun event hevent => (h.id_lt event hevent).ne)
  · simp only [RuntimeTables.addOutboxEvent, List.mem_append, List.mem_singleton]
    rintro event (hevent | rfl)
    · exact (h.id_lt event hevent).trans (Nat.lt_succ_self _)
    · exact Nat.lt_succ_self _
  · intro job hjob htype
    obtain ⟨event, hevent, hrest⟩ := h.dispatch job hjob htype
    exact ⟨event, List.mem_append_left _ hevent, hrest⟩

/-- Code outside the runtime keeps the invariant. -/
theorem grows {t' : RuntimeTables} (h : t.OutboxWellFormed) (hwf : t.toJobTable.WellFormed)
    (hgrows : t.Grows now t') : t'.OutboxWellFormed := by
  refine (hgrows.induct (P := fun u => u.toJobTable.WellFormed ∧ u.OutboxWellFormed) ?_ ?_ ?_
    ⟨hwf, h⟩).2
  · rintro u ⟨hu, ho⟩
    refine ⟨hu.apply now .newId, ho.applyJobOp hu .newId ?_ (by simp)⟩
    intro job hjob htype hold hterminal
    rw [JobOp.row, hold] at hterminal
    cases hterminal
  · rintro u args hargs ⟨hu, ho⟩
    exact ⟨hu.apply now (.createJob args),
      ho.createJob hu args fun htype => absurd htype hargs⟩
  · rintro u scope eventType ⟨hu, ho⟩
    exact ⟨hu.apply now .newId, ho.addOutboxEvent scope eventType⟩

end RuntimeTables.OutboxWellFormed

/-! ## The outbox scan -/

theorem mem_of_mem_pendingOutbox {limit : ℕ} {events : List OutboxEvent} {event : OutboxEvent}
    (h : event ∈ pendingOutbox limit events) : event ∈ events ∧ event.status = .pending := by
  have hsorted := List.mem_of_mem_take h
  rw [List.mem_insertionSort, List.mem_filter] at hsorted
  simpa using hsorted

/-- The outbox scan keeps the invariant and leaves every event of its batch with a dispatch job.
The induction is on the rest of the batch. -/
theorem RuntimeTables.OutboxWellFormed.enqueue {t : RuntimeTables} {now : Time}
    (h : t.OutboxWellFormed) (hwf : t.toJobTable.WellFormed) (limit : ℕ) :
    (enqueuePendingOutbox now limit t).OutboxWellFormed ∧
      (enqueuePendingOutbox now limit t).outboxEvents = t.outboxEvents ∧
      ∀ event ∈ pendingOutbox limit t.outboxEvents,
        ∃ job ∈ (enqueuePendingOutbox now limit t).jobs, job.uniqueKey = event.dispatchKey := by
  unfold enqueuePendingOutbox
  have hbatch : ∀ event ∈ pendingOutbox limit t.outboxEvents, event ∈ t.outboxEvents :=
    fun event hevent => (mem_of_mem_pendingOutbox hevent).1
  generalize pendingOutbox limit t.outboxEvents = events at hbatch ⊢
  induction events generalizing t with
  | nil => exact ⟨h, rfl, by simp⟩
  | cons event events ih =>
      rw [List.foldl_cons]
      have hevent : event ∈ t.outboxEvents := hbatch event List.mem_cons_self
      have hcreate : (t.applyJobOp now (.createJob (event.dispatchJob now))).OutboxWellFormed :=
        h.createJob hwf (event.dispatchJob now) fun _ => ⟨event, hevent, rfl, rfl⟩
      obtain ⟨ho, houtbox, hjobs⟩ := ih hcreate (hwf.apply now (.createJob (event.dispatchJob now)))
        fun e he => hbatch e (List.mem_cons_of_mem event he)
      refine ⟨ho, houtbox, ?_⟩
      intro e he
      rcases List.mem_cons.mp he with rfl | he
      · obtain ⟨job, hjob, hkey⟩ := t.toJobTable.exists_uniqueKey_createJob now (e.dispatchJob now) rfl
        refine ⟨job, ?_, hkey⟩
        exact (growth_foldl_dispatchJob now events _).subset hjob
      · exact hjobs e he

/-! ## Publication -/

/-- Publishing an event keeps the invariant. -/
theorem RuntimeTables.OutboxWellFormed.publish {t : RuntimeTables} {now : Time}
    (h : t.OutboxWellFormed) (id : Id) : RuntimeTables.OutboxWellFormed
      { t with outboxEvents := Table.modify OutboxEvent.id id (.publish now) t.outboxEvents } := by
  refine ⟨h.ids.modify fun _ _ hid => hid, ?_, ?_⟩
  · intro event hevent
    rcases Table.mem_modify_cases hevent with ⟨event', hevent', -, rfl⟩ | ⟨hevent, -⟩
    · exact h.id_lt event' hevent'
    · exact h.id_lt event hevent
  · intro job hjob htype
    obtain ⟨event, hevent, hpayload, hkey, hpublished⟩ := h.dispatch job hjob htype
    by_cases hid : event.id = id
    · exact ⟨event.publish now, Table.mem_modify_of_eq hevent hid, hpayload, hkey, fun _ => rfl⟩
    · exact ⟨event, Table.mem_modify_of_ne hevent hid, hpayload, hkey, hpublished⟩

/-- A dispatch handler that returns has kept the invariant and published the event it names. -/
theorem outboxDispatchHandler_spec {context : RuntimeJobContext} {payload : JobPayload}
    {now : Time} {t t' : RuntimeTables} (h : t.OutboxWellFormed)
    (hok : outboxDispatchHandler context payload now t = .ok t') :
    t'.OutboxWellFormed ∧
      ∀ event ∈ t'.outboxEvents, payload = .outboxDispatch event.id → event.status = .published := by
  cases payload with
  | outboxDispatch outboxEventId =>
      simp only [outboxDispatchHandler] at hok
      split at hok
      next => cases hok
      next found hfind =>
        obtain ⟨hfound, hid⟩ := h.ids.find_eq_some_iff.mp hfind
        obtain ⟨-, -, hok⟩ := Except.bind_eq_ok_iff.mp hok
        split at hok
        next hpublished =>
          cases hok
          refine ⟨h, fun event hevent hpayload => ?_⟩
          have heq : event = found := h.ids.eq_of_key_eq hevent hfound
            ((JobPayload.outboxDispatch.inj hpayload).symm.trans hid.symm)
          rw [heq, hpublished]
        next =>
          cases hok
          refine ⟨h.publish outboxEventId, fun event hevent hpayload => ?_⟩
          rcases Table.mem_modify_cases hevent with ⟨event', -, -, rfl⟩ | ⟨-, hne⟩
          · rfl
          · exact absurd (JobPayload.outboxDispatch.inj hpayload).symm hne
  | _ => cases hok

theorem runtimeProbeHandler_outbox {context : RuntimeJobContext} {payload : JobPayload}
    {now : Time} {t t' : RuntimeTables} (h : t.OutboxWellFormed)
    (hok : runtimeProbeHandler context payload now t = .ok t') : t'.OutboxWellFormed := by
  obtain ⟨-, -, hok⟩ := Except.bind_eq_ok_iff.mp hok
  obtain ⟨-, -, hok⟩ := Except.bind_eq_ok_iff.mp hok
  obtain ⟨-, -, hok⟩ := Except.bind_eq_ok_iff.mp hok
  cases hok
  exact ⟨h.ids, h.id_lt, h.dispatch⟩

/-- What any handler that returns has done to the outbox. -/
theorem App.handleJob_outbox (A : App T W L O C) {context : RuntimeJobContext}
    {payload : JobPayload} {now : Time} {answer : O} {state : L} {world : W} {db db' : Database T}
    (hcommit : A.handleJob context payload now answer state world db = .commit db')
    (hwf : db.toJobTable.WellFormed) (h : db.OutboxWellFormed) :
    db'.OutboxWellFormed ∧ (context.jobType = .outboxDispatch →
      ∀ event ∈ db'.outboxEvents, payload = .outboxDispatch event.id →
        event.status = .published) := by
  unfold App.handleJob at hcommit
  split at hcommit
  next =>
    cases hok : outboxDispatchHandler context payload now db.toRuntimeTables with
    | error e =>
        rw [hok] at hcommit
        cases hcommit
    | ok t' =>
        rw [hok] at hcommit
        cases hcommit
        exact ⟨(outboxDispatchHandler_spec h hok).1, fun _ => (outboxDispatchHandler_spec h hok).2⟩
  next hprobe =>
    cases hok : runtimeProbeHandler context payload now db.toRuntimeTables with
    | error e =>
        rw [hok] at hcommit
        cases hcommit
    | ok t' =>
        rw [hok] at hcommit
        cases hcommit
        exact ⟨runtimeProbeHandler_outbox h hok, fun hdispatch => by simp [hprobe] at hdispatch⟩
  next hother _ =>
    exact ⟨h.grows hwf (A.handle_grows hcommit), fun hdispatch => absurd hdispatch hother⟩

/-! ## Runs -/

/-- The job dispatches an event that is still `PENDING`. -/
def RuntimeTables.AwaitsDispatch (t : RuntimeTables) (job : Job) : Prop :=
  job.jobType = .outboxDispatch ∧ ∃ event ∈ t.outboxEvents,
    job.payload = .outboxDispatch event.id ∧ event.status = .pending

instance (t : RuntimeTables) (job : Job) : Decidable (t.AwaitsDispatch job) := by
  unfold RuntimeTables.AwaitsDispatch
  infer_instance

/-- An event whose job does not wait for its dispatch is `PUBLISHED`. -/
theorem RuntimeTables.published_of_not_awaitsDispatch {t : RuntimeTables} {job : Job}
    (h : ¬ t.AwaitsDispatch job) (htype : job.jobType = .outboxDispatch) {event : OutboxEvent}
    (hevent : event ∈ t.outboxEvents) (hpayload : job.payload = .outboxDispatch event.id) :
    event.status = .published := by
  cases hstatus : event.status with
  | published => rfl
  | pending => exact absurd ⟨htype, event, hevent, hpayload, hstatus⟩ h

/-- Recovery of expired leases keeps the invariant if it gives up no dispatch job of a `PENDING`
event. -/
theorem RuntimeTables.OutboxWellFormed.recover {t : RuntimeTables} {now : Time}
    (h : t.OutboxWellFormed) (hwf : t.toJobTable.WellFormed)
    (hspare : ∀ job ∈ t.jobs, t.AwaitsDispatch job → job.exhausted now = false) :
    (t.applyJobOp now .recoverExpiredLeases).OutboxWellFormed := by
  refine h.applyJobOp hwf _ ?_ (by simp)
  intro job hjob htype hold hterminal event hevent hpayload
  have hexhausted : job.exhausted now = true := by
    simp only [JobOp.row, Job.recoverIfExpired, Job.recoverLease] at hterminal
    split at hterminal
    next hexpired =>
      split at hterminal
      next hmax => simp [Job.exhausted, hexpired, hmax]
      next => simp [Job.terminal, JobStatus.terminal] at hterminal
    next =>
      rw [hold] at hterminal
      cases hterminal
  refine RuntimeTables.published_of_not_awaitsDispatch (fun hawaits => ?_) htype hevent hpayload
  rw [hspare job hjob hawaits] at hexhausted
  cases hexhausted

/-- The scheduler does not meet the dispatch job of a `PENDING` event with an expired lease and no
attempts left, and no failure of such a job is recorded. -/
def Action.SparesOutbox (s : RuntimeState T W L) : Action O C → Prop
  | .schedule _ => ∀ job ∈ s.db.jobs, s.db.AwaitsDispatch job → job.exhausted s.now = false
  | .recordFailure a => s.failingWorker a ≠ none →
      ∀ job ∈ s.db.jobs, job.id = a.jobId → ¬ s.db.AwaitsDispatch job
  | _ => True

instance (s : RuntimeState T W L) : (action : Action O C) → Decidable (action.SparesOutbox s)
  | .schedule _ => inferInstanceAs (Decidable (∀ job ∈ s.db.jobs,
      s.db.AwaitsDispatch job → job.exhausted s.now = false))
  | .recordFailure a => inferInstanceAs (Decidable (s.failingWorker a ≠ none →
      ∀ job ∈ s.db.jobs, job.id = a.jobId → ¬ s.db.AwaitsDispatch job))
  | .tick _ | .command _ | .claim _ _ | .start _ | .proceed _ _ | .fault _ _ _ | .crash _ =>
      isTrue trivial

/-- A step that spares the outbox keeps its invariant. -/
theorem App.outboxWellFormed_step (A : App T W L O C) {s : RuntimeState T W L} (hs : s.WellFormed)
    (h : s.db.OutboxWellFormed) {action : Action O C} (haction : action.SparesOutbox s) :
    (A.step action s).db.OutboxWellFormed := by
  cases action with
  | tick elapsed => exact h
  | command c =>
      simp only [App.step]
      split
      next db hdb => exact h.grows hs.table (A.command_grows hdb)
      next => exact h
  | claim worker jobId =>
      simp only [App.step]
      split
      next => exact h.claimJob hs.table jobId worker.workerId worker.leaseDuration
      next => exact h
  | start a =>
      simp only [App.step]
      split
      next worker ha =>
        unfold RuntimeState.startAttempt
        split
        · exact h
        · split
          · exact h
          · split <;> exact h
      next => exact h
  | proceed a answer =>
      simp only [App.step]
      split
      next worker context payload state ha =>
        cases hstage : A.handleJob context payload s.now answer state s.world s.db with
        | next _ _ => exact h
        | raise _ => exact h
        | commit db =>
            obtain ⟨⟨served, hserved, hid, -, -, htype, rfl⟩, -⟩ :=
              hs.serves a worker context payload state ha
            have hgrows := A.growth_handleJob hstage
            have hwf := hgrows.wellFormed hs.table
            obtain ⟨houtbox, hpublished⟩ := A.handleJob_outbox hstage hs.table h
            refine houtbox.applyJobOp hwf (.markJobSucceeded a.jobId) ?_ (by simp)
            intro job hjob hdispatch hold hterminal event hevent hpayload
            have hjobid : job.id = a.jobId := by
              by_contra hne
              simp [JobOp.row, hne, hold] at hterminal
            have hsame : job = served := hwf.ids.eq_of_key_eq hjob (hgrows.subset hserved)
              (hjobid.trans hid.symm)
            subst hsame
            exact hpublished (htype.trans hdispatch) event hevent hpayload
      next => exact h
  | fault a className message =>
      simp only [App.step]
      split <;> exact h
  | recordFailure a =>
      simp only [App.step]
      split
      next worker error ha =>
        unfold RuntimeState.recordAttemptFailure
        split
        next => exact h
        next held hget =>
          refine h.applyJobOp hs.table _ ?_ (by simp)
          intro job hjob htype hold hterminal event hevent hpayload
          have hjobid : job.id = a.jobId := by
            by_contra hne
            simp [JobOp.row, hne, hold] at hterminal
          have hnot := haction (by simp [RuntimeState.failingWorker, ha]) job hjob hjobid
          exact RuntimeTables.published_of_not_awaitsDispatch hnot htype hevent hpayload
      next => exact h
  | crash a => exact h
  | schedule batchSize =>
      exact ((h.recover hs.table haction).enqueue
        (hs.table.apply s.now .recoverExpiredLeases) batchSize).1

theorem RuntimeState.Initial.outboxWellFormed {s : RuntimeState T W L} (h : s.Initial) :
    s.db.OutboxWellFormed := by
  constructor <;> simp [h.jobs, h.outboxEvents, Table.keysNodup_nil]

theorem App.outboxWellFormed_run (A : App T W L O C) {s : RuntimeState T W L} (hs : s.Initial)
    {actions : List (Action O C)} (hactions : Guarded A.step Action.SparesOutbox s actions) :
    (run A.step s actions).WellFormed ∧ (run A.step s actions).db.OutboxWellFormed := by
  refine invariant_run (I := fun s => s.WellFormed ∧ s.db.OutboxWellFormed) ?_
    ⟨hs.wellFormed, hs.outboxWellFormed⟩ hactions
  rintro s action ⟨hwf, ho⟩ haction
  exact ⟨hwf.step A action, A.outboxWellFormed_step hwf ho haction⟩

/-! ## Publication is always within reach -/

/-- A claim of a claimable job. -/
theorem App.step_claim_of_claimable (A : App T W L O C) {s : RuntimeState T W L}
    (hs : s.WellFormed) {job : Job} (hjob : job ∈ s.db.jobs) (hclaim : job.claimable s.now)
    (worker : Worker) :
    A.step (.claim worker job.id) s =
      { s.setAttempt ⟨job.id, job.attemptCount + 1⟩ (some ⟨worker, .claimed⟩) with
        db := s.db.applyJobOp s.now
          (.claimJob job.id worker.workerId worker.leaseDuration) } := by
  have hget : getJob job.id s.db.jobs = some job := hs.table.getJob_eq_some_iff.mpr ⟨hjob, rfl⟩
  simp only [App.step, LaunchOS.claimJob, hget, hclaim, if_true]
  rfl

/-- The start of an attempt whose worker still owns the lease and has a handler. -/
theorem App.step_start_of_owner (A : App T W L O C) {s : RuntimeState T W L} (hs : s.WellFormed)
    {job : Job} (hjob : job ∈ s.db.jobs) {a : AttemptId} (ha : a.jobId = job.id) {worker : Worker}
    (hattempt : s.attempts a = some ⟨worker, .claimed⟩) (hstatus : job.status = .running)
    (howner : job.leaseOwner = some worker.workerId) (hhandler : worker.handlers job.jobType) :
    A.step (.start a) s =
      { s.setAttempt a (some ⟨worker, .running job.context job.payload A.start⟩) with
        history := s.history ++ [.started a] } := by
  have hget : getJob a.jobId s.db.jobs = some job :=
    hs.table.getJob_eq_some_iff.mpr ⟨hjob, ha.symm⟩
  simp [App.step, hattempt, RuntimeState.startAttempt, hget, hstatus, howner, hhandler]

/-- The dispatch handler publishes a `PENDING` event of its own tenant. -/
theorem outboxDispatchHandler_of_pending {t : RuntimeTables}
    (hids : Table.KeysNodup OutboxEvent.id t.outboxEvents) {event : OutboxEvent} (hevent : event ∈ t.outboxEvents) (hpending : event.status = .pending)
    {context : RuntimeJobContext} (hscope : context.scope = event.scope) (now : Time) :
    outboxDispatchHandler context (.outboxDispatch event.id) now t =
      .ok { t with
        outboxEvents := Table.modify OutboxEvent.id event.id (.publish now) t.outboxEvents } := by
  have hfind : Table.find OutboxEvent.id event.id t.outboxEvents = some event :=
    hids.find_eq_some_iff.mpr ⟨hevent, rfl⟩
  simp [outboxDispatchHandler, hfind, TenantScope.assertMatches, hscope, hpending, bind, Except.bind]

private theorem le_add_toNat_sub (deadline now : ℤ) :
    deadline ≤ now + ((deadline - now).toNat : ℤ) := by
  omega

/-- A job that is not terminal becomes claimable if one waits long enough. -/
theorem Job.exists_claimable_after {job : Job} (h : job.WellFormed) (hlive : job.terminal = false)
    (now : Time) : ∃ elapsed : ℕ, job.claimable (now + elapsed) := by
  cases hstatus : job.status with
  | queued | retryWait =>
      refine ⟨(job.availableAt - now).toNat, ?_⟩
      simp only [Job.claimable, hstatus, decide_eq_true_eq]
      exact le_add_toNat_sub job.availableAt now
  | running =>
      obtain ⟨expiresAt, hexpires⟩ := Option.isSome_iff_exists.mp (h.lease_iff.mpr hstatus)
      refine ⟨(expiresAt - now).toNat, ?_⟩
      simp only [Job.claimable, hstatus, Job.leaseExpired, hexpires, decide_eq_true_eq]
      exact le_add_toNat_sub expiresAt now
  | succeeded | failed => simp [Job.terminal, hstatus, JobStatus.terminal] at hlive

/-- From every state in which the dispatch job of a `PENDING` event is there, some run publishes the
event: wait until the job is available or its lease has expired, claim it, and let the dispatch
handler return. -/
theorem App.exists_publishing_run (A : App T W L O C) (answer : O) {s : RuntimeState T W L}
    (hs : s.WellFormed) (h : s.db.OutboxWellFormed) {event : OutboxEvent}
    (hevent : event ∈ s.db.outboxEvents) (hpending : event.status = .pending) {job : Job}
    (hjob : job ∈ s.db.jobs) (hkey : job.uniqueKey = event.dispatchKey) :
    ∃ actions : List (Action O C), Guarded A.step Action.SparesOutbox s actions ∧
      ∃ event' ∈ (run A.step s actions).db.outboxEvents,
        event'.id = event.id ∧ event'.status = .published := by
  -- the job is the dispatch job of this event, and it is not terminal
  have htype : job.jobType = .outboxDispatch := congrArg (fun key => key.2.1) hkey
  have hscope : job.scope = event.scope := congrArg Prod.fst hkey
  obtain ⟨hpayload, hpublished⟩ := h.live_of_dispatchKey hevent hjob hkey
  have hlive : job.terminal = false := by
    by_contra hterminal
    rw [hpublished (by simpa using hterminal)] at hpending
    cases hpending
  -- wait
  obtain ⟨elapsed, hclaim⟩ := Job.exists_claimable_after (hs.table.rows job hjob) hlive s.now
  let s₁ := A.step (.tick elapsed) s
  have hs₁ : s₁.WellFormed := hs.step A _
  -- claim
  let worker := defaultWorker 0
  let a : AttemptId := ⟨job.id, job.attemptCount + 1⟩
  let s₂ := A.step (.claim worker job.id) s₁
  have hs₂ : s₂.WellFormed := hs₁.step A _
  have heq₂ : s₂ = _ := A.step_claim_of_claimable hs₁ (show job ∈ s₁.db.jobs from hjob) hclaim worker
  let claimed := job.claimedBy worker.workerId s₁.now worker.leaseDuration
  have hclaimed : claimed ∈ s₂.db.jobs := by
    have hrow := JobTable.row_mem_apply hs₁.table.ids s₁.now
      (.claimJob job.id worker.workerId worker.leaseDuration) hjob
    have hclaim₁ : job.claimable s₁.now := hclaim
    rw [heq₂]
    simp only [JobOp.row, hclaim₁, and_self, if_true] at hrow
    exact hrow
  -- start
  let s₃ := A.step (.start a) s₂
  have hattempt : s₂.attempts a = some ⟨worker, .claimed⟩ := by
    rw [heq₂]
    simp [RuntimeState.setAttempt, a]
  have hhandler : worker.handlers claimed.jobType = true := by
    simp [claimed, worker, defaultWorker, Job.claimedBy, htype]
  have heq₃ : s₃ = _ := A.step_start_of_owner hs₂ hclaimed rfl hattempt rfl rfl hhandler
  -- the handler returns
  have houtbox : s₃.db.outboxEvents = s.db.outboxEvents := by
    rw [heq₃, heq₂]
    rfl
  have hrunning : s₃.attempts a =
      some ⟨worker, .running claimed.context claimed.payload A.start⟩ := by
    rw [heq₃]
    simp [RuntimeState.setAttempt]
  have hok := outboxDispatchHandler_of_pending (t := s₃.db.toRuntimeTables)
    (by rw [houtbox]; exact h.ids) (by rw [houtbox]; exact hevent) hpending
    (show claimed.context.scope = event.scope from hscope) s₃.now
  refine ⟨[.tick elapsed, .claim worker job.id, .start a, .proceed a answer],
    ⟨trivial, trivial, trivial, trivial, trivial⟩, event.publish s₃.now, ?_, rfl, rfl⟩
  have hpublish : event.publish s₃.now ∈ (A.step (.proceed a answer) s₃).db.outboxEvents := by
    have hpayload' : claimed.payload = .outboxDispatch event.id := hpayload
    have htype' : claimed.context.jobType = .outboxDispatch := htype
    simp only [App.step, hrunning, App.handleJob, htype', hpayload', hok, Stage.ofTables]
    refine Table.mem_modify_of_eq ?_ rfl
    rw [houtbox]
    exact hevent
  exact hpublish

/-- In a run that spares the outbox no event is stranded: its dispatch job is terminal only if the
event is `PUBLISHED`. Nor does an event block the batch of the scheduler: another scheduler run that
spares the outbox leaves every event of its batch with a job that is not terminal, and as long as
such an event is `PENDING` some continuation publishes it. -/
theorem outbox_not_stranded (A : App T W L O C) (answer : O) {s : RuntimeState T W L}
    (hs : s.Initial) {actions : List (Action O C)}
    (hactions : Guarded A.step Action.SparesOutbox s actions) :
    (∀ event ∈ (run A.step s actions).db.outboxEvents,
      ∀ job ∈ (run A.step s actions).db.jobs, job.uniqueKey = event.dispatchKey →
        (job.terminal → event.status = .published) ∧
        (event.status = .pending → job.terminal = false)) ∧
    (∀ batchSize, Action.SparesOutbox (O := O) (C := C) (run A.step s actions)
        (.schedule batchSize) →
      ∀ event ∈ pendingOutbox batchSize (run A.step s actions).db.outboxEvents,
        ∃ job ∈ (run A.step s (actions ++ [.schedule batchSize])).db.jobs,
          job.uniqueKey = event.dispatchKey ∧ job.terminal = false) ∧
    ∀ event ∈ (run A.step s actions).db.outboxEvents, event.status = .pending →
      ∀ job ∈ (run A.step s actions).db.jobs, job.uniqueKey = event.dispatchKey →
        ∃ more, Guarded A.step Action.SparesOutbox s (actions ++ more) ∧
          ∃ event' ∈ (run A.step s (actions ++ more)).db.outboxEvents,
            event'.id = event.id ∧ event'.status = .published := by
  obtain ⟨hwf, houtbox⟩ := A.outboxWellFormed_run hs hactions
  refine ⟨?_, ?_, ?_⟩
  · intro event hevent job hjob hkey
    have hpublished := (houtbox.live_of_dispatchKey hevent hjob hkey).2
    refine ⟨hpublished, fun hpending => ?_⟩
    by_contra hterminal
    rw [hpublished (by simpa using hterminal)] at hpending
    cases hpending
  · intro batchSize hspare event hevent
    rw [run_append]
    obtain ⟨hmem, hpending⟩ := mem_of_mem_pendingOutbox hevent
    obtain ⟨houtbox', hevents, hjobs⟩ := (houtbox.recover hwf.table hspare).enqueue
      (hwf.table.apply _ .recoverExpiredLeases) batchSize
    obtain ⟨job, hjob, hkey⟩ := hjobs event hevent
    refine ⟨job, hjob, hkey, ?_⟩
    by_contra hterminal
    have hpublished := (houtbox'.live_of_dispatchKey (hevents ▸ hmem) hjob hkey).2
    rw [hpublished (by simpa using hterminal)] at hpending
    cases hpending
  · intro event hevent hpending job hjob hkey
    obtain ⟨more, hmore, hpublished⟩ :=
      A.exists_publishing_run answer hwf houtbox hevent hpending hjob hkey
    exact ⟨more, (guarded_append _ _ _ _ _).mpr ⟨hactions, hmore⟩, by rwa [run_append]⟩

/-! ### A stranded event, and one that is published -/

/-- A worker claims the dispatch job and dies; its lease of 60 seconds expires and the scheduler
runs. -/
def lostDispatch (attempt : ℕ) : List (Action Unit RuntimeCommand) :=
  [.claim (defaultWorker 1) 1, .start ⟨1, attempt⟩, .crash ⟨1, attempt⟩, .tick 60000000,
    .schedule 1]

/-- An event, three lost attempts to dispatch it, and then a newer event. -/
def strandedRun : List (Action Unit RuntimeCommand) :=
  .command (.addOutboxEvent ⟨"organization", "business"⟩ "action.approved") :: .schedule 1 ::
    (lostDispatch 1 ++ lostDispatch 2 ++ lostDispatch 3 ++
      [.command (.addOutboxEvent ⟨"organization", "business"⟩ "decision.approved"), .schedule 1])

/-- The older event is `PENDING` with a `FAILED` dispatch job, fills the batch of size one, and the
newer event gets no job. -/
theorem stranded_event_starves_newer :
    (∃ event ∈ (run defaultApp.step defaultStart strandedRun).db.outboxEvents,
      event.status = .pending ∧
      (∃ job ∈ (run defaultApp.step defaultStart strandedRun).db.jobs,
        job.uniqueKey = event.dispatchKey ∧ job.status = .failed) ∧
      pendingOutbox 1 (run defaultApp.step defaultStart strandedRun).db.outboxEvents = [event]) ∧
    ∃ event ∈ (run defaultApp.step defaultStart strandedRun).db.outboxEvents,
      event.status = .pending ∧
      ∀ job ∈ (run defaultApp.step defaultStart strandedRun).db.jobs,
        job.uniqueKey ≠ event.dispatchKey := by
  decide

/-- Two lost attempts leave the event with a job that is not terminal. -/
def delayedRun : List (Action Unit RuntimeCommand) :=
  .command (.addOutboxEvent ⟨"organization", "business"⟩ "action.approved") :: .schedule 1 ::
    (lostDispatch 1 ++ lostDispatch 2)

theorem delayed_event_not_stranded :
    (∀ event ∈ (run defaultApp.step defaultStart delayedRun).db.outboxEvents,
      ∀ job ∈ (run defaultApp.step defaultStart delayedRun).db.jobs,
        job.uniqueKey = event.dispatchKey →
          (job.terminal → event.status = .published) ∧
          (event.status = .pending → job.terminal = false)) ∧
    (∀ batchSize, Action.SparesOutbox (O := Unit) (C := RuntimeCommand)
        (run defaultApp.step defaultStart delayedRun) (.schedule batchSize) →
      ∀ event ∈ pendingOutbox batchSize
          (run defaultApp.step defaultStart delayedRun).db.outboxEvents,
        ∃ job ∈ (run defaultApp.step defaultStart (delayedRun ++ [.schedule batchSize])).db.jobs,
          job.uniqueKey = event.dispatchKey ∧ job.terminal = false) ∧
    ∀ event ∈ (run defaultApp.step defaultStart delayedRun).db.outboxEvents,
      event.status = .pending →
      ∀ job ∈ (run defaultApp.step defaultStart delayedRun).db.jobs,
        job.uniqueKey = event.dispatchKey →
          ∃ more, Guarded defaultApp.step Action.SparesOutbox defaultStart (delayedRun ++ more) ∧
            ∃ event' ∈ (run defaultApp.step defaultStart (delayedRun ++ more)).db.outboxEvents,
              event'.id = event.id ∧ event'.status = .published :=
  outbox_not_stranded defaultApp () defaultStart_initial (by decide)

end LaunchOS
