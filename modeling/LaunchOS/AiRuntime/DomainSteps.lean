import LaunchOS.AiRuntime.DomainTxn
import LaunchOS.Runtime.Effects

/-!
# Invariants of the tables of a domain

An invariant of the tables of a domain, and of the ids that are in use, has to hold after the
commands and after the handlers that commit. The rest of the runtime keeps it; an invariant that is
about the agent runs too has to hold as well after an update of a run that keeps its identity.

The module introduces:

* `Frames r`: a transaction relates the tables of the domain by `r` and gives no id back;
* `App.tables_step`, `DomainApp.tables_step`: the invariant rule for one step of the runtime;
* `App.domain_step`, `DomainApp.domain_step`: the same for an invariant of the domain alone.
-/

namespace LaunchOS

open Txn

variable {M T W L O C : Type}

/-! ## Frames -/

/-- From `db` to `db'` the tables of the domain change as `r` says, and no id is given back. -/
structure Frames (r : T → T → Prop) (db db' : AgentDatabase M T) : Prop where
  nextId : db.nextId ≤ db'.nextId
  domain : r db.tables.domain db'.tables.domain

section Frames

variable {r : T → T → Prop}

instance [IsPreorder T r] : IsPreorder (AgentDatabase M T) (Frames r) where
  refl _ := ⟨le_rfl, refl _⟩
  trans _ _ _ h h' := ⟨h.nextId.trans h'.nextId, trans_of r h.domain h'.domain⟩

theorem AgentGrows.nextId_le {now : Time} {db db' : AgentDatabase M T} (h : AgentGrows now db db') :
    db.nextId ≤ db'.nextId :=
  h.runtimeGrows.growth.nextId_le

theorem Frames.trans [IsPreorder T r] {db db' db'' : AgentDatabase M T} (h : Frames r db db')
    (h' : Frames r db' db'') : Frames r db db'' :=
  trans_of (Frames r) h h'

variable [IsPreorder T r]

theorem framesWithin_createJob (now : Time) (args : CreateJob) :
    Within (Frames r) (DomainTxn.createJob (M := M) now args) := by
  intro db job db' h
  obtain ⟨rfl, -⟩ := DomainTxn.createJob_eq_ok h
  exact ⟨db.toJobTable.nextId_le_apply _ _, refl _⟩

theorem framesWithin_createAgentRun (now : Time) (args : CreateAgentRun)
    (admission : Except JobError Unit) :
    Within (Frames r) (DomainTxn.createAgentRun (M := M) now args admission) := by
  intro db run db' h
  refine ⟨(AgentGrows.of_createAgentRun h).nextId_le, ?_⟩
  rcases createAgentRun_eq_ok h with ⟨rfl, -⟩ | hinsert
  · exact refl _
  · obtain ⟨job, -, -, -, -, rfl⟩ := insertAgentRun_eq_ok hinsert
    exact refl _

theorem domainRelation_frames (now : Time) (refOk : RunRef → Bool) :
    DomainRelation (M := M) now refOk r (Frames r) where
  modifyTables f hf := within_modify _ fun db => ⟨le_rfl, hf db.tables.domain⟩
  newId := by
    rintro db id db' ⟨⟩
    exact ⟨Nat.le_succ _, refl _⟩
  addOutboxEvent scope eventType := within_modify _ fun _ => ⟨Nat.le_succ _, refl _⟩
  createAgentRun args admission _ _ := framesWithin_createAgentRun now args admission

theorem framesWithin_perform (now : Time) (own : JobKey → Bool) (ownRef : RunRef → Bool)
    (work : ForeignWork) : Within (Frames r) (work.perform (M := M) now own ownRef) := by
  have h := domainRelation_frames (M := M) (r := r) now fun _ => true
  refine within_ite (fun _ => ?_) fun _ => within_pure _
  cases work with
  | createJob args => exact h.bind (framesWithin_createJob now args) fun _ => h.pure _
  | createAgentRun args admission =>
      exact h.bind (framesWithin_createAgentRun now args admission) fun _ => h.pure _
  | outboxEvent scope eventType => exact h.addOutboxEvent scope eventType

end Frames

/-! ## Steps -/

@[simp]
theorem domain_recordAgentRunFailure (job : Job) (error : JobError) (willRetry : Bool) (now : Time)
    (t : AgentTables M T) : (recordAgentRunFailure job error willRetry now t).domain = t.domain := by
  unfold recordAgentRunFailure
  split
  · split
    · split <;> rfl
    · rfl
  · rfl

/-- A failure is recorded in one run at most, whose identity it leaves alone. -/
theorem recordAgentRunFailure_cases (job : Job) (error : JobError) (willRetry : Bool) (now : Time)
    (t : AgentTables M T) :
    recordAgentRunFailure job error willRetry now t = t ∨
      ∃ runId, ∃ f : AgentRun M → AgentRun M, (∀ run, AgentRun.SameIdentity run (f run)) ∧
        recordAgentRunFailure job error willRetry now t = t.updateRun runId f := by
  unfold recordAgentRunFailure
  split
  next runId _ =>
    split
    next run _ =>
      split
      · exact .inl rfl
      · exact .inr ⟨runId, _, AgentRun.sameIdentity_recordFailure error willRetry now, rfl⟩
    next => exact .inl rfl
  next => exact .inl rfl

/-- A step keeps an invariant of the tables if its commands and its handlers do. -/
theorem App.tables_step (A : App (AgentTables M T) W L O C) {I : Id → AgentTables M T → Prop}
    (hmono : ∀ {n n' t}, n ≤ n' → I n t → I n' t)
    {s : RuntimeState (AgentTables M T) W L} (h : I s.db.nextId s.db.tables)
    (hfailure : ∀ job error willRetry,
      I s.db.nextId (A.recordAttemptFailure job error willRetry s.now s.db.tables))
    (hcommand : ∀ c db, A.command s.now c s.db = .ok db → I db.nextId db.tables)
    (hcommit : ∀ a worker context payload state answer db,
      s.attempts a = some ⟨worker, .running context payload state⟩ →
      A.handleJob context payload s.now answer state s.world s.db = .commit db →
        I db.nextId db.tables)
    (action : Action O C) : I (A.step action s).db.nextId (A.step action s).db.tables := by
  have heffect := A.effect action s
  generalize (A.step action s).db = db', (A.step action s).world = world' at heffect ⊢
  cases heffect with
  | quiet hnext htables =>
      rw [htables]
      exact hmono hnext h
  | command c hok => exact hcommand c _ hok
  | called => exact h
  | committed ha hstage hnext htables =>
      rw [htables]
      exact hmono hnext (hcommit _ _ _ _ _ _ _ ha hstage)
  | failed job error willRetry hnext htables =>
      rw [htables]
      exact hmono hnext (hfailure job error willRetry)

/-- The same for an invariant of the domain. -/
theorem App.domain_step (A : App (AgentTables M T) W L O C) {I : Id → T → Prop}
    (hmono : ∀ {n n' t}, n ≤ n' → I n t → I n' t)
    (hfailure : ∀ job error willRetry now t,
      (A.recordAttemptFailure job error willRetry now t).domain = t.domain)
    {s : RuntimeState (AgentTables M T) W L} (h : I s.db.nextId s.db.tables.domain)
    (hcommand : ∀ c db, A.command s.now c s.db = .ok db → I db.nextId db.tables.domain)
    (hcommit : ∀ a worker context payload state answer db,
      s.attempts a = some ⟨worker, .running context payload state⟩ →
      A.handleJob context payload s.now answer state s.world s.db = .commit db →
        I db.nextId db.tables.domain)
    (action : Action O C) :
    I (A.step action s).db.nextId (A.step action s).db.tables.domain :=
  A.tables_step (I := fun n t => I n t.domain) hmono h
    (fun job error willRetry => by rw [hfailure]; exact h) hcommand hcommit action

/-- For a domain whose handlers take one step: the agent runs, which the runtime updates, keep their
identities. -/
theorem DomainApp.tables_step (D : DomainApp M T O C) {I : Id → AgentTables M T → Prop}
    (hmono : ∀ {n n' t}, n ≤ n' → I n t → I n' t)
    (hupdate : ∀ {n t} (runId : Id) (f : AgentRun M → AgentRun M),
      (∀ run, AgentRun.SameIdentity run (f run)) → I n t → I n (t.updateRun runId f))
    {s : RuntimeState (AgentTables M T) Unit AgentProgress} (h : I s.db.nextId s.db.tables)
    (hcommand : ∀ c db, D.command s.now c s.db = .ok db → I db.nextId db.tables)
    (hhandle : ∀ context payload answer db, D.handle context payload s.now answer s.db = .ok db →
      I db.nextId db.tables)
    (action : Action (DomainAnswer M O) C) :
    I (D.app.step action s).db.nextId (D.app.step action s).db.tables := by
  refine App.tables_step (I := I) D.app hmono h (fun job error willRetry => ?_) hcommand
    (fun a worker context payload state answer db _ hcommit => ?_) action
  · simp only [DomainApp.app]
    split
    · rcases recordAgentRunFailure_cases job error willRetry s.now s.db.tables with
        hsame | ⟨runId, f, hf, hupdated⟩
      · rw [hsame]
        exact h
      · rw [hupdated]
        exact hupdate runId f hf h
    · exact h
  · rcases D.handleJob_cases hcommit with ⟨-, htable, htables⟩ | hhandled
    · rw [htable, htables]
      exact h
    · cases hhandled with
      | terminal => exact h
      | persisted _ _ hidentity => exact hupdate _ _ hidentity h
      | domain _ hok => exact hhandle _ _ _ _ hok

/-- The same for an invariant of the domain. -/
theorem DomainApp.domain_step (D : DomainApp M T O C) {I : Id → T → Prop}
    (hmono : ∀ {n n' t}, n ≤ n' → I n t → I n' t)
    {s : RuntimeState (AgentTables M T) Unit AgentProgress}
    (h : I s.db.nextId s.db.tables.domain)
    (hcommand : ∀ c db, D.command s.now c s.db = .ok db → I db.nextId db.tables.domain)
    (hhandle : ∀ context payload answer db, D.handle context payload s.now answer s.db = .ok db →
      I db.nextId db.tables.domain)
    (action : Action (DomainAnswer M O) C) :
    I (D.app.step action s).db.nextId (D.app.step action s).db.tables.domain :=
  D.tables_step (I := fun n t => I n t.domain) hmono (fun _ _ _ h => h) h hcommand hhandle action

end LaunchOS
