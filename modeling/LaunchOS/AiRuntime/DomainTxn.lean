import LaunchOS.AiRuntime.DomainApp
import LaunchOS.Lib.Txn

/-!
# Transactions of domain code

What the workflows do in one transaction, as computations on the database.

The module introduces:

* `require`, `orRaise`: the checks of the workflows;
* `DomainTxn`, with the operations of the runtime the workflows call;
* `growsWithin_createJob` and so on: a transaction built from these operations is lawful domain code
  (`AgentGrows`);
* `Keeps own ownRef r`: what a transaction leaves alone that creates no job with a key in `own` and
  no run with a reference in `ownRef`, and relates the tables of the domain by `r`;
* `DomainRelation`: what both have in common, so that one proof covers both;
* `ForeignWork`: what the rest of the application does next to a workflow.
-/

namespace LaunchOS

open Txn

/-- Raise unless a condition holds. -/
def require (c : Prop) [Decidable c] (error : JobError) : Except JobError Unit :=
  if c then .ok () else .error error

/-- Raise if there is no row. -/
def orRaise {α : Type} (error : JobError) : Option α → Except JobError α
  | some a => .ok a
  | none => .error error

theorem orRaise_eq_ok_iff {α : Type} {error : JobError} {row : Option α} {a : α} :
    orRaise error row = .ok a ↔ row = some a := by
  cases row <;> simp [orRaise]

theorem require_eq_ok_iff {c : Prop} [Decidable c] {error : JobError} {u : Unit} :
    require c error = .ok u ↔ c := by
  unfold require
  split
  next h => simp [h]
  next h => simp [h]

/-- A transaction of domain code. -/
abbrev DomainTxn (M T α : Type) := StateT (AgentDatabase M T) (Except JobError) α

variable {M T α : Type}

instance (now : Time) : IsPreorder (AgentDatabase M T) (AgentGrows now) where
  refl _ := .refl
  trans _ _ _ := .trans

namespace DomainTxn

/-- The tables of the domain. -/
def tables : DomainTxn M T T := do return (← get).tables.domain

/-- The agent runs. -/
def agentRuns : DomainTxn M T (List (AgentRun M)) := do return (← get).tables.agentRuns

/-- Write the tables of the domain. -/
def modifyTables (f : T → T) : DomainTxn M T Unit :=
  modify fun db => { db with tables := { db.tables with domain := f db.tables.domain } }

/-- A check or a computation that only reads. -/
def check (x : Except JobError α) : DomainTxn M T α := liftM x

/-- `new_id()`. -/
def newId : DomainTxn M T Id := fun db => .ok (db.nextId, db.applyJobOp 0 .newId)

/-- `create_job`. -/
def createJob (now : Time) (args : CreateJob) : DomainTxn M T Job := fun db =>
  match LaunchOS.createJob now args db.toJobTable with
  | .ok (job, t) => .ok (job, { db with toJobTable := t })
  | .error error => .error error

/-- `create_agent_run`. -/
def createAgentRun (now : Time) (args : CreateAgentRun) (admission : Except JobError Unit) :
    DomainTxn M T (AgentRun M) :=
  LaunchOS.createAgentRun now args admission

/-- `session.add(OutboxEventModel(…))`. -/
def addOutboxEvent (now : Time) (scope : TenantScope) (eventType : String) : DomainTxn M T Unit :=
  modify fun db =>
    { db with toRuntimeTables := db.toRuntimeTables.addOutboxEvent now scope eventType }

end DomainTxn

theorem DomainTxn.check_eq_ok_iff {x : Except JobError α} {a : α} {db db' : AgentDatabase M T} :
    DomainTxn.check x db = .ok (a, db') ↔ x = .ok a ∧ db' = db := by
  cases x with
  | error error =>
      constructor
      · intro h
        cases h
      · rintro ⟨h, -⟩
        cases h
  | ok b =>
      constructor
      · intro h
        cases h
        exact ⟨rfl, rfl⟩
      · rintro ⟨⟨⟩, rfl⟩
        rfl

section Ensures

variable {db : AgentDatabase M T}

theorem ensures_tables {Q : T → AgentDatabase M T → Prop} :
    Ensures DomainTxn.tables Q db ↔ Q db.tables.domain db := by
  rw [DomainTxn.tables, ensures_bind, ensures_get, ensures_pure]

theorem ensures_agentRuns {Q : List (AgentRun M) → AgentDatabase M T → Prop} :
    Ensures DomainTxn.agentRuns Q db ↔ Q db.tables.agentRuns db := by
  rw [DomainTxn.agentRuns, ensures_bind, ensures_get, ensures_pure]

theorem ensures_check {x : Except JobError α} {Q : α → AgentDatabase M T → Prop} :
    Ensures (DomainTxn.check x) Q db ↔ ∀ a, x = .ok a → Q a db :=
  ensures_lift x

theorem ensures_modifyTables {f : T → T} {Q : Unit → AgentDatabase M T → Prop} :
    Ensures (DomainTxn.modifyTables f) Q db ↔
      Q () { db with tables := { db.tables with domain := f db.tables.domain } } :=
  ensures_modify _

theorem ensures_newId {Q : Id → AgentDatabase M T → Prop} :
    Ensures DomainTxn.newId Q db ↔ Q db.nextId (db.applyJobOp 0 .newId) := by
  constructor
  · intro h
    exact h db.nextId _ rfl
  · rintro h id db' ⟨⟩
    exact h

/-! The same for transactions that succeed. -/

theorem achieves_tables {Q : T → AgentDatabase M T → Prop} :
    Achieves DomainTxn.tables Q db ↔ Q db.tables.domain db := by
  rw [DomainTxn.tables, achieves_bind, achieves_get, achieves_pure]

theorem achieves_agentRuns {Q : List (AgentRun M) → AgentDatabase M T → Prop} :
    Achieves DomainTxn.agentRuns Q db ↔ Q db.tables.agentRuns db := by
  rw [DomainTxn.agentRuns, achieves_bind, achieves_get, achieves_pure]

theorem achieves_check {x : Except JobError α} {Q : α → AgentDatabase M T → Prop} :
    Achieves (DomainTxn.check x) Q db ↔ ∃ a, x = .ok a ∧ Q a db :=
  achieves_lift x

theorem achieves_modifyTables {f : T → T} {Q : Unit → AgentDatabase M T → Prop} :
    Achieves (DomainTxn.modifyTables f) Q db ↔
      Q () { db with tables := { db.tables with domain := f db.tables.domain } } :=
  achieves_modify _

theorem achieves_newId {Q : Id → AgentDatabase M T → Prop} :
    Achieves DomainTxn.newId Q db ↔ Q db.nextId (db.applyJobOp 0 .newId) := by
  constructor
  · rintro ⟨id, db', ⟨⟩, hQ⟩
    exact hQ
  · intro h
    exact ⟨db.nextId, _, rfl, h⟩

end Ensures

/-- Work of the rest of the application. -/
inductive ForeignWork
  | createJob (args : CreateJob)
  | createAgentRun (args : CreateAgentRun) (admission : Except JobError Unit)
  | outboxEvent (scope : TenantScope) (eventType : String)

/-- The work uses no key and no input reference of this part of the application, and leaves dispatch
jobs to the scheduler and the jobs of agent runs to `create_agent_run`. -/
def ForeignWork.allowed (own : JobKey → Bool) (ownRef : RunRef → Bool) : ForeignWork → Bool
  | .createJob args =>
      !own args.idempotencyKey && args.jobType ≠ .outboxDispatch &&
        match args.idempotencyKey with
        | .agentRun _ => false
        | _ => true
  | .createAgentRun args _ =>
      !args.inputRef.any ownRef && !args.idempotencyKey.any fun key => ownRef key.ref
  | .outboxEvent _ _ => true

/-- Do the work at time `now`. -/
def ForeignWork.perform (now : Time) (own : JobKey → Bool) (ownRef : RunRef → Bool)
    (work : ForeignWork) : DomainTxn M T Unit :=
  if work.allowed own ownRef then
    match work with
    | .createJob args => do let _ ← DomainTxn.createJob now args
    | .createAgentRun args admission => do let _ ← DomainTxn.createAgentRun now args admission
    | .outboxEvent scope eventType => DomainTxn.addOutboxEvent now scope eventType
  else pure ()

/-! ## Lawful domain code -/

theorem DomainTxn.createJob_eq_ok {now : Time} {args : CreateJob} {db db' : AgentDatabase M T}
    {job : Job} (h : DomainTxn.createJob now args db = .ok (job, db')) :
    db' = db.applyJobOp now (.createJob args) ∧ job ∈ db'.jobs ∧ job.uniqueKey = args.uniqueKey ∧
      (job ∈ db.jobs ∨ job = args.row db.nextId now) := by
  unfold DomainTxn.createJob at h
  split at h
  next job' t hcreate =>
    cases h
    obtain ⟨rfl, hjob, hkey, hold⟩ := LaunchOS.createJob_eq_ok hcreate
    exact ⟨rfl, hjob, hkey, hold⟩
  next => cases h

section Grows

variable (now : Time)

theorem growsWithin_tables : Within (AgentGrows now) (DomainTxn.tables (M := M) (T := T)) :=
  within_bind within_get fun _ => within_pure _

theorem growsWithin_agentRuns :
    Within (AgentGrows now) (DomainTxn.agentRuns (M := M) (T := T)) :=
  within_bind within_get fun _ => within_pure _

theorem growsWithin_check (x : Except JobError α) :
    Within (AgentGrows now) (DomainTxn.check (M := M) (T := T) x) :=
  within_lift x

theorem growsWithin_modifyTables (f : T → T) :
    Within (AgentGrows now) (DomainTxn.modifyTables (M := M) f) :=
  within_modify _ fun _ => AgentGrows.refl.domain _

theorem growsWithin_newId : Within (AgentGrows now) (DomainTxn.newId (M := M) (T := T)) := by
  rintro _ id db' ⟨⟩
  exact AgentGrows.refl.newId

theorem growsWithin_addOutboxEvent (scope : TenantScope) (eventType : String) :
    Within (AgentGrows now) (DomainTxn.addOutboxEvent (M := M) (T := T) now scope eventType) :=
  within_modify _ fun _ => AgentGrows.refl.outboxEvent scope eventType

theorem growsWithin_createJob {args : CreateJob} (hdispatch : args.jobType ≠ .outboxDispatch)
    (hkey : ∀ id, args.idempotencyKey ≠ .agentRun id) :
    Within (AgentGrows now) (DomainTxn.createJob (M := M) (T := T) now args) := by
  intro _ job db' h
  obtain ⟨rfl, -⟩ := DomainTxn.createJob_eq_ok h
  exact AgentGrows.refl.createJob args hdispatch hkey

theorem growsWithin_createAgentRun (args : CreateAgentRun) (admission : Except JobError Unit) :
    Within (AgentGrows now) (DomainTxn.createAgentRun (M := M) (T := T) now args admission) :=
  fun _ _ _ h => AgentGrows.of_createAgentRun h

theorem growsWithin_perform (own : JobKey → Bool) (ownRef : RunRef → Bool) (work : ForeignWork) :
    Within (AgentGrows now) (work.perform (M := M) (T := T) now own ownRef) := by
  refine within_ite (fun hallowed => ?_) fun _ => within_pure _
  cases work with
  | createJob args =>
      simp only [ForeignWork.allowed, Bool.and_eq_true, decide_eq_true_eq] at hallowed
      refine within_bind (growsWithin_createJob now hallowed.1.2 fun id hid => ?_)
        fun _ => within_pure _
      rw [hid] at hallowed
      exact absurd hallowed.2 (by simp)
  | createAgentRun args admission =>
      exact within_bind (growsWithin_createAgentRun now args admission) fun _ => within_pure _
  | outboxEvent scope eventType => exact growsWithin_addOutboxEvent now scope eventType

end Grows

/-! ## Frames -/

/-- The run has an input reference or an idempotency key in `own`. -/
def AgentRun.owned (own : RunRef → Bool) (run : AgentRun M) : Bool :=
  run.inputRef.any own || run.idempotencyKey.any fun key => own key.ref

/-- The runs with a reference in `own`. -/
def AgentTables.ownRuns (own : RunRef → Bool) (t : AgentTables M T) : List (AgentRun M) :=
  t.agentRuns.filter (AgentRun.owned own)

@[simp]
theorem AgentTables.ownRuns_false (t : AgentTables M T) : t.ownRuns (fun _ => false) = [] := by
  rw [ownRuns, List.filter_eq_nil_iff]
  intro run _
  simp [AgentRun.owned]

/-- From `db` to `db'` no job with a key in `own` and no run with a reference in `ownRef` is added,
no job is lost, and the tables of the domain change as `r` says. -/
structure Keeps (own : JobKey → Bool) (ownRef : RunRef → Bool) (r : T → T → Prop)
    (db db' : AgentDatabase M T) : Prop where
  nextId : db.nextId ≤ db'.nextId
  subset : ∀ job ∈ db.jobs, job ∈ db'.jobs
  back : ∀ job ∈ db'.jobs, own job.idempotencyKey → job ∈ db.jobs
  runs : db'.tables.ownRuns ownRef = db.tables.ownRuns ownRef
  domain : r db.tables.domain db'.tables.domain

section Keeps

variable {own : JobKey → Bool} {ownRef : RunRef → Bool} {r : T → T → Prop}

instance [IsPreorder T r] : IsPreorder (AgentDatabase M T) (Keeps own ownRef r) where
  refl _ := ⟨le_rfl, fun _ h => h, fun _ h _ => h, rfl, refl _⟩
  trans _ _ _ h h' :=
    { nextId := h.nextId.trans h'.nextId
      subset := fun job hjob => h'.subset job (h.subset job hjob)
      back := fun job hjob hown => h.back job (h'.back job hjob hown) hown
      runs := h'.runs.trans h.runs
      domain := trans_of r h.domain h'.domain }

theorem keepsWithin_modifyTables {f : T → T} (hf : ∀ t, r t (f t)) :
    Within (Keeps own ownRef r) (DomainTxn.modifyTables (M := M) f) :=
  within_modify _ fun db =>
    ⟨le_rfl, fun _ h => h, fun _ h _ => h, rfl, hf db.tables.domain⟩

variable [IsPreorder T r]

theorem Keeps.of_eq {db db' : AgentDatabase M T} (htable : db'.toJobTable = db.toJobTable)
    (htables : db'.tables = db.tables) : Keeps own ownRef r db db' := by
  constructor
  · rw [htable]
  · rw [htable]
    exact fun _ hjob => hjob
  · rw [htable]
    exact fun _ hjob _ => hjob
  · rw [htables]
  · rw [htables]
    exact refl _

theorem keepsWithin_check (x : Except JobError α) :
    Within (Keeps own ownRef r) (DomainTxn.check (M := M) x) :=
  within_lift x

theorem keepsWithin_tables : Within (Keeps own ownRef r) (DomainTxn.tables (M := M)) :=
  within_bind within_get fun _ => within_pure _

theorem keepsWithin_agentRuns : Within (Keeps own ownRef r) (DomainTxn.agentRuns (M := M)) :=
  within_bind within_get fun _ => within_pure _

theorem keepsWithin_newId : Within (Keeps own ownRef r) (DomainTxn.newId (M := M)) := by
  rintro db id db' ⟨⟩
  exact ⟨Nat.le_succ _, fun _ h => h, fun _ h _ => h, rfl, refl _⟩

theorem keepsWithin_addOutboxEvent (now : Time) (scope : TenantScope) (eventType : String) :
    Within (Keeps own ownRef r) (DomainTxn.addOutboxEvent (M := M) now scope eventType) :=
  within_modify _ fun _ =>
    ⟨Nat.le_succ _, fun _ h => h, fun _ h _ => h, rfl, refl _⟩

/-- Creating a job with a foreign key. -/
theorem keeps_applyCreateJob (now : Time) {args : CreateJob}
    (hkey : own args.idempotencyKey = false) (db : AgentDatabase M T) :
    Keeps own ownRef r db (db.applyJobOp now (.createJob args)) := by
  have hjobs : (db.applyJobOp now (.createJob args)).jobs =
      db.jobs ++ (JobOp.createJob args).inserted now db.toJobTable :=
    congrArg JobTable.jobs (JobTable.apply_createJob _ _ _)
  refine ⟨db.toJobTable.nextId_le_apply now _, ?_, ?_, rfl, refl _⟩
  · intro job hjob
    rw [hjobs]
    exact List.mem_append_left _ hjob
  · intro job hjob hown
    rw [hjobs, List.mem_append] at hjob
    refine hjob.resolve_right fun hnew => ?_
    obtain ⟨args', heq, -, -, rfl⟩ := JobOp.mem_inserted_iff.mp hnew
    cases heq
    rw [show own (args.row db.nextId now).idempotencyKey = false from hkey] at hown
    cases hown

theorem keepsWithin_createJob (now : Time) {args : CreateJob}
    (hkey : own args.idempotencyKey = false) :
    Within (Keeps own ownRef r) (DomainTxn.createJob (M := M) now args) := by
  intro db job db' h
  obtain ⟨rfl, -⟩ := DomainTxn.createJob_eq_ok h
  exact keeps_applyCreateJob now hkey db

theorem keepsWithin_createAgentRun (now : Time) {args : CreateAgentRun}
    (admission : Except JobError Unit) (hown : ∀ id, own (.agentRun id) = false)
    (href : args.inputRef.any ownRef = false)
    (hkey : (args.idempotencyKey.any fun key => ownRef key.ref) = false) :
    Within (Keeps own ownRef r) (DomainTxn.createAgentRun (M := M) now args admission) := by
  intro db run db' h
  rcases createAgentRun_eq_ok h with ⟨rfl, -⟩ | hinsert
  · exact refl _
  · obtain ⟨job, -, -, -, rfl, rfl⟩ := insertAgentRun_eq_ok hinsert
    let db₁ : AgentDatabase M T := db.applyJobOp now .newId
    have hcreate : Keeps own ownRef r db₁ (db₁.applyJobOp now (.createJob (args.job db.nextId))) :=
      keeps_applyCreateJob now (hown db.nextId) db₁
    refine ⟨(Nat.le_succ _).trans hcreate.nextId, hcreate.subset, hcreate.back, ?_, refl _⟩
    have hforeign : (args.row (M := M) db.nextId job.id).owned ownRef = false := by
      simp only [AgentRun.owned, CreateAgentRun.row, href, hkey, Bool.or_false]
    simp [AgentTables.ownRuns, hforeign]

theorem keepsWithin_perform (now : Time) (hown : ∀ id, own (.agentRun id) = false)
    (work : ForeignWork) :
    Within (Keeps own ownRef r) (work.perform (M := M) now own ownRef) := by
  refine within_ite (fun hallowed => ?_) fun _ => within_pure _
  cases work with
  | createJob args =>
      simp only [ForeignWork.allowed, Bool.and_eq_true, Bool.not_eq_true'] at hallowed
      exact within_bind (keepsWithin_createJob now hallowed.1.1) fun _ => within_pure _
  | createAgentRun args admission =>
      simp only [ForeignWork.allowed, Bool.and_eq_true, Bool.not_eq_true'] at hallowed
      exact within_bind (keepsWithin_createAgentRun now admission hown hallowed.1 hallowed.2)
        fun _ => within_pure _
  | outboxEvent scope eventType => exact keepsWithin_addOutboxEvent now scope eventType

end Keeps

/-! ## Both at once -/

/-- What a proof about a transaction of the domain uses of a relation `R`: its operations stay
within `R` as far as they write the tables within `r` and create runs with references in `refOk`. -/
structure DomainRelation (now : Time) (refOk : RunRef → Bool) (r : T → T → Prop)
    (R : AgentDatabase M T → AgentDatabase M T → Prop) : Prop extends IsPreorder _ R where
  modifyTables : ∀ f : T → T, (∀ t, r t (f t)) → Within R (DomainTxn.modifyTables f)
  newId : Within R DomainTxn.newId
  addOutboxEvent : ∀ scope eventType, Within R (DomainTxn.addOutboxEvent now scope eventType)
  createAgentRun : ∀ args admission, args.inputRef.all refOk →
    (args.idempotencyKey.all fun key => refOk key.ref) →
      Within R (DomainTxn.createAgentRun now args admission)

theorem domainRelation_agentGrows (now : Time) (refOk : RunRef → Bool) (r : T → T → Prop) :
    DomainRelation (M := M) now refOk r (AgentGrows now) where
  modifyTables f _ := growsWithin_modifyTables now f
  newId := growsWithin_newId now
  addOutboxEvent := growsWithin_addOutboxEvent now
  createAgentRun args admission _ _ := growsWithin_createAgentRun now args admission

theorem domainRelation_keeps (now : Time) {own : JobKey → Bool} {ownRef : RunRef → Bool}
    (hown : ∀ id, own (.agentRun id) = false) (r : T → T → Prop) [IsPreorder T r] :
    DomainRelation (M := M) now (fun ref => !ownRef ref) r (Keeps own ownRef r) where
  modifyTables f hf := keepsWithin_modifyTables hf
  newId := keepsWithin_newId
  addOutboxEvent := keepsWithin_addOutboxEvent now
  createAgentRun args admission href hkey := by
    refine keepsWithin_createAgentRun now admission hown ?_ ?_
    · simpa [Option.any_eq_false_iff_get, Option.all_eq_true_iff_get] using href
    · simpa [Option.any_eq_false_iff_get, Option.all_eq_true_iff_get] using hkey

namespace DomainRelation

variable {now : Time} {refOk : RunRef → Bool} {r : T → T → Prop}
variable {R : AgentDatabase M T → AgentDatabase M T → Prop} (h : DomainRelation now refOk r R)
include h

theorem tables : Within R DomainTxn.tables :=
  have := h.toIsPreorder
  within_bind within_get fun _ => within_pure _

theorem agentRuns : Within R DomainTxn.agentRuns :=
  have := h.toIsPreorder
  within_bind within_get fun _ => within_pure _

theorem check (x : Except JobError α) : Within R (DomainTxn.check x) :=
  have := h.toIsPreorder
  within_lift x

theorem pure (a : α) : Within R (Pure.pure a : DomainTxn M T α) :=
  have := h.toIsPreorder
  within_pure a

theorem bind {β : Type} {m : DomainTxn M T α} {f : α → DomainTxn M T β} (hm : Within R m)
    (hf : ∀ a, Within R (f a)) : Within R (m >>= f) :=
  have := h.toIsPreorder
  within_bind hm hf

theorem foldlM {β : Type} {xs : List β} {f : α → β → DomainTxn M T α}
    (hf : ∀ a x, Within R (f a x)) (a : α) : Within R (xs.foldlM f a) :=
  have := h.toIsPreorder
  within_foldlM hf a

/-- A transaction that writes less is allowed where one that writes more is. -/
theorem mono {r' : T → T → Prop} (hr : ∀ t t', r' t t' → r t t') : DomainRelation now refOk r' R :=
  { h with modifyTables := fun f hf => h.modifyTables f fun t => hr t _ (hf t) }

end DomainRelation

end LaunchOS
