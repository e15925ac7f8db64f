import LaunchOS.Runtime.JobStore

/-!
# The tables of the runtime

The tables the durable runtime itself reads and writes, beside the tables `T` of the domain code
that runs on it.

The module introduces:

* `OutboxEvent`, `BusinessEvent`: the rows of `outbox_events` and of the business events that
  `RuntimeProbeHandler` writes;
* `RuntimeTables` and `Database T`;
* `RuntimeTables.Grows`: what domain code may do to the tables of the runtime, namely take ids,
  call `create_job` and add `PENDING` outbox events.
-/

namespace LaunchOS

/-- `OutboxStatus`, less `FAILED`, which no code writes. -/
inductive OutboxStatus
  | pending
  | published
deriving DecidableEq, Repr

/-- A row of `outbox_events`, less the data of the event itself. -/
structure OutboxEvent where
  id : Id
  scope : TenantScope
  eventType : String
  status : OutboxStatus := .pending
  createdAt : Time
  publishedAt : Option Time := none
deriving DecidableEq, Repr

/-- A row of `business_events` as `RuntimeProbeHandler` writes it; its payload is the job id. -/
structure BusinessEvent where
  scope : TenantScope
  eventType : String
  occurredAt : Time
  recordedAt : Time
  jobId : Id
deriving DecidableEq, Repr

/-- The tables of the runtime, in insertion order. -/
structure RuntimeTables extends JobTable where
  outboxEvents : List OutboxEvent := []
  businessEvents : List BusinessEvent := []
deriving Repr

/-- The committed state: the tables of the runtime and those of the domain. -/
structure Database (T : Type) extends RuntimeTables where
  tables : T

namespace RuntimeTables

/-- Apply a job operation to the `jobs` table. -/
def applyJobOp (now : Time) (op : JobOp) (t : RuntimeTables) : RuntimeTables :=
  { t with toJobTable := t.toJobTable.apply now op }

/-- `session.add(OutboxEventModel(id=new_id(), …, status=PENDING, created_at=now))`. -/
def addOutboxEvent (now : Time) (scope : TenantScope) (eventType : String) (t : RuntimeTables) :
    RuntimeTables :=
  { t with
    nextId := t.nextId + 1
    outboxEvents := t.outboxEvents ++
      [{ id := t.nextId, scope := scope, eventType := eventType, createdAt := now }] }

@[simp]
theorem toJobTable_applyJobOp (now : Time) (op : JobOp) (t : RuntimeTables) :
    (t.applyJobOp now op).toJobTable = t.toJobTable.apply now op := rfl

@[simp]
theorem outboxEvents_applyJobOp (now : Time) (op : JobOp) (t : RuntimeTables) :
    (t.applyJobOp now op).outboxEvents = t.outboxEvents := rfl

/-- What code outside the runtime may do to its tables at time `now`. Only the scheduler's outbox
scan creates dispatch jobs. -/
inductive Grows (now : Time) (t : RuntimeTables) : RuntimeTables → Prop
  | refl : Grows now t t
  | newId {t' : RuntimeTables} : Grows now t t' → Grows now t (t'.applyJobOp now .newId)
  | createJob {t' : RuntimeTables} (args : CreateJob) (hargs : args.jobType ≠ .outboxDispatch) :
      Grows now t t' → Grows now t (t'.applyJobOp now (.createJob args))
  | outboxEvent {t' : RuntimeTables} (scope : TenantScope) (eventType : String) :
      Grows now t t' → Grows now t (t'.addOutboxEvent now scope eventType)

theorem Grows.trans {now : Time} {t t' t'' : RuntimeTables} (h : Grows now t t')
    (h' : Grows now t' t'') : Grows now t t'' := by
  induction h' with
  | refl => exact h
  | newId _ ih => exact ih.newId
  | createJob args hargs _ ih => exact ih.createJob args hargs
  | outboxEvent scope eventType _ ih => exact ih.outboxEvent scope eventType

/-- What every single effect preserves, any growth preserves. -/
theorem Grows.induct {now : Time} {P : RuntimeTables → Prop}
    (hnewId : ∀ t, P t → P (t.applyJobOp now .newId))
    (hcreate : ∀ t args, args.jobType ≠ .outboxDispatch → P t →
      P (t.applyJobOp now (.createJob args)))
    (houtbox : ∀ t scope eventType, P t → P (t.addOutboxEvent now scope eventType))
    {t t' : RuntimeTables} (h : Grows now t t') (ht : P t) : P t' := by
  induction h with
  | refl => exact ht
  | newId _ ih => exact hnewId _ ih
  | createJob args hargs _ ih => exact hcreate _ args hargs ih
  | outboxEvent scope eventType _ ih => exact houtbox _ scope eventType ih

end RuntimeTables

end LaunchOS
