import LaunchOS.Lib.Txn
import LaunchOS.Runtime.Tables

/-!
# The default handlers and the outbox scan

`runtime/handlers.py` and the part of `runtime/repositories.py` that reads the outbox.

* `outboxDispatchHandler`, `runtimeProbeHandler`: the handlers of `default_handler_registry`;
* `pendingOutbox`, `enqueuePendingOutbox`: the scheduler's oldest-first batch of `PENDING` events
  and the dispatch jobs it creates for them.
-/

namespace LaunchOS

/-- `RuntimeJobContext`: the job an attempt runs, as it read it when it started. -/
structure RuntimeJobContext where
  scope : TenantScope
  jobId : Id
  jobType : JobType
  attemptCount : ℕ
deriving DecidableEq, Repr

/-- The context `process_job_id` builds from the row it loads. -/
def Job.context (job : Job) : RuntimeJobContext where
  scope := job.scope
  jobId := job.id
  jobType := job.jobType
  attemptCount := job.attemptCount

/-- `outbox_event.status = PUBLISHED`. -/
def OutboxEvent.publish (now : Time) (event : OutboxEvent) : OutboxEvent :=
  { event with status := .published, publishedAt := some now }

/-- `OutboxDispatchHandler.handle`. -/
def outboxDispatchHandler (context : RuntimeJobContext) (payload : JobPayload) (now : Time)
    (t : RuntimeTables) : Except JobError RuntimeTables :=
  match payload with
  | .outboxDispatch outboxEventId =>
      match Table.find OutboxEvent.id outboxEventId t.outboxEvents with
      | none =>
          .error (.permanentJobError ("outbox event not found: " ++ toString outboxEventId))
      | some event => do
          context.scope.assertMatches event.scope
          if event.status = .published then
            .ok t
          else
            .ok { t with
              outboxEvents :=
                Table.modify OutboxEvent.id outboxEventId (OutboxEvent.publish now) t.outboxEvents }
  | _ => .error (.permanentJobError "outbox_event_id is required")

/-- The tenant of the event a probe writes to try to escape its own. -/
def escapedScope : TenantScope := ⟨"escaped-organization", "escaped-business"⟩

/-- The events `RuntimeProbeHandler` adds to its session. -/
def ProbePayload.events (probe : ProbePayload) (context : RuntimeJobContext) (now : Time) :
    List BusinessEvent :=
  let event (scope : TenantScope) (eventType : String) : BusinessEvent :=
    { scope, eventType, occurredAt := now, recordedAt := now, jobId := context.jobId }
  (if probe.writeBusinessEvent then [event context.scope "runtime.probe"] else []) ++
    (if probe.escapeScope then [event escapedScope "runtime.scope_escape"] else [])

/-- How a probe ends. -/
def ProbePayload.finish (probe : ProbePayload) (attemptCount : ℕ) : Except JobError Unit :=
  let transient := .error (.transientJobError "deterministic transient probe failure")
  if probe.transientUntilAttempt.any fun limit => decide (attemptCount ≤ limit) then transient
  else if probe.outcome = "success" then .ok ()
  else if probe.outcome = "transient" then transient
  else if probe.outcome = "permanent" then
    .error (.permanentJobError "deterministic permanent probe failure")
  else if probe.outcome = "permanent_secret_error" then
    .error (.permanentJobError "provider returned token=placeholder-value")
  else .error (.permanentJobError ("unsupported runtime probe outcome: " ++ probe.outcome))

/-- `RuntimeProbeHandler.handle`, with the `_assert_session_scope` check of the rows it leaves in
the session. Fields that the payload lacks take their defaults. -/
def runtimeProbeHandler (context : RuntimeJobContext) (payload : JobPayload) (now : Time)
    (t : RuntimeTables) : Except JobError RuntimeTables := do
  payload.assertNoSecrets
  let probe := match payload with
    | .runtimeProbe probe => probe
    | _ => {}
  let events := probe.events context now
  probe.finish context.attemptCount
  events.forM fun event => context.scope.assertMatches event.scope
  return { t with businessEvents := t.businessEvents ++ events }

/-- The batch of `enqueue_pending_outbox`: the oldest `PENDING` events. -/
def pendingOutbox (limit : ℕ) (events : List OutboxEvent) : List OutboxEvent :=
  ((events.filter fun event => event.status = .pending).insertionSort
    fun a b => a.createdAt ≤ b.createdAt).take limit

/-- The dispatch job of an event. -/
def OutboxEvent.dispatchJob (event : OutboxEvent) (now : Time) : CreateJob where
  scope := event.scope
  jobType := .outboxDispatch
  payload := .outboxDispatch event.id
  idempotencyKey := .outbox event.id
  maxAttempts := 3
  availableAt := some now

/-- `enqueue_pending_outbox`: `create_job` for every event of the batch. Its arguments pass the
checks of `create_job` (`OutboxEvent.check_dispatchJob`), so none of the calls fails. -/
def enqueuePendingOutbox (now : Time) (limit : ℕ) (t : RuntimeTables) : RuntimeTables :=
  (pendingOutbox limit t.outboxEvents).foldl
    (fun t event => t.applyJobOp now (.createJob (event.dispatchJob now))) t

theorem OutboxEvent.check_dispatchJob (event : OutboxEvent) (now : Time) :
    (event.dispatchJob now).check = .ok () := rfl

end LaunchOS
