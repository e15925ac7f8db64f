import LaunchOS.Analytics.Contracts
import Mathlib.Data.List.Dedup
import Mathlib.Data.List.Sort

/-!
# Observations

The first half of `analytics/phase6.py`: from the updates of the provider to business events.

The module introduces:

* `configureTelegramObservation`, `enqueueTelegramObservationJob`: the commands;
* `telegramEventType`, `telegramEventIdentity`: how an update is read;
* `publicationForObservation`, `normalizeObservation`, `ingestTelegramUpdate`: one update;
* `beginPoll`, `finishPoll`: `TelegramObservationHandler.handle` up to the call of `get_updates` and
  from its answer on.

The handler loads the row of the observation state before the call and writes it after it. Only the
columns that differ from the loaded row are written.
-/

namespace LaunchOS.Analytics

open Txn

variable {M : Type}

/-! ## Commands -/

/-- The observation state of an account. -/
def observationState (connectorAccountId : Id) (t : AnalyticsTables) :
    Option ConnectorObservationState :=
  Table.find ConnectorObservationState.connectorAccountId connectorAccountId
    t.connectorObservationStates

/-- The account that `configure_telegram_observation` accepts. -/
def observableAccount (scope : TenantScope) (connectorAccountId : Id) (t : ExecutionTables) :
    Except JobError ConnectorAccount := do
  let account ← orRaise
    (.permanentJobError "ConnectorAccount not found for Telegram observation")
    (Table.find ConnectorAccount.id connectorAccountId t.connectorAccounts)
  scope.assertMatches account.scope
  require (account.provider = "telegram" ∧ account.authHealthy)
    (.permanentJobError "Telegram connector is not observation-ready")
  return account

/-- `configure_telegram_observation`. -/
def configureTelegramObservation (now : Time) (scope : TenantScope) (connectorAccountId : Id)
    (allowedUpdateTypes : List String) : AnalyticsTxn M Unit := do
  let t ← DomainTxn.tables
  let account ← DomainTxn.check (observableAccount scope connectorAccountId t.toExecutionTables)
  DomainTxn.check (require (allowedUpdateTypes.all fun type => type ∈ telegramAllowedUpdates)
    (.permanentJobError "unsupported Telegram observation update type"))
  match observationState account.id t with
  | some existing =>
      DomainTxn.modifyTables fun t => { t with
        connectorObservationStates := Table.modify ConnectorObservationState.id existing.id
          (fun state => { state with allowedUpdateTypes := allowedUpdateTypes })
          t.connectorObservationStates }
  | none => do
      let id ← DomainTxn.newId
      let state : ConnectorObservationState :=
        { id := id
          scope := scope
          connectorAccountId := account.id
          coverageStartedAt := now
          allowedUpdateTypes := allowedUpdateTypes }
      DomainTxn.modifyTables fun t => { t with
        connectorObservationStates := t.connectorObservationStates ++ [state] }

/-- The job of `enqueue_telegram_observation_job`. -/
def observationJob (scope : TenantScope) (connectorAccountId : Id) (cycleId : String) :
    CreateJob where
  scope := scope
  jobType := .connectorTelegramObserveUpdates
  payload := .observeUpdates connectorAccountId
  idempotencyKey := .telegramObserve connectorAccountId cycleId
  maxAttempts := 3

/-- `enqueue_telegram_observation_job`. -/
def enqueueTelegramObservationJob (now : Time) (scope : TenantScope) (connectorAccountId : Id)
    (cycleId : String) : AnalyticsTxn M Unit := do
  let _ ← DomainTxn.createJob now (observationJob scope connectorAccountId cycleId)

/-! ## Reading an update -/

/-- `_telegram_event_type`. -/
def telegramEventType (update : TelegramUpdate) : Except JobError String :=
  match telegramAllowedUpdates.find? fun key => (update.lookup key).isSome with
  | none => .error (.permanentJobError "Telegram update class is not allowed in Phase 6")
  | some key => do
      require ((update.lookup key).bind Json.asDict).isSome
        (.permanentJobError "Telegram update payload is invalid")
      return key

/-- `datetime.fromtimestamp(date, tz=UTC)`, from year 1 to year 9999. -/
def fromTimestamp (date : ℤ) : Except JobError Time := do
  require (-62135596800 ≤ date ∧ date ≤ 253402300799)
    ⟨.unexpected, "ValueError", "year is out of range"⟩
  return date * 1000000

/-- When an update happened, and its message and chat. -/
structure EventIdentity where
  eventTime : Time
  messageId : Option String
  chatId : Option String
deriving DecidableEq, Repr

/-- `_telegram_event_identity`. -/
def telegramEventIdentity (update : TelegramUpdate) (eventType : String) :
    Except JobError EventIdentity := do
  let body ← orRaise (.permanentJobError "Telegram event body is invalid")
    ((update.lookup eventType).bind Json.asDict)
  let date ← orRaise (.permanentJobError "Telegram event_time is required")
    ((body.lookup "date").bind Json.asInt)
  let eventTime ← fromTimestamp date
  return {
    eventTime := eventTime
    messageId := (body.lookup "message_id").bind Json.asIntOrStr
    chatId := (((body.lookup "chat").bind Json.asDict).bind (List.lookup "id")).bind
      Json.asIntOrStr }

/-- What `ingest_telegram_update` reads off an update: the rendered `update_id`, the class and the
identity of the event. -/
def readUpdate (update : TelegramUpdate) : Except JobError (String × String × EventIdentity) := do
  require (updateId? update).isSome (.permanentJobError "Telegram update_id is required")
  let eventType ← telegramEventType update
  let identity ← telegramEventIdentity update eventType
  return (((update.lookup "update_id").bind Json.asIntOrStr).getD "", eventType, identity)

/-! ## One update -/

/-- The chat of an observation does not contradict that of the message. -/
def sameChat (observation : ConnectorObservation) (external : ExternalReference) : Bool :=
  match observation.externalParentId, external.externalParentId with
  | some chatId, some parentId => chatId = parentId
  | _, _ => true

/-- The message of an account with an id. -/
def messageReference (connectorAccountId : Id) (messageId : String) (t : ExecutionTables) :
    Option ExternalReference :=
  t.externalReferences.find? fun external =>
    external.connectorAccountId = connectorAccountId && external.provider = "telegram" &&
      external.externalObjectType = "message" && external.externalId = messageId

/-- The link of a message to its publication. -/
def linkOfReference (externalReferenceId : Id) (t : ExecutionTables) :
    Option PublicationExecutionLink :=
  Table.find PublicationExecutionLink.externalReferenceId externalReferenceId
    t.publicationExecutionLinks

/-- `_publication_for_observation`. -/
def publicationForObservation (observation : ConnectorObservation) (t : ExecutionTables) :
    Option Id := do
  let messageId ← observation.externalObjectId
  let external ← messageReference observation.connectorAccountId messageId t
  guard (sameChat observation external)
  let link ← linkOfReference external.id t
  return link.publicationId

/-- A source record meets the unique constraint of `source_records`. -/
def insertSourceRecord (source : SourceRecord) : AnalyticsTxn M Unit := do
  let t ← DomainTxn.tables
  DomainTxn.check (require (t.sourceRecords.all fun other =>
      !(other.scope.businessId = source.scope.businessId && other.provider = source.provider &&
        other.externalId = source.externalId))
    (.integrityError "uq_source_record_business_provider_external"))
  DomainTxn.modifyTables fun t => { t with sourceRecords := t.sourceRecords ++ [source] }

/-- `{observation.connector_account_id}:{observation.provider_event_identity}`. -/
def sourceExternalId (connectorAccountId : Id) (providerEventIdentity : String) : String :=
  toString connectorAccountId ++ ":" ++ providerEventIdentity

/-- `_normalize_observation`; the result is the publication. -/
def normalizeObservation (scope : TenantScope) (observation : ConnectorObservation) :
    AnalyticsTxn M (Option Id) := do
  let t ← DomainTxn.tables
  match Table.find NormalizedObservationLink.observationId observation.id
      t.normalizedObservationLinks with
  | some existing => do
      let incomplete := JobError.permanentJobError "normalized observation link is incomplete"
      let _ ← DomainTxn.check (orRaise incomplete
        (Table.find BusinessEvent.id existing.businessEventId t.businessEvents))
      let _ ← DomainTxn.check (orRaise incomplete
        (Table.find Evidence.id existing.evidenceId t.evidence))
      return existing.publicationId
  | none => do
      let publicationId := publicationForObservation observation t.toExecutionTables
      let sourceId ← DomainTxn.newId
      insertSourceRecord {
        id := sourceId
        scope := scope
        provider := "telegram"
        externalId :=
          sourceExternalId observation.connectorAccountId observation.providerEventIdentity }
      let eventId ← DomainTxn.newId
      let event : BusinessEvent :=
        { id := eventId
          scope := scope
          eventType := "telegram." ++ observation.providerEventType
          occurredAt := observation.eventTime
          publicationId := publicationId }
      let evidenceId ← DomainTxn.newId
      let evidence : Evidence :=
        { id := evidenceId, scope := scope, sourceRecordId := sourceId, status := .observation }
      let linkId ← DomainTxn.newId
      let link : NormalizedObservationLink :=
        { id := linkId
          scope := scope
          observationId := observation.id
          sourceRecordId := sourceId
          businessEventId := eventId
          evidenceId := evidenceId
          publicationId := publicationId }
      DomainTxn.modifyTables fun t => { t with
        businessEvents := t.businessEvents ++ [event]
        evidence := t.evidence ++ [evidence]
        normalizedObservationLinks := t.normalizedObservationLinks ++ [link] }
      return publicationId

/-- The observation of an update by an account. -/
def observationOf (connectorAccountId : Id) (providerEventIdentity : String)
    (t : AnalyticsTables) : Option ConnectorObservation :=
  t.connectorObservations.find? fun observation =>
    observation.connectorAccountId = connectorAccountId &&
      observation.providerEventIdentity = providerEventIdentity

/-- `ingest_telegram_update`; the result is the publication. -/
def ingestTelegramUpdate (scope : TenantScope) (connectorAccountId : Id) (update : TelegramUpdate)
    (ingestedAt : Time) : AnalyticsTxn M (Option Id) := do
  let t ← DomainTxn.tables
  let account ← DomainTxn.check (orRaise
    (.permanentJobError "ConnectorAccount not found during Telegram ingestion")
    (Table.find ConnectorAccount.id connectorAccountId t.connectorAccounts))
  DomainTxn.check (scope.assertMatches account.scope)
  let (providerEventIdentity, eventType, identity) ← DomainTxn.check (readUpdate update)
  match observationOf account.id providerEventIdentity t with
  | some existing => normalizeObservation scope existing
  | none => do
      let id ← DomainTxn.newId
      let observation : ConnectorObservation :=
        { id := id
          scope := scope
          connectorAccountId := account.id
          providerEventIdentity := providerEventIdentity
          providerEventType := eventType
          externalObjectId := identity.messageId
          externalParentId := identity.chatId
          eventTime := identity.eventTime
          ingestedAt := ingestedAt
          rawPayload := update }
      DomainTxn.modifyTables fun t => { t with
        connectorObservations := t.connectorObservations ++ [observation] }
      normalizeObservation scope observation

/-! ## A poll -/

/-- What the handler holds when it calls `get_updates`: the row it has loaded, and whether it has
set `gap_detected`. -/
structure Poll where
  loaded : ConnectorObservationState
  gapDetected : Bool
deriving DecidableEq, Repr

/-- The `offset` of the call. -/
def Poll.offset (poll : Poll) : Option ℤ :=
  poll.loaded.lastUpdateId.map fun id => id + 1

/-- The last successful ingest is too long ago. -/
def ConnectorObservationState.retentionExceeded (now : Time) (state : ConnectorObservationState) :
    Bool :=
  state.lastSuccessfulIngestAt.any fun last => decide (telegramRetentionGap < now - last)

/-- `TelegramObservationHandler.handle` up to the call of `get_updates`. -/
def beginPoll (context : RuntimeJobContext) (connectorAccountId : Id) (now : Time)
    (t : AnalyticsTables) : Except JobError Poll := do
  let state ← orRaise (.permanentJobError "Telegram observation state is not configured")
    (observationState connectorAccountId t)
  context.scope.assertMatches state.scope
  require (state.observationMode = "LONG_POLL")
    (.permanentJobError "unsupported Telegram observation mode")
  return { loaded := state, gapDetected := state.retentionExceeded now }

/-- `_publication_ids_for_account`. -/
def publicationIdsForAccount (connectorAccountId : Id) (t : ExecutionTables) : List Id :=
  (t.externalReferences.filter fun external =>
    external.connectorAccountId = connectorAccountId && external.provider = "telegram" &&
      external.externalObjectType = "message").filterMap fun external =>
    (linkOfReference external.id t).map PublicationExecutionLink.publicationId

/-- `sorted(updates, key=_update_sort_key)`, with the keys. -/
def sortUpdates (updates : List TelegramUpdate) : Except JobError (List (ℤ × TelegramUpdate)) := do
  let keyed ← updates.mapM fun update => do
    let id ← orRaise (.permanentJobError "Telegram update_id is invalid") (updateId? update)
    return (id, update)
  return keyed.insertionSort fun a b => a.1 ≤ b.1

/-- `max_update_id` after an update. -/
def maxUpdateId (current : Option ℤ) (updateId : ℤ) : Option ℤ :=
  match current with
  | none => some updateId
  | some id => some (max id updateId)

/-- What the loop over the updates accumulates. -/
structure PollProgress where
  maxUpdateId : Option ℤ
  publicationIds : List Id
deriving DecidableEq, Repr

/-- The body of the loop over the updates. -/
def ingestOne (scope : TenantScope) (connectorAccountId : Id) (now : Time)
    (progress : PollProgress) (update : ℤ × TelegramUpdate) : AnalyticsTxn M PollProgress := do
  let publicationId ← ingestTelegramUpdate scope connectorAccountId update.2 now
  return {
    maxUpdateId := LaunchOS.Analytics.maxUpdateId progress.maxUpdateId update.1
    publicationIds := progress.publicationIds ++ publicationId.toList }

/-- What a poll writes into the row of its state at the end. -/
def Poll.write (poll : Poll) (now : Time) (lastUpdateId : Option ℤ)
    (state : ConnectorObservationState) : ConnectorObservationState :=
  { state with
    lastUpdateId := if lastUpdateId ≠ poll.loaded.lastUpdateId then lastUpdateId
      else state.lastUpdateId
    lastSuccessfulIngestAt := some now
    gapDetected := poll.gapDetected || state.gapDetected }

/-- The job that calculates the metric of a publication after a poll. -/
def metricJob (context : RuntimeJobContext) (publicationId : Id) : CreateJob where
  scope := context.scope
  jobType := .analyticsCalculateMetricVersion
  payload := .calculateMetricVersion publicationId
  idempotencyKey := .metric publicationId context.jobId
  maxAttempts := 2

/-- `TelegramObservationHandler.handle` from the answer of `get_updates` on. -/
def finishPoll (context : RuntimeJobContext) (connectorAccountId : Id) (now : Time) (poll : Poll)
    (updates : List TelegramUpdate) : AnalyticsTxn M Unit := do
  let t ← DomainTxn.tables
  let sorted ← DomainTxn.check (sortUpdates updates)
  let progress ← sorted.foldlM (ingestOne context.scope connectorAccountId now)
    { maxUpdateId := poll.loaded.lastUpdateId
      publicationIds := publicationIdsForAccount connectorAccountId t.toExecutionTables }
  DomainTxn.modifyTables fun t => { t with
    connectorObservationStates := Table.modify ConnectorObservationState.id poll.loaded.id
      (poll.write now progress.maxUpdateId) t.connectorObservationStates }
  (progress.publicationIds.dedup.insertionSort (· ≤ ·)).foldlM
    (fun _ publicationId => do
      let _ ← DomainTxn.createJob now (metricJob context publicationId)) ()

/-- `NormalizeConnectorObservationHandler.handle`. -/
def normalizeConnectorObservation (context : RuntimeJobContext) (observationId : Id) :
    AnalyticsTxn M Unit := do
  let t ← DomainTxn.tables
  let observation ← DomainTxn.check (orRaise
    (.permanentJobError "ConnectorObservation not found")
    (Table.find ConnectorObservation.id observationId t.connectorObservations))
  DomainTxn.check (context.scope.assertMatches observation.scope)
  let _ ← normalizeObservation context.scope observation

end LaunchOS.Analytics
