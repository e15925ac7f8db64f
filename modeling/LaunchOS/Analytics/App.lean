import LaunchOS.AiRuntime.DomainZoom
import LaunchOS.Analytics.Learning
import LaunchOS.Execution.App

/-!
# The analytics on the runtime

The module introduces:

* `Bot`, `Bot.confirm`, `Bot.pending`: the queue of updates behind `get_updates`, which one bot holds
  for all accounts;
* `telegramObservationHandler`: the handler, which calls the provider with its transaction open;
* `IngestWrites` and so on, `within_ingestTelegramUpdate` and so on: which rows each operation leaves
  alone;
* `AnalyticsCommand`, `analyticsApp`: the analytics as domain code on the runtime, next to the
  execution service and the rest of the application.
-/

namespace LaunchOS.Analytics

open Txn

variable {M : Type}

/-! ## The bot -/

/-- An update in the queue of the bot. -/
structure QueuedUpdate where
  updateId : ℤ
  fields : JsonDict

/-- What the connector hands over. -/
def QueuedUpdate.json (update : QueuedUpdate) : TelegramUpdate :=
  ("update_id", .int update.updateId) :: update.fields

/-- The queue of the bot: every update it has ever queued, in the order of the ids. Those below
`confirmed` have been dropped. -/
structure Bot where
  queued : List QueuedUpdate := []
  confirmed : ℤ := 0

/-- An update arrives, with an id above all others. -/
def Bot.enqueue (bot : Bot) (update : QueuedUpdate) : Bot :=
  if bot.confirmed ≤ update.updateId ∧ ∀ other ∈ bot.queued, other.updateId < update.updateId then
    { bot with queued := bot.queued ++ [update] }
  else bot

/-- A call with an offset confirms the updates below it. -/
def Bot.confirm (bot : Bot) (offset : Option ℤ) : Bot :=
  { bot with confirmed := match offset with
    | some offset => max bot.confirmed offset
    | none => bot.confirmed }

/-- The answer to a call: the first hundred updates that are not confirmed. -/
def Bot.pending (bot : Bot) : List QueuedUpdate :=
  (bot.queued.filter fun update => bot.confirmed ≤ update.updateId).take 100

/-- A call of `get_updates`. -/
structure GetUpdatesCall where
  jobId : Id
  connectorAccountId : Id
  offset : Option ℤ
  allowedUpdates : List String
deriving DecidableEq, Repr

/-- What is outside the database: the calls that were made, and the bot. -/
structure Provider where
  publishCalls : List PublishCall := []
  getUpdatesCalls : List GetUpdatesCall := []
  bot : Bot := {}

/-- Where a handler stands. -/
inductive AnalyticsProgress
  | execution (progress : TelegramProgress)
  /-- `get_updates` has returned these updates, or it has raised. -/
  | polling (poll : Poll) (reply : Except JobError (List QueuedUpdate))

/-! ## The handlers -/

/-- What the rest of the application does in one transaction: its work on the runtime, what it writes
into tables of its own, and new checkpoints. -/
structure ForeignWrite where
  works : List ForeignWork := []
  context : ExecutionContext → ExecutionContext := id
  checkpoints : List CheckpointDefinition := []

/-- The tables of the execution service within those of the analytics. -/
def executionView : TablesView AnalyticsTables ExecutionTables where
  get := AnalyticsTables.toExecutionTables
  set s t := { t with toExecutionTables := s }
  get_set _ _ := rfl
  set_get _ := rfl

/-- Checkpoints are immutable: new ones take new ids. -/
def ForeignWrite.perform (now : Time) (effect : ForeignWrite) : AnalyticsTxn M Unit := do
  (effect.works.filter ForeignWork.sparesPublish).foldlM
    (fun _ work => work.perform now (fun _ => false) fun _ => false) ()
  DomainTxn.modifyTables fun t => { t with
    toExecutionContext :=
      { effect.context t.toExecutionContext with
        checkpointDefinitions := t.checkpointDefinitions } }
  effect.checkpoints.foldlM (fun _ checkpoint => do
    let id ← DomainTxn.newId
    DomainTxn.modifyTables fun t => { t with
      checkpointDefinitions := t.checkpointDefinitions ++ [{ checkpoint with id := id }] }) ()

/-- What answers the handlers. -/
structure AnalyticsAnswer where
  outcome : PublishOutcome := .ambiguous "TELEGRAM_TRANSPORT_AMBIGUOUS"
  /-- The updates that have arrived since the last call. -/
  arrived : List QueuedUpdate := []
  /-- The error with which the answer of the bot is lost. -/
  unavailable : Option String := none
  foreign : Except JobError ForeignWrite := .ok {}

/-- The bot after a call. -/
def AnalyticsAnswer.bot (answer : AnalyticsAnswer) (offset : Option ℤ) (bot : Bot) : Bot :=
  (answer.arrived.foldl Bot.enqueue bot).confirm offset

/-- What the call returns or raises. -/
def AnalyticsAnswer.reply (answer : AnalyticsAnswer) (offset : Option ℤ) (bot : Bot) :
    Except JobError (List QueuedUpdate) :=
  match answer.unavailable with
  | some errorClass => .error (.transientJobError errorClass)
  | none => .ok (answer.bot offset bot).pending

/-- The stages of a handler. -/
abbrev AnalyticsStage (M : Type) := Stage (AgentTables M AnalyticsTables) Provider AnalyticsProgress

/-- The account of an observation job. -/
def observedAccount : JobPayload → Except JobError Id
  | .observeUpdates connectorAccountId => .ok connectorAccountId
  | _ => .error (.permanentJobError "connector_account_id is required")

/-- `TelegramObservationHandler.handle`. -/
def telegramObservationHandler (context : RuntimeJobContext) (payload : JobPayload) (now : Time)
    (answer : AnalyticsAnswer) (world : Provider) (db : AgentDatabase M AnalyticsTables)
    (progress : AnalyticsProgress) : AnalyticsStage M :=
  match observedAccount payload with
  | .error error => .raise error
  | .ok connectorAccountId =>
      match progress with
      | .execution _ =>
          match beginPoll context connectorAccountId now db.tables.domain with
          | .ok poll =>
              .next (.polling poll (answer.reply poll.offset world.bot)) { world with
                getUpdatesCalls := world.getUpdatesCalls ++
                  [⟨context.jobId, connectorAccountId, poll.offset, poll.loaded.allowedUpdateTypes⟩]
                bot := answer.bot poll.offset world.bot }
          | .error error => .raise error
      | .polling poll (.ok updates) =>
          .ofDomain (exec (finishPoll context connectorAccountId now poll
            (updates.map QueuedUpdate.json)) db)
      | .polling _ (.error error) => .raise error

/-- The publish handler, which writes the tables of the execution service. -/
def publishHandler (D : Digest) (context : RuntimeJobContext) (payload : JobPayload) (now : Time)
    (answer : AnalyticsAnswer) (world : Provider) (db : AgentDatabase M AnalyticsTables) :
    AnalyticsProgress → AnalyticsStage M
  | .execution .preparing =>
      match (prepareExecution D context payload).zoom executionView db with
      | .ok (none, db') => .commit db'
      | .ok (some request, _) =>
          .next (.execution (.called request)) { world with
            publishCalls := world.publishCalls ++
              [⟨context.jobId, request.executionId, request.command⟩] }
      | .error error => .raise error
  | .execution (.called request) =>
      .ofDomain (exec ((settleExecution now context.scope request answer.outcome).zoom
        executionView) db)
  | .polling _ _ => .raise (.permanentJobError "action_id and execution_id are required")

/-- The handlers that take one step, with the id that each reads off its payload. -/
def analyticsHandler (hashPayload : Derivation → String) (context : RuntimeJobContext)
    (payload : JobPayload) (now : Time) (answer : AnalyticsAnswer) : AnalyticsTxn M Unit :=
  match context.jobType, payload with
  | .analyticsNormalizeConnectorObservation, .normalizeObservation observationId =>
      normalizeConnectorObservation context observationId
  | .analyticsCalculateMetricVersion, .calculateMetricVersion publicationId => do
      let _ ← calculateMetricVersion hashPayload now context.scope publicationId
  | .learningInterpretCheckpoint, .interpretCheckpoint metricVersionId =>
      interpretCheckpointHandler now context metricVersionId
  | .learningRunGoverned, .runGovernedLearning experimentResultId => do
      let _ ← createGovernedLearning now context.scope experimentResultId
  | .analyticsNormalizeConnectorObservation, _ =>
      DomainTxn.check (.error (.permanentJobError "observation_id is required"))
  | .analyticsCalculateMetricVersion, _ =>
      DomainTxn.check (.error (.permanentJobError "publication_id is required"))
  | .learningInterpretCheckpoint, _ =>
      DomainTxn.check (.error (.permanentJobError "metric_version_id is required"))
  | .learningRunGoverned, _ =>
      DomainTxn.check (.error (.permanentJobError "experiment_result_id is required"))
  | _, _ => do (← DomainTxn.check answer.foreign).perform now

/-- The handlers of the job types. -/
def analyticsHandle (D : Digest) (hashPayload : Derivation → String) (context : RuntimeJobContext)
    (payload : JobPayload) (now : Time) (answer : AnalyticsAnswer) (progress : AnalyticsProgress)
    (world : Provider) (db : AgentDatabase M AnalyticsTables) : AnalyticsStage M :=
  if context.jobType = .executionTelegramPublish then
    publishHandler D context payload now answer world db progress
  else if context.jobType = .connectorTelegramObserveUpdates then
    telegramObservationHandler context payload now answer world db progress
  else .ofDomain (exec (analyticsHandler hashPayload context payload now answer) db)

/-! ## The commands -/

/-- `create_business_event`; `occurred_at`, the type and the payload are the caller's. -/
def createBusinessEvent (now : Time) (scope : TenantScope) (eventType : String) (occurredAt : Time)
    (publicationId : Option Id) : AnalyticsTxn M Unit := do
  let id ← DomainTxn.newId
  let event : BusinessEvent :=
    { id := id
      scope := scope
      eventType := eventType
      occurredAt := occurredAt
      publicationId := publicationId }
  DomainTxn.modifyTables fun t => { t with businessEvents := t.businessEvents ++ [event] }
  DomainTxn.addOutboxEvent now scope "business_event.recorded"

/-- `create_source_record`. -/
def createSourceRecord (now : Time) (scope : TenantScope) (provider externalId : String) :
    AnalyticsTxn M Unit := do
  let id ← DomainTxn.newId
  insertSourceRecord { id := id, scope := scope, provider := provider, externalId := externalId }
  DomainTxn.addOutboxEvent now scope "source_record.created"

/-- `create_evidence`. -/
def createEvidence (now : Time) (scope : TenantScope) (sourceRecordId : Id)
    (status : EpistemicStatus) : AnalyticsTxn M Unit := do
  let id ← DomainTxn.newId
  let evidence : Evidence :=
    { id := id, scope := scope, sourceRecordId := sourceRecordId, status := status }
  DomainTxn.modifyTables fun t => { t with evidence := t.evidence ++ [evidence] }
  DomainTxn.addOutboxEvent now scope "evidence.created"

/-- What the owners do, and the rest of the application outside of jobs. -/
inductive AnalyticsCommand
  | execution (c : ExecutionCommand)
  | configureTelegramObservation (scope : TenantScope) (connectorAccountId : Id)
      (allowedUpdateTypes : List String)
  | enqueueTelegramObservationJob (scope : TenantScope) (connectorAccountId : Id)
      (cycleId : String)
  | enqueueCheckpointInterpretationJob (scope : TenantScope) (metricVersionId : Id)
  | ingestTelegramUpdate (scope : TenantScope) (connectorAccountId : Id) (update : TelegramUpdate)
  | calculateMetricVersion (scope : TenantScope) (publicationId : Id)
  | interpretCheckpoint (scope : TenantScope) (metricVersionId : Id)
  | createGovernedLearning (scope : TenantScope) (experimentResultId : Id)
  | createBusinessEvent (scope : TenantScope) (eventType : String) (occurredAt : Time)
      (publicationId : Option Id)
  | createSourceRecord (scope : TenantScope) (provider externalId : String)
  | createEvidence (scope : TenantScope) (sourceRecordId : Id) (status : EpistemicStatus)
  | foreign (effect : ForeignWrite)

/-- The execution service leaves the rest of the application to the analytics. -/
def executionCommand (D : Digest) (now : Time) : ExecutionCommand → AnalyticsTxn M Unit
  | .foreign _ => return ()
  | c => (c.run D now).zoom executionView

/-- A command, in a transaction of its own. -/
def AnalyticsCommand.run (D : Digest) (hashPayload : Derivation → String) (now : Time) :
    AnalyticsCommand → AnalyticsTxn M Unit
  | .execution c => executionCommand D now c
  | .configureTelegramObservation scope connectorAccountId allowedUpdateTypes =>
      Analytics.configureTelegramObservation now scope connectorAccountId allowedUpdateTypes
  | .enqueueTelegramObservationJob scope connectorAccountId cycleId =>
      Analytics.enqueueTelegramObservationJob now scope connectorAccountId cycleId
  | .enqueueCheckpointInterpretationJob scope metricVersionId =>
      Analytics.enqueueCheckpointInterpretationJob now scope metricVersionId
  | .ingestTelegramUpdate scope connectorAccountId update => do
      let _ ← Analytics.ingestTelegramUpdate scope connectorAccountId update now
  | .calculateMetricVersion scope publicationId => do
      let _ ← Analytics.calculateMetricVersion hashPayload now scope publicationId
  | .interpretCheckpoint scope metricVersionId => do
      let _ ← Analytics.interpretCheckpoint now scope metricVersionId
  | .createGovernedLearning scope experimentResultId => do
      let _ ← Analytics.createGovernedLearning now scope experimentResultId
  | .createBusinessEvent scope eventType occurredAt publicationId =>
      Analytics.createBusinessEvent now scope eventType occurredAt publicationId
  | .createSourceRecord scope provider externalId =>
      Analytics.createSourceRecord now scope provider externalId
  | .createEvidence scope sourceRecordId status =>
      Analytics.createEvidence now scope sourceRecordId status
  | .foreign effect => effect.perform now

/-! ## Relations that a transaction stays within -/

/-- `r` allows the rows of an ingestion. -/
structure IngestWrites (r : AnalyticsTables → AnalyticsTables → Prop) : Prop where
  insertObservation : ∀ t observation,
    r t { t with connectorObservations := t.connectorObservations ++ [observation] }
  insertSource : ∀ t source, r t { t with sourceRecords := t.sourceRecords ++ [source] }
  insertNormalized : ∀ t event evidence link, r t { t with
    businessEvents := t.businessEvents ++ [event]
    evidence := t.evidence ++ [evidence]
    normalizedObservationLinks := t.normalizedObservationLinks ++ [link] }

/-- `r` allows the rows of a metric. -/
structure MetricWrites (r : AnalyticsTables → AnalyticsTables → Prop) : Prop where
  insertSource : ∀ t source, r t { t with sourceRecords := t.sourceRecords ++ [source] }
  insertMetric : ∀ t evidence metric, r t { t with
    evidence := t.evidence ++ [evidence]
    metricVersions := t.metricVersions ++ [metric] }

/-- `r` allows the rows of a result and of a learning. -/
structure LearningWrites (r : AnalyticsTables → AnalyticsTables → Prop) : Prop where
  insertResult : ∀ t result detail experiments, r t { t with
    experimentResults := t.experimentResults ++ [result]
    experimentResultDetails := t.experimentResultDetails ++ [detail]
    experiments := experiments }
  insertReview : ∀ t review,
    r t { t with learningControllerReviews := t.learningControllerReviews ++ [review] }
  insertLearning : ∀ t learning detail, r t { t with
    learnings := t.learnings ++ [learning]
    learningDetails := t.learningDetails ++ [detail] }

/-- `r` allows what the rest of the application writes. -/
structure ForeignWrites (r : AnalyticsTables → AnalyticsTables → Prop) : Prop where
  context : ∀ t context, context.checkpointDefinitions = t.checkpointDefinitions →
    r t { t with toExecutionContext := context }
  insertCheckpoint : ∀ t checkpoint,
    r t { t with checkpointDefinitions := t.checkpointDefinitions ++ [checkpoint] }

section Within

variable {now : Time} {r : AnalyticsTables → AnalyticsTables → Prop}
variable {R : AgentDatabase M AnalyticsTables → AgentDatabase M AnalyticsTables → Prop}
variable (h : DomainRelation now (fun _ => true) r R)
include h

theorem within_insertSourceRecord
    (hsource : ∀ t source, r t { t with sourceRecords := t.sourceRecords ++ [source] })
    (source : SourceRecord) : Within R (insertSourceRecord source) :=
  h.bind h.tables fun _ => h.bind (h.check _) fun _ => h.modifyTables _ fun t => hsource t source

theorem within_configureTelegramObservation
    (hstates : ∀ t states, r t { t with connectorObservationStates := states })
    (scope : TenantScope) (connectorAccountId : Id) (allowedUpdateTypes : List String) :
    Within R (configureTelegramObservation now scope connectorAccountId allowedUpdateTypes) := by
  refine h.bind h.tables fun t => h.bind (h.check _) fun account => h.bind (h.check _) fun _ => ?_
  split
  next => exact h.modifyTables _ fun t => hstates t _
  next => exact h.bind h.newId fun id => h.modifyTables _ fun t => hstates t _

section Ingest

variable (hw : IngestWrites r)
include hw

theorem within_normalizeObservation (scope : TenantScope) (observation : ConnectorObservation) :
    Within R (normalizeObservation scope observation) := by
  refine h.bind h.tables fun t => ?_
  split
  next => exact h.bind (h.check _) fun _ => h.bind (h.check _) fun _ => h.pure _
  next =>
    refine h.bind h.newId fun sourceId => ?_
    refine h.bind (within_insertSourceRecord h hw.insertSource _) fun _ => ?_
    refine h.bind h.newId fun eventId => h.bind h.newId fun evidenceId => ?_
    refine h.bind h.newId fun linkId => h.bind (h.modifyTables _ fun t => ?_) fun _ => h.pure _
    exact hw.insertNormalized t _ _ _

theorem within_ingestTelegramUpdate (scope : TenantScope) (connectorAccountId : Id)
    (update : TelegramUpdate) (ingestedAt : Time) :
    Within R (ingestTelegramUpdate scope connectorAccountId update ingestedAt) := by
  refine h.bind h.tables fun t => h.bind (h.check _) fun account => h.bind (h.check _) fun _ => ?_
  refine h.bind (h.check _) fun read => ?_
  obtain ⟨providerEventIdentity, eventType, identity⟩ := read
  dsimp only
  split
  next => exact within_normalizeObservation h hw scope _
  next =>
    refine h.bind h.newId fun id => h.bind (h.modifyTables _ fun t => ?_) fun _ => ?_
    · exact hw.insertObservation t _
    · exact within_normalizeObservation h hw scope _

theorem within_normalizeConnectorObservation (context : RuntimeJobContext) (observationId : Id) :
    Within R (normalizeConnectorObservation context observationId) := by
  refine h.bind h.tables fun t => h.bind (h.check _) fun observation => ?_
  refine h.bind (h.check _) fun _ => ?_
  exact h.bind (within_normalizeObservation h hw _ _) fun _ => h.pure _

theorem within_finishPoll
    (hstates : ∀ t states, r t { t with connectorObservationStates := states })
    (context : RuntimeJobContext) (connectorAccountId : Id) (poll : Poll)
    (updates : List TelegramUpdate)
    (hjob : ∀ publicationId, Within R (DomainTxn.createJob now (metricJob context publicationId))) :
    Within R (finishPoll context connectorAccountId now poll updates) := by
  refine h.bind h.tables fun t => h.bind (h.check _) fun sorted => ?_
  refine h.bind (h.foldlM (fun progress update => ?_) _) fun progress => ?_
  · exact h.bind (within_ingestTelegramUpdate h hw _ _ _ _) fun _ => h.pure _
  · refine h.bind (h.modifyTables _ fun t => hstates t _) fun _ => ?_
    exact h.foldlM (fun _ publicationId => h.bind (hjob publicationId) fun _ => h.pure _) _

end Ingest

theorem within_calculateMetricVersion (hw : MetricWrites r) (hashPayload : Derivation → String)
    (scope : TenantScope) (publicationId : Id) :
    Within R (calculateMetricVersion hashPayload now scope publicationId) := by
  refine h.bind h.tables fun t => h.bind (h.check _) fun inputs => ?_
  dsimp only
  split
  next => exact h.pure _
  next =>
    refine h.bind h.newId fun metricId => h.bind h.newId fun sourceId => ?_
    refine h.bind (within_insertSourceRecord h hw.insertSource _) fun _ => ?_
    refine h.bind h.newId fun evidenceId => ?_
    refine h.bind (h.modifyTables _ fun t => hw.insertMetric t _ _) fun _ => ?_
    exact h.bind (h.addOutboxEvent _ _) fun _ => h.pure _

section Learning

variable (hw : LearningWrites r)
include hw

theorem within_interpretCheckpoint (scope : TenantScope) (metricVersionId : Id) :
    Within R (interpretCheckpoint now scope metricVersionId) := by
  refine h.bind h.tables fun t => h.bind (h.check _) fun metric => h.bind (h.check _) fun _ => ?_
  split
  next => exact h.bind (h.check _) fun _ => h.pure _
  next =>
    refine h.bind (h.check _) fun inputs => ?_
    obtain ⟨checkpoint, experiment, resultClass⟩ := inputs
    refine h.bind h.newId fun resultId => h.bind h.newId fun detailId => ?_
    refine h.bind (h.modifyTables _ fun t => hw.insertResult t _ _ _) fun _ => ?_
    exact h.bind (h.addOutboxEvent _ _) fun _ => h.pure _

theorem within_interpretCheckpointHandler (context : RuntimeJobContext) (metricVersionId : Id)
    (hjob : ∀ experimentResultId,
      Within R (DomainTxn.createJob now (learningJob context experimentResultId))) :
    Within R (interpretCheckpointHandler now context metricVersionId) :=
  h.bind (within_interpretCheckpoint h hw _ _) fun _ => h.bind (hjob _) fun _ => h.pure _

theorem within_materializeLearningReviews (scope : TenantScope) (result : ExperimentResult) :
    Within R (materializeLearningReviews scope result) := by
  refine h.bind h.tables fun t => ?_
  dsimp only
  split
  next => exact h.bind (h.check _) fun _ => h.pure _
  next =>
    refine h.foldlM (fun reviews controller => h.bind h.newId fun id => ?_) _
    exact h.bind (h.modifyTables _ fun t => hw.insertReview t _) fun _ => h.pure _

theorem within_createGovernedLearning (scope : TenantScope) (experimentResultId : Id) :
    Within R (createGovernedLearning now scope experimentResultId) := by
  refine h.bind h.tables fun t => h.bind (h.check _) fun result => h.bind (h.check _) fun _ => ?_
  split
  next => exact h.bind (h.check _) fun _ => h.pure _
  next =>
    refine h.bind (h.check _) fun inputs => ?_
    obtain ⟨checkpoint, experiment⟩ := inputs
    refine h.bind (within_materializeLearningReviews h hw _ _) fun reviews => ?_
    refine h.bind (h.check _) fun _ => h.bind h.newId fun learningId => ?_
    refine h.bind h.newId fun detailId => ?_
    refine h.bind (h.modifyTables _ fun t => hw.insertLearning t _ _) fun _ => ?_
    exact h.bind (h.addOutboxEvent _ _) fun _ => h.pure _

end Learning

theorem within_createBusinessEvent
    (hevent : ∀ t event, r t { t with businessEvents := t.businessEvents ++ [event] })
    (scope : TenantScope) (eventType : String) (occurredAt : Time) (publicationId : Option Id) :
    Within R (createBusinessEvent now scope eventType occurredAt publicationId) :=
  h.bind h.newId fun _ => h.bind (h.modifyTables _ fun t => hevent t _) fun _ => h.addOutboxEvent _ _

theorem within_createSourceRecord
    (hsource : ∀ t source, r t { t with sourceRecords := t.sourceRecords ++ [source] })
    (scope : TenantScope) (provider externalId : String) :
    Within R (createSourceRecord now scope provider externalId) :=
  h.bind h.newId fun _ => h.bind (within_insertSourceRecord h hsource _) fun _ => h.addOutboxEvent _ _

theorem within_createEvidence
    (hevidence : ∀ t evidence, r t { t with evidence := t.evidence ++ [evidence] })
    (scope : TenantScope) (sourceRecordId : Id) (status : EpistemicStatus) :
    Within R (createEvidence now scope sourceRecordId status) :=
  h.bind h.newId fun _ => h.bind (h.modifyTables _ fun t => hevidence t _) fun _ =>
    h.addOutboxEvent _ _

theorem within_performForeign (hw : ForeignWrites r) (effect : ForeignWrite)
    (hwork : ∀ work : ForeignWork, Within R (work.perform now (fun _ => false) fun _ => false)) :
    Within R (effect.perform now) := by
  refine h.bind (h.foldlM (fun _ work => hwork work) _) fun _ => ?_
  refine h.bind (h.modifyTables _ fun t => hw.context t _ rfl) fun _ => ?_
  refine h.foldlM (fun _ checkpoint => h.bind h.newId fun id => ?_) _
  exact h.modifyTables _ fun t => hw.insertCheckpoint t _

end Within

/-! ## The analytics as domain code -/

section Grows

variable (D : Digest) (hashPayload : Derivation → String) (now : Time)

private theorem analyticsLawful : DomainRelation (M := M) (T := AnalyticsTables) now
    (fun _ => true) (fun _ _ => True) (AgentGrows now) :=
  domainRelation_agentGrows now _ _

private theorem ingestTop : IngestWrites fun _ _ => True := by
  constructor <;> intros <;> trivial

private theorem learningTop : LearningWrites fun _ _ => True := by
  constructor <;> intros <;> trivial

theorem growsWithin_performForeign (effect : ForeignWrite) :
    Within (AgentGrows now) (effect.perform (M := M) now) :=
  within_performForeign (analyticsLawful now) ⟨fun _ _ _ => trivial, fun _ _ => trivial⟩ effect
    fun work => growsWithin_perform now _ _ work

theorem growsWithin_executionCommand (c : ExecutionCommand) :
    Within (AgentGrows now) (executionCommand (M := M) D now c) := by
  have hrun : Within (AgentGrows now) ((c.run (M := M) D now).zoom executionView) :=
    growsWithin_zoom (growsWithin_run D now c)
  cases c with
  | foreign effect => exact (analyticsLawful now).pure ()
  | _ => exact hrun

theorem growsWithin_command (c : AnalyticsCommand) :
    Within (AgentGrows now) (c.run (M := M) D hashPayload now) := by
  have h := analyticsLawful (M := M) now
  have hmetric : MetricWrites fun _ _ => True := ⟨fun _ _ => trivial, fun _ _ _ => trivial⟩
  cases c with
  | execution c => exact growsWithin_executionCommand D now c
  | configureTelegramObservation scope connectorAccountId allowedUpdateTypes =>
      exact within_configureTelegramObservation h (fun _ _ => trivial) _ _ _
  | enqueueTelegramObservationJob scope connectorAccountId cycleId =>
      refine h.bind (growsWithin_createJob now ?_ ?_) fun _ => h.pure _ <;> simp [observationJob]
  | enqueueCheckpointInterpretationJob scope metricVersionId =>
      refine h.bind h.tables fun t => h.bind (h.check _) fun metric => ?_
      refine h.bind (h.check _) fun _ => h.bind (growsWithin_createJob now ?_ ?_) fun _ => h.pure _
      · simp
      · simp
  | ingestTelegramUpdate scope connectorAccountId update =>
      exact h.bind (within_ingestTelegramUpdate h ingestTop _ _ _ _) fun _ => h.pure _
  | calculateMetricVersion scope publicationId =>
      exact h.bind (within_calculateMetricVersion h hmetric _ _ _) fun _ => h.pure _
  | interpretCheckpoint scope metricVersionId =>
      exact h.bind (within_interpretCheckpoint h learningTop _ _) fun _ => h.pure _
  | createGovernedLearning scope experimentResultId =>
      exact h.bind (within_createGovernedLearning h learningTop _ _) fun _ => h.pure _
  | createBusinessEvent scope eventType occurredAt publicationId =>
      exact within_createBusinessEvent h (fun _ _ => trivial) _ _ _ _
  | createSourceRecord scope provider externalId =>
      exact within_createSourceRecord h (fun _ _ => trivial) _ _ _
  | createEvidence scope sourceRecordId status =>
      exact within_createEvidence h (fun _ _ => trivial) _ _ _
  | foreign effect => exact growsWithin_performForeign now effect

end Grows

/-! ### What a handler that returns has done -/

/-- The transactions of the handlers, and what each of them ends in. -/
inductive AnalyticsCommit (D : Digest) (hashPayload : Derivation → String)
    (context : RuntimeJobContext) (payload : JobPayload) (now : Time) (answer : AnalyticsAnswer)
    (db db' : AgentDatabase M AnalyticsTables) : AnalyticsProgress → Prop
  | prepared {progress : AnalyticsProgress} {result : Option PublishRequest}
      (htype : context.jobType = .executionTelegramPublish)
      (h : (prepareExecution D context payload).zoom executionView db = .ok (result, db')) :
      AnalyticsCommit D hashPayload context payload now answer db db' progress
  | settled {request : PublishRequest} (htype : context.jobType = .executionTelegramPublish)
      (h : exec ((settleExecution now context.scope request answer.outcome).zoom executionView) db =
        .ok db') :
      AnalyticsCommit D hashPayload context payload now answer db db' (.execution (.called request))
  | polled {connectorAccountId : Id} {poll : Poll} {updates : List QueuedUpdate}
      (htype : context.jobType = .connectorTelegramObserveUpdates)
      (hpayload : payload = .observeUpdates connectorAccountId)
      (h : exec (finishPoll context connectorAccountId now poll
        (updates.map QueuedUpdate.json)) db = .ok db') :
      AnalyticsCommit D hashPayload context payload now answer db db' (.polling poll (.ok updates))
  | handled {progress : AnalyticsProgress}
      (htype : context.jobType ≠ .connectorTelegramObserveUpdates)
      (h : exec (analyticsHandler hashPayload context payload now answer) db = .ok db') :
      AnalyticsCommit D hashPayload context payload now answer db db' progress

theorem Stage.ofDomain_eq_commit_iff {T W L : Type} {db : AgentDatabase M T}
    {result : Except JobError (AgentDatabase M T)} :
    (Stage.ofDomain result : Stage (AgentTables M T) W L) = .commit db ↔ result = .ok db := by
  cases result <;> simp [Stage.ofDomain]

theorem observedAccount_eq_ok_iff {payload : JobPayload} {connectorAccountId : Id} :
    observedAccount payload = .ok connectorAccountId ↔
      payload = .observeUpdates connectorAccountId := by
  cases payload <;> simp [observedAccount]

theorem analyticsHandle_commit {D : Digest} {hashPayload : Derivation → String}
    {context : RuntimeJobContext} {payload : JobPayload} {now : Time} {answer : AnalyticsAnswer}
    {progress : AnalyticsProgress} {world : Provider} {db db' : AgentDatabase M AnalyticsTables}
    (h : analyticsHandle D hashPayload context payload now answer progress world db = .commit db') :
    AnalyticsCommit D hashPayload context payload now answer db db' progress := by
  unfold analyticsHandle at h
  split at h
  next htype =>
    cases progress with
    | execution progress =>
        cases progress with
        | preparing =>
            simp only [publishHandler] at h
            split at h
            next hprepare =>
              cases h
              exact .prepared htype hprepare
            next => cases h
            next => cases h
        | called request => exact .settled htype (Stage.ofDomain_eq_commit_iff.mp h)
    | polling poll reply => cases h
  next =>
    split at h
    next htype =>
      unfold telegramObservationHandler at h
      split at h
      next => cases h
      next connectorAccountId haccount =>
        cases progress with
        | execution progress =>
            dsimp only at h
            split at h <;> cases h
        | polling poll reply =>
            cases reply with
            | error error => cases h
            | ok updates =>
                exact .polled htype (observedAccount_eq_ok_iff.mp haccount)
                  (Stage.ofDomain_eq_commit_iff.mp h)
    next htype => exact .handled htype (Stage.ofDomain_eq_commit_iff.mp h)

section Commit

variable {D : Digest} {hashPayload : Derivation → String} {context : RuntimeJobContext}
variable {payload : JobPayload} {now : Time} {answer : AnalyticsAnswer}
variable {progress : AnalyticsProgress} {db db' : AgentDatabase M AnalyticsTables}

theorem growsWithin_handler :
    Within (AgentGrows now) (analyticsHandler (M := M) hashPayload context payload now answer) := by
  have h := analyticsLawful (M := M) now
  have hmetric : MetricWrites fun _ _ => True := ⟨fun _ _ => trivial, fun _ _ _ => trivial⟩
  unfold analyticsHandler
  split
  next => exact within_normalizeConnectorObservation h ingestTop _ _
  next => exact h.bind (within_calculateMetricVersion h hmetric _ _ _) fun _ => h.pure _
  next =>
    exact within_interpretCheckpointHandler h learningTop _ _ fun id =>
      growsWithin_createJob now (by simp [learningJob]) (by simp [learningJob])
  next => exact h.bind (within_createGovernedLearning h learningTop _ _) fun _ => h.pure _
  next => exact h.check _
  next => exact h.check _
  next => exact h.check _
  next => exact h.check _
  next =>
    exact h.bind (h.check _) fun effect => growsWithin_performForeign now effect

theorem AnalyticsCommit.grows
    (h : AnalyticsCommit D hashPayload context payload now answer db db' progress) :
    AgentGrows now db db' := by
  have hlawful := domainRelation_agentGrows (M := M) now (fun _ => true)
    (fun _ _ : ExecutionTables => True)
  cases h with
  | prepared htype h =>
      exact growsWithin_zoom (within_prepareExecution ServiceWrites.top.handler hlawful D context payload) db _ _ h
  | settled htype h =>
      refine Ensures.of_exec ?_ h
      exact growsWithin_zoom (within_settleExecution ServiceWrites.top.handler hlawful .top _ _ _) db
  | polled htype hpayload h =>
      refine Ensures.of_exec ?_ h
      exact within_finishPoll (analyticsLawful now) ingestTop (fun _ _ => trivial) _ _ _ _
        (fun id => growsWithin_createJob now (by simp [metricJob]) (by simp [metricJob])) db
  | handled htype h => exact Ensures.of_exec (growsWithin_handler db) h

end Commit

/-- The analytics and the execution service on the runtime. -/
def analyticsApp (D : Digest) (hashPayload : Derivation → String) :
    App (AgentTables M AnalyticsTables) Provider AnalyticsProgress AnalyticsAnswer
      AnalyticsCommand where
  start := .execution .preparing
  handle := analyticsHandle D hashPayload
  recordAttemptFailure job error willRetry now t :=
    if job.jobType.isAgentRun then recordAgentRunFailure job error willRetry now t else t
  command now c := exec (c.run D hashPayload now)
  handle_grows h := (analyticsHandle_commit h).grows.runtimeGrows
  command_grows {now c db _} h :=
    (Ensures.of_exec (growsWithin_command D hashPayload now c db) h).runtimeGrows

/-- The states of the runtime with the analytics on it. -/
abbrev AnalyticsState (M : Type) :=
  RuntimeState (AgentTables M AnalyticsTables) Provider AnalyticsProgress

/-- An action of the runtime with the analytics on it. -/
abbrev AnalyticsAction := Action AnalyticsAnswer AnalyticsCommand

end LaunchOS.Analytics
