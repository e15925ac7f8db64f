import LaunchOS.Application.Phase6

/-!
# The governed loop

The operations from the first Decision of a business to the Decisions that supersede it, one at a
time: decision workflows, production, execution, observation, metrics and learnings.

The module introduces:

* `GovernedOp`: the commands and the handlers; what the AI runtime writes into its runs, and what the
  other commands of the business write, are operations of their own;
* `GovernedState`: the database and the calls of `publish_text`, which no rollback takes back;
* `GovernedState.step`: an operation in a transaction, which commits or rolls back;
* `executeJob`: a publish job from its beginning to its end.
-/

namespace LaunchOS

open Txn

variable {M : Type}

/-! ## Operations -/

/-- An operation of the loop. -/
inductive GovernedOp (M : Type)
  | startPhase6DecisionWorkflow (scope : TenantScope)
      (payload : Except JobError (List SnapshotEvidence)) (launchId : Option Id)
      (spec : CheckpointSpec) (maxRevisionRounds : ℤ)
  | startSuccessorDecisionWorkflowFromLearning (scope : TenantScope) (actorUserId : Option String)
      (priorDecisionId learningId : Id) (payload : Except JobError (List SnapshotEvidence))
      (spec : CheckpointSpec) (maxRevisionRounds : ℤ)
  | advanceDecisionWorkflow (answer : DecisionAnswer) (context : RuntimeJobContext)
      (workflowId : Id)
  | approveDecisionForProduction (scope : TenantScope) (workflowId : Id)
      (approvedByUserId : String)
  | createCheckpointDefinitionForDecision (scope : TenantScope) (decisionId : Id)
      (spec : CheckpointSpec)
  | startProductionWorkflow (scope : TenantScope) (decisionId : Id) (maxRevisionRounds : ℤ)
  | advanceProductionWorkflow (answer : ProductionAnswer) (context : RuntimeJobContext)
      (workflowId : Id)
  /-- The AI runtime works on its runs. -/
  | runAgents (work : List (AgentRun M) → List (AgentRun M))
  /-- The commands of the business write these tables. -/
  | writeBusiness (channels : List Channel) (businessMemberships : List BusinessMembership)
      (launches : List Launch)
  | probeAndRegisterTelegramConnector (scope : TenantScope) (channelId : Id)
      (targetChatId : String) (readiness : ConnectorReadiness)
  | setGlobalExecutionControls (scope : TenantScope) (userId : String)
      (automationPaused executionPaused revokeAllWriteCapabilities : Option Bool)
  | createActionProposal (scope : TenantScope) (productionWorkflowId connectorAccountId : Id)
  | approveActionProposal (scope : TenantScope) (actionId : Id) (userId : String)
  | approveAction (scope : TenantScope) (actionId : Id) (userId : String)
  /-- If the transaction is lost, the call is made all the same. -/
  | executeJob (context : RuntimeJobContext) (payload : JobPayload) (outcome : PublishOutcome)
      (lost : Bool)
  | configureTelegramObservation (scope : TenantScope) (connectorAccountId : Id)
      (allowedUpdateTypes : List String)
  | ingestTelegramUpdate (scope : TenantScope) (connectorAccountId : Id)
      (update : Analytics.TelegramUpdate)
  | finishPoll (context : RuntimeJobContext) (connectorAccountId : Id) (poll : Analytics.Poll)
      (updates : List Analytics.TelegramUpdate)
  | normalizeConnectorObservation (context : RuntimeJobContext) (observationId : Id)
  | createBusinessEvent (scope : TenantScope) (eventType : String) (occurredAt : Time)
      (publicationId : Option Id)
  | createSourceRecord (scope : TenantScope) (provider externalId : String)
  | createEvidence (scope : TenantScope) (sourceRecordId : Id) (status : EpistemicStatus)
  | calculateMetricVersion (scope : TenantScope) (publicationId : Id)
  | interpretCheckpoint (context : RuntimeJobContext) (metricVersionId : Id)
  | createGovernedLearning (scope : TenantScope) (experimentResultId : Id)

/-- What is hashed, and how the outputs of the agents are read. -/
structure GovernedEnv (M : Type) where
  digest : Digest
  checkpointDigest : CheckpointDigest
  derivationHash : Analytics.Derivation → String
  reader : RunReader M

/-! ## Transactions -/

/-- A transaction of the execution service. -/
def executionPart {α : Type} (m : ExecutionTxn M α) : GovernedTxn M α :=
  (m.zoom Analytics.executionView).zoom analyticsView

/-- A transaction of production. -/
def productionPart {α : Type} (m : ProductionTxn M α) : GovernedTxn M α :=
  m.through GovernedTables.production GovernedTables.setProduction

/-- What the execution service reads of a row of `asset_rights_provenance`. Nothing that production
writes into its `provenance` is under the key `customer_content`. -/
def AssetRightsProvenance.publication (rights : AssetRightsProvenance) : PublicationRights where
  assetVersionId := rights.assetVersionId
  publicationRestrictions := rights.publicationRestrictions
  licenseExpiresAt := rights.licenseExpiresAt
  customerContentConsentRef := rights.customerContentConsentRef

/-- The execution service reads the rows that production has written. -/
def publishRights : GovernedTxn M Unit :=
  DomainTxn.modifyTables fun t => { t with
    publicationRights := t.assetRightsProvenance.map AssetRightsProvenance.publication }

/-- The transaction of an operation; that of a publish job is `executeJob`. -/
def GovernedOp.run (E : GovernedEnv M) (now : Time) : GovernedOp M → GovernedTxn M Unit
  | .startPhase6DecisionWorkflow scope payload launchId spec maxRevisionRounds =>
      LaunchOS.startPhase6DecisionWorkflow E.checkpointDigest now scope payload launchId spec
        maxRevisionRounds
  | .startSuccessorDecisionWorkflowFromLearning scope actorUserId priorDecisionId learningId payload
      spec maxRevisionRounds =>
      LaunchOS.startSuccessorDecisionWorkflowFromLearning E.checkpointDigest now scope actorUserId
        priorDecisionId learningId payload spec maxRevisionRounds
  | .advanceDecisionWorkflow answer context workflowId =>
      phase6DecisionWorkflowAdvanceHandler E.checkpointDigest E.reader now answer context workflowId
  | .approveDecisionForProduction scope workflowId approvedByUserId => do
      let _ ← (DecisionWorkflow.approveDecisionForProduction now scope workflowId
        approvedByUserId).zoom decisionView
  | .createCheckpointDefinitionForDecision scope decisionId spec =>
      LaunchOS.createCheckpointDefinitionForDecision E.checkpointDigest scope decisionId spec
  | .startProductionWorkflow scope decisionId maxRevisionRounds =>
      productionPart (LaunchOS.startProductionWorkflow now scope decisionId maxRevisionRounds)
  | .advanceProductionWorkflow answer context workflowId => do
      productionPart (productionWorkflowAdvanceHandler E.reader.toOutputSchemas now answer context
        workflowId)
      publishRights
  | .runAgents work =>
      modify fun db =>
        { db with tables := { db.tables with agentRuns := work db.tables.agentRuns } }
  | .writeBusiness channels businessMemberships launches =>
      DomainTxn.modifyTables fun t => { t with
        channels := channels
        businessMemberships := businessMemberships
        decisionTables := { t.decisionTables with launches := launches } }
  | .probeAndRegisterTelegramConnector scope channelId targetChatId readiness =>
      executionPart
        (LaunchOS.probeAndRegisterTelegramConnector scope channelId targetChatId readiness)
  | .setGlobalExecutionControls scope userId automationPaused executionPaused revokeAll =>
      executionPart (LaunchOS.setGlobalExecutionControls scope userId automationPaused
        executionPaused revokeAll)
  | .createActionProposal scope productionWorkflowId connectorAccountId => do
      let _ ← executionPart (LaunchOS.createActionProposal E.digest now scope productionWorkflowId
        connectorAccountId)
  | .approveActionProposal scope actionId userId => do
      let _ ← executionPart (LaunchOS.approveActionProposal E.digest now scope actionId userId)
  | .approveAction scope actionId userId =>
      executionPart (LaunchOS.approveAction now scope actionId userId)
  | .executeJob .. => pure ()
  | .configureTelegramObservation scope connectorAccountId allowedUpdateTypes =>
      (Analytics.configureTelegramObservation now scope connectorAccountId
        allowedUpdateTypes).zoom analyticsView
  | .ingestTelegramUpdate scope connectorAccountId update => do
      let _ ← (Analytics.ingestTelegramUpdate scope connectorAccountId update now).zoom
        analyticsView
  | .finishPoll context connectorAccountId poll updates =>
      (Analytics.finishPoll context connectorAccountId now poll updates).zoom analyticsView
  | .normalizeConnectorObservation context observationId =>
      (Analytics.normalizeConnectorObservation context observationId).zoom analyticsView
  | .createBusinessEvent scope eventType occurredAt publicationId =>
      (Analytics.createBusinessEvent now scope eventType occurredAt publicationId).zoom
        analyticsView
  | .createSourceRecord scope provider externalId =>
      (Analytics.createSourceRecord now scope provider externalId).zoom analyticsView
  | .createEvidence scope sourceRecordId status =>
      (Analytics.createEvidence now scope sourceRecordId status).zoom analyticsView
  | .calculateMetricVersion scope publicationId => do
      let _ ← (Analytics.calculateMetricVersion E.derivationHash now scope publicationId).zoom
        analyticsView
  | .interpretCheckpoint context metricVersionId =>
      (Analytics.interpretCheckpointHandler now context metricVersionId).zoom analyticsView
  | .createGovernedLearning scope experimentResultId => do
      let _ ← (Analytics.createGovernedLearning now scope experimentResultId).zoom analyticsView

/-! ## Steps -/

/-- A call of `publish_text` for an Action of a Decision, and how it ended. -/
structure PublishTextCall where
  decisionId : Id
  outcome : PublishOutcome
deriving DecidableEq, Repr

/-- The database, and the calls that were made. -/
structure GovernedState (M : Type) where
  db : AgentDatabase M GovernedTables
  calls : List PublishTextCall := []

/-- `TelegramExecutionHandler.handle` from its beginning to its end. -/
def executeJob (D : Digest) (now : Time) (context : RuntimeJobContext) (payload : JobPayload)
    (outcome : PublishOutcome) (lost : Bool) (s : GovernedState M) : GovernedState M :=
  match executionPart (prepareExecution D context payload) s.db with
  | .error _ => s
  | .ok (none, db) => { s with db := db }
  | .ok (some request, db) =>
      let calls := s.calls ++ [⟨request.detail.decisionId, outcome⟩]
      match lost, exec (executionPart (settleExecution now context.scope request outcome)) db with
      | false, .ok db => { db := db, calls := calls }
      | _, _ => { s with calls := calls }

/-- An operation at a time. -/
structure GovernedAction (M : Type) where
  now : Time
  op : GovernedOp M

/-- One operation. -/
def GovernedState.step (E : GovernedEnv M) (action : GovernedAction M) (s : GovernedState M) :
    GovernedState M :=
  match action.op with
  | .executeJob context payload outcome lost =>
      executeJob E.digest action.now context payload outcome lost s
  | op =>
      match exec (op.run E action.now) s.db with
      | .ok db => { s with db := db }
      | .error _ => s

/-- A step runs a publish job, or an operation commits, or nothing changes. -/
inductive GovernedState.Stepped (E : GovernedEnv M) (s : GovernedState M) :
    GovernedAction M → GovernedState M → Prop
  | executed {action : GovernedAction M} {context : RuntimeJobContext} {payload : JobPayload}
      {outcome : PublishOutcome} {lost : Bool}
      (hop : action.op = .executeJob context payload outcome lost) :
      Stepped E s action (executeJob E.digest action.now context payload outcome lost s)
  | committed {action : GovernedAction M} {db : AgentDatabase M GovernedTables}
      (hok : exec (action.op.run E action.now) s.db = .ok db) : Stepped E s action { s with db := db }
  | refused {action : GovernedAction M} : Stepped E s action s

theorem GovernedState.stepped (E : GovernedEnv M) (action : GovernedAction M)
    (s : GovernedState M) : s.Stepped E action (s.step E action) := by
  unfold GovernedState.step
  split
  next hop => exact .executed hop
  next =>
    split
    next hok => exact .committed hok
    next => exact .refused

/-- Nothing has been written yet. -/
def GovernedState.Initial (s : GovernedState M) : Prop :=
  s.db.tables.domain = {} ∧ s.calls = []

end LaunchOS
