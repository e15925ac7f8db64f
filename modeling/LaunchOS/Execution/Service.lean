import LaunchOS.Execution.Governance

/-!
# The execution service

The operations of `execution/service.py` and `approve_action` of `application/commands.py`, as
transactions.

The module introduces:

* `probeAndRegisterTelegramConnector`, `createActionProposal`, `approveActionProposal`,
  `setGlobalExecutionControls`, `approveAction`: the commands;
* `prepareExecution`: `TelegramExecutionHandler.handle` up to the call of `publish_text`;
* `settleExecution`: the rest of it, with the outcome of the call.

Between the two the execution is `RUNNING` in the open transaction only: every outcome of the call
writes the status again, so no other transaction ever reads it.
-/

namespace LaunchOS

open Txn

variable {M : Type}

/-- A transaction of the execution service. -/
abbrev ExecutionTxn (M α : Type) := DomainTxn M ExecutionTables α

/-! ## Connector accounts and controls -/

/-- `_channel_for_scope`. -/
def channelForScope (scope : TenantScope) (channelId : Id) (t : ExecutionContext) :
    Except JobError Channel := do
  let channel ← orRaise (.permanentJobError ("Channel not found: " ++ toString channelId))
    (Table.find Channel.id channelId t.channels)
  scope.assertMatches channel.scope
  return channel

/-- What `probe_and_register_telegram_connector` writes into an account, new or old. -/
def ConnectorAccount.probed (targetChatId : String) (readiness : ConnectorReadiness)
    (account : ConnectorAccount) : ConnectorAccount :=
  { account with
    targetChatId := targetChatId
    authHealthy := readiness.authHealthy
    writeCapability := readiness.writeCapability
    canPostMessages := readiness.canPostMessages
    status := if readiness.authHealthy && readiness.writeCapability then .ready else .unavailable }

/-- `probe_and_register_telegram_connector`, with the answer of `check_readiness`. -/
def probeAndRegisterTelegramConnector (scope : TenantScope) (channelId : Id)
    (targetChatId : String) (readiness : ConnectorReadiness) : ExecutionTxn M Unit := do
  let t ← DomainTxn.tables
  let channel ← DomainTxn.check (channelForScope scope channelId t.toExecutionContext)
  DomainTxn.check (require (channel.provider = "telegram")
    (.permanentJobError "Phase 5 connector registration requires a Telegram channel"))
  match t.connectorAccounts.find? fun account =>
      account.scope.businessId = scope.businessId && account.channelId = channelId &&
        account.provider = "telegram" with
  | some existing =>
      DomainTxn.modifyTables fun t => { t with
        connectorAccounts := Table.modify ConnectorAccount.id existing.id
          (ConnectorAccount.probed targetChatId readiness) t.connectorAccounts }
  | none => do
      let id ← DomainTxn.newId
      let account : ConnectorAccount :=
        { id := id, scope := scope, channelId := channelId, targetChatId := targetChatId }
      DomainTxn.modifyTables fun t => { t with
        connectorAccounts := t.connectorAccounts ++ [account.probed targetChatId readiness] }

/-- `set_global_execution_controls`; `none` leaves a control as it is. -/
def setGlobalExecutionControls (scope : TenantScope) (updatedByUserId : String)
    (automationPaused executionPaused revokeAllWriteCapabilities : Option Bool) :
    ExecutionTxn M Unit := do
  let t ← DomainTxn.tables
  DomainTxn.check (assertOwner scope updatedByUserId t.toExecutionContext)
  let write (control : GlobalExecutionControl) : GlobalExecutionControl :=
    { control with
      automationPaused := automationPaused.getD control.automationPaused
      executionPaused := executionPaused.getD control.executionPaused
      revokeAllWriteCapabilities :=
        revokeAllWriteCapabilities.getD control.revokeAllWriteCapabilities
      updatedByUserId := updatedByUserId }
  match globalControl scope.businessId t with
  | some control =>
      DomainTxn.modifyTables fun t => { t with
        globalExecutionControls := Table.modify GlobalExecutionControl.id control.id write
          t.globalExecutionControls }
  | none => do
      let id ← DomainTxn.newId
      let control : GlobalExecutionControl :=
        { id := id, scope := scope, updatedByUserId := updatedByUserId }
      DomainTxn.modifyTables fun t => { t with
        globalExecutionControls := t.globalExecutionControls ++ [write control] }

/-! ## Proposals -/

/-- `ensure_default_telegram_permission_policy`. -/
def ensureDefaultTelegramPermissionPolicy (scope : TenantScope) :
    ExecutionTxn M PermissionPolicy := do
  let t ← DomainTxn.tables
  match t.permissionPolicies.find? fun policy =>
      policy.scope = scope && policy.actionType = telegramPublishAction with
  | some existing => return existing
  | none =>
      let id ← DomainTxn.newId
      let policy : PermissionPolicy :=
        { id := id, scope := scope, actionType := telegramPublishAction }
      DomainTxn.modifyTables fun t => { t with
        permissionPolicies := t.permissionPolicies ++ [policy] }
      return policy

/-- The rows a proposal is made of: its workflow, its asset version and its account. -/
def proposalSources (scope : TenantScope) (productionWorkflowId connectorAccountId : Id)
    (t : ExecutionTables) :
    Except JobError (ProductionWorkflow × AssetVersion × ConnectorAccount) := do
  let workflow ← orRaise
    (.permanentJobError ("ProductionWorkflow not found: " ++ toString productionWorkflowId))
    (Table.find ProductionWorkflow.id productionWorkflowId t.productionWorkflows)
  scope.assertMatches workflow.scope
  require (workflow.status = .readyForActionProposal)
    (.permanentJobError "production workflow is not ready for an action proposal")
  let versionId ← orRaise (.permanentJobError "production workflow has no final asset version")
    workflow.finalAssetVersionId
  let version ← orRaise (.permanentJobError "final AssetVersion not found")
    (Table.find AssetVersion.id versionId t.assetVersions)
  scope.assertMatches version.scope
  let account ← orRaise
    (.permanentJobError ("ConnectorAccount not found: " ++ toString connectorAccountId))
    (Table.find ConnectorAccount.id connectorAccountId t.connectorAccounts)
  scope.assertMatches account.scope
  return (workflow, version, account)

/-- `_materialize_reviews`. -/
def materializeReviews (scope : TenantScope) (actionId : Id)
    (reviews : List DeterministicExecutionReview) : ExecutionTxn M Unit :=
  reviews.foldlM (fun _ review => do
    let id ← DomainTxn.newId
    DomainTxn.modifyTables fun t => { t with
      executionControllerReviews := t.executionControllerReviews ++
        [{ review with id := id, scope := scope, actionId := actionId }] }) ()

/-- `create_action_proposal`. It returns the action, old or new. -/
def createActionProposal (D : Digest) (now : Time) (scope : TenantScope)
    (productionWorkflowId connectorAccountId : Id) : ExecutionTxn M ActionProposal := do
  let t ← DomainTxn.tables
  let (workflow, version, account) ←
    DomainTxn.check (proposalSources scope productionWorkflowId connectorAccountId t)
  let payload : DeliveryPayload := { text := some version.body }
  DomainTxn.check payload.assertNoSecrets
  let payloadHash := D.payloadHash payload
  let idempotencyKey :=
    D.actionIdempotencyKey workflow.id version.id account.id account.targetChatId payloadHash
  match Table.find ActionProposal.idempotencyKey idempotencyKey t.actions with
  | some existing => do
      let _ ← DomainTxn.check (actionDetail existing.id t)
      let _ ← DomainTxn.check (permissionEvaluation existing.id t)
      return existing
  | none => do
      let actionId ← DomainTxn.newId
      let action : ActionProposal :=
        { id := actionId
          scope := scope
          actionType := telegramPublishAction
          targetObjectType := "AssetVersion"
          targetObjectId := version.assetId
          targetObjectVersionId := version.id
          targetObjectVersion := version.versionNumber
          status := .proposed
          idempotencyKey := idempotencyKey }
      let detailId ← DomainTxn.newId
      let detail : ActionProposalDetail :=
        { id := detailId
          scope := scope
          actionId := actionId
          productionWorkflowId := workflow.id
          decisionId := workflow.decisionId
          assetVersionId := version.id
          channelId := account.channelId
          connectorAccountId := account.id
          targetChatId := account.targetChatId
          deliveryPayload := payload
          deliveryPayloadHash := payloadHash }
      DomainTxn.modifyTables fun t => { t with
        actionProposalDetails := t.actionProposalDetails ++ [detail] }
      let reviews := evaluateExecutionControllers action detail account now t.toExecutionContext
      materializeReviews scope actionId reviews
      let policy ← ensureDefaultTelegramPermissionPolicy scope
      let permissionId ← DomainTxn.newId
      let (outcome, reason) := evaluatePermission scope policy reviews (← DomainTxn.tables)
      let permission : PermissionEvaluation :=
        { id := permissionId
          scope := scope
          actionId := actionId
          permissionPolicyId := policy.id
          outcome := outcome
          reason := reason }
      let action :=
        { action with
          status := if outcome = .blocked then ActionStatus.blocked else .approvalRequired }
      DomainTxn.modifyTables fun t => { t with
        actions := t.actions ++ [action]
        permissionEvaluations := t.permissionEvaluations ++ [permission] }
      return action

/-! ## Approvals -/

/-- The approval of an action by a user. -/
def ActionProposal.approvalBy (action : ActionProposal) (id : Id) (scope : TenantScope)
    (userId : String) (now : Time) : Approval where
  id := id
  scope := scope
  actionId := action.id
  actionType := action.actionType
  objectType := action.targetObjectType
  objectId := action.targetObjectId
  objectVersionId := action.targetObjectVersionId
  objectVersion := action.targetObjectVersion
  approvedByUserId := userId
  createdAt := now

/-- `action.status = status`. -/
def setActionStatus (actionId : Id) (status : ActionStatus) : ExecutionTxn M Unit :=
  DomainTxn.modifyTables fun t => { t with
    actions := Table.modify ActionProposal.id actionId (fun action => { action with status := status })
      t.actions }

/-- `approve_action`. -/
def approveAction (now : Time) (scope : TenantScope) (actionId : Id) (userId : String) :
    ExecutionTxn M Unit := do
  let t ← DomainTxn.tables
  let action ← DomainTxn.check (orRaise
    (.permanentJobError ("ActionProposal not found: " ++ toString actionId))
    (Table.find ActionProposal.id actionId t.actions))
  DomainTxn.check (scope.assertMatches action.scope)
  let id ← DomainTxn.newId
  DomainTxn.modifyTables fun t => { t with
    approvals := t.approvals ++ [action.approvalBy id scope userId now] }
  setActionStatus actionId .approved
  DomainTxn.addOutboxEvent now scope "approval.created"

/-- The checks of `approve_action_proposal`. -/
def approvableAction (D : Digest) (scope : TenantScope) (actionId : Id) (userId : String)
    (t : ExecutionTables) : Except JobError ActionProposal := do
  let action ← orRaise (.permanentJobError ("ActionProposal not found: " ++ toString actionId))
    (Table.find ActionProposal.id actionId t.actions)
  scope.assertMatches action.scope
  assertOwner scope userId t.toExecutionContext
  require (action.status = .approvalRequired ∨ action.status = .approved)
    (.permanentJobError "ActionProposal is not approval-eligible")
  let detail ← actionDetail action.id t
  let permission ← permissionEvaluation action.id t
  require (permission.outcome = .approvalRequired)
    (.permanentJobError "Permission Engine did not require owner approval")
  assertCurrentActionBinding D action detail t.toExecutionContext
  return action

/-- The active approval of an action, old or new. -/
def ensureApproval (now : Time) (scope : TenantScope) (action : ActionProposal) (userId : String) :
    ExecutionTxn M Approval := do
  let t ← DomainTxn.tables
  match t.approvals.find? fun approval =>
      approval.actionId = action.id && approval.actionType = action.actionType &&
        approval.objectVersionId = action.targetObjectVersionId &&
        approval.status = .approved with
  | some existing => return existing
  | none =>
      let id ← DomainTxn.newId
      let approval := action.approvalBy id scope userId now
      DomainTxn.modifyTables fun t => { t with approvals := t.approvals ++ [approval] }
      return approval

/-- The execution of an action, old or new. -/
def ensureExecution (scope : TenantScope) (action : ActionProposal) (approval : Approval) :
    ExecutionTxn M Execution := do
  let t ← DomainTxn.tables
  match Table.find Execution.actionId action.id t.executions with
  | some existing => return existing
  | none =>
      let id ← DomainTxn.newId
      let execution : Execution :=
        { id := id, scope := scope, actionId := action.id, approvalId := some approval.id }
      DomainTxn.modifyTables fun t => { t with executions := t.executions ++ [execution] }
      return execution

/-- The job of an execution. -/
def publishJob (scope : TenantScope) (actionId executionId : Id) : CreateJob where
  scope := scope
  jobType := .executionTelegramPublish
  payload := .telegramPublish actionId executionId
  idempotencyKey := .telegramExecution executionId
  maxAttempts := 1

/-- `approve_action_proposal`. -/
def approveActionProposal (D : Digest) (now : Time) (scope : TenantScope) (actionId : Id)
    (userId : String) : ExecutionTxn M Job := do
  let action ← DomainTxn.check (approvableAction D scope actionId userId (← DomainTxn.tables))
  let approval ← ensureApproval now scope action userId
  setActionStatus action.id .approved
  let execution ← ensureExecution scope action approval
  DomainTxn.createJob now (publishJob scope action.id execution.id)

/-- The active approval of an action, as `approve_action_proposal` looks for it. -/
def ActionProposal.activeApproval (action : ActionProposal) (t : ExecutionTables) :
    Option Approval :=
  t.approvals.find? fun approval =>
    approval.actionId = action.id && approval.actionType = action.actionType &&
      approval.objectVersionId = action.targetObjectVersionId &&
      approval.status = .approved

/-- `ApprovalExecutionResult`, with the job that `job_id` names. -/
structure ApprovalExecutionResult where
  approval : Approval
  execution : Execution
  job : Job
  created : Bool

/-- `approve_action_proposal` with all that it returns. -/
def approveActionProposalResult (D : Digest) (now : Time) (scope : TenantScope) (actionId : Id)
    (userId : String) : ExecutionTxn M ApprovalExecutionResult := do
  let t ← DomainTxn.tables
  let action ← DomainTxn.check (approvableAction D scope actionId userId t)
  let approval ← ensureApproval now scope action userId
  setActionStatus action.id .approved
  let execution ← ensureExecution scope action approval
  let job ← DomainTxn.createJob now (publishJob scope action.id execution.id)
  return {
    approval := approval
    execution := execution
    job := job
    created := (action.activeApproval t).isNone }

theorem approveActionProposal_eq (D : Digest) (now : Time) (scope : TenantScope) (actionId : Id)
    (userId : String) : approveActionProposal (M := M) D now scope actionId userId =
      ApprovalExecutionResult.job <$> approveActionProposalResult D now scope actionId userId := by
  simp only [approveActionProposal, approveActionProposalResult, map_bind, map_pure, bind_pure]

/-! ## The publish job -/

/-- What the handler holds when it calls the provider. -/
structure PublishRequest where
  executionId : Id
  action : ActionProposal
  detail : ActionProposalDetail
  account : ConnectorAccount
  command : TelegramPublishTextCommand
deriving DecidableEq, Repr

/-- `execution.status = status`. -/
def setExecutionStatus (executionId : Id) (status : ExecutionStatus) : ExecutionTxn M Unit :=
  DomainTxn.modifyTables fun t => { t with
    executions := Table.modify Execution.id executionId
      (fun execution => { execution with status := status }) t.executions }

/-- `SUCCEEDED`, with the external reference. -/
def succeedExecution (executionId actionId : Id) (externalId : String) : ExecutionTxn M Unit := do
  DomainTxn.modifyTables fun t => { t with
    executions := Table.modify Execution.id executionId
      (fun execution =>
        { execution with status := .succeeded, externalReference := some externalId })
      t.executions }
  setActionStatus actionId .executed

/-- The action and the execution of a publish job. -/
def boundExecution (context : RuntimeJobContext) (payload : JobPayload) (t : ExecutionTables) :
    Except JobError (ActionProposal × Execution) :=
  match payload with
  | .telegramPublish actionId executionId => do
      let notFound := JobError.permanentJobError "ActionProposal or Execution not found"
      let action ← orRaise notFound (Table.find ActionProposal.id actionId t.actions)
      let execution ← orRaise notFound (Table.find Execution.id executionId t.executions)
      context.scope.assertMatches action.scope
      context.scope.assertMatches execution.scope
      require (execution.actionId = action.id)
        (.permanentJobError "Execution is not bound to ActionProposal")
      return (action, execution)
  | _ => .error (.permanentJobError "action_id and execution_id are required")

/-- The execution is over, or nobody knows how it ended. -/
def Execution.settled (execution : Execution) : Bool :=
  execution.status = .succeeded || execution.status = .unknownExternalOutcome

/-- The command for the provider. -/
def publishCommand (detail : ActionProposalDetail) :
    Except JobError TelegramPublishTextCommand := do
  let text ← orRaise (.permanentJobError "governed Telegram text payload is invalid")
    detail.deliveryPayload.text
  return {
    chatId := detail.targetChatId
    text := text
    disableNotification := detail.deliveryPayload.disableNotification
    protectContent := detail.deliveryPayload.protectContent }

/-- `TelegramExecutionHandler.handle` up to the call: `none` if it returns without one. -/
def prepareExecution (D : Digest) (context : RuntimeJobContext) (payload : JobPayload) :
    ExecutionTxn M (Option PublishRequest) := do
  let t ← DomainTxn.tables
  let (action, execution) ← DomainTxn.check (boundExecution context payload t)
  if execution.settled then
    return none
  else
    let detail ← DomainTxn.check (actionDetail action.id t)
    let approval ← DomainTxn.check (executionApproval execution t)
    let account ← DomainTxn.check (orRaise
      (.permanentJobError "ConnectorAccount not found during execution")
      (Table.find ConnectorAccount.id detail.connectorAccountId t.connectorAccounts))
    match ← DomainTxn.check (preflightBlockReason D action detail approval account t) with
    | some _ => do
        setExecutionStatus execution.id .blocked
        setActionStatus action.id .blocked
        return none
    | none =>
        match Table.find ExternalReference.executionId execution.id t.externalReferences with
        | some reference => do
            succeedExecution execution.id action.id reference.externalId
            return none
        | none => do
            let command ← DomainTxn.check (publishCommand detail)
            setExecutionStatus execution.id .running
            return some {
              executionId := execution.id
              action := action
              detail := detail
              account := account
              command := command }

/-- The reference of a new message meets the unique constraints of `external_references`. -/
def insertExternalReference (reference : ExternalReference) : ExecutionTxn M Unit := do
  let t ← DomainTxn.tables
  DomainTxn.check (require (t.externalReferences.all fun other =>
      !(other.provider = reference.provider &&
        other.connectorAccountId = reference.connectorAccountId &&
        other.externalObjectType = reference.externalObjectType &&
        other.externalId = reference.externalId))
    (.integrityError "uq_external_reference_provider_account_object"))
  DomainTxn.check (require (t.externalReferences.all fun other =>
      other.executionId ≠ reference.executionId)
    (.integrityError "uq_external_reference_execution"))
  DomainTxn.modifyTables fun t => { t with
    externalReferences := t.externalReferences ++ [reference] }

/-- The Experiment of the published Decision is exposed. -/
def startExperiment (decisionId : Id) : ExecutionTxn M Unit :=
  DomainTxn.modifyTables fun t =>
    match experimentOf decisionId t.toExecutionContext with
    | some experiment => { t with
        experiments := Table.modify Experiment.id experiment.id
          (fun experiment => { experiment with status := .running }) t.experiments }
    | none => t

/-- `TelegramExecutionHandler.handle` from the answer of the provider on. -/
def settleExecution (now : Time) (scope : TenantScope) (request : PublishRequest) :
    PublishOutcome → ExecutionTxn M Unit
  | .ambiguous errorClass => do
      setExecutionStatus request.executionId .unknownExternalOutcome
      DomainTxn.check (assertNoSecretText "payload.error_class" errorClass)
  | .rejected errorClass => do
      setExecutionStatus request.executionId .failed
      setActionStatus request.action.id .blocked
      DomainTxn.check (assertNoSecretText "payload.error_class" errorClass)
  | .published messageId chatId => do
      let publicationId ← DomainTxn.newId
      DomainTxn.modifyTables fun t => { t with
        publications := t.publications ++ [{
          id := publicationId
          scope := scope
          assetVersionId := request.detail.assetVersionId
          channelId := request.detail.channelId
          publishedAt := some now }] }
      let referenceId ← DomainTxn.newId
      insertExternalReference {
        id := referenceId
        scope := scope
        connectorAccountId := request.account.id
        channelId := request.detail.channelId
        externalId := messageId
        externalParentId := some chatId
        actionId := request.action.id
        executionId := request.executionId }
      let linkId ← DomainTxn.newId
      DomainTxn.modifyTables fun t => { t with
        publicationExecutionLinks := t.publicationExecutionLinks ++ [{
          id := linkId
          scope := scope
          publicationId := publicationId
          actionId := request.action.id
          executionId := request.executionId
          externalReferenceId := referenceId }] }
      startExperiment request.detail.decisionId
      succeedExecution request.executionId request.action.id messageId
      DomainTxn.addOutboxEvent now scope "telegram.publication.executed"

end LaunchOS
