import LaunchOS.Production.Workflow

/-!
# The tables of the execution service

`execution/contracts.py` and the rows of `persistence/execution_models.py` and `persistence/models.py`
that `execution/` reads or writes.

* `ExecutionContext`: the tables the rest of the application writes;
* `ExecutionTables`: these and the tables of the service itself;
* `Digest`: the two SHA-256 digests of the service, as functions of what is hashed.

A JSON value is kept as far as the service reads it, and the constants it writes into a column that
it does not read (`provenance`, `secret_ref`, the mode of a policy) are left out.
-/

namespace LaunchOS

/-! ## Enumerations -/

/-- `ActionStatus`. -/
inductive ActionStatus
  | proposed
  | approvalRequired
  | approved
  | executed
  | blocked
deriving DecidableEq, Repr

/-- `ExecutionStatus`. -/
inductive ExecutionStatus
  | pending
  | running
  | succeeded
  | failed
  | blocked
  | unknownExternalOutcome
deriving DecidableEq, Repr

/-- `ApprovalStatus`. -/
inductive ApprovalStatus
  | pending
  | approved
  | rejected
  | invalidated
deriving DecidableEq, Repr

/-- `ExperimentStatus`. -/
inductive ExperimentStatus
  | draft
  | running
  | complete
  | invalidated
deriving DecidableEq, Repr

/-- `PermissionOutcome`. -/
inductive PermissionOutcome
  | blocked
  | approvalRequired
  | allowed
deriving DecidableEq, Repr

/-- `ExecutionControllerType`. -/
inductive ExecutionControllerType
  | security
  | privacy
  | platform
  | execution
  | cost
deriving DecidableEq, Repr

/-- The `status` of a connector account: `READY` or `UNAVAILABLE`. -/
inductive ConnectorStatus
  | ready
  | unavailable
deriving DecidableEq, Repr

/-! ## What the rest of the application writes -/

/-- A row of `channels`. -/
structure Channel where
  id : Id
  scope : TenantScope
  provider : String
deriving DecidableEq, Repr

/-- A row of `business_memberships`. -/
structure BusinessMembership where
  scope : TenantScope
  userId : String
  role : String
deriving DecidableEq, Repr

/-- A row of `asset_rights_provenance`, as far as publication depends on it. -/
structure PublicationRights where
  assetVersionId : Id
  publicationRestrictions : List String := []
  licenseExpiresAt : Option Time := none
  /-- `bool(provenance.get("customer_content"))` -/
  customerContent : Bool := false
  customerContentConsentRef : Option String := none
deriving DecidableEq, Repr

/-- A row of `experiments`. -/
structure Experiment where
  id : Id
  decisionId : Id
  metric : String
  status : ExperimentStatus := .draft
deriving DecidableEq, Repr

/-- The operators of `TypedThreshold`. -/
inductive ThresholdOperator
  | gte
  | gt
  | lte
  | lt
  | eq
deriving DecidableEq, Repr

/-- `TypedThreshold`; a finite float is a rational. -/
structure TypedThreshold where
  operator : ThresholdOperator
  value : Rat
deriving DecidableEq, Repr

/-- A row of `checkpoint_definitions`, as far as execution, the metrics and the interpretation of a
checkpoint read it. -/
structure CheckpointDefinition where
  id : Id
  experimentId : Id
  decisionId : Id
  metricKey : String
  windowSeconds : ℕ
  graceSeconds : ℕ
  success : TypedThreshold := ⟨.gte, 2⟩
  weakSignal : TypedThreshold := ⟨.gte, 1⟩
  failure : TypedThreshold := ⟨.eq, 0⟩
  contractHash : String := ""
deriving DecidableEq, Repr

/-- The tables that the rest of the application writes. Of these the service writes the status of
an experiment. -/
structure ExecutionContext where
  channels : List Channel := []
  businessMemberships : List BusinessMembership := []
  productionWorkflows : List ProductionWorkflow := []
  assetVersions : List AssetVersion := []
  publicationRights : List PublicationRights := []
  experiments : List Experiment := []
  checkpointDefinitions : List CheckpointDefinition := []
deriving Repr

/-! ## What the service writes -/

/-- A row of `connector_accounts`. -/
structure ConnectorAccount where
  id : Id
  scope : TenantScope
  channelId : Id
  provider : String := "telegram"
  targetChatId : String
  status : ConnectorStatus := .unavailable
  authHealthy : Bool := false
  writeCapability : Bool := false
  /-- `capabilities.get("can_post_messages") is True` -/
  canPostMessages : Bool := false
deriving DecidableEq, Repr

/-- A row of `permission_policies`. -/
structure PermissionPolicy where
  id : Id
  scope : TenantScope
  actionType : String
  requiresApproval : Bool := true
  publicVisibility : Bool := true
deriving DecidableEq, Repr

/-- A row of `actions`. -/
structure ActionProposal where
  id : Id
  scope : TenantScope
  actionType : String
  targetObjectType : String
  targetObjectId : Id
  targetObjectVersionId : Id
  targetObjectVersion : ℕ
  status : ActionStatus
  idempotencyKey : String
deriving DecidableEq, Repr

/-- The `delivery_payload` of a proposal; a text that is no string is `none`. -/
structure DeliveryPayload where
  text : Option String
  disableNotification : Bool := false
  protectContent : Bool := false
deriving DecidableEq, Repr

/-- A row of `action_proposal_details`. -/
structure ActionProposalDetail where
  id : Id
  scope : TenantScope
  actionId : Id
  productionWorkflowId : Id
  decisionId : Id
  assetVersionId : Id
  provider : String := "telegram"
  channelId : Id
  connectorAccountId : Id
  targetChatId : String
  deliveryPayload : DeliveryPayload
  deliveryPayloadHash : String
deriving DecidableEq, Repr

/-- `DeterministicExecutionReview`. -/
structure DeterministicExecutionReview where
  controllerType : ExecutionControllerType
  verdict : ControllerVerdict
  reason : String
  conditions : List String := []
deriving DecidableEq, Repr

/-- A row of `execution_controller_reviews`. -/
structure ExecutionControllerReview extends DeterministicExecutionReview where
  id : Id
  scope : TenantScope
  actionId : Id
deriving DecidableEq, Repr

/-- A row of `permission_evaluations`. -/
structure PermissionEvaluation where
  id : Id
  scope : TenantScope
  actionId : Id
  permissionPolicyId : Id
  outcome : PermissionOutcome
  reason : String
deriving DecidableEq, Repr

/-- A row of `approvals`. -/
structure Approval where
  id : Id
  scope : TenantScope
  actionId : Id
  actionType : String
  objectType : String
  objectId : Id
  objectVersionId : Id
  objectVersion : ℕ
  approvedByUserId : String
  status : ApprovalStatus := .approved
  createdAt : Time
deriving DecidableEq, Repr

/-- A row of `executions`. -/
structure Execution where
  id : Id
  scope : TenantScope
  actionId : Id
  approvalId : Option Id
  status : ExecutionStatus := .pending
  externalReference : Option String := none
deriving DecidableEq, Repr

/-- A row of `global_execution_controls`. -/
structure GlobalExecutionControl where
  id : Id
  scope : TenantScope
  automationPaused : Bool := false
  executionPaused : Bool := false
  revokeAllWriteCapabilities : Bool := false
  updatedByUserId : String
deriving DecidableEq, Repr

/-- A row of `publications`. Only the handler writes them, with status `PUBLISHED`. -/
structure Publication where
  id : Id
  scope : TenantScope
  assetVersionId : Id
  channelId : Id
  publishedAt : Option Time
deriving DecidableEq, Repr

/-- A row of `external_references`. -/
structure ExternalReference where
  id : Id
  scope : TenantScope
  provider : String := "telegram"
  connectorAccountId : Id
  channelId : Id
  externalObjectType : String := "message"
  externalId : String
  externalParentId : Option String
  actionId : Id
  executionId : Id
deriving DecidableEq, Repr

/-- A row of `publication_execution_links`. -/
structure PublicationExecutionLink where
  id : Id
  scope : TenantScope
  publicationId : Id
  actionId : Id
  executionId : Id
  externalReferenceId : Id
deriving DecidableEq, Repr

/-- The tables of the execution service. -/
structure ExecutionTables extends ExecutionContext where
  connectorAccounts : List ConnectorAccount := []
  permissionPolicies : List PermissionPolicy := []
  actions : List ActionProposal := []
  actionProposalDetails : List ActionProposalDetail := []
  executionControllerReviews : List ExecutionControllerReview := []
  permissionEvaluations : List PermissionEvaluation := []
  approvals : List Approval := []
  executions : List Execution := []
  globalExecutionControls : List GlobalExecutionControl := []
  publications : List Publication := []
  externalReferences : List ExternalReference := []
  publicationExecutionLinks : List PublicationExecutionLink := []
deriving Repr

/-! ## The connector -/

/-- `TELEGRAM_PUBLISH_ACTION`. -/
def telegramPublishAction : String := "telegram.publish_text"

/-- `ConnectorReadiness`. -/
structure ConnectorReadiness where
  authHealthy : Bool
  writeCapability : Bool
  canPostMessages : Bool
deriving DecidableEq, Repr

/-- `TelegramPublishTextCommand`. -/
structure TelegramPublishTextCommand where
  chatId : String
  text : String
  disableNotification : Bool := false
  protectContent : Bool := false
deriving DecidableEq, Repr

/-- What `publish_text` does: it returns a `TelegramPublishResult`, or it raises
`TelegramAmbiguousOutcome` or `TelegramConnectorRejected` with an error class. -/
inductive PublishOutcome
  | published (messageId chatId : String)
  | ambiguous (errorClass : String)
  | rejected (errorClass : String)
deriving DecidableEq, Repr

/-- The SHA-256 digests of the service: `_payload_hash` and `_action_idempotency_key`. -/
structure Digest where
  payloadHash : DeliveryPayload → String
  actionIdempotencyKey : (productionWorkflowId assetVersionId connectorAccountId : Id) →
    (targetChatId payloadHash : String) → String

/-- `IntegrityError` for a constraint of the database; the driver's text is only its name here. -/
def JobError.integrityError (constraintName : String) : JobError :=
  ⟨.unexpected, "IntegrityError", constraintName⟩

end LaunchOS
