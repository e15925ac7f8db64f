import LaunchOS.Execution.Contracts

/-!
# Controllers and permission of an execution

`execution/governance.py` and the functions of `execution/service.py` that only read.

The module introduces:

* `evaluateExecutionControllers`: the five deterministic reviews of a proposal;
* `evaluatePermission`: the outcome of the permission engine and its reason;
* `assertCurrentActionBinding`: a proposal is bound to the current final version of its production
  workflow;
* `preflightBlockReason`: what stops an execution right before the write.
-/

namespace LaunchOS

/-! ## Lookups -/

/-- `_action_detail`. -/
def actionDetail (actionId : Id) (t : ExecutionTables) : Except JobError ActionProposalDetail :=
  orRaise (.permanentJobError "ActionProposal detail not found")
    (Table.find ActionProposalDetail.actionId actionId t.actionProposalDetails)

/-- `_permission_evaluation`. -/
def permissionEvaluation (actionId : Id) (t : ExecutionTables) :
    Except JobError PermissionEvaluation :=
  orRaise (.permanentJobError "Permission evaluation not found")
    (Table.find PermissionEvaluation.actionId actionId t.permissionEvaluations)

/-- `_global_control`. -/
def globalControl (businessId : String) (t : ExecutionTables) : Option GlobalExecutionControl :=
  Table.find (fun control => control.scope.businessId) businessId t.globalExecutionControls

/-- The Experiment of a Decision. -/
def experimentOf (decisionId : Id) (t : ExecutionContext) : Option Experiment :=
  Table.find Experiment.decisionId decisionId t.experiments

/-- `_execution_approval`. -/
def executionApproval (execution : Execution) (t : ExecutionTables) : Except JobError Approval := do
  let approvalId ← orRaise (.permanentJobError "Execution has no approval binding")
    execution.approvalId
  orRaise (.permanentJobError "Execution approval not found")
    (Table.find Approval.id approvalId t.approvals)

/-- `_assert_owner`. -/
def assertOwner (scope : TenantScope) (userId : String) (t : ExecutionContext) :
    Except JobError Unit :=
  require ((t.businessMemberships.find? fun m => m.scope = scope && m.userId = userId).any
      fun m => m.role.toList.map Char.toUpper = "OWNER".toList)
    (.permanentJobError "owner authority is required")

/-- `assert_no_secrets` on a text at `path`. -/
def assertNoSecretText (path text : String) : Except JobError Unit :=
  require (Security.hasSecretAssignment text.toList = false)
    (.secretRejectedError ("secret-like value rejected at " ++ path))

/-- `assert_no_secrets` on a delivery payload. -/
def DeliveryPayload.assertNoSecrets (payload : DeliveryPayload) : Except JobError Unit :=
  match payload.text with
  | some text => assertNoSecretText "payload.text" text
  | none => .ok ()

/-- The action targets exactly this asset version. -/
def ActionProposal.targets (action : ActionProposal) (version : AssetVersion) : Bool :=
  action.targetObjectType = "AssetVersion" && action.targetObjectId = version.assetId &&
    action.targetObjectVersionId = version.id && action.targetObjectVersion = version.versionNumber

/-! ## Reviews -/

namespace ExecutionControllerType

/-- A review that passes. -/
def pass (type : ExecutionControllerType) (reason : String) : DeterministicExecutionReview :=
  { controllerType := type, verdict := .pass, reason := reason }

/-- A review that blocks. -/
def block (type : ExecutionControllerType) (reason : String) : DeterministicExecutionReview :=
  { controllerType := type, verdict := .block, reason := reason }

end ExecutionControllerType

section Reviews

open ExecutionControllerType

/-- `_security_review`. -/
def securityReview (detail : ActionProposalDetail) : DeterministicExecutionReview :=
  match detail.deliveryPayload.assertNoSecrets with
  | .error _ => security.block "Secret-like material is forbidden in execution payloads."
  | .ok () => security.pass "Execution payload contains no secret-like material."

/-- `_privacy_review`. -/
def privacyReview (detail : ActionProposalDetail) (now : Time) (t : ExecutionContext) :
    DeterministicExecutionReview :=
  match Table.find PublicationRights.assetVersionId detail.assetVersionId t.publicationRights with
  | none => privacy.block "Asset rights/provenance is required before public execution."
  | some rights =>
      if rights.publicationRestrictions ≠ [] then
        privacy.block "Asset has unresolved publication restrictions."
      else if rights.licenseExpiresAt.any fun expiresAt => decide (expiresAt ≤ now) then
        privacy.block "Asset license has expired."
      else if rights.customerContent && !(rights.customerContentConsentRef.any fun ref => ref ≠ "")
      then privacy.block "Customer content requires an explicit consent reference."
      else privacy.pass "Rights/provenance permits public execution."

/-- `_platform_review`. -/
def platformReview (detail : ActionProposalDetail) (account : ConnectorAccount) :
    DeterministicExecutionReview :=
  if detail.provider ≠ "telegram" ∨ account.provider ≠ "telegram" then
    platform.block "Only Telegram text publication is supported in Phase 5/6."
  else if !(detail.deliveryPayload.text.any fun text => text ≠ "" && text.length ≤ 4096) then
    platform.block "Telegram text must contain between 1 and 4096 characters."
  else if account.status ≠ .ready ∨ !account.authHealthy ∨ !account.writeCapability ∨
      !account.canPostMessages then
    platform.block "Telegram connector is not ready for channel publication."
  else if detail.targetChatId ≠ account.targetChatId then
    platform.block "Action target does not match the governed connector target."
  else platform.pass "Telegram target and connector readiness are valid."

/-- What is wrong with the Experiment of a proposal before its first execution. -/
def experimentReview (detail : ActionProposalDetail) (t : ExecutionContext) : Option String :=
  match experimentOf detail.decisionId t with
  | none => none
  | some experiment =>
      if experiment.status ≠ .draft then
        some "Governed Experiment must be DRAFT before first external execution."
      else
        match Table.find CheckpointDefinition.experimentId experiment.id t.checkpointDefinitions with
        | none => some "Governed Experiment is missing its pre-execution typed checkpoint."
        | some checkpoint =>
            if checkpoint.decisionId ≠ detail.decisionId ∨ checkpoint.metricKey ≠ experiment.metric
            then some "Governed Experiment checkpoint binding is inconsistent."
            else none

/-- `_execution_review`. -/
def executionReview (action : ActionProposal) (detail : ActionProposalDetail)
    (t : ExecutionContext) : DeterministicExecutionReview :=
  match Table.find ProductionWorkflow.id detail.productionWorkflowId t.productionWorkflows,
    Table.find AssetVersion.id detail.assetVersionId t.assetVersions with
  | some workflow, some version =>
      if workflow.status ≠ .readyForActionProposal then
        execution.block "Production workflow is not ready for an action proposal."
      else if workflow.finalAssetVersionId ≠ some version.id then
        execution.block "Action does not reference the final production asset version."
      else if !action.targets version then
        execution.block "Action exact-version binding is invalid."
      else
        match experimentReview detail t with
        | some reason => execution.block reason
        | none =>
            execution.pass "Action is exact-bound to the current production-ready asset version."
  | _, _ => execution.block "Production provenance is incomplete."

/-- `_cost_review`. -/
def costReview : DeterministicExecutionReview :=
  cost.pass "This Phase 5/6 action contract creates no discretionary spend."

/-- `evaluate_execution_controllers`. -/
def evaluateExecutionControllers (action : ActionProposal) (detail : ActionProposalDetail)
    (account : ConnectorAccount) (now : Time) (t : ExecutionContext) :
    List DeterministicExecutionReview :=
  [securityReview detail, privacyReview detail now t, platformReview detail account,
    executionReview action detail t, costReview]

/-- `reviews_pass`. -/
def reviewsPass (reviews : List DeterministicExecutionReview) : Bool :=
  reviews.all fun review => review.verdict = .pass

end Reviews

/-! ## Permission -/

/-- One of the three controls of the business is set. -/
def GlobalExecutionControl.blocks (control : GlobalExecutionControl) : Bool :=
  control.automationPaused || control.executionPaused || control.revokeAllWriteCapabilities

/-- The outcome and the reason of `_evaluate_permission`. -/
def evaluatePermission (scope : TenantScope) (policy : PermissionPolicy)
    (reviews : List DeterministicExecutionReview) (t : ExecutionTables) :
    PermissionOutcome × String :=
  if (globalControl scope.businessId t).any GlobalExecutionControl.blocks then
    (.blocked, "Global execution control blocks external writes.")
  else if !reviewsPass reviews then
    (.blocked, "One or more execution controllers blocked the action.")
  else if policy.requiresApproval || policy.publicVisibility then
    (.approvalRequired, "Public Telegram publication requires explicit owner approval.")
  else (.blocked, "Phase 5 does not permit approval bypass or autopilot.")

/-! ## The write boundary -/

/-- `_assert_current_action_binding`. -/
def assertCurrentActionBinding (D : Digest) (action : ActionProposal)
    (detail : ActionProposalDetail) (t : ExecutionContext) : Except JobError Unit := do
  let noBinding := JobError.permanentJobError "production binding no longer exists"
  let workflow ← orRaise noBinding
    (Table.find ProductionWorkflow.id detail.productionWorkflowId t.productionWorkflows)
  let version ← orRaise noBinding
    (Table.find AssetVersion.id detail.assetVersionId t.assetVersions)
  require (workflow.status = .readyForActionProposal)
    (.permanentJobError "production workflow is no longer execution-ready")
  require (workflow.finalAssetVersionId = some detail.assetVersionId)
    (.permanentJobError "ActionProposal is stale against final AssetVersion")
  require (action.targets version)
    (.permanentJobError "ActionProposal exact-version binding changed")
  require (detail.deliveryPayload.text = some version.body)
    (.permanentJobError "ActionProposal payload differs from immutable AssetVersion")
  require (D.payloadHash detail.deliveryPayload = detail.deliveryPayloadHash)
    (.permanentJobError "ActionProposal payload hash mismatch")

/-- `_approval_matches_action`. -/
def Approval.matchesAction (approval : Approval) (action : ActionProposal) : Bool :=
  approval.actionId = action.id && approval.actionType = action.actionType &&
    approval.objectType = action.targetObjectType && approval.objectId = action.targetObjectId &&
    approval.objectVersionId = action.targetObjectVersionId &&
    approval.objectVersion = action.targetObjectVersion

/-- What the controls of the business stop a write with, the most severe first. -/
def GlobalExecutionControl.blockReason (control : GlobalExecutionControl) : Option String :=
  if control.revokeAllWriteCapabilities then some "blocked_by_revoke_all_write_capabilities"
  else if control.executionPaused then some "blocked_by_global_execution_pause"
  else if control.automationPaused then some "blocked_by_automation_pause"
  else none

/-- `_preflight_block_reason`. -/
def preflightBlockReason (D : Digest) (action : ActionProposal) (detail : ActionProposalDetail)
    (approval : Approval) (account : ConnectorAccount) (t : ExecutionTables) :
    Except JobError (Option String) := do
  let permission ← permissionEvaluation action.id t
  return if permission.outcome ≠ .approvalRequired then some "permission_not_execution_eligible"
    else if t.executionControllerReviews.any fun r => r.actionId = action.id && r.verdict ≠ .pass
    then some "execution_controller_not_passed"
    else
      match (globalControl action.scope.businessId t).bind GlobalExecutionControl.blockReason with
      | some reason => some reason
      | none =>
          if approval.status ≠ .approved then some "approval_not_active"
          else if !approval.matchesAction action then some "stale_or_mismatched_approval"
          else if !(assertCurrentActionBinding D action detail t.toExecutionContext).isOk then
            some "stale_or_mismatched_asset_version"
          else if account.status ≠ .ready ∨ !account.authHealthy ∨ !account.writeCapability then
            some "connector_not_ready"
          else if account.targetChatId ≠ detail.targetChatId then some "connector_target_changed"
          else if (experimentOf detail.decisionId t.toExecutionContext).any
              fun experiment => experiment.status ≠ .draft then
            some "experiment_not_draft"
          else if D.payloadHash detail.deliveryPayload ≠ detail.deliveryPayloadHash then
            some "action_payload_hash_mismatch"
          else none

end LaunchOS
