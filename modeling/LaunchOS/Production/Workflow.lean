import LaunchOS.AiRuntime.DomainTxn
import LaunchOS.AiRuntime.Schemas
import LaunchOS.Application.WorthMapping

/-!
# The production workflow

`application/production_workflow.py` and the modules of `production/` it calls: from an approved
Decision over a content strategy, a brief and the versions of an asset to an asset that all
controllers have passed.

The module introduces:

* the rows of the production tables, and `ProductionTables`;
* `validatedOutput`, `validateEvidenceRefs`: what the workflow demands of a run before it uses its
  output;
* `materializeContentStrategy` and so on: the rows a stage makes of the outputs of its runs;
* `governedAssetOutcome`: the verdict over the reviews of an asset version;
* `advanceProductionWorkflow`: one step of the workflow;
* `startProductionWorkflow`;
* `productionApp`: the workflow as domain code on the runtime, next to the rest of the application.

Each function reads its rows in `Except JobError` and writes in `DomainTxn`. The row of the workflow
itself is passed along and written when the step ends. What the agent registry, the context trace of
a run and the secret scan of the stored payloads answer comes from outside (`ProductionAnswer`).
-/

namespace LaunchOS

open Txn

/-! ## Rows -/

/-- `ProductionWorkflowStatus`. -/
inductive ProductionWorkflowStatus
  | decisionApprovalVerified
  | contentStrategyRunning
  | contentStrategyReady
  | briefReady
  | productionRunning
  | assetVersionReady
  | assetControllersRunning
  | blocked
  | revisionRequired
  | productionReady
  | readyForActionProposal
  | escalated
deriving DecidableEq, Repr

/-- A row of `production_workflows`. -/
structure ProductionWorkflow where
  id : Id
  scope : TenantScope
  decisionId : Id
  decisionVersion : ℕ
  decisionApprovalId : Id
  snapshotId : Id
  status : ProductionWorkflowStatus := .decisionApprovalVerified
  revisionCount : ℕ := 0
  maxRevisionRounds : ℕ
  creativeBriefId : Option Id := none
  assetId : Option Id := none
  finalAssetVersionId : Option Id := none
deriving DecidableEq, Repr

/-- A row of `decisions`, as far as production reads it. -/
structure Decision where
  id : Id
  scope : TenantScope
  version : ℕ
  approvedForProduction : Bool
  snapshotId : Option Id
  evidenceIds : List String := []
  supersedesDecisionId : Option Id := none
deriving DecidableEq, Repr

/-- A row of `decision_approvals` for the approval of a Decision. -/
structure DecisionApproval where
  id : Id
  scope : TenantScope
  decisionId : Id
  objectId : Id
  objectVersionId : Id
  objectVersion : ℕ
  approved : Bool
  createdAt : Time
deriving DecidableEq, Repr

/-- A row of `evidence`, as far as the checks of evidence references read it. -/
structure Evidence where
  id : String
  scope : TenantScope
  status : EpistemicStatus
deriving DecidableEq, Repr

/-- A row of `content_strategies`. -/
structure ContentStrategy where
  id : Id
  scope : TenantScope
  workflowId : Id
  agentRunId : Id
  payload : ContentStrategyProposal
deriving DecidableEq, Repr

/-- A row of `creative_briefs`. -/
structure CreativeBrief where
  id : Id
  scope : TenantScope
  decisionId : Id
  objective : String
deriving DecidableEq, Repr

/-- A row of `creative_brief_details`. -/
structure CreativeBriefDetail where
  workflowId : Id
  creativeBriefId : Id
  contentStrategyId : Id
deriving DecidableEq, Repr

/-- A row of `assets`. -/
structure Asset where
  id : Id
  scope : TenantScope
  creativeBriefId : Id
deriving DecidableEq, Repr

/-- A row of `asset_versions` with the row of its creator, an agent run. -/
structure AssetVersion where
  id : Id
  scope : TenantScope
  assetId : Id
  versionNumber : ℕ
  body : String
  claimInventory : List ClaimInventoryItem
  createdByAgentRunId : Id
deriving DecidableEq, Repr

/-- A row of `asset_rights_provenance`. -/
structure AssetRightsProvenance where
  assetVersionId : Id
  origin : RightsOrigin
  generatedByAgentRunId : Option Id
  permissionScope : Option String
  customerContentConsentRef : Option String
  publicationRestrictions : List String
  licenseExpiresAt : Option Time
deriving DecidableEq, Repr

/-- A row of `asset_reviews`. -/
structure AssetReview where
  id : Id
  workflowId : Id
  assetVersionId : Id
  agentRunId : Id
  controllerType : String
  verdict : ControllerVerdict
  requiredChanges : List String
  conditions : List String
deriving DecidableEq, Repr

/-- The tables of the workflow. The first three are written elsewhere. -/
structure ProductionTables where
  decisions : List Decision := []
  decisionApprovals : List DecisionApproval := []
  evidence : List Evidence := []
  productionWorkflows : List ProductionWorkflow := []
  contentStrategies : List ContentStrategy := []
  creativeBriefs : List CreativeBrief := []
  creativeBriefDetails : List CreativeBriefDetail := []
  assets : List Asset := []
  assetVersions : List AssetVersion := []
  assetRightsProvenance : List AssetRightsProvenance := []
  assetReviews : List AssetReview := []
deriving Repr

/-- What answers the workflow from outside, and what the handlers of the rest of the application
do. -/
structure ProductionAnswer where
  /-- `AgentRegistry.resolve` and `ensure_agent_definition`. -/
  admission : Except JobError Unit := .ok ()
  /-- The context hash of a run and its durable definition. -/
  trace : Except JobError Unit := .ok ()
  /-- `assert_no_secrets` on what a stage stores. -/
  noSecrets : Except JobError Unit := .ok ()
  foreign : Except JobError (List ForeignWork) := .ok []

/-- A transaction of the production workflow. -/
abbrev ProductionTxn (M α : Type) := DomainTxn M ProductionTables α

variable {M : Type}

/-! ## Reading -/

/-- `approval_matches_decision`. -/
def DecisionApproval.matchesDecision (approval : DecisionApproval) (decision : Decision) : Bool :=
  approval.objectId = decision.id && approval.objectVersionId = decision.id &&
    approval.objectVersion = decision.version && approval.approved

/-- Some Decision of the tenant supersedes the given one. -/
def superseded (scope : TenantScope) (decisionId : Id) (decisions : List Decision) : Bool :=
  decisions.any fun d => d.scope = scope && d.supersedesDecisionId = some decisionId

/-- `_decision`. -/
def decisionOf (w : ProductionWorkflow) (t : ProductionTables) : Except JobError Decision := do
  let decision ← orRaise (.permanentJobError "ProductionWorkflow Decision not found")
    (Table.find Decision.id w.decisionId t.decisions)
  w.scope.assertMatches decision.scope
  return decision

/-- `_assert_decision_binding`. -/
def assertDecisionBinding (w : ProductionWorkflow) (t : ProductionTables) :
    Except JobError Unit := do
  let decision ← decisionOf w t
  require (decision.version = w.decisionVersion)
    (.permanentJobError "Decision version changed after production workflow start")
  require decision.approvedForProduction
    (.permanentJobError "Decision approval is no longer production-eligible")
  let approval ← orRaise (.permanentJobError "production Decision approval is stale")
    (Table.find DecisionApproval.id w.decisionApprovalId t.decisionApprovals)
  require (approval.matchesDecision decision)
    (.permanentJobError "production Decision approval is stale")
  require (superseded w.scope decision.id t.decisions = false)
    (.permanentJobError "production cannot continue from superseded Decision")

/-- `_validated_output`. -/
def validatedOutput {α : Type} (modelValidate : M → Option α) (label : String)
    (run : AgentRun M) : Except JobError α :=
  match run.status, run.outputData with
  | .succeeded, some output =>
      orRaise (.permanentJobError (label ++ " output failed schema validation"))
        (modelValidate output)
  | .queued, _ | .running, _ | .retryWait, _ =>
      .error (.transientJobError (label ++ " AgentRun is not ready"))
  | _, _ => .error (.permanentJobError (label ++ " AgentRun did not produce valid output"))

/-- `_validate_evidence_refs`. -/
def validateEvidenceRefs (w : ProductionWorkflow) (t : ProductionTables) :
    List EvidenceReference → Except JobError Unit
  | [] => .ok ()
  | ref :: refs => do
      let evidence ← orRaise (.permanentJobError ("unknown evidence ref: " ++ ref.evidenceId))
        (Table.find Evidence.id ref.evidenceId t.evidence)
      w.scope.assertMatches evidence.scope
      require (evidence.status = ref.epistemicStatus)
        (.permanentJobError "AI output cannot promote or rewrite evidence status")
      validateEvidenceRefs w t refs

/-- `_agent_run_by_idempotency`. -/
def agentRunByIdempotency (w : ProductionWorkflow) (key : RunKey) (runs : List (AgentRun M)) :
    Except JobError (AgentRun M) :=
  orRaise (.transientJobError "AgentRun not created yet") (findAgentRun w.scope key runs)

/-- The versions of the workflow's asset. -/
def assetVersionsOf (w : ProductionWorkflow) (t : ProductionTables) : List AssetVersion :=
  t.assetVersions.filter fun v => v.scope = w.scope && w.assetId = some v.assetId

/-- The highest version number of the workflow's asset, or zero. -/
def latestVersionNumber (w : ProductionWorkflow) (t : ProductionTables) : ℕ :=
  Table.maxOf AssetVersion.versionNumber (assetVersionsOf w t)

/-- `_next_asset_version_number`. -/
def nextAssetVersionNumber (w : ProductionWorkflow) (t : ProductionTables) : ℕ :=
  latestVersionNumber w t + 1

/-- `_asset_version`. -/
def assetVersion (w : ProductionWorkflow) (versionNumber : ℕ) (t : ProductionTables) :
    Option AssetVersion :=
  (assetVersionsOf w t).find? fun v => v.versionNumber = versionNumber

/-- `_latest_asset_version`. -/
def latestAssetVersion (w : ProductionWorkflow) (t : ProductionTables) :
    Except JobError AssetVersion := do
  require w.assetId.isSome (.permanentJobError "ProductionWorkflow has no Asset")
  orRaise (.permanentJobError "ProductionWorkflow Asset has no version")
    (assetVersion w (latestVersionNumber w t) t)

/-- `_strategy`. -/
def strategyOf (w : ProductionWorkflow) (t : ProductionTables) : Except JobError ContentStrategy := do
  let strategy ← orRaise (.permanentJobError "ProductionWorkflow ContentStrategy not found")
    (Table.find ContentStrategy.workflowId w.id t.contentStrategies)
  w.scope.assertMatches strategy.scope
  return strategy

/-- `_rights_for_version`. -/
def rightsForVersion (assetVersionId : Id) (t : ProductionTables) : Option AssetRightsProvenance :=
  Table.find AssetRightsProvenance.assetVersionId assetVersionId t.assetRightsProvenance

/-! ## Governance -/

/-- `lowered` as a list of characters. -/
def lowered (text : String) : List Char := text.toList.map Char.toLower

/-- `_contains_hard_manipulation`. -/
def containsHardManipulation (body : String) : Bool :=
  ["if you don't buy", "if you do not buy", "you are not ready", "you'll regret",
    "you will regret", "only worthy people", "prove your worth"].any
      (WorthMapping.contains (lowered body))

/-- A claim of the inventory that evidence of the tenant has to back, and none does. -/
def ClaimInventoryItem.unsupported (scope : TenantScope) (evidence : List Evidence)
    (claim : ClaimInventoryItem) : Bool :=
  claim.claimType ≠ .promotional &&
    match claim.evidenceRef.bind fun ref => Table.find Evidence.id ref evidence with
    | some row => row.scope ≠ scope
    | none => true

/-- `_has_unsupported_claims`. -/
def hasUnsupportedClaims (w : ProductionWorkflow) (version : AssetVersion)
    (t : ProductionTables) : Bool :=
  version.claimInventory.any (ClaimInventoryItem.unsupported w.scope t.evidence) ||
    (["guaranteed", "guarantee", "100%", "testimonial", "everyone gets"].any
        (WorthMapping.contains (lowered version.body)) &&
      version.claimInventory.all fun claim => claim.evidenceRef.isNone)

/-- `_rights_are_complete`. -/
def rightsAreComplete (version : AssetVersion) (t : ProductionTables) : Bool :=
  match rightsForVersion version.id t with
  | none => false
  | some rights =>
      match rights.origin with
      | .generated => rights.generatedByAgentRunId = some version.createdByAgentRunId
      | _ => rights.permissionScope.any fun scope => scope ≠ ""

/-- `_mandatory_conditions` is not empty. -/
def AssetReview.hasMandatoryConditions (review : AssetReview) : Bool :=
  (review.conditions ++ review.requiredChanges).any fun value =>
    WorthMapping.strip value.toList ≠ []

/-- The verdict over the reviews alone. -/
def reviewVerdict (reviews : List AssetReview) : ControllerVerdict :=
  .resolve AssetReview.verdict AssetReview.hasMandatoryConditions reviews

/-- `governed_asset_outcome`. -/
def governedAssetOutcome (w : ProductionWorkflow) (version : AssetVersion)
    (reviews : List AssetReview) (t : ProductionTables) : Except JobError ControllerVerdict := do
  require (requiredAssetControllerTypes.all fun type =>
      reviews.any fun review => review.controllerType = type)
    (.transientJobError "required asset controllers not ready")
  return if WorthMapping.containsHumanWorthViolation [version.body] then .block
    else if containsHardManipulation version.body then .block
    else if hasUnsupportedClaims w version t then .revise
    else if rightsAreComplete version t = false then .revise
    else reviewVerdict reviews

/-! ## Writing -/

section Writing

variable (S : OutputSchemas M) (now : Time) (answer : ProductionAnswer)

/-- The job `_enqueue_advance` asks for. -/
def advanceJob (w : ProductionWorkflow) (suffix : ProductionAdvance) : CreateJob where
  scope := w.scope
  jobType := .workflowAdvance
  payload := .productionAdvance w.id
  idempotencyKey := .productionWorkflow w.id suffix
  maxAttempts := 20

/-- `_enqueue_advance`. -/
def enqueueAdvance (w : ProductionWorkflow) (suffix : ProductionAdvance) : ProductionTxn M Job :=
  DomainTxn.createJob now (advanceJob w suffix)

/-- The `context_refs` that every run of the workflow starts with: the snapshot, the Decision and its
evidence. -/
def decisionContextRefs (w : ProductionWorkflow) (decision : Decision) : List ContextReference :=
  ⟨"business_snapshot", toString w.snapshotId⟩ :: ⟨"decision", toString w.decisionId⟩ ::
    decision.evidenceIds.map fun evidenceId => ⟨"evidence", evidenceId⟩

/-- The `context_refs` of `_ensure_writer_run`. -/
def writerContextRefs (w : ProductionWorkflow) (decision : Decision) (strategy : ContentStrategy)
    (creativeBriefId : Id) (previousVersion : Option AssetVersion) (reviews : List AssetReview) :
    List ContextReference :=
  decisionContextRefs w decision ++
    [⟨"content_strategy", toString strategy.id⟩, ⟨"creative_brief", toString creativeBriefId⟩] ++
    previousVersion.toList.map (fun version => ⟨"asset_version", toString version.id⟩) ++
    reviews.map fun review => ⟨"asset_review", toString review.id⟩

/-- The `context_refs` of `_ensure_asset_controller_runs`. The rights of a version go by its id. -/
def assetControllerContextRefs (w : ProductionWorkflow) (decision : Decision)
    (creativeBriefId : Id) (version : AssetVersion) (rights : AssetRightsProvenance) :
    List ContextReference :=
  decisionContextRefs w decision ++
    [⟨"creative_brief", toString creativeBriefId⟩, ⟨"asset_version", toString version.id⟩,
      ⟨"asset_rights_provenance", toString rights.assetVersionId⟩]

/-- `create_agent_run` with the reference as its idempotency key. -/
def ensureRun (w : ProductionWorkflow) (ref : RunRef) (contractKey : String)
    (contextRefs : List ContextReference) (jobType : JobType)
    (isAgentRun : jobType.isAgentRun = true) : ProductionTxn M Unit := do
  let _ ← DomainTxn.createAgentRun now
    { scope := w.scope
      contractKey := contractKey
      inputRef := some ref
      contextRefs := contextRefs
      jobType := jobType
      idempotencyKey := some (.base ref)
      isAgentRun := isAgentRun } answer.admission

/-- `_ensure_content_strategy_run`. -/
def ensureContentStrategyRun (w : ProductionWorkflow) : ProductionTxn M Unit := do
  let t ← DomainTxn.tables
  let decision ← DomainTxn.check (decisionOf w t)
  ensureRun now answer w (.contentStrategy w.id) contentDirectorContractKey
    (decisionContextRefs w decision) .aiRunAgent JobType.isAgentRun_aiRunAgent

/-- `_ensure_writer_run`. -/
def ensureWriterRun (w : ProductionWorkflow) (previousVersion : Option AssetVersion)
    (reviews : List AssetReview) : ProductionTxn M Unit := do
  let t ← DomainTxn.tables
  let creativeBriefId ← DomainTxn.check (orRaise
    (.permanentJobError "CreativeBrief must exist before writing") w.creativeBriefId)
  let strategy ← DomainTxn.check (strategyOf w t)
  let decision ← DomainTxn.check (decisionOf w t)
  ensureRun now answer w (.asset w.id (nextAssetVersionNumber w t)) telegramWriterContractKey
    (writerContextRefs w decision strategy creativeBriefId previousVersion reviews) .aiRunAgent
    JobType.isAgentRun_aiRunAgent

/-- `_ensure_asset_controller_runs`. -/
def ensureAssetControllerRuns (w : ProductionWorkflow) (version : AssetVersion) :
    ProductionTxn M Unit := do
  let t ← DomainTxn.tables
  let creativeBriefId ← DomainTxn.check (orRaise
    (.permanentJobError "CreativeBrief missing before asset review") w.creativeBriefId)
  let rights ← DomainTxn.check (orRaise
    (.permanentJobError "asset rights provenance must exist before review")
    (rightsForVersion version.id t))
  let decision ← DomainTxn.check (decisionOf w t)
  requiredAssetControllerTypes.foldlM
    (fun _ type => ensureRun now answer w
      (.assetController w.id version.versionNumber (assetControllerContractKey type))
      (assetControllerContractKey type)
      (assetControllerContextRefs w decision creativeBriefId version rights) .aiRunController
      JobType.isAgentRun_aiRunController) ()

/-- `_materialize_content_strategy`. -/
def materializeContentStrategy (w : ProductionWorkflow) : ProductionTxn M ContentStrategy := do
  let t ← DomainTxn.tables
  match Table.find ContentStrategy.workflowId w.id t.contentStrategies with
  | some existing => return existing
  | none =>
      let runs ← DomainTxn.agentRuns
      let run ← DomainTxn.check (agentRunByIdempotency w (.base (.contentStrategy w.id)) runs)
      let output ← DomainTxn.check
        (validatedOutput S.contentStrategyProposal "content strategy" run)
      DomainTxn.check (validateEvidenceRefs w t output.evidenceRefs)
      DomainTxn.check answer.trace
      let id ← DomainTxn.newId
      let row : ContentStrategy :=
        { id := id, scope := w.scope, workflowId := w.id, agentRunId := run.id, payload := output }
      DomainTxn.modifyTables fun t => { t with contentStrategies := t.contentStrategies ++ [row] }
      return row

/-- `_materialize_creative_brief`. -/
def materializeCreativeBrief (w : ProductionWorkflow) (strategy : ContentStrategy) :
    ProductionTxn M CreativeBrief := do
  let t ← DomainTxn.tables
  match Table.find CreativeBriefDetail.workflowId w.id t.creativeBriefDetails with
  | some detail =>
      DomainTxn.check (orRaise
        (.permanentJobError "CreativeBrief detail points to missing brief")
        (Table.find CreativeBrief.id detail.creativeBriefId t.creativeBriefs))
  | none =>
      let id ← DomainTxn.newId
      let brief : CreativeBrief :=
        { id := id, scope := w.scope, decisionId := w.decisionId
          objective := strategy.payload.objective }
      let _ ← DomainTxn.check (decisionOf w t)
      DomainTxn.check answer.noSecrets
      DomainTxn.modifyTables fun t =>
        { t with
          creativeBriefs := t.creativeBriefs ++ [brief]
          creativeBriefDetails := t.creativeBriefDetails ++
            [{ workflowId := w.id, creativeBriefId := id, contentStrategyId := strategy.id }] }
      return brief

/-- `_ensure_asset`: the asset and the workflow bound to it. -/
def ensureAsset (w : ProductionWorkflow) : ProductionTxn M (Id × ProductionWorkflow) := do
  let t ← DomainTxn.tables
  match w.assetId with
  | some assetId =>
      let _ ← DomainTxn.check (orRaise
        (.permanentJobError "ProductionWorkflow asset binding is broken")
        (Table.find Asset.id assetId t.assets))
      return (assetId, w)
  | none =>
      let briefId ← DomainTxn.check (orRaise
        (.permanentJobError "CreativeBrief missing before Asset creation") w.creativeBriefId)
      let id ← DomainTxn.newId
      DomainTxn.modifyTables fun t =>
        { t with assets := t.assets ++ [{ id := id, scope := w.scope, creativeBriefId := briefId }] }
      return (id, { w with assetId := some id })

/-- `_materialize_asset_version`: the version and the workflow bound to it. -/
def materializeAssetVersion (w : ProductionWorkflow) :
    ProductionTxn M (AssetVersion × ProductionWorkflow) := do
  let t ← DomainTxn.tables
  let versionNumber := nextAssetVersionNumber w t
  match assetVersion w versionNumber t with
  | some existing => return (existing, w)
  | none =>
      let runs ← DomainTxn.agentRuns
      let run ← DomainTxn.check
        (agentRunByIdempotency w (.base (.asset w.id versionNumber)) runs)
      let output ← DomainTxn.check (validatedOutput S.assetDraftProposal "asset draft" run)
      DomainTxn.check (validateEvidenceRefs w t output.evidenceRefs)
      let (assetId, w) ← ensureAsset w
      DomainTxn.check answer.noSecrets
      let id ← DomainTxn.newId
      let version : AssetVersion :=
        { id := id
          scope := w.scope
          assetId := assetId
          versionNumber := versionNumber
          body := output.body
          claimInventory := output.claimInventory
          createdByAgentRunId := run.id }
      let rights : AssetRightsProvenance :=
        { assetVersionId := id
          origin := output.rights.origin
          generatedByAgentRunId := if output.rights.origin = .generated then some run.id else none
          permissionScope := output.rights.permissionScope
          customerContentConsentRef := output.rights.customerContentConsentRef
          publicationRestrictions := output.rights.publicationRestrictions
          licenseExpiresAt := none }
      DomainTxn.modifyTables fun t =>
        { t with
          assetVersions := t.assetVersions ++ [version]
          assetRightsProvenance := t.assetRightsProvenance ++ [rights] }
      return (version, { w with finalAssetVersionId := some id })

/-- One round of the loop of `_materialize_asset_reviews`. -/
def materializeAssetReview (w : ProductionWorkflow) (version : AssetVersion)
    (controllerType : String) : ProductionTxn M AssetReview := do
  let t ← DomainTxn.tables
  match t.assetReviews.find? fun review =>
      review.assetVersionId = version.id && review.controllerType = controllerType with
  | some existing => return existing
  | none =>
      let runs ← DomainTxn.agentRuns
      let run ← DomainTxn.check (agentRunByIdempotency w
        (.base (.assetController w.id version.versionNumber
          (assetControllerContractKey controllerType))) runs)
      let output ← DomainTxn.check (validatedOutput S.controllerReview "asset controller" run)
      DomainTxn.check (require (output.controllerType = controllerType) (.permanentJobError
        "asset controller output type does not match registered contract"))
      DomainTxn.check (validateEvidenceRefs w t output.evidenceRefs)
      DomainTxn.check answer.trace
      let id ← DomainTxn.newId
      let row : AssetReview :=
        { id := id
          workflowId := w.id
          assetVersionId := version.id
          agentRunId := run.id
          controllerType := controllerType
          verdict := output.verdict
          requiredChanges := output.requiredChanges
          conditions := if output.verdict = .passWithConditions then output.requiredChanges else [] }
      DomainTxn.modifyTables fun t => { t with assetReviews := t.assetReviews ++ [row] }
      return row

/-- `_materialize_asset_reviews`. -/
def materializeAssetReviews (w : ProductionWorkflow) (version : AssetVersion) :
    ProductionTxn M (List AssetReview) :=
  requiredAssetControllerTypes.foldlM
    (fun rows type => do return rows ++ [← materializeAssetReview S answer w version type]) []

/-- Go to `PRODUCTION_RUNNING` with a run of the writer, and wait for it. -/
def enterProductionRunning (w : ProductionWorkflow) (previousVersion : Option AssetVersion)
    (reviews : List AssetReview) : ProductionTxn M ProductionWorkflow := do
  ensureWriterRun now answer w previousVersion reviews
  let t ← DomainTxn.tables
  let _ ← enqueueAdvance now w (.afterWriter (nextAssetVersionNumber w t))
  return { w with status := .productionRunning }

/-- `_advance_production_workflow`. The statuses between two commits (`CONTENT_STRATEGY_READY`,
`BRIEF_READY`, `ASSET_VERSION_READY`, `REVISION_REQUIRED`, `PRODUCTION_READY`) are overwritten in
the same step. -/
def advanceProductionWorkflow (w : ProductionWorkflow) : ProductionTxn M ProductionWorkflow := do
  DomainTxn.check (assertDecisionBinding w (← DomainTxn.tables))
  match w.status with
  | .decisionApprovalVerified =>
      ensureContentStrategyRun now answer w
      let _ ← enqueueAdvance now w .afterContentStrategy
      return { w with status := .contentStrategyRunning }
  | .contentStrategyRunning =>
      let strategy ← materializeContentStrategy S answer w
      let brief ← materializeCreativeBrief answer w strategy
      enterProductionRunning now answer { w with creativeBriefId := some brief.id } none []
  | .productionRunning =>
      let (version, w) ← materializeAssetVersion S answer w
      let w := { w with finalAssetVersionId := some version.id }
      ensureAssetControllerRuns now answer w version
      let _ ← enqueueAdvance now w (.afterAssetControllers version.versionNumber)
      return { w with status := .assetControllersRunning }
  | .assetControllersRunning =>
      let version ← DomainTxn.check (latestAssetVersion w (← DomainTxn.tables))
      let reviews ← materializeAssetReviews S answer w version
      let outcome ← DomainTxn.check
        (governedAssetOutcome w version reviews (← DomainTxn.tables))
      match outcome with
      | .block => return { w with status := .blocked }
      | .revise | .passWithConditions =>
          if w.maxRevisionRounds ≤ w.revisionCount then
            return { w with status := .escalated }
          else
            enterProductionRunning now answer { w with revisionCount := w.revisionCount + 1 }
              (some version) reviews
      | .pass =>
          return { w with
            finalAssetVersionId := some version.id
            status := .readyForActionProposal }
  | _ => return w

/-- Write the row of a workflow. -/
def putWorkflow (w : ProductionWorkflow) : ProductionTxn M Unit :=
  DomainTxn.modifyTables fun t =>
    { t with productionWorkflows :=
        Table.modify ProductionWorkflow.id w.id (fun _ => w) t.productionWorkflows }

/-- `ProductionWorkflowAdvanceHandler.handle`. -/
def productionWorkflowAdvanceHandler (context : RuntimeJobContext) (workflowId : Id) :
    ProductionTxn M Unit := do
  let t ← DomainTxn.tables
  let w ← DomainTxn.check (orRaise
    (.permanentJobError ("ProductionWorkflow not found: " ++ toString workflowId))
    (Table.find ProductionWorkflow.id workflowId t.productionWorkflows))
  DomainTxn.check (context.scope.assertMatches w.scope)
  let w ← advanceProductionWorkflow S now answer w
  putWorkflow w

end Writing

/-! ## Starting -/

/-- The newest approval of the Decision, if any. -/
def newestApproval (scope : TenantScope) (decisionId : Id) (approvals : List DecisionApproval) :
    Option DecisionApproval :=
  let candidates := approvals.filter fun a =>
    a.scope = scope && a.decisionId = decisionId && a.approved
  candidates.find? fun a => candidates.all fun b => b.createdAt ≤ a.createdAt

/-- `start_production_workflow`. -/
def startProductionWorkflow (now : Time) (scope : TenantScope) (decisionId : Id)
    (maxRevisionRounds : ℤ) : ProductionTxn M Unit := do
  DomainTxn.check (require (0 ≤ maxRevisionRounds)
    (.permanentJobError "max_revision_rounds cannot be negative"))
  let t ← DomainTxn.tables
  let decision ← DomainTxn.check (orRaise (.permanentJobError "Decision not found")
    (Table.find Decision.id decisionId t.decisions))
  DomainTxn.check (scope.assertMatches decision.scope)
  DomainTxn.check (require decision.approvedForProduction
    (.permanentJobError "production requires APPROVED_FOR_PRODUCTION Decision"))
  let snapshotId ← DomainTxn.check (orRaise
    (.permanentJobError "approved Decision must retain immutable BusinessSnapshot")
    decision.snapshotId)
  DomainTxn.check (require (superseded scope decision.id t.decisions = false)
    (.permanentJobError "superseded Decision cannot start production"))
  let approval ← DomainTxn.check (orRaise
    (.permanentJobError "exact-version Decision approval is required")
    (newestApproval scope decision.id t.decisionApprovals))
  DomainTxn.check (require (approval.matchesDecision decision)
    (.permanentJobError "exact-version Decision approval is required"))
  match t.productionWorkflows.find? fun w =>
      w.scope = scope && w.decisionId = decision.id && w.decisionVersion = decision.version with
  | some existing =>
      let db ← get
      DomainTxn.check (require
        (db.jobs.any fun job => job.uniqueKey =
          (scope, JobType.workflowAdvance, JobKey.productionWorkflow existing.id .start))
        (.permanentJobError "idempotent ProductionWorkflow exists without workflow Job"))
  | none =>
      let id ← DomainTxn.newId
      let w : ProductionWorkflow :=
        { id := id
          scope := scope
          decisionId := decision.id
          decisionVersion := decision.version
          decisionApprovalId := approval.id
          snapshotId := snapshotId
          maxRevisionRounds := maxRevisionRounds.toNat }
      DomainTxn.modifyTables fun t =>
        { t with productionWorkflows := t.productionWorkflows ++ [w] }
      let _ ← enqueueAdvance now w .start

end LaunchOS
