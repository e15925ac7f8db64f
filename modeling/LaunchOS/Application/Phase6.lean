import LaunchOS.AiRuntime.DomainZoom
import LaunchOS.Analytics.App
import LaunchOS.Application.DecisionGovernance

/-!
# Checkpoints and successors of Decisions

`application/phase6.py`: a Decision gets a checkpoint before it is published, and a learning about it
starts the workflow of a Decision that supersedes it.

The module introduces:

* `GovernedTables`: the rows of the decision workflow, of production, of the execution service and of
  the analytics, next to those of `application/phase6.py`;
* `decisionView`, `analyticsView`, `GovernedTables.production`: the parts within the whole;
* `createCheckpointDefinitionForDecision`;
* `startPhase6DecisionWorkflow`, `startSuccessorDecisionWorkflowFromLearning`: the commands;
* `materializePhase6Intent`, `phase6DecisionWorkflowAdvanceHandler`: the advance of a workflow.
-/

namespace LaunchOS

open Txn

/-! ## Rows -/

/-- A row of `experiment_rules`, as far as checkpoints depend on it. -/
structure ExperimentRule where
  id : Id
  experimentId : Id
  metric : String
deriving DecidableEq, Repr

/-- `Phase6CheckpointSpec`, less the texts of the next actions. -/
structure CheckpointSpec where
  metricKey : String := "telegram_reaction_changes"
  windowSeconds : ℕ
  graceSeconds : ℕ
  success : TypedThreshold
  weakSignal : TypedThreshold
  failure : TypedThreshold
deriving DecidableEq, Repr

/-- `Phase6CheckpointSpec.contract_hash` and `_bound_checkpoint_hash`. -/
structure CheckpointDigest where
  contractHash : CheckpointSpec → String
  boundCheckpointHash : CheckpointSpec → (experimentId experimentRuleId : Id) → String

/-- A row of `phase6_decision_intents`. -/
structure Phase6DecisionIntent where
  id : Id
  scope : TenantScope
  workflowId : Id
  checkpointSpec : CheckpointSpec
  checkpointSpecHash : String
  priorDecisionId : Option Id
  learningId : Option Id
deriving DecidableEq, Repr

/-- A row of `decision_learning_links`. -/
structure DecisionLearningLink where
  id : Id
  scope : TenantScope
  decisionId : Id
  priorDecisionId : Id
  learningId : Id
deriving DecidableEq, Repr

/-- An entry of the column `supersedes_decision_id` of `decisions` that is not null. -/
structure Supersession where
  decisionId : Id
  supersedesDecisionId : Id
deriving DecidableEq, Repr

/-- The tables of the governed loop. The column `supersedes_decision_id` stands apart from the other
columns of `decisions`, which the decision workflow writes. -/
structure GovernedTables extends Analytics.AnalyticsTables where
  decisionTables : DecisionTables := {}
  supersessions : List Supersession := []
  experimentRules : List ExperimentRule := []
  phase6DecisionIntents : List Phase6DecisionIntent := []
  decisionLearningLinks : List DecisionLearningLink := []
  contentStrategies : List ContentStrategy := []
  creativeBriefs : List CreativeBrief := []
  creativeBriefDetails : List CreativeBriefDetail := []
  assets : List Asset := []
  assetRightsProvenance : List AssetRightsProvenance := []
  assetReviews : List AssetReview := []

/-- A transaction of the governed loop. -/
abbrev GovernedTxn (M α : Type) := DomainTxn M GovernedTables α

/-! ## Parts -/

/-- The tables of the decision workflow. -/
def decisionView : TablesView GovernedTables DecisionTables where
  get := GovernedTables.decisionTables
  set s t := { t with decisionTables := s }
  get_set _ _ := rfl
  set_get _ := rfl

/-- The tables of the analytics and of the execution service. -/
def analyticsView : TablesView GovernedTables Analytics.AnalyticsTables where
  get := GovernedTables.toAnalyticsTables
  set s t := { t with toAnalyticsTables := s }
  get_set _ _ := rfl
  set_get _ := rfl

namespace GovernedTables

/-- `decision.supersedes_decision_id`. -/
def supersedes (decisionId : Id) (t : GovernedTables) : Option Id :=
  (Table.find Supersession.decisionId decisionId t.supersessions).map
    Supersession.supersedesDecisionId

/-- A row of `decisions`, as production reads it. -/
def decisionRow (t : GovernedTables) (decision : FinalDecision) : Decision where
  id := decision.id
  scope := decision.scope
  version := decision.version
  approvedForProduction := decision.approvedForProduction
  snapshotId := some decision.snapshotId
  evidenceIds := decision.evidenceIds
  supersedesDecisionId := t.supersedes decision.id

/-- A row of `decision_approvals`, as production reads it: it is approved when it is made, and ids
grow with time. -/
def approvalRow (approval : FinalApproval) : DecisionApproval where
  id := approval.id
  scope := approval.scope
  decisionId := approval.decisionId
  objectId := approval.objectId
  objectVersionId := approval.objectVersionId
  objectVersion := approval.objectVersion
  approved := true
  createdAt := (approval.id : ℕ)

/-- The tables of production. -/
def production (t : GovernedTables) : ProductionTables where
  decisions := t.decisionTables.decisions.map t.decisionRow
  decisionApprovals := t.decisionTables.decisionApprovals.map approvalRow
  evidence := t.evidence.map fun row => ⟨toString row.id, row.scope, row.status⟩
  productionWorkflows := t.productionWorkflows
  contentStrategies := t.contentStrategies
  creativeBriefs := t.creativeBriefs
  creativeBriefDetails := t.creativeBriefDetails
  assets := t.assets
  assetVersions := t.assetVersions
  assetRightsProvenance := t.assetRightsProvenance
  assetReviews := t.assetReviews

/-- Production writes all of these but the first three. -/
def setProduction (s : ProductionTables) (t : GovernedTables) : GovernedTables :=
  { t with
    productionWorkflows := s.productionWorkflows
    contentStrategies := s.contentStrategies
    creativeBriefs := s.creativeBriefs
    creativeBriefDetails := s.creativeBriefDetails
    assets := s.assets
    assetVersions := s.assetVersions
    assetRightsProvenance := s.assetRightsProvenance
    assetReviews := s.assetReviews }

end GovernedTables

variable {M : Type}

/-! ## Checkpoints -/

/-- The rows that a checkpoint is bound to. -/
def checkpointSources (scope : TenantScope) (decisionId : Id) (spec : CheckpointSpec)
    (t : GovernedTables) : Except JobError (FinalDecision × Experiment × ExperimentRule) := do
  let decision ← orRaise (.permanentJobError "Decision not found for Phase 6 checkpoint")
    (Table.find FinalDecision.id decisionId t.decisionTables.decisions)
  scope.assertMatches decision.scope
  let experiment ← orRaise (.permanentJobError "Phase 6 governed Decision requires an Experiment")
    (experimentOf decision.id t.toExecutionContext)
  let rule ← orRaise
    (.permanentJobError "Phase 6 governed Experiment requires an ExperimentRule")
    (Table.find ExperimentRule.experimentId experiment.id t.experimentRules)
  require (experiment.metric = spec.metricKey ∧ rule.metric = spec.metricKey)
    (.permanentJobError "typed checkpoint metric must match the Experiment metric")
  return (decision, experiment, rule)

/-- `create_checkpoint_definition_for_decision`. -/
def createCheckpointDefinitionForDecision (H : CheckpointDigest) (scope : TenantScope)
    (decisionId : Id) (spec : CheckpointSpec) : GovernedTxn M Unit := do
  let t ← DomainTxn.tables
  let (decision, experiment, rule) ← DomainTxn.check (checkpointSources scope decisionId spec t)
  let boundHash := H.boundCheckpointHash spec experiment.id rule.id
  match Table.find CheckpointDefinition.experimentId experiment.id t.checkpointDefinitions with
  | some existing =>
      DomainTxn.check (require (existing.contractHash = boundHash)
        (.permanentJobError "immutable checkpoint definition already exists"))
  | none =>
      DomainTxn.check (require
        ((Table.find ActionProposalDetail.decisionId decision.id t.actionProposalDetails).isNone)
        (.permanentJobError "checkpoint cannot be retrofitted after ActionProposal creation"))
      let id ← DomainTxn.newId
      let checkpoint : CheckpointDefinition :=
        { id := id
          experimentId := experiment.id
          decisionId := decision.id
          metricKey := spec.metricKey
          windowSeconds := spec.windowSeconds
          graceSeconds := spec.graceSeconds
          success := spec.success
          weakSignal := spec.weakSignal
          failure := spec.failure
          contractHash := boundHash }
      DomainTxn.modifyTables fun t =>
        { t with checkpointDefinitions := t.checkpointDefinitions ++ [checkpoint] }

/-! ## Intents -/

/-- `_register_intent`. -/
def registerIntent (H : CheckpointDigest) (scope : TenantScope) (workflowId : Id)
    (spec : CheckpointSpec) (priorDecisionId learningId : Option Id) : GovernedTxn M Unit := do
  let t ← DomainTxn.tables
  match Table.find Phase6DecisionIntent.workflowId workflowId t.phase6DecisionIntents with
  | some existing =>
      DomainTxn.check (require (existing.checkpointSpecHash = H.contractHash spec ∧
          existing.priorDecisionId = priorDecisionId ∧ existing.learningId = learningId)
        (.permanentJobError "Phase 6 Decision intent is immutable"))
  | none =>
      let id ← DomainTxn.newId
      let intent : Phase6DecisionIntent :=
        { id := id
          scope := scope
          workflowId := workflowId
          checkpointSpec := spec
          checkpointSpecHash := H.contractHash spec
          priorDecisionId := priorDecisionId
          learningId := learningId }
      DomainTxn.modifyTables fun t =>
        { t with phase6DecisionIntents := t.phase6DecisionIntents ++ [intent] }

/-- What both commands do once their snapshot is taken: the workflow of the snapshot is started, and
its intent is registered. -/
def startGovernedWorkflow (H : CheckpointDigest) (now : Time) (scope : TenantScope)
    (payload : Except JobError (List SnapshotEvidence)) (launchId : Option Id)
    (spec : CheckpointSpec) (maxRevisionRounds : ℤ) (priorDecisionId learningId : Option Id) :
    GovernedTxn M Unit := do
  let snapshot ← (DecisionWorkflow.takeSnapshot scope (.created payload)).zoom decisionView
  (DecisionWorkflow.startDecisionWorkflow now scope (.existing snapshot.id) launchId
    maxRevisionRounds).zoom decisionView
  let t ← DomainTxn.tables
  let w ← DomainTxn.check (orRaise (.permanentJobError "DecisionWorkflow not found")
    (t.decisionTables.decisionWorkflows.find? fun w =>
      w.scope = scope && w.snapshotId = snapshot.id))
  registerIntent H scope w.id spec priorDecisionId learningId

/-- `start_phase6_decision_workflow`; `payload` is what `_snapshot_payload` returns or raises. -/
def startPhase6DecisionWorkflow (H : CheckpointDigest) (now : Time) (scope : TenantScope)
    (payload : Except JobError (List SnapshotEvidence)) (launchId : Option Id)
    (spec : CheckpointSpec) (maxRevisionRounds : ℤ) : GovernedTxn M Unit :=
  startGovernedWorkflow H now scope payload launchId spec maxRevisionRounds none none

/-- `_assert_owner`. -/
def assertAdaptationOwner (scope : TenantScope) (userId : String) (t : ExecutionContext) :
    Except JobError Unit :=
  require ((t.businessMemberships.find? fun m => m.scope = scope && m.userId = userId).any
      fun m => m.role.toList.map Char.toUpper = "OWNER".toList)
    (.permanentJobError "Phase 6 adaptation requires exact business owner authority")

/-- The checks of `start_successor_decision_workflow_from_learning`. -/
def assertAdaptable (scope : TenantScope) (actorUserId : Option String)
    (priorDecisionId learningId : Id) (t : GovernedTables) : Except JobError Unit := do
  let userId ← orRaise
    (.permanentJobError "owner identity is required to start Phase 6 adaptation") actorUserId
  assertAdaptationOwner scope userId t.toExecutionContext
  let notFound := JobError.permanentJobError "prior Decision or Learning not found"
  let prior ← orRaise notFound
    (Table.find FinalDecision.id priorDecisionId t.decisionTables.decisions)
  let learning ← orRaise notFound (Table.find Analytics.Learning.id learningId t.learnings)
  scope.assertMatches prior.scope
  scope.assertMatches learning.scope
  require (learning.decisionId = some prior.id)
    (.permanentJobError "Learning is not bound to the prior Decision")
  require (Table.find Analytics.LearningDetail.learningId learning.id t.learningDetails).isSome
    (.permanentJobError "Learning provenance detail is required for adaptation")

/-- `start_successor_decision_workflow_from_learning`. -/
def startSuccessorDecisionWorkflowFromLearning (H : CheckpointDigest) (now : Time)
    (scope : TenantScope) (actorUserId : Option String) (priorDecisionId learningId : Id)
    (payload : Except JobError (List SnapshotEvidence)) (spec : CheckpointSpec)
    (maxRevisionRounds : ℤ) : GovernedTxn M Unit := do
  DomainTxn.check
    (assertAdaptable scope actorUserId priorDecisionId learningId (← DomainTxn.tables))
  startGovernedWorkflow H now scope payload none spec maxRevisionRounds (some priorDecisionId)
    (some learningId)

/-! ## The advance of a workflow -/

/-- The final Decision of a workflow. -/
def GovernedTables.finalDecisionOf (workflowId : Id) (t : GovernedTables) : Option Id :=
  (Table.find DecisionWorkflow.id workflowId t.decisionTables.decisionWorkflows).bind
    DecisionWorkflow.finalDecisionId

/-- The experiment that the candidate of a Decision proposes. -/
def GovernedTables.proposalOf (decisionId : Id) (t : GovernedTables) :
    Option ExperimentProposal := do
  let decision ← Table.find FinalDecision.id decisionId t.decisionTables.decisions
  let candidateId ← decision.sourceCandidateId
  let candidate ← Table.find DecisionCandidate.id candidateId t.decisionTables.decisionCandidates
  candidate.payload.experimentProposal

/-- What `_materialize_final_decision` writes next to the Decision: the Experiment with its rule. -/
def materializeExperiment (decisionId : Id) : GovernedTxn M Unit := do
  let t ← DomainTxn.tables
  match t.proposalOf decisionId with
  | none => return ()
  | some proposal =>
      let id ← DomainTxn.newId
      let ruleId ← DomainTxn.newId
      DomainTxn.modifyTables fun t =>
        { t with
          experiments := t.experiments ++
            [{ id := id, decisionId := decisionId, metric := proposal.metric }]
          experimentRules := t.experimentRules ++
            [{ id := ruleId, experimentId := id, metric := proposal.metric }] }

/-- The Decision of the workflow supersedes the one it was adapted from. -/
def supersedePrior (scope : TenantScope) (intent : Phase6DecisionIntent) (decisionId : Id) :
    GovernedTxn M Unit := do
  let t ← DomainTxn.tables
  match intent.priorDecisionId, intent.learningId with
  | none, none => return ()
  | some priorDecisionId, some learningId =>
      let invalid := JobError.permanentJobError "Phase 6 adaptation Learning binding is invalid"
      let learning ← DomainTxn.check
        (orRaise invalid (Table.find Analytics.Learning.id learningId t.learnings))
      DomainTxn.check (require (learning.decisionId = some priorDecisionId) invalid)
      match t.supersedes decisionId with
      | some other =>
          DomainTxn.check (require (other = priorDecisionId) (.permanentJobError
            "successor Decision already supersedes a different Decision"))
      | none =>
          DomainTxn.modifyTables fun t =>
            { t with supersessions := t.supersessions ++ [⟨decisionId, priorDecisionId⟩] }
      match Table.find DecisionLearningLink.decisionId decisionId t.decisionLearningLinks with
      | some _ => return ()
      | none =>
          let id ← DomainTxn.newId
          DomainTxn.modifyTables fun t =>
            { t with decisionLearningLinks := t.decisionLearningLinks ++
                [⟨id, scope, decisionId, priorDecisionId, learningId⟩] }
  | _, _ =>
      DomainTxn.check (.error (.permanentJobError "Phase 6 adaptation binding is incomplete"))

/-- `_materialize_phase6_intent`. -/
def materializePhase6Intent (H : CheckpointDigest) (scope : TenantScope) (workflowId : Id) :
    GovernedTxn M Unit := do
  let t ← DomainTxn.tables
  match Table.find Phase6DecisionIntent.workflowId workflowId t.phase6DecisionIntents,
    t.finalDecisionOf workflowId with
  | some intent, some decisionId =>
      DomainTxn.check (scope.assertMatches intent.scope)
      let _ ← DomainTxn.check (orRaise
        (.permanentJobError "Phase 6 workflow final Decision is missing")
        (Table.find FinalDecision.id decisionId t.decisionTables.decisions))
      createCheckpointDefinitionForDecision H scope decisionId intent.checkpointSpec
      supersedePrior scope intent decisionId
  | _, _ => return ()

/-- `Phase6DecisionWorkflowAdvanceHandler.handle`. -/
def phase6DecisionWorkflowAdvanceHandler (H : CheckpointDigest) (R : RunReader M) (now : Time)
    (answer : DecisionAnswer) (context : RuntimeJobContext) (workflowId : Id) :
    GovernedTxn M Unit := do
  let t ← DomainTxn.tables
  (DecisionWorkflow.decisionWorkflowAdvanceHandler R now { answer with phase6Intent := .ok () }
    context workflowId).zoom decisionView
  let t' ← DomainTxn.tables
  -- the workflow has got its Decision in this step
  match t.finalDecisionOf workflowId, t'.finalDecisionOf workflowId with
  | none, some decisionId => materializeExperiment decisionId
  | _, _ => pure ()
  materializePhase6Intent H context.scope workflowId

end LaunchOS
