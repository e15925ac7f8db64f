import LaunchOS.Application.DecisionWorkflow

/-!
# Governance of the decision workflow

`application/decision_governance.py`, the handler that the application registers, with the commands
that start a workflow and approve its Decision.

The module introduces:

* `governedControllerOutcome`: the verdict over the reviews of a candidate;
* `advanceWorkflow`: one step of the workflow;
* `decisionWorkflowAdvanceHandler`, as `Phase6DecisionWorkflowAdvanceHandler` wraps it;
* `startDecisionWorkflow`, `approveDecisionForProduction`.
-/

namespace LaunchOS

open Txn

namespace DecisionWorkflow

/-! ## The outcome of the controllers -/

/-- The texts are joined by spaces and folded to lower case. -/
def loweredText (texts : List String) : List Char :=
  (" ".intercalate texts).toList.map Char.toLower

/-- `_missing_info_only`. -/
def missingInfoOnly (review : ControllerReview) : Bool :=
  let text := loweredText (review.reason :: review.issues ++ review.requiredChanges)
  ["missing", "unknown", "information", "need more data", "needs more data", "insufficient data",
      "evidence gap"].any (WorthMapping.contains text) &&
    !(["security", "privacy", "illegal", "permission", "constitutional", "human worth",
      "manipulation", "deceptive", "coercive"].any (WorthMapping.contains text))

/-- `_is_low_risk_reversible_without_critical_unknown`. -/
def isLowRiskReversibleWithoutCriticalUnknown (candidate : DecisionCandidate) : Bool :=
  let reversibility := loweredText [candidate.payload.reversibility]
  candidate.payload.riskClass = .low &&
    (WorthMapping.contains reversibility "easy" ||
      WorthMapping.contains reversibility "reversible" &&
        !WorthMapping.contains reversibility "irreversible") &&
    !candidate.payload.unknowns.any UnknownStatement.critical

/-- `_mandatory_conditions` is not empty. -/
def hasMandatoryConditions (review : ControllerReview) : Bool :=
  (review.conditions ++ review.requiredChanges).any fun value =>
    WorthMapping.strip value.toList ≠ []

/-- The review in `by_type`: of several of one type the last. -/
def reviewByType (controllerType : String) (reviews : List ControllerReview) :
    Option ControllerReview :=
  reviews.reverse.find? fun review => review.controllerType = controllerType

/-- The review that `ignored_review_ids` names. -/
def ignoredReview (candidate : DecisionCandidate) (reviews : List ControllerReview) :
    Option ControllerReview :=
  (reviewByType "anti_analysis_paralysis" reviews).filter fun review =>
    isLowRiskReversibleWithoutCriticalUnknown candidate &&
      (review.verdict = .block || review.verdict = .revise) && missingInfoOnly review

/-- `governed_controller_outcome`. -/
def governedControllerOutcome (candidate : DecisionCandidate) (reviews : List ControllerReview) :
    Except JobError ControllerVerdict := do
  require (WorthMapping.containsHumanWorthViolation candidate.payload.texts = true →
      ((reviewByType "constitutional" reviews).any fun review => review.verdict = .block) = true)
    (.permanentJobError
      "Constitutional Controller must BLOCK deterministic human-worth violations")
  let ignored := (ignoredReview candidate reviews).map ControllerReview.id
  let effective := reviews.filter fun review => some review.id ≠ ignored
  return .resolve ControllerReview.verdict hasMandatoryConditions effective

/-! ## One step -/

variable {M : Type}

section Step

variable (R : RunReader M) (now : Time) (answer : DecisionAnswer) (w : DecisionWorkflow)

/-- The job `_enqueue_workflow_advance` asks for. -/
def advanceJob (suffix : DecisionAdvance) : CreateJob where
  scope := w.scope
  jobType := .workflowAdvance
  payload := .decisionAdvance w.id
  idempotencyKey := .decisionWorkflow w.id suffix
  maxAttempts := 5

/-- `_enqueue_workflow_advance`. -/
def enqueueWorkflowAdvance (suffix : DecisionAdvance) : DecisionTxn M Job :=
  DomainTxn.createJob now (advanceJob w suffix)

/-- Go to `CHIEF_RUNNING` with a run of the chief, and wait for it. -/
def enterChiefRunning (previousCandidate : Option DecisionCandidate)
    (reviews : List ControllerReview) : DecisionTxn M DecisionWorkflow := do
  let _ ← ensureChiefRun R now answer w previousCandidate reviews
  let t ← DomainTxn.tables
  let _ ← enqueueWorkflowAdvance now w (.afterChief (nextCandidateVersion w t))
  return { w with status := .chiefRunning }

/-- `_advance_workflow` in `SNAPSHOT_READY`. -/
def advanceSnapshot : DecisionTxn M DecisionWorkflow := do
  let _ ← ensureSpecialistRuns R now answer w
  let _ ← enqueueWorkflowAdvance now w .afterSpecialists
  return { w with status := .specialistsRunning }

/-- `_advance_workflow` in `SPECIALISTS_RUNNING`. -/
def advanceSpecialists : DecisionTxn M DecisionWorkflow := do
  let notReady ← ensureSpecialistRuns R now answer w
  if notReady ≠ 0 then
    let generation := specialistRunGeneration w (← DomainTxn.agentRuns)
    let _ ← enqueueWorkflowAdvance now w (.specialistOutputRetry generation)
    return w
  else
    materializeSpecialistContributions R answer w
    enterChiefRunning R now answer w none []

/-- `_advance_workflow` in `CHIEF_RUNNING`. -/
def advanceChief : DecisionTxn M DecisionWorkflow := do
  let notReady ← ensureChiefRun R now answer w none []
  if notReady ≠ 0 then
    let version := nextCandidateVersion w (← DomainTxn.tables)
    let generation := chiefRunGeneration w version (← DomainTxn.agentRuns)
    let _ ← enqueueWorkflowAdvance now w (.chiefOutputRetry version generation)
    return w
  else
    let candidate ← materializeCandidate R answer w
    let _ ← ensureControllerRuns R now answer w candidate
    setCandidateStatus candidate .underReview
    let _ ← enqueueWorkflowAdvance now w (.afterControllers candidate.versionNumber)
    return { w with status := .controllersRunning }

/-- What follows the outcome of the controllers. -/
def concludeReviews (candidate : DecisionCandidate) (reviews : List ControllerReview) :
    ControllerVerdict → DecisionTxn M DecisionWorkflow
  | .block => do
      setCandidateStatus candidate .blocked
      return { w with status := .blocked }
  | .revise | .passWithConditions => do
      setCandidateStatus candidate .revisionRequired
      if w.maxRevisionRounds ≤ w.revisionCount then
        return { w with status := .escalated }
      else
        enterChiefRunning R now answer { w with revisionCount := w.revisionCount + 1 }
          (some candidate) reviews
  | .pass => do
      setCandidateStatus candidate .accepted
      let w ← materializeFinalDecision now w candidate
      return { w with status := .awaitingDecisionApproval }

/-- The guarded `_advance_workflow` in `CONTROLLERS_RUNNING`. -/
def advanceControllers : DecisionTxn M DecisionWorkflow := do
  let candidate ← DomainTxn.check (latestCandidate w (← DomainTxn.tables))
  let notReady ← ensureControllerRuns R now answer w candidate
  if notReady ≠ 0 then
    let generation := controllerRunGeneration w candidate.versionNumber (← DomainTxn.agentRuns)
    let _ ← enqueueWorkflowAdvance now w
      (.controllerOutputRetry candidate.versionNumber generation)
    return w
  else
    let reviews ← materializeControllerReviews R answer w candidate
    let outcome ← DomainTxn.check (governedControllerOutcome candidate reviews)
    concludeReviews R now answer w candidate reviews outcome

/-- `_advance_workflow`. The statuses between two commits (`SPECIALISTS_READY`,
`DECISION_CANDIDATE_READY`, `REVISION_REQUIRED`, `CANDIDATE_ACCEPTED`,
`FINAL_DECISION_MATERIALIZED`) are overwritten in the same step. -/
def advanceWorkflow : DecisionTxn M DecisionWorkflow :=
  match w.status with
  | .snapshotReady => advanceSnapshot R now answer w
  | .specialistsRunning => advanceSpecialists R now answer w
  | .chiefRunning => advanceChief R now answer w
  | .controllersRunning => advanceControllers R now answer w
  | _ => return w

/-- Write the row of a workflow. -/
def putWorkflow : DecisionTxn M Unit :=
  DomainTxn.modifyTables fun t =>
    { t with decisionWorkflows :=
        Table.modify DecisionWorkflow.id w.id (fun _ => w) t.decisionWorkflows }

end Step

/-- `Phase6DecisionWorkflowAdvanceHandler.handle` around
`GuardedDecisionWorkflowAdvanceHandler.handle`. -/
def decisionWorkflowAdvanceHandler (R : RunReader M) (now : Time) (answer : DecisionAnswer)
    (context : RuntimeJobContext) (workflowId : Id) : DecisionTxn M Unit := do
  let t ← DomainTxn.tables
  let w ← DomainTxn.check (orRaise
    (.permanentJobError ("DecisionWorkflow not found: " ++ toString workflowId))
    (Table.find DecisionWorkflow.id workflowId t.decisionWorkflows))
  DomainTxn.check (context.scope.assertMatches w.scope)
  let w ← advanceWorkflow R now answer w
  putWorkflow w
  if w.finalDecisionId.isSome then
    DomainTxn.check answer.phase6Intent

/-! ## Commands -/

/-- Where the snapshot of a workflow comes from: it is given, or it is made from the tables of the
business, which may fail. -/
inductive SnapshotSource
  | existing (snapshotId : Id)
  | created (payload : Except JobError (List SnapshotEvidence))

/-- The snapshot of a new workflow. -/
def takeSnapshot (scope : TenantScope) : SnapshotSource → DecisionTxn M BusinessSnapshot
  | .existing snapshotId => do DomainTxn.check (snapshotOf scope snapshotId (← DomainTxn.tables))
  | .created payload => do
      let evidence ← DomainTxn.check payload
      let id ← DomainTxn.newId
      let snapshot : BusinessSnapshot := { id := id, scope := scope, evidence := evidence }
      DomainTxn.modifyTables fun t =>
        { t with businessSnapshots := t.businessSnapshots ++ [snapshot] }
      return snapshot

/-- The launch of a new workflow is one of the tenant. -/
def checkLaunch (scope : TenantScope) (launchId : Option Id) (t : DecisionTables) :
    Except JobError Unit :=
  match launchId with
  | none => .ok ()
  | some launchId => do
      let launch ← orRaise (.permanentJobError "Launch not found for decision workflow")
        (Table.find Launch.id launchId t.launches)
      scope.assertMatches launch.scope

/-- `start_decision_workflow`. The row is subject to the check constraint on
`max_revision_rounds`. -/
def startDecisionWorkflow (now : Time) (scope : TenantScope) (source : SnapshotSource)
    (launchId : Option Id) (maxRevisionRounds : ℤ) : DecisionTxn M Unit := do
  let snapshot ← takeSnapshot scope source
  let t ← DomainTxn.tables
  DomainTxn.check (checkLaunch scope launchId t)
  match t.decisionWorkflows.find? fun w => w.scope = scope && w.snapshotId = snapshot.id with
  | some existing =>
      let _ ← enqueueWorkflowAdvance now existing
        (.resume existing.status.value existing.revisionCount)
  | none =>
      DomainTxn.check (require (0 ≤ maxRevisionRounds)
        ⟨.unexpected, "IntegrityError",
          "ck_decision_workflows_max_revision_rounds_nonnegative"⟩)
      let id ← DomainTxn.newId
      let w : DecisionWorkflow :=
        { id := id
          scope := scope
          launchId := launchId
          snapshotId := snapshot.id
          maxRevisionRounds := maxRevisionRounds.toNat }
      DomainTxn.modifyTables fun t => { t with decisionWorkflows := t.decisionWorkflows ++ [w] }
      DomainTxn.addOutboxEvent now scope "decision_workflow.started"
      let _ ← enqueueWorkflowAdvance now w .start

/-- The Decision of a workflow that awaits approval, and its candidate. -/
def awaitedDecision (scope : TenantScope) (w : DecisionWorkflow) (t : DecisionTables) :
    Except JobError (FinalDecision × Id) := do
  require (w.status = .awaitingDecisionApproval)
    (.permanentJobError "DecisionWorkflow is not awaiting decision approval")
  let decisionId ← orRaise (.permanentJobError "DecisionWorkflow has no final Decision")
    w.finalDecisionId
  let decision ← orRaise (.permanentJobError "Final Decision provenance is incomplete")
    (Table.find FinalDecision.id decisionId t.decisions)
  let candidateId ← orRaise (.permanentJobError "Final Decision provenance is incomplete")
    decision.sourceCandidateId
  scope.assertMatches decision.scope
  return (decision, candidateId)

/-- The approval that an approved workflow is bound to. -/
def boundApproval (w : DecisionWorkflow) (t : DecisionTables) : Except JobError FinalApproval := do
  let approvalId ← orRaise
    (.permanentJobError "Approved DecisionWorkflow has no approval binding") w.finalApprovalId
  orRaise (.permanentJobError "DecisionWorkflow approval binding is missing")
    (Table.find FinalApproval.id approvalId t.decisionApprovals)

/-- `approve_decision_for_production`. -/
def approveDecisionForProduction (now : Time) (scope : TenantScope) (workflowId : Id)
    (approvedByUserId : String) : DecisionTxn M FinalApproval := do
  let t ← DomainTxn.tables
  let w ← DomainTxn.check (orRaise (.permanentJobError "DecisionWorkflow not found")
    (Table.find DecisionWorkflow.id workflowId t.decisionWorkflows))
  DomainTxn.check (scope.assertMatches w.scope)
  if w.status = .approvedForProduction then
    DomainTxn.check (boundApproval w t)
  else
    let (decision, candidateId) ← DomainTxn.check (awaitedDecision scope w t)
    match t.decisionApprovals.find? fun a =>
        a.decisionId = decision.id && a.objectVersionId = decision.id with
    | some existing => return existing
    | none =>
        let id ← DomainTxn.newId
        let approval : FinalApproval :=
          { id := id
            scope := scope
            workflowId := w.id
            decisionId := decision.id
            candidateId := candidateId
            objectId := decision.id
            objectVersionId := decision.id
            objectVersion := decision.version
            approvedByUserId := approvedByUserId }
        DomainTxn.modifyTables fun t =>
          { t with
            decisionApprovals := t.decisionApprovals ++ [approval]
            decisions := Table.modify FinalDecision.id decision.id
              (fun decision => { decision with approvedForProduction := true }) t.decisions }
        putWorkflow { w with finalApprovalId := some id, status := .approvedForProduction }
        DomainTxn.addOutboxEvent now scope "decision.approved_for_production"
        return approval

end DecisionWorkflow

end LaunchOS
