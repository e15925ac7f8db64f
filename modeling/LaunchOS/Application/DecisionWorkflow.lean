import LaunchOS.AiRuntime.DomainTxn
import LaunchOS.AiRuntime.Schemas
import LaunchOS.Application.WorthMapping

/-!
# The decision workflow

`application/decision_workflow.py`: from a business snapshot over the contributions of specialists
and the candidates of the chief to a candidate that all controllers have reviewed.

The module introduces:

* the rows of the decision tables, and `DecisionTables`;
* `validateEvidenceRefs`: what the workflow demands of the evidence a run cites;
* `RunRole`: what the runs of the specialists, of the chief and of the controllers differ in, and
  `runState`, `readyRun`, `ensureRun`: what they have in common;
* `ensureSpecialistRuns` and so on: the runs of a stage;
* `materializeCandidate` and so on: the rows a stage makes of the outputs of its runs.

Each function reads its rows in `Except JobError` and writes in `DomainTxn`. The row of the workflow
itself is passed along and written when the step ends.
-/

namespace LaunchOS

open Txn

/-! ## Rows -/

/-- `DecisionWorkflowStatus`. -/
inductive DecisionWorkflowStatus
  | snapshotReady
  | specialistsRunning
  | specialistsReady
  | chiefRunning
  | decisionCandidateReady
  | controllersRunning
  | blocked
  | revisionRequired
  | candidateAccepted
  | finalDecisionMaterialized
  | awaitingDecisionApproval
  | approvedForProduction
  | escalated
deriving DecidableEq, Repr

/-- `DecisionWorkflowStatus.value`. -/
def DecisionWorkflowStatus.value : DecisionWorkflowStatus → String
  | .snapshotReady => "SNAPSHOT_READY"
  | .specialistsRunning => "SPECIALISTS_RUNNING"
  | .specialistsReady => "SPECIALISTS_READY"
  | .chiefRunning => "CHIEF_RUNNING"
  | .decisionCandidateReady => "DECISION_CANDIDATE_READY"
  | .controllersRunning => "CONTROLLERS_RUNNING"
  | .blocked => "BLOCKED"
  | .revisionRequired => "REVISION_REQUIRED"
  | .candidateAccepted => "CANDIDATE_ACCEPTED"
  | .finalDecisionMaterialized => "FINAL_DECISION_MATERIALIZED"
  | .awaitingDecisionApproval => "AWAITING_DECISION_APPROVAL"
  | .approvedForProduction => "APPROVED_FOR_PRODUCTION"
  | .escalated => "ESCALATED"

/-- `DecisionCandidateStatus`. -/
inductive DecisionCandidateStatus
  | candidate
  | underReview
  | revisionRequired
  | blocked
  | accepted
  | materialized
deriving DecidableEq, Repr

/-- An item of the evidence in the payload of a snapshot. -/
structure SnapshotEvidence where
  id : String
  status : String
deriving DecidableEq, Repr

/-- An item of the `context_manifest` of a run; a field that is no text is `none`. -/
structure ContextItem where
  epistemicStatus : Option String := none
  provenanceRef : Option String := none
  sourceObjectType : Option String := none
  sourceObjectId : Option String := none
deriving DecidableEq, Repr

/-- A row of `business_snapshots`. -/
structure BusinessSnapshot where
  id : Id
  scope : TenantScope
  evidence : List SnapshotEvidence
deriving DecidableEq, Repr

/-- A row of `launches`. -/
structure Launch where
  id : Id
  scope : TenantScope
deriving DecidableEq, Repr

/-- A row of `decision_workflows`. -/
structure DecisionWorkflow where
  id : Id
  scope : TenantScope
  launchId : Option Id
  snapshotId : Id
  status : DecisionWorkflowStatus := .snapshotReady
  revisionCount : ℕ := 0
  maxRevisionRounds : ℕ
  finalDecisionId : Option Id := none
  finalApprovalId : Option Id := none
deriving DecidableEq, Repr

/-- A row of `specialist_contributions`. -/
structure SpecialistContribution where
  id : Id
  scope : TenantScope
  workflowId : Id
  snapshotId : Id
  agentRunId : Id
  contractKey : String
  contractVersion : ℕ
  payload : SpecialistContributionOutput
  contextManifest : List ContextItem
deriving DecidableEq, Repr

/-- A row of `decision_candidates`. -/
structure DecisionCandidate where
  id : Id
  scope : TenantScope
  workflowId : Id
  snapshotId : Id
  chiefAgentRunId : Id
  previousCandidateId : Option Id
  versionNumber : ℕ
  revisionRound : ℕ
  status : DecisionCandidateStatus := .candidate
  selectedAction : String
  payload : DecisionCandidateOutput
  specialistContributionIds : List Id
  controllerReviewIds : List Id := []
  contextManifest : List ContextItem
deriving DecidableEq, Repr

/-- A row of `controller_reviews` for a candidate. -/
structure ControllerReview where
  id : Id
  scope : TenantScope
  decisionId : Option Id := none
  decisionCandidateId : Id
  agentRunId : Id
  snapshotId : Id
  controllerName : String
  controllerType : String
  verdict : ControllerVerdict
  reason : String
  severity : RiskClass
  issues : List String
  requiredChanges : List String
  conditions : List String
  evidenceRefs : List EvidenceReference
  contextManifest : List ContextItem
deriving DecidableEq, Repr

/-- A row of `decisions` that `_materialize_final_decision` makes. -/
structure FinalDecision where
  id : Id
  scope : TenantScope
  version : ℕ
  selectedAction : String
  approvedForProduction : Bool := false
  snapshotId : Id
  sourceCandidateId : Option Id
  evidenceIds : List String
  nextCheckpoint : String
deriving DecidableEq, Repr

/-- A row of `decision_approvals` that `approve_decision_for_production` makes. -/
structure FinalApproval where
  id : Id
  scope : TenantScope
  workflowId : Id
  decisionId : Id
  candidateId : Id
  objectId : Id
  objectVersionId : Id
  objectVersion : ℕ
  approvedByUserId : String
deriving DecidableEq, Repr

/-- The tables of the workflow. -/
structure DecisionTables where
  businessSnapshots : List BusinessSnapshot := []
  launches : List Launch := []
  decisionWorkflows : List DecisionWorkflow := []
  specialistContributions : List SpecialistContribution := []
  decisionCandidates : List DecisionCandidate := []
  controllerReviews : List ControllerReview := []
  decisions : List FinalDecision := []
  decisionApprovals : List FinalApproval := []
deriving Repr

/-- How the workflow reads a run: the output schemas, and the manifest that the context builder has
stored with the run. -/
structure RunReader (M : Type) extends OutputSchemas M where
  contextManifest : AgentRun M → List ContextItem

/-- What answers the workflow from outside, and what the handlers of the rest of the application
do. -/
structure DecisionAnswer where
  /-- `AgentRegistry.resolve` and `ensure_agent_definition`. -/
  admission : Except JobError Unit := .ok ()
  /-- The context hash of a run and its durable definition. -/
  trace : Except JobError Unit := .ok ()
  /-- `_materialize_phase6_intent`. -/
  phase6Intent : Except JobError Unit := .ok ()
  foreign : Except JobError (List ForeignWork) := .ok []

/-- A transaction of the decision workflow. -/
abbrev DecisionTxn (M α : Type) := DomainTxn M DecisionTables α

variable {M α : Type}

namespace DecisionWorkflow

/-! ## Evidence -/

/-- The entries of a `dict` of evidence statuses, the newest first. -/
abbrev EvidenceStatuses := List (String × String)

/-- What one item of a manifest sets. -/
def itemEvidenceRefStatuses (item : ContextItem) : EvidenceStatuses :=
  match item.epistemicStatus with
  | none => []
  | some status =>
      (if item.sourceObjectType = some "evidence" then
        item.sourceObjectId.toList.map fun ref => (ref, status)
      else []) ++
      item.provenanceRef.toList.map fun ref => (ref, status)

/-- `_manifest_evidence_ref_statuses`. -/
def manifestEvidenceRefStatuses (items : List ContextItem) : EvidenceStatuses :=
  items.foldl (fun statuses item => itemEvidenceRefStatuses item ++ statuses) []

/-- `_snapshot`, for the snapshot of the workflow or another one. -/
def snapshotOf (scope : TenantScope) (snapshotId : Id) (t : DecisionTables) :
    Except JobError BusinessSnapshot := do
  let snapshot ← orRaise (.permanentJobError "BusinessSnapshot not found")
    (Table.find BusinessSnapshot.id snapshotId t.businessSnapshots)
  scope.assertMatches snapshot.scope
  return snapshot

/-- `_snapshot_evidence_ref_statuses`. -/
def snapshotEvidenceRefStatuses (w : DecisionWorkflow) (t : DecisionTables) :
    Except JobError EvidenceStatuses := do
  let snapshot ← snapshotOf w.scope w.snapshotId t
  return (snapshot.evidence.map fun item => (item.id, item.status)).reverse

/-- `_agent_run_evidence_ref_statuses`. -/
def agentRunEvidenceRefStatuses (R : RunReader M) (w : DecisionWorkflow) (t : DecisionTables)
    (run : AgentRun M) : Except JobError EvidenceStatuses := do
  w.scope.assertMatches run.scope
  let statuses := manifestEvidenceRefStatuses (R.contextManifest run)
  if (statuses.lookup ("business_snapshot:" ++ toString w.snapshotId)).isSome then
    return (← snapshotEvidenceRefStatuses w t) ++ statuses
  else
    return statuses

/-- The body of the loop of `_validate_evidence_refs`. -/
def validateEvidenceRef (statuses : EvidenceStatuses) (ref : EvidenceReference) :
    Except JobError Unit := do
  let expected ← orRaise
    (.permanentJobError ("unsupported evidence reference: " ++ ref.evidenceId))
    (statuses.lookup ref.evidenceId)
  require (expected = ref.epistemicStatus.value)
    (.permanentJobError "evidence reference epistemic status mismatch")

/-- `_validate_evidence_refs`. -/
def validateEvidenceRefs (R : RunReader M) (w : DecisionWorkflow) (t : DecisionTables)
    (run : AgentRun M) (refs : List EvidenceReference) : Except JobError Unit := do
  let statuses ← agentRunEvidenceRefStatuses R w t run
  refs.forM (validateEvidenceRef statuses)

/-! ## Rows of a workflow -/

/-- `_specialist_contribution`. -/
def specialistContribution (w : DecisionWorkflow) (contractKey : String) (t : DecisionTables) :
    Option SpecialistContribution :=
  t.specialistContributions.find? fun row =>
    row.workflowId = w.id && row.contractKey = contractKey && row.contractVersion = 1

/-- The candidates of a workflow. -/
def candidatesOf (w : DecisionWorkflow) (t : DecisionTables) : List DecisionCandidate :=
  t.decisionCandidates.filter fun c => c.workflowId = w.id

/-- The version of the latest candidate, or zero. -/
def latestCandidateVersion (w : DecisionWorkflow) (t : DecisionTables) : ℕ :=
  Table.maxOf DecisionCandidate.versionNumber (candidatesOf w t)

/-- `_next_candidate_version`. -/
def nextCandidateVersion (w : DecisionWorkflow) (t : DecisionTables) : ℕ :=
  latestCandidateVersion w t + 1

/-- The candidate of a workflow with a version. -/
def candidateForVersion (w : DecisionWorkflow) (version : ℕ) (t : DecisionTables) :
    Option DecisionCandidate :=
  (candidatesOf w t).find? fun c => c.versionNumber = version

/-- `_latest_candidate_or_none`. -/
def latestCandidateOrNone (w : DecisionWorkflow) (t : DecisionTables) : Option DecisionCandidate :=
  candidateForVersion w (latestCandidateVersion w t) t

/-- `_specialist_contributions`, in the order of the table. -/
def specialistContributions (w : DecisionWorkflow) (t : DecisionTables) :
    List SpecialistContribution :=
  t.specialistContributions.filter fun row => row.workflowId = w.id

/-- `_controller_reviews`, in the order of the table. -/
def controllerReviews (candidate : DecisionCandidate) (t : DecisionTables) :
    List ControllerReview :=
  t.controllerReviews.filter fun review => review.decisionCandidateId = candidate.id

/-- `_latest_candidate`. -/
def latestCandidate (w : DecisionWorkflow) (t : DecisionTables) :
    Except JobError DecisionCandidate :=
  orRaise (.transientJobError "DecisionCandidate is not ready") (latestCandidateOrNone w t)

end DecisionWorkflow

/-- Change the candidate with the given id. -/
def DecisionTables.updateCandidate (id : Id) (f : DecisionCandidate → DecisionCandidate)
    (t : DecisionTables) : DecisionTables :=
  { t with decisionCandidates := Table.modify DecisionCandidate.id id f t.decisionCandidates }

/-! ## Runs -/

/-- What `_specialist_run_state` and its siblings return. -/
inductive RunState
  | pending
  | ready
  | create
deriving DecidableEq, Repr

/-- What the runs of the specialists, of the chief and of the controllers differ in. `check` is what
the workflow demands of an output. -/
structure RunRole (M α : Type) where
  contractKey : String
  ref : RunRef
  jobType : JobType
  isAgentRun : jobType.isAgentRun = true
  maxOutputAttempts : ℕ
  limitExceeded : String
  notReady : String
  check : AgentRun M → M → Except JobError α

namespace RunRole

variable (role : RunRole M α) (w : DecisionWorkflow)

/-- `_specialist_agent_runs` and its siblings: the newest first. -/
def agentRuns (runs : List (AgentRun M)) : List (AgentRun M) :=
  (runs.filter fun run =>
    run.scope = w.scope && run.contractKey = role.contractKey && run.contractVersion = 1 &&
      run.inputRef = some role.ref).reverse

/-- `_specialist_run_can_materialize` and its siblings. Only a `PermanentJobError` makes the answer
`False`. -/
def canMaterialize (run : AgentRun M) : Except JobError Bool :=
  match run.status, run.outputData with
  | .succeeded, some output =>
      match role.check run output with
      | .ok _ => .ok true
      | .error error => if error.kind = .permanent then .ok false else .error error
  | _, _ => .ok false

/-- `_specialist_run_state` and its siblings. -/
def runState (runs : List (AgentRun M)) : Except JobError RunState :=
  let runs := role.agentRuns w runs
  if runs.any fun run => !run.terminal then .ok .pending
  else do
    if ← runs.anyM role.canMaterialize then
      return .ready
    require (runs.length < role.maxOutputAttempts) (.permanentJobError role.limitExceeded)
    return .create

/-- The first run that can be materialized, if any. -/
def firstReady : List (AgentRun M) → Except JobError (Option (AgentRun M))
  | [] => .ok none
  | run :: runs => do
      if ← role.canMaterialize run then return some run
      firstReady runs

/-- `_specialist_agent_run` and its siblings. -/
def readyRun (runs : List (AgentRun M)) : Except JobError (AgentRun M) := do
  let runs := role.agentRuns w runs
  match ← role.firstReady runs with
  | some run => return run
  | none =>
      require (runs.all AgentRun.terminal) (.transientJobError role.notReady)
      require (runs.length < role.maxOutputAttempts) (.permanentJobError role.limitExceeded)
      throw (.transientJobError role.notReady)

/-- The run that is ready, and its output. -/
def readyOutput (runs : List (AgentRun M)) : Except JobError (AgentRun M × α) := do
  let run ← role.readyRun w runs
  match run.status, run.outputData with
  | .succeeded, some output => return (run, ← role.check run output)
  | _, _ => throw (.transientJobError role.notReady)

/-- `_next_specialist_run_idempotency_key` and its siblings. -/
def nextRunIdempotencyKey (runs : List (AgentRun M)) : RunKey :=
  let runs := role.agentRuns w runs
  if runs = [] then .base role.ref else .retry role.ref (runs.length + 1)

/-- What `_ensure_specialist_runs` and its siblings do for one contract; the result is whether the
run is ready. -/
def ensureRun (now : Time) (answer : DecisionAnswer) (contextRefs : List ContextReference) :
    DecisionTxn M Bool := do
  let runs ← DomainTxn.agentRuns
  match ← DomainTxn.check (role.runState w runs) with
  | .ready => return true
  | .pending => return false
  | .create =>
      let _ ← DomainTxn.createAgentRun now
        { scope := w.scope
          contractKey := role.contractKey
          inputRef := some role.ref
          contextRefs := contextRefs
          jobType := role.jobType
          idempotencyKey := some (role.nextRunIdempotencyKey w runs)
          isAgentRun := role.isAgentRun } answer.admission
      return false

end RunRole

/-- The number of runs of a tenant with one of the references: the query of
`_specialist_run_generation` and its siblings. -/
def countRuns (scope : TenantScope) (refs : List RunRef) (runs : List (AgentRun M)) : ℕ :=
  runs.countP fun run => run.scope = scope && run.inputRef.any fun ref => ref ∈ refs

namespace DecisionWorkflow

section Roles

variable (R : RunReader M) (w : DecisionWorkflow) (t : DecisionTables)

/-- `_specialist_run_input_ref`. -/
def specialistRunInputRef (contractKey : String) : RunRef := .specialist w.id contractKey

/-- The runs of a specialist. -/
def specialistRole (contractKey : String) : RunRole M SpecialistContributionOutput where
  contractKey := contractKey
  ref := specialistRunInputRef w contractKey
  jobType := .aiRunAgent
  isAgentRun := JobType.isAgentRun_aiRunAgent
  maxOutputAttempts := 3
  limitExceeded := "SpecialistContribution output retry limit exceeded"
  notReady := "specialist run is not ready: " ++ contractKey
  check run output := do
    let output ← orRaise (.permanentJobError "specialist output failed schema validation")
      (R.specialistContribution output)
    validateEvidenceRefs R w t run output.evidenceRefs
    return output

/-- `_specialist_run_generation`. -/
def specialistRunGeneration (runs : List (AgentRun M)) : ℕ :=
  countRuns w.scope (specialistContractKeys.map (specialistRunInputRef w)) runs

/-- `_chief_run_input_ref`. -/
def chiefRunInputRef (version : ℕ) : RunRef := .chief w.id version

/-- The runs of the chief for a version. -/
def chiefRole (version : ℕ) : RunRole M DecisionCandidateOutput where
  contractKey := chiefGrowthProducerContractKey
  ref := chiefRunInputRef w version
  jobType := .aiRunAgent
  isAgentRun := JobType.isAgentRun_aiRunAgent
  maxOutputAttempts := 3
  limitExceeded := "DecisionCandidate output retry limit exceeded"
  notReady := "chief run is not ready"
  check run output := do
    let output ← orRaise (.permanentJobError "DecisionCandidate output failed schema validation")
      (R.decisionCandidate output)
    require (WorthMapping.strip output.selectedAction.toList ≠ [])
      (.permanentJobError "DecisionCandidate selected_action is required")
    validateEvidenceRefs R w t run output.evidenceRefs
    return output

/-- `_chief_run_generation`. -/
def chiefRunGeneration (version : ℕ) (runs : List (AgentRun M)) : ℕ :=
  countRuns w.scope [chiefRunInputRef w version] runs

/-- `_CONTROLLER_TYPE_ALIASES`. -/
def controllerTypeAliases : List (String × List String) :=
  [("evidence", ["evidence", "evidencecontroller", "evidencecontrollerreview"]),
    ("strategy_red_team",
      ["strategyredteam", "strategyredteamcontroller", "strategyredteamreview"]),
    ("constitutional",
      ["constitutional", "constitutionalcontroller", "constitutionalcontrollerreview"]),
    ("decision_quality",
      ["decisionquality", "decisionqualitycontroller", "decisionqualitycontrollerreview"]),
    ("economics", ["economics", "economicscontroller", "economicscontrollerreview"]),
    ("manipulation", ["manipulation", "manipulationcontroller", "manipulationcontrollerreview"]),
    ("anti_analysis_paralysis",
      ["antianalysisparalysis", "antianalysisparalysiscontroller",
        "antianalysisparalysiscontrollerreview"])]

/-- `_controller_type_token`. -/
def controllerTypeToken (value : String) : String :=
  String.ofList ((value.toList.map Char.toLower).filter Char.isAlphanum)

/-- `_assert_controller_type_matches_contract`. -/
def assertControllerTypeMatchesContract (expected actual : String) : Except JobError Unit := do
  let aliases ← orRaise (.permanentJobError "unknown controller contract type")
    (controllerTypeAliases.lookup expected)
  require (controllerTypeToken actual ∈ aliases)
    (.permanentJobError "ControllerReview controller_type does not match contract")

/-- `_contains_human_worth_violation` of this module, on the texts of a payload. -/
def containsHumanWorthViolation (texts : List String) : Bool :=
  let text := (" ".intercalate texts).toList.map Char.toLower
  ["sales", "conversion", "price", "non-purchase", "discipline", "revenue"].any
      (WorthMapping.contains text) &&
    ["human value", "worth", "rank", "not ready", "readiness", "correctness"].any
      (WorthMapping.contains text)

/-- `_validate_controller_verdict`. -/
def validateControllerVerdict (controllerType : String) (candidate : DecisionCandidate)
    (output : ControllerReviewOutput) : Except JobError Unit := do
  require (¬ (controllerType = "constitutional" ∧
      containsHumanWorthViolation candidate.payload.texts ∧ output.verdict ≠ .block))
    (.permanentJobError "Constitutional Controller must BLOCK human-worth violations")
  require (¬ (controllerType = "evidence" ∧ output.evidenceRefs = []))
    (.permanentJobError "Evidence Controller must include evidence_refs")

/-- `_controller_run_input_ref`. -/
def controllerRunInputRef (version : ℕ) (contractKey : String) : RunRef :=
  .candidate w.id version contractKey

/-- The runs of a controller for a candidate. -/
def controllerRole (candidate : DecisionCandidate) (controllerType : String) :
    RunRole M ControllerReviewOutput where
  contractKey := controllerContractKey controllerType
  ref := controllerRunInputRef w candidate.versionNumber (controllerContractKey controllerType)
  jobType := .aiRunController
  isAgentRun := JobType.isAgentRun_aiRunController
  maxOutputAttempts := 3
  limitExceeded := "ControllerReview output retry limit exceeded"
  notReady := "controller run is not ready: " ++ controllerType
  check run output := do
    let output ← orRaise (.permanentJobError "ControllerReview output failed schema validation")
      (R.controllerReview output)
    assertControllerTypeMatchesContract controllerType output.controllerType
    validateEvidenceRefs R w t run output.evidenceRefs
    validateControllerVerdict controllerType candidate output
    return output

/-- `_controller_run_generation`. -/
def controllerRunGeneration (version : ℕ) (runs : List (AgentRun M)) : ℕ :=
  countRuns w.scope
    (requiredControllerTypes.map fun type =>
      controllerRunInputRef w version (controllerContractKey type)) runs

end Roles

/-! ## Stages -/

section ContextRefs

variable (w : DecisionWorkflow)

/-- The snapshot of the workflow. -/
def snapshotRef : ContextReference := ⟨"business_snapshot", toString w.snapshotId⟩

/-- The previous candidate of `_ensure_chief_run` and the reviews of it: what is passed, or what is
found for the version before. -/
def previousRound (t : DecisionTables) (version : ℕ) (previousCandidate : Option DecisionCandidate)
    (reviews : List ControllerReview) : Option DecisionCandidate × List ControllerReview :=
  if previousCandidate.isNone ∧ reviews = [] then
    match candidateForVersion w (version - 1) t with
    | some candidate => (some candidate, controllerReviews candidate t)
    | none => (none, [])
  else (previousCandidate, reviews)

/-- The `context_refs` of `_ensure_chief_run`. -/
def chiefContextRefs (t : DecisionTables) (previousCandidate : Option DecisionCandidate)
    (reviews : List ControllerReview) : List ContextReference :=
  snapshotRef w ::
    (specialistContributions w t).map (fun row => ⟨"specialist_contribution", toString row.id⟩) ++
    previousCandidate.toList.map (fun candidate => ⟨"decision_candidate", toString candidate.id⟩) ++
    reviews.map fun review => ⟨"controller_review", toString review.id⟩

/-- The `context_refs` of `_ensure_controller_runs`. -/
def controllerContextRefs (candidate : DecisionCandidate) : List ContextReference :=
  [snapshotRef w, ⟨"decision_candidate", toString candidate.id⟩]

end ContextRefs

section Stages

variable (R : RunReader M) (now : Time) (answer : DecisionAnswer) (w : DecisionWorkflow)

/-- Ensure the run of each of the roles; the result is `not_ready_count`. -/
def ensureRuns {β : Type} (role : β → RunRole M α) (contextRefs : List ContextReference)
    (keys : List β) : DecisionTxn M ℕ :=
  keys.foldlM
    (fun notReady key => do
      return if ← (role key).ensureRun w now answer contextRefs then notReady
        else notReady + 1) 0

/-- `_ensure_specialist_runs`. -/
def ensureSpecialistRuns : DecisionTxn M ℕ := do
  let t ← DomainTxn.tables
  ensureRuns now answer w (specialistRole R w t) [snapshotRef w] specialistContractKeys

/-- `_ensure_chief_run`. -/
def ensureChiefRun (previousCandidate : Option DecisionCandidate) (reviews : List ControllerReview) :
    DecisionTxn M ℕ := do
  let t ← DomainTxn.tables
  let version := nextCandidateVersion w t
  let previous := previousRound w t version previousCandidate reviews
  ensureRuns now answer w (chiefRole R w t) (chiefContextRefs w t previous.1 previous.2) [version]

/-- `_ensure_controller_runs`. -/
def ensureControllerRuns (candidate : DecisionCandidate) : DecisionTxn M ℕ := do
  let t ← DomainTxn.tables
  ensureRuns now answer w (controllerRole R w t candidate) (controllerContextRefs w candidate)
    requiredControllerTypes

/-- One round of the loop of `_materialize_specialist_contributions`. -/
def materializeSpecialistContribution (contractKey : String) : DecisionTxn M Unit := do
  let t ← DomainTxn.tables
  match specialistContribution w contractKey t with
  | some _ => return
  | none =>
      let runs ← DomainTxn.agentRuns
      let (run, output) ← DomainTxn.check ((specialistRole R w t contractKey).readyOutput w runs)
      DomainTxn.check answer.trace
      let id ← DomainTxn.newId
      let row : SpecialistContribution :=
        { id := id
          scope := w.scope
          workflowId := w.id
          snapshotId := w.snapshotId
          agentRunId := run.id
          contractKey := run.contractKey
          contractVersion := run.contractVersion
          payload := output
          contextManifest := R.contextManifest run }
      DomainTxn.modifyTables fun t =>
        { t with specialistContributions := t.specialistContributions ++ [row] }

/-- `_materialize_specialist_contributions`. -/
def materializeSpecialistContributions : DecisionTxn M Unit :=
  specialistContractKeys.foldlM
    (fun _ contractKey => materializeSpecialistContribution R answer w contractKey) ()

/-- `_materialize_candidate`. -/
def materializeCandidate : DecisionTxn M DecisionCandidate := do
  let t ← DomainTxn.tables
  let version := nextCandidateVersion w t
  match candidateForVersion w version t with
  | some existing => return existing
  | none =>
      let runs ← DomainTxn.agentRuns
      let (run, output) ← DomainTxn.check ((chiefRole R w t version).readyOutput w runs)
      DomainTxn.check answer.trace
      let id ← DomainTxn.newId
      let row : DecisionCandidate :=
        { id := id
          scope := w.scope
          workflowId := w.id
          snapshotId := w.snapshotId
          chiefAgentRunId := run.id
          previousCandidateId := (latestCandidateOrNone w t).map DecisionCandidate.id
          versionNumber := version
          revisionRound := w.revisionCount
          selectedAction := output.selectedAction
          payload := output
          specialistContributionIds :=
            (t.specialistContributions.filter fun row => row.workflowId = w.id).map
              SpecialistContribution.id
          contextManifest := R.contextManifest run }
      DomainTxn.modifyTables fun t => { t with decisionCandidates := t.decisionCandidates ++ [row] }
      return row

/-- Python's `values or default` on a list. -/
def orDefaultList (values default : List String) : List String :=
  if values = [] then default else values

/-- One round of the loop of `_materialize_controller_reviews`. -/
def materializeControllerReview (candidate : DecisionCandidate) (controllerType : String) :
    DecisionTxn M ControllerReview := do
  let t ← DomainTxn.tables
  match t.controllerReviews.find? fun review =>
      review.decisionCandidateId = candidate.id && review.controllerType = controllerType with
  | some existing => return existing
  | none =>
      let runs ← DomainTxn.agentRuns
      let (run, output) ← DomainTxn.check
        ((controllerRole R w t candidate controllerType).readyOutput w runs)
      DomainTxn.check answer.trace
      let id ← DomainTxn.newId
      let row : ControllerReview :=
        { id := id
          scope := w.scope
          decisionCandidateId := candidate.id
          agentRunId := run.id
          snapshotId := w.snapshotId
          controllerName := output.controllerType
          controllerType := controllerType
          verdict := output.verdict
          reason := "; ".intercalate
            (orDefaultList output.issues (orDefaultList output.requiredChanges
              [output.verdict.value]))
          severity := output.severity
          issues := output.issues
          requiredChanges := output.requiredChanges
          conditions := if output.verdict = .passWithConditions then output.requiredChanges else []
          evidenceRefs := output.evidenceRefs
          contextManifest := R.contextManifest run }
      DomainTxn.modifyTables fun t => { t with controllerReviews := t.controllerReviews ++ [row] }
      return row

/-- `_materialize_controller_reviews`. -/
def materializeControllerReviews (candidate : DecisionCandidate) :
    DecisionTxn M (List ControllerReview) := do
  let reviews ← requiredControllerTypes.foldlM
    (fun reviews type => do
      return reviews ++ [← materializeControllerReview R answer w candidate type]) []
  DomainTxn.modifyTables (DecisionTables.updateCandidate candidate.id fun c =>
    { c with controllerReviewIds := reviews.map ControllerReview.id })
  return reviews

/-- Write the status of a candidate. -/
def setCandidateStatus (candidate : DecisionCandidate) (status : DecisionCandidateStatus) :
    DecisionTxn M Unit :=
  DomainTxn.modifyTables (DecisionTables.updateCandidate candidate.id fun c =>
    { c with status := status })

/-- `_materialize_final_decision`: the workflow bound to its Decision. -/
def materializeFinalDecision (candidate : DecisionCandidate) :
    DecisionTxn M DecisionWorkflow := do
  let t ← DomainTxn.tables
  match w.finalDecisionId with
  | some decisionId =>
      let _ ← DomainTxn.check (orRaise
        (.permanentJobError "Workflow final_decision_id points to missing Decision")
        (Table.find FinalDecision.id decisionId t.decisions))
      return w
  | none =>
      let output := candidate.payload
      DomainTxn.check (require (WorthMapping.strip output.selectedAction.toList ≠ [])
        (.permanentJobError "accepted candidate has no selected_action"))
      let id ← DomainTxn.newId
      let decision : FinalDecision :=
        { id := id
          scope := w.scope
          version := 1
          selectedAction := output.selectedAction
          snapshotId := w.snapshotId
          sourceCandidateId := some candidate.id
          evidenceIds := output.evidenceRefs.map EvidenceReference.evidenceId
          nextCheckpoint := output.nextCheckpoint }
      DomainTxn.modifyTables fun t =>
        { t with
          decisions := t.decisions ++ [decision]
          controllerReviews := Table.modify ControllerReview.decisionCandidateId candidate.id
            (fun review => { review with decisionId := some id }) t.controllerReviews }
      setCandidateStatus candidate .materialized
      DomainTxn.addOutboxEvent now w.scope "decision.materialized"
      return { w with finalDecisionId := some id }

end Stages

end DecisionWorkflow

end LaunchOS
