import LaunchOS.Analytics.Metrics

/-!
# Checkpoints and learnings

`interpret_checkpoint` and `create_governed_learning` of `analytics/phase6.py`.

The module introduces:

* `resultClass`: how a metric meets the thresholds of its checkpoint;
* `interpretCheckpoint`, `createGovernedLearning`, and their handlers.
-/

namespace LaunchOS.Analytics

open Txn

variable {M : Type}

/-! ## The interpretation of a checkpoint -/

/-- `_matches`. -/
def TypedThreshold.matches (threshold : TypedThreshold) (value : Rat) : Bool :=
  match threshold.operator with
  | .gte => decide (threshold.value ≤ value)
  | .gt => decide (threshold.value < value)
  | .lte => decide (value ≤ threshold.value)
  | .lt => decide (value < threshold.value)
  | .eq => decide (value = threshold.value)

/-- The class of the result of a checkpoint. -/
def resultClass (checkpoint : CheckpointDefinition) (metric : MetricVersion) :
    Except JobError ResultClass :=
  if metric.availabilityStatus ≠ .available ∨ metric.coverageStatus ≠ .complete then
    .ok .insufficientData
  else
    match metric.valueNumeric with
    | none => .error (.permanentJobError "available MetricVersion requires a numeric value")
    | some value =>
        if TypedThreshold.matches checkpoint.success value then .ok .success
        else if TypedThreshold.matches checkpoint.weakSignal value then .ok .weakSignal
        else if TypedThreshold.matches checkpoint.failure value then .ok .failure
        else .error (.permanentJobError "typed checkpoint conditions are non-exhaustive")

/-- The checkpoint and the experiment of a metric, with the class of the result. -/
def checkpointInputs (metric : MetricVersion) (t : AnalyticsTables) :
    Except JobError (CheckpointDefinition × Experiment × ResultClass) := do
  let checkpoint ← orRaise (.permanentJobError "CheckpointDefinition not found")
    (Table.find CheckpointDefinition.id metric.checkpointDefinitionId t.checkpointDefinitions)
  let experiment ← orRaise
    (.permanentJobError "Experiment not found for checkpoint interpretation")
    (Table.find Experiment.id checkpoint.experimentId t.experiments)
  require (experiment.status = .running)
    (.permanentJobError "Experiment must be RUNNING before checkpoint interpretation")
  return (checkpoint, experiment, ← resultClass checkpoint metric)

/-- `interpret_checkpoint`; the result is the id of the `ExperimentResult`. -/
def interpretCheckpoint (now : Time) (scope : TenantScope) (metricVersionId : Id) :
    AnalyticsTxn M Id := do
  let t ← DomainTxn.tables
  let metric ← DomainTxn.check (orRaise (.permanentJobError "MetricVersion not found")
    (Table.find MetricVersion.id metricVersionId t.metricVersions))
  DomainTxn.check (scope.assertMatches metric.scope)
  match Table.find ExperimentResultDetail.metricVersionId metric.id t.experimentResultDetails with
  | some existing => do
      let result ← DomainTxn.check (orRaise
        (.permanentJobError "ExperimentResult detail points to missing result")
        (Table.find ExperimentResult.id existing.experimentResultId t.experimentResults))
      return result.id
  | none => do
      let (checkpoint, experiment, resultClass) ← DomainTxn.check (checkpointInputs metric t)
      let resultId ← DomainTxn.newId
      let result : ExperimentResult :=
        { id := resultId
          scope := scope
          experimentId := checkpoint.experimentId
          resultClass := resultClass }
      let detailId ← DomainTxn.newId
      let detail : ExperimentResultDetail :=
        { id := detailId
          scope := scope
          experimentResultId := resultId
          checkpointDefinitionId := checkpoint.id
          metricVersionId := metric.id
          resultClass := resultClass }
      DomainTxn.modifyTables fun t => { t with
        experimentResults := t.experimentResults ++ [result]
        experimentResultDetails := t.experimentResultDetails ++ [detail]
        experiments := Table.modify Experiment.id experiment.id
          (fun experiment => { experiment with status := .complete }) t.experiments }
      DomainTxn.addOutboxEvent now scope "experiment.checkpoint.interpreted"
      return resultId

/-- The job of a governed learning. -/
def learningJob (context : RuntimeJobContext) (experimentResultId : Id) : CreateJob where
  scope := context.scope
  jobType := .learningRunGoverned
  payload := .runGovernedLearning experimentResultId
  idempotencyKey := .governedLearning experimentResultId
  maxAttempts := 2

/-- `InterpretCheckpointHandler.handle`. -/
def interpretCheckpointHandler (now : Time) (context : RuntimeJobContext) (metricVersionId : Id) :
    AnalyticsTxn M Unit := do
  let experimentResultId ← interpretCheckpoint now context.scope metricVersionId
  let _ ← DomainTxn.createJob now (learningJob context experimentResultId)

/-- `enqueue_checkpoint_interpretation_job`. -/
def enqueueCheckpointInterpretationJob (now : Time) (scope : TenantScope) (metricVersionId : Id) :
    AnalyticsTxn M Unit := do
  let t ← DomainTxn.tables
  let metric ← DomainTxn.check (orRaise
    (.permanentJobError "MetricVersion not found for checkpoint interpretation")
    (Table.find MetricVersion.id metricVersionId t.metricVersions))
  DomainTxn.check (scope.assertMatches metric.scope)
  let _ ← DomainTxn.createJob now
    { scope := scope
      jobType := .learningInterpretCheckpoint
      payload := .interpretCheckpoint metric.id
      idempotencyKey := .checkpointInterpret metric.id
      maxAttempts := 2 }

/-! ## Learnings -/

/-- The controllers of a learning and their verdicts. -/
def learningControllers (resultClass : ResultClass) : List (String × ControllerVerdict) :=
  [("attribution", if resultClass = .insufficientData then .passWithConditions else .pass),
    ("learning", .passWithConditions), ("stability", .passWithConditions)]

/-- The reviews of a result. -/
def learningReviewsOf (experimentResultId : Id) (t : AnalyticsTables) :
    List LearningControllerReview :=
  t.learningControllerReviews.filter fun review => review.experimentResultId = experimentResultId

/-- `_materialize_learning_reviews`. -/
def materializeLearningReviews (scope : TenantScope) (result : ExperimentResult) :
    AnalyticsTxn M (List LearningControllerReview) := do
  let t ← DomainTxn.tables
  let existing := learningReviewsOf result.id t
  if existing ≠ [] then
    DomainTxn.check (require
      ((["attribution", "learning", "stability"].all fun type =>
          existing.any fun review => review.controllerType = type) ∧
        existing.all fun review => review.controllerType ∈ ["attribution", "learning", "stability"])
      (.permanentJobError "Learning controller set is incomplete"))
    return existing
  else
    (learningControllers result.resultClass).foldlM
      (fun reviews controller => do
        let id ← DomainTxn.newId
        let review : LearningControllerReview :=
          { id := id
            scope := scope
            experimentResultId := result.id
            controllerType := controller.1
            verdict := controller.2 }
        DomainTxn.modifyTables fun t => { t with
          learningControllerReviews := t.learningControllerReviews ++ [review] }
        return reviews ++ [review]) []

/-- The rows behind a result. -/
def learningInputs (result : ExperimentResult) (t : AnalyticsTables) :
    Except JobError (CheckpointDefinition × Experiment) := do
  let detail ← orRaise (.permanentJobError "ExperimentResult provenance detail is required")
    (Table.find ExperimentResultDetail.experimentResultId result.id t.experimentResultDetails)
  let incomplete := JobError.permanentJobError "Learning deterministic inputs are incomplete"
  let _ ← orRaise incomplete
    (Table.find MetricVersion.id detail.metricVersionId t.metricVersions)
  let checkpoint ← orRaise incomplete
    (Table.find CheckpointDefinition.id detail.checkpointDefinitionId t.checkpointDefinitions)
  let experiment ← orRaise incomplete (Table.find Experiment.id result.experimentId t.experiments)
  return (checkpoint, experiment)

/-- `create_governed_learning`; the result is the id of the learning. -/
def createGovernedLearning (now : Time) (scope : TenantScope) (experimentResultId : Id) :
    AnalyticsTxn M Id := do
  let t ← DomainTxn.tables
  let result ← DomainTxn.check (orRaise
    (.permanentJobError "ExperimentResult not found for Learning")
    (Table.find ExperimentResult.id experimentResultId t.experimentResults))
  DomainTxn.check (scope.assertMatches result.scope)
  match Table.find LearningDetail.experimentResultId result.id t.learningDetails with
  | some existing => do
      let learning ← DomainTxn.check (orRaise
        (.permanentJobError "Learning detail points to missing Learning")
        (Table.find Learning.id existing.learningId t.learnings))
      return learning.id
  | none => do
      let (checkpoint, experiment) ← DomainTxn.check (learningInputs result t)
      let reviews ← materializeLearningReviews scope result
      DomainTxn.check (require (reviews.all fun review => review.verdict ≠ .block)
        (.permanentJobError "Learning governance blocked materialization"))
      let learningId ← DomainTxn.newId
      let learning : Learning :=
        { id := learningId
          scope := scope
          decisionId := some checkpoint.decisionId
          experimentId := some experiment.id }
      let detailId ← DomainTxn.newId
      let detail : LearningDetail :=
        { id := detailId
          scope := scope
          learningId := learningId
          experimentResultId := result.id
          interpretationClass := result.resultClass
          controllerReviewIds := reviews.map LearningControllerReview.id }
      DomainTxn.modifyTables fun t => { t with
        learnings := t.learnings ++ [learning]
        learningDetails := t.learningDetails ++ [detail] }
      DomainTxn.addOutboxEvent now scope "learning.materialized"
      return learningId

end LaunchOS.Analytics
