import LaunchOS.Analytics.Provenance

/-!
# Results and learnings, once

An Experiment is interpreted while it runs, and the interpretation completes it. What is looked up
before a row is written is the detail of the metric version, or of the result, so a repeated call finds
what the first one has written.

The module introduces:

* `LearningCall`: a call of `interpret_checkpoint` or of `create_governed_learning`, in a transaction of
  its own;
* `Interpreted`, `Learned`: what the calls have done when they return;
* `ExperimentResultDetail.Classifies`, `LearningDetail.Reviewed`: what a result and a learning state;
* `LearningRows`: one result for an Experiment, one learning for a result;
* `interpretation_once`: all of it, after every sequence of calls.
-/

namespace LaunchOS.Analytics

open Txn Transition

variable {M : Type}

/-! ## Calls -/

/-- A call of one of the two commands. -/
inductive LearningCall
  | interpret (now : Time) (scope : TenantScope) (metricVersionId : Id)
  | learn (now : Time) (scope : TenantScope) (experimentResultId : Id)
deriving DecidableEq, Repr

/-- What the call runs. -/
def LearningCall.run : LearningCall → AnalyticsTxn M Id
  | .interpret now scope metricVersionId => interpretCheckpoint now scope metricVersionId
  | .learn now scope experimentResultId => createGovernedLearning now scope experimentResultId

/-- A call that raises is rolled back. -/
def LearningCall.step (call : LearningCall) (db : AgentDatabase M AnalyticsTables) :
    AgentDatabase M AnalyticsTables :=
  match exec call.run db with
  | .ok db' => db'
  | .error _ => db

/-! ## Classes -/

theorem resultClass_eq_insufficientData_iff {checkpoint : CheckpointDefinition}
    {metric : MetricVersion} {result : ResultClass} (h : resultClass checkpoint metric = .ok result) :
    result = .insufficientData ↔
      ¬ (metric.availabilityStatus = .available ∧ metric.coverageStatus = .complete) := by
  unfold resultClass at h
  split at h
  next hmissing =>
    cases h
    simp only [true_iff, not_and_or]
    exact hmissing
  next hmissing =>
    have hcovered : metric.availabilityStatus = .available ∧ metric.coverageStatus = .complete := by
      simpa only [not_or, ne_eq, not_not] using hmissing
    simp only [hcovered, not_true_eq_false, iff_false, and_self]
    rintro rfl
    -- under complete coverage one of the thresholds decides
    split at h
    next => cases h
    next => repeat' split at h
            all_goals cases h

/-- The result of the detail has the class that the checkpoint assigns to the metric version. -/
def ExperimentResultDetail.Classifies (detail : ExperimentResultDetail) (t : AnalyticsTables) :
    Prop :=
  ∃ result ∈ t.experimentResults, ∃ metric checkpoint,
    Table.find MetricVersion.id detail.metricVersionId t.metricVersions = some metric ∧
    Table.find CheckpointDefinition.id metric.checkpointDefinitionId t.checkpointDefinitions =
      some checkpoint ∧
    result.id = detail.experimentResultId ∧ checkpoint.id = detail.checkpointDefinitionId ∧
    result.experimentId = checkpoint.experimentId ∧ result.resultClass = detail.resultClass ∧
    Analytics.resultClass checkpoint metric = .ok detail.resultClass

/-- The learning has exactly the reviews of the three controllers, with their verdicts. -/
def LearningDetail.Reviewed (detail : LearningDetail) (t : AnalyticsTables) : Prop :=
  ∃ result ∈ t.experimentResults, result.id = detail.experimentResultId ∧
    result.resultClass = detail.interpretationClass ∧
    (learningReviewsOf result.id t).map LearningControllerReview.id = detail.controllerReviewIds ∧
    (learningReviewsOf result.id t).map (fun review => (review.controllerType, review.verdict)) =
      learningControllers detail.interpretationClass

/-! ## What the calls write -/

/-- The rows of a new result. -/
def AnalyticsTables.withResult (id : Id) (scope : TenantScope) (checkpoint : CheckpointDefinition)
    (metricVersionId : Id) (resultClass : ResultClass) (t : AnalyticsTables) : AnalyticsTables :=
  { t with
    experimentResults := t.experimentResults ++ [{
      id := id
      scope := scope
      experimentId := checkpoint.experimentId
      resultClass := resultClass }]
    experimentResultDetails := t.experimentResultDetails ++ [{
      id := id + 1
      scope := scope
      experimentResultId := id
      checkpointDefinitionId := checkpoint.id
      metricVersionId := metricVersionId
      resultClass := resultClass }]
    experiments := Table.modify Experiment.id checkpoint.experimentId
      (fun experiment => { experiment with status := .complete }) t.experiments }

/-- The three reviews of a result, from the id `id` on. -/
def reviewRows (id : Id) (scope : TenantScope) (result : ExperimentResult) :
    List LearningControllerReview :=
  (learningControllers result.resultClass).zipIdx.map fun x =>
    { id := id + x.2
      scope := scope
      experimentResultId := result.id
      controllerType := x.1.1
      verdict := x.1.2 }

/-- The rows of a new learning, from the id `id` on. -/
def AnalyticsTables.withLearning (id : Id) (scope : TenantScope) (result : ExperimentResult)
    (checkpoint : CheckpointDefinition) (experimentId : Id) (reviews : List LearningControllerReview)
    (t : AnalyticsTables) : AnalyticsTables :=
  { t with
    learnings := t.learnings ++ [{
      id := id
      scope := scope
      decisionId := some checkpoint.decisionId
      experimentId := some experimentId }]
    learningDetails := t.learningDetails ++ [{
      id := id + 1
      scope := scope
      learningId := id
      experimentResultId := result.id
      interpretationClass := result.resultClass
      controllerReviewIds := reviews.map LearningControllerReview.id }] }

/-- What `interpret_checkpoint` has found and done when it returns a result. -/
inductive Interpreted (scope : TenantScope) (metricVersionId : Id)
    (db : AgentDatabase M AnalyticsTables) : Id → AgentDatabase M AnalyticsTables → Prop
  | known (metric : MetricVersion) (existing : ExperimentResultDetail) (result : ExperimentResult)
      (hmetric : Table.find MetricVersion.id metricVersionId db.tables.domain.metricVersions =
        some metric) (hscope : scope = metric.scope)
      (hexisting : Table.find ExperimentResultDetail.metricVersionId metricVersionId
        db.tables.domain.experimentResultDetails = some existing)
      (hresult : Table.find ExperimentResult.id existing.experimentResultId
        db.tables.domain.experimentResults = some result) :
      Interpreted scope metricVersionId db existing.experimentResultId db
  | fresh {db' : AgentDatabase M AnalyticsTables} (metric : MetricVersion)
      (checkpoint : CheckpointDefinition) (experiment : Experiment) (assigned : ResultClass)
      (hmetric : Table.find MetricVersion.id metricVersionId db.tables.domain.metricVersions =
        some metric) (hscope : scope = metric.scope)
      (hexisting : Table.find ExperimentResultDetail.metricVersionId metricVersionId
        db.tables.domain.experimentResultDetails = none)
      (hcheckpoint : Table.find CheckpointDefinition.id metric.checkpointDefinitionId
        db.tables.domain.checkpointDefinitions = some checkpoint)
      (hexperiment : Table.find Experiment.id checkpoint.experimentId
        db.tables.domain.experiments = some experiment)
      (hrunning : experiment.status = .running)
      (hclass : resultClass checkpoint metric = .ok assigned)
      (hnext : db'.nextId = db.nextId + 3)
      (hdomain : db'.tables.domain = db.tables.domain.withResult db.nextId scope checkpoint
        metricVersionId assigned) :
      Interpreted scope metricVersionId db db.nextId db'

theorem ensures_interpretCheckpoint (now : Time) (scope : TenantScope) (metricVersionId : Id)
    (db : AgentDatabase M AnalyticsTables) :
    Ensures (interpretCheckpoint now scope metricVersionId) (Interpreted scope metricVersionId db)
      db := by
  unfold interpretCheckpoint
  rw [ensures_bind, ensures_tables, ensures_bind, ensures_check]
  intro metric hmetric
  have hfind := orRaise_eq_ok_iff.mp hmetric
  obtain rfl : metric.id = metricVersionId := Table.key_of_find hfind
  rw [ensures_bind, ensures_check]
  intro _ hscope
  have hscope := TenantScope.assertMatches_eq_ok_iff.mp hscope
  split
  next existing hexisting =>
    rw [ensures_bind, ensures_check]
    intro result hresult
    have hfound := orRaise_eq_ok_iff.mp hresult
    rw [ensures_pure, Table.key_of_find hfound]
    exact .known metric existing result hfind hscope hexisting hfound
  next hexisting =>
    rw [ensures_bind, ensures_check]
    rintro ⟨checkpoint, experiment, assigned⟩ hinputs
    unfold checkpointInputs at hinputs
    obtain ⟨found, hcheckpoint, hinputs⟩ := Except.bind_eq_ok_iff.mp hinputs
    obtain ⟨running, hexperiment, hinputs⟩ := Except.bind_eq_ok_iff.mp hinputs
    obtain ⟨_, hrunning, hinputs⟩ := Except.bind_eq_ok_iff.mp hinputs
    obtain ⟨_, hclass, hinputs⟩ := Except.bind_eq_ok_iff.mp hinputs
    cases hinputs
    have hexperiment := orRaise_eq_ok_iff.mp hexperiment
    dsimp only
    rw [ensures_bind, ensures_newId, ensures_bind, ensures_newId, ensures_bind, ensures_modifyTables,
      DomainTxn.addOutboxEvent, ensures_bind, ensures_modify, ensures_pure,
      Table.key_of_find hexperiment]
    exact .fresh metric checkpoint experiment assigned hfind hscope hexisting
      (orRaise_eq_ok_iff.mp hcheckpoint) hexperiment (require_eq_ok_iff.mp hrunning) hclass rfl rfl

/-- What is found is returned, and nothing is written. -/
theorem achieves_interpretCheckpoint (now : Time) {scope : TenantScope} {metricVersionId : Id}
    {db : AgentDatabase M AnalyticsTables} {metric : MetricVersion}
    (existing : ExperimentResultDetail) (result : ExperimentResult)
    (hmetric : Table.find MetricVersion.id metricVersionId db.tables.domain.metricVersions =
      some metric) (hscope : scope = metric.scope)
    (hexisting : Table.find ExperimentResultDetail.metricVersionId metricVersionId
      db.tables.domain.experimentResultDetails = some existing)
    (hresult : Table.find ExperimentResult.id existing.experimentResultId
      db.tables.domain.experimentResults = some result) :
    interpretCheckpoint now scope metricVersionId db = .ok (existing.experimentResultId, db) := by
  have hachieves : Achieves (interpretCheckpoint now scope metricVersionId)
      (fun resultId db' => resultId = existing.experimentResultId ∧ db' = db) db := by
    unfold interpretCheckpoint
    rw [achieves_bind, achieves_tables, achieves_bind, achieves_check]
    refine ⟨metric, orRaise_eq_ok_iff.mpr hmetric, ?_⟩
    rw [achieves_bind, achieves_check, Table.key_of_find hmetric, hexisting]
    refine ⟨(), TenantScope.assertMatches_eq_ok_iff.mpr hscope, ?_⟩
    dsimp only
    rw [achieves_bind, achieves_check]
    refine ⟨result, orRaise_eq_ok_iff.mpr hresult, ?_⟩
    exact (achieves_pure _).mpr ⟨Table.key_of_find hresult, rfl⟩
  obtain ⟨resultId, db', hrun, rfl, rfl⟩ := hachieves
  exact hrun

/-- What `create_governed_learning` has found and done when it returns a learning. -/
inductive Learned (scope : TenantScope) (experimentResultId : Id)
    (db : AgentDatabase M AnalyticsTables) : Id → AgentDatabase M AnalyticsTables → Prop
  | known (result : ExperimentResult) (existing : LearningDetail) (learning : Learning)
      (hresult : Table.find ExperimentResult.id experimentResultId
        db.tables.domain.experimentResults = some result) (hscope : scope = result.scope)
      (hexisting : Table.find LearningDetail.experimentResultId experimentResultId
        db.tables.domain.learningDetails = some existing)
      (hlearning : Table.find Learning.id existing.learningId db.tables.domain.learnings =
        some learning) :
      Learned scope experimentResultId db existing.learningId db
  | fresh {db₁ db' : AgentDatabase M AnalyticsTables} (result : ExperimentResult)
      (checkpoint : CheckpointDefinition) (experiment : Experiment)
      (reviews : List LearningControllerReview)
      (hresult : Table.find ExperimentResult.id experimentResultId
        db.tables.domain.experimentResults = some result) (hscope : scope = result.scope)
      (hexisting : Table.find LearningDetail.experimentResultId experimentResultId
        db.tables.domain.learningDetails = none)
      (hreviews : (learningReviewsOf experimentResultId db.tables.domain ≠ [] ∧
          reviews = learningReviewsOf experimentResultId db.tables.domain ∧ db₁ = db) ∨
        (learningReviewsOf experimentResultId db.tables.domain = [] ∧
          reviews = reviewRows db.nextId scope result ∧ db₁.nextId = db.nextId + 3 ∧
          db₁.tables.domain = { db.tables.domain with
            learningControllerReviews :=
              db.tables.domain.learningControllerReviews ++ reviews }))
      (hnext : db'.nextId = db₁.nextId + 3)
      (hdomain : db'.tables.domain = db₁.tables.domain.withLearning db₁.nextId scope result
        checkpoint experiment.id reviews) :
      Learned scope experimentResultId db db₁.nextId db'

/-- The reviews are there, or they are written. -/
theorem ensures_materializeLearningReviews (scope : TenantScope) (result : ExperimentResult)
    (db : AgentDatabase M AnalyticsTables) :
    Ensures (materializeLearningReviews scope result) (fun reviews db₁ =>
      (learningReviewsOf result.id db.tables.domain ≠ [] ∧
          reviews = learningReviewsOf result.id db.tables.domain ∧ db₁ = db) ∨
        (learningReviewsOf result.id db.tables.domain = [] ∧
          reviews = reviewRows db.nextId scope result ∧ db₁.nextId = db.nextId + 3 ∧
          db₁.tables.domain = { db.tables.domain with
            learningControllerReviews :=
              db.tables.domain.learningControllerReviews ++ reviews })) db := by
  unfold materializeLearningReviews
  rw [ensures_bind, ensures_tables]
  dsimp only
  split
  next hexisting =>
    rw [ensures_bind, ensures_check]
    exact fun _ _ => (ensures_pure _).mpr (.inl ⟨hexisting, rfl, rfl⟩)
  next hexisting =>
    simp only [learningControllers, List.foldlM_cons, List.foldlM_nil, bind_assoc, pure_bind,
      ensures_bind, ensures_newId, ensures_modifyTables, ensures_pure]
    have happend : ∀ (rows : List LearningControllerReview) (first second third),
        ((rows ++ [first]) ++ [second]) ++ [third] = rows ++ [first, second, third] := by simp
    exact .inr ⟨not_not.mp hexisting, rfl, rfl, congrArg
      (fun rows => { db.tables.domain with learningControllerReviews := rows }) (happend _ _ _ _)⟩

theorem ensures_createGovernedLearning (now : Time) (scope : TenantScope) (experimentResultId : Id)
    (db : AgentDatabase M AnalyticsTables) :
    Ensures (createGovernedLearning now scope experimentResultId)
      (Learned scope experimentResultId db) db := by
  unfold createGovernedLearning
  rw [ensures_bind, ensures_tables, ensures_bind, ensures_check]
  intro result hresult
  have hfind := orRaise_eq_ok_iff.mp hresult
  obtain rfl : result.id = experimentResultId := Table.key_of_find hfind
  rw [ensures_bind, ensures_check]
  intro _ hscope
  have hscope := TenantScope.assertMatches_eq_ok_iff.mp hscope
  split
  next existing hexisting =>
    rw [ensures_bind, ensures_check]
    intro learning hlearning
    have hfound := orRaise_eq_ok_iff.mp hlearning
    rw [ensures_pure, Table.key_of_find hfound]
    exact .known result existing learning hfind hscope hexisting hfound
  next hexisting =>
    rw [ensures_bind, ensures_check]
    rintro ⟨checkpoint, experiment⟩ _
    dsimp only
    rw [ensures_bind]
    refine (ensures_materializeLearningReviews scope result db).mono fun reviews db₁ hreviews => ?_
    rw [ensures_bind, ensures_check]
    intro _ _
    rw [ensures_bind, ensures_newId, ensures_bind, ensures_newId, ensures_bind, ensures_modifyTables,
      DomainTxn.addOutboxEvent, ensures_bind, ensures_modify, ensures_pure]
    exact .fresh result checkpoint experiment reviews hfind hscope hexisting hreviews
      rfl rfl

theorem achieves_createGovernedLearning (now : Time) {scope : TenantScope} {experimentResultId : Id}
    {db : AgentDatabase M AnalyticsTables} {result : ExperimentResult} (existing : LearningDetail)
    (learning : Learning)
    (hresult : Table.find ExperimentResult.id experimentResultId
      db.tables.domain.experimentResults = some result) (hscope : scope = result.scope)
    (hexisting : Table.find LearningDetail.experimentResultId experimentResultId
      db.tables.domain.learningDetails = some existing)
    (hlearning : Table.find Learning.id existing.learningId db.tables.domain.learnings =
      some learning) :
    createGovernedLearning now scope experimentResultId db = .ok (existing.learningId, db) := by
  have hachieves : Achieves (createGovernedLearning now scope experimentResultId)
      (fun learningId db' => learningId = existing.learningId ∧ db' = db) db := by
    unfold createGovernedLearning
    rw [achieves_bind, achieves_tables, achieves_bind, achieves_check]
    refine ⟨result, orRaise_eq_ok_iff.mpr hresult, ?_⟩
    rw [achieves_bind, achieves_check, Table.key_of_find hresult, hexisting]
    refine ⟨(), TenantScope.assertMatches_eq_ok_iff.mpr hscope, ?_⟩
    dsimp only
    rw [achieves_bind, achieves_check]
    refine ⟨learning, orRaise_eq_ok_iff.mpr hlearning, ?_⟩
    exact (achieves_pure _).mpr ⟨Table.key_of_find hlearning, rfl⟩
  obtain ⟨learningId, db', hrun, rfl, rfl⟩ := hachieves
  exact hrun

/-! ## The invariant -/

/-- One result for an Experiment, and one learning for a result. -/
structure LearningRows (nextId : Id) (t : AnalyticsTables) : Prop where
  results : Table.Issued ExperimentResult.id nextId t.experimentResults
  detailed : t.experimentResultDetails.map ExperimentResultDetail.experimentResultId =
    t.experimentResults.map ExperimentResult.id
  classified : ∀ detail ∈ t.experimentResultDetails, detail.Classifies t
  metrics : Table.KeysNodup ExperimentResultDetail.metricVersionId t.experimentResultDetails
  experiments : Table.KeysNodup ExperimentResult.experimentId t.experimentResults
  /-- An Experiment that has a result does not run. -/
  complete : ∀ result ∈ t.experimentResults, ∀ experiment,
    Table.find Experiment.id result.experimentId t.experiments = some experiment →
      experiment.status ≠ .running
  learnings : Table.Issued Learning.id nextId t.learnings
  learned : t.learningDetails.map LearningDetail.learningId = t.learnings.map Learning.id
  once : Table.KeysNodup LearningDetail.experimentResultId t.learningDetails
  reviewed : ∀ detail ∈ t.learningDetails, detail.Reviewed t
  /-- Reviews are written with their learning. -/
  reviews : ∀ review ∈ t.learningControllerReviews, ∃ detail ∈ t.learningDetails,
    detail.experimentResultId = review.experimentResultId

/-- The same metrics and checkpoints, and no fewer results and learnings. -/
structure KeepsResults (t t' : AnalyticsTables) : Prop where
  metrics : t'.metricVersions = t.metricVersions
  checkpoints : t'.checkpointDefinitions = t.checkpointDefinitions
  results : t.experimentResults <+: t'.experimentResults
  details : t.experimentResultDetails <+: t'.experimentResultDetails
  learnings : t.learnings <+: t'.learnings
  learningDetails : t.learningDetails <+: t'.learningDetails

instance : IsPreorder AnalyticsTables KeepsResults where
  refl _ := ⟨rfl, rfl, List.prefix_refl _, List.prefix_refl _, List.prefix_refl _,
    List.prefix_refl _⟩
  trans _ _ _ h h' := ⟨h'.metrics.trans h.metrics, h'.checkpoints.trans h.checkpoints,
    h.results.trans h'.results, h.details.trans h'.details, h.learnings.trans h'.learnings,
    h.learningDetails.trans h'.learningDetails⟩

theorem learningWrites_keepsResults : LearningWrites KeepsResults where
  insertResult _ _ _ _ := ⟨rfl, rfl, List.prefix_append _ _, List.prefix_append _ _,
    List.prefix_refl _, List.prefix_refl _⟩
  insertReview _ _ := ⟨rfl, rfl, List.prefix_refl _, List.prefix_refl _, List.prefix_refl _,
    List.prefix_refl _⟩
  insertLearning _ _ _ := ⟨rfl, rfl, List.prefix_refl _, List.prefix_refl _,
    List.prefix_append _ _, List.prefix_append _ _⟩

theorem ExperimentResultDetail.Classifies.mono {detail : ExperimentResultDetail}
    {t t' : AnalyticsTables} (h : detail.Classifies t) (hkeeps : KeepsResults t t') :
    detail.Classifies t' := by
  obtain ⟨result, hresult, metric, checkpoint, hmetric, hcheckpoint, hrest⟩ := h
  refine ⟨result, hkeeps.results.subset hresult, metric, checkpoint, ?_, ?_, hrest⟩
  · rw [hkeeps.metrics]
    exact hmetric
  · rw [hkeeps.checkpoints]
    exact hcheckpoint

theorem reviewRows_verdicts (id : Id) (scope : TenantScope) (result : ExperimentResult) :
    (reviewRows id scope result).map (fun review => (review.controllerType, review.verdict)) =
      learningControllers result.resultClass := rfl

theorem result_of_mem_reviewRows {id : Id} {scope : TenantScope} {result : ExperimentResult}
    {review : LearningControllerReview} (h : review ∈ reviewRows id scope result) :
    review.experimentResultId = result.id := by
  obtain ⟨x, -, rfl⟩ := List.mem_map.mp h
  rfl

namespace LearningRows

variable {nextId nextId' : Id} {t : AnalyticsTables} {scope : TenantScope}
variable {checkpoint : CheckpointDefinition} {metric : MetricVersion} {assigned : ResultClass}

/-- A result of an Experiment that runs. -/
theorem withResult (h : LearningRows nextId t) (hlt : nextId < nextId') {metricVersionId : Id}
    {experiment : Experiment}
    (hmetric : Table.find MetricVersion.id metricVersionId t.metricVersions = some metric)
    (hexisting : Table.find ExperimentResultDetail.metricVersionId metricVersionId
      t.experimentResultDetails = none)
    (hcheckpoint : Table.find CheckpointDefinition.id metric.checkpointDefinitionId
      t.checkpointDefinitions = some checkpoint)
    (hexperiment : Table.find Experiment.id checkpoint.experimentId t.experiments =
      some experiment) (hrunning : experiment.status = .running)
    (hclass : resultClass checkpoint metric = .ok assigned) :
    LearningRows nextId' (t.withResult nextId scope checkpoint metricVersionId assigned) := by
  have hkeeps : KeepsResults t (t.withResult nextId scope checkpoint metricVersionId assigned) :=
    learningWrites_keepsResults.insertResult _ _ _ _
  have hfirst : ∀ result ∈ t.experimentResults, result.experimentId ≠ checkpoint.experimentId := by
    intro result hresult heq
    exact h.complete result hresult experiment (heq ▸ hexperiment) hrunning
  constructor
  · exact h.results.concat le_rfl hlt
  · change (t.experimentResultDetails ++ _).map _ = (t.experimentResults ++ _).map _
    rw [List.map_append, List.map_append, h.detailed]
    rfl
  · intro detail hdetail
    rcases List.mem_append.mp hdetail with hold | hnew
    · exact (h.classified detail hold).mono hkeeps
    · rw [List.mem_singleton.mp hnew]
      exact ⟨_, List.mem_append_right _ (List.mem_singleton_self _), metric, checkpoint, hmetric,
        hcheckpoint, rfl, rfl, rfl, rfl, hclass⟩
  · refine h.metrics.append (Table.keysNodup_singleton _) fun new hnew old hold => ?_
    rw [List.mem_singleton.mp hnew]
    exact Table.find_eq_none_iff.mp hexisting old hold
  · refine h.experiments.append (Table.keysNodup_singleton _) fun new hnew old hold => ?_
    rw [List.mem_singleton.mp hnew]
    exact hfirst old hold
  · have hkey : ∀ row : Experiment, row.id = checkpoint.experimentId →
        Experiment.id { row with status := .complete } = checkpoint.experimentId := fun _ hid => hid
    intro result hresult found hfound
    rcases List.mem_append.mp hresult with hold | hnew
    · rw [AnalyticsTables.withResult, Table.find_modify_of_ne hkey (hfirst result hold)] at hfound
      exact h.complete result hold found hfound
    · rw [List.mem_singleton.mp hnew, AnalyticsTables.withResult, Table.find_modify_self hkey,
        hexperiment] at hfound
      cases hfound
      simp
  · exact h.learnings.mono hlt.le
  · exact h.learned
  · exact h.once
  · intro detail hdetail
    obtain ⟨result, hresult, hrest⟩ := h.reviewed detail hdetail
    exact ⟨result, hkeeps.results.subset hresult, hrest⟩
  · exact h.reviews

/-- A learning of a result that has none. -/
theorem withLearning (h : LearningRows nextId t) {id : Id} (hle : nextId ≤ id) (hlt : id < nextId')
    {result : ExperimentResult} (experimentId reviewId : Id)
    (hresult : Table.find ExperimentResult.id result.id t.experimentResults = some result)
    (hexisting : Table.find LearningDetail.experimentResultId result.id t.learningDetails = none) :
    LearningRows nextId' (({ t with learningControllerReviews :=
      t.learningControllerReviews ++ reviewRows reviewId scope result } :
        AnalyticsTables).withLearning id scope result checkpoint experimentId
          (reviewRows reviewId scope result)) := by
  have hfirst := Table.find_eq_none_iff.mp hexisting
  have hnone : learningReviewsOf result.id t = [] := by
    rw [learningReviewsOf, List.filter_eq_nil_iff]
    intro review hreview hsame
    obtain ⟨detail, hdetail, hid⟩ := h.reviews review hreview
    exact hfirst detail hdetail (hid.trans (of_decide_eq_true hsame))
  have hreviews : ∀ resultId, learningReviewsOf resultId
      (({ t with learningControllerReviews :=
        t.learningControllerReviews ++ reviewRows reviewId scope result } :
          AnalyticsTables).withLearning id scope result checkpoint experimentId
            (reviewRows reviewId scope result)) =
        learningReviewsOf resultId t ++ if result.id = resultId then reviewRows reviewId scope result
          else [] := by
    intro resultId
    refine (List.filter_append _ _).trans (congrArg (learningReviewsOf resultId t ++ ·) ?_)
    split
    next heq =>
      refine List.filter_eq_self.mpr fun review hreview => ?_
      exact decide_eq_true ((result_of_mem_reviewRows hreview).trans heq)
    next hne =>
      refine List.filter_eq_nil_iff.mpr fun review hreview hsame => ?_
      exact hne ((result_of_mem_reviewRows hreview).symm.trans (of_decide_eq_true hsame))
  constructor
  · exact h.results.mono (hle.trans hlt.le)
  · exact h.detailed
  · intro detail hdetail
    obtain ⟨found, hfound, hrest⟩ := h.classified detail hdetail
    exact ⟨found, hfound, hrest⟩
  · exact h.metrics
  · exact h.experiments
  · exact h.complete
  · exact (h.learnings.mono hle).concat le_rfl hlt
  · change (t.learningDetails ++ _).map _ = (t.learnings ++ _).map _
    rw [List.map_append, List.map_append, h.learned]
    rfl
  · refine h.once.append (Table.keysNodup_singleton _) fun new hnew old hold => ?_
    rw [List.mem_singleton.mp hnew]
    exact hfirst old hold
  · intro detail hdetail
    rcases List.mem_append.mp hdetail with hold | hnew
    · obtain ⟨found, hfound, hid, hclass, hids, hverdicts⟩ := h.reviewed detail hold
      refine ⟨found, hfound, hid, hclass, ?_⟩
      rw [hreviews, if_neg fun heq => hfirst detail hold (hid.symm.trans heq.symm), List.append_nil]
      exact ⟨hids, hverdicts⟩
    · rw [List.mem_singleton.mp hnew]
      refine ⟨result, Table.mem_of_find hresult, rfl, rfl, ?_⟩
      rw [hreviews, if_pos rfl, hnone, List.nil_append]
      exact ⟨rfl, reviewRows_verdicts _ _ _⟩
  · intro review hreview
    rcases List.mem_append.mp hreview with hold | hnew
    · obtain ⟨detail, hdetail, hid⟩ := h.reviews review hold
      exact ⟨detail, List.mem_append_left _ hdetail, hid⟩
    · exact ⟨_, List.mem_append_right _ (List.mem_singleton_self _),
        (result_of_mem_reviewRows hnew).symm⟩

end LearningRows

/-! ## Runs of calls -/

section Calls

variable {now : Time} {scope : TenantScope} {metricVersionId experimentResultId id : Id}
variable {db db' db'' : AgentDatabase M AnalyticsTables}

theorem LearningRows.interpret (h : LearningRows db.nextId db.tables.domain)
    (hrun : Interpreted scope metricVersionId db id db') :
    LearningRows db'.nextId db'.tables.domain := by
  cases hrun with
  | known metric existing result hmetric hscope hexisting hresult => exact h
  | fresh metric checkpoint experiment assigned hmetric hscope hexisting hcheckpoint hexperiment
      hrunning hclass hnext hdomain =>
      rw [hdomain]
      refine h.withResult ?_ hmetric hexisting hcheckpoint hexperiment hrunning hclass
      rw [hnext]
      exact Nat.lt_add_of_pos_right (Nat.succ_pos 2)

theorem LearningRows.learn (h : LearningRows db.nextId db.tables.domain)
    (hrun : Learned scope experimentResultId db id db') :
    LearningRows db'.nextId db'.tables.domain := by
  cases hrun with
  | known result existing learning hresult hscope hexisting hlearning => exact h
  | @fresh db₁ _ result checkpoint experiment reviews hresult hscope hexisting hreviews hnext
      hdomain =>
      obtain rfl : result.id = experimentResultId := Table.key_of_find hresult
      rcases hreviews with ⟨hfound, -⟩ | ⟨-, rfl, hnext₁, hdomain₁⟩
      · -- reviews without a learning have never been written
        obtain ⟨review, hreview⟩ := List.exists_mem_of_ne_nil _ hfound
        obtain ⟨hmem, hsame⟩ := List.mem_filter.mp hreview
        obtain ⟨detail, hdetail, hid⟩ := h.reviews review hmem
        exact absurd (hid.trans (of_decide_eq_true hsame))
          (Table.find_eq_none_iff.mp hexisting detail hdetail)
      · rw [hdomain, hdomain₁]
        refine h.withLearning ?_ ?_ experiment.id db.nextId hresult hexisting
        · rw [hnext₁]
          exact Nat.le_add_right _ 3
        · rw [hnext]
          exact Nat.lt_add_of_pos_right (Nat.succ_pos 2)

/-- A call that is repeated finds its result, whatever has been called in between. -/
theorem interpret_again (h : LearningRows db'.nextId db'.tables.domain)
    (hrun : Interpreted scope metricVersionId db id db')
    (hkeeps : KeepsResults db'.tables.domain db''.tables.domain) (now : Time) :
    interpretCheckpoint now scope metricVersionId db'' = .ok (id, db'') := by
  obtain ⟨details, hdetails⟩ := hkeeps.details
  obtain ⟨results, hresults⟩ := hkeeps.results
  cases hrun with
  | known metric existing result hmetric hscope hexisting hresult =>
      refine achieves_interpretCheckpoint now existing result (hkeeps.metrics ▸ hmetric) hscope ?_ ?_
      · rw [← hdetails]
        exact Table.find_append_of_eq_some hexisting
      · rw [← hresults]
        exact Table.find_append_of_eq_some hresult
  | fresh metric checkpoint experiment assigned hmetric hscope hexisting hcheckpoint hexperiment
      hrunning hclass hnext hdomain =>
      have hmetrics : db'.tables.domain.metricVersions = db.tables.domain.metricVersions := by
        rw [hdomain]
        rfl
      rw [← hmetrics, ← hkeeps.metrics] at hmetric
      refine achieves_interpretCheckpoint now
        ⟨db.nextId + 1, scope, db.nextId, checkpoint.id, metricVersionId, assigned⟩
        ⟨db.nextId, scope, checkpoint.experimentId, assigned⟩ hmetric hscope ?_ ?_
      · rw [← hdetails]
        refine Table.find_append_of_eq_some (h.metrics.find_eq_some_iff.mpr ⟨?_, rfl⟩)
        rw [hdomain]
        exact List.mem_append_right _ (List.mem_singleton_self _)
      · rw [← hresults]
        refine Table.find_append_of_eq_some (h.results.nodup.find_eq_some_iff.mpr ⟨?_, rfl⟩)
        rw [hdomain]
        exact List.mem_append_right _ (List.mem_singleton_self _)

theorem learn_again (h : LearningRows db'.nextId db'.tables.domain)
    (hrun : Learned scope experimentResultId db id db')
    (hkeeps : KeepsResults db'.tables.domain db''.tables.domain) (now : Time) :
    createGovernedLearning now scope experimentResultId db'' = .ok (id, db'') := by
  obtain ⟨details, hdetails⟩ := hkeeps.learningDetails
  obtain ⟨results, hresults⟩ := hkeeps.results
  obtain ⟨learnings, hlearnings⟩ := hkeeps.learnings
  cases hrun with
  | known result existing learning hresult hscope hexisting hlearning =>
      refine achieves_createGovernedLearning now existing learning
        (hresults ▸ Table.find_append_of_eq_some hresult) hscope ?_ ?_
      · rw [← hdetails]
        exact Table.find_append_of_eq_some hexisting
      · rw [← hlearnings]
        exact Table.find_append_of_eq_some hlearning
  | @fresh db₁ _ result checkpoint experiment reviews hresult hscope hexisting hreviews hnext
      hdomain =>
      obtain rfl : result.id = experimentResultId := Table.key_of_find hresult
      have hresults₁ : db₁.tables.domain.experimentResults =
          db.tables.domain.experimentResults := by
        rcases hreviews with ⟨-, -, rfl⟩ | ⟨-, -, -, hdomain₁⟩
        · rfl
        · rw [hdomain₁]
      have hsame : db'.tables.domain.experimentResults = db.tables.domain.experimentResults := by
        rw [hdomain, ← hresults₁]
        rfl
      rw [← hsame] at hresult
      refine achieves_createGovernedLearning now
        ⟨db₁.nextId + 1, scope, db₁.nextId, result.id, result.resultClass,
          reviews.map LearningControllerReview.id⟩
        ⟨db₁.nextId, scope, some checkpoint.decisionId, some experiment.id⟩
        (hresults ▸ Table.find_append_of_eq_some hresult) hscope ?_ ?_
      · rw [← hdetails]
        refine Table.find_append_of_eq_some (h.once.find_eq_some_iff.mpr ⟨?_, rfl⟩)
        rw [hdomain]
        exact List.mem_append_right _ (List.mem_singleton_self _)
      · rw [← hlearnings]
        refine Table.find_append_of_eq_some (h.learnings.nodup.find_eq_some_iff.mpr ⟨?_, rfl⟩)
        rw [hdomain]
        exact List.mem_append_right _ (List.mem_singleton_self _)

theorem LearningCall.rows {call : LearningCall} (h : LearningRows db.nextId db.tables.domain)
    (hrun : call.run db = .ok (id, db')) : LearningRows db'.nextId db'.tables.domain := by
  cases call with
  | interpret now scope metricVersionId =>
      exact h.interpret (ensures_interpretCheckpoint now scope metricVersionId db _ _ hrun)
  | learn now scope experimentResultId =>
      exact h.learn (ensures_createGovernedLearning now scope experimentResultId db _ _ hrun)

theorem LearningCall.keeps {call : LearningCall} (hrun : call.run db = .ok (id, db')) :
    KeepsResults db.tables.domain db'.tables.domain := by
  have hf := fun now => domainRelation_frames (M := M) (r := KeepsResults) now fun _ => true
  cases call with
  | interpret now scope metricVersionId =>
      exact (within_interpretCheckpoint (hf now) learningWrites_keepsResults _ _ _ _ _ hrun).domain
  | learn now scope experimentResultId =>
      exact (within_createGovernedLearning (hf now) learningWrites_keepsResults _ _ _ _ _
        hrun).domain

theorem LearningCall.again {call : LearningCall} (h : LearningRows db.nextId db.tables.domain)
    (hrun : call.run db = .ok (id, db'))
    (hkeeps : KeepsResults db'.tables.domain db''.tables.domain) : call.run db'' = .ok (id, db'') := by
  have h' := call.rows h hrun
  cases call with
  | interpret now scope metricVersionId =>
      exact interpret_again h' (ensures_interpretCheckpoint now scope metricVersionId db _ _ hrun)
        hkeeps now
  | learn now scope experimentResultId =>
      exact learn_again h' (ensures_createGovernedLearning now scope experimentResultId db _ _ hrun)
        hkeeps now

/-- A step of a run of calls. -/
theorem learningCall_step (call : LearningCall) (h : LearningRows db.nextId db.tables.domain) :
    LearningRows (call.step db).nextId (call.step db).tables.domain ∧
      KeepsResults db.tables.domain (call.step db).tables.domain := by
  rw [LearningCall.step]
  split
  next db' hdb' =>
    obtain ⟨id, hrun⟩ := exec_eq_ok_iff.mp hdb'
    exact ⟨call.rows h hrun, call.keeps hrun⟩
  next => exact ⟨h, refl _⟩

theorem learningRows_run (h : LearningRows db.nextId db.tables.domain) (calls : List LearningCall) :
    LearningRows (run LearningCall.step db calls).nextId
      (run LearningCall.step db calls).tables.domain :=
  invariant_run_of_step _
    (I := fun db : AgentDatabase M AnalyticsTables => LearningRows db.nextId db.tables.domain)
    (fun _ call h => (learningCall_step call h).1) h calls

theorem keepsResults_run (h : LearningRows db.nextId db.tables.domain) (calls : List LearningCall) :
    KeepsResults db.tables.domain (run LearningCall.step db calls).tables.domain := by
  refine relation_run
    (I := fun db : AgentDatabase M AnalyticsTables => LearningRows db.nextId db.tables.domain)
    (R := fun db db' : AgentDatabase M AnalyticsTables =>
      KeepsResults db.tables.domain db'.tables.domain)
    (fun _ => refl _) (fun _ _ _ => trans_of KeepsResults)
    (fun _ call h _ => (learningCall_step call h).1) (fun _ call h _ => (learningCall_step call h).2)
    h (guarded_of_forall (G := fun _ _ => True) (fun _ _ => trivial) db calls)

end Calls

/-! ## Once -/

/-- Before any call: no results, no reviews and no learnings. -/
structure LearningStart (t : AnalyticsTables) : Prop where
  results : t.experimentResults = []
  details : t.experimentResultDetails = []
  reviews : t.learningControllerReviews = []
  learnings : t.learnings = []
  learningDetails : t.learningDetails = []

theorem LearningStart.rows {t : AnalyticsTables} (h : LearningStart t) (nextId : Id) :
    LearningRows nextId t := by
  constructor <;> simp [h.results, h.details, h.reviews, h.learnings, h.learningDetails,
    Table.issued_nil, Table.keysNodup_nil]

/-- After every sequence of calls: an Experiment has at most one result, of the class that its
checkpoint assigns to the metric version; a result has at most one learning, with the three reviews; a
call that is repeated returns the same row and writes nothing; a call that raises writes nothing. -/
theorem interpretation_once {db₀ : AgentDatabase M AnalyticsTables}
    (h₀ : LearningStart db₀.tables.domain) (calls : List LearningCall) :
    let db := run LearningCall.step db₀ calls
    let t := db.tables.domain
    Table.KeysNodup ExperimentResult.experimentId t.experimentResults ∧
    (t.experimentResultDetails.map ExperimentResultDetail.experimentResultId =
        t.experimentResults.map ExperimentResult.id ∧
      ∀ detail ∈ t.experimentResultDetails, detail.Classifies t ∧
        ∀ metric, Table.find MetricVersion.id detail.metricVersionId t.metricVersions = some metric →
          (detail.resultClass = .insufficientData ↔
            ¬ (metric.availabilityStatus = .available ∧ metric.coverageStatus = .complete))) ∧
    (Table.KeysNodup LearningDetail.experimentResultId t.learningDetails ∧
      t.learningDetails.map LearningDetail.learningId = t.learnings.map Learning.id ∧
      ∀ detail ∈ t.learningDetails, detail.Reviewed t) ∧
    (∀ (call : LearningCall) id db', call.run db = .ok (id, db') →
      ∀ more, KeepsResults db'.tables.domain (run LearningCall.step db' more).tables.domain ∧
        call.run (run LearningCall.step db' more) = .ok (id, run LearningCall.step db' more)) ∧
    ∀ (call : LearningCall) error, exec call.run db = .error error → call.step db = db := by
  intro db t
  have h := learningRows_run (h₀.rows db₀.nextId) calls
  refine ⟨h.experiments, ⟨h.detailed, fun detail hdetail => ⟨h.classified detail hdetail, ?_⟩⟩,
    ⟨h.once, h.learned, h.reviewed⟩, fun call id db' hrun more => ?_, fun call error herror => ?_⟩
  · intro metric hmetric
    obtain ⟨result, -, found, checkpoint, hfound, -, -, -, -, -, hclass⟩ :=
      h.classified detail hdetail
    obtain rfl : metric = found := Option.some.inj (hmetric.symm.trans hfound)
    exact resultClass_eq_insufficientData_iff hclass
  · have hkeeps := keepsResults_run (call.rows h hrun) more
    exact ⟨hkeeps, call.again h hrun hkeeps⟩
  · rw [LearningCall.step, herror]

/-! ### Two interpretations of one metric -/

/-- The metric of the post is interpreted and its result learned from, twice. -/
def interpretedTwice : List LearningCall :=
  [.interpret hour demoScope 19, .learn hour demoScope 23, .interpret hour demoScope 19,
    .learn hour demoScope 23]

theorem interpreted_twice_once :
    let t := (run LearningCall.step (run (analyticsApp plainDigest plainHash).step analyticsStart
      (calculatedAfter [])).db interpretedTwice).tables.domain
    t.experimentResults.length = 1 ∧ t.learnings.length = 1 ∧
      ∀ detail ∈ t.learningDetails, detail.Reviewed t := by
  refine ⟨by decide +kernel, by decide +kernel, ?_⟩
  refine (interpretation_once ?_ interpretedTwice).2.2.1.2.2
  constructor <;> decide +kernel

end LaunchOS.Analytics
