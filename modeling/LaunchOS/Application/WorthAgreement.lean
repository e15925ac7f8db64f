import LaunchOS.Application.ControllerGate

/-!
# Readiness and governance of the controller reviews

A run of the constitutional controller is ready if the detector of the workflow finds nothing or the
run blocks; the outcome of the reviews asks the same of the directional detector of the governance
rules. The two detectors differ.

The module introduces:

* `readyRun_of_runState`, `readyOutput_of_readyRun`: what a run that is ready has;
* `Judged`: the reviews that are made of ready runs carry the verdicts of these;
* `governed_outcome_iff`: when the outcome of reviews that are ready is a verdict;
* a candidate for which it is not.
-/

namespace LaunchOS

open Txn DecisionWorkflow

variable {M α : Type}

/-! ## Runs that are ready -/

namespace RunRole

variable {role : RunRole M α} {w : DecisionWorkflow} {runs : List (AgentRun M)}

theorem firstReady_of_anyM (h : runs.anyM role.canMaterialize = .ok true) :
    ∃ run, role.firstReady runs = .ok (some run) ∧ role.canMaterialize run = .ok true := by
  induction runs with
  | nil => cases h
  | cons run runs ih =>
      rw [List.anyM] at h
      obtain ⟨ready, hready, h⟩ := Except.bind_eq_ok_iff.mp h
      cases ready with
      | true =>
          refine ⟨run, ?_, hready⟩
          rw [firstReady, hready]
          rfl
      | false =>
          obtain ⟨found, hfound, hmaterialize⟩ := ih h
          refine ⟨found, ?_, hmaterialize⟩
          rw [firstReady, hready]
          exact hfound

/-- A stage that is ready has a run for its rows. -/
theorem readyRun_of_runState (h : role.runState w runs = .ok .ready) :
    ∃ run, role.readyRun w runs = .ok run ∧ role.canMaterialize run = .ok true := by
  unfold runState at h
  dsimp only at h
  split at h
  next => cases h
  next =>
    obtain ⟨ready, hready, h⟩ := Except.bind_eq_ok_iff.mp h
    cases ready with
    | false =>
        obtain ⟨_, -, h⟩ := Except.bind_eq_ok_iff.mp h
        cases h
    | true =>
        obtain ⟨run, hfirst, hmaterialize⟩ := firstReady_of_anyM hready
        refine ⟨run, ?_, hmaterialize⟩
        unfold readyRun
        dsimp only
        rw [hfirst]
        rfl

/-- A run that can be materialized has an output that passes the check. -/
theorem readyOutput_of_readyRun {run : AgentRun M} (h : role.readyRun w runs = .ok run)
    (hmaterialize : role.canMaterialize run = .ok true) :
    ∃ data output, run.outputData = some data ∧ role.check run data = .ok output ∧
      role.readyOutput w runs = .ok (run, output) := by
  unfold canMaterialize at hmaterialize
  split at hmaterialize
  next data hstatus hdata =>
    cases hcheck : role.check run data with
    | error error =>
        rw [hcheck] at hmaterialize
        dsimp only at hmaterialize
        split at hmaterialize <;> cases hmaterialize
    | ok output =>
        refine ⟨data, output, hdata, hcheck, ?_⟩
        unfold readyOutput
        rw [h]
        dsimp only [bind, Except.bind]
        rw [hstatus, hdata]
        dsimp only
        rw [hcheck]
        rfl
  next => cases hmaterialize

end RunRole

/-- The checks of a controller's runs read the snapshots and nothing else of the tables. -/
theorem controllerRole_congr (R : RunReader M) (w : DecisionWorkflow) {t t' : DecisionTables}
    (h : t'.businessSnapshots = t.businessSnapshots) (candidate : DecisionCandidate)
    (controllerType : String) :
    controllerRole R w t' candidate controllerType = controllerRole R w t candidate controllerType := by
  simp only [controllerRole, DecisionWorkflow.validateEvidenceRefs, agentRunEvidenceRefStatuses,
    snapshotEvidenceRefStatuses, snapshotOf, h]

/-! ## Reviews of runs that are ready -/

section Judged

variable (R : RunReader M) (now : Time) (answer : DecisionAnswer) (w : DecisionWorkflow)
variable (candidate : DecisionCandidate) (db : AgentDatabase M DecisionTables)

/-- The verdict of the run that the review of a controller is made of. -/
def readyVerdict (controllerType : String) : Except JobError ControllerVerdict := do
  let (_, output) ← (controllerRole R w db.tables.domain candidate controllerType).readyOutput w
    db.tables.agentRuns
  return output.verdict

/-- The reviews of the controllers `done` have been made, with the verdicts of their runs. -/
structure Judged (done : List String) (reviews : List ControllerReview)
    (db' : AgentDatabase M DecisionTables) : Prop where
  agentRuns : db'.tables.agentRuns = db.tables.agentRuns
  domain : db'.tables.domain = { db.tables.domain with
    controllerReviews := db.tables.domain.controllerReviews ++ reviews }
  bound : ∀ review ∈ reviews, review.decisionCandidateId = candidate.id
  types : reviews.map ControllerReview.controllerType = done
  verdicts : ∀ review ∈ reviews,
    readyVerdict R w candidate db review.controllerType = .ok review.verdict

variable {R w candidate db}

/-- The round of a controller that is ready and has not been asked yet. -/
theorem Judged.next (htrace : answer.trace = .ok ())
    (hnone : db.tables.domain.reviewsOf candidate.id = []) {controllerType : String}
    (hready : (controllerRole R w db.tables.domain candidate controllerType).runState w
      db.tables.agentRuns = .ok .ready)
    {done : List String} {reviews : List ControllerReview}
    {db₁ : AgentDatabase M DecisionTables} (h : Judged R w candidate db done reviews db₁)
    (hdone : controllerType ∉ done) :
    Achieves (materializeControllerReview R answer w candidate controllerType)
      (fun review => Judged R w candidate db (done ++ [controllerType]) (reviews ++ [review]))
      db₁ := by
  obtain ⟨run, hrun, hmaterialize⟩ := RunRole.readyRun_of_runState hready
  obtain ⟨data, output, -, -, houtput⟩ := RunRole.readyOutput_of_readyRun hrun hmaterialize
  have hverdict : readyVerdict R w candidate db controllerType = .ok output.verdict := by
    rw [readyVerdict, houtput]
    rfl
  rw [materializeControllerReview, achieves_bind, achieves_tables]
  have hfind : (db₁.tables.domain.controllerReviews.find? fun review =>
      review.decisionCandidateId = candidate.id && review.controllerType = controllerType) =
        none := by
    rw [List.find?_eq_none, h.domain]
    intro review hreview hsame
    simp only [Bool.and_eq_true, decide_eq_true_eq] at hsame
    rcases List.mem_append.mp hreview with hreview | hreview
    · have hmem : review ∈ db.tables.domain.reviewsOf candidate.id :=
        List.mem_filter.mpr ⟨hreview, decide_eq_true hsame.1⟩
      rw [hnone] at hmem
      cases hmem
    · refine hdone ?_
      rw [← h.types, ← hsame.2]
      exact List.mem_map_of_mem hreview
  rw [hfind]
  dsimp only
  have hrole : controllerRole R w db₁.tables.domain candidate controllerType =
      controllerRole R w db.tables.domain candidate controllerType :=
    controllerRole_congr R w (by rw [h.domain]) candidate controllerType
  rw [achieves_bind, achieves_agentRuns, achieves_bind, achieves_check, hrole, h.agentRuns]
  refine ⟨(run, output), houtput, ?_⟩
  dsimp only
  rw [achieves_bind, achieves_check]
  refine ⟨(), htrace, ?_⟩
  rw [achieves_bind, achieves_newId, achieves_bind, achieves_modifyTables, achieves_pure]
  refine ⟨h.agentRuns, ?_, ?_, ?_, ?_⟩
  · simp only [Database.applyJobOp, h.domain, List.append_assoc]
  · intro review hreview
    rcases List.mem_append.mp hreview with hreview | hreview
    · exact h.bound review hreview
    · rw [List.mem_singleton.mp hreview]
  · rw [List.map_append, h.types, List.map_singleton]
  · intro review hreview
    rcases List.mem_append.mp hreview with hreview | hreview
    · exact h.verdicts review hreview
    · rw [List.mem_singleton.mp hreview]
      exact hverdict

/-- The reviews of a candidate whose controllers are all ready. -/
theorem achieves_materializeControllerReviews (htrace : answer.trace = .ok ())
    (hnone : db.tables.domain.reviewsOf candidate.id = [])
    (hready : ∀ controllerType ∈ requiredControllerTypes,
      (controllerRole R w db.tables.domain candidate controllerType).runState w
        db.tables.agentRuns = .ok .ready) :
    Achieves (materializeControllerReviews R answer w candidate) (fun reviews _ =>
      reviews.map ControllerReview.controllerType = requiredControllerTypes ∧
      ∀ review ∈ reviews,
        readyVerdict R w candidate db review.controllerType = .ok review.verdict) db := by
  have hnodup : requiredControllerTypes.Nodup := by decide
  have hloop : Achieves (requiredControllerTypes.foldlM (fun reviews type => do
      return reviews ++ [← materializeControllerReview R answer w candidate type]) [])
      (Judged R w candidate db requiredControllerTypes) db := by
    refine Achieves.foldlM_prefix (I := Judged R w candidate db) ?_ ?_
    · intro pre type post heq reviews db₁ h
      rw [achieves_bind]
      have htype : type ∈ requiredControllerTypes := by
        rw [heq]
        exact List.mem_append_right _ List.mem_cons_self
      have hdone : type ∉ pre := by
        rw [heq, List.nodup_append] at hnodup
        exact fun hpre => hnodup.2.2 type hpre type List.mem_cons_self rfl
      refine (h.next answer htrace hnone (hready type htype) hdone).mono fun review db₂ h₂ => ?_
      rw [achieves_pure]
      exact h₂
    · exact ⟨rfl, by simp, by simp, rfl, by simp⟩
  rw [materializeControllerReviews, achieves_bind]
  refine hloop.mono fun reviews db₁ h => ?_
  rw [achieves_bind, achieves_modifyTables, achieves_pure]
  exact ⟨h.types, h.verdicts⟩

end Judged

/-! ## The outcome -/

/-- What the outcome of some reviews asks of them. -/
theorem exists_governedControllerOutcome_iff {candidate : DecisionCandidate}
    {reviews : List ControllerReview} :
    (∃ verdict, governedControllerOutcome candidate reviews = .ok verdict) ↔
      (WorthMapping.containsHumanWorthViolation candidate.payload.texts = true →
        ((reviewByType "constitutional" reviews).any fun review => review.verdict = .block) =
          true) := by
  constructor
  · rintro ⟨verdict, h⟩
    obtain ⟨_, hrequire, -⟩ := Except.bind_eq_ok_iff.mp h
    exact require_eq_ok_iff.mp hrequire
  · intro h
    unfold governedControllerOutcome
    rw [show require _ _ = .ok () from require_eq_ok_iff.mpr h]
    exact ⟨_, rfl⟩

section Outcome

variable {R : RunReader M} {w : DecisionWorkflow} {candidate : DecisionCandidate}
variable {db : AgentDatabase M DecisionTables}

/-- The constitutional run is only ready without a block if the detector finds nothing. -/
theorem readyVerdict_of_violation
    (hready : (controllerRole R w db.tables.domain candidate "constitutional").runState w
      db.tables.agentRuns = .ok .ready)
    (h : DecisionWorkflow.containsHumanWorthViolation candidate.payload.texts = true) :
    readyVerdict R w candidate db "constitutional" = .ok .block := by
  obtain ⟨run, hrun, hmaterialize⟩ := RunRole.readyRun_of_runState hready
  obtain ⟨data, output, -, hcheck, houtput⟩ := RunRole.readyOutput_of_readyRun hrun hmaterialize
  obtain ⟨parsed, -, hcheck⟩ := Except.bind_eq_ok_iff.mp hcheck
  obtain ⟨_, -, hcheck⟩ := Except.bind_eq_ok_iff.mp hcheck
  obtain ⟨_, -, hcheck⟩ := Except.bind_eq_ok_iff.mp hcheck
  obtain ⟨_, hverdict, hcheck⟩ := Except.bind_eq_ok_iff.mp hcheck
  obtain rfl := Except.pure_eq_ok_iff.mp hcheck
  obtain ⟨_, hverdict, -⟩ := Except.bind_eq_ok_iff.mp hverdict
  have hblock : parsed.verdict = .block := by
    by_contra hne
    exact require_eq_ok_iff.mp hverdict ⟨rfl, h, hne⟩
  rw [readyVerdict, houtput]
  exact congrArg Except.ok hblock

/-- The constitutional review among the seven. -/
theorem reviewByType_constitutional {reviews : List ControllerReview}
    (htypes : reviews.map ControllerReview.controllerType = requiredControllerTypes)
    (hverdicts : ∀ review ∈ reviews,
      readyVerdict R w candidate db review.controllerType = .ok review.verdict) :
    ((reviewByType "constitutional" reviews).any fun review => review.verdict = .block) = true ↔
      readyVerdict R w candidate db "constitutional" = .ok .block := by
  have hmem : "constitutional" ∈ reviews.map ControllerReview.controllerType := by
    rw [htypes]
    decide
  obtain ⟨review, hreview, htype⟩ := List.mem_map.mp hmem
  have hfound : (reviewByType "constitutional" reviews).isSome := by
    rw [reviewByType, List.find?_isSome]
    exact ⟨review, List.mem_reverse.mpr hreview, by simp [htype]⟩
  obtain ⟨found, hfound⟩ := Option.isSome_iff_exists.mp hfound
  have hsame : found.controllerType = "constitutional" := by
    simpa using List.find?_some hfound
  have hverdict := hverdicts found (List.mem_reverse.mp (List.mem_of_find?_eq_some hfound))
  rw [hfound, Option.any_some, decide_eq_true_eq, ← hsame, hverdict]
  exact ⟨congrArg Except.ok, Except.ok.inj⟩

/-- When the runs of all controllers are ready, their reviews have an outcome if and only if the
directional detector finds nothing, or the other one does, or the constitutional run blocks. -/
theorem governed_outcome_iff (R : RunReader M) (answer : DecisionAnswer) (w : DecisionWorkflow)
    (candidate : DecisionCandidate) (db : AgentDatabase M DecisionTables)
    (htrace : answer.trace = .ok ())
    (hnone : db.tables.domain.reviewsOf candidate.id = [])
    (hready : ∀ controllerType ∈ requiredControllerTypes,
      (controllerRole R w db.tables.domain candidate controllerType).runState w
        db.tables.agentRuns = .ok .ready) :
    (∃ verdict db', (do
        let reviews ← materializeControllerReviews R answer w candidate
        DomainTxn.check (governedControllerOutcome candidate reviews) :
          DecisionTxn M ControllerVerdict) db = .ok (verdict, db')) ↔
      (WorthMapping.containsHumanWorthViolation candidate.payload.texts = false ∨
        DecisionWorkflow.containsHumanWorthViolation candidate.payload.texts = true ∨
        readyVerdict R w candidate db "constitutional" = .ok .block) := by
  have hreviews := achieves_materializeControllerReviews answer htrace hnone hready
  have hready := hready "constitutional" (by decide)
  constructor
  · rintro ⟨verdict, db', h⟩
    have hdone : Achieves (do
        let reviews ← materializeControllerReviews R answer w candidate
        DomainTxn.check (governedControllerOutcome candidate reviews) :
          DecisionTxn M ControllerVerdict) (fun _ _ => True) db := ⟨verdict, db', h, trivial⟩
    rw [achieves_bind] at hdone
    obtain ⟨reviews, db₁, hmade, houtcome⟩ := hdone
    obtain ⟨htypes, hverdicts⟩ := hreviews.ensures reviews db₁ hmade
    obtain ⟨verdict, hok, -⟩ := achieves_check.mp houtcome
    rw [← reviewByType_constitutional htypes hverdicts]
    have hblock := exists_governedControllerOutcome_iff.mp ⟨verdict, hok⟩
    cases hviolation : WorthMapping.containsHumanWorthViolation candidate.payload.texts with
    | false => exact .inl rfl
    | true => exact .inr (.inr (hblock hviolation))
  · intro h
    have hdone : Achieves (do
        let reviews ← materializeControllerReviews R answer w candidate
        DomainTxn.check (governedControllerOutcome candidate reviews) :
          DecisionTxn M ControllerVerdict) (fun _ _ => True) db := by
      rw [achieves_bind]
      refine hreviews.mono ?_
      rintro reviews db₁ ⟨htypes, hverdicts⟩
      rw [achieves_check]
      have hexists : ∃ verdict, governedControllerOutcome candidate reviews = .ok verdict := by
        rw [exists_governedControllerOutcome_iff, reviewByType_constitutional htypes hverdicts]
        intro hviolation
        rcases h with hclean | hdetected | hblock
        · rw [hclean] at hviolation
          cases hviolation
        · exact readyVerdict_of_violation hready hdetected
        · exact hblock
      obtain ⟨verdict, hok⟩ := hexists
      exact ⟨verdict, hok, trivial⟩
    obtain ⟨verdict, db', hok, -⟩ := hdone
    exact ⟨verdict, db', hok⟩

end Outcome

/-! ### A candidate that is ready and has no outcome -/

/-- Every output is a review, and every run has been shown one fact. -/
def reviewReader : RunReader ControllerReviewOutput where
  specialistContribution _ := none
  decisionCandidate _ := none
  controllerReview := some
  contentStrategyProposal _ := none
  assetDraftProposal _ := none
  contextManifest _ := [{ epistemicStatus := some "FACT", provenanceRef := some "fact" }]

/-- The workflow of the runs below. -/
def reviewedWorkflow : DecisionWorkflow where
  id := 0
  scope := ⟨"organization", "business"⟩
  launchId := none
  snapshotId := 1
  status := .controllersRunning
  maxRevisionRounds := 2

/-- A candidate with the given goal. -/
def candidateWithGoal (goal : String) : DecisionCandidate where
  id := 2
  scope := ⟨"organization", "business"⟩
  workflowId := 0
  snapshotId := 1
  chiefAgentRunId := 3
  previousCandidateId := none
  versionNumber := 1
  revisionRound := 0
  selectedAction := "Publish a post."
  payload := {
    goal := goal
    problem := "Few readers."
    selectedAction := "Publish a post."
    why := []
    alternatives := []
    expectedEffect := "More readers."
    reversibility := "easy"
    riskClass := .low
    nextCheckpoint := "In a week." }
  specialistContributionIds := []
  contextManifest := []

/-- All controllers have answered `PASS`. -/
def passedReviews (candidate : DecisionCandidate) :
    AgentDatabase ControllerReviewOutput DecisionTables where
  tables := {
    domain := { decisionWorkflows := [reviewedWorkflow], decisionCandidates := [candidate] }
    agentRuns := requiredControllerTypes.map fun controllerType => {
      id := 4
      scope := ⟨"organization", "business"⟩
      contractKey := controllerContractKey controllerType
      contractVersion := 1
      status := .succeeded
      inputRef := some (controllerRunInputRef reviewedWorkflow 1
        (controllerContractKey controllerType))
      outputData := some {
        controllerType := controllerType
        verdict := .pass
        evidenceRefs := [⟨"fact", .fact, ""⟩] }
      idempotencyKey := none } }

theorem results_prove_worth_has_no_outcome :
    let candidate := candidateWithGoal "Results prove your worth."
    let db := passedReviews candidate
    (∀ controllerType ∈ requiredControllerTypes,
      (controllerRole reviewReader reviewedWorkflow db.tables.domain candidate
        controllerType).runState reviewedWorkflow db.tables.agentRuns = .ok .ready) ∧
      ((do
        let reviews ← materializeControllerReviews reviewReader {} reviewedWorkflow candidate
        DomainTxn.check (governedControllerOutcome candidate reviews) :
          DecisionTxn ControllerReviewOutput ControllerVerdict) db).isOk = false := by
  decide +kernel

theorem plain_goal_has_outcome :
    ∃ verdict db', (do
        let reviews ← materializeControllerReviews reviewReader {} reviewedWorkflow
          (candidateWithGoal "More readers.")
        DomainTxn.check (governedControllerOutcome (candidateWithGoal "More readers.") reviews) :
          DecisionTxn ControllerReviewOutput ControllerVerdict)
      (passedReviews (candidateWithGoal "More readers.")) = .ok (verdict, db') :=
  (governed_outcome_iff reviewReader {} reviewedWorkflow (candidateWithGoal "More readers.")
    (passedReviews (candidateWithGoal "More readers.")) rfl rfl (by decide +kernel)).mpr
    (.inl (by decide +kernel))

end LaunchOS
