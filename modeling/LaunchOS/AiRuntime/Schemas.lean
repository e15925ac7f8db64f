import LaunchOS.AiRuntime.AgentRun

/-!
# Structured outputs

The output schemas of the agents, as far as the workflows read them, and the contract keys of the
agents they run.

The module introduces:

* `EvidenceReference`, `ControllerReviewOutput` and the other output models;
* `ControllerVerdict.resolve`: the verdict over several reviews;
* `DecisionCandidateOutput.texts`: the texts `_strings` finds in the payload of a candidate;
* `OutputSchemas`: `model_validate` of each output model, on outputs of an arbitrary type.
-/

namespace LaunchOS

/-- `EpistemicStatus`. -/
inductive EpistemicStatus
  | observation
  | fact
  | derivedFact
  | hypothesis
  | assumption
  | unknown
  | conflict
  | rejected
  | invalidated
deriving DecidableEq, Repr

/-- `ControllerVerdict`. -/
inductive ControllerVerdict
  | pass
  | passWithConditions
  | revise
  | block
deriving DecidableEq, Repr

/-- `ControllerVerdict.value`. -/
def ControllerVerdict.value : ControllerVerdict → String
  | .pass => "PASS"
  | .passWithConditions => "PASS_WITH_CONDITIONS"
  | .revise => "REVISE"
  | .block => "BLOCK"

/-- How the governance rules resolve a list of reviews: `BLOCK` before `REVISE` before a
`PASS_WITH_CONDITIONS` that has mandatory conditions, and `PASS` otherwise. -/
def ControllerVerdict.resolve {α : Type} (verdict : α → ControllerVerdict)
    (mandatory : α → Bool) (reviews : List α) : ControllerVerdict :=
  if reviews.any fun review => verdict review = .block then .block
  else if reviews.any fun review => verdict review = .revise then .revise
  else if reviews.any fun review => verdict review = .passWithConditions && mandatory review then
    .passWithConditions
  else .pass

/-- What a list of reviews has passed with. -/
theorem ControllerVerdict.of_resolve_eq_pass {α : Type} {verdict : α → ControllerVerdict}
    {mandatory : α → Bool} {reviews : List α}
    (h : ControllerVerdict.resolve verdict mandatory reviews = .pass) :
    ∀ review ∈ reviews, verdict review = .pass ∨
      verdict review = .passWithConditions ∧ mandatory review = false := by
  intro review hreview
  unfold ControllerVerdict.resolve at h
  split at h
  next => cases h
  next hblock =>
    split at h
    next => cases h
    next hrevise =>
      split at h
      next => cases h
      next hconditions =>
        simp only [List.any_eq_true, decide_eq_true_eq, Bool.and_eq_true, not_exists,
          not_and] at hblock hrevise hconditions
        cases hverdict : verdict review with
        | pass => exact .inl rfl
        | passWithConditions =>
            exact .inr ⟨rfl, by simpa using hconditions review hreview hverdict⟩
        | revise => exact absurd hverdict (hrevise review hreview)
        | block => exact absurd hverdict (hblock review hreview)

/-- `RiskClass`. -/
inductive RiskClass
  | low
  | medium
  | high
  | unknown
deriving DecidableEq, Repr

/-- `RiskClass.value`. -/
def RiskClass.value : RiskClass → String
  | .low => "LOW"
  | .medium => "MEDIUM"
  | .high => "HIGH"
  | .unknown => "UNKNOWN"

/-- `EvidenceReference`. -/
structure EvidenceReference where
  evidenceId : String
  epistemicStatus : EpistemicStatus
  note : String
deriving DecidableEq, Repr

/-- `EpistemicStatus.value`. -/
def EpistemicStatus.value : EpistemicStatus → String
  | .observation => "OBSERVATION"
  | .fact => "FACT"
  | .derivedFact => "DERIVED_FACT"
  | .hypothesis => "HYPOTHESIS"
  | .assumption => "ASSUMPTION"
  | .unknown => "UNKNOWN"
  | .conflict => "CONFLICT"
  | .rejected => "REJECTED"
  | .invalidated => "INVALIDATED"

/-- `HypothesisStatement` and `AssumptionStatement`, less their confidence. -/
structure BeliefStatement where
  statement : String
  evidenceRef : Option String := none
deriving DecidableEq, Repr

/-- `UnknownStatement`. -/
structure UnknownStatement where
  question : String
  critical : Bool := false
deriving DecidableEq, Repr

/-- The statuses that `facts_used` may have. -/
def EpistemicStatus.factLike : EpistemicStatus → Bool
  | .observation | .fact | .derivedFact => true
  | _ => false

theorem EpistemicStatus.factLike_fact : EpistemicStatus.fact.factLike = true := rfl

/-- `FactUsage`. -/
structure FactUsage where
  statement : String
  evidenceRef : String
  epistemicStatus : EpistemicStatus
  /-- `_must_be_fact_like` -/
  fact_like : epistemicStatus.factLike = true
deriving DecidableEq, Repr

/-- `SpecialistContribution`, less what is only stored. -/
structure SpecialistContributionOutput where
  role : String
  factsUsed : List FactUsage := []
  evidenceRefs : List EvidenceReference := []
  /-- `_evidence_refs_cover_facts` -/
  facts_covered : ∀ fact ∈ factsUsed,
    fact.evidenceRef ∈ evidenceRefs.map EvidenceReference.evidenceId := by decide
deriving DecidableEq, Repr

/-- `DecisionAlternativeOutput`. -/
structure DecisionAlternativeOutput where
  action : String
  rejectionReason : String
deriving DecidableEq, Repr

/-- `ExperimentProposal`. -/
structure ExperimentProposal where
  hypothesis : String
  baseline : String
  segment : String
  treatment : String
  metric : String
  window : String
  attributionMethod : String
  successThreshold : String
  weakSignalThreshold : String
  failureThreshold : String
  nextActionOnSuccess : String
  nextActionOnWeakSignal : String
  nextActionOnFailure : String
deriving DecidableEq, Repr

/-- `DecisionCandidate`, less its confidence. -/
structure DecisionCandidateOutput where
  goal : String
  problem : String
  selectedAction : String
  why : List String
  evidenceRefs : List EvidenceReference := []
  alternatives : List DecisionAlternativeOutput
  whyAlternativesNotSelected : List String := []
  hypotheses : List BeliefStatement := []
  assumptions : List BeliefStatement := []
  unknowns : List UnknownStatement := []
  expectedEffect : String
  reversibility : String
  riskClass : RiskClass
  experimentProposal : Option ExperimentProposal := none
  requiredAssets : List String := []
  requiredActions : List String := []
  nextCheckpoint : String
deriving DecidableEq, Repr

/-- The texts in a payload of `EvidenceReference.model_dump`. -/
def EvidenceReference.texts (ref : EvidenceReference) : List String :=
  [ref.evidenceId, ref.epistemicStatus.value, ref.note]

/-- The texts in a payload of `HypothesisStatement.model_dump`. -/
def BeliefStatement.texts (belief : BeliefStatement) : List String :=
  belief.statement :: belief.evidenceRef.toList

/-- The texts in a payload of `ExperimentProposal.model_dump`. -/
def ExperimentProposal.texts (p : ExperimentProposal) : List String :=
  [p.hypothesis, p.baseline, p.segment, p.treatment, p.metric, p.window, p.attributionMethod,
    p.successThreshold, p.weakSignalThreshold, p.failureThreshold, p.nextActionOnSuccess,
    p.nextActionOnWeakSignal, p.nextActionOnFailure]

/-- `_strings(candidate.payload)`, for the payload `DecisionCandidate.model_dump` makes. -/
def DecisionCandidateOutput.texts (c : DecisionCandidateOutput) : List String :=
  ["DecisionCandidate", c.goal, c.problem, c.selectedAction] ++ c.why ++
    c.evidenceRefs.flatMap EvidenceReference.texts ++
    c.alternatives.flatMap (fun a => [a.action, a.rejectionReason]) ++
    c.whyAlternativesNotSelected ++ c.hypotheses.flatMap BeliefStatement.texts ++
    c.assumptions.flatMap BeliefStatement.texts ++ c.unknowns.map UnknownStatement.question ++
    [c.expectedEffect, c.reversibility, c.riskClass.value] ++
    c.experimentProposal.toList.flatMap ExperimentProposal.texts ++
    c.requiredAssets ++ c.requiredActions ++ [c.nextCheckpoint]

/-- `ControllerReviewOutput`. -/
structure ControllerReviewOutput where
  controllerType : String
  verdict : ControllerVerdict
  issues : List String := []
  requiredChanges : List String := []
  severity : RiskClass := .low
  evidenceRefs : List EvidenceReference := []
deriving DecidableEq, Repr

/-- `ContentStrategyProposal`, less what is only stored. -/
structure ContentStrategyProposal where
  objective : String
  evidenceRefs : List EvidenceReference := []
deriving DecidableEq, Repr

/-- The `claim_type` of a `ClaimInventoryItem`. -/
inductive ClaimType
  | factual
  | quantitative
  | testimonial
  | result
  | promotional
deriving DecidableEq, Repr

/-- `ClaimInventoryItem`. -/
structure ClaimInventoryItem where
  text : String
  claimType : ClaimType
  requiresEvidence : Bool
  evidenceRef : Option String := none
deriving DecidableEq, Repr

/-- The `origin` of a `RightsProvenanceDeclaration`. -/
inductive RightsOrigin
  | generated
  | userProvided
  | licensed
  | derived
deriving DecidableEq, Repr

/-- `RightsProvenanceDeclaration`, less what is only stored. -/
structure RightsProvenanceDeclaration where
  origin : RightsOrigin
  permissionScope : Option String := none
  customerContentConsentRef : Option String := none
  publicationRestrictions : List String := []
  licenseExpiresAt : Option String := none
deriving DecidableEq, Repr

/-- `AssetDraftProposal`, less what is only stored. -/
structure AssetDraftProposal where
  body : String
  claimInventory : List ClaimInventoryItem := []
  evidenceRefs : List EvidenceReference := []
  rights : RightsProvenanceDeclaration
deriving DecidableEq, Repr

/-- `model_validate` of each output model; `none` is a `ValidationError`. -/
structure OutputSchemas (M : Type) where
  specialistContribution : M → Option SpecialistContributionOutput
  decisionCandidate : M → Option DecisionCandidateOutput
  controllerReview : M → Option ControllerReviewOutput
  contentStrategyProposal : M → Option ContentStrategyProposal
  assetDraftProposal : M → Option AssetDraftProposal

/-- Schemas that no output meets. -/
def noSchemas : OutputSchemas Unit where
  specialistContribution _ := none
  decisionCandidate _ := none
  controllerReview _ := none
  contentStrategyProposal _ := none
  assetDraftProposal _ := none

/-! ## Contract keys -/

/-- `SPECIALIST_CONTRACT_KEYS`. -/
def specialistContractKeys : List String :=
  ["ai.specialist.audience_intelligence", "ai.specialist.revenue_funnel_strategist",
    "ai.specialist.launch_strategist"]

/-- `CHIEF_GROWTH_PRODUCER_CONTRACT_KEY`. -/
def chiefGrowthProducerContractKey : String := "ai.chief.growth_producer"

/-- The controller types of `REQUIRED_CONTROLLER_CONTRACT_KEYS`. -/
def requiredControllerTypes : List String :=
  ["evidence", "strategy_red_team", "constitutional", "decision_quality", "economics",
    "manipulation", "anti_analysis_paralysis"]

/-- `ai.controller.{controller_type}`. -/
def controllerContractKey (controllerType : String) : String :=
  "ai.controller." ++ controllerType

/-- `CONTENT_DIRECTOR_CONTRACT_KEY`. -/
def contentDirectorContractKey : String := "ai.production.content_director"

/-- `TELEGRAM_WRITER_CONTRACT_KEY`. -/
def telegramWriterContractKey : String := "ai.production.telegram_writer"

/-- The controller types of `REQUIRED_ASSET_CONTROLLER_CONTRACT_KEYS`. -/
def requiredAssetControllerTypes : List String :=
  ["evidence", "brand", "constitutional", "manipulation", "legal_claims", "production_quality",
    "rights_provenance"]

/-- `ai.controller.asset_{controller_type}`. -/
def assetControllerContractKey (controllerType : String) : String :=
  "ai.controller.asset_" ++ controllerType

end LaunchOS
