import LaunchOS.Application.WorthAgreement

/-!
# The order of objections

Verdicts are ordered by severity, and the outcome of the reviews is the highest obligation that one of
them leaves. One review may be left out: that of the anti-analysis-paralysis controller, when all it
asks of a candidate of low risk is more information. It is left out as a `BLOCK` or a `REVISE`, but
not as a `PASS_WITH_CONDITIONS`, so that a stronger objection can weigh less.

The module introduces:

* `ControllerVerdict.severity`, `severity_resolve`: the order, and the outcome as a highest obligation;
* `Exempt`, `ControllerReview.weight`: what a review contributes to the outcome;
* `Withdraws`: a stronger objection that takes its conditions back;
* `outcome_monotone_iff`: every other one makes the outcome no less severe;
* a review that asks for information, once with a condition and once for a revision.
-/

namespace LaunchOS

open DecisionWorkflow

/-! ## Severity -/

namespace ControllerVerdict

/-- `PASS < PASS_WITH_CONDITIONS < REVISE < BLOCK`. -/
def severity : ControllerVerdict → ℕ
  | .pass => 0
  | .passWithConditions => 1
  | .revise => 2
  | .block => 3

theorem severity_injective : Function.Injective severity := by
  intro a b h
  cases a <;> cases b <;> first | rfl | cases h

/-- A conditional pass without a mandatory condition obliges to nothing. -/
def obligation (mandatory : Bool) : ControllerVerdict → ℕ
  | .passWithConditions => if mandatory then 1 else 0
  | verdict => verdict.severity

theorem obligation_mono {mandatory : Bool} {verdict verdict' : ControllerVerdict}
    (h : verdict.severity ≤ verdict'.severity) :
    verdict.obligation mandatory ≤ verdict'.obligation mandatory := by
  cases verdict <;> cases verdict' <;> cases mandatory <;> revert h <;> decide

theorem obligation_le_severity (mandatory : Bool) (verdict : ControllerVerdict) :
    verdict.obligation mandatory ≤ verdict.severity := by
  cases verdict <;> cases mandatory <;> decide

/-- What each of several reviews obliges to. -/
def obligationOf {α : Type} (verdict : α → ControllerVerdict) (mandatory : α → Bool) (review : α) :
    ℕ :=
  (verdict review).obligation (mandatory review)

/-- The outcome is the highest obligation. -/
theorem severity_resolve {α : Type} (verdict : α → ControllerVerdict) (mandatory : α → Bool)
    (reviews : List α) :
    (resolve verdict mandatory reviews).severity =
      Table.maxOf (obligationOf verdict mandatory) reviews := by
  have hle : ∀ n, (∀ review ∈ reviews, (verdict review).obligation (mandatory review) ≤ n) →
      Table.maxOf (obligationOf verdict mandatory) reviews ≤ n :=
    fun n => Table.maxOf_le_iff.mpr
  have hge : ∀ review ∈ reviews, obligationOf verdict mandatory review ≤
      Table.maxOf (obligationOf verdict mandatory) reviews :=
    fun _ hreview => Table.le_maxOf hreview
  unfold resolve
  split
  next hblock =>
    obtain ⟨review, hreview, hverdict⟩ := List.any_eq_true.mp hblock
    refine le_antisymm ?_ (hle 3 fun review _ => ?_)
    · have h := hge review hreview
      rwa [obligationOf, of_decide_eq_true hverdict] at h
    · exact (obligation_le_severity _ _).trans (by cases verdict review <;> decide)
  next hblock =>
    have hnot : ∀ review ∈ reviews, verdict review ≠ .block := by simpa using hblock
    split
    next hrevise =>
      obtain ⟨review, hreview, hverdict⟩ := List.any_eq_true.mp hrevise
      refine le_antisymm ?_ (hle 2 fun review hreview => ?_)
      · have h := hge review hreview
        rwa [obligationOf, of_decide_eq_true hverdict] at h
      · refine (obligation_le_severity _ _).trans ?_
        have hne := hnot review hreview
        cases hverdict : verdict review <;> first | decide | exact absurd hverdict hne
    next hrevise =>
      have hnot' : ∀ review ∈ reviews, verdict review ≠ .revise := by simpa using hrevise
      have hlow : ∀ review ∈ reviews, verdict review = .pass ∨
          verdict review = .passWithConditions := by
        intro review hreview
        have hne := hnot review hreview
        have hne' := hnot' review hreview
        cases hverdict : verdict review with
        | pass => exact .inl rfl
        | passWithConditions => exact .inr rfl
        | revise => exact absurd hverdict hne'
        | block => exact absurd hverdict hne
      split
      next hconditions =>
        obtain ⟨review, hreview, hverdict⟩ := List.any_eq_true.mp hconditions
        obtain ⟨hverdict, hmandatory⟩ := Bool.and_eq_true_iff.mp hverdict
        refine le_antisymm ?_ (hle 1 fun review hreview => ?_)
        · have h := hge review hreview
          rwa [obligationOf, of_decide_eq_true hverdict, hmandatory] at h
        · refine (obligation_le_severity _ _).trans ?_
          rcases hlow review hreview with hpass | hpass <;> rw [hpass] <;> decide
      next hconditions =>
        refine le_antisymm (Nat.zero_le _) (hle 0 fun review hreview => ?_)
        rcases hlow review hreview with hpass | hpass
        · rw [hpass]
          exact le_rfl
        · have hfree : mandatory review = false := by
            by_contra hmandatory
            refine hconditions (List.any_eq_true.mpr ⟨review, hreview, ?_⟩)
            simpa [hpass] using hmandatory
          rw [hpass, hfree]
          exact le_rfl

end ControllerVerdict

/-! ## The outcome of the reviews -/

namespace DecisionWorkflow

/-- The objection that governance leaves out. -/
structure Exempt (candidate : DecisionCandidate) (review : ControllerReview) : Prop where
  type : review.controllerType = "anti_analysis_paralysis"
  lowRisk : isLowRiskReversibleWithoutCriticalUnknown candidate = true
  verdict : review.verdict = .block ∨ review.verdict = .revise
  missingInfo : missingInfoOnly review = true

instance (candidate : DecisionCandidate) (review : ControllerReview) :
    Decidable (Exempt candidate review) :=
  decidable_of_iff (review.controllerType = "anti_analysis_paralysis" ∧
      isLowRiskReversibleWithoutCriticalUnknown candidate = true ∧
      (review.verdict = .block ∨ review.verdict = .revise) ∧ missingInfoOnly review = true)
    ⟨fun h => ⟨h.1, h.2.1, h.2.2.1, h.2.2.2⟩,
      fun h => ⟨h.type, h.lowRisk, h.verdict, h.missingInfo⟩⟩

/-- What a review obliges to on its own. -/
def obligation (review : ControllerReview) : ℕ :=
  ControllerVerdict.obligationOf ControllerReview.verdict hasMandatoryConditions review

/-- What it contributes to the outcome. -/
def weight (candidate : DecisionCandidate) (review : ControllerReview) : ℕ :=
  if Exempt candidate review then 0 else obligation review

section Outcome

variable {candidate : DecisionCandidate} {reviews : List ControllerReview}
variable {review : ControllerReview} {outcome : ControllerVerdict}

/-- With distinct types, the review of a type is the one that has it. -/
theorem reviewByType_eq_some_iff
    (htypes : Table.KeysNodup ControllerReview.controllerType reviews) {controllerType : String} :
    reviewByType controllerType reviews = some review ↔
      review ∈ reviews ∧ review.controllerType = controllerType := by
  have hreverse : Table.KeysNodup ControllerReview.controllerType reviews.reverse := by
    rw [Table.KeysNodup, List.map_reverse, List.nodup_reverse]
    exact htypes
  exact hreverse.find_eq_some_iff.trans (by rw [List.mem_reverse])

/-- With distinct ids and types, what is left out is the exempt objection and nothing else. -/
theorem ignoredReview_id_iff (hids : Table.KeysNodup ControllerReview.id reviews)
    (htypes : Table.KeysNodup ControllerReview.controllerType reviews) (hreview : review ∈ reviews) :
    some review.id = (ignoredReview candidate reviews).map ControllerReview.id ↔
      Exempt candidate review := by
  constructor
  · intro hid
    obtain ⟨ignored, hignored, hid⟩ := Option.map_eq_some_iff.mp hid.symm
    obtain ⟨hfound, hproperty⟩ := Option.filter_eq_some_iff.mp hignored
    obtain ⟨hmem, htype⟩ := (reviewByType_eq_some_iff htypes).mp hfound
    have hsame : ignored = review := hids.eq_of_key_eq hmem hreview hid
    rw [hsame] at htype hproperty
    simp only [Bool.and_eq_true, Bool.or_eq_true, decide_eq_true_eq] at hproperty
    exact ⟨htype, hproperty.1.1, hproperty.1.2, hproperty.2⟩
  · intro hexempt
    have hfound := (reviewByType_eq_some_iff htypes).mpr ⟨hreview, hexempt.type⟩
    have hignored : ignoredReview candidate reviews = some review := by
      refine Option.filter_eq_some_iff.mpr ⟨hfound, ?_⟩
      simp only [Bool.and_eq_true, Bool.or_eq_true, decide_eq_true_eq]
      exact ⟨⟨hexempt.lowRisk, hexempt.verdict⟩, hexempt.missingInfo⟩
    rw [hignored]
    rfl

/-- The severity of the outcome is the highest weight. -/
theorem severity_outcome (hids : Table.KeysNodup ControllerReview.id reviews)
    (htypes : Table.KeysNodup ControllerReview.controllerType reviews)
    (h : governedControllerOutcome candidate reviews = .ok outcome) :
    outcome.severity = Table.maxOf (weight candidate) reviews := by
  obtain ⟨_, -, h⟩ := Except.bind_eq_ok_iff.mp h
  have houtcome := Except.ok.inj h
  rw [← houtcome, ControllerVerdict.severity_resolve, Table.maxOf_filter]
  refine Table.maxOf_congr fun review hreview => ?_
  have hkept : some review.id = (ignoredReview candidate reviews).map ControllerReview.id ↔
      Exempt candidate review := ignoredReview_id_iff hids htypes hreview
  by_cases hexempt : Exempt candidate review
  · rw [weight, if_pos hexempt, if_neg]
    simpa using hkept.mpr hexempt
  · rw [weight, if_neg hexempt, if_pos]
    · rfl
    · simpa using fun hid => hexempt (hkept.mp hid)

end Outcome

/-! ## A stronger objection -/

/-- A stronger objection takes back the conditions of a review, and nobody else asks for anything: as
an objection it is exempt. -/
structure Withdraws (candidate : DecisionCandidate) (review : ControllerReview)
    (verdict : ControllerVerdict) (others : List ControllerReview) : Prop where
  exempt : Exempt candidate { review with verdict := verdict }
  conditional : review.verdict = .passWithConditions
  mandatory : hasMandatoryConditions review = true
  others : ∀ other ∈ others, other.verdict = .pass ∨
    other.verdict = .passWithConditions ∧ hasMandatoryConditions other = false

/-- No obligation. -/
theorem obligation_eq_zero_iff {review : ControllerReview} :
    obligation review = 0 ↔ review.verdict = .pass ∨
      review.verdict = .passWithConditions ∧ hasMandatoryConditions review = false := by
  rw [obligation, ControllerVerdict.obligationOf]
  cases review.verdict <;> cases hasMandatoryConditions review <;> decide

section Replace

variable {candidate : DecisionCandidate} {before after : List ControllerReview}
variable {review : ControllerReview} {verdict : ControllerVerdict}

/-- The weight of the others, and of one review among them. -/
theorem maxOf_weight_append (review : ControllerReview) :
    Table.maxOf (weight candidate) (before ++ review :: after) =
      max (weight candidate review) (Table.maxOf (weight candidate) (before ++ after)) := by
  rw [Table.maxOf_append, Table.maxOf_cons, Table.maxOf_append, max_left_comm]

/-- A stronger objection weighs less only if it withdraws its conditions, or another review weighs as
much. -/
theorem weight_le_of_severity
    (htypes : Table.KeysNodup ControllerReview.controllerType (before ++ review :: after))
    (hsevere : review.verdict.severity < verdict.severity)
    (hkeeps : ¬ Withdraws candidate review verdict (before ++ after)) :
    weight candidate review ≤ weight candidate { review with verdict := verdict } ∨
      weight candidate review ≤ Table.maxOf (weight candidate) (before ++ after) := by
  by_cases hexempt : Exempt candidate { review with verdict := verdict }
  · by_cases hzero : weight candidate review = 0
    · rw [hzero]
      exact .inl (Nat.zero_le _)
    · -- the review is heard, so it has conditions, and another review asks for something
      have hheard : ¬ Exempt candidate review := fun h => hzero (if_pos h)
      rw [weight, if_neg hheard] at hzero ⊢
      rw [obligation_eq_zero_iff, not_or, not_and, Bool.not_eq_false] at hzero
      have hconditional : review.verdict = .passWithConditions := by
        cases hverdict : review.verdict with
        | pass => exact absurd hverdict hzero.1
        | passWithConditions => rfl
        | revise =>
            exact absurd ⟨hexempt.type, hexempt.lowRisk, .inr hverdict, hexempt.missingInfo⟩ hheard
        | block =>
            exact absurd ⟨hexempt.type, hexempt.lowRisk, .inl hverdict, hexempt.missingInfo⟩ hheard
      have hone : obligation review = 1 := by
        rw [obligation, ControllerVerdict.obligationOf, hconditional, hzero.2 hconditional]
        rfl
      obtain ⟨other, hother, hasks⟩ : ∃ other ∈ before ++ after, obligation other ≠ 0 := by
        by_contra hnone
        refine hkeeps ⟨hexempt, hconditional, hzero.2 hconditional, fun other hother => ?_⟩
        by_contra hasks
        exact hnone ⟨other, hother, mt obligation_eq_zero_iff.mp hasks⟩
      have htype : other.controllerType ≠ review.controllerType := by
        intro heq
        rw [Table.KeysNodup, List.map_append, List.map_cons, List.nodup_middle,
          ← List.map_append, List.nodup_cons] at htypes
        exact htypes.1 (heq ▸ List.mem_map_of_mem hother)
      have hweight : weight candidate other = obligation other :=
        if_neg fun h => htype (h.type.trans hexempt.type.symm)
      refine .inr (hone ▸ ?_)
      calc 1 ≤ obligation other := Nat.one_le_iff_ne_zero.mpr hasks
        _ = weight candidate other := hweight.symm
        _ ≤ Table.maxOf (weight candidate) (before ++ after) := Table.le_maxOf hother
  · refine .inl ?_
    have hle : obligation review ≤ obligation { review with verdict := verdict } :=
      ControllerVerdict.obligation_mono hsevere.le
    rw [weight, weight, if_neg hexempt]
    split
    · exact Nat.zero_le _
    · exact hle

theorem weights_of_withdraws (h : Withdraws candidate review verdict (before ++ after)) :
    weight candidate review = 1 ∧ weight candidate { review with verdict := verdict } = 0 ∧
      Table.maxOf (weight candidate) (before ++ after) = 0 := by
  refine ⟨?_, if_pos h.exempt, Nat.le_zero.mp (Table.maxOf_le_iff.mpr fun other hother => ?_)⟩
  · have hheard : ¬ Exempt candidate review := by
      rintro ⟨-, -, hverdict, -⟩
      rw [h.conditional] at hverdict
      rcases hverdict with hblock | hrevise
      · cases hblock
      · cases hrevise
    rw [weight, if_neg hheard, obligation, ControllerVerdict.obligationOf, h.conditional, h.mandatory]
    rfl
  · have hzero : obligation other = 0 := obligation_eq_zero_iff.mpr (h.others other hother)
    rw [weight, hzero]
    split <;> exact le_rfl

end Replace

/-- Among reviews with distinct ids and types, a more severe verdict of one of them does not make the
outcome less severe, whenever there is an outcome with both, unless it withdraws the only conditions
that there are. -/
theorem outcome_monotone_iff (candidate : DecisionCandidate) (before after : List ControllerReview)
    (review : ControllerReview) (verdict : ControllerVerdict) {outcome outcome' : ControllerVerdict}
    (hids : Table.KeysNodup ControllerReview.id (before ++ review :: after))
    (htypes : Table.KeysNodup ControllerReview.controllerType (before ++ review :: after))
    (hsevere : review.verdict.severity < verdict.severity)
    (h : governedControllerOutcome candidate (before ++ review :: after) = .ok outcome)
    (h' : governedControllerOutcome candidate
      (before ++ { review with verdict := verdict } :: after) = .ok outcome') :
    outcome.severity ≤ outcome'.severity ↔
      ¬ Withdraws candidate review verdict (before ++ after) := by
  have hids' : Table.KeysNodup ControllerReview.id
      (before ++ { review with verdict := verdict } :: after) := by
    rw [Table.KeysNodup, List.map_append, List.map_cons] at hids ⊢
    exact hids
  have htypes' : Table.KeysNodup ControllerReview.controllerType
      (before ++ { review with verdict := verdict } :: after) := by
    rw [Table.KeysNodup, List.map_append, List.map_cons] at htypes ⊢
    exact htypes
  rw [severity_outcome hids htypes h, severity_outcome hids' htypes' h', maxOf_weight_append,
    maxOf_weight_append]
  constructor
  · intro hle hwithdraws
    obtain ⟨hone, hzero, hothers⟩ := weights_of_withdraws hwithdraws
    rw [hone, hzero, hothers] at hle
    exact absurd hle (by decide)
  · intro hkeeps
    rcases weight_le_of_severity htypes hsevere hkeeps with hle | hle
    · exact max_le_max hle le_rfl
    · exact max_le (hle.trans (le_max_right _ _)) (le_max_right _ _)

/-! ### A request for more information -/

/-- A review of a candidate of low risk. -/
def demoReview (id : Id) (controllerType : String) (verdict : ControllerVerdict) : ControllerReview where
  id := id
  scope := ⟨"organization", "business"⟩
  decisionCandidateId := 2
  agentRunId := 3
  snapshotId := 1
  controllerName := controllerType
  controllerType := controllerType
  verdict := verdict
  reason := "Missing useful information."
  severity := .low
  issues := []
  requiredChanges := []
  conditions := ["Ask ten readers."]
  evidenceRefs := []
  contextManifest := []

/-- With a condition it sends the candidate back; as a demand for a revision it is left out. -/
theorem revise_weighs_less :
    governedControllerOutcome (candidateWithGoal "More readers.")
        [demoReview 4 "anti_analysis_paralysis" .passWithConditions] = .ok .passWithConditions ∧
      governedControllerOutcome (candidateWithGoal "More readers.")
        [demoReview 4 "anti_analysis_paralysis" .revise] = .ok .pass ∧
      ControllerVerdict.severity .passWithConditions < ControllerVerdict.severity .revise ∧
      ControllerVerdict.severity .pass < ControllerVerdict.severity .passWithConditions := by
  decide +kernel

/-- Of another controller it is heard. -/
theorem revise_weighs_more :
    let reviews verdict := [demoReview 4 "stability" verdict, demoReview 5 "economics" .pass]
    governedControllerOutcome (candidateWithGoal "More readers.") (reviews .passWithConditions) =
        .ok .passWithConditions ∧
      governedControllerOutcome (candidateWithGoal "More readers.") (reviews .revise) = .ok .revise ∧
      ControllerVerdict.severity .passWithConditions ≤ ControllerVerdict.severity .revise := by
  refine ⟨by decide +kernel, by decide +kernel, ?_⟩
  refine (outcome_monotone_iff (candidateWithGoal "More readers.") [] [demoReview 5 "economics" .pass]
    (demoReview 4 "stability" .passWithConditions) .revise ?_ ?_ (by decide) (by decide +kernel)
    (by decide +kernel)).mpr fun h => ?_
  · rw [Table.KeysNodup]
    decide +kernel
  · rw [Table.KeysNodup]
    decide +kernel
  · exact absurd h.exempt.type (by decide)

end DecisionWorkflow

end LaunchOS
