import LaunchOS.AiRuntime.DomainSteps
import LaunchOS.Application.DecisionWakeups

/-!
# The controller gate

A workflow gets its Decision from its latest candidate, after one review of each required controller
has been made of exactly this candidate, and if none of them stands in the way.

The module introduces:

* `ControllerReview.Clear`, `ControllerReview.Exempt`: the reviews a Decision may be made with;
* `DecisionTables.gate`: the tables without what changes after a Decision is made;
* `DecisionTables.Gated`: the invariant, with one lemma for each way in which rows are added;
* `DecisionTables.Kept`: a Decision that is made stays;
* `decisions_pass_controller_gate`: both over all runs.
-/

namespace LaunchOS

open Txn Transition DecisionWorkflow

variable {M : Type}

/-! ## Reviews -/

/-- The review neither blocks nor asks for a revision, and leaves no mandatory condition. -/
structure ControllerReview.Clear (review : ControllerReview) : Prop where
  verdict : review.verdict = .pass ∨ review.verdict = .passWithConditions
  conditions : ∀ condition ∈ review.conditions, WorthMapping.strip condition.toList = []
  changes : review.verdict = .passWithConditions →
    ∀ change ∈ review.requiredChanges, WorthMapping.strip change.toList = []

/-- The review only misses information, on a candidate for which that does not count. -/
structure ControllerReview.Exempt (review : ControllerReview) (candidate : DecisionCandidate) :
    Prop where
  type : review.controllerType = "anti_analysis_paralysis"
  verdict : review.verdict = .block ∨ review.verdict = .revise
  missing : missingInfoOnly review = true
  lowRisk : isLowRiskReversibleWithoutCriticalUnknown candidate = true

theorem hasMandatoryConditions_eq_false {review : ControllerReview}
    (h : hasMandatoryConditions review = false) :
    ∀ value ∈ review.conditions ++ review.requiredChanges,
      WorthMapping.strip value.toList = [] := by
  intro value hvalue
  simpa using List.any_eq_false.mp h value hvalue

/-- What an outcome `PASS` says about the reviews. -/
theorem governedControllerOutcome_eq_pass {candidate : DecisionCandidate}
    {reviews : List ControllerReview}
    (h : governedControllerOutcome candidate reviews = .ok .pass)
    (hids : Table.KeysNodup ControllerReview.id reviews)
    (hconditions : ∀ review ∈ reviews, review.verdict ≠ .passWithConditions →
      review.conditions = []) :
    ∀ review ∈ reviews, review.Clear ∨ review.Exempt candidate := by
  intro review hreview
  obtain ⟨_, -, hresolve⟩ := Except.bind_eq_ok_iff.mp h
  have hpass := ControllerVerdict.of_resolve_eq_pass (Except.pure_eq_ok_iff.mp hresolve)
  by_cases hignored :
      some review.id = (ignoredReview candidate reviews).map ControllerReview.id
  · -- the ignored review is exempt
    obtain ⟨ignored, hfound, hid⟩ := Option.map_eq_some_iff.mp hignored.symm
    obtain ⟨hbyType, hrule⟩ := Option.filter_eq_some_iff.mp hfound
    have hmem : ignored ∈ reviews := List.mem_reverse.mp (List.mem_of_find?_eq_some hbyType)
    obtain rfl : ignored = review := hids.eq_of_key_eq hmem hreview hid
    simp only [Bool.and_eq_true, Bool.or_eq_true, decide_eq_true_eq] at hrule
    refine .inr ⟨?_, hrule.1.2, hrule.2, hrule.1.1⟩
    simpa using List.find?_some hbyType
  · have heffective : review ∈ reviews.filter fun review =>
        some review.id ≠ (ignoredReview candidate reviews).map ControllerReview.id :=
      List.mem_filter.mpr ⟨hreview, by simpa using hignored⟩
    rcases hpass review heffective with hverdict | ⟨hverdict, hmandatory⟩
    · refine .inl ⟨.inl hverdict, ?_, fun hother => ?_⟩
      · rw [hconditions review hreview (by simp [hverdict])]
        simp
      · rw [hverdict] at hother
        cases hother
    · have hblank := hasMandatoryConditions_eq_false hmandatory
      exact .inl ⟨.inr hverdict, fun value hvalue => hblank value (List.mem_append_left _ hvalue),
        fun _ value hvalue => hblank value (List.mem_append_right _ hvalue)⟩

/-! ## The invariant -/

/-- The candidate without what its workflow writes later. -/
def DecisionCandidate.core (c : DecisionCandidate) : DecisionCandidate :=
  { c with status := .candidate, controllerReviewIds := [] }

/-- The review without the Decision it is linked to later. -/
def ControllerReview.core (review : ControllerReview) : ControllerReview :=
  { review with decisionId := none }

/-- The Decision without its approval. -/
def FinalDecision.core (decision : FinalDecision) : FinalDecision :=
  { decision with approvedForProduction := false }

namespace DecisionTables

/-- What the gate depends on. -/
def gate (t : DecisionTables) : DecisionTables where
  decisionWorkflows := t.decisionWorkflows
  decisionCandidates := t.decisionCandidates.map DecisionCandidate.core
  controllerReviews := t.controllerReviews.map ControllerReview.core
  decisions := t.decisions.map FinalDecision.core

/-- The reviews of a candidate. -/
def reviewsOf (candidateId : Id) (t : DecisionTables) : List ControllerReview :=
  t.controllerReviews.filter fun review => review.decisionCandidateId = candidateId

/-- Write the row of a workflow. -/
def put (w : DecisionWorkflow) (t : DecisionTables) : DecisionTables :=
  { t with decisionWorkflows :=
      Table.modify DecisionWorkflow.id w.id (fun _ => w) t.decisionWorkflows }

/-- The candidate is the latest of its workflow, it has one review of each required controller, and
none of them stands in the way. -/
structure Passed (t : DecisionTables) (c : DecisionCandidate) : Prop where
  latest : ∀ c' ∈ t.decisionCandidates, c'.workflowId = c.workflowId →
    c'.id = c.id ∨ c'.versionNumber < c.versionNumber
  types : (t.reviewsOf c.id).map ControllerReview.controllerType = requiredControllerTypes
  clear : ∀ review ∈ t.reviewsOf c.id, review.Clear ∨ review.Exempt c

/-- The Decision with the given id was made from a candidate of the workflow that has passed. -/
def Decided (t : DecisionTables) (w : DecisionWorkflow) (decisionId : Id) : Prop :=
  ∃ decision ∈ t.decisions, decision.id = decisionId ∧ ∃ c ∈ t.decisionCandidates,
    decision.sourceCandidateId = some c.id ∧ c.workflowId = w.id ∧ t.Passed c

/-- The invariant, when all ids below `nextId` may be in use. -/
structure Gated (nextId : Id) (t : DecisionTables) : Prop where
  workflows : Table.KeysNodup DecisionWorkflow.id t.decisionWorkflows
  workflow_lt : ∀ w ∈ t.decisionWorkflows, w.id < nextId
  candidates : Table.KeysNodup DecisionCandidate.id t.decisionCandidates
  candidate_lt : ∀ c ∈ t.decisionCandidates, c.id < nextId ∧ c.workflowId < nextId
  versions : ∀ c ∈ t.decisionCandidates, ∀ c' ∈ t.decisionCandidates,
    c.workflowId = c'.workflowId → c.versionNumber = c'.versionNumber → c.id = c'.id
  reviews : Table.KeysNodup ControllerReview.id t.controllerReviews
  review_lt : ∀ review ∈ t.controllerReviews,
    review.id < nextId ∧ review.decisionCandidateId < nextId
  conditions : ∀ review ∈ t.controllerReviews, review.verdict ≠ .passWithConditions →
    review.conditions = []
  reviewed : ∀ c ∈ t.decisionCandidates, t.reviewsOf c.id = [] ∨
    (t.reviewsOf c.id).map ControllerReview.controllerType = requiredControllerTypes
  decisions : Table.KeysNodup FinalDecision.id t.decisions
  decision_lt : ∀ decision ∈ t.decisions, decision.id < nextId
  bound : ∀ decision ∈ t.decisions, ∃ w ∈ t.decisionWorkflows,
    w.finalDecisionId = some decision.id
  final : ∀ w ∈ t.decisionWorkflows, ∀ decisionId, w.finalDecisionId = some decisionId →
    (w.status = .awaitingDecisionApproval ∨ w.status = .approvedForProduction) ∧
      t.Decided w decisionId

/-- Decisions that are made stay, and so do the links of the workflows to them. -/
structure Kept (t t' : DecisionTables) : Prop where
  workflows : ∀ w ∈ t.decisionWorkflows, ∀ decisionId, w.finalDecisionId = some decisionId →
    ∃ w' ∈ t'.decisionWorkflows, w'.id = w.id ∧ w'.finalDecisionId = some decisionId
  decisions : t.decisions ⊆ t'.decisions

instance : IsPreorder DecisionTables Kept where
  refl _ := ⟨fun w hw _ hfinal => ⟨w, hw, rfl, hfinal⟩, List.Subset.refl _⟩
  trans _ _ _ h h' := by
    refine ⟨fun w hw decisionId hfinal => ?_, List.Subset.trans h.decisions h'.decisions⟩
    obtain ⟨w', hw', hid', hfinal'⟩ := h.workflows w hw decisionId hfinal
    obtain ⟨w'', hw'', hid'', hfinal''⟩ := h'.workflows w' hw' decisionId hfinal'
    exact ⟨w'', hw'', hid''.trans hid', hfinal''⟩

section Gated

variable {t : DecisionTables} {nextId nextId' : Id}

theorem Gated.mono (h : t.Gated nextId) (hle : nextId ≤ nextId') : t.Gated nextId' :=
  { h with
    workflow_lt := fun w hw => (h.workflow_lt w hw).trans_le hle
    candidate_lt := fun c hc =>
      ⟨(h.candidate_lt c hc).1.trans_le hle, (h.candidate_lt c hc).2.trans_le hle⟩
    review_lt := fun review hreview =>
      ⟨(h.review_lt review hreview).1.trans_le hle, (h.review_lt review hreview).2.trans_le hle⟩
    decision_lt := fun decision hdecision => (h.decision_lt decision hdecision).trans_le hle }

/-- A workflow has at most one Decision. -/
theorem Gated.decision_unique (h : t.Gated nextId) {w : DecisionWorkflow}
    (hw : w ∈ t.decisionWorkflows) {decision : FinalDecision} (hdecision : decision ∈ t.decisions)
    {c : DecisionCandidate} (hc : c ∈ t.decisionCandidates)
    (hsource : decision.sourceCandidateId = some c.id) (hworkflow : c.workflowId = w.id) :
    w.finalDecisionId = some decision.id := by
  obtain ⟨w', hw', hfinal⟩ := h.bound decision hdecision
  obtain ⟨-, decision', hdecision', hid, c', hc', hsource', hworkflow', -⟩ :=
    h.final w' hw' _ hfinal
  obtain rfl : decision' = decision := h.decisions.eq_of_key_eq hdecision' hdecision hid
  obtain rfl : c' = c := by
    refine h.candidates.eq_of_key_eq hc' hc ?_
    rw [hsource'] at hsource
    exact Option.some.inj hsource
  obtain rfl : w' = w := h.workflows.eq_of_key_eq hw' hw (hworkflow'.symm.trans hworkflow)
  exact hfinal

/-- Writing the row of a workflow without its Decision. -/
theorem Gated.put (h : t.Gated nextId) {w w' : DecisionWorkflow} (hw : w ∈ t.decisionWorkflows)
    (hid : w'.id = w.id) (hfinal : w'.finalDecisionId = w.finalDecisionId)
    (hstatus : w.finalDecisionId ≠ none →
      w'.status = .awaitingDecisionApproval ∨ w'.status = .approvedForProduction) :
    (t.put w').Gated nextId ∧ Kept t (t.put w') := by
  -- every old row is still there, up to what has been written
  have hold : ∀ w₂ ∈ t.decisionWorkflows, ∃ w₃ ∈ (t.put w').decisionWorkflows,
      w₃.id = w₂.id ∧ w₃.finalDecisionId = w₂.finalDecisionId := by
    intro w₂ hw₂
    by_cases hsame : w₂.id = w'.id
    · obtain rfl : w₂ = w := h.workflows.eq_of_key_eq hw₂ hw (hsame.trans hid)
      exact ⟨w', Table.mem_modify_of_eq hw₂ hsame, hid, hfinal⟩
    · exact ⟨w₂, Table.mem_modify_of_ne hw₂ hsame, rfl, rfl⟩
  have hnew : ∀ w₂ ∈ (t.put w').decisionWorkflows, w₂ = w' ∨ w₂ ∈ t.decisionWorkflows := by
    intro w₂ hw₂
    obtain ⟨row, hrow, rfl⟩ := List.mem_map.mp hw₂
    split
    · exact .inl rfl
    · exact .inr hrow
  refine ⟨{ h with
    workflows := h.workflows.modify fun _ _ _ => rfl
    workflow_lt := fun w₂ hw₂ => ?_
    bound := fun decision hdecision => ?_
    final := fun w₂ hw₂ decisionId hdecided => ?_ }, ⟨fun w₂ hw₂ decisionId hdecided => ?_,
      List.Subset.refl _⟩⟩
  · rcases hnew w₂ hw₂ with rfl | hw₂
    · exact hid ▸ h.workflow_lt w hw
    · exact h.workflow_lt w₂ hw₂
  · obtain ⟨w₂, hw₂, hdecided⟩ := h.bound decision hdecision
    obtain ⟨w₃, hw₃, -, hsame⟩ := hold w₂ hw₂
    exact ⟨w₃, hw₃, hsame.trans hdecided⟩
  · rcases hnew w₂ hw₂ with rfl | hw₂
    · rw [hfinal] at hdecided
      obtain ⟨-, decision, hdecision, heq, c, hc, hsource, hworkflow, hpassed⟩ :=
        h.final w hw decisionId hdecided
      refine ⟨hstatus (by simp [hdecided]), decision, hdecision, heq, c, hc, hsource, ?_, ?_⟩
      · rw [hworkflow, hid]
      · exact ⟨hpassed.latest, hpassed.types, hpassed.clear⟩
    · obtain ⟨hsettled, decision, hdecision, heq, c, hc, hsource, hworkflow, hpassed⟩ :=
        h.final w₂ hw₂ decisionId hdecided
      exact ⟨hsettled, decision, hdecision, heq, c, hc, hsource, hworkflow,
        ⟨hpassed.latest, hpassed.types, hpassed.clear⟩⟩
  · obtain ⟨w₃, hw₃, hsameId, hsame⟩ := hold w₂ hw₂
    exact ⟨w₃, hw₃, hsameId, hsame.trans hdecided⟩

/-- A candidate stays the one that passed when other workflows get candidates and other candidates
get reviews. -/
theorem Passed.mono {t' : DecisionTables} {c : DecisionCandidate} (h : t.Passed c)
    (hcandidates : ∀ c' ∈ t'.decisionCandidates, c'.workflowId = c.workflowId →
      c' ∈ t.decisionCandidates)
    (hreviews : t'.reviewsOf c.id = t.reviewsOf c.id) : t'.Passed c where
  latest c' hc' hworkflow := h.latest c' (hcandidates c' hc' hworkflow) hworkflow
  types := by rw [hreviews]; exact h.types
  clear := by rw [hreviews]; exact h.clear

/-- A new workflow has no Decision. -/
theorem Gated.addWorkflow (h : t.Gated nextId) {w : DecisionWorkflow} (hid : w.id = nextId)
    (hfinal : w.finalDecisionId = none) :
    { t with decisionWorkflows := t.decisionWorkflows ++ [w] }.Gated (nextId + 1) ∧
      Kept t { t with decisionWorkflows := t.decisionWorkflows ++ [w] } := by
  have h' := h.mono (Nat.le_succ nextId)
  refine ⟨{ h' with
    workflows := ?_
    workflow_lt := fun w₂ hw₂ => ?_
    bound := fun decision hdecision => ?_
    final := fun w₂ hw₂ decisionId hdecided => ?_ },
    ⟨fun w₂ hw₂ _ hdecided => ⟨w₂, List.mem_append_left _ hw₂, rfl, hdecided⟩,
      List.Subset.refl _⟩⟩
  · refine h.workflows.append (Table.keysNodup_singleton w) ?_
    simp only [List.mem_singleton, forall_eq, hid]
    exact fun w₂ hw₂ => (h.workflow_lt w₂ hw₂).ne
  · rcases List.mem_append.mp hw₂ with hw₂ | hw₂
    · exact h'.workflow_lt w₂ hw₂
    · rw [List.mem_singleton.mp hw₂, hid]
      exact Nat.lt_succ_self nextId
  · obtain ⟨w₂, hw₂, hdecided⟩ := h.bound decision hdecision
    exact ⟨w₂, List.mem_append_left _ hw₂, hdecided⟩
  · rcases List.mem_append.mp hw₂ with hw₂ | hw₂
    · obtain ⟨hsettled, decision, hdecision, heq, c, hc, hsource, hworkflow, hpassed⟩ :=
        h.final w₂ hw₂ decisionId hdecided
      exact ⟨hsettled, decision, hdecision, heq, c, hc, hsource, hworkflow,
        hpassed.mono (fun _ hc' _ => hc') rfl⟩
    · rw [List.mem_singleton.mp hw₂, hfinal] at hdecided
      cases hdecided

/-- A new candidate of a workflow without a Decision. -/
theorem Gated.addCandidate (h : t.Gated nextId) {w : DecisionWorkflow}
    (hw : w ∈ t.decisionWorkflows) (hfinal : w.finalDecisionId = none) {c : DecisionCandidate}
    (hid : c.id = nextId) (hworkflow : c.workflowId = w.id)
    (hversion : ∀ c' ∈ t.decisionCandidates, c'.workflowId = c.workflowId →
      c'.versionNumber < c.versionNumber) :
    { t with decisionCandidates := t.decisionCandidates ++ [c] }.Gated (nextId + 1) ∧
      Kept t { t with decisionCandidates := t.decisionCandidates ++ [c] } := by
  have h' := h.mono (Nat.le_succ nextId)
  refine ⟨{ h' with
    candidates := ?_
    candidate_lt := fun c₂ hc₂ => ?_
    versions := fun c₂ hc₂ c₃ hc₃ hsame heq => ?_
    reviewed := fun c₂ hc₂ => ?_
    final := fun w₂ hw₂ decisionId hdecided => ?_ },
    ⟨fun w₂ hw₂ _ hdecided => ⟨w₂, hw₂, rfl, hdecided⟩, List.Subset.refl _⟩⟩
  · refine h.candidates.append (Table.keysNodup_singleton c) ?_
    simp only [List.mem_singleton, forall_eq, hid]
    exact fun c₂ hc₂ => (h.candidate_lt c₂ hc₂).1.ne
  · rcases List.mem_append.mp hc₂ with hc₂ | hc₂
    · exact h'.candidate_lt c₂ hc₂
    · rw [List.mem_singleton.mp hc₂, hid, hworkflow]
      exact ⟨Nat.lt_succ_self nextId, h'.workflow_lt w hw⟩
  · rcases List.mem_append.mp hc₂, List.mem_append.mp hc₃ with ⟨hold | hnew, hold' | hnew'⟩
    · exact h.versions c₂ hold c₃ hold' hsame heq
    · rw [List.mem_singleton.mp hnew'] at hsame heq
      exact absurd heq (hversion c₂ hold hsame).ne
    · rw [List.mem_singleton.mp hnew] at hsame heq
      exact absurd heq.symm (hversion c₃ hold' hsame.symm).ne
    · rw [List.mem_singleton.mp hnew, List.mem_singleton.mp hnew']
  · rcases List.mem_append.mp hc₂ with hc₂ | hc₂
    · exact h.reviewed c₂ hc₂
    · -- no review is of a candidate that did not exist
      refine .inl (List.filter_eq_nil_iff.mpr fun review hreview => ?_)
      rw [List.mem_singleton.mp hc₂, hid, decide_eq_true_eq]
      exact (h.review_lt review hreview).2.ne
  · obtain ⟨hsettled, decision, hdecision, heq, c', hc', hsource, hworkflow', hpassed⟩ :=
      h.final w₂ hw₂ decisionId hdecided
    refine ⟨hsettled, decision, hdecision, heq, c', List.mem_append_left _ hc', hsource,
      hworkflow', hpassed.mono (fun c₂ hc₂ hsame => ?_) rfl⟩
    rcases List.mem_append.mp hc₂ with hc₂ | hc₂
    · exact hc₂
    · rw [List.mem_singleton.mp hc₂, hworkflow, hworkflow'] at hsame
      obtain rfl : w = w₂ := h.workflows.eq_of_key_eq hw hw₂ hsame
      rw [hfinal] at hdecided
      cases hdecided

/-- The reviews of a candidate that has none, of a workflow without a Decision. -/
theorem Gated.addReviews (h : t.Gated nextId) {w : DecisionWorkflow}
    (hw : w ∈ t.decisionWorkflows) (hfinal : w.finalDecisionId = none) {c : DecisionCandidate}
    (hc : c ∈ t.decisionCandidates) (hworkflow : c.workflowId = w.id)
    (hnone : t.reviewsOf c.id = []) (new : List ControllerReview) (hle : nextId ≤ nextId')
    (hnew : Table.KeysNodup ControllerReview.id new)
    (hids : ∀ review ∈ new, nextId ≤ review.id ∧ review.id < nextId')
    (hcandidate : ∀ review ∈ new, review.decisionCandidateId = c.id)
    (hconditions : ∀ review ∈ new, review.verdict ≠ .passWithConditions → review.conditions = [])
    (htypes : new.map ControllerReview.controllerType = requiredControllerTypes) :
    { t with controllerReviews := t.controllerReviews ++ new }.Gated nextId' ∧
      Kept t { t with controllerReviews := t.controllerReviews ++ new } ∧
      { t with controllerReviews := t.controllerReviews ++ new }.reviewsOf c.id = new := by
  have h' := h.mono hle
  have hmine : { t with controllerReviews := t.controllerReviews ++ new }.reviewsOf c.id = new := by
    have hall : new.filter (fun review => review.decisionCandidateId = c.id) = new :=
      List.filter_eq_self.mpr fun review hreview => decide_eq_true (hcandidate review hreview)
    rw [reviewsOf, List.filter_append, hall]
    exact (congrArg (· ++ new) hnone).trans (List.nil_append new)
  have hother : ∀ id, id ≠ c.id →
      { t with controllerReviews := t.controllerReviews ++ new }.reviewsOf id = t.reviewsOf id := by
    intro id hne
    have hnil : new.filter (fun review => review.decisionCandidateId = id) = [] := by
      refine List.filter_eq_nil_iff.mpr fun review hreview => ?_
      rw [hcandidate review hreview, decide_eq_true_eq]
      exact fun heq => hne heq.symm
    rw [reviewsOf, List.filter_append, hnil, List.append_nil]
    rfl
  refine ⟨{ h' with
    reviews := ?_
    review_lt := fun review hreview => ?_
    conditions := fun review hreview => ?_
    reviewed := fun c₂ hc₂ => ?_
    final := fun w₂ hw₂ decisionId hdecided => ?_ },
    ⟨fun w₂ hw₂ _ hdecided => ⟨w₂, hw₂, rfl, hdecided⟩, List.Subset.refl _⟩, hmine⟩
  · refine h.reviews.append hnew fun review hreview old hold => ?_
    exact ((h.review_lt old hold).1.trans_le (hids review hreview).1).ne
  · rcases List.mem_append.mp hreview with hreview | hreview
    · exact h'.review_lt review hreview
    · rw [hcandidate review hreview]
      exact ⟨(hids review hreview).2, (h'.candidate_lt c hc).1⟩
  · rcases List.mem_append.mp hreview with hreview | hreview
    · exact h.conditions review hreview
    · exact hconditions review hreview
  · by_cases hsame : c₂.id = c.id
    · rw [hsame, hmine]
      exact .inr htypes
    · rw [hother c₂.id hsame]
      exact h.reviewed c₂ hc₂
  · obtain ⟨hsettled, decision, hdecision, heq, c', hc', hsource, hworkflow', hpassed⟩ :=
      h.final w₂ hw₂ decisionId hdecided
    refine ⟨hsettled, decision, hdecision, heq, c', hc', hsource, hworkflow',
      hpassed.mono (fun _ hc₂ _ => hc₂) (hother c'.id fun hsame => ?_)⟩
    obtain rfl : c' = c := h.candidates.eq_of_key_eq hc' hc hsame
    obtain rfl : w₂ = w := h.workflows.eq_of_key_eq hw₂ hw (hworkflow'.symm.trans hworkflow)
    rw [hfinal] at hdecided
    cases hdecided

/-- The Decision of a workflow that has none, from a candidate that has passed. -/
theorem Gated.materialize (h : t.Gated nextId) {w : DecisionWorkflow} (w' : DecisionWorkflow)
    (hw : w ∈ t.decisionWorkflows) (hfinal : w.finalDecisionId = none) {c : DecisionCandidate}
    (hc : c ∈ t.decisionCandidates) (hworkflow : c.workflowId = w.id) (hpassed : t.Passed c)
    {decision : FinalDecision} (hid : decision.id = nextId)
    (hsource : decision.sourceCandidateId = some c.id) (hid' : w'.id = w.id)
    (hfinal' : w'.finalDecisionId = some decision.id)
    (hstatus : w'.status = .awaitingDecisionApproval) :
    ({ t with decisions := t.decisions ++ [decision] }.put w').Gated (nextId + 1) ∧
      Kept t ({ t with decisions := t.decisions ++ [decision] }.put w') := by
  have h' := h.mono (Nat.le_succ nextId)
  let t' := { t with decisions := t.decisions ++ [decision] }.put w'
  have hnew : ∀ w₂ ∈ t'.decisionWorkflows,
      w₂ = w' ∨ w₂ ∈ t.decisionWorkflows ∧ w₂.id ≠ w'.id := by
    intro w₂ hw₂
    obtain ⟨row, hrow, rfl⟩ := List.mem_map.mp hw₂
    split
    next => exact .inl rfl
    next hne => exact .inr ⟨hrow, hne⟩
  have hold : ∀ w₂ ∈ t.decisionWorkflows, ∀ decisionId, w₂.finalDecisionId = some decisionId →
      w₂ ∈ t'.decisionWorkflows := by
    intro w₂ hw₂ decisionId hdecided
    refine Table.mem_modify_of_ne hw₂ fun hsame => ?_
    obtain rfl : w₂ = w := h.workflows.eq_of_key_eq hw₂ hw (hsame.trans hid')
    rw [hfinal] at hdecided
    cases hdecided
  have hput : w' ∈ t'.decisionWorkflows := Table.mem_modify_of_eq hw hid'.symm
  have hpass : ∀ {c'}, t.Passed c' → t'.Passed c' :=
    fun hc' => hc'.mono (fun _ hc₂ _ => hc₂) rfl
  refine ⟨{ h' with
    workflows := h.workflows.modify fun _ _ _ => rfl
    workflow_lt := fun w₂ hw₂ => ?_
    decisions := ?_
    decision_lt := fun d hd => ?_
    bound := fun d hd => ?_
    final := fun w₂ hw₂ decisionId hdecided => ?_ },
    ⟨fun w₂ hw₂ decisionId hdecided => ⟨w₂, hold w₂ hw₂ decisionId hdecided, rfl, hdecided⟩,
      List.subset_append_left _ _⟩⟩
  · rcases hnew w₂ hw₂ with rfl | ⟨hw₂, -⟩
    · exact hid' ▸ h'.workflow_lt w hw
    · exact h'.workflow_lt w₂ hw₂
  · refine h.decisions.append (Table.keysNodup_singleton decision) ?_
    simp only [List.mem_singleton, forall_eq, hid]
    exact fun d hd => (h.decision_lt d hd).ne
  · rcases List.mem_append.mp hd with hd | hd
    · exact h'.decision_lt d hd
    · rw [List.mem_singleton.mp hd, hid]
      exact Nat.lt_succ_self nextId
  · rcases List.mem_append.mp hd with hd | hd
    · obtain ⟨w₂, hw₂, hdecided⟩ := h.bound d hd
      exact ⟨w₂, hold w₂ hw₂ _ hdecided, hdecided⟩
    · rw [List.mem_singleton.mp hd]
      exact ⟨w', hput, hfinal'⟩
  · rcases hnew w₂ hw₂ with rfl | ⟨hw₂, -⟩
    · rw [hfinal'] at hdecided
      refine ⟨.inl hstatus, decision, List.mem_append_right _ (List.mem_singleton_self _),
        Option.some.inj hdecided, c, hc, hsource, hworkflow.trans hid'.symm, hpass hpassed⟩
    · obtain ⟨hsettled, d, hd, heq, c', hc', hsource', hworkflow', hpassed'⟩ :=
        h.final w₂ hw₂ decisionId hdecided
      exact ⟨hsettled, d, List.mem_append_left _ hd, heq, c', hc', hsource', hworkflow',
        hpass hpassed'⟩

end Gated

end DecisionTables

/-! ## Stages -/

/-- The invariant of a database. -/
def DecisionGated (db : AgentDatabase M DecisionTables) : Prop :=
  db.tables.domain.gate.Gated db.nextId

/-- What the gate depends on is left alone. -/
def SameGate (t t' : DecisionTables) : Prop := t'.gate = t.gate

instance : IsPreorder DecisionTables SameGate where
  refl _ := rfl
  trans _ _ _ h h' := Eq.trans h' h

theorem sameGate_updateCandidate (id : Id) {f : DecisionCandidate → DecisionCandidate}
    (hf : ∀ c, (f c).core = c.core) (t : DecisionTables) : SameGate t (t.updateCandidate id f) := by
  have hcandidates : (Table.modify DecisionCandidate.id id f t.decisionCandidates).map
      DecisionCandidate.core = t.decisionCandidates.map DecisionCandidate.core := by
    rw [Table.modify, List.map_map]
    refine List.map_congr_left fun c _ => ?_
    simp only [Function.comp_apply]
    split
    · exact hf c
    · rfl
  simp only [SameGate, DecisionTables.gate, DecisionTables.updateCandidate, hcandidates]

/-- From `db` to `db'` the invariant is kept, and no row of a workflow is written. -/
structure Prepared (db db' : AgentDatabase M DecisionTables) : Prop where
  gated : DecisionGated db'
  workflows : db'.tables.domain.decisionWorkflows = db.tables.domain.decisionWorkflows
  kept : db.tables.domain.gate.Kept db'.tables.domain.gate

/-- The same up to the row of a workflow, which is written at the end of its step. -/
structure Advances (db : AgentDatabase M DecisionTables) (w : DecisionWorkflow)
    (w' : DecisionWorkflow) (db' : AgentDatabase M DecisionTables) : Prop where
  id : w'.id = w.id
  gated : (db'.tables.domain.gate.put w').Gated db'.nextId
  kept : db.tables.domain.gate.Kept (db'.tables.domain.gate.put w')

section Stages

variable {db db' db'' : AgentDatabase M DecisionTables}

theorem DecisionGated.frames (h : DecisionGated db) (hframes : Frames SameGate db db') :
    Prepared db db' := by
  have hgate : db'.tables.domain.gate = db.tables.domain.gate := hframes.domain
  have hworkflows : db'.tables.domain.gate.decisionWorkflows =
      db.tables.domain.gate.decisionWorkflows := by rw [hgate]
  refine ⟨?_, hworkflows, ?_⟩
  · rw [DecisionGated, hgate]
    exact h.mono hframes.nextId
  · rw [hgate]
    exact refl _

namespace Prepared

theorem trans (h : Prepared db db') (h' : Prepared db' db'') : Prepared db db'' :=
  ⟨h'.gated, h'.workflows.trans h.workflows, trans_of DecisionTables.Kept h.kept h'.kept⟩

theorem frames (h : Prepared db db') (hframes : Frames SameGate db' db'') : Prepared db db'' :=
  h.trans (h.gated.frames hframes)

/-- A workflow without a Decision goes on without one. -/
theorem put (h : Prepared db db') {w w' : DecisionWorkflow}
    (hw : w ∈ db.tables.domain.decisionWorkflows) (hfinal : w.finalDecisionId = none)
    (hid : w'.id = w.id) (hfinal' : w'.finalDecisionId = none) : Advances db w w' db' := by
  have hw' : w ∈ db'.tables.domain.gate.decisionWorkflows := by
    change w ∈ db'.tables.domain.decisionWorkflows
    rw [h.workflows]
    exact hw
  obtain ⟨hgated, hkept⟩ := DecisionTables.Gated.put h.gated hw' hid (hfinal'.trans hfinal.symm)
    fun hsome => absurd hfinal hsome
  exact ⟨hid, hgated, trans_of DecisionTables.Kept h.kept hkept⟩

end Prepared

/-! ### Runs -/

theorem gateFrames (now : Time) :
    DomainRelation (M := M) now (fun _ => true) SameGate (Frames SameGate) :=
  domainRelation_frames now _

variable (R : RunReader M) (now : Time) (answer : DecisionAnswer) (w : DecisionWorkflow)

theorem framesWithin_enqueueWorkflowAdvance (suffix : DecisionAdvance) :
    Within (Frames SameGate) (enqueueWorkflowAdvance (M := M) now w suffix) :=
  framesWithin_createJob now _

theorem framesWithin_ensureRuns {α β : Type} (role : β → RunRole M α)
    (contextRefs : List ContextReference) (keys : List β) :
    Within (Frames SameGate) (ensureRuns now answer w role contextRefs keys) := by
  have h := gateFrames (M := M) now
  refine h.foldlM (fun notReady key => h.bind ?_ fun _ => h.pure _) _
  refine h.bind h.agentRuns fun runs => h.bind (h.check _) fun state => ?_
  cases state with
  | ready => exact h.pure _
  | pending => exact h.pure _
  | create => exact h.bind (framesWithin_createAgentRun now _ _) fun _ => h.pure _

theorem framesWithin_ensureSpecialistRuns :
    Within (Frames SameGate) (ensureSpecialistRuns R now answer w) :=
  (gateFrames now).bind (gateFrames now).tables fun _ =>
    framesWithin_ensureRuns now answer w _ _ _

theorem framesWithin_ensureChiefRun {previousCandidate : Option DecisionCandidate}
    {reviews : List ControllerReview} :
    Within (Frames SameGate) (ensureChiefRun R now answer w previousCandidate reviews) :=
  (gateFrames now).bind (gateFrames now).tables fun _ =>
    framesWithin_ensureRuns now answer w _ _ _

theorem framesWithin_ensureControllerRuns (candidate : DecisionCandidate) :
    Within (Frames SameGate) (ensureControllerRuns R now answer w candidate) :=
  (gateFrames now).bind (gateFrames now).tables fun _ =>
    framesWithin_ensureRuns now answer w _ _ _

theorem framesWithin_setCandidateStatus (candidate : DecisionCandidate)
    (status : DecisionCandidateStatus) :
    Within (Frames SameGate) (setCandidateStatus (M := M) candidate status) :=
  (gateFrames 0).modifyTables _ (sameGate_updateCandidate candidate.id fun _ => rfl)

theorem prepared_enterChiefRunning (h : Prepared db db')
    (hw : w ∈ db.tables.domain.decisionWorkflows) {w₁ : DecisionWorkflow}
    {previousCandidate : Option DecisionCandidate} {reviews : List ControllerReview}
    (hfinal : w.finalDecisionId = none) (hid : w₁.id = w.id)
    (hfinal₁ : w₁.finalDecisionId = none) :
    Ensures (enterChiefRunning R now answer w₁ previousCandidate reviews) (Advances db w) db' := by
  refine (framesWithin_ensureChiefRun R now answer w₁).ensures_bind fun _ db₁ h₁ => ?_
  rw [ensures_bind, ensures_tables]
  refine (framesWithin_enqueueWorkflowAdvance now w₁ _).ensures_bind fun _ db₂ h₂ => ?_
  rw [ensures_pure]
  exact ((h.frames h₁).frames h₂).put hw hfinal hid hfinal₁

/-! ### Candidates -/

theorem DecisionTables.mem_gate_candidates {t : DecisionTables} {c : DecisionCandidate}
    (hc : c ∈ t.decisionCandidates) : c.core ∈ t.gate.decisionCandidates :=
  List.mem_map_of_mem hc

theorem prepared_materializeCandidate (h : Prepared db db')
    (hw : w ∈ db.tables.domain.decisionWorkflows) (hfinal : w.finalDecisionId = none) :
    Ensures (materializeCandidate R answer w) (fun _ => Prepared db) db' := by
  rw [materializeCandidate, ensures_bind, ensures_tables]
  dsimp only
  rw [candidateForVersion_next]
  dsimp only
  rw [ensures_bind, ensures_agentRuns, ensures_bind, ensures_check]
  rintro ⟨run, output⟩ -
  rw [ensures_bind, ensures_check]
  intro _ _
  rw [ensures_bind, ensures_newId, ensures_bind, ensures_modifyTables, ensures_pure]
  dsimp only
  have hw' : w ∈ db'.tables.domain.gate.decisionWorkflows := by
    change w ∈ db'.tables.domain.decisionWorkflows
    rw [h.workflows]
    exact hw
  refine h.trans ?_
  -- the new row, without what is written later
  have hadd := fun c : DecisionCandidate => DecisionTables.Gated.addCandidate h.gated hw' hfinal
    (c := c)
  have hnew : ∀ c : DecisionCandidate, c.id = db'.nextId → c.workflowId = w.id →
      c.versionNumber = nextCandidateVersion w db'.tables.domain →
      Prepared db' { db'.applyJobOp 0 .newId with tables := { db'.tables with domain :=
        { db'.tables.domain with
          decisionCandidates := db'.tables.domain.decisionCandidates ++ [c] } } } := by
    intro c hid hworkflow hversion
    have hgate : { db'.tables.domain with
        decisionCandidates := db'.tables.domain.decisionCandidates ++ [c] }.gate =
        { db'.tables.domain.gate with
          decisionCandidates := db'.tables.domain.gate.decisionCandidates ++ [c.core] } := by
      simp [DecisionTables.gate]
    obtain ⟨hgated, hkept⟩ := hadd c.core hid hworkflow fun c' hc' hsame => by
      obtain ⟨c₀, hc₀, rfl⟩ := List.mem_map.mp hc'
      have hmine : c₀ ∈ candidatesOf w db'.tables.domain :=
        List.mem_filter.mpr ⟨hc₀, decide_eq_true (hsame.trans hworkflow)⟩
      have hle : c₀.versionNumber ≤ latestCandidateVersion w db'.tables.domain :=
        Table.le_maxOf hmine
      change c₀.versionNumber < c.versionNumber
      rw [hversion, nextCandidateVersion]
      exact Nat.lt_succ_of_le hle
    refine ⟨?_, rfl, ?_⟩
    · rw [DecisionGated, hgate]
      exact hgated
    · rw [hgate]
      exact hkept
  exact hnew _ rfl rfl rfl

/-- The latest candidate of a workflow, as the gate sees it. -/
theorem latestCandidate_spec {t : DecisionTables} {candidate : DecisionCandidate} {nextId : Id}
    (hgated : t.gate.Gated nextId) (h : latestCandidate w t = .ok candidate) :
    candidate.core ∈ t.gate.decisionCandidates ∧ candidate.workflowId = w.id ∧
      ∀ c' ∈ t.gate.decisionCandidates, c'.workflowId = candidate.workflowId →
        c'.id = candidate.id ∨ c'.versionNumber < candidate.versionNumber := by
  obtain ⟨hfound, hversion⟩ := versionNumber_latestCandidate h
  obtain ⟨hmem, hworkflow⟩ := List.mem_filter.mp (List.mem_of_find?_eq_some hfound)
  have hworkflow : candidate.workflowId = w.id := of_decide_eq_true hworkflow
  refine ⟨DecisionTables.mem_gate_candidates hmem, hworkflow, fun c' hc' hsame => ?_⟩
  obtain ⟨c, hc, rfl⟩ := List.mem_map.mp hc'
  have hle : c.versionNumber ≤ candidate.versionNumber := by
    rw [hversion]
    exact Table.le_maxOf (List.mem_filter.mpr ⟨hc, decide_eq_true (hsame.trans hworkflow)⟩)
  rcases hle.lt_or_eq with hlt | heq
  · exact .inr hlt
  · exact .inl (hgated.versions c.core hc' candidate.core (DecisionTables.mem_gate_candidates hmem) hsame
      heq)

/-! ### Reviews -/

/-- One round of the loop finds the review of a controller, or makes it. -/
inductive ReviewMade (candidate : DecisionCandidate) (controllerType : String)
    (db : AgentDatabase M DecisionTables) :
    ControllerReview → AgentDatabase M DecisionTables → Prop
  | existing {review : ControllerReview}
      (hmem : review ∈ db.tables.domain.reviewsOf candidate.id)
      (htype : review.controllerType = controllerType) : ReviewMade candidate controllerType db review db
  | made {review : ControllerReview}
      (hnew : ∀ old ∈ db.tables.domain.reviewsOf candidate.id, old.controllerType ≠ controllerType)
      (hid : review.id = db.nextId) (hcandidate : review.decisionCandidateId = candidate.id)
      (htype : review.controllerType = controllerType)
      (hconditions : review.verdict ≠ .passWithConditions → review.conditions = []) :
      ReviewMade candidate controllerType db review
        { db.applyJobOp 0 .newId with tables := { db.tables with domain := { db.tables.domain with
          controllerReviews := db.tables.domain.controllerReviews ++ [review] } } }

theorem ensures_materializeControllerReview (candidate : DecisionCandidate)
    (controllerType : String) :
    Ensures (materializeControllerReview R answer w candidate controllerType)
      (ReviewMade candidate controllerType db) db := by
  rw [materializeControllerReview, ensures_bind, ensures_tables]
  split
  next existing hfind =>
    rw [ensures_pure]
    have hsame := List.find?_some hfind
    simp only [Bool.and_eq_true, decide_eq_true_eq] at hsame
    refine .existing (List.mem_filter.mpr ⟨List.mem_of_find?_eq_some hfind, ?_⟩) hsame.2
    exact decide_eq_true hsame.1
  next hfind =>
    rw [ensures_bind, ensures_agentRuns, ensures_bind, ensures_check]
    rintro ⟨run, output⟩ -
    rw [ensures_bind, ensures_check]
    intro _ _
    rw [ensures_bind, ensures_newId, ensures_bind, ensures_modifyTables, ensures_pure]
    refine .made (fun old hold htype => ?_) rfl rfl rfl fun hverdict => if_neg hverdict
    obtain ⟨hmem, hcandidate⟩ := List.mem_filter.mp hold
    have hne := List.find?_eq_none.mp hfind old hmem
    simp only [Bool.and_eq_true, decide_eq_true_eq, not_and] at hne
    exact hne (of_decide_eq_true hcandidate) htype

/-- The loop has made the reviews of the controllers `done`. -/
structure Reviewing (db : AgentDatabase M DecisionTables) (candidate : DecisionCandidate)
    (done : List String) (reviews : List ControllerReview) (db' : AgentDatabase M DecisionTables) :
    Prop where
  nextId : db.nextId ≤ db'.nextId
  domain : db'.tables.domain = { db.tables.domain with
    controllerReviews := db.tables.domain.controllerReviews ++ reviews }
  ids : Table.KeysNodup ControllerReview.id reviews
  fresh : ∀ review ∈ reviews, db.nextId ≤ review.id ∧ review.id < db'.nextId
  candidate : ∀ review ∈ reviews, review.decisionCandidateId = candidate.id
  conditions : ∀ review ∈ reviews, review.verdict ≠ .passWithConditions → review.conditions = []
  types : reviews.map ControllerReview.controllerType = done

/-- The reviews of a candidate that has none. -/
theorem reviewing_materialize {candidate : DecisionCandidate}
    (hnone : db.tables.domain.reviewsOf candidate.id = []) :
    Ensures (requiredControllerTypes.foldlM (fun reviews type => do
        return reviews ++ [← materializeControllerReview R answer w candidate type]) [])
      (Reviewing db candidate requiredControllerTypes) db := by
  have hnodup : requiredControllerTypes.Nodup := by decide
  refine Ensures.foldlM_prefix (I := Reviewing db candidate) ?_ ?_
  · intro pre type post heq reviews db₁ h
    rw [ensures_bind]
    refine (ensures_materializeControllerReview R answer w candidate type).mono ?_
    rintro review db₂ hmade
    rw [ensures_pure]
    have hmine : db₁.tables.domain.reviewsOf candidate.id = reviews := by
      rw [h.domain, DecisionTables.reviewsOf, List.filter_append]
      have hall : reviews.filter (fun review => review.decisionCandidateId = candidate.id) =
          reviews :=
        List.filter_eq_self.mpr fun review hreview => decide_eq_true (h.candidate review hreview)
      rw [hall]
      exact (congrArg (· ++ reviews) hnone).trans (List.nil_append reviews)
    cases hmade with
    | existing hmem htype =>
        -- the controllers are different ones
        rw [hmine] at hmem
        have hdone : type ∈ pre := by
          rw [← h.types, ← htype]
          exact List.mem_map_of_mem hmem
        rw [heq, List.nodup_append] at hnodup
        exact absurd rfl (hnodup.2.2 type hdone type List.mem_cons_self)
    | made hnew hid hcandidate htype hconditions =>
        have hlt : db₁.nextId < db₁.nextId + 1 := Nat.lt_succ_self _
        refine ⟨h.nextId.trans hlt.le, ?_, ?_, ?_, ?_, ?_, ?_⟩
        · simp only [h.domain, List.append_assoc]
        · refine h.ids.append (Table.keysNodup_singleton review) ?_
          simp only [List.mem_singleton, forall_eq, hid]
          exact fun old hold => (h.fresh old hold).2.ne
        · intro old hold
          rcases List.mem_append.mp hold with hold | hold
          · exact ⟨(h.fresh old hold).1, (h.fresh old hold).2.trans hlt⟩
          · rw [List.mem_singleton.mp hold, hid]
            exact ⟨h.nextId, hlt⟩
        · intro old hold
          rcases List.mem_append.mp hold with hold | hold
          · exact h.candidate old hold
          · rwa [List.mem_singleton.mp hold]
        · intro old hold
          rcases List.mem_append.mp hold with hold | hold
          · exact h.conditions old hold
          · rwa [List.mem_singleton.mp hold]
        · rw [List.map_append, h.types, List.map_singleton, htype]
  · exact ⟨le_rfl, by simp, List.nodup_nil, by simp, by simp, by simp, rfl⟩

/-- Lists over the same rows with the same keys are the same if the keys tell the rows apart. -/
theorem eq_of_map_eq {α β : Type} {f : α → β} {xs ys : List α} (hsub : ∀ x ∈ xs, x ∈ ys)
    (hmap : xs.map f = ys.map f) (hnodup : (ys.map f).Nodup) : xs = ys := by
  have hlength : xs.length = ys.length := by simpa using congrArg List.length hmap
  refine List.ext_getElem hlength fun i hi hi' => ?_
  refine List.inj_on_of_nodup_map hnodup (hsub _ (List.getElem_mem hi)) (List.getElem_mem hi') ?_
  have hget : (xs.map f)[i]? = (ys.map f)[i]? := by rw [hmap]
  simpa [hi, hi'] using hget

/-- The reviews of a candidate that has them all. -/
theorem reviewed_materialize {candidate : DecisionCandidate}
    (hall : (db.tables.domain.reviewsOf candidate.id).map ControllerReview.controllerType =
      requiredControllerTypes) :
    Ensures (requiredControllerTypes.foldlM (fun reviews type => do
        return reviews ++ [← materializeControllerReview R answer w candidate type]) [])
      (fun reviews db' => db' = db ∧ reviews = db.tables.domain.reviewsOf candidate.id) db := by
  let found (done : List String) (reviews : List ControllerReview)
      (db' : AgentDatabase M DecisionTables) : Prop :=
    db' = db ∧ reviews.map ControllerReview.controllerType = done ∧
      ∀ review ∈ reviews, review ∈ db.tables.domain.reviewsOf candidate.id
  have hloop : Ensures (requiredControllerTypes.foldlM (fun reviews type => do
      return reviews ++ [← materializeControllerReview R answer w candidate type]) [])
      (found requiredControllerTypes) db := by
    refine Ensures.foldlM_prefix (I := found) ?_ ⟨rfl, rfl, by simp⟩
    rintro pre type post heq reviews _ ⟨rfl, htypes, hmem⟩
    rw [ensures_bind]
    refine (ensures_materializeControllerReview R answer w candidate type).mono ?_
    rintro review db₂ hmade
    rw [ensures_pure]
    cases hmade with
    | existing hmine htype =>
        refine ⟨rfl, by rw [List.map_append, htypes, List.map_singleton, htype], ?_⟩
        intro old hold
        rcases List.mem_append.mp hold with hold | hold
        · exact hmem old hold
        · rwa [List.mem_singleton.mp hold]
    | made hnew =>
        have hrequired : type ∈ requiredControllerTypes := by
          rw [heq]
          exact List.mem_append_right _ List.mem_cons_self
        rw [← hall] at hrequired
        obtain ⟨old, hold, htype⟩ := List.mem_map.mp hrequired
        exact absurd htype (hnew old hold)
  refine hloop.mono ?_
  rintro reviews db' ⟨hdb, htypes, hmem⟩
  refine ⟨hdb, eq_of_map_eq hmem (htypes.trans hall.symm) ?_⟩
  rw [hall]
  decide

theorem DecisionTables.reviewsOf_gate (candidateId : Id) (t : DecisionTables) :
    t.gate.reviewsOf candidateId = (t.reviewsOf candidateId).map ControllerReview.core :=
  List.filter_map

/-- The reviews of the latest candidate, as the gate sees them. -/
theorem prepared_materializeControllerReviews (h : DecisionGated db)
    (hw : w ∈ db.tables.domain.decisionWorkflows) (hfinal : w.finalDecisionId = none)
    {candidate : DecisionCandidate}
    (hc : candidate.core ∈ db.tables.domain.gate.decisionCandidates)
    (hworkflow : candidate.workflowId = w.id) :
    Ensures (materializeControllerReviews R answer w candidate) (fun reviews db' =>
      Prepared db db' ∧
      db'.tables.domain.gate.decisionCandidates = db.tables.domain.gate.decisionCandidates ∧
      db'.tables.domain.gate.reviewsOf candidate.id = reviews.map ControllerReview.core ∧
      reviews.map ControllerReview.controllerType = requiredControllerTypes) db := by
  rw [materializeControllerReviews, ensures_bind]
  have hloop : Ensures (requiredControllerTypes.foldlM (fun reviews type => do
      return reviews ++ [← materializeControllerReview R answer w candidate type]) [])
      (fun reviews db' => Prepared db db' ∧
        db'.tables.domain.gate.decisionCandidates = db.tables.domain.gate.decisionCandidates ∧
        db'.tables.domain.gate.reviewsOf candidate.id = reviews.map ControllerReview.core ∧
        reviews.map ControllerReview.controllerType = requiredControllerTypes) db := by
    rcases h.reviewed candidate.core hc with hnone | hall
    · have hnone' : db.tables.domain.reviewsOf candidate.id = [] := by
        rw [DecisionTables.reviewsOf_gate] at hnone
        exact List.map_eq_nil_iff.mp hnone
      refine (reviewing_materialize R answer w hnone').mono fun reviews db' hmade => ?_
      have hgate : db'.tables.domain.gate = { db.tables.domain.gate with
          controllerReviews := db.tables.domain.gate.controllerReviews ++
            reviews.map ControllerReview.core } := by
        rw [hmade.domain]
        simp [DecisionTables.gate]
      obtain ⟨hgated, hkept, hmine⟩ := DecisionTables.Gated.addReviews h hw hfinal hc hworkflow
        hnone (reviews.map ControllerReview.core) hmade.nextId
        (by simpa [Table.KeysNodup, Function.comp_def, ControllerReview.core] using hmade.ids)
        (by simpa [ControllerReview.core] using hmade.fresh)
        (by simpa [ControllerReview.core, DecisionCandidate.core] using hmade.candidate)
        (by simpa [ControllerReview.core] using hmade.conditions)
        (by simpa [Function.comp_def, ControllerReview.core] using hmade.types)
      refine ⟨⟨?_, ?_, ?_⟩, ?_, ?_, hmade.types⟩
      · rw [DecisionGated, hgate]
        exact hgated
      · rw [hmade.domain]
      · rw [hgate]
        exact hkept
      · rw [hgate]
      · rw [hgate]
        exact hmine
    · have hall' : (db.tables.domain.reviewsOf candidate.id).map
          ControllerReview.controllerType = requiredControllerTypes := by
        rw [DecisionTables.reviewsOf_gate, List.map_map] at hall
        exact hall
      refine (reviewed_materialize R answer w hall').mono ?_
      rintro reviews db' ⟨rfl, rfl⟩
      exact ⟨h.frames (refl _), rfl, DecisionTables.reviewsOf_gate _ _, hall'⟩
  refine hloop.mono fun reviews db₁ h₁ => ?_
  obtain ⟨hprepared, hcandidates, hreviews, htypes⟩ := h₁
  have hupdate := (gateFrames (M := M) 0).modifyTables _ (sameGate_updateCandidate candidate.id
    (f := fun c => { c with controllerReviewIds := reviews.map ControllerReview.id }) fun _ => rfl)
  refine hupdate.ensures_bind fun _ db₂ hframes => ?_
  rw [ensures_pure]
  have hgate : db₂.tables.domain.gate = db₁.tables.domain.gate := hframes.domain
  refine ⟨hprepared.frames hframes, ?_, ?_, htypes⟩
  · rw [hgate]
    exact hcandidates
  · rw [hgate]
    exact hreviews

/-! ### The Decision -/

theorem DecisionTables.gate_materialize (t : DecisionTables) (decision : FinalDecision)
    (candidateId id : Id) :
    { t with
      decisions := t.decisions ++ [decision]
      controllerReviews := Table.modify ControllerReview.decisionCandidateId candidateId
        (fun review => { review with decisionId := some id }) t.controllerReviews }.gate =
      { t.gate with decisions := t.gate.decisions ++ [decision.core] } := by
  have hreviews : (Table.modify ControllerReview.decisionCandidateId candidateId
      (fun review => { review with decisionId := some id }) t.controllerReviews).map
        ControllerReview.core = t.controllerReviews.map ControllerReview.core := by
    rw [Table.modify, List.map_map]
    refine List.map_congr_left fun review _ => ?_
    simp only [Function.comp_apply]
    split <;> rfl
  simp [DecisionTables.gate, hreviews]

/-- A Decision is made of the latest candidate when it has passed. -/
theorem advances_materializeFinalDecision (h : Prepared db db')
    (hw : w ∈ db.tables.domain.decisionWorkflows) (hfinal : w.finalDecisionId = none)
    {candidate : DecisionCandidate}
    (hc : candidate.core ∈ db'.tables.domain.gate.decisionCandidates)
    (hworkflow : candidate.workflowId = w.id)
    (hpassed : db'.tables.domain.gate.Passed candidate.core) :
    Ensures (materializeFinalDecision now w candidate) (fun w' db'' =>
      Advances db w { w' with status := .awaitingDecisionApproval } db'') db' := by
  have hw' : w ∈ db'.tables.domain.gate.decisionWorkflows := by
    change w ∈ db'.tables.domain.decisionWorkflows
    rw [h.workflows]
    exact hw
  have hmade : ∀ decision : FinalDecision, decision.id = db'.nextId →
      decision.sourceCandidateId = some candidate.id → ∀ db₂ : AgentDatabase M DecisionTables,
      Frames SameGate { db'.applyJobOp 0 .newId with tables := { db'.tables with domain :=
        { db'.tables.domain with
          decisions := db'.tables.domain.decisions ++ [decision]
          controllerReviews := Table.modify ControllerReview.decisionCandidateId candidate.id
            (fun review => { review with decisionId := some db'.nextId })
            db'.tables.domain.controllerReviews } } } db₂ →
      Advances db w
        { w with finalDecisionId := some db'.nextId, status := .awaitingDecisionApproval } db₂ := by
    intro decision hid hsource db₂ hframes
    have hgate := hframes.domain.trans
      (DecisionTables.gate_materialize db'.tables.domain decision candidate.id db'.nextId)
    have hcore : decision.core.id = db'.nextId := hid
    have hcoreSource : decision.core.sourceCandidateId = some candidate.id := hsource
    obtain ⟨hgated, hkept⟩ := DecisionTables.Gated.materialize h.gated
      { w with finalDecisionId := some db'.nextId, status := .awaitingDecisionApproval }
      hw' hfinal hc hworkflow hpassed hcore hcoreSource rfl (congrArg some hcore.symm) rfl
    refine ⟨rfl, ?_, ?_⟩
    · rw [hgate]
      exact hgated.mono hframes.nextId
    · rw [hgate]
      exact trans_of DecisionTables.Kept h.kept hkept
  rw [materializeFinalDecision, ensures_bind, ensures_tables, hfinal]
  dsimp only
  rw [ensures_bind, ensures_check]
  intro _ _
  rw [ensures_bind, ensures_newId, ensures_bind, ensures_modifyTables]
  refine (framesWithin_setCandidateStatus candidate .materialized).ensures_bind fun _ db₁ h₁ => ?_
  refine ((gateFrames now).addOutboxEvent _ _).ensures_bind fun _ db₂ h₂ => ?_
  rw [ensures_pure]
  exact hmade _ rfl rfl db₂ (h₁.trans h₂)

theorem advances_concludeReviews (h : Prepared db db')
    (hw : w ∈ db.tables.domain.decisionWorkflows) (hfinal : w.finalDecisionId = none)
    {candidate : DecisionCandidate}
    (hc : candidate.core ∈ db'.tables.domain.gate.decisionCandidates)
    (hworkflow : candidate.workflowId = w.id) {reviews : List ControllerReview}
    {outcome : ControllerVerdict} (hpassed : outcome = .pass → db'.tables.domain.gate.Passed candidate.core) :
    Ensures (concludeReviews R now answer w candidate reviews outcome) (Advances db w) db' := by
  cases outcome with
  | block =>
      refine (framesWithin_setCandidateStatus candidate .blocked).ensures_bind fun _ db₁ h₁ => ?_
      rw [ensures_pure]
      exact (h.frames h₁).put hw hfinal rfl hfinal
  | revise | passWithConditions =>
      refine (framesWithin_setCandidateStatus candidate .revisionRequired).ensures_bind
        fun _ db₁ h₁ => ?_
      rw [ensures_ite]
      constructor
      · intro _
        rw [ensures_pure]
        exact (h.frames h₁).put hw hfinal rfl hfinal
      · intro _
        exact prepared_enterChiefRunning R now answer w (h.frames h₁) hw hfinal rfl hfinal
  | pass =>
      refine (framesWithin_setCandidateStatus candidate .accepted).ensures_bind fun _ db₁ h₁ => ?_
      have hgate : db₁.tables.domain.gate = db'.tables.domain.gate := h₁.domain
      rw [ensures_bind]
      refine (advances_materializeFinalDecision now w (h.frames h₁) hw hfinal (hgate ▸ hc)
        hworkflow (hgate ▸ hpassed rfl)).mono fun w' db₂ h₂ => ?_
      rw [ensures_pure]
      exact h₂

/-! ### One step -/

theorem advances_advanceControllers (h : DecisionGated db)
    (hw : w ∈ db.tables.domain.decisionWorkflows) (hfinal : w.finalDecisionId = none) :
    Ensures (advanceControllers R now answer w) (Advances db w) db := by
  rw [advanceControllers, ensures_bind, ensures_tables, ensures_bind, ensures_check]
  intro candidate hlatest
  obtain ⟨hc, hworkflow, hmax⟩ := latestCandidate_spec w h hlatest
  refine (framesWithin_ensureControllerRuns R now answer w candidate).ensures_bind
    fun notReady db₁ h₁ => ?_
  have hprepared := h.frames h₁
  have hgate : db₁.tables.domain.gate = db.tables.domain.gate := h₁.domain
  rw [ensures_ite]
  constructor
  · intro _
    rw [ensures_bind, ensures_agentRuns]
    refine (framesWithin_enqueueWorkflowAdvance now w _).ensures_bind fun _ db₂ h₂ => ?_
    rw [ensures_pure]
    exact (hprepared.frames h₂).put hw hfinal rfl hfinal
  · intro _
    have hw₁ : w ∈ db₁.tables.domain.decisionWorkflows := by
      rw [hprepared.workflows]
      exact hw
    rw [ensures_bind]
    refine (prepared_materializeControllerReviews R answer w hprepared.gated hw₁ hfinal
      (hgate ▸ hc) hworkflow).mono fun reviews db₂ hreviewed => ?_
    obtain ⟨h₂, hcandidates, hreviews, htypes⟩ := hreviewed
    rw [ensures_bind, ensures_check]
    intro outcome houtcome
    refine advances_concludeReviews R now answer w (hprepared.trans h₂) hw hfinal ?_ hworkflow ?_
    · rw [hcandidates, hgate]
      exact hc
    · rintro rfl
      -- the reviews of the candidate are rows of the table
      have hsublist : (reviews.map ControllerReview.core).Sublist
          db₂.tables.domain.gate.controllerReviews := by
        rw [← hreviews]
        exact List.filter_sublist
      have hids : Table.KeysNodup ControllerReview.id reviews := by
        have hnodup := List.Nodup.sublist (hsublist.map ControllerReview.id) h₂.gated.reviews
        rwa [List.map_map] at hnodup
      have hclear := governedControllerOutcome_eq_pass houtcome hids fun review hreview =>
        h₂.gated.conditions review.core (hsublist.subset (List.mem_map_of_mem hreview))
      refine ⟨fun c' hc' => hmax c' ?_, ?_, fun review hreview => ?_⟩
      · rwa [hcandidates, hgate] at hc'
      · change (db₂.tables.domain.gate.reviewsOf candidate.id).map _ = _
        rw [hreviews, List.map_map]
        exact htypes
      · change review ∈ db₂.tables.domain.gate.reviewsOf candidate.id at hreview
        rw [hreviews] at hreview
        obtain ⟨made, hmade, rfl⟩ := List.mem_map.mp hreview
        rcases hclear made hmade with hclear | hexempt
        · exact .inl ⟨hclear.verdict, hclear.conditions, hclear.changes⟩
        · exact .inr ⟨hexempt.type, hexempt.verdict, hexempt.missing, hexempt.lowRisk⟩

theorem advances_advanceWorkflow (h : DecisionGated db)
    (hw : w ∈ db.tables.domain.decisionWorkflows) :
    Ensures (advanceWorkflow R now answer w) (Advances db w) db := by
  -- a workflow that is still running has no Decision
  have hfinal : w.status ≠ .awaitingDecisionApproval → w.status ≠ .approvedForProduction →
      w.finalDecisionId = none := by
    intro hawaiting happroved
    cases hdecided : w.finalDecisionId with
    | none => rfl
    | some decisionId =>
        rcases (h.final w hw decisionId hdecided).1 with hstatus | hstatus
        · exact absurd hstatus hawaiting
        · exact absurd hstatus happroved
  have hrefl := h.frames (refl _ : Frames SameGate db db)
  unfold advanceWorkflow
  split
  next hstatus =>
    have hnone := hfinal (by simp [hstatus]) (by simp [hstatus])
    refine (framesWithin_ensureSpecialistRuns R now answer w).ensures_bind fun _ db₁ h₁ => ?_
    refine (framesWithin_enqueueWorkflowAdvance now w _).ensures_bind fun _ db₂ h₂ => ?_
    rw [ensures_pure]
    exact ((hrefl.frames h₁).frames h₂).put hw hnone rfl hnone
  next hstatus =>
    have hnone := hfinal (by simp [hstatus]) (by simp [hstatus])
    refine (framesWithin_ensureSpecialistRuns R now answer w).ensures_bind
      fun notReady db₁ h₁ => ?_
    rw [ensures_ite]
    constructor
    · intro _
      rw [ensures_bind, ensures_agentRuns]
      refine (framesWithin_enqueueWorkflowAdvance now w _).ensures_bind fun _ db₂ h₂ => ?_
      rw [ensures_pure]
      exact ((hrefl.frames h₁).frames h₂).put hw hnone rfl hnone
    · intro _
      have hcontributions := within_materializeSpecialistContributions (gateFrames 0)
        (fun _ _ => rfl) R answer w
      refine hcontributions.ensures_bind fun _ db₂ h₂ => ?_
      exact prepared_enterChiefRunning R now answer w ((hrefl.frames h₁).frames h₂) hw hnone rfl
        hnone
  next hstatus =>
    have hnone := hfinal (by simp [hstatus]) (by simp [hstatus])
    refine (framesWithin_ensureChiefRun R now answer w).ensures_bind fun notReady db₁ h₁ => ?_
    rw [ensures_ite]
    constructor
    · intro _
      rw [ensures_bind, ensures_tables, ensures_bind, ensures_agentRuns]
      refine (framesWithin_enqueueWorkflowAdvance now w _).ensures_bind fun _ db₂ h₂ => ?_
      rw [ensures_pure]
      exact ((hrefl.frames h₁).frames h₂).put hw hnone rfl hnone
    · intro _
      rw [ensures_bind]
      refine (prepared_materializeCandidate R answer w (hrefl.frames h₁) hw hnone).mono
        fun candidate db₂ h₂ => ?_
      refine (framesWithin_ensureControllerRuns R now answer w candidate).ensures_bind
        fun _ db₃ h₃ => ?_
      refine (framesWithin_setCandidateStatus candidate .underReview).ensures_bind
        fun _ db₄ h₄ => ?_
      refine (framesWithin_enqueueWorkflowAdvance now w _).ensures_bind fun _ db₅ h₅ => ?_
      rw [ensures_pure]
      exact (((h₂.frames h₃).frames h₄).frames h₅).put hw hnone rfl hnone
  next hstatus =>
    have hnone := hfinal (by simp [hstatus]) (by simp [hstatus])
    exact advances_advanceControllers R now answer w h hw hnone
  next =>
    rw [ensures_pure]
    obtain ⟨hgated, hkept⟩ := DecisionTables.Gated.put h hw rfl rfl fun hsome => by
      obtain ⟨decisionId, hdecided⟩ := Option.ne_none_iff_exists'.mp hsome
      exact (h.final w hw decisionId hdecided).1
    exact ⟨rfl, hgated, hkept⟩

end Stages

/-! ## Handlers and commands -/

/-- The invariant is kept, and Decisions that are made stay. -/
structure Secures (db db' : AgentDatabase M DecisionTables) : Prop where
  gated : DecisionGated db'
  kept : db.tables.domain.gate.Kept db'.tables.domain.gate

section Handlers

variable {db db' : AgentDatabase M DecisionTables} {now : Time}

theorem Prepared.secures (h : Prepared db db') : Secures db db' := ⟨h.gated, h.kept⟩

theorem Secures.frames {db'' : AgentDatabase M DecisionTables} (h : Secures db db')
    (hframes : Frames SameGate db' db'') : Secures db db'' :=
  have hnext := h.gated.frames hframes
  ⟨hnext.gated, trans_of DecisionTables.Kept h.kept hnext.kept⟩

/-- A new workflow, and whatever leaves the gate alone. -/
theorem Prepared.inserted (h : Prepared db db') {w : DecisionWorkflow} (hid : w.id = db'.nextId)
    (hfinal : w.finalDecisionId = none) {db'' : AgentDatabase M DecisionTables}
    (hframes : Frames SameGate (w.inserted db') db'') : Secures db db'' := by
  obtain ⟨hgated, hkept⟩ := DecisionTables.Gated.addWorkflow h.gated hid hfinal
  have hsecures : Secures db (w.inserted db') :=
    ⟨hgated, trans_of DecisionTables.Kept h.kept hkept⟩
  exact hsecures.frames hframes

/-- Writing the row of a workflow without its Decision, and whatever leaves the gate alone. -/
theorem Prepared.written (h : Prepared db db') {w w' : DecisionWorkflow}
    (hw : w ∈ db.tables.domain.decisionWorkflows) (hid : w'.id = w.id)
    (hfinal : w'.finalDecisionId = w.finalDecisionId)
    (hstatus : w'.status = .approvedForProduction) {db'' : AgentDatabase M DecisionTables}
    (hframes : Frames SameGate (w'.written db') db'') : Secures db db'' := by
  have hw' : w ∈ db'.tables.domain.gate.decisionWorkflows := by
    change w ∈ db'.tables.domain.decisionWorkflows
    rw [h.workflows]
    exact hw
  obtain ⟨hgated, hkept⟩ := DecisionTables.Gated.put h.gated hw' hid hfinal fun _ => .inr hstatus
  have hsecures : Secures db (w'.written db') :=
    ⟨hgated, trans_of DecisionTables.Kept h.kept hkept⟩
  exact hsecures.frames hframes

theorem secures_decisionWorkflowAdvanceHandler (R : RunReader M) (answer : DecisionAnswer)
    (context : RuntimeJobContext) (workflowId : Id) (h : DecisionGated db) :
    Ensures (decisionWorkflowAdvanceHandler R now answer context workflowId)
      (fun _ => Secures db) db := by
  rw [decisionWorkflowAdvanceHandler, ensures_bind, ensures_tables, ensures_bind, ensures_check]
  intro w hfound
  have hw : w ∈ db.tables.domain.decisionWorkflows :=
    Table.mem_of_find (orRaise_eq_ok_iff.mp hfound)
  rw [ensures_bind, ensures_check]
  intro _ _
  rw [ensures_bind]
  refine (advances_advanceWorkflow R now answer w h hw).mono fun w' db₁ h₁ => ?_
  rw [ensures_bind, DecisionWorkflow.putWorkflow, ensures_modifyTables]
  have hsecures : Secures db { db₁ with tables := { db₁.tables with
      domain := db₁.tables.domain.put w' } } := ⟨h₁.gated, h₁.kept⟩
  rw [ensures_ite]
  constructor
  · intro _
    rw [ensures_check]
    exact fun _ _ => hsecures
  · intro _
    rw [ensures_pure]
    exact hsecures

theorem framesWithin_performForeign (works : List ForeignWork) :
    Within (Frames SameGate) (DecisionWorkflow.performForeign (M := M) now works) :=
  (gateFrames now).foldlM (fun _ work => framesWithin_perform now _ _ work) _

theorem secures_startDecisionWorkflow (h : DecisionGated db) (scope : TenantScope)
    (source : SnapshotSource) (launchId : Option Id) (maxRevisionRounds : ℤ) :
    Ensures (startDecisionWorkflow now scope source launchId maxRevisionRounds)
      (fun _ => Secures db) db := by
  refine (within_takeSnapshot (gateFrames now) (fun _ _ => rfl) scope source).ensures_bind
    fun snapshot db₁ h₁ => ?_
  have hprepared := h.frames h₁
  rw [ensures_bind, ensures_tables, ensures_bind, ensures_check]
  intro _ _
  split
  next existing _ =>
    refine (framesWithin_enqueueWorkflowAdvance now existing _).ensures_bind fun _ db₂ h₂ => ?_
    rw [ensures_pure]
    exact (hprepared.frames h₂).secures
  next =>
    rw [ensures_bind, ensures_check]
    intro _ _
    rw [ensures_bind, ensures_newId, ensures_bind, ensures_modifyTables]
    refine ((gateFrames now).addOutboxEvent _ _).ensures_bind fun _ db₂ h₂ => ?_
    refine (framesWithin_enqueueWorkflowAdvance now _ _).ensures_bind fun _ db₃ h₃ => ?_
    rw [ensures_pure]
    exact hprepared.inserted rfl rfl (h₂.trans h₃)

theorem secures_approveDecisionForProduction (h : DecisionGated db) (scope : TenantScope)
    (workflowId : Id) (approvedByUserId : String) :
    Ensures (approveDecisionForProduction now scope workflowId approvedByUserId)
      (fun _ => Secures db) db := by
  have hrefl : Secures db db := ⟨h, refl _⟩
  rw [approveDecisionForProduction, ensures_bind, ensures_tables, ensures_bind, ensures_check]
  intro w hfound
  have hw : w ∈ db.tables.domain.decisionWorkflows :=
    Table.mem_of_find (orRaise_eq_ok_iff.mp hfound)
  rw [ensures_bind, ensures_check]
  intro _ _
  rw [ensures_ite]
  constructor
  · intro _
    rw [ensures_check]
    exact fun _ _ => hrefl
  · intro _
    rw [ensures_bind, ensures_check]
    rintro ⟨decision, candidateId⟩ hawaited
    dsimp only
    split
    next =>
      rw [ensures_pure]
      exact hrefl
    next =>
      rw [ensures_bind, ensures_newId]
      refine Within.ensures_bind ((gateFrames now).modifyTables _ fun t => ?same)
        fun _ db₁ h₁ => ?_
      case same =>
        have hdecisions : (Table.modify FinalDecision.id decision.id
            (fun decision => { decision with approvedForProduction := true }) t.decisions).map
              FinalDecision.core = t.decisions.map FinalDecision.core := by
          rw [Table.modify, List.map_map]
          refine List.map_congr_left fun row _ => ?_
          simp only [Function.comp_apply]
          split <;> rfl
        simp only [SameGate, DecisionTables.gate, hdecisions]
      have hnew : Frames SameGate db (db.applyJobOp 0 .newId) := ⟨Nat.le_succ _, rfl⟩
      have hprepared := h.frames (hnew.trans h₁)
      rw [ensures_bind, DecisionWorkflow.putWorkflow, ensures_modifyTables]
      refine ((gateFrames now).addOutboxEvent _ _).ensures_bind fun _ db₂ h₂ => ?_
      rw [ensures_pure]
      refine hprepared.written hw ?_ ?_ ?_ h₂ <;> rfl

theorem secures_command (h : DecisionGated db) (c : DecisionCommand) :
    Ensures (runCommand now c) (fun _ => Secures db) db := by
  cases c with
  | startDecisionWorkflow scope source launchId maxRevisionRounds =>
      exact secures_startDecisionWorkflow h scope source launchId maxRevisionRounds
  | approveDecisionForProduction scope workflowId approvedByUserId =>
      rw [runCommand, ensures_bind]
      refine (secures_approveDecisionForProduction h scope workflowId approvedByUserId).mono
        fun _ db' h' => ?_
      rw [ensures_pure]
      exact h'
  | writeBusiness businessSnapshots launches =>
      rw [runCommand, ensures_modifyTables]
      refine (h.frames ?_).secures
      exact ⟨le_rfl, rfl⟩
  | foreign work =>
      exact (framesWithin_performForeign [work] db).mono
        fun _ db' hframes => (h.frames hframes).secures

theorem secures_handler (R : RunReader M) (answer : DecisionAnswer) (context : RuntimeJobContext)
    (payload : JobPayload) (h : DecisionGated db) :
    Ensures (handler R now answer context payload) (fun _ => Secures db) db := by
  unfold handler
  split
  next => exact secures_decisionWorkflowAdvanceHandler R answer context _ h
  next =>
    rw [ensures_bind, ensures_check]
    intro works _
    exact (framesWithin_performForeign works db).mono
      fun _ db' hframes => (h.frames hframes).secures

end Handlers

/-! ## Runs -/

/-- Every step keeps the invariant and the Decisions that are made. -/
theorem secures_step (R : RunReader M) {t : DecisionTables} {s : DecisionState M}
    (h : DecisionGated s.db ∧ t.gate.Kept s.db.tables.domain.gate)
    (action : Action (DomainAnswer M DecisionAnswer) DecisionCommand) :
    DecisionGated ((decisionApp R).app.step action s).db ∧
      t.gate.Kept ((decisionApp R).app.step action s).db.tables.domain.gate := by
  obtain ⟨hgated, hkept⟩ := h
  refine (decisionApp R).domain_step
    (I := fun nextId t' => t'.gate.Gated nextId ∧ t.gate.Kept t'.gate)
    (fun hle h => ⟨h.1.mono hle, h.2⟩) ⟨hgated, hkept⟩ ?_ ?_ action
  · intro c db hok
    obtain ⟨hgated', hkept'⟩ := (secures_command hgated c).of_exec hok
    exact ⟨hgated', trans_of DecisionTables.Kept hkept hkept'⟩
  · intro context payload answer db hok
    obtain ⟨hgated', hkept'⟩ := (secures_handler R answer context payload hgated).of_exec hok
    exact ⟨hgated', trans_of DecisionTables.Kept hkept hkept'⟩

theorem secures_run (R : RunReader M) {s : DecisionState M} (h : DecisionGated s.db)
    (actions : List (Action (DomainAnswer M DecisionAnswer) DecisionCommand)) :
    DecisionGated (run (decisionApp R).app.step s actions).db ∧ s.db.tables.domain.gate.Kept
      (run (decisionApp R).app.step s actions).db.tables.domain.gate :=
  invariant_run_of_step (decisionApp R).app.step
    (I := fun s' => DecisionGated s'.db ∧ s.db.tables.domain.gate.Kept s'.db.tables.domain.gate)
    (fun _ action h' => secures_step R h' action) ⟨h, refl _⟩ actions

/-- A state with nothing of the runtime and nothing of a decision workflow in it. -/
structure DecisionState.Empty (s : DecisionState M) : Prop where
  initial : DecisionState.Initial s
  decisionCandidates : s.db.tables.domain.decisionCandidates = []
  controllerReviews : s.db.tables.domain.controllerReviews = []
  decisions : s.db.tables.domain.decisions = []

theorem DecisionState.Empty.gated {s : DecisionState M} (h : DecisionState.Empty s) :
    DecisionGated s.db := by
  constructor <;>
    simp [DecisionTables.gate, h.initial.decisionWorkflows, h.decisionCandidates, h.controllerReviews,
      h.decisions, Table.keysNodup_nil]

/-- The Decisions that were made of candidates of a workflow. -/
def DecisionTables.decisionsOf (workflowId : Id) (t : DecisionTables) : List FinalDecision :=
  t.decisions.filter fun decision => t.decisionCandidates.any fun c =>
    c.workflowId = workflowId && decision.sourceCandidateId = some c.id

/-- What passes the gate has passed it as the table has it. -/
theorem DecisionTables.Passed.of_gate {t : DecisionTables} {c : DecisionCandidate}
    (h : t.gate.Passed c.core) : t.Passed c := by
  have hreviews : t.gate.reviewsOf c.id = (t.reviewsOf c.id).map ControllerReview.core :=
    reviewsOf_gate c.id t
  refine ⟨fun c' hc' => h.latest c'.core (mem_gate_candidates hc'), ?_, fun review hreview => ?_⟩
  · have htypes := h.types
    change (t.gate.reviewsOf c.id).map _ = _ at htypes
    rwa [hreviews, List.map_map] at htypes
  · have hmem : review.core ∈ t.gate.reviewsOf c.core.id := by
      change review.core ∈ t.gate.reviewsOf c.id
      rw [hreviews]
      exact List.mem_map_of_mem hreview
    rcases h.clear review.core hmem with hclear | hexempt
    · exact .inl ⟨hclear.verdict, hclear.conditions, hclear.changes⟩
    · exact .inr ⟨hexempt.type, hexempt.verdict, hexempt.missing, hexempt.lowRisk⟩

section Gated

variable {t : DecisionTables} {nextId : Id}

/-- A Decision of a workflow is the one the workflow is linked to. -/
theorem DecisionTables.Gated.decisionsOf_eq (h : t.gate.Gated nextId) {w : DecisionWorkflow}
    (hw : w ∈ t.decisionWorkflows) {decision : FinalDecision}
    (hdecision : decision ∈ t.decisionsOf w.id) : w.finalDecisionId = some decision.id := by
  obtain ⟨hmem, hany⟩ := List.mem_filter.mp hdecision
  obtain ⟨c, hc, hsame⟩ := List.any_eq_true.mp hany
  simp only [Bool.and_eq_true, decide_eq_true_eq] at hsame
  have hcore : decision.core ∈ t.gate.decisions := List.mem_map_of_mem hmem
  have hfinal : w.finalDecisionId = some decision.core.id :=
    h.decision_unique hw hcore (mem_gate_candidates hc) hsame.2 hsame.1
  exact hfinal

theorem DecisionTables.Gated.length_decisionsOf (h : t.gate.Gated nextId) {w : DecisionWorkflow}
    (hw : w ∈ t.decisionWorkflows) : (t.decisionsOf w.id).length ≤ 1 := by
  have hids : Table.KeysNodup FinalDecision.id t.decisions := by
    have hgate := h.decisions
    rw [Table.KeysNodup, gate, List.map_map] at hgate
    exact hgate
  have hmine : Table.KeysNodup FinalDecision.id (t.decisionsOf w.id) :=
    List.Nodup.sublist (List.filter_sublist.map FinalDecision.id) hids
  refine hmine.length_le_one fun a ha b hb => ?_
  exact Option.some.inj ((h.decisionsOf_eq hw ha).symm.trans (h.decisionsOf_eq hw hb))

/-- The Decision a workflow is linked to was made of a candidate that has passed. -/
theorem DecisionTables.Gated.decided (h : t.gate.Gated nextId) {w : DecisionWorkflow}
    (hw : w ∈ t.decisionWorkflows) {decisionId : Id}
    (hfinal : w.finalDecisionId = some decisionId) :
    ∃ decision ∈ t.decisionsOf w.id, decision.id = decisionId ∧ ∃ c ∈ t.decisionCandidates,
      decision.sourceCandidateId = some c.id ∧ c.workflowId = w.id ∧ t.Passed c := by
  obtain ⟨-, _, hdecision, hid, _, hc, hsource, hworkflow, hpassed⟩ := h.final w hw decisionId hfinal
  obtain ⟨decision, hmem, rfl⟩ := List.mem_map.mp hdecision
  obtain ⟨c, hc', rfl⟩ := List.mem_map.mp hc
  have hsource' : decision.sourceCandidateId = some c.id := hsource
  refine ⟨decision, List.mem_filter.mpr ⟨hmem, List.any_eq_true.mpr ⟨c, hc', ?_⟩⟩, hid, c, hc',
    hsource', hworkflow, .of_gate hpassed⟩
  rw [Bool.and_eq_true, decide_eq_true_eq, decide_eq_true_eq]
  exact ⟨hworkflow, hsource'⟩

end Gated

theorem decisionStart_empty : DecisionState.Empty decisionStart where
  initial := decisionStart_initial
  decisionCandidates := rfl
  controllerReviews := rfl
  decisions := rfl

end LaunchOS
