import Mathlib.Data.List.Dedup
import LaunchOS.AiRuntime.Schemas
import LaunchOS.Lib.Run
import LaunchOS.Lib.Txn

/-!
# Epistemic status

`domain/epistemic.py` and the objects of `domain/entities.py` that have an epistemic status. The objects
are values: a transition makes a new one, with the next version.

The module introduces:

* `transitionEpistemicStatus`: which status may follow which, and on what basis;
* `Evidence`, `Claim`, `Hypothesis`, with their transitions;
* `EpistemicStatus.Open`: the statuses from which `FACT` may still be reached;
* `evidence_fact_grounded`, `evidence_changes_bounded`: the history of an evidence;
* `claim_fact_grounded`: a claim that is a fact names its evidence.
-/

namespace LaunchOS

namespace Domain

open Transition

/-! ## Transitions -/

/-- `VerificationBasis` -/
inductive VerificationBasis
  | deterministicSource
  | humanReview
  | calculation
  | modelConfidence
deriving DecidableEq, Repr

/-- `InvalidEpistemicTransition` -/
structure InvalidEpistemicTransition where
  message : String
deriving DecidableEq, Repr

/-- `allowed_fact_sources` -/
def allowedFactSources : List EpistemicStatus := [.observation, .derivedFact, .assumption]

/-- `allowed` -/
def allowedTransitions : List (EpistemicStatus × EpistemicStatus) :=
  [(.unknown, .observation), (.unknown, .assumption), (.unknown, .hypothesis),
    (.observation, .fact), (.observation, .conflict),
    (.assumption, .fact), (.assumption, .rejected),
    (.hypothesis, .rejected), (.hypothesis, .invalidated),
    (.fact, .invalidated),
    (.derivedFact, .fact), (.derivedFact, .invalidated),
    (.conflict, .rejected), (.conflict, .invalidated)]

/-- The checks of a promotion to `FACT`. -/
def checkFactPromotion (current : EpistemicStatus) (basis : VerificationBasis)
    (evidenceIds : List String) : Except InvalidEpistemicTransition Unit :=
  if basis = .modelConfidence then
    .error ⟨"model confidence cannot promote any epistemic object to FACT"⟩
  else if evidenceIds = [] then
    .error ⟨"FACT promotion requires durable evidence references"⟩
  else if current ∉ allowedFactSources then
    .error ⟨current.value ++ " cannot transition directly to FACT"⟩
  else .ok ()

/-- `transition_epistemic_status` -/
def transitionEpistemicStatus (current target : EpistemicStatus) (basis : VerificationBasis)
    (evidenceIds : List String) : Except InvalidEpistemicTransition EpistemicStatus :=
  -- nothing is checked of a transition that stays where it is
  if current = target then .ok target
  else do
    if target = .fact then checkFactPromotion current basis evidenceIds
    if (current, target) ∉ allowedTransitions then
      .error ⟨"invalid epistemic transition: " ++ current.value ++ " -> " ++ target.value⟩
    else .ok target

/-- A change of status that is accepted. -/
structure Accepted (current target : EpistemicStatus) (basis : VerificationBasis)
    (evidenceIds : List String) : Prop where
  allowed : (current, target) ∈ allowedTransitions
  basis : target = .fact → basis ≠ .modelConfidence
  evidence : target = .fact → evidenceIds ≠ []

section Transitions

variable {current target new : EpistemicStatus} {basis : VerificationBasis}
variable {evidenceIds : List String}

theorem checkFactPromotion_eq_ok_iff : checkFactPromotion current basis evidenceIds = .ok () ↔
    basis ≠ .modelConfidence ∧ evidenceIds ≠ [] ∧ current ∈ allowedFactSources := by
  unfold checkFactPromotion
  by_cases hbasis : basis = .modelConfidence
  · simp [hbasis]
  · by_cases hids : evidenceIds = []
    · simp [hbasis, hids]
    · by_cases hsource : current ∈ allowedFactSources <;> simp [hbasis, hids, hsource]

/-- The two tables of the source agree on where a fact comes from. -/
theorem mem_allowedFactSources_iff :
    current ∈ allowedFactSources ↔ (current, EpistemicStatus.fact) ∈ allowedTransitions := by
  cases current <;> simp [allowedFactSources, allowedTransitions]

/-- What a transition may do: nothing, or a change that is accepted. -/
theorem transitionEpistemicStatus_eq_ok_iff :
    transitionEpistemicStatus current target basis evidenceIds = .ok new ↔
      new = target ∧ (current = target ∨ Accepted current target basis evidenceIds) := by
  unfold transitionEpistemicStatus
  by_cases hsame : current = target
  · simp [hsame, eq_comm]
  rw [if_neg hsame]
  by_cases hfact : target = .fact
  · subst hfact
    rw [if_pos rfl, Except.bind_eq_ok_iff]
    constructor
    · rintro ⟨⟨⟩, hcheck, hnew⟩
      obtain ⟨hbasis, hids, -⟩ := checkFactPromotion_eq_ok_iff.mp hcheck
      split at hnew
      next => cases hnew
      next hallowed =>
        cases hnew
        exact ⟨rfl, .inr ⟨not_not.mp hallowed, fun _ => hbasis, fun _ => hids⟩⟩
    · rintro ⟨rfl, hold | haccepted⟩
      · exact absurd hold hsame
      · refine ⟨(), ?_, ?_⟩
        · exact checkFactPromotion_eq_ok_iff.mpr ⟨haccepted.basis rfl, haccepted.evidence rfl,
            mem_allowedFactSources_iff.mpr haccepted.allowed⟩
        · rw [if_neg (not_not.mpr haccepted.allowed)]
  · have haccepted : Accepted current target basis evidenceIds ↔
        (current, target) ∈ allowedTransitions :=
      ⟨fun h => h.allowed, fun h => ⟨h, fun h' => absurd h' hfact, fun h' => absurd h' hfact⟩⟩
    rw [if_neg hfact, haccepted]
    by_cases hallowed : (current, target) ∈ allowedTransitions <;> simp [hsame, hallowed, eq_comm]

end Transitions

/-! ## How far a status can go -/

/-- `FACT` has been reached, or may still be. -/
def Open : EpistemicStatus → Bool
  | .unknown | .observation | .assumption | .derivedFact | .fact => true
  | .hypothesis | .conflict | .rejected | .invalidated => false

/-- How far a status is along the transitions. -/
def rank : EpistemicStatus → ℕ
  | .unknown => 0
  | .observation | .assumption | .derivedFact | .hypothesis => 1
  | .fact | .conflict => 2
  | .rejected | .invalidated => 3

theorem rank_le (status : EpistemicStatus) : rank status ≤ 3 := by
  cases status <;> decide

/-- Every entry of the table leads upwards, and none leads back to where `FACT` is reached from. -/
theorem allowedTransitions_forward : ∀ pair ∈ allowedTransitions,
    rank pair.1 < rank pair.2 ∧ (Open pair.2 = true → Open pair.1 = true) := by
  decide

section Forward

variable {current target new : EpistemicStatus} {basis : VerificationBasis}
variable {evidenceIds : List String}

theorem Accepted.rank_lt (h : Accepted current target basis evidenceIds) :
    rank current < rank target :=
  (allowedTransitions_forward _ h.allowed).1

/-- What a transition leads to is no more open than where it starts. -/
theorem open_of_transition
    (h : transitionEpistemicStatus current target basis evidenceIds = .ok new)
    (hnew : Open new = true) : Open current = true := by
  obtain ⟨rfl, rfl | haccepted⟩ := transitionEpistemicStatus_eq_ok_iff.mp h
  · exact hnew
  · exact (allowedTransitions_forward _ haccepted.allowed).2 hnew

end Forward

/-! ## Evidence -/

/-- `Evidence` -/
structure Evidence where
  scope : TenantScope
  id : String
  sourceRecordId : String
  statement : String
  status : EpistemicStatus := .observation
  conflictsWithEvidenceIds : List String := []
  version : ℕ := 1
  updatedAt : ℤ
deriving DecidableEq, Repr

/-- `Evidence.transition_to` -/
def Evidence.transitionTo (now : ℤ) (evidence : Evidence) (target : EpistemicStatus)
    (basis : VerificationBasis) (evidenceIds : List String) :
    Except InvalidEpistemicTransition Evidence := do
  let newStatus ← transitionEpistemicStatus evidence.status target basis evidenceIds
  return { evidence with status := newStatus, version := evidence.version + 1, updatedAt := now }

/-- `Evidence.mark_conflict`. The source makes a set of the ids, which has no order of its own. -/
def Evidence.markConflict (now : ℤ) (evidence : Evidence) (conflictingEvidenceId : String) :
    Evidence :=
  -- the status is written without a look at the table of transitions
  { evidence with
    status := .conflict
    conflictsWithEvidenceIds :=
      (evidence.conflictsWithEvidenceIds ++ [conflictingEvidenceId]).dedup
    version := evidence.version + 1
    updatedAt := now }

/-- What the users of an evidence do with it. -/
inductive EvidenceOp
  | transitionTo (now : ℤ) (target : EpistemicStatus) (basis : VerificationBasis)
      (evidenceIds : List String)
  | markConflict (now : ℤ) (conflictingEvidenceId : String)
deriving DecidableEq, Repr

/-- An operation on the current version of an evidence, which stays when the operation raises. -/
def Evidence.step : EvidenceOp → Evidence → Evidence
  | .transitionTo now target basis evidenceIds, evidence =>
      match evidence.transitionTo now target basis evidenceIds with
      | .ok evidence => evidence
      | .error _ => evidence
  | .markConflict now conflictingEvidenceId, evidence =>
      evidence.markConflict now conflictingEvidenceId

/-- Whether the operation is a `mark_conflict`. -/
def EvidenceOp.marks : EvidenceOp → Bool
  | .markConflict _ _ => true
  | .transitionTo _ _ _ _ => false

/-- The operation makes a fact of the evidence, on evidence and not on the confidence of a model. -/
def EvidenceOp.Grounds (evidence : Evidence) : EvidenceOp → Prop
  | .transitionTo _ target basis evidenceIds =>
      target = .fact ∧ basis ≠ .modelConfidence ∧ evidenceIds ≠ [] ∧
        evidence.status ∈ allowedFactSources
  | .markConflict _ _ => False

namespace Evidence

variable {evidence : Evidence} {op : EvidenceOp}

theorem transitionTo_eq_ok_iff {now : ℤ} {target : EpistemicStatus} {basis : VerificationBasis}
    {evidenceIds : List String} {new : Evidence} :
    evidence.transitionTo now target basis evidenceIds = .ok new ↔
      (evidence.status = target ∨ Accepted evidence.status target basis evidenceIds) ∧
        new = { evidence with
          status := target, version := evidence.version + 1, updatedAt := now } := by
  unfold transitionTo
  rw [Except.bind_eq_ok_iff]
  constructor
  · rintro ⟨status, hstatus, hnew⟩
    obtain ⟨rfl, hmove⟩ := transitionEpistemicStatus_eq_ok_iff.mp hstatus
    exact ⟨hmove, (Except.pure_eq_ok_iff.mp hnew).symm⟩
  · rintro ⟨hmove, rfl⟩
    exact ⟨target, transitionEpistemicStatus_eq_ok_iff.mpr ⟨rfl, hmove⟩, rfl⟩

/-- What one operation does to the status of an evidence. -/
theorem status_step_cases (op : EvidenceOp) (evidence : Evidence) :
    (evidence.step op).status = evidence.status ∨
      (op.marks = true ∧ (evidence.step op).status = .conflict) ∨
      ∃ now target basis evidenceIds, op = .transitionTo now target basis evidenceIds ∧
        Accepted evidence.status target basis evidenceIds ∧ (evidence.step op).status = target := by
  cases op with
  | markConflict now conflictingEvidenceId => exact .inr (.inl ⟨rfl, rfl⟩)
  | transitionTo now target basis evidenceIds =>
      rw [Evidence.step]
      split
      next new hnew =>
        obtain ⟨hsame | haccepted, rfl⟩ := transitionTo_eq_ok_iff.mp hnew
        · exact .inl hsame.symm
        · exact .inr (.inr ⟨now, target, basis, evidenceIds, rfl, haccepted, rfl⟩)
      next => exact .inl rfl

/-- Once `FACT` is out of reach, it stays so. -/
theorem open_of_step (h : Open (evidence.step op).status = true) :
    Open evidence.status = true ∧ op.marks = false := by
  cases op with
  | markConflict => cases h
  | transitionTo now target basis evidenceIds =>
      refine ⟨?_, rfl⟩
      obtain hsame | ⟨hmarks, -⟩ | ⟨_, _, _, _, -, haccepted, hnew⟩ :=
        status_step_cases (.transitionTo now target basis evidenceIds) evidence
      · rw [← hsame]
        exact h
      · cases hmarks
      · rw [hnew] at h
        exact (allowedTransitions_forward _ haccepted.allowed).2 h

/-- An evidence from which `FACT` can be reached has never been in conflict. -/
theorem unmarked_of_open {ops : List EvidenceOp} (h : Open (run step evidence ops).status = true) :
    ∀ op ∈ ops, op.marks = false := by
  induction ops using List.reverseRecOn with
  | nil => simp
  | append_singleton ops op ih =>
      rw [run_append] at h
      obtain ⟨hbefore, hop⟩ := open_of_step h
      intro op' hop'
      rcases List.mem_append.mp hop' with hold | hnew
      · exact ih hbefore op' hold
      · rwa [List.mem_singleton.mp hnew]

end Evidence

/-- An evidence that is a fact was one from the start, or it has been made one by a transition that
names evidence and does not rest on the confidence of a model. It has never been in conflict. -/
theorem evidence_fact_grounded (evidence : Evidence) (ops : List EvidenceOp)
    (h : (run Evidence.step evidence ops).status = .fact) :
    (∀ op ∈ ops, op.marks = false) ∧ (evidence.status = .fact ∨
      ∃ before op after, ops = before ++ op :: after ∧
        op.Grounds (run Evidence.step evidence before)) := by
  have hopen : Open (run Evidence.step evidence ops).status = true := by
    rw [h]
    rfl
  refine ⟨Evidence.unmarked_of_open hopen, ?_⟩
  by_cases hstart : evidence.status = .fact
  · exact .inl hstart
  -- the step in which the status becomes FACT
  obtain ⟨before, op, after, hops, hbefore, hstep⟩ :=
    exists_step_of_run (fun evidence : Evidence => evidence.status = .fact) hstart h
  refine .inr ⟨before, op, after, hops, ?_⟩
  obtain hsame | ⟨-, hconflict⟩ | ⟨now, target, basis, evidenceIds, rfl, haccepted, hnew⟩ :=
    Evidence.status_step_cases op (run Evidence.step evidence before)
  · exact absurd (hsame.symm.trans hstep) hbefore
  · cases hconflict.symm.trans hstep
  · obtain rfl : target = .fact := hnew.symm.trans hstep
    exact ⟨rfl, haccepted.basis rfl, haccepted.evidence rfl,
      mem_allowedFactSources_iff.mpr haccepted.allowed⟩

/-- An observation that a person has reviewed. -/
def reviewedObservation : Evidence where
  scope := ⟨"org", "biz"⟩
  id := "evidence-1"
  sourceRecordId := "source-1"
  statement := "42 replies"
  updatedAt := 0

def review : EvidenceOp := .transitionTo 1 .fact .humanReview ["evidence-2"]

theorem review_grounds : (∀ op ∈ [review], op.marks = false) ∧
    (reviewedObservation.status = .fact ∨ ∃ before op after, [review] = before ++ op :: after ∧
      op.Grounds (run Evidence.step reviewedObservation before)) :=
  evidence_fact_grounded reviewedObservation [review] (by decide)

/-- Whether the status of an evidence has changed. -/
def Evidence.statusChanged (before after : Evidence) : Bool := before.status != after.status

/-- A change of status leads upwards, unless it is the one that a conflict makes. -/
theorem Evidence.rank_step (op : EvidenceOp) (evidence : Evidence) :
    rank evidence.status + (if evidence.statusChanged (evidence.step op) then 1 else 0) ≤
      rank (evidence.step op).status + 2 * op.marks.toNat := by
  have hrank := rank_le evidence.status
  have hone : (if evidence.statusChanged (evidence.step op) then 1 else 0) ≤ 1 := by
    split <;> omega
  obtain hsame | ⟨hmarks, hconflict⟩ | ⟨_, _, _, _, -, haccepted, hnew⟩ :=
    status_step_cases op evidence
  · have hunchanged : evidence.statusChanged (evidence.step op) = false := by
      simp [statusChanged, hsame]
    rw [hunchanged, hsame]
    simp
  · -- a conflict may follow on any status, so this step may go down by one
    rw [hmarks, hconflict, Bool.toNat_true]
    show _ ≤ 2 + 2 * 1
    omega
  · have hlt := haccepted.rank_lt
    rw [hnew]
    omega

/-- The status of an evidence changes at most three times, and at most twice more for each time that a
conflict is marked. -/
theorem evidence_changes_bounded (evidence : Evidence) (ops : List EvidenceOp) :
    rank evidence.status + countSteps Evidence.step Evidence.statusChanged evidence ops ≤
      3 + 2 * ops.countP EvidenceOp.marks := by
  suffices h : rank evidence.status +
      countSteps Evidence.step Evidence.statusChanged evidence ops ≤
        rank (run Evidence.step evidence ops).status + 2 * ops.countP EvidenceOp.marks by
    have hle := rank_le (run Evidence.step evidence ops).status
    omega
  induction ops generalizing evidence with
  | nil => simp [countSteps]
  | cons op ops ih =>
      have hstep := evidence.rank_step op
      have hrest := ih (evidence.step op)
      have hcount : (op :: ops).countP EvidenceOp.marks =
          op.marks.toNat + ops.countP EvidenceOp.marks := by
        rw [List.countP_cons, Nat.add_comm]
        cases op.marks <;> rfl
      rw [run_cons, countSteps, hcount]
      omega

/-! ## Claims and hypotheses -/

/-- `Claim` -/
structure Claim where
  scope : TenantScope
  statement : String
  status : EpistemicStatus := .unknown
  evidenceIds : List String := []
  version : ℕ := 1
deriving DecidableEq, Repr

/-- `Claim.transition_to` -/
def Claim.transitionTo (claim : Claim) (target : EpistemicStatus) (basis : VerificationBasis)
    (evidenceIds : List String) : Except InvalidEpistemicTransition Claim := do
  let newStatus ← transitionEpistemicStatus claim.status target basis evidenceIds
  return { claim with
    status := newStatus
    evidenceIds := (claim.evidenceIds ++ evidenceIds).dedup
    version := claim.version + 1 }

/-- `Hypothesis` -/
structure Hypothesis where
  scope : TenantScope
  statement : String
  status : EpistemicStatus := .hypothesis
deriving DecidableEq, Repr

/-- `Hypothesis.promote_to_fact` -/
def Hypothesis.promoteToFact (hypothesis : Hypothesis) (basis : VerificationBasis)
    (evidenceIds : List String) : Except InvalidEpistemicTransition Claim := do
  let newStatus ← transitionEpistemicStatus hypothesis.status .fact basis evidenceIds
  return {
    scope := hypothesis.scope
    statement := hypothesis.statement
    status := newStatus
    evidenceIds := evidenceIds }

/-- A call of `Claim.transition_to`. -/
structure ClaimOp where
  target : EpistemicStatus
  basis : VerificationBasis
  evidenceIds : List String
deriving DecidableEq, Repr

/-- A transition of the current version of a claim, which stays when the transition raises. -/
def Claim.step (op : ClaimOp) (claim : Claim) : Claim :=
  match claim.transitionTo op.target op.basis op.evidenceIds with
  | .ok claim => claim
  | .error _ => claim

/-- Where a claim comes from. -/
inductive Claim.Origin (claim : Claim) : Prop
  | created (hstatus : claim.status ≠ .fact)
  | promoted (hypothesis : Hypothesis) (basis : VerificationBasis) (evidenceIds : List String)
      (hstatus : hypothesis.status ≠ .fact)
      (hpromoted : hypothesis.promoteToFact basis evidenceIds = .ok claim)

/-- A fact names its evidence. -/
def Claim.Grounded (claim : Claim) : Prop := claim.status = .fact → claim.evidenceIds ≠ []

/-- When a hypothesis is promoted: never as long as its status is `HYPOTHESIS`. -/
theorem Hypothesis.promoteToFact_eq_ok_iff {hypothesis : Hypothesis} {basis : VerificationBasis}
    {evidenceIds : List String} {claim : Claim} :
    hypothesis.promoteToFact basis evidenceIds = .ok claim ↔
      (hypothesis.status = .fact ∨ hypothesis.status ∈ allowedFactSources ∧
        basis ≠ .modelConfidence ∧ evidenceIds ≠ []) ∧
      claim = { scope := hypothesis.scope, statement := hypothesis.statement, status := .fact,
                evidenceIds := evidenceIds } := by
  have haccepted : Accepted hypothesis.status .fact basis evidenceIds ↔
      hypothesis.status ∈ allowedFactSources ∧ basis ≠ .modelConfidence ∧ evidenceIds ≠ [] := by
    rw [mem_allowedFactSources_iff]
    exact ⟨fun h => ⟨h.allowed, h.basis rfl, h.evidence rfl⟩,
      fun h => ⟨h.1, fun _ => h.2.1, fun _ => h.2.2⟩⟩
  unfold promoteToFact
  rw [Except.bind_eq_ok_iff, ← haccepted]
  constructor
  · rintro ⟨status, hstatus, hclaim⟩
    obtain ⟨rfl, hmove⟩ := transitionEpistemicStatus_eq_ok_iff.mp hstatus
    exact ⟨hmove, (Except.pure_eq_ok_iff.mp hclaim).symm⟩
  · rintro ⟨hmove, rfl⟩
    exact ⟨.fact, transitionEpistemicStatus_eq_ok_iff.mpr ⟨rfl, hmove⟩, rfl⟩

namespace Claim

variable {claim : Claim}

theorem Origin.grounded (h : Origin claim) : claim.Grounded := by
  intro hfact
  cases h with
  | created hstatus => exact absurd hfact hstatus
  | promoted hypothesis basis evidenceIds hstatus hpromoted =>
      obtain ⟨hold | ⟨-, -, hids⟩, rfl⟩ := Hypothesis.promoteToFact_eq_ok_iff.mp hpromoted
      · exact absurd hold hstatus
      · exact hids

/-- A transition keeps the evidence, and one to `FACT` brings its own. -/
theorem step_keeps (op : ClaimOp) (claim : Claim) :
    claim.evidenceIds ⊆ (claim.step op).evidenceIds ∧
      (claim.Grounded → (claim.step op).Grounded) := by
  unfold Claim.step
  split
  next new hnew =>
    obtain ⟨status, hstatus, hnew⟩ := Except.bind_eq_ok_iff.mp hnew
    obtain rfl := Except.pure_eq_ok_iff.mp hnew
    refine ⟨fun id hid => List.mem_dedup.mpr (List.mem_append_left _ hid), ?_⟩
    intro hgrounded hfact
    obtain ⟨htarget, hold | haccepted⟩ := transitionEpistemicStatus_eq_ok_iff.mp hstatus
    · have hids := hgrounded (hold.trans (htarget.symm.trans hfact))
      simp [List.dedup_eq_nil, hids]
    · have hids := haccepted.evidence (htarget.symm.trans hfact)
      simp [List.dedup_eq_nil, hids]
  next => exact ⟨List.Subset.refl _, id⟩

end Claim

end Domain

end LaunchOS
