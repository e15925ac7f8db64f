import LaunchOS.Application.ControllerGate
import LaunchOS.Application.Footprints

/-!
# What happens to Decisions

The rows of the decision workflows, of their Decisions and of the approvals of those are written in
four ways: a workflow is started, it runs on without a Decision, it gets its Decision, and the
Decision is approved.

The module introduces:

* `DecisionWorkflow.Concludes`: what an advance makes of a workflow;
* `DecisionMoves`: the four ways;
* `DecisionTables.Settled`: a workflow has its Decision when its status says so, and the Decision is
  approved when the workflow is;
* `DecisionMoves.settled`: each of the four ways keeps this;
* `moves_decisionWorkflowAdvanceHandler` and so on: what each command and handler does.
-/

namespace LaunchOS

open Txn Transition DecisionWorkflow

variable {M : Type}

/-- The status of a workflow that has its Decision. -/
def DecisionWorkflowStatus.decided : DecisionWorkflowStatus → Bool
  | .awaitingDecisionApproval | .approvedForProduction => true
  | _ => false

/-- The workflows, their Decisions and the approvals are left alone. -/
structure SameDecisions (t t' : DecisionTables) : Prop where
  workflows : t'.decisionWorkflows = t.decisionWorkflows
  decisions : t'.decisions = t.decisions
  approvals : t'.decisionApprovals = t.decisionApprovals

instance : IsPreorder DecisionTables SameDecisions where
  refl _ := ⟨rfl, rfl, rfl⟩
  trans _ _ _ h h' := ⟨h'.workflows.trans h.workflows, h'.decisions.trans h.decisions,
    h'.approvals.trans h.approvals⟩

/-! ## The advance of a workflow -/

namespace DecisionWorkflow

/-- The Decision that `_materialize_final_decision` makes. -/
def finalDecision (w : DecisionWorkflow) (candidate : DecisionCandidate) (id : Id) :
    FinalDecision where
  id := id
  scope := w.scope
  version := 1
  selectedAction := candidate.payload.selectedAction
  snapshotId := w.snapshotId
  sourceCandidateId := some candidate.id
  evidenceIds := candidate.payload.evidenceRefs.map EvidenceReference.evidenceId
  nextCheckpoint := candidate.payload.nextCheckpoint

/-- What an advance makes of a workflow, whose row is written at the end of the step. -/
inductive Concludes (db : AgentDatabase M DecisionTables) (w : DecisionWorkflow) :
    DecisionWorkflow → AgentDatabase M DecisionTables → Prop
  | stays {db' : AgentDatabase M DecisionTables} (hframes : Frames SameDecisions db db') :
      Concludes db w w db'
  | runs {db' : AgentDatabase M DecisionTables} {status : DecisionWorkflowStatus}
      {revisionCount : ℕ} (hbefore : w.status.decided = false) (hafter : status.decided = false)
      (hframes : Frames SameDecisions db db') :
      Concludes db w { w with status := status, revisionCount := revisionCount } db'
  | decides {db' : AgentDatabase M DecisionTables} (candidate : DecisionCandidate) (id : Id)
      (hstatus : w.status = .controllersRunning)
      (hlatest : latestCandidate w db.tables.domain = .ok candidate)
      (hid : db.nextId ≤ id) (hlt : id < db'.nextId)
      (hsame : SameDecisions { db.tables.domain with
        decisions := db.tables.domain.decisions ++ [w.finalDecision candidate id] }
          db'.tables.domain) :
      Concludes db w
        { w with finalDecisionId := some id, status := .awaitingDecisionApproval } db'

section Advance

variable {db db' : AgentDatabase M DecisionTables}
variable (R : RunReader M) (now : Time) (answer : DecisionAnswer) (w : DecisionWorkflow)

theorem decisionFrames :
    DomainRelation (M := M) now (fun _ => true) SameDecisions (Frames SameDecisions) :=
  domainRelation_frames now _

theorem sameDecisionsWithin_setCandidateStatus (candidate : DecisionCandidate)
    (status : DecisionCandidateStatus) :
    Within (Frames SameDecisions) (setCandidateStatus (M := M) candidate status) :=
  (decisionFrames 0).modifyTables _ fun _ => ⟨rfl, rfl, rfl⟩

theorem sameDecisionsWithin_enqueue (suffix : DecisionAdvance) :
    Within (Frames SameDecisions) (enqueueWorkflowAdvance (M := M) now w suffix) :=
  framesWithin_createJob now _

theorem sameDecisionsWithin_materializeControllerReviews (candidate : DecisionCandidate) :
    Within (Frames SameDecisions) (materializeControllerReviews R answer w candidate) := by
  have h := decisionFrames (M := M) 0
  refine h.bind (h.foldlM (fun reviews type => h.bind ?_ fun _ => h.pure _) _) fun reviews => ?_
  · exact within_materializeControllerReview h (fun _ _ => ⟨rfl, rfl, rfl⟩) R answer w candidate type
  · exact h.bind (h.modifyTables _ fun _ => ⟨rfl, rfl, rfl⟩) fun _ => h.pure _

theorem concludes_enterChiefRunning (h : Frames SameDecisions db db')
    (hbefore : w.status.decided = false) (revisionCount : ℕ)
    {previousCandidate : Option DecisionCandidate} {reviews : List ControllerReview} :
    Ensures (enterChiefRunning R now answer { w with revisionCount := revisionCount }
        previousCandidate reviews)
      (Concludes db w) db' := by
  have hd := decisionFrames (M := M) now
  refine (within_ensureChiefRun hd R answer _).ensures_bind fun _ db₁ h₁ => ?_
  rw [ensures_bind, ensures_tables]
  refine (sameDecisionsWithin_enqueue now _ _).ensures_bind fun _ db₂ h₂ => ?_
  rw [ensures_pure]
  exact .runs hbefore rfl (h.trans (h₁.trans h₂))

theorem concludes_concludeReviews (h : Frames SameDecisions db db')
    (hstatus : w.status = .controllersRunning) (hnone : w.finalDecisionId = none)
    {candidate : DecisionCandidate}
    (hlatest : latestCandidate w db.tables.domain = .ok candidate) {reviews : List ControllerReview}
    (outcome : ControllerVerdict) :
    Ensures (concludeReviews R now answer w candidate reviews outcome) (Concludes db w) db' := by
  have hbefore : w.status.decided = false := by rw [hstatus]; rfl
  cases outcome with
  | block =>
      refine (sameDecisionsWithin_setCandidateStatus candidate .blocked).ensures_bind
        fun _ db₁ h₁ => ?_
      rw [ensures_pure]
      exact .runs hbefore rfl (h.trans h₁)
  | revise | passWithConditions =>
      refine (sameDecisionsWithin_setCandidateStatus candidate .revisionRequired).ensures_bind
        fun _ db₁ h₁ => ?_
      rw [ensures_ite]
      constructor
      · intro _
        rw [ensures_pure]
        exact .runs hbefore rfl (h.trans h₁)
      · intro _
        exact concludes_enterChiefRunning R now answer w (h.trans h₁) hbefore _
  | pass =>
      refine (sameDecisionsWithin_setCandidateStatus candidate .accepted).ensures_bind
        fun _ db₁ h₁ => ?_
      rw [ensures_bind, materializeFinalDecision, ensures_bind, ensures_tables, hnone]
      dsimp only
      rw [ensures_bind, ensures_check]
      intro _ _
      rw [ensures_bind, ensures_newId, ensures_bind, ensures_modifyTables]
      refine (sameDecisionsWithin_setCandidateStatus candidate .materialized).ensures_bind
        fun _ db₂ h₂ => ?_
      refine ((decisionFrames now).addOutboxEvent _ _).ensures_bind fun _ db₃ h₃ => ?_
      rw [ensures_pure, ensures_pure]
      have hframes := h.trans h₁
      have hrest := h₂.trans h₃
      refine .decides candidate db₁.nextId hstatus hlatest hframes.nextId
        (Nat.lt_of_succ_le hrest.nextId) ?_
      have hdomain := hframes.domain
      have hmade := hrest.domain
      refine ⟨hmade.workflows.trans hdomain.workflows, hmade.decisions.trans ?_,
        hmade.approvals.trans hdomain.approvals⟩
      exact congrArg (· ++ [w.finalDecision candidate db₁.nextId]) hdomain.decisions

/-- One advance. -/
theorem concludes_advanceWorkflow (hnone : w.status.decided = false → w.finalDecisionId = none) :
    Ensures (advanceWorkflow R now answer w) (Concludes db w) db := by
  have hd := decisionFrames (M := M) now
  unfold advanceWorkflow
  split
  next hstatus =>
    have hbefore : w.status.decided = false := by rw [hstatus]; rfl
    refine (within_ensureSpecialistRuns hd R answer w).ensures_bind fun _ db₁ h₁ => ?_
    refine (sameDecisionsWithin_enqueue now w _).ensures_bind fun _ db₂ h₂ => ?_
    rw [ensures_pure]
    exact .runs hbefore rfl (h₁.trans h₂)
  next hstatus =>
    have hbefore : w.status.decided = false := by rw [hstatus]; rfl
    refine (within_ensureSpecialistRuns hd R answer w).ensures_bind fun notReady db₁ h₁ => ?_
    rw [ensures_ite]
    constructor
    · intro _
      rw [ensures_bind, ensures_agentRuns]
      refine (sameDecisionsWithin_enqueue now w _).ensures_bind fun _ db₂ h₂ => ?_
      rw [ensures_pure]
      exact .stays (h₁.trans h₂)
    · intro _
      refine (within_materializeSpecialistContributions (decisionFrames 0)
        (fun _ _ => ⟨rfl, rfl, rfl⟩) R answer w).ensures_bind fun _ db₂ h₂ => ?_
      exact concludes_enterChiefRunning R now answer w (h₁.trans h₂) hbefore _
  next hstatus =>
    have hbefore : w.status.decided = false := by rw [hstatus]; rfl
    refine (within_ensureChiefRun hd R answer w).ensures_bind fun notReady db₁ h₁ => ?_
    rw [ensures_ite]
    constructor
    · intro _
      rw [ensures_bind, ensures_tables, ensures_bind, ensures_agentRuns]
      refine (sameDecisionsWithin_enqueue now w _).ensures_bind fun _ db₂ h₂ => ?_
      rw [ensures_pure]
      exact .stays (h₁.trans h₂)
    · intro _
      refine (within_materializeCandidate (decisionFrames 0) (fun _ _ => ⟨rfl, rfl, rfl⟩) R answer
        w).ensures_bind fun candidate db₂ h₂ => ?_
      refine (within_ensureControllerRuns hd R answer w candidate).ensures_bind fun _ db₃ h₃ => ?_
      refine (sameDecisionsWithin_setCandidateStatus candidate .underReview).ensures_bind
        fun _ db₄ h₄ => ?_
      refine (sameDecisionsWithin_enqueue now w _).ensures_bind fun _ db₅ h₅ => ?_
      rw [ensures_pure]
      exact .runs hbefore rfl (h₁.trans (h₂.trans (h₃.trans (h₄.trans h₅))))
  next hstatus =>
    have hbefore : w.status.decided = false := by rw [hstatus]; rfl
    rw [advanceControllers, ensures_bind, ensures_tables, ensures_bind, ensures_check]
    intro candidate hlatest
    refine (within_ensureControllerRuns hd R answer w candidate).ensures_bind
      fun notReady db₁ h₁ => ?_
    rw [ensures_ite]
    constructor
    · intro _
      rw [ensures_bind, ensures_agentRuns]
      refine (sameDecisionsWithin_enqueue now w _).ensures_bind fun _ db₂ h₂ => ?_
      rw [ensures_pure]
      exact .stays (h₁.trans h₂)
    · intro _
      refine (sameDecisionsWithin_materializeControllerReviews R answer w candidate).ensures_bind
        fun reviews db₂ h₂ => ?_
      rw [ensures_bind, ensures_check]
      intro outcome _
      exact concludes_concludeReviews R now answer w (h₁.trans h₂) hstatus (hnone hbefore) hlatest
        outcome
  next =>
    rw [ensures_pure]
    exact .stays (refl _)

end Advance

end DecisionWorkflow

/-! ## The rows -/

/-- The approval that `approve_decision_for_production` makes. -/
def DecisionWorkflow.approvalOf (w : DecisionWorkflow) (decision : FinalDecision)
    (candidateId id : Id) (approvedByUserId : String) : FinalApproval where
  id := id
  scope := w.scope
  workflowId := w.id
  decisionId := decision.id
  candidateId := candidateId
  objectId := decision.id
  objectVersionId := decision.id
  objectVersion := decision.version
  approvedByUserId := approvedByUserId

/-- What an operation does to these rows, when the ids from `nextId` to `nextId'` are new. -/
inductive DecisionMoves (op : GovernedOp M) (nextId nextId' : Id) (t t' : DecisionTables) : Prop
  | same (hsame : SameDecisions t t')
  | started (w : DecisionWorkflow) (hid : nextId ≤ w.id) (hlt : w.id < nextId')
      (hsnapshot : nextId ≤ w.snapshotId ∧ w.snapshotId < nextId')
      (hstatus : w.status.decided = false) (hfinal : w.finalDecisionId = none)
      (hsame : SameDecisions { t with decisionWorkflows := t.decisionWorkflows ++ [w] } t')
  | ran (answer : DecisionAnswer) (context : RuntimeJobContext) (w : DecisionWorkflow)
      (hop : op = .advanceDecisionWorkflow answer context w.id) (hw : w ∈ t.decisionWorkflows)
      (status : DecisionWorkflowStatus) (revisionCount : ℕ) (hbefore : w.status.decided = false)
      (hafter : status.decided = false)
      (hsame : SameDecisions
        (t.put { w with status := status, revisionCount := revisionCount }) t')
  | decided (answer : DecisionAnswer) (context : RuntimeJobContext) (w : DecisionWorkflow)
      (hop : op = .advanceDecisionWorkflow answer context w.id) (hw : w ∈ t.decisionWorkflows)
      (hstatus : w.status = .controllersRunning) (candidate : DecisionCandidate) (id : Id)
      (hlatest : latestCandidate w t = .ok candidate) (hid : nextId ≤ id) (hlt : id < nextId')
      (hsame : SameDecisions
        ({ t with decisions := t.decisions ++ [w.finalDecision candidate id] }.put
          { w with finalDecisionId := some id, status := .awaitingDecisionApproval }) t')
  | approved (scope : TenantScope) (approvedByUserId : String) (w : DecisionWorkflow)
      (hop : op = .approveDecisionForProduction scope w.id approvedByUserId)
      (hw : w ∈ t.decisionWorkflows) (hstatus : w.status = .awaitingDecisionApproval)
      (decision : FinalDecision) (hdecision : decision ∈ t.decisions)
      (hfinal : w.finalDecisionId = some decision.id) (candidateId id : Id) (hid : nextId ≤ id)
      (hlt : id < nextId')
      (hsame : SameDecisions
        ({ t with
          decisionApprovals :=
            t.decisionApprovals ++ [w.approvalOf decision candidateId id approvedByUserId]
          decisions := Table.modify FinalDecision.id decision.id
            (fun decision => { decision with approvedForProduction := true }) t.decisions }.put
          { w with finalApprovalId := some id, status := .approvedForProduction }) t')

namespace DecisionTables

/-- A workflow has its Decision when its status says so, a Decision is that of one workflow, and it
is approved when this workflow is. -/
structure Settled (nextId : Id) (t : DecisionTables) : Prop where
  workflows : Table.KeysNodup DecisionWorkflow.id t.decisionWorkflows
  workflow_lt : ∀ w ∈ t.decisionWorkflows, w.id < nextId
  snapshot_lt : ∀ w ∈ t.decisionWorkflows, w.snapshotId < nextId
  decisions : Table.KeysNodup FinalDecision.id t.decisions
  decision_lt : ∀ decision ∈ t.decisions, decision.id < nextId
  settled : ∀ w ∈ t.decisionWorkflows, w.status.decided = w.finalDecisionId.isSome
  decided : ∀ w ∈ t.decisionWorkflows, ∀ decisionId, w.finalDecisionId = some decisionId →
    ∃ decision ∈ t.decisions, decision.id = decisionId ∧ decision.scope = w.scope ∧
      (decision.approvedForProduction = true ↔ w.status = .approvedForProduction)
  bound : ∀ decision ∈ t.decisions, ∃ w ∈ t.decisionWorkflows,
    w.finalDecisionId = some decision.id
  unique : ∀ w ∈ t.decisionWorkflows, ∀ w' ∈ t.decisionWorkflows, ∀ decisionId,
    w.finalDecisionId = some decisionId → w'.finalDecisionId = some decisionId → w.id = w'.id

section Settled

variable {t t' : DecisionTables} {nextId nextId' : Id}

theorem Settled.mono (h : t.Settled nextId) (hle : nextId ≤ nextId') : t.Settled nextId' :=
  { h with
    workflow_lt := fun w hw => (h.workflow_lt w hw).trans_le hle
    snapshot_lt := fun w hw => (h.snapshot_lt w hw).trans_le hle
    decision_lt := fun decision hdecision => (h.decision_lt decision hdecision).trans_le hle }

theorem Settled.same (h : t.Settled nextId) (hsame : SameDecisions t t') : t'.Settled nextId := by
  constructor <;> simp only [hsame.workflows, hsame.decisions]
  · exact h.workflows
  · exact h.workflow_lt
  · exact h.snapshot_lt
  · exact h.decisions
  · exact h.decision_lt
  · exact h.settled
  · exact h.decided
  · exact h.bound
  · exact h.unique

/-- A row after one of them has been written. -/
theorem mem_put {w w₂ : DecisionWorkflow} (hw₂ : w₂ ∈ (t.put w).decisionWorkflows) :
    w₂ = w ∨ w₂ ∈ t.decisionWorkflows ∧ w₂.id ≠ w.id := by
  obtain ⟨row, hrow, rfl⟩ := List.mem_map.mp hw₂
  split
  next => exact .inl rfl
  next hne => exact .inr ⟨hrow, hne⟩

theorem mem_put_self {w w' : DecisionWorkflow} (hw : w ∈ t.decisionWorkflows)
    (hid : w'.id = w.id) : w' ∈ (t.put w').decisionWorkflows :=
  Table.mem_modify_of_eq hw hid.symm

theorem mem_put_of_ne {w w₂ : DecisionWorkflow} (hw₂ : w₂ ∈ t.decisionWorkflows)
    (hne : w₂.id ≠ w.id) : w₂ ∈ (t.put w).decisionWorkflows :=
  Table.mem_modify_of_ne hw₂ hne

/-- A new workflow has no Decision. -/
theorem Settled.start (h : t.Settled nextId) {w : DecisionWorkflow} (hid : nextId ≤ w.id)
    (hlt : w.id < nextId') (hsnapshot : w.snapshotId < nextId')
    (hstatus : w.status.decided = false) (hfinal : w.finalDecisionId = none) :
    { t with decisionWorkflows := t.decisionWorkflows ++ [w] }.Settled nextId' := by
  have h' := h.mono (hid.trans hlt.le)
  have hcases : ∀ w₂ ∈ t.decisionWorkflows ++ [w], w₂ = w ∨ w₂ ∈ t.decisionWorkflows := by
    intro w₂ hw₂
    rw [List.mem_append, List.mem_singleton] at hw₂
    exact hw₂.symm
  have hold : ∀ w₂ ∈ t.decisionWorkflows ++ [w], ∀ decisionId,
      w₂.finalDecisionId = some decisionId → w₂ ∈ t.decisionWorkflows := by
    intro w₂ hw₂ decisionId hdecided
    rcases hcases w₂ hw₂ with rfl | hw₂
    · rw [hfinal] at hdecided
      cases hdecided
    · exact hw₂
  refine { h' with
    workflows := ?_
    workflow_lt := fun w₂ hw₂ => ?_
    snapshot_lt := fun w₂ hw₂ => ?_
    settled := fun w₂ hw₂ => ?_
    decided := fun w₂ hw₂ decisionId hdecided =>
      h.decided w₂ (hold w₂ hw₂ decisionId hdecided) decisionId hdecided
    bound := fun decision hdecision => ?_
    unique := fun w₂ hw₂ w₃ hw₃ decisionId hdecided hdecided' =>
      h.unique w₂ (hold w₂ hw₂ decisionId hdecided) w₃ (hold w₃ hw₃ decisionId hdecided')
        decisionId hdecided hdecided' }
  · refine h.workflows.append (Table.keysNodup_singleton w) ?_
    simp only [List.mem_singleton, forall_eq]
    exact fun w₂ hw₂ => ((h.workflow_lt w₂ hw₂).trans_le hid).ne
  · rcases hcases w₂ hw₂ with rfl | hw₂
    · exact hlt
    · exact h'.workflow_lt w₂ hw₂
  · rcases hcases w₂ hw₂ with rfl | hw₂
    · exact hsnapshot
    · exact h'.snapshot_lt w₂ hw₂
  · rcases hcases w₂ hw₂ with rfl | hw₂
    · rw [hstatus, hfinal]
      rfl
    · exact h.settled w₂ hw₂
  · obtain ⟨w₂, hw₂, hdecided⟩ := h.bound decision hdecision
    exact ⟨w₂, List.mem_append_left _ hw₂, hdecided⟩

/-- A workflow whose status does not say so has no Decision. -/
theorem Settled.undecided (h : t.Settled nextId) {w : DecisionWorkflow}
    (hw : w ∈ t.decisionWorkflows) (hbefore : w.status.decided = false) :
    w.finalDecisionId = none := by
  have hsettled := h.settled w hw
  rw [hbefore] at hsettled
  exact Option.isNone_iff_eq_none.mp (Option.isSome_eq_false_iff.mp hsettled.symm)

/-- A workflow runs on without a Decision. -/
theorem Settled.run (h : t.Settled nextId) {w w' : DecisionWorkflow}
    (hw : w ∈ t.decisionWorkflows) (hid : w'.id = w.id) (hbefore : w.status.decided = false)
    (hafter : w'.status.decided = false) (hfinal : w'.finalDecisionId = w.finalDecisionId)
    (hsnapshot : w'.snapshotId = w.snapshotId) :
    (t.put w').Settled nextId := by
  have hnone : w'.finalDecisionId = none := hfinal.trans (h.undecided hw hbefore)
  have hold : ∀ w₂ ∈ (t.put w').decisionWorkflows, ∀ decisionId,
      w₂.finalDecisionId = some decisionId → w₂ ∈ t.decisionWorkflows := by
    intro w₂ hw₂ decisionId hdecided
    rcases mem_put hw₂ with rfl | ⟨hw₂, -⟩
    · rw [hnone] at hdecided
      cases hdecided
    · exact hw₂
  refine { h with
    workflows := h.workflows.modify fun _ _ _ => rfl
    workflow_lt := fun w₂ hw₂ => ?_
    snapshot_lt := fun w₂ hw₂ => ?_
    settled := fun w₂ hw₂ => ?_
    decided := fun w₂ hw₂ decisionId hdecided =>
      h.decided w₂ (hold w₂ hw₂ decisionId hdecided) decisionId hdecided
    bound := fun decision hdecision => ?_
    unique := fun w₂ hw₂ w₃ hw₃ decisionId hdecided hdecided' =>
      h.unique w₂ (hold w₂ hw₂ decisionId hdecided) w₃ (hold w₃ hw₃ decisionId hdecided')
        decisionId hdecided hdecided' }
  · rcases mem_put hw₂ with rfl | ⟨hw₂, -⟩
    · exact hid ▸ h.workflow_lt w hw
    · exact h.workflow_lt w₂ hw₂
  · rcases mem_put hw₂ with rfl | ⟨hw₂, -⟩
    · exact hsnapshot ▸ h.snapshot_lt w hw
    · exact h.snapshot_lt w₂ hw₂
  · rcases mem_put hw₂ with rfl | ⟨hw₂, -⟩
    · rw [hafter, hnone]
      rfl
    · exact h.settled w₂ hw₂
  · obtain ⟨w₂, hw₂, hdecided⟩ := h.bound decision hdecision
    refine ⟨w₂, mem_put_of_ne hw₂ fun hsame => ?_, hdecided⟩
    obtain rfl : w₂ = w := h.workflows.eq_of_key_eq hw₂ hw (hsame.trans hid)
    rw [← hfinal, hnone] at hdecided
    cases hdecided

/-- A workflow without a Decision gets a new one. -/
theorem Settled.decide (h : t.Settled nextId) {w : DecisionWorkflow}
    (hw : w ∈ t.decisionWorkflows) (hbefore : w.status.decided = false)
    (candidate : DecisionCandidate) {id : Id} (hid : nextId ≤ id) (hlt : id < nextId') :
    ({ t with decisions := t.decisions ++ [w.finalDecision candidate id] }.put
      { w with finalDecisionId := some id, status := .awaitingDecisionApproval }).Settled
        nextId' := by
  have h' := h.mono (hid.trans hlt.le)
  have hnone := h.undecided hw hbefore
  have hcases : ∀ w₂ ∈ (t.put { w with
      finalDecisionId := some id, status := .awaitingDecisionApproval }).decisionWorkflows,
      w₂ = { w with finalDecisionId := some id, status := .awaitingDecisionApproval } ∨
        w₂ ∈ t.decisionWorkflows ∧ w₂.id ≠ w.id := fun w₂ hw₂ => mem_put hw₂
  -- no workflow had the new id
  have hfresh : ∀ w₂ ∈ t.decisionWorkflows, w₂.finalDecisionId ≠ some id := by
    intro w₂ hw₂ hdecided
    obtain ⟨decision, hdecision, heq, -⟩ := h.decided w₂ hw₂ id hdecided
    exact absurd (h.decision_lt decision hdecision) (heq ▸ hid).not_gt
  constructor
  · exact h.workflows.modify fun _ _ _ => rfl
  · intro w₂ hw₂
    rcases hcases w₂ hw₂ with rfl | ⟨hw₂, -⟩
    · exact h'.workflow_lt w hw
    · exact h'.workflow_lt w₂ hw₂
  · intro w₂ hw₂
    rcases hcases w₂ hw₂ with rfl | ⟨hw₂, -⟩
    · exact h'.snapshot_lt w hw
    · exact h'.snapshot_lt w₂ hw₂
  · refine h.decisions.append (Table.keysNodup_singleton _) ?_
    simp only [List.mem_singleton, forall_eq]
    exact fun decision hdecision => ((h.decision_lt decision hdecision).trans_le hid).ne
  · intro decision hdecision
    rcases List.mem_append.mp hdecision with hold | hnew
    · exact h'.decision_lt decision hold
    · rw [List.mem_singleton.mp hnew]
      exact hlt
  · intro w₂ hw₂
    rcases hcases w₂ hw₂ with rfl | ⟨hw₂, -⟩
    · rfl
    · exact h.settled w₂ hw₂
  · intro w₂ hw₂ decisionId hdecided
    rcases hcases w₂ hw₂ with rfl | ⟨hw₂, -⟩
    · obtain rfl : id = decisionId := Option.some.inj hdecided
      refine ⟨w.finalDecision candidate id, List.mem_append_right _ (List.mem_singleton_self _),
        rfl, rfl, ?_⟩
      simp [finalDecision]
    · obtain ⟨decision, hdecision, hspec⟩ := h.decided w₂ hw₂ decisionId hdecided
      exact ⟨decision, List.mem_append_left _ hdecision, hspec⟩
  · intro decision hdecision
    rcases List.mem_append.mp hdecision with hold | hnew
    · obtain ⟨w₂, hw₂, hdecided⟩ := h.bound decision hold
      refine ⟨w₂, mem_put_of_ne hw₂ fun hsame => ?_, hdecided⟩
      obtain rfl : w₂ = w := h.workflows.eq_of_key_eq hw₂ hw hsame
      rw [hnone] at hdecided
      cases hdecided
    · rw [List.mem_singleton.mp hnew]
      exact ⟨_, mem_put_self hw rfl, rfl⟩
  · intro w₂ hw₂ w₃ hw₃ decisionId hdecided hdecided'
    rcases hcases w₂ hw₂ with rfl | ⟨hw₂, -⟩
    · obtain rfl : id = decisionId := Option.some.inj hdecided
      rcases hcases w₃ hw₃ with rfl | ⟨hw₃, -⟩
      · rfl
      · exact absurd hdecided' (hfresh w₃ hw₃)
    · rcases hcases w₃ hw₃ with rfl | ⟨hw₃, -⟩
      · obtain rfl : id = decisionId := Option.some.inj hdecided'
        exact absurd hdecided (hfresh w₂ hw₂)
      · exact h.unique w₂ hw₂ w₃ hw₃ decisionId hdecided hdecided'

/-- The Decision of a workflow is approved with its workflow. -/
theorem Settled.approve (h : t.Settled nextId) {w : DecisionWorkflow}
    (hw : w ∈ t.decisionWorkflows) (hstatus : w.status = .awaitingDecisionApproval)
    {decision : FinalDecision} (hdecision : decision ∈ t.decisions)
    (hfinal : w.finalDecisionId = some decision.id) (approvals : List FinalApproval)
    (approvalId : Id) :
    ({ t with
      decisionApprovals := approvals
      decisions := Table.modify FinalDecision.id decision.id
        (fun decision => { decision with approvedForProduction := true }) t.decisions }.put
      { w with finalApprovalId := some approvalId, status := .approvedForProduction }).Settled
        nextId := by
  have hcases : ∀ w₂ ∈ (t.put { w with
      finalApprovalId := some approvalId, status := .approvedForProduction }).decisionWorkflows,
      w₂ = { w with finalApprovalId := some approvalId, status := .approvedForProduction } ∨
        w₂ ∈ t.decisionWorkflows ∧ w₂.id ≠ w.id := fun w₂ hw₂ => mem_put hw₂
  -- the row of the workflow before the step, which has the same Decision
  have hold : ∀ w₂ ∈ (t.put { w with
      finalApprovalId := some approvalId, status := .approvedForProduction }).decisionWorkflows,
      ∃ w₃ ∈ t.decisionWorkflows, w₃.id = w₂.id ∧ w₃.snapshotId = w₂.snapshotId ∧
        w₃.finalDecisionId = w₂.finalDecisionId := by
    intro w₂ hw₂
    rcases hcases w₂ hw₂ with rfl | ⟨hw₂, -⟩
    · exact ⟨w, hw, rfl, rfl, rfl⟩
    · exact ⟨w₂, hw₂, rfl, rfl, rfl⟩
  constructor
  · exact h.workflows.modify fun _ _ _ => rfl
  · intro w₂ hw₂
    obtain ⟨w₃, hw₃, hid, -, -⟩ := hold w₂ hw₂
    exact hid ▸ h.workflow_lt w₃ hw₃
  · intro w₂ hw₂
    obtain ⟨w₃, hw₃, -, hsnapshot, -⟩ := hold w₂ hw₂
    exact hsnapshot ▸ h.snapshot_lt w₃ hw₃
  · exact h.decisions.modify fun _ _ hid => hid
  · intro decision₂ hdecision₂
    obtain ⟨row, hrow, rfl⟩ := Table.mem_modify_iff.mp hdecision₂
    split
    · exact h.decision_lt row hrow
    · exact h.decision_lt row hrow
  · intro w₂ hw₂
    rcases hcases w₂ hw₂ with rfl | ⟨hw₂, -⟩
    · exact congrArg Option.isSome hfinal.symm
    · exact h.settled w₂ hw₂
  · intro w₂ hw₂ decisionId hdecided
    rcases hcases w₂ hw₂ with rfl | ⟨hw₂, hne⟩
    · obtain rfl : decision.id = decisionId := Option.some.inj (hfinal.symm.trans hdecided)
      obtain ⟨row, hrow, hid, hscope, -⟩ := h.decided w hw decision.id hfinal
      obtain rfl : row = decision := h.decisions.eq_of_key_eq hrow hdecision hid
      refine ⟨_, Table.mem_modify_of_eq hdecision rfl, rfl, hscope, ?_⟩
      simp
    · obtain ⟨row, hrow, hid, hscope, happroved⟩ := h.decided w₂ hw₂ decisionId hdecided
      refine ⟨row, Table.mem_modify_of_ne hrow fun hsame => hne ?_, hid, hscope, happroved⟩
      exact h.unique w₂ hw₂ w hw decisionId hdecided (by rw [hfinal, ← hsame, hid])
  · intro decision₂ hdecision₂
    obtain ⟨row, hrow, rfl⟩ := Table.mem_modify_iff.mp hdecision₂
    have hid : (if row.id = decision.id then { row with approvedForProduction := true }
        else row).id = row.id := by split <;> rfl
    obtain ⟨w₂, hw₂, hdecided⟩ := h.bound row hrow
    rw [hid]
    by_cases hsame : w₂.id = w.id
    · obtain rfl : w₂ = w := h.workflows.eq_of_key_eq hw₂ hw hsame
      exact ⟨_, mem_put_self hw rfl, hdecided⟩
    · exact ⟨w₂, mem_put_of_ne hw₂ hsame, hdecided⟩
  · intro w₂ hw₂ w₃ hw₃ decisionId hdecided hdecided'
    obtain ⟨w₂', hw₂', hid₂, -, hfinal₂⟩ := hold w₂ hw₂
    obtain ⟨w₃', hw₃', hid₃, -, hfinal₃⟩ := hold w₃ hw₃
    rw [← hid₂, ← hid₃]
    exact h.unique w₂' hw₂' w₃' hw₃' decisionId (hfinal₂.trans hdecided) (hfinal₃.trans hdecided')

end Settled

end DecisionTables

/-- An operation keeps the invariant. -/
theorem DecisionMoves.settled {op : GovernedOp M} {nextId nextId' : Id} {t t' : DecisionTables}
    (hmoves : DecisionMoves op nextId nextId' t t') (hle : nextId ≤ nextId')
    (h : t.Settled nextId) : t'.Settled nextId' := by
  cases hmoves with
  | same hsame => exact (h.mono hle).same hsame
  | started w hid hlt hsnapshot hstatus hfinal hsame =>
      exact (h.start hid hlt hsnapshot.2 hstatus hfinal).same hsame
  | ran answer context w hop hw status revisionCount hbefore hafter hsame =>
      have hrun : (t.put { w with
          status := status, revisionCount := revisionCount }).Settled nextId :=
        h.run hw rfl hbefore hafter rfl rfl
      exact (hrun.mono hle).same hsame
  | decided answer context w hop hw hstatus candidate id hlatest hid hlt hsame =>
      exact (h.decide hw (by rw [hstatus]; rfl) candidate hid hlt).same hsame
  | approved scope userId w hop hw hstatus decision hdecision hfinal candidateId id hid hlt hsame =>
      exact ((h.approve hw hstatus hdecision hfinal _ id).mono hle).same hsame

/-- The Decision of a workflow. -/
def DecisionTables.finalOf (workflowId : Id) (t : DecisionTables) : Option Id :=
  (Table.find DecisionWorkflow.id workflowId t.decisionWorkflows).bind
    DecisionWorkflow.finalDecisionId

theorem DecisionTables.Settled.finalOf_eq_some_iff {nextId : Id} {t : DecisionTables}
    (h : t.Settled nextId) {workflowId decisionId : Id} :
    t.finalOf workflowId = some decisionId ↔
      ∃ w ∈ t.decisionWorkflows, w.id = workflowId ∧ w.finalDecisionId = some decisionId := by
  rw [finalOf, Option.bind_eq_some_iff]
  constructor
  · rintro ⟨w, hfind, hfinal⟩
    exact ⟨w, Table.mem_of_find hfind, Table.key_of_find hfind, hfinal⟩
  · rintro ⟨w, hw, hid, hfinal⟩
    exact ⟨w, h.workflows.find_eq_some_iff.mpr ⟨hw, hid⟩, hfinal⟩

/-- A workflow has the Decision that it had, or none, or an advance has given it a new one. -/
theorem DecisionMoves.finals {op : GovernedOp M} {nextId nextId' : Id} {t t' : DecisionTables}
    (hmoves : DecisionMoves op nextId nextId' t t') (h : t.Settled nextId) :
    ∀ w' ∈ t'.decisionWorkflows, ∀ decisionId, w'.finalDecisionId = some decisionId →
      (∃ w ∈ t.decisionWorkflows, w.id = w'.id ∧ w.finalDecisionId = some decisionId) ∨
        (∃ answer context, op = .advanceDecisionWorkflow answer context w'.id) ∧
          (∃ w ∈ t.decisionWorkflows, w.id = w'.id ∧ w.finalDecisionId = none) ∧
          nextId ≤ decisionId ∧ decisionId < nextId' := by
  intro w' hw' decisionId hfinal
  cases hmoves with
  | same hsame =>
      rw [hsame.workflows] at hw'
      exact .inl ⟨w', hw', rfl, hfinal⟩
  | started w _ _ _ _ hundecided hsame =>
      rw [hsame.workflows] at hw'
      rcases List.mem_append.mp hw' with hold | hnew
      · exact .inl ⟨w', hold, rfl, hfinal⟩
      · rw [List.mem_singleton.mp hnew, hundecided] at hfinal
        cases hfinal
  | ran answer context w hop hw status revisionCount _ _ hsame =>
      rw [hsame.workflows] at hw'
      rcases DecisionTables.mem_put hw' with rfl | ⟨hold, -⟩
      · exact .inl ⟨w, hw, rfl, hfinal⟩
      · exact .inl ⟨w', hold, rfl, hfinal⟩
  | decided answer context w hop hw hstatus candidate id _ hfresh hlt hsame =>
      rw [hsame.workflows] at hw'
      rcases DecisionTables.mem_put hw' with rfl | ⟨hold, -⟩
      · obtain rfl : id = decisionId := Option.some.inj hfinal
        have hundecided := h.undecided hw (by rw [hstatus]; rfl)
        exact .inr ⟨⟨answer, context, hop⟩, ⟨w, hw, rfl, hundecided⟩, hfresh, hlt⟩
      · exact .inl ⟨w', hold, rfl, hfinal⟩
  | approved scope userId w hop hw _ decision _ _ _ id _ _ hsame =>
      rw [hsame.workflows] at hw'
      rcases DecisionTables.mem_put hw' with rfl | ⟨hold, -⟩
      · exact .inl ⟨w, hw, rfl, hfinal⟩
      · exact .inl ⟨w', hold, rfl, hfinal⟩

/-- A workflow keeps its Decision. -/
theorem DecisionMoves.finals_kept {op : GovernedOp M} {nextId nextId' : Id} {t t' : DecisionTables}
    (hmoves : DecisionMoves op nextId nextId' t t') (h : t.Settled nextId) {w : DecisionWorkflow}
    (hw : w ∈ t.decisionWorkflows) {decisionId : Id} (hfinal : w.finalDecisionId = some decisionId) :
    ∃ w' ∈ t'.decisionWorkflows, w'.id = w.id ∧ w'.finalDecisionId = some decisionId := by
  have hput : ∀ (t₁ : DecisionTables) {w₁ w₂ : DecisionWorkflow},
      t₁.decisionWorkflows = t.decisionWorkflows → w₁ ∈ t.decisionWorkflows → w₂.id = w₁.id →
      (w₁.finalDecisionId = some decisionId → w₂.finalDecisionId = some decisionId) →
      ∃ w' ∈ (t₁.put w₂).decisionWorkflows, w'.id = w.id ∧ w'.finalDecisionId = some decisionId := by
    intro t₁ w₁ w₂ heq hw₁ hid hkept
    have hw' : w ∈ t₁.decisionWorkflows := heq ▸ hw
    by_cases hsame : w.id = w₂.id
    · obtain rfl : w = w₁ := h.workflows.eq_of_key_eq hw hw₁ (hsame.trans hid)
      exact ⟨w₂, DecisionTables.mem_put_self hw' hid, hid, hkept hfinal⟩
    · exact ⟨w, DecisionTables.mem_put_of_ne hw' hsame, rfl, hfinal⟩
  cases hmoves with
  | same hsame => exact ⟨w, hsame.workflows.symm ▸ hw, rfl, hfinal⟩
  | started w₁ _ _ _ _ _ hsame =>
      exact ⟨w, hsame.workflows.symm ▸ List.mem_append_left _ hw, rfl, hfinal⟩
  | ran answer context w₁ hop hw₁ status revisionCount _ _ hsame =>
      rw [hsame.workflows]
      exact hput t rfl hw₁ rfl id
  | decided answer context w₁ hop hw₁ hstatus candidate id _ _ _ hsame =>
      rw [hsame.workflows]
      refine hput _ rfl hw₁ rfl fun hdecided => ?_
      rw [h.undecided hw₁ (by rw [hstatus]; rfl)] at hdecided
      cases hdecided
  | approved scope userId w₁ hop hw₁ _ decision _ _ _ id _ _ hsame =>
      rw [hsame.workflows]
      exact hput _ rfl hw₁ rfl fun hdecided => hdecided

/-- A Decision that a workflow gets is a new one. -/
theorem DecisionMoves.fresh_of_final {op : GovernedOp M} {nextId nextId' : Id}
    {t t' : DecisionTables} (hmoves : DecisionMoves op nextId nextId' t t')
    (hle : nextId ≤ nextId') (h : t.Settled nextId) {workflowId decisionId : Id}
    (hnone : t.finalOf workflowId = none) (hsome : t'.finalOf workflowId = some decisionId) :
    nextId ≤ decisionId ∧ decisionId < nextId' := by
  obtain ⟨w', hw', hid, hfinal⟩ := (hmoves.settled hle h).finalOf_eq_some_iff.mp hsome
  rcases hmoves.finals h w' hw' decisionId hfinal with ⟨w, hw, hwid, hdecided⟩ | ⟨-, -, hfresh⟩
  · have hfound := h.finalOf_eq_some_iff.mpr ⟨w, hw, hwid.trans hid, hdecided⟩
    rw [hnone] at hfound
    cases hfound
  · exact hfresh

/-! ## Commands and handlers -/

section Commands

variable {now : Time} {db : AgentDatabase M DecisionTables} {op : GovernedOp M}

/-- What an operation does, by the tables alone. -/
abbrev MovesTo (op : GovernedOp M) (db db' : AgentDatabase M DecisionTables) : Prop :=
  DecisionMoves op db.nextId db'.nextId db.tables.domain db'.tables.domain

theorem moves_decisionWorkflowAdvanceHandler (R : RunReader M) (answer answer' : DecisionAnswer)
    (context : RuntimeJobContext) (workflowId : Id)
    (hop : op = .advanceDecisionWorkflow answer' context workflowId)
    (h : db.tables.domain.Settled db.nextId) :
    Ensures (decisionWorkflowAdvanceHandler R now answer context workflowId)
      (fun _ db' => MovesTo op db db') db := by
  rw [decisionWorkflowAdvanceHandler, ensures_bind, ensures_tables, ensures_bind, ensures_check]
  intro w hfind
  have hfound := orRaise_eq_ok_iff.mp hfind
  have hw := Table.mem_of_find hfound
  obtain rfl : w.id = workflowId := Table.key_of_find hfound
  rw [ensures_bind, ensures_check]
  intro _ _
  rw [ensures_bind]
  refine (concludes_advanceWorkflow R now answer w (h.undecided hw)).mono ?_
  intro w' db₁ hconcludes
  rw [ensures_bind, DecisionWorkflow.putWorkflow, ensures_modifyTables]
  have hdone : ∀ db₂ : AgentDatabase M DecisionTables, MovesTo op db db₂ →
      Ensures (if w'.finalDecisionId.isSome = true then DomainTxn.check answer.phase6Intent
        else pure PUnit.unit) (fun _ db' => MovesTo op db db') db₂ := by
    intro db₂ hmoves
    rw [ensures_ite]
    exact ⟨fun _ => ensures_check.mpr fun _ _ => hmoves, fun _ => (ensures_pure _).mpr hmoves⟩
  refine hdone _ ?_
  cases hconcludes with
  | stays hframes =>
      refine .same ⟨?_, hframes.domain.decisions, hframes.domain.approvals⟩
      dsimp only
      rw [hframes.domain.workflows]
      exact Table.modify_eq_self fun row hrow hid =>
        (h.workflows.eq_of_key_eq hrow hw hid).symm
  | @runs _ status revisionCount hbefore hafter hframes =>
      refine .ran answer' context w hop hw status revisionCount hbefore hafter
        ⟨?_, hframes.domain.decisions, hframes.domain.approvals⟩
      dsimp only
      rw [hframes.domain.workflows]
      rfl
  | decides candidate id hstatus hlatest hid hlt hsame =>
      refine .decided answer' context w hop hw hstatus candidate id hlatest hid hlt
        ⟨?_, hsame.decisions, hsame.approvals⟩
      dsimp only
      rw [hsame.workflows]
      rfl

/-- A workflow of the snapshot is there, or it is started. -/
theorem ensures_startDecisionWorkflow (scope : TenantScope) (snapshot : BusinessSnapshot)
    (launchId : Option Id) (maxRevisionRounds : ℤ) :
    Ensures (startDecisionWorkflow now scope (.existing snapshot.id) launchId maxRevisionRounds)
      (fun _ db' => db.nextId ≤ db'.nextId ∧ (SameDecisions db.tables.domain db'.tables.domain ∨
        ∃ w : DecisionWorkflow, (db.nextId ≤ w.id ∧ w.id < db'.nextId) ∧
          w.snapshotId = snapshot.id ∧ w.status.decided = false ∧ w.finalDecisionId = none ∧
          SameDecisions { db.tables.domain with
            decisionWorkflows := db.tables.domain.decisionWorkflows ++ [w] } db'.tables.domain))
      db := by
  rw [startDecisionWorkflow, takeSnapshot, ensures_bind, ensures_bind, ensures_tables,
    ensures_check]
  intro found hfound
  obtain ⟨row, hrow, hchecked⟩ := Except.bind_eq_ok_iff.mp hfound
  obtain ⟨_, -, hpure⟩ := Except.bind_eq_ok_iff.mp hchecked
  obtain rfl : row = found := Except.pure_eq_ok_iff.mp hpure
  have hid : row.id = snapshot.id := Table.key_of_find (orRaise_eq_ok_iff.mp hrow)
  rw [ensures_bind, ensures_tables, ensures_bind, ensures_check]
  intro _ _
  split
  next existing _ =>
    refine (sameDecisionsWithin_enqueue now existing _).ensures_bind fun _ db₁ h₁ => ?_
    rw [ensures_pure]
    exact ⟨h₁.nextId, .inl h₁.domain⟩
  next =>
    rw [ensures_bind, ensures_check]
    intro _ _
    rw [ensures_bind, ensures_newId, ensures_bind, ensures_modifyTables]
    refine ((decisionFrames now).addOutboxEvent _ _).ensures_bind fun _ db₁ h₁ => ?_
    refine (sameDecisionsWithin_enqueue now _ _).ensures_bind fun _ db₂ h₂ => ?_
    rw [ensures_pure]
    have hframes := h₁.trans h₂
    have hnext : db.nextId + 1 ≤ db₂.nextId := hframes.nextId
    exact ⟨(Nat.le_succ _).trans hnext,
      .inr ⟨_, ⟨le_rfl, Nat.lt_of_succ_le hnext⟩, hid, rfl, rfl, hframes.domain⟩⟩

theorem moves_approveDecisionForProduction (scope : TenantScope) (workflowId : Id)
    (approvedByUserId : String)
    (hop : op = .approveDecisionForProduction scope workflowId approvedByUserId) :
    Ensures (approveDecisionForProduction now scope workflowId approvedByUserId)
      (fun _ db' => MovesTo op db db') db := by
  rw [approveDecisionForProduction, ensures_bind, ensures_tables, ensures_bind, ensures_check]
  intro w hfind
  have hfound := orRaise_eq_ok_iff.mp hfind
  have hw := Table.mem_of_find hfound
  obtain rfl : w.id = workflowId := Table.key_of_find hfound
  rw [ensures_bind, ensures_check]
  intro _ hscope
  rw [ensures_ite]
  constructor
  · intro _
    exact ensures_check.mpr fun _ _ => .same (refl _)
  · intro _
    rw [ensures_bind, ensures_check]
    rintro ⟨decision, candidateId⟩ hawaited
    obtain ⟨hstatus, hfinal, hdecision⟩ := awaitedDecision_eq_ok hawaited
    dsimp only
    split
    next => exact (ensures_pure _).mpr (.same (refl _))
    next =>
      rw [ensures_bind, ensures_newId, ensures_bind, ensures_modifyTables, ensures_bind,
        DecisionWorkflow.putWorkflow, ensures_modifyTables]
      refine ((decisionFrames now).addOutboxEvent _ _).ensures_bind fun _ db₁ h₁ => ?_
      rw [ensures_pure]
      have hnext : db.nextId + 1 ≤ db₁.nextId := h₁.nextId
      obtain rfl := TenantScope.assertMatches_eq_ok_iff.mp hscope
      exact .approved w.scope approvedByUserId w hop hw hstatus decision hdecision hfinal
        candidateId db.nextId le_rfl (Nat.lt_of_succ_le hnext) h₁.domain

end Commands

end LaunchOS
