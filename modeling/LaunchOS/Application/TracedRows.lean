import LaunchOS.Application.Adaptation
import LaunchOS.Application.Checkpoints

/-!
# Rows that are kept

What a message is published for is written by three parts of the application, and later steps leave
it as it is: a Decision once it is approved, a workflow of production once it has ended, a version of
an asset as soon as it is there.

The module introduces:

* `KeepsDecisions`, `ApprovalsBound`: approved Decisions and their approvals;
* `KeepsProduction`, `keepsProduction_step`: workflows that have ended, and asset versions;
* `WorkflowsBound`: a workflow of production is that of an approved Decision;
* `ended_production_kept`: a workflow of production that has ended is never written again, and a
  Decision has one workflow of production at most.
-/

namespace LaunchOS

open Txn Transition

variable {M : Type}

/-! ## Decisions -/

/-- Approved Decisions stay as they are, and so do the approvals. -/
structure KeepsDecisions (t t' : DecisionTables) : Prop where
  decisions : ∀ decision ∈ t.decisions, decision.approvedForProduction = true →
    decision ∈ t'.decisions
  approvals : t.decisionApprovals ⊆ t'.decisionApprovals

/-- The approval is one of this Decision, in the version and for the tenant that it has. -/
structure FinalApproval.Approves (approval : FinalApproval) (decision : FinalDecision) : Prop where
  bound : approval.decisionId = decision.id
  object : approval.objectId = decision.id
  objectVersion : approval.objectVersionId = decision.id
  version : approval.objectVersion = decision.version
  scope : approval.scope = decision.scope
  approved : decision.approvedForProduction = true

/-- Every approval is one of an approved Decision, and no other approval is. -/
structure DecisionTables.ApprovalsBound (t : DecisionTables) : Prop where
  approves : ∀ approval ∈ t.decisionApprovals, ∃ decision ∈ t.decisions, approval.Approves decision
  once : Table.KeysNodup FinalApproval.decisionId t.decisionApprovals

section Decisions

variable {op : GovernedOp M} {nextId nextId' : Id} {t t' : DecisionTables}

theorem SameDecisions.keeps (h : SameDecisions t t') : KeepsDecisions t t' := by
  constructor
  · rw [h.decisions]
    exact fun _ hdecision _ => hdecision
  · rw [h.approvals]
    exact List.Subset.refl _

theorem DecisionMoves.keeps (hmoves : DecisionMoves op nextId nextId' t t') :
    KeepsDecisions t t' := by
  cases hmoves with
  | same hsame => exact hsame.keeps
  | started _ _ _ _ _ _ hsame =>
      constructor
      · rw [hsame.decisions]
        exact fun _ hdecision _ => hdecision
      · rw [hsame.approvals]
        exact List.Subset.refl _
  | ran _ _ _ _ _ _ _ _ _ hsame =>
      constructor
      · rw [hsame.decisions]
        exact fun _ hdecision _ => hdecision
      · rw [hsame.approvals]
        exact List.Subset.refl _
  | decided _ _ _ _ _ _ _ _ _ _ _ hsame =>
      constructor
      · rw [hsame.decisions]
        exact fun _ hdecision _ => List.mem_append_left _ hdecision
      · rw [hsame.approvals]
        exact List.Subset.refl _
  | approved _ _ _ _ _ _ decision _ _ _ _ _ _ hsame =>
      constructor
      · rw [hsame.decisions]
        intro row hrow happroved
        -- a Decision that is approved once more is the same row
        by_cases hid : row.id = decision.id
        · have hsame : { row with approvedForProduction := true } = row := by
            rw [← happroved]
          have hmem := Table.mem_modify_of_eq
            (f := fun decision : FinalDecision => { decision with approvedForProduction := true })
            hrow hid
          rw [hsame] at hmem
          exact hmem
        · exact Table.mem_modify_of_ne hrow hid
      · rw [hsame.approvals]
        exact List.subset_append_left _ _

theorem SameDecisions.approvalsBound (h : SameDecisions t t') (hbound : t.ApprovalsBound) :
    t'.ApprovalsBound := by
  constructor
  · rw [h.approvals, h.decisions]
    exact hbound.approves
  · rw [h.approvals]
    exact hbound.once

/-- An approved Decision keeps its approvals. -/
theorem DecisionTables.ApprovalsBound.kept (hbound : t.ApprovalsBound) (hkeeps : KeepsDecisions t t')
    (happrovals : t'.decisionApprovals = t.decisionApprovals) : t'.ApprovalsBound := by
  constructor
  · rw [happrovals]
    intro approval happroval
    obtain ⟨decision, hdecision, happroves⟩ := hbound.approves approval happroval
    exact ⟨decision, hkeeps.decisions decision hdecision happroves.approved, happroves⟩
  · rw [happrovals]
    exact hbound.once

theorem DecisionMoves.approvalsBound (hmoves : DecisionMoves op nextId nextId' t t')
    (hsettled : t.Settled nextId) (hbound : t.ApprovalsBound) : t'.ApprovalsBound := by
  have hkeeps := hmoves.keeps
  cases hmoves with
  | same hsame => exact hsame.approvalsBound hbound
  | started _ _ _ _ _ _ hsame => exact hbound.kept hkeeps hsame.approvals
  | ran _ _ _ _ _ _ _ _ _ hsame => exact hbound.kept hkeeps hsame.approvals
  | decided _ _ _ _ _ _ _ _ _ _ _ hsame => exact hbound.kept hkeeps hsame.approvals
  | approved scope userId w hop hw hstatus decision hdecision hfinal candidateId id _ _ hsame =>
      obtain ⟨row, hrow, hid, hscope, happroved⟩ := hsettled.decided w hw decision.id hfinal
      obtain rfl : row = decision := hsettled.decisions.eq_of_key_eq hrow hdecision hid
      -- the Decision was not approved, so that no approval was one of it
      have hnew : row.approvedForProduction = false := by
        rw [Bool.eq_false_iff, ne_eq, happroved, hstatus]
        simp
      have hfresh : ∀ approval ∈ t.decisionApprovals, approval.decisionId ≠ row.id := by
        intro approval happroval heq
        obtain ⟨other, hother, happroves⟩ := hbound.approves approval happroval
        obtain rfl : other = row :=
          hsettled.decisions.eq_of_key_eq hother hrow (happroves.bound.symm.trans heq)
        rw [happroves.approved] at hnew
        cases hnew
      constructor
      · rw [hsame.approvals]
        intro approval happroval
        rcases List.mem_append.mp happroval with hold | hadded
        · obtain ⟨other, hother, happroves⟩ := hbound.approves approval hold
          exact ⟨other, hkeeps.decisions other hother happroves.approved, happroves⟩
        · rw [List.mem_singleton.mp hadded, hsame.decisions]
          refine ⟨_, Table.mem_modify_of_eq hrow rfl, ?_⟩
          exact ⟨rfl, rfl, rfl, rfl, hscope.symm, rfl⟩
      · rw [hsame.approvals]
        refine hbound.once.append (Table.keysNodup_singleton _) ?_
        intro added hadded
        rw [List.mem_singleton.mp hadded]
        exact hfresh

end Decisions

section DecisionSteps

variable (E : GovernedEnv M) {s : GovernedState M}

/-- What a step does to Decisions and approvals is done by one move of a workflow, or by none. -/
theorem Phase6Step.decisionMoves {H : CheckpointDigest} {op : GovernedOp M} {nextId nextId' : Id}
    {t t' : GovernedTables} (hstep : Phase6Step H op nextId nextId' t t')
    (hsettled : t.decisionTables.Settled nextId) :
    KeepsDecisions t.decisionTables t'.decisionTables ∧
      (t.decisionTables.ApprovalsBound → t'.decisionTables.ApprovalsBound) := by
  cases hstep with
  | started _ _ _ _ _ _ hstart =>
      have hkeeps : KeepsDecisions t.decisionTables t'.decisionTables := by
        constructor
        · rw [hstart.workflows.decisions]
          exact fun _ hdecision _ => hdecision
        · rw [hstart.workflows.approvals]
          exact List.Subset.refl _
      exact ⟨hkeeps, fun hbound => hbound.kept hkeeps hstart.workflows.approvals⟩
  | advanced _ _ _ _ _ _ t₁ t₂ _ hmoves _ hexperiment hintent =>
      have h₂ : t₂.decisionTables = t₁.decisionTables := by
        rcases hexperiment with rfl | ⟨_, -, -, hmade⟩
        · rfl
        · exact hmade.decisionTables
      rw [hintent.decisionTables, h₂]
      exact ⟨hmoves.keeps, hmoves.approvalsBound hsettled⟩
  | approved _ _ _ _ hmoves _ => exact ⟨hmoves.keeps, hmoves.approvalsBound hsettled⟩
  | bound _ _ _ _ _ _ _ _ hcheckpoint =>
      rw [hcheckpoint.rest]
      exact ⟨(refl t.decisionTables : SameDecisions _ _).keeps, id⟩

theorem keepsDecisions_step (action : GovernedAction M)
    (hsettled : s.db.tables.domain.decisionTables.Settled s.db.nextId) :
    KeepsDecisions s.db.tables.domain.decisionTables
        (s.step E action).db.tables.domain.decisionTables ∧
      (s.db.tables.domain.decisionTables.ApprovalsBound →
        (s.step E action).db.tables.domain.decisionTables.ApprovalsBound) := by
  by_cases hpart : action.op.part = .decisions
  · rcases phase6Step E action s hpart hsettled with hsame | hstep
    · rw [hsame]
      exact ⟨(refl s.db.tables.domain.decisionTables : SameDecisions _ _).keeps, id⟩
    · exact hstep.decisionMoves hsettled
  · have hsame := (writes_step E action s).domain.sameDecisions hpart
    exact ⟨hsame.keeps, hsame.approvalsBound⟩

end DecisionSteps

/-! ## Production -/

/-- Workflows that have ended stay as they are, what a workflow was started with stays with it, and
asset versions are only added. -/
structure KeepsProduction (t t' : ProductionTables) : Prop where
  ended : ∀ w ∈ t.productionWorkflows, w.ended = true → w ∈ t'.productionWorkflows
  kept : ∀ w ∈ t.productionWorkflows, ∃ w' ∈ t'.productionWorkflows, SameBinding w w'
  versions : t.assetVersions ⊆ t'.assetVersions

instance : IsPreorder ProductionTables KeepsProduction where
  refl _ := ⟨fun _ hw _ => hw, fun w hw => ⟨w, hw, .refl w⟩, List.Subset.refl _⟩
  trans _ _ _ h h' :=
    { ended := fun w hw hended => h'.ended w (h.ended w hw hended) hended
      kept := fun w hw => by
        obtain ⟨w', hw', hsame⟩ := h.kept w hw
        obtain ⟨w'', hw'', hsame'⟩ := h'.kept w' hw'
        exact ⟨w'', hw'', ⟨hsame'.id.trans hsame.id, hsame'.scope.trans hsame.scope,
          hsame'.decisionId.trans hsame.decisionId,
          hsame'.decisionVersion.trans hsame.decisionVersion,
          hsame'.decisionApprovalId.trans hsame.decisionApprovalId⟩⟩
      versions := List.Subset.trans h.versions h'.versions }

/-- What production calls the key of a workflow when it looks for one. -/
def ProductionWorkflow.decisionKey (w : ProductionWorkflow) : TenantScope × Id × ℕ :=
  (w.scope, w.decisionId, w.decisionVersion)

section Production

variable {now : Time} {db : AgentDatabase M ProductionTables} {t t' : ProductionTables}

theorem KeepsAssets.keeps (h : KeepsAssets t t') : KeepsProduction t t' := by
  constructor
  · rw [h.workflows]
    exact fun _ hw _ => hw
  · rw [h.workflows]
    exact fun w hw => ⟨w, hw, .refl w⟩
  · rw [h.versions]
    exact List.Subset.refl _

/-- An advance of a workflow that has ended does nothing. -/
theorem ensures_advance_ended (S : OutputSchemas M) (answer : ProductionAnswer)
    {w : ProductionWorkflow} (hended : w.ended = true) :
    Ensures (advanceProductionWorkflow S now answer w) (fun w' _ => w' = w) db := by
  rw [advanceProductionWorkflow, ensures_bind, ensures_tables, ensures_bind, ensures_check]
  intro _ _
  unfold ProductionWorkflow.ended at hended
  split
  next hstatus => simp [hstatus] at hended
  next hstatus => simp [hstatus] at hended
  next hstatus => simp [hstatus] at hended
  next hstatus => simp [hstatus] at hended
  next => exact (ensures_pure w).mpr rfl

/-- Asset versions are only added. -/
theorem productionWrites_addsVersions :
    ProductionWrites fun t t' => t.assetVersions ⊆ t'.assetVersions where
  prepares t t' h := by
    rw [OnlyPrepares] at h
    rw [h]
    exact List.Subset.refl _
  insertVersion _ _ _ := List.subset_append_left _ _
  insertReview _ _ := List.Subset.refl _
  workflows _ _ := List.Subset.refl _

/-- The handler keeps what has ended. -/
theorem keeps_productionWorkflowAdvanceHandler (S : OutputSchemas M) (answer : ProductionAnswer)
    (context : RuntimeJobContext) (workflowId : Id)
    (hgated : AssetGated db.nextId db.tables.domain) :
    Ensures (productionWorkflowAdvanceHandler S now answer context workflowId)
      (fun _ db' => KeepsProduction db.tables.domain db'.tables.domain ∧
        db'.tables.domain.productionWorkflows.map ProductionWorkflow.decisionKey =
          db.tables.domain.productionWorkflows.map ProductionWorkflow.decisionKey) db := by
  have : IsPreorder ProductionTables fun t t' => t.assetVersions ⊆ t'.assetVersions :=
    { refl := fun _ => List.Subset.refl _, trans := fun _ _ _ => List.Subset.trans }
  have hversions : Within (Frames fun t t' : ProductionTables => t.assetVersions ⊆ t'.assetVersions)
      (productionWorkflowAdvanceHandler S now answer context workflowId) :=
    within_productionWorkflowAdvanceHandler (domainRelation_frames now fun _ => true)
      productionWrites_addsVersions S answer (fun _ _ => framesWithin_createJob now _) context
      workflowId
  have hworkflows : Ensures (productionWorkflowAdvanceHandler S now answer context workflowId)
      (fun _ db' => ∃ w ∈ db.tables.domain.productionWorkflows, ∃ w', SameBinding w w' ∧
        (w.ended = true → w' = w) ∧ db'.tables.domain.productionWorkflows =
          Table.modify ProductionWorkflow.id w.id (fun _ => w')
            db.tables.domain.productionWorkflows) db := by
    rw [productionWorkflowAdvanceHandler, ensures_bind, ensures_tables, ensures_bind, ensures_check]
    intro w hfound
    have hw := Table.mem_of_find (orRaise_eq_ok_iff.mp hfound)
    rw [ensures_bind, ensures_check]
    intro _ _
    rw [ensures_bind]
    have hended : Ensures (advanceProductionWorkflow S now answer w)
        (fun w' _ => w.ended = true → w' = w) db := by
      intro w' db₁ hok hended
      exact ensures_advance_ended S answer hended w' db₁ hok
    refine ((gated_advanceProductionWorkflow S hgated hw).and hended).mono ?_
    rintro w' db₁ ⟨hadvance, hsame⟩
    rw [putWorkflow, ensures_modifyTables]
    refine ⟨w, hw, w', hadvance.binding, hsame, ?_⟩
    dsimp only
    rw [hadvance.binding.id, hadvance.workflows]
  refine (Ensures.and (fun a db' hok => hversions db a db' hok) hworkflows).mono ?_
  rintro _ db' ⟨hadded, w, hw, w', hbinding, hended, heq⟩
  have hsame : ∀ w₂ ∈ db.tables.domain.productionWorkflows, w₂.id = w.id → w₂ = w :=
    fun w₂ hw₂ hid => hgated.workflows.eq_of_key_eq hw₂ hw hid
  refine ⟨⟨fun w₂ hw₂ hended₂ => ?_, fun w₂ hw₂ => ?_, hadded.domain⟩, ?_⟩
  · rw [heq]
    by_cases hid : w₂.id = w.id
    · obtain rfl := hsame w₂ hw₂ hid
      obtain rfl := hended hended₂
      exact Table.mem_modify_iff.mpr ⟨w', hw, by simp⟩
    · exact Table.mem_modify_of_ne hw₂ hid
  · rw [heq]
    by_cases hid : w₂.id = w.id
    · obtain rfl := hsame w₂ hw₂ hid
      exact ⟨w', Table.mem_modify_of_eq (f := fun _ => w') hw rfl, hbinding⟩
    · exact ⟨w₂, Table.mem_modify_of_ne hw₂ hid, .refl w₂⟩
  · rw [heq, Table.modify, List.map_map]
    refine List.map_congr_left fun w₂ hw₂ => ?_
    simp only [Function.comp_apply]
    split
    next hid =>
      rw [hsame w₂ hw₂ hid, ProductionWorkflow.decisionKey, ProductionWorkflow.decisionKey,
        hbinding.scope, hbinding.decisionId, hbinding.decisionVersion]
    next => rfl

/-- A workflow is started for a Decision that has none in its version. -/
theorem keeps_startProductionWorkflow (scope : TenantScope) (decisionId : Id)
    (maxRevisionRounds : ℤ) :
    Ensures (startProductionWorkflow now scope decisionId maxRevisionRounds) (fun _ db' =>
      KeepsProduction db.tables.domain db'.tables.domain ∧
        (Table.KeysNodup ProductionWorkflow.decisionKey db.tables.domain.productionWorkflows →
          Table.KeysNodup ProductionWorkflow.decisionKey
            db'.tables.domain.productionWorkflows)) db := by
  rw [startProductionWorkflow, ensures_bind, ensures_check]
  intro _ _
  rw [ensures_bind, ensures_tables, ensures_bind, ensures_check]
  intro decision _
  -- the checks write nothing
  rw [ensures_bind, ensures_check]
  intro _ _
  rw [ensures_bind, ensures_check]
  intro _ _
  rw [ensures_bind, ensures_check]
  intro snapshotId _
  rw [ensures_bind, ensures_check]
  intro _ _
  rw [ensures_bind, ensures_check]
  intro approval _
  rw [ensures_bind, ensures_check]
  intro _ _
  split
  next existing _ =>
    rw [ensures_bind, ensures_get, ensures_check]
    exact fun _ _ => ⟨refl _, id⟩
  next hnone =>
    rw [ensures_bind, ensures_newId, ensures_bind, ensures_modifyTables]
    refine (framesWithin_createJob (r := KeepsAssets) now _).ensures_bind fun _ db₁ h₁ => ?_
    rw [ensures_pure]
    refine ⟨⟨fun w hw _ => ?_, fun w hw => ⟨w, ?_, .refl w⟩, ?_⟩, fun honce => ?_⟩
    · rw [h₁.domain.workflows]
      exact List.mem_append_left _ hw
    · rw [h₁.domain.workflows]
      exact List.mem_append_left _ hw
    · rw [h₁.domain.versions]
      exact List.Subset.refl _
    rw [h₁.domain.workflows]
    refine honce.append (Table.keysNodup_singleton _) ?_
    intro added hadded w hw heq
    rw [List.mem_singleton.mp hadded] at heq
    simp only [ProductionWorkflow.decisionKey, Prod.mk.injEq] at heq
    have hother := List.find?_eq_none.mp hnone w hw
    simp [heq] at hother

end Production

/-! ## The loop -/

/-- The workflow was started for this Decision, with this approval of it. -/
structure ProductionWorkflow.StartedFor (w : ProductionWorkflow) (decision : FinalDecision)
    (approval : FinalApproval) : Prop where
  decisionId : w.decisionId = decision.id
  version : w.decisionVersion = decision.version
  scope : w.scope = decision.scope
  approvalId : w.decisionApprovalId = approval.id
  approves : approval.Approves decision

theorem SameBinding.startedFor {w w' : ProductionWorkflow} (h : SameBinding w w')
    {decision : FinalDecision} {approval : FinalApproval} (hw : w.StartedFor decision approval) :
    w'.StartedFor decision approval :=
  ⟨h.decisionId.trans hw.decisionId, h.decisionVersion.trans hw.version, h.scope.trans hw.scope,
    h.decisionApprovalId.trans hw.approvalId, hw.approves⟩

/-- Every workflow of production was started for a Decision that is approved. -/
def GovernedTables.WorkflowsBound (t : GovernedTables) : Prop :=
  ∀ w ∈ t.productionWorkflows, ∃ decision ∈ t.decisionTables.decisions,
    ∃ approval ∈ t.decisionTables.decisionApprovals, w.StartedFor decision approval

/-- The invariant of a state. -/
structure GovernedState.ProductionBound (s : GovernedState M) : Prop where
  kept : s.CheckpointsKept
  approvals : s.db.tables.domain.decisionTables.ApprovalsBound
  workflows : s.db.tables.domain.WorkflowsBound
  once : Table.KeysNodup ProductionWorkflow.decisionKey s.db.tables.domain.productionWorkflows

section Steps

variable (E : GovernedEnv M) {s : GovernedState M}

/-- What an operation of production does to the rows of production. -/
theorem keepsProduction_op (now : Time) (h : s.AssetGated) {op : GovernedOp M}
    (hpart : op.part = .production) :
    Ensures (op.run E now) (fun _ db =>
      KeepsProduction s.db.tables.domain.production db.tables.domain.production ∧
        (Table.KeysNodup ProductionWorkflow.decisionKey s.db.tables.domain.productionWorkflows →
          Table.KeysNodup ProductionWorkflow.decisionKey db.tables.domain.productionWorkflows))
      s.db := by
  have hd := domainRelation_frames (M := M) (r := SameSources) now fun _ => true
  have hjob : ∀ w suffix, Within (Frames SameSources) (enqueueAdvance (M := M) now w suffix) :=
    fun w suffix => framesWithin_createJob now _
  cases op with
  | startProductionWorkflow scope decisionId maxRevisionRounds =>
      exact ensures_productionPart (within_startProductionWorkflow hd productionWrites_sameSources
        hjob scope decisionId maxRevisionRounds)
        (keeps_startProductionWorkflow scope decisionId maxRevisionRounds)
  | advanceProductionWorkflow answer context workflowId =>
      rw [GovernedOp.run, ensures_bind]
      refine (ensures_productionPart (within_productionWorkflowAdvanceHandler hd
        productionWrites_sameSources _ answer hjob context workflowId)
        (keeps_productionWorkflowAdvanceHandler _ answer context workflowId h)).mono ?_
      rintro _ db ⟨hkeeps, hkeys⟩
      rw [publishRights, ensures_modifyTables]
      refine ⟨hkeeps, fun honce => ?_⟩
      have hsame : (db.tables.domain.productionWorkflows.map ProductionWorkflow.decisionKey) =
          s.db.tables.domain.productionWorkflows.map ProductionWorkflow.decisionKey := hkeys
      rw [Table.KeysNodup] at honce ⊢
      rw [← hsame] at honce
      exact honce
  | _ => cases hpart

theorem keepsProduction_step (h : s.AssetGated) (action : GovernedAction M) :
    KeepsProduction s.db.tables.domain.production (s.step E action).db.tables.domain.production ∧
      (Table.KeysNodup ProductionWorkflow.decisionKey s.db.tables.domain.productionWorkflows →
        Table.KeysNodup ProductionWorkflow.decisionKey
          (s.step E action).db.tables.domain.productionWorkflows) := by
  by_cases hpart : action.op.part = .production
  · have hop := keepsProduction_op E action.now h hpart
    have hstep := s.stepped E action
    generalize s.step E action = s' at hstep ⊢
    cases hstep with
    | executed hjob =>
        rw [hjob] at hpart
        cases hpart
    | committed hok => exact hop.of_exec hok
    | refused => exact ⟨refl _, id⟩
  · have hframes := keepsAssets_step (E := E) (s := s) hpart
    have hworkflows : (s.step E action).db.tables.domain.productionWorkflows =
        s.db.tables.domain.productionWorkflows := hframes.domain.workflows
    refine ⟨hframes.domain.keeps, fun honce => ?_⟩
    rw [hworkflows]
    exact honce

/-- A workflow that is started is one for the Decision that production has found approved. -/
theorem startedFor_of_found {t : GovernedTables} {nextId : Id}
    (hsettled : t.decisionTables.Settled nextId) (hbound : t.decisionTables.ApprovalsBound)
    {w : ProductionWorkflow} {decision : Decision} {approval : DecisionApproval}
    (hdecision : decision ∈ t.production.decisions)
    (happroval : approval ∈ t.production.decisionApprovals)
    (hmatches : approval.matchesDecision decision = true)
    (hw : w.scope = decision.scope ∧ w.decisionId = decision.id ∧
      w.decisionVersion = decision.version ∧ w.decisionApprovalId = approval.id) :
    ∃ decision ∈ t.decisionTables.decisions, ∃ approval ∈ t.decisionTables.decisionApprovals,
      w.StartedFor decision approval := by
  obtain ⟨row, hrow, rfl⟩ := List.mem_map.mp hdecision
  obtain ⟨final, hfinal, rfl⟩ := List.mem_map.mp happroval
  obtain ⟨approved, happroved, happroves⟩ := hbound.approves final hfinal
  -- the object of the approval is the Decision that was looked for
  have hobject : final.objectId = row.id := by
    simp only [DecisionApproval.matchesDecision, Bool.and_eq_true, decide_eq_true_eq] at hmatches
    exact hmatches.1.1.1
  obtain rfl : approved = row :=
    hsettled.decisions.eq_of_key_eq happroved hrow (happroves.object.symm.trans hobject)
  exact ⟨approved, hrow, final, hfinal, ⟨hw.2.1, hw.2.2.1, hw.1, hw.2.2.2, happroves⟩⟩

/-- The workflows after a step are bound by the rows before it. -/
theorem ProductionMoves.startedFor {s s' : GovernedState M} (hmoves : ProductionMoves s s')
    (h : s.ProductionBound) :
    ∀ w ∈ s'.db.tables.domain.productionWorkflows,
      ∃ decision ∈ s.db.tables.domain.decisionTables.decisions,
        ∃ approval ∈ s.db.tables.domain.decisionTables.decisionApprovals,
          w.StartedFor decision approval := by
  have hsame : Frames KeepsAssets s.productionDb s'.productionDb →
      ∀ w ∈ s'.db.tables.domain.productionWorkflows,
        ∃ decision ∈ s.db.tables.domain.decisionTables.decisions,
          ∃ approval ∈ s.db.tables.domain.decisionTables.decisionApprovals,
            w.StartedFor decision approval := by
    intro hframes w hw
    have hworkflows : s'.db.tables.domain.productionWorkflows =
        s.db.tables.domain.productionWorkflows := hframes.domain.workflows
    rw [hworkflows] at hw
    exact h.workflows w hw
  cases hmoves with
  | keeps hframes => exact hsame hframes
  | advanced hstep =>
      intro w hw
      obtain ⟨old, hold, hbinding⟩ := hstep.workflows.old w hw
      obtain ⟨decision, hdecision, approval, happroval, hstarted⟩ := h.workflows old hold
      exact ⟨decision, hdecision, approval, happroval, hbinding.startedFor hstarted⟩
  | started scope decisionId hstarted =>
      cases hstarted with
      | existing hframes => exact hsame hframes
      | new w decision approval hdecision hscope _ _ happroval hmatches hw _ hworkflows =>
          have hadded : s'.db.tables.domain.productionWorkflows =
              s.db.tables.domain.productionWorkflows ++ [w] := hworkflows
          rw [hadded]
          intro w' hw'
          rcases List.mem_append.mp hw' with hold | hnew
          · exact h.workflows w' hold
          · rw [List.mem_singleton.mp hnew]
            exact startedFor_of_found h.kept.ledger.settled h.approvals
              (Table.mem_of_find hdecision) happroval hmatches
              ⟨hw.1.trans hscope.symm, hw.2⟩

theorem productionBound_step (action : GovernedAction M) (h : s.ProductionBound) :
    (s.step E action).ProductionBound := by
  obtain ⟨-, hmoves⟩ := productionMoves_step E h.kept.gated action
  obtain ⟨hkeeps, happrovals⟩ := keepsDecisions_step E action h.kept.ledger.settled
  refine ⟨checkpointsKept_step E action h.kept, happrovals h.approvals, fun w hw => ?_,
    (keepsProduction_step E h.kept.gated action).2 h.once⟩
  obtain ⟨decision, hdecision, approval, happroval, hstarted⟩ := hmoves.startedFor h w hw
  exact ⟨decision, hkeeps.decisions decision hdecision hstarted.approves.approved, approval,
    hkeeps.approvals happroval, hstarted⟩

theorem GovernedState.Initial.productionBound {s : GovernedState M} (h : s.Initial) :
    s.ProductionBound := by
  have hdomain := h.1
  refine ⟨h.checkpointsKept, ⟨?_, ?_⟩, ?_, ?_⟩
  · simp [hdomain]
  · simp [hdomain, Table.keysNodup_nil]
  · simp [GovernedTables.WorkflowsBound, hdomain]
  · simp [hdomain, Table.keysNodup_nil]

theorem productionBound_run (h : s.ProductionBound) (actions : List (GovernedAction M)) :
    (run (GovernedState.step E) s actions).ProductionBound :=
  invariant_run_of_step _ (I := GovernedState.ProductionBound)
    (fun _ action h' => productionBound_step E action h') h actions

theorem keepsProduction_run (h : s.ProductionBound) (actions : List (GovernedAction M)) :
    KeepsProduction s.db.tables.domain.production
      (run (GovernedState.step E) s actions).db.tables.domain.production :=
  relation_run (I := GovernedState.ProductionBound) (G := fun _ _ => True)
    (R := fun s s' : GovernedState M =>
      KeepsProduction s.db.tables.domain.production s'.db.tables.domain.production)
    (fun _ => refl _) (fun _ _ _ => trans_of KeepsProduction)
    (fun _ action h' _ => productionBound_step E action h')
    (fun _ action h' _ => (keepsProduction_step E h'.kept.gated action).1) h
    (guarded_of_forall (fun _ _ => trivial) s actions)

/-- In every run, a workflow of production that has ended is never written again, whatever follows,
and a Decision that is approved has one workflow of production in its version at most, which was
started with the only approval of the Decision. -/
theorem ended_production_kept {s : GovernedState M} (hs : s.Initial)
    (actions : List (GovernedAction M)) :
    (∀ w ∈ (run (GovernedState.step E) s actions).db.tables.domain.productionWorkflows,
      w.ended = true → ∀ more,
        Table.find ProductionWorkflow.id w.id (run (GovernedState.step E) s
          (actions ++ more)).db.tables.domain.productionWorkflows = some w) ∧
    (∀ w ∈ (run (GovernedState.step E) s actions).db.tables.domain.productionWorkflows,
      ∃ decision ∈ (run (GovernedState.step E) s actions).db.tables.domain.decisionTables.decisions,
        (run (GovernedState.step E) s actions).db.tables.domain.productionWorkflows.filter
            (fun w' => w'.decisionKey = (decision.scope, decision.id, decision.version)) = [w] ∧
        ∃ approval ∈ (run (GovernedState.step E) s
            actions).db.tables.domain.decisionTables.decisionApprovals,
          w.StartedFor decision approval ∧
          (run (GovernedState.step E) s
              actions).db.tables.domain.decisionTables.decisionApprovals.filter
            (fun approval' => approval'.decisionId = decision.id) = [approval]) := by
  have hbound := productionBound_run E hs.productionBound actions
  refine ⟨fun w hw hended more => ?_, fun w hw => ?_⟩
  · rw [run_append]
    have hkept := (keepsProduction_run E hbound more).ended w hw hended
    have hlater := productionBound_run E hbound more
    exact hlater.kept.gated.workflows.find_eq_some_iff.mpr ⟨hkept, rfl⟩
  · obtain ⟨decision, hdecision, approval, happroval, hstarted⟩ := hbound.workflows w hw
    have hkey : w.decisionKey = (decision.scope, decision.id, decision.version) := by
      rw [ProductionWorkflow.decisionKey, hstarted.scope, hstarted.decisionId, hstarted.version]
    refine ⟨decision, hdecision, ?_, approval, happroval, hstarted, ?_⟩
    · rw [← hkey]
      exact hbound.once.filter_eq_singleton hw
    · rw [← hstarted.approves.bound]
      exact hbound.approvals.once.filter_eq_singleton happroval

end Steps

/-- The first Decision has been produced, and its workflow stays as it is when everything is tried
once more. -/
theorem produced_decision_kept :
    ∃ w : ProductionWorkflow, w.ended = true ∧
      Table.find ProductionWorkflow.id w.id (run (GovernedState.step (plainEnv shownFact))
        governedStart (producedDecision factAgents ++
          producedDecision factAgents)).db.tables.domain.productionWorkflows = some w := by
  obtain ⟨w, hw, hended⟩ : ∃ w ∈ (run (GovernedState.step (plainEnv shownFact)) governedStart
      (producedDecision factAgents)).db.tables.domain.productionWorkflows, w.ended = true := by
    decide +kernel
  exact ⟨w, hended, (ended_production_kept (plainEnv shownFact) governedStart_initial
    (producedDecision factAgents)).1 w hw hended (producedDecision factAgents)⟩

end LaunchOS
