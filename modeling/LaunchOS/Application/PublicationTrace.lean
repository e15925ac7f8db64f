import LaunchOS.Application.PublicationMoves

/-!
# What a publication goes back to

Every publication can be traced: over its execution to the approval of its action, over the proposal
to the version of the asset whose text it is, and over the workflow of production to the Decision
and the approval of that.

The module introduces:

* `Trace`: the rows that a publication goes back to, and `Trace.Sound`, how they are bound;
* `Trace.Present`: the rows are there;
* `GovernedState.Traced`: every publication has a trace, with what an induction needs besides;
* `publication_traced`: in every run, every publication has a trace within its tenant;
* `publication_authorized`: before every publication an owner has approved its action.
-/

namespace LaunchOS

open Txn Transition

variable {M : Type}

/-! ## Traces -/

/-- The rows that a publication goes back to. -/
structure Trace where
  publication : Publication
  reference : ExternalReference
  execution : Execution
  action : ActionProposal
  approval : Approval
  detail : ActionProposalDetail
  version : AssetVersion
  workflow : ProductionWorkflow
  decision : FinalDecision
  decisionApproval : FinalApproval

namespace Trace

/-- The rows are bound to each other and to the link of the publication. -/
structure Sound (trace : Trace) (link : PublicationExecutionLink) : Prop where
  link_publication : link.publicationId = trace.publication.id
  link_reference : link.externalReferenceId = trace.reference.id
  link_execution : link.executionId = trace.execution.id
  link_action : link.actionId = trace.action.id
  reference_execution : trace.reference.executionId = trace.execution.id
  execution_action : trace.execution.actionId = trace.action.id
  execution_approval : trace.execution.approvalId = some trace.approval.id
  approved : trace.approval.status = .approved
  approval_action : trace.approval.matchesAction trace.action = true
  detail_action : trace.detail.actionId = trace.action.id
  target : trace.action.targets trace.version = true
  text : trace.detail.deliveryPayload.text = some trace.version.body
  publication_version : trace.publication.assetVersionId = trace.version.id
  detail_version : trace.detail.assetVersionId = trace.version.id
  detail_workflow : trace.detail.productionWorkflowId = trace.workflow.id
  detail_decision : trace.detail.decisionId = trace.decision.id
  ready : trace.workflow.status = .readyForActionProposal
  final : trace.workflow.finalAssetVersionId = some trace.version.id
  started : trace.workflow.StartedFor trace.decision trace.decisionApproval
  tenant : ∀ scope ∈ [trace.publication.scope, trace.reference.scope, trace.execution.scope,
    trace.action.scope, trace.approval.scope, trace.version.scope, trace.workflow.scope,
    trace.decision.scope, trace.decisionApproval.scope], scope = link.scope

/-- The rows are there. -/
structure Present (trace : Trace) (t : GovernedTables) : Prop where
  publication : trace.publication ∈ t.publications
  reference : trace.reference ∈ t.externalReferences
  execution : trace.execution ∈ t.executions
  action : trace.action ∈ t.actions
  approval : trace.approval ∈ t.approvals
  detail : trace.detail ∈ t.actionProposalDetails
  version : trace.version ∈ t.assetVersions
  workflow : trace.workflow ∈ t.productionWorkflows
  decision : trace.decision ∈ t.decisionTables.decisions
  decisionApproval : trace.decisionApproval ∈ t.decisionTables.decisionApprovals

end Trace

/-- What a step keeps of the rows of a trace. -/
structure KeepsTraces (t t' : GovernedTables) : Prop where
  rows : KeepsExecutionRows t.toExecutionTables t'.toExecutionTables
  production : KeepsProduction t.production t'.production
  decisions : KeepsDecisions t.decisionTables t'.decisionTables

/-- A trace that is there stays there, with its action and its execution as they are now. -/
theorem Trace.Present.kept {trace : Trace} {t t' : GovernedTables} (h : trace.Present t)
    (hkeeps : KeepsTraces t t') {link : PublicationExecutionLink} (hsound : trace.Sound link) :
    ∃ trace' : Trace, trace'.Present t' ∧ trace'.Sound link ∧
      trace'.publication = trace.publication := by
  obtain ⟨status, haction⟩ := hkeeps.rows.actions trace.action h.action
  obtain ⟨execution, hexecution, hbinding⟩ := hkeeps.rows.executions trace.execution h.execution
  simp only [Execution.binding, Execution.identity, Prod.mk.injEq] at hbinding
  obtain ⟨⟨hid, hscope, hactionId⟩, happrovalId⟩ := hbinding
  have hended : trace.workflow.ended = true := by
    rw [ProductionWorkflow.ended, hsound.ready]
  refine ⟨{ trace with action := trace.action.withStatus status, execution := execution }, ?_, ?_,
    rfl⟩
  · exact
      { publication := hkeeps.rows.publications h.publication
        reference := hkeeps.rows.references h.reference
        execution := hexecution
        action := haction
        approval := hkeeps.rows.approvals h.approval
        detail := hkeeps.rows.details h.detail
        version := hkeeps.production.versions h.version
        workflow := hkeeps.production.ended trace.workflow h.workflow hended
        decision := hkeeps.decisions.decisions trace.decision h.decision
          hsound.started.approves.approved
        decisionApproval := hkeeps.decisions.approvals h.decisionApproval }
  · exact { hsound with
      link_execution := hsound.link_execution.trans hid.symm
      reference_execution := hsound.reference_execution.trans hid.symm
      execution_action := hactionId.trans hsound.execution_action
      execution_approval := happrovalId.trans hsound.execution_approval
      tenant := by
        dsimp only
        rw [hscope]
        exact hsound.tenant }

/-! ## The invariant -/

/-- What is known of the rows of proposals, when all ids below `nextId` may be in use. -/
structure ProposalsBound (nextId : Id) (t : GovernedTables) : Prop where
  actions : Table.KeysNodup ActionProposal.id t.actions
  action_lt : ∀ action ∈ t.actions, action.id < nextId
  executions : Table.KeysNodup Execution.id t.executions
  execution_lt : ∀ execution ∈ t.executions, execution.id < nextId
  approvals : ∀ approval ∈ t.approvals, ∃ action ∈ t.actions,
    action.id = approval.actionId ∧ action.scope = approval.scope
  details : ∀ detail ∈ t.actionProposalDetails, ∃ action ∈ t.actions,
    ∃ w ∈ t.productionWorkflows, action.id = detail.actionId ∧ w.id = detail.productionWorkflowId ∧
      w.decisionId = detail.decisionId ∧ w.scope = action.scope

/-- Every publication has a link, and every link a trace. -/
structure TracesBound (t : GovernedTables) : Prop where
  publications : ∀ publication ∈ t.publications, ∃ link ∈ t.publicationExecutionLinks,
    ∃ trace : Trace, trace.publication = publication ∧ trace.Sound link ∧ trace.Present t
  links : ∀ link ∈ t.publicationExecutionLinks, ∃ trace : Trace, trace.Sound link ∧ trace.Present t

/-- The invariant of a state. -/
structure GovernedState.Traced (s : GovernedState M) : Prop where
  bound : s.ProductionBound
  proposals : ProposalsBound s.db.nextId s.db.tables.domain
  traces : TracesBound s.db.tables.domain

section Steps

variable {t t' : GovernedTables} {D : Digest} {now : Time} {op : GovernedOp M}
variable {nextId nextId' : Id}

theorem KeepsExecutionRows.action_of {t t' : ExecutionTables} (h : KeepsExecutionRows t t')
    {actionId : Id} {scope : TenantScope}
    (haction : ∃ action ∈ t.actions, action.id = actionId ∧ action.scope = scope) :
    ∃ action ∈ t'.actions, action.id = actionId ∧ action.scope = scope := by
  obtain ⟨action, haction, hid, hscope⟩ := haction
  obtain ⟨status, haction'⟩ := h.actions action haction
  exact ⟨_, haction', hid, hscope⟩

/-- The ids of the actions stay distinct, and a new one is new. -/
theorem ExecutionMove.actionIds
    (hmove : ExecutionMove D now op nextId nextId' t.toExecutionTables t'.toExecutionTables)
    (hle : nextId ≤ nextId') (h : ProposalsBound nextId t) :
    Table.KeysNodup ActionProposal.id t'.actions ∧ ∀ action ∈ t'.actions, action.id < nextId' := by
  have hsame : t'.actions.map ActionProposal.id = t.actions.map ActionProposal.id →
      Table.KeysNodup ActionProposal.id t'.actions ∧ ∀ action ∈ t'.actions, action.id < nextId' := by
    intro hids
    refine ⟨?_, fun action haction => ?_⟩
    · rw [Table.KeysNodup, hids]
      exact h.actions
    · have hmem : action.id ∈ t'.actions.map ActionProposal.id := List.mem_map_of_mem haction
      rw [hids] at hmem
      obtain ⟨old, hold, hid⟩ := List.mem_map.mp hmem
      rw [← hid]
      exact (h.action_lt old hold).trans_le hle
  have hmodified : ∀ (id : Id) (status : ActionStatus), t'.actions =
      Table.modify ActionProposal.id id (ActionProposal.withStatus status) t.actions →
        t'.actions.map ActionProposal.id = t.actions.map ActionProposal.id := by
    intro id status heq
    rw [heq]
    exact Table.map_key_modify fun _ _ hid => hid
  have hhandled : Handled t.toExecutionTables t'.toExecutionTables →
      t'.actions.map ActionProposal.id = t.actions.map ActionProposal.id := by
    intro hhandled
    obtain ⟨status, hactions, -⟩ := hhandled.actions
    rw [hactions, List.map_map]
    rfl
  cases hmove with
  | handled hhandled' => exact hsame (hhandled hhandled')
  | published _ _ _ _ _ _ _ _ _ hhandled' => exact hsame (hhandled hhandled')
  | approved _ _ action _ _ _ _ happroved => exact hsame (hmodified _ _ happroved.actions)
  | granted _ _ action hgranted => exact hsame (hmodified _ _ hgranted.actions)
  | proposed _ _ _ action hproposed =>
      rw [hproposed.actions]
      refine ⟨h.actions.append (Table.keysNodup_singleton _) ?_, fun row hrow => ?_⟩
      · intro added hadded old hold
        rw [List.mem_singleton.mp hadded]
        exact ((h.action_lt old hold).trans_le hproposed.fresh.1).ne
      · rcases List.mem_append.mp hrow with hold | hadded
        · exact (h.action_lt row hold).trans_le hle
        · rw [List.mem_singleton.mp hadded]
          exact hproposed.fresh.2

theorem Handled.execution_ids {t t' : ExecutionTables} (h : Handled t t') :
    t'.executions.map Execution.id = t.executions.map Execution.id := by
  have hids := congrArg (List.map fun binding => binding.1.1) h.executions
  rwa [List.map_map, List.map_map] at hids

/-- And so do the ids of the executions. -/
theorem ExecutionMove.executionIds
    (hmove : ExecutionMove D now op nextId nextId' t.toExecutionTables t'.toExecutionTables)
    (hle : nextId ≤ nextId') (h : ProposalsBound nextId t) :
    Table.KeysNodup Execution.id t'.executions ∧
      ∀ execution ∈ t'.executions, execution.id < nextId' := by
  have hsame : t'.executions.map Execution.id = t.executions.map Execution.id →
      Table.KeysNodup Execution.id t'.executions ∧
        ∀ execution ∈ t'.executions, execution.id < nextId' := by
    intro hids
    refine ⟨?_, fun execution hexecution => ?_⟩
    · rw [Table.KeysNodup, hids]
      exact h.executions
    · have hmem : execution.id ∈ t'.executions.map Execution.id := List.mem_map_of_mem hexecution
      rw [hids] at hmem
      obtain ⟨old, hold, hid⟩ := List.mem_map.mp hmem
      rw [← hid]
      exact (h.execution_lt old hold).trans_le hle
  cases hmove with
  | handled hhandled => exact hsame hhandled.execution_ids
  | published _ _ _ _ _ _ _ _ _ hhandled => exact hsame hhandled.execution_ids
  | proposed _ _ _ _ hproposed => exact hsame (by rw [hproposed.executions])
  | granted _ _ _ hgranted => exact hsame (by rw [hgranted.executions])
  | approved _ _ _ _ _ _ _ happroved =>
      cases happroved.executed with
      | found _ heq => exact hsame (by rw [heq])
      | added _ hmade heq =>
          obtain ⟨id, hfresh, hlt, rfl⟩ := hmade
          rw [heq]
          refine ⟨h.executions.append (Table.keysNodup_singleton _) ?_, fun row hrow => ?_⟩
          · intro added hadded old hold
            rw [List.mem_singleton.mp hadded]
            exact ((h.execution_lt old hold).trans_le hfresh).ne
          · rcases List.mem_append.mp hrow with hold | hadded
            · exact (h.execution_lt row hold).trans_le hle
            · rw [List.mem_singleton.mp hadded]
              exact hlt

/-- An execution that is new is one of an action that an owner of the tenant approves. -/
theorem ExecutionMove.authorized
    (hmove : ExecutionMove D now op nextId nextId' t.toExecutionTables t'.toExecutionTables)
    {execution : Execution} (hexecution : execution ∈ t'.executions)
    (hnew : ∀ old ∈ t.executions, old.id ≠ execution.id) :
    ∃ userId, op = .approveActionProposal execution.scope execution.actionId userId ∧
      assertOwner execution.scope userId t.toExecutionContext = .ok () := by
  have hold : t'.executions.map Execution.id = t.executions.map Execution.id → False := by
    intro hids
    have hmem : execution.id ∈ t'.executions.map Execution.id := List.mem_map_of_mem hexecution
    rw [hids] at hmem
    obtain ⟨old, hold, hid⟩ := List.mem_map.mp hmem
    exact hnew old hold hid
  cases hmove with
  | handled hhandled => exact (hold hhandled.execution_ids).elim
  | published _ _ _ _ _ _ _ _ _ hhandled => exact (hold hhandled.execution_ids).elim
  | proposed _ _ _ _ hproposed => exact (hold (by rw [hproposed.executions])).elim
  | granted _ _ _ hgranted => exact (hold (by rw [hgranted.executions])).elim
  | approved scope userId action _ _ hop happrovable happroved =>
      cases happroved.executed with
      | found _ heq => exact (hold (by rw [heq])).elim
      | added _ hmade heq =>
          obtain ⟨id, -, -, rfl⟩ := hmade
          rw [heq] at hexecution
          rcases List.mem_append.mp hexecution with hmem | hadded
          · exact absurd rfl (hnew execution hmem)
          · rw [List.mem_singleton.mp hadded]
            exact ⟨userId, hop, happrovable.owner⟩

/-- An approval is one of an action of its tenant. -/
theorem ExecutionMove.approvals
    (hmove : ExecutionMove D now op nextId nextId' t.toExecutionTables t'.toExecutionTables)
    (h : ProposalsBound nextId t) :
    ∀ approval ∈ t'.approvals, ∃ action ∈ t'.actions,
      action.id = approval.actionId ∧ action.scope = approval.scope := by
  have hkeeps := hmove.keepsExecutionRows
  have hsame : t'.approvals = t.approvals → ∀ approval ∈ t'.approvals, ∃ action ∈ t'.actions,
      action.id = approval.actionId ∧ action.scope = approval.scope := by
    intro heq approval happroval
    rw [heq] at happroval
    exact hkeeps.action_of (h.approvals approval happroval)
  cases hmove with
  | handled hhandled => exact hsame hhandled.approvals
  | published _ _ _ _ _ _ _ _ _ hhandled => exact hsame hhandled.approvals
  | proposed _ _ _ _ hproposed => exact hsame hproposed.approvals
  | approved scope userId action approval _ _ happrovable happroved =>
      intro row hrow
      cases happroved.approved with
      | found _ heq =>
          rw [heq] at hrow
          exact hkeeps.action_of (h.approvals row hrow)
      | added _ hmade heq =>
          rw [heq] at hrow
          rcases List.mem_append.mp hrow with hold | hadded
          · exact hkeeps.action_of (h.approvals row hold)
          · obtain ⟨id, -, -, rfl⟩ := hmade
            rw [List.mem_singleton.mp hadded]
            exact hkeeps.action_of ⟨action, Table.mem_of_find happrovable.found, rfl,
              happrovable.tenant⟩
  | granted scope userId action hgranted =>
      obtain ⟨id, -, -, heq⟩ := hgranted.approvals
      rw [heq]
      intro row hrow
      rcases List.mem_append.mp hrow with hold | hadded
      · exact hkeeps.action_of (h.approvals row hold)
      · rw [List.mem_singleton.mp hadded]
        exact hkeeps.action_of ⟨action, Table.mem_of_find hgranted.known, rfl, hgranted.tenant⟩

/-- The workflow, the version and the account of a proposal are rows of its tenant. -/
theorem tenant_of_proposalSources {scope : TenantScope}
    {productionWorkflowId connectorAccountId : Id} {t : ExecutionTables}
    {workflow : ProductionWorkflow} {version : AssetVersion} {account : ConnectorAccount}
    (h : proposalSources scope productionWorkflowId connectorAccountId t =
      .ok (workflow, version, account)) : workflow.scope = scope := by
  obtain ⟨found, -, h⟩ := Except.bind_eq_ok_iff.mp h
  obtain ⟨_, hscope, h⟩ := Except.bind_eq_ok_iff.mp h
  obtain ⟨_, -, h⟩ := Except.bind_eq_ok_iff.mp h
  obtain ⟨_, -, h⟩ := Except.bind_eq_ok_iff.mp h
  obtain ⟨_, -, h⟩ := Except.bind_eq_ok_iff.mp h
  obtain ⟨_, -, h⟩ := Except.bind_eq_ok_iff.mp h
  obtain ⟨_, -, h⟩ := Except.bind_eq_ok_iff.mp h
  obtain ⟨_, -, h⟩ := Except.bind_eq_ok_iff.mp h
  cases h
  exact (TenantScope.assertMatches_eq_ok_iff.mp hscope).symm

/-- A proposal is one for a workflow of the tenant of its action. -/
theorem ExecutionMove.details
    (hmove : ExecutionMove D now op nextId nextId' t.toExecutionTables t'.toExecutionTables)
    (hproduction : KeepsProduction t.production t'.production) (h : ProposalsBound nextId t) :
    ∀ detail ∈ t'.actionProposalDetails, ∃ action ∈ t'.actions, ∃ w ∈ t'.productionWorkflows,
      action.id = detail.actionId ∧ w.id = detail.productionWorkflowId ∧
        w.decisionId = detail.decisionId ∧ w.scope = action.scope := by
  have hkeeps := hmove.keepsExecutionRows
  have hold : ∀ detail ∈ t.actionProposalDetails, ∃ action ∈ t'.actions,
      ∃ w ∈ t'.productionWorkflows, action.id = detail.actionId ∧
        w.id = detail.productionWorkflowId ∧ w.decisionId = detail.decisionId ∧
          w.scope = action.scope := by
    intro detail hdetail
    obtain ⟨action, haction, w, hw, hid, hworkflow, hdecision, hscope⟩ := h.details detail hdetail
    obtain ⟨status, haction'⟩ := hkeeps.actions action haction
    obtain ⟨w', hw', hbinding⟩ := hproduction.kept w hw
    exact ⟨_, haction', w', hw', hid, hbinding.id.trans hworkflow,
      hbinding.decisionId.trans hdecision, hbinding.scope.trans hscope⟩
  have hsame : t'.actionProposalDetails = t.actionProposalDetails → _ :=
    fun heq detail hdetail => hold detail (heq ▸ hdetail)
  cases hmove with
  | handled hhandled => exact hsame hhandled.details
  | published _ _ _ _ _ _ _ _ _ hhandled => exact hsame hhandled.details
  | approved _ _ _ _ _ _ _ happroved => exact hsame happroved.details
  | granted _ _ _ hgranted => exact hsame hgranted.details
  | proposed scope productionWorkflowId connectorAccountId action hproposed =>
      obtain ⟨workflow, version, account, row, reviews, permission, hsources, hrows, hdetails, -⟩ :=
        hproposed.made
      rw [hdetails]
      intro detail hdetail
      rcases List.mem_append.mp hdetail with hmem | hadded
      · exact hold detail hmem
      · rw [List.mem_singleton.mp hadded]
        have haction : action ∈ t'.actions := by
          rw [hproposed.actions]
          exact List.mem_append_right _ (List.mem_singleton_self _)
        obtain ⟨w', hw', hbinding⟩ := hproduction.kept workflow (workflow_of_proposalSources hsources)
        refine ⟨action, haction, w', hw', hrows.detail_action.symm, ?_, ?_, ?_⟩
        · rw [hbinding.id, hrows.detail_workflow]
        · rw [hbinding.decisionId, hrows.detail_decision]
        · rw [hbinding.scope, tenant_of_proposalSources hsources, hrows.tenant]

/-- The rows that a publish job has found are bound to each other, and all of them belong to its
tenant. -/
theorem trace_of_bound {scope : TenantScope} {request : PublishRequest} {execution : Execution}
    {approval : Approval}
    (hbound : request.Bound D scope t.toExecutionTables execution approval)
    (hgated : AssetGated nextId t.production) (hworkflows : t.WorkflowsBound)
    (h : ProposalsBound nextId t) {publication : Publication} {reference : ExternalReference}
    {link : PublicationExecutionLink} (hrows : request.Published scope publication reference link) :
    ∃ version workflow decision decisionApproval,
      let trace : Trace := ⟨publication, reference, execution, request.action, approval,
        request.detail, version, workflow, decision, decisionApproval⟩
      trace.Sound link ∧ version ∈ t.assetVersions ∧ workflow ∈ t.productionWorkflows ∧
        decision ∈ t.decisionTables.decisions ∧
        decisionApproval ∈ t.decisionTables.decisionApprovals := by
  obtain ⟨⟨workflow, hworkflow, hready, hfinal⟩, ⟨version, hversion, htarget, htext⟩, -⟩ :=
    assertCurrentActionBinding_eq_ok hbound.current
  have hw := Table.mem_of_find hworkflow
  have hv := Table.mem_of_find hversion
  obtain ⟨decision, hdecision, decisionApproval, hdecisionApproval, hstarted⟩ :=
    hworkflows workflow hw
  -- the workflow of the proposal is the one that the job has found
  obtain ⟨action, haction, w, hw', hactionId, hworkflowId, hdecisionId, hscope⟩ :=
    h.details request.detail hbound.detail_mem
  obtain rfl : w = workflow :=
    hgated.workflows.eq_of_key_eq hw' hw (hworkflowId.trans (Table.key_of_find hworkflow).symm)
  obtain rfl : action = request.action :=
    h.actions.eq_of_key_eq haction hbound.action_mem (hactionId.trans hbound.detail_action)
  -- and the version is that of its asset
  obtain ⟨passed, hpassed, hgate⟩ := hgated.passed w hw hready
  have hversionId : version.id = request.detail.assetVersionId := Table.key_of_find hversion
  obtain rfl : passed = version := by
    refine hgated.versions.eq_of_key_eq hpassed hv (Option.some.inj ?_)
    rw [← hgate.final, hfinal, hversionId]
  have htenant : passed.scope = w.scope := hgated.tenant w hw passed hpassed hgate.asset
  -- the approval is one of the action
  obtain ⟨approved, happroved, happrovedId, happrovedScope⟩ :=
    h.approvals approval hbound.approval_mem
  have hmatch := Approval.matchesAction_iff.mp hbound.approval_action
  obtain rfl : approved = request.action :=
    h.actions.eq_of_key_eq happroved hbound.action_mem (happrovedId.trans hmatch.1)
  refine ⟨passed, w, decision, decisionApproval, ?_, hpassed, hw, hdecision, hdecisionApproval⟩
  exact
    { link_publication := hrows.link_publication
      link_reference := hrows.link_reference
      link_execution := hrows.link_execution.trans hbound.execution_id.symm
      link_action := hrows.link_action
      reference_execution := hrows.reference_execution.trans hbound.execution_id.symm
      execution_action := hbound.execution_action
      execution_approval := hbound.execution_approval
      approved := hbound.active
      approval_action := hbound.approval_action
      detail_action := hbound.detail_action
      target := htarget
      text := htext
      publication_version := hrows.version.trans hversionId.symm
      detail_version := hversionId.symm
      detail_workflow := hworkflowId.symm
      detail_decision := hdecisionId.symm.trans hstarted.decisionId
      ready := hready
      final := hfinal.trans (congrArg some hversionId.symm)
      started := hstarted
      tenant := by
        have hlink : link.scope = scope := hrows.tenant.2.2
        have haction := hbound.tenant.1
        have hworkflow : w.scope = scope := hscope.trans haction
        have hdecision : decision.scope = scope := hstarted.scope.symm.trans hworkflow
        simp [hlink, hrows.tenant, hbound.tenant, htenant, hworkflow, hdecision,
          hstarted.approves.scope, ← happrovedScope] }

/-- Traces that are there stay there, and a new publication comes with its own. -/
theorem TracesBound.step (h : TracesBound t) (hkeeps : KeepsTraces t t')
    (hmove : ExecutionMove D now op nextId nextId' t.toExecutionTables t'.toExecutionTables)
    (hgated : AssetGated nextId t.production) (hworkflows : t.WorkflowsBound)
    (hproposals : ProposalsBound nextId t) : TracesBound t' := by
  have hold : ∀ link, (∃ trace : Trace, trace.Sound link ∧ trace.Present t) →
      ∃ trace : Trace, trace.Sound link ∧ trace.Present t' := by
    rintro link ⟨trace, hsound, hpresent⟩
    obtain ⟨trace', hpresent', hsound', -⟩ := hpresent.kept hkeeps hsound
    exact ⟨trace', hsound', hpresent'⟩
  have hpublication : ∀ publication ∈ t.publications, ∃ link ∈ t'.publicationExecutionLinks,
      ∃ trace : Trace, trace.publication = publication ∧ trace.Sound link ∧ trace.Present t' := by
    intro publication hmem
    obtain ⟨link, hlink, trace, heq, hsound, hpresent⟩ := h.publications publication hmem
    obtain ⟨trace', hpresent', hsound', hsame⟩ := hpresent.kept hkeeps hsound
    exact ⟨link, hkeeps.rows.links hlink, trace', hsame.trans heq, hsound', hpresent'⟩
  have hsame : SamePublications t.toExecutionTables t'.toExecutionTables → TracesBound t' := by
    intro hsame
    constructor
    · rw [hsame.publications]
      exact hpublication
    · rw [hsame.links]
      exact fun link hlink => hold link (h.links link hlink)
  cases hmove with
  | handled _ hquiet => exact hsame hquiet
  | proposed _ _ _ _ _ hquiet => exact hsame hquiet
  | approved _ _ _ _ _ _ _ _ hquiet => exact hsame hquiet
  | granted _ _ _ _ hquiet => exact hsame hquiet
  | published context _ _ _ _ request execution approval hbound hhandled publication reference link
      hadded =>
      obtain ⟨version, workflow, decision, decisionApproval, hsound, hversion, hworkflow, hdecision,
        hdecisionApproval⟩ := trace_of_bound hbound hgated hworkflows hproposals hadded.published
      -- the rows of the new trace are there before the job, but for those that the job adds
      let added : GovernedTables := { t with
        publications := t'.publications
        externalReferences := t'.externalReferences }
      have hadds : KeepsTraces added t' :=
        ⟨{ hkeeps.rows with
            publications := List.Subset.refl _
            references := List.Subset.refl _ }, hkeeps.production, hkeeps.decisions⟩
      have hpublished : publication ∈ t'.publications := by
        rw [hadded.publications]
        exact List.mem_append_right _ (List.mem_singleton_self _)
      have hreference : reference ∈ t'.externalReferences := by
        rw [hadded.references]
        exact List.mem_append_right _ (List.mem_singleton_self _)
      have hpresent : Trace.Present ⟨publication, reference, execution, request.action, approval,
          request.detail, version, workflow, decision, decisionApproval⟩ added :=
        ⟨hpublished, hreference, hbound.execution_mem, hbound.action_mem, hbound.approval_mem,
          hbound.detail_mem, hversion, hworkflow, hdecision, hdecisionApproval⟩
      obtain ⟨trace, htrace, hsound', heq⟩ := hpresent.kept hadds hsound
      constructor
      · intro row hrow
        rw [hadded.publications] at hrow
        rcases List.mem_append.mp hrow with hmem | hmem
        · exact hpublication row hmem
        · refine ⟨link, ?_, trace, heq.trans (List.mem_singleton.mp hmem).symm, hsound', htrace⟩
          rw [hadded.links]
          exact List.mem_append_right _ (List.mem_singleton_self _)
      · rw [hadded.links]
        intro row hrow
        rcases List.mem_append.mp hrow with hmem | hmem
        · exact hold row (h.links row hmem)
        · rw [List.mem_singleton.mp hmem]
          exact ⟨trace, hsound', htrace⟩

end Steps

section Runs

variable (E : GovernedEnv M) {s : GovernedState M}

theorem traced_step (action : GovernedAction M) (h : s.Traced) : (s.step E action).Traced := by
  have hmove := executionMove E action s
  have hnext := (writes_step E action s).nextId
  have hproduction := (keepsProduction_step E h.bound.kept.gated action).1
  have hkeeps : KeepsTraces s.db.tables.domain (s.step E action).db.tables.domain :=
    ⟨hmove.keepsExecutionRows, hproduction,
      (keepsDecisions_step E action h.bound.kept.ledger.settled).1⟩
  obtain ⟨hactions, hactionLt⟩ := hmove.actionIds hnext h.proposals
  obtain ⟨hexecutions, hexecutionLt⟩ := hmove.executionIds hnext h.proposals
  exact ⟨productionBound_step E action h.bound,
    ⟨hactions, hactionLt, hexecutions, hexecutionLt, hmove.approvals h.proposals,
      hmove.details hproduction h.proposals⟩,
    h.traces.step hkeeps hmove h.bound.kept.gated h.bound.workflows h.proposals⟩

theorem GovernedState.Initial.traced {s : GovernedState M} (h : s.Initial) : s.Traced := by
  have hdomain := h.1
  refine ⟨h.productionBound, ⟨?_, ?_, ?_, ?_, ?_, ?_⟩, ⟨?_, ?_⟩⟩
  all_goals simp [hdomain, Table.keysNodup_nil]

theorem traced_run (h : s.Traced) (actions : List (GovernedAction M)) :
    (run (GovernedState.step E) s actions).Traced :=
  invariant_run_of_step _ (I := GovernedState.Traced) (fun _ action h' => traced_step E action h') h
    actions

/-- Executions stay bound as they are. -/
theorem executions_run (s : GovernedState M) (actions : List (GovernedAction M)) :
    ∀ execution ∈ s.db.tables.domain.executions,
      ∃ execution' ∈ (run (GovernedState.step E) s actions).db.tables.domain.executions,
        execution'.binding = execution.binding :=
  relation_run_of_step _
    (R := fun s s' : GovernedState M => ∀ execution ∈ s.db.tables.domain.executions,
      ∃ execution' ∈ s'.db.tables.domain.executions, execution'.binding = execution.binding)
    (fun _ execution hexecution => ⟨execution, hexecution, rfl⟩)
    (fun _ _ _ h h' execution hexecution => by
      obtain ⟨execution', hexecution', hbinding⟩ := h execution hexecution
      obtain ⟨execution'', hexecution'', hbinding'⟩ := h' execution' hexecution'
      exact ⟨execution'', hexecution'', hbinding'.trans hbinding⟩)
    (fun s action => (executionMove E action s).keepsExecutionRows.executions) s actions

/-- In every run, every link of a publication is for an execution that was made when a user who was
an owner of the tenant then called `approve_action_proposal` for its action. -/
theorem publication_authorized {s : GovernedState M} (hs : s.Initial)
    (actions : List (GovernedAction M)) :
    ∀ link ∈ (run (GovernedState.step E) s actions).db.tables.domain.publicationExecutionLinks,
      ∃ before action after userId, actions = before ++ action :: after ∧
        action.op = .approveActionProposal link.scope link.actionId userId ∧
        assertOwner link.scope userId (run (GovernedState.step E) s
          before).db.tables.domain.toExecutionContext = .ok () ∧
        (∀ execution ∈ (run (GovernedState.step E) s before).db.tables.domain.executions,
          execution.id ≠ link.executionId) ∧
        ∃ execution ∈ (run (GovernedState.step E) s
            (before ++ [action])).db.tables.domain.executions,
          execution.id = link.executionId ∧ execution.actionId = link.actionId := by
  intro link hlink
  have htraced := traced_run E hs.traced actions
  obtain ⟨trace, hsound, hpresent⟩ := htraced.traces.links link hlink
  -- the step that has made the execution
  have hnone : ¬ ∃ execution ∈ s.db.tables.domain.executions, execution.id = link.executionId := by
    rw [hs.1]
    simp
  have hsome : ∃ execution ∈ (run (GovernedState.step E) s actions).db.tables.domain.executions,
      execution.id = link.executionId :=
    ⟨trace.execution, hpresent.execution, hsound.link_execution.symm⟩
  obtain ⟨before, action, after, rfl, hbefore, execution, hexecution, hid⟩ := exists_step_of_run
    (fun s : GovernedState M => ∃ execution ∈ s.db.tables.domain.executions,
      execution.id = link.executionId) hnone hsome
  have hnew : ∀ old ∈ (run (GovernedState.step E) s before).db.tables.domain.executions,
      old.id ≠ execution.id := by
    intro old hold heq
    exact hbefore ⟨old, hold, heq.trans hid⟩
  obtain ⟨userId, hop, howner⟩ :=
    (executionMove E action (run (GovernedState.step E) s before)).authorized hexecution hnew
  -- it is the execution of the trace, which belongs to the tenant of the link
  obtain ⟨execution', hexecution', hbinding⟩ := executions_run E _ after execution hexecution
  simp only [Execution.binding, Execution.identity, Prod.mk.injEq] at hbinding
  obtain ⟨⟨hid', hscope, hactionId⟩, -⟩ := hbinding
  have hrun : run (GovernedState.step E) s (before ++ action :: after) =
      run (GovernedState.step E) ((run (GovernedState.step E) s before).step E action) after := by
    rw [run_append, run_cons]
  rw [hrun] at htraced hpresent
  obtain rfl : execution' = trace.execution := by
    refine htraced.proposals.executions.eq_of_key_eq hexecution' hpresent.execution ?_
    rw [hid', hid, hsound.link_execution]
  have htenant : trace.execution.scope = link.scope := hsound.tenant _ (by simp)
  have htarget : execution.actionId = link.actionId := by
    rw [← hactionId, hsound.execution_action, hsound.link_action]
  rw [← hscope, htenant, htarget] at hop
  rw [← hscope, htenant] at howner
  refine ⟨before, action, after, userId, rfl, hop, howner, fun old hold => ?_, execution, ?_, hid,
    htarget⟩
  · rw [← hid]
    exact hnew old hold
  · rw [run_append]
    exact hexecution

end Runs

/-! ### A message that is published -/

/-- The Action of the first channel is published. -/
def publishedOnce : List (GovernedAction AgentOutput) :=
  approvedActions ++ [publishes 84 102 (.published "7" "@channel")]

theorem published_execution_authorized :
    ∃ link ∈ (run (GovernedState.step (plainEnv shownFact)) governedStart
        publishedOnce).db.tables.domain.publicationExecutionLinks,
      ∃ before action after userId, publishedOnce = before ++ action :: after ∧
        action.op = .approveActionProposal link.scope link.actionId userId := by
  obtain ⟨link, hlink⟩ : ∃ link, link ∈ (run (GovernedState.step (plainEnv shownFact))
      governedStart publishedOnce).db.tables.domain.publicationExecutionLinks := by
    refine ⟨((run (GovernedState.step (plainEnv shownFact)) governedStart
      publishedOnce).db.tables.domain.publicationExecutionLinks).head ?_, List.head_mem _⟩
    decide +kernel
  obtain ⟨before, action, after, userId, hactions, hop, -⟩ := publication_authorized
    (plainEnv shownFact) governedStart_initial publishedOnce link hlink
  exact ⟨link, hlink, before, action, after, userId, hactions, hop⟩

end LaunchOS
