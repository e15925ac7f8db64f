import LaunchOS.Application.Exposure
import LaunchOS.Application.TracedRows

/-!
# What a step does to publications

A publication is written with its external reference and its link, by a publish job that has found
the rows it publishes for. No other step writes these three tables.

The module introduces:

* `SamePublications`: the three tables are left alone;
* `PublishRequest.Bound`: the rows that a publish job has found when it calls the provider;
* `PublishRequest.Published`: the rows that are written when the provider has published the message;
* `ExecutionMove`, `executionMove`: every step makes at most one move of the execution service;
* `KeepsExecutionRows`: actions change their status only, executions stay bound, and no row is deleted.
-/

namespace LaunchOS

open Txn Transition

variable {M : Type}

/-! ## The three tables -/

/-- Publications, external references and links are left alone. -/
structure SamePublications (t t' : ExecutionTables) : Prop where
  publications : t'.publications = t.publications
  references : t'.externalReferences = t.externalReferences
  links : t'.publicationExecutionLinks = t.publicationExecutionLinks

instance : IsPreorder ExecutionTables SamePublications where
  refl _ := ⟨rfl, rfl, rfl⟩
  trans _ _ _ h h' := ⟨h'.publications.trans h.publications, h'.references.trans h.references,
    h'.links.trans h.links⟩

theorem commandWrites_samePublications : CommandWrites SamePublications := by
  constructor <;> intros <;> exact ⟨rfl, rfl, rfl⟩

theorem proposalWrites_samePublications : ProposalWrites SamePublications := by
  constructor <;> intros <;> exact ⟨rfl, rfl, rfl⟩

theorem handlerWrites_samePublications : HandlerWrites SamePublications := by
  constructor <;> intros <;> exact ⟨rfl, rfl, rfl⟩

/-! ## The publish job -/

/-- What a publish job has found when it calls the provider. -/
structure PublishRequest.Bound (D : Digest) (scope : TenantScope) (t : ExecutionTables)
    (request : PublishRequest) (execution : Execution) (approval : Approval) : Prop where
  action_mem : request.action ∈ t.actions
  execution_mem : execution ∈ t.executions
  execution_id : execution.id = request.executionId
  tenant : request.action.scope = scope ∧ execution.scope = scope
  execution_action : execution.actionId = request.action.id
  detail_mem : request.detail ∈ t.actionProposalDetails
  detail_action : request.detail.actionId = request.action.id
  approval_mem : approval ∈ t.approvals
  execution_approval : execution.approvalId = some approval.id
  active : approval.status = .approved
  approval_action : approval.matchesAction request.action = true
  current : assertCurrentActionBinding D request.action request.detail t.toExecutionContext = .ok ()
  command : publishCommand request.detail = .ok request.command

/-- The rows of a message that is published for the request. -/
structure PublishRequest.Published (request : PublishRequest) (scope : TenantScope)
    (publication : Publication) (reference : ExternalReference) (link : PublicationExecutionLink) :
    Prop where
  tenant : publication.scope = scope ∧ reference.scope = scope ∧ link.scope = scope
  version : publication.assetVersionId = request.detail.assetVersionId
  channel : publication.channelId = request.detail.channelId
  reference_action : reference.actionId = request.action.id
  reference_execution : reference.executionId = request.executionId
  link_publication : link.publicationId = publication.id
  link_action : link.actionId = request.action.id
  link_execution : link.executionId = request.executionId
  link_reference : link.externalReferenceId = reference.id

/-- These rows are added. -/
structure PublicationAdded (scope : TenantScope) (request : PublishRequest) (t t' : ExecutionTables)
    (publication : Publication) (reference : ExternalReference) (link : PublicationExecutionLink) :
    Prop where
  published : request.Published scope publication reference link
  publications : t'.publications = t.publications ++ [publication]
  references : t'.externalReferences = t.externalReferences ++ [reference]
  links : t'.publicationExecutionLinks = t.publicationExecutionLinks ++ [link]

section Job

variable {D : Digest} {context : RuntimeJobContext} {payload : JobPayload} {now : Time}
variable {action : ActionProposal} {execution : Execution} {detail : ActionProposalDetail}
variable {approval : Approval} {account : ConnectorAccount} {t : ExecutionTables}

/-- A preflight without a reason to block has compared the approval and the asset version. -/
theorem binding_of_preflight (h : preflightBlockReason D action detail approval account t = .ok none) :
    approval.status = .approved ∧ approval.matchesAction action = true ∧
      assertCurrentActionBinding D action detail t.toExecutionContext = .ok () := by
  unfold preflightBlockReason at h
  obtain ⟨permission, -, h⟩ := Except.bind_eq_ok_iff.mp h
  rw [Except.pure_eq_ok_iff] at h
  split at h
  next => cases h
  next =>
  split at h
  next => cases h
  next =>
  split at h
  next => cases h
  next =>
  split at h
  next => cases h
  next hstatus =>
  split at h
  next => cases h
  next hmatches =>
  split at h
  next => cases h
  next hbinding =>
    refine ⟨by simpa using hstatus, by simpa using hmatches, ?_⟩
    cases hassert : assertCurrentActionBinding D action detail t.toExecutionContext with
    | error e =>
        rw [hassert] at hbinding
        exact absurd rfl hbinding
    | ok u => rfl

/-- The rows of a publish job belong to its tenant. -/
theorem tenant_of_boundExecution
    (h : boundExecution context payload t = .ok (action, execution)) :
    (action.scope = context.scope ∧ execution.scope = context.scope) ∧
      execution.actionId = action.id := by
  cases payload with
  | telegramPublish actionId executionId =>
      obtain ⟨foundAction, -, h⟩ := Except.bind_eq_ok_iff.mp h
      obtain ⟨foundExecution, -, h⟩ := Except.bind_eq_ok_iff.mp h
      obtain ⟨_, hactionScope, h⟩ := Except.bind_eq_ok_iff.mp h
      obtain ⟨_, hexecutionScope, h⟩ := Except.bind_eq_ok_iff.mp h
      obtain ⟨_, hbound, h⟩ := Except.bind_eq_ok_iff.mp h
      cases h
      exact ⟨⟨(TenantScope.assertMatches_eq_ok_iff.mp hactionScope).symm,
        (TenantScope.assertMatches_eq_ok_iff.mp hexecutionScope).symm⟩,
        require_eq_ok_iff.mp hbound⟩
  | _ => cases h

theorem executionApproval_eq_ok (h : executionApproval execution t = .ok approval) :
    approval ∈ t.approvals ∧ execution.approvalId = some approval.id := by
  obtain ⟨approvalId, hid, h⟩ := Except.bind_eq_ok_iff.mp h
  have hfind := orRaise_eq_ok_iff.mp h
  rw [orRaise_eq_ok_iff.mp hid, Table.key_of_find hfind]
  exact ⟨Table.mem_of_find hfind, rfl⟩

/-- A job that calls the provider has found all that it publishes for. -/
theorem ensures_prepare_bound (D : Digest) (context : RuntimeJobContext) (payload : JobPayload)
    (db : AgentDatabase M ExecutionTables) :
    Ensures (prepareExecution D context payload) (fun result _ => ∀ request,
      result = some request → ∃ execution approval,
        request.Bound D context.scope db.tables.domain execution approval) db := by
  rw [prepareExecution, ensures_bind, ensures_tables, ensures_bind, ensures_check]
  rintro ⟨action, execution⟩ hbound
  obtain ⟨htenant, hactionId⟩ := tenant_of_boundExecution hbound
  obtain ⟨-, haction, hexecution⟩ := boundExecution_eq_ok hbound
  dsimp only
  split
  next => exact (ensures_pure none).mpr (by simp)
  next =>
    rw [ensures_bind, ensures_check]
    intro detail hdetail
    have hfound := orRaise_eq_ok_iff.mp hdetail
    rw [ensures_bind, ensures_check]
    intro approval happroval
    obtain ⟨happrovalMem, happrovalId⟩ := executionApproval_eq_ok happroval
    rw [ensures_bind, ensures_check]
    intro account _
    rw [ensures_bind, ensures_check]
    intro reason hreason
    -- a job that is blocked, or has its reference, makes no request
    split
    next =>
      rw [setExecutionStatus, setActionStatus, ensures_bind, ensures_modifyTables, ensures_bind,
        ensures_modifyTables, ensures_pure]
      simp
    next =>
      obtain ⟨hactive, hmatches, hcurrent⟩ := binding_of_preflight hreason
      split
      next =>
        rw [succeedExecution, setActionStatus, ensures_bind, ensures_bind, ensures_modifyTables,
          ensures_modifyTables, ensures_pure]
        simp
      next =>
        rw [ensures_bind, ensures_check]
        intro command hcommand
        rw [setExecutionStatus, ensures_bind, ensures_modifyTables, ensures_pure]
        intro request hrequest
        obtain rfl := Option.some.inj hrequest
        exact ⟨execution, approval,
          { action_mem := Table.mem_of_find haction
            execution_mem := Table.mem_of_find hexecution
            execution_id := rfl
            tenant := htenant
            execution_action := hactionId
            detail_mem := Table.mem_of_find hfound
            detail_action := Table.key_of_find hfound
            approval_mem := happrovalMem
            execution_approval := happrovalId
            active := hactive
            approval_action := hmatches
            current := hcurrent
            command := hcommand }⟩

/-- A message that is published is written with its reference and its link. -/
theorem ensures_settle_added (scope : TenantScope) (request : PublishRequest)
    (messageId chatId : String) (db : AgentDatabase M ExecutionTables) :
    Ensures (settleExecution now scope request (.published messageId chatId)) (fun _ db' =>
      ∃ publication reference link, PublicationAdded scope request db.tables.domain
        db'.tables.domain publication reference link) db := by
  have hf := domainRelation_frames (M := M) (r := SamePublications) now fun _ => true
  unfold settleExecution insertExternalReference
  rw [ensures_bind, ensures_newId, ensures_bind, ensures_modifyTables, ensures_bind, ensures_newId,
    ensures_bind, ensures_bind, ensures_tables, ensures_bind, ensures_check]
  intro _ _
  rw [ensures_bind, ensures_check]
  intro _ _
  rw [ensures_modifyTables, ensures_bind, ensures_newId, ensures_bind, ensures_modifyTables,
    ensures_bind]
  refine (ensures_startExperiment request.detail.decisionId _).mono ?_
  rintro _ db₁ ⟨-, hdomain⟩
  -- the rest leaves the three tables alone
  refine (within_succeedExecution handlerWrites_samePublications hf _ _ _).ensures_bind
    fun _ db₂ h₂ => ?_
  refine (hf.addOutboxEvent scope "telegram.publication.executed" _).mono fun _ db₃ h₃ => ?_
  obtain ⟨hpublications, hreferences, hlinks⟩ := (h₂.trans h₃).domain
  rw [hdomain] at hpublications hreferences hlinks
  exact ⟨_, _, _, ⟨⟨⟨rfl, rfl, rfl⟩, rfl, rfl, rfl, rfl, rfl, rfl, rfl, rfl⟩, hpublications,
    hreferences, hlinks⟩⟩

end Job

/-! ## Steps -/

/-- What a step does to the rows of the execution service. -/
inductive ExecutionMove (D : Digest) (now : Time) (op : GovernedOp M) (nextId nextId' : Id)
    (t t' : ExecutionTables) : Prop
  | handled (h : Handled t t') (hsame : SamePublications t t')
  | proposed (scope : TenantScope) (productionWorkflowId connectorAccountId : Id)
      (action : ActionProposal)
      (h : Proposed D now scope productionWorkflowId connectorAccountId nextId nextId' t t' action)
      (hsame : SamePublications t t')
  | approved (scope : TenantScope) (userId : String) (action : ActionProposal) (approval : Approval)
      (execution : Execution) (hop : op = .approveActionProposal scope action.id userId)
      (happrovable : action.Approvable D scope userId t)
      (h : Approved now scope userId nextId nextId' t t' action approval execution)
      (hsame : SamePublications t t')
  | granted (scope : TenantScope) (userId : String) (action : ActionProposal)
      (h : Granted now scope userId nextId nextId' t t' action) (hsame : SamePublications t t')
  | published (context : RuntimeJobContext) (payload : JobPayload) (messageId chatId : String)
      (hop : op = .executeJob context payload (.published messageId chatId) false)
      (request : PublishRequest) (execution : Execution) (approval : Approval)
      (hbound : request.Bound D context.scope t execution approval) (h : Handled t t')
      (publication : Publication) (reference : ExternalReference) (link : PublicationExecutionLink)
      (hadded : PublicationAdded context.scope request t t' publication reference link)

section Steps

variable (E : GovernedEnv M) {now : Time} {db : AgentDatabase M GovernedTables}

instance : IsPreorder GovernedTables fun t t' =>
    SamePublications t.toExecutionTables t'.toExecutionTables where
  refl _ := refl_of SamePublications _
  trans _ _ _ := trans_of SamePublications

instance : IsPreorder GovernedTables fun t t' =>
    Handled t.toExecutionTables t'.toExecutionTables where
  refl _ := refl_of Handled _
  trans _ _ _ := trans_of Handled

theorem executionMove_op {op : GovernedOp M} (hpart : op.part = .execution) :
    Ensures (op.run E now) (fun _ db' => ExecutionMove E.digest now op db.nextId db'.nextId
      db.tables.domain.toExecutionTables db'.tables.domain.toExecutionTables) db := by
  have hf := domainRelation_frames (M := M) (r := Handled) now fun _ => true
  have hsame : Within (Frames fun t t' : GovernedTables =>
      SamePublications t.toExecutionTables t'.toExecutionTables) (op.run E now) :=
    framesWithin_executionOp commandWrites_samePublications proposalWrites_samePublications
      (fun _ _ h => h) E hpart
  have hhandled : ∀ {m : ExecutionTxn M Unit}, Within (Frames Handled) m →
      Ensures (executionPart m) (fun _ db' => Handled db.tables.domain.toExecutionTables
        db'.tables.domain.toExecutionTables) db := by
    intro m hm
    rw [ensures_executionPart]
    exact (hm _).mono fun _ _ h => h.domain
  cases op with
  | probeAndRegisterTelegramConnector scope channelId targetChatId readiness =>
      refine ((hhandled (within_probeAndRegisterTelegramConnector hf scope channelId targetChatId
        readiness (fun _ _ _ => ?_) (fun _ _ => ?_))).and (hsame db)).mono
          fun _ _ h => .handled h.1 h.2.domain
      all_goals exact .of_eq rfl rfl rfl rfl rfl rfl
  | setGlobalExecutionControls scope userId automationPaused executionPaused revokeAll =>
      refine ((hhandled (within_setGlobalExecutionControls hf (fun _ _ => ?_) scope userId _ _
        _)).and (hsame db)).mono fun _ _ h => .handled h.1 h.2.domain
      exact .of_eq rfl rfl rfl rfl rfl rfl
  | createActionProposal scope productionWorkflowId connectorAccountId =>
      have hmoves : Ensures (GovernedOp.run E now (.createActionProposal scope productionWorkflowId
          connectorAccountId)) (fun _ db' =>
            Handled db.tables.domain.toExecutionTables db'.tables.domain.toExecutionTables ∨
            ∃ action, Proposed E.digest now scope productionWorkflowId connectorAccountId db.nextId
              db'.nextId db.tables.domain.toExecutionTables db'.tables.domain.toExecutionTables
              action) db := by
        rw [GovernedOp.run, ensures_bind, ensures_executionPart]
        refine (createActionProposal_moves E.digest scope productionWorkflowId
          connectorAccountId).mono ?_
        rintro action part (⟨rfl, -⟩ | hproposed)
        · exact (ensures_pure _).mpr (.inl (refl _))
        · exact (ensures_pure _).mpr (.inr ⟨action, hproposed⟩)
      refine (hmoves.and (hsame db)).mono ?_
      rintro _ db' ⟨hhandled | ⟨action, hproposed⟩, hkept⟩
      · exact .handled hhandled hkept.domain
      · exact .proposed scope productionWorkflowId connectorAccountId action hproposed hkept.domain
  | approveActionProposal scope actionId userId =>
      have hmoves : Ensures (GovernedOp.run E now (.approveActionProposal scope actionId userId))
          (fun _ db' => ∃ action approval execution,
            approvableAction E.digest scope actionId userId db.tables.domain.toExecutionTables =
              .ok action ∧ Approved now scope userId db.nextId db'.nextId
                db.tables.domain.toExecutionTables db'.tables.domain.toExecutionTables action
                approval execution) db := by
        rw [GovernedOp.run, ensures_bind, ensures_executionPart, approveActionProposal_eq,
          ensures_map]
        refine (approveActionProposal_moves E.digest scope actionId userId).mono ?_
        rintro result part ⟨action, happrovable, happroved, -⟩
        exact (ensures_pure _).mpr ⟨action, result.approval, result.execution, happrovable,
          happroved⟩
      refine (hmoves.and (hsame db)).mono ?_
      rintro _ db' ⟨⟨action, approval, execution, happrovable, happroved⟩, hkept⟩
      obtain ⟨rfl, hchecked⟩ := approvable_of_eq_ok happrovable
      exact .approved scope userId action approval execution rfl hchecked happroved hkept.domain
  | approveAction scope actionId userId =>
      have hmoves : Ensures (GovernedOp.run E now (.approveAction scope actionId userId))
          (fun _ db' => ∃ action, Granted now scope userId db.nextId db'.nextId
            db.tables.domain.toExecutionTables db'.tables.domain.toExecutionTables action) db := by
        rw [GovernedOp.run, ensures_executionPart]
        refine (approveAction_moves scope actionId userId).mono ?_
        rintro _ part ⟨action, -, hgranted⟩
        exact ⟨action, hgranted⟩
      refine (hmoves.and (hsame db)).mono ?_
      rintro _ db' ⟨⟨action, hgranted⟩, hkept⟩
      exact .granted scope userId action hgranted hkept.domain
  | executeJob context payload outcome lost =>
      exact (ensures_pure _).mpr (.handled (refl _) (refl _))
  | _ => cases hpart

/-- The parts other than the execution service write none of these rows. -/
theorem LoopPart.Writes.handled {part : LoopPart} {t t' : GovernedTables}
    (h : part.Writes t t') (hpart : part ≠ .execution) :
    Handled t.toExecutionTables t'.toExecutionTables ∧
      SamePublications t.toExecutionTables t'.toExecutionTables := by
  unfold LoopPart.Writes at h
  rw [h]
  cases part with
  | execution => exact absurd rfl hpart
  | decisions | production | agents | business | analytics =>
      exact ⟨.of_eq rfl rfl rfl rfl rfl rfl, ⟨rfl, rfl, rfl⟩⟩

/-- A publish job publishes for the rows it has found, or it publishes nothing. -/
theorem executionMove_executeJob (s : GovernedState M) (context : RuntimeJobContext)
    (payload : JobPayload) (outcome : PublishOutcome) (lost : Bool) :
    ExecutionMove E.digest now (.executeJob context payload outcome lost : GovernedOp M) s.db.nextId
      (executeJob E.digest now context payload outcome lost s).db.nextId
      s.db.tables.domain.toExecutionTables
      (executeJob E.digest now context payload outcome lost s).db.tables.domain.toExecutionTables := by
  have hh := domainRelation_frames (M := M) (r := Handled) now fun _ => true
  have hs := domainRelation_frames (M := M) (r := SamePublications) now fun _ => true
  have hprepare : Ensures (executionPart (prepareExecution E.digest context payload))
      (fun result db => (Handled s.db.tables.domain.toExecutionTables
          db.tables.domain.toExecutionTables ∧
        SamePublications s.db.tables.domain.toExecutionTables db.tables.domain.toExecutionTables) ∧
        ∀ request, result = some request → ∃ execution approval,
          request.Bound E.digest context.scope s.db.tables.domain.toExecutionTables execution
            approval) s.db := by
    rw [ensures_executionPart]
    refine (((within_prepareExecution .handled hh E.digest context payload _).and
      (within_prepareExecution handlerWrites_samePublications hs E.digest context payload _)).and
        (ensures_prepare_bound E.digest context payload _)).mono ?_
    rintro result part ⟨⟨hhandled, hsame⟩, hbound⟩
    exact ⟨⟨hhandled.domain, hsame.domain⟩, hbound⟩
  unfold executeJob
  split
  next => exact .handled (refl _) (refl _)
  next db hok =>
    obtain ⟨⟨hhandled, hsame⟩, -⟩ := hprepare none db hok
    exact .handled hhandled hsame
  next request db hok =>
    obtain ⟨⟨hhandled, hsame⟩, hbound⟩ := hprepare (some request) db hok
    dsimp only
    split
    next db' hsettle =>
      have hsettled : Ensures (executionPart (settleExecution now context.scope request outcome))
          (fun _ db' => Handled db.tables.domain.toExecutionTables
            db'.tables.domain.toExecutionTables) db := by
        rw [ensures_executionPart]
        exact (within_settleExecution .handled hh .handled context.scope request outcome _).mono
          fun _ _ h => h.domain
      have hkeeps : (∀ messageId chatId, outcome ≠ .published messageId chatId) →
          SamePublications db.tables.domain.toExecutionTables
            db'.tables.domain.toExecutionTables := by
        intro hunpublished
        have hwithin : Ensures (executionPart (settleExecution now context.scope request outcome))
            (fun _ db' => SamePublications db.tables.domain.toExecutionTables
              db'.tables.domain.toExecutionTables) db := by
          rw [ensures_executionPart]
          exact (within_unpublished handlerWrites_samePublications hs hunpublished context.scope
            request _).mono fun _ _ h => h.domain
        exact hwithin.of_exec hsettle
      have hmoved := trans_of Handled hhandled (hsettled.of_exec hsettle)
      cases outcome with
      | published messageId chatId =>
          have hadds : Ensures (executionPart (settleExecution now context.scope request
              (.published messageId chatId))) (fun _ db' => ∃ publication reference link,
                PublicationAdded context.scope request db.tables.domain.toExecutionTables
                  db'.tables.domain.toExecutionTables publication reference link) db := by
            rw [ensures_executionPart]
            exact ensures_settle_added context.scope request messageId chatId _
          obtain ⟨publication, reference, link, hadded⟩ := hadds.of_exec hsettle
          obtain ⟨execution, approval, hfound⟩ := hbound request rfl
          refine .published context payload messageId chatId rfl request execution approval hfound
            hmoved publication reference link ⟨hadded.published, ?_, ?_, ?_⟩
          · rw [hadded.publications, hsame.publications]
          · rw [hadded.references, hsame.references]
          · rw [hadded.links, hsame.links]
      | ambiguous errorClass | rejected errorClass =>
          exact .handled hmoved (trans_of SamePublications hsame (hkeeps (by simp)))
    next => exact .handled (refl _) (refl _)

/-- Every step makes at most one move. -/
theorem executionMove (action : GovernedAction M) (s : GovernedState M) :
    ExecutionMove E.digest action.now action.op s.db.nextId (s.step E action).db.nextId
      s.db.tables.domain.toExecutionTables (s.step E action).db.tables.domain.toExecutionTables := by
  by_cases hpart : action.op.part = .execution
  · have hstep := s.stepped E action
    generalize s.step E action = s' at hstep ⊢
    cases hstep with
    | executed hop =>
        rw [hop]
        exact executionMove_executeJob E s _ _ _ _
    | committed hok => exact (executionMove_op E hpart).of_exec hok
    | refused => exact .handled (refl _) (refl _)
  · obtain ⟨hhandled, hsame⟩ := (writes_step E action s).domain.handled hpart
    exact .handled hhandled hsame

end Steps

/-! ## Rows that are kept -/

/-- Actions change their status only, executions stay bound as they are, and no row is deleted. -/
structure KeepsExecutionRows (t t' : ExecutionTables) : Prop where
  actions : ∀ action ∈ t.actions, ∃ status, action.withStatus status ∈ t'.actions
  executions : ∀ execution ∈ t.executions, ∃ execution' ∈ t'.executions,
    execution'.binding = execution.binding
  details : t.actionProposalDetails ⊆ t'.actionProposalDetails
  approvals : t.approvals ⊆ t'.approvals
  publications : t.publications ⊆ t'.publications
  references : t.externalReferences ⊆ t'.externalReferences
  links : t.publicationExecutionLinks ⊆ t'.publicationExecutionLinks

section Keeps

variable {D : Digest} {now : Time} {op : GovernedOp M} {nextId nextId' : Id}
variable {t t' : ExecutionTables}

theorem Handled.mem_actions (h : Handled t t') :
    ∀ action ∈ t.actions, ∃ status, action.withStatus status ∈ t'.actions := by
  obtain ⟨status, hactions, -⟩ := h.actions
  intro action haction
  rw [hactions]
  exact ⟨status action, List.mem_map_of_mem haction⟩

theorem Handled.mem_executions (h : Handled t t') :
    ∀ execution ∈ t.executions, ∃ execution' ∈ t'.executions,
      execution'.binding = execution.binding := by
  intro execution hexecution
  have hmem : execution.binding ∈ t'.executions.map Execution.binding := by
    rw [h.executions]
    exact List.mem_map_of_mem hexecution
  exact List.mem_map.mp hmem

/-- An action whose status is written is the same action in that status or in its own. -/
theorem mem_modify_withStatus {actions : List ActionProposal} (id : Id) (status : ActionStatus) :
    ∀ action ∈ actions, ∃ status', action.withStatus status' ∈
      Table.modify ActionProposal.id id (ActionProposal.withStatus status) actions := by
  intro action haction
  by_cases hid : action.id = id
  · exact ⟨status, Table.mem_modify_of_eq haction hid⟩
  · refine ⟨action.status, ?_⟩
    rw [action.withStatus_self]
    exact Table.mem_modify_of_ne haction hid

theorem ExecutionMove.keepsExecutionRows (h : ExecutionMove D now op nextId nextId' t t') :
    KeepsExecutionRows t t' := by
  have hpublished : SamePublications t t' → t.publications ⊆ t'.publications ∧
      t.externalReferences ⊆ t'.externalReferences ∧
        t.publicationExecutionLinks ⊆ t'.publicationExecutionLinks := by
    intro hsame
    rw [hsame.publications, hsame.references, hsame.links]
    exact ⟨List.Subset.refl _, List.Subset.refl _, List.Subset.refl _⟩
  cases h with
  | handled h hsame =>
      obtain ⟨hpublications, hreferences, hlinks⟩ := hpublished hsame
      exact ⟨h.mem_actions, h.mem_executions, by rw [h.details]; exact List.Subset.refl _,
        by rw [h.approvals]; exact List.Subset.refl _, hpublications, hreferences, hlinks⟩
  | proposed _ _ _ action h hsame =>
      obtain ⟨hpublications, hreferences, hlinks⟩ := hpublished hsame
      obtain ⟨-, -, -, detail, -, -, -, -, hdetails, -⟩ := h.made
      refine ⟨fun old hold => ⟨old.status, ?_⟩, ?_, ?_, ?_, hpublications, hreferences, hlinks⟩
      · rw [h.actions, old.withStatus_self]
        exact List.mem_append_left _ hold
      · rw [h.executions]
        exact fun execution hexecution => ⟨execution, hexecution, rfl⟩
      · rw [hdetails]
        exact List.subset_append_left _ _
      · rw [h.approvals]
        exact List.Subset.refl _
  | approved _ _ action approval execution _ _ h hsame =>
      obtain ⟨hpublications, hreferences, hlinks⟩ := hpublished hsame
      refine ⟨?_, fun old hold => ⟨old, h.executed.subset hold, rfl⟩, ?_, h.approved.subset,
        hpublications, hreferences, hlinks⟩
      · rw [h.actions]
        exact mem_modify_withStatus action.id .approved
      · rw [h.details]
        exact List.Subset.refl _
  | granted _ _ action h hsame =>
      obtain ⟨hpublications, hreferences, hlinks⟩ := hpublished hsame
      obtain ⟨id, -, -, happrovals⟩ := h.approvals
      refine ⟨?_, ?_, ?_, ?_, hpublications, hreferences, hlinks⟩
      · rw [h.actions]
        exact mem_modify_withStatus action.id .approved
      · rw [h.executions]
        exact fun execution hexecution => ⟨execution, hexecution, rfl⟩
      · rw [h.details]
        exact List.Subset.refl _
      · rw [happrovals]
        exact List.subset_append_left _ _
  | published _ _ _ _ _ _ _ _ _ h _ _ _ hadded =>
      refine ⟨h.mem_actions, h.mem_executions, ?_, ?_, ?_, ?_, ?_⟩
      · rw [h.details]
        exact List.Subset.refl _
      · rw [h.approvals]
        exact List.Subset.refl _
      · rw [hadded.publications]
        exact List.subset_append_left _ _
      · rw [hadded.references]
        exact List.subset_append_left _ _
      · rw [hadded.links]
        exact List.subset_append_left _ _

end Keeps

end LaunchOS
