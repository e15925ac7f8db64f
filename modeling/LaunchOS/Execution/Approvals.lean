import LaunchOS.Execution.ActionStatuses
import LaunchOS.Execution.WriteBoundary
import LaunchOS.Runtime.JobRepresentation

/-!
# One proposal for each publication

`create_action_proposal` and `approve_action_proposal` find the rows that they have made before. What
they find them by differs: the action by its idempotency key, the approval by what it approves, the
execution by its action and the job by its execution. As the rows are only ever made together, none
of the lookups fails where another one succeeds.

The module introduces:

* `Proposals`: the tables of the service go in step, row by row;
* `Booked`: every execution has its publish job;
* `ProposedOnce`: one action for each target, and one row of each kind for each action;
* `approve_again`: a second approval finds all rows, and writes nothing;
* `proposals_idempotent`: all of it, in every run without `approve_action`.
-/

namespace LaunchOS

open Txn Transition

variable {M : Type}

/-! ## Rows in step -/

/-- The controllers of an execution, in the order of their reviews. -/
def executionControllerTypes : List ExecutionControllerType :=
  [.security, .privacy, .platform, .execution, .cost]

section Reviews

variable (action : ActionProposal) (detail : ActionProposalDetail) (account : ConnectorAccount)
variable (now : Time) (t : ExecutionContext)

theorem controllerType_securityReview : (securityReview detail).controllerType = .security := by
  unfold securityReview
  split <;> rfl

theorem controllerType_privacyReview : (privacyReview detail now t).controllerType = .privacy := by
  unfold privacyReview
  split
  · rfl
  · split_ifs <;> rfl

theorem controllerType_platformReview :
    (platformReview detail account).controllerType = .platform := by
  unfold platformReview
  split_ifs <;> rfl

theorem controllerType_executionReview :
    (executionReview action detail t).controllerType = .execution := by
  unfold executionReview
  split
  · split_ifs
    · rfl
    · rfl
    · rfl
    · split <;> rfl
  · rfl

/-- Every proposal is reviewed by all controllers. -/
theorem map_controllerType_evaluateExecutionControllers :
    (evaluateExecutionControllers action detail account now t).map
      DeterministicExecutionReview.controllerType = executionControllerTypes := by
  simp only [evaluateExecutionControllers, executionControllerTypes, List.map_cons, List.map_nil,
    controllerType_securityReview, controllerType_privacyReview, controllerType_platformReview,
    controllerType_executionReview]
  rfl

end Reviews

/-- The approval is an active one of the action. -/
def Approval.activeFor (approval : Approval) (action : ActionProposal) : Bool :=
  approval.actionId = action.id && approval.actionType = action.actionType &&
    approval.objectVersionId = action.targetObjectVersionId && approval.status = .approved

theorem ActionProposal.activeApproval_eq (action : ActionProposal) (t : ExecutionTables) :
    action.activeApproval t = t.approvals.find? (Approval.activeFor · action) := rfl

theorem Approval.activeFor_approvalBy (action : ActionProposal) (id : Id) (scope : TenantScope)
    (userId : String) (now : Time) : (action.approvalBy id scope userId now).activeFor action := by
  simp [activeFor, ActionProposal.approvalBy]

theorem Approval.actionId_of_activeFor {approval : Approval} {action : ActionProposal}
    (h : approval.activeFor action) : approval.actionId = action.id := by
  simp only [activeFor, Bool.and_eq_true, decide_eq_true_eq] at h
  exact h.1.1.1

/-- The rows of an action are made together: its detail, its permission and its reviews with the
action, its execution with its approval. -/
structure Proposals (D : Digest) (nextId : Id) (t : ExecutionTables) : Prop where
  actions : Table.KeysNodup ActionProposal.id t.actions
  action_lt : ∀ action ∈ t.actions, action.id < nextId
  keys : Table.KeysNodup ActionProposal.idempotencyKey t.actions
  details : t.actionProposalDetails.map (fun detail => (detail.actionId, D.proposalKey detail)) =
    t.actions.map fun action => (action.id, action.idempotencyKey)
  permissions : t.permissionEvaluations.map PermissionEvaluation.actionId =
    t.actions.map ActionProposal.id
  reviews : t.executionControllerReviews.map (fun review => (review.actionId, review.controllerType)) =
    t.actions.flatMap fun action => executionControllerTypes.map (action.id, ·)
  approvals : Table.KeysNodup Approval.actionId t.approvals
  executions : t.executions.map (fun execution => (execution.actionId, execution.approvalId)) =
    t.approvals.map fun approval => (approval.actionId, some approval.id)
  approved : ∀ approval ∈ t.approvals, ∃ action ∈ t.actions, approval.activeFor action ∧
    (action.status = .approved ∨ action.status.closed)

namespace Proposals

variable {D : Digest} {nextId nextId' : Id} {t t' : ExecutionTables}

theorem executionIds (h : Proposals D nextId t) :
    t.executions.map Execution.actionId = t.approvals.map Approval.actionId := by
  have hfst := congrArg (List.map Prod.fst) h.executions
  rwa [List.map_map, List.map_map] at hfst

/-- An approval of an action is its active one, and what `approve_action_proposal` finds. -/
theorem activeApproval_eq_some_iff (h : Proposals D nextId t) {action : ActionProposal}
    (haction : action ∈ t.actions) {approval : Approval} :
    action.activeApproval t = some approval ↔
      approval ∈ t.approvals ∧ approval.actionId = action.id := by
  rw [ActionProposal.activeApproval_eq]
  constructor
  · intro hfind
    have hactive : approval.activeFor action := by simpa using List.find?_some hfind
    exact ⟨List.mem_of_find?_eq_some hfind, Approval.actionId_of_activeFor hactive⟩
  · rintro ⟨happroval, hid⟩
    have hactive : approval.activeFor action := by
      obtain ⟨owner, howner, hactive, -⟩ := h.approved approval happroval
      obtain rfl := h.actions.eq_of_key_eq howner haction
        ((Approval.actionId_of_activeFor hactive).symm.trans hid)
      exact hactive
    cases hfind : t.approvals.find? (Approval.activeFor · action) with
    | none => exact absurd hactive (List.find?_eq_none.mp hfind approval happroval)
    | some found =>
        have hfound : found.activeFor action := by simpa using List.find?_some hfind
        rw [h.approvals.eq_of_key_eq (List.mem_of_find?_eq_some hfind) happroval
          ((Approval.actionId_of_activeFor hfound).trans hid.symm)]

/-- An action has an execution if and only if it has an approval. -/
theorem execution_iff_approval (h : Proposals D nextId t) (actionId : Id) :
    (∃ execution ∈ t.executions, execution.actionId = actionId) ↔
      ∃ approval ∈ t.approvals, approval.actionId = actionId := by
  rw [← List.mem_map, ← List.mem_map, h.executionIds]

/-! ### Moves -/

/-- Actions change their status, and no row comes or goes. -/
theorem restatus (h : Proposals D nextId t) (hle : nextId ≤ nextId')
    {status : ActionProposal → ActionStatus}
    (hactions : t'.actions = t.actions.map fun action => action.withStatus (status action))
    (hstatus : ∀ action, action.status = .approved ∨ action.status.closed →
      status action = .approved ∨ (status action).closed)
    (hdetails : t'.actionProposalDetails = t.actionProposalDetails)
    (hpermissions : t'.permissionEvaluations = t.permissionEvaluations)
    (hreviews : t'.executionControllerReviews = t.executionControllerReviews)
    (happrovals : t'.approvals = t.approvals)
    (hexecutions : t'.executions.map Execution.binding = t.executions.map Execution.binding) :
    Proposals D nextId' t' := by
  constructor
  · rw [hactions]
    exact h.actions.map fun _ => rfl
  · rw [hactions]
    rintro _ hmem
    obtain ⟨action, haction, rfl⟩ := List.mem_map.mp hmem
    exact (h.action_lt action haction).trans_le hle
  · rw [hactions]
    exact h.keys.map fun _ => rfl
  · rw [hdetails, hactions, List.map_map]
    exact h.details
  · rw [hpermissions, hactions, List.map_map]
    exact h.permissions
  · rw [hreviews, hactions, List.flatMap_map]
    exact h.reviews
  · rw [happrovals]
    exact h.approvals
  · have hpairs := congrArg (List.map fun b : (Id × TenantScope × Id) × Option Id => (b.1.2.2, b.2))
      hexecutions
    rw [List.map_map, List.map_map] at hpairs
    rw [happrovals]
    exact hpairs.trans h.executions
  · rw [happrovals, hactions]
    intro approval happroval
    obtain ⟨action, haction, hactive, hdone⟩ := h.approved approval happroval
    exact ⟨action.withStatus (status action), List.mem_map_of_mem haction, hactive,
      hstatus action hdone⟩

/-- An action that has no approval gets one, with its execution. -/
theorem addApproval (h : Proposals D nextId t) (approval : Approval) (execution : Execution)
    (hnew : ∀ old ∈ t.approvals, old.actionId ≠ approval.actionId)
    (howner : ∃ action ∈ t.actions, approval.activeFor action ∧
      (action.status = .approved ∨ action.status.closed))
    (hexecution : (execution.actionId, execution.approvalId) =
      (approval.actionId, some approval.id)) :
    Proposals D nextId { t with
      approvals := t.approvals ++ [approval]
      executions := t.executions ++ [execution] } := by
  refine { h with approvals := ?_, executions := ?_, approved := ?_ }
  · refine h.approvals.append (Table.keysNodup_singleton approval) ?_
    intro row hrow old hold
    rw [List.mem_singleton.mp hrow]
    exact hnew old hold
  · rw [List.map_append, List.map_append, h.executions]
    exact congrArg (_ ++ [·]) hexecution
  · intro row hrow
    rcases List.mem_append.mp hrow with hold | hnew
    · exact h.approved row hold
    · rw [List.mem_singleton.mp hnew]
      exact howner

theorem handled (h : Proposals D nextId t) (hle : nextId ≤ nextId') (hhandled : Handled t t') :
    Proposals D nextId' t' := by
  obtain ⟨status, hactions, hstatus⟩ := hhandled.actions
  refine h.restatus hle hactions (fun action hdone => ?_) hhandled.details hhandled.permissions
    hhandled.reviews hhandled.approvals hhandled.executions
  rcases hstatus action with heq | hclosed
  · rwa [heq]
  · exact .inr hclosed

theorem proposed {now : Time} {scope : TenantScope} {productionWorkflowId connectorAccountId : Id}
    {action : ActionProposal} (h : Proposals D nextId t)
    (hproposed : Proposed D now scope productionWorkflowId connectorAccountId nextId nextId' t t'
      action) : Proposals D nextId' t' := by
  obtain ⟨workflow, version, account, detail, reviews, permission, -, hrows, hdetails, hreviews,
    hpermissions⟩ := hproposed.made
  constructor
  · rw [hproposed.actions]
    refine h.actions.append (Table.keysNodup_singleton action) ?_
    intro new hnew old hold
    rw [List.mem_singleton.mp hnew]
    exact ((h.action_lt old hold).trans_le hproposed.fresh.1).ne
  · rw [hproposed.actions]
    intro row hrow
    rcases List.mem_append.mp hrow with hold | hnew
    · exact (h.action_lt row hold).trans (hproposed.fresh.1.trans_lt hproposed.fresh.2)
    · rw [List.mem_singleton.mp hnew]
      exact hproposed.fresh.2
  · rw [hproposed.actions]
    refine h.keys.append (Table.keysNodup_singleton action) ?_
    intro new hnew old hold
    rw [List.mem_singleton.mp hnew]
    exact Table.find_eq_none_iff.mp hproposed.unknown old hold
  · rw [hdetails, hproposed.actions, List.map_append, List.map_append, h.details]
    simp only [List.map_cons, List.map_nil, hrows.detail_action, hrows.key]
  · rw [hpermissions, hproposed.actions, List.map_append, List.map_append, h.permissions]
    simp only [List.map_cons, List.map_nil, hrows.permission_action]
  · -- the reviews are those of the five controllers, all for the new action
    have htypes : reviews.map (fun review => review.controllerType) = executionControllerTypes := by
      have hmap := congrArg (List.map DeterministicExecutionReview.controllerType) hrows.reviewed
      rwa [List.map_map, map_controllerType_evaluateExecutionControllers] at hmap
    have hnew : reviews.map (fun review => (review.actionId, review.controllerType)) =
        executionControllerTypes.map (action.id, ·) := by
      rw [← htypes, List.map_map]
      refine List.map_congr_left fun review hreview => ?_
      rw [hrows.reviews_action review hreview]
      rfl
    rw [hreviews, hproposed.actions, List.map_append, List.flatMap_append, h.reviews, hnew,
      List.flatMap_singleton]
  · rw [hproposed.approvals]
    exact h.approvals
  · rw [hproposed.executions, hproposed.approvals]
    exact h.executions
  · rw [hproposed.approvals, hproposed.actions]
    intro approval happroval
    obtain ⟨row, hrow, hdone⟩ := h.approved approval happroval
    exact ⟨row, List.mem_append_left _ hrow, hdone⟩

/-- The lookups of `approve_action_proposal` agree: both rows are found, or both are made. -/
theorem foundOrAdded {now : Time} {scope : TenantScope} {userId : String} {action : ActionProposal}
    {approval : Approval} {execution : Execution} (h : Proposals D nextId t)
    (haction : action ∈ t.actions)
    (happroved : ApprovalFor now scope userId nextId nextId' t t' action approval)
    (hexecuted : ExecutionFor scope nextId nextId' t t' action approval execution) :
    (t'.approvals = t.approvals ∧ t'.executions = t.executions) ∨
      (∀ old ∈ t.approvals, old.actionId ≠ action.id) ∧
        t'.approvals = t.approvals ++ [approval] ∧ t'.executions = t.executions ++ [execution] ∧
        approval.activeFor action ∧
        (execution.actionId, execution.approvalId) = (action.id, some approval.id) := by
  cases happroved with
  | found hfound hrows =>
      obtain ⟨row, hrow, hid⟩ := (h.execution_iff_approval action.id).mpr
        ⟨approval, (h.activeApproval_eq_some_iff haction).mp hfound⟩
      cases hexecuted with
      | found _ hrows' => exact .inl ⟨hrows, hrows'⟩
      | added hnone => exact absurd hid (Table.find_eq_none_iff.mp hnone row hrow)
  | added hnone hmade hrows =>
      have hnew : ∀ old ∈ t.approvals, old.actionId ≠ action.id := by
        intro old hold hid
        rw [(h.activeApproval_eq_some_iff haction).mpr ⟨hold, hid⟩] at hnone
        cases hnone
      obtain ⟨id, -, -, rfl⟩ := hmade
      cases hexecuted with
      | found hfound _ =>
          obtain ⟨old, hold, hid⟩ := (h.execution_iff_approval action.id).mp
            ⟨execution, Table.mem_of_find hfound, Table.key_of_find hfound⟩
          exact absurd hid (hnew old hold)
      | added _ hmade' hrows' =>
          obtain ⟨id', -, -, rfl⟩ := hmade'
          exact .inr ⟨hnew, hrows, hrows', Approval.activeFor_approvalBy action id scope userId now,
            rfl⟩

theorem approve {now : Time} {scope : TenantScope} {userId : String} {action : ActionProposal}
    {approval : Approval} {execution : Execution} (h : Proposals D nextId t)
    (haction : action ∈ t.actions)
    (happroved : Approved now scope userId nextId nextId' t t' action approval execution) :
    Proposals D nextId' t' := by
  have hactions : t'.actions = t.actions.map fun row =>
      row.withStatus (if row.id = action.id then .approved else row.status) := by
    rw [happroved.actions, Table.modify]
    refine List.map_congr_left fun row _ => ?_
    split <;> rfl
  have hstatus : ∀ row : ActionProposal, row.status = .approved ∨ row.status.closed →
      (if row.id = action.id then ActionStatus.approved else row.status) = .approved ∨
        (if row.id = action.id then ActionStatus.approved else row.status).closed := by
    intro row hdone
    split
    · exact .inl rfl
    · exact hdone
  rcases h.foundOrAdded haction happroved.approved happroved.executed with ⟨hrows, hrows'⟩ |
    ⟨hnew, hrows, hrows', hactive, hexecution⟩
  · exact h.restatus happroved.nextId_le hactions hstatus happroved.details happroved.permissions
      happroved.reviews hrows (by rw [hrows'])
  · have hbefore : Proposals D nextId'
        { t' with approvals := t.approvals, executions := t.executions } :=
      h.restatus happroved.nextId_le hactions hstatus happroved.details happroved.permissions
        happroved.reviews rfl rfl
    have hid : approval.actionId = action.id := Approval.actionId_of_activeFor hactive
    have hadded := hbefore.addApproval approval execution (hid.symm ▸ hnew) ?_
      (hexecution.trans (by rw [hid]))
    · rwa [← hrows, ← hrows'] at hadded
    · refine ⟨action.withStatus .approved, ?_, hactive, .inl rfl⟩
      rw [happroved.actions]
      exact Table.mem_modify_of_eq haction rfl

end Proposals

/-- What the approvals and the executions of a state become. -/
structure KeepsRows (t t' : ExecutionTables) : Prop where
  approvals : t.approvals ⊆ t'.approvals
  executions : t.executions.map Execution.binding ⊆ t'.executions.map Execution.binding

instance : IsPreorder ExecutionTables KeepsRows where
  refl _ := ⟨List.Subset.refl _, List.Subset.refl _⟩
  trans _ _ _ h h' := ⟨List.Subset.trans h.approvals h'.approvals,
    List.Subset.trans h.executions h'.executions⟩

/-- Every execution has its publish job. -/
def Booked (db : AgentDatabase M ExecutionTables) : Prop :=
  ∀ execution ∈ db.tables.domain.executions, ∃ job ∈ db.jobs, job.uniqueKey =
    (publishJob execution.scope execution.actionId execution.id).uniqueKey

/-! ## Steps -/

/-- Everything that an approval depends on. -/
structure RuntimeState.Proposing (D : Digest) (s : ExecutionState M) : Prop where
  wellFormed : s.WellFormed
  ledger : PublishLedger s.db
  proposals : Proposals D s.db.nextId s.db.tables.domain
  booked : Booked s.db

/-- The command `approve_action` is not called. -/
def ProposesOnly : Action ExecutionAnswer ExecutionCommand → Bool
  | .command (.approveAction ..) => false
  | _ => true

section Steps

variable {D : Digest} {s : ExecutionState M}

/-- Jobs are kept, and an execution that is new has its job. -/
theorem Booked.extend {db db' : AgentDatabase M ExecutionTables} (h : Booked db)
    (hjobs : db.toJobTable.Extends db'.toJobTable)
    (hrows : ∀ execution ∈ db'.tables.domain.executions,
      execution.binding ∈ db.tables.domain.executions.map Execution.binding ∨
        ∃ job ∈ db'.jobs, job.uniqueKey =
          (publishJob execution.scope execution.actionId execution.id).uniqueKey) : Booked db' := by
  intro execution hexecution
  rcases hrows execution hexecution with hold | hnew
  · obtain ⟨old, hold, heq⟩ := List.mem_map.mp hold
    obtain ⟨hidentity, -⟩ := Prod.mk.inj heq
    obtain ⟨hid, hrest⟩ := Prod.mk.inj hidentity
    obtain ⟨hscope, hactionId⟩ := Prod.mk.inj hrest
    obtain ⟨job, hjob, hkey⟩ := h old hold
    obtain ⟨job', hjob', hsame, -⟩ := hjobs job hjob
    refine ⟨job', hjob', hsame.uniqueKey.trans (hkey.trans ?_)⟩
    rw [hid, hscope, hactionId]
  · exact hnew

theorem Proposed.keepsRows {now : Time} {scope : TenantScope}
    {productionWorkflowId connectorAccountId nextId nextId' : Id} {t t' : ExecutionTables}
    {action : ActionProposal} (h : Proposed D now scope productionWorkflowId connectorAccountId
      nextId nextId' t t' action) : KeepsRows t t' := by
  constructor
  · rw [h.approvals]
    exact List.Subset.refl _
  · rw [h.executions]
    exact List.Subset.refl _

theorem Approved.keepsRows {now : Time} {scope : TenantScope} {userId : String}
    {nextId nextId' : Id} {t t' : ExecutionTables} {action : ActionProposal} {approval : Approval}
    {execution : Execution}
    (h : Approved now scope userId nextId nextId' t t' action approval execution) :
    KeepsRows t t' :=
  ⟨FoundOrAdded.subset h.approved, List.map_subset _ (FoundOrAdded.subset h.executed)⟩

theorem Handled.keepsRows {t t' : ExecutionTables} (h : Handled t t') : KeepsRows t t' := by
  constructor
  · rw [h.approvals]
    exact List.Subset.refl _
  · rw [h.executions]
    exact List.Subset.refl _

/-- A new execution is the one that the job is created for. -/
theorem Approved.booked {now : Time} {scope : TenantScope} {userId : String} {nextId nextId' : Id}
    {t t' : ExecutionTables} {action : ActionProposal} {approval : Approval} {execution : Execution}
    (h : Approved now scope userId nextId nextId' t t' action approval execution) :
    ∀ row ∈ t'.executions, row.binding ∈ t.executions.map Execution.binding ∨
      row = execution ∧ row.scope = scope ∧ row.actionId = action.id := by
  intro row hrow
  cases h.executed with
  | found _ hrows =>
      rw [hrows] at hrow
      exact .inl (List.mem_map_of_mem hrow)
  | added _ hmade hrows =>
      rw [hrows] at hrow
      rcases List.mem_append.mp hrow with hold | hnew
      · exact .inl (List.mem_map_of_mem hold)
      · obtain ⟨id, -, -, heq⟩ := hmade
        rw [List.mem_singleton.mp hnew]
        exact .inr ⟨rfl, heq ▸ rfl, heq ▸ rfl⟩

theorem proposing_step (h : s.Proposing D) (action : Action ExecutionAnswer ExecutionCommand)
    (haction : ProposesOnly action) :
    ((executionApp D).step action s).Proposing D ∧
      KeepsRows s.db.tables.domain ((executionApp D).step action s).db.tables.domain := by
  have hwf := h.wellFormed.step (executionApp D) action
  have hledger := publishLedger_step D h.wellFormed h.ledger action
  have hextends := ((executionApp D).wellFormed_step action h.wellFormed.table).2
  suffices hrows : Proposals D ((executionApp D).step action s).db.nextId
      ((executionApp D).step action s).db.tables.domain ∧
      Booked ((executionApp D).step action s).db ∧
      KeepsRows s.db.tables.domain ((executionApp D).step action s).db.tables.domain from
    ⟨⟨hwf, hledger, hrows.1, hrows.2.1⟩, hrows.2.2⟩
  have hstep := proposalStep D action s
  generalize ((executionApp D).step action s).db = db at hstep hextends ⊢
  have hkept : db.tables.domain.executions.map Execution.binding =
      s.db.tables.domain.executions.map Execution.binding → Booked db := by
    intro hbindings
    refine h.booked.extend hextends fun execution hexecution => .inl ?_
    rw [← hbindings]
    exact List.mem_map_of_mem hexecution
  cases hstep with
  | handled hnext hhandled =>
      exact ⟨h.proposals.handled hnext hhandled, hkept hhandled.executions, hhandled.keepsRows⟩
  | proposed hproposed =>
      exact ⟨h.proposals.proposed hproposed, hkept (by rw [hproposed.executions]),
        hproposed.keepsRows⟩
  | approved happrovable happroved hjob hkey =>
      obtain ⟨-, happrovable⟩ := approvable_of_eq_ok happrovable
      refine ⟨h.proposals.approve (Table.mem_of_find happrovable.found) happroved, ?_,
        happroved.keepsRows⟩
      refine h.booked.extend hextends fun execution hexecution => ?_
      rcases happroved.booked execution hexecution with hold | ⟨rfl, hscope, hactionId⟩
      · exact .inl hold
      · rw [hscope, hactionId]
        exact .inr ⟨_, hjob, hkey⟩
  | granted => cases haction

end Steps

/-! ## A second approval -/

section Again

variable {D : Digest} {now : Time} {nextId : Id} {db : AgentDatabase M ExecutionTables}

/-- An action in its status is written back as it was. -/
theorem setActionStatus_same {action : ActionProposal}
    (hids : Table.KeysNodup ActionProposal.id db.tables.domain.actions)
    (haction : action ∈ db.tables.domain.actions) :
    Ensures (setActionStatus action.id action.status) (fun _ db' => db' = db) db := by
  have hmodify : Table.modify ActionProposal.id action.id (ActionProposal.withStatus action.status)
      db.tables.domain.actions = db.tables.domain.actions := by
    refine Table.modify_eq_self fun row hrow hid => ?_
    rw [hids.eq_of_key_eq hrow haction hid]
    exact action.withStatus_self
  rw [setActionStatus, ensures_modifyTables]
  change Table.modify _ _ (fun row : ActionProposal => { row with status := action.status }) _ = _
    at hmodify
  rw [hmodify]

/-- Once an action is approved, `approve_action_proposal` finds all its rows and writes nothing. -/
theorem approve_again (h : Proposals D nextId db.tables.domain) (hwf : db.toJobTable.WellFormed)
    {action : ActionProposal} (haction : action ∈ db.tables.domain.actions) {approval : Approval}
    (hactive : action.activeApproval db.tables.domain = some approval) {execution : Execution}
    (hexecution : Table.find Execution.actionId action.id db.tables.domain.executions =
      some execution) {job : Job} (hjob : job ∈ db.jobs)
    (hkey : job.uniqueKey = (publishJob action.scope action.id execution.id).uniqueKey)
    (scope : TenantScope) (userId : String) :
    Ensures (approveActionProposalResult D now scope action.id userId) (fun result db' =>
      result = ⟨approval, execution, job, false⟩ ∧ db' = db) db := by
  rw [approveActionProposalResult, ensures_bind, ensures_tables, ensures_bind, ensures_check]
  intro found hok
  obtain ⟨hid, happrovable⟩ := approvable_of_eq_ok hok
  obtain rfl : found = action :=
    h.actions.eq_of_key_eq (Table.mem_of_find happrovable.found) haction hid
  have hstatus : found.status = .approved := by
    obtain ⟨happroval, hid⟩ := (h.activeApproval_eq_some_iff haction).mp hactive
    obtain ⟨owner, howner, howned, hdone⟩ := h.approved approval happroval
    obtain rfl := h.actions.eq_of_key_eq howner haction
      ((Approval.actionId_of_activeFor howned).symm.trans hid)
    rcases hdone with hdone | hclosed
    · exact hdone
    · rcases happrovable.status with hopen | hopen
      · rw [hopen] at hclosed
        cases hclosed
      · exact hopen
  obtain rfl : scope = found.scope := happrovable.tenant.symm
  rw [ensures_bind, ensureApproval, ensures_bind, ensures_tables]
  rw [ActionProposal.activeApproval] at hactive
  rw [hactive]
  dsimp only
  rw [ensures_pure, ensures_bind, ← hstatus]
  refine (setActionStatus_same h.actions haction).mono ?_
  rintro _ db₁ rfl
  rw [ensures_bind, ensureExecution, ensures_bind, ensures_tables, hexecution]
  dsimp only
  rw [ensures_pure, ensures_bind]
  intro result db₂ hcreate
  rw [ensures_pure]
  rw [DomainTxn.createJob, createJob_of_mem hwf hjob hkey.symm] at hcreate
  cases hargs : (publishJob found.scope found.id execution.id).check with
  | error => simp [hargs, Except.map] at hcreate
  | ok =>
      simp only [hargs, Except.map, Except.ok.injEq, Prod.mk.injEq] at hcreate
      obtain ⟨rfl, rfl⟩ := hcreate
      refine ⟨?_, rfl⟩
      rw [ActionProposal.activeApproval, hactive]
      rfl

/-- A closed action is refused. -/
theorem approve_closed {action : ActionProposal}
    (hids : Table.KeysNodup ActionProposal.id db.tables.domain.actions)
    (haction : action ∈ db.tables.domain.actions) (hclosed : action.status.closed)
    (scope : TenantScope) (userId : String) :
    ∃ error, approveActionProposalResult D now scope action.id userId db = .error error := by
  cases hresult : approveActionProposalResult D now scope action.id userId db with
  | error error => exact ⟨error, rfl⟩
  | ok result =>
      obtain ⟨found, hok, -⟩ :=
        approveActionProposal_moves D scope action.id userId _ _ hresult
      obtain ⟨hid, happrovable⟩ := approvable_of_eq_ok hok
      obtain rfl : found = action :=
        hids.eq_of_key_eq (Table.mem_of_find happrovable.found) haction hid
      rcases happrovable.status with hopen | hopen <;>
        · rw [hopen] at hclosed
          cases hclosed

end Again

/-! ## Runs -/

/-- What a detail is made for. -/
def ActionProposalDetail.publication (detail : ActionProposalDetail) :
    Id × Id × Id × String × DeliveryPayload :=
  (detail.productionWorkflowId, detail.assetVersionId, detail.connectorAccountId,
    detail.targetChatId, detail.deliveryPayload)

/-- The job is a publish job of the action. -/
def Job.publishesFor (job : Job) (action : ActionProposal) : Bool :=
  job.jobType = .executionTelegramPublish &&
    match job.payload with
    | .telegramPublish actionId _ => actionId = action.id
    | _ => false

/-- One action for each publication, and one row of each kind for each action. -/
structure ProposedOnce (D : Digest) (db : AgentDatabase M ExecutionTables) : Prop where
  actions : ∀ detail ∈ db.tables.domain.actionProposalDetails,
    ∀ detail' ∈ db.tables.domain.actionProposalDetails,
      detail.publication = detail'.publication → detail.actionId = detail'.actionId
  details : ∀ action ∈ db.tables.domain.actions, ∃ detail,
    db.tables.domain.actionProposalDetails.filter (fun detail => detail.actionId = action.id) =
      [detail] ∧ D.proposalKey detail = action.idempotencyKey
  permissions : ∀ action ∈ db.tables.domain.actions, (db.tables.domain.permissionEvaluations.filter
    fun permission => permission.actionId = action.id).length = 1
  reviews : ∀ action ∈ db.tables.domain.actions, (db.tables.domain.executionControllerReviews.filter
    fun review => review.actionId = action.id).map (fun review => review.controllerType) =
      executionControllerTypes
  approvals : ∀ action ∈ db.tables.domain.actions,
    (db.tables.domain.approvals.filter (Approval.activeFor · action)).length ≤ 1
  executions : ∀ action ∈ db.tables.domain.actions, (db.tables.domain.executions.filter
    fun execution => execution.actionId = action.id).length ≤ 1
  jobs : ∀ action ∈ db.tables.domain.actions,
    (db.jobs.filter (Job.publishesFor · action)).length ≤ 1

section Once

variable {D : Digest} {s : ExecutionState M}

theorem Proposals.action_of_detail {nextId : Id} {t : ExecutionTables} (h : Proposals D nextId t)
    {detail : ActionProposalDetail} (hdetail : detail ∈ t.actionProposalDetails) :
    ∃ action ∈ t.actions, action.id = detail.actionId ∧
      action.idempotencyKey = D.proposalKey detail := by
  have hmem : (detail.actionId, D.proposalKey detail) ∈
      t.actions.map fun action => (action.id, action.idempotencyKey) := by
    rw [← h.details]
    exact List.mem_map_of_mem hdetail
  obtain ⟨action, haction, heq⟩ := List.mem_map.mp hmem
  obtain ⟨hid, hkey⟩ := Prod.mk.inj heq
  exact ⟨action, haction, hid, hkey⟩

theorem Digest.proposalKey_congr {detail detail' : ActionProposalDetail}
    (h : detail.publication = detail'.publication) :
    D.proposalKey detail = D.proposalKey detail' := by
  simp only [ActionProposalDetail.publication, Prod.mk.injEq] at h
  obtain ⟨hworkflow, hversion, haccount, hchat, hpayload⟩ := h
  simp only [proposalKey, hworkflow, hversion, haccount, hchat, hpayload]

theorem Job.publishesFor_iff {job : Job} {action : ActionProposal} :
    job.publishesFor action ↔ job.jobType = .executionTelegramPublish ∧
      ∃ executionId, job.payload = .telegramPublish action.id executionId := by
  rw [publishesFor, Bool.and_eq_true, decide_eq_true_eq]
  refine and_congr_right fun _ => ?_
  cases job.payload <;> simp

theorem RuntimeState.Proposing.proposedOnce (h : s.Proposing D) : ProposedOnce D s.db := by
  have hids := h.proposals.actions
  have hcount : ∀ action ∈ s.db.tables.domain.actions,
      (s.db.tables.domain.actions.map ActionProposal.id).count action.id = 1 :=
    fun action haction => List.count_eq_one_of_mem hids (List.mem_map_of_mem haction)
  have hexecutions : Table.KeysNodup Execution.actionId s.db.tables.domain.executions := by
    rw [Table.KeysNodup, h.proposals.executionIds]
    exact h.proposals.approvals
  constructor
  · intro detail hdetail detail' hdetail' hsame
    obtain ⟨action, haction, hid, hkey⟩ := h.proposals.action_of_detail hdetail
    obtain ⟨action', haction', hid', hkey'⟩ := h.proposals.action_of_detail hdetail'
    have hkeys := hkey.trans ((Digest.proposalKey_congr hsame).trans hkey'.symm)
    rw [← hid, ← hid', h.proposals.keys.eq_of_key_eq haction haction' hkeys]
  · intro action haction
    have hdetails : s.db.tables.domain.actionProposalDetails.map ActionProposalDetail.actionId =
        s.db.tables.domain.actions.map ActionProposal.id := by
      have hfst := congrArg (List.map Prod.fst) h.proposals.details
      rwa [List.map_map, List.map_map] at hfst
    have hone : (s.db.tables.domain.actionProposalDetails.filter
        fun detail => detail.actionId = action.id).length = 1 := by
      rw [Table.length_filter_key, hdetails, hcount action haction]
    obtain ⟨detail, hdetail⟩ := List.length_eq_one_iff.mp hone
    refine ⟨detail, hdetail, ?_⟩
    have hmem := List.mem_filter.mp (hdetail ▸ List.mem_singleton_self detail :
      detail ∈ s.db.tables.domain.actionProposalDetails.filter _)
    obtain ⟨action', haction', hid, hkey⟩ := h.proposals.action_of_detail hmem.1
    rw [← hkey, hids.eq_of_key_eq haction' haction (hid.trans (of_decide_eq_true hmem.2))]
  · intro action haction
    rw [Table.length_filter_key, h.proposals.permissions, hcount action haction]
  · intro action haction
    refine Table.map_filter_of_map_eq hids (List.mem_map_of_mem haction) ?_
    rw [h.proposals.reviews, List.flatMap_map]
  · intro action _
    refine Table.KeysNodup.length_le_one
      (h.proposals.approvals.sublist (List.filter_sublist.map _)) fun a ha b hb => ?_
    rw [Approval.actionId_of_activeFor (List.mem_filter.mp ha).2,
      Approval.actionId_of_activeFor (List.mem_filter.mp hb).2]
  · intro action _
    rw [Table.length_filter_key]
    exact List.nodup_iff_count_le_one.mp hexecutions action.id
  · intro action _
    refine Table.KeysNodup.length_le_one
      (h.wellFormed.table.ids.sublist (List.filter_sublist.map _)) fun job hjob job' hjob' => ?_
    obtain ⟨hjob, hpublishes⟩ := List.mem_filter.mp hjob
    obtain ⟨hjob', hpublishes'⟩ := List.mem_filter.mp hjob'
    obtain ⟨htype, executionId, hpayload⟩ := Job.publishesFor_iff.mp hpublishes
    obtain ⟨htype', executionId', hpayload'⟩ := Job.publishesFor_iff.mp hpublishes'
    obtain ⟨-, execution, hexecution, hbound⟩ := h.ledger.jobs job hjob htype
    obtain ⟨-, execution', hexecution', hbound'⟩ := h.ledger.jobs job' hjob' htype'
    obtain ⟨hid, rfl⟩ := JobPayload.telegramPublish.inj (hpayload.symm.trans hbound.payload)
    obtain ⟨hid', rfl⟩ := JobPayload.telegramPublish.inj (hpayload'.symm.trans hbound'.payload)
    obtain rfl := hexecutions.eq_of_key_eq hexecution hexecution' (hid.symm.trans hid')
    rw [h.ledger.job_unique h.wellFormed.table hjob hjob' htype htype' hpayload hpayload']

end Once

/-! ## Runs -/

/-- A second result names the rows of the first. -/
structure ApprovalExecutionResult.Repeats (result' result : ApprovalExecutionResult) : Prop where
  approval : result'.approval = result.approval
  execution : result'.execution.binding = result.execution.binding
  job : result.job.SameIdentity result'.job
  created : result'.created = false

/-- A state with nothing of the runtime and no row of a proposal in it. -/
structure RuntimeState.ProposalInitial (s : ExecutionState M) : Prop
    extends RuntimeState.ServiceInitial s where
  reviews : s.db.tables.domain.executionControllerReviews = []
  permissions : s.db.tables.domain.permissionEvaluations = []
  approvals : s.db.tables.domain.approvals = []

section Runs

variable (D : Digest) {s : ExecutionState M}

theorem RuntimeState.ProposalInitial.proposing (hs : s.ProposalInitial) : s.Proposing D := by
  refine ⟨hs.wellFormed, hs.toExecutionInitial.publishedOnce.ledger, ?_, ?_⟩
  · constructor <;> simp [hs.actions, hs.details, hs.reviews, hs.permissions, hs.approvals,
      hs.executions, Table.keysNodup_nil]
  · simp [Booked, hs.executions]

theorem ProposesOnly.approvesEligible {action : Action ExecutionAnswer ExecutionCommand}
    (h : ProposesOnly action) (s : ExecutionState M) : s.ApprovesEligible action := by
  unfold RuntimeState.ApprovesEligible
  split
  · cases h
  · trivial

theorem proposing_run (h : s.Proposing D) {actions : List (Action ExecutionAnswer ExecutionCommand)}
    (hactions : ∀ action ∈ actions, ProposesOnly action) :
    (run (executionApp D).step s actions).Proposing D ∧
      KeepsRows s.db.tables.domain (run (executionApp D).step s actions).db.tables.domain ∧
      s.db.toJobTable.Extends (run (executionApp D).step s actions).db.toJobTable := by
  have hguarded : Guarded (executionApp D).step (fun _ action => ProposesOnly action) s actions :=
    guarded_of_forall_mem (fun action haction _ => hactions action haction) s
  have hstep : ∀ (s : ExecutionState M) action, s.Proposing D → ProposesOnly action →
      ((executionApp D).step action s).Proposing D :=
    fun s action h haction => (proposing_step h action haction).1
  refine ⟨invariant_run hstep h hguarded, ?_⟩
  exact relation_run
    (R := fun s s' : ExecutionState M => KeepsRows s.db.tables.domain s'.db.tables.domain ∧
      s.db.toJobTable.Extends s'.db.toJobTable)
    (fun _ => ⟨refl _, .refl _⟩) (fun _ _ _ h h' => ⟨trans_of KeepsRows h.1 h'.1, h.2.trans h'.2⟩)
    hstep
    (fun s action h haction => ⟨(proposing_step h action haction).2,
      ((executionApp D).wellFormed_step action h.wellFormed.table).2⟩)
    h hguarded

theorem closed_run (hs : s.ProposalInitial)
    {before after : List (Action ExecutionAnswer ExecutionCommand)}
    (hbefore : ∀ action ∈ before, ProposesOnly action)
    (hafter : ∀ action ∈ after, ProposesOnly action) :
    KeepsClosed (run (executionApp D).step s before).db.tables.domain
      (run (executionApp D).step (run (executionApp D).step s before) after).db.tables.domain := by
  have hguarded : ∀ {actions : List (Action ExecutionAnswer ExecutionCommand)},
      (∀ action ∈ actions, ProposesOnly action) → ∀ s : ExecutionState M,
        Guarded (executionApp D).step RuntimeState.ApprovesEligible s actions :=
    fun hactions s => guarded_of_forall_mem
      (fun action haction s => ProposesOnly.approvesEligible (hactions action haction) s) s
  have hsound := (statusSound_run D hs.toExecutionInitial.statusSound (hguarded hbefore s)).1
  exact (statusSound_run D hsound (hguarded hafter _)).2

/-- The command ends as the transaction does. -/
theorem exec_approveActionProposal (now : Time) (scope : TenantScope) (actionId : Id)
    (userId : String) (db : AgentDatabase M ExecutionTables) :
    exec (ExecutionCommand.run D now (.approveActionProposal scope actionId userId)) db =
      exec (approveActionProposalResult D now scope actionId userId) db := by
  rw [ExecutionCommand.run, approveActionProposal_eq, bind_pure_comp, exec_map, exec_map]

variable {D} in
theorem step_of_approved {scope : TenantScope} {actionId : Id} {userId : String}
    {result : ApprovalExecutionResult} {db : AgentDatabase M ExecutionTables}
    (hok : approveActionProposalResult D s.now scope actionId userId s.db = .ok (result, db)) :
    (executionApp D).step (.command (.approveActionProposal scope actionId userId)) s =
      { s with db := db } := by
  have hexec : exec (approveActionProposalResult D s.now scope actionId userId) s.db = .ok db :=
    exec_eq_ok_iff.mpr ⟨result, hok⟩
  rw [← exec_approveActionProposal] at hexec
  simp only [App.step, executionApp, hexec]

variable {D} in
theorem step_of_refused {scope : TenantScope} {actionId : Id} {userId : String} {error : JobError}
    (herror : approveActionProposalResult D s.now scope actionId userId s.db = .error error) :
    (executionApp D).step (.command (.approveActionProposal scope actionId userId)) s = s := by
  have hexec : exec (approveActionProposalResult D s.now scope actionId userId) s.db =
      .error error := by
    rw [exec, herror]
    rfl
  rw [← exec_approveActionProposal] at hexec
  simp only [App.step, executionApp, hexec]

/-- The rows that an approval returns. -/
theorem approved_rows (h : s.Proposing D) {scope : TenantScope} {actionId : Id} {userId : String}
    {result : ApprovalExecutionResult} {db : AgentDatabase M ExecutionTables}
    (hok : approveActionProposalResult D s.now scope actionId userId s.db = .ok (result, db)) :
    ∃ action, action ∈ s.db.tables.domain.actions ∧ action.id = actionId ∧
      result.approval ∈ db.tables.domain.approvals ∧ result.approval.actionId = actionId ∧
      result.execution ∈ db.tables.domain.executions ∧ result.execution.actionId = actionId ∧
      result.job ∈ db.jobs ∧
      result.job.uniqueKey = (publishJob action.scope actionId result.execution.id).uniqueKey := by
  obtain ⟨action, happrovable, happroved, -, hjob, hkey⟩ :=
    approveActionProposal_moves D scope actionId userId _ _ hok
  replace happrovable := approvable_of_eq_ok happrovable
  obtain ⟨rfl, happrovable⟩ := happrovable
  have haction := Table.mem_of_find happrovable.found
  obtain rfl := happrovable.tenant
  have happroval : ∀ row, action.activeApproval s.db.tables.domain = some row →
      row ∈ s.db.tables.domain.approvals ∧ row.actionId = action.id :=
    fun row => (h.proposals.activeApproval_eq_some_iff haction).mp
  refine ⟨action, haction, rfl, ?_, ?_, ?_, ?_, hjob, hkey⟩
  · exact FoundOrAdded.mem happroved.approved fun row hrow => (happroval row hrow).1
  · cases happroved.approved with
    | found hfound _ => exact (happroval _ hfound).2
    | added _ hmade _ =>
        obtain ⟨_, -, -, heq⟩ := hmade
        rw [heq]
        rfl
  · exact FoundOrAdded.mem happroved.executed fun row hrow => Table.mem_of_find hrow
  · cases happroved.executed with
    | found hfound _ => exact Table.key_of_find hfound
    | added _ hmade _ =>
        obtain ⟨_, -, -, heq⟩ := hmade
        rw [heq]

/-- The job is one of the tenant of the execution. -/
theorem PublishLedger.job_scope {db : AgentDatabase M ExecutionTables} (h : PublishLedger db)
    {job : Job} (hjob : job ∈ db.jobs) {execution : Execution}
    (hexecution : execution ∈ db.tables.domain.executions) {scope : TenantScope} {actionId : Id}
    (hkey : job.uniqueKey = (publishJob scope actionId execution.id).uniqueKey) :
    scope = execution.scope := by
  simp only [Job.uniqueKey, CreateJob.uniqueKey, publishJob, Prod.mk.injEq] at hkey
  obtain ⟨hscope, htype, hkey⟩ := hkey
  obtain ⟨-, owner, howner, hpublishes⟩ := h.jobs job hjob htype
  have hid := JobKey.telegramExecution.inj (hpublishes.key.symm.trans hkey)
  rw [← hscope, hpublishes.scope, h.executions.eq_of_key_eq howner hexecution hid]

/-- A second approval, after any steps, names the rows of the first and writes nothing. -/
theorem approval_repeats (h : s.Proposing D) {scope : TenantScope} {actionId : Id} {userId : String}
    {result : ApprovalExecutionResult} {db : AgentDatabase M ExecutionTables}
    (hok : approveActionProposalResult D s.now scope actionId userId s.db = .ok (result, db))
    {after : List (Action ExecutionAnswer ExecutionCommand)}
    (hafter : ∀ action ∈ after, ProposesOnly action) {s₂ : ExecutionState M}
    (hs₂ : s₂ = run (executionApp D).step s
      (.command (.approveActionProposal scope actionId userId) :: after))
    {scope' : TenantScope} {userId' : String} {result' : ApprovalExecutionResult}
    {db' : AgentDatabase M ExecutionTables}
    (hok' : approveActionProposalResult D s₂.now scope' actionId userId' s₂.db =
      .ok (result', db')) : result'.Repeats result ∧ db' = s₂.db := by
  obtain ⟨action, -, rfl, happroval, hid, hexecution, hid', hjob, hkey⟩ := approved_rows D h hok
  have h₁ := (proposing_step h (.command (.approveActionProposal scope action.id userId)) rfl).1
  rw [run_cons] at hs₂
  rw [step_of_approved hok] at hs₂ h₁
  obtain ⟨h₂, hkeeps, hextends⟩ := proposing_run D h₁ hafter
  rw [← hs₂] at h₂ hkeeps hextends
  obtain ⟨action₂, haction₂, haction, -⟩ := approved_rows D h₂ hok'
  -- the three rows of the first result, as they are now
  have hactive : action₂.activeApproval s₂.db.tables.domain = some result.approval :=
    (h₂.proposals.activeApproval_eq_some_iff haction₂).mpr
      ⟨hkeeps.approvals happroval, hid.trans haction.symm⟩
  obtain ⟨execution₂, hexecution₂, hbinding⟩ :=
    List.mem_map.mp (hkeeps.executions (List.mem_map_of_mem hexecution))
  obtain ⟨job₂, hjob₂, hsame, -⟩ := hextends result.job hjob
  obtain ⟨hidentity, -⟩ := Prod.mk.inj hbinding
  obtain ⟨hexecutionId, hrest⟩ := Prod.mk.inj hidentity
  obtain ⟨hscope, hactionId⟩ := Prod.mk.inj hrest
  have hfind : Table.find Execution.actionId action₂.id s₂.db.tables.domain.executions =
      some execution₂ := by
    have hnodup : Table.KeysNodup Execution.actionId s₂.db.tables.domain.executions := by
      rw [Table.KeysNodup, h₂.proposals.executionIds]
      exact h₂.proposals.approvals
    exact hnodup.find_eq_some_iff.mpr
      ⟨hexecution₂, hactionId.trans (hid'.trans haction.symm)⟩
  have hkey₂ : job₂.uniqueKey =
      (publishJob action₂.scope action₂.id execution₂.id).uniqueKey := by
    rw [← hexecutionId, ← hsame.uniqueKey] at hkey
    obtain ⟨row, hrow, hrowId, hrowScope⟩ := h₂.ledger.bound execution₂ hexecution₂
    obtain rfl : row = action₂ := h₂.proposals.actions.eq_of_key_eq hrow haction₂
      (hrowId.trans (hactionId.trans (hid'.trans haction.symm)))
    rw [hrowScope, ← h₂.ledger.job_scope hjob₂ hexecution₂ hkey, haction]
    exact hkey
  rw [← haction] at hok'
  obtain ⟨rfl, rfl⟩ := approve_again h₂.proposals h₂.wellFormed.table haction₂ hactive hfind hjob₂
    hkey₂ scope' userId' _ _ hok'
  exact ⟨⟨rfl, hbinding, hsame, rfl⟩, rfl⟩

/-- One action for each publication and one row of each kind for each action, in every run without
`approve_action`. A second approval finds the rows of the first and writes nothing, and a closed
action is refused for ever. -/
theorem proposals_idempotent (hs : s.ProposalInitial)
    (before : List (Action ExecutionAnswer ExecutionCommand))
    (hbefore : ∀ action ∈ before, ProposesOnly action)
    (after : List (Action ExecutionAnswer ExecutionCommand))
    (hafter : ∀ action ∈ after, ProposesOnly action) :
    let s₁ := run (executionApp D).step s before
    ProposedOnce D s₁.db ∧
    (∀ scope actionId userId result db,
      approveActionProposalResult D s₁.now scope actionId userId s₁.db = .ok (result, db) →
      let s₂ := run (executionApp D).step s₁
        (.command (.approveActionProposal scope actionId userId) :: after)
      ∀ scope' userId' result' db',
        approveActionProposalResult D s₂.now scope' actionId userId' s₂.db = .ok (result', db') →
          result'.Repeats result ∧ db' = s₂.db) ∧
    ∀ action ∈ s₁.db.tables.domain.actions, action.status.closed →
      let s₂ := run (executionApp D).step s₁ after
      ∀ scope userId,
        (∃ error,
          approveActionProposalResult D s₂.now scope action.id userId s₂.db = .error error) ∧
        (executionApp D).step (.command (.approveActionProposal scope action.id userId)) s₂ = s₂ := by
  intro s₁
  have hs₁ : s₁.Proposing D := (proposing_run D (hs.proposing D) hbefore).1
  refine ⟨hs₁.proposedOnce, ?_, ?_⟩
  · intro scope actionId userId result db hok s₂ scope' userId' result' db' hok'
    exact approval_repeats D hs₁ hok hafter rfl hok'
  · intro action haction hclosed s₂ scope userId
    obtain ⟨row, hrow, hid, hclosed'⟩ := closed_run D hs hbefore hafter action haction hclosed
    have hs₂ : s₂.Proposing D := (proposing_run D hs₁ hafter).1
    obtain ⟨error, herror⟩ := approve_closed hs₂.proposals.actions hrow hclosed' scope userId
    rw [hid] at herror
    exact ⟨⟨error, herror⟩, step_of_refused herror⟩

/-! ### An approval after the call of the provider -/

theorem executionStart_proposalInitial : executionStart.ProposalInitial where
  toServiceInitial := executionStart_serviceInitial
  reviews := rfl
  permissions := rfl
  approvals := rfl

theorem executed_post_proposed_once :
    ProposedOnce plainDigest (run (executionApp plainDigest).step executionStart
      executedPost).db ∧
    ∀ action ∈ (run (executionApp plainDigest).step executionStart
        executedPost).db.tables.domain.actions, action.status.closed →
      (executionApp plainDigest).step
          (.command (.approveActionProposal demoScope action.id "owner"))
          (run (executionApp plainDigest).step executionStart executedPost) =
        run (executionApp plainDigest).step executionStart executedPost := by
  obtain ⟨honce, -, hclosed⟩ := proposals_idempotent plainDigest executionStart_proposalInitial
    executedPost (by decide) [] (by simp)
  exact ⟨honce, fun action haction h => (hclosed action haction h demoScope "owner").2⟩

end Runs

end LaunchOS
