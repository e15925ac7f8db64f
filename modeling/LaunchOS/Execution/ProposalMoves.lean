import LaunchOS.AiRuntime.DomainSteps
import LaunchOS.Execution.AtMostOnce

/-!
# Moves of a proposal

A proposal is an action with its detail, its reviews, its permission, its approvals and its
executions. Four operations write these rows, and each of them in one way.

The module introduces:

* `Handled`: the publish handler closes actions and moves executions along; all other rows stay;
* `Proposed`, `createActionProposal_moves`: a new proposal comes with all its rows at once;
* `Approved`, `approveActionProposal_moves`: an approval finds or makes an approval and an
  execution, and the action is `APPROVED`;
* `Granted`, `approveAction_moves`: what the command `approve_action` writes, without these checks;
* `proposalStep`: every step of the service on the runtime makes at most one of these moves.
-/

namespace LaunchOS

open Txn Transition

variable {M : Type}

/-! ## The publish handler -/

namespace ActionProposal

/-- The action in another status. -/
def withStatus (status : ActionStatus) (action : ActionProposal) : ActionProposal :=
  { action with status := status }

variable (status : ActionStatus) (action : ActionProposal)

@[simp] theorem id_withStatus : (action.withStatus status).id = action.id := rfl

@[simp] theorem status_withStatus : (action.withStatus status).status = status := rfl

@[simp] theorem scope_withStatus : (action.withStatus status).scope = action.scope := rfl

@[simp] theorem idempotencyKey_withStatus :
    (action.withStatus status).idempotencyKey = action.idempotencyKey := rfl

theorem withStatus_self : action.withStatus action.status = action := rfl

end ActionProposal

/-- What never changes of an execution, with its approval. -/
def Execution.binding (execution : Execution) : (Id × TenantScope × Id) × Option Id :=
  (execution.identity, execution.approvalId)

/-- Actions are closed, executions move along, and no row comes or goes. -/
structure Handled (t t' : ExecutionTables) : Prop where
  actions : ∃ status : ActionProposal → ActionStatus,
    t'.actions = t.actions.map (fun action => action.withStatus (status action)) ∧
      ∀ action, status action = action.status ∨ (status action).closed
  executions : t'.executions.map Execution.binding = t.executions.map Execution.binding
  details : t'.actionProposalDetails = t.actionProposalDetails
  reviews : t'.executionControllerReviews = t.executionControllerReviews
  permissions : t'.permissionEvaluations = t.permissionEvaluations
  approvals : t'.approvals = t.approvals

/-- None of these rows is written. -/
theorem Handled.of_eq {t t' : ExecutionTables} (hactions : t'.actions = t.actions)
    (hexecutions : t'.executions = t.executions)
    (hdetails : t'.actionProposalDetails = t.actionProposalDetails)
    (hreviews : t'.executionControllerReviews = t.executionControllerReviews)
    (hpermissions : t'.permissionEvaluations = t.permissionEvaluations)
    (happrovals : t'.approvals = t.approvals) : Handled t t' := by
  refine ⟨⟨ActionProposal.status, ?_, fun _ => .inl rfl⟩, by rw [hexecutions], hdetails, hreviews,
    hpermissions, happrovals⟩
  rw [hactions]
  exact (List.map_id _).symm

instance : IsPreorder ExecutionTables Handled where
  refl _ := .of_eq rfl rfl rfl rfl rfl rfl
  trans t t' t'' h h' := by
    obtain ⟨status, hactions, hclosed⟩ := h.actions
    obtain ⟨status', hactions', hclosed'⟩ := h'.actions
    refine ⟨⟨fun action => status' (action.withStatus (status action)), ?_, fun action => ?_⟩,
      h'.executions.trans h.executions, h'.details.trans h.details, h'.reviews.trans h.reviews,
      h'.permissions.trans h.permissions, h'.approvals.trans h.approvals⟩
    · rw [hactions', hactions, List.map_map]
      rfl
    · rcases hclosed' (action.withStatus (status action)) with heq | hnow
      · rcases hclosed action with heq' | hnow
        · exact .inl (heq.trans heq')
        · exact .inr (heq.symm ▸ hnow : (status' _).closed)
      · exact .inr hnow

theorem HandlerWrites.handled : HandlerWrites Handled where
  close t actionId status hstatus := by
    refine { (refl t : Handled t t) with actions := ?_ }
    refine ⟨fun action => if action.id = actionId then status else action.status, ?_, ?_⟩
    · refine List.map_congr_left fun action _ => ?_
      dsimp only
      split <;> rfl
    · intro action
      dsimp only
      split
      · exact .inr hstatus
      · exact .inl rfl
  executions t f hf := by
    refine { (refl t : Handled t t) with executions := ?_ }
    rw [List.map_map]
    refine List.map_congr_left fun execution _ => ?_
    exact Prod.ext (hf execution).1 (hf execution).2

theorem PublicationWrites.handled : PublicationWrites Handled where
  same t := refl t
  insertPublication _ _ := .of_eq rfl rfl rfl rfl rfl rfl
  insertReference _ _ := .of_eq rfl rfl rfl rfl rfl rfl
  insertLink _ _ := .of_eq rfl rfl rfl rfl rfl rfl
  experiments _ _ := .of_eq rfl rfl rfl rfl rfl rfl

/-! ## A new proposal -/

/-- The key of a proposal, read off its detail. -/
def Digest.proposalKey (D : Digest) (detail : ActionProposalDetail) : String :=
  D.actionIdempotencyKey detail.productionWorkflowId detail.assetVersionId detail.connectorAccountId
    detail.targetChatId (D.payloadHash detail.deliveryPayload)

/-- The rows of a new proposal: its detail, its reviews and its permission, from the workflow, the
asset version and the account that the proposal is made of. -/
structure ProposalRows (D : Digest) (now : Time) (scope : TenantScope)
    (workflow : ProductionWorkflow) (version : AssetVersion) (account : ConnectorAccount)
    (t : ExecutionTables) (action : ActionProposal) (detail : ActionProposalDetail)
    (reviews : List ExecutionControllerReview) (permission : PermissionEvaluation) : Prop where
  tenant : action.scope = scope
  target : action.targetObjectVersionId = version.id
  key : action.idempotencyKey = D.proposalKey detail
  detail_action : detail.actionId = action.id
  detail_workflow : detail.productionWorkflowId = workflow.id
  detail_decision : detail.decisionId = workflow.decisionId
  detail_version : detail.assetVersionId = version.id
  detail_account : detail.connectorAccountId = account.id
  detail_chat : detail.targetChatId = account.targetChatId
  payload : detail.deliveryPayload = { text := some version.body }
  payloadHash : detail.deliveryPayloadHash = D.payloadHash detail.deliveryPayload
  reviews_action : ∀ review ∈ reviews, review.actionId = action.id
  reviewed : reviews.map ExecutionControllerReview.toDeterministicExecutionReview =
    evaluateExecutionControllers (action.withStatus .proposed) detail account now
      t.toExecutionContext
  permission_action : permission.actionId = action.id
  evaluated : ∃ policy, (permission.outcome, permission.reason) = evaluatePermission scope policy
    (reviews.map ExecutionControllerReview.toDeterministicExecutionReview) t
  status : action.status =
    if permission.outcome = .blocked then ActionStatus.blocked else .approvalRequired

/-- A new proposal comes with all its rows. -/
structure Proposed (D : Digest) (now : Time) (scope : TenantScope)
    (productionWorkflowId connectorAccountId : Id) (nextId nextId' : Id) (t t' : ExecutionTables)
    (action : ActionProposal) : Prop where
  fresh : nextId ≤ action.id ∧ action.id < nextId'
  unknown : Table.find ActionProposal.idempotencyKey action.idempotencyKey t.actions = none
  actions : t'.actions = t.actions ++ [action]
  made : ∃ workflow version account detail reviews permission,
    proposalSources scope productionWorkflowId connectorAccountId t =
      .ok (workflow, version, account) ∧
    ProposalRows D now scope workflow version account t action detail reviews permission ∧
    t'.actionProposalDetails = t.actionProposalDetails ++ [detail] ∧
    t'.executionControllerReviews = t.executionControllerReviews ++ reviews ∧
    t'.permissionEvaluations = t.permissionEvaluations ++ [permission]
  approvals : t'.approvals = t.approvals
  executions : t'.executions = t.executions
  context : t'.toExecutionContext = t.toExecutionContext

section Proposals

variable {now : Time} {db : AgentDatabase M ExecutionTables}

/-- The reviews are added, each bound to the action. -/
theorem materializeReviews_rows (scope : TenantScope) (actionId : Id)
    (reviews : List DeterministicExecutionReview) :
    Ensures (materializeReviews scope actionId reviews)
      (fun _ (db' : AgentDatabase M ExecutionTables) => db.nextId ≤ db'.nextId ∧
      ∃ rows : List ExecutionControllerReview,
        rows.map ExecutionControllerReview.toDeterministicExecutionReview = reviews ∧
        (∀ row ∈ rows, row.actionId = actionId) ∧ db'.tables.domain = { db.tables.domain with
          executionControllerReviews := db.tables.domain.executionControllerReviews ++ rows }) db := by
  refine Ensures.foldlM_prefix (I := fun done _ (db' : AgentDatabase M ExecutionTables) =>
    db.nextId ≤ db'.nextId ∧
    ∃ rows : List ExecutionControllerReview,
      rows.map ExecutionControllerReview.toDeterministicExecutionReview = done ∧
      (∀ row ∈ rows, row.actionId = actionId) ∧ db'.tables.domain = { db.tables.domain with
        executionControllerReviews := db.tables.domain.executionControllerReviews ++ rows })
    ?_ ⟨le_rfl, [], rfl, by simp, by simp⟩
  rintro done review _ - _ db₁ ⟨hnext, rows, hrows, hmine, hdomain⟩
  rw [ensures_bind, ensures_newId, ensures_modifyTables]
  refine ⟨hnext.trans (Nat.le_succ _),
    rows ++ [{ review with id := db₁.nextId, scope := scope, actionId := actionId }], ?_, ?_, ?_⟩
  · rw [List.map_append, hrows]
    rfl
  · intro row hrow
    rcases List.mem_append.mp hrow with hold | hnew
    · exact hmine row hold
    · rw [List.mem_singleton.mp hnew]
  · simp only [Database.tables_applyJobOp, hdomain, List.append_assoc]

/-- At most the policies are written. -/
theorem ensureDefaultTelegramPermissionPolicy_rows (scope : TenantScope) :
    Ensures (ensureDefaultTelegramPermissionPolicy scope)
      (fun _ (db' : AgentDatabase M ExecutionTables) => db.nextId ≤ db'.nextId ∧
        ∃ policies, db'.tables.domain = { db.tables.domain with permissionPolicies := policies })
      db := by
  rw [ensureDefaultTelegramPermissionPolicy, ensures_bind, ensures_tables]
  split
  next => exact (ensures_pure _).mpr ⟨le_rfl, _, rfl⟩
  next =>
    rw [ensures_bind, ensures_newId, ensures_bind, ensures_modifyTables, ensures_pure]
    exact ⟨Nat.le_succ _, _, rfl⟩

/-- The permission reads the controls only. -/
theorem evaluatePermission_congr {scope : TenantScope} {policy : PermissionPolicy}
    {reviews : List DeterministicExecutionReview} {t t' : ExecutionTables}
    (h : t'.globalExecutionControls = t.globalExecutionControls) :
    evaluatePermission scope policy reviews t' = evaluatePermission scope policy reviews t := by
  rw [evaluatePermission, evaluatePermission, globalControl, globalControl, h]

/-- `create_action_proposal` finds its action, or makes it with all its rows. -/
theorem createActionProposal_moves (D : Digest) (scope : TenantScope)
    (productionWorkflowId connectorAccountId : Id) :
    Ensures (createActionProposal D now scope productionWorkflowId connectorAccountId)
      (fun action db' => (db' = db ∧ action ∈ db.tables.domain.actions) ∨
        Proposed D now scope productionWorkflowId connectorAccountId db.nextId db'.nextId
          db.tables.domain db'.tables.domain action) db := by
  rw [createActionProposal, ensures_bind, ensures_tables, ensures_bind, ensures_check]
  rintro ⟨workflow, version, account⟩ hsources
  rw [ensures_bind, ensures_check]
  intro _ _
  dsimp only
  split
  next existing hexisting =>
    rw [ensures_bind, ensures_check]
    intro _ _
    rw [ensures_bind, ensures_check]
    intro _ _
    exact (ensures_pure _).mpr (.inl ⟨rfl, Table.mem_of_find hexisting⟩)
  next hunknown =>
    rw [ensures_bind, ensures_newId, ensures_bind, ensures_newId, ensures_bind,
      ensures_modifyTables, ensures_bind]
    refine (materializeReviews_rows scope db.nextId _).mono ?_
    rintro _ db₁ ⟨hnext₁, reviews, hreviews, hmine, hdomain₁⟩
    rw [ensures_bind]
    refine (ensureDefaultTelegramPermissionPolicy_rows scope).mono ?_
    rintro policy db₂ ⟨hnext₂, policies, hdomain₂⟩
    rw [ensures_bind, ensures_newId, ensures_bind, ensures_tables, ensures_bind,
      ensures_modifyTables, ensures_pure]
    simp only [Database.tables_applyJobOp] at hdomain₁ ⊢
    have hnext : db.nextId + 1 ≤ db₂.nextId := (Nat.le_succ _).trans (hnext₁.trans hnext₂)
    have hactions : db₂.tables.domain.actions = db.tables.domain.actions := by
      rw [hdomain₂, hdomain₁]
    have hdetails := congrArg ExecutionTables.actionProposalDetails hdomain₂
    rw [hdomain₁] at hdetails
    have hrows : db₂.tables.domain.executionControllerReviews =
        db.tables.domain.executionControllerReviews ++ reviews := by rw [hdomain₂, hdomain₁]
    have hpermissions : db₂.tables.domain.permissionEvaluations =
        db.tables.domain.permissionEvaluations := by rw [hdomain₂, hdomain₁]
    have happrovals : db₂.tables.domain.approvals = db.tables.domain.approvals := by
      rw [hdomain₂, hdomain₁]
    have hexecutions : db₂.tables.domain.executions = db.tables.domain.executions := by
      rw [hdomain₂, hdomain₁]
    have hcontext : db₂.tables.domain.toExecutionContext =
        db.tables.domain.toExecutionContext := by rw [hdomain₂, hdomain₁]
    refine .inr ⟨⟨le_rfl, hnext.trans (Nat.le_succ _)⟩, hunknown, congrArg (· ++ [_]) hactions, ?_,
      happrovals, hexecutions, hcontext⟩
    · refine ⟨workflow, version, account, _, reviews, _, hsources, ?_, hdetails, hrows,
        congrArg (· ++ [_]) hpermissions⟩
      have hcontrols : db₂.tables.domain.globalExecutionControls =
          db.tables.domain.globalExecutionControls := by simp only [hdomain₂, hdomain₁]
      exact
        { tenant := rfl
          target := rfl
          key := rfl
          detail_action := rfl
          detail_workflow := rfl
          detail_decision := rfl
          detail_version := rfl
          detail_account := rfl
          detail_chat := rfl
          payload := rfl
          payloadHash := rfl
          reviews_action := hmine
          reviewed := hreviews
          permission_action := rfl
          evaluated := ⟨policy, by rw [hreviews, ← evaluatePermission_congr hcontrols]⟩
          status := rfl }

end Proposals

/-! ## Approvals -/

/-- `_permission_evaluation` finds one that is `APPROVAL_REQUIRED`. -/
def ActionProposal.Permitted (action : ActionProposal) (t : ExecutionTables) : Prop :=
  ∃ permission ∈ Table.find PermissionEvaluation.actionId action.id t.permissionEvaluations,
    permission.outcome = .approvalRequired

instance (action : ActionProposal) (t : ExecutionTables) : Decidable (action.Permitted t) :=
  inferInstanceAs (Decidable (∃ permission ∈ Table.find PermissionEvaluation.actionId action.id
    t.permissionEvaluations, permission.outcome = .approvalRequired))

/-- What `approve_action_proposal` checks of an action. -/
structure ActionProposal.Approvable (D : Digest) (scope : TenantScope) (userId : String)
    (t : ExecutionTables) (action : ActionProposal) : Prop where
  found : Table.find ActionProposal.id action.id t.actions = some action
  tenant : action.scope = scope
  owner : assertOwner scope userId t.toExecutionContext = .ok ()
  status : action.status = .approvalRequired ∨ action.status = .approved
  permitted : action.Permitted t
  bound : ∃ detail, actionDetail action.id t = .ok detail ∧
    assertCurrentActionBinding D action detail t.toExecutionContext = .ok ()

theorem approvable_of_eq_ok {D : Digest} {scope : TenantScope} {actionId : Id} {userId : String}
    {t : ExecutionTables} {action : ActionProposal}
    (h : approvableAction D scope actionId userId t = .ok action) :
    action.id = actionId ∧ action.Approvable D scope userId t := by
  unfold approvableAction at h
  obtain ⟨found, hfound, h⟩ := Except.bind_eq_ok_iff.mp h
  obtain ⟨_, hscope, h⟩ := Except.bind_eq_ok_iff.mp h
  obtain ⟨_, howner, h⟩ := Except.bind_eq_ok_iff.mp h
  obtain ⟨_, hstatus, h⟩ := Except.bind_eq_ok_iff.mp h
  obtain ⟨detail, hdetail, h⟩ := Except.bind_eq_ok_iff.mp h
  obtain ⟨permission, hpermission, h⟩ := Except.bind_eq_ok_iff.mp h
  obtain ⟨_, houtcome, h⟩ := Except.bind_eq_ok_iff.mp h
  obtain ⟨_, hbinding, h⟩ := Except.bind_eq_ok_iff.mp h
  cases h
  have hfind := orRaise_eq_ok_iff.mp hfound
  obtain rfl : action.id = actionId := Table.key_of_find hfind
  exact ⟨rfl,
    { found := hfind
      tenant := (TenantScope.assertMatches_eq_ok_iff.mp hscope).symm
      owner := howner
      status := require_eq_ok_iff.mp hstatus
      permitted := ⟨permission, orRaise_eq_ok_iff.mp hpermission, require_eq_ok_iff.mp houtcome⟩
      bound := ⟨detail, hdetail, hbinding⟩ }⟩

/-- A row is found, or it is made and added behind the others. -/
inductive FoundOrAdded {ρ : Type} (found : Option ρ) (made : Prop) (rows rows' : List ρ)
    (row : ρ) : Prop
  | found (hfound : found = some row) (hrows : rows' = rows)
  | added (hfound : found = none) (hmade : made) (hrows : rows' = rows ++ [row])

theorem FoundOrAdded.mem {ρ : Type} {found : Option ρ} {made : Prop} {rows rows' : List ρ} {row : ρ}
    (h : FoundOrAdded found made rows rows' row) (hfound : ∀ row, found = some row → row ∈ rows) :
    row ∈ rows' := by
  cases h with
  | found hrow hrows => exact hrows ▸ hfound row hrow
  | added _ _ hrows => exact hrows ▸ List.mem_append_right _ (List.mem_singleton_self row)

theorem FoundOrAdded.imp {ρ : Type} {found : Option ρ} {made made' : Prop} {rows rows' : List ρ}
    {row : ρ} (h : FoundOrAdded found made rows rows' row) (hmade : made → made') :
    FoundOrAdded found made' rows rows' row := by
  cases h with
  | found hfound hrows => exact .found hfound hrows
  | added hfound h hrows => exact .added hfound (hmade h) hrows

theorem FoundOrAdded.subset {ρ : Type} {found : Option ρ} {made : Prop} {rows rows' : List ρ}
    {row : ρ} (h : FoundOrAdded found made rows rows' row) : rows ⊆ rows' := by
  cases h with
  | found _ hrows => exact hrows ▸ List.Subset.refl _
  | added _ _ hrows => exact hrows ▸ List.subset_append_left _ _

theorem FoundOrAdded.isPrefix {ρ : Type} {found : Option ρ} {made : Prop} {rows rows' : List ρ}
    {row : ρ} (h : FoundOrAdded found made rows rows' row) : rows <+: rows' := by
  cases h with
  | found _ hrows => exact hrows ▸ List.prefix_rfl
  | added _ _ hrows => exact hrows ▸ List.prefix_append _ _

/-- A row that is only added when there is none with its key. -/
theorem FoundOrAdded.keysNodup {ρ ι : Type} [DecidableEq ι] {key : ρ → ι} {i : ι} {made : Prop}
    {rows rows' : List ρ} {row : ρ} (h : FoundOrAdded (Table.find key i rows) made rows rows' row)
    (hrow : made → key row = i) (hrows : Table.KeysNodup key rows) : Table.KeysNodup key rows' := by
  cases h with
  | found _ heq => exact heq ▸ hrows
  | added hnone hmade heq =>
      rw [heq]
      refine hrows.append (Table.keysNodup_singleton row) ?_
      simp only [List.mem_singleton, forall_eq, hrow hmade]
      exact Table.find_eq_none_iff.mp hnone

theorem FoundOrAdded.key {ρ ι : Type} [DecidableEq ι] {key : ρ → ι} {i : ι} {made : Prop}
    {rows rows' : List ρ} {row : ρ} (h : FoundOrAdded (Table.find key i rows) made rows rows' row)
    (hrow : made → key row = i) : key row = i := by
  cases h with
  | found hfound _ => exact Table.key_of_find hfound
  | added _ hmade _ => exact hrow hmade

/-- The active approval of an action, found or made. -/
def ApprovalFor (now : Time) (scope : TenantScope) (userId : String) (nextId nextId' : Id)
    (t t' : ExecutionTables) (action : ActionProposal) (approval : Approval) : Prop :=
  FoundOrAdded (action.activeApproval t)
    (∃ id, nextId ≤ id ∧ id < nextId' ∧ approval = action.approvalBy id scope userId now)
    t.approvals t'.approvals approval

/-- The execution of an action, found or made. -/
def ExecutionFor (scope : TenantScope) (nextId nextId' : Id) (t t' : ExecutionTables)
    (action : ActionProposal) (approval : Approval) (execution : Execution) : Prop :=
  FoundOrAdded (Table.find Execution.actionId action.id t.executions)
    (∃ id, nextId ≤ id ∧ id < nextId' ∧ execution =
      { id := id, scope := scope, actionId := action.id, approvalId := some approval.id })
    t.executions t'.executions execution

/-- The tables that an approval leaves alone. -/
structure SameProposal (t t' : ExecutionTables) : Prop where
  details : t'.actionProposalDetails = t.actionProposalDetails
  reviews : t'.executionControllerReviews = t.executionControllerReviews
  permissions : t'.permissionEvaluations = t.permissionEvaluations
  context : t'.toExecutionContext = t.toExecutionContext

/-- The approval and the execution are found or made, and the action is `APPROVED`. -/
structure Approved (now : Time) (scope : TenantScope) (userId : String) (nextId nextId' : Id)
    (t t' : ExecutionTables) (action : ActionProposal) (approval : Approval)
    (execution : Execution) : Prop extends SameProposal t t' where
  nextId_le : nextId ≤ nextId'
  approved : ApprovalFor now scope userId nextId nextId' t t' action approval
  executed : ExecutionFor scope nextId nextId' t t' action approval execution
  actions : t'.actions = Table.modify ActionProposal.id action.id
    (ActionProposal.withStatus .approved) t.actions

/-- Every call adds an approval, and the action is `APPROVED`. -/
structure Granted (now : Time) (scope : TenantScope) (userId : String) (nextId nextId' : Id)
    (t t' : ExecutionTables) (action : ActionProposal) : Prop extends SameProposal t t' where
  nextId_le : nextId ≤ nextId'
  known : Table.find ActionProposal.id action.id t.actions = some action
  tenant : action.scope = scope
  approvals : ∃ id, nextId ≤ id ∧ id < nextId' ∧
    t'.approvals = t.approvals ++ [action.approvalBy id scope userId now]
  actions : t'.actions = Table.modify ActionProposal.id action.id
    (ActionProposal.withStatus .approved) t.actions
  executions : t'.executions = t.executions

section Approvals

variable {now : Time} {db : AgentDatabase M ExecutionTables}

theorem ensureApproval_rows (scope : TenantScope) (action : ActionProposal) (userId : String) :
    Ensures (ensureApproval now scope action userId) (fun approval db' =>
      db.nextId ≤ db'.nextId ∧ ApprovalFor now scope userId db.nextId db'.nextId db.tables.domain
        db'.tables.domain action approval ∧
      ∃ approvals, db'.tables.domain = { db.tables.domain with approvals := approvals }) db := by
  rw [ensureApproval, ensures_bind, ensures_tables]
  split
  next existing hexisting =>
    exact (ensures_pure _).mpr ⟨le_rfl, .found hexisting rfl, _, rfl⟩
  next hnone =>
    rw [ensures_bind, ensures_newId, ensures_bind, ensures_modifyTables, ensures_pure]
    exact ⟨Nat.le_succ _, .added hnone ⟨db.nextId, le_rfl, Nat.lt_succ_self _, rfl⟩ rfl, _, rfl⟩

theorem ensureExecution_rows (scope : TenantScope) (action : ActionProposal) (approval : Approval) :
    Ensures (ensureExecution scope action approval) (fun execution db' =>
      db.nextId ≤ db'.nextId ∧ ExecutionFor scope db.nextId db'.nextId db.tables.domain
        db'.tables.domain action approval execution ∧
      ∃ executions, db'.tables.domain = { db.tables.domain with executions := executions }) db := by
  rw [ensureExecution, ensures_bind, ensures_tables]
  split
  next existing hexisting =>
    exact (ensures_pure _).mpr ⟨le_rfl, .found hexisting rfl, _, rfl⟩
  next hnone =>
    rw [ensures_bind, ensures_newId, ensures_bind, ensures_modifyTables, ensures_pure]
    exact ⟨Nat.le_succ _, .added hnone ⟨db.nextId, le_rfl, Nat.lt_succ_self _, rfl⟩ rfl, _, rfl⟩

theorem approveActionProposal_moves (D : Digest) (scope : TenantScope) (actionId : Id)
    (userId : String) :
    Ensures (approveActionProposalResult D now scope actionId userId) (fun result db' =>
      ∃ action, approvableAction D scope actionId userId db.tables.domain = .ok action ∧
        Approved now scope userId db.nextId db'.nextId db.tables.domain db'.tables.domain action
          result.approval result.execution ∧
        result.created = (action.activeApproval db.tables.domain).isNone ∧
        result.job ∈ db'.jobs ∧ result.job.uniqueKey =
          (publishJob scope action.id result.execution.id).uniqueKey) db := by
  rw [approveActionProposalResult, ensures_bind, ensures_tables, ensures_bind, ensures_check]
  intro action haction
  rw [ensures_bind]
  refine (ensureApproval_rows scope action userId).mono ?_
  rintro approval db₁ ⟨hnext₁, happroved, approvals, hdomain₁⟩
  rw [ensures_bind, setActionStatus, ensures_modifyTables, ensures_bind]
  refine (ensureExecution_rows scope action approval).mono ?_
  rintro execution db₂ ⟨hnext₂, hexecuted, executions, hdomain₂⟩
  rw [ensures_bind]
  intro job db₃ hjob
  rw [ensures_pure]
  obtain ⟨rfl, hmem, hkey, -⟩ := DomainTxn.createJob_eq_ok hjob
  have hnext₃ := db₂.toJobTable.nextId_le_apply now
    (.createJob (publishJob scope action.id execution.id))
  have hnext : db₁.nextId ≤ _ := hnext₂.trans hnext₃
  have happrovals : db₂.tables.domain.approvals = db₁.tables.domain.approvals := by rw [hdomain₂]
  have hexecutions : db₁.tables.domain.executions = db.tables.domain.executions := by
    rw [hdomain₁]
  have hactions := congrArg ExecutionTables.actions hdomain₂
  rw [hdomain₁] at hactions
  refine ⟨action, haction, ⟨⟨?_, ?_, ?_, ?_⟩, hnext₁.trans hnext, ?_, ?_, hactions⟩, rfl, hmem,
    hkey⟩
  · simp only [Database.tables_applyJobOp, hdomain₂, hdomain₁]
  · simp only [Database.tables_applyJobOp, hdomain₂, hdomain₁]
  · simp only [Database.tables_applyJobOp, hdomain₂, hdomain₁]
  · simp only [Database.tables_applyJobOp, hdomain₂, hdomain₁]
  · rw [ApprovalFor, Database.tables_applyJobOp, happrovals]
    refine FoundOrAdded.imp happroved ?_
    rintro ⟨id, hle, hlt, heq⟩
    exact ⟨id, hle, hlt.trans_le hnext, heq⟩
  · rw [ExecutionFor, Database.tables_applyJobOp, ← hexecutions]
    refine FoundOrAdded.imp hexecuted ?_
    rintro ⟨id, hle, hlt, heq⟩
    exact ⟨id, hnext₁.trans hle, hlt.trans_le hnext₃, heq⟩

/-- `approve_action` checks the tenant of the action, and nothing else. -/
theorem approveAction_moves (scope : TenantScope) (actionId : Id) (userId : String) :
    Ensures (approveAction now scope actionId userId) (fun _ db' => ∃ action,
      action.id = actionId ∧ Granted now scope userId db.nextId db'.nextId db.tables.domain
        db'.tables.domain action) db := by
  rw [approveAction, ensures_bind, ensures_tables, ensures_bind, ensures_check]
  intro action haction
  rw [ensures_bind, ensures_check]
  intro _ hscope
  have hfind := orRaise_eq_ok_iff.mp haction
  obtain rfl : action.id = actionId := Table.key_of_find hfind
  rw [ensures_bind, ensures_newId, ensures_bind, ensures_modifyTables, ensures_bind,
    setActionStatus, ensures_modifyTables, DomainTxn.addOutboxEvent, ensures_modify]
  refine ⟨action, rfl, ⟨rfl, rfl, rfl, rfl⟩, Nat.le_add_right _ 2, hfind,
    (TenantScope.assertMatches_eq_ok_iff.mp hscope).symm, ?_, rfl, rfl⟩
  exact ⟨db.nextId, le_rfl, Nat.lt_succ_of_lt (Nat.lt_succ_self _), rfl⟩

end Approvals

/-! ## Steps -/

/-- What a step does to the proposals. -/
inductive ProposalStep (D : Digest) (s : ExecutionState M) :
    Action ExecutionAnswer ExecutionCommand → AgentDatabase M ExecutionTables → Prop
  | handled {action : Action ExecutionAnswer ExecutionCommand} {db : AgentDatabase M ExecutionTables}
      (hnext : s.db.nextId ≤ db.nextId) (h : Handled s.db.tables.domain db.tables.domain) :
      ProposalStep D s action db
  | proposed {scope : TenantScope} {productionWorkflowId connectorAccountId : Id}
      {db : AgentDatabase M ExecutionTables} {action : ActionProposal}
      (h : Proposed D s.now scope productionWorkflowId connectorAccountId s.db.nextId db.nextId
        s.db.tables.domain db.tables.domain action) :
      ProposalStep D s
        (.command (.createActionProposal scope productionWorkflowId connectorAccountId)) db
  | approved {scope : TenantScope} {actionId : Id} {userId : String}
      {db : AgentDatabase M ExecutionTables} {action : ActionProposal}
      {result : ApprovalExecutionResult}
      (happrovable : approvableAction D scope actionId userId s.db.tables.domain = .ok action)
      (h : Approved s.now scope userId s.db.nextId db.nextId s.db.tables.domain db.tables.domain
        action result.approval result.execution)
      (hjob : result.job ∈ db.jobs)
      (hkey : result.job.uniqueKey = (publishJob scope action.id result.execution.id).uniqueKey) :
      ProposalStep D s (.command (.approveActionProposal scope actionId userId)) db
  | granted {scope : TenantScope} {userId : String} {db : AgentDatabase M ExecutionTables}
      {action : ActionProposal}
      (h : Granted s.now scope userId s.db.nextId db.nextId s.db.tables.domain db.tables.domain
        action) :
      ProposalStep D s (.command (.approveAction scope action.id userId)) db

/-- The rest of the application writes none of these rows. -/
theorem handledWithin_performEffect (now : Time) (effect : ForeignEffect) :
    Within (Frames Handled) (effect.perform (M := M) now) := by
  have hf := domainRelation_frames (M := M) (r := Handled) now fun _ => true
  refine hf.bind (hf.foldlM (fun _ work => framesWithin_perform now _ _ work) _) fun _ => ?_
  exact hf.modifyTables _ fun t => .of_eq rfl rfl rfl rfl rfl rfl

theorem proposalStep_command (D : Digest) {s : ExecutionState M} (c : ExecutionCommand) :
    Ensures (c.run D s.now) (fun _ db => ProposalStep D s (.command c) db) s.db := by
  have hf := domainRelation_frames (M := M) (r := Handled) s.now fun _ => true
  cases c with
  | probeAndRegisterTelegramConnector scope channelId targetChatId readiness =>
      refine (within_probeAndRegisterTelegramConnector hf scope channelId targetChatId readiness
        (fun _ _ _ => ?_) (fun _ _ => ?_) s.db).mono fun _ _ h => .handled h.nextId h.domain
      all_goals exact .of_eq rfl rfl rfl rfl rfl rfl
  | createActionProposal scope productionWorkflowId connectorAccountId =>
      rw [ExecutionCommand.run, ensures_bind]
      refine (createActionProposal_moves D scope productionWorkflowId connectorAccountId).mono ?_
      rintro action db (⟨rfl, -⟩ | h)
      · exact (ensures_pure _).mpr (.handled le_rfl (refl _))
      · exact (ensures_pure _).mpr (.proposed h)
  | approveActionProposal scope actionId userId =>
      rw [ExecutionCommand.run, approveActionProposal_eq, ensures_bind, ensures_map]
      refine (approveActionProposal_moves D scope actionId userId).mono ?_
      rintro result db ⟨action, happrovable, h, -, hjob, hkey⟩
      exact (ensures_pure _).mpr (.approved happrovable h hjob hkey)
  | approveAction scope actionId userId =>
      refine (approveAction_moves scope actionId userId).mono ?_
      rintro _ db ⟨action, rfl, h⟩
      exact .granted h
  | setGlobalExecutionControls scope userId automationPaused executionPaused revokeAll =>
      refine (within_setGlobalExecutionControls hf (fun _ _ => ?_) scope userId _ _ _ s.db).mono
        fun _ _ h => .handled h.nextId h.domain
      exact .of_eq rfl rfl rfl rfl rfl rfl
  | foreign effect =>
      exact (handledWithin_performEffect s.now effect s.db).mono
        fun _ _ h => .handled h.nextId h.domain

/-- Every step makes at most one move. -/
theorem proposalStep (D : Digest) (action : Action ExecutionAnswer ExecutionCommand)
    (s : ExecutionState M) : ProposalStep D s action ((executionApp D).step action s).db := by
  have heffect := (executionApp D).effect action s
  generalize ((executionApp D).step action s).db = db',
    ((executionApp D).step action s).world = world' at heffect ⊢
  cases heffect with
  | quiet hnext htables => exact .handled hnext (htables ▸ refl _)
  | command c hok => exact (proposalStep_command D c).of_exec hok
  | called => exact .handled le_rfl (refl _)
  | @committed a worker context payload progress answer db _ ha hstage hnext htables =>
      have hframes : Frames Handled s.db db := executionApp_commit_within .handled .handled
        (domainRelation_frames s.now _) (fun htable htables => ⟨htable ▸ le_rfl, htables ▸ refl _⟩)
        (fun effect => handledWithin_performEffect s.now effect) hstage
      exact .handled (hframes.nextId.trans hnext) (htables ▸ hframes.domain)
  | failed job error willRetry hnext htables =>
      refine .handled hnext ?_
      rw [htables]
      simp only [executionApp]
      split
      · rw [domain_recordAgentRunFailure]
        exact refl _
      · exact refl _

end LaunchOS
