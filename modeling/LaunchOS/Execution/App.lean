import LaunchOS.Execution.Service

/-!
# The execution service on the runtime

The module introduces:

* `PublishCall`: the calls of `publish_text`, which no crash takes back;
* `telegramExecutionHandler`: the handler, which calls the provider with its transaction open;
* `SameBindings`, `within_prepareExecution` and so on: which rows each operation leaves alone;
* `ExecutionCommand`, `executionApp`: the service as domain code on the runtime, next to the rest of
  the application.
-/

namespace LaunchOS

open Txn

variable {M : Type}

/-! ## The handler -/

/-- A call of `publish_text`: the command, the execution it is for, and the job that makes it. -/
structure PublishCall where
  jobId : Id
  executionId : Id
  command : TelegramPublishTextCommand
deriving DecidableEq, Repr

/-- Where the handler stands: before the call or after it. -/
inductive TelegramProgress
  | preparing
  | called (request : PublishRequest)
deriving DecidableEq, Repr

/-- `TelegramExecutionHandler.handle`. -/
def telegramExecutionHandler (D : Digest) (context : RuntimeJobContext) (payload : JobPayload)
    (now : Time) (outcome : PublishOutcome) (calls : List PublishCall)
    (db : AgentDatabase M ExecutionTables) :
    TelegramProgress → Stage (AgentTables M ExecutionTables) (List PublishCall) TelegramProgress
  | .preparing =>
      match prepareExecution D context payload db with
      | .ok (none, db') => .commit db'
      | .ok (some request, _) =>
          .next (.called request) (calls ++ [⟨context.jobId, request.executionId, request.command⟩])
      | .error error => .raise error
  | .called request => .ofDomain (exec (settleExecution now context.scope request outcome) db)

/-- What the rest of the application does in one transaction: its work on the runtime, and what it
writes into the tables that are its own. -/
structure ForeignEffect where
  works : List ForeignWork := []
  context : ExecutionContext → ExecutionContext := id

/-- Only `approve_action_proposal` creates publish jobs. -/
def ForeignWork.sparesPublish : ForeignWork → Bool
  | .createJob args => args.jobType ≠ .executionTelegramPublish
  | _ => true

/-- Do it at time `now`. -/
def ForeignEffect.perform (now : Time) (effect : ForeignEffect) : ExecutionTxn M Unit := do
  (effect.works.filter ForeignWork.sparesPublish).foldlM
    (fun _ work => work.perform now (fun _ => false) fun _ => false) ()
  DomainTxn.modifyTables fun t =>
    { t with toExecutionContext := effect.context t.toExecutionContext }

/-- What answers the handlers: the provider, and the rest of the application for its own ones. -/
structure ExecutionAnswer where
  outcome : PublishOutcome := .ambiguous "TELEGRAM_TRANSPORT_AMBIGUOUS"
  foreign : Except JobError ForeignEffect := .ok {}

/-- The publish handler and the handlers of the other job types. -/
def executionHandler (D : Digest) (context : RuntimeJobContext) (payload : JobPayload) (now : Time)
    (answer : ExecutionAnswer) (progress : TelegramProgress) (calls : List PublishCall)
    (db : AgentDatabase M ExecutionTables) :
    Stage (AgentTables M ExecutionTables) (List PublishCall) TelegramProgress :=
  if context.jobType = .executionTelegramPublish then
    telegramExecutionHandler D context payload now answer.outcome calls db progress
  else
    .ofDomain (exec (do (← DomainTxn.check answer.foreign).perform now) db)

/-- What the owners do, and the rest of the application outside of jobs. -/
inductive ExecutionCommand
  | probeAndRegisterTelegramConnector (scope : TenantScope) (channelId : Id)
      (targetChatId : String) (readiness : ConnectorReadiness)
  | createActionProposal (scope : TenantScope) (productionWorkflowId connectorAccountId : Id)
  | approveActionProposal (scope : TenantScope) (actionId : Id) (userId : String)
  | approveAction (scope : TenantScope) (actionId : Id) (userId : String)
  | setGlobalExecutionControls (scope : TenantScope) (userId : String)
      (automationPaused executionPaused revokeAllWriteCapabilities : Option Bool)
  | foreign (effect : ForeignEffect)

/-- A command, in a transaction of its own. -/
def ExecutionCommand.run (D : Digest) (now : Time) : ExecutionCommand → ExecutionTxn M Unit
  | .probeAndRegisterTelegramConnector scope channelId targetChatId readiness =>
      LaunchOS.probeAndRegisterTelegramConnector scope channelId targetChatId readiness
  | .createActionProposal scope productionWorkflowId connectorAccountId => do
      let _ ← LaunchOS.createActionProposal D now scope productionWorkflowId connectorAccountId
  | .approveActionProposal scope actionId userId => do
      let _ ← LaunchOS.approveActionProposal D now scope actionId userId
  | .approveAction scope actionId userId => LaunchOS.approveAction now scope actionId userId
  | .setGlobalExecutionControls scope userId automationPaused executionPaused revokeAll =>
      LaunchOS.setGlobalExecutionControls scope userId automationPaused executionPaused revokeAll
  | .foreign effect => effect.perform now

/-! ## What the operations leave alone -/

/-- What never changes of an action. -/
def ActionProposal.identity (action : ActionProposal) : Id × TenantScope :=
  (action.id, action.scope)

/-- What never changes of an execution. -/
def Execution.identity (execution : Execution) : Id × TenantScope × Id :=
  (execution.id, execution.scope, execution.actionId)

/-- The same actions and executions, in whatever status. -/
structure SameBindings (t t' : ExecutionTables) : Prop where
  actions : t'.actions.map ActionProposal.identity = t.actions.map ActionProposal.identity
  executions : t'.executions.map Execution.identity = t.executions.map Execution.identity

instance : IsPreorder ExecutionTables SameBindings where
  refl _ := ⟨rfl, rfl⟩
  trans _ _ _ h h' := ⟨h'.actions.trans h.actions, h'.executions.trans h.executions⟩

/-- Rows that are in both tables are the same rows. -/
theorem SameBindings.mem_actions {t t' : ExecutionTables} (h : SameBindings t t')
    {action : ActionProposal} (haction : action ∈ t.actions) :
    ∃ action' ∈ t'.actions, action'.id = action.id ∧ action'.scope = action.scope := by
  have hmem : action.identity ∈ t'.actions.map ActionProposal.identity := by
    rw [h.actions]
    exact List.mem_map_of_mem haction
  obtain ⟨action', haction', heq⟩ := List.mem_map.mp hmem
  exact ⟨action', haction', congrArg Prod.fst heq, congrArg Prod.snd heq⟩

theorem SameBindings.mem_executions {t t' : ExecutionTables} (h : SameBindings t t')
    {execution : Execution} (hexecution : execution ∈ t.executions) :
    ∃ execution' ∈ t'.executions, execution'.id = execution.id ∧
      execution'.scope = execution.scope ∧ execution'.actionId = execution.actionId := by
  have hmem : execution.identity ∈ t'.executions.map Execution.identity := by
    rw [h.executions]
    exact List.mem_map_of_mem hexecution
  obtain ⟨execution', hexecution', heq⟩ := List.mem_map.mp hmem
  simp only [Execution.identity, Prod.mk.injEq] at heq
  exact ⟨execution', hexecution', heq.1, heq.2.1, heq.2.2⟩

theorem SameBindings.symm {t t' : ExecutionTables} (h : SameBindings t t') : SameBindings t' t :=
  ⟨h.actions.symm, h.executions.symm⟩

theorem SameBindings.action_ids {t t' : ExecutionTables} (h : SameBindings t t') :
    t'.actions.map ActionProposal.id = t.actions.map ActionProposal.id := by
  have hids := congrArg (List.map Prod.fst) h.actions
  rwa [List.map_map, List.map_map] at hids

theorem SameBindings.execution_ids {t t' : ExecutionTables} (h : SameBindings t t') :
    t'.executions.map Execution.id = t.executions.map Execution.id := by
  have hids := congrArg (List.map Prod.fst) h.executions
  rwa [List.map_map, List.map_map] at hids

/-- The same actions and executions, bound to the same proposals and approvals. Accounts and
approvals stay, and the controls are the same. -/
structure SameRecords (t t' : ExecutionTables) : Prop extends SameBindings t t' where
  approvalIds : t'.executions.map Execution.approvalId = t.executions.map Execution.approvalId
  details : t'.actionProposalDetails = t.actionProposalDetails
  permissions : t'.permissionEvaluations = t.permissionEvaluations
  accounts : ∀ account ∈ t.connectorAccounts, ∃ account' ∈ t'.connectorAccounts,
    account'.id = account.id
  approvals : t.approvals ⊆ t'.approvals
  controls : t'.globalExecutionControls = t.globalExecutionControls

/-- Writing none of these tables. -/
theorem SameRecords.of_eq {t t' : ExecutionTables} (hactions : t'.actions = t.actions)
    (hexecutions : t'.executions = t.executions)
    (hdetails : t'.actionProposalDetails = t.actionProposalDetails)
    (hpermissions : t'.permissionEvaluations = t.permissionEvaluations)
    (haccounts : t'.connectorAccounts = t.connectorAccounts)
    (happrovals : t'.approvals = t.approvals)
    (hcontrols : t'.globalExecutionControls = t.globalExecutionControls) : SameRecords t t' := by
  refine ⟨⟨by rw [hactions], by rw [hexecutions]⟩, by rw [hexecutions], hdetails, hpermissions,
    fun account haccount => ⟨account, haccounts ▸ haccount, rfl⟩, ?_, hcontrols⟩
  rw [happrovals]
  exact List.Subset.refl _

instance : IsPreorder ExecutionTables SameRecords where
  refl _ := .of_eq rfl rfl rfl rfl rfl rfl rfl
  trans _ _ _ h h' :=
    { toSameBindings := trans_of SameBindings h.toSameBindings h'.toSameBindings
      approvalIds := h'.approvalIds.trans h.approvalIds
      details := h'.details.trans h.details
      permissions := h'.permissions.trans h.permissions
      accounts := fun account haccount => by
        obtain ⟨account', haccount', hid⟩ := h.accounts account haccount
        obtain ⟨account'', haccount'', hid'⟩ := h'.accounts account' haccount'
        exact ⟨account'', haccount'', hid'.trans hid⟩
      approvals := List.Subset.trans h.approvals h'.approvals
      controls := h'.controls.trans h.controls }

/-! ### Relations that a transaction of the service stays within -/

/-- What never changes of an account. -/
def ConnectorAccount.identity (account : ConnectorAccount) : Id × TenantScope :=
  (account.id, account.scope)

/-- `r` allows the writes by which the commands move the rows of the service along. -/
structure CommandWrites (r : ExecutionTables → ExecutionTables → Prop) : Prop where
  actions : ∀ t f, (∀ action : ActionProposal, (f action).identity = action.identity) →
    r t { t with actions := t.actions.map f }
  accounts : ∀ t f, (∀ account : ConnectorAccount, (f account).identity = account.identity) →
    r t { t with connectorAccounts := t.connectorAccounts.map f }
  insertAccount : ∀ t account, r t { t with connectorAccounts := t.connectorAccounts ++ [account] }
  insertPolicy : ∀ t policy, r t { t with permissionPolicies := t.permissionPolicies ++ [policy] }
  insertReview : ∀ t review,
    r t { t with executionControllerReviews := t.executionControllerReviews ++ [review] }
  insertApproval : ∀ t approval, r t { t with approvals := t.approvals ++ [approval] }

/-- The statuses in which the handler leaves an action. -/
def ActionStatus.closed (status : ActionStatus) : Bool :=
  status = .blocked || status = .executed

/-- The handler moves its execution along as well. -/
structure ServiceWrites (r : ExecutionTables → ExecutionTables → Prop) : Prop
    extends CommandWrites r where
  executions : ∀ t f, (∀ execution : Execution, (f execution).identity = execution.identity ∧
      (f execution).approvalId = execution.approvalId) →
    r t { t with executions := t.executions.map f }

/-- Of actions and executions the handler writes no more than this. -/
structure HandlerWrites (r : ExecutionTables → ExecutionTables → Prop) : Prop where
  close : ∀ t actionId status, status.closed → r t { t with
    actions := Table.modify ActionProposal.id actionId (fun action => { action with status := status })
      t.actions }
  executions : ∀ t f, (∀ execution : Execution, (f execution).identity = execution.identity ∧
      (f execution).approvalId = execution.approvalId) →
    r t { t with executions := t.executions.map f }

theorem ServiceWrites.handler {r : ExecutionTables → ExecutionTables → Prop}
    (h : ServiceWrites r) : HandlerWrites r where
  close t actionId status _ := h.actions t _ fun action => by split <;> rfl
  executions := h.executions

/-- `r` allows the writes of new proposals, of their executions and of the controls. -/
structure ProposalWrites (r : ExecutionTables → ExecutionTables → Prop) : Prop where
  insertDetail : ∀ t detail,
    r t { t with actionProposalDetails := t.actionProposalDetails ++ [detail] }
  insertAction : ∀ t action permission, r t { t with
    actions := t.actions ++ [action]
    permissionEvaluations := t.permissionEvaluations ++ [permission] }
  insertExecution : ∀ t execution, r t { t with executions := t.executions ++ [execution] }
  controls : ∀ t controls, r t { t with globalExecutionControls := controls }

/-- `r` allows the writes of a publication. -/
structure PublicationWrites (r : ExecutionTables → ExecutionTables → Prop) : Prop where
  same : ∀ t, r t t
  insertPublication : ∀ t publication, r t { t with publications := t.publications ++ [publication] }
  insertReference : ∀ t reference,
    r t { t with externalReferences := t.externalReferences ++ [reference] }
  insertLink : ∀ t link,
    r t { t with publicationExecutionLinks := t.publicationExecutionLinks ++ [link] }
  experiments : ∀ t experiments, r t { t with experiments := experiments }

theorem CommandWrites.top : CommandWrites fun _ _ => True := by
  constructor <;> intros <;> trivial

theorem ServiceWrites.top : ServiceWrites fun _ _ => True :=
  ⟨.top, fun _ _ _ => trivial⟩

theorem ProposalWrites.top : ProposalWrites fun _ _ => True := by
  constructor <;> intros <;> trivial

theorem PublicationWrites.top : PublicationWrites fun _ _ => True := by
  constructor <;> intros <;> trivial

theorem ServiceWrites.sameRecords : ServiceWrites SameRecords where
  actions t f hf := { (refl t : SameRecords t t) with
    actions := by
      rw [List.map_map]
      exact List.map_congr_left fun action _ => hf action }
  executions t f hf := { (refl t : SameRecords t t) with
    executions := by
      rw [List.map_map]
      exact List.map_congr_left fun execution _ => (hf execution).1
    approvalIds := by
      rw [List.map_map]
      exact List.map_congr_left fun execution _ => (hf execution).2 }
  accounts t f hf := { (refl t : SameRecords t t) with
    accounts := fun account haccount =>
      ⟨f account, List.mem_map_of_mem haccount, congrArg Prod.fst (hf account)⟩ }
  insertAccount t account := { (refl t : SameRecords t t) with
    accounts := fun old hold => ⟨old, List.mem_append_left _ hold, rfl⟩ }
  insertPolicy t policy := .of_eq rfl rfl rfl rfl rfl rfl rfl
  insertReview t review := .of_eq rfl rfl rfl rfl rfl rfl rfl
  insertApproval t approval := { (refl t : SameRecords t t) with
    approvals := List.subset_append_left _ _ }

theorem CommandWrites.sameRecords : CommandWrites SameRecords :=
  ServiceWrites.sameRecords.toCommandWrites

theorem PublicationWrites.sameRecords : PublicationWrites SameRecords where
  same t := refl t
  insertPublication _ _ := .of_eq rfl rfl rfl rfl rfl rfl rfl
  insertReference _ _ := .of_eq rfl rfl rfl rfl rfl rfl rfl
  insertLink _ _ := .of_eq rfl rfl rfl rfl rfl rfl rfl
  experiments _ _ := .of_eq rfl rfl rfl rfl rfl rfl rfl

section Within

variable {now : Time} {r : ExecutionTables → ExecutionTables → Prop}
variable {R : AgentDatabase M ExecutionTables → AgentDatabase M ExecutionTables → Prop}

section Commands

variable (hw : CommandWrites r) (h : DomainRelation now (fun _ => true) r R)
include hw h

theorem within_setActionStatus (actionId : Id) (status : ActionStatus) :
    Within R (setActionStatus actionId status) := by
  refine h.modifyTables _ fun t => hw.actions t _ fun action => ?_
  split <;> rfl

omit hw in
theorem within_probeAndRegisterTelegramConnector (scope : TenantScope) (channelId : Id)
    (targetChatId : String) (readiness : ConnectorReadiness)
    (haccounts : ∀ t f, (∀ account : ConnectorAccount, (f account).identity = account.identity) →
      r t { t with connectorAccounts := t.connectorAccounts.map f })
    (hinsert : ∀ t account,
      r t { t with connectorAccounts := t.connectorAccounts ++ [account] }) :
    Within R (probeAndRegisterTelegramConnector scope channelId targetChatId readiness) := by
  refine h.bind h.tables fun t => h.bind (h.check _) fun channel => h.bind (h.check _) fun _ => ?_
  split
  next existing _ =>
    refine h.modifyTables _ fun t => haccounts t _ fun account => ?_
    split <;> rfl
  next =>
    exact h.bind h.newId fun id => h.modifyTables _ fun t => hinsert t _

theorem within_ensureDefaultTelegramPermissionPolicy (scope : TenantScope) :
    Within R (ensureDefaultTelegramPermissionPolicy scope) := by
  refine h.bind h.tables fun t => ?_
  split
  next => exact h.pure _
  next =>
    refine h.bind h.newId fun id => h.bind ?_ fun _ => h.pure _
    exact h.modifyTables _ fun t => hw.insertPolicy t _

theorem within_materializeReviews (scope : TenantScope) (actionId : Id)
    (reviews : List DeterministicExecutionReview) :
    Within R (materializeReviews scope actionId reviews) := by
  refine h.foldlM (fun _ review => h.bind h.newId fun id => ?_) _
  exact h.modifyTables _ fun t => hw.insertReview t _

theorem within_approveAction (scope : TenantScope) (actionId : Id) (userId : String) :
    Within R (approveAction now scope actionId userId) := by
  refine h.bind h.tables fun t => h.bind (h.check _) fun action => h.bind (h.check _) fun _ => ?_
  refine h.bind h.newId fun id => h.bind (h.modifyTables _ fun t => ?_) fun _ => ?_
  · exact hw.insertApproval t _
  · exact h.bind (within_setActionStatus hw h actionId _) fun _ => h.addOutboxEvent _ _

theorem within_ensureApproval (scope : TenantScope) (action : ActionProposal) (userId : String) :
    Within R (ensureApproval now scope action userId) := by
  refine h.bind h.tables fun t => ?_
  split
  next => exact h.pure _
  next =>
    refine h.bind h.newId fun id => h.bind (h.modifyTables _ fun t => ?_) fun _ => h.pure _
    exact hw.insertApproval t _

end Commands

section Service

variable (hw : HandlerWrites r) (h : DomainRelation now (fun _ => true) r R)
include hw h

theorem within_closeAction (actionId : Id) {status : ActionStatus} (hstatus : status.closed) :
    Within R (setActionStatus actionId status) :=
  h.modifyTables _ fun t => hw.close t actionId status hstatus

theorem within_modifyExecution (executionId : Id) {f : Execution → Execution}
    (hf : ∀ execution, (f execution).identity = execution.identity ∧
      (f execution).approvalId = execution.approvalId) :
    Within R (DomainTxn.modifyTables (M := M) fun t : ExecutionTables =>
      { t with executions := Table.modify Execution.id executionId f t.executions }) := by
  refine h.modifyTables _ fun t => hw.executions t _ fun execution => ?_
  split
  · exact hf execution
  · exact ⟨rfl, rfl⟩

theorem within_succeedExecution (executionId actionId : Id) (externalId : String) :
    Within R (succeedExecution executionId actionId externalId) :=
  h.bind (within_modifyExecution hw h executionId fun _ => ⟨rfl, rfl⟩)
    fun _ => within_closeAction hw h actionId rfl

theorem within_prepareExecution (D : Digest) (context : RuntimeJobContext)
    (payload : JobPayload) : Within R (prepareExecution D context payload) := by
  refine h.bind h.tables fun t => h.bind (h.check _) fun bound => ?_
  obtain ⟨action, execution⟩ := bound
  have hstatus : ∀ status, Within R (setExecutionStatus execution.id status) :=
    fun status => within_modifyExecution hw h execution.id fun _ => ⟨rfl, rfl⟩
  dsimp only
  split
  next => exact h.pure _
  next =>
    refine h.bind (h.check _) fun detail => h.bind (h.check _) fun approval => ?_
    refine h.bind (h.check _) fun account => h.bind (h.check _) fun reason => ?_
    split
    next =>
      refine h.bind (hstatus _) fun _ => ?_
      exact h.bind (within_closeAction hw h action.id rfl) fun _ => h.pure _
    next =>
      split
      next => exact h.bind (within_succeedExecution hw h _ _ _) fun _ => h.pure _
      next =>
        refine h.bind (h.check _) fun command => ?_
        exact h.bind (hstatus _) fun _ => h.pure _

/-- Without a message nothing is published. -/
theorem within_unpublished {outcome : PublishOutcome}
    (hunpublished : ∀ messageId chatId, outcome ≠ .published messageId chatId)
    (scope : TenantScope) (request : PublishRequest) :
    Within R (settleExecution now scope request outcome) := by
  have hstatus : ∀ status, Within R (setExecutionStatus request.executionId status) :=
    fun status => within_modifyExecution hw h request.executionId fun _ => ⟨rfl, rfl⟩
  cases outcome with
  | ambiguous errorClass => exact h.bind (hstatus _) fun _ => h.check _
  | rejected errorClass =>
      refine h.bind (hstatus _) fun _ => ?_
      exact h.bind (within_closeAction hw h _ rfl) fun _ => h.check _
  | published messageId chatId => exact absurd rfl (hunpublished messageId chatId)

section Settle

variable (hp : PublicationWrites r)
include hp

omit hw in
theorem within_insertExternalReference (reference : ExternalReference) :
    Within R (insertExternalReference reference) := by
  refine h.bind h.tables fun t => h.bind (h.check _) fun _ => h.bind (h.check _) fun _ => ?_
  exact h.modifyTables _ fun t => hp.insertReference t reference

omit hw in
theorem within_startExperiment (decisionId : Id) :
    Within R (startExperiment decisionId) := by
  refine h.modifyTables _ fun t => ?_
  split
  · exact hp.experiments t _
  · exact hp.same t

theorem within_settleExecution (scope : TenantScope) (request : PublishRequest)
    (outcome : PublishOutcome) :
    Within R (settleExecution now scope request outcome) := by
  cases outcome with
  | ambiguous errorClass => exact within_unpublished hw h (by simp) scope request
  | rejected errorClass => exact within_unpublished hw h (by simp) scope request
  | published messageId chatId =>
      refine h.bind h.newId fun publicationId => ?_
      refine h.bind (h.modifyTables _ fun t => hp.insertPublication t _) fun _ => ?_
      refine h.bind h.newId fun referenceId => ?_
      refine h.bind (within_insertExternalReference h hp _) fun _ => ?_
      refine h.bind h.newId fun linkId => ?_
      refine h.bind (h.modifyTables _ fun t => hp.insertLink t _) fun _ => ?_
      refine h.bind (within_startExperiment h hp _) fun _ => ?_
      exact h.bind (within_succeedExecution hw h _ _ _) fun _ => h.addOutboxEvent _ _

end Settle

end Service

section Proposals

variable (hp : ProposalWrites r) (h : DomainRelation now (fun _ => true) r R)
include hp h

omit hp in
theorem within_setGlobalExecutionControls
    (hcontrols : ∀ t controls, r t { t with globalExecutionControls := controls })
    (scope : TenantScope) (userId : String)
    (automationPaused executionPaused revokeAll : Option Bool) :
    Within R (setGlobalExecutionControls scope userId automationPaused executionPaused
      revokeAll) := by
  refine h.bind h.tables fun t => h.bind (h.check _) fun _ => ?_
  dsimp only
  split
  next => exact h.modifyTables _ fun t => hcontrols t _
  next => exact h.bind h.newId fun id => h.modifyTables _ fun t => hcontrols t _

theorem within_ensureExecution (scope : TenantScope) (action : ActionProposal)
    (approval : Approval) : Within R (ensureExecution scope action approval) := by
  refine h.bind h.tables fun t => ?_
  split
  next => exact h.pure _
  next =>
    refine h.bind h.newId fun id => h.bind ?_ fun _ => h.pure _
    exact h.modifyTables _ fun t => hp.insertExecution t _

variable (hw : CommandWrites r)
include hw

theorem within_createActionProposal (D : Digest) (scope : TenantScope)
    (productionWorkflowId connectorAccountId : Id) :
    Within R (createActionProposal D now scope productionWorkflowId connectorAccountId) := by
  refine h.bind h.tables fun t => h.bind (h.check _) fun sources => ?_
  obtain ⟨workflow, version, account⟩ := sources
  refine h.bind (h.check _) fun _ => ?_
  dsimp only
  split
  next => exact h.bind (h.check _) fun _ => h.bind (h.check _) fun _ => h.pure _
  next =>
    refine h.bind h.newId fun actionId => h.bind h.newId fun detailId => ?_
    refine h.bind (h.modifyTables _ fun t => hp.insertDetail t _) fun _ => ?_
    refine h.bind (within_materializeReviews hw h _ _ _) fun _ => ?_
    refine h.bind (within_ensureDefaultTelegramPermissionPolicy hw h _) fun policy => ?_
    refine h.bind h.newId fun permissionId => h.bind h.tables fun t => ?_
    exact h.bind (h.modifyTables _ fun t => hp.insertAction t _ _) fun _ => h.pure _

theorem within_approveActionProposal (D : Digest) (scope : TenantScope) (actionId : Id)
    (userId : String)
    (hjob : ∀ actionId executionId,
      Within R (DomainTxn.createJob now (publishJob scope actionId executionId))) :
    Within R (approveActionProposal D now scope actionId userId) := by
  refine h.bind h.tables fun t => h.bind (h.check _) fun action => ?_
  refine h.bind (within_ensureApproval hw h _ _ _) fun approval => ?_
  refine h.bind (within_setActionStatus hw h _ _) fun _ => ?_
  refine h.bind (within_ensureExecution hp h _ _ _) fun execution => ?_
  exact hjob action.id execution.id

/-- Every command stays within a relation that allows its writes, its job and the rest of the
application. -/
theorem within_run (D : Digest) (c : ExecutionCommand)
    (hjob : ∀ scope actionId executionId,
      Within R (DomainTxn.createJob now (publishJob scope actionId executionId)))
    (hforeign : ∀ effect, c = .foreign effect → Within R (effect.perform now)) :
    Within R (c.run D now) := by
  cases c with
  | probeAndRegisterTelegramConnector scope channelId targetChatId readiness =>
      exact within_probeAndRegisterTelegramConnector h scope channelId targetChatId readiness
        hw.accounts hw.insertAccount
  | createActionProposal scope productionWorkflowId connectorAccountId =>
      exact h.bind (within_createActionProposal hp h hw D _ _ _) fun _ => h.pure _
  | approveActionProposal scope actionId userId =>
      exact h.bind (within_approveActionProposal hp h hw D _ _ _ (hjob scope)) fun _ => h.pure _
  | approveAction scope actionId userId => exact within_approveAction hw h scope actionId userId
  | setGlobalExecutionControls scope userId automationPaused executionPaused revokeAll =>
      exact within_setGlobalExecutionControls h hp.controls scope userId _ _ _
  | foreign effect => exact hforeign effect rfl

end Proposals

end Within

/-! ## The service as domain code -/

section Grows

variable (D : Digest) (now : Time)

private theorem lawful :
    DomainRelation (M := M) (T := ExecutionTables) now (fun _ => true) (fun _ _ => True)
      (AgentGrows now) :=
  domainRelation_agentGrows now _ _

theorem growsWithin_performEffect (effect : ForeignEffect) :
    Within (AgentGrows now) (effect.perform (M := M) now) := by
  have h := lawful (M := M) now
  refine h.bind (h.foldlM (fun _ work => growsWithin_perform now _ _ work) _) fun _ => ?_
  exact growsWithin_modifyTables now _

theorem growsWithin_run (c : ExecutionCommand) : Within (AgentGrows now) (c.run (M := M) D now) :=
  within_run .top (lawful now) .top D c
    (fun _ _ _ => growsWithin_createJob now (by simp [publishJob]) (by simp [publishJob]))
    fun effect _ => growsWithin_performEffect now effect

end Grows

/-- What a publish handler that returns has done. -/
theorem telegramExecutionHandler_commit {D : Digest} {context : RuntimeJobContext}
    {payload : JobPayload} {now : Time} {outcome : PublishOutcome} {calls : List PublishCall}
    {db db' : AgentDatabase M ExecutionTables} {progress : TelegramProgress}
    (h : telegramExecutionHandler D context payload now outcome calls db progress = .commit db') :
    (∃ result, prepareExecution D context payload db = .ok (result, db')) ∨
      ∃ request, exec (settleExecution now context.scope request outcome) db = .ok db' := by
  cases progress with
  | preparing =>
      simp only [telegramExecutionHandler] at h
      split at h
      next hprepare =>
        cases h
        exact .inl ⟨none, hprepare⟩
      next => cases h
      next => cases h
  | called request =>
      simp only [telegramExecutionHandler, Stage.ofDomain] at h
      split at h
      next hsettle =>
        cases h
        exact .inr ⟨request, hsettle⟩
      next => cases h

/-- The execution service on the runtime. -/
def executionApp (D : Digest) :
    App (AgentTables M ExecutionTables) (List PublishCall) TelegramProgress ExecutionAnswer
      ExecutionCommand where
  start := .preparing
  handle context payload now answer progress calls db :=
    executionHandler D context payload now answer progress calls db
  recordAttemptFailure job error willRetry now t :=
    if job.jobType.isAgentRun then recordAgentRunFailure job error willRetry now t else t
  command now c := exec (c.run D now)
  handle_grows {context payload now answer progress calls db db'} h := by
    refine AgentGrows.runtimeGrows ?_
    unfold executionHandler at h
    split at h
    next =>
      rcases telegramExecutionHandler_commit h with ⟨result, hprepare⟩ | ⟨request, hsettle⟩
      · exact within_prepareExecution ServiceWrites.top.handler (lawful now) D context payload db _ _
          hprepare
      · exact Ensures.of_exec
          (within_settleExecution ServiceWrites.top.handler (lawful now) .top _ _ _ db) hsettle
    next =>
      simp only [Stage.ofDomain] at h
      split at h
      next hexec =>
        cases h
        refine Ensures.of_exec ?_ hexec
        exact (lawful now).bind ((lawful now).check _)
          (fun effect => growsWithin_performEffect now effect) db
      next => cases h
  command_grows {now c db db'} h :=
    (Ensures.of_exec (growsWithin_run D now c db) h).runtimeGrows

/-- What the publish handler and the foreign handlers stay within, every handler stays within: the
handlers of the runtime leave jobs and domain alone. -/
theorem executionApp_commit_within {D : Digest} {context : RuntimeJobContext}
    {payload : JobPayload} {now : Time} {answer : ExecutionAnswer} {progress : TelegramProgress}
    {calls : List PublishCall} {db db' : AgentDatabase M ExecutionTables}
    {R : AgentDatabase M ExecutionTables → AgentDatabase M ExecutionTables → Prop}
    {r : ExecutionTables → ExecutionTables → Prop}
    (hw : HandlerWrites r) (hp : PublicationWrites r) (hR : DomainRelation now (fun _ => true) r R)
    (hquiet : ∀ {db' : AgentDatabase M ExecutionTables}, db'.toJobTable = db.toJobTable →
      db'.tables = db.tables → R db db')
    (heffect : ∀ effect : ForeignEffect, Within R (effect.perform now))
    (h : (executionApp D).handleJob context payload now answer progress calls db = .commit db') :
    R db db' := by
  have htables : ∀ {result : Except JobError RuntimeTables},
      (∀ t', result = .ok t' → t'.toJobTable = db.toJobTable) →
      Stage.ofTables (W := List PublishCall) (L := TelegramProgress) db result = .commit db' →
      R db db' := by
    intro result hresult hok
    cases result with
    | error e => cases hok
    | ok t' =>
        cases hok
        exact hquiet (hresult t' rfl) rfl
  unfold App.handleJob at h
  split at h
  · exact htables (fun _ => outboxDispatchHandler_jobTable) h
  · exact htables (fun _ => runtimeProbeHandler_jobTable) h
  · simp only [executionApp, executionHandler] at h
    split at h
    next =>
      rcases telegramExecutionHandler_commit h with ⟨result, hprepare⟩ | ⟨request, hsettle⟩
      · exact within_prepareExecution hw hR D context payload db _ _ hprepare
      · exact Ensures.of_exec (within_settleExecution hw hR hp _ _ _ db) hsettle
    next =>
      simp only [Stage.ofDomain] at h
      split at h
      next hexec =>
        cases h
        refine Ensures.of_exec ?_ hexec
        exact hR.bind (hR.check _) (fun effect => heffect effect) db
      next => cases h

end LaunchOS
