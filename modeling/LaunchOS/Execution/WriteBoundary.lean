import LaunchOS.Execution.Lineage

/-!
# The write boundary

`publish_text` is called in one place, after `_preflight_block_reason` has read every row again that
the proposal, its approval and the owner's controls depend on.

The module introduces:

* `WriteGates`: what holds of these rows when the boundary is crossed;
* `PublishPrepared`: the ways in which the handler reaches its call or returns without one;
* `RuntimeState.Executing`: an attempt of a publish job is about to run its handler;
* `publish_within_write_boundary`: every call of every run passes the gates, and a gate that fails
  blocks execution and action;
* a run in which a second attempt meets an execution that has succeeded meanwhile.
-/

namespace LaunchOS

open Txn Transition

variable {M : Type}

/-! ## The gates -/

/-- What holds of the rows of an execution at the moment of the call. -/
structure WriteGates (D : Digest) (action : ActionProposal) (execution : Execution)
    (detail : ActionProposalDetail) (t : ExecutionTables) : Prop where
  permission : ∃ permission, permissionEvaluation action.id t = .ok permission ∧
    permission.outcome = .approvalRequired
  reviews : ∀ review ∈ t.executionControllerReviews, review.actionId = action.id →
    review.verdict = .pass
  /-- None of the three controls of the business is set. -/
  controls : ∀ control ∈ t.globalExecutionControls,
    control.scope.businessId = action.scope.businessId → control.blocks = false
  /-- The approval is active and equal to the action in the six fields it binds. -/
  approval : ∃ approval, executionApproval execution t = .ok approval ∧
    approval.status = .approved ∧ approval.actionId = action.id ∧
    approval.actionType = action.actionType ∧ approval.objectType = action.targetObjectType ∧
    approval.objectId = action.targetObjectId ∧
    approval.objectVersionId = action.targetObjectVersionId ∧
    approval.objectVersion = action.targetObjectVersion
  workflow : ∃ workflow,
    Table.find ProductionWorkflow.id detail.productionWorkflowId t.productionWorkflows =
      some workflow ∧
    workflow.status = .readyForActionProposal ∧
    workflow.finalAssetVersionId = some detail.assetVersionId
  version : ∃ version,
    Table.find AssetVersion.id detail.assetVersionId t.assetVersions = some version ∧
    action.targets version ∧ detail.deliveryPayload.text = some version.body
  payloadHash : D.payloadHash detail.deliveryPayload = detail.deliveryPayloadHash
  account : ∃ account,
    Table.find ConnectorAccount.id detail.connectorAccountId t.connectorAccounts = some account ∧
    account.status = .ready ∧ account.authHealthy ∧ account.writeCapability ∧
    account.targetChatId = detail.targetChatId
  experiment : ∀ experiment, experimentOf detail.decisionId t.toExecutionContext = some experiment →
    experiment.status = .draft

section Preflight

variable {D : Digest} {action : ActionProposal} {execution : Execution}
variable {detail : ActionProposalDetail} {t : ExecutionTables}

/-- The binding holds. -/
theorem assertCurrentActionBinding_eq_ok {t : ExecutionContext} {u : Unit}
    (h : assertCurrentActionBinding D action detail t = .ok u) :
    (∃ workflow,
      Table.find ProductionWorkflow.id detail.productionWorkflowId t.productionWorkflows =
        some workflow ∧
      workflow.status = .readyForActionProposal ∧
      workflow.finalAssetVersionId = some detail.assetVersionId) ∧
    (∃ version,
      Table.find AssetVersion.id detail.assetVersionId t.assetVersions = some version ∧
      action.targets version ∧ detail.deliveryPayload.text = some version.body) ∧
    D.payloadHash detail.deliveryPayload = detail.deliveryPayloadHash := by
  unfold assertCurrentActionBinding at h
  obtain ⟨workflow, hworkflow, h⟩ := Except.bind_eq_ok_iff.mp h
  obtain ⟨version, hversion, h⟩ := Except.bind_eq_ok_iff.mp h
  obtain ⟨_, hstatus, h⟩ := Except.bind_eq_ok_iff.mp h
  obtain ⟨_, hfinal, h⟩ := Except.bind_eq_ok_iff.mp h
  obtain ⟨_, htargets, h⟩ := Except.bind_eq_ok_iff.mp h
  obtain ⟨_, htext, h⟩ := Except.bind_eq_ok_iff.mp h
  exact ⟨⟨workflow, orRaise_eq_ok_iff.mp hworkflow, require_eq_ok_iff.mp hstatus,
      require_eq_ok_iff.mp hfinal⟩,
    ⟨version, orRaise_eq_ok_iff.mp hversion, require_eq_ok_iff.mp htargets,
      require_eq_ok_iff.mp htext⟩,
    require_eq_ok_iff.mp h⟩

/-- A business without a reason to block has none of its controls set. -/
theorem GlobalExecutionControl.blocks_eq_false {control : GlobalExecutionControl}
    (h : control.blockReason = none) : control.blocks = false := by
  unfold GlobalExecutionControl.blockReason at h
  split at h
  next => cases h
  next hrevoke =>
    split at h
    next => cases h
    next hexecution =>
      split at h
      next => cases h
      next hautomation =>
        simp only [Bool.not_eq_true] at hrevoke hexecution hautomation
        rw [GlobalExecutionControl.blocks, hrevoke, hexecution, hautomation]
        rfl

/-- The lookup of the controls misses none. -/
theorem blocks_eq_false_of_globalControl
    (hcontrols : Table.KeysNodup (fun control => control.scope.businessId)
      t.globalExecutionControls) {businessId : String}
    (h : (globalControl businessId t).bind GlobalExecutionControl.blockReason = none) :
    ∀ control ∈ t.globalExecutionControls, control.scope.businessId = businessId →
      control.blocks = false := by
  intro control hcontrol hbusiness
  have hfind : globalControl businessId t = some control :=
    hcontrols.find_eq_some_iff.mpr ⟨hcontrol, hbusiness⟩
  rw [hfind] at h
  exact GlobalExecutionControl.blocks_eq_false h

theorem Approval.matchesAction_iff {approval : Approval} :
    approval.matchesAction action ↔ approval.actionId = action.id ∧
      approval.actionType = action.actionType ∧ approval.objectType = action.targetObjectType ∧
      approval.objectId = action.targetObjectId ∧
      approval.objectVersionId = action.targetObjectVersionId ∧
      approval.objectVersion = action.targetObjectVersion := by
  simp [Approval.matchesAction, and_assoc]

/-- A preflight without a reason to block has seen every gate. -/
theorem writeGates_of_preflight
    (hcontrols : Table.KeysNodup (fun control => control.scope.businessId)
      t.globalExecutionControls)
    {approval : Approval} (happroval : executionApproval execution t = .ok approval)
    {account : ConnectorAccount}
    (haccount : Table.find ConnectorAccount.id detail.connectorAccountId t.connectorAccounts =
      some account)
    (h : preflightBlockReason D action detail approval account t = .ok none) :
    WriteGates D action execution detail t := by
  unfold preflightBlockReason at h
  obtain ⟨permission, hpermission, h⟩ := Except.bind_eq_ok_iff.mp h
  rw [Except.pure_eq_ok_iff] at h
  split at h
  next => cases h
  next houtcome =>
  split at h
  next => cases h
  next hreviews =>
  split at h
  next => cases h
  next hreason =>
  split at h
  next => cases h
  next hstatus =>
  split at h
  next => cases h
  next hmatches =>
  split at h
  next => cases h
  next hbinding =>
  split at h
  next => cases h
  next hready =>
  split at h
  next => cases h
  next htarget =>
  split at h
  next => cases h
  next hexperiment =>
  obtain ⟨hworkflow, hversion, hhash⟩ :
      (∃ workflow, _) ∧ (∃ version, _) ∧ _ := by
    cases hassert : assertCurrentActionBinding D action detail t.toExecutionContext with
    | error e =>
        rw [hassert] at hbinding
        exact absurd rfl hbinding
    | ok _ => exact assertCurrentActionBinding_eq_ok hassert
  have hmatch := Approval.matchesAction_iff.mp (by simpa using hmatches)
  obtain ⟨hstatusReady, hauth, hwrite⟩ :
      account.status = .ready ∧ account.authHealthy ∧ account.writeCapability := by
    simpa using hready
  constructor
  · exact ⟨permission, hpermission, by simpa using houtcome⟩
  · simpa using hreviews
  · exact blocks_eq_false_of_globalControl hcontrols hreason
  · exact ⟨approval, happroval, by simpa using hstatus, hmatch⟩
  · exact hworkflow
  · exact hversion
  · exact hhash
  · exact ⟨account, haccount, hstatusReady, hauth, hwrite, by simpa using htarget⟩
  · intro experiment hfind
    rw [hfind] at hexperiment
    simpa using hexperiment

end Preflight

/-! ## The handler up to its call -/

/-- The execution and its action are `BLOCKED`. -/
def ExecutionTables.block (executionId actionId : Id) (t : ExecutionTables) : ExecutionTables :=
  { t with
    executions := Table.modify Execution.id executionId
      (fun execution => { execution with status := .blocked }) t.executions
    actions := Table.modify ActionProposal.id actionId
      (fun action => { action with status := .blocked }) t.actions }

/-- How the handler reaches its call, or returns without one, and what it has written then. -/
inductive PublishPrepared (D : Digest) (action : ActionProposal) (execution : Execution)
    (detail : ActionProposalDetail) (t : ExecutionTables) :
    Option PublishRequest → ExecutionTables → Prop
  /-- The execution is over. -/
  | settled (hsettled : execution.settled) : PublishPrepared D action execution detail t none t
  /-- A gate fails. -/
  | blocked (hsettled : execution.settled = false) :
      PublishPrepared D action execution detail t none (t.block execution.id action.id)
  /-- The message is there already. -/
  | recorded {t' : ExecutionTables} (hgates : WriteGates D action execution detail t) :
      PublishPrepared D action execution detail t none t'
  /-- The provider is called. -/
  | called {request : PublishRequest} {t' : ExecutionTables}
      (hsettled : execution.settled = false) (hgates : WriteGates D action execution detail t)
      (hid : request.executionId = execution.id)
      (hcommand : publishCommand detail = .ok request.command) :
      PublishPrepared D action execution detail t (some request) t'

section Prepare

variable {D : Digest} {context : RuntimeJobContext} {payload : JobPayload}
variable {action : ActionProposal} {execution : Execution} {detail : ActionProposalDetail}
variable {t : ExecutionTables} {db : AgentDatabase M ExecutionTables}

/-- The rows of a publish job are those of its payload. -/
theorem boundExecution_eq_ok (h : boundExecution context payload t = .ok (action, execution)) :
    payload = .telegramPublish action.id execution.id ∧
      Table.find ActionProposal.id action.id t.actions = some action ∧
      Table.find Execution.id execution.id t.executions = some execution := by
  cases payload with
  | telegramPublish actionId executionId =>
      obtain ⟨foundAction, hfoundAction, h⟩ := Except.bind_eq_ok_iff.mp h
      obtain ⟨foundExecution, hfoundExecution, h⟩ := Except.bind_eq_ok_iff.mp h
      obtain ⟨_, -, h⟩ := Except.bind_eq_ok_iff.mp h
      obtain ⟨_, -, h⟩ := Except.bind_eq_ok_iff.mp h
      obtain ⟨_, -, h⟩ := Except.bind_eq_ok_iff.mp h
      cases h
      have haction := orRaise_eq_ok_iff.mp hfoundAction
      have hexecution := orRaise_eq_ok_iff.mp hfoundExecution
      obtain rfl := Table.key_of_find haction
      obtain rfl := Table.key_of_find hexecution
      exact ⟨rfl, haction, hexecution⟩
  | _ => cases h

/-- A row with the key is found. -/
theorem orRaise_find_isOk {ρ ι : Type} [DecidableEq ι] {key : ρ → ι} {i : ι} {rows : List ρ}
    (h : ∃ row ∈ rows, key row = i) (error : JobError) :
    ∃ row, Table.find key i rows = some row ∧ orRaise error (Table.find key i rows) = .ok row := by
  cases hfind : Table.find key i rows with
  | none =>
      obtain ⟨row, hrow, hkey⟩ := h
      exact absurd hkey (Table.find_eq_none_iff.mp hfind row hrow)
  | some row => exact ⟨row, rfl, rfl⟩

theorem Lineage.actionDetail (h : Lineage t) (haction : action ∈ t.actions) :
    ∃ detail, LaunchOS.actionDetail action.id t = .ok detail := by
  obtain ⟨detail, -, hok⟩ := orRaise_find_isOk (h.details action haction)
    (.permanentJobError "ActionProposal detail not found")
  exact ⟨detail, hok⟩

theorem Lineage.executionApproval (h : Lineage t) (hexecution : execution ∈ t.executions) :
    ∃ approval, LaunchOS.executionApproval execution t = .ok approval := by
  obtain ⟨approval, happroval, hid⟩ := h.approvals execution hexecution
  have hrow : ∃ row ∈ t.approvals, row.id = approval.id := ⟨approval, happroval, rfl⟩
  obtain ⟨row, -, hok⟩ := orRaise_find_isOk hrow
    (.permanentJobError "Execution approval not found")
  refine ⟨row, ?_⟩
  rw [LaunchOS.executionApproval, hid]
  exact hok

/-- The preflight comes to a verdict. -/
theorem Lineage.preflight (h : Lineage t) (haction : action ∈ t.actions) (D : Digest)
    (detail : ActionProposalDetail) (approval : Approval) (account : ConnectorAccount) :
    ∃ reason, preflightBlockReason D action detail approval account t = .ok reason := by
  obtain ⟨permission, -, hok⟩ := orRaise_find_isOk (h.permissions action haction)
    (.permanentJobError "Permission evaluation not found")
  rw [preflightBlockReason, permissionEvaluation, hok]
  exact ⟨_, rfl⟩

/-- The text of a governed delivery is there. -/
theorem WriteGates.publishCommand (h : WriteGates D action execution detail t) :
    ∃ command, LaunchOS.publishCommand detail = .ok command := by
  obtain ⟨version, -, -, htext⟩ := h.version
  rw [LaunchOS.publishCommand, htext]
  exact ⟨_, rfl⟩

/-- The handler of a publish job never fails before its call. -/
theorem prepareExecution_prepared (hlineage : Lineage db.tables.domain)
    (hbound : boundExecution context payload db.tables.domain = .ok (action, execution))
    (hdetail : actionDetail action.id db.tables.domain = .ok detail) :
    Achieves (prepareExecution D context payload) (fun result db' =>
      PublishPrepared D action execution detail db.tables.domain result db'.tables.domain) db := by
  obtain ⟨-, hfindAction, hfindExecution⟩ := boundExecution_eq_ok hbound
  have haction := Table.mem_of_find hfindAction
  have hexecution := Table.mem_of_find hfindExecution
  unfold prepareExecution
  rw [achieves_bind, achieves_tables, achieves_bind, achieves_check]
  refine ⟨(action, execution), hbound, ?_⟩
  dsimp only
  split
  next hsettled =>
    rw [achieves_pure]
    exact .settled hsettled
  next hsettled =>
    have hopen : execution.settled = false := Bool.not_eq_true _ ▸ hsettled
    obtain ⟨approval, happroval⟩ := hlineage.executionApproval hexecution
    obtain ⟨row, hrow, hid⟩ := hlineage.accounts detail
      (Table.mem_of_find (orRaise_eq_ok_iff.mp hdetail))
    obtain ⟨account, haccount, haccountOk⟩ := orRaise_find_isOk ⟨row, hrow, hid⟩
      (.permanentJobError "ConnectorAccount not found during execution")
    obtain ⟨reason, hreason⟩ := hlineage.preflight haction D detail approval account
    rw [achieves_bind, achieves_check]
    refine ⟨detail, hdetail, ?_⟩
    rw [achieves_bind, achieves_check]
    refine ⟨approval, happroval, ?_⟩
    rw [achieves_bind, achieves_check]
    refine ⟨account, haccountOk, ?_⟩
    rw [achieves_bind, achieves_check]
    refine ⟨reason, hreason, ?_⟩
    cases reason with
    | some reason =>
        rw [setExecutionStatus, setActionStatus, achieves_bind, achieves_modifyTables,
          achieves_bind, achieves_modifyTables, achieves_pure]
        exact .blocked hopen
    | none =>
        have hgates := writeGates_of_preflight hlineage.controls happroval haccount hreason
        dsimp only
        split
        next reference _ =>
          rw [succeedExecution, setActionStatus, achieves_bind, achieves_bind,
            achieves_modifyTables, achieves_modifyTables, achieves_pure]
          exact .recorded hgates
        next =>
          obtain ⟨command, hcommand⟩ := hgates.publishCommand
          rw [achieves_bind, achieves_check]
          refine ⟨command, hcommand, ?_⟩
          rw [setExecutionStatus, achieves_bind, achieves_modifyTables, achieves_pure]
          exact .called hopen hgates rfl hcommand

end Prepare

/-! ## Runs -/

/-- An attempt of a publish job is about to run its handler on these rows. -/
structure RuntimeState.Executing (s : ExecutionState M) (a : AttemptId)
    (context : RuntimeJobContext) (payload : JobPayload) (action : ActionProposal)
    (execution : Execution) (detail : ActionProposalDetail) : Prop where
  attempt : ∃ worker, s.attempts a = some ⟨worker, .running context payload .preparing⟩
  jobType : context.jobType = .executionTelegramPublish
  bound : boundExecution context payload s.db.tables.domain = .ok (action, execution)
  detail : actionDetail action.id s.db.tables.domain = .ok detail

section Boundary

variable {D : Digest} {s : ExecutionState M} {a : AttemptId} {worker : Worker}
variable {context : RuntimeJobContext} {payload : JobPayload} {action : ActionProposal}
variable {execution : Execution} {detail : ActionProposalDetail}

/-- A publish job finds the rows of its execution. -/
theorem executing_of_preparing (hwf : s.WellFormed) (hledger : PublishLedger s.db)
    (hlineage : Lineage s.db.tables.domain)
    (ha : s.attempts a = some ⟨worker, .running context payload .preparing⟩)
    (htype : context.jobType = .executionTelegramPublish) :
    ∃ action execution detail, s.Executing a context payload action execution detail := by
  obtain ⟨⟨job, hjob, -, -, hscope, hjobType, rfl⟩, -⟩ :=
    hwf.serves a worker context payload .preparing ha
  obtain ⟨-, execution, hexecution, hpublishes⟩ :=
    hledger.jobs job hjob (hjobType.symm.trans htype)
  obtain ⟨action, haction, hid, hactionScope⟩ := hledger.bound execution hexecution
  obtain ⟨detail, hdetail⟩ := hlineage.actionDetail haction
  have hfindAction := hledger.actions.find_eq_some_iff.mpr ⟨haction, hid⟩
  have hfindExecution := hledger.executions.find_eq_some_iff.mpr ⟨hexecution, rfl⟩
  have hmatches : context.scope = execution.scope := hscope.trans hpublishes.scope
  refine ⟨action, execution, detail, ⟨worker, ha⟩, htype, ?_, hdetail⟩
  rw [hpublishes.payload, boundExecution, hfindAction, hfindExecution]
  simp [orRaise, TenantScope.assertMatches, hactionScope, hmatches, require, hid, bind, Except.bind,
    pure, Except.pure]

/-- What the handler of a publish job does. -/
theorem RuntimeState.Executing.handleJob (h : s.Executing a context payload action execution detail)
    (hlineage : Lineage s.db.tables.domain) (answer : ExecutionAnswer) :
    ∃ result db t, db.tables.domain = t ∧
      PublishPrepared D action execution detail s.db.tables.domain result t ∧
      (executionApp D).handleJob context payload s.now answer .preparing s.world s.db =
        match result with
        | none => .commit db
        | some request => .next (.called request)
            (s.world ++ [⟨context.jobId, request.executionId, request.command⟩]) := by
  obtain ⟨result, db, hok, hprepared⟩ := prepareExecution_prepared (D := D) hlineage h.bound h.detail
  refine ⟨result, db, _, rfl, hprepared, ?_⟩
  unfold App.handleJob
  rw [h.jobType]
  simp only [executionApp, executionHandler, h.jobType, if_true, telegramExecutionHandler, hok]
  cases result <;> rfl

/-- A call, and what it sends. -/
structure PublishCall.Governed (call : PublishCall) (D : Digest) (action : ActionProposal)
    (execution : Execution) (detail : ActionProposalDetail) (t : ExecutionTables) : Prop where
  executionId : call.executionId = execution.id
  settled : execution.settled = false
  gates : WriteGates D action execution detail t
  /-- The text is the body of the bound version. -/
  text : ∃ version, Table.find AssetVersion.id detail.assetVersionId t.assetVersions =
    some version ∧ call.command.text = version.body
  chat : call.command.chatId = detail.targetChatId

theorem WriteGates.governed {t : ExecutionTables} (h : WriteGates D action execution detail t)
    (hsettled : execution.settled = false) {command : TelegramPublishTextCommand}
    (hcommand : LaunchOS.publishCommand detail = .ok command) (jobId : Id) :
    PublishCall.Governed ⟨jobId, execution.id, command⟩ D action execution detail t := by
  obtain ⟨version, hversion, -, htext⟩ := h.version
  rw [LaunchOS.publishCommand, htext] at hcommand
  cases hcommand
  exact ⟨rfl, hsettled, h, ⟨version, hversion, rfl⟩, rfl⟩

/-- The invariant under which the handler finds its rows. -/
structure RuntimeState.Orderly (s : ExecutionState M) : Prop where
  wellFormed : s.WellFormed
  ledger : PublishLedger s.db
  lineage : Lineage s.db.tables.domain

theorem orderly_step (D : Digest) (h : s.Orderly)
    (action : Action ExecutionAnswer ExecutionCommand) :
    ((executionApp D).step action s).Orderly :=
  ⟨h.wellFormed.step _ action, publishLedger_step D h.wellFormed h.ledger action,
    h.lineage.step D action⟩

/-- A step makes no call, or one that passes the gates. -/
theorem RuntimeState.Orderly.call_governed (h : s.Orderly)
    (step : Action ExecutionAnswer ExecutionCommand) :
    ((executionApp D).step step s).world = s.world ∨
      ∃ a context payload action execution detail call,
        s.Executing a context payload action execution detail ∧
        call.Governed D action execution detail s.db.tables.domain ∧
        ((executionApp D).step step s).world = s.world ++ [call] := by
  rcases calm_or_call D h.wellFormed step with hcalm |
    ⟨a, worker, context, payload, progress, answer, progress', calls, ha, hstage, hstep⟩
  · exact .inl hcalm.world
  · obtain ⟨htype, rfl, -⟩ := executionApp_next hstage
    obtain ⟨action, execution, detail, hexecuting⟩ :=
      executing_of_preparing h.wellFormed h.ledger h.lineage ha htype
    obtain ⟨result, db, t, -, hprepared, hhandle⟩ :=
      hexecuting.handleJob (D := D) h.lineage answer
    rw [hstage] at hhandle
    cases hprepared with
    | settled | blocked | recorded => cases hhandle
    | called hsettled hgates hid hcommand =>
        obtain ⟨-, rfl⟩ := Stage.next.inj hhandle
        refine .inr ⟨a, context, payload, action, execution, detail, _, hexecuting, ?_,
          by rw [hstep]; rfl⟩
        rw [hid]
        exact hgates.governed hsettled hcommand context.jobId

/-- A gate that fails blocks execution and action. -/
theorem RuntimeState.Orderly.blocked (h : s.Orderly)
    (hexecuting : s.Executing a context payload action execution detail)
    (hsettled : execution.settled = false)
    (hgate : ¬ WriteGates D action execution detail s.db.tables.domain)
    (answer : ExecutionAnswer) :
    ((executionApp D).step (.proceed a answer) s).world = s.world ∧
      ((executionApp D).step (.proceed a answer) s).db.tables.domain =
        s.db.tables.domain.block execution.id action.id := by
  obtain ⟨worker, ha⟩ := hexecuting.attempt
  obtain ⟨result, db, t, ht, hprepared, hhandle⟩ :=
    hexecuting.handleJob (D := D) h.lineage answer
  cases hprepared with
  | settled hover =>
      rw [hsettled] at hover
      cases hover
  | recorded hgates => exact absurd hgates hgate
  | called _ hgates => exact absurd hgates hgate
  | blocked =>
      simp only [App.step, ha, hhandle, RuntimeState.proceedAttempt]
      exact ⟨rfl, ht⟩

/-- The rows of the execution and its action say `BLOCKED`. -/
theorem find_block {t : ExecutionTables}
    (hbound : boundExecution context payload t = .ok (action, execution)) :
    (Table.find Execution.id execution.id (t.block execution.id action.id).executions).map
        Execution.status = some .blocked ∧
      (Table.find ActionProposal.id action.id (t.block execution.id action.id).actions).map
        ActionProposal.status = some .blocked := by
  obtain ⟨-, haction, hexecution⟩ := boundExecution_eq_ok hbound
  constructor
  · rw [ExecutionTables.block, Table.find_modify_self, hexecution]
    · rfl
    · exact fun _ hid => hid
  · rw [ExecutionTables.block, Table.find_modify_self, haction]
    · rfl
    · exact fun _ hid => hid

end Boundary

/-- A state with nothing of the runtime and nothing of the service in it. -/
structure RuntimeState.ServiceInitial (s : ExecutionState M) : Prop
    extends RuntimeState.ExecutionInitial s where
  details : s.db.tables.domain.actionProposalDetails = []
  controls : s.db.tables.domain.globalExecutionControls = []

theorem RuntimeState.ServiceInitial.orderly {s : ExecutionState M} (h : s.ServiceInitial) :
    s.Orderly := by
  refine ⟨h.wellFormed, h.toExecutionInitial.publishedOnce.ledger, ⟨?_, ?_, ?_, ?_, ?_⟩⟩ <;>
    simp [h.actions, h.executions, h.details, h.controls, Table.keysNodup_nil]

/-- In every run, `publish_text` is called only by a publish job whose rows pass every gate at that
moment, with the text of the bound asset version. If a gate fails and the execution is not over, the
handler does not call the provider and blocks execution and action. -/
theorem publish_within_write_boundary (D : Digest) {s : ExecutionState M} (hs : s.ServiceInitial)
    (actions : List (Action ExecutionAnswer ExecutionCommand)) :
    (∀ action,
      ((executionApp D).step action (run (executionApp D).step s actions)).world =
        (run (executionApp D).step s actions).world ∨
      ∃ a context payload proposal execution detail call,
        (run (executionApp D).step s actions).Executing a context payload proposal execution
          detail ∧
        call.Governed D proposal execution detail
          (run (executionApp D).step s actions).db.tables.domain ∧
        ((executionApp D).step action (run (executionApp D).step s actions)).world =
          (run (executionApp D).step s actions).world ++ [call]) ∧
    ∀ a worker context payload,
      (run (executionApp D).step s actions).attempts a =
        some ⟨worker, .running context payload .preparing⟩ →
      context.jobType = .executionTelegramPublish →
      ∃ proposal execution detail,
        (run (executionApp D).step s actions).Executing a context payload proposal execution
          detail ∧
        (execution.settled = false →
          ¬ WriteGates D proposal execution detail
            (run (executionApp D).step s actions).db.tables.domain →
          ∀ answer,
            let s' := (executionApp D).step (.proceed a answer)
              (run (executionApp D).step s actions)
            s'.world = (run (executionApp D).step s actions).world ∧
            (Table.find Execution.id execution.id s'.db.tables.domain.executions).map
              Execution.status = some .blocked ∧
            (Table.find ActionProposal.id proposal.id s'.db.tables.domain.actions).map
              ActionProposal.status = some .blocked) := by
  have horderly : (run (executionApp D).step s actions).Orderly :=
    invariant_run_of_step _ (I := RuntimeState.Orderly)
      (fun _ action h => orderly_step D h action) hs.orderly actions
  refine ⟨fun action => horderly.call_governed action, fun a worker context payload ha htype => ?_⟩
  obtain ⟨proposal, execution, detail, hexecuting⟩ :=
    executing_of_preparing horderly.wellFormed horderly.ledger horderly.lineage ha htype
  refine ⟨proposal, execution, detail, hexecuting, fun hsettled hgate answer => ?_⟩
  obtain ⟨hworld, hblock⟩ := horderly.blocked hexecuting hsettled hgate answer
  dsimp only
  rw [hblock]
  exact ⟨hworld, find_block hexecuting.bound⟩

/-! ### A call, and a handler that comes too late -/

theorem executionStart_serviceInitial : executionStart.ServiceInitial where
  toExecutionInitial := executionStart_initial
  details := rfl
  controls := rfl

/-- Up to where the handler is about to call. -/
def approvedPost : List (Action ExecutionAnswer ExecutionCommand) :=
  publishedPost.take 6

theorem approvedPost_governed :
    ∃ action execution detail call, PublishCall.Governed call plainDigest action execution detail
      (run (executionApp plainDigest).step executionStart approvedPost).db.tables.domain := by
  rcases (publish_within_write_boundary plainDigest executionStart_serviceInitial
    approvedPost).1 (.proceed ⟨12, 1⟩ {}) with hsame | ⟨_, _, _, action, execution, detail, call,
      -, hgoverned, -⟩
  · exact absurd hsame (by decide)
  · exact ⟨action, execution, detail, call, hgoverned⟩

/-- The lease of the first attempt expires, a second worker enters its handler, the first one
publishes, and the owner pauses executions. -/
def overtakenPost : List (Action ExecutionAnswer ExecutionCommand) :=
  publishedPost ++
    [.tick 60000000, .claim applicationWorker 12, .start ⟨12, 2⟩,
      .proceed ⟨12, 1⟩ { outcome := .published "7" "@channel" },
      .command (.setGlobalExecutionControls demoScope "owner" none (some true) none)]

/-- The second handler meets a gate that fails, and leaves the execution `SUCCEEDED`. -/
theorem settled_execution_not_blocked :
    let s := run (executionApp plainDigest).step executionStart overtakenPost
    let s' := (executionApp plainDigest).step (.proceed ⟨12, 2⟩ {}) s
    (∃ worker context, s.attempts ⟨12, 2⟩ =
      some ⟨worker, .running context (.telegramPublish 1 11) .preparing⟩) ∧
    (∀ action ∈ s.db.tables.domain.actions, ∀ execution detail,
      ¬ WriteGates plainDigest action execution detail s.db.tables.domain) ∧
    s'.db.tables.domain.executions.map Execution.status = [.succeeded] ∧
    s'.db.tables.domain.actions.map ActionProposal.status = [.executed] := by
  refine ⟨⟨_, _, rfl⟩, fun action haction execution detail hgates => ?_, by decide, by decide⟩
  have hpaused : ∀ action ∈ (run (executionApp plainDigest).step executionStart
      overtakenPost).db.tables.domain.actions,
      ∃ control ∈ (run (executionApp plainDigest).step executionStart
        overtakenPost).db.tables.domain.globalExecutionControls,
        control.scope.businessId = action.scope.businessId ∧ control.blocks = true := by
    decide
  obtain ⟨control, hcontrol, hbusiness, hblocks⟩ := hpaused action haction
  rw [hgates.controls control hcontrol hbusiness] at hblocks
  cases hblocks

end LaunchOS
