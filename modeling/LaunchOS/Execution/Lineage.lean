import LaunchOS.AiRuntime.DomainSteps
import LaunchOS.Execution.AtMostOnce

/-!
# The rows behind an execution

A proposal is written with its detail and its permission, for an account that is there, and an
execution with its approval. None of these rows is ever deleted, so the publish handler finds them
all.

The module introduces:

* `Lineage`: the rows an execution depends on are there, and a business has one row of controls;
* `lineage_step`: every step keeps it, from `App.domain_step`.
-/

namespace LaunchOS

open Txn Transition

variable {M : Type}

/-- Every row that an execution depends on is there. -/
structure Lineage (t : ExecutionTables) : Prop where
  details : ∀ action ∈ t.actions, ∃ detail ∈ t.actionProposalDetails, detail.actionId = action.id
  permissions : ∀ action ∈ t.actions, ∃ permission ∈ t.permissionEvaluations,
    permission.actionId = action.id
  accounts : ∀ detail ∈ t.actionProposalDetails, ∃ account ∈ t.connectorAccounts,
    account.id = detail.connectorAccountId
  approvals : ∀ execution ∈ t.executions, ∃ approval ∈ t.approvals,
    execution.approvalId = some approval.id
  controls : Table.KeysNodup (fun control => control.scope.businessId) t.globalExecutionControls

namespace Lineage

variable {t t' : ExecutionTables}

/-! ## What keeps it -/

theorem same (h : Lineage t) (hsame : SameRecords t t') : Lineage t' := by
  constructor
  · intro action haction
    obtain ⟨old, hold, hid, -⟩ := hsame.toSameBindings.symm.mem_actions haction
    rw [hsame.details, ← hid]
    exact h.details old hold
  · intro action haction
    obtain ⟨old, hold, hid, -⟩ := hsame.toSameBindings.symm.mem_actions haction
    rw [hsame.permissions, ← hid]
    exact h.permissions old hold
  · intro detail hdetail
    rw [hsame.details] at hdetail
    obtain ⟨account, haccount, hid⟩ := h.accounts detail hdetail
    obtain ⟨account', haccount', hid'⟩ := hsame.accounts account haccount
    exact ⟨account', haccount', hid'.trans hid⟩
  · intro execution hexecution
    have hmem : execution.approvalId ∈ t'.executions.map Execution.approvalId :=
      List.mem_map_of_mem hexecution
    rw [hsame.approvalIds] at hmem
    obtain ⟨old, hold, heq⟩ := List.mem_map.mp hmem
    obtain ⟨approval, happroval, hid⟩ := h.approvals old hold
    exact ⟨approval, hsame.approvals happroval, heq.symm.trans hid⟩
  · rw [hsame.controls]
    exact h.controls

/-- The detail of a proposal comes first. -/
theorem insertDetail (h : Lineage t) {detail : ActionProposalDetail}
    (haccount : ∃ account ∈ t.connectorAccounts, account.id = detail.connectorAccountId) :
    Lineage { t with actionProposalDetails := t.actionProposalDetails ++ [detail] } := by
  refine { h with details := fun action haction => ?_, accounts := fun row hrow => ?_ }
  · obtain ⟨row, hrow, hid⟩ := h.details action haction
    exact ⟨row, List.mem_append_left _ hrow, hid⟩
  · rcases List.mem_append.mp hrow with hold | hnew
    · exact h.accounts row hold
    · rw [List.mem_singleton.mp hnew]
      exact haccount

/-- The action follows, with its permission. -/
theorem insertAction (h : Lineage t) {action : ActionProposal} {permission : PermissionEvaluation}
    (hdetail : ∃ detail ∈ t.actionProposalDetails, detail.actionId = action.id)
    (hpermission : permission.actionId = action.id) :
    Lineage { t with
      actions := t.actions ++ [action]
      permissionEvaluations := t.permissionEvaluations ++ [permission] } := by
  refine { h with details := fun row hrow => ?_, permissions := fun row hrow => ?_ }
  · rcases List.mem_append.mp hrow with hold | hnew
    · exact h.details row hold
    · rw [List.mem_singleton.mp hnew]
      exact hdetail
  · rcases List.mem_append.mp hrow with hold | hnew
    · obtain ⟨old, hmem, hid⟩ := h.permissions row hold
      exact ⟨old, List.mem_append_left _ hmem, hid⟩
    · rw [List.mem_singleton.mp hnew]
      exact ⟨permission, List.mem_append_right _ (List.mem_singleton_self _), hpermission⟩

theorem insertExecution (h : Lineage t) {execution : Execution}
    (happroval : ∃ approval ∈ t.approvals, execution.approvalId = some approval.id) :
    Lineage { t with executions := t.executions ++ [execution] } := by
  refine { h with approvals := fun row hrow => ?_ }
  rcases List.mem_append.mp hrow with hold | hnew
  · exact h.approvals row hold
  · rw [List.mem_singleton.mp hnew]
    exact happroval

/-! ## Commands -/

section Commands

variable {now : Time} {db : AgentDatabase M ExecutionTables}

theorem mem_proposalSources {scope : TenantScope} {productionWorkflowId connectorAccountId : Id}
    {workflow : ProductionWorkflow} {version : AssetVersion} {account : ConnectorAccount}
    (h : proposalSources scope productionWorkflowId connectorAccountId t =
      .ok (workflow, version, account)) : account ∈ t.connectorAccounts := by
  unfold proposalSources at h
  obtain ⟨_, -, h⟩ := Except.bind_eq_ok_iff.mp h
  obtain ⟨_, -, h⟩ := Except.bind_eq_ok_iff.mp h
  obtain ⟨_, -, h⟩ := Except.bind_eq_ok_iff.mp h
  obtain ⟨_, -, h⟩ := Except.bind_eq_ok_iff.mp h
  obtain ⟨_, -, h⟩ := Except.bind_eq_ok_iff.mp h
  obtain ⟨_, -, h⟩ := Except.bind_eq_ok_iff.mp h
  obtain ⟨found, hfound, h⟩ := Except.bind_eq_ok_iff.mp h
  obtain ⟨_, -, h⟩ := Except.bind_eq_ok_iff.mp h
  cases h
  exact Table.mem_of_find (orRaise_eq_ok_iff.mp hfound)

theorem createActionProposal (D : Digest) (h : Lineage db.tables.domain) (scope : TenantScope)
    (productionWorkflowId connectorAccountId : Id) :
    Ensures (createActionProposal D now scope productionWorkflowId connectorAccountId)
      (fun _ db' => Lineage db'.tables.domain) db := by
  have hf := domainRelation_frames (M := M) (r := SameRecords) now fun _ => true
  unfold LaunchOS.createActionProposal
  rw [ensures_bind, ensures_tables, ensures_bind, ensures_check]
  rintro ⟨workflow, version, account⟩ hsources
  rw [ensures_bind, ensures_check]
  intro _ _
  dsimp only
  split
  next existing _ =>
    refine Ensures.mono ?_ fun _ db' hdb' => h.same (Frames.domain hdb')
    exact hf.bind (hf.check _) (fun _ => hf.bind (hf.check _) fun _ => hf.pure existing) db
  next =>
    rw [ensures_bind, ensures_newId, ensures_bind, ensures_newId, ensures_bind,
      ensures_modifyTables]
    have hdetailed : ∀ detail : ActionProposalDetail, account.id = detail.connectorAccountId →
        Lineage { db.tables.domain with
          actionProposalDetails := db.tables.domain.actionProposalDetails ++ [detail] } :=
      fun detail hid => h.insertDetail ⟨account, mem_proposalSources hsources, hid⟩
    refine (within_materializeReviews .sameRecords hf _ _ _).ensures_bind fun _ db₁ h₁ => ?_
    refine (within_ensureDefaultTelegramPermissionPolicy .sameRecords hf _).ensures_bind
      fun policy db₂ h₂ => ?_
    refine hf.newId.ensures_bind fun permissionId db₃ h₃ => ?_
    rw [ensures_bind, ensures_tables, ensures_bind, ensures_modifyTables, ensures_pure]
    have hsame := (h₁.trans (h₂.trans h₃)).domain
    refine ((hdetailed _ rfl).same hsame).insertAction ?_ rfl
    -- the detail is the row that was inserted above
    rw [hsame.details]
    exact ⟨_, List.mem_append_right _ (List.mem_singleton_self _), rfl⟩

/-- The approval of a proposal is there afterwards. -/
theorem ensureApproval (h : Lineage db.tables.domain) (scope : TenantScope)
    (action : ActionProposal) (userId : String) :
    Ensures (ensureApproval now scope action userId) (fun approval db' =>
      Lineage db'.tables.domain ∧ approval ∈ db'.tables.domain.approvals) db := by
  have hf := domainRelation_frames (M := M) (r := SameRecords) now fun _ => true
  refine Ensures.and ?_ ?_
  · exact Ensures.mono (within_ensureApproval .sameRecords hf scope action userId db)
      fun _ db' hdb' => h.same (Frames.domain hdb')
  · unfold LaunchOS.ensureApproval
    rw [ensures_bind, ensures_tables]
    split
    next existing hfind =>
      rw [ensures_pure]
      exact List.mem_of_find?_eq_some hfind
    next =>
      rw [ensures_bind, ensures_newId, ensures_bind, ensures_modifyTables, ensures_pure]
      exact List.mem_append_right _ (List.mem_singleton_self _)

theorem ensureExecution (h : Lineage db.tables.domain) (scope : TenantScope)
    (action : ActionProposal) {approval : Approval}
    (happroval : approval ∈ db.tables.domain.approvals) :
    Ensures (ensureExecution scope action approval) (fun _ db' => Lineage db'.tables.domain)
      db := by
  unfold LaunchOS.ensureExecution
  rw [ensures_bind, ensures_tables]
  split
  next => exact (ensures_pure _).mpr h
  next =>
    rw [ensures_bind, ensures_newId, ensures_bind, ensures_modifyTables, ensures_pure]
    exact h.insertExecution ⟨approval, happroval, rfl⟩

theorem approveActionProposal (D : Digest) (h : Lineage db.tables.domain) (scope : TenantScope)
    (actionId : Id) (userId : String) :
    Ensures (approveActionProposal D now scope actionId userId)
      (fun _ db' => Lineage db'.tables.domain) db := by
  have hf := domainRelation_frames (M := M) (r := SameRecords) now fun _ => true
  unfold LaunchOS.approveActionProposal
  rw [ensures_bind, ensures_tables, ensures_bind, ensures_check]
  rintro action -
  rw [ensures_bind]
  refine (h.ensureApproval scope action userId).mono ?_
  rintro approval db₁ ⟨h₁, happroval⟩
  refine (within_setActionStatus .sameRecords hf _ _).ensures_bind fun _ db₂ h₂ => ?_
  rw [ensures_bind]
  refine ((h₁.same h₂.domain).ensureExecution scope action (h₂.domain.approvals happroval)).mono ?_
  intro execution db₃ h₃
  refine (framesWithin_createJob (r := SameRecords) now _ db₃).mono fun _ db₄ h₄ => ?_
  exact h₃.same (Frames.domain h₄)

/-- A business gets its row of controls once. -/
theorem setGlobalExecutionControls (h : Lineage db.tables.domain) (scope : TenantScope)
    (userId : String) (automationPaused executionPaused revokeAll : Option Bool) :
    Ensures (setGlobalExecutionControls scope userId automationPaused executionPaused revokeAll)
      (fun _ db' => Lineage db'.tables.domain) db := by
  unfold LaunchOS.setGlobalExecutionControls
  rw [ensures_bind, ensures_tables, ensures_bind, ensures_check]
  intro _ _
  dsimp only
  split
  next control hcontrol =>
    rw [ensures_modifyTables]
    refine { h with controls := ?_ }
    refine h.controls.map fun row => ?_
    split <;> rfl
  next hnone =>
    rw [ensures_bind, ensures_newId, ensures_modifyTables]
    refine { h with controls := h.controls.append (Table.keysNodup_singleton _) ?_ }
    intro new hnew old hold
    rw [List.mem_singleton.mp hnew]
    exact Table.find_eq_none_iff.mp hnone old hold

/-- The rest of the application writes none of these tables. -/
theorem framesWithin_performEffect (effect : ForeignEffect) :
    Within (Frames SameRecords) (effect.perform (M := M) now) := by
  have hf := domainRelation_frames (M := M) (r := SameRecords) now fun _ => true
  refine hf.bind (hf.foldlM (fun _ work => framesWithin_perform now _ _ work) _) fun _ => ?_
  exact hf.modifyTables _ fun t => .of_eq rfl rfl rfl rfl rfl rfl rfl

theorem command (D : Digest) (h : Lineage db.tables.domain) (c : ExecutionCommand) :
    Ensures (c.run D now) (fun _ db' => Lineage db'.tables.domain) db := by
  have hf := domainRelation_frames (M := M) (r := SameRecords) now fun _ => true
  have hsame : ∀ {m : ExecutionTxn M Unit}, Within (Frames SameRecords) m →
      Ensures m (fun _ db' => Lineage db'.tables.domain) db :=
    fun hm => Ensures.mono (hm db) fun _ db' hdb' => h.same (Frames.domain hdb')
  cases c with
  | probeAndRegisterTelegramConnector scope channelId targetChatId readiness =>
      exact hsame (within_probeAndRegisterTelegramConnector hf scope channelId targetChatId readiness
        CommandWrites.sameRecords.accounts CommandWrites.sameRecords.insertAccount)
  | createActionProposal scope productionWorkflowId connectorAccountId =>
      simp only [ExecutionCommand.run]
      rw [ensures_bind]
      refine (h.createActionProposal D scope _ _).mono fun _ db' hdb' => ?_
      exact (ensures_pure ()).mpr hdb'
  | approveActionProposal scope actionId userId =>
      simp only [ExecutionCommand.run]
      rw [ensures_bind]
      refine (h.approveActionProposal D scope actionId userId).mono fun _ db' hdb' => ?_
      exact (ensures_pure ()).mpr hdb'
  | approveAction scope actionId userId => exact hsame (within_approveAction .sameRecords hf scope actionId userId)
  | setGlobalExecutionControls scope userId automationPaused executionPaused revokeAll =>
      exact h.setGlobalExecutionControls scope userId _ _ _
  | foreign effect => exact hsame (framesWithin_performEffect effect)

end Commands

/-! ## Steps -/

theorem step (D : Digest) {s : ExecutionState M} (h : Lineage s.db.tables.domain)
    (action : Action ExecutionAnswer ExecutionCommand) :
    Lineage ((executionApp D).step action s).db.tables.domain := by
  refine App.domain_step (I := fun _ t => Lineage t) (executionApp D) (fun _ h => h)
    (fun job error willRetry now t => ?_) h (fun c db hc => ?_)
    (fun a worker context payload progress answer db _ hcommit => ?_) action
  · simp only [executionApp]
    split
    · exact domain_recordAgentRunFailure job error willRetry now t
    · rfl
  · exact Ensures.of_exec (Q := fun db' => Lineage db'.tables.domain) (h.command D c) hc
  · refine h.same (Frames.domain (executionApp_commit_within ServiceWrites.sameRecords.handler
      .sameRecords (domainRelation_frames s.now _) (fun htable htables => ?_)
      (fun effect => framesWithin_performEffect effect) hcommit))
    exact ⟨htable ▸ le_rfl, htables ▸ refl _⟩

end Lineage

end LaunchOS
