import LaunchOS.Execution.ProposalMoves

/-!
# Statuses of an action

`approve_action_proposal` approves an action only if it is `APPROVAL_REQUIRED` or `APPROVED` and its
permission asks for an approval. The command `approve_action` approves any action of its tenant: also
one that is `BLOCKED` or `EXECUTED`, and one that its permission blocks.

The module introduces:

* `ActionProposal.Permitted`: the permission of the action asks for an approval;
* `RuntimeState.ApprovesEligible`: the guard that `approve_action` lacks;
* `StatusSound`, `KeepsClosed`: what holds of the statuses in guarded runs;
* `action_status_guarded`: the statuses are guarded exactly in the runs that meet the guard;
* a run in which a published action is approved again.
-/

namespace LaunchOS

open Txn Transition

variable {M : Type}

/-- The guard: `approve_action` is called for actions of the tenant only that are still open and that
their permission lets the owner approve. -/
def RuntimeState.ApprovesEligible (s : ExecutionState M) :
    Action ExecutionAnswer ExecutionCommand → Prop
  | .command (.approveAction scope actionId _) =>
      ∀ action ∈ s.db.tables.domain.actions, action.id = actionId → action.scope = scope →
        action.status.closed = false ∧ action.Permitted s.db.tables.domain
  | _ => True

/-! ## One step -/

/-- The actions have ids of their own, and those that are approved are permitted. -/
structure StatusSound (nextId : Id) (t : ExecutionTables) : Prop where
  actions : Table.KeysNodup ActionProposal.id t.actions
  action_lt : ∀ action ∈ t.actions, action.id < nextId
  permitted : ∀ action ∈ t.actions, action.status = .approved → action.Permitted t

/-- What is closed stays closed. -/
def KeepsClosed (t t' : ExecutionTables) : Prop :=
  ∀ action ∈ t.actions, action.status.closed → ∃ action' ∈ t'.actions,
    action'.id = action.id ∧ action'.status.closed

instance : IsPreorder ExecutionTables KeepsClosed where
  refl _ action haction hclosed := ⟨action, haction, rfl, hclosed⟩
  trans _ _ _ h h' action haction hclosed := by
    obtain ⟨action', haction', hid, hclosed'⟩ := h action haction hclosed
    obtain ⟨action'', haction'', hid', hclosed''⟩ := h' action' haction' hclosed'
    exact ⟨action'', haction'', hid'.trans hid, hclosed''⟩

/-- Permissions are only added. -/
theorem ActionProposal.Permitted.append {action : ActionProposal} {t t' : ExecutionTables}
    (h : action.Permitted t) {new : List PermissionEvaluation}
    (hrows : t'.permissionEvaluations = t.permissionEvaluations ++ new) : action.Permitted t' := by
  obtain ⟨permission, hfind, houtcome⟩ := h
  refine ⟨permission, ?_, houtcome⟩
  rw [hrows]
  exact Table.find_append_of_eq_some hfind

theorem ActionProposal.Permitted.congr {action : ActionProposal} {t t' : ExecutionTables}
    (h : action.Permitted t) (hrows : t'.permissionEvaluations = t.permissionEvaluations) :
    action.Permitted t' :=
  h.append (hrows.trans (List.append_nil _).symm)

namespace StatusSound

variable {nextId nextId' : Id} {t t' : ExecutionTables}

theorem handled (h : StatusSound nextId t) (hle : nextId ≤ nextId') (hhandled : Handled t t') :
    StatusSound nextId' t' ∧ KeepsClosed t t' := by
  obtain ⟨status, hactions, hstatus⟩ := hhandled.actions
  refine ⟨⟨?_, ?_, ?_⟩, ?_⟩
  · rw [hactions]
    exact h.actions.map fun _ => rfl
  · rw [hactions]
    rintro _ hmem
    obtain ⟨action, haction, rfl⟩ := List.mem_map.mp hmem
    exact (h.action_lt action haction).trans_le hle
  · rw [hactions]
    rintro _ hmem happroved
    obtain ⟨action, haction, rfl⟩ := List.mem_map.mp hmem
    rw [ActionProposal.status_withStatus] at happroved
    rcases hstatus action with heq | hclosed
    · exact (h.permitted action haction (heq.symm.trans happroved)).congr hhandled.permissions
    · rw [happroved] at hclosed
      cases hclosed
  · intro action haction hclosed
    refine ⟨action.withStatus (status action), hactions ▸ List.mem_map_of_mem haction, rfl, ?_⟩
    rcases hstatus action with heq | hclosed'
    · rw [ActionProposal.status_withStatus, heq]
      exact hclosed
    · exact hclosed'

theorem proposed {D : Digest} {now : Time} {scope : TenantScope}
    {productionWorkflowId connectorAccountId : Id} {action : ActionProposal}
    (h : StatusSound nextId t)
    (hproposed : Proposed D now scope productionWorkflowId connectorAccountId nextId nextId' t t'
      action) : StatusSound nextId' t' ∧ KeepsClosed t t' := by
  obtain ⟨_, _, _, _, _, permission, -, hrows, -, -, hpermissions⟩ := hproposed.made
  have hopen : action.status ≠ .approved := by
    rw [hrows.status]
    split <;> simp
  refine ⟨⟨?_, ?_, ?_⟩, ?_⟩
  · rw [hproposed.actions]
    refine h.actions.append (Table.keysNodup_singleton action) ?_
    intro new hnew old hold
    rw [List.mem_singleton.mp hnew]
    exact ((h.action_lt old hold).trans_le hproposed.fresh.1).ne
  · rw [hproposed.actions]
    intro row hrow
    rcases List.mem_append.mp hrow with hold | hnew
    · exact (h.action_lt row hold).trans (hproposed.fresh.1.trans_lt hproposed.fresh.2)
    · rw [List.mem_singleton.mp hnew]
      exact hproposed.fresh.2
  · rw [hproposed.actions]
    intro row hrow happroved
    rcases List.mem_append.mp hrow with hold | hnew
    · exact (h.permitted row hold happroved).append hpermissions
    · rw [List.mem_singleton.mp hnew] at happroved
      exact absurd happroved hopen
  · intro row hrow hclosed
    exact ⟨row, hproposed.actions ▸ List.mem_append_left _ hrow, rfl, hclosed⟩

/-- An action that is open and permitted may be approved. -/
theorem approve (h : StatusSound nextId t) (hle : nextId ≤ nextId') {action : ActionProposal}
    (haction : action ∈ t.actions) (hopen : action.status.closed = false)
    (hpermitted : action.Permitted t)
    (hactions : t'.actions = Table.modify ActionProposal.id action.id
      (ActionProposal.withStatus .approved) t.actions)
    (hpermissions : t'.permissionEvaluations = t.permissionEvaluations) :
    StatusSound nextId' t' ∧ KeepsClosed t t' := by
  refine ⟨⟨?_, ?_, ?_⟩, ?_⟩
  · rw [hactions]
    exact h.actions.modify fun _ _ hid => hid
  · rw [hactions]
    intro row hrow
    rcases Table.mem_modify_cases hrow with ⟨old, hold, -, rfl⟩ | ⟨hold, -⟩
    · exact (h.action_lt old hold).trans_le hle
    · exact (h.action_lt row hold).trans_le hle
  · rw [hactions]
    intro row hrow happroved
    rcases Table.mem_modify_cases hrow with ⟨old, hold, hid, rfl⟩ | ⟨hold, -⟩
    · obtain rfl := h.actions.eq_of_key_eq hold haction hid
      exact hpermitted.congr hpermissions
    · exact (h.permitted row hold happroved).congr hpermissions
  · intro row hrow hclosed
    refine ⟨row, ?_, rfl, hclosed⟩
    rw [hactions]
    refine Table.mem_modify_of_ne hrow fun hid => ?_
    obtain rfl := h.actions.eq_of_key_eq hrow haction hid
    rw [hclosed] at hopen
    cases hopen

end StatusSound

section Steps

variable (D : Digest) {s : ExecutionState M}

theorem statusSound_step (h : StatusSound s.db.nextId s.db.tables.domain)
    {action : Action ExecutionAnswer ExecutionCommand} (hguard : s.ApprovesEligible action) :
    StatusSound ((executionApp D).step action s).db.nextId
        ((executionApp D).step action s).db.tables.domain ∧
      KeepsClosed s.db.tables.domain ((executionApp D).step action s).db.tables.domain := by
  have hstep := proposalStep D action s
  generalize ((executionApp D).step action s).db = db at hstep ⊢
  cases hstep with
  | handled hnext hhandled => exact h.handled hnext hhandled
  | proposed hproposed => exact h.proposed hproposed
  | approved happrovable happroved =>
      obtain ⟨-, happrovable⟩ := approvable_of_eq_ok happrovable
      refine h.approve happroved.nextId_le (Table.mem_of_find happrovable.found) ?_ happrovable.permitted
        happroved.actions happroved.permissions
      rcases happrovable.status with hstatus | hstatus <;> rw [hstatus] <;> rfl
  | granted hgranted =>
      have haction := Table.mem_of_find hgranted.known
      obtain ⟨hopen, hpermitted⟩ := hguard _ haction rfl hgranted.tenant
      exact h.approve hgranted.nextId_le haction hopen hpermitted hgranted.actions hgranted.permissions

/-- `approve_action` does not fail on an action of its tenant. -/
theorem achieves_approveAction (now : Time) {db : AgentDatabase M ExecutionTables}
    {action : ActionProposal}
    (hfind : Table.find ActionProposal.id action.id db.tables.domain.actions = some action)
    (userId : String) :
    Achieves (approveAction now action.scope action.id userId) (fun _ _ => True) db := by
  rw [approveAction, achieves_bind, achieves_tables, achieves_bind, achieves_check]
  refine ⟨action, orRaise_eq_ok_iff.mpr hfind, ?_⟩
  rw [achieves_bind, achieves_check]
  refine ⟨(), TenantScope.assertMatches_eq_ok_iff.mpr rfl, ?_⟩
  rw [achieves_bind, achieves_newId, achieves_bind, achieves_modifyTables, achieves_bind,
    setActionStatus, achieves_modifyTables, DomainTxn.addOutboxEvent, achieves_modify]
  trivial

theorem approveAction_step (h : StatusSound s.db.nextId s.db.tables.domain)
    {action : ActionProposal} (haction : action ∈ s.db.tables.domain.actions) (userId : String) :
    ∃ db, Granted s.now action.scope userId s.db.nextId db.nextId s.db.tables.domain
        db.tables.domain action ∧
      ((executionApp D).step (.command (.approveAction action.scope action.id userId)) s).db =
        db := by
  have hfind := h.actions.find_eq_some_iff.mpr ⟨haction, rfl⟩
  obtain ⟨_, db, hok, -⟩ := achieves_approveAction s.now hfind userId
  have hexec : exec (ExecutionCommand.run D s.now
      (.approveAction action.scope action.id userId)) s.db = .ok db := exec_eq_ok_iff.mpr ⟨_, hok⟩
  refine ⟨db, ?_, ?_⟩
  · obtain ⟨action', hid, hgranted⟩ := approveAction_moves action.scope action.id userId _ _ hok
    obtain rfl : action' = action := by
      have hfound := hgranted.known
      rw [hid, hfind] at hfound
      exact (Option.some.inj hfound).symm
    exact hgranted
  · simp only [App.step, executionApp, hexec]

/-- A call that the guard does not admit approves a closed action, or one without its permission. -/
theorem approvesEligible_of_step (h : StatusSound s.db.nextId s.db.tables.domain)
    {last : Action ExecutionAnswer ExecutionCommand}
    (hclosed : ∀ action ∈ s.db.tables.domain.actions, action.status.closed →
      ∀ action' ∈ ((executionApp D).step last s).db.tables.domain.actions,
        action'.id = action.id → action'.status ≠ .approved)
    (hpermitted : ∀ action ∈ ((executionApp D).step last s).db.tables.domain.actions,
      action.status = .approved →
        action.Permitted ((executionApp D).step last s).db.tables.domain) :
    s.ApprovesEligible last := by
  cases last with
  | command c =>
      cases c with
      | approveAction scope actionId userId =>
          intro action haction hid hscope
          subst hid hscope
          obtain ⟨db, hgranted, hdb⟩ := approveAction_step D h haction userId
          rw [hdb] at hclosed hpermitted
          have happroved : action.withStatus .approved ∈ db.tables.domain.actions := by
            rw [hgranted.actions]
            exact Table.mem_modify_of_eq haction rfl
          constructor
          · by_contra hnot
            rw [Bool.not_eq_false] at hnot
            exact hclosed action haction hnot _ happroved rfl rfl
          · exact (hpermitted _ happroved rfl).congr hgranted.permissions.symm
      | _ => trivial
  | _ => trivial

end Steps

/-! ## Runs -/

section Runs

variable (D : Digest) {s : ExecutionState M}

theorem RuntimeState.ExecutionInitial.statusSound (hs : s.ExecutionInitial) :
    StatusSound s.db.nextId s.db.tables.domain := by
  constructor <;> simp [hs.actions, Table.keysNodup_nil]

theorem statusSound_run (h : StatusSound s.db.nextId s.db.tables.domain)
    {actions : List (Action ExecutionAnswer ExecutionCommand)}
    (hactions : Guarded (executionApp D).step RuntimeState.ApprovesEligible s actions) :
    StatusSound (run (executionApp D).step s actions).db.nextId
        (run (executionApp D).step s actions).db.tables.domain ∧
      KeepsClosed s.db.tables.domain
        (run (executionApp D).step s actions).db.tables.domain := by
  constructor
  · exact invariant_run (I := fun s : ExecutionState M =>
      StatusSound s.db.nextId s.db.tables.domain)
      (fun s action h hguard => (statusSound_step D h hguard).1) h hactions
  · exact relation_run
      (I := fun s : ExecutionState M => StatusSound s.db.nextId s.db.tables.domain)
      (R := fun s s' : ExecutionState M => KeepsClosed s.db.tables.domain s'.db.tables.domain)
      (fun _ => refl _) (fun _ _ _ => trans_of KeepsClosed)
      (fun s action h hguard => (statusSound_step D h hguard).1)
      (fun s action h hguard => (statusSound_step D h hguard).2) h hactions

/-- In a run, no action that was closed is approved later, and every approved action has a permission
that asks for an approval, if and only if `approve_action` was called for open actions with such a
permission only. -/
theorem action_status_guarded (hs : s.ExecutionInitial)
    (actions : List (Action ExecutionAnswer ExecutionCommand)) :
    Guarded (executionApp D).step RuntimeState.ApprovesEligible s actions ↔
      (∀ before after, before ++ after <+: actions →
        ∀ action ∈ (run (executionApp D).step s before).db.tables.domain.actions,
          action.status.closed →
          ∀ action' ∈ (run (executionApp D).step s (before ++ after)).db.tables.domain.actions,
            action'.id = action.id → action'.status ≠ .approved) ∧
      ∀ before, before <+: actions →
        ∀ action ∈ (run (executionApp D).step s before).db.tables.domain.actions,
          action.status = .approved →
            action.Permitted (run (executionApp D).step s before).db.tables.domain := by
  have hsound : ∀ before, Guarded (executionApp D).step RuntimeState.ApprovesEligible s before →
      StatusSound (run (executionApp D).step s before).db.nextId
        (run (executionApp D).step s before).db.tables.domain :=
    fun before hbefore => (statusSound_run D hs.statusSound hbefore).1
  constructor
  · intro hguarded
    constructor
    · rintro before after ⟨rest, rfl⟩ action haction hclosed action' haction' hid happroved
      rw [guarded_append, guarded_append] at hguarded
      obtain ⟨⟨hbefore, hafter⟩, -⟩ := hguarded
      obtain ⟨hsound', hkeeps⟩ := statusSound_run D (hsound before hbefore) hafter
      rw [← run_append] at hsound' hkeeps
      obtain ⟨row, hrow, hid', hclosed'⟩ := hkeeps action haction hclosed
      obtain rfl := hsound'.actions.eq_of_key_eq haction' hrow (hid.trans hid'.symm)
      rw [happroved] at hclosed'
      cases hclosed'
    · rintro before ⟨rest, rfl⟩
      rw [guarded_append] at hguarded
      exact (hsound before hguarded.1).permitted
  · rintro ⟨hclosed, hpermitted⟩
    -- the first call of `approve_action` that does not meet the guard breaks one of the two
    induction actions using List.reverseRecOn with
    | nil => trivial
    | append_singleton before last ih =>
        have hprefix : before <+: before ++ [last] := List.prefix_append before [last]
        have hbefore : Guarded (executionApp D).step RuntimeState.ApprovesEligible s before :=
          ih (fun first next hnext => hclosed first next (hnext.trans hprefix))
            fun first hfirst => hpermitted first (hfirst.trans hprefix)
        have hstep : run (executionApp D).step s (before ++ [last]) =
            (executionApp D).step last (run (executionApp D).step s before) := run_append _ _ _ _
        have hclosed' := hclosed before [last] (List.prefix_refl _)
        have hpermitted' := hpermitted (before ++ [last]) (List.prefix_refl _)
        rw [hstep] at hclosed' hpermitted'
        rw [guarded_append]
        exact ⟨hbefore, approvesEligible_of_step D (hsound before hbefore) hclosed' hpermitted',
          trivial⟩

/-! ### A published action, and one that is approved again -/

instance (s : ExecutionState M) (action : Action ExecutionAnswer ExecutionCommand) :
    Decidable (s.ApprovesEligible action) :=
  match action with
  | .command (.approveAction scope actionId _) =>
      inferInstanceAs (Decidable (∀ action ∈ s.db.tables.domain.actions, action.id = actionId →
        action.scope = scope →
          action.status.closed = false ∧ action.Permitted s.db.tables.domain))
  | .command (.probeAndRegisterTelegramConnector ..) | .command (.createActionProposal ..)
  | .command (.approveActionProposal ..) | .command (.setGlobalExecutionControls ..)
  | .command (.foreign _) | .tick _ | .claim .. | .start _ | .proceed .. | .fault .. | .recordFailure _
  | .crash _ | .schedule _ => isTrue trivial

/-- The post is published. -/
def executedPost : List (Action ExecutionAnswer ExecutionCommand) :=
  publishedPost ++ [.proceed ⟨12, 1⟩ { outcome := .published "7" "@channel" }]

theorem executed_action_status_guarded :
    (∀ before after, before ++ after <+: executedPost →
      ∀ action ∈ (run (executionApp plainDigest).step executionStart before).db.tables.domain.actions,
        action.status.closed →
        ∀ action' ∈ (run (executionApp plainDigest).step executionStart
            (before ++ after)).db.tables.domain.actions,
          action'.id = action.id → action'.status ≠ .approved) ∧
      ∀ before, before <+: executedPost →
        ∀ action ∈ (run (executionApp plainDigest).step executionStart
            before).db.tables.domain.actions,
          action.status = .approved →
            action.Permitted (run (executionApp plainDigest).step executionStart
              before).db.tables.domain :=
  (action_status_guarded plainDigest executionStart_initial executedPost).mp (by decide +kernel)

/-- The post is published, and then the owner's command approves its action once more. -/
def approvedAgain : List (Action ExecutionAnswer ExecutionCommand) :=
  executedPost ++ [.command (.approveAction demoScope 1 "owner")]

theorem executed_action_approved_again :
    ¬ ∀ before after, before ++ after <+: approvedAgain →
      ∀ action ∈ (run (executionApp plainDigest).step executionStart before).db.tables.domain.actions,
        action.status.closed →
        ∀ action' ∈ (run (executionApp plainDigest).step executionStart
            (before ++ after)).db.tables.domain.actions,
          action'.id = action.id → action'.status ≠ .approved := by
  intro hguarded
  have hexecuted : ∃ action ∈ (run (executionApp plainDigest).step executionStart
      executedPost).db.tables.domain.actions, action.status.closed = true ∧ action.id = 1 := by
    decide +kernel
  have happroved : ∃ action ∈ (run (executionApp plainDigest).step executionStart
      approvedAgain).db.tables.domain.actions, action.id = 1 ∧ action.status = .approved := by
    decide +kernel
  obtain ⟨action, haction, hclosed, hid⟩ := hexecuted
  obtain ⟨action', haction', hid', hstatus⟩ := happroved
  exact hguarded executedPost _ (List.prefix_refl _) action haction hclosed action' haction'
    (hid'.trans hid.symm) hstatus

end Runs

end LaunchOS
