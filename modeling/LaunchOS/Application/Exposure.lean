import LaunchOS.Application.Checkpoints
import LaunchOS.Application.Supersession
import LaunchOS.Execution.Deliveries

/-!
# Exposures of an Experiment

A publish job runs for an Experiment that is a draft, and a message that is recorded starts the
Experiment. An answer that is ambiguous or not recorded leaves it a draft, and the next Action of the
Decision is published as well.

The module introduces:

* `PublishOutcome.exposes`, `GovernedState.exposures`: the calls that may have reached the channel;
* `publishTarget`: the proposal and the account that a publish job calls for;
* `GovernedState.exposureRecorded`: the call of a step, if there is one, leaves its Experiment running;
* `GovernedState.Exposed`: an Experiment that is a draft has not been exposed, any other at most once;
* `exposed_at_most_once`: that is so in every run whose calls are recorded.
-/

namespace LaunchOS

open Txn Transition

variable {M : Type}

/-! ## Exposures -/

/-- The message may have been published. -/
def PublishOutcome.exposes : PublishOutcome → Bool
  | .published .. => true
  | .ambiguous .. => true
  | .rejected .. => false

/-- The calls for a Decision that may have published a message. -/
def GovernedState.exposures (decisionId : Id) (s : GovernedState M) : List PublishTextCall :=
  (s.callsFor decisionId).filter fun call => call.outcome.exposes

/-- What a publish job calls the provider for, if it does. -/
def publishTarget (D : Digest) (context : RuntimeJobContext) (payload : JobPayload)
    (t : ExecutionTables) : Except JobError (Option (ActionProposalDetail × ConnectorAccount)) := do
  let (action, execution) ← boundExecution context payload t
  if execution.settled then
    return none
  else
    let detail ← actionDetail action.id t
    let approval ← executionApproval execution t
    let account ← orRaise (.permanentJobError "ConnectorAccount not found during execution")
      (Table.find ConnectorAccount.id detail.connectorAccountId t.connectorAccounts)
    match ← preflightBlockReason D action detail approval account t with
    | some _ => return none
    | none =>
        match Table.find ExternalReference.executionId execution.id t.externalReferences with
        | some _ => return none
        | none => do
            let _ ← publishCommand detail
            return some (detail, account)

/-- The account has no reference to the message. -/
def ExecutionTables.newMessage (accountId : Id) (messageId : String) (t : ExecutionTables) : Bool :=
  t.externalReferences.all fun reference =>
    !(reference.provider = "telegram" && reference.connectorAccountId = accountId &&
      reference.externalObjectType = "message" && reference.externalId = messageId)

/-- A message that the provider returns is written, and an ambiguous answer is not one. -/
def PublishOutcome.recorded (accountId : Id) (lost : Bool) (t : ExecutionTables) :
    PublishOutcome → Bool
  | .published messageId _ => !lost && t.newMessage accountId messageId
  | .ambiguous _ => false
  | .rejected _ => true

/-- A step that calls the provider for a Decision with an Experiment is answered with a rejection, or
with a message that is new to the account and written. -/
def GovernedState.exposureRecorded (E : GovernedEnv M) (s : GovernedState M)
    (action : GovernedAction M) : Bool :=
  match action.op with
  | .executeJob context payload outcome lost =>
      match publishTarget E.digest context payload s.db.tables.domain.toExecutionTables with
      | .ok (some (detail, account)) =>
          (experimentOf detail.decisionId s.db.tables.domain.toExecutionContext).isNone ||
            outcome.recorded account.id lost s.db.tables.domain.toExecutionTables
      | _ => true
  | _ => true

/-! ## The publish job -/

/-- The request of a job is for its target, and its execution has no reference. -/
structure PublishRequest.Targets (D : Digest) (context : RuntimeJobContext) (payload : JobPayload)
    (t : ExecutionTables) (request : PublishRequest) : Prop where
  target : publishTarget D context payload t = .ok (some (request.detail, request.account))
  detail : request.detail ∈ t.actionProposalDetails
  unreferenced : ∀ reference ∈ t.externalReferences, reference.executionId ≠ request.executionId

section Prepare

variable {D : Digest} {context : RuntimeJobContext} {payload : JobPayload} {now : Time}

/-- A job calls for its target, and has written no reference before it does. -/
theorem ensures_prepare_target (D : Digest) (context : RuntimeJobContext) (payload : JobPayload)
    (db : AgentDatabase M ExecutionTables) :
    Ensures (prepareExecution D context payload) (fun result db' => ∀ request,
      result = some request → request.Targets D context payload db.tables.domain ∧
        db'.tables.domain.externalReferences = db.tables.domain.externalReferences) db := by
  rw [prepareExecution, ensures_bind, ensures_tables, ensures_bind, ensures_check]
  rintro ⟨action, execution⟩ hbound
  dsimp only
  split
  next => exact (ensures_pure none).mpr (by simp)
  next hopen =>
    rw [ensures_bind, ensures_check]
    intro detail hdetail
    rw [ensures_bind, ensures_check]
    intro approval happroval
    rw [ensures_bind, ensures_check]
    intro account haccount
    rw [ensures_bind, ensures_check]
    intro reason hreason
    split
    next =>
      rw [setExecutionStatus, setActionStatus, ensures_bind, ensures_modifyTables, ensures_bind,
        ensures_modifyTables, ensures_pure]
      simp
    next =>
      split
      next =>
        rw [succeedExecution, setActionStatus, ensures_bind, ensures_bind, ensures_modifyTables,
          ensures_modifyTables, ensures_pure]
        simp
      next hnone =>
        rw [ensures_bind, ensures_check]
        intro command hcommand
        rw [setExecutionStatus, ensures_bind, ensures_modifyTables, ensures_pure]
        intro request hrequest
        obtain rfl := Option.some.inj hrequest
        refine ⟨⟨?_, Table.mem_of_find (orRaise_eq_ok_iff.mp hdetail), ?_⟩, rfl⟩
        · -- the target goes the same way
          refine Except.bind_eq_ok_iff.mpr ⟨(action, execution), hbound, ?_⟩
          dsimp only
          rw [if_neg hopen]
          refine Except.bind_eq_ok_iff.mpr ⟨detail, hdetail, ?_⟩
          refine Except.bind_eq_ok_iff.mpr ⟨approval, happroval, ?_⟩
          refine Except.bind_eq_ok_iff.mpr ⟨account, haccount, ?_⟩
          refine Except.bind_eq_ok_iff.mpr ⟨none, hreason, ?_⟩
          dsimp only
          rw [hnone]
          exact Except.bind_eq_ok_iff.mpr ⟨command, hcommand, rfl⟩
        · exact fun reference hreference => Table.find_eq_none_iff.mp hnone reference hreference

end Prepare

/-! ## The answer -/

/-- The Experiment of a published Decision runs. -/
theorem experimentOf_started {decisionId : Id} {t t' : ExecutionContext}
    (h : t'.experiments = startedExperiments decisionId t) {e : Experiment}
    (he : experimentOf decisionId t' = some e) : e.status = .running := by
  rw [experimentOf, h, startedExperiments] at he
  cases hold : experimentOf decisionId t with
  | none =>
      rw [hold] at he
      exact absurd (hold.symm.trans he) (by simp)
  | some old =>
      rw [hold] at he
      dsimp only at he
      rw [Table.modify, Table.find_map (by intros; split <;> rfl)] at he
      rw [show Table.find Experiment.decisionId decisionId t.experiments = some old from hold,
        Option.map_some, if_pos rfl] at he
      obtain rfl := Option.some.inj he
      rfl

section Settle

variable {now : Time} {db : AgentDatabase M GovernedTables}

theorem executionPart_eq_ok {α : Type} {m : ExecutionTxn M α} {a : α}
    {part : AgentDatabase M ExecutionTables}
    (h : m (db.withDomain db.tables.domain.toExecutionTables) = .ok (a, part)) :
    executionPart m db = .ok (a, part.withDomain { db.tables.domain with
      toExecutionTables := part.tables.domain }) :=
  DomainTxn.zoom_eq_ok_iff.mpr ⟨_, DomainTxn.zoom_eq_ok_iff.mpr ⟨part, h, rfl⟩, rfl⟩

/-- A message that is new to its account, of an execution without a reference, is written. -/
theorem settles_published {request : PublishRequest} {messageId chatId : String}
    (hmessage : db.tables.domain.newMessage request.account.id messageId = true)
    (hunreferenced : ∀ reference ∈ db.tables.domain.externalReferences,
      reference.executionId ≠ request.executionId) (scope : TenantScope) :
    ∃ db', exec (executionPart (settleExecution now scope request
      (.published messageId chatId))) db = .ok db' := by
  have hnew : ∀ reference ∈ db.tables.domain.externalReferences,
      ¬ (reference.provider = "telegram" ∧ reference.connectorAccountId = request.account.id ∧
        reference.externalObjectType = "message" ∧ reference.externalId = messageId) := by
    intro reference hreference heq
    have hother := List.all_eq_true.mp hmessage reference hreference
    simp [heq] at hother
  have hwritten : Achieves (settleExecution now scope request (.published messageId chatId)) _
      (db.withDomain db.tables.domain.toExecutionTables) :=
    achieves_published hnew hunreferenced scope
  obtain ⟨_, part, hsettle, -⟩ := hwritten
  exact ⟨_, exec_eq_ok_iff.mpr ⟨_, executionPart_eq_ok hsettle⟩⟩

/-- A message that is written starts the Experiment. -/
theorem running_of_settled {scope : TenantScope} {request : PublishRequest}
    {messageId chatId : String} {db' : AgentDatabase M GovernedTables}
    (h : exec (executionPart (settleExecution now scope request
      (.published messageId chatId))) db = .ok db') {e : Experiment}
    (he : experimentOf request.detail.decisionId db'.tables.domain.toExecutionContext = some e) :
    e.status = .running := by
  have hstarted : Ensures (executionPart (settleExecution now scope request
      (.published messageId chatId))) (fun _ db' => db'.tables.domain.experiments =
        startedExperiments request.detail.decisionId db.tables.domain.toExecutionContext) db := by
    rw [ensures_executionPart]
    exact (ensures_settle_published scope request messageId chatId _).mono
      fun _ _ hsettled => hsettled.2.experiments
  exact experimentOf_started (hstarted.of_exec h) he

end Settle

/-! ## Steps -/

theorem experimentOf_evolve {t t' : GovernedTables}
    (h : ExperimentsEvolve t.experiments t'.experiments) {decisionId : Id} {e e' : Experiment}
    (he : experimentOf decisionId t.toExecutionContext = some e)
    (he' : experimentOf decisionId t'.toExecutionContext = some e') : e.status.Follows e'.status := by
  obtain ⟨evolved, hevolved, -, hfollows⟩ := h.experimentOf he
  obtain rfl := Option.some.inj (hevolved.symm.trans he')
  exact hfollows

/-- How often an Experiment may have been exposed. -/
def ExperimentStatus.exposureBound : ExperimentStatus → ℕ
  | .draft => 0
  | _ => 1

theorem ExperimentStatus.Follows.exposureBound {status status' : ExperimentStatus}
    (h : status.Follows status') : status.exposureBound ≤ status'.exposureBound := by
  cases h with
  | stays => exact Nat.le_refl _
  | starts => exact Nat.zero_le 1
  | completes => exact Nat.le_refl 1

/-- An Experiment that is a draft has not been exposed, and any other once at most. -/
structure GovernedState.Exposed (s : GovernedState M) : Prop where
  kept : s.CheckpointsKept
  ledger : s.LedgerHolds
  known : ∀ call ∈ s.calls, call.decisionId < s.db.nextId
  once : ∀ decisionId e, experimentOf decisionId s.db.tables.domain.toExecutionContext = some e →
    (s.exposures decisionId).length ≤ e.status.exposureBound

section Steps

variable (E : GovernedEnv M) {s : GovernedState M} {action : GovernedAction M}

/-- A call of a recorded step is for a proposal that is there, and has started its Experiment if it
may have published a message. -/
theorem exposed_call (hrecorded : s.exposureRecorded E action = true) {call : PublishTextCall}
    (hcalls : (s.step E action).calls = s.calls ++ [call]) :
    (∃ detail ∈ s.db.tables.domain.actionProposalDetails, detail.decisionId = call.decisionId) ∧
      (call.outcome.exposes = true → ∀ e,
        experimentOf call.decisionId s.db.tables.domain.toExecutionContext = some e → ∀ e',
          experimentOf call.decisionId (s.step E action).db.tables.domain.toExecutionContext =
            some e' → e'.status = .running) := by
  have hnone : s.calls ≠ s.calls ++ [call] := by simp
  have hstep := s.stepped E action
  generalize s.step E action = s' at hstep hcalls ⊢
  cases hstep with
  | committed => exact absurd hcalls hnone
  | refused => exact absurd hcalls hnone
  | @executed context payload outcome lost hop =>
      unfold executeJob at hcalls ⊢
      split at hcalls
      next => exact absurd hcalls hnone
      next => exact absurd hcalls hnone
      next request db hprepare =>
        have htarget : Ensures (executionPart (prepareExecution E.digest context payload))
            (fun result db => ∀ request, result = some request →
              request.Targets E.digest context payload s.db.tables.domain.toExecutionTables ∧
                db.tables.domain.externalReferences =
                  s.db.tables.domain.externalReferences) s.db := by
          rw [ensures_executionPart]
          exact ensures_prepare_target E.digest context payload _
        obtain ⟨htargets, hreferences⟩ := htarget _ _ hprepare request rfl
        have hcall : call = ⟨request.detail.decisionId, outcome⟩ := by
          split at hcalls
          · exact (List.singleton_injective (List.append_cancel_left hcalls)).symm
          · exact (List.singleton_injective (List.append_cancel_left hcalls)).symm
        subst hcall
        refine ⟨⟨request.detail, htargets.detail, rfl⟩, fun hexposes e he e' he' => ?_⟩
        -- the guard has looked at this call
        have hanswer : outcome.recorded request.account.id lost
            s.db.tables.domain.toExecutionTables = true := by
          simpa [GovernedState.exposureRecorded, hop, htargets.target, he] using hrecorded
        cases outcome with
        | rejected errorClass => cases hexposes
        | ambiguous errorClass => cases hanswer
        | published messageId chatId =>
            obtain ⟨hlost, hmessage⟩ := Bool.and_eq_true_iff.mp hanswer
            obtain rfl : lost = false := by simpa using hlost
            have hnew : db.tables.domain.newMessage request.account.id messageId = true := by
              rw [ExecutionTables.newMessage, hreferences]
              exact hmessage
            have hunreferenced : ∀ reference ∈ db.tables.domain.externalReferences,
                reference.executionId ≠ request.executionId := by
              rw [hreferences]
              exact htargets.unreferenced
            obtain ⟨db', hsettle⟩ : ∃ db', exec (executionPart (settleExecution action.now
                context.scope request (.published messageId chatId))) db = .ok db' :=
              settles_published hnew hunreferenced context.scope
            rw [hsettle] at he'
            exact running_of_settled hsettle he'

/-- A step without a call for the Decision. -/
theorem GovernedState.Exposed.once_of_same (h : s.Exposed) {s' : GovernedState M}
    (hevolve : ExperimentsEvolve s.db.tables.domain.experiments s'.db.tables.domain.experiments)
    {decisionId : Id} {e e' : Experiment}
    (he : experimentOf decisionId s.db.tables.domain.toExecutionContext = some e)
    (he' : experimentOf decisionId s'.db.tables.domain.toExecutionContext = some e')
    (hsame : s'.exposures decisionId = s.exposures decisionId) :
    (s'.exposures decisionId).length ≤ e'.status.exposureBound := by
  rw [hsame]
  exact (h.once decisionId e he).trans (experimentOf_evolve hevolve he he').exposureBound

theorem exposures_of_call {s' : GovernedState M} {call : PublishTextCall}
    (hcalls : s'.calls = s.calls ++ [call]) (decisionId : Id) :
    s'.exposures decisionId = s.exposures decisionId ++
      if call.decisionId = decisionId ∧ call.outcome.exposes = true then [call] else [] := by
  rw [GovernedState.exposures, GovernedState.exposures, GovernedState.callsFor,
    GovernedState.callsFor, hcalls, List.filter_append, List.filter_append]
  congr 1
  by_cases hdecision : call.decisionId = decisionId
  · by_cases hexposes : call.outcome.exposes = true
    · simp [hdecision, hexposes]
    · simp [hdecision, hexposes]
  · simp [hdecision]

/-- No call is for a Decision that is not there yet. -/
theorem GovernedState.Exposed.exposures_eq_nil (h : s.Exposed) {decisionId : Id}
    (hnew : ¬ decisionId < s.db.nextId) : s.exposures decisionId = [] := by
  rw [GovernedState.exposures, GovernedState.callsFor, List.filter_eq_nil_iff]
  intro call hcall
  obtain ⟨hmem, heq⟩ := List.mem_filter.mp hcall
  have hknown := h.known call hmem
  rw [of_decide_eq_true heq] at hknown
  exact absurd hknown hnew

theorem exposed_step (h : s.Exposed) (hrecorded : s.exposureRecorded E action = true) :
    (s.step E action).Exposed := by
  have hmoves := moves_step E h.ledger action
  have hsecured := hmoves.secured
  have hnext := (writes_step E action s).nextId
  have hcores := (checkpointStep E action s h.kept.ledger).1
  -- a Decision that was there has the Experiment it had, and one that was not has no call
  have hold : ∀ {decisionId : Id} {e' : Experiment}, decisionId < s.db.nextId →
      experimentOf decisionId (s.step E action).db.tables.domain.toExecutionContext = some e' →
      ∃ e, experimentOf decisionId s.db.tables.domain.toExecutionContext = some e := by
    intro decisionId e' hlt he'
    have hcore := hcores.experimentOf hlt
    rw [he', Option.map_some] at hcore
    obtain ⟨e, he, -⟩ := Option.map_eq_some_iff.mp hcore.symm
    exact ⟨e, he⟩
  cases hmoves with
  | quiet _ hcalls =>
      refine ⟨checkpointsKept_step E action h.kept, hsecured.ledger, fun call hcall => ?_,
        fun decisionId e' he' => ?_⟩
      · rw [hcalls] at hcall
        exact (h.known call hcall).trans_le hnext
      · have hsame : (s.step E action).exposures decisionId = s.exposures decisionId := by
          rw [GovernedState.exposures, GovernedState.callsFor, hcalls]
          rfl
        by_cases hlt : decisionId < s.db.nextId
        · obtain ⟨e, he⟩ := hold hlt he'
          exact h.once_of_same hsecured.evolve he he' hsame
        · rw [hsame, h.exposures_eq_nil hlt]
          exact Nat.zero_le _
  | called call _ hdraft hcalls =>
      obtain ⟨⟨detail, hdetail, hdecision⟩, hrunning⟩ := exposed_call E hrecorded hcalls
      have hknown : call.decisionId < s.db.nextId :=
        hdecision ▸ h.kept.ledger.details detail hdetail
      refine ⟨checkpointsKept_step E action h.kept, hsecured.ledger, fun call' hcall' => ?_,
        fun decisionId e' he' => ?_⟩
      · rw [hcalls, List.mem_append, List.mem_singleton] at hcall'
        rcases hcall' with hmem | rfl
        · exact (h.known call' hmem).trans_le hnext
        · exact hknown.trans_le hnext
      · have hadded := exposures_of_call hcalls decisionId
        by_cases hexposed : call.decisionId = decisionId ∧ call.outcome.exposes = true
        · -- the Experiment was a draft without an exposure, and runs with this one
          obtain ⟨rfl, hexposes⟩ := hexposed
          obtain ⟨e, he⟩ := hold hknown he'
          have hzero := h.once call.decisionId e he
          rw [hdraft e he] at hzero
          rw [hrunning hexposes e he e' he', hadded, if_pos ⟨rfl, hexposes⟩, List.length_append]
          exact Nat.add_le_add_right hzero 1
        · rw [if_neg hexposed, List.append_nil] at hadded
          by_cases hlt : decisionId < s.db.nextId
          · obtain ⟨e, he⟩ := hold hlt he'
            exact h.once_of_same hsecured.evolve he he' hadded
          · rw [hadded, h.exposures_eq_nil hlt]
            exact Nat.zero_le _

theorem GovernedState.Initial.exposed {s : GovernedState M} (h : s.Initial) : s.Exposed := by
  refine ⟨h.checkpointsKept, h.ledgerHolds, ?_, fun decisionId e he => ?_⟩
  · simp [h.2]
  · rw [experimentOf, h.1] at he
    cases he

end Steps

/-! ## Runs -/

section Runs

variable (E : GovernedEnv M)

/-- In a run whose calls for Experiments are recorded, every Experiment is exposed at most once, and
its status goes from `DRAFT` to `RUNNING` to `COMPLETE`, whatever is proposed, approved and
executed. -/
theorem exposed_at_most_once {s : GovernedState M} (hs : s.Initial)
    {actions : List (GovernedAction M)}
    (hactions : Guarded (GovernedState.step E)
      (fun s action => s.exposureRecorded E action = true) s actions) :
    (∀ decisionId, (experimentOf decisionId (run (GovernedState.step E) s
        actions).db.tables.domain.toExecutionContext).isSome = true →
      ((run (GovernedState.step E) s actions).exposures decisionId).length ≤ 1) ∧
    ∀ before action after, actions = before ++ action :: after →
      ExperimentsEvolve (run (GovernedState.step E) s before).db.tables.domain.experiments
        (run (GovernedState.step E) s (before ++ [action])).db.tables.domain.experiments := by
  constructor
  · intro decisionId hsome
    have hexposed := invariant_run (I := GovernedState.Exposed)
      (fun _ _ h haction => exposed_step E h haction) hs.exposed hactions
    obtain ⟨e, he⟩ := Option.isSome_iff_exists.mp hsome
    have hbound : e.status.exposureBound ≤ 1 := by
      cases e.status <;> simp [ExperimentStatus.exposureBound]
    exact (hexposed.once decisionId e he).trans hbound
  · intro before action after _
    have hledger := ledgerHolds_run E hs.ledgerHolds before
    rw [run_append]
    exact (moves_step E hledger action).secured.evolve

end Runs

/-! ### Two channels -/

/-- One of the two approved Actions is published, and the other one is tried. -/
def exposedOnce : List (GovernedAction AgentOutput) :=
  approvedActions ++ [publishes 84 102 (.published "7" "@channel"),
    publishes 93 105 (.published "8" "@mirror")]

theorem exposedOnce_exposures :
    ((run (GovernedState.step (plainEnv shownFact)) governedStart exposedOnce).exposures
      41).length ≤ 1 :=
  (exposed_at_most_once (plainEnv shownFact) governedStart_initial (by decide +kernel)).1 41
    (by decide +kernel)

/-- The answer of the first channel is ambiguous. The Experiment is still a draft, and the second
channel gets the post as well. -/
theorem ambiguous_post_exposed_twice :
    (experimentOf 41 (run (GovernedState.step (plainEnv shownFact)) governedStart
      (approvedActions ++ [publishes 84 102 (.ambiguous "TELEGRAM_TRANSPORT_AMBIGUOUS"),
        publishes 93 105 (.published "8" "@mirror")])).db.tables.domain.toExecutionContext).isSome =
      true ∧
    ((run (GovernedState.step (plainEnv shownFact)) governedStart
      (approvedActions ++ [publishes 84 102 (.ambiguous "TELEGRAM_TRANSPORT_AMBIGUOUS"),
        publishes 93 105 (.published "8" "@mirror")])).exposures 41).length = 2 := by
  decide +kernel

end LaunchOS
