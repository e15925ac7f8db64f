import LaunchOS.Application.EvidenceStatuses
import LaunchOS.Application.ExperimentLedger

/-!
# Superseded Decisions

The preflight of a publish job does not look at supersessions. It wants the Experiment of the Decision
to be a draft, and the Experiment of a Decision that is superseded is complete.

The module introduces:

* `secured_op`: every operation but a publish job keeps the ledger of the Experiments;
* `Moves`: what an operation does to the Experiments and to the calls, and `moves_step`, that it does;
* `moves_run`: the ledger in every state that is reached;
* `calls_of_superseded`: no call is made for a Decision from its supersession on.
-/

namespace LaunchOS

open Txn Transition

variable {M : Type}

/-! ## Operations -/

section Operations

variable {now : Time} {db : AgentDatabase M GovernedTables}

theorem ensures_executionPart {α : Type} {m : ExecutionTxn M α}
    {Q : α → AgentDatabase M GovernedTables → Prop} :
    Ensures (executionPart m) Q db ↔
      Ensures m (fun a part => Q a (part.withDomain { db.tables.domain with
          toExecutionTables := part.tables.domain }))
        (db.withDomain db.tables.domain.toExecutionTables) := by
  rw [executionPart, ensures_zoom, ensures_zoom]
  rfl

/-- What leaves the tables of the ledger alone keeps the ledger. -/
theorem LedgerHolds.secured_within {α : Type} (h : LedgerHolds db) {m : GovernedTxn M α}
    (hm : Within (Frames SameLedger) m) : Ensures m (fun _ => Secured db) db :=
  (hm db).mono fun _ _ hframes => (h.frames hframes).secured

/-- The operations that write Experiments, checkpoints, results or learnings, or supersede Decisions,
next to publish jobs. -/
def GovernedOp.writesLedger : GovernedOp M → Bool
  | .advanceDecisionWorkflow .. | .createCheckpointDefinitionForDecision ..
  | .interpretCheckpoint .. | .createGovernedLearning .. => true
  | _ => false

theorem sameLedgerWithin_op (E : GovernedEnv M) {op : GovernedOp M}
    (hop : op.writesLedger = false) : Within (Frames SameLedger) (op.run E now) := by
  have hf := domainRelation_frames (M := M) (r := SameLedger) now fun _ => true
  have hn := domainRelation_frames (M := M) (r := SameFindings) now fun _ => true
  cases op with
  | startPhase6DecisionWorkflow scope payload launchId spec maxRevisionRounds =>
      exact framesWithin_startGovernedWorkflow _ _ _ _ _ _ _ _
  | startSuccessorDecisionWorkflowFromLearning scope actorUserId priorDecisionId learningId payload
      spec maxRevisionRounds =>
      refine hf.bind hf.tables fun t => hf.bind (hf.check _) fun _ => ?_
      exact framesWithin_startGovernedWorkflow _ _ _ _ _ _ _ _
  | approveDecisionForProduction scope workflowId approvedByUserId =>
      exact hf.bind (framesWithin_decisionPart
        (DecisionWorkflow.growsWithin_approveDecisionForProduction now scope workflowId _))
        fun _ => hf.pure _
  | startProductionWorkflow scope decisionId maxRevisionRounds =>
      exact framesWithin_productionPart
        (growsWithin_startProductionWorkflow now scope decisionId maxRevisionRounds)
  | advanceProductionWorkflow answer context workflowId =>
      refine hf.bind (framesWithin_productionPart
        (growsWithin_productionWorkflowAdvanceHandler _ now answer context workflowId)) fun _ => ?_
      exact hf.modifyTables _ fun t => ⟨⟨⟨rfl, rfl⟩, rfl, rfl⟩, rfl⟩
  | runAgents work => exact within_modify _ fun _ => ⟨le_rfl, refl _⟩
  | writeBusiness channels businessMemberships launches =>
      rw [GovernedOp.run]
      exact hf.modifyTables _ fun t => ⟨⟨⟨rfl, rfl⟩, rfl, rfl⟩, rfl⟩
  | probeAndRegisterTelegramConnector | setGlobalExecutionControls | createActionProposal
  | approveActionProposal | approveAction | executeJob =>
      exact framesWithin_executionOp commandWrites_sameExperiments
        proposalWrites_sameExperiments (fun _ _ hs => ⟨⟨hs, rfl, rfl⟩, rfl⟩) E rfl
  | configureTelegramObservation scope connectorAccountId allowedUpdateTypes =>
      refine framesWithin_analyticsPart ?_
      exact Analytics.within_configureTelegramObservation hn
        (fun _ _ => ⟨⟨rfl, rfl⟩, rfl, rfl⟩) scope connectorAccountId allowedUpdateTypes
  | ingestTelegramUpdate scope connectorAccountId update =>
      refine hf.bind (framesWithin_analyticsPart ?_) fun _ => hf.pure _
      exact Analytics.within_ingestTelegramUpdate hn ingestWrites_sameFindings scope _ update now
  | finishPoll context connectorAccountId poll updates =>
      refine framesWithin_analyticsPart ?_
      exact Analytics.within_finishPoll hn ingestWrites_sameFindings
        (fun _ _ => ⟨⟨rfl, rfl⟩, rfl, rfl⟩) context connectorAccountId poll updates
        fun _ => framesWithin_createJob now _
  | normalizeConnectorObservation context observationId =>
      refine framesWithin_analyticsPart ?_
      exact Analytics.within_normalizeConnectorObservation hn ingestWrites_sameFindings context _
  | createBusinessEvent scope eventType occurredAt publicationId =>
      rw [GovernedOp.run]
      refine framesWithin_analyticsPart ?_
      exact Analytics.within_createBusinessEvent hn (fun _ _ => ⟨⟨rfl, rfl⟩, rfl, rfl⟩) scope
        eventType occurredAt publicationId
  | createSourceRecord scope provider externalId =>
      rw [GovernedOp.run]
      refine framesWithin_analyticsPart ?_
      exact Analytics.within_createSourceRecord hn (fun _ _ => ⟨⟨rfl, rfl⟩, rfl, rfl⟩) scope
        provider externalId
  | createEvidence scope sourceRecordId status =>
      rw [GovernedOp.run]
      refine framesWithin_analyticsPart ?_
      exact Analytics.within_createEvidence hn (fun _ _ => ⟨⟨rfl, rfl⟩, rfl, rfl⟩) scope
        sourceRecordId status
  | calculateMetricVersion scope publicationId =>
      refine hf.bind (framesWithin_analyticsPart ?_) fun _ => hf.pure _
      exact Analytics.within_calculateMetricVersion hn metricWrites_sameFindings _ scope
        publicationId
  | advanceDecisionWorkflow | createCheckpointDefinitionForDecision | interpretCheckpoint
  | createGovernedLearning => cases hop

theorem secured_op (E : GovernedEnv M) (h : LedgerHolds db) (op : GovernedOp M) :
    Ensures (op.run E now) (fun _ => Secured db) db := by
  cases hop : op.writesLedger with
  | false => exact h.secured_within (sameLedgerWithin_op E hop)
  | true =>
      cases op with
      | advanceDecisionWorkflow answer context workflowId =>
          exact secured_phase6DecisionWorkflowAdvanceHandler _ _ h answer context workflowId
      | createCheckpointDefinitionForDecision scope decisionId spec =>
          exact (recorded_createCheckpointDefinitionForDecision _ h scope decisionId spec).mono
            fun _ _ h' => h'.secured
      | interpretCheckpoint context metricVersionId =>
          rw [GovernedOp.run, ensures_zoom]
          exact (finding_interpretCheckpointHandler context metricVersionId).mono
            fun _ part hfinding => hfinding.secured h
      | createGovernedLearning scope experimentResultId =>
          rw [GovernedOp.run, ensures_bind, ensures_zoom]
          refine (finding_createGovernedLearning scope experimentResultId).mono
            fun _ part hfinding => ?_
          rw [ensures_pure]
          exact hfinding.secured h
      | _ => cases hop

/-! ## Publish jobs -/

/-- The Experiment of the Decision, if it has one, is a draft. -/
def Draft (decisionId : Id) (t : ExecutionContext) : Prop :=
  ∀ e, experimentOf decisionId t = some e → e.status = .draft

/-- A publication for a Decision whose Experiment is a draft. -/
theorem ExperimentLedger.start {nextId : Id} {t : GovernedTables} (h : ExperimentLedger nextId t)
    {decisionId : Id} (hdraft : Draft decisionId t.toExecutionContext) :
    ExperimentLedger nextId
        { t with experiments := startedExperiments decisionId t.toExecutionContext } ∧
      ExperimentsEvolve t.experiments (startedExperiments decisionId t.toExecutionContext) := by
  rw [startedExperiments]
  split
  next e he =>
    have hmem : e ∈ t.experiments := Table.mem_of_find he
    have hfollows : e.status.Follows .running := hdraft e he ▸ .starts
    exact ⟨h.step hmem hfollows, .step h.experiments hmem hfollows⟩
  next => exact ⟨h, .refl _⟩

/-- Up to the call the ledger is left alone, and a call is for a draft. -/
theorem recorded_prepareExecution (D : Digest) (h : LedgerHolds db) (context : RuntimeJobContext)
    (payload : JobPayload) :
    Ensures (executionPart (prepareExecution D context payload)) (fun result db' =>
      Recorded db db' ∧ ∀ request, result = some request →
        Draft request.detail.decisionId db.tables.domain.toExecutionContext) db := by
  rw [ensures_executionPart]
  refine (ensures_prepareExecution D context payload _).mono ?_
  rintro result part ⟨hframes, hdraft⟩
  refine ⟨h.frames ⟨hframes.nextId, ?_⟩, hdraft⟩
  exact ⟨⟨hframes.domain, rfl, rfl⟩, rfl⟩

theorem secured_settleExecution (h : LedgerHolds db) (scope : TenantScope)
    (request : PublishRequest)
    (hdraft : Draft request.detail.decisionId db.tables.domain.toExecutionContext)
    (outcome : PublishOutcome) :
    Ensures (executionPart (settleExecution now scope request outcome))
      (fun _ => Secured db) db := by
  have hx := domainRelation_frames (M := M) (r := SameExperiments) now fun _ => true
  have hw := serviceWrites_sameExperiments
  cases outcome with
  | ambiguous errorClass =>
      exact h.secured_within
        (framesWithin_executionPart (within_unpublished hw.handler hx (by simp) scope request))
  | rejected errorClass =>
      exact h.secured_within
        (framesWithin_executionPart (within_unpublished hw.handler hx (by simp) scope request))
  | published messageId chatId =>
      rw [ensures_executionPart]
      refine (ensures_settle_published scope request messageId chatId _).mono ?_
      rintro _ part ⟨hnext, hdomain⟩
      obtain ⟨hledger, hevolve⟩ := ExperimentLedger.start h hdraft
      refine ⟨(hledger.mono hnext).same ?_, ?_⟩
      · exact ⟨⟨hdomain, rfl, rfl⟩, rfl⟩
      · have hexperiments := hdomain.experiments
        exact hexperiments ▸ hevolve

end Operations

/-! ## Steps -/

/-- What an operation does to the Experiments and to the calls. -/
inductive Moves (s s' : GovernedState M) : Prop
  | quiet (hsecured : Secured s.db s'.db) (hcalls : s'.calls = s.calls)
  /-- It has called `publish_text` for a Decision whose Experiment was a draft. -/
  | called (call : PublishTextCall) (hsecured : Secured s.db s'.db)
      (hdraft : Draft call.decisionId s.db.tables.domain.toExecutionContext)
      (hcalls : s'.calls = s.calls ++ [call])

section Steps

variable {s s' : GovernedState M}

theorem Moves.secured (h : Moves s s') : Secured s.db s'.db := by
  cases h with
  | quiet hsecured _ => exact hsecured
  | called _ hsecured _ _ => exact hsecured

theorem moves_executeJob (D : Digest) (now : Time) (h : LedgerHolds s.db)
    (context : RuntimeJobContext) (payload : JobPayload) (outcome : PublishOutcome) (lost : Bool) :
    Moves s (executeJob D now context payload outcome lost s) := by
  have hsame : Secured s.db s.db := ⟨h, .refl _⟩
  unfold executeJob
  split
  next => exact .quiet hsame rfl
  next db hprepare =>
    obtain ⟨hprepared, -⟩ := recorded_prepareExecution D h context payload none db hprepare
    exact .quiet hprepared.secured rfl
  next request db hprepare =>
    obtain ⟨hprepared, hdraft⟩ := recorded_prepareExecution D h context payload _ db hprepare
    have hdraft := hdraft request rfl
    dsimp only
    split
    next db' hsettle =>
      have hdraft' : Draft request.detail.decisionId db.tables.domain.toExecutionContext := by
        unfold Draft experimentOf at hdraft ⊢
        rwa [hprepared.experiments]
      have hsettled := (secured_settleExecution hprepared.ledger context.scope request hdraft'
        outcome).of_exec hsettle
      exact .called ⟨request.detail.decisionId, outcome⟩ (hprepared.then hsettled) hdraft rfl
    next => exact .called ⟨request.detail.decisionId, outcome⟩ hsame hdraft rfl

theorem moves_step (E : GovernedEnv M) (h : LedgerHolds s.db) (action : GovernedAction M) :
    Moves s (s.step E action) := by
  have hstep := s.stepped E action
  generalize s.step E action = s' at hstep ⊢
  cases hstep with
  | executed hop => exact moves_executeJob E.digest action.now h _ _ _ _
  | committed hok => exact .quiet ((secured_op E h action.op).of_exec hok) rfl
  | refused => exact .quiet ⟨h, .refl _⟩ rfl

end Steps

/-! ## Runs -/

/-- The ledger of a state. -/
abbrev GovernedState.LedgerHolds (s : GovernedState M) : Prop := LaunchOS.LedgerHolds s.db

theorem GovernedState.Initial.ledgerHolds {s : GovernedState M} (h : s.Initial) :
    s.LedgerHolds := by
  have hdomain := h.1
  constructor <;> simp [hdomain, Table.keysNodup_nil]

variable (E : GovernedEnv M)

theorem ledgerHolds_run {s : GovernedState M} (h : s.LedgerHolds)
    (actions : List (GovernedAction M)) :
    (run (GovernedState.step E) s actions).LedgerHolds :=
  invariant_run_of_step _ (I := GovernedState.LedgerHolds)
    (fun _ action h' => (moves_step E h' action).secured.ledger) h actions

/-- The calls of `publish_text` for a Decision. -/
def GovernedState.callsFor (decisionId : Id) (s : GovernedState M) : List PublishTextCall :=
  s.calls.filter fun call => call.decisionId = decisionId

/-- From its completion on an Experiment stays complete, and its Decision is not published. -/
theorem callsFor_run_of_completed {s : GovernedState M} (h : s.LedgerHolds) {decisionId : Id}
    (hdone : s.db.tables.domain.Completed decisionId) (actions : List (GovernedAction M)) :
    (run (GovernedState.step E) s actions).callsFor decisionId = s.callsFor decisionId := by
  have hrun := invariant_run_of_step (GovernedState.step E)
    (I := fun s' => s'.LedgerHolds ∧ s'.db.tables.domain.Completed decisionId ∧
      s'.callsFor decisionId = s.callsFor decisionId) ?_ ⟨h, hdone, rfl⟩ actions
  · exact hrun.2.2
  · rintro s₁ action ⟨h₁, hdone₁, hcalls₁⟩
    have hmoves := moves_step E h₁ action
    have hsecured := hmoves.secured
    refine ⟨hsecured.ledger, hdone₁.evolve hsecured.evolve, ?_⟩
    cases hmoves with
    | quiet _ hcalls => rw [GovernedState.callsFor, hcalls, ← hcalls₁, GovernedState.callsFor]
    | called call _ hdraft hcalls =>
        have hother : call.decisionId ≠ decisionId := by
          rintro rfl
          obtain ⟨e, he, hcomplete⟩ := hdone₁
          have hstatus := hdraft e he
          rw [hcomplete] at hstatus
          cases hstatus
        rw [← hcalls₁, GovernedState.callsFor, GovernedState.callsFor, hcalls]
        simp [hother]

/-- A Decision that has been superseded in a run is not published in the rest of it. -/
theorem calls_of_superseded {s : GovernedState M} (hs : s.Initial)
    (before after : List (GovernedAction M)) {decisionId successorId : Id}
    (hsuperseded : (run (GovernedState.step E) s before).db.tables.domain.supersedes successorId =
      some decisionId) :
    (run (GovernedState.step E) s (before ++ after)).callsFor decisionId =
      (run (GovernedState.step E) s before).callsFor decisionId := by
  have hledger := ledgerHolds_run E hs.ledgerHolds before
  rw [run_append]
  refine callsFor_run_of_completed E hledger ?_ after
  rw [GovernedTables.supersedes, Option.map_eq_some_iff] at hsuperseded
  obtain ⟨row, hrow, rfl⟩ := hsuperseded
  exact hledger.superseded row (Table.mem_of_find hrow)

/-! ### A Decision with two Actions -/

/-- Jobs that advance a production workflow, with the runs between them. -/
def advancesProduction (agents : String → Option AgentOutput) (workflowId : Id) (jobs : ℕ) :
    List (GovernedAction AgentOutput) :=
  (List.replicate jobs [
    ⟨0, .advanceProductionWorkflow {} (demoContext .workflowAdvance) workflowId⟩,
    ⟨0, .runAgents (answerRuns agents)⟩]).flatten

/-- A job of `TelegramExecutionHandler`. -/
def publishes (actionId executionId : Id) (outcome : PublishOutcome) :
    GovernedAction AgentOutput :=
  ⟨0, .executeJob (demoContext .executionTelegramPublish) (.telegramPublish actionId executionId)
    outcome false⟩

/-- The first Decision is approved and its asset is written. -/
def producedDecision (agents : String → Option AgentOutput) : List (GovernedAction AgentOutput) :=
  firstDecision agents 4 ++
    [⟨0, .approveDecisionForProduction demoScope 1 "owner"⟩,
      ⟨0, .startProductionWorkflow demoScope 41 1⟩] ++
    advancesProduction agents 48 4

/-- The asset has an approved Action on each of two channels. -/
def approvedActions : List (GovernedAction AgentOutput) :=
  producedDecision factAgents ++
    [⟨0, .writeBusiness [{ id := 1000, scope := demoScope, provider := "telegram" },
        { id := 1001, scope := demoScope, provider := "telegram" }]
        [{ scope := demoScope, userId := "owner", role := "OWNER" }] []⟩,
      ⟨0, .probeAndRegisterTelegramConnector demoScope 1000 "@channel" ⟨true, true, true⟩⟩,
      ⟨0, .probeAndRegisterTelegramConnector demoScope 1001 "@mirror" ⟨true, true, true⟩⟩,
      ⟨0, .createActionProposal demoScope 48 82⟩,
      ⟨0, .createActionProposal demoScope 48 83⟩,
      ⟨0, .approveActionProposal demoScope 84 "owner"⟩,
      ⟨0, .approveActionProposal demoScope 93 "owner"⟩]

/-- One of them is executed, and what is learnt from it leads to a successor. -/
def succeededDecision : List (GovernedAction AgentOutput) :=
  approvedActions ++
    [publishes 84 102 (.published "7" "@channel"),
      ⟨0, .calculateMetricVersion demoScope 107⟩,
      ⟨0, .interpretCheckpoint (demoContext .experimentCheckpoint) 111⟩,
      ⟨0, .createGovernedLearning demoScope 115⟩,
      ⟨0, .startSuccessorDecisionWorkflowFromLearning demoScope (some "owner") 41 122 (.ok [])
        demoSpec 1⟩] ++
    advancesDecision factAgents 126 4

/-- The other one is not. -/
theorem approved_action_of_superseded_not_called :
    (run (GovernedState.step (plainEnv shownFact)) governedStart succeededDecision).callsFor 41 ≠
      [] ∧
    (run (GovernedState.step (plainEnv shownFact)) governedStart (succeededDecision ++
        [publishes 93 105 (.published "7" "@mirror")])).callsFor 41 =
      (run (GovernedState.step (plainEnv shownFact)) governedStart succeededDecision).callsFor
        41 := by
  have hstate : (run (GovernedState.step (plainEnv shownFact)) governedStart
      succeededDecision).db.tables.domain.supersedes 166 = some 41 ∧
      (run (GovernedState.step (plainEnv shownFact)) governedStart succeededDecision).callsFor
        41 ≠ [] := by
    decide +kernel
  exact ⟨hstate.2, calls_of_superseded (plainEnv shownFact) governedStart_initial succeededDecision
    [publishes 93 105 (.published "7" "@mirror")] hstate.1⟩

end LaunchOS
