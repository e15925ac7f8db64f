import LaunchOS.Application.ExperimentLedger

/-!
# Footprints of the operations

Every operation of the governed loop belongs to a part of the application, and writes the tables of
its part only.

The module introduces:

* `LoopPart`: the parts, and `LoopPart.write`, the tables that each of them writes;
* `writesWithin_op`, `writes_step`: an operation leaves all other tables as they are;
* `framesWithin_executionOp`, `framesWithin_analyticsOp`: what holds of all writes of the execution
  service or of the analytics holds of their operations;
* `evidence_step`: the table of evidence only grows.
-/

namespace LaunchOS

open Txn Transition

variable {M : Type}

/-! ## Parts -/

/-- A part of the application. -/
inductive LoopPart
  | decisions
  | production
  | agents
  | business
  | execution
  | analytics
deriving DecidableEq

/-- The part of an operation. -/
def GovernedOp.part : GovernedOp M → LoopPart
  | .startPhase6DecisionWorkflow .. | .startSuccessorDecisionWorkflowFromLearning ..
  | .advanceDecisionWorkflow .. | .approveDecisionForProduction ..
  | .createCheckpointDefinitionForDecision .. => .decisions
  | .startProductionWorkflow .. | .advanceProductionWorkflow .. => .production
  | .runAgents .. => .agents
  | .writeBusiness .. => .business
  | .probeAndRegisterTelegramConnector .. | .setGlobalExecutionControls ..
  | .createActionProposal .. | .approveActionProposal .. | .approveAction .. | .executeJob .. =>
      .execution
  | .configureTelegramObservation .. | .ingestTelegramUpdate .. | .finishPoll ..
  | .normalizeConnectorObservation .. | .createBusinessEvent .. | .createSourceRecord ..
  | .createEvidence .. | .calculateMetricVersion .. | .interpretCheckpoint ..
  | .createGovernedLearning .. => .analytics

namespace LoopPart

/-- The tables of `t`, with those of the part from `t'`. -/
def write : LoopPart → GovernedTables → GovernedTables → GovernedTables
  | .decisions, t', t => { t with
      decisionTables := t'.decisionTables
      supersessions := t'.supersessions
      experiments := t'.experiments
      experimentRules := t'.experimentRules
      checkpointDefinitions := t'.checkpointDefinitions
      phase6DecisionIntents := t'.phase6DecisionIntents
      decisionLearningLinks := t'.decisionLearningLinks }
  | .production, t', t => { t with
      productionWorkflows := t'.productionWorkflows
      contentStrategies := t'.contentStrategies
      creativeBriefs := t'.creativeBriefs
      creativeBriefDetails := t'.creativeBriefDetails
      assets := t'.assets
      assetVersions := t'.assetVersions
      assetRightsProvenance := t'.assetRightsProvenance
      assetReviews := t'.assetReviews
      publicationRights := t'.publicationRights }
  | .agents, _, t => t
  | .business, t', t => { t with
      channels := t'.channels
      businessMemberships := t'.businessMemberships
      decisionTables := { t.decisionTables with launches := t'.decisionTables.launches } }
  | .execution, t', t => { t with
      toExecutionTables := { t'.toExecutionTables with
        toExecutionContext := { t.toExecutionContext with experiments := t'.experiments } } }
  | .analytics, t', t => { t with
      toAnalyticsTables := { t'.toAnalyticsTables with
        toExecutionTables := { t.toExecutionTables with experiments := t'.experiments } } }

/-- From `t` to `t'` only the tables of the part are written. -/
def Writes (part : LoopPart) (t t' : GovernedTables) : Prop := t' = part.write t' t

theorem write_self (part : LoopPart) (t : GovernedTables) : part.write t t = t := by
  cases part <;> rfl

theorem write_write (part : LoopPart) (t t' t'' : GovernedTables) :
    part.write t'' (part.write t' t) = part.write t'' t := by
  cases part <;> rfl

instance (part : LoopPart) : IsPreorder GovernedTables part.Writes where
  refl t := (part.write_self t).symm
  trans t t' t'' h h' := by
    unfold Writes at h h' ⊢
    rw [h, write_write] at h'
    exact h'

end LoopPart

/-! ## Checkpoints and successors -/

/-- `r` allows what `application/phase6.py` writes next to the decision workflow. -/
structure Phase6Writes (r : GovernedTables → GovernedTables → Prop) : Prop where
  insertCheckpoint : ∀ t checkpoint,
    r t { t with checkpointDefinitions := t.checkpointDefinitions ++ [checkpoint] }
  insertSupersession : ∀ t s, r t { t with supersessions := t.supersessions ++ [s] }
  insertLink : ∀ t link, r t { t with decisionLearningLinks := t.decisionLearningLinks ++ [link] }
  insertIntent : ∀ t intent,
    r t { t with phase6DecisionIntents := t.phase6DecisionIntents ++ [intent] }
  insertExperiment : ∀ t experiment rule, r t { t with
    experiments := t.experiments ++ [experiment]
    experimentRules := t.experimentRules ++ [rule] }

section Phase6

variable {now : Time} {r : GovernedTables → GovernedTables → Prop}
variable {R : AgentDatabase M GovernedTables → AgentDatabase M GovernedTables → Prop}
variable (h : DomainRelation now (fun _ => true) r R) (hw : Phase6Writes r)
include h hw

theorem within_createCheckpointDefinitionForDecision (H : CheckpointDigest) (scope : TenantScope)
    (decisionId : Id) (spec : CheckpointSpec) :
    Within R (createCheckpointDefinitionForDecision H scope decisionId spec) := by
  refine h.bind h.tables fun t => h.bind (h.check _) fun sources => ?_
  obtain ⟨decision, experiment, rule⟩ := sources
  dsimp only
  split
  next => exact h.check _
  next =>
    refine h.bind (h.check _) fun _ => h.bind h.newId fun id => ?_
    exact h.modifyTables _ fun t => hw.insertCheckpoint t _

theorem within_supersedePrior (scope : TenantScope) (intent : Phase6DecisionIntent)
    (decisionId : Id) : Within R (supersedePrior scope intent decisionId) := by
  refine h.bind h.tables fun t => ?_
  split
  next => exact h.pure _
  next priorDecisionId learningId _ _ =>
    refine h.bind (h.check _) fun learning => h.bind (h.check _) fun _ => ?_
    have hlink := h.bind h.newId fun id => h.modifyTables _ fun t =>
      hw.insertLink t ⟨id, scope, decisionId, priorDecisionId, learningId⟩
    dsimp only
    split
    next =>
      refine h.bind (h.check _) fun _ => ?_
      split
      next => exact h.pure _
      next => exact hlink
    next =>
      refine h.bind (h.modifyTables _ fun t => hw.insertSupersession t _) fun _ => ?_
      split
      next => exact h.pure _
      next => exact hlink
  next => exact h.check _

theorem within_materializePhase6Intent (H : CheckpointDigest) (scope : TenantScope)
    (workflowId : Id) : Within R (materializePhase6Intent H scope workflowId) := by
  refine h.bind h.tables fun t => ?_
  split
  next intent decisionId _ _ =>
    refine h.bind (h.check _) fun _ => h.bind (h.check _) fun _ => ?_
    refine h.bind (within_createCheckpointDefinitionForDecision h hw H scope decisionId _)
      fun _ => ?_
    exact within_supersedePrior h hw scope intent decisionId
  next => exact h.pure _

theorem within_materializeExperiment (decisionId : Id) :
    Within R (materializeExperiment decisionId) := by
  refine h.bind h.tables fun t => ?_
  split
  next => exact h.pure _
  next =>
    refine h.bind h.newId fun id => h.bind h.newId fun ruleId => ?_
    exact h.modifyTables _ fun t => hw.insertExperiment t _ _

theorem within_phase6DecisionWorkflowAdvanceHandler (H : CheckpointDigest) (R' : RunReader M)
    (answer : DecisionAnswer) (context : RuntimeJobContext) (workflowId : Id)
    (hadvance : ∀ answer, Within R ((DecisionWorkflow.decisionWorkflowAdvanceHandler R' now answer
      context workflowId).zoom decisionView)) :
    Within R (phase6DecisionWorkflowAdvanceHandler H R' now answer context workflowId) := by
  refine h.bind h.tables fun t => h.bind (hadvance _) fun _ => h.bind h.tables fun t' => ?_
  have hintent := within_materializePhase6Intent h hw H context.scope workflowId
  split
  next => exact h.bind (within_materializeExperiment h hw _) fun _ => hintent
  next => exact hintent

theorem within_startGovernedWorkflow (H : CheckpointDigest) (scope : TenantScope)
    (payload : Except JobError (List SnapshotEvidence)) (launchId : Option Id)
    (spec : CheckpointSpec) (maxRevisionRounds : ℤ) (priorDecisionId learningId : Option Id)
    (hsnapshot : Within R ((DecisionWorkflow.takeSnapshot scope (.created payload)).zoom
      decisionView))
    (hstart : ∀ source, Within R ((DecisionWorkflow.startDecisionWorkflow now scope source launchId
      maxRevisionRounds).zoom decisionView)) :
    Within R (startGovernedWorkflow H now scope payload launchId spec maxRevisionRounds
      priorDecisionId learningId) := by
  refine h.bind hsnapshot fun snapshot => h.bind (hstart _) fun _ => ?_
  refine h.bind h.tables fun t => h.bind (h.check _) fun w => h.bind h.tables fun t => ?_
  split
  next => exact h.check _
  next => exact h.bind h.newId fun id => h.modifyTables _ fun t => hw.insertIntent t _

end Phase6

/-! ## The operations of a part -/

section Parts

variable {now : Time} {α : Type}

/-- All writes of the execution service. -/
structure ExecutionWrites (r : ExecutionTables → ExecutionTables → Prop) : Prop
    extends IsPreorder _ r where
  service : ServiceWrites r
  proposal : ProposalWrites r
  publication : PublicationWrites r

/-- All writes of the analytics. -/
structure AnalyticsWrites (r : Analytics.AnalyticsTables → Analytics.AnalyticsTables → Prop) : Prop
    extends IsPreorder _ r where
  ingest : Analytics.IngestWrites r
  metric : Analytics.MetricWrites r
  learning : Analytics.LearningWrites r
  states : ∀ t states, r t { t with connectorObservationStates := states }
  insertEvent : ∀ t event, r t { t with businessEvents := t.businessEvents ++ [event] }
  insertEvidence : ∀ t evidence, r t { t with evidence := t.evidence ++ [evidence] }

theorem framesWithin_executionOp {r : ExecutionTables → ExecutionTables → Prop}
    [IsPreorder _ r] (hcommand : CommandWrites r) (hproposal : ProposalWrites r)
    {r' : GovernedTables → GovernedTables → Prop} [IsPreorder _ r']
    (hlift : ∀ t s, r t.toExecutionTables s →
      r' t { t with toExecutionTables := s }) (E : GovernedEnv M) {op : GovernedOp M}
    (hpart : op.part = .execution) : Within (Frames r') (op.run E now) := by
  have hf := domainRelation_frames (M := M) (r := r) now fun _ => true
  have hd := domainRelation_frames (M := M) (r := r') now fun _ => true
  have hexecution : ∀ {β : Type} {m : ExecutionTxn M β}, Within (Frames r) m →
      Within (Frames r') (executionPart m) := by
    intro β m hm db
    rw [executionPart, ensures_zoom, ensures_zoom]
    refine (hm _).mono fun _ part hpart => ⟨hpart.nextId, ?_⟩
    exact hlift db.tables.domain part.tables.domain hpart.domain
  cases op with
  | probeAndRegisterTelegramConnector scope channelId targetChatId readiness =>
      exact hexecution (within_probeAndRegisterTelegramConnector hf scope channelId _ _
        hcommand.accounts hcommand.insertAccount)
  | setGlobalExecutionControls scope userId automationPaused executionPaused revokeAll =>
      exact hexecution (within_setGlobalExecutionControls hf hproposal.controls scope userId _ _ _)
  | createActionProposal scope productionWorkflowId connectorAccountId =>
      refine hd.bind (hexecution ?_) fun _ => hd.pure _
      exact within_createActionProposal hproposal hf hcommand _ scope productionWorkflowId _
  | approveActionProposal scope actionId userId =>
      refine hd.bind (hexecution ?_) fun _ => hd.pure _
      exact within_approveActionProposal hproposal hf hcommand _ scope actionId userId
        fun _ _ => framesWithin_createJob now _
  | approveAction scope actionId userId =>
      exact hexecution (within_approveAction hcommand hf scope actionId userId)
  | executeJob context payload outcome lost => exact hd.pure _
  | _ => cases hpart

/-- A publish job writes in its two transactions. -/
theorem frames_executeJob {r : ExecutionTables → ExecutionTables → Prop} [IsPreorder _ r]
    (hhandler : HandlerWrites r) (hpublication : PublicationWrites r) {r' : GovernedTables → GovernedTables → Prop} [IsPreorder _ r']
    (hlift : ∀ t s, r t.toExecutionTables s → r' t { t with toExecutionTables := s })
    (D : Digest) (s : GovernedState M) (context : RuntimeJobContext) (payload : JobPayload)
    (outcome : PublishOutcome) (lost : Bool) :
    Frames r' s.db (executeJob D now context payload outcome lost s).db := by
  have hf := domainRelation_frames (M := M) (r := r) now fun _ => true
  have hexecution : ∀ {β : Type} {m : ExecutionTxn M β}, Within (Frames r) m →
      Within (Frames r') (executionPart m) := by
    intro β m hm db
    rw [executionPart, ensures_zoom, ensures_zoom]
    refine (hm _).mono fun _ part hpart => ⟨hpart.nextId, ?_⟩
    exact hlift db.tables.domain part.tables.domain hpart.domain
  have hprepare := hexecution (within_prepareExecution hhandler hf D context payload) s.db
  unfold executeJob
  split
  next => exact refl _
  next db hok => exact hprepare none db hok
  next request db hok =>
    have hprepared := hprepare (some request) db hok
    dsimp only
    split
    next db' hsettle =>
      have hsettled := hexecution (within_settleExecution hhandler hf hpublication context.scope
        request outcome)
      exact hprepared.trans ((hsettled db).of_exec hsettle)
    next => exact refl _

theorem framesWithin_analyticsOp {r : Analytics.AnalyticsTables → Analytics.AnalyticsTables → Prop}
    (hr : AnalyticsWrites r) {r' : GovernedTables → GovernedTables → Prop} [IsPreorder _ r']
    (hlift : ∀ t s, r t.toAnalyticsTables s → r' t { t with toAnalyticsTables := s })
    (E : GovernedEnv M) {op : GovernedOp M} (hpart : op.part = .analytics) :
    Within (Frames r') (op.run E now) := by
  have := hr.toIsPreorder
  have hf := domainRelation_frames (M := M) (r := r) now fun _ => true
  have hd := domainRelation_frames (M := M) (r := r') now fun _ => true
  have hanalytics : ∀ {β : Type} {m : Analytics.AnalyticsTxn M β}, Within (Frames r) m →
      Within (Frames r') (m.zoom analyticsView) := fun hm => framesWithin_zoom hm hlift
  cases op with
  | configureTelegramObservation scope connectorAccountId allowedUpdateTypes =>
      exact hanalytics (Analytics.within_configureTelegramObservation hf hr.states scope _ _)
  | ingestTelegramUpdate scope connectorAccountId update =>
      refine hd.bind (hanalytics ?_) fun _ => hd.pure _
      exact Analytics.within_ingestTelegramUpdate hf hr.ingest scope _ update now
  | finishPoll context connectorAccountId poll updates =>
      exact hanalytics (Analytics.within_finishPoll hf hr.ingest hr.states context _ poll updates
        fun _ => framesWithin_createJob now _)
  | normalizeConnectorObservation context observationId =>
      exact hanalytics (Analytics.within_normalizeConnectorObservation hf hr.ingest context _)
  | createBusinessEvent scope eventType occurredAt publicationId =>
      rw [GovernedOp.run]
      exact hanalytics (Analytics.within_createBusinessEvent hf hr.insertEvent scope eventType _ _)
  | createSourceRecord scope provider externalId =>
      rw [GovernedOp.run]
      exact hanalytics (Analytics.within_createSourceRecord hf hr.ingest.insertSource scope _ _)
  | createEvidence scope sourceRecordId status =>
      rw [GovernedOp.run]
      exact hanalytics (Analytics.within_createEvidence hf hr.insertEvidence scope _ status)
  | calculateMetricVersion scope publicationId =>
      refine hd.bind (hanalytics ?_) fun _ => hd.pure _
      exact Analytics.within_calculateMetricVersion hf hr.metric _ scope publicationId
  | interpretCheckpoint context metricVersionId =>
      exact hanalytics (Analytics.within_interpretCheckpointHandler hf hr.learning context _
        fun _ => framesWithin_createJob now _)
  | createGovernedLearning scope experimentResultId =>
      refine hd.bind (hanalytics ?_) fun _ => hd.pure _
      exact Analytics.within_createGovernedLearning hf hr.learning scope experimentResultId
  | _ => cases hpart

/-- The decision workflow writes tables of its own. -/
theorem writesWithin_decisionPart {m : DecisionTxn M α} (h : Within (AgentGrows now) m) :
    Within (Frames LoopPart.decisions.Writes) (m.zoom decisionView) := by
  intro db
  rw [ensures_zoom]
  exact (h _).mono fun _ part hpart => ⟨hpart.nextId_le, rfl⟩

/-- And so does production. -/
theorem writesWithin_productionPart {m : ProductionTxn M α} (h : Within (AgentGrows now) m) :
    Within (Frames LoopPart.production.Writes) (productionPart m) := by
  intro db
  rw [productionPart, ensures_through]
  exact (h _).mono fun _ part hpart => ⟨hpart.nextId_le, rfl⟩

end Parts

/-! ## Every operation -/

section Operations

variable (E : GovernedEnv M) (now : Time)

/-- The execution service reads the tables of others, and writes the status of Experiments. -/
def SameContext (t t' : ExecutionTables) : Prop :=
  t'.toExecutionContext = { t.toExecutionContext with experiments := t'.experiments }

instance : IsPreorder ExecutionTables SameContext where
  refl _ := rfl
  trans t t' t'' h h' := by
    unfold SameContext at h h' ⊢
    rw [h', h]

theorem executionWrites_sameContext : ExecutionWrites SameContext where
  refl := refl
  trans := fun _ _ _ => trans_of SameContext
  service := ⟨by constructor <;> intros <;> rfl, fun _ _ _ => rfl⟩
  proposal := by constructor <;> intros <;> rfl
  publication := by constructor <;> intros <;> rfl

/-- The analytics read the tables of the execution service, and write the status of Experiments. -/
def SameExecution (t t' : Analytics.AnalyticsTables) : Prop :=
  t'.toExecutionTables = { t.toExecutionTables with experiments := t'.experiments }

instance : IsPreorder Analytics.AnalyticsTables SameExecution where
  refl _ := rfl
  trans t t' t'' h h' := by
    unfold SameExecution at h h' ⊢
    rw [h', h]

theorem analyticsWrites_sameExecution : AnalyticsWrites SameExecution where
  refl := refl
  trans := fun _ _ _ => trans_of SameExecution
  ingest := by constructor <;> intros <;> rfl
  metric := by constructor <;> intros <;> rfl
  learning := by constructor <;> intros <;> rfl
  states _ _ := rfl
  insertEvent _ _ := rfl
  insertEvidence _ _ := rfl

theorem phase6Writes_decisions : Phase6Writes LoopPart.decisions.Writes := by
  constructor <;> intros <;> rfl

theorem writes_of_sameContext (t : GovernedTables) (s : ExecutionTables)
    (h : SameContext t.toExecutionTables s) :
    LoopPart.execution.Writes t { t with toExecutionTables := s } := by
  let put (context : ExecutionContext) : GovernedTables :=
    { t with toExecutionTables := { s with toExecutionContext := context } }
  have hput : put s.toExecutionContext = put _ := congrArg put h
  exact hput

theorem writes_of_sameExecution (t : GovernedTables) (s : Analytics.AnalyticsTables)
    (h : SameExecution t.toAnalyticsTables s) :
    LoopPart.analytics.Writes t { t with toAnalyticsTables := s } := by
  let put (execution : ExecutionTables) : GovernedTables :=
    { t with toAnalyticsTables := { s with toExecutionTables := execution } }
  have hput : put s.toExecutionTables = put _ := congrArg put h
  exact hput

/-- An operation writes the tables of its part. -/
theorem writesWithin_op (op : GovernedOp M) : Within (Frames op.part.Writes) (op.run E now) := by
  have hd := domainRelation_frames (M := M) (r := LoopPart.decisions.Writes) now fun _ => true
  have hp := domainRelation_frames (M := M) (r := LoopPart.production.Writes) now fun _ => true
  have hb := domainRelation_frames (M := M) (r := LoopPart.business.Writes) now fun _ => true
  have hw := phase6Writes_decisions
  have hsnapshot : ∀ scope source, Within (Frames LoopPart.decisions.Writes)
      ((DecisionWorkflow.takeSnapshot (M := M) scope source).zoom decisionView) :=
    fun scope source => writesWithin_decisionPart
      (DecisionWorkflow.within_takeSnapshot
        (domainRelation_agentGrows now (fun _ => true) fun _ _ => True) (fun _ _ => trivial) scope _)
  cases op with
  | startPhase6DecisionWorkflow scope payload launchId spec maxRevisionRounds =>
      exact within_startGovernedWorkflow hd hw _ scope payload launchId spec _ _ _
        (hsnapshot scope _) fun source => writesWithin_decisionPart
          (DecisionWorkflow.growsWithin_startDecisionWorkflow now scope source launchId _)
  | startSuccessorDecisionWorkflowFromLearning scope actorUserId priorDecisionId learningId payload
      spec maxRevisionRounds =>
      refine hd.bind hd.tables fun t => hd.bind (hd.check _) fun _ => ?_
      exact within_startGovernedWorkflow hd hw _ scope payload none spec _ _ _
        (hsnapshot scope _) fun source => writesWithin_decisionPart
          (DecisionWorkflow.growsWithin_startDecisionWorkflow now scope source none _)
  | advanceDecisionWorkflow answer context workflowId =>
      exact within_phase6DecisionWorkflowAdvanceHandler hd hw _ _ answer context workflowId
        fun answer => writesWithin_decisionPart
          (DecisionWorkflow.growsWithin_decisionWorkflowAdvanceHandler _ now answer context _)
  | approveDecisionForProduction scope workflowId approvedByUserId =>
      exact hd.bind (writesWithin_decisionPart (DecisionWorkflow.growsWithin_approveDecisionForProduction
        now scope workflowId approvedByUserId)) fun _ => hd.pure _
  | createCheckpointDefinitionForDecision scope decisionId spec =>
      exact within_createCheckpointDefinitionForDecision hd hw _ scope decisionId spec
  | startProductionWorkflow scope decisionId maxRevisionRounds =>
      exact writesWithin_productionPart
        (growsWithin_startProductionWorkflow now scope decisionId maxRevisionRounds)
  | advanceProductionWorkflow answer context workflowId =>
      refine hp.bind (writesWithin_productionPart
        (growsWithin_productionWorkflowAdvanceHandler _ now answer context workflowId)) fun _ => ?_
      exact hp.modifyTables _ fun _ => rfl
  | runAgents work => exact within_modify _ fun _ => ⟨le_rfl, rfl⟩
  | writeBusiness channels businessMemberships launches =>
      rw [GovernedOp.run]
      exact hb.modifyTables _ fun _ => rfl
  | probeAndRegisterTelegramConnector | setGlobalExecutionControls | createActionProposal
  | approveActionProposal | approveAction | executeJob =>
      exact framesWithin_executionOp executionWrites_sameContext.service.toCommandWrites
        executionWrites_sameContext.proposal writes_of_sameContext E rfl
  | configureTelegramObservation | ingestTelegramUpdate | finishPoll
  | normalizeConnectorObservation | createBusinessEvent | createSourceRecord | createEvidence
  | calculateMetricVersion | interpretCheckpoint | createGovernedLearning =>
      exact framesWithin_analyticsOp analyticsWrites_sameExecution writes_of_sameExecution E rfl

/-- One operation. -/
theorem writes_step (action : GovernedAction M) (s : GovernedState M) :
    Frames action.op.part.Writes s.db (s.step E action).db := by
  have hstep := s.stepped E action
  generalize s.step E action = s' at hstep ⊢
  cases hstep with
  | @executed context payload outcome lost hop =>
      rw [hop]
      exact frames_executeJob executionWrites_sameContext.service.handler
        executionWrites_sameContext.publication writes_of_sameContext E.digest s context payload
        outcome lost
  | committed hok => exact (writesWithin_op E action.now action.op s.db).of_exec hok
  | refused => exact refl _

/-- What holds of all writes of the analytics holds of a step of theirs. -/
theorem frames_analyticsStep
    {r : Analytics.AnalyticsTables → Analytics.AnalyticsTables → Prop} (hr : AnalyticsWrites r)
    {action : GovernedAction M} (hpart : action.op.part = .analytics) (s : GovernedState M) :
    r s.db.tables.domain.toAnalyticsTables
      (s.step E action).db.tables.domain.toAnalyticsTables := by
  have := hr.toIsPreorder
  have : IsPreorder GovernedTables fun t t' => r t.toAnalyticsTables t'.toAnalyticsTables :=
    { refl := fun _ => refl_of r _, trans := fun _ _ _ => trans_of r }
  have hframes : Within (Frames fun t t' => r t.toAnalyticsTables t'.toAnalyticsTables)
      (action.op.run E action.now) := framesWithin_analyticsOp hr (fun _ _ h => h) E hpart
  have hstep := s.stepped E action
  generalize s.step E action = s' at hstep ⊢
  cases hstep with
  | executed hop =>
      rw [hop] at hpart
      cases hpart
  | committed hok => exact ((hframes s.db).of_exec hok).domain
  | refused => exact refl_of r _

/-- Evidence is only added. -/
theorem evidence_step (action : GovernedAction M) (s : GovernedState M) :
    s.db.tables.domain.evidence <+: (s.step E action).db.tables.domain.evidence := by
  by_cases hpart : action.op.part = .analytics
  · have hr : AnalyticsWrites fun t t' => t.evidence <+: t'.evidence :=
      { refl := fun _ => List.prefix_rfl
        trans := fun _ _ _ => List.IsPrefix.trans
        ingest := by constructor <;> intros <;> simp
        metric := by constructor <;> intros <;> simp
        learning := by constructor <;> intros <;> simp
        states := fun _ _ => List.prefix_rfl
        insertEvent := fun _ _ => List.prefix_rfl
        insertEvidence := fun _ _ => List.prefix_append _ _ }
    exact frames_analyticsStep E hr hpart s
  · have hwrites := (writes_step E action s).domain
    unfold LoopPart.Writes at hwrites
    rw [hwrites]
    generalize action.op.part = part at hpart
    cases part with
    | analytics => exact absurd rfl hpart
    | decisions | production | agents | business | execution => exact List.prefix_rfl

theorem evidence_run (s : GovernedState M) (actions : List (GovernedAction M)) :
    s.db.tables.domain.evidence <+:
      (run (GovernedState.step E) s actions).db.tables.domain.evidence :=
  relation_run_of_step _
    (R := fun s s' : GovernedState M =>
      s.db.tables.domain.evidence <+: s'.db.tables.domain.evidence)
    (fun _ => List.prefix_rfl) (fun _ _ _ => List.IsPrefix.trans)
    (fun s action => evidence_step E action s) s actions

end Operations

end LaunchOS
