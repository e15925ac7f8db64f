import LaunchOS.Application.DecisionMoves
import LaunchOS.Application.Supersession
import LaunchOS.Execution.ProposalMoves

/-!
# What happens to intents and checkpoints

The rows of `application/phase6.py`: an intent is registered when its workflow is started, and when the
workflow has its Decision, the Experiment, the checkpoint and the supersession follow.

The module introduces:

* `GovernedStart`: a workflow is started, with its intent;
* `ExperimentMade`, `CheckpointMade`, `PriorSuperseded`, `IntentMade`: what follows a Decision, one
  after the other;
* `Phase6Step`, `phase6Step`: what a step of the decision workflows does;
* `Experiment.core`, `cores_step`: no other step writes Experiments, except for their status.
-/

namespace LaunchOS

open Txn Transition

variable {M : Type}

/-! ## The rows -/

/-- The row that `_register_intent` adds. -/
def CheckpointDigest.intentOf (H : CheckpointDigest) (scope : TenantScope) (workflowId : Id)
    (spec : CheckpointSpec) (priorDecisionId learningId : Option Id) (id : Id) :
    Phase6DecisionIntent where
  id := id
  scope := scope
  workflowId := workflowId
  checkpointSpec := spec
  checkpointSpecHash := H.contractHash spec
  priorDecisionId := priorDecisionId
  learningId := learningId

/-- The row that `create_checkpoint_definition_for_decision` adds. -/
def CheckpointDigest.checkpointOf (H : CheckpointDigest) (decisionId : Id) (spec : CheckpointSpec)
    (experiment : Experiment) (rule : ExperimentRule) (id : Id) : CheckpointDefinition where
  id := id
  experimentId := experiment.id
  decisionId := decisionId
  metricKey := spec.metricKey
  windowSeconds := spec.windowSeconds
  graceSeconds := spec.graceSeconds
  success := spec.success
  weakSignal := spec.weakSignal
  failure := spec.failure
  contractHash := H.boundCheckpointHash spec experiment.id rule.id

/-! ## What follows a Decision -/

section Moves

variable (H : CheckpointDigest) (scope : TenantScope) (nextId nextId' : Id)

/-- A workflow is started, with its intent. -/
structure GovernedStart (spec : CheckpointSpec) (priorDecisionId learningId : Option Id)
    (t t' : GovernedTables) (w : DecisionWorkflow) (intent : Phase6DecisionIntent) : Prop where
  id : nextId ≤ w.id ∧ w.id < nextId'
  snapshot : nextId ≤ w.snapshotId ∧ w.snapshotId < nextId'
  status : w.status.decided = false
  final : w.finalDecisionId = none
  workflows : SameDecisions
    { t.decisionTables with decisionWorkflows := t.decisionTables.decisionWorkflows ++ [w] }
    t'.decisionTables
  intents : FoundOrAdded (Table.find Phase6DecisionIntent.workflowId w.id t.phase6DecisionIntents)
    (∃ id, intent = H.intentOf scope w.id spec priorDecisionId learningId id)
    t.phase6DecisionIntents t'.phase6DecisionIntents intent
  rest : t' = { t with
    decisionTables := t'.decisionTables
    phase6DecisionIntents := t'.phase6DecisionIntents }

/-- The Experiment of a new Decision, with its rule, if its candidate proposes one. -/
def ExperimentMade (decisionId : Id) (t t' : GovernedTables) : Prop :=
  t' = t ∨ ∃ (experiment : Experiment) (rule : ExperimentRule),
    (nextId ≤ experiment.id ∧ experiment.id < nextId') ∧ experiment.decisionId = decisionId ∧
      rule.experimentId = experiment.id ∧
      t' = { t with
        experiments := t.experiments ++ [experiment]
        experimentRules := t.experimentRules ++ [rule] }

/-- The checkpoint of the Experiment of a Decision is found or made, with the bound hash. -/
structure CheckpointMade (decisionId : Id) (spec : CheckpointSpec) (t t' : GovernedTables)
    (decision : FinalDecision) (experiment : Experiment) (rule : ExperimentRule)
    (checkpoint : CheckpointDefinition) : Prop where
  sources : checkpointSources scope decisionId spec t = .ok (decision, experiment, rule)
  checkpoints : FoundOrAdded
    (Table.find CheckpointDefinition.experimentId experiment.id t.checkpointDefinitions)
    (∃ id, checkpoint = H.checkpointOf decision.id spec experiment rule id)
    t.checkpointDefinitions t'.checkpointDefinitions checkpoint
  bound : checkpoint.contractHash = H.boundCheckpointHash spec experiment.id rule.id
  rest : t' = { t with checkpointDefinitions := t'.checkpointDefinitions }

/-- The Decision supersedes the prior one, and is linked to the learning about that. -/
structure Superseded (decisionId priorDecisionId learningId : Id) (t t' : GovernedTables)
    (learning : Analytics.Learning) (supersession : Supersession) (link : DecisionLearningLink) :
    Prop where
  known : Table.find Analytics.Learning.id learningId t.learnings = some learning
  learned : learning.decisionId = some priorDecisionId
  supersessions : FoundOrAdded (Table.find Supersession.decisionId decisionId t.supersessions)
    (supersession = ⟨decisionId, priorDecisionId⟩) t.supersessions t'.supersessions supersession
  prior : supersession.supersedesDecisionId = priorDecisionId
  links : FoundOrAdded
    (Table.find DecisionLearningLink.decisionId decisionId t.decisionLearningLinks)
    (∃ id, link = ⟨id, scope, decisionId, priorDecisionId, learningId⟩)
    t.decisionLearningLinks t'.decisionLearningLinks link
  rest : t' = { t with
    supersessions := t'.supersessions
    decisionLearningLinks := t'.decisionLearningLinks }

/-- What `supersedePrior` does for an intent that binds nothing, or both. -/
inductive PriorSuperseded (intent : Phase6DecisionIntent) (decisionId : Id) (t t' : GovernedTables) :
    Prop
  | unbound (hprior : intent.priorDecisionId = none) (hlearning : intent.learningId = none)
      (hsame : t' = t)
  | bound (priorDecisionId learningId : Id) (hprior : intent.priorDecisionId = some priorDecisionId)
      (hlearning : intent.learningId = some learningId) (learning : Analytics.Learning)
      (supersession : Supersession) (link : DecisionLearningLink)
      (hsuperseded : Superseded scope decisionId priorDecisionId learningId t t' learning
        supersession link)

/-- The intent of a workflow that has its Decision is carried out. -/
inductive IntentMade (workflowId : Id) (t t' : GovernedTables) : Prop
  | absent (hintent : ∀ intent decisionId,
        Table.find Phase6DecisionIntent.workflowId workflowId t.phase6DecisionIntents = some intent →
        t.finalDecisionOf workflowId ≠ some decisionId) (hsame : t' = t)
  | made (intent : Phase6DecisionIntent) (decisionId : Id) (t₁ : GovernedTables)
      (decision : FinalDecision) (experiment : Experiment) (rule : ExperimentRule)
      (checkpoint : CheckpointDefinition)
      (hintent : Table.find Phase6DecisionIntent.workflowId workflowId t.phase6DecisionIntents =
        some intent)
      (hfinal : t.finalDecisionOf workflowId = some decisionId) (hscope : scope = intent.scope)
      (hcheckpoint : CheckpointMade H scope decisionId intent.checkpointSpec t t₁ decision
        experiment rule checkpoint)
      (hsuperseded : PriorSuperseded scope intent decisionId t₁ t')

end Moves

/-! ## The transactions -/

section Transactions

variable {now : Time} {db : AgentDatabase M GovernedTables} (H : CheckpointDigest)

theorem ensures_createCheckpointDefinitionForDecision (scope : TenantScope) (decisionId : Id)
    (spec : CheckpointSpec) :
    Ensures (createCheckpointDefinitionForDecision H scope decisionId spec) (fun _ db' =>
      db.nextId ≤ db'.nextId ∧ ∃ decision experiment rule checkpoint,
        CheckpointMade H scope decisionId spec db.tables.domain db'.tables.domain decision
          experiment rule checkpoint) db := by
  rw [createCheckpointDefinitionForDecision, ensures_bind, ensures_tables, ensures_bind,
    ensures_check]
  rintro ⟨decision, experiment, rule⟩ hsources
  dsimp only
  split
  next existing hexisting =>
    rw [ensures_check]
    intro _ hbound
    exact ⟨le_rfl, decision, experiment, rule, existing, hsources, .found hexisting rfl,
      require_eq_ok_iff.mp hbound, rfl⟩
  next hnone =>
    rw [ensures_bind, ensures_check]
    intro _ _
    rw [ensures_bind, ensures_newId, ensures_modifyTables]
    exact ⟨Nat.le_succ _, decision, experiment, rule, _, hsources,
      .added hnone ⟨db.nextId, rfl⟩ rfl, rfl, rfl⟩

theorem ensures_supersedePrior (scope : TenantScope) (intent : Phase6DecisionIntent)
    (decisionId : Id) :
    Ensures (supersedePrior scope intent decisionId) (fun _ db' => db.nextId ≤ db'.nextId ∧
      PriorSuperseded scope intent decisionId db.tables.domain db'.tables.domain) db := by
  rw [supersedePrior, ensures_bind, ensures_tables]
  split
  next hprior hlearning => exact (ensures_pure ()).mpr ⟨le_rfl, .unbound hprior hlearning rfl⟩
  next priorDecisionId learningId hprior hlearning =>
    dsimp only
    rw [ensures_bind, ensures_check]
    intro learning hfind
    rw [ensures_bind, ensures_check]
    intro _ hlearned
    have hfound := orRaise_eq_ok_iff.mp hfind
    have hlearned := require_eq_ok_iff.mp hlearned
    split
    next other hother =>
      rw [ensures_bind, ensures_check]
      intro _ hequal
      obtain ⟨supersession, hsupersession, hsupersedes⟩ := Option.map_eq_some_iff.mp hother
      have hprior' : supersession.supersedesDecisionId = priorDecisionId :=
        hsupersedes.trans (require_eq_ok_iff.mp hequal)
      split
      next link hlink =>
        exact (ensures_pure _).mpr ⟨le_rfl, .bound priorDecisionId learningId hprior hlearning
          learning supersession link ⟨hfound, hlearned, .found hsupersession rfl, hprior',
            .found hlink rfl, rfl⟩⟩
      next hnone =>
        rw [ensures_bind, ensures_newId, ensures_modifyTables]
        exact ⟨Nat.le_succ _, .bound priorDecisionId learningId hprior hlearning learning
          supersession _ ⟨hfound, hlearned, .found hsupersession rfl, hprior',
            .added hnone ⟨db.nextId, rfl⟩ rfl, rfl⟩⟩
    next hunknown =>
      have hnew := Option.map_eq_none_iff.mp hunknown
      rw [ensures_bind, ensures_modifyTables]
      split
      next link hlink =>
        exact (ensures_pure _).mpr ⟨le_rfl, .bound priorDecisionId learningId hprior hlearning
          learning ⟨decisionId, priorDecisionId⟩ link ⟨hfound, hlearned, .added hnew rfl rfl, rfl,
            .found hlink rfl, rfl⟩⟩
      next hnone =>
        rw [ensures_bind, ensures_newId, ensures_modifyTables]
        exact ⟨Nat.le_succ _, .bound priorDecisionId learningId hprior hlearning learning
          ⟨decisionId, priorDecisionId⟩ _ ⟨hfound, hlearned, .added hnew rfl rfl, rfl,
            .added hnone ⟨db.nextId, rfl⟩ rfl, rfl⟩⟩
  next =>
    rw [ensures_check]
    intro _ hfailed
    cases hfailed

theorem ensures_materializePhase6Intent (scope : TenantScope) (workflowId : Id) :
    Ensures (materializePhase6Intent H scope workflowId) (fun _ db' => db.nextId ≤ db'.nextId ∧
      IntentMade H scope workflowId db.tables.domain db'.tables.domain) db := by
  rw [materializePhase6Intent, ensures_bind, ensures_tables]
  split
  next intent decisionId hintent hfinal =>
    rw [ensures_bind, ensures_check]
    intro _ hscope
    rw [ensures_bind, ensures_check]
    intro _ _
    rw [ensures_bind]
    refine (ensures_createCheckpointDefinitionForDecision H scope decisionId _).mono ?_
    rintro _ db₁ ⟨hnext₁, decision, experiment, rule, checkpoint, hcheckpoint⟩
    refine (ensures_supersedePrior scope intent decisionId).mono ?_
    rintro _ db₂ ⟨hnext₂, hsuperseded⟩
    exact ⟨hnext₁.trans hnext₂, .made intent decisionId _ decision experiment rule checkpoint
      hintent hfinal (TenantScope.assertMatches_eq_ok_iff.mp hscope) hcheckpoint hsuperseded⟩
  next hother =>
    refine (ensures_pure ()).mpr ⟨le_rfl, .absent ?_ rfl⟩
    intro intent decisionId hintent hfinal
    exact hother intent decisionId hintent hfinal

theorem ensures_materializeExperiment (decisionId : Id) :
    Ensures (materializeExperiment (M := M) decisionId) (fun _ db' => db.nextId ≤ db'.nextId ∧
      ExperimentMade db.nextId db'.nextId decisionId db.tables.domain db'.tables.domain) db := by
  rw [materializeExperiment, ensures_bind, ensures_tables]
  split
  next => exact (ensures_pure ()).mpr ⟨le_rfl, .inl rfl⟩
  next proposal _ =>
    rw [ensures_bind, ensures_newId, ensures_bind, ensures_newId, ensures_modifyTables]
    have hnext : db.nextId < db.nextId + 2 := Nat.lt_add_of_pos_right (Nat.succ_pos 1)
    exact ⟨hnext.le, .inr ⟨_, _, ⟨le_rfl, hnext⟩, rfl, rfl, rfl⟩⟩

theorem ensures_registerIntent (scope : TenantScope) (workflowId : Id) (spec : CheckpointSpec)
    (priorDecisionId learningId : Option Id) :
    Ensures (registerIntent H scope workflowId spec priorDecisionId learningId) (fun _ db' =>
      db.nextId ≤ db'.nextId ∧ ∃ intents intent,
        FoundOrAdded (Table.find Phase6DecisionIntent.workflowId workflowId
            db.tables.domain.phase6DecisionIntents)
          (∃ id, intent = H.intentOf scope workflowId spec priorDecisionId learningId id)
          db.tables.domain.phase6DecisionIntents intents intent ∧
        db'.tables.domain = { db.tables.domain with phase6DecisionIntents := intents }) db := by
  rw [registerIntent, ensures_bind, ensures_tables]
  split
  next existing hexisting =>
    rw [ensures_check]
    exact fun _ _ => ⟨le_rfl, _, existing, .found hexisting rfl, rfl⟩
  next hnone =>
    rw [ensures_bind, ensures_newId, ensures_modifyTables]
    exact ⟨Nat.le_succ _, _, _, .added hnone ⟨db.nextId, rfl⟩ rfl, rfl⟩

/-- A successor is started for a Decision that is there. -/
theorem prior_of_assertAdaptable {scope : TenantScope} {actorUserId : Option String}
    {priorDecisionId learningId : Id} {t : GovernedTables} {done : Unit}
    (h : assertAdaptable scope actorUserId priorDecisionId learningId t = .ok done) :
    ∃ decision ∈ t.decisionTables.decisions, decision.id = priorDecisionId := by
  unfold assertAdaptable at h
  obtain ⟨_, -, h⟩ := Except.bind_eq_ok_iff.mp h
  obtain ⟨_, -, h⟩ := Except.bind_eq_ok_iff.mp h
  obtain ⟨prior, hprior, -⟩ := Except.bind_eq_ok_iff.mp h
  have hfind := orRaise_eq_ok_iff.mp hprior
  exact ⟨prior, Table.mem_of_find hfind, Table.key_of_find hfind⟩

/-- The snapshot is new, and so is its workflow. -/
theorem ensures_startGovernedWorkflow (scope : TenantScope)
    (payload : Except JobError (List SnapshotEvidence)) (launchId : Option Id)
    (spec : CheckpointSpec) (maxRevisionRounds : ℤ) (priorDecisionId learningId : Option Id)
    (h : db.tables.domain.decisionTables.Settled db.nextId) :
    Ensures (startGovernedWorkflow H now scope payload launchId spec maxRevisionRounds
      priorDecisionId learningId) (fun _ db' => db.nextId ≤ db'.nextId ∧ ∃ w intent,
        GovernedStart H scope db.nextId db'.nextId spec priorDecisionId learningId
          db.tables.domain db'.tables.domain w intent) db := by
  rw [startGovernedWorkflow, ensures_bind, ensures_zoom, DecisionWorkflow.takeSnapshot,
    ensures_bind, ensures_check]
  intro evidence _
  rw [ensures_bind, ensures_newId, ensures_bind, ensures_modifyTables, ensures_pure, ensures_bind,
    ensures_zoom]
  refine (ensures_startDecisionWorkflow scope ⟨db.nextId, scope, evidence⟩ launchId
    maxRevisionRounds).mono ?_
  rintro _ part ⟨hnext, hstart⟩
  have hnext₁ : db.nextId + 1 ≤ part.nextId := hnext
  rw [ensures_bind, ensures_tables, ensures_bind, ensures_check]
  intro w hw
  have hfind := orRaise_eq_ok_iff.mp hw
  have hmem : w ∈ part.tables.domain.decisionWorkflows := List.mem_of_find?_eq_some hfind
  have hsnapshot : w.snapshotId = db.nextId := by
    have hfound := List.find?_some hfind
    rw [Bool.and_eq_true] at hfound
    exact of_decide_eq_true hfound.2
  -- no workflow had the snapshot before
  have hnew : w ∉ db.tables.domain.decisionTables.decisionWorkflows :=
    fun hold => (h.snapshot_lt w hold).ne hsnapshot
  refine (ensures_registerIntent H scope w.id spec priorDecisionId learningId).mono ?_
  rintro _ db' ⟨hnext₂, intents, intent, hintent, hdomain⟩
  have hnext₂ : part.nextId ≤ db'.nextId := hnext₂
  have hlt : db.nextId < db'.nextId := (Nat.lt_succ_self _).trans_le (hnext₁.trans hnext₂)
  rcases hstart with hsame | ⟨w₁, hid, -, hstatus, hfinal, hsame⟩
  · rw [hsame.workflows] at hmem
    exact absurd hmem hnew
  · have hmem₁ := hmem
    rw [hsame.workflows] at hmem₁
    rcases List.mem_append.mp hmem₁ with hold | hw₁
    · exact absurd hold hnew
    · obtain rfl := List.mem_singleton.mp hw₁
      have hid₁ : db.nextId + 1 ≤ w.id := hid.1
      refine ⟨hlt.le, w, intent, ⟨(Nat.le_succ _).trans hid₁, hid.2.trans_le hnext₂⟩,
        ⟨hsnapshot.ge, hsnapshot ▸ hlt⟩, hstatus, hfinal, ?_, ?_, ?_⟩
      · rw [hdomain]
        exact ⟨hsame.workflows, hsame.decisions, hsame.approvals⟩
      · rw [hdomain]
        exact hintent
      · rw [hdomain]
        rfl

end Transactions

/-! ## Steps -/

/-- What a step of the decision workflows does. -/
inductive Phase6Step (H : CheckpointDigest) (op : GovernedOp M) (nextId nextId' : Id)
    (t t' : GovernedTables) : Prop
  | started (scope : TenantScope) (spec : CheckpointSpec) (priorDecisionId learningId : Option Id)
      (w : DecisionWorkflow) (intent : Phase6DecisionIntent)
      (hstart : GovernedStart H scope nextId nextId' spec priorDecisionId learningId t t' w intent)
      (hprior : ∀ id, priorDecisionId = some id →
        ∃ decision ∈ t.decisionTables.decisions, decision.id = id)
  | advanced (answer : DecisionAnswer) (context : RuntimeJobContext) (workflowId : Id)
      (hop : op = .advanceDecisionWorkflow answer context workflowId) (nextId₁ nextId₂ : Id)
      (t₁ t₂ : GovernedTables) (hle : nextId ≤ nextId₁ ∧ nextId₁ ≤ nextId₂ ∧ nextId₂ ≤ nextId')
      (hmoves : DecisionMoves op nextId nextId₁ t.decisionTables t₁.decisionTables)
      (hrest : t₁ = { t with decisionTables := t₁.decisionTables })
      (hexperiment : t₂ = t₁ ∨ ∃ decisionId, t.finalDecisionOf workflowId = none ∧
        t₁.finalDecisionOf workflowId = some decisionId ∧
        ExperimentMade nextId₁ nextId₂ decisionId t₁ t₂)
      (hintent : IntentMade H context.scope workflowId t₂ t')
  | approved (scope : TenantScope) (workflowId : Id) (approvedByUserId : String)
      (hop : op = .approveDecisionForProduction scope workflowId approvedByUserId)
      (hmoves : DecisionMoves op nextId nextId' t.decisionTables t'.decisionTables)
      (hrest : t' = { t with decisionTables := t'.decisionTables })
  | bound (scope : TenantScope) (decisionId : Id) (spec : CheckpointSpec)
      (hop : op = .createCheckpointDefinitionForDecision scope decisionId spec)
      (decision : FinalDecision) (experiment : Experiment) (rule : ExperimentRule)
      (checkpoint : CheckpointDefinition)
      (hcheckpoint : CheckpointMade H scope decisionId spec t t' decision experiment rule checkpoint)

section Steps

variable (E : GovernedEnv M) {now : Time} {db : AgentDatabase M GovernedTables}

theorem ensures_phase6DecisionWorkflowAdvanceHandler {op : GovernedOp M} (answer : DecisionAnswer)
    (context : RuntimeJobContext) (workflowId : Id)
    (hop : op = .advanceDecisionWorkflow answer context workflowId)
    (h : db.tables.domain.decisionTables.Settled db.nextId) :
    Ensures (phase6DecisionWorkflowAdvanceHandler E.checkpointDigest E.reader now answer context
      workflowId) (fun _ db' => db.nextId ≤ db'.nextId ∧ Phase6Step E.checkpointDigest op db.nextId
        db'.nextId db.tables.domain db'.tables.domain) db := by
  rw [phase6DecisionWorkflowAdvanceHandler, ensures_bind, ensures_tables, ensures_bind,
    ensures_zoom]
  refine (Ensures.and (moves_decisionWorkflowAdvanceHandler E.reader _ answer context workflowId hop
    h) (DecisionWorkflow.growsWithin_decisionWorkflowAdvanceHandler E.reader now _ context workflowId
      _)).mono ?_
  rintro _ part ⟨hmoves, hgrows⟩
  have hnext₁ : db.nextId ≤ part.nextId := hgrows.nextId_le
  rw [ensures_bind, ensures_tables]
  dsimp only
  split
  next decisionId hnone hsome =>
    rw [ensures_bind]
    refine (ensures_materializeExperiment decisionId).mono ?_
    rintro _ db₂ ⟨hnext₂, hexperiment⟩
    refine (ensures_materializePhase6Intent E.checkpointDigest context.scope workflowId).mono ?_
    rintro _ db₃ ⟨hnext₃, hintent⟩
    exact ⟨hnext₁.trans (hnext₂.trans hnext₃), .advanced answer context workflowId hop part.nextId
      db₂.nextId { db.tables.domain with decisionTables := part.tables.domain } _
      ⟨hnext₁, hnext₂, hnext₃⟩ hmoves rfl (.inr ⟨decisionId, hnone, hsome, hexperiment⟩) hintent⟩
  next =>
    refine (ensures_materializePhase6Intent E.checkpointDigest context.scope workflowId).mono ?_
    rintro _ db₂ ⟨hnext₂, hintent⟩
    exact ⟨hnext₁.trans hnext₂, .advanced answer context workflowId hop part.nextId part.nextId
      { db.tables.domain with decisionTables := part.tables.domain } _ ⟨hnext₁, le_rfl, hnext₂⟩
      hmoves rfl (.inl rfl) hintent⟩

theorem phase6Step_op {op : GovernedOp M} (hpart : op.part = .decisions)
    (h : db.tables.domain.decisionTables.Settled db.nextId) :
    Ensures (op.run E now) (fun _ db' => db.nextId ≤ db'.nextId ∧ Phase6Step E.checkpointDigest op
      db.nextId db'.nextId db.tables.domain db'.tables.domain) db := by
  cases op with
  | startPhase6DecisionWorkflow scope payload launchId spec maxRevisionRounds =>
      refine (ensures_startGovernedWorkflow E.checkpointDigest scope payload launchId spec
        maxRevisionRounds none none h).mono ?_
      rintro _ db' ⟨hnext, w, intent, hstart⟩
      exact ⟨hnext, .started scope spec none none w intent hstart (by simp)⟩
  | startSuccessorDecisionWorkflowFromLearning scope actorUserId priorDecisionId learningId payload
      spec maxRevisionRounds =>
      rw [GovernedOp.run, startSuccessorDecisionWorkflowFromLearning, ensures_bind, ensures_tables,
        ensures_bind, ensures_check]
      intro _ hadaptable
      obtain ⟨prior, hprior, hid⟩ := prior_of_assertAdaptable hadaptable
      refine (ensures_startGovernedWorkflow E.checkpointDigest scope payload none spec
        maxRevisionRounds (some priorDecisionId) (some learningId) h).mono ?_
      rintro _ db' ⟨hnext, w, intent, hstart⟩
      refine ⟨hnext, .started scope spec _ _ w intent hstart fun id hsome => ?_⟩
      exact ⟨prior, hprior, hid.trans (Option.some.inj hsome)⟩
  | advanceDecisionWorkflow answer context workflowId =>
      exact ensures_phase6DecisionWorkflowAdvanceHandler E answer context workflowId rfl h
  | approveDecisionForProduction scope workflowId approvedByUserId =>
      rw [GovernedOp.run, ensures_bind, ensures_zoom]
      refine (Ensures.and (moves_approveDecisionForProduction scope workflowId approvedByUserId rfl)
        (DecisionWorkflow.growsWithin_approveDecisionForProduction now scope workflowId
          approvedByUserId _)).mono ?_
      rintro _ part ⟨hmoves, hgrows⟩
      exact (ensures_pure _).mpr
        ⟨hgrows.nextId_le, .approved scope workflowId approvedByUserId rfl hmoves rfl⟩
  | createCheckpointDefinitionForDecision scope decisionId spec =>
      refine (ensures_createCheckpointDefinitionForDecision E.checkpointDigest scope decisionId
        spec).mono ?_
      rintro _ db' ⟨hnext, decision, experiment, rule, checkpoint, hcheckpoint⟩
      exact ⟨hnext, .bound scope decisionId spec rfl decision experiment rule checkpoint hcheckpoint⟩
  | _ => cases hpart

/-- A step of the decision workflows, if it is not refused. -/
theorem phase6Step (action : GovernedAction M) (s : GovernedState M)
    (hpart : action.op.part = .decisions)
    (h : s.db.tables.domain.decisionTables.Settled s.db.nextId) :
    (s.step E action).db = s.db ∨ Phase6Step E.checkpointDigest action.op s.db.nextId
      (s.step E action).db.nextId s.db.tables.domain (s.step E action).db.tables.domain := by
  have hstep := s.stepped E action
  generalize s.step E action = s' at hstep ⊢
  cases hstep with
  | executed hop =>
      rw [hop] at hpart
      cases hpart
  | committed hok => exact .inr ((phase6Step_op E hpart h).of_exec hok).2
  | refused => exact .inl rfl

/-! ### Decisions -/

variable {H : CheckpointDigest} {scope : TenantScope} {nextId nextId' : Id} {t t' : GovernedTables}

theorem ExperimentMade.decisionTables {decisionId : Id}
    (h : ExperimentMade nextId nextId' decisionId t t') :
    t'.decisionTables = t.decisionTables := by
  rcases h with rfl | ⟨experiment, rule, -, -, -, rfl⟩ <;> rfl

theorem PriorSuperseded.decisionTables {intent : Phase6DecisionIntent} {decisionId : Id}
    (h : PriorSuperseded scope intent decisionId t t') : t'.decisionTables = t.decisionTables := by
  cases h with
  | unbound _ _ hsame => rw [hsame]
  | bound _ _ _ _ _ _ _ hsuperseded => rw [hsuperseded.rest]

theorem IntentMade.decisionTables {workflowId : Id} (h : IntentMade H scope workflowId t t') :
    t'.decisionTables = t.decisionTables := by
  cases h with
  | absent _ hsame => rw [hsame]
  | made intent decisionId t₁ _ _ _ _ _ _ _ hcheckpoint hsuperseded =>
      rw [hsuperseded.decisionTables, hcheckpoint.rest]

theorem Phase6Step.settled {op : GovernedOp M} (hstep : Phase6Step H op nextId nextId' t t')
    (hle : nextId ≤ nextId') (h : t.decisionTables.Settled nextId) :
    t'.decisionTables.Settled nextId' := by
  cases hstep with
  | started scope spec priorDecisionId learningId w intent hstart =>
      exact (h.start hstart.id.1 hstart.id.2 hstart.snapshot.2 hstart.status hstart.final).same
        hstart.workflows
  | advanced answer context workflowId hop nextId₁ nextId₂ t₁ t₂ hnext hmoves hrest hexperiment
      hintent =>
      have h₁ := (hmoves.settled hnext.1 h).mono (hnext.2.1.trans hnext.2.2)
      have h₂ : t₂.decisionTables = t₁.decisionTables := by
        rcases hexperiment with rfl | ⟨decisionId, -, -, hmade⟩
        · rfl
        · exact hmade.decisionTables
      rw [hintent.decisionTables, h₂]
      exact h₁
  | approved scope workflowId userId _ hmoves _ => exact hmoves.settled hle h
  | bound scope decisionId spec hop decision experiment rule checkpoint hcheckpoint =>
      rw [hcheckpoint.rest]
      exact h.mono hle

/-- The other parts leave the decision workflows alone. -/
theorem LoopPart.Writes.sameDecisions {part : LoopPart} (h : part.Writes t t')
    (hpart : part ≠ .decisions) : SameDecisions t.decisionTables t'.decisionTables := by
  unfold LoopPart.Writes at h
  rw [h]
  cases part with
  | decisions => exact absurd rfl hpart
  | production | agents | business | execution | analytics => exact ⟨rfl, rfl, rfl⟩

theorem settled_step (action : GovernedAction M) (s : GovernedState M)
    (h : s.db.tables.domain.decisionTables.Settled s.db.nextId) :
    (s.step E action).db.tables.domain.decisionTables.Settled (s.step E action).db.nextId := by
  have hwrites := writes_step E action s
  by_cases hpart : action.op.part = .decisions
  · rcases phase6Step E action s hpart h with hsame | hstep
    · rw [hsame]
      exact h
    · exact hstep.settled hwrites.nextId h
  · exact (h.mono hwrites.nextId).same (hwrites.domain.sameDecisions hpart)

end Steps

/-! ## Experiments -/

/-- What never changes of an Experiment. -/
def Experiment.core (experiment : Experiment) : Id × Id × String :=
  (experiment.id, experiment.decisionId, experiment.metric)

/-- A new status leaves the cores alone. -/
theorem cores_modify (id : Id) (status : ExperimentStatus) (experiments : List Experiment) :
    (Table.modify Experiment.id id (fun experiment => { experiment with status := status })
      experiments).map Experiment.core = experiments.map Experiment.core := by
  rw [Table.modify, List.map_map]
  refine List.map_congr_left fun experiment _ => ?_
  rw [Function.comp_apply]
  split <;> rfl

theorem cores_startedExperiments (decisionId : Id) (t : ExecutionContext) :
    (startedExperiments decisionId t).map Experiment.core = t.experiments.map Experiment.core := by
  rw [startedExperiments]
  split
  next experiment _ => exact cores_modify _ _ _
  next => rfl

section Cores

variable {now : Time} {db : AgentDatabase M GovernedTables}

/-- The same Experiments, but for their status. -/
def SameCores (t t' : GovernedTables) : Prop :=
  t'.experiments.map Experiment.core = t.experiments.map Experiment.core

theorem sameCores_settleExecution (scope : TenantScope) (request : PublishRequest)
    (outcome : PublishOutcome) :
    Ensures (executionPart (settleExecution now scope request outcome))
      (fun _ db' => SameCores db.tables.domain db'.tables.domain) db := by
  have hx := domainRelation_frames (M := M) (r := SameExperiments) now fun _ => true
  have hw := serviceWrites_sameExperiments
  rw [ensures_executionPart]
  cases outcome with
  | ambiguous errorClass =>
      refine (within_unpublished hw.handler hx (by simp) scope request _).mono fun _ _ h => ?_
      exact congrArg (List.map Experiment.core) h.domain.experiments
  | rejected errorClass =>
      refine (within_unpublished hw.handler hx (by simp) scope request _).mono fun _ _ h => ?_
      exact congrArg (List.map Experiment.core) h.domain.experiments
  | published messageId chatId =>
      refine (ensures_settle_published scope request messageId chatId _).mono ?_
      rintro _ part ⟨-, hdomain⟩
      exact (congrArg (List.map Experiment.core) hdomain.experiments).trans
        (cores_startedExperiments _ _)

theorem sameCores_executeJob (D : Digest) (s : GovernedState M) (context : RuntimeJobContext)
    (payload : JobPayload) (outcome : PublishOutcome) (lost : Bool) :
    SameCores s.db.tables.domain
      (executeJob D now context payload outcome lost s).db.tables.domain := by
  have hprepare : Ensures (executionPart (prepareExecution D context payload))
      (fun _ db' => SameCores s.db.tables.domain db'.tables.domain) s.db := by
    rw [ensures_executionPart]
    exact (ensures_prepareExecution D context payload _).mono
      fun _ _ h => congrArg (List.map Experiment.core) h.1.domain.experiments
  unfold executeJob
  split
  next => rfl
  next db hok => exact hprepare none db hok
  next request db hok =>
    dsimp only
    split
    next db' hsettle =>
      exact ((sameCores_settleExecution context.scope request outcome).of_exec hsettle).trans
        (hprepare (some request) db hok)
    next => rfl

theorem Finding.sameCores {part : AgentDatabase M Analytics.AnalyticsTables}
    (h : Finding (db.withDomain db.tables.domain.toAnalyticsTables) part) :
    SameCores db.tables.domain { db.tables.domain with toAnalyticsTables := part.tables.domain } := by
  cases h with
  | none hframes => exact congrArg (List.map Experiment.core) hframes.domain.experiments
  | interpreted checkpoint experiment detail _ _ _ _ _ hdomain =>
      exact (congrArg (List.map Experiment.core) hdomain.experiments).trans (cores_modify _ _ _)
  | learned detail checkpoint learning _ _ _ _ _ hdomain =>
      exact congrArg (List.map Experiment.core) hdomain.experiments

/-- Experiments are only written with their Decision, except for their status. -/
theorem cores_step (E : GovernedEnv M) (action : GovernedAction M) (s : GovernedState M)
    (hpart : action.op.part ≠ .decisions) :
    SameCores s.db.tables.domain (s.step E action).db.tables.domain := by
  have hstep := s.stepped E action
  generalize s.step E action = s' at hstep ⊢
  cases hstep with
  | executed hop => exact sameCores_executeJob E.digest s _ _ _ _
  | refused => rfl
  | @committed db hok =>
      cases hledger : action.op.writesLedger with
      | false =>
          have hframes := (sameLedgerWithin_op E hledger s.db).of_exec hok
          exact congrArg (List.map Experiment.core) hframes.domain.experiments
      | true =>
          generalize action.op = op at hpart hok hledger
          cases op with
          | interpretCheckpoint context metricVersionId =>
              refine Ensures.of_exec (Q := fun db =>
                SameCores s.db.tables.domain db.tables.domain) ?_ hok
              rw [GovernedOp.run, ensures_zoom]
              exact (finding_interpretCheckpointHandler context metricVersionId).mono
                fun _ part hfinding => hfinding.sameCores
          | createGovernedLearning scope experimentResultId =>
              refine Ensures.of_exec (Q := fun db =>
                SameCores s.db.tables.domain db.tables.domain) ?_ hok
              rw [GovernedOp.run, ensures_bind, ensures_zoom]
              refine (finding_createGovernedLearning scope experimentResultId).mono
                fun _ part hfinding => ?_
              rw [ensures_pure]
              exact hfinding.sameCores
          | advanceDecisionWorkflow | createCheckpointDefinitionForDecision =>
              exact absurd rfl hpart
          | _ => cases hledger

end Cores

end LaunchOS
