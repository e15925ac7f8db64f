import LaunchOS.Application.Phase6Moves
import LaunchOS.Application.ReadyAssets

/-!
# Checkpoints before proposals

An Action of a Decision with an Experiment is reviewed against the checkpoint of the Experiment, which
is then never written again.

The module introduces:

* `DetailStep`: proposals are written with their reviews, and none of these rows changes;
* `CheckpointLedger`: an Experiment has one checkpoint, and rows name Decisions that are there;
* `CheckpointStep`: Experiments come with new Decisions, and checkpoints are only added;
* `checkpoint_fixed_before_proposal`: the checkpoint was there before the proposal, and stays the one
  of its Experiment as it was.
-/

namespace LaunchOS

open Txn Transition

variable {M : Type}

/-! ## Proposals -/

/-- The details and the reviews are left alone. -/
structure SameDetails (t t' : ExecutionTables) : Prop where
  details : t'.actionProposalDetails = t.actionProposalDetails
  reviews : t'.executionControllerReviews = t.executionControllerReviews

theorem Handled.sameDetails {t t' : ExecutionTables} (h : Handled t t') : SameDetails t t' :=
  ⟨h.details, h.reviews⟩

/-- What an operation does to the proposals. -/
inductive DetailStep (D : Digest) (now : Time) (nextId nextId' : Id) (t t' : GovernedTables) : Prop
  | same (hsame : SameDetails t.toExecutionTables t'.toExecutionTables)
  | proposed (scope : TenantScope) (productionWorkflowId connectorAccountId : Id)
      (action : ActionProposal)
      (hproposed : Proposed D now scope productionWorkflowId connectorAccountId nextId nextId'
        t.toExecutionTables t'.toExecutionTables action)

section DetailSteps

variable (E : GovernedEnv M) {now : Time} {db : AgentDatabase M GovernedTables}

theorem detailStep_op {op : GovernedOp M} (hpart : op.part = .execution) :
    Ensures (op.run E now) (fun _ db' => DetailStep E.digest now db.nextId db'.nextId
      db.tables.domain db'.tables.domain) db := by
  have hf := domainRelation_frames (M := M) (r := Handled) now fun _ => true
  have hhandled : ∀ {m : ExecutionTxn M Unit}, Within (Frames Handled) m →
      Ensures (executionPart m) (fun _ db' => DetailStep E.digest now db.nextId db'.nextId
        db.tables.domain db'.tables.domain) db := by
    intro m hm
    rw [ensures_executionPart]
    exact (hm _).mono fun _ _ h => .same h.domain.sameDetails
  cases op with
  | probeAndRegisterTelegramConnector scope channelId targetChatId readiness =>
      refine hhandled (within_probeAndRegisterTelegramConnector hf scope channelId targetChatId
        readiness (fun _ _ _ => ?_) (fun _ _ => ?_))
      all_goals exact .of_eq rfl rfl rfl rfl rfl rfl
  | setGlobalExecutionControls scope userId automationPaused executionPaused revokeAll =>
      refine hhandled (within_setGlobalExecutionControls hf (fun _ _ => ?_) scope userId _ _ _)
      exact .of_eq rfl rfl rfl rfl rfl rfl
  | createActionProposal scope productionWorkflowId connectorAccountId =>
      rw [GovernedOp.run, ensures_bind, ensures_executionPart]
      refine (createActionProposal_moves E.digest scope productionWorkflowId
        connectorAccountId).mono ?_
      rintro action part (⟨rfl, -⟩ | hproposed)
      · exact (ensures_pure _).mpr (.same ⟨rfl, rfl⟩)
      · exact (ensures_pure _).mpr (.proposed scope productionWorkflowId connectorAccountId action
          hproposed)
  | approveActionProposal scope actionId userId =>
      rw [GovernedOp.run, ensures_bind, ensures_executionPart, approveActionProposal_eq, ensures_map]
      refine (approveActionProposal_moves E.digest scope actionId userId).mono ?_
      rintro result part ⟨action, -, happroved, -⟩
      exact (ensures_pure _).mpr (.same ⟨happroved.details, happroved.reviews⟩)
  | approveAction scope actionId userId =>
      rw [GovernedOp.run, ensures_executionPart]
      refine (approveAction_moves scope actionId userId).mono ?_
      rintro _ part ⟨action, -, hgranted⟩
      exact .same ⟨hgranted.details, hgranted.reviews⟩
  | executeJob context payload outcome lost => exact (ensures_pure _).mpr (.same ⟨rfl, rfl⟩)
  | _ => cases hpart

theorem LoopPart.Writes.sameDetails {part : LoopPart} {t t' : GovernedTables}
    (h : part.Writes t t') (hpart : part ≠ .execution) :
    SameDetails t.toExecutionTables t'.toExecutionTables := by
  unfold LoopPart.Writes at h
  rw [h]
  cases part with
  | execution => exact absurd rfl hpart
  | decisions | production | agents | business | analytics => exact ⟨rfl, rfl⟩

theorem detailStep (action : GovernedAction M) (s : GovernedState M) :
    DetailStep E.digest action.now s.db.nextId (s.step E action).db.nextId s.db.tables.domain
      (s.step E action).db.tables.domain := by
  by_cases hpart : action.op.part = .execution
  · have hstep := s.stepped E action
    generalize s.step E action = s' at hstep ⊢
    have : IsPreorder GovernedTables fun t t' => Handled t.toExecutionTables t'.toExecutionTables :=
      { refl := fun _ => refl_of Handled _, trans := fun _ _ _ => trans_of Handled }
    cases hstep with
    | @executed context payload outcome lost hop =>
        have hframes : Frames (fun t t' => Handled t.toExecutionTables t'.toExecutionTables) s.db
            (executeJob E.digest action.now context payload outcome lost s).db :=
          frames_executeJob .handled .handled (fun _ _ h => h) E.digest s context payload outcome lost
        exact .same hframes.domain.sameDetails
    | committed hok => exact (detailStep_op E hpart).of_exec hok
    | refused => exact .same ⟨rfl, rfl⟩
  · exact .same ((writes_step E action s).domain.sameDetails hpart)

end DetailSteps

/-! ## The ledger -/

/-- An Experiment has one checkpoint, and what names a Decision names one that is there. -/
structure CheckpointLedger (nextId : Id) (t : GovernedTables) : Prop where
  settled : t.decisionTables.Settled nextId
  experiments : ∀ e ∈ t.experiments, e.decisionId < nextId
  checkpoints : Table.KeysNodup CheckpointDefinition.experimentId t.checkpointDefinitions
  workflows : ∀ w ∈ t.productionWorkflows, w.decisionId < nextId
  details : ∀ detail ∈ t.actionProposalDetails, detail.decisionId < nextId

/-- New Experiments are those of new Decisions, and checkpoints are only added. -/
structure CheckpointStep (nextId : Id) (t t' : GovernedTables) : Prop where
  experiments : ∃ new : List Experiment, t'.experiments.map Experiment.core =
    (t.experiments ++ new).map Experiment.core ∧ ∀ e ∈ new, nextId ≤ e.decisionId
  checkpoints : t.checkpointDefinitions <+: t'.checkpointDefinitions

section Ledger

variable {H : CheckpointDigest} {scope : TenantScope} {nextId nextId' : Id} {t t' : GovernedTables}

theorem CheckpointStep.same (hexperiments : SameCores t t')
    (hcheckpoints : t.checkpointDefinitions <+: t'.checkpointDefinitions) :
    CheckpointStep nextId t t' :=
  ⟨⟨[], by rw [List.append_nil]; exact hexperiments, by simp⟩, hcheckpoints⟩

/-- The Experiment of a Decision that was there is the one it was. -/
theorem CheckpointStep.experimentOf (h : CheckpointStep nextId t t') {decisionId : Id}
    (hlt : decisionId < nextId) :
    (LaunchOS.experimentOf decisionId t'.toExecutionContext).map Experiment.core =
      (LaunchOS.experimentOf decisionId t.toExecutionContext).map Experiment.core := by
  have hcores : ∀ experiments : List Experiment,
      (Table.find Experiment.decisionId decisionId experiments).map Experiment.core =
        (experiments.map Experiment.core).find? fun core => core.2.1 = decisionId := by
    intro experiments
    rw [List.find?_map]
    rfl
  obtain ⟨new, heq, hnew⟩ := h.experiments
  have hnone : (new.map Experiment.core).find? (fun core => core.2.1 = decisionId) = none := by
    rw [List.find?_eq_none]
    intro core hcore
    obtain ⟨e, he, rfl⟩ := List.mem_map.mp hcore
    have hne : e.decisionId ≠ decisionId := (hlt.trans_le (hnew e he)).ne'
    simp [Experiment.core, hne]
  rw [LaunchOS.experimentOf, LaunchOS.experimentOf, hcores, hcores, heq, List.map_append,
    List.find?_append, hnone, Option.or_none]

theorem CheckpointMade.isPrefix {decisionId : Id} {spec : CheckpointSpec} {decision : FinalDecision}
    {experiment : Experiment} {rule : ExperimentRule} {checkpoint : CheckpointDefinition}
    (h : CheckpointMade H scope decisionId spec t t' decision experiment rule checkpoint) :
    t.checkpointDefinitions <+: t'.checkpointDefinitions := h.checkpoints.isPrefix

theorem CheckpointMade.keysNodup {decisionId : Id} {spec : CheckpointSpec}
    {decision : FinalDecision} {experiment : Experiment} {rule : ExperimentRule}
    {checkpoint : CheckpointDefinition}
    (h : CheckpointMade H scope decisionId spec t t' decision experiment rule checkpoint)
    (hnodup : Table.KeysNodup CheckpointDefinition.experimentId t.checkpointDefinitions) :
    Table.KeysNodup CheckpointDefinition.experimentId t'.checkpointDefinitions := by
  refine h.checkpoints.keysNodup ?_ hnodup
  rintro ⟨id, rfl⟩
  rfl

theorem PriorSuperseded.checkpoints {intent : Phase6DecisionIntent} {decisionId : Id}
    (h : PriorSuperseded scope intent decisionId t t') :
    t'.checkpointDefinitions = t.checkpointDefinitions ∧ t'.experiments = t.experiments := by
  cases h with
  | unbound _ _ hsame =>
      rw [hsame]
      exact ⟨rfl, rfl⟩
  | bound _ _ _ _ _ _ _ hsuperseded =>
      rw [hsuperseded.rest]
      exact ⟨rfl, rfl⟩

/-- What the writes of checkpoints keep. -/
structure KeepsCheckpoints (t t' : GovernedTables) : Prop where
  experiments : t'.experiments = t.experiments
  isPrefix : t.checkpointDefinitions <+: t'.checkpointDefinitions
  keysNodup : Table.KeysNodup CheckpointDefinition.experimentId t.checkpointDefinitions →
    Table.KeysNodup CheckpointDefinition.experimentId t'.checkpointDefinitions

theorem KeepsCheckpoints.of_eq (hexperiments : t'.experiments = t.experiments)
    (hcheckpoints : t'.checkpointDefinitions = t.checkpointDefinitions) : KeepsCheckpoints t t' := by
  refine ⟨hexperiments, ?_, ?_⟩ <;> rw [hcheckpoints]
  exact id

theorem IntentMade.keepsCheckpoints {workflowId : Id} (h : IntentMade H scope workflowId t t') :
    KeepsCheckpoints t t' := by
  cases h with
  | absent _ hsame => exact .of_eq (by rw [hsame]) (by rw [hsame])
  | made intent decisionId t₁ decision experiment rule checkpoint _ _ _ hcheckpoint hsuperseded =>
      obtain ⟨hcheckpoints, hexperiments⟩ := hsuperseded.checkpoints
      refine ⟨?_, ?_, ?_⟩
      · rw [hexperiments, hcheckpoint.rest]
      · rw [hcheckpoints]
        exact hcheckpoint.isPrefix
      · rw [hcheckpoints]
        exact hcheckpoint.keysNodup

/-- What a step of the decision workflows does to Experiments and checkpoints. -/
theorem Phase6Step.checkpointStep {op : GovernedOp M}
    (hstep : Phase6Step H op nextId nextId' t t') (hle : nextId ≤ nextId')
    (h : CheckpointLedger nextId t) :
    CheckpointStep nextId t t' ∧ (∀ e ∈ t'.experiments, e.decisionId < nextId') ∧
      Table.KeysNodup CheckpointDefinition.experimentId t'.checkpointDefinitions := by
  have hlt : ∀ e ∈ t.experiments, e.decisionId < nextId' :=
    fun e he => (h.experiments e he).trans_le hle
  have hkeeps : KeepsCheckpoints t t' → CheckpointStep nextId t t' ∧
      (∀ e ∈ t'.experiments, e.decisionId < nextId') ∧
      Table.KeysNodup CheckpointDefinition.experimentId t'.checkpointDefinitions := by
    intro hkeeps
    refine ⟨.same (congrArg (List.map Experiment.core) hkeeps.experiments) hkeeps.isPrefix, ?_,
      hkeeps.keysNodup h.checkpoints⟩
    rw [hkeeps.experiments]
    exact hlt
  cases hstep with
  | started scope spec priorDecisionId learningId w intent hstart =>
      exact hkeeps (.of_eq (by rw [hstart.rest]) (by rw [hstart.rest]))
  | approved scope workflowId userId hop hmoves hrest =>
      exact hkeeps (.of_eq (by rw [hrest]) (by rw [hrest]))
  | bound scope decisionId spec hop decision experiment rule checkpoint hcheckpoint =>
      exact hkeeps ⟨by rw [hcheckpoint.rest], hcheckpoint.isPrefix, hcheckpoint.keysNodup⟩
  | advanced answer context workflowId hop nextId₁ nextId₂ t₁ t₂ hnext hmoves hrest hexperiment
      hintent =>
      have hintent := hintent.keepsCheckpoints
      have h₁ : t₁.experiments = t.experiments := by rw [hrest]
      have hc₁ : t₁.checkpointDefinitions = t.checkpointDefinitions := by rw [hrest]
      have hsame : t₂ = t₁ → KeepsCheckpoints t t' := by
        rintro rfl
        exact ⟨hintent.experiments.trans h₁, hc₁ ▸ hintent.isPrefix, hc₁ ▸ hintent.keysNodup⟩
      rcases hexperiment with heq | ⟨decisionId, hnone, hsome, heq | hmade⟩
      · exact hkeeps (hsame heq)
      · exact hkeeps (hsame heq)
      · obtain ⟨experiment, rule, -, hdecision, -, heq⟩ := hmade
        obtain ⟨hfresh, hdecided⟩ := hmoves.fresh_of_final hnext.1 h.settled hnone hsome
        have hexperiments : t'.experiments = t.experiments ++ [experiment] := by
          rw [hintent.experiments, heq, ← h₁]
        have hc₂ : t₂.checkpointDefinitions = t.checkpointDefinitions := by rw [heq, ← hc₁]
        refine ⟨⟨⟨[experiment], by rw [hexperiments], ?_⟩, hc₂ ▸ hintent.isPrefix⟩, ?_,
          hintent.keysNodup (hc₂.symm ▸ h.checkpoints)⟩
        · simp only [List.mem_singleton, forall_eq, hdecision]
          exact hfresh
        · rw [hexperiments]
          intro e he
          rcases List.mem_append.mp he with hold | hnew
          · exact hlt e hold
          · rw [List.mem_singleton.mp hnew, hdecision]
            exact hdecided.trans_le (hnext.2.1.trans hnext.2.2)

end Ledger

/-! ## Steps -/

/-- The workflow of a proposal is one of production. -/
theorem workflow_of_proposalSources {scope : TenantScope}
    {productionWorkflowId connectorAccountId : Id} {t : ExecutionTables}
    {workflow : ProductionWorkflow} {version : AssetVersion} {account : ConnectorAccount}
    (h : proposalSources scope productionWorkflowId connectorAccountId t =
      .ok (workflow, version, account)) : workflow ∈ t.productionWorkflows := by
  unfold proposalSources at h
  obtain ⟨found, hfound, h⟩ := Except.bind_eq_ok_iff.mp h
  obtain ⟨_, -, h⟩ := Except.bind_eq_ok_iff.mp h
  obtain ⟨_, -, h⟩ := Except.bind_eq_ok_iff.mp h
  obtain ⟨_, -, h⟩ := Except.bind_eq_ok_iff.mp h
  obtain ⟨_, -, h⟩ := Except.bind_eq_ok_iff.mp h
  obtain ⟨_, -, h⟩ := Except.bind_eq_ok_iff.mp h
  obtain ⟨_, -, h⟩ := Except.bind_eq_ok_iff.mp h
  obtain ⟨_, -, h⟩ := Except.bind_eq_ok_iff.mp h
  cases h
  exact Table.mem_of_find (orRaise_eq_ok_iff.mp hfound)

section Steps

variable (E : GovernedEnv M)

/-- Experiments and checkpoints after a step. -/
theorem checkpointStep (action : GovernedAction M) (s : GovernedState M)
    (h : CheckpointLedger s.db.nextId s.db.tables.domain) :
    CheckpointStep s.db.nextId s.db.tables.domain (s.step E action).db.tables.domain ∧
      (∀ e ∈ (s.step E action).db.tables.domain.experiments,
        e.decisionId < (s.step E action).db.nextId) ∧
      Table.KeysNodup CheckpointDefinition.experimentId
        (s.step E action).db.tables.domain.checkpointDefinitions := by
  have hwrites := writes_step E action s
  by_cases hpart : action.op.part = .decisions
  · rcases phase6Step E action s hpart h.settled with hsame | hstep
    · rw [hsame]
      exact ⟨.same rfl List.prefix_rfl, h.experiments, h.checkpoints⟩
    · exact hstep.checkpointStep hwrites.nextId h
  · have hcores := cores_step E action s hpart
    have hcheckpoints : (s.step E action).db.tables.domain.checkpointDefinitions =
        s.db.tables.domain.checkpointDefinitions := by
      have hdomain := hwrites.domain
      unfold LoopPart.Writes at hdomain
      rw [hdomain]
      generalize action.op.part = part at hpart
      cases part with
      | decisions => exact absurd rfl hpart
      | production | agents | business | execution | analytics => rfl
    refine ⟨.same hcores (hcheckpoints ▸ List.prefix_rfl), fun e he => ?_,
      hcheckpoints.symm ▸ h.checkpoints⟩
    have hmem := List.mem_map_of_mem (f := Experiment.core) he
    rw [hcores] at hmem
    obtain ⟨old, hold, hcore⟩ := List.mem_map.mp hmem
    have hdecision : old.decisionId = e.decisionId := congrArg (fun core => core.2.1) hcore
    exact hdecision ▸ (h.experiments old hold).trans_le hwrites.nextId

/-- A workflow of production is one of a Decision that is there. -/
theorem ProductionMoves.workflows {s s' : GovernedState M} (h : ProductionMoves s s')
    (hnext : s.db.nextId ≤ s'.db.nextId)
    (hledger : CheckpointLedger s.db.nextId s.db.tables.domain) :
    ∀ w ∈ s'.db.tables.domain.productionWorkflows, w.decisionId < s'.db.nextId := by
  have hsame : Frames KeepsAssets s.productionDb s'.productionDb →
      ∀ w ∈ s'.db.tables.domain.productionWorkflows, w.decisionId < s'.db.nextId := by
    intro hframes w hw
    have hworkflows : s'.db.tables.domain.productionWorkflows =
        s.db.tables.domain.productionWorkflows := hframes.domain.workflows
    exact (hledger.workflows w (hworkflows ▸ hw)).trans_le hnext
  cases h with
  | keeps hframes => exact hsame hframes
  | advanced hstep =>
      intro w hw
      obtain ⟨old, hold, hbinding⟩ := hstep.workflows.old w hw
      exact hbinding.decisionId ▸ (hledger.workflows old hold).trans_le hnext
  | started scope decisionId hstarted =>
      cases hstarted with
      | existing hframes => exact hsame hframes
      | new w decision approval hdecision _ _ _ _ _ hw _ hworkflows =>
          have hadded : s'.db.tables.domain.productionWorkflows =
              s.db.tables.domain.productionWorkflows ++ [w] := hworkflows
          rw [hadded]
          intro w' hw'
          rcases List.mem_append.mp hw' with hold | hnew
          · exact (hledger.workflows w' hold).trans_le hnext
          · obtain ⟨row, hrow, rfl⟩ := List.mem_map.mp (Table.mem_of_find hdecision)
            rw [List.mem_singleton.mp hnew, hw.2.1]
            exact (hledger.settled.decision_lt row hrow).trans_le hnext

/-- A proposal is one for a workflow of production. -/
theorem DetailStep.details {D : Digest} {now : Time} {nextId nextId' : Id} {t t' : GovernedTables}
    (h : DetailStep D now nextId nextId' t t') (hnext : nextId ≤ nextId')
    (hledger : CheckpointLedger nextId t) :
    ∀ detail ∈ t'.actionProposalDetails, detail.decisionId < nextId' := by
  cases h with
  | same hsame =>
      rw [hsame.details]
      exact fun detail hdetail => (hledger.details detail hdetail).trans_le hnext
  | proposed scope productionWorkflowId connectorAccountId action hproposed =>
      obtain ⟨workflow, version, account, row, reviews, permission, hsources, hrows, hdetails, -⟩ :=
        hproposed.made
      rw [hdetails]
      intro detail hdetail
      rcases List.mem_append.mp hdetail with hold | hnew
      · exact (hledger.details detail hold).trans_le hnext
      · rw [List.mem_singleton.mp hnew, hrows.detail_decision]
        exact (hledger.workflows workflow (workflow_of_proposalSources hsources)).trans_le hnext

/-- The invariant of a state. -/
structure GovernedState.CheckpointsKept (s : GovernedState M) : Prop where
  ledger : CheckpointLedger s.db.nextId s.db.tables.domain
  gated : s.AssetGated

theorem checkpointsKept_step (action : GovernedAction M) {s : GovernedState M}
    (h : s.CheckpointsKept) : (s.step E action).CheckpointsKept := by
  have hnext := (writes_step E action s).nextId
  obtain ⟨hgated, hmoves⟩ := productionMoves_step E h.gated action
  obtain ⟨-, hexperiments, hcheckpoints⟩ := checkpointStep E action s h.ledger
  exact ⟨⟨settled_step E action s h.ledger.settled, hexperiments, hcheckpoints,
    hmoves.workflows hnext h.ledger, (detailStep E action s).details hnext h.ledger⟩, hgated⟩

theorem GovernedState.Initial.checkpointsKept {s : GovernedState M} (h : s.Initial) :
    s.CheckpointsKept := by
  refine ⟨?_, h.assetGated⟩
  have hdomain := h.1
  constructor
  · constructor <;> simp [hdomain, Table.keysNodup_nil]
  all_goals simp [hdomain, Table.keysNodup_nil]

theorem checkpointsKept_run {s : GovernedState M} (h : s.CheckpointsKept)
    (actions : List (GovernedAction M)) :
    (run (GovernedState.step E) s actions).CheckpointsKept :=
  invariant_run_of_step _ (I := GovernedState.CheckpointsKept)
    (fun _ action h' => checkpointsKept_step E action h') h actions

/-- Details and reviews are only added. -/
theorem DetailStep.grows {D : Digest} {now : Time} {nextId nextId' : Id} {t t' : GovernedTables}
    (h : DetailStep D now nextId nextId' t t') :
    t.executionControllerReviews <+: t'.executionControllerReviews := by
  cases h with
  | same hsame => exact hsame.reviews ▸ List.prefix_rfl
  | proposed _ _ _ _ hproposed =>
      obtain ⟨-, -, -, -, reviews, -, -, -, -, hreviews, -⟩ := hproposed.made
      exact hreviews ▸ List.prefix_append _ _

end Steps

/-! ## Runs -/

section Runs

variable (E : GovernedEnv M)

theorem reviews_run (s : GovernedState M) (actions : List (GovernedAction M)) :
    s.db.tables.domain.executionControllerReviews <+:
      (run (GovernedState.step E) s actions).db.tables.domain.executionControllerReviews :=
  relation_run_of_step _
    (R := fun s s' : GovernedState M => s.db.tables.domain.executionControllerReviews <+:
      s'.db.tables.domain.executionControllerReviews)
    (fun _ => List.prefix_rfl) (fun _ _ _ => List.IsPrefix.trans)
    (fun s action => (detailStep E action s).grows) s actions

theorem checkpoints_run {s : GovernedState M} (h : s.CheckpointsKept)
    (actions : List (GovernedAction M)) :
    s.db.tables.domain.checkpointDefinitions <+:
      (run (GovernedState.step E) s actions).db.tables.domain.checkpointDefinitions :=
  relation_run (I := GovernedState.CheckpointsKept) (G := fun _ _ => True)
    (R := fun s s' : GovernedState M => s.db.tables.domain.checkpointDefinitions <+:
      s'.db.tables.domain.checkpointDefinitions)
    (fun _ => List.prefix_rfl) (fun _ _ _ => List.IsPrefix.trans)
    (fun _ action h' _ => checkpointsKept_step E action h')
    (fun s action h' _ => (checkpointStep E action s h'.ledger).1.checkpoints) h
    (guarded_of_forall (fun _ _ => trivial) s actions)

/-- The Experiment of a Decision that is there stays the one it is. -/
theorem experimentOf_run {s : GovernedState M} (h : s.CheckpointsKept)
    (actions : List (GovernedAction M)) {decisionId : Id} (hlt : decisionId < s.db.nextId) :
    (experimentOf decisionId (run (GovernedState.step E) s
      actions).db.tables.domain.toExecutionContext).map Experiment.core =
      (experimentOf decisionId s.db.tables.domain.toExecutionContext).map Experiment.core := by
  induction actions generalizing s with
  | nil => rfl
  | cons action actions ih =>
      have hstep := (checkpointStep E action s h.ledger).1.experimentOf hlt
      have hnext := (writes_step E action s).nextId
      rw [run_cons, ih (checkpointsKept_step E action h) (hlt.trans_le hnext), hstep]

/-- A proposal whose execution is reviewed with `PASS` has found the checkpoint of its
Experiment. -/
theorem checkpoint_of_executionReview {action : ActionProposal} {detail : ActionProposalDetail}
    {t : ExecutionContext} (h : (executionReview action detail t).verdict = .pass)
    {experiment : Experiment} (he : experimentOf detail.decisionId t = some experiment) :
    ∃ checkpoint ∈ t.checkpointDefinitions, checkpoint.experimentId = experiment.id ∧
      checkpoint.decisionId = detail.decisionId ∧ checkpoint.metricKey = experiment.metric := by
  have hreview : experimentReview detail t = none := by
    unfold executionReview at h
    split at h
    next workflow version _ _ =>
      repeat' split at h
      all_goals first | assumption | cases h
    next => cases h
  unfold experimentReview at hreview
  rw [he] at hreview
  dsimp only at hreview
  split at hreview
  next => cases hreview
  next =>
    split at hreview
    next => cases hreview
    next checkpoint hfind =>
      split at hreview
      next => cases hreview
      next hbinding =>
        rw [not_or, not_not, not_not] at hbinding
        exact ⟨checkpoint, Table.mem_of_find hfind, Table.key_of_find hfind, hbinding.1, hbinding.2⟩

/-- What is known of a proposal when it is made, if its reviews have passed. -/
theorem proposal_finds_checkpoint {s : GovernedState M} (h : s.CheckpointsKept)
    (action : GovernedAction M) (after : List (GovernedAction M)) {detail : ActionProposalDetail}
    (hbefore : detail ∉ s.db.tables.domain.actionProposalDetails)
    (hafter : detail ∈ (s.step E action).db.tables.domain.actionProposalDetails)
    (hreviews : ∀ review ∈ (run (GovernedState.step E) s
        (action :: after)).db.tables.domain.executionControllerReviews,
      review.actionId = detail.actionId → review.verdict = .pass) {experiment : Experiment}
    (hexperiment : experimentOf detail.decisionId (run (GovernedState.step E) s
      (action :: after)).db.tables.domain.toExecutionContext = some experiment) :
    ∃ checkpoint ∈ s.db.tables.domain.checkpointDefinitions,
      checkpoint.experimentId = experiment.id ∧ checkpoint.decisionId = detail.decisionId ∧
        checkpoint.metricKey = experiment.metric := by
  have hgrown := reviews_run E (s.step E action) after
  cases detailStep E action s with
  | same hsame =>
      rw [hsame.details] at hafter
      exact absurd hafter hbefore
  | proposed scope productionWorkflowId connectorAccountId proposal hproposed =>
      obtain ⟨workflow, version, account, row, reviews, permission, hsources, hrows, hdetails,
        hadded, -⟩ := hproposed.made
      rw [hdetails] at hafter
      obtain rfl : detail = row := by
        rcases List.mem_append.mp hafter with hold | hnew
        · exact absurd hold hbefore
        · exact List.mem_singleton.mp hnew
      have hlt : detail.decisionId < s.db.nextId := by
        rw [hrows.detail_decision]
        exact h.ledger.workflows workflow (workflow_of_proposalSources hsources)
      -- the review of the execution is one of those that have passed
      have hpass : (executionReview (proposal.withStatus .proposed) detail
          s.db.tables.domain.toExecutionContext).verdict = .pass := by
        have hmem : executionReview (proposal.withStatus .proposed) detail
            s.db.tables.domain.toExecutionContext ∈
              reviews.map ExecutionControllerReview.toDeterministicExecutionReview := by
          rw [hrows.reviewed]
          simp [evaluateExecutionControllers]
        obtain ⟨review, hreview, heq⟩ := List.mem_map.mp hmem
        have hstored : review ∈ (s.step E
            action).db.tables.domain.executionControllerReviews := by
          rw [hadded]
          exact List.mem_append_right _ hreview
        have hverdict := hreviews review (hgrown.subset hstored)
          ((hrows.reviews_action review hreview).trans hrows.detail_action.symm)
        rw [← heq]
        exact hverdict
      -- and the Experiment was there
      have hcore := experimentOf_run E h (action :: after) hlt
      rw [hexperiment, Option.map_some] at hcore
      obtain ⟨old, hold, heq⟩ := Option.map_eq_some_iff.mp hcore.symm
      obtain ⟨checkpoint, hcheckpoint, hid, hdecision, hmetric⟩ :=
        checkpoint_of_executionReview hpass hold
      have hoid : old.id = experiment.id := congrArg Prod.fst heq
      have hometric : old.metric = experiment.metric := congrArg (fun core => core.2.2) heq
      exact ⟨checkpoint, hcheckpoint, hid.trans hoid, hdecision, hmetric.trans hometric⟩

/-- A checkpoint stays the only one of its Experiment. -/
theorem checkpoint_run {s : GovernedState M} (h : s.CheckpointsKept)
    (actions : List (GovernedAction M)) {checkpoint : CheckpointDefinition}
    (hcheckpoint : checkpoint ∈ s.db.tables.domain.checkpointDefinitions) :
    (run (GovernedState.step E) s actions).db.tables.domain.checkpointDefinitions.filter
      (fun row => row.experimentId = checkpoint.experimentId) = [checkpoint] :=
  (checkpointsKept_run E h actions).ledger.checkpoints.filter_eq_singleton
    ((checkpoints_run E h actions).subset hcheckpoint)

/-- An Action of a Decision with an Experiment that all reviews have passed was proposed after the
checkpoint of the Experiment had been written. Whatever has happened since, and whatever happens
next, it is the only checkpoint of the Experiment, and as it was. -/
theorem checkpoint_fixed_before_proposal {s : GovernedState M} (hs : s.Initial)
    (actions : List (GovernedAction M)) :
    ∀ detail ∈ (run (GovernedState.step E) s actions).db.tables.domain.actionProposalDetails,
      (∀ review ∈ (run (GovernedState.step E) s
          actions).db.tables.domain.executionControllerReviews,
        review.actionId = detail.actionId → review.verdict = .pass) →
      ∀ experiment, experimentOf detail.decisionId (run (GovernedState.step E) s
          actions).db.tables.domain.toExecutionContext = some experiment →
        ∃ before action after, actions = before ++ action :: after ∧
          detail ∉ (run (GovernedState.step E) s before).db.tables.domain.actionProposalDetails ∧
          detail ∈ (run (GovernedState.step E) s
            (before ++ [action])).db.tables.domain.actionProposalDetails ∧
          ∃ checkpoint ∈ (run (GovernedState.step E) s
              before).db.tables.domain.checkpointDefinitions,
            checkpoint.experimentId = experiment.id ∧
            checkpoint.decisionId = detail.decisionId ∧
            checkpoint.metricKey = experiment.metric ∧
            ∀ more, (run (GovernedState.step E) s
                (before ++ more)).db.tables.domain.checkpointDefinitions.filter
              (fun row => row.experimentId = experiment.id) = [checkpoint] := by
  intro detail hdetail hreviews experiment hexperiment
  have hnone : detail ∉ s.db.tables.domain.actionProposalDetails := by
    rw [hs.1]
    exact List.not_mem_nil
  obtain ⟨before, action, after, rfl, hbefore, hafter⟩ := exists_step_of_run
    (fun s : GovernedState M => detail ∈ s.db.tables.domain.actionProposalDetails) hnone hdetail
  have hkept := checkpointsKept_run E hs.checkpointsKept before
  rw [run_append] at hreviews hexperiment
  obtain ⟨checkpoint, hcheckpoint, hid, hdecision, hmetric⟩ :=
    proposal_finds_checkpoint E hkept action after hbefore hafter hreviews hexperiment
  refine ⟨before, action, after, rfl, hbefore, ?_, checkpoint, hcheckpoint, hid, hdecision,
    hmetric, fun more => ?_⟩
  · rw [run_append]
    exact hafter
  · rw [run_append, ← hid]
    exact checkpoint_run E hkept more hcheckpoint

end Runs

/-- The first proposal has found the checkpoint of its Experiment. -/
theorem first_proposal_finds_checkpoint :
    ∃ detail experiment before action after checkpoint,
      experimentOf detail.decisionId (run (GovernedState.step (plainEnv shownFact)) governedStart
        approvedActions).db.tables.domain.toExecutionContext = some experiment ∧
      approvedActions = before ++ action :: after ∧
      detail ∉ (run (GovernedState.step (plainEnv shownFact)) governedStart
        before).db.tables.domain.actionProposalDetails ∧
      detail ∈ (run (GovernedState.step (plainEnv shownFact)) governedStart
        (before ++ [action])).db.tables.domain.actionProposalDetails ∧
      checkpoint ∈ (run (GovernedState.step (plainEnv shownFact)) governedStart
        before).db.tables.domain.checkpointDefinitions ∧
      checkpoint.experimentId = experiment.id ∧
      (run (GovernedState.step (plainEnv shownFact)) governedStart
          approvedActions).db.tables.domain.checkpointDefinitions.filter
        (fun row => row.experimentId = experiment.id) = [checkpoint] := by
  have hproposed : ∃ detail ∈ (run (GovernedState.step (plainEnv shownFact)) governedStart
      approvedActions).db.tables.domain.actionProposalDetails,
      (∀ review ∈ (run (GovernedState.step (plainEnv shownFact)) governedStart
          approvedActions).db.tables.domain.executionControllerReviews,
        review.actionId = detail.actionId → review.verdict = .pass) ∧
      (experimentOf detail.decisionId (run (GovernedState.step (plainEnv shownFact)) governedStart
        approvedActions).db.tables.domain.toExecutionContext).isSome := by
    decide +kernel
  obtain ⟨detail, hdetail, hreviews, hsome⟩ := hproposed
  obtain ⟨experiment, hexperiment⟩ := Option.isSome_iff_exists.mp hsome
  obtain ⟨before, action, after, hactions, hbefore, hafter, checkpoint, hcheckpoint, hid, -, -,
    hstays⟩ := checkpoint_fixed_before_proposal (plainEnv shownFact) governedStart_initial
      approvedActions detail hdetail hreviews experiment hexperiment
  refine ⟨detail, experiment, before, action, after, checkpoint, hexperiment, hactions, hbefore,
    hafter, hcheckpoint, hid, ?_⟩
  rw [hactions]
  exact hstays (action :: after)

end LaunchOS
