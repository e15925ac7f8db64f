import LaunchOS.Analytics.Steps
import LaunchOS.Application.DecisionApp
import LaunchOS.Application.GovernedLoop
import LaunchOS.Production.App

/-!
# Experiments of the governed loop

An Experiment is written with its Decision, runs from its publication on, and is complete when its
checkpoint has been interpreted. Learnings come after that, and so do the Decisions that supersede
others.

The module introduces:

* `ExperimentStatus.Follows`, `ExperimentsEvolve`: the way of a status, and of all of them in a step;
* `GovernedTables.Completed`: the Experiment of a Decision is complete, and stays so;
* `SameFindings`, `SameLedger`: what most operations leave alone;
* `ExperimentLedger`: checkpoints, results, learnings and supersessions go back to Experiments, and
  the last three to complete ones;
* `secured_run`: every operation keeps it, one lemma for each operation that writes these rows.
-/

namespace LaunchOS

open Txn Transition

variable {M : Type}

/-! ## The status of an experiment -/

/-- A step of the status. -/
inductive ExperimentStatus.Follows : ExperimentStatus → ExperimentStatus → Prop
  | stays (status : ExperimentStatus) : Follows status status
  | starts : Follows .draft .running
  | completes : Follows .running .complete

/-- Every status takes at most a step, and every new Experiment is a draft. -/
def ExperimentsEvolve (experiments experiments' : List Experiment) : Prop :=
  ∃ (status : Experiment → ExperimentStatus) (new : List Experiment),
    experiments' = experiments.map (fun e => { e with status := status e }) ++ new ∧
      (∀ e ∈ experiments, e.status.Follows (status e)) ∧ ∀ e ∈ new, e.status = .draft

theorem ExperimentsEvolve.insert (experiments : List Experiment) {new : List Experiment}
    (hnew : ∀ e ∈ new, e.status = .draft) : ExperimentsEvolve experiments (experiments ++ new) := by
  refine ⟨Experiment.status, new, ?_, fun e _ => .stays e.status, hnew⟩
  rw [List.map_id'']
  exact fun _ => rfl

theorem ExperimentsEvolve.refl (experiments : List Experiment) :
    ExperimentsEvolve experiments experiments := by
  have h : ExperimentsEvolve experiments (experiments ++ []) := .insert experiments (by simp)
  rwa [List.append_nil] at h

/-- One Experiment takes a step. -/
theorem ExperimentsEvolve.step {experiments : List Experiment}
    (hids : Table.KeysNodup Experiment.id experiments) {experiment : Experiment}
    (hmem : experiment ∈ experiments) {status : ExperimentStatus}
    (hfollows : experiment.status.Follows status) :
    ExperimentsEvolve experiments (Table.modify Experiment.id experiment.id
      (fun e => { e with status := status }) experiments) := by
  refine ⟨fun e => if e.id = experiment.id then status else e.status, [], ?_, fun e he => ?_,
    by simp⟩
  · rw [List.append_nil, Table.modify]
    refine List.map_congr_left fun e _ => ?_
    dsimp only
    split <;> rfl
  · dsimp only
    split
    next hid =>
      rw [hids.eq_of_key_eq he hmem hid]
      exact hfollows
    next => exact .stays e.status

section Evolve

variable {t t' : GovernedTables}

/-- The Experiment of a Decision after a step. -/
theorem ExperimentsEvolve.experimentOf {t t' : ExecutionContext}
    (h : ExperimentsEvolve t.experiments t'.experiments) {decisionId : Id} {e : Experiment}
    (he : experimentOf decisionId t = some e) :
    ∃ e', LaunchOS.experimentOf decisionId t' = some e' ∧ e'.id = e.id ∧
      e.status.Follows e'.status := by
  obtain ⟨status, new, heq, hfollows, -⟩ := h
  refine ⟨{ e with status := status e }, ?_, rfl, hfollows e (Table.mem_of_find he)⟩
  rw [LaunchOS.experimentOf, heq]
  refine Table.find_append_of_eq_some ?_
  rw [Table.find_map (by intros; rfl)]
  exact congrArg (Option.map _) he

/-- The Experiment of the Decision is complete. -/
def GovernedTables.Completed (decisionId : Id) (t : GovernedTables) : Prop :=
  ∃ e, experimentOf decisionId t.toExecutionContext = some e ∧ e.status = .complete

theorem GovernedTables.Completed.evolve {decisionId : Id} (h : t.Completed decisionId)
    (hevolve : ExperimentsEvolve t.experiments t'.experiments) : t'.Completed decisionId := by
  obtain ⟨e, he, hstatus⟩ := h
  obtain ⟨e', he', -, hfollows⟩ := hevolve.experimentOf he
  refine ⟨e', he', ?_⟩
  generalize e'.status = status' at hfollows
  rw [hstatus] at hfollows
  cases hfollows with
  | stays => rfl

end Evolve

/-! ## What most operations leave alone -/

/-- The same Experiments and checkpoints. -/
structure SameExperiments (t t' : ExecutionTables) : Prop where
  experiments : t'.experiments = t.experiments
  checkpoints : t'.checkpointDefinitions = t.checkpointDefinitions

instance : IsPreorder ExecutionTables SameExperiments where
  refl _ := ⟨rfl, rfl⟩
  trans _ _ _ h h' := ⟨h'.experiments.trans h.experiments, h'.checkpoints.trans h.checkpoints⟩

theorem commandWrites_sameExperiments : CommandWrites SameExperiments := by
  constructor <;> intros <;> exact ⟨rfl, rfl⟩

theorem serviceWrites_sameExperiments : ServiceWrites SameExperiments :=
  ⟨commandWrites_sameExperiments, fun _ _ _ => ⟨rfl, rfl⟩⟩

theorem proposalWrites_sameExperiments : ProposalWrites SameExperiments := by
  constructor <;> intros <;> exact ⟨rfl, rfl⟩

/-- And the same results and learnings. -/
structure SameFindings (t t' : Analytics.AnalyticsTables) : Prop
    extends SameExperiments t.toExecutionTables t'.toExecutionTables where
  results : t'.experimentResultDetails = t.experimentResultDetails
  learnings : t'.learnings = t.learnings

instance : IsPreorder Analytics.AnalyticsTables SameFindings where
  refl _ := ⟨⟨rfl, rfl⟩, rfl, rfl⟩
  trans _ _ _ h h' := ⟨trans_of SameExperiments h.toSameExperiments h'.toSameExperiments,
    h'.results.trans h.results, h'.learnings.trans h.learnings⟩

theorem ingestWrites_sameFindings : Analytics.IngestWrites SameFindings := by
  constructor <;> intros <;> exact ⟨⟨rfl, rfl⟩, rfl, rfl⟩

theorem metricWrites_sameFindings : Analytics.MetricWrites SameFindings := by
  constructor <;> intros <;> exact ⟨⟨rfl, rfl⟩, rfl, rfl⟩

/-- And the same supersessions. -/
structure SameLedger (t t' : GovernedTables) : Prop
    extends SameFindings t.toAnalyticsTables t'.toAnalyticsTables where
  supersessions : t'.supersessions = t.supersessions

instance : IsPreorder GovernedTables SameLedger where
  refl _ := ⟨⟨⟨rfl, rfl⟩, rfl, rfl⟩, rfl⟩
  trans _ _ _ h h' := ⟨trans_of SameFindings h.toSameFindings h'.toSameFindings,
    h'.supersessions.trans h.supersessions⟩

/-! ## The ledger -/

/-- The invariant, when all ids below `nextId` may be in use. -/
structure ExperimentLedger (nextId : Id) (t : GovernedTables) : Prop where
  experiments : Table.KeysNodup Experiment.id t.experiments
  experiment_lt : ∀ e ∈ t.experiments, e.id < nextId
  checkpoints : Table.KeysNodup CheckpointDefinition.id t.checkpointDefinitions
  checkpoint_lt : ∀ c ∈ t.checkpointDefinitions, c.id < nextId
  /-- A checkpoint is one of the Experiment of its Decision. -/
  bound : ∀ c ∈ t.checkpointDefinitions, ∃ e,
    experimentOf c.decisionId t.toExecutionContext = some e ∧ e.id = c.experimentId
  interpreted : ∀ detail ∈ t.experimentResultDetails, ∃ c ∈ t.checkpointDefinitions,
    c.id = detail.checkpointDefinitionId ∧ t.Completed c.decisionId
  learned : ∀ learning ∈ t.learnings, ∀ decisionId, learning.decisionId = some decisionId →
    t.Completed decisionId
  superseded : ∀ s ∈ t.supersessions, t.Completed s.supersedesDecisionId

namespace ExperimentLedger

variable {nextId nextId' : Id} {t t' : GovernedTables}

theorem mono (h : ExperimentLedger nextId t) (hle : nextId ≤ nextId') :
    ExperimentLedger nextId' t :=
  { h with
    experiment_lt := fun e he => (h.experiment_lt e he).trans_le hle
    checkpoint_lt := fun c hc => (h.checkpoint_lt c hc).trans_le hle }

/-- Only these five tables matter. -/
theorem same (h : ExperimentLedger nextId t) (hsame : SameLedger t t') :
    ExperimentLedger nextId t' := by
  have hevolve : ExperimentsEvolve t.experiments t'.experiments := by
    rw [hsame.experiments]
    exact .refl _
  constructor
  · rw [hsame.experiments]
    exact h.experiments
  · rw [hsame.experiments]
    exact h.experiment_lt
  · rw [hsame.checkpoints]
    exact h.checkpoints
  · rw [hsame.checkpoints]
    exact h.checkpoint_lt
  · rw [hsame.checkpoints]
    intro c hc
    obtain ⟨e, he, hid⟩ := h.bound c hc
    obtain ⟨e', he', hid', -⟩ := hevolve.experimentOf he
    exact ⟨e', he', hid'.trans hid⟩
  · rw [hsame.results, hsame.checkpoints]
    intro detail hdetail
    obtain ⟨c, hc, hid, hcompleted⟩ := h.interpreted detail hdetail
    exact ⟨c, hc, hid, hcompleted.evolve hevolve⟩
  · rw [hsame.learnings]
    exact fun learning hlearning decisionId hdecision =>
      (h.learned learning hlearning decisionId hdecision).evolve hevolve
  · rw [hsame.supersessions]
    exact fun s hs => (h.superseded s hs).evolve hevolve

/-- The Experiments change as in a step, and nothing else does. -/
theorem evolve (h : ExperimentLedger nextId t) {experiments : List Experiment}
    (hevolve : ExperimentsEvolve t.experiments experiments)
    (hids : Table.KeysNodup Experiment.id experiments) (hlt : ∀ e ∈ experiments, e.id < nextId) :
    ExperimentLedger nextId { t with experiments := experiments } := by
  have hcompleted : ∀ {decisionId : Id}, t.Completed decisionId →
      GovernedTables.Completed decisionId { t with experiments := experiments } :=
    fun hcompleted => hcompleted.evolve hevolve
  refine { h with
    experiments := hids
    experiment_lt := hlt
    bound := fun c hc => ?_
    interpreted := fun detail hdetail => ?_
    learned := fun learning hlearning decisionId hdecision =>
      hcompleted (h.learned learning hlearning decisionId hdecision)
    superseded := fun s hs => hcompleted (h.superseded s hs) }
  · obtain ⟨e, he, hid⟩ := h.bound c hc
    let t' : ExecutionContext := { t.toExecutionContext with experiments := experiments }
    have hevolve' : ExperimentsEvolve t.experiments t'.experiments := hevolve
    obtain ⟨e', he', hid', -⟩ := hevolve'.experimentOf he
    exact ⟨e', he', hid'.trans hid⟩
  · obtain ⟨c, hc, hid, hdone⟩ := h.interpreted detail hdetail
    exact ⟨c, hc, hid, hcompleted hdone⟩

/-- A new Experiment. -/
theorem insertExperiment (h : ExperimentLedger nextId t) (experiment : Experiment)
    (hid : experiment.id = nextId) (hstatus : experiment.status = .draft) :
    ExperimentLedger (nextId + 1) { t with experiments := t.experiments ++ [experiment] } := by
  refine (h.mono (Nat.le_succ nextId)).evolve (.insert t.experiments (by simp [hstatus])) ?_ ?_
  · refine h.experiments.append (Table.keysNodup_singleton experiment) ?_
    simp only [List.mem_singleton, forall_eq, hid]
    exact fun e he => (h.experiment_lt e he).ne
  · intro e he
    rcases List.mem_append.mp he with hold | hnew
    · exact (h.experiment_lt e hold).trans (Nat.lt_succ_self nextId)
    · rw [List.mem_singleton.mp hnew, hid]
      exact Nat.lt_succ_self nextId

/-- One Experiment takes a step. -/
theorem step (h : ExperimentLedger nextId t) {experiment : Experiment}
    (hmem : experiment ∈ t.experiments) {status : ExperimentStatus}
    (hfollows : experiment.status.Follows status) :
    ExperimentLedger nextId { t with
      experiments := Table.modify Experiment.id experiment.id
        (fun e => { e with status := status }) t.experiments } := by
  refine h.evolve (.step h.experiments hmem hfollows) (h.experiments.modify fun _ _ hid => hid) ?_
  intro e he
  obtain ⟨old, hold, rfl⟩ := Table.mem_modify_iff.mp he
  split
  · exact h.experiment_lt old hold
  · exact h.experiment_lt old hold

/-- A new checkpoint of the Experiment of its Decision. -/
theorem insertCheckpoint (h : ExperimentLedger nextId t) {c : CheckpointDefinition}
    (hid : c.id = nextId) {e : Experiment}
    (he : experimentOf c.decisionId t.toExecutionContext = some e) (hbound : e.id = c.experimentId) :
    ExperimentLedger (nextId + 1)
      { t with checkpointDefinitions := t.checkpointDefinitions ++ [c] } := by
  refine { h.mono (Nat.le_succ nextId) with
    checkpoints := ?_
    checkpoint_lt := fun c' hc' => ?_
    bound := fun c' hc' => ?_
    interpreted := fun detail hdetail => ?_ }
  · refine h.checkpoints.append (Table.keysNodup_singleton c) ?_
    simp only [List.mem_singleton, forall_eq, hid]
    exact fun c' hc' => (h.checkpoint_lt c' hc').ne
  · rcases List.mem_append.mp hc' with hold | hnew
    · exact (h.checkpoint_lt c' hold).trans (Nat.lt_succ_self nextId)
    · rw [List.mem_singleton.mp hnew, hid]
      exact Nat.lt_succ_self nextId
  · rcases List.mem_append.mp hc' with hold | hnew
    · exact h.bound c' hold
    · rw [List.mem_singleton.mp hnew]
      exact ⟨e, he, hbound⟩
  · obtain ⟨c', hc', hdetailId, hdone⟩ := h.interpreted detail hdetail
    exact ⟨c', List.mem_append_left _ hc', hdetailId, hdone⟩

/-- A new result of a checkpoint whose Experiment is complete. -/
theorem insertResult (h : ExperimentLedger nextId t)
    (detail : Analytics.ExperimentResultDetail) {c : CheckpointDefinition}
    (hc : c ∈ t.checkpointDefinitions) (hid : c.id = detail.checkpointDefinitionId)
    (hdone : t.Completed c.decisionId) :
    ExperimentLedger nextId
      { t with experimentResultDetails := t.experimentResultDetails ++ [detail] } := by
  refine { h with interpreted := fun detail' hdetail' => ?_ }
  rcases List.mem_append.mp hdetail' with hold | hnew
  · exact h.interpreted detail' hold
  · rw [List.mem_singleton.mp hnew]
    exact ⟨c, hc, hid, hdone⟩

/-- A new learning about a Decision whose Experiment is complete. -/
theorem insertLearning (h : ExperimentLedger nextId t) (learning : Analytics.Learning)
    (hdone : ∀ decisionId, learning.decisionId = some decisionId → t.Completed decisionId) :
    ExperimentLedger nextId { t with learnings := t.learnings ++ [learning] } := by
  refine { h with learned := fun learning' hlearning' => ?_ }
  rcases List.mem_append.mp hlearning' with hold | hnew
  · exact h.learned learning' hold
  · rw [List.mem_singleton.mp hnew]
    exact hdone

/-- A Decision whose Experiment is complete is superseded. -/
theorem insertSupersession (h : ExperimentLedger nextId t) {s : Supersession}
    (hdone : t.Completed s.supersedesDecisionId) :
    ExperimentLedger nextId { t with supersessions := t.supersessions ++ [s] } := by
  refine { h with superseded := fun s' hs' => ?_ }
  rcases List.mem_append.mp hs' with hold | hnew
  · exact h.superseded s' hold
  · rw [List.mem_singleton.mp hnew]
    exact hdone

end ExperimentLedger

/-! ## Operations that leave it alone -/

section Frames

variable {now : Time} {α : Type}

theorem framesWithin_analyticsPart {m : Analytics.AnalyticsTxn M α}
    (h : Within (Frames SameFindings) m) : Within (Frames SameLedger) (m.zoom analyticsView) :=
  framesWithin_zoom h fun _ _ hs => ⟨hs, rfl⟩

theorem framesWithin_executionPart {m : ExecutionTxn M α} (h : Within (Frames SameExperiments) m) :
    Within (Frames SameLedger) (executionPart m) :=
  framesWithin_analyticsPart (framesWithin_zoom h fun _ _ hs => ⟨hs, rfl, rfl⟩)

/-- The decision workflow writes tables of its own. -/
theorem framesWithin_decisionPart {m : DecisionTxn M α} (h : Within (AgentGrows now) m) :
    Within (Frames SameLedger) (m.zoom decisionView) := by
  intro db
  rw [ensures_zoom]
  refine (h _).mono fun a part hpart => ⟨hpart.nextId_le, ?_⟩
  exact ⟨⟨⟨rfl, rfl⟩, rfl, rfl⟩, rfl⟩

/-- Production writes none of the five tables. -/
theorem framesWithin_productionPart {m : ProductionTxn M α} (h : Within (AgentGrows now) m) :
    Within (Frames SameLedger) (productionPart m) := by
  intro db
  rw [productionPart, ensures_through]
  refine (h _).mono fun a part hpart => ⟨hpart.nextId_le, ?_⟩
  exact ⟨⟨⟨rfl, rfl⟩, rfl, rfl⟩, rfl⟩

/-- A commit of the workflow of a snapshot with its intent. -/
theorem framesWithin_startGovernedWorkflow (H : CheckpointDigest) (scope : TenantScope)
    (payload : Except JobError (List SnapshotEvidence)) (launchId : Option Id)
    (spec : CheckpointSpec) (maxRevisionRounds : ℤ) (priorDecisionId learningId : Option Id) :
    Within (Frames SameLedger) (startGovernedWorkflow (M := M) H now scope payload launchId spec
      maxRevisionRounds priorDecisionId learningId) := by
  have hf := domainRelation_frames (M := M) (r := SameLedger) now fun _ => true
  refine hf.bind (framesWithin_decisionPart (DecisionWorkflow.within_takeSnapshot
    (domainRelation_agentGrows now (fun _ => true) fun _ _ => True) (fun _ _ => trivial) scope _))
    fun snapshot => ?_
  refine hf.bind (framesWithin_decisionPart (DecisionWorkflow.growsWithin_startDecisionWorkflow now
    scope _ launchId maxRevisionRounds)) fun _ => ?_
  refine hf.bind hf.tables fun t => hf.bind (hf.check _) fun w => ?_
  refine hf.bind hf.tables fun t => ?_
  split
  next => exact hf.check _
  next =>
    refine hf.bind hf.newId fun id => hf.modifyTables _ fun t => ?_
    exact ⟨⟨⟨rfl, rfl⟩, rfl, rfl⟩, rfl⟩

end Frames

/-! ## Operations that write it -/

/-- The ledger of a database. -/
abbrev LedgerHolds (db : AgentDatabase M GovernedTables) : Prop :=
  ExperimentLedger db.nextId db.tables.domain

/-- The ledger holds again, and every Experiment has taken at most a step. -/
structure Secured (db db' : AgentDatabase M GovernedTables) : Prop where
  ledger : LedgerHolds db'
  evolve : ExperimentsEvolve db.tables.domain.experiments db'.tables.domain.experiments

/-- The ledger holds again, with the same Experiments. -/
structure Recorded (db db' : AgentDatabase M GovernedTables) : Prop where
  ledger : LedgerHolds db'
  experiments : db'.tables.domain.experiments = db.tables.domain.experiments

section Write

variable {now : Time} {db db' db'' : AgentDatabase M GovernedTables}

theorem LedgerHolds.frames (h : LedgerHolds db) (hframes : Frames SameLedger db db') :
    Recorded db db' :=
  ⟨(ExperimentLedger.mono h hframes.nextId).same hframes.domain, hframes.domain.experiments⟩

theorem Recorded.trans (h : Recorded db db') (h' : Recorded db' db'') : Recorded db db'' :=
  ⟨h'.ledger, h'.experiments.trans h.experiments⟩

theorem Recorded.secured (h : Recorded db db') : Secured db db' := by
  refine ⟨h.ledger, ?_⟩
  rw [h.experiments]
  exact .refl _

theorem Secured.recorded (h : Secured db db') (h' : Recorded db' db'') : Secured db db'' := by
  refine ⟨h'.ledger, ?_⟩
  rw [h'.experiments]
  exact h.evolve

theorem Recorded.then (h : Recorded db db') (h' : Secured db' db'') : Secured db db'' := by
  refine ⟨h'.ledger, ?_⟩
  rw [← h.experiments]
  exact h'.evolve

/-! ### The advance of a decision workflow -/

/-- The Experiment that a checkpoint is bound to is that of the Decision. -/
theorem checkpointSources_eq_ok {scope : TenantScope} {decisionId : Id} {spec : CheckpointSpec}
    {t : GovernedTables} {decision : FinalDecision} {experiment : Experiment}
    {rule : ExperimentRule}
    (h : checkpointSources scope decisionId spec t = .ok (decision, experiment, rule)) :
    decision.id = decisionId ∧ experimentOf decision.id t.toExecutionContext = some experiment := by
  unfold checkpointSources at h
  obtain ⟨found, hfound, h⟩ := Except.bind_eq_ok_iff.mp h
  obtain ⟨_, -, h⟩ := Except.bind_eq_ok_iff.mp h
  obtain ⟨e, he, h⟩ := Except.bind_eq_ok_iff.mp h
  obtain ⟨_, -, h⟩ := Except.bind_eq_ok_iff.mp h
  obtain ⟨_, -, h⟩ := Except.bind_eq_ok_iff.mp h
  cases h
  exact ⟨Table.key_of_find (orRaise_eq_ok_iff.mp hfound), orRaise_eq_ok_iff.mp he⟩

theorem recorded_createCheckpointDefinitionForDecision (H : CheckpointDigest) (h : LedgerHolds db)
    (scope : TenantScope) (decisionId : Id) (spec : CheckpointSpec) :
    Ensures (createCheckpointDefinitionForDecision H scope decisionId spec)
      (fun _ => Recorded db) db := by
  rw [createCheckpointDefinitionForDecision, ensures_bind, ensures_tables, ensures_bind,
    ensures_check]
  rintro ⟨decision, experiment, rule⟩ hsources
  obtain ⟨-, hexperiment⟩ := checkpointSources_eq_ok hsources
  dsimp only
  split
  next =>
    rw [ensures_check]
    exact fun _ _ => ⟨h, rfl⟩
  next =>
    rw [ensures_bind, ensures_check]
    intro _ _
    rw [ensures_bind, ensures_newId, ensures_modifyTables]
    exact ⟨ExperimentLedger.insertCheckpoint h rfl hexperiment rfl, rfl⟩

/-- A Decision that is adapted has a learning, and so its Experiment is complete. -/
theorem recorded_supersedePrior (h : LedgerHolds db) (scope : TenantScope)
    (intent : Phase6DecisionIntent) (decisionId : Id) :
    Ensures (supersedePrior scope intent decisionId) (fun _ => Recorded db) db := by
  have hf := domainRelation_frames (M := M) (r := SameLedger) 0 fun _ => true
  have hsame : Recorded db db := ⟨h, rfl⟩
  rw [supersedePrior, ensures_bind, ensures_tables]
  split
  next => exact (ensures_pure ()).mpr hsame
  next priorDecisionId learningId _ _ =>
    dsimp only
    rw [ensures_bind, ensures_check]
    intro learning hlearning
    rw [ensures_bind, ensures_check]
    intro _ hbound
    have hcompleted : db.tables.domain.Completed priorDecisionId :=
      ExperimentLedger.learned h learning (Table.mem_of_find (orRaise_eq_ok_iff.mp hlearning))
        priorDecisionId (require_eq_ok_iff.mp hbound)
    -- the link to the learning comes last and leaves the ledger alone
    have hlink : ∀ {db₁ : AgentDatabase M GovernedTables}, Recorded db db₁ →
        Ensures (DomainTxn.newId >>= fun id => DomainTxn.modifyTables fun t => { t with
          decisionLearningLinks := t.decisionLearningLinks ++
            [⟨id, scope, decisionId, priorDecisionId, learningId⟩] }) (fun _ => Recorded db) db₁ := by
      intro db₁ h₁
      refine (hf.bind hf.newId (fun id => hf.modifyTables _ fun t => ?_) db₁).mono
        fun _ db₂ h₂ => h₁.trans (LedgerHolds.frames h₁.ledger h₂)
      exact ⟨⟨⟨rfl, rfl⟩, rfl, rfl⟩, rfl⟩
    split
    next =>
      rw [ensures_bind, ensures_check]
      intro _ _
      split
      next => exact (ensures_pure ()).mpr hsame
      next => exact hlink hsame
    next =>
      have hsuperseded : Recorded db { db with tables := { db.tables with domain :=
          { db.tables.domain with supersessions := db.tables.domain.supersessions ++
            [⟨decisionId, priorDecisionId⟩] } } } :=
        ⟨ExperimentLedger.insertSupersession h hcompleted, rfl⟩
      rw [ensures_bind, ensures_modifyTables]
      split
      next => exact (ensures_pure ()).mpr hsuperseded
      next => exact hlink hsuperseded
  next =>
    rw [ensures_check]
    exact fun _ _ => hsame

theorem recorded_materializePhase6Intent (H : CheckpointDigest) (h : LedgerHolds db)
    (scope : TenantScope) (workflowId : Id) :
    Ensures (materializePhase6Intent H scope workflowId) (fun _ => Recorded db) db := by
  rw [materializePhase6Intent, ensures_bind, ensures_tables]
  split
  next intent decisionId _ _ =>
    rw [ensures_bind, ensures_check]
    intro _ _
    rw [ensures_bind, ensures_check]
    intro _ _
    rw [ensures_bind]
    refine (recorded_createCheckpointDefinitionForDecision H h scope decisionId _).mono
      fun _ db₁ h₁ => ?_
    refine (recorded_supersedePrior h₁.ledger scope intent decisionId).mono fun _ db₂ h₂ => ?_
    exact h₁.trans h₂
  next => exact (ensures_pure ()).mpr ⟨h, rfl⟩

theorem secured_materializeExperiment (h : LedgerHolds db) (decisionId : Id) :
    Ensures (materializeExperiment decisionId) (fun _ => Secured db) db := by
  rw [materializeExperiment, ensures_bind, ensures_tables]
  split
  next => exact (ensures_pure ()).mpr ⟨h, .refl _⟩
  next proposal _ =>
    rw [ensures_bind, ensures_newId, ensures_bind, ensures_newId, ensures_modifyTables]
    refine ⟨?_, .insert _ (by simp)⟩
    refine ((ExperimentLedger.insertExperiment h ⟨db.nextId, decisionId, proposal.metric, .draft⟩
      rfl rfl).mono (Nat.le_succ _)).same ?_
    exact ⟨⟨⟨rfl, rfl⟩, rfl, rfl⟩, rfl⟩

theorem secured_phase6DecisionWorkflowAdvanceHandler (H : CheckpointDigest) (R : RunReader M)
    (h : LedgerHolds db) (answer : DecisionAnswer) (context : RuntimeJobContext)
    (workflowId : Id) :
    Ensures (phase6DecisionWorkflowAdvanceHandler H R now answer context workflowId)
      (fun _ => Secured db) db := by
  rw [phase6DecisionWorkflowAdvanceHandler, ensures_bind, ensures_tables]
  refine (framesWithin_decisionPart (DecisionWorkflow.growsWithin_decisionWorkflowAdvanceHandler R
    now _ context workflowId)).ensures_bind fun _ db₁ hframes => ?_
  have h₁ := LedgerHolds.frames h hframes
  have hintent : ∀ {db₂ : AgentDatabase M GovernedTables}, Secured db db₂ →
      Ensures (materializePhase6Intent H context.scope workflowId) (fun _ => Secured db) db₂ :=
    fun h₂ => (recorded_materializePhase6Intent H h₂.ledger context.scope workflowId).mono
      fun _ db₃ h₃ => h₂.recorded h₃
  rw [ensures_bind, ensures_tables]
  dsimp only
  split
  next decisionId _ _ =>
    rw [ensures_bind]
    refine (secured_materializeExperiment h₁.ledger decisionId).mono fun _ db₂ h₂ => ?_
    exact hintent (h₁.then h₂)
  next => exact hintent h₁.secured

/-! ### Findings -/

/-- What a transaction of the analytics has done for the ledger. -/
inductive Finding (db db' : AgentDatabase M Analytics.AnalyticsTables) : Prop
  | none (hframes : Frames SameFindings db db')
  /-- A running Experiment is complete, and has its result. -/
  | interpreted (checkpoint : CheckpointDefinition) (experiment : Experiment)
      (detail : Analytics.ExperimentResultDetail)
      (hcheckpoint : checkpoint ∈ db.tables.domain.checkpointDefinitions)
      (hexperiment : Table.find Experiment.id checkpoint.experimentId
        db.tables.domain.experiments = some experiment)
      (hrunning : experiment.status = .running)
      (hdetail : detail.checkpointDefinitionId = checkpoint.id)
      (hnext : db.nextId ≤ db'.nextId)
      (hdomain : SameFindings { db.tables.domain with
        experimentResultDetails := db.tables.domain.experimentResultDetails ++ [detail]
        experiments := Table.modify Experiment.id experiment.id
          (fun experiment => { experiment with status := .complete })
          db.tables.domain.experiments } db'.tables.domain)
  /-- A result has its learning. -/
  | learned (detail : Analytics.ExperimentResultDetail) (checkpoint : CheckpointDefinition)
      (learning : Analytics.Learning)
      (hdetail : detail ∈ db.tables.domain.experimentResultDetails)
      (hcheckpoint : checkpoint ∈ db.tables.domain.checkpointDefinitions)
      (hid : checkpoint.id = detail.checkpointDefinitionId)
      (hdecision : learning.decisionId = some checkpoint.decisionId)
      (hnext : db.nextId ≤ db'.nextId)
      (hdomain : SameFindings { db.tables.domain with
        learnings := db.tables.domain.learnings ++ [learning] } db'.tables.domain)

section Finding

variable {db db' db'' : AgentDatabase M Analytics.AnalyticsTables}

theorem Finding.frames (h : Finding db db') (hframes : Frames SameFindings db' db'') :
    Finding db db'' := by
  cases h with
  | none h => exact .none (h.trans hframes)
  | interpreted checkpoint experiment detail hcheckpoint hexperiment hrunning hdetail hnext h =>
      exact .interpreted checkpoint experiment detail hcheckpoint hexperiment hrunning hdetail
        (hnext.trans hframes.nextId) (trans_of SameFindings h hframes.domain)
  | learned detail checkpoint learning hdetail hcheckpoint hid hdecision hnext h =>
      exact .learned detail checkpoint learning hdetail hcheckpoint hid hdecision
        (hnext.trans hframes.nextId) (trans_of SameFindings h hframes.domain)

theorem checkpointInputs_eq_ok {metric : Analytics.MetricVersion} {t : Analytics.AnalyticsTables}
    {checkpoint : CheckpointDefinition} {experiment : Experiment}
    {resultClass : Analytics.ResultClass}
    (h : Analytics.checkpointInputs metric t = .ok (checkpoint, experiment, resultClass)) :
    checkpoint ∈ t.checkpointDefinitions ∧
      Table.find Experiment.id checkpoint.experimentId t.experiments = some experiment ∧
      experiment.status = .running := by
  unfold Analytics.checkpointInputs at h
  obtain ⟨c, hc, h⟩ := Except.bind_eq_ok_iff.mp h
  obtain ⟨e, he, h⟩ := Except.bind_eq_ok_iff.mp h
  obtain ⟨_, hstatus, h⟩ := Except.bind_eq_ok_iff.mp h
  obtain ⟨_, -, h⟩ := Except.bind_eq_ok_iff.mp h
  cases h
  exact ⟨Table.mem_of_find (orRaise_eq_ok_iff.mp hc), orRaise_eq_ok_iff.mp he,
    require_eq_ok_iff.mp hstatus⟩

theorem finding_interpretCheckpoint (scope : TenantScope) (metricVersionId : Id) :
    Ensures (Analytics.interpretCheckpoint now scope metricVersionId)
      (fun _ => Finding db) db := by
  have hf := domainRelation_frames (M := M) (r := SameFindings) now fun _ => true
  rw [Analytics.interpretCheckpoint, ensures_bind, ensures_tables, ensures_bind, ensures_check]
  intro metric _
  rw [ensures_bind, ensures_check]
  intro _ _
  split
  next =>
    rw [ensures_bind, ensures_check]
    exact fun _ _ => (ensures_pure _).mpr (.none (refl _))
  next =>
    rw [ensures_bind, ensures_check]
    rintro ⟨checkpoint, experiment, resultClass⟩ hinputs
    obtain ⟨hcheckpoint, hexperiment, hrunning⟩ := checkpointInputs_eq_ok hinputs
    dsimp only
    rw [ensures_bind, ensures_newId, ensures_bind, ensures_newId, ensures_bind,
      ensures_modifyTables]
    refine (hf.addOutboxEvent _ _).ensures_bind fun _ db₁ h₁ => (ensures_pure _).mpr ?_
    have hnext : db.nextId ≤ db₁.nextId := (Nat.le_add_right db.nextId 2).trans h₁.nextId
    exact .interpreted checkpoint experiment
      ⟨db.nextId + 1, scope, db.nextId, checkpoint.id, metric.id, resultClass⟩ hcheckpoint
      hexperiment hrunning rfl hnext ⟨⟨h₁.domain.experiments, h₁.domain.checkpoints⟩, h₁.domain.results, h₁.domain.learnings⟩

theorem finding_interpretCheckpointHandler (context : RuntimeJobContext) (metricVersionId : Id) :
    Ensures (Analytics.interpretCheckpointHandler now context metricVersionId)
      (fun _ => Finding db) db := by
  rw [Analytics.interpretCheckpointHandler, ensures_bind]
  refine (finding_interpretCheckpoint context.scope metricVersionId).mono
    fun experimentResultId db₁ h₁ => ?_
  refine (framesWithin_createJob (r := SameFindings) now _).ensures_bind fun _ db₂ h₂ => ?_
  exact (ensures_pure _).mpr (h₁.frames h₂)

theorem learningInputs_eq_ok {result : Analytics.ExperimentResult} {t : Analytics.AnalyticsTables}
    {checkpoint : CheckpointDefinition} {experiment : Experiment}
    (h : Analytics.learningInputs result t = .ok (checkpoint, experiment)) :
    checkpoint ∈ t.checkpointDefinitions ∧ ∃ detail ∈ t.experimentResultDetails,
      checkpoint.id = detail.checkpointDefinitionId := by
  unfold Analytics.learningInputs at h
  obtain ⟨detail, hdetail, h⟩ := Except.bind_eq_ok_iff.mp h
  obtain ⟨_, -, h⟩ := Except.bind_eq_ok_iff.mp h
  obtain ⟨c, hc, h⟩ := Except.bind_eq_ok_iff.mp h
  obtain ⟨_, -, h⟩ := Except.bind_eq_ok_iff.mp h
  cases h
  have hfind := orRaise_eq_ok_iff.mp hc
  exact ⟨Table.mem_of_find hfind, detail, Table.mem_of_find (orRaise_eq_ok_iff.mp hdetail),
    Table.key_of_find hfind⟩

/-- The reviews of a learning are no part of the ledger. -/
theorem framesWithin_materializeLearningReviews (scope : TenantScope)
    (result : Analytics.ExperimentResult) :
    Within (Frames SameFindings)
      (Analytics.materializeLearningReviews (M := M) scope result) := by
  have hf := domainRelation_frames (M := M) (r := SameFindings) 0 fun _ => true
  refine hf.bind hf.tables fun t => ?_
  dsimp only
  split
  next => exact hf.bind (hf.check _) fun _ => hf.pure _
  next =>
    refine hf.foldlM (fun reviews controller => hf.bind hf.newId fun id => ?_) _
    exact hf.bind (hf.modifyTables _ fun t => ⟨⟨rfl, rfl⟩, rfl, rfl⟩) fun _ => hf.pure _

theorem finding_createGovernedLearning (scope : TenantScope) (experimentResultId : Id) :
    Ensures (Analytics.createGovernedLearning now scope experimentResultId)
      (fun _ => Finding db) db := by
  have hf := domainRelation_frames (M := M) (r := SameFindings) now fun _ => true
  rw [Analytics.createGovernedLearning, ensures_bind, ensures_tables, ensures_bind, ensures_check]
  intro result _
  rw [ensures_bind, ensures_check]
  intro _ _
  split
  next =>
    rw [ensures_bind, ensures_check]
    exact fun _ _ => (ensures_pure _).mpr (.none (refl _))
  next =>
    rw [ensures_bind, ensures_check]
    rintro ⟨checkpoint, experiment⟩ hinputs
    obtain ⟨hcheckpoint, detail, hdetail, hid⟩ := learningInputs_eq_ok hinputs
    dsimp only
    refine (framesWithin_materializeLearningReviews scope result).ensures_bind
      fun reviews db₁ h₁ => ?_
    rw [ensures_bind, ensures_check]
    intro _ _
    rw [ensures_bind, ensures_newId, ensures_bind, ensures_newId, ensures_bind,
      ensures_modifyTables]
    refine (hf.addOutboxEvent _ _).ensures_bind fun _ db₂ h₂ => (ensures_pure _).mpr ?_
    refine .learned detail checkpoint ⟨db₁.nextId, scope, some checkpoint.decisionId,
      some experiment.id⟩ hdetail hcheckpoint hid rfl ?_ (trans_of SameFindings ?_ h₂.domain)
    · exact h₁.nextId.trans ((Nat.le_add_right db₁.nextId 2).trans h₂.nextId)
    · exact ⟨⟨h₁.domain.experiments, h₁.domain.checkpoints⟩, h₁.domain.results,
        congrArg (· ++ _) h₁.domain.learnings⟩

end Finding

/-- The Experiment of a Decision after it has got another status. -/
theorem completed_step {t : GovernedTables} {decisionId : Id} {e : Experiment}
    (he : experimentOf decisionId t.toExecutionContext = some e) :
    GovernedTables.Completed decisionId { t with
      experiments := Table.modify Experiment.id e.id
        (fun experiment => { experiment with status := .complete }) t.experiments } := by
  have hkey : ∀ row : Experiment, Experiment.decisionId
      (if row.id = e.id then { row with status := .complete } else row) = row.decisionId := by
    intro row
    split <;> rfl
  refine ⟨{ e with status := .complete }, ?_, rfl⟩
  refine (Table.find_map hkey).trans ?_
  rw [show Table.find Experiment.decisionId decisionId t.experiments = some e from he]
  exact congrArg some (if_pos rfl)

/-- A finding keeps the ledger. -/
theorem Finding.secured (h : LedgerHolds db) {part : AgentDatabase M Analytics.AnalyticsTables}
    (hfinding : Finding (db.withDomain db.tables.domain.toAnalyticsTables) part) :
    Secured db (part.withDomain (analyticsView.set part.tables.domain db.tables.domain)) := by
  cases hfinding with
  | none hframes =>
      have hsame : Frames SameLedger db
          (part.withDomain (analyticsView.set part.tables.domain db.tables.domain)) :=
        ⟨hframes.nextId, hframes.domain, rfl⟩
      exact (LedgerHolds.frames h hsame).secured
  | interpreted checkpoint experiment detail hcheckpoint hexperiment hrunning hdetail hnext
      hdomain =>
      have hmem := Table.mem_of_find hexperiment
      have hfollows : experiment.status.Follows .complete := hrunning ▸ .completes
      have hstep := ExperimentLedger.step h hmem hfollows
      obtain ⟨e, he, hid⟩ := ExperimentLedger.bound h checkpoint hcheckpoint
      obtain rfl : e = experiment :=
        h.experiments.eq_of_key_eq (Table.mem_of_find he) hmem
          (hid.trans (Table.key_of_find hexperiment).symm)
      have hdone : GovernedTables.Completed checkpoint.decisionId { db.tables.domain with
          experiments := Table.modify Experiment.id e.id
            (fun experiment => { experiment with status := .complete })
            db.tables.domain.experiments } := completed_step he
      refine ⟨((hstep.insertResult detail hcheckpoint hdetail.symm
        hdone).mono hnext).same ⟨hdomain, rfl⟩, ?_⟩
      have hevolve := ExperimentsEvolve.step h.experiments hmem hfollows
      exact hdomain.experiments ▸ hevolve
  | learned detail checkpoint learning hdetail hcheckpoint hid hdecision hnext hdomain =>
      obtain ⟨c, hc, hcid, hdone⟩ := ExperimentLedger.interpreted h detail hdetail
      obtain rfl : c = checkpoint :=
        h.checkpoints.eq_of_key_eq hc hcheckpoint (hcid.trans hid.symm)
      have hlearned := ExperimentLedger.insertLearning h learning
        fun decisionId heq => Option.some.inj (hdecision.symm.trans heq) ▸ hdone
      refine ⟨(hlearned.mono hnext).same ⟨hdomain, rfl⟩, ?_⟩
      have hevolve := ExperimentsEvolve.refl db.tables.domain.experiments
      exact hdomain.experiments ▸ hevolve

/-! ### Publish jobs -/

/-- A preflight without a reason to block has met no Experiment but a draft. -/
theorem draft_of_preflight {D : Digest} {action : ActionProposal} {detail : ActionProposalDetail}
    {approval : Approval} {account : ConnectorAccount} {t : ExecutionTables}
    (h : preflightBlockReason D action detail approval account t = .ok none) :
    ∀ e, experimentOf detail.decisionId t.toExecutionContext = some e → e.status = .draft := by
  unfold preflightBlockReason at h
  obtain ⟨permission, -, h⟩ := Except.bind_eq_ok_iff.mp h
  rw [Except.pure_eq_ok_iff] at h
  intro e he
  rw [he] at h
  by_contra hstatus
  -- every branch before the one about the Experiment gives a reason
  simp only [Option.any_some, ne_eq, hstatus, not_false_eq_true, decide_true, if_true] at h
  repeat' split at h
  all_goals cases h

theorem ensures_prepareExecution (D : Digest) (context : RuntimeJobContext) (payload : JobPayload)
    (db : AgentDatabase M ExecutionTables) :
    Ensures (prepareExecution D context payload) (fun result db' =>
      Frames SameExperiments db db' ∧ ∀ request, result = some request →
        ∀ e, experimentOf request.detail.decisionId db.tables.domain.toExecutionContext = some e →
          e.status = .draft) db := by
  have hf := domainRelation_frames (M := M) (r := SameExperiments) 0 fun _ => true
  refine Ensures.and
    (within_prepareExecution serviceWrites_sameExperiments.handler hf D context payload db) ?_
  rw [prepareExecution, ensures_bind, ensures_tables, ensures_bind, ensures_check]
  rintro ⟨action, execution⟩ -
  dsimp only
  split
  next => exact (ensures_pure none).mpr (by simp)
  next =>
    rw [ensures_bind, ensures_check]
    intro detail _
    rw [ensures_bind, ensures_check]
    intro approval _
    rw [ensures_bind, ensures_check]
    intro account _
    rw [ensures_bind, ensures_check]
    intro reason hreason
    split
    next =>
      rw [setExecutionStatus, setActionStatus, ensures_bind, ensures_modifyTables, ensures_bind,
        ensures_modifyTables, ensures_pure]
      simp
    next =>
      split
      next =>
        rw [succeedExecution, setActionStatus, ensures_bind, ensures_bind, ensures_modifyTables,
          ensures_modifyTables, ensures_pure]
        simp
      next =>
        rw [ensures_bind, ensures_check]
        intro command _
        rw [setExecutionStatus, ensures_bind, ensures_modifyTables, ensures_pure]
        rintro request ⟨⟩
        exact draft_of_preflight hreason

/-- The Experiments after a publication for a Decision. -/
def startedExperiments (decisionId : Id) (t : ExecutionContext) : List Experiment :=
  match experimentOf decisionId t with
  | some experiment => Table.modify Experiment.id experiment.id
      (fun experiment => { experiment with status := .running }) t.experiments
  | none => t.experiments

theorem startedExperiments_congr {t t' : ExecutionContext} (decisionId : Id)
    (h : t'.experiments = t.experiments) :
    startedExperiments decisionId t' = startedExperiments decisionId t := by
  rw [startedExperiments, startedExperiments, experimentOf, experimentOf, h]

theorem ensures_startExperiment (decisionId : Id) (db : AgentDatabase M ExecutionTables) :
    Ensures (startExperiment decisionId) (fun _ db' => db'.nextId = db.nextId ∧
      db'.tables.domain = { db.tables.domain with
        experiments := startedExperiments decisionId db.tables.domain.toExecutionContext }) db := by
  rw [startExperiment, ensures_modifyTables]
  refine ⟨rfl, ?_⟩
  rw [startedExperiments]
  dsimp only
  split
  next experiment h => simp only [h]
  next h => simp only [h]

/-- A publication starts the Experiment of its Decision. -/
theorem ensures_settle_published (scope : TenantScope) (request : PublishRequest)
    (messageId chatId : String) (db : AgentDatabase M ExecutionTables) :
    Ensures (settleExecution now scope request (.published messageId chatId)) (fun _ db' =>
      db.nextId ≤ db'.nextId ∧ SameExperiments { db.tables.domain with
        experiments := startedExperiments request.detail.decisionId
          db.tables.domain.toExecutionContext } db'.tables.domain) db := by
  have hf := domainRelation_frames (M := M) (r := SameExperiments) now fun _ => true
  unfold settleExecution insertExternalReference
  rw [ensures_bind, ensures_newId, ensures_bind, ensures_modifyTables, ensures_bind, ensures_newId,
    ensures_bind, ensures_bind, ensures_tables, ensures_bind, ensures_check]
  intro _ _
  rw [ensures_bind, ensures_check]
  intro _ _
  rw [ensures_modifyTables, ensures_bind, ensures_newId, ensures_bind, ensures_modifyTables,
    ensures_bind]
  refine (ensures_startExperiment request.detail.decisionId _).mono ?_
  rintro _ db₁ ⟨hnext, hdomain⟩
  -- the rest leaves the Experiments alone
  refine (within_succeedExecution serviceWrites_sameExperiments.handler hf _ _ _).ensures_bind
    fun _ db₂ h₂ => ?_
  refine (hf.addOutboxEvent scope "telegram.publication.executed" _).mono fun _ db₃ h₃ => ?_
  have h := h₂.trans h₃
  have hids : db.nextId + 3 ≤ db₁.nextId := hnext.ge
  refine ⟨(Nat.le_add_right db.nextId 3).trans (hids.trans h.nextId), ?_, ?_⟩
  · rw [h.domain.experiments, hdomain]
    rfl
  · rw [h.domain.checkpoints, hdomain]
    rfl

end Write

end LaunchOS
