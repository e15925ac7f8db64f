import LaunchOS.Application.Phase6Moves

/-!
# Intents

The intent of a workflow is carried out in the transaction that gives the workflow its Decision: the
Decision gets its checkpoint, supersedes the prior Decision and is linked to the learning about that.

The module introduces:

* `IntentMaterialized`: what an intent asks for is there;
* `IntentLedger`: every intent of a workflow with a Decision has been carried out;
* `GovernedTables.Establishes`: what an intent needs before it can be carried out;
* `intents_materialized`: the ledger in every state that is reached, and the rollback of an advance
  that cannot carry out its intent.
-/

namespace LaunchOS

open Txn Transition

variable {M : Type}

/-! ## Rows that are found or added -/

section FoundOrAdded

variable {ρ ι : Type} [DecidableEq ι] {key : ρ → ι} {i k : ι} {made : Prop} {rows rows' : List ρ}
variable {row r : ρ}

/-- The row is found afterwards. -/
theorem FoundOrAdded.find (h : FoundOrAdded (Table.find key i rows) made rows rows' row)
    (hrow : made → key row = i) : Table.find key i rows' = some row := by
  cases h with
  | found hfound heq => rw [heq, hfound]
  | added hnone hmade heq =>
      unfold Table.find at hnone ⊢
      rw [heq, List.find?_append, hnone]
      simp [hrow hmade]

theorem FoundOrAdded.forall {found : Option ρ} {P : ρ → Prop}
    (h : FoundOrAdded found made rows rows' row) (hrows : ∀ r ∈ rows, P r) (hrow : made → P row) :
    ∀ r ∈ rows', P r := by
  cases h with
  | found _ heq => exact heq ▸ hrows
  | added _ hmade heq =>
      rw [heq]
      simp only [List.mem_append, List.mem_singleton]
      rintro r (hold | rfl)
      · exact hrows r hold
      · exact hrow hmade

/-- The only row with a key stays the only one. -/
theorem FoundOrAdded.filter (h : FoundOrAdded (Table.find key i rows) made rows rows' row)
    (hrow : made → key row = i) (hr : rows.filter (fun row => key row = k) = [r]) :
    rows'.filter (fun row => key row = k) = [r] := by
  cases h with
  | found _ heq => rw [heq, hr]
  | added hnone hmade heq =>
      have hmem : r ∈ rows.filter (fun row => key row = k) := hr ▸ List.mem_singleton_self r
      obtain ⟨hold, hkey⟩ := List.mem_filter.mp hmem
      have hne : key row ≠ k := by
        rw [hrow hmade, ← of_decide_eq_true hkey]
        exact (Table.find_eq_none_iff.mp hnone r hold).symm
      rw [heq, List.filter_append, hr]
      simp [hne]

end FoundOrAdded

/-! ## What an intent asks for -/

/-- The rule of the Experiment that a checkpoint is bound to. -/
theorem rule_of_checkpointSources {scope : TenantScope} {decisionId : Id} {spec : CheckpointSpec}
    {t : GovernedTables} {decision : FinalDecision} {experiment : Experiment}
    {rule : ExperimentRule}
    (h : checkpointSources scope decisionId spec t = .ok (decision, experiment, rule)) :
    Table.find ExperimentRule.experimentId experiment.id t.experimentRules = some rule ∧
      experiment.metric = spec.metricKey ∧ rule.metric = spec.metricKey := by
  unfold checkpointSources at h
  obtain ⟨_, -, h⟩ := Except.bind_eq_ok_iff.mp h
  obtain ⟨_, -, h⟩ := Except.bind_eq_ok_iff.mp h
  obtain ⟨e, -, h⟩ := Except.bind_eq_ok_iff.mp h
  obtain ⟨r, hrule, h⟩ := Except.bind_eq_ok_iff.mp h
  obtain ⟨_, hmetric, h⟩ := Except.bind_eq_ok_iff.mp h
  cases h
  exact ⟨orRaise_eq_ok_iff.mp hrule, require_eq_ok_iff.mp hmetric⟩

/-- What the intent of a workflow with a Decision asks for is there. -/
structure IntentMaterialized (H : CheckpointDigest) (intent : Phase6DecisionIntent)
    (decisionId : Id) (t : GovernedTables) : Prop where
  checkpoint : ∃ experiment rule checkpoint,
    experimentOf decisionId t.toExecutionContext = some experiment ∧
    experiment.metric = intent.checkpointSpec.metricKey ∧
    Table.find ExperimentRule.experimentId experiment.id t.experimentRules = some rule ∧
    rule.metric = intent.checkpointSpec.metricKey ∧
    Table.find CheckpointDefinition.experimentId experiment.id t.checkpointDefinitions =
      some checkpoint ∧
    checkpoint.contractHash = H.boundCheckpointHash intent.checkpointSpec experiment.id rule.id
  superseded : (intent.priorDecisionId = none ∧ intent.learningId = none) ∨
    ∃ priorDecisionId learningId link, intent.priorDecisionId = some priorDecisionId ∧
      intent.learningId = some learningId ∧ t.supersedes decisionId = some priorDecisionId ∧
      t.decisionLearningLinks.filter (fun link => link.decisionId = decisionId) = [link] ∧
      link.priorDecisionId = priorDecisionId ∧ link.learningId = learningId

/-- Rows of these tables are only added, and to the Experiments and links that are there none. -/
structure KeepsIntents (t t' : GovernedTables) : Prop where
  experiments : ∀ decisionId experiment,
    experimentOf decisionId t.toExecutionContext = some experiment → ∃ experiment',
      experimentOf decisionId t'.toExecutionContext = some experiment' ∧
      experiment'.core = experiment.core
  rules : t.experimentRules <+: t'.experimentRules
  checkpoints : t.checkpointDefinitions <+: t'.checkpointDefinitions
  supersessions : t.supersessions <+: t'.supersessions
  links : ∀ decisionId link,
    t.decisionLearningLinks.filter (fun link => link.decisionId = decisionId) = [link] →
      t'.decisionLearningLinks.filter (fun link => link.decisionId = decisionId) = [link]

theorem KeepsIntents.refl (t : GovernedTables) : KeepsIntents t t :=
  ⟨fun _ e he => ⟨e, he, rfl⟩, List.prefix_rfl, List.prefix_rfl, List.prefix_rfl, fun _ _ h => h⟩

theorem KeepsIntents.trans {t t' t'' : GovernedTables} (h : KeepsIntents t t')
    (h' : KeepsIntents t' t'') : KeepsIntents t t'' where
  experiments decisionId e he := by
    obtain ⟨e', he', hcore⟩ := h.experiments decisionId e he
    obtain ⟨e'', he'', hcore'⟩ := h'.experiments decisionId e' he'
    exact ⟨e'', he'', hcore'.trans hcore⟩
  rules := h.rules.trans h'.rules
  checkpoints := h.checkpoints.trans h'.checkpoints
  supersessions := h.supersessions.trans h'.supersessions
  links decisionId link hlink := h'.links decisionId link (h.links decisionId link hlink)

/-- What is found stays found. -/
theorem find_of_isPrefix {ρ ι : Type} [DecidableEq ι] {key : ρ → ι} {i : ι} {rows rows' : List ρ}
    {row : ρ} (h : rows <+: rows') (hfind : Table.find key i rows = some row) :
    Table.find key i rows' = some row := by
  obtain ⟨new, rfl⟩ := h
  exact Table.find_append_of_eq_some hfind

theorem IntentMaterialized.mono {H : CheckpointDigest} {intent : Phase6DecisionIntent}
    {decisionId : Id} {t t' : GovernedTables} (h : IntentMaterialized H intent decisionId t)
    (hkeeps : KeepsIntents t t') : IntentMaterialized H intent decisionId t' := by
  constructor
  · obtain ⟨e, rule, checkpoint, he, hmetric, hrule, hrmetric, hcheckpoint, hhash⟩ := h.checkpoint
    obtain ⟨e', he', hcore⟩ := hkeeps.experiments decisionId e he
    have hid : e'.id = e.id := congrArg Prod.fst hcore
    have hmetric' : e'.metric = e.metric := congrArg (fun core => core.2.2) hcore
    refine ⟨e', rule, checkpoint, he', hmetric'.trans hmetric, ?_, hrmetric, ?_, ?_⟩
    · rw [hid]
      exact find_of_isPrefix hkeeps.rules hrule
    · rw [hid]
      exact find_of_isPrefix hkeeps.checkpoints hcheckpoint
    · rw [hid]
      exact hhash
  · rcases h.superseded with hunbound | ⟨prior, learningId, link, hprior, hlearning, hsupersedes,
      hlink, hlprior, hllearning⟩
    · exact .inl hunbound
    · refine .inr ⟨prior, learningId, link, hprior, hlearning, ?_,
        hkeeps.links decisionId link hlink, hlprior, hllearning⟩
      obtain ⟨row, hrow, heq⟩ := Option.map_eq_some_iff.mp hsupersedes
      exact Option.map_eq_some_iff.mpr ⟨row, find_of_isPrefix hkeeps.supersessions hrow, heq⟩

/-! ## What the writes keep -/

section Keeps

variable {H : CheckpointDigest} {scope : TenantScope} {nextId nextId' : Id} {t t' : GovernedTables}

theorem KeepsIntents.of_cores (hcores : SameCores t t')
    (hrules : t'.experimentRules = t.experimentRules)
    (hcheckpoints : t'.checkpointDefinitions = t.checkpointDefinitions)
    (hsupersessions : t'.supersessions = t.supersessions)
    (hlinks : t'.decisionLearningLinks = t.decisionLearningLinks) : KeepsIntents t t' where
  experiments decisionId e he := by
    have hfind : ∀ experiments : List Experiment,
        (Table.find Experiment.decisionId decisionId experiments).map Experiment.core =
          (experiments.map Experiment.core).find? fun core => core.2.1 = decisionId := by
      intro experiments
      rw [List.find?_map]
      rfl
    have he' : (Table.find Experiment.decisionId decisionId t'.experiments).map Experiment.core =
        some e.core := by
      rw [hfind, hcores, ← hfind]
      exact congrArg (Option.map Experiment.core) he
    exact Option.map_eq_some_iff.mp he'
  rules := hrules ▸ List.prefix_rfl
  checkpoints := hcheckpoints ▸ List.prefix_rfl
  supersessions := hsupersessions ▸ List.prefix_rfl
  links decisionId link := by
    rw [hlinks]
    exact id

theorem CheckpointMade.keepsIntents {decisionId : Id} {spec : CheckpointSpec}
    {decision : FinalDecision} {experiment : Experiment} {rule : ExperimentRule}
    {checkpoint : CheckpointDefinition}
    (h : CheckpointMade H scope decisionId spec t t' decision experiment rule checkpoint) :
    KeepsIntents t t' := by
  have hprefix := h.checkpoints.isPrefix
  rw [h.rest]
  exact { KeepsIntents.refl t with checkpoints := hprefix }

theorem ExperimentMade.keepsIntents {decisionId : Id}
    (h : ExperimentMade nextId nextId' decisionId t t') : KeepsIntents t t' := by
  rcases h with rfl | ⟨experiment, rule, -, -, -, rfl⟩
  · exact .refl _
  · exact { KeepsIntents.refl t with
      experiments := fun _ e he => ⟨e, Table.find_append_of_eq_some he, rfl⟩
      rules := List.prefix_append _ _ }

theorem Superseded.link_decision {decisionId priorDecisionId learningId : Id}
    {learning : Analytics.Learning} {supersession : Supersession} {link : DecisionLearningLink}
    (h : Superseded scope decisionId priorDecisionId learningId t t' learning supersession link) :
    (∃ id, link = ⟨id, scope, decisionId, priorDecisionId, learningId⟩) →
      link.decisionId = decisionId := by
  rintro ⟨id, rfl⟩
  rfl

theorem PriorSuperseded.keepsIntents {intent : Phase6DecisionIntent} {decisionId : Id}
    (h : PriorSuperseded scope intent decisionId t t') : KeepsIntents t t' := by
  cases h with
  | unbound _ _ hsame => exact hsame ▸ .refl t
  | bound prior learningId _ _ learning supersession link hsuperseded =>
      have hprefix := hsuperseded.supersessions.isPrefix
      have hlinks := hsuperseded.links
      have hlink := hsuperseded.link_decision
      rw [hsuperseded.rest]
      exact { KeepsIntents.refl t with
        supersessions := hprefix
        links := fun _ _ hold => FoundOrAdded.filter hlinks hlink hold }

theorem IntentMade.keepsIntents {workflowId : Id} (h : IntentMade H scope workflowId t t') :
    KeepsIntents t t' := by
  cases h with
  | absent _ hsame => exact hsame ▸ .refl t
  | made intent decisionId t₁ decision experiment rule checkpoint _ _ _ hcheckpoint hsuperseded =>
      exact hcheckpoint.keepsIntents.trans hsuperseded.keepsIntents

theorem LoopPart.Writes.keepsIntents {part : LoopPart} (h : part.Writes t t')
    (hpart : part ≠ .decisions) (hcores : SameCores t t') : KeepsIntents t t' := by
  have hsame : t'.experimentRules = t.experimentRules ∧
      t'.checkpointDefinitions = t.checkpointDefinitions ∧ t'.supersessions = t.supersessions ∧
      t'.decisionLearningLinks = t.decisionLearningLinks := by
    unfold LoopPart.Writes at h
    rw [h]
    cases part with
    | decisions => exact absurd rfl hpart
    | production | agents | business | execution | analytics => exact ⟨rfl, rfl, rfl, rfl⟩
  exact .of_cores hcores hsame.1 hsame.2.1 hsame.2.2.1 hsame.2.2.2

end Keeps

/-! ## The ledger -/

/-- An intent whose workflow has its Decision is carried out, and a Decision only supersedes one that
was there before. -/
structure IntentLedger (H : CheckpointDigest) (nextId : Id) (t : GovernedTables) : Prop where
  settled : t.decisionTables.Settled nextId
  intents : Table.KeysNodup Phase6DecisionIntent.workflowId t.phase6DecisionIntents
  workflow_lt : ∀ intent ∈ t.phase6DecisionIntents, intent.workflowId < nextId
  prior_lt : ∀ intent ∈ t.phase6DecisionIntents, ∀ prior, intent.priorDecisionId = some prior →
    prior < nextId
  supersessions : Table.KeysNodup Supersession.decisionId t.supersessions
  superseding : ∀ row ∈ t.supersessions,
    row.supersedesDecisionId < row.decisionId ∧ row.decisionId < nextId
  links : ∀ link ∈ t.decisionLearningLinks, link.decisionId < nextId
  materialized : ∀ intent ∈ t.phase6DecisionIntents, ∀ decisionId,
    t.finalDecisionOf intent.workflowId = some decisionId →
      IntentMaterialized H intent decisionId t ∧
        ∀ prior, intent.priorDecisionId = some prior → prior < decisionId

section Ledger

variable {H : CheckpointDigest} {scope : TenantScope} {nextId nextId' : Id} {t t' : GovernedTables}

/-- Nothing happens to the intents. -/
theorem IntentLedger.keep (h : IntentLedger H nextId t) (hle : nextId ≤ nextId')
    (hsettled : t'.decisionTables.Settled nextId')
    (hintents : t'.phase6DecisionIntents = t.phase6DecisionIntents)
    (hsupersessions : t'.supersessions = t.supersessions)
    (hlinks : t'.decisionLearningLinks = t.decisionLearningLinks)
    (hfinals : ∀ workflowId decisionId, t'.finalDecisionOf workflowId = some decisionId →
      t.finalDecisionOf workflowId = some decisionId)
    (hkeeps : KeepsIntents t t') : IntentLedger H nextId' t' := by
  refine ⟨hsettled, ?_, ?_, ?_, ?_, ?_, ?_, ?_⟩
  · rw [hintents]
    exact h.intents
  · rw [hintents]
    exact fun intent hintent => (h.workflow_lt intent hintent).trans_le hle
  · rw [hintents]
    exact fun intent hintent prior hprior => (h.prior_lt intent hintent prior hprior).trans_le hle
  · rw [hsupersessions]
    exact h.supersessions
  · rw [hsupersessions]
    exact fun row hrow => ⟨(h.superseding row hrow).1, (h.superseding row hrow).2.trans_le hle⟩
  · rw [hlinks]
    exact fun link hlink => (h.links link hlink).trans_le hle
  · rw [hintents]
    intro intent hintent decisionId hfinal
    obtain ⟨hmade, hlt⟩ := h.materialized intent hintent decisionId (hfinals _ _ hfinal)
    exact ⟨hmade.mono hkeeps, hlt⟩

/-- The intent of the workflow of a Decision without links is carried out. -/
theorem IntentMade.materialized {workflowId decisionId : Id} {intent : Phase6DecisionIntent}
    (h : IntentMade H scope workflowId t t')
    (hintent : Table.find Phase6DecisionIntent.workflowId workflowId t.phase6DecisionIntents =
      some intent)
    (hfinal : t.finalDecisionOf workflowId = some decisionId)
    (hlinks : ∀ link ∈ t.decisionLearningLinks, link.decisionId ≠ decisionId) :
    IntentMaterialized H intent decisionId t' := by
  cases h with
  | absent hnone => exact absurd hfinal (hnone intent decisionId hintent)
  | made intent₁ decisionId₁ t₁ decision experiment rule checkpoint hintent₁ hfinal₁ _ hcheckpoint
      hsuperseded =>
      obtain rfl : intent = intent₁ := Option.some.inj (hintent.symm.trans hintent₁)
      obtain rfl : decisionId = decisionId₁ := Option.some.inj (hfinal.symm.trans hfinal₁)
      have hkeeps := hsuperseded.keepsIntents
      have hlinks₁ : t₁.decisionLearningLinks = t.decisionLearningLinks := by
        rw [hcheckpoint.rest]
      refine ⟨?_, ?_⟩
      · obtain ⟨hid, hexperiment⟩ := checkpointSources_eq_ok hcheckpoint.sources
        obtain ⟨hrule, hmetric, hrmetric⟩ := rule_of_checkpointSources hcheckpoint.sources
        rw [hid] at hexperiment
        have hcore : experimentOf decisionId t₁.toExecutionContext = some experiment := by
          rw [hcheckpoint.rest]
          exact hexperiment
        obtain ⟨experiment', hexperiment', hsame⟩ := hkeeps.experiments decisionId experiment hcore
        have heid : experiment'.id = experiment.id := congrArg Prod.fst hsame
        have hfound : Table.find CheckpointDefinition.experimentId experiment.id
            t₁.checkpointDefinitions = some checkpoint := by
          refine hcheckpoint.checkpoints.find ?_
          rintro ⟨id, rfl⟩
          rfl
        have hrule₁ : Table.find ExperimentRule.experimentId experiment.id t₁.experimentRules =
            some rule := by
          rw [hcheckpoint.rest]
          exact hrule
        refine ⟨experiment', rule, checkpoint, hexperiment', ?_, ?_, hrmetric, ?_, ?_⟩
        · exact (congrArg (fun core => core.2.2) hsame).trans hmetric
        · rw [heid]
          exact find_of_isPrefix hkeeps.rules hrule₁
        · rw [heid]
          exact find_of_isPrefix hkeeps.checkpoints hfound
        · rw [heid]
          exact hcheckpoint.bound
      · cases hsuperseded with
        | unbound hprior hlearning => exact .inl ⟨hprior, hlearning⟩
        | bound prior learningId hprior hlearning learning supersession link hsuperseded =>
            -- the link is a new one
            obtain ⟨hmade, heq⟩ : (∃ id, link = ⟨id, scope, decisionId, prior, learningId⟩) ∧
                t'.decisionLearningLinks = t₁.decisionLearningLinks ++ [link] := by
              cases hsuperseded.links with
              | found hfound _ =>
                  rw [hlinks₁] at hfound
                  exact absurd (Table.key_of_find hfound) (hlinks link (Table.mem_of_find hfound))
              | added _ hmade heq => exact ⟨hmade, heq⟩
            have hkey := hsuperseded.link_decision hmade
            have hnone : t₁.decisionLearningLinks.filter
                (fun link => link.decisionId = decisionId) = [] := by
              rw [hlinks₁, List.filter_eq_nil_iff]
              exact fun link hlink hkey => hlinks link hlink (of_decide_eq_true hkey)
            have hfind := hsuperseded.supersessions.find fun hmade => by rw [hmade]
            refine .inr ⟨prior, learningId, link, hprior, hlearning,
              Option.map_eq_some_iff.mpr ⟨supersession, hfind, hsuperseded.prior⟩, ?_, ?_⟩
            · rw [heq, List.filter_append, hnone]
              simp [hkey]
            · obtain ⟨id, rfl⟩ := hmade
              exact ⟨rfl, rfl⟩

/-- The links and supersessions after an intent has been carried out. -/
theorem IntentMade.superseding {workflowId : Id} (h : IntentMade H scope workflowId t t')
    (hsupersessions : Table.KeysNodup Supersession.decisionId t.supersessions)
    (hrows : ∀ row ∈ t.supersessions,
      row.supersedesDecisionId < row.decisionId ∧ row.decisionId < nextId)
    (hlinks : ∀ link ∈ t.decisionLearningLinks, link.decisionId < nextId)
    (hnew : ∀ intent decisionId,
      Table.find Phase6DecisionIntent.workflowId workflowId t.phase6DecisionIntents = some intent →
      t.finalDecisionOf workflowId = some decisionId → decisionId < nextId ∧
        ∀ prior, intent.priorDecisionId = some prior → prior < decisionId) :
    Table.KeysNodup Supersession.decisionId t'.supersessions ∧
      (∀ row ∈ t'.supersessions,
        row.supersedesDecisionId < row.decisionId ∧ row.decisionId < nextId) ∧
      ∀ link ∈ t'.decisionLearningLinks, link.decisionId < nextId := by
  cases h with
  | absent _ hsame =>
      rw [hsame]
      exact ⟨hsupersessions, hrows, hlinks⟩
  | made intent decisionId t₁ decision experiment rule checkpoint hintent hfinal _ hcheckpoint
      hsuperseded =>
      have hsupersessions₁ : t₁.supersessions = t.supersessions := by rw [hcheckpoint.rest]
      have hlinks₁ : t₁.decisionLearningLinks = t.decisionLearningLinks := by rw [hcheckpoint.rest]
      obtain ⟨hlt, hprior⟩ := hnew intent decisionId hintent hfinal
      cases hsuperseded with
      | unbound _ _ hsame =>
          rw [hsame, hsupersessions₁, hlinks₁]
          exact ⟨hsupersessions, hrows, hlinks⟩
      | bound prior learningId hbound _ learning supersession link hsuperseded =>
          have hadded := hsuperseded.supersessions
          have hlinked := hsuperseded.links
          rw [hsupersessions₁] at hadded
          rw [hlinks₁] at hlinked
          refine ⟨hadded.keysNodup (fun hmade => by rw [hmade]) hsupersessions,
            hadded.forall hrows fun hmade => ?_, hlinked.forall hlinks fun hmade => ?_⟩
          · rw [hmade]
            exact ⟨hprior prior hbound, hlt⟩
          · rw [hsuperseded.link_decision hmade]
            exact hlt

/-- A workflow that has just been started has no Decision. -/
theorem GovernedStart.final_eq {spec : CheckpointSpec} {priorDecisionId learningId : Option Id}
    {w : DecisionWorkflow} {intent : Phase6DecisionIntent}
    (h : GovernedStart H scope nextId nextId' spec priorDecisionId learningId t t' w intent)
    (hsettled : t.decisionTables.Settled nextId) {workflowId decisionId : Id}
    (hfinal : t'.finalDecisionOf workflowId = some decisionId) :
    t.finalDecisionOf workflowId = some decisionId := by
  have hsettled' := (hsettled.start h.id.1 h.id.2 h.snapshot.2 h.status h.final).same h.workflows
  obtain ⟨w', hw', hid, hw'final⟩ := hsettled'.finalOf_eq_some_iff.mp hfinal
  rw [h.workflows.workflows] at hw'
  rcases List.mem_append.mp hw' with hold | hnew
  · exact hsettled.finalOf_eq_some_iff.mpr ⟨w', hold, hid, hw'final⟩
  · rw [List.mem_singleton.mp hnew, h.final] at hw'final
    cases hw'final

theorem GovernedStart.intentLedger {spec : CheckpointSpec} {priorDecisionId learningId : Option Id}
    {w : DecisionWorkflow} {intent : Phase6DecisionIntent}
    (h : GovernedStart H scope nextId nextId' spec priorDecisionId learningId t t' w intent)
    (hprior : ∀ prior, priorDecisionId = some prior →
      ∃ decision ∈ t.decisionTables.decisions, decision.id = prior)
    (hledger : IntentLedger H nextId t) : IntentLedger H nextId' t' := by
  have hle : nextId ≤ nextId' := h.id.1.trans h.id.2.le
  have hsettled := hledger.settled
  have hsettled' := (hsettled.start h.id.1 h.id.2 h.snapshot.2 h.status h.final).same h.workflows
  have hexperiments : t'.experiments = t.experiments := by rw [h.rest]
  have hsupersessions : t'.supersessions = t.supersessions := by rw [h.rest]
  have hlinks : t'.decisionLearningLinks = t.decisionLearningLinks := by rw [h.rest]
  have hkeeps : KeepsIntents t t' := .of_cores (congrArg (List.map Experiment.core) hexperiments)
    (by rw [h.rest]) (by rw [h.rest]) hsupersessions hlinks
  -- no intent names the new workflow
  have hnew : ∀ old ∈ t.phase6DecisionIntents, old.workflowId ≠ w.id :=
    fun old hold => ((hledger.workflow_lt old hold).trans_le h.id.1).ne
  have hnone : t.finalDecisionOf w.id = none := by
    rw [Option.eq_none_iff_forall_ne_some]
    intro decisionId hfinal
    obtain ⟨w', hw', hid, -⟩ := hsettled.finalOf_eq_some_iff.mp hfinal
    exact absurd hid ((hsettled.workflow_lt w' hw').trans_le h.id.1).ne
  obtain ⟨hmade, hintents⟩ : (∃ id, intent = H.intentOf scope w.id spec priorDecisionId learningId
      id) ∧ t'.phase6DecisionIntents = t.phase6DecisionIntents ++ [intent] := by
    cases h.intents with
    | found hfound _ => exact absurd (Table.key_of_find hfound) (hnew _ (Table.mem_of_find hfound))
    | added _ hmade heq => exact ⟨hmade, heq⟩
  obtain ⟨id, rfl⟩ := hmade
  have hforall : ∀ {P : Phase6DecisionIntent → Prop}, (∀ old ∈ t.phase6DecisionIntents, P old) →
      P (H.intentOf scope w.id spec priorDecisionId learningId id) →
      ∀ old ∈ t'.phase6DecisionIntents, P old := by
    intro P hold hnew
    rw [hintents]
    simp only [List.mem_append, List.mem_singleton]
    rintro old (hmem | rfl)
    · exact hold old hmem
    · exact hnew
  refine ⟨hsettled', ?_, hforall ?_ ?_, hforall ?_ ?_, ?_, ?_, ?_, hforall ?_ ?_⟩
  · rw [hintents]
    refine hledger.intents.append (Table.keysNodup_singleton _) ?_
    simp only [List.mem_singleton, forall_eq]
    exact hnew
  · exact fun old hold => (hledger.workflow_lt old hold).trans_le hle
  · exact h.id.2
  · exact fun old hold prior hbound => (hledger.prior_lt old hold prior hbound).trans_le hle
  · intro prior hbound
    obtain ⟨decision, hdecision, rfl⟩ := hprior prior hbound
    exact (hsettled.decision_lt decision hdecision).trans_le hle
  · rw [hsupersessions]
    exact hledger.supersessions
  · rw [hsupersessions]
    exact fun row hrow =>
      ⟨(hledger.superseding row hrow).1, (hledger.superseding row hrow).2.trans_le hle⟩
  · rw [hlinks]
    exact fun link hlink => (hledger.links link hlink).trans_le hle
  · intro old hold decisionId hfinal
    obtain ⟨hdone, hlt⟩ := hledger.materialized old hold decisionId (h.final_eq hsettled hfinal)
    exact ⟨hdone.mono hkeeps, hlt⟩
  · intro decisionId hfinal
    rw [CheckpointDigest.intentOf] at hfinal
    have hfinal := h.final_eq hsettled hfinal
    rw [hnone] at hfinal
    cases hfinal

/-- The tables of the decision workflow alone are written. -/
theorem KeepsIntents.of_rest (h : t' = { t with decisionTables := t'.decisionTables }) :
    KeepsIntents t t' := by
  rw [h]
  exact .of_cores rfl rfl rfl rfl rfl

theorem ExperimentMade.tables {decisionId : Id}
    (h : ExperimentMade nextId nextId' decisionId t t') :
    t'.phase6DecisionIntents = t.phase6DecisionIntents ∧ t'.supersessions = t.supersessions ∧
      t'.decisionLearningLinks = t.decisionLearningLinks := by
  rcases h with rfl | ⟨experiment, rule, -, -, -, rfl⟩ <;> exact ⟨rfl, rfl, rfl⟩

theorem IntentMade.intents {workflowId : Id} (h : IntentMade H scope workflowId t t') :
    t'.phase6DecisionIntents = t.phase6DecisionIntents := by
  cases h with
  | absent _ hsame => rw [hsame]
  | made intent decisionId t₁ decision experiment rule checkpoint _ _ _ hcheckpoint hsuperseded =>
      have h₁ : t₁.phase6DecisionIntents = t.phase6DecisionIntents := by rw [hcheckpoint.rest]
      cases hsuperseded with
      | unbound _ _ hsame => rw [hsame, h₁]
      | bound _ _ _ _ _ _ _ hsuperseded => rw [hsuperseded.rest, h₁]

/-- An advance carries out the intent of its workflow. -/
theorem IntentLedger.advance {op : GovernedOp M} {nextId₁ : Id} {t₁ t₂ : GovernedTables}
    {workflowId : Id} {answer : DecisionAnswer} {context : RuntimeJobContext}
    (hop : op = .advanceDecisionWorkflow answer context workflowId)
    (hnext : nextId ≤ nextId₁ ∧ nextId₁ ≤ nextId')
    (hmoves : DecisionMoves op nextId nextId₁ t.decisionTables t₁.decisionTables)
    (hrest : t₁ = { t with decisionTables := t₁.decisionTables })
    (hexperiment : KeepsIntents t₁ t₂ ∧ t₂.decisionTables = t₁.decisionTables ∧
      t₂.phase6DecisionIntents = t₁.phase6DecisionIntents ∧
      t₂.supersessions = t₁.supersessions ∧ t₂.decisionLearningLinks = t₁.decisionLearningLinks)
    (hintent : IntentMade H scope workflowId t₂ t') (h : IntentLedger H nextId t) :
    IntentLedger H nextId' t' := by
  obtain ⟨hkeeps₂, hdecisions₂, hintents₂, hsupersessions₂, hlinks₂⟩ := hexperiment
  have hle : nextId ≤ nextId' := hnext.1.trans hnext.2
  have hintents : t₂.phase6DecisionIntents = t.phase6DecisionIntents := by
    rw [hintents₂, hrest]
  have hsupersessions : t₂.supersessions = t.supersessions := by rw [hsupersessions₂, hrest]
  have hlinks : t₂.decisionLearningLinks = t.decisionLearningLinks := by rw [hlinks₂, hrest]
  have hsettled₂ : t₂.decisionTables.Settled nextId₁ := by
    rw [hdecisions₂]
    exact hmoves.settled hnext.1 h.settled
  have hkeeps : KeepsIntents t t' :=
    (KeepsIntents.of_rest hrest).trans (hkeeps₂.trans hintent.keepsIntents)
  -- a Decision that a workflow has now is an old one, or this workflow has got a new one
  have hfinals : ∀ w decisionId, t₂.finalDecisionOf w = some decisionId →
      t.finalDecisionOf w = some decisionId ∨
        w = workflowId ∧ nextId ≤ decisionId ∧ decisionId < nextId₁ := by
    intro w decisionId hfinal
    obtain ⟨w', hw', rfl, hw'final⟩ := hsettled₂.finalOf_eq_some_iff.mp hfinal
    rw [hdecisions₂] at hw'
    rcases hmoves.finals h.settled w' hw' decisionId hw'final with
      ⟨old, hold, hid, hdecided⟩ | ⟨⟨answer', context', hop'⟩, -, hfresh⟩
    · exact .inl (h.settled.finalOf_eq_some_iff.mpr ⟨old, hold, hid, hdecided⟩)
    · rw [hop] at hop'
      cases hop'
      exact .inr ⟨rfl, hfresh⟩
  have hprior : ∀ intent ∈ t.phase6DecisionIntents, ∀ decisionId,
      t₂.finalDecisionOf intent.workflowId = some decisionId →
      ∀ prior, intent.priorDecisionId = some prior → prior < decisionId := by
    intro intent hmem decisionId hfinal prior hbound
    rcases hfinals _ _ hfinal with hold | ⟨-, hfresh, -⟩
    · exact (h.materialized intent hmem decisionId hold).2 prior hbound
    · exact (h.prior_lt intent hmem prior hbound).trans_le hfresh
  have hrows₂ : ∀ row ∈ t₂.supersessions,
      row.supersedesDecisionId < row.decisionId ∧ row.decisionId < nextId' := by
    rw [hsupersessions]
    exact fun row hrow =>
      ⟨(h.superseding row hrow).1, (h.superseding row hrow).2.trans_le hle⟩
  have hlinked₂ : ∀ link ∈ t₂.decisionLearningLinks, link.decisionId < nextId' := by
    rw [hlinks]
    exact fun link hlink => (h.links link hlink).trans_le hle
  have hnew : ∀ intent decisionId, Table.find Phase6DecisionIntent.workflowId workflowId
      t₂.phase6DecisionIntents = some intent → t₂.finalDecisionOf workflowId = some decisionId →
      decisionId < nextId' ∧ ∀ prior, intent.priorDecisionId = some prior → prior < decisionId := by
    intro intent decisionId hfind hfinal
    obtain ⟨w', hw', hid, hw'final⟩ := hsettled₂.finalOf_eq_some_iff.mp hfinal
    obtain ⟨decision, hdecision, rfl, -⟩ := hsettled₂.decided w' hw' decisionId hw'final
    rw [hintents] at hfind
    have hkey := Table.key_of_find hfind
    exact ⟨(hsettled₂.decision_lt decision hdecision).trans_le hnext.2,
      hprior intent (Table.mem_of_find hfind) _ (hkey ▸ hfinal)⟩
  obtain ⟨hnodup, hrows, hlinked⟩ :=
    hintent.superseding (hsupersessions ▸ h.supersessions) hrows₂ hlinked₂ hnew
  have hdecisions' : t'.decisionTables = t₂.decisionTables := hintent.decisionTables
  have hfinal' : ∀ w, t'.finalDecisionOf w = t₂.finalDecisionOf w := by
    intro w
    rw [GovernedTables.finalDecisionOf, GovernedTables.finalDecisionOf, hdecisions']
  have hintents' : t'.phase6DecisionIntents = t.phase6DecisionIntents :=
    hintent.intents.trans hintents
  refine ⟨?_, ?_, ?_, ?_, hnodup, hrows, hlinked, ?_⟩
  · rw [hdecisions']
    exact hsettled₂.mono hnext.2
  · rw [hintents']
    exact h.intents
  · rw [hintents']
    exact fun intent hmem => (h.workflow_lt intent hmem).trans_le hle
  · rw [hintents']
    exact fun intent hmem prior hbound => (h.prior_lt intent hmem prior hbound).trans_le hle
  · rw [hintents']
    intro intent hmem decisionId hfinal
    rw [hfinal'] at hfinal
    refine ⟨?_, hprior intent hmem decisionId hfinal⟩
    rcases hfinals _ _ hfinal with hold | ⟨hworkflow, hfresh, -⟩
    · exact (h.materialized intent hmem decisionId hold).1.mono hkeeps
    · have hfind := h.intents.find_eq_some_iff.mpr ⟨hmem, hworkflow⟩
      rw [hworkflow] at hfinal
      refine hintent.materialized (hintents ▸ hfind) hfinal ?_
      rw [hlinks]
      exact fun link hlink => ((h.links link hlink).trans_le hfresh).ne

theorem Phase6Step.intentLedger {op : GovernedOp M} (hstep : Phase6Step H op nextId nextId' t t')
    (hle : nextId ≤ nextId') (h : IntentLedger H nextId t) : IntentLedger H nextId' t' := by
  cases hstep with
  | started scope spec priorDecisionId learningId w intent hstart hprior =>
      exact hstart.intentLedger hprior h
  | advanced answer context workflowId hop nextId₁ nextId₂ t₁ t₂ hnext hmoves hrest hexperiment
      hintent =>
      refine h.advance hop ⟨hnext.1, hnext.2.1.trans hnext.2.2⟩ hmoves hrest ?_ hintent
      rcases hexperiment with rfl | ⟨decisionId, -, -, hmade⟩
      · exact ⟨.refl _, rfl, rfl, rfl, rfl⟩
      · exact ⟨hmade.keepsIntents, hmade.decisionTables, hmade.tables⟩
  | approved scope workflowId userId hop hmoves hrest =>
      refine h.keep hle (hmoves.settled hle h.settled) (by rw [hrest]) (by rw [hrest])
        (by rw [hrest]) ?_ (.of_rest hrest)
      intro w decisionId hfinal
      obtain ⟨w', hw', rfl, hw'final⟩ :=
        (hmoves.settled hle h.settled).finalOf_eq_some_iff.mp hfinal
      rcases hmoves.finals h.settled w' hw' decisionId hw'final with
        ⟨old, hold, hid, hdecided⟩ | ⟨⟨answer, context, hop'⟩, -⟩
      · exact h.settled.finalOf_eq_some_iff.mpr ⟨old, hold, hid, hdecided⟩
      · rw [hop] at hop'
        cases hop'
  | bound scope decisionId spec hop decision experiment rule checkpoint hcheckpoint =>
      have hdecisions : t'.decisionTables = t.decisionTables := by rw [hcheckpoint.rest]
      refine h.keep hle ?_ (by rw [hcheckpoint.rest]) (by rw [hcheckpoint.rest])
        (by rw [hcheckpoint.rest]) ?_ hcheckpoint.keepsIntents
      · rw [hdecisions]
        exact h.settled.mono hle
      · intro w decisionId hfinal
        rw [GovernedTables.finalDecisionOf, hdecisions] at hfinal
        exact hfinal

/-- The other parts leave the intents alone. -/
theorem LoopPart.Writes.intentLedger {part : LoopPart} (hwrites : part.Writes t t')
    (hpart : part ≠ .decisions) (hcores : SameCores t t') (hle : nextId ≤ nextId')
    (h : IntentLedger H nextId t) : IntentLedger H nextId' t' := by
  have hsame := hwrites.sameDecisions hpart
  have hrest : t'.phase6DecisionIntents = t.phase6DecisionIntents ∧
      t'.supersessions = t.supersessions ∧
      t'.decisionLearningLinks = t.decisionLearningLinks := by
    unfold LoopPart.Writes at hwrites
    rw [hwrites]
    cases part with
    | decisions => exact absurd rfl hpart
    | production | agents | business | execution | analytics => exact ⟨rfl, rfl, rfl⟩
  refine h.keep hle ((h.settled.mono hle).same hsame) hrest.1 hrest.2.1 hrest.2.2 ?_
    (hwrites.keepsIntents hpart hcores)
  intro w decisionId hfinal
  rw [GovernedTables.finalDecisionOf, hsame.workflows] at hfinal
  exact hfinal

end Ledger

/-! ## What an intent needs -/

/-- What the Decision of a workflow needs for its intent to be carried out. -/
structure GovernedTables.Establishes (H : CheckpointDigest) (intent : Phase6DecisionIntent)
    (decisionId : Id) (t : GovernedTables) : Prop where
  experiment : ∃ experiment rule, experimentOf decisionId t.toExecutionContext = some experiment ∧
    experiment.metric = intent.checkpointSpec.metricKey ∧
    Table.find ExperimentRule.experimentId experiment.id t.experimentRules = some rule ∧
    rule.metric = intent.checkpointSpec.metricKey ∧
    ∀ checkpoint, Table.find CheckpointDefinition.experimentId experiment.id
        t.checkpointDefinitions = some checkpoint →
      checkpoint.contractHash = H.boundCheckpointHash intent.checkpointSpec experiment.id rule.id
  binding : (intent.priorDecisionId = none ∧ intent.learningId = none) ∨
    ∃ priorDecisionId learningId learning, intent.priorDecisionId = some priorDecisionId ∧
      intent.learningId = some learningId ∧
      Table.find Analytics.Learning.id learningId t.learnings = some learning ∧
      learning.decisionId = some priorDecisionId ∧
      ∀ other, t.supersedes decisionId = some other → other = priorDecisionId

/-- `GuardedDecisionWorkflowAdvanceHandler.handle`: the advance, before the intent is carried out. -/
def guardedDecisionWorkflowAdvanceHandler (R : RunReader M) (now : Time) (answer : DecisionAnswer)
    (context : RuntimeJobContext) (workflowId : Id) : GovernedTxn M Unit := do
  let t ← DomainTxn.tables
  (DecisionWorkflow.decisionWorkflowAdvanceHandler R now { answer with phase6Intent := .ok () }
    context workflowId).zoom decisionView
  let t' ← DomainTxn.tables
  match t.finalDecisionOf workflowId, t'.finalDecisionOf workflowId with
  | none, some decisionId => materializeExperiment decisionId
  | _, _ => pure ()

theorem phase6DecisionWorkflowAdvanceHandler_eq (H : CheckpointDigest) (R : RunReader M)
    (now : Time) (answer : DecisionAnswer) (context : RuntimeJobContext) (workflowId : Id) :
    phase6DecisionWorkflowAdvanceHandler H R now answer context workflowId = (do
      guardedDecisionWorkflowAdvanceHandler R now answer context workflowId
      materializePhase6Intent H context.scope workflowId) := by
  simp only [phase6DecisionWorkflowAdvanceHandler, guardedDecisionWorkflowAdvanceHandler, bind_assoc]
  refine bind_congr fun t => bind_congr fun _ => bind_congr fun t' => ?_
  generalize t.finalDecisionOf workflowId = before
  generalize t'.finalDecisionOf workflowId = now
  cases before <;> cases now <;> simp only [pure_bind]

section Establishes

variable {H : CheckpointDigest} {scope : TenantScope} {t t' : GovernedTables}

/-- An intent is only carried out where it can be. -/
theorem IntentMade.establishes {workflowId decisionId : Id} {intent : Phase6DecisionIntent}
    (h : IntentMade H scope workflowId t t')
    (hintent : Table.find Phase6DecisionIntent.workflowId workflowId t.phase6DecisionIntents =
      some intent)
    (hfinal : t.finalDecisionOf workflowId = some decisionId) : t.Establishes H intent decisionId := by
  cases h with
  | absent hnone => exact absurd hfinal (hnone intent decisionId hintent)
  | made intent₁ decisionId₁ t₁ decision experiment rule checkpoint hintent₁ hfinal₁ _ hcheckpoint
      hsuperseded =>
      obtain rfl : intent = intent₁ := Option.some.inj (hintent.symm.trans hintent₁)
      obtain rfl : decisionId = decisionId₁ := Option.some.inj (hfinal.symm.trans hfinal₁)
      constructor
      · obtain ⟨hid, hexperiment⟩ := checkpointSources_eq_ok hcheckpoint.sources
        obtain ⟨hrule, hmetric, hrmetric⟩ := rule_of_checkpointSources hcheckpoint.sources
        refine ⟨experiment, rule, hid ▸ hexperiment, hmetric, hrule, hrmetric, ?_⟩
        intro old hold
        cases hcheckpoint.checkpoints with
        | found hfound _ =>
            obtain rfl := Option.some.inj (hold.symm.trans hfound)
            exact hcheckpoint.bound
        | added hnone _ _ =>
            rw [hold] at hnone
            cases hnone
      · cases hsuperseded with
        | unbound hprior hlearning _ => exact .inl ⟨hprior, hlearning⟩
        | bound prior learningId hprior hlearning learning supersession link hsuperseded =>
            have hlearnings : t₁.learnings = t.learnings := by rw [hcheckpoint.rest]
            have hsupersessions : t₁.supersessions = t.supersessions := by rw [hcheckpoint.rest]
            refine .inr ⟨prior, learningId, learning, hprior, hlearning, hlearnings ▸ hsuperseded.known,
              hsuperseded.learned, fun other hother => ?_⟩
            obtain ⟨row, hrow, rfl⟩ := Option.map_eq_some_iff.mp hother
            rw [← hsupersessions] at hrow
            have hkept := find_of_isPrefix hsuperseded.supersessions.isPrefix hrow
            have hfound := hsuperseded.supersessions.find fun hmade => by rw [hmade]
            obtain rfl := Option.some.inj (hkept.symm.trans hfound)
            exact hsuperseded.prior

/-- An advance whose intent cannot be carried out is rolled back. -/
theorem advance_refused (E : GovernedEnv M) {now : Time} {answer : DecisionAnswer}
    {context : RuntimeJobContext} {workflowId decisionId : Id} {intent : Phase6DecisionIntent}
    {s : GovernedState M} {db : AgentDatabase M GovernedTables}
    (hok : exec (guardedDecisionWorkflowAdvanceHandler E.reader now answer context workflowId) s.db =
      .ok db)
    (hfinal : db.tables.domain.finalDecisionOf workflowId = some decisionId)
    (hintent : Table.find Phase6DecisionIntent.workflowId workflowId
      db.tables.domain.phase6DecisionIntents = some intent)
    (hnot : ¬ db.tables.domain.Establishes E.checkpointDigest intent decisionId) :
    s.step E ⟨now, .advanceDecisionWorkflow answer context workflowId⟩ = s := by
  have hstep := s.stepped E ⟨now, .advanceDecisionWorkflow answer context workflowId⟩
  generalize s.step E ⟨now, .advanceDecisionWorkflow answer context workflowId⟩ = s' at hstep ⊢
  cases hstep with
  | executed hop => cases hop
  | refused => rfl
  | @committed db' hcommitted =>
      have hcommitted : exec (phase6DecisionWorkflowAdvanceHandler E.checkpointDigest E.reader now
          answer context workflowId) s.db = .ok db' := hcommitted
      rw [phase6DecisionWorkflowAdvanceHandler_eq] at hcommitted
      -- the second half of the transaction begins where the first one ends
      obtain ⟨_, hguarded⟩ := exec_eq_ok_iff.mp hok
      have hmade : Ensures (do
          guardedDecisionWorkflowAdvanceHandler E.reader now answer context workflowId
          materializePhase6Intent E.checkpointDigest context.scope workflowId)
          (fun _ db' => IntentMade E.checkpointDigest context.scope workflowId db.tables.domain
            db'.tables.domain) s.db := by
        rw [ensures_bind]
        intro _ db₁ hrun
        rw [hguarded] at hrun
        cases hrun
        exact (ensures_materializePhase6Intent E.checkpointDigest context.scope workflowId).mono
          fun _ _ h => h.2
      exact absurd ((hmade.of_exec hcommitted).establishes hintent hfinal) hnot

end Establishes

/-! ## Runs -/

section Runs

variable (E : GovernedEnv M)

theorem intentLedger_step (action : GovernedAction M) {s : GovernedState M}
    (h : IntentLedger E.checkpointDigest s.db.nextId s.db.tables.domain) :
    IntentLedger E.checkpointDigest (s.step E action).db.nextId
      (s.step E action).db.tables.domain := by
  have hwrites := writes_step E action s
  by_cases hpart : action.op.part = .decisions
  · rcases phase6Step E action s hpart h.settled with hsame | hstep
    · rw [hsame]
      exact h
    · exact hstep.intentLedger hwrites.nextId h
  · exact hwrites.domain.intentLedger hpart (cores_step E action s hpart) hwrites.nextId h

theorem GovernedState.Initial.intentLedger {H : CheckpointDigest} {s : GovernedState M}
    (h : s.Initial) : IntentLedger H s.db.nextId s.db.tables.domain := by
  have hdomain := h.1
  constructor
  · constructor <;> simp [hdomain, Table.keysNodup_nil]
  all_goals simp [hdomain, Table.keysNodup_nil]

theorem intentLedger_run {s : GovernedState M} (hs : s.Initial)
    (actions : List (GovernedAction M)) :
    IntentLedger E.checkpointDigest (run (GovernedState.step E) s actions).db.nextId
      (run (GovernedState.step E) s actions).db.tables.domain :=
  invariant_run_of_step _
    (I := fun s : GovernedState M =>
      IntentLedger E.checkpointDigest s.db.nextId s.db.tables.domain)
    (fun _ action h => intentLedger_step E action h) hs.intentLedger actions

/-- Whenever a workflow with an intent has its Decision, the intent has been carried out: the
Experiment has the checkpoint of the intent, and the Decision supersedes the prior one, with one link
to the learning. An advance that cannot carry out the intent leaves nothing behind. -/
theorem intents_materialized {s : GovernedState M} (hs : s.Initial)
    (actions : List (GovernedAction M)) :
    (∀ intent ∈ (run (GovernedState.step E) s actions).db.tables.domain.phase6DecisionIntents,
      ∀ decisionId, (run (GovernedState.step E) s actions).db.tables.domain.finalDecisionOf
          intent.workflowId = some decisionId →
        IntentMaterialized E.checkpointDigest intent decisionId
          (run (GovernedState.step E) s actions).db.tables.domain) ∧
    ∀ now answer context workflowId db intent decisionId,
      exec (guardedDecisionWorkflowAdvanceHandler E.reader now answer context workflowId)
          (run (GovernedState.step E) s actions).db = .ok db →
      db.tables.domain.finalDecisionOf workflowId = some decisionId →
      Table.find Phase6DecisionIntent.workflowId workflowId
          db.tables.domain.phase6DecisionIntents = some intent →
      ¬ db.tables.domain.Establishes E.checkpointDigest intent decisionId →
      (run (GovernedState.step E) s actions).step E
          ⟨now, .advanceDecisionWorkflow answer context workflowId⟩ =
        run (GovernedState.step E) s actions := by
  constructor
  · intro intent hintent decisionId hfinal
    exact ((intentLedger_run E hs actions).materialized intent hintent decisionId hfinal).1
  · intro now answer context workflowId db intent decisionId hok hfinal hintent hnot
    exact advance_refused E hok hfinal hintent hnot

end Runs

/-- The intent of the first successor has been carried out. -/
theorem successor_intent_materialized :
    ∃ intent ∈ (run (GovernedState.step (plainEnv shownFact)) governedStart
        succeededDecision).db.tables.domain.phase6DecisionIntents,
      intent.priorDecisionId = some 41 ∧ IntentMaterialized (plainEnv shownFact).checkpointDigest
        intent 166 (run (GovernedState.step (plainEnv shownFact)) governedStart
          succeededDecision).db.tables.domain := by
  have hintent : ∃ intent ∈ (run (GovernedState.step (plainEnv shownFact)) governedStart
      succeededDecision).db.tables.domain.phase6DecisionIntents,
      intent.priorDecisionId = some 41 ∧ (run (GovernedState.step (plainEnv shownFact))
        governedStart succeededDecision).db.tables.domain.finalDecisionOf intent.workflowId =
          some 166 := by
    decide +kernel
  obtain ⟨intent, hintent, hprior, hfinal⟩ := hintent
  exact ⟨intent, hintent, hprior, (intents_materialized (plainEnv shownFact) governedStart_initial
    succeededDecision).1 intent hintent 166 hfinal⟩

end LaunchOS
