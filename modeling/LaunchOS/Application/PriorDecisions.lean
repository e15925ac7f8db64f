import LaunchOS.Application.Intents

/-!
# Prior Decisions

Production refuses a Decision as soon as another one supersedes it. The row that says so is written
with the successor, before the owner has approved that.

The module introduces:

* `startProductionWorkflow_eq_superseded_iff`, `assertDecisionBinding_eq_superseded_iff`: when
  production refuses a Decision because it is superseded;
* `GovernedTables.Accounted`: whatever supersedes a Decision is that of a workflow with an intent;
* `GovernedTables.Replaced`: a Decision that supersedes the given one is approved;
* `GovernedState.Operational`: production refuses a Decision as superseded only if it is replaced;
* `operational_iff`: that is so exactly if no successor waits for its approval, or one has it.
-/

namespace LaunchOS

open Txn Transition

variable {M : Type}

/-! ## Refusals -/

/-- What `start_production_workflow` raises. -/
def supersededAtStart : JobError :=
  .permanentJobError "superseded Decision cannot start production"

/-- What `_assert_decision_binding` raises. -/
def supersededInProduction : JobError :=
  .permanentJobError "production cannot continue from superseded Decision"

section Errors

variable {S α β : Type}

/-- The error that is raised, if one is. -/
def raised : Except JobError α → Option JobError
  | .error error => some error
  | .ok _ => none

theorem raised_eq_some_iff {x : Except JobError α} {error : JobError} :
    raised x = some error ↔ x = .error error := by
  cases x <;> simp [raised]

theorem except_bind_eq_error_iff {x : Except JobError α} {f : α → Except JobError β}
    {error : JobError} :
    (x >>= f) = .error error ↔ x = .error error ∨ ∃ a, x = .ok a ∧ f a = .error error := by
  cases x with
  | error raised =>
      refine ⟨fun h => ?_, ?_⟩
      · cases h
        exact .inl rfl
      · rintro (h | ⟨a, ha, -⟩)
        · cases h
          rfl
        · cases ha
  | ok a =>
      refine ⟨fun h => .inr ⟨a, rfl, h⟩, ?_⟩
      rintro (h | ⟨a', ha, hf⟩)
      · cases h
      · cases ha
        exact hf

theorem require_eq_error_iff {c : Prop} [Decidable c] {error raised : JobError} :
    require c error = .error raised ↔ ¬ c ∧ raised = error := by
  unfold require
  split
  next hc => simp [hc]
  next hc => simp [hc, eq_comm]

theorem orRaise_eq_error_iff {error raised : JobError} {row : Option α} :
    orRaise error row = .error raised ↔ row = none ∧ raised = error := by
  cases row <;> simp [orRaise, eq_comm]

theorem assertMatches_ne_permanent {expected actual : TenantScope} {message : String} :
    expected.assertMatches actual ≠ .error (.permanentJobError message) := by
  unfold TenantScope.assertMatches
  split
  next => simp
  next =>
    intro h
    have hkind := congrArg JobError.kind (Except.error.inj h)
    cases hkind

theorem tables_bind_eq_error_iff {f : S → DomainTxn M S β} {db : AgentDatabase M S}
    {error : JobError} :
    (DomainTxn.tables >>= f) db = .error error ↔ f db.tables.domain db = .error error :=
  Iff.rfl

theorem bind_eq_error_iff {m : DomainTxn M S α} {f : α → DomainTxn M S β}
    {db : AgentDatabase M S} {error : JobError} :
    (m >>= f) db = .error error ↔
      m db = .error error ∨ ∃ a db', m db = .ok (a, db') ∧ f a db' = .error error := by
  change (m db >>= fun (a, db') => f a db') = .error error ↔ _
  cases m db with
  | error raised =>
      refine ⟨fun h => ?_, ?_⟩
      · cases h
        exact .inl rfl
      · rintro (h | ⟨a, db', ha, -⟩)
        · cases h
          rfl
        · cases ha
  | ok result =>
      refine ⟨fun h => .inr ⟨result.1, result.2, rfl, h⟩, ?_⟩
      rintro (h | ⟨a, db', ha, hf⟩)
      · cases h
      · obtain rfl := Except.ok.inj ha
        exact hf

theorem check_bind_eq_error_iff {x : Except JobError α} {f : α → DomainTxn M S β}
    {db : AgentDatabase M S} {error : JobError} :
    (DomainTxn.check x >>= f) db = .error error ↔
      x = .error error ∨ ∃ a, x = .ok a ∧ f a db = .error error := by
  rw [bind_eq_error_iff]
  cases x with
  | error raised =>
      refine ⟨fun h => ?_, ?_⟩
      · rcases h with h | ⟨a, db', ha, -⟩
        · cases h
          exact .inl rfl
        · cases ha
      · rintro (h | ⟨a, ha, -⟩)
        · cases h
          exact .inl rfl
        · cases ha
  | ok a =>
      refine ⟨fun h => ?_, ?_⟩
      · rcases h with h | ⟨a', db', ha, hf⟩
        · cases h
        · cases ha
          exact .inr ⟨a, rfl, hf⟩
      · rintro (h | ⟨a', ha, hf⟩)
        · cases h
        · cases ha
          exact .inr ⟨a, db, rfl, hf⟩

/-- An error that is not the one of the requirement comes after it. -/
theorem require_bind_eq_error_iff {c : Prop} [Decidable c] {other error : JobError}
    (hne : error ≠ other) {f : Unit → DomainTxn M S β} {db : AgentDatabase M S} :
    (DomainTxn.check (require c other) >>= f) db = .error error ↔ c ∧ f () db = .error error := by
  simp only [check_bind_eq_error_iff, require_eq_error_iff, require_eq_ok_iff, hne, and_false,
    false_or, Unique.exists_iff]

theorem orRaise_bind_eq_error_iff {other error : JobError} (hne : error ≠ other) {row : Option α}
    {f : α → DomainTxn M S β} {db : AgentDatabase M S} :
    (DomainTxn.check (orRaise other row) >>= f) db = .error error ↔
      ∃ a, row = some a ∧ f a db = .error error := by
  simp only [check_bind_eq_error_iff, orRaise_eq_error_iff, orRaise_eq_ok_iff, hne, and_false,
    false_or]

theorem assertMatches_bind_eq_error_iff {expected actual : TenantScope} {error : JobError}
    (hkind : error.kind ≠ .tenantScopeViolation) {f : Unit → DomainTxn M S β}
    {db : AgentDatabase M S} :
    (DomainTxn.check (expected.assertMatches actual) >>= f) db = .error error ↔
      expected = actual ∧ f () db = .error error := by
  rw [check_bind_eq_error_iff, TenantScope.assertMatches]
  by_cases hsame : expected = actual
  · rw [if_pos hsame]
    simp [hsame, Unique.exists_iff]
  · have hne : JobError.tenantScopeViolation expected actual ≠ error := by
      rintro rfl
      exact hkind rfl
    simp [hsame, hne]

theorem check_require_eq_error_iff {c : Prop} [Decidable c] {other error : JobError}
    {db : AgentDatabase M S} :
    DomainTxn.check (require c other) db = .error error ↔ ¬ c ∧ error = other := by
  rw [require]
  split
  next hc =>
    refine ⟨fun h => ?_, fun h => absurd hc h.1⟩
    cases h
  next hc =>
    refine ⟨fun h => ?_, ?_⟩
    · cases h
      exact ⟨hc, rfl⟩
    · rintro ⟨-, rfl⟩
      rfl

end Errors

section Refusals

variable {now : Time} {scope : TenantScope} {decisionId : Id} {maxRevisionRounds : ℤ}
variable {db : AgentDatabase M ProductionTables}

/-- A job that advances a workflow is always created. -/
theorem enqueueAdvance_ne_error (w : ProductionWorkflow) (suffix : ProductionAdvance)
    (error : JobError) : enqueueAdvance now w suffix db ≠ .error error := by
  have hcheck : (advanceJob w suffix).check = .ok () := rfl
  unfold enqueueAdvance DomainTxn.createJob LaunchOS.createJob
  rw [hcheck]
  dsimp only
  cases Table.find Job.uniqueKey (advanceJob w suffix).uniqueKey db.toJobTable.jobs with
  | some existing => simp
  | none => simp

/-- A start is refused for supersession when all that is checked before is in order. -/
theorem startProductionWorkflow_eq_superseded_iff :
    startProductionWorkflow now scope decisionId maxRevisionRounds db = .error supersededAtStart ↔
      0 ≤ maxRevisionRounds ∧ ∃ decision,
        Table.find Decision.id decisionId db.tables.domain.decisions = some decision ∧
        scope = decision.scope ∧ decision.approvedForProduction = true ∧
        decision.snapshotId.isSome ∧
        superseded scope decision.id db.tables.domain.decisions = true := by
  unfold startProductionWorkflow
  rw [require_bind_eq_error_iff (by decide), tables_bind_eq_error_iff,
    orRaise_bind_eq_error_iff (by decide)]
  refine and_congr_right fun _ => exists_congr fun decision => and_congr_right fun _ => ?_
  rw [assertMatches_bind_eq_error_iff (by decide), require_bind_eq_error_iff (by decide),
    orRaise_bind_eq_error_iff (by decide), Option.isSome_iff_exists, ← exists_and_right]
  refine and_congr_right fun _ => and_congr_right fun _ =>
    exists_congr fun snapshotId => and_congr_right fun _ => ?_
  constructor
  · intro h
    rcases bind_eq_error_iff.mp h with hraised | ⟨_, db₁, hchecked, h⟩
    · simpa using (check_require_eq_error_iff.mp hraised).1
    · -- what comes after the check raises other errors
      rw [orRaise_bind_eq_error_iff (by decide)] at h
      obtain ⟨approval, -, h⟩ := h
      rw [require_bind_eq_error_iff (by decide)] at h
      obtain ⟨-, h⟩ := h
      generalize List.find? _ db.tables.domain.productionWorkflows = found at h
      cases found with
      | some existing =>
          rcases bind_eq_error_iff.mp h with hraised | ⟨_, db₂, -, h⟩
          · cases hraised
          · exact absurd (check_require_eq_error_iff.mp h).2 (by decide)
      | none =>
          rcases bind_eq_error_iff.mp h with hraised | ⟨id, db₂, -, h⟩
          · cases hraised
          rcases bind_eq_error_iff.mp h with hraised | ⟨_, db₃, -, h⟩
          · cases hraised
          rcases bind_eq_error_iff.mp h with hraised | ⟨_, db₄, -, h⟩
          · exact absurd hraised (enqueueAdvance_ne_error _ _ _)
          · cases h
  · intro hsuperseded
    refine bind_eq_error_iff.mpr (.inl (check_require_eq_error_iff.mpr ⟨?_, rfl⟩))
    simp [hsuperseded]

/-- An advance is refused for supersession by the check of its tenant. -/
theorem superseded_of_assertDecisionBinding {w : ProductionWorkflow} {t : ProductionTables}
    (h : assertDecisionBinding w t = .error supersededInProduction) :
    ∃ decision, decisionOf w t = .ok decision ∧
      superseded w.scope decision.id t.decisions = true := by
  unfold assertDecisionBinding at h
  rcases except_bind_eq_error_iff.mp h with hraised | ⟨decision, hdecision, h⟩
  · unfold decisionOf at hraised
    rcases except_bind_eq_error_iff.mp hraised with hraised | ⟨found, hfind, hraised⟩
    · exact absurd (orRaise_eq_error_iff.mp hraised).2 (by decide)
    rcases except_bind_eq_error_iff.mp hraised with hraised | ⟨_, -, hraised⟩
    · exact absurd hraised assertMatches_ne_permanent
    · cases hraised
  refine ⟨decision, hdecision, ?_⟩
  rcases except_bind_eq_error_iff.mp h with hraised | ⟨_, -, h⟩
  · exact absurd (require_eq_error_iff.mp hraised).2 (by decide)
  rcases except_bind_eq_error_iff.mp h with hraised | ⟨_, -, h⟩
  · exact absurd (require_eq_error_iff.mp hraised).2 (by decide)
  rcases except_bind_eq_error_iff.mp h with hraised | ⟨approval, -, h⟩
  · exact absurd (orRaise_eq_error_iff.mp hraised).2 (by decide)
  rcases except_bind_eq_error_iff.mp h with hraised | ⟨_, -, h⟩
  · exact absurd (require_eq_error_iff.mp hraised).2 (by decide)
  simpa using (require_eq_error_iff.mp h).1

end Refusals

/-! ## Supersessions -/

/-- What supersedes a Decision is the Decision of a workflow whose intent names that as the prior
one. -/
def GovernedTables.Accounted (t : GovernedTables) : Prop :=
  ∀ row ∈ t.supersessions, ∃ intent ∈ t.phase6DecisionIntents,
    intent.priorDecisionId = some row.supersedesDecisionId ∧
      t.finalDecisionOf intent.workflowId = some row.decisionId

section Accounted

variable {H : CheckpointDigest} {scope : TenantScope} {nextId nextId' : Id} {t t' : GovernedTables}

theorem GovernedTables.Accounted.keep (h : t.Accounted)
    (hsupersessions : t'.supersessions = t.supersessions)
    (hintents : t.phase6DecisionIntents ⊆ t'.phase6DecisionIntents)
    (hfinals : ∀ workflowId decisionId, t.finalDecisionOf workflowId = some decisionId →
      t'.finalDecisionOf workflowId = some decisionId) : t'.Accounted := by
  intro row hrow
  rw [hsupersessions] at hrow
  obtain ⟨intent, hintent, hprior, hfinal⟩ := h row hrow
  exact ⟨intent, hintents hintent, hprior, hfinals _ _ hfinal⟩

/-- A Decision that an intent makes supersede another one is accounted for by the intent. -/
theorem IntentMade.accounted {workflowId : Id} (h : IntentMade H scope workflowId t t')
    (haccounted : t.Accounted) : t'.Accounted := by
  have hintents : t'.phase6DecisionIntents = t.phase6DecisionIntents := h.intents
  have hdecisions : t'.decisionTables = t.decisionTables := h.decisionTables
  have hfinals : ∀ w, t'.finalDecisionOf w = t.finalDecisionOf w := by
    intro w
    rw [GovernedTables.finalDecisionOf, GovernedTables.finalDecisionOf, hdecisions]
  have hsame : t'.supersessions = t.supersessions → t'.Accounted := fun hsupersessions =>
    haccounted.keep hsupersessions (hintents ▸ List.Subset.refl _)
      fun w decisionId hfinal => (hfinals w).trans hfinal
  cases h with
  | absent _ heq => exact hsame (by rw [heq])
  | made intent decisionId t₁ decision experiment rule checkpoint hintent hfinal _ hcheckpoint
      hsuperseded =>
      have h₁ : t₁.supersessions = t.supersessions := by rw [hcheckpoint.rest]
      cases hsuperseded with
      | unbound _ _ heq => exact hsame (by rw [heq, h₁])
      | bound prior learningId hprior _ learning supersession link hsuperseded =>
          cases hsuperseded.supersessions with
          | found _ hrows => exact hsame (hrows.trans h₁)
          | added _ hmade hrows =>
              intro row hrow
              rw [hrows, h₁] at hrow
              rw [hintents]
              rcases List.mem_append.mp hrow with hold | hnew
              · obtain ⟨other, hother, hotherPrior, hotherFinal⟩ := haccounted row hold
                exact ⟨other, hother, hotherPrior, (hfinals _).trans hotherFinal⟩
              · obtain rfl := List.mem_singleton.mp hnew
                refine ⟨intent, Table.mem_of_find hintent, ?_, (hfinals _).trans ?_⟩
                · rw [hmade, hprior]
                · rw [hmade, Table.key_of_find hintent, hfinal]

theorem DecisionMoves.finalDecisionOf_kept {op : GovernedOp M}
    (hmoves : DecisionMoves op nextId nextId' t.decisionTables t'.decisionTables)
    (hle : nextId ≤ nextId') (hsettled : t.decisionTables.Settled nextId) {workflowId decisionId : Id}
    (hfinal : t.finalDecisionOf workflowId = some decisionId) :
    t'.finalDecisionOf workflowId = some decisionId := by
  obtain ⟨w, hw, hid, hwfinal⟩ := hsettled.finalOf_eq_some_iff.mp hfinal
  obtain ⟨w', hw', hid', hw'final⟩ := hmoves.finals_kept hsettled hw hwfinal
  exact (hmoves.settled hle hsettled).finalOf_eq_some_iff.mpr ⟨w', hw', hid'.trans hid, hw'final⟩

theorem Phase6Step.accounted {op : GovernedOp M} (hstep : Phase6Step H op nextId nextId' t t')
    (hle : nextId ≤ nextId') (hsettled : t.decisionTables.Settled nextId) (h : t.Accounted) :
    t'.Accounted := by
  cases hstep with
  | started scope spec priorDecisionId learningId w intent hstart =>
      refine h.keep (by rw [hstart.rest]) hstart.intents.subset fun workflowId decisionId hfinal => ?_
      -- the new workflow comes after all others
      rw [GovernedTables.finalDecisionOf, hstart.workflows.workflows]
      obtain ⟨old, hold, hdecided⟩ := Option.bind_eq_some_iff.mp hfinal
      exact Option.bind_eq_some_iff.mpr ⟨old, Table.find_append_of_eq_some hold, hdecided⟩
  | approved scope workflowId userId hop hmoves hrest =>
      refine h.keep (by rw [hrest]) (by rw [hrest]; exact List.Subset.refl _) ?_
      exact fun _ _ hfinal => hmoves.finalDecisionOf_kept hle hsettled hfinal
  | bound scope decisionId spec hop decision experiment rule checkpoint hcheckpoint =>
      refine h.keep (by rw [hcheckpoint.rest])
        (by rw [hcheckpoint.rest]; exact List.Subset.refl _) ?_
      intro w decisionId hfinal
      rw [hcheckpoint.rest]
      exact hfinal
  | advanced answer context workflowId hop nextId₁ nextId₂ t₁ t₂ hnext hmoves hrest hexperiment
      hintent =>
      have h₁ : t₁.Accounted := by
        refine h.keep (by rw [hrest]) (by rw [hrest]; exact List.Subset.refl _) ?_
        exact fun _ _ hfinal => hmoves.finalDecisionOf_kept hnext.1 hsettled hfinal
      refine hintent.accounted ?_
      rcases hexperiment with rfl | ⟨decisionId, -, -, hmade⟩
      · exact h₁
      · obtain ⟨hintents, hsupersessions, -⟩ := hmade.tables
        refine h₁.keep hsupersessions (hintents ▸ List.Subset.refl _) ?_
        intro w decisionId hfinal
        rw [GovernedTables.finalDecisionOf, hmade.decisionTables]
        exact hfinal

theorem LoopPart.Writes.accounted {part : LoopPart} (hwrites : part.Writes t t')
    (hpart : part ≠ .decisions) (h : t.Accounted) : t'.Accounted := by
  have hsame := hwrites.sameDecisions hpart
  have hrest : t'.phase6DecisionIntents = t.phase6DecisionIntents ∧
      t'.supersessions = t.supersessions := by
    unfold LoopPart.Writes at hwrites
    rw [hwrites]
    cases part with
    | decisions => exact absurd rfl hpart
    | production | agents | business | execution | analytics => exact ⟨rfl, rfl⟩
  refine h.keep hrest.2 (hrest.1 ▸ List.Subset.refl _) fun w decisionId hfinal => ?_
  rw [GovernedTables.finalDecisionOf, hsame.workflows]
  exact hfinal

end Accounted

/-! ## Successors -/

/-- A Decision that supersedes the given one is approved. -/
def GovernedTables.Replaced (decisionId : Id) (t : GovernedTables) : Prop :=
  ∃ successor ∈ t.decisionTables.decisions,
    t.supersedes successor.id = some decisionId ∧ successor.approvedForProduction = true

/-- The workflow has been started to adapt the Decision. -/
def GovernedTables.Adapts (w : DecisionWorkflow) (decisionId : Id) (t : GovernedTables) : Prop :=
  ∃ intent ∈ t.phase6DecisionIntents,
    intent.workflowId = w.id ∧ intent.priorDecisionId = some decisionId

/-- Production refuses the Decision as superseded only if it is replaced. -/
structure GovernedState.Operational (s : GovernedState M) (decisionId : Id) : Prop where
  start : ∀ now scope maxRevisionRounds,
    productionPart (startProductionWorkflow now scope decisionId maxRevisionRounds) s.db =
      .error supersededAtStart → s.db.tables.domain.Replaced decisionId
  /-- An advance raises what the check of its binding raises. -/
  advance : ∀ w ∈ s.db.tables.domain.productionWorkflows, w.decisionId = decisionId →
    assertDecisionBinding w s.db.tables.domain.production = .error supersededInProduction →
      s.db.tables.domain.Replaced decisionId

/-- If a successor waits for its approval, one has it. -/
def GovernedTables.AwaitedReplaced (decision : FinalDecision) (t : GovernedTables) : Prop :=
  (∃ w ∈ t.decisionTables.decisionWorkflows, t.Adapts w decision.id ∧ w.scope = decision.scope ∧
      w.status = .awaitingDecisionApproval) →
    ∃ w ∈ t.decisionTables.decisionWorkflows, t.Adapts w decision.id ∧
      w.status = .approvedForProduction

section Successors

variable {H : CheckpointDigest} {nextId : Id} {t : GovernedTables} {decisionId : Id}

theorem superseded_iff {scope : TenantScope} :
    superseded scope decisionId t.production.decisions = true ↔
      ∃ successor ∈ t.decisionTables.decisions, successor.scope = scope ∧
        t.supersedes successor.id = some decisionId := by
  simp only [superseded, GovernedTables.production, List.any_map, List.any_eq_true,
    Function.comp_apply, Bool.and_eq_true]
  refine exists_congr fun successor => and_congr_right fun _ => and_congr ?_ ?_
  · exact decide_eq_true_iff
  · exact decide_eq_true_iff

/-- A successor is the Decision of a workflow that adapts the prior one. -/
theorem adapting_of_successor (hledger : IntentLedger H nextId t) (haccounted : t.Accounted)
    {successor : FinalDecision} (hsuccessor : successor ∈ t.decisionTables.decisions)
    (hsupersedes : t.supersedes successor.id = some decisionId) :
    ∃ w ∈ t.decisionTables.decisionWorkflows, t.Adapts w decisionId ∧ w.status.decided = true ∧
      w.scope = successor.scope ∧
      (successor.approvedForProduction = true ↔ w.status = .approvedForProduction) := by
  have hsettled := hledger.settled
  obtain ⟨row, hrow, hprior⟩ := Option.map_eq_some_iff.mp hsupersedes
  obtain ⟨intent, hintent, hintentPrior, hfinal⟩ := haccounted row (Table.mem_of_find hrow)
  rw [Table.key_of_find hrow] at hfinal
  obtain ⟨w, hw, hid, hwfinal⟩ := hsettled.finalOf_eq_some_iff.mp hfinal
  obtain ⟨decision, hdecision, hdecisionId, hscope, happroved⟩ :=
    hsettled.decided w hw successor.id hwfinal
  obtain rfl := hsettled.decisions.eq_of_key_eq hdecision hsuccessor hdecisionId
  refine ⟨w, hw, ⟨intent, hintent, hid.symm, hprior ▸ hintentPrior⟩, ?_, hscope.symm, happroved⟩
  rw [hsettled.settled w hw, hwfinal, Option.isSome_some]

/-- The Decision of such a workflow is a successor. -/
theorem successor_of_adapting (hledger : IntentLedger H nextId t) {w : DecisionWorkflow}
    (hw : w ∈ t.decisionTables.decisionWorkflows) (hadapts : t.Adapts w decisionId)
    (hdecided : w.status.decided = true) :
    ∃ successor ∈ t.decisionTables.decisions, t.supersedes successor.id = some decisionId ∧
      successor.scope = w.scope ∧
      (successor.approvedForProduction = true ↔ w.status = .approvedForProduction) := by
  have hsettled := hledger.settled
  obtain ⟨intent, hintent, hid, hprior⟩ := hadapts
  rw [hsettled.settled w hw] at hdecided
  obtain ⟨successorId, hfinal⟩ := Option.isSome_iff_exists.mp hdecided
  obtain ⟨successor, hsuccessor, rfl, hscope, happroved⟩ :=
    hsettled.decided w hw successorId hfinal
  refine ⟨successor, hsuccessor, ?_, hscope, happroved⟩
  have hfinalOf : t.finalDecisionOf intent.workflowId = some successor.id :=
    hsettled.finalOf_eq_some_iff.mpr ⟨w, hw, hid.symm, hfinal⟩
  rcases (hledger.materialized intent hintent _ hfinalOf).1.superseded with ⟨hnone, -⟩ |
    ⟨prior, _, _, hintentPrior, -, hsupersedes, -⟩
  · rw [hprior] at hnone
    cases hnone
  · rwa [hprior.symm.trans hintentPrior]

theorem decided_cases {status : DecisionWorkflowStatus} (h : status.decided = true) :
    status = .awaitingDecisionApproval ∨ status = .approvedForProduction := by
  cases status <;> simp_all [DecisionWorkflowStatus.decided]

/-- A Decision of its tenant that is superseded is replaced, if a successor that waits means that one
is approved. -/
theorem replaced_of_superseded (hledger : IntentLedger H nextId t) (haccounted : t.Accounted)
    {decision : FinalDecision} (hawaited : t.AwaitedReplaced decision)
    (hsuperseded : superseded decision.scope decision.id t.production.decisions = true) :
    t.Replaced decision.id := by
  obtain ⟨successor, hsuccessor, hscope, hsupersedes⟩ := superseded_iff.mp hsuperseded
  obtain ⟨w, hw, hadapts, hdecided, hwscope, happroved⟩ :=
    adapting_of_successor hledger haccounted hsuccessor hsupersedes
  rcases decided_cases hdecided with hwaits | happrovedStatus
  · obtain ⟨w', hw', hadapts', hstatus⟩ :=
      hawaited ⟨w, hw, hadapts, hwscope.trans hscope, hwaits⟩
    obtain ⟨other, hother, hotherSupersedes, -, hotherApproved⟩ :=
      successor_of_adapting hledger hw' hadapts' (by rw [hstatus]; rfl)
    exact ⟨other, hother, hotherSupersedes, hotherApproved.mpr hstatus⟩
  · exact ⟨successor, hsuccessor, hsupersedes, happroved.mpr happrovedStatus⟩

end Successors

/-! ## Runs -/

section Runs

variable {s : GovernedState M}

theorem productionPart_eq_error_iff {α : Type} {m : ProductionTxn M α} {error : JobError} :
    productionPart m s.db = .error error ↔
      m (s.db.withDomain s.db.tables.domain.production) = .error error := by
  unfold productionPart DomainTxn.through
  cases m (s.db.withDomain s.db.tables.domain.production) with
  | error raised => simp
  | ok result => simp

/-- An advance of a workflow starts with the check of its binding. -/
theorem advance_of_assertDecisionBinding (S : OutputSchemas M) (now : Time)
    (answer : ProductionAnswer) {context : RuntimeJobContext} {w : ProductionWorkflow}
    (hw : Table.find ProductionWorkflow.id w.id s.db.tables.domain.productionWorkflows = some w)
    (hscope : context.scope = w.scope) {error : JobError}
    (hbinding : assertDecisionBinding w s.db.tables.domain.production = .error error) :
    productionPart (productionWorkflowAdvanceHandler S now answer context w.id) s.db =
      .error error := by
  rw [productionPart_eq_error_iff, productionWorkflowAdvanceHandler, tables_bind_eq_error_iff,
    check_bind_eq_error_iff]
  refine .inr ⟨w, orRaise_eq_ok_iff.mpr hw, ?_⟩
  refine check_bind_eq_error_iff.mpr
    (.inr ⟨(), TenantScope.assertMatches_eq_ok_iff.mpr hscope, ?_⟩)
  refine bind_eq_error_iff.mpr (.inl ?_)
  rw [advanceProductionWorkflow, tables_bind_eq_error_iff]
  exact check_bind_eq_error_iff.mpr (.inl hbinding)

variable (E : GovernedEnv M)

theorem accounted_step (action : GovernedAction M)
    (hledger : IntentLedger E.checkpointDigest s.db.nextId s.db.tables.domain)
    (h : s.db.tables.domain.Accounted) : (s.step E action).db.tables.domain.Accounted := by
  have hwrites := writes_step E action s
  by_cases hpart : action.op.part = .decisions
  · rcases phase6Step E action s hpart hledger.settled with hsame | hstep
    · rw [hsame]
      exact h
    · exact hstep.accounted hwrites.nextId hledger.settled h
  · exact hwrites.domain.accounted hpart h

theorem accounted_run (hs : s.Initial) (actions : List (GovernedAction M)) :
    (run (GovernedState.step E) s actions).db.tables.domain.Accounted := by
  have hinitial : s.db.tables.domain.Accounted := by
    rw [hs.1]
    exact fun row hrow => absurd hrow List.not_mem_nil
  have hrun := invariant_run_of_step (GovernedState.step E)
    (I := fun s : GovernedState M =>
      IntentLedger E.checkpointDigest s.db.nextId s.db.tables.domain ∧
        s.db.tables.domain.Accounted) ?_ ⟨hs.intentLedger, hinitial⟩ actions
  · exact hrun.2
  · rintro s action ⟨hledger, haccounted⟩
    exact ⟨intentLedger_step E action hledger, accounted_step E action hledger haccounted⟩

/-- In every state that is reached, production refuses an approved Decision as superseded only if a
Decision that supersedes it is approved, exactly if no successor waits for its approval while none has
it. -/
theorem operational_iff (hs : s.Initial) (actions : List (GovernedAction M))
    {decision : FinalDecision}
    (hdecision : decision ∈ (run (GovernedState.step E) s
      actions).db.tables.domain.decisionTables.decisions)
    (happroved : decision.approvedForProduction = true) :
    (run (GovernedState.step E) s actions).Operational decision.id ↔
      (run (GovernedState.step E) s actions).db.tables.domain.AwaitedReplaced decision := by
  have hledger := intentLedger_run E hs actions
  have haccounted := accounted_run E hs actions
  generalize run (GovernedState.step E) s actions = s' at hdecision hledger haccounted ⊢
  -- the row of the Decision, as production finds it
  have hfind : Table.find Decision.id decision.id s'.db.tables.domain.production.decisions =
      some (s'.db.tables.domain.decisionRow decision) := by
    have hrow := hledger.settled.decisions.find_eq_some_iff.mpr ⟨hdecision, rfl⟩
    rw [Table.find, GovernedTables.production, List.find?_map]
    exact congrArg (Option.map _) hrow
  constructor
  · rintro hoperational ⟨w, hw, hadapts, hscope, hwaits⟩
    have hdecided : w.status.decided = true := by
      rw [hwaits]
      rfl
    obtain ⟨successor, hsuccessor, hsupersedes, hsuccessorScope, -⟩ :=
      successor_of_adapting hledger hw hadapts hdecided
    have hrefused : productionPart (startProductionWorkflow 0 decision.scope decision.id 0)
        s'.db = .error supersededAtStart := by
      rw [productionPart_eq_error_iff, startProductionWorkflow_eq_superseded_iff]
      exact ⟨le_rfl, _, hfind, rfl, happroved, rfl, superseded_iff.mpr
        ⟨successor, hsuccessor, hsuccessorScope.trans hscope, hsupersedes⟩⟩
    obtain ⟨other, hother, hotherSupersedes, hotherApproved⟩ := hoperational.start _ _ _ hrefused
    obtain ⟨w', hw', hadapts', -, -, happroved⟩ :=
      adapting_of_successor hledger haccounted hother hotherSupersedes
    exact ⟨w', hw', hadapts', happroved.mp hotherApproved⟩
  · intro hawaited
    refine ⟨fun now scope rounds hrefused => ?_, fun w _ hworkflow hrefused => ?_⟩
    · rw [productionPart_eq_error_iff, startProductionWorkflow_eq_superseded_iff] at hrefused
      obtain ⟨-, row, hrow, rfl, -, -, hsuperseded⟩ := hrefused
      obtain rfl := Option.some.inj (hfind.symm.trans hrow)
      exact replaced_of_superseded hledger haccounted hawaited hsuperseded
    · obtain ⟨row, hrow, hsuperseded⟩ := superseded_of_assertDecisionBinding hrefused
      unfold decisionOf at hrow
      obtain ⟨found, hfound, hrow⟩ := Except.bind_eq_ok_iff.mp hrow
      obtain ⟨_, hscope, hrow⟩ := Except.bind_eq_ok_iff.mp hrow
      cases hrow
      rw [hworkflow] at hfound
      obtain rfl := Option.some.inj (hfind.symm.trans (orRaise_eq_ok_iff.mp hfound))
      rw [TenantScope.assertMatches_eq_ok_iff.mp hscope] at hsuperseded
      exact replaced_of_superseded hledger haccounted hawaited hsuperseded

/-- Refused as superseded, but not replaced. -/
theorem not_operational {decisionId : Id} (now : Time) (scope : TenantScope)
    (maxRevisionRounds : ℤ) (hnone : ¬ s.db.tables.domain.Replaced decisionId)
    (hrefused : raised (productionPart (startProductionWorkflow now scope decisionId
      maxRevisionRounds) s.db) = some supersededAtStart) : ¬ s.Operational decisionId :=
  fun hoperational => hnone (hoperational.start now scope maxRevisionRounds
    (raised_eq_some_iff.mp hrefused))

end Runs

/-! ### A successor that waits -/

/-- The owner approves the successor of the first Decision. -/
def approvedSuccessor : List (GovernedAction AgentOutput) :=
  succeededDecision ++ [⟨0, .approveDecisionForProduction demoScope 126 "owner"⟩]

/-- From then on the prior Decision is refused for a successor that is approved. -/
theorem approved_successor_operational :
    (run (GovernedState.step (plainEnv shownFact)) governedStart approvedSuccessor).Operational
      41 := by
  have hdecision : ∃ decision ∈ (run (GovernedState.step (plainEnv shownFact)) governedStart
      approvedSuccessor).db.tables.domain.decisionTables.decisions, decision.id = 41 ∧
        decision.approvedForProduction = true := by
    decide +kernel
  have hsuccessor : ∃ w ∈ (run (GovernedState.step (plainEnv shownFact)) governedStart
      approvedSuccessor).db.tables.domain.decisionTables.decisionWorkflows,
      (∃ intent ∈ (run (GovernedState.step (plainEnv shownFact)) governedStart
          approvedSuccessor).db.tables.domain.phase6DecisionIntents,
        intent.workflowId = w.id ∧ intent.priorDecisionId = some 41) ∧
      w.status = .approvedForProduction := by
    decide +kernel
  obtain ⟨decision, hmem, hid, happroved⟩ := hdecision
  rw [← hid] at hsuccessor ⊢
  exact (operational_iff (plainEnv shownFact) governedStart_initial approvedSuccessor hmem
    happroved).mpr fun _ => hsuccessor

/-- Before that it is refused as well, and no successor is approved. -/
theorem waiting_successor_not_operational :
    (∃ decision ∈ (run (GovernedState.step (plainEnv shownFact)) governedStart
        succeededDecision).db.tables.domain.decisionTables.decisions,
      decision.id = 41 ∧ decision.approvedForProduction = true) ∧
    ¬ (run (GovernedState.step (plainEnv shownFact)) governedStart succeededDecision).Operational
      41 := by
  refine ⟨by decide +kernel, not_operational 0 demoScope 1 ?_ ?_⟩
  · unfold GovernedTables.Replaced
    decide +kernel
  · decide +kernel

end LaunchOS
