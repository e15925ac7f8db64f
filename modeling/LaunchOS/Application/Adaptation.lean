import LaunchOS.Application.Intents
import Mathlib.Logic.Relation

/-!
# Adaptation preserves history

A workflow that adapts a Decision to what was learnt about it ends in a Decision of its own. The prior
one is superseded, and its row stays as it was.

The module introduces:

* `GovernedOp.Adapts`: an operation of a workflow that adapts a Decision;
* `decision_kept`: only the approval of its own workflow writes the row of a Decision;
* `adaptation_preserves_history`: the row of the prior Decision, and the relation between Decisions
  and those that they supersede.
-/

namespace LaunchOS

open Txn Transition

variable {M : Type}

/-! ## Operations -/

/-- An operation of a workflow that adapts the Decision: it is started, advanced or approved. -/
def GovernedOp.Adapts (decisionId : Id) (t : GovernedTables) : GovernedOp M → Prop
  | .startSuccessorDecisionWorkflowFromLearning _ _ priorDecisionId .. =>
      priorDecisionId = decisionId
  | .advanceDecisionWorkflow _ _ workflowId | .approveDecisionForProduction _ workflowId _ =>
      ∃ intent ∈ t.phase6DecisionIntents, intent.workflowId = workflowId ∧
        intent.priorDecisionId = some decisionId
  | _ => False

/-- The operation approves the Decision, which is that of the workflow. -/
def GovernedOp.ApprovesOwn (decisionId : Id) (t : GovernedTables) : GovernedOp M → Prop
  | .approveDecisionForProduction _ workflowId _ => t.finalDecisionOf workflowId = some decisionId
  | _ => False

section Rows

variable {H : CheckpointDigest} {scope : TenantScope} {op : GovernedOp M} {nextId nextId' : Id}
variable {t t' : GovernedTables}

/-- A Decision is only written when it is approved. -/
theorem DecisionMoves.decision_kept {t t' : DecisionTables}
    (h : DecisionMoves op nextId nextId' t t') {decision : FinalDecision}
    (hdecision : decision ∈ t.decisions) (hsettled : t.Settled nextId) :
    decision ∈ t'.decisions ∨ ∃ scope userId workflowId,
      op = .approveDecisionForProduction scope workflowId userId ∧
        t.finalOf workflowId = some decision.id := by
  cases h with
  | same hsame => exact .inl (hsame.decisions.symm ▸ hdecision)
  | started _ _ _ _ _ _ hsame => exact .inl (hsame.decisions.symm ▸ hdecision)
  | ran _ _ _ _ _ _ _ _ _ hsame => exact .inl (hsame.decisions.symm ▸ hdecision)
  | decided _ _ w _ _ _ candidate id _ _ _ hsame =>
      rw [hsame.decisions]
      exact .inl (List.mem_append_left _ hdecision)
  | approved scope userId w hop hw _ approved _ hfinal _ _ _ _ hsame =>
      by_cases hid : decision.id = approved.id
      · exact .inr ⟨scope, userId, w.id, hop,
          hsettled.finalOf_eq_some_iff.mpr ⟨w, hw, rfl, hid ▸ hfinal⟩⟩
      · rw [hsame.decisions]
        exact .inl (Table.mem_modify_of_ne hdecision hid)

theorem Phase6Step.decision_kept (h : Phase6Step H op nextId nextId' t t')
    {decision : FinalDecision} (hdecision : decision ∈ t.decisionTables.decisions)
    (hsettled : t.decisionTables.Settled nextId) :
    decision ∈ t'.decisionTables.decisions ∨ op.ApprovesOwn decision.id t := by
  cases h with
  | started _ _ _ _ _ _ hstart => exact .inl (hstart.workflows.decisions.symm ▸ hdecision)
  | advanced answer context workflowId hop nextId₁ nextId₂ t₁ t₂ _ hmoves _ hexperiment hintent =>
      rcases hmoves.decision_kept hdecision hsettled with hkept | ⟨scope, userId, workflowId, hop', -⟩
      · have h₂ : t₂.decisionTables = t₁.decisionTables := by
          rcases hexperiment with rfl | ⟨decisionId, -, -, hmade⟩
          · rfl
          · exact hmade.decisionTables
        rw [hintent.decisionTables, h₂]
        exact .inl hkept
      · rw [hop] at hop'
        cases hop'
  | approved scope workflowId userId hop hmoves _ =>
      rcases hmoves.decision_kept hdecision hsettled with hkept | ⟨scope', userId', w, hop', hfinal⟩
      · exact .inl hkept
      · rw [hop']
        exact .inr hfinal
  | bound _ _ _ _ _ _ _ _ hcheckpoint =>
      rw [hcheckpoint.rest]
      exact .inl hdecision

/-- Only the Decision of the workflow is made to supersede another one. -/
theorem IntentMade.supersedes_of_ne {workflowId decisionId : Id}
    (h : IntentMade H scope workflowId t t')
    (hne : t.finalDecisionOf workflowId ≠ some decisionId) :
    t'.supersedes decisionId = t.supersedes decisionId := by
  cases h with
  | absent _ hsame => rw [hsame]
  | made intent final t₁ _ _ _ _ _ hfinal _ hcheckpoint hsuperseded =>
      have h₁ : t₁.supersessions = t.supersessions := by rw [hcheckpoint.rest]
      cases hsuperseded with
      | unbound _ _ hsame => rw [hsame, GovernedTables.supersedes, GovernedTables.supersedes, h₁]
      | bound prior _ _ _ _ supersession _ hsuperseded =>
          rw [GovernedTables.supersedes, GovernedTables.supersedes]
          cases hsuperseded.supersessions with
          | found _ heq => rw [heq, h₁]
          | added _ hmade heq =>
              have hother : final ≠ decisionId := by
                rintro rfl
                exact hne hfinal
              rw [heq, h₁, hmade, Table.find, List.find?_append]
              simp [Table.find, hother]

theorem Phase6Step.supersedes_kept (h : Phase6Step H op nextId nextId' t t')
    (hledger : IntentLedger H nextId t) {decisionId : Id} (hadapts : op.Adapts decisionId t) :
    t'.supersedes decisionId = t.supersedes decisionId := by
  cases h with
  | started _ _ _ _ _ _ hstart => rw [hstart.rest]; rfl
  | approved _ _ _ _ _ hrest => rw [hrest]; rfl
  | bound _ _ _ _ _ _ _ _ hcheckpoint => rw [hcheckpoint.rest]; rfl
  | advanced answer context workflowId hop nextId₁ nextId₂ t₁ t₂ hnext hmoves hrest hexperiment
      hintent =>
      have h₂ : t₂.decisionTables = t₁.decisionTables ∧ t₂.supersessions = t.supersessions := by
        have h₁ : t₁.supersessions = t.supersessions := by rw [hrest]
        rcases hexperiment with rfl | ⟨decisionId, -, -, hmade⟩
        · exact ⟨rfl, h₁⟩
        · exact ⟨hmade.decisionTables, hmade.tables.2.1.trans h₁⟩
      rw [hop] at hadapts
      obtain ⟨intent, hmem, hworkflow, hprior⟩ := hadapts
      have hne : t₂.finalDecisionOf workflowId ≠ some decisionId := by
        -- the Decision of the workflow is a later one
        intro hfinal
        rw [GovernedTables.finalDecisionOf, h₂.1] at hfinal
        obtain ⟨w', hw', hid, hw'final⟩ :=
          (hmoves.settled hnext.1 hledger.settled).finalOf_eq_some_iff.mp hfinal
        rcases hmoves.finals hledger.settled w' hw' decisionId hw'final with
          ⟨w, hw, hwid, hold⟩ | ⟨-, -, hfresh, -⟩
        · have hdecided : t.finalDecisionOf intent.workflowId = some decisionId :=
            hledger.settled.finalOf_eq_some_iff.mpr
              ⟨w, hw, hwid.trans (hid.trans hworkflow.symm), hold⟩
          exact absurd ((hledger.materialized intent hmem decisionId hdecided).2 decisionId hprior)
            (Nat.lt_irrefl _)
        · have hlt : decisionId < nextId := hledger.prior_lt intent hmem decisionId hprior
          exact absurd hlt (Nat.not_lt.mpr hfresh)
      rw [hintent.supersedes_of_ne hne, GovernedTables.supersedes, h₂.2]
      rfl

/-- A workflow that adapts the Decision is not the one that made it. -/
theorem IntentLedger.not_approvesOwn (h : IntentLedger H nextId t) {decisionId : Id}
    (hadapts : op.Adapts decisionId t) : ¬ op.ApprovesOwn decisionId t := by
  intro hown
  cases op with
  | approveDecisionForProduction scope workflowId userId =>
      obtain ⟨intent, hmem, rfl, hprior⟩ := hadapts
      have hlt := (h.materialized intent hmem decisionId hown).2 decisionId hprior
      exact absurd hlt (Nat.lt_irrefl _)
  | _ => cases hown

theorem GovernedOp.Adapts.part {decisionId : Id} (h : op.Adapts decisionId t) :
    op.part = .decisions := by
  cases op with
  | startSuccessorDecisionWorkflowFromLearning | advanceDecisionWorkflow
  | approveDecisionForProduction => rfl
  | _ => cases h

end Rows

/-! ## Runs -/

section Runs

variable (E : GovernedEnv M)

/-- Supersessions are only added. -/
theorem supersessions_step (action : GovernedAction M) (s : GovernedState M)
    (h : s.db.tables.domain.decisionTables.Settled s.db.nextId) :
    s.db.tables.domain.supersessions <+: (s.step E action).db.tables.domain.supersessions := by
  have hwrites := (writes_step E action s).domain
  by_cases hpart : action.op.part = .decisions
  · rcases phase6Step E action s hpart h with hsame | hstep
    · rw [hsame]
    · cases hstep with
      | started _ _ _ _ _ _ hstart => rw [hstart.rest]
      | approved _ _ _ _ _ hrest => rw [hrest]
      | bound _ _ _ _ _ _ _ _ hcheckpoint => rw [hcheckpoint.rest]
      | advanced _ _ _ _ _ _ t₁ t₂ _ _ hrest hexperiment hintent =>
          have h₁ : t₁.supersessions = s.db.tables.domain.supersessions := by rw [hrest]
          have h₂ : t₂.supersessions = t₁.supersessions := by
            rcases hexperiment with rfl | ⟨_, -, -, hmade⟩
            · rfl
            · exact hmade.tables.2.1
          rw [← h₁, ← h₂]
          exact hintent.keepsIntents.supersessions
  · unfold LoopPart.Writes at hwrites
    rw [hwrites]
    generalize action.op.part = part at hpart
    cases part with
    | decisions => exact absurd rfl hpart
    | production | agents | business | execution | analytics => exact List.prefix_rfl

/-- What a Decision supersedes stays the same. -/
theorem supersedes_run {s : GovernedState M}
    (h : s.db.tables.domain.decisionTables.Settled s.db.nextId) (more : List (GovernedAction M))
    {decisionId priorDecisionId : Id}
    (hsupersedes : s.db.tables.domain.supersedes decisionId = some priorDecisionId) :
    (run (GovernedState.step E) s more).db.tables.domain.supersedes decisionId =
      some priorDecisionId := by
  have hprefix : s.db.tables.domain.supersessions <+:
      (run (GovernedState.step E) s more).db.tables.domain.supersessions :=
    relation_run
      (I := fun s : GovernedState M => s.db.tables.domain.decisionTables.Settled s.db.nextId)
      (G := fun _ _ => True)
      (R := fun s s' : GovernedState M =>
        s.db.tables.domain.supersessions <+: s'.db.tables.domain.supersessions)
      (fun _ => List.prefix_rfl) (fun _ _ _ => List.IsPrefix.trans)
      (fun s action h _ => settled_step E action s h)
      (fun s action h _ => supersessions_step E action s h) h
      (guarded_of_forall (fun _ _ => trivial) s more)
  obtain ⟨row, hrow, heq⟩ := Option.map_eq_some_iff.mp hsupersedes
  exact Option.map_eq_some_iff.mpr ⟨row, find_of_isPrefix hprefix hrow, heq⟩

/-- Along the relation, Decisions get older. -/
theorem older_of_transGen {H : CheckpointDigest} {nextId : Id} {t : GovernedTables}
    (h : IntentLedger H nextId t) {a b : Id}
    (hab : Relation.TransGen (fun decisionId prior => t.supersedes decisionId = some prior) a b) :
    b < a := by
  have hstep : ∀ {decisionId prior : Id}, t.supersedes decisionId = some prior →
      prior < decisionId := by
    intro decisionId prior hsupersedes
    obtain ⟨row, hrow, rfl⟩ := Option.map_eq_some_iff.mp hsupersedes
    obtain rfl := Table.key_of_find hrow
    exact (h.superseding row (Table.mem_of_find hrow)).1
  induction hab with
  | single h => exact hstep h
  | tail _ h ih => exact (hstep h).trans ih

/-- In every run, the workflows that adapt a Decision leave its row as it is, what a Decision
supersedes is set once, and no Decision supersedes itself, however indirectly. -/
theorem adaptation_preserves_history {s : GovernedState M} (hs : s.Initial)
    (actions : List (GovernedAction M)) :
    (∀ decision ∈ (run (GovernedState.step E) s actions).db.tables.domain.decisionTables.decisions,
      ∀ action : GovernedAction M,
        action.op.Adapts decision.id (run (GovernedState.step E) s actions).db.tables.domain →
        Table.find FinalDecision.id decision.id ((run (GovernedState.step E) s actions).step E
            action).db.tables.domain.decisionTables.decisions = some decision ∧
          ((run (GovernedState.step E) s actions).step E action).db.tables.domain.supersedes
            decision.id = (run (GovernedState.step E) s actions).db.tables.domain.supersedes
              decision.id) ∧
    Table.KeysNodup Supersession.decisionId
      (run (GovernedState.step E) s actions).db.tables.domain.supersessions ∧
    (∀ (more : List (GovernedAction M)) (decisionId priorDecisionId : Id),
      (run (GovernedState.step E) s actions).db.tables.domain.supersedes decisionId =
        some priorDecisionId →
      (run (GovernedState.step E) s (actions ++ more)).db.tables.domain.supersedes decisionId =
        some priorDecisionId) ∧
    ∀ decisionId, ¬ Relation.TransGen
      (fun decisionId prior =>
        (run (GovernedState.step E) s actions).db.tables.domain.supersedes decisionId = some prior)
      decisionId decisionId := by
  have hledger := intentLedger_run E hs actions
  refine ⟨?_, hledger.supersessions, ?_, ?_⟩
  · intro decision hdecision action hadapts
    have hsettled := settled_step E action _ hledger.settled
    rcases phase6Step E action _ hadapts.part hledger.settled with hsame | hstep
    · rw [hsame]
      exact ⟨hledger.settled.decisions.find_eq_some_iff.mpr ⟨hdecision, rfl⟩, rfl⟩
    · refine ⟨?_, hstep.supersedes_kept hledger hadapts⟩
      rcases hstep.decision_kept hdecision hledger.settled with hkept | hown
      · exact hsettled.decisions.find_eq_some_iff.mpr ⟨hkept, rfl⟩
      · exact absurd hown (hledger.not_approvesOwn hadapts)
  · intro more decisionId priorDecisionId hsupersedes
    rw [run_append]
    exact supersedes_run E hledger.settled more hsupersedes
  · intro decisionId hcycle
    exact absurd (older_of_transGen hledger hcycle) (Nat.lt_irrefl _)

end Runs

/-- The approval of the first successor leaves the row of the prior Decision as it is. -/
theorem prior_of_approved_successor :
    ∃ decision ∈ (run (GovernedState.step (plainEnv shownFact)) governedStart
        succeededDecision).db.tables.domain.decisionTables.decisions, decision.id = 41 ∧
      Table.find FinalDecision.id decision.id ((run (GovernedState.step (plainEnv shownFact))
        governedStart succeededDecision).step (plainEnv shownFact) ⟨0,
          .approveDecisionForProduction demoScope 126
            "owner"⟩).db.tables.domain.decisionTables.decisions = some decision := by
  have hstate : (∃ decision ∈ (run (GovernedState.step (plainEnv shownFact)) governedStart
      succeededDecision).db.tables.domain.decisionTables.decisions, decision.id = 41) ∧
      ∃ intent ∈ (run (GovernedState.step (plainEnv shownFact)) governedStart
        succeededDecision).db.tables.domain.phase6DecisionIntents, intent.workflowId = 126 ∧
          intent.priorDecisionId = some 41 := by
    decide +kernel
  obtain ⟨⟨decision, hdecision, hid⟩, hintent⟩ := hstate
  exact ⟨decision, hdecision, hid, ((adaptation_preserves_history (plainEnv shownFact)
    governedStart_initial succeededDecision).1 decision hdecision
      ⟨0, .approveDecisionForProduction demoScope 126 "owner"⟩ (hid ▸ hintent)).1⟩

end LaunchOS
