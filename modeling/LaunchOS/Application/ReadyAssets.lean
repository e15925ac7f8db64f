import LaunchOS.Application.Footprints
import LaunchOS.Application.Supersession
import LaunchOS.Production.AssetGate

/-!
# Assets that are ready

The asset gate in the governed loop, in which evidence is only added and no other part of the
application writes the rows of an asset.

The module introduces:

* `SameSources`: what production reads of the other parts, and leaves alone;
* `ProductionMoves`: what an operation does to the rows of production, and `productionMoves_step`;
* `ready_assets_passed`: in every state, an asset that is ready has passed the gate.
-/

namespace LaunchOS

open Txn Transition

variable {M : Type}

/-! ## Production within the loop -/

/-- What production reads of the other parts is left alone. -/
structure SameSources (t t' : ProductionTables) : Prop where
  decisions : t'.decisions = t.decisions
  approvals : t'.decisionApprovals = t.decisionApprovals
  evidence : t'.evidence = t.evidence

instance : IsPreorder ProductionTables SameSources where
  refl _ := ⟨rfl, rfl, rfl⟩
  trans _ _ _ h h' := ⟨h'.decisions.trans h.decisions, h'.approvals.trans h.approvals,
    h'.evidence.trans h.evidence⟩

theorem productionWrites_sameSources : ProductionWrites SameSources where
  prepares t t' h := by
    rw [OnlyPrepares] at h
    rw [h]
    exact ⟨rfl, rfl, rfl⟩
  insertVersion _ _ _ := ⟨rfl, rfl, rfl⟩
  insertReview _ _ := ⟨rfl, rfl, rfl⟩
  workflows _ _ := ⟨rfl, rfl, rfl⟩

/-- What production has written is what it reads afterwards. -/
theorem production_setProduction {s : ProductionTables} {t : GovernedTables}
    (h : SameSources t.production s) : (GovernedTables.setProduction s t).production = s := by
  obtain ⟨hdecisions, happrovals, hevidence⟩ := h
  have hset : (GovernedTables.setProduction s t).production = { s with
      decisions := t.production.decisions
      decisionApprovals := t.production.decisionApprovals
      evidence := t.production.evidence } := rfl
  rw [hset, ← hdecisions, ← happrovals, ← hevidence]

/-- The database as production sees it. -/
def GovernedState.productionDb (s : GovernedState M) : AgentDatabase M ProductionTables :=
  s.db.withDomain s.db.tables.domain.production

/-- The invariant of a state. -/
abbrev GovernedState.AssetGated (s : GovernedState M) : Prop :=
  LaunchOS.AssetGated s.productionDb.nextId s.productionDb.tables.domain

/-- What an operation does to the rows of production. -/
inductive ProductionMoves (s s' : GovernedState M) : Prop
  | keeps (hframes : Frames KeepsAssets s.productionDb s'.productionDb)
  | started (scope : TenantScope) (decisionId : Id)
      (hstarted : WorkflowStarted scope decisionId s.productionDb s'.productionDb)
  | advanced (hstep : GatedStep s.productionDb s'.productionDb)

/-- A part other than production leaves the rows of the gate alone. -/
theorem keepsAssets_write {part : LoopPart} (hpart : part ≠ .production) (t' t : GovernedTables)
    (hevidence : t.evidence <+: (part.write t' t).evidence) :
    KeepsAssets t.production (part.write t' t).production := by
  have hprefix : t.production.evidence <+: (part.write t' t).production.evidence := by
    obtain ⟨new, hnew⟩ := hevidence
    refine ⟨new.map fun row => ⟨toString row.id, row.scope, row.status⟩, ?_⟩
    rw [GovernedTables.production, GovernedTables.production, ← hnew, List.map_append]
  cases part with
  | production => exact absurd rfl hpart
  | decisions | agents | business | execution | analytics => exact ⟨rfl, rfl, rfl, rfl, hprefix⟩

/-! ## Steps -/

section Steps

variable {E : GovernedEnv M} {s : GovernedState M}

theorem keepsAssets_step {action : GovernedAction M} (hpart : action.op.part ≠ .production) :
    Frames KeepsAssets s.productionDb (s.step E action).productionDb := by
  have hwrites := writes_step E action s
  have hdomain := hwrites.domain
  have hevidence := evidence_step E action s
  unfold LoopPart.Writes at hdomain
  rw [hdomain] at hevidence
  refine ⟨hwrites.nextId, ?_⟩
  change KeepsAssets _ (GovernedTables.production _)
  rw [hdomain]
  exact keepsAssets_write hpart _ _ hevidence

/-- The database of production after a transaction of production. -/
theorem ensures_productionPart {α : Type} {m : ProductionTxn M α}
    {db : AgentDatabase M GovernedTables}
    (hm : Within (Frames SameSources) m) {Q : α → AgentDatabase M ProductionTables → Prop}
    (h : Ensures m Q (db.withDomain db.tables.domain.production)) :
    Ensures (productionPart m)
      (fun a db' => Q a (db'.withDomain db'.tables.domain.production)) db := by
  rw [productionPart, ensures_through]
  intro a part hpart
  have hsources := hm _ a part hpart
  have hset := production_setProduction (t := db.tables.domain) hsources.domain
  dsimp only [domain_withDomain]
  rw [hset]
  exact h a part hpart

theorem productionMoves_op (E : GovernedEnv M) (now : Time) (h : s.AssetGated) {op : GovernedOp M}
    (hpart : op.part = .production) :
    Ensures (op.run E now) (fun _ db =>
      GovernedState.AssetGated { s with db := db } ∧ ProductionMoves s { s with db := db }) s.db := by
  have hd := domainRelation_frames (M := M) (r := SameSources) now fun _ => true
  have hjob : ∀ w suffix, Within (Frames SameSources) (enqueueAdvance (M := M) now w suffix) :=
    fun w suffix => framesWithin_createJob now _
  cases op with
  | startProductionWorkflow scope decisionId maxRevisionRounds =>
      refine (ensures_productionPart (within_startProductionWorkflow hd productionWrites_sameSources
        hjob scope decisionId maxRevisionRounds)
        (gated_startProductionWorkflow scope decisionId maxRevisionRounds h)).mono ?_
      rintro w db ⟨hgated, hstarted⟩
      exact ⟨hgated, .started scope decisionId hstarted⟩
  | advanceProductionWorkflow answer context workflowId =>
      rw [GovernedOp.run, ensures_bind]
      refine (ensures_productionPart (within_productionWorkflowAdvanceHandler hd
        productionWrites_sameSources _ answer hjob context workflowId)
        (gated_productionWorkflowAdvanceHandler _ answer context workflowId h)).mono ?_
      intro _ db hstep
      rw [publishRights, ensures_modifyTables]
      exact ⟨hstep.gated, .advanced hstep⟩
  | _ => cases hpart

/-- One operation. -/
theorem productionMoves_step (E : GovernedEnv M) (h : s.AssetGated) (action : GovernedAction M) :
    (s.step E action).AssetGated ∧ ProductionMoves s (s.step E action) := by
  by_cases hpart : action.op.part = .production
  · have hop := productionMoves_op E action.now h hpart
    unfold GovernedState.step
    split
    next hjob =>
      rw [hjob] at hpart
      cases hpart
    next =>
      split
      next db hok => exact hop.of_exec hok
      next => exact ⟨h, .keeps (refl _)⟩
  · have hframes := keepsAssets_step (E := E) (s := s) hpart
    exact ⟨h.keeps hframes.nextId hframes.domain, .keeps hframes⟩

end Steps

/-! ## Runs -/

theorem GovernedState.Initial.assetGated {s : GovernedState M} (h : s.Initial) : s.AssetGated := by
  have hdomain := h.1
  constructor <;> simp [GovernedState.productionDb, GovernedTables.production, hdomain,
    Table.keysNodup_nil]

variable (E : GovernedEnv M)

theorem assetGated_run {s : GovernedState M} (h : s.AssetGated)
    (actions : List (GovernedAction M)) : (run (GovernedState.step E) s actions).AssetGated :=
  invariant_run_of_step _ (I := GovernedState.AssetGated)
    (fun _ action h' => (productionMoves_step E h' action).1) h actions

/-- An asset that is ready has passed the gate in its final version, which is its latest one, and the
reviews of other versions do not matter for it. -/
theorem ready_assets_passed {s : GovernedState M} (hs : s.Initial)
    (actions : List (GovernedAction M)) :
    ∀ w ∈ (run (GovernedState.step E) s actions).db.tables.domain.productionWorkflows,
      w.status = .readyForActionProposal →
      ∃ v ∈ (run (GovernedState.step E) s actions).db.tables.domain.assetVersions,
        AssetPassed w v (run (GovernedState.step E) s actions).db.tables.domain.production ∧
        ∀ others : List AssetReview, (∀ review ∈ others, review.assetVersionId ≠ v.id) →
          AssetPassed w v { (run (GovernedState.step E) s actions).db.tables.domain.production with
            assetReviews := (run (GovernedState.step E) s
              actions).db.tables.domain.production.reviewsOf v.id ++ others } := by
  intro w hw hready
  have hgated := assetGated_run E hs.assetGated actions
  obtain ⟨v, hv, hpassed⟩ := hgated.passed w hw hready
  refine ⟨v, hv, hpassed, fun others hothers => ?_⟩
  refine hpassed.mono (fun _ hv' _ => hv') ?_ (fun _ hrights => hrights) List.prefix_rfl
  have hnone : others.filter (fun review => review.assetVersionId = v.id) = [] := by
    simpa using hothers
  simp only [ProductionTables.reviewsOf, List.filter_append, List.filter_filter, Bool.and_self,
    hnone, List.append_nil]
  rfl

/-- The asset of the first Decision is ready. -/
theorem ready_asset_of_first_decision :
    ∃ w ∈ (run (GovernedState.step (plainEnv shownFact)) governedStart
        (producedDecision factAgents)).db.tables.domain.productionWorkflows,
      w.status = .readyForActionProposal ∧
      ∃ v, AssetPassed w v (run (GovernedState.step (plainEnv shownFact)) governedStart
        (producedDecision factAgents)).db.tables.domain.production := by
  have hready : ∃ w ∈ (run (GovernedState.step (plainEnv shownFact)) governedStart
      (producedDecision factAgents)).db.tables.domain.productionWorkflows,
      w.status = .readyForActionProposal := by
    decide +kernel
  obtain ⟨w, hw, hstatus⟩ := hready
  obtain ⟨v, -, hpassed, -⟩ := ready_assets_passed (plainEnv shownFact) governedStart_initial
    (producedDecision factAgents) w hw hstatus
  exact ⟨w, hw, hstatus, v, hpassed⟩

end LaunchOS
