import LaunchOS.Lib.Versions
import LaunchOS.Production.AssetGate
import LaunchOS.Production.Wakeups

/-!
# How often an asset is revised

A workflow with `max_revision_rounds` R makes at most R + 1 versions of its asset, which are numbered
from one on and stay as they are, and its status changes at most 2 (R + 1) + 2 times.

The module introduces:

* `ProductionWorkflow.Revising`: the versions of the asset, in step with the status;
* `ProductionWorkflow.rank`, which every change of the status raises;
* `Redrafted`, `redrafted_advanceProductionWorkflow`: what an advance does;
* `AssetRevisions`: the invariant, which `assetRevisions_step` keeps;
* `asset_revisions_bounded`: the bounds, in every run.
-/

namespace LaunchOS

open Txn Transition Versions

variable {M : Type}

/-! ## Versions and ranks -/

namespace ProductionWorkflow

/-- The next version of the asset is still to be made. -/
def drafting (w : ProductionWorkflow) : Bool :=
  match w.status with
  | .decisionApprovalVerified | .contentStrategyRunning | .productionRunning => true
  | _ => false

/-- The versions are numbered, and there are as many as the workflow has revised, and one more when it
is not about to make it. -/
structure Revising (w : ProductionWorkflow) (versions : List AssetVersion) : Prop where
  rounds : w.revisionCount ≤ w.maxRevisionRounds
  first : w.status = .decisionApprovalVerified ∨ w.status = .contentStrategyRunning →
    w.revisionCount = 0
  length : versions.length = w.revisionCount + if w.drafting then 0 else 1
  numbered : Numbered AssetVersion.versionNumber versions

/-- How far the workflow is. -/
def rank (w : ProductionWorkflow) : ℕ :=
  match w.status with
  | .decisionApprovalVerified => 0
  | .contentStrategyRunning => 1
  | .productionRunning => 2 + 2 * w.revisionCount
  | .assetControllersRunning => 3 + 2 * w.revisionCount
  | _ => 4 + 2 * w.revisionCount

/-- The rank goes up with a change of the status, and never down. -/
def Climbs (w w' : ProductionWorkflow) : Prop :=
  w.rank + (if w'.status = w.status then 0 else 1) ≤ w'.rank

theorem Climbs.refl (w : ProductionWorkflow) : w.Climbs w := by
  rw [Climbs, if_pos rfl]
  exact le_rfl

theorem Climbs.of_lt {w w' : ProductionWorkflow} (h : w.rank < w'.rank) : w.Climbs w' := by
  unfold Climbs
  split <;> omega

variable {w : ProductionWorkflow} {versions : List AssetVersion} {t : ProductionTables}

theorem of_ended (h : w.ended) : w.drafting = false ∧ w.rank = 4 + 2 * w.revisionCount := by
  cases hstatus : w.status <;> simp_all [ended, drafting, rank]

theorem Revising.rank_le (h : w.Revising versions) :
    w.rank ≤ 2 * (w.maxRevisionRounds + 1) + 2 := by
  have hrounds := h.rounds
  unfold rank
  split <;> omega

theorem Revising.length_le (h : w.Revising versions) : versions.length ≤ w.maxRevisionRounds + 1 := by
  have hlength := h.length
  have hrounds := h.rounds
  split at hlength <;> omega

theorem Revising.nextAssetVersionNumber_eq (h : w.Revising (assetVersionsOf w t)) :
    nextAssetVersionNumber w t = (assetVersionsOf w t).length + 1 := by
  rw [nextAssetVersionNumber, latestVersionNumber, h.numbered.maxOf_eq]

end ProductionWorkflow

open ProductionWorkflow

/-! ## One advance -/

/-- What an advance makes of the workflow `w`, whose row is written at the end of the step. -/
structure Redrafted (w : ProductionWorkflow) (db : AgentDatabase M ProductionTables)
    (w' : ProductionWorkflow) (db' : AgentDatabase M ProductionTables) : Prop where
  id : w'.id = w.id
  scope : w'.scope = w.scope
  maxRounds : w'.maxRevisionRounds = w.maxRevisionRounds
  nextId : db.nextId ≤ db'.nextId
  workflows : db'.tables.domain.productionWorkflows = db.tables.domain.productionWorkflows
  asset : w'.assetId = w.assetId ∨
    ∃ assetId, w'.assetId = some assetId ∧ db.nextId ≤ assetId ∧ assetId < db'.nextId
  versions : ∃ new, db'.tables.domain.assetVersions = db.tables.domain.assetVersions ++ new ∧
    ∀ v ∈ new, w'.assetId = some v.assetId ∧ v.scope = w.scope
  climbs : w.Climbs w'
  revising : w'.Revising (assetVersionsOf w' db'.tables.domain)

section Advance

variable {w w' : ProductionWorkflow} {db db' db'' : AgentDatabase M ProductionTables}

theorem redrafted_turn (hid : w'.id = w.id) (hscope : w'.scope = w.scope)
    (hmax : w'.maxRevisionRounds = w.maxRevisionRounds) (hasset : w'.assetId = w.assetId)
    (hclimbs : w.Climbs w') (hrevising : w'.Revising (assetVersionsOf w db.tables.domain)) :
    Redrafted w db w' db := by
  refine ⟨hid, hscope, hmax, le_rfl, rfl, .inl hasset, ⟨[], by simp, by simp⟩, hclimbs, ?_⟩
  rw [assetVersionsOf_congr hscope hasset rfl]
  exact hrevising

theorem Redrafted.frames (h : Redrafted w db w' db') (hframes : Frames SameAssets db' db'') :
    Redrafted w db w' db'' where
  id := h.id
  scope := h.scope
  maxRounds := h.maxRounds
  nextId := h.nextId.trans hframes.nextId
  workflows := hframes.domain.1.trans h.workflows
  asset := h.asset.imp_right fun ⟨assetId, hasset, hge, hlt⟩ =>
    ⟨assetId, hasset, hge, hlt.trans_le hframes.nextId⟩
  versions := by
    rw [hframes.domain.2]
    exact h.versions
  climbs := h.climbs
  revising := by
    rw [assetVersionsOf_congr rfl rfl hframes.domain.2]
    exact h.revising

theorem redrafted_of_frames (hframes : Frames SameAssets db db') (h : Redrafted w db' w' db'') :
    Redrafted w db w' db'' where
  id := h.id
  scope := h.scope
  maxRounds := h.maxRounds
  nextId := hframes.nextId.trans h.nextId
  workflows := h.workflows.trans hframes.domain.1
  asset := h.asset.imp_right fun ⟨assetId, hasset, hge, hlt⟩ =>
    ⟨assetId, hasset, hframes.nextId.trans hge, hlt⟩
  versions := by
    rw [← hframes.domain.2]
    exact h.versions
  climbs := h.climbs
  revising := h.revising

theorem assetFrames (now : Time) :
    DomainRelation (M := M) now (fun _ => true) SameAssets (Frames SameAssets) :=
  domainRelation_frames now _

theorem prepareFrames (now : Time) :
    DomainRelation (M := M) now (fun _ => true) OnlyPrepares (Frames SameAssets) :=
  (assetFrames now).mono fun _ _ => OnlyPrepares.sameAssets

variable (S : OutputSchemas M) {now : Time} (answer : ProductionAnswer)

/-- The writer makes the version after as many revisions. -/
theorem redrafted_enterProductionRunning {w₁ : ProductionWorkflow}
    {previousVersion : Option AssetVersion} {reviews : List AssetReview} (hid : w₁.id = w.id)
    (hscope : w₁.scope = w.scope) (hmax : w₁.maxRevisionRounds = w.maxRevisionRounds)
    (hasset : w₁.assetId = w.assetId)
    (hclimbs : w.Climbs { w₁ with status := .productionRunning })
    (hnumbered : Numbered AssetVersion.versionNumber (assetVersionsOf w db.tables.domain))
    (hcount : (assetVersionsOf w db.tables.domain).length = w₁.revisionCount)
    (hle : w₁.revisionCount ≤ w.maxRevisionRounds) :
    Ensures (enterProductionRunning now answer w₁ previousVersion reviews) (Redrafted w db) db := by
  rw [enterProductionRunning]
  refine (within_ensureWriterRun (prepareFrames now) answer w₁).ensures_bind fun _ db₁ h₁ => ?_
  rw [ensures_bind, ensures_tables]
  refine (framesWithin_createJob (r := SameAssets) now _).ensures_bind fun _ db₂ h₂ => ?_
  rw [ensures_pure]
  have hturn : Redrafted w db { w₁ with status := .productionRunning } db := by
    refine redrafted_turn hid hscope hmax hasset hclimbs ⟨hmax ▸ hle, ?_, hcount, hnumbered⟩
    rintro (hstatus | hstatus) <;> cases hstatus
  exact hturn.frames (h₁.trans h₂)

/-- A new asset has no versions yet. -/
theorem assetVersionsOf_fresh {t : ProductionTables} (hnone : w.assetId = none) {assetId : Id}
    (hfresh : ∀ v ∈ t.assetVersions, v.assetId ≠ assetId) (hasset : w'.assetId = some assetId) :
    assetVersionsOf w' t = assetVersionsOf w t := by
  have hempty : ∀ w₀ : ProductionWorkflow, (∀ v ∈ t.assetVersions, w₀.assetId ≠ some v.assetId) →
      assetVersionsOf w₀ t = [] := by
    intro w₀ hne
    refine List.filter_eq_nil_iff.mpr fun v hv => ?_
    simp [hne v hv]
  rw [hempty w' fun v hv => ?_, hempty w fun v hv => ?_]
  · rw [hnone]
    exact nofun
  · rw [hasset]
    exact fun heq => hfresh v hv (Option.some.inj heq).symm

/-- The version of the writer is the next one. -/
theorem redrafted_materializeAssetVersion
    (h : w.Revising (assetVersionsOf w db.tables.domain))
    (hlt : ∀ v ∈ db.tables.domain.assetVersions, v.assetId < db.nextId)
    (hstatus : w.status = .productionRunning) :
    Ensures (materializeAssetVersion S answer w) (fun made db' => Redrafted w db { made.2 with
      finalAssetVersionId := some made.1.id, status := .assetControllersRunning } db') db := by
  have hlength : (assetVersionsOf w db.tables.domain).length = w.revisionCount := by
    have hlength := h.length
    rw [drafting, hstatus] at hlength
    exact hlength
  have hnumber := h.nextAssetVersionNumber_eq
  rw [materializeAssetVersion, ensures_bind, ensures_tables]
  dsimp only
  rw [assetVersion_next]
  dsimp only
  rw [ensures_bind, ensures_agentRuns, ensures_bind, ensures_check]
  intro run _
  rw [ensures_bind, ensures_check]
  intro output _
  rw [ensures_bind, ensures_check]
  intro _ _
  rw [ensures_bind]
  refine ensures_keepsEnsureAsset.mono ?_
  rintro ⟨assetId, w₁⟩ db₁ ⟨hframes, hw₁, hasset⟩
  dsimp only at hw₁ hasset ⊢
  subst hw₁
  rw [ensures_bind, ensures_check]
  intro _ _
  rw [ensures_bind, ensures_newId, ensures_bind, ensures_modifyTables, ensures_pure]
  have hversions := hframes.domain.versions
  have hnext : db.nextId ≤ db₁.nextId + 1 := hframes.nextId.trans (Nat.le_succ _)
  -- the row that is added, for the asset of the workflow, old or new
  have hnew : ∀ (v : AssetVersion) (w' : ProductionWorkflow) (t : ProductionTables),
      t.assetVersions = db₁.tables.domain.assetVersions ++ [v] →
      v.scope = w.scope → v.assetId = assetId →
      v.versionNumber = nextAssetVersionNumber w db.tables.domain →
      w'.scope = w.scope → w'.assetId = some assetId → w'.status = .assetControllersRunning →
      w'.revisionCount = w.revisionCount → w'.maxRevisionRounds = w.maxRevisionRounds →
      w'.Revising (assetVersionsOf w' t) := by
    intro v w' t ht hvscope hvasset hvnumber hscope hmine hstatus' hcount hmax
    have hold : assetVersionsOf w' db.tables.domain = assetVersionsOf w db.tables.domain := by
      rcases hasset with hsame | ⟨hnone, hge, -⟩
      · exact assetVersionsOf_congr hscope (hmine.trans hsame.symm) rfl
      · exact assetVersionsOf_fresh hnone (fun v hv => ((hlt v hv).trans_le hge).ne) hmine
    have hrows : assetVersionsOf w' t = assetVersionsOf w db.tables.domain ++ [v] := by
      rw [← hold]
      simp [assetVersionsOf, ht, hversions, hscope, hvscope, hmine, hvasset]
    rw [hrows]
    refine ⟨?_, ?_, ?_, h.numbered.concat (hvnumber.trans hnumber)⟩
    · rw [hcount, hmax]
      exact h.rounds
    · rintro (hother | hother) <;> · rw [hstatus'] at hother; cases hother
    · rw [List.length_append, hlength, hcount, drafting, hstatus']
      rfl
  refine ⟨rfl, rfl, rfl, hnext, hframes.domain.workflows, ?_, ⟨_, congrArg (· ++ _) hversions, ?_⟩,
    ?_, ?_⟩
  · rcases hasset with hsame | ⟨-, hge, hlt'⟩
    · exact .inl hsame.symm
    · exact .inr ⟨assetId, rfl, hge, hlt'.trans (Nat.lt_succ_self _)⟩
  · simp
  · have hrank : w.rank = 2 + 2 * w.revisionCount := by rw [rank, hstatus]
    refine .of_lt ?_
    show w.rank < 3 + 2 * w.revisionCount
    omega
  · exact hnew _ _ _ rfl rfl rfl rfl rfl rfl rfl rfl rfl

/-- One advance. -/
theorem redrafted_advanceProductionWorkflow
    (h : w.Revising (assetVersionsOf w db.tables.domain))
    (hlt : ∀ v ∈ db.tables.domain.assetVersions, v.assetId < db.nextId) :
    Ensures (advanceProductionWorkflow S now answer w) (Redrafted w db) db := by
  have hp := prepareFrames (M := M) now
  -- what came before left the workflow and its versions alone
  have hold : ∀ {db₁ : AgentDatabase M ProductionTables}, Frames SameAssets db db₁ →
      assetVersionsOf w db₁.tables.domain = assetVersionsOf w db.tables.domain :=
    fun hframes => assetVersionsOf_congr rfl rfl hframes.domain.2
  rw [advanceProductionWorkflow, ensures_bind, ensures_tables, ensures_bind, ensures_check]
  intro _ _
  split
  next hstatus =>
    have hlength := h.length
    rw [drafting, hstatus] at hlength
    have hcount := h.first (.inl hstatus)
    refine (within_ensureContentStrategyRun hp answer w).ensures_bind fun _ db₁ h₁ => ?_
    refine (framesWithin_createJob (r := SameAssets) now _).ensures_bind fun _ db₂ h₂ => ?_
    rw [ensures_pure]
    have hturn : Redrafted w db { w with status := .contentStrategyRunning } db := by
      refine redrafted_turn rfl rfl rfl rfl ?_ ⟨h.rounds, fun _ => hcount, hlength, h.numbered⟩
      refine .of_lt ?_
      rw [rank, hstatus]
      exact Nat.zero_lt_one
    exact hturn.frames (h₁.trans h₂)
  next hstatus =>
    have hlength := h.length
    rw [drafting, hstatus] at hlength
    have hcount := h.first (.inr hstatus)
    refine (within_materializeContentStrategy hp S answer w).ensures_bind fun strategy db₁ h₁ => ?_
    refine (within_materializeCreativeBrief hp answer w strategy).ensures_bind
      fun brief db₂ h₂ => ?_
    have hframes := h₁.trans h₂
    refine Ensures.mono (redrafted_enterProductionRunning answer (w := w) rfl rfl rfl rfl ?_ ?_ ?_
      h.rounds) fun w' db₃ h₃ => redrafted_of_frames hframes h₃
    · have hrank : w.rank = 1 := by rw [rank, hstatus]
      refine .of_lt ?_
      show w.rank < 2 + 2 * w.revisionCount
      omega
    · rw [hold hframes]
      exact h.numbered
    · rw [hold hframes]
      exact hlength
  next hstatus =>
    rw [ensures_bind]
    refine (redrafted_materializeAssetVersion S answer h hlt hstatus).mono ?_
    rintro ⟨version, w₁⟩ db₁ h₁
    refine (within_ensureAssetControllerRuns hp answer _ version).ensures_bind fun _ db₂ h₂ => ?_
    refine (framesWithin_createJob (r := SameAssets) now _).ensures_bind fun _ db₃ h₃ => ?_
    rw [ensures_pure]
    exact h₁.frames (h₂.trans h₃)
  next hstatus =>
    have hlength := h.length
    rw [drafting, hstatus] at hlength
    rw [ensures_bind, ensures_tables, ensures_bind, ensures_check]
    intro version _
    refine (within_materializeAssetReviews S answer w (assetFrames now) version).ensures_bind
      fun reviews db₁ h₁ => ?_
    rw [ensures_bind, ensures_tables, ensures_bind, ensures_check]
    intro outcome _
    -- the workflow ends with the versions it has
    have hends : ∀ w' : ProductionWorkflow, w'.id = w.id → w'.scope = w.scope →
        w'.maxRevisionRounds = w.maxRevisionRounds → w'.assetId = w.assetId →
        w'.revisionCount = w.revisionCount → w'.ended → Redrafted w db w' db₁ := by
      intro w' hid hscope hmax hasset hcount hover
      obtain ⟨hdraft, hrank⟩ := of_ended hover
      refine (redrafted_turn hid hscope hmax hasset ?_ ⟨?_, ?_, ?_, h.numbered⟩).frames h₁
      · have hbefore : w.rank = 3 + 2 * w.revisionCount := by rw [rank, hstatus]
        refine .of_lt ?_
        omega
      · rw [hcount, hmax]
        exact h.rounds
      · rintro (hother | hother) <;> · rw [drafting, hother] at hdraft; cases hdraft
      · rw [hlength, hcount, hdraft]
    cases outcome with
    | block => exact (ensures_pure _).mpr (hends _ rfl rfl rfl rfl rfl rfl)
    | revise | passWithConditions =>
        rw [ensures_ite]
        refine ⟨fun _ => (ensures_pure _).mpr (hends _ rfl rfl rfl rfl rfl rfl), fun hmore => ?_⟩
        refine Ensures.mono (redrafted_enterProductionRunning answer (w := w) rfl rfl rfl rfl ?_ ?_
          ?_ ?_) fun w' db₃ h₃ => redrafted_of_frames h₁ h₃
        · have hrank : w.rank = 3 + 2 * w.revisionCount := by rw [rank, hstatus]
          refine .of_lt ?_
          show w.rank < 2 + 2 * (w.revisionCount + 1)
          omega
        · rw [hold h₁]
          exact h.numbered
        · rw [hold h₁]
          exact hlength
        · show w.revisionCount + 1 ≤ w.maxRevisionRounds
          omega
    | pass => exact (ensures_pure _).mpr (hends _ rfl rfl rfl rfl rfl rfl)
  next =>
    rw [ensures_pure]
    exact redrafted_turn rfl rfl rfl rfl (.refl w) h

end Advance

/-! ## The invariant -/

/-- Every workflow is in step with the versions of its asset, which is that of no other workflow. -/
structure AssetRevisions (nextId : Id) (t : ProductionTables) : Prop where
  workflows : Table.KeysNodup ProductionWorkflow.id t.productionWorkflows
  workflow_lt : ∀ w ∈ t.productionWorkflows, w.id < nextId
  asset_lt : ∀ w ∈ t.productionWorkflows, ∀ assetId, w.assetId = some assetId → assetId < nextId
  owner : ∀ w ∈ t.productionWorkflows, ∀ w' ∈ t.productionWorkflows, ∀ assetId,
    w.assetId = some assetId → w'.assetId = some assetId → w.id = w'.id
  version_lt : ∀ v ∈ t.assetVersions, v.assetId < nextId
  tenant : ∀ w ∈ t.productionWorkflows, ∀ v ∈ t.assetVersions, w.assetId = some v.assetId →
    v.scope = w.scope
  revising : ∀ w ∈ t.productionWorkflows, w.Revising (assetVersionsOf w t)

/-- The versions stay as they are, and the workflows climb. -/
structure Redrafts (t t' : ProductionTables) : Prop where
  versions : t.assetVersions <+: t'.assetVersions
  climbs : ∀ w ∈ t.productionWorkflows, ∃ w' ∈ t'.productionWorkflows, w'.id = w.id ∧ w.Climbs w'

theorem Redrafts.of_sameAssets {t t' : ProductionTables} (h : SameAssets t t') : Redrafts t t' := by
  refine ⟨h.2 ▸ List.prefix_rfl, fun w hw => ⟨w, ?_, rfl, .refl w⟩⟩
  rw [h.1]
  exact hw

namespace AssetRevisions

variable {w w' : ProductionWorkflow} {db db' : AgentDatabase M ProductionTables}
variable {nextId nextId' : Id} {t t' : ProductionTables}

theorem same (h : AssetRevisions nextId t) (hle : nextId ≤ nextId') (hsame : SameAssets t t') :
    AssetRevisions nextId' t' := by
  obtain ⟨hworkflows, hversions⟩ := hsame
  constructor <;> simp only [hworkflows, hversions]
  · exact h.workflows
  · exact fun w hw => (h.workflow_lt w hw).trans_le hle
  · exact fun w hw assetId hasset => (h.asset_lt w hw assetId hasset).trans_le hle
  · exact h.owner
  · exact fun v hv => (h.version_lt v hv).trans_le hle
  · exact h.tenant
  · intro w hw
    rw [assetVersionsOf_congr (w := w) rfl rfl hversions]
    exact h.revising w hw

/-- A workflow that is started. -/
theorem addWorkflow (h : AssetRevisions nextId t) (hid : w.id = nextId) (hasset : w.assetId = none)
    (hstatus : w.status = .decisionApprovalVerified) (hcount : w.revisionCount = 0) :
    AssetRevisions (nextId + 1) { t with productionWorkflows := t.productionWorkflows ++ [w] } := by
  have h' := h.same (Nat.le_succ nextId) (refl t)
  have hcases : ∀ w₂ ∈ t.productionWorkflows ++ [w], w₂ = w ∨ w₂ ∈ t.productionWorkflows := by
    intro w₂ hw₂
    rw [List.mem_append, List.mem_singleton] at hw₂
    exact hw₂.symm
  have hold : ∀ w₂ ∈ t.productionWorkflows ++ [w], ∀ assetId, w₂.assetId = some assetId →
      w₂ ∈ t.productionWorkflows := by
    intro w₂ hw₂ assetId hasset₂
    rcases hcases w₂ hw₂ with rfl | hw₂
    · rw [hasset] at hasset₂
      cases hasset₂
    · exact hw₂
  refine ⟨?_, fun w₂ hw₂ => ?_, fun w₂ hw₂ assetId hasset₂ => ?_,
    fun w₁ hw₁ w₂ hw₂ assetId h₁ h₂ => ?_, h'.version_lt, fun w₂ hw₂ v hv hasset₂ => ?_,
    fun w₂ hw₂ => ?_⟩
  · refine h.workflows.append (Table.keysNodup_singleton w) ?_
    simp only [List.mem_singleton, forall_eq, hid]
    exact fun w₂ hw₂ => (h.workflow_lt w₂ hw₂).ne
  · rcases hcases w₂ hw₂ with rfl | hw₂
    · rw [hid]
      exact Nat.lt_succ_self nextId
    · exact h'.workflow_lt w₂ hw₂
  · exact h'.asset_lt w₂ (hold w₂ hw₂ assetId hasset₂) assetId hasset₂
  · exact h.owner w₁ (hold w₁ hw₁ assetId h₁) w₂ (hold w₂ hw₂ assetId h₂) assetId h₁ h₂
  · exact h.tenant w₂ (hold w₂ hw₂ v.assetId hasset₂) v hv hasset₂
  · rcases hcases w₂ hw₂ with rfl | hw₂
    · have hnone : assetVersionsOf w₂
          { t with productionWorkflows := t.productionWorkflows ++ [w₂] } = [] := by
        simp [assetVersionsOf, hasset]
      rw [hnone]
      refine ⟨hcount.le.trans (Nat.zero_le _), fun _ => hcount, ?_, numbered_nil⟩
      rw [hcount, drafting, hstatus]
      rfl
    · exact h.revising w₂ hw₂

/-- The row of a workflow is written after an advance. -/
theorem put (h : AssetRevisions db.nextId db.tables.domain)
    (hw : w ∈ db.tables.domain.productionWorkflows) (hredrafted : Redrafted w db w' db') :
    AssetRevisions db'.nextId (db'.tables.domain.put w') ∧
      Redrafts db.tables.domain (db'.tables.domain.put w') := by
  obtain ⟨new, hversions, hnew⟩ := hredrafted.versions
  have hid := hredrafted.id
  have hrow : ∀ w₂ ∈ (db'.tables.domain.put w').productionWorkflows,
      w₂ = w' ∨ w₂ ∈ db.tables.domain.productionWorkflows ∧ w₂.id ≠ w.id := by
    intro w₂ hw₂
    obtain ⟨old, hold, rfl⟩ := Table.mem_modify_iff.mp hw₂
    rw [hredrafted.workflows] at hold
    split
    next => exact .inl rfl
    next hne => exact .inr ⟨hold, fun heq => hne (heq.trans hid.symm)⟩
  have hversion : ∀ v ∈ db'.tables.domain.assetVersions,
      v ∈ db.tables.domain.assetVersions ∨ v ∈ new := by
    rw [hversions]
    exact fun v hv => List.mem_append.mp hv
  have hlt' : ∀ assetId, w'.assetId = some assetId → assetId < db'.nextId := by
    intro assetId hasset
    rcases hredrafted.asset with hsame | ⟨a, ha, -, hlt⟩
    · exact (h.asset_lt w hw assetId (hsame ▸ hasset)).trans_le hredrafted.nextId
    · rw [ha] at hasset
      exact Option.some.inj hasset ▸ hlt
  -- an asset of `w'` and of another workflow is out of the question
  have hother : ∀ w₂ ∈ db.tables.domain.productionWorkflows, w₂.id ≠ w.id → ∀ assetId,
      w'.assetId = some assetId → w₂.assetId ≠ some assetId := by
    intro w₂ hw₂ hne assetId hasset hasset₂
    rcases hredrafted.asset with hsame | ⟨a, ha, hge, -⟩
    · exact hne (h.owner w₂ hw₂ w hw assetId hasset₂ (hsame ▸ hasset))
    · rw [ha] at hasset
      cases hasset
      exact absurd (h.asset_lt w₂ hw₂ _ hasset₂) hge.not_gt
  refine ⟨⟨?_, fun w₂ hw₂ => ?_, fun w₂ hw₂ assetId hasset₂ => ?_,
    fun w₁ hw₁ w₂ hw₂ assetId h₁ h₂ => ?_, fun v hv => ?_, fun w₂ hw₂ v hv hasset₂ => ?_,
    fun w₂ hw₂ => ?_⟩, ⟨⟨new, hversions.symm⟩, fun w₂ hw₂ => ?_⟩⟩
  · refine Table.KeysNodup.modify ?_ fun _ _ _ => rfl
    rw [hredrafted.workflows]
    exact h.workflows
  · rcases hrow w₂ hw₂ with rfl | ⟨hold, -⟩
    · rw [hid]
      exact (h.workflow_lt w hw).trans_le hredrafted.nextId
    · exact (h.workflow_lt w₂ hold).trans_le hredrafted.nextId
  · rcases hrow w₂ hw₂ with rfl | ⟨hold, -⟩
    · exact hlt' assetId hasset₂
    · exact (h.asset_lt w₂ hold assetId hasset₂).trans_le hredrafted.nextId
  · rcases hrow w₁ hw₁ with rfl | ⟨hold₁, hne₁⟩ <;> rcases hrow w₂ hw₂ with rfl | ⟨hold₂, hne₂⟩
    · rfl
    · exact absurd h₂ (hother w₂ hold₂ hne₂ assetId h₁)
    · exact absurd h₁ (hother w₁ hold₁ hne₁ assetId h₂)
    · exact h.owner w₁ hold₁ w₂ hold₂ assetId h₁ h₂
  · rcases hversion v hv with hold | hadded
    · exact (h.version_lt v hold).trans_le hredrafted.nextId
    · exact hlt' v.assetId (hnew v hadded).1
  · rcases hrow w₂ hw₂ with rfl | ⟨hold₂, hne₂⟩ <;> rcases hversion v hv with hold | hadded
    · rcases hredrafted.asset with hsame | ⟨a, ha, hge, -⟩
      · exact (h.tenant w hw v hold (hsame ▸ hasset₂)).trans hredrafted.scope.symm
      · rw [ha] at hasset₂
        have hlt := h.version_lt v hold
        rw [← Option.some.inj hasset₂] at hlt
        exact absurd hlt hge.not_gt
    · exact (hnew v hadded).2.trans hredrafted.scope.symm
    · exact h.tenant w₂ hold₂ v hold hasset₂
    · exact absurd hasset₂ (hother w₂ hold₂ hne₂ v.assetId (hnew v hadded).1)
  · rcases hrow w₂ hw₂ with rfl | ⟨hold, hne⟩
    · exact hredrafted.revising
    · -- the new versions are those of another asset
      have hmine : assetVersionsOf w₂ (db'.tables.domain.put w') =
          assetVersionsOf w₂ db.tables.domain := by
        have hnone : new.filter (fun v => v.scope = w₂.scope && w₂.assetId = some v.assetId) = [] := by
          refine List.filter_eq_nil_iff.mpr fun v hv => ?_
          simp [hother w₂ hold hne v.assetId (hnew v hv).1]
        show db'.tables.domain.assetVersions.filter _ = _
        rw [hversions, List.filter_append, hnone, List.append_nil]
        rfl
      rw [hmine]
      exact h.revising w₂ hold
  · have hold : w₂ ∈ db'.tables.domain.productionWorkflows := hredrafted.workflows ▸ hw₂
    by_cases hsame : w₂.id = w'.id
    · refine ⟨w', Table.mem_modify_of_eq hold hsame, hsame.symm, ?_⟩
      rw [h.workflows.eq_of_key_eq hw₂ hw (hsame.trans hid)]
      exact hredrafted.climbs
    · exact ⟨w₂, Table.mem_modify_of_ne hold hsame, rfl, .refl w₂⟩

end AssetRevisions

/-! ## The handler and the commands -/

/-- What a step does. -/
structure RevisesAssets (db db' : AgentDatabase M ProductionTables) : Prop where
  revisions : AssetRevisions db'.nextId db'.tables.domain
  redrafts : Redrafts db.tables.domain db'.tables.domain

section Handlers

variable {now : Time} {db db' : AgentDatabase M ProductionTables}
variable (h : AssetRevisions db.nextId db.tables.domain)
include h

theorem revisesAssets_of_frames (hframes : Frames SameAssets db db') : RevisesAssets db db' :=
  ⟨h.same hframes.nextId hframes.domain, .of_sameAssets hframes.domain⟩

theorem revisesAssets_productionWorkflowAdvanceHandler (S : OutputSchemas M)
    (answer : ProductionAnswer) (context : RuntimeJobContext) (workflowId : Id) :
    Ensures (productionWorkflowAdvanceHandler S now answer context workflowId)
      (fun _ => RevisesAssets db) db := by
  rw [productionWorkflowAdvanceHandler, ensures_bind, ensures_tables, ensures_bind, ensures_check]
  intro w hfound
  have hw : w ∈ db.tables.domain.productionWorkflows :=
    Table.mem_of_find (orRaise_eq_ok_iff.mp hfound)
  rw [ensures_bind, ensures_check]
  intro _ _
  rw [ensures_bind]
  refine (redrafted_advanceProductionWorkflow S answer (h.revising w hw) h.version_lt).mono
    fun w' db₁ h₁ => ?_
  rw [putWorkflow, ensures_modifyTables]
  obtain ⟨hrevisions, hredrafts⟩ := h.put hw h₁
  exact ⟨hrevisions, hredrafts⟩

theorem revisesAssets_startProductionWorkflow (scope : TenantScope) (decisionId : Id)
    (maxRevisionRounds : ℤ) :
    Ensures (startProductionWorkflow now scope decisionId maxRevisionRounds)
      (fun _ => RevisesAssets db) db := by
  rw [startProductionWorkflow, ensures_bind, ensures_check]
  intro _ _
  rw [ensures_bind, ensures_tables, ensures_bind, ensures_check]
  intro decision _
  rw [ensures_bind, ensures_check]
  intro _ _
  rw [ensures_bind, ensures_check]
  intro _ _
  rw [ensures_bind, ensures_check]
  intro snapshotId _
  rw [ensures_bind, ensures_check]
  intro _ _
  rw [ensures_bind, ensures_check]
  intro approval _
  rw [ensures_bind, ensures_check]
  intro _ _
  split
  next existing _ =>
    rw [ensures_bind, ensures_get, ensures_check]
    exact fun _ _ => revisesAssets_of_frames h (refl _)
  next =>
    rw [ensures_bind, ensures_newId, ensures_bind, ensures_modifyTables]
    refine (framesWithin_createJob (r := SameAssets) now _).ensures_bind fun _ db₁ h₁ => ?_
    rw [ensures_pure]
    have hadded := h.addWorkflow (w := ⟨db.nextId, scope, decision.id, decision.version,
      approval.id, snapshotId, .decisionApprovalVerified, 0, maxRevisionRounds.toNat, none, none,
      none⟩) rfl rfl rfl rfl
    refine ⟨hadded.same h₁.nextId h₁.domain, h₁.domain.2 ▸ List.prefix_rfl, fun w₂ hw₂ => ?_⟩
    refine ⟨w₂, ?_, rfl, .refl w₂⟩
    rw [h₁.domain.1]
    exact List.mem_append_left _ hw₂

theorem revisesAssets_performForeign (works : List ForeignWork) :
    Ensures (performForeign now works) (fun _ => RevisesAssets db) db := by
  have hwithin : Within (Frames SameAssets) (performForeign (M := M) now works) :=
    (assetFrames now).foldlM (fun _ work => framesWithin_perform now _ _ work) _
  exact (hwithin db).mono fun _ db' hframes => revisesAssets_of_frames h hframes

theorem revisesAssets_command (c : ProductionCommand) :
    Ensures (c.run now) (fun _ => RevisesAssets db) db := by
  cases c with
  | startProductionWorkflow scope decisionId maxRevisionRounds =>
      exact revisesAssets_startProductionWorkflow h scope decisionId maxRevisionRounds
  | writeDecisions decisions decisionApprovals evidence =>
      rw [ProductionCommand.run, ensures_modifyTables]
      refine revisesAssets_of_frames h ?_
      exact ⟨le_rfl, rfl, rfl⟩
  | foreign work => exact revisesAssets_performForeign h [work]

theorem revisesAssets_handler (S : OutputSchemas M) (answer : ProductionAnswer)
    (context : RuntimeJobContext) (payload : JobPayload) :
    Ensures (productionHandler S now answer context payload) (fun _ => RevisesAssets db) db := by
  unfold productionHandler
  split
  next => exact revisesAssets_productionWorkflowAdvanceHandler h S answer context _
  next =>
    rw [ensures_bind, ensures_check]
    exact fun works _ => revisesAssets_performForeign h works

end Handlers

/-! ## Runs -/

/-- The state of the production system. -/
abbrev ProductionState (M : Type) := RuntimeState (AgentTables M ProductionTables) Unit AgentProgress

/-- What every step keeps, and what it does. -/
theorem assetRevisions_step (S : OutputSchemas M) {s : ProductionState M}
    (h : AssetRevisions s.db.nextId s.db.tables.domain)
    (action : Action (DomainAnswer M ProductionAnswer) ProductionCommand) :
    AssetRevisions ((productionApp S).app.step action s).db.nextId
        ((productionApp S).app.step action s).db.tables.domain ∧
      Redrafts s.db.tables.domain ((productionApp S).app.step action s).db.tables.domain := by
  refine (productionApp S).domain_step
    (I := fun nextId t => AssetRevisions nextId t ∧ Redrafts s.db.tables.domain t)
    (fun hle h => ⟨h.1.same hle (refl _), h.2⟩) ⟨h, .of_sameAssets (refl _)⟩ ?_ ?_ action
  · intro c db hok
    have hstep := (revisesAssets_command h c).of_exec hok
    exact ⟨hstep.revisions, hstep.redrafts⟩
  · intro context payload answer db hok
    have hstep := (revisesAssets_handler h S answer context payload).of_exec hok
    exact ⟨hstep.revisions, hstep.redrafts⟩

/-- The status of a workflow, if there is one with this id. -/
def ProductionTables.statusOf (workflowId : Id) (t : ProductionTables) :
    Option ProductionWorkflowStatus :=
  (Table.find ProductionWorkflow.id workflowId t.productionWorkflows).map ProductionWorkflow.status

/-- A workflow that was there has another status. -/
def statusChanges (workflowId : Id) (s s' : ProductionState M) : Bool :=
  (s.db.tables.domain.statusOf workflowId).isSome &&
    s'.db.tables.domain.statusOf workflowId ≠ s.db.tables.domain.statusOf workflowId

/-- The rank of a workflow, if there is one with this id. -/
def ProductionTables.rankOf (workflowId : Id) (t : ProductionTables) : ℕ :=
  ((Table.find ProductionWorkflow.id workflowId t.productionWorkflows).map
    ProductionWorkflow.rank).getD 0

theorem rankOf_of_mem {nextId : Id} {t : ProductionTables} (h : AssetRevisions nextId t)
    {w : ProductionWorkflow} (hw : w ∈ t.productionWorkflows) :
    t.statusOf w.id = some w.status ∧ t.rankOf w.id = w.rank := by
  have hfind : Table.find ProductionWorkflow.id w.id t.productionWorkflows = some w :=
    h.workflows.find_eq_some_iff.mpr ⟨hw, rfl⟩
  simp [ProductionTables.statusOf, ProductionTables.rankOf, hfind]

/-- Every change of the status of a workflow raises its rank. -/
theorem rankOf_step (S : OutputSchemas M) (workflowId : Id) {s : ProductionState M}
    (h : AssetRevisions s.db.nextId s.db.tables.domain)
    (action : Action (DomainAnswer M ProductionAnswer) ProductionCommand) :
    s.db.tables.domain.rankOf workflowId +
        (if statusChanges workflowId s ((productionApp S).app.step action s) then 1 else 0) ≤
      ((productionApp S).app.step action s).db.tables.domain.rankOf workflowId := by
  obtain ⟨h', hredrafts⟩ := assetRevisions_step S h action
  generalize (productionApp S).app.step action s = s' at h' hredrafts ⊢
  by_cases hfind : ∃ w ∈ s.db.tables.domain.productionWorkflows, w.id = workflowId
  · obtain ⟨w, hw, rfl⟩ := hfind
    obtain ⟨w', hw', hid, hclimbs⟩ := hredrafts.climbs w hw
    obtain ⟨hstatus, hrank⟩ := rankOf_of_mem h hw
    obtain ⟨hstatus', hrank'⟩ := rankOf_of_mem h' hw'
    rw [hid] at hstatus' hrank'
    rw [hrank, hrank', statusChanges, hstatus, hstatus']
    refine le_trans ?_ hclimbs
    by_cases hsame : w'.status = w.status
    · simp [hsame]
    · simp [hsame]
  · have hnone : Table.find ProductionWorkflow.id workflowId
        s.db.tables.domain.productionWorkflows = none := by
      refine List.find?_eq_none.mpr fun w hw => ?_
      have hne := fun hid => hfind ⟨w, hw, hid⟩
      simpa using hne
    simp [ProductionTables.rankOf, statusChanges, ProductionTables.statusOf, hnone]

theorem RuntimeState.ProductionInitial.assetRevisions {s : ProductionState M}
    (h : s.ProductionInitial) : AssetRevisions s.db.nextId s.db.tables.domain := by
  constructor <;> simp [h.productionWorkflows, h.assetVersions, Table.keysNodup_nil]

theorem assetRevisions_run (S : OutputSchemas M) {s : ProductionState M}
    (h : AssetRevisions s.db.nextId s.db.tables.domain)
    (actions : List (Action (DomainAnswer M ProductionAnswer) ProductionCommand)) :
    AssetRevisions (run (productionApp S).app.step s actions).db.nextId
      (run (productionApp S).app.step s actions).db.tables.domain :=
  invariant_run_of_step (productionApp S).app.step
    (I := fun s' => AssetRevisions s'.db.nextId s'.db.tables.domain)
    (fun _ action h' => (assetRevisions_step S h' action).1) h actions

/-- The versions stay as they are, whatever follows. -/
theorem assetVersions_run (S : OutputSchemas M) {s : ProductionState M}
    (h : AssetRevisions s.db.nextId s.db.tables.domain)
    (actions : List (Action (DomainAnswer M ProductionAnswer) ProductionCommand)) :
    s.db.tables.domain.assetVersions <+:
      (run (productionApp S).app.step s actions).db.tables.domain.assetVersions :=
  relation_run
    (R := fun s s' : ProductionState M =>
      s.db.tables.domain.assetVersions <+: s'.db.tables.domain.assetVersions)
    (I := fun s : ProductionState M => AssetRevisions s.db.nextId s.db.tables.domain)
    (fun _ => List.prefix_rfl) (fun _ _ _ h h' => h.trans h')
    (fun _ action h' _ => (assetRevisions_step S h' action).1)
    (fun _ action h' _ => (assetRevisions_step S h' action).2.versions) h
    (guarded_of_forall (G := fun _ _ => True) (fun _ _ => trivial) s actions)

/-- All versions of the workflow's asset. -/
def ProductionTables.versionsOfAsset (w : ProductionWorkflow) (t : ProductionTables) :
    List AssetVersion :=
  t.assetVersions.filter fun v => w.assetId = some v.assetId

/-- They are those that the workflow finds. -/
theorem AssetRevisions.assetVersionsOf_eq {nextId : Id} {t : ProductionTables}
    (h : AssetRevisions nextId t) {w : ProductionWorkflow} (hw : w ∈ t.productionWorkflows) :
    assetVersionsOf w t = t.versionsOfAsset w := by
  refine List.filter_congr fun v hv => ?_
  by_cases hasset : w.assetId = some v.assetId
  · simp [hasset, h.tenant w hw v hv hasset]
  · simp [hasset]

/-- In every state that the system reaches: a workflow has revised no more often than it may, the
versions of its asset are numbered from one on, one more than it has revised while the controllers
run, and its status has changed no more than twice for each and two times more; and whatever follows,
all versions stay as they were made. -/
theorem asset_revisions_bounded (S : OutputSchemas M) {s : ProductionState M}
    (hs : s.ProductionInitial)
    (actions more : List (Action (DomainAnswer M ProductionAnswer) ProductionCommand)) :
    let before := run (productionApp S).app.step s actions
    let after := run (productionApp S).app.step before more
    before.db.tables.domain.assetVersions <+: after.db.tables.domain.assetVersions ∧
      ∀ w ∈ before.db.tables.domain.productionWorkflows,
        w.revisionCount ≤ w.maxRevisionRounds ∧
        Numbered AssetVersion.versionNumber (before.db.tables.domain.versionsOfAsset w) ∧
        (before.db.tables.domain.versionsOfAsset w).length ≤ w.maxRevisionRounds + 1 ∧
        (w.status = .assetControllersRunning →
          (before.db.tables.domain.versionsOfAsset w).length = w.revisionCount + 1) ∧
        countSteps (productionApp S).app.step (statusChanges w.id) s actions ≤
          2 * (w.maxRevisionRounds + 1) + 2 := by
  intro before after
  have hbefore : AssetRevisions before.db.nextId before.db.tables.domain :=
    assetRevisions_run S hs.assetRevisions actions
  refine ⟨assetVersions_run S hbefore more, fun w hw => ?_⟩
  have hrevising := hbefore.revising w hw
  have hlength := hrevising.length
  rw [hbefore.assetVersionsOf_eq hw] at hrevising hlength
  refine ⟨hrevising.rounds, hrevising.numbered, hrevising.length_le, fun hstatus => ?_, ?_⟩
  · rw [drafting, hstatus] at hlength
    exact hlength
  · -- every change has raised the rank of the workflow
    have hcount := countSteps_add_le (productionApp S).app.step
      (P := statusChanges w.id) (fun s => s.db.tables.domain.rankOf w.id)
      (I := fun s => AssetRevisions s.db.nextId s.db.tables.domain)
      (fun _ action h' => (assetRevisions_step S h' action).1)
      (fun _ action h' => rankOf_step S w.id h' action) hs.assetRevisions actions
    have hrank : before.db.tables.domain.rankOf w.id = w.rank := (rankOf_of_mem hbefore hw).2
    have hle := hrevising.rank_le
    change _ ≤ before.db.tables.domain.rankOf w.id at hcount
    omega

theorem started_production_revisions_bounded :
    ∃ w ∈ (run (productionApp noSchemas).app.step productionStart
        startedProduction).db.tables.domain.productionWorkflows,
      countSteps (productionApp noSchemas).app.step (statusChanges w.id) productionStart
        startedProduction ≤ 2 * (w.maxRevisionRounds + 1) + 2 := by
  have hwaiting : ∃ w ∈ (run (productionApp noSchemas).app.step productionStart
      startedProduction).db.tables.domain.productionWorkflows, w.ended = false := by decide
  obtain ⟨w, hw, -⟩ := hwaiting
  exact ⟨w, hw, ((asset_revisions_bounded noSchemas productionStart_initial startedProduction
    []).2 w hw).2.2.2.2⟩

end LaunchOS
