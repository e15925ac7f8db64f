import LaunchOS.Production.App

/-!
# One advance of the production workflow

The module introduces:

* `ProductionWorkflow.stage`: the suffix of the advance job a workflow waits for;
* `ProductionWorkflow.Reached`: the suffixes that have been used so far;
* `Moved`: what an advance does to the rows and to the asset before it makes its job;
* `advance_spec`: an advance that returns ends the workflow, or leaves it waiting for a job whose
  suffix was not in use before.
-/

namespace LaunchOS

open Txn

variable {M : Type}

/-! ## The job a workflow waits for -/

namespace ProductionWorkflow

variable (w : ProductionWorkflow)

/-- The workflow has ended. -/
def ended : Bool :=
  match w.status with
  | .blocked | .escalated | .readyForActionProposal => true
  | _ => false

/-- The suffix of the advance job the workflow waits for. -/
def stage (t : ProductionTables) : Option ProductionAdvance :=
  match w.status with
  | .decisionApprovalVerified => some .start
  | .contentStrategyRunning => some .afterContentStrategy
  | .productionRunning => some (.afterWriter (nextAssetVersionNumber w t))
  | .assetControllersRunning => some (.afterAssetControllers (latestVersionNumber w t))
  | _ => none

/-- The workflow has got as far as to use the suffix. -/
def Reached (t : ProductionTables) : ProductionAdvance → Prop
  | .start => True
  | .afterContentStrategy => w.status ≠ .decisionApprovalVerified
  | .afterWriter version => version ≤ latestVersionNumber w t ∨
      version = nextAssetVersionNumber w t ∧ w.status = .productionRunning
  | .afterAssetControllers version => version ≤ latestVersionNumber w t

/-- The unique key of an advance job. -/
def advanceKey (suffix : ProductionAdvance) : TenantScope × JobType × JobKey :=
  (w.scope, .workflowAdvance, .productionWorkflow w.id suffix)

variable {w} {t : ProductionTables}

/-- The suffix of the stage is in use. -/
theorem reached_of_stage {suffix : ProductionAdvance} (h : w.stage t = some suffix) :
    w.Reached t suffix := by
  unfold stage at h
  split at h
  next => cases h; trivial
  next hstatus => cases h; simp [Reached, hstatus]
  next hstatus => cases h; simp [Reached, hstatus]
  next => cases h; exact le_rfl
  next => cases h

end ProductionWorkflow

/-! ## Version numbers -/

section Versions

variable {w : ProductionWorkflow} {t : ProductionTables}

theorem versionNumber_le_latest {v : AssetVersion} (h : v ∈ assetVersionsOf w t) :
    v.versionNumber ≤ latestVersionNumber w t :=
  Table.le_maxOf h

/-- The next version does not exist yet. -/
theorem assetVersion_next : assetVersion w (nextAssetVersionNumber w t) t = none := by
  rw [assetVersion, List.find?_eq_none]
  intro v hv
  have hne : v.versionNumber ≠ latestVersionNumber w t + 1 :=
    (Nat.lt_succ_of_le (versionNumber_le_latest hv)).ne
  exact fun h => hne (of_decide_eq_true h)

/-- The versions of a workflow depend on its tenant and its asset. -/
theorem assetVersionsOf_congr {w' : ProductionWorkflow} {t' : ProductionTables}
    (hscope : w'.scope = w.scope) (hasset : w'.assetId = w.assetId)
    (ht : t'.assetVersions = t.assetVersions) : assetVersionsOf w' t' = assetVersionsOf w t := by
  simp only [assetVersionsOf, hscope, hasset, ht]

theorem latestVersionNumber_congr {w' : ProductionWorkflow} {t' : ProductionTables}
    (hscope : w'.scope = w.scope) (hasset : w'.assetId = w.assetId)
    (ht : t'.assetVersions = t.assetVersions) :
    latestVersionNumber w' t' = latestVersionNumber w t := by
  rw [latestVersionNumber, latestVersionNumber, assetVersionsOf_congr hscope hasset ht]

/-- Another workflow's versions do not count. -/
theorem latestVersionNumber_append_of_ne {t' : ProductionTables} {new : List AssetVersion}
    (ht : t'.assetVersions = t.assetVersions ++ new)
    (hnew : ∀ v ∈ new, w.assetId ≠ some v.assetId) :
    latestVersionNumber w t' = latestVersionNumber w t := by
  have hnone : new.filter (fun v => v.scope = w.scope && w.assetId = some v.assetId) = [] := by
    rw [List.filter_eq_nil_iff]
    intro v hv
    simp [hnew v hv]
  rw [latestVersionNumber, latestVersionNumber, assetVersionsOf, ht, List.filter_append, hnone,
    List.append_nil, assetVersionsOf]

/-- Without versions of its asset the latest version is zero. -/
theorem latestVersionNumber_eq_zero (h : ∀ v ∈ t.assetVersions, w.assetId ≠ some v.assetId) :
    latestVersionNumber w t = 0 := by
  have hnone : assetVersionsOf w t = [] := by
    rw [assetVersionsOf, List.filter_eq_nil_iff]
    intro v hv
    simp [h v hv]
  rw [latestVersionNumber, hnone, Table.maxOf_nil]

/-- A new version with a higher number is the latest. -/
theorem latestVersionNumber_append_self {t' : ProductionTables} {v : AssetVersion}
    (ht : t'.assetVersions = t.assetVersions ++ [v]) (hscope : v.scope = w.scope)
    (hasset : w.assetId = some v.assetId) (hle : latestVersionNumber w t ≤ v.versionNumber) :
    latestVersionNumber w t' = v.versionNumber := by
  have hmine : assetVersionsOf w t' = assetVersionsOf w t ++ [v] := by
    simp [assetVersionsOf, ht, hscope, hasset]
  rw [latestVersionNumber, hmine, Table.maxOf_append, Table.maxOf_singleton]
  exact max_eq_right hle

end Versions

/-! ## One advance -/

/-- Nothing happens to the rows of the workflows, to the asset versions and to the advance jobs. -/
abbrev Quiet : AgentDatabase M ProductionTables → AgentDatabase M ProductionTables → Prop :=
  Keeps JobKey.isProduction (fun _ => false) SameAssets

private theorem quietAssets (now : Time) :
    DomainRelation (M := M) now (fun _ => true) SameAssets Quiet :=
  have hown : ∀ id, JobKey.isProduction (.agentRun id) = false := fun _ => rfl
  show DomainRelation now (fun ref => !(fun _ => false) ref) SameAssets Quiet from
    domainRelation_keeps now hown SameAssets

private theorem quiet (now : Time) :
    DomainRelation (M := M) now (fun _ => true) OnlyPrepares Quiet :=
  (quietAssets now).mono fun _ _ => OnlyPrepares.sameAssets

/-- What an advance has done to the database so far, `w` being the row it started with and `w'` the
one it holds: no advance job was made, and at most a new version of the asset, which is the one the
workflow had or a new one. -/
structure Moved (w w' : ProductionWorkflow) (db db' : AgentDatabase M ProductionTables) : Prop where
  id : w'.id = w.id
  scope : w'.scope = w.scope
  nextId : db.nextId ≤ db'.nextId
  subset : ∀ job ∈ db.jobs, job ∈ db'.jobs
  back : ∀ job ∈ db'.jobs, job.idempotencyKey.isProduction → job ∈ db.jobs
  workflows : db'.tables.domain.productionWorkflows = db.tables.domain.productionWorkflows
  versions : ∃ new, db'.tables.domain.assetVersions = db.tables.domain.assetVersions ++ new ∧
    ∀ v ∈ new, w'.assetId = some v.assetId
  asset : w'.assetId = w.assetId ∨
    w.assetId = none ∧ ∃ a, w'.assetId = some a ∧ db.nextId ≤ a ∧ a < db'.nextId

namespace Moved

variable {w w' w'' : ProductionWorkflow} {db db' db'' : AgentDatabase M ProductionTables}

theorem refl (w : ProductionWorkflow) (db : AgentDatabase M ProductionTables) :
    Moved w w db db :=
  ⟨rfl, rfl, le_rfl, fun _ h => h, fun _ h _ => h, rfl, ⟨[], by simp, by simp⟩, .inl rfl⟩

theorem quiet (h : Moved w w' db db') (hquiet : Quiet db' db'') : Moved w w' db db'' where
  id := h.id
  scope := h.scope
  nextId := h.nextId.trans hquiet.nextId
  subset job hjob := hquiet.subset job (h.subset job hjob)
  back job hjob hown := h.back job (hquiet.back job hjob hown) hown
  workflows := hquiet.domain.1.trans h.workflows
  versions := by
    obtain ⟨new, heq, hnew⟩ := h.versions
    exact ⟨new, hquiet.domain.2.trans heq, hnew⟩
  asset := h.asset.imp_right fun ⟨hnone, a, ha, hle, hlt⟩ =>
    ⟨hnone, a, ha, hle, hlt.trans_le hquiet.nextId⟩

/-- Only the tenant and the asset of the row matter. -/
theorem row (h : Moved w w' db db') (hid : w''.id = w'.id) (hscope : w''.scope = w'.scope)
    (hasset : w''.assetId = w'.assetId) : Moved w w'' db db' where
  id := hid.trans h.id
  scope := hscope.trans h.scope
  nextId := h.nextId
  subset := h.subset
  back := h.back
  workflows := h.workflows
  versions := by
    rw [hasset]
    exact h.versions
  asset := by
    rw [hasset]
    exact h.asset

end Moved

/-- What one advance does that returns: the workflow is over, or it waits for a job whose suffix was
not in use before. -/
inductive Advanced (now : Time) (w : ProductionWorkflow) (db : AgentDatabase M ProductionTables)
    (w' : ProductionWorkflow) : AgentDatabase M ProductionTables → Prop
  | ended {db' : AgentDatabase M ProductionTables} (hmoved : Moved w w' db db')
      (hreached : ∀ suffix, w.Reached db.tables.domain suffix →
        w'.Reached db'.tables.domain suffix) (hover : w'.ended) : Advanced now w db w' db'
  | waits {db' : AgentDatabase M ProductionTables} (suffix : ProductionAdvance)
      (hmoved : Moved w w' db db')
      (hreached : ∀ suffix, w.Reached db.tables.domain suffix →
        w'.Reached db'.tables.domain suffix)
      (hstage : w'.stage db'.tables.domain = some suffix)
      (hfresh : ¬ w.Reached db.tables.domain suffix) :
      Advanced now w db w' (db'.applyJobOp now (.createJob (advanceJob w suffix)))

section Spec

variable {S : OutputSchemas M} {now : Time} {answer : ProductionAnswer} {w : ProductionWorkflow}
variable {db : AgentDatabase M ProductionTables}

theorem ensures_enqueueAdvance (suffix : ProductionAdvance) :
    Ensures (enqueueAdvance now w suffix)
      (fun _ db' => db' = db.applyJobOp now (.createJob (advanceJob w suffix))) db :=
  fun _ _ h => (DomainTxn.createJob_eq_ok h).1

theorem ensures_ensureAsset :
    Ensures (ensureAsset w) (fun made db' => Quiet db db' ∧
      made.2.id = w.id ∧ made.2.scope = w.scope ∧ made.2.status = w.status ∧
      made.2.assetId = some made.1 ∧
      (w.assetId = some made.1 ∨ w.assetId = none ∧ db.nextId ≤ made.1 ∧ made.1 < db'.nextId))
      db := by
  rw [ensureAsset, ensures_bind, ensures_tables]
  split
  next assetId hasset =>
    rw [ensures_bind, ensures_check]
    intro _ _
    rw [ensures_pure]
    exact ⟨refl _, rfl, rfl, rfl, hasset, .inl hasset⟩
  next hnone =>
    rw [ensures_bind, ensures_check]
    intro briefId _
    rw [ensures_bind, ensures_newId, ensures_bind, ensures_modifyTables, ensures_pure]
    refine ⟨?_, rfl, rfl, rfl, rfl, .inr ⟨hnone, le_rfl, Nat.lt_succ_self _⟩⟩
    exact ⟨Nat.le_succ _, fun _ h => h, fun _ h _ => h, rfl, rfl, rfl⟩

/-- The new version is the next one, and from then on the latest. -/
theorem ensures_materializeAssetVersion
    (hlt : ∀ v ∈ db.tables.domain.assetVersions, v.assetId < db.nextId) :
    Ensures (materializeAssetVersion S answer w) (fun made db' => Moved w made.2 db db' ∧
      made.2.status = w.status ∧
      made.1.versionNumber = nextAssetVersionNumber w db.tables.domain ∧
      latestVersionNumber made.2 db'.tables.domain = made.1.versionNumber) db := by
  rw [materializeAssetVersion, ensures_bind, ensures_tables]
  dsimp only
  rw [assetVersion_next]
  dsimp only
  rw [ensures_bind, ensures_agentRuns, ensures_bind, ensures_check]
  intro run _
  rw [ensures_bind, ensures_check]
  intro output _
  rw [ensures_bind, ensures_check]
  intro _ _
  rw [ensures_bind]
  refine ensures_ensureAsset.mono ?_
  rintro ⟨assetId, w'⟩ db₁ ⟨hquiet, hid, hscope, hstatus, hasset, hassetId⟩
  dsimp only at hid hscope hstatus hasset hassetId ⊢
  rw [ensures_bind, ensures_check]
  intro _ _
  rw [ensures_bind, ensures_newId, ensures_bind, ensures_modifyTables, ensures_pure]
  have hversions := hquiet.domain.2
  refine ⟨⟨hid, hscope, hquiet.nextId.trans (Nat.le_succ _), hquiet.subset, hquiet.back,
    hquiet.domain.1, ⟨_, congrArg (· ++ _) hversions, ?_⟩, ?_⟩, hstatus, rfl, ?_⟩
  · simp [hasset]
  · rcases hassetId with hold | ⟨hnone, hge, hlt'⟩
    · exact .inl (hasset.trans hold.symm)
    · exact .inr ⟨hnone, assetId, hasset, hge, hlt'.trans (Nat.lt_succ_self _)⟩
  · refine latestVersionNumber_append_self (t := db.tables.domain) (congrArg (· ++ _) hversions)
      rfl hasset ?_
    rcases hassetId with hold | ⟨hnone, hge, -⟩
    · refine (latestVersionNumber_congr hscope (hasset.trans hold.symm) rfl).le.trans ?_
      exact Nat.le_succ _
    · have hzero : latestVersionNumber { w' with finalAssetVersionId := some db₁.nextId }
          db.tables.domain = 0 := by
        refine latestVersionNumber_eq_zero fun v hv => ?_
        simp only [hasset, ne_eq, Option.some.injEq]
        exact ((hlt v hv).trans_le hge).ne'
      rw [hzero]
      exact Nat.zero_le _

/-- Waiting for the next stage, after the rows have changed as `Moved` says. -/
theorem Advanced.of_moved {w' : ProductionWorkflow} {db' : AgentDatabase M ProductionTables}
    (suffix : ProductionAdvance) (hmoved : Moved w w' db db')
    (hreached : ∀ suffix, w.Reached db.tables.domain suffix →
      w'.Reached db'.tables.domain suffix)
    (hstage : w'.stage db'.tables.domain = some suffix)
    (hfresh : ¬ w.Reached db.tables.domain suffix) {w'' : ProductionWorkflow}
    (hid : w''.id = w.id) (hscope : w''.scope = w.scope) :
    Advanced now w db w' (db'.applyJobOp now (.createJob (advanceJob w'' suffix))) := by
  have hjob : advanceJob w'' suffix = advanceJob w suffix := by
    rw [advanceJob, advanceJob, hid, hscope]
  rw [hjob]
  exact .waits suffix hmoved hreached hstage hfresh

/-- Going to `PRODUCTION_RUNNING` from a status in which no writer is awaited. -/
theorem ensures_enterProductionRunning {w₁ : ProductionWorkflow}
    {previousVersion : Option AssetVersion} {reviews : List AssetReview}
    {db₁ : AgentDatabase M ProductionTables} (hmoved : Moved w w₁ db db₁)
    (hasset : w₁.assetId = w.assetId)
    (hversions : db₁.tables.domain.assetVersions = db.tables.domain.assetVersions)
    (hstatus : w.status = .contentStrategyRunning ∨ w.status = .assetControllersRunning) :
    Ensures (enterProductionRunning now answer w₁ previousVersion reviews)
      (fun w' db' => Advanced now w db w' db') db₁ := by
  rw [enterProductionRunning, ensures_bind]
  refine (within_ensureWriterRun (quiet now) answer w₁ db₁).mono fun _ db₂ hquiet => ?_
  rw [ensures_bind, ensures_tables, ensures_bind]
  refine (ensures_enqueueAdvance _).mono ?_
  rintro _ _ rfl
  rw [ensures_pure]
  have hlatest : latestVersionNumber { w₁ with status := .productionRunning } db₂.tables.domain =
      latestVersionNumber w db.tables.domain :=
    latestVersionNumber_congr hmoved.scope hasset (hquiet.domain.2.trans hversions)
  have hmoved' : Moved w { w₁ with status := .productionRunning } db db₂ :=
    (hmoved.quiet hquiet).row rfl rfl rfl
  refine .of_moved _ hmoved' ?_ rfl ?_ hmoved.id hmoved.scope
  · intro suffix hreached
    cases suffix with
    | start => trivial
    | afterContentStrategy => simp [ProductionWorkflow.Reached]
    | afterWriter version =>
        rcases hreached with hle | ⟨-, hrunning⟩
        · exact .inl (hle.trans hlatest.ge)
        · rcases hstatus with hstatus | hstatus <;> simp [hstatus] at hrunning
    | afterAssetControllers version => exact hreached.trans hlatest.ge
  · rintro (hle | ⟨-, hrunning⟩)
    · rw [nextAssetVersionNumber, hlatest] at hle
      exact absurd hle (Nat.not_succ_le_self _)
    · rcases hstatus with hstatus | hstatus <;> simp [hstatus] at hrunning

/-- One advance of a workflow that waits for a job. -/
theorem advance_spec (hlt : ∀ v ∈ db.tables.domain.assetVersions, v.assetId < db.nextId)
    (hwaits : w.ended ∨ (w.stage db.tables.domain).isSome) :
    Ensures (advanceProductionWorkflow S now answer w)
      (fun w' db' => Advanced now w db w' db') db := by
  rw [advanceProductionWorkflow, ensures_bind, ensures_tables, ensures_bind, ensures_check]
  intro _ _
  split
  next hstatus =>
    rw [ensures_bind]
    refine (within_ensureContentStrategyRun (quiet now) answer w db).mono fun _ db₁ hquiet => ?_
    rw [ensures_bind]
    refine (ensures_enqueueAdvance _).mono ?_
    rintro _ _ rfl
    rw [ensures_pure]
    have hlatest : latestVersionNumber { w with status := .contentStrategyRunning }
        db₁.tables.domain = latestVersionNumber w db.tables.domain :=
      latestVersionNumber_congr rfl rfl hquiet.domain.2
    have hmoved : Moved w { w with status := .contentStrategyRunning } db db₁ :=
      ((Moved.refl w db).quiet hquiet).row rfl rfl rfl
    refine .of_moved _ hmoved ?_ rfl ?_ rfl rfl
    · intro suffix hreached
      cases suffix with
      | start => trivial
      | afterContentStrategy => simp [ProductionWorkflow.Reached]
      | afterWriter version =>
          rcases hreached with hle | ⟨-, hrunning⟩
          · exact .inl (hle.trans hlatest.ge)
          · simp [hstatus] at hrunning
      | afterAssetControllers version => exact hreached.trans hlatest.ge
    · simp [ProductionWorkflow.Reached, hstatus]
  next hstatus =>
    rw [ensures_bind]
    refine (within_materializeContentStrategy (quiet now) S answer w db).mono
      fun strategy db₁ hquiet => ?_
    rw [ensures_bind]
    refine (within_materializeCreativeBrief (quiet now) answer w strategy db₁).mono
      fun brief db₂ hquiet' => ?_
    refine ensures_enterProductionRunning
      ((((Moved.refl w db).quiet hquiet).quiet hquiet').row rfl rfl rfl) rfl
      (hquiet'.domain.2.trans hquiet.domain.2) (.inl hstatus)
  next hstatus =>
    rw [ensures_bind]
    refine (ensures_materializeAssetVersion hlt).mono ?_
    rintro ⟨version, w₁⟩ db₁ ⟨hmoved, -, hnumber, hlatest⟩
    dsimp only at hmoved hnumber hlatest ⊢
    rw [ensures_bind]
    refine (within_ensureAssetControllerRuns (quiet now) answer _ version db₁).mono
      fun _ db₂ hquiet => ?_
    rw [ensures_bind]
    refine (ensures_enqueueAdvance _).mono ?_
    rintro _ _ rfl
    rw [ensures_pure]
    let w₂ : ProductionWorkflow :=
      { w₁ with finalAssetVersionId := some version.id, status := .assetControllersRunning }
    have hlatest' : latestVersionNumber w₂ db₂.tables.domain = version.versionNumber :=
      (latestVersionNumber_congr rfl rfl hquiet.domain.2).trans hlatest
    have hsucc : latestVersionNumber w db.tables.domain ≤ version.versionNumber := by
      rw [hnumber]
      exact Nat.le_succ _
    have hmoved' : Moved w w₂ db db₂ := (hmoved.quiet hquiet).row rfl rfl rfl
    refine .of_moved _ hmoved' ?_ ?_ ?_ hmoved.id hmoved.scope
    · intro suffix hreached
      cases suffix with
      | start => trivial
      | afterContentStrategy => simp [ProductionWorkflow.Reached]
      | afterWriter v =>
          refine .inl ?_
          rw [hlatest']
          rcases hreached with hle | ⟨hnext, -⟩
          · exact hle.trans hsucc
          · rw [hnext, hnumber]
      | afterAssetControllers v =>
          have hle : v ≤ latestVersionNumber w db.tables.domain := hreached
          change v ≤ latestVersionNumber w₂ db₂.tables.domain
          rw [hlatest']
          exact hle.trans hsucc
    · change some (ProductionAdvance.afterAssetControllers (latestVersionNumber w₂ _)) = _
      rw [hlatest']
    · change ¬ version.versionNumber ≤ latestVersionNumber w db.tables.domain
      rw [hnumber]
      exact Nat.not_succ_le_self _
  next hstatus =>
    rw [ensures_bind, ensures_tables, ensures_bind, ensures_check]
    intro version _
    rw [ensures_bind]
    refine (within_materializeAssetReviews S answer w (quietAssets now) version db).mono
      fun reviews db₁ hquiet => ?_
    rw [ensures_bind, ensures_tables, ensures_bind, ensures_check]
    intro outcome _
    have hmoved : Moved w w db db₁ := (Moved.refl w db).quiet hquiet
    have hended : ∀ w' : ProductionWorkflow, w'.id = w.id → w'.scope = w.scope →
        w'.assetId = w.assetId → w'.ended → Advanced now w db w' db₁ := by
      intro w' hid hscope hasset hover
      refine .ended (hmoved.row hid hscope hasset) ?_ hover
      have hlatest : latestVersionNumber w' db₁.tables.domain =
          latestVersionNumber w db.tables.domain :=
        latestVersionNumber_congr hscope hasset hquiet.domain.2
      intro suffix hreached
      cases suffix with
      | start => trivial
      | afterContentStrategy =>
          intro hstart
          simp [ProductionWorkflow.ended, hstart] at hover
      | afterWriter v =>
          rcases hreached with hle | ⟨-, hrunning⟩
          · exact .inl (hle.trans hlatest.ge)
          · simp [hstatus] at hrunning
      | afterAssetControllers v => exact hreached.trans hlatest.ge
    cases outcome with
    | block => exact (ensures_pure _).mpr (hended _ rfl rfl rfl rfl)
    | revise | passWithConditions =>
        rw [ensures_ite]
        refine ⟨fun _ => (ensures_pure _).mpr (hended _ rfl rfl rfl rfl), fun _ => ?_⟩
        exact ensures_enterProductionRunning (hmoved.row rfl rfl rfl) rfl hquiet.domain.2
          (.inr hstatus)
    | pass => exact (ensures_pure _).mpr (hended _ rfl rfl rfl rfl)
  next hstart hstrategy hrunning hcontrollers =>
    -- no other status is committed except those of a workflow that is over
    rw [ensures_pure]
    refine .ended (.refl w db) (fun _ hreached => hreached) (hwaits.resolve_right ?_)
    unfold ProductionWorkflow.stage
    split <;> first | contradiction | simp

end Spec

end LaunchOS
