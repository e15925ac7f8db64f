import LaunchOS.AiRuntime.DomainSteps
import LaunchOS.Lib.FindOrMake
import LaunchOS.Production.Advance

/-!
# The asset gate

A production workflow is ready for an action proposal only after one review of each required
controller has been made of the latest version of its asset, and if neither a review nor a
deterministic check stands in the way.

The module introduces:

* `AssetPassed`: what a version has to show, and `AssetPassed.mono`, that it keeps it;
* `AssetGated`: the invariant, with one lemma for each kind of row that is written;
* `AssetMove`: what one advance does to the rows, and `assetMove_advance`, that it does;
* `gated_productionWorkflowAdvanceHandler`, `gated_startProductionWorkflow`.
-/

namespace LaunchOS

open Txn

variable {M : Type}

/-! ## Versions that pass -/

/-- The reviews of an asset version. -/
def ProductionTables.reviewsOf (assetVersionId : Id) (t : ProductionTables) : List AssetReview :=
  t.assetReviews.filter fun review => review.assetVersionId = assetVersionId

/-- The review neither blocks nor asks for a revision, and leaves no mandatory condition. -/
structure AssetReview.Clear (review : AssetReview) : Prop where
  verdict : review.verdict = .pass ∨ review.verdict = .passWithConditions
  conditions : review.verdict = .passWithConditions →
    ∀ value ∈ review.conditions ++ review.requiredChanges, WorthMapping.strip value.toList = []

/-- The version is the final and the latest one of the workflow's asset, and it has passed: the
outcome is that of its own reviews, whatever reviews other versions have. -/
structure AssetPassed (w : ProductionWorkflow) (v : AssetVersion) (t : ProductionTables) : Prop where
  final : w.finalAssetVersionId = some v.id
  asset : w.assetId = some v.assetId
  latest : ∀ v' ∈ t.assetVersions, v'.assetId = v.assetId →
    v'.id = v.id ∨ v'.versionNumber < v.versionNumber
  types : (t.reviewsOf v.id).map AssetReview.controllerType = requiredAssetControllerTypes
  clear : ∀ review ∈ t.reviewsOf v.id, review.Clear
  worth : WorthMapping.containsHumanWorthViolation [v.body] = false
  manipulation : containsHardManipulation v.body = false
  claims : hasUnsupportedClaims w v t = false
  rights : rightsAreComplete v t = true
  outcome : governedAssetOutcome w v (t.reviewsOf v.id) t = .ok .pass

theorem reviewVerdict_eq_pass {reviews : List AssetReview} (h : reviewVerdict reviews = .pass) :
    ∀ review ∈ reviews, review.Clear := by
  intro review hreview
  rcases ControllerVerdict.of_resolve_eq_pass h review hreview with hpass | ⟨hverdict, hconditions⟩
  · exact ⟨.inl hpass, fun hverdict => absurd (hpass.symm.trans hverdict) (by decide)⟩
  · refine ⟨.inr hverdict, fun _ value hvalue => ?_⟩
    simpa using List.any_eq_false.mp hconditions value hvalue

/-- When the outcome is `PASS`. -/
theorem governedAssetOutcome_eq_pass_iff {w : ProductionWorkflow} {v : AssetVersion}
    {reviews : List AssetReview} {t : ProductionTables} :
    governedAssetOutcome w v reviews t = .ok .pass ↔
      (requiredAssetControllerTypes.all fun type =>
        reviews.any fun review => review.controllerType = type) = true ∧
      WorthMapping.containsHumanWorthViolation [v.body] = false ∧
      containsHardManipulation v.body = false ∧ hasUnsupportedClaims w v t = false ∧
      rightsAreComplete v t = true ∧ reviewVerdict reviews = .pass := by
  unfold governedAssetOutcome
  simp only [Except.bind_eq_ok_iff, require_eq_ok_iff, Except.pure_eq_ok_iff, exists_const]
  refine and_congr_right fun _ => ?_
  constructor
  · intro h
    split at h
    next => cases h
    next hworth =>
      split at h
      next => cases h
      next hmanipulation =>
        split at h
        next => cases h
        next hclaims =>
          split at h
          next => cases h
          next hrights =>
            exact ⟨eq_false_of_ne_true hworth, eq_false_of_ne_true hmanipulation,
              eq_false_of_ne_true hclaims, eq_true_of_ne_false hrights, h⟩
  · rintro ⟨hworth, hmanipulation, hclaims, hrights, hverdict⟩
    simp [hworth, hmanipulation, hclaims, hrights, hverdict]

/-- Evidence that is added takes no support from a claim. -/
theorem unsupported_of_prefix {scope : TenantScope} {evidence evidence' : List Evidence}
    (hgrown : evidence <+: evidence') {claim : ClaimInventoryItem}
    (h : claim.unsupported scope evidence = false) : claim.unsupported scope evidence' = false := by
  obtain ⟨new, rfl⟩ := hgrown
  unfold ClaimInventoryItem.unsupported at h ⊢
  by_cases hpromotional : claim.claimType = .promotional
  · simp [hpromotional]
  · cases hfind : claim.evidenceRef.bind fun ref => Table.find Evidence.id ref evidence with
    | none => simp [hfind, hpromotional] at h
    | some row =>
        obtain ⟨ref, href, hrow⟩ := Option.bind_eq_some_iff.mp hfind
        rw [hfind] at h
        rw [href, Option.bind_some, Table.find_append_of_eq_some hrow]
        exact h

theorem hasUnsupportedClaims_of_prefix {w : ProductionWorkflow} {v : AssetVersion}
    {t t' : ProductionTables} (hgrown : t.evidence <+: t'.evidence)
    (h : hasUnsupportedClaims w v t = false) : hasUnsupportedClaims w v t' = false := by
  unfold hasUnsupportedClaims at h ⊢
  rw [Bool.or_eq_false_iff] at h ⊢
  refine ⟨?_, h.2⟩
  rw [List.any_eq_false] at h ⊢
  intro claim hclaim
  have hsupported := eq_false_of_ne_true (h.1 claim hclaim)
  simp [ unsupported_of_prefix hgrown hsupported]

/-- The rights of a version that has them are found among more rights. -/
theorem rightsAreComplete_of_find {v : AssetVersion} {t t' : ProductionTables}
    (hrights : ∀ rights, rightsForVersion v.id t = some rights →
      rightsForVersion v.id t' = some rights)
    (h : rightsAreComplete v t = true) : rightsAreComplete v t' = true := by
  unfold rightsAreComplete at h ⊢
  cases hfind : rightsForVersion v.id t with
  | none => simp [hfind] at h
  | some rights =>
      rw [hrights rights hfind]
      rw [hfind] at h
      exact h

/-- A version that has passed stays so, unless its asset gets another version or it gets another
review. -/
theorem AssetPassed.mono {w : ProductionWorkflow} {v : AssetVersion} {t t' : ProductionTables}
    (h : AssetPassed w v t)
    (hversions : ∀ v' ∈ t'.assetVersions, v'.assetId = v.assetId → v' ∈ t.assetVersions)
    (hreviews : t'.reviewsOf v.id = t.reviewsOf v.id)
    (hrights : ∀ rights, rightsForVersion v.id t = some rights →
      rightsForVersion v.id t' = some rights)
    (hevidence : t.evidence <+: t'.evidence) : AssetPassed w v t' := by
  have hclaims := hasUnsupportedClaims_of_prefix (w := w) (v := v) hevidence h.claims
  have hcomplete := rightsAreComplete_of_find hrights h.rights
  obtain ⟨hall, -, -, -, -, hverdict⟩ := governedAssetOutcome_eq_pass_iff.mp h.outcome
  exact {
    final := h.final
    asset := h.asset
    latest := fun v' hv' hsame => h.latest v' (hversions v' hv' hsame) hsame
    types := hreviews ▸ h.types
    clear := hreviews ▸ h.clear
    worth := h.worth
    manipulation := h.manipulation
    claims := hclaims
    rights := hcomplete
    outcome := by
      rw [hreviews]
      exact governedAssetOutcome_eq_pass_iff.mpr
        ⟨hall, h.worth, h.manipulation, hclaims, hcomplete, hverdict⟩ }

/-! ## The invariant -/

/-- The rows of the gate are left alone, and evidence is only added. -/
structure KeepsAssets (t t' : ProductionTables) : Prop where
  workflows : t'.productionWorkflows = t.productionWorkflows
  versions : t'.assetVersions = t.assetVersions
  rights : t'.assetRightsProvenance = t.assetRightsProvenance
  reviews : t'.assetReviews = t.assetReviews
  evidence : t.evidence <+: t'.evidence

instance : IsPreorder ProductionTables KeepsAssets where
  refl _ := ⟨rfl, rfl, rfl, rfl, List.prefix_rfl⟩
  trans _ _ _ h h' := ⟨h'.workflows.trans h.workflows, h'.versions.trans h.versions,
    h'.rights.trans h.rights, h'.reviews.trans h.reviews, h.evidence.trans h'.evidence⟩

theorem OnlyPrepares.keepsAssets {t t' : ProductionTables} (h : OnlyPrepares t t') :
    KeepsAssets t t' := by
  rw [OnlyPrepares] at h
  rw [h]
  exact ⟨rfl, rfl, rfl, rfl, List.prefix_rfl⟩

/-- The invariant, when all ids below `nextId` may be in use. -/
structure AssetGated (nextId : Id) (t : ProductionTables) : Prop where
  workflows : Table.KeysNodup ProductionWorkflow.id t.productionWorkflows
  workflow_lt : ∀ w ∈ t.productionWorkflows, w.id < nextId
  asset_lt : ∀ w ∈ t.productionWorkflows, ∀ assetId, w.assetId = some assetId → assetId < nextId
  /-- An asset is that of one workflow. -/
  owner : ∀ w ∈ t.productionWorkflows, ∀ w' ∈ t.productionWorkflows, ∀ assetId,
    w.assetId = some assetId → w'.assetId = some assetId → w.id = w'.id
  versions : Table.KeysNodup AssetVersion.id t.assetVersions
  version_lt : ∀ v ∈ t.assetVersions, v.id < nextId ∧ v.assetId < nextId
  numbers : ∀ v ∈ t.assetVersions, ∀ v' ∈ t.assetVersions, v.assetId = v'.assetId →
    v.versionNumber = v'.versionNumber → v.id = v'.id
  tenant : ∀ w ∈ t.productionWorkflows, ∀ v ∈ t.assetVersions, w.assetId = some v.assetId →
    v.scope = w.scope
  review_lt : ∀ review ∈ t.assetReviews, review.assetVersionId < nextId
  reviewed : ∀ v ∈ t.assetVersions, t.reviewsOf v.id = [] ∨
    (t.reviewsOf v.id).map AssetReview.controllerType = requiredAssetControllerTypes
  passed : ∀ w ∈ t.productionWorkflows, w.status = .readyForActionProposal →
    ∃ v ∈ t.assetVersions, AssetPassed w v t

namespace AssetGated

variable {nextId nextId' : Id} {t t' : ProductionTables}

/-- Only these rows matter. -/
theorem keeps (h : AssetGated nextId t) (hle : nextId ≤ nextId') (hkeeps : KeepsAssets t t') :
    AssetGated nextId' t' := by
  have hreviews : ∀ id, t'.reviewsOf id = t.reviewsOf id := fun id => by
    rw [ProductionTables.reviewsOf, hkeeps.reviews, ProductionTables.reviewsOf]
  constructor
  · rw [hkeeps.workflows]
    exact h.workflows
  · rw [hkeeps.workflows]
    exact fun w hw => (h.workflow_lt w hw).trans_le hle
  · rw [hkeeps.workflows]
    exact fun w hw assetId hasset => (h.asset_lt w hw assetId hasset).trans_le hle
  · rw [hkeeps.workflows]
    exact h.owner
  · rw [hkeeps.versions]
    exact h.versions
  · rw [hkeeps.versions]
    exact fun v hv => ⟨(h.version_lt v hv).1.trans_le hle, (h.version_lt v hv).2.trans_le hle⟩
  · rw [hkeeps.versions]
    exact h.numbers
  · rw [hkeeps.workflows, hkeeps.versions]
    exact h.tenant
  · rw [hkeeps.reviews]
    exact fun review hreview => (h.review_lt review hreview).trans_le hle
  · rw [hkeeps.versions]
    intro v hv
    rw [hreviews]
    exact h.reviewed v hv
  · rw [hkeeps.workflows, hkeeps.versions]
    intro w hw hready
    obtain ⟨v, hv, hpassed⟩ := h.passed w hw hready
    refine ⟨v, hv, hpassed.mono (fun v' hv' _ => hkeeps.versions ▸ hv') (hreviews v.id) ?_
      hkeeps.evidence⟩
    intro rights hrights
    rwa [rightsForVersion, hkeeps.rights]

/-- A workflow that is started. -/
theorem addWorkflow (h : AssetGated nextId t) {w : ProductionWorkflow} (hid : w.id = nextId)
    (hasset : w.assetId = none) (hstatus : w.status = .decisionApprovalVerified) :
    AssetGated (nextId + 1) { t with productionWorkflows := t.productionWorkflows ++ [w] } := by
  have h' := h.keeps (Nat.le_succ nextId) (refl t)
  refine { h' with
    workflows := ?_
    workflow_lt := fun w' hw' => ?_
    asset_lt := fun w' hw' assetId hasset' => ?_
    owner := fun w₁ hw₁ w₂ hw₂ assetId h₁ h₂ => ?_
    tenant := fun w' hw' v hv hasset' => ?_
    passed := fun w' hw' hready => ?_ }
  · refine h.workflows.append (Table.keysNodup_singleton w) ?_
    simp only [List.mem_singleton, forall_eq, hid]
    exact fun w' hw' => (h.workflow_lt w' hw').ne
  · rcases List.mem_append.mp hw' with hold | hnew
    · exact h'.workflow_lt w' hold
    · rw [List.mem_singleton.mp hnew, hid]
      exact Nat.lt_succ_self nextId
  · rcases List.mem_append.mp hw' with hold | hnew
    · exact h'.asset_lt w' hold assetId hasset'
    · rw [List.mem_singleton.mp hnew, hasset] at hasset'
      cases hasset'
  · rcases List.mem_append.mp hw₁ with hw₁ | hw₁
    · rcases List.mem_append.mp hw₂ with hw₂ | hw₂
      · exact h.owner w₁ hw₁ w₂ hw₂ assetId h₁ h₂
      · rw [List.mem_singleton.mp hw₂, hasset] at h₂
        cases h₂
    · rw [List.mem_singleton.mp hw₁, hasset] at h₁
      cases h₁
  · rcases List.mem_append.mp hw' with hold | hnew
    · exact h.tenant w' hold v hv hasset'
    · rw [List.mem_singleton.mp hnew, hasset] at hasset'
      cases hasset'
  · rcases List.mem_append.mp hw' with hold | hnew
    · obtain ⟨v, hv, hpassed⟩ := h.passed w' hold hready
      exact ⟨v, hv, hpassed.mono (fun _ hv' _ => hv') rfl (fun _ hrights => hrights)
        List.prefix_rfl⟩
    · rw [List.mem_singleton.mp hnew, hstatus] at hready
      cases hready

/-- A version of the asset of a workflow that is not ready, or of an asset nobody has yet. -/
theorem addVersion (h : AssetGated nextId t) (rights : AssetRightsProvenance)
    {w : ProductionWorkflow}
    (hw : w ∈ t.productionWorkflows) (hstatus : w.status ≠ .readyForActionProposal)
    {v : AssetVersion} (hle : nextId ≤ nextId')
    (hid : nextId ≤ v.id ∧ v.id < nextId') (hscope : v.scope = w.scope)
    (hasset : w.assetId = some v.assetId ∨ nextId ≤ v.assetId ∧ v.assetId < nextId')
    (hnumber : ∀ v' ∈ assetVersionsOf w t, v'.versionNumber < v.versionNumber) :
    AssetGated nextId' { t with
      assetVersions := t.assetVersions ++ [v]
      assetRightsProvenance := t.assetRightsProvenance ++ [rights] } := by
  have h' := h.keeps hle (refl t)
  -- a workflow with the asset of the version is `w`
  have howner : ∀ w₂ ∈ t.productionWorkflows, w₂.assetId = some v.assetId → w₂ = w := by
    intro w₂ hw₂ hasset₂
    rcases hasset with hmine | ⟨hge, -⟩
    · exact h.workflows.eq_of_key_eq hw₂ hw (h.owner w₂ hw₂ w hw v.assetId hasset₂ hmine)
    · exact absurd (h.asset_lt w₂ hw₂ v.assetId hasset₂) hge.not_gt
  -- and an older version of the asset has a smaller number
  have holder : ∀ v' ∈ t.assetVersions, v'.assetId = v.assetId →
      v'.versionNumber < v.versionNumber := by
    intro v' hv' hsame
    rcases hasset with hmine | ⟨hge, -⟩
    · have hmine' : w.assetId = some v'.assetId := hsame ▸ hmine
      refine hnumber v' (List.mem_filter.mpr ⟨hv', ?_⟩)
      simp [h.tenant w hw v' hv' hmine', hmine']
    · exact absurd (hsame ▸ (h.version_lt v' hv').2) hge.not_gt
  have hreviewsOf : ProductionTables.reviewsOf v.id t = [] := by
    rw [ProductionTables.reviewsOf, List.filter_eq_nil_iff]
    intro review hreview
    have hne := ((h.review_lt review hreview).trans_le hid.1).ne
    simp [hne]
  refine { h' with
    versions := ?_
    version_lt := fun v' hv' => ?_
    numbers := fun v₁ hv₁ v₂ hv₂ hsame heq => ?_
    tenant := fun w' hw' v' hv' hasset' => ?_
    reviewed := fun v' hv' => ?_
    passed := fun w' hw' hready => ?_ }
  · refine h.versions.append (Table.keysNodup_singleton v) ?_
    simp only [List.mem_singleton, forall_eq]
    exact fun v' hv' => ((h.version_lt v' hv').1.trans_le hid.1).ne
  · rcases List.mem_append.mp hv' with hold | hnew
    · exact h'.version_lt v' hold
    · rw [List.mem_singleton.mp hnew]
      refine ⟨hid.2, ?_⟩
      rcases hasset with hmine | ⟨-, hlt⟩
      · exact h'.asset_lt w hw v.assetId hmine
      · exact hlt
  · rcases List.mem_append.mp hv₁ with hold₁ | hnew₁ <;>
      rcases List.mem_append.mp hv₂ with hold₂ | hnew₂
    · exact h.numbers v₁ hold₁ v₂ hold₂ hsame heq
    · rw [List.mem_singleton.mp hnew₂] at hsame heq
      exact absurd heq (holder v₁ hold₁ hsame).ne
    · rw [List.mem_singleton.mp hnew₁] at hsame heq
      exact absurd heq.symm (holder v₂ hold₂ hsame.symm).ne
    · rw [List.mem_singleton.mp hnew₁, List.mem_singleton.mp hnew₂]
  · rcases List.mem_append.mp hv' with hold | hnew
    · exact h.tenant w' hw' v' hold hasset'
    · rw [List.mem_singleton.mp hnew] at hasset' ⊢
      rw [howner w' hw' hasset', hscope]
  · rcases List.mem_append.mp hv' with hold | hnew
    · exact h.reviewed v' hold
    · rw [List.mem_singleton.mp hnew]
      exact .inl hreviewsOf
  · obtain ⟨v', hv', hpassed⟩ := h.passed w' hw' hready
    refine ⟨v', List.mem_append_left _ hv', hpassed.mono (fun v₂ hv₂ hsame => ?_) rfl
      (fun _ hrights => Table.find_append_of_eq_some hrights) List.prefix_rfl⟩
    rcases List.mem_append.mp hv₂ with hold | hnew
    · exact hold
    · rw [List.mem_singleton.mp hnew] at hsame
      rw [howner w' hw' (hpassed.asset.trans (congrArg some hsame.symm))] at hready
      exact absurd hready hstatus

/-- The reviews of a version of a workflow that is not ready. -/
theorem addReviews (h : AssetGated nextId t) {w : ProductionWorkflow}
    (hw : w ∈ t.productionWorkflows) (hstatus : w.status ≠ .readyForActionProposal)
    {v : AssetVersion} (hv : v ∈ t.assetVersions) (hasset : w.assetId = some v.assetId)
    (hle : nextId ≤ nextId') (hnone : t.reviewsOf v.id = []) {new : List AssetReview}
    (hmine : ∀ review ∈ new, review.assetVersionId = v.id)
    (htypes : new.map AssetReview.controllerType = requiredAssetControllerTypes) :
    AssetGated nextId' { t with assetReviews := t.assetReviews ++ new } := by
  have h' := h.keeps hle (refl t)
  have hself : ProductionTables.reviewsOf v.id { t with assetReviews := t.assetReviews ++ new } =
      new := by
    have hall : new.filter (fun review => review.assetVersionId = v.id) = new :=
      List.filter_eq_self.mpr fun review hreview => decide_eq_true (hmine review hreview)
    rw [ProductionTables.reviewsOf, List.filter_append, hall]
    exact (congrArg (· ++ new) hnone).trans (List.nil_append new)
  have hother : ∀ v' ∈ t.assetVersions, v'.id ≠ v.id → ProductionTables.reviewsOf v'.id
      { t with assetReviews := t.assetReviews ++ new } = t.reviewsOf v'.id := by
    intro v' _ hne
    have hnil : new.filter (fun review => review.assetVersionId = v'.id) = [] := by
      rw [List.filter_eq_nil_iff]
      intro review hreview
      simp [hmine review hreview, hne.symm]
    rw [ProductionTables.reviewsOf, List.filter_append, hnil, List.append_nil,
      ProductionTables.reviewsOf]
  refine { h' with
    review_lt := fun review hreview => ?_
    reviewed := fun v' hv' => ?_
    passed := fun w' hw' hready => ?_ }
  · rcases List.mem_append.mp hreview with hold | hnew
    · exact h'.review_lt review hold
    · rw [hmine review hnew]
      exact (h'.version_lt v hv).1
  · by_cases hsame : v'.id = v.id
    · rw [hsame, hself]
      exact .inr htypes
    · rw [hother v' hv' hsame]
      exact h.reviewed v' hv'
  · obtain ⟨v', hv', hpassed⟩ := h.passed w' hw' hready
    refine ⟨v', hv', hpassed.mono (fun _ hv₂ _ => hv₂) (hother v' hv' ?_)
      (fun _ hrights => hrights) List.prefix_rfl⟩
    intro hsame
    have hmine' : w'.assetId = some v.assetId := by
      rw [hpassed.asset, h.versions.eq_of_key_eq hv' hv hsame]
    have heq := h.workflows.eq_of_key_eq hw' hw (h.owner w' hw' w hw v.assetId hmine' hasset)
    rw [heq] at hready
    exact absurd hready hstatus

/-- The row of a workflow is written, with an asset of its own. -/
theorem put (h : AssetGated nextId t) {w w' : ProductionWorkflow}
    (hw : w ∈ t.productionWorkflows) (hid : w'.id = w.id) (hscope : w'.scope = w.scope)
    (hasset : w'.assetId = w.assetId ∨ ∃ assetId, w'.assetId = some assetId ∧ assetId < nextId ∧
      (∀ w₂ ∈ t.productionWorkflows, w₂.assetId ≠ some assetId) ∧
      ∀ v ∈ t.assetVersions, v.assetId = assetId → v.scope = w.scope)
    (hpassed : w'.status = .readyForActionProposal → ∃ v ∈ t.assetVersions, AssetPassed w' v t) :
    AssetGated nextId { t with
      productionWorkflows :=
        Table.modify ProductionWorkflow.id w'.id (fun _ => w') t.productionWorkflows } := by
  have hrows : ∀ w₂ ∈ Table.modify ProductionWorkflow.id w'.id (fun _ => w')
      t.productionWorkflows, w₂ = w' ∨ w₂ ∈ t.productionWorkflows ∧ w₂.id ≠ w.id := by
    intro w₂ hw₂
    obtain ⟨old, hold, rfl⟩ := Table.mem_modify_iff.mp hw₂
    split
    next => exact .inl rfl
    next hne => exact .inr ⟨hold, fun heq => hne (heq.trans hid.symm)⟩
  -- an asset of `w'` and of another workflow is out of the question
  have hother : ∀ w₂ ∈ t.productionWorkflows, w₂.id ≠ w.id → ∀ assetId,
      w'.assetId = some assetId → w₂.assetId ≠ some assetId := by
    intro w₂ hw₂ hne assetId hasset' hasset₂
    rcases hasset with hold | ⟨a, ha, -, hnobody, -⟩
    · exact hne (h.owner w₂ hw₂ w hw assetId hasset₂ (hold ▸ hasset'))
    · rw [ha] at hasset'
      cases hasset'
      exact hnobody w₂ hw₂ hasset₂
  refine { h with
    workflows := (h.workflows.modify fun _ _ _ => rfl)
    workflow_lt := fun w₂ hw₂ => ?_
    asset_lt := fun w₂ hw₂ assetId hasset₂ => ?_
    owner := fun w₁ hw₁ w₂ hw₂ assetId h₁ h₂ => ?_
    tenant := fun w₂ hw₂ v hv hasset₂ => ?_
    passed := fun w₂ hw₂ hready => ?_ }
  · rcases hrows w₂ hw₂ with rfl | ⟨hold, -⟩
    · rw [hid]
      exact h.workflow_lt w hw
    · exact h.workflow_lt w₂ hold
  · rcases hrows w₂ hw₂ with rfl | ⟨hold, -⟩
    · rcases hasset with hsame | ⟨a, ha, hlt, -, -⟩
      · exact h.asset_lt w hw assetId (hsame ▸ hasset₂)
      · rw [ha] at hasset₂
        cases hasset₂
        exact hlt
    · exact h.asset_lt w₂ hold assetId hasset₂
  · rcases hrows w₁ hw₁ with rfl | ⟨hold₁, hne₁⟩ <;> rcases hrows w₂ hw₂ with rfl | ⟨hold₂, hne₂⟩
    · rfl
    · exact absurd h₂ (hother w₂ hold₂ hne₂ assetId h₁)
    · exact absurd h₁ (hother w₁ hold₁ hne₁ assetId h₂)
    · exact h.owner w₁ hold₁ w₂ hold₂ assetId h₁ h₂
  · rcases hrows w₂ hw₂ with rfl | ⟨hold, -⟩
    · rw [hscope]
      rcases hasset with hsame | ⟨a, ha, -, -, hscopes⟩
      · exact h.tenant w hw v hv (hsame ▸ hasset₂)
      · rw [ha] at hasset₂
        exact hscopes v hv (Option.some.inj hasset₂).symm
    · exact h.tenant w₂ hold v hv hasset₂
  · have hpassed₂ : ∃ v ∈ t.assetVersions, AssetPassed w₂ v t := by
      rcases hrows w₂ hw₂ with rfl | ⟨hold, -⟩
      · exact hpassed hready
      · exact h.passed w₂ hold hready
    obtain ⟨v, hv, hv'⟩ := hpassed₂
    exact ⟨v, hv, hv'.mono (fun _ h₂ _ => h₂) rfl (fun _ hrights => hrights) List.prefix_rfl⟩

end AssetGated

/-! ## One advance -/

/-- What a workflow is started with stays with it. -/
structure SameBinding (w w' : ProductionWorkflow) : Prop where
  id : w'.id = w.id
  scope : w'.scope = w.scope
  decisionId : w'.decisionId = w.decisionId
  decisionVersion : w'.decisionVersion = w.decisionVersion
  decisionApprovalId : w'.decisionApprovalId = w.decisionApprovalId

theorem SameBinding.refl (w : ProductionWorkflow) : SameBinding w w := ⟨rfl, rfl, rfl, rfl, rfl⟩

/-- The tables with the row of a workflow written. -/
def ProductionTables.put (w : ProductionWorkflow) (t : ProductionTables) : ProductionTables :=
  { t with
    productionWorkflows :=
      Table.modify ProductionWorkflow.id w.id (fun _ => w) t.productionWorkflows }

/-- After an advance the invariant holds again, once the row of the workflow is written. -/
structure GatedAdvance (w : ProductionWorkflow) (db : AgentDatabase M ProductionTables)
    (w' : ProductionWorkflow) (db' : AgentDatabase M ProductionTables) : Prop where
  nextId : db.nextId ≤ db'.nextId
  binding : SameBinding w w'
  workflows : db'.tables.domain.productionWorkflows = db.tables.domain.productionWorkflows
  gated : AssetGated db'.nextId (db'.tables.domain.put w')

section Advance

variable (S : OutputSchemas M) {now : Time} {answer : ProductionAnswer} {w w' : ProductionWorkflow}
variable {db db' : AgentDatabase M ProductionTables}

theorem keepsFrames (now : Time) :
    DomainRelation (M := M) now (fun _ => true) OnlyPrepares (Frames KeepsAssets) :=
  (domainRelation_frames now _).mono fun _ _ => OnlyPrepares.keepsAssets

/-- A stage that leaves the asset alone. -/
theorem GatedAdvance.of_keeps (h : AssetGated db.nextId db.tables.domain)
    (hw : w ∈ db.tables.domain.productionWorkflows) (hframes : Frames KeepsAssets db db')
    (hbinding : SameBinding w w') (hasset : w'.assetId = w.assetId)
    (hstatus : w'.status = .readyForActionProposal → w' = w) : GatedAdvance w db w' db' := by
  have h' := h.keeps hframes.nextId hframes.domain
  have hw' : w ∈ db'.tables.domain.productionWorkflows := by
    rw [hframes.domain.workflows]
    exact hw
  refine ⟨hframes.nextId, hbinding, hframes.domain.workflows,
    h'.put hw' hbinding.id hbinding.scope (.inl hasset) fun hready => ?_⟩
  have hsame := hstatus hready
  rw [hsame] at hready ⊢
  exact h'.passed w hw' hready

theorem ensures_keepsEnterProductionRunning {previousVersion : Option AssetVersion}
    {reviews : List AssetReview} :
    Ensures (enterProductionRunning now answer w previousVersion reviews) (fun w' db' =>
      w' = { w with status := .productionRunning } ∧ Frames KeepsAssets db db') db := by
  rw [enterProductionRunning]
  refine (within_ensureWriterRun (keepsFrames now) answer w).ensures_bind fun _ db₁ h₁ => ?_
  rw [ensures_bind, ensures_tables]
  refine (framesWithin_createJob (r := KeepsAssets) now _).ensures_bind fun _ db₂ h₂ => ?_
  exact (ensures_pure _).mpr ⟨rfl, h₁.trans h₂⟩

/-! ### Versions -/

/-- A new version, and the asset of its own if the workflow has none yet. -/
structure Drafted (w : ProductionWorkflow) (db : AgentDatabase M ProductionTables)
    (w' : ProductionWorkflow) (db' : AgentDatabase M ProductionTables) : Prop where
  nextId : db.nextId ≤ db'.nextId
  binding : SameBinding w w'
  workflows : db'.tables.domain.productionWorkflows = db.tables.domain.productionWorkflows
  gated : AssetGated db'.nextId db'.tables.domain
  asset : w'.assetId = w.assetId ∨ ∃ assetId, w'.assetId = some assetId ∧ assetId < db'.nextId ∧
    (∀ w₂ ∈ db'.tables.domain.productionWorkflows, w₂.assetId ≠ some assetId) ∧
    ∀ v ∈ db'.tables.domain.assetVersions, v.assetId = assetId → v.scope = w.scope

/-- The asset of the workflow, old or new. -/
theorem ensures_keepsEnsureAsset :
    Ensures (ensureAsset w) (fun made db' => Frames KeepsAssets db db' ∧
      made.2 = { w with assetId := some made.1 } ∧
      (w.assetId = some made.1 ∨
        w.assetId = none ∧ db.nextId ≤ made.1 ∧ made.1 < db'.nextId)) db := by
  rw [ensureAsset, ensures_bind, ensures_tables]
  split
  next assetId hasset =>
    rw [ensures_bind, ensures_check]
    intro _ _
    rw [ensures_pure]
    refine ⟨refl _, ?_, .inl hasset⟩
    rw [← hasset]
  next hnone =>
    rw [ensures_bind, ensures_check]
    intro briefId _
    rw [ensures_bind, ensures_newId, ensures_bind, ensures_modifyTables, ensures_pure]
    exact ⟨⟨Nat.le_succ _, rfl, rfl, rfl, rfl, List.prefix_rfl⟩, rfl,
      .inr ⟨hnone, le_rfl, Nat.lt_succ_self _⟩⟩

theorem drafted_materializeAssetVersion (h : AssetGated db.nextId db.tables.domain)
    (hw : w ∈ db.tables.domain.productionWorkflows) (hstatus : w.status = .productionRunning) :
    Ensures (materializeAssetVersion S answer w) (fun made db' => Drafted w db made.2 db') db := by
  rw [materializeAssetVersion, ensures_bind, ensures_tables]
  dsimp only
  rw [assetVersion_next]
  dsimp only
  rw [ensures_bind, ensures_agentRuns, ensures_bind, ensures_check]
  intro run _
  rw [ensures_bind, ensures_check]
  intro output _
  rw [ensures_bind, ensures_check]
  intro _ _
  rw [ensures_bind]
  refine ensures_keepsEnsureAsset.mono ?_
  rintro ⟨assetId, w₁⟩ db₁ ⟨hframes, hw₁, hasset⟩
  dsimp only at hw₁ hasset ⊢
  subst hw₁
  rw [ensures_bind, ensures_check]
  intro _ _
  rw [ensures_bind, ensures_newId, ensures_bind, ensures_modifyTables, ensures_pure]
  have hversions := hframes.domain.versions
  have hworkflows := hframes.domain.workflows
  have hlt : db₁.nextId < db₁.nextId + 1 := Nat.lt_succ_self _
  have h₁ := h.keeps hframes.nextId hframes.domain
  have hw₁ : w ∈ db₁.tables.domain.productionWorkflows := by
    rw [hworkflows]
    exact hw
  have hnumber : ∀ v ∈ assetVersionsOf w db₁.tables.domain,
      v.versionNumber < nextAssetVersionNumber w db.tables.domain := by
    intro v hv
    rw [assetVersionsOf_congr (w := w) rfl rfl hversions] at hv
    exact Nat.lt_succ_of_le (versionNumber_le_latest hv)
  have hfresh : w.assetId = some assetId ∨ db.nextId ≤ assetId ∧ assetId < db₁.nextId + 1 :=
    hasset.imp_right fun hnew => ⟨hnew.2.1, hnew.2.2.trans hlt⟩
  refine ⟨hframes.nextId.trans hlt.le, ⟨rfl, rfl, rfl, rfl, rfl⟩, hworkflows, ?_, ?_⟩
  · have hmade := fun rights => (h.keeps le_rfl hframes.domain).addVersion rights
      (v := ⟨db₁.nextId, w.scope, assetId, nextAssetVersionNumber w db.tables.domain, output.body,
        output.claimInventory, run.id⟩) hw₁ (by simp [hstatus])
      (hframes.nextId.trans hlt.le) ⟨hframes.nextId, hlt⟩ rfl hfresh hnumber
    exact hmade _
  · rcases hasset with hold | ⟨hnone, hge, hlt'⟩
    · exact .inl hold.symm
    · refine .inr ⟨assetId, rfl, hlt'.trans hlt, fun w₂ hw₂ hasset₂ => ?_, fun v hv hsame => ?_⟩
      · have hw₂' : w₂ ∈ db.tables.domain.productionWorkflows := hworkflows ▸ hw₂
        exact absurd (h.asset_lt w₂ hw₂' assetId hasset₂) hge.not_gt
      · rcases List.mem_append.mp hv with hold | hnew
        · have hold' : v ∈ db.tables.domain.assetVersions := hversions ▸ hold
          exact absurd (hsame ▸ (h.version_lt v hold').2) hge.not_gt
        · rw [List.mem_singleton.mp hnew]

/-! ### Reviews -/

/-- A review of the version is written. -/
def ReviewWritten (v : AssetVersion) (db : AgentDatabase M ProductionTables) (review : AssetReview)
    (db' : AgentDatabase M ProductionTables) : Prop :=
  review.assetVersionId = v.id ∧ db' = { db.applyJobOp 0 .newId with
    tables := { db.tables with domain := { db.tables.domain with
      assetReviews := db.tables.domain.assetReviews ++ [review] } } }

/-- The reviews of the version in a database. -/
def reviewRows (v : AssetVersion) (db : AgentDatabase M ProductionTables) : List AssetReview :=
  db.tables.domain.reviewsOf v.id

theorem ensures_materializeAssetReview (w : ProductionWorkflow) (v : AssetVersion)
    (controllerType : String) (db : AgentDatabase M ProductionTables) :
    Ensures (materializeAssetReview S answer w v controllerType)
      (FindOrMake (reviewRows v) AssetReview.controllerType (ReviewWritten v) controllerType db)
      db := by
  rw [materializeAssetReview, ensures_bind, ensures_tables]
  split
  next existing hfind =>
    rw [ensures_pure]
    have hsame := List.find?_some hfind
    simp only [Bool.and_eq_true, decide_eq_true_eq] at hsame
    refine .found (List.mem_filter.mpr ⟨List.mem_of_find?_eq_some hfind, ?_⟩) hsame.2
    exact decide_eq_true hsame.1
  next hfind =>
    rw [ensures_bind, ensures_agentRuns, ensures_bind, ensures_check]
    intro run _
    rw [ensures_bind, ensures_check]
    intro output _
    rw [ensures_bind, ensures_check]
    intro _ _
    rw [ensures_bind, ensures_check]
    intro _ _
    rw [ensures_bind, ensures_check]
    intro _ _
    rw [ensures_bind, ensures_newId, ensures_bind, ensures_modifyTables, ensures_pure]
    refine .made (fun old hold htype => ?_) rfl ⟨rfl, rfl⟩
    obtain ⟨hmem, hversion⟩ := List.mem_filter.mp hold
    have hne := List.find?_eq_none.mp hfind old hmem
    simp only [Bool.and_eq_true, decide_eq_true_eq, not_and] at hne
    exact hne (of_decide_eq_true hversion) htype

theorem reviewRows_of_written {v : AssetVersion} {review : AssetReview}
    (h : ReviewWritten v db review db') : reviewRows v db' = reviewRows v db ++ [review] := by
  obtain ⟨hversion, rfl⟩ := h
  simp [reviewRows, ProductionTables.reviewsOf, List.filter_append, hversion]

/-- The reviews that a loop has written. -/
theorem written_of_grown {v : AssetVersion} {reviews : List AssetReview}
    (h : Grown (ReviewWritten v) db reviews db') : db.nextId ≤ db'.nextId ∧
      (∀ review ∈ reviews, review.assetVersionId = v.id) ∧
      db'.tables.domain = { db.tables.domain with
        assetReviews := db.tables.domain.assetReviews ++ reviews } := by
  refine h.induct (I := fun rows db' => db.nextId ≤ db'.nextId ∧
    (∀ review ∈ rows, review.assetVersionId = v.id) ∧ db'.tables.domain = { db.tables.domain with
      assetReviews := db.tables.domain.assetReviews ++ rows }) ⟨le_rfl, by simp, by simp⟩ ?_
  rintro rows review db₁ _ ⟨hnext, hmine, hdomain⟩ ⟨hversion, rfl⟩
  refine ⟨hnext.trans (Nat.le_succ _), fun row hrow => ?_, ?_⟩
  · rcases List.mem_append.mp hrow with hold | hnew
    · exact hmine row hold
    · rw [List.mem_singleton.mp hnew]
      exact hversion
  · simp only [hdomain, List.append_assoc]

/-- The reviews of the latest version are there afterwards, and the rest is as it was. -/
theorem gated_materializeAssetReviews (h : AssetGated db.nextId db.tables.domain)
    (hw : w ∈ db.tables.domain.productionWorkflows) (hstatus : w.status ≠ .readyForActionProposal)
    {v : AssetVersion} (hv : v ∈ db.tables.domain.assetVersions)
    (hasset : w.assetId = some v.assetId) :
    Ensures (materializeAssetReviews S answer w v) (fun reviews db' =>
      db.nextId ≤ db'.nextId ∧ AssetGated db'.nextId db'.tables.domain ∧
      db'.tables.domain.productionWorkflows = db.tables.domain.productionWorkflows ∧
      db'.tables.domain.assetVersions = db.tables.domain.assetVersions ∧
      db'.tables.domain.reviewsOf v.id = reviews ∧
      reviews.map AssetReview.controllerType = requiredAssetControllerTypes) db := by
  have hmake : ∀ type db, Ensures (materializeAssetReview S answer w v type)
      (FindOrMake (reviewRows v) AssetReview.controllerType (ReviewWritten v) type db) db :=
    ensures_materializeAssetReview S w v
  have hnodup : requiredAssetControllerTypes.Nodup := by decide
  rcases h.reviewed v hv with hnone | hall
  · refine (Ensures.foldlM_made hmake (fun _ _ _ => reviewRows_of_written) hnodup hnone).mono ?_
    rintro reviews db' ⟨htypes, hrows, hgrown⟩
    obtain ⟨hnext, hmine, hdomain⟩ := written_of_grown hgrown
    refine ⟨hnext, ?_, by rw [hdomain], by rw [hdomain], hrows, htypes⟩
    rw [hdomain]
    exact h.addReviews hw hstatus hv hasset hnext hnone hmine htypes
  · refine (Ensures.foldlM_found hmake hnodup hall).mono ?_
    rintro reviews _ ⟨rfl, rfl⟩
    exact ⟨le_rfl, h, rfl, rfl, rfl, hall⟩

/-! ### One step -/

theorem latestAssetVersion_spec (h : AssetGated db.nextId db.tables.domain)
    (hw : w ∈ db.tables.domain.productionWorkflows) {v : AssetVersion}
    (hlatest : latestAssetVersion w db.tables.domain = .ok v) :
    v ∈ db.tables.domain.assetVersions ∧ w.assetId = some v.assetId ∧
      ∀ v' ∈ db.tables.domain.assetVersions, v'.assetId = v.assetId →
        v'.id = v.id ∨ v'.versionNumber < v.versionNumber := by
  unfold latestAssetVersion at hlatest
  obtain ⟨_, -, hlatest⟩ := Except.bind_eq_ok_iff.mp hlatest
  have hfound := orRaise_eq_ok_iff.mp hlatest
  unfold assetVersion at hfound
  have hnumber : v.versionNumber = latestVersionNumber w db.tables.domain := by
    have hfind := List.find?_some hfound
    exact of_decide_eq_true hfind
  obtain ⟨hv, hmine⟩ := List.mem_filter.mp (List.mem_of_find?_eq_some hfound)
  simp only [Bool.and_eq_true, decide_eq_true_eq] at hmine
  refine ⟨hv, hmine.2, fun v' hv' hsame => ?_⟩
  have hasset : w.assetId = some v'.assetId := hsame ▸ hmine.2
  have hmem : v' ∈ assetVersionsOf w db.tables.domain :=
    List.mem_filter.mpr ⟨hv', by simp [h.tenant w hw v' hv' hasset, hasset]⟩
  rcases (versionNumber_le_latest hmem).lt_or_eq with hlt | heq
  · exact .inr (hnumber ▸ hlt)
  · exact .inl (h.numbers v' hv' v hv hsame (heq.trans hnumber.symm))

/-- The step from the reviews of the latest version on. -/
theorem gatedAdvance_reviews (h : AssetGated db.nextId db.tables.domain)
    (hw : w ∈ db.tables.domain.productionWorkflows)
    (hstatus : w.status = .assetControllersRunning) {v : AssetVersion}
    (hlatest : latestAssetVersion w db.tables.domain = .ok v) :
    Ensures (do
      let reviews ← materializeAssetReviews S answer w v
      let outcome ← DomainTxn.check
        (governedAssetOutcome w v reviews (← DomainTxn.tables))
      match outcome with
      | .block => return { w with status := .blocked }
      | .revise | .passWithConditions =>
          if w.maxRevisionRounds ≤ w.revisionCount then
            return { w with status := .escalated }
          else
            enterProductionRunning now answer { w with revisionCount := w.revisionCount + 1 }
              (some v) reviews
      | .pass =>
          return { w with
            finalAssetVersionId := some v.id
            status := .readyForActionProposal }) (GatedAdvance w db) db := by
  obtain ⟨hv, hasset, hmax⟩ := latestAssetVersion_spec h hw hlatest
  have hready : w.status ≠ .readyForActionProposal := by simp [hstatus]
  rw [ensures_bind]
  refine (gated_materializeAssetReviews S h hw hready hv hasset).mono ?_
  rintro reviews db₁ ⟨hnext, h₁, hworkflows, hversions, hreviews, htypes⟩
  rw [ensures_bind, ensures_tables, ensures_bind, ensures_check]
  intro outcome houtcome
  have hw₁ : w ∈ db₁.tables.domain.productionWorkflows := hworkflows ▸ hw
  -- a stage after the reviews that is not ready yet
  have hgoes : ∀ w' : ProductionWorkflow, ∀ db₂ : AgentDatabase M ProductionTables,
      SameBinding w w' → w'.assetId = w.assetId → w'.status ≠ .readyForActionProposal →
      Frames KeepsAssets db₁ db₂ → GatedAdvance w db w' db₂ := by
    intro w' db₂ hbinding hasset' hstatus' hframes
    have hmoved := GatedAdvance.of_keeps h₁ hw₁ hframes hbinding hasset'
      fun hready => absurd hready hstatus'
    exact ⟨hnext.trans hmoved.nextId, hbinding, hmoved.workflows.trans hworkflows, hmoved.gated⟩
  cases outcome with
  | block =>
      exact (ensures_pure _).mpr (hgoes _ _ ⟨rfl, rfl, rfl, rfl, rfl⟩ rfl (by simp) (refl _))
  | revise | passWithConditions =>
      rw [ensures_ite]
      refine ⟨fun _ => (ensures_pure _).mpr
        (hgoes _ _ ⟨rfl, rfl, rfl, rfl, rfl⟩ rfl (by simp) (refl _)), fun _ => ?_⟩
      refine ensures_keepsEnterProductionRunning.mono ?_
      rintro w' db₂ ⟨rfl, hframes⟩
      exact hgoes _ _ ⟨rfl, rfl, rfl, rfl, rfl⟩ rfl (by simp) hframes
  | pass =>
      refine (ensures_pure _).mpr ⟨hnext, ⟨rfl, rfl, rfl, rfl, rfl⟩, hworkflows, ?_⟩
      refine h₁.put (w := w) hw₁ rfl rfl (.inl rfl) fun _ => ⟨v, hversions ▸ hv, ?_⟩
      obtain ⟨hall, hworth, hmanipulation, hclaims, hrights, hverdict⟩ :=
        governedAssetOutcome_eq_pass_iff.mp houtcome
      exact {
        final := rfl
        asset := hasset
        latest := fun v' hv' => hmax v' (hversions ▸ hv')
        types := hreviews ▸ htypes
        clear := hreviews ▸ reviewVerdict_eq_pass hverdict
        worth := hworth
        manipulation := hmanipulation
        claims := hclaims
        rights := hrights
        outcome := by
          rw [hreviews]
          exact houtcome }

/-- Every advance keeps the invariant. -/
theorem gated_advanceProductionWorkflow (h : AssetGated db.nextId db.tables.domain)
    (hw : w ∈ db.tables.domain.productionWorkflows) :
    Ensures (advanceProductionWorkflow S now answer w) (GatedAdvance w db) db := by
  have hk := keepsFrames (M := M) now
  rw [advanceProductionWorkflow, ensures_bind, ensures_tables, ensures_bind, ensures_check]
  intro _ _
  split
  next =>
    refine (within_ensureContentStrategyRun hk answer w).ensures_bind fun _ db₁ h₁ => ?_
    refine (framesWithin_createJob (r := KeepsAssets) now _).ensures_bind fun _ db₂ h₂ => ?_
    exact (ensures_pure _).mpr
      (.of_keeps h hw (h₁.trans h₂) ⟨rfl, rfl, rfl, rfl, rfl⟩ rfl (by simp))
  next =>
    refine (within_materializeContentStrategy hk S answer w).ensures_bind fun strategy db₁ h₁ => ?_
    refine (within_materializeCreativeBrief hk answer w strategy).ensures_bind
      fun brief db₂ h₂ => ?_
    refine ensures_keepsEnterProductionRunning.mono ?_
    rintro w' db₃ ⟨rfl, h₃⟩
    exact .of_keeps h hw (h₁.trans (h₂.trans h₃)) ⟨rfl, rfl, rfl, rfl, rfl⟩ rfl (by simp)
  next hstatus =>
    rw [ensures_bind]
    refine (drafted_materializeAssetVersion S h hw hstatus).mono ?_
    rintro ⟨version, w₁⟩ db₁ hdrafted
    dsimp only at hdrafted ⊢
    refine (within_ensureAssetControllerRuns hk answer _ version).ensures_bind fun _ db₂ h₂ => ?_
    refine (framesWithin_createJob (r := KeepsAssets) now _).ensures_bind fun _ db₃ h₃ => ?_
    rw [ensures_pure]
    have hkeeps := h₂.trans h₃
    have hgated := hdrafted.gated.keeps hkeeps.nextId hkeeps.domain
    have hworkflows := hkeeps.domain.workflows
    have hw₃ : w ∈ db₃.tables.domain.productionWorkflows := by
      rw [hworkflows, hdrafted.workflows]
      exact hw
    have hb := hdrafted.binding
    refine ⟨hdrafted.nextId.trans hkeeps.nextId,
      ⟨hb.id, hb.scope, hb.decisionId, hb.decisionVersion, hb.decisionApprovalId⟩,
      hworkflows.trans hdrafted.workflows, hgated.put (w := w) hw₃ hb.id hb.scope ?_ (by simp)⟩
    refine hdrafted.asset.imp_right ?_
    rintro ⟨assetId, hasset, hlt, hnobody, hscopes⟩
    refine ⟨assetId, hasset, hlt.trans_le hkeeps.nextId, ?_, ?_⟩
    · rw [hworkflows]
      exact hnobody
    · rw [hkeeps.domain.versions]
      exact hscopes
  next hstatus =>
    rw [ensures_bind, ensures_tables, ensures_bind, ensures_check]
    intro v hlatest
    exact gatedAdvance_reviews S h hw hstatus hlatest
  next =>
    exact (ensures_pure _).mpr (.of_keeps h hw (refl _) (.refl w) rfl fun _ => rfl)

end Advance

/-! ## The handler and the command -/

section Handlers

variable {now : Time} {db db' : AgentDatabase M ProductionTables}

/-- The workflows are the same ones, and what they were started with is as it was. -/
structure SameWorkflows (t t' : ProductionTables) : Prop where
  old : ∀ w' ∈ t'.productionWorkflows, ∃ w ∈ t.productionWorkflows, SameBinding w w'
  kept : ∀ w ∈ t.productionWorkflows, ∃ w' ∈ t'.productionWorkflows, SameBinding w w'

theorem SameWorkflows.of_eq {t t' : ProductionTables}
    (h : t'.productionWorkflows = t.productionWorkflows) : SameWorkflows t t' :=
  ⟨fun w hw => ⟨w, h ▸ hw, .refl w⟩, fun w hw => ⟨w, h.symm ▸ hw, .refl w⟩⟩

/-- What an advance has done: the invariant holds again, for the same workflows. -/
structure GatedStep (db db' : AgentDatabase M ProductionTables) : Prop where
  nextId : db.nextId ≤ db'.nextId
  gated : AssetGated db'.nextId db'.tables.domain
  workflows : SameWorkflows db.tables.domain db'.tables.domain

theorem gated_productionWorkflowAdvanceHandler (S : OutputSchemas M) (answer : ProductionAnswer)
    (context : RuntimeJobContext) (workflowId : Id) (h : AssetGated db.nextId db.tables.domain) :
    Ensures (productionWorkflowAdvanceHandler S now answer context workflowId)
      (fun _ => GatedStep db) db := by
  rw [productionWorkflowAdvanceHandler, ensures_bind, ensures_tables, ensures_bind, ensures_check]
  intro w hfound
  have hw : w ∈ db.tables.domain.productionWorkflows :=
    Table.mem_of_find (orRaise_eq_ok_iff.mp hfound)
  rw [ensures_bind, ensures_check]
  intro _ _
  rw [ensures_bind]
  refine (gated_advanceProductionWorkflow S h hw).mono fun w' db₁ h₁ => ?_
  rw [putWorkflow, ensures_modifyTables]
  refine ⟨h₁.nextId, h₁.gated, fun w₂ hw₂ => ?_, fun w₂ hw₂ => ?_⟩
  · obtain ⟨old, hold, rfl⟩ := Table.mem_modify_iff.mp hw₂
    rw [h₁.workflows] at hold
    split
    next => exact ⟨w, hw, h₁.binding⟩
    next => exact ⟨old, hold, .refl old⟩
  · have hold : w₂ ∈ db₁.tables.domain.productionWorkflows := h₁.workflows ▸ hw₂
    by_cases hid : w₂.id = w'.id
    · refine ⟨w', Table.mem_modify_of_eq hold hid, ?_⟩
      rw [h.workflows.eq_of_key_eq hw₂ hw (hid.trans h₁.binding.id)]
      exact h₁.binding
    · exact ⟨w₂, Table.mem_modify_of_ne hold hid, .refl w₂⟩

/-- A workflow is started for a Decision that is approved in its exact version. -/
inductive WorkflowStarted (scope : TenantScope) (decisionId : Id)
    (db : AgentDatabase M ProductionTables) : AgentDatabase M ProductionTables → Prop
  | existing {db' : AgentDatabase M ProductionTables} (hframes : Frames KeepsAssets db db') :
      WorkflowStarted scope decisionId db db'
  | new {db' : AgentDatabase M ProductionTables} (w : ProductionWorkflow) (decision : Decision)
      (approval : DecisionApproval)
      (hdecision : Table.find Decision.id decisionId db.tables.domain.decisions = some decision)
      (hscope : decision.scope = scope) (heligible : decision.approvedForProduction = true)
      (hfree : superseded scope decision.id db.tables.domain.decisions = false)
      (happroval : approval ∈ db.tables.domain.decisionApprovals)
      (hmatches : approval.matchesDecision decision = true)
      (hw : w.scope = scope ∧ w.decisionId = decision.id ∧ w.decisionVersion = decision.version ∧
        w.decisionApprovalId = approval.id)
      (hnext : db.nextId ≤ db'.nextId)
      (hworkflows : db'.tables.domain.productionWorkflows =
        db.tables.domain.productionWorkflows ++ [w]) : WorkflowStarted scope decisionId db db'

theorem mem_of_newestApproval {scope : TenantScope} {decisionId : Id}
    {approvals : List DecisionApproval} {approval : DecisionApproval}
    (h : newestApproval scope decisionId approvals = some approval) : approval ∈ approvals :=
  (List.mem_filter.mp (List.mem_of_find?_eq_some h)).1

theorem gated_startProductionWorkflow (scope : TenantScope) (decisionId : Id)
    (maxRevisionRounds : ℤ) (h : AssetGated db.nextId db.tables.domain) :
    Ensures (startProductionWorkflow now scope decisionId maxRevisionRounds) (fun _ db' =>
      AssetGated db'.nextId db'.tables.domain ∧ WorkflowStarted scope decisionId db db') db := by
  rw [startProductionWorkflow, ensures_bind, ensures_check]
  intro _ _
  rw [ensures_bind, ensures_tables, ensures_bind, ensures_check]
  intro decision hdecision
  rw [ensures_bind, ensures_check]
  intro _ hscope
  rw [ensures_bind, ensures_check]
  intro _ heligible
  rw [ensures_bind, ensures_check]
  intro snapshotId _
  rw [ensures_bind, ensures_check]
  intro _ hfree
  rw [ensures_bind, ensures_check]
  intro approval happroval
  rw [ensures_bind, ensures_check]
  intro _ hmatches
  split
  next existing _ =>
    rw [ensures_bind, ensures_get, ensures_check]
    exact fun _ _ => ⟨h, .existing (refl _)⟩
  next =>
    rw [ensures_bind, ensures_newId, ensures_bind, ensures_modifyTables]
    refine (framesWithin_createJob (r := KeepsAssets) now _).ensures_bind fun _ db₁ h₁ => ?_
    rw [ensures_pure]
    have hadded := h.addWorkflow (w := ⟨db.nextId, scope, decision.id, decision.version,
      approval.id, snapshotId, .decisionApprovalVerified, 0, maxRevisionRounds.toNat, none, none,
      none⟩) rfl rfl rfl
    refine ⟨hadded.keeps h₁.nextId h₁.domain, ?_⟩
    exact .new _ decision approval (orRaise_eq_ok_iff.mp hdecision)
      (TenantScope.assertMatches_eq_ok_iff.mp hscope).symm (require_eq_ok_iff.mp heligible)
      (require_eq_ok_iff.mp hfree) (mem_of_newestApproval (orRaise_eq_ok_iff.mp happroval))
      (require_eq_ok_iff.mp hmatches) ⟨rfl, rfl, rfl, rfl⟩
      ((Nat.le_succ _).trans h₁.nextId) h₁.domain.workflows

end Handlers

end LaunchOS
