import LaunchOS.AiRuntime.ContextLimits

/-!
# Contexts and tenants

A context shows rows of one tenant. Two databases that agree on these rows give the same context,
whatever else they hold.

The module introduces:

* `Tables.Agree`: two databases with the same rows of a tenant;
* `lookedUp`: the references that a call of the builder looks up by their ids;
* `build_congr`: what the builder reads of a database;
* `build_isolated`: the context of a tenant does not depend on the others.
-/

namespace LaunchOS.ContextBuilder

open Sorting Txn

variable {instant : Text → ℤ} {H : StableHash} {builder : Builder} {budget : ContextBudget}
variable {T T' : Tables} {scope : TenantScope} {contract : Contract}

/-- The rows of the tenant are the same. -/
def Tables.Agree (scope : TenantScope) (T T' : Tables) : Prop :=
  ∀ row, row.scope = scope → (row ∈ T.rows ↔ row ∈ T'.rows)

theorem Tables.Agree.symm (h : Tables.Agree scope T T') : Tables.Agree scope T' T :=
  fun row hscope => (h row hscope).symm

theorem Tables.nodup (T : Tables) : T.rows.Nodup := List.Nodup.of_map _ T.ids

/-! ## What the builder reads -/

/-- A default query reads the rows of the tenant. -/
theorem defaultRows_congr (h : Tables.Agree scope T T') (objectType : String) :
    defaultRows instant budget T scope objectType =
      defaultRows instant budget T' scope objectType := by
  have hperm : (T.rows.filter fun row => row.row.objectType = objectType ∧ row.scope = scope).Perm
      (T'.rows.filter fun row => row.row.objectType = objectType ∧ row.scope = scope) := by
    refine (List.perm_ext_iff_of_nodup (T.nodup.filter _) (T'.nodup.filter _)).mpr fun row => ?_
    simp only [List.mem_filter, decide_eq_true_eq]
    refine and_congr_left fun hrow => ?_
    exact h row hrow.2
  unfold defaultRows
  rw [sortByKey_eq_of_perm ?_ hperm]
  -- the ids tell the rows of one table apart
  intro row hrow other hother hkey
  simp only [List.mem_filter, decide_eq_true_eq] at hrow hother
  have hpair := congrArg ofLex hkey
  simp only [ofLex_toLex, Prod.mk.injEq] at hpair
  refine T.ids.eq_of_key_eq hrow.1 hother.1 ?_
  exact Prod.ext (hrow.2.1.trans hother.2.1.symm) hpair.2

theorem loadReference_congr {reference : ContextReference}
    (h : T.get reference = T'.get reference) :
    loadReference builder budget T scope reference =
      loadReference builder budget T' scope reference := by
  rw [loadReference, loadReference, h]

theorem loadReferences_congr {references : List ContextReference}
    (h : ∀ reference ∈ references, T.get reference = T'.get reference) :
    loadReferences builder budget T scope contract references =
      loadReferences builder budget T' scope contract references := by
  induction references with
  | nil => rfl
  | cons reference references ih =>
      obtain ⟨hfirst, hrest⟩ := List.forall_mem_cons.mp h
      rw [loadReferences, loadReferences, loadReference_congr hfirst, ih hrest]

/-- The references that are looked up by their ids, whatever their tenant. -/
def lookedUp (scope : TenantScope) (contract : Contract) (requestedRefs : List ContextReference) :
    List ContextReference :=
  if requestedRefs.isEmpty then
    if "business" ∈ contract.allowedContextTypes then [⟨"business", scope.businessId⟩] else []
  else requestedRefs

/-- The builder reads the rows of the tenant, and the rows it looks up. -/
theorem build_congr (h : Tables.Agree scope T T') {requestedRefs : List ContextReference}
    (hget : ∀ reference ∈ lookedUp scope contract requestedRefs,
      T.get reference = T'.get reference) :
    build instant H builder budget T scope contract requestedRefs =
      build instant H builder budget T' scope contract requestedRefs := by
  unfold build
  by_cases hrefs : requestedRefs.isEmpty = true
  · have hcollect : collectDefaultItems instant builder budget T scope
        contract.allowedContextTypes =
          collectDefaultItems instant builder budget T' scope contract.allowedContextTypes := by
      unfold collectDefaultItems collect
      simp only [defaultRows_congr h]
      by_cases hallowed : "business" ∈ contract.allowedContextTypes
      · have hbusiness : T.get ⟨"business", scope.businessId⟩ =
            T'.get ⟨"business", scope.businessId⟩ := by
          apply hget
          rw [lookedUp, if_pos hrefs, if_pos hallowed]
          exact List.mem_singleton_self _
        rw [loadReference_congr hbusiness]
      · rw [if_neg hallowed, if_neg hallowed]
    rw [if_pos hrefs, if_pos hrefs, hcollect]
  · have hload : loadReferences builder budget T scope contract
        (sortByKey referenceKey requestedRefs) =
          loadReferences builder budget T' scope contract
            (sortByKey referenceKey requestedRefs) := by
      apply loadReferences_congr
      intro reference hreference
      apply hget
      rw [lookedUp, if_neg hrefs]
      exact mem_sortByKey.mp hreference
    rw [if_neg hrefs, if_neg hrefs, hload]

/-! ## Isolation -/

/-- What a context that is built looks up belongs to the tenant. -/
theorem Built.scope_of_get {requestedRefs : List ContextReference} {bundle : ContextBundle}
    (h : Built H instant builder budget T scope contract requestedRefs bundle)
    {reference : ContextReference} (hlooked : reference ∈ lookedUp scope contract requestedRefs)
    {row : ContextRow} (hget : T.get reference = some row) : row.scope = scope := by
  refine (h.rows row ?_).2.1
  unfold lookedUp at hlooked
  unfold selectedRows
  split at hlooked
  next hrefs =>
    rw [if_pos hrefs]
    split at hlooked
    next hallowed =>
      rw [List.mem_singleton] at hlooked
      rw [if_pos hallowed, ← hlooked, hget]
      exact List.mem_cons_self
    next => cases hlooked
  next hrefs =>
    rw [if_neg hrefs]
    exact List.mem_filterMap.mpr ⟨reference, mem_sortByKey.mpr hlooked, hget⟩

/-- A row of the tenant that is found in one database is found in the other. -/
theorem Tables.Agree.get_eq_some (h : Tables.Agree scope T T') {reference : ContextReference}
    {row : ContextRow} (hscope : row.scope = scope) (hget : T.get reference = some row) :
    T'.get reference = some row := by
  obtain ⟨hmem, hkey⟩ := Tables.get_eq_some_iff.mp hget
  exact Tables.get_eq_some_iff.mpr ⟨(h row hscope).mp hmem, hkey⟩

/-- Every item of a context comes from a row of the tenant. Two databases with the same rows of the
tenant give the same bundle if both give one; and they give the same result, be it a bundle or an
error, if they agree on the rows of other tenants that are looked up by their ids. -/
theorem build_isolated (instant : Text → ℤ) (H : StableHash) (builder : Builder)
    (budget : ContextBudget) (T : Tables) (scope : TenantScope) (contract : Contract)
    (requestedRefs : List ContextReference) :
    (∀ bundle, build instant H builder budget T scope contract requestedRefs = .ok bundle →
      ∀ item ∈ bundle.items, item.organizationId = scope.organizationId.toList ∧
        item.businessId = scope.businessId.toList ∧
        ∃ row ∈ T.rows, row.scope = scope ∧ item = row.itemOf scope budget) ∧
    ∀ T', Tables.Agree scope T T' →
      (∀ bundle bundle', build instant H builder budget T scope contract requestedRefs = .ok bundle →
        build instant H builder budget T' scope contract requestedRefs = .ok bundle' →
          bundle = bundle') ∧
      ((∀ reference ∈ lookedUp scope contract requestedRefs,
          T.get reference = T'.get reference) →
        build instant H builder budget T scope contract requestedRefs =
          build instant H builder budget T' scope contract requestedRefs) := by
  refine ⟨fun bundle hbuild item hitem => ?_, fun T' hagree => ⟨?_, build_congr hagree⟩⟩
  · have hbuilt := build_eq_ok hbuild
    obtain ⟨row, hrow, rfl, -⟩ := hbuilt.mem_items_iff.mp hitem
    have hshows := row.shows_itemOf scope budget
    obtain ⟨hmem, hscope, -⟩ := hbuilt.rows row hrow
    exact ⟨hshows.organizationId, hshows.businessId, row, hmem, hscope, rfl⟩
  · intro bundle bundle' hbuild hbuild'
    have hget : ∀ reference ∈ lookedUp scope contract requestedRefs,
        T.get reference = T'.get reference := by
      intro reference hlooked
      refine Option.ext fun row => ?_
      constructor
      · intro hrow
        exact hagree.get_eq_some ((build_eq_ok hbuild).scope_of_get hlooked hrow) hrow
      · intro hrow
        exact hagree.symm.get_eq_some ((build_eq_ok hbuild').scope_of_get hlooked hrow) hrow
    rw [build_congr hagree hget, hbuild'] at hbuild
    exact (Except.ok.inj hbuild).symm

/-! ### A second tenant -/

/-- The tables of the probe, with a goal of another tenant. -/
def sharedTables : Tables where
  rows :=
    ⟨⟨"organization", "competitor"⟩, .goal ⟨"goal-2".toList, "Grow".toList, "twenty places".toList,
      none, "2024-01-01T00:00:00+00:00".toList, "2024-01-01T00:00:00+00:00".toList⟩⟩ ::
      (probeTables "ten places".toList).rows
  ids := show [("goal", "goal-2".toList), ("business", "business".toList),
    ("goal", "goal".toList)].Nodup by decide
  businesses := by
    rintro row hrow htype
    rcases List.mem_cons.mp hrow with rfl | hrow
    · exact absurd htype (by simp [Row.objectType])
    · exact (probeTables "ten places".toList).businesses row hrow htype

theorem other_goal_not_shown :
    build (fun _ => 0) demoHash .base {} (probeTables "ten places".toList) demoTenant probeContract
        [] =
      build (fun _ => 0) demoHash .base {} sharedTables demoTenant probeContract [] := by
  have hagree : Tables.Agree demoTenant (probeTables "ten places".toList) sharedTables := by
    intro row hscope
    show _ ↔ row ∈ _ :: _
    rw [List.mem_cons]
    refine ⟨.inr, fun h => h.resolve_left ?_⟩
    rintro rfl
    exact absurd hscope (by decide)
  refine ((build_isolated (fun _ => 0) demoHash .base {} _ demoTenant probeContract []).2 _
    hagree).2 fun reference hlooked => ?_
  obtain rfl : reference = ⟨"business", "business"⟩ := List.mem_singleton.mp hlooked
  rfl

end LaunchOS.ContextBuilder
