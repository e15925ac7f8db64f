import LaunchOS.AiRuntime.ContextBuilder

/-!
# The order and the limits of a context

A context does not depend on the order of the references it is asked for. Its budget bounds the number
of its items, and the content of an item where its constructor cuts it.

The module introduces:

* `build_perm`: the references in any order;
* `Row.uncutText`: the texts that no constructor cuts;
* `within_budget_iff`: when the contents keep to the budget.
-/

namespace LaunchOS.ContextBuilder

open Sorting

variable {instant : Text → ℤ} {H : StableHash} {builder : Builder} {budget : ContextBudget}
variable {T : Tables} {scope : TenantScope} {contract : Contract}

/-! ## The order of the references -/

theorem referenceKey_injective : Function.Injective referenceKey := by
  intro a b h
  have hpair := congrArg ofLex h
  simp only [referenceKey, ofLex_toLex, Prod.mk.injEq] at hpair
  cases a
  cases b
  simpa using hpair

/-- The references in another order give the same bundle, or the same error. -/
theorem build_perm {requestedRefs references : List ContextReference}
    (h : requestedRefs.Perm references) :
    build instant H builder budget T scope contract requestedRefs =
      build instant H builder budget T scope contract references := by
  have hsorted : sortByKey referenceKey requestedRefs = sortByKey referenceKey references :=
    sortByKey_eq_of_perm (fun _ _ _ _ hkey => referenceKey_injective hkey) h
  have hempty : requestedRefs.isEmpty = references.isEmpty := by
    rw [Bool.eq_iff_iff, List.isEmpty_iff, List.isEmpty_iff]
    constructor
    · rintro rfl
      exact h.symm.eq_nil
    · rintro rfl
      exact h.eq_nil
  rw [build, build, hsorted, hempty]

/-! ## The length of the contents -/

theorem length_upTo_le (stop : ℕ) (text : Text) : (upTo stop text).length ≤ stop := by
  rw [upTo, if_pos (Int.natCast_nonneg stop), Int.toNat_natCast]
  exact List.length_take_le stop text

theorem length_truncate_le {maxChars : ℕ} (hchars : 3 ≤ maxChars) (text : Text) :
    (truncate text maxChars).length ≤ maxChars := by
  unfold truncate
  split
  next hshort => exact hshort
  next =>
    have hstop : (maxChars : ℤ) - 3 = ((maxChars - 3 : ℕ) : ℤ) := by omega
    have hcut := length_upTo_le (maxChars - 3) text
    rw [hstop, List.length_append]
    show _ + 3 ≤ maxChars
    omega

/-- The text of a row that its constructor takes as it is. -/
def Row.uncutText : Row → Option Text
  | .business row => some row.content
  | .goal row => some row.content
  | .constraint row => some row.content
  | _ => none

/-- The other rows of the base builder are cut to the budget. -/
theorem Row.length_content_le {row : Row} (htype : row.objectType ∈ baseTypes)
    {maxChars : ℕ} (hchars : 3 ≤ maxChars) :
    row.uncutText = some (row.content maxChars) ∨ (row.content maxChars).length ≤ maxChars := by
  cases row with
  | business row | goal row | constraint row => exact .inl rfl
  | evidence row => exact .inr (length_truncate_le hchars row.statement)
  | payload row =>
      cases row with
      | contentStrategy row =>
          -- a type of production
          exact absurd htype (by simp [Row.objectType, baseTypes])
      | sourceRecord row | snapshot row | specialistContribution row | decisionCandidate row
      | controllerReview row => exact .inr (length_truncate_le hchars _)
  | decision row | creativeBrief row | assetVersion row | assetReview row | assetRights row =>
      exact absurd htype (by simp [Row.objectType, baseTypes])

theorem Row.eq_of_uncutText {row : Row} {text : Text} (h : row.uncutText = some text)
    (maxChars : ℕ) : row.content maxChars = text := by
  cases row <;> simp only [Row.uncutText, Option.some.injEq, reduceCtorEq] at h
  all_goals exact h

/-- The number of selected rows that come before a row. -/
def rowsBefore (rows : List ContextRow) (row : ContextRow) : ℕ :=
  rows.countP fun other => other.position < row.position

/-- A bundle of the base builder keeps to its budget if and only if every text that is too long, and
that no constructor cuts, belongs to a row which the other rows push out of the bundle. -/
theorem within_budget_iff (hchars : 3 ≤ budget.maxContentChars)
    {requestedRefs : List ContextReference} {bundle : ContextBundle}
    (h : build instant H .base budget T scope contract requestedRefs = .ok bundle) :
    (bundle.items.length ≤ budget.maxItems ∧
      ∀ item ∈ bundle.items, item.content.length ≤ budget.maxContentChars) ↔
    ∀ row ∈ selectedRows instant budget T scope contract requestedRefs,
      ∀ text ∈ row.row.uncutText, budget.maxContentChars < text.length →
        budget.maxItems ≤
          rowsBefore (selectedRows instant budget T scope contract requestedRefs) row := by
  have hbuilt := build_eq_ok h
  have hlength : bundle.items.length ≤ budget.maxItems := by
    rw [hbuilt.items]
    exact List.length_take_le ..
  constructor
  · rintro ⟨-, hcontents⟩ row hrow text htext hlong
    -- a row that is not pushed out shows its whole text
    by_contra hbefore
    have hmem : row.itemOf scope budget ∈ bundle.items :=
      hbuilt.mem_items_iff.mpr ⟨row, hrow, rfl, not_le.mp hbefore⟩
    have hcontent := hcontents _ hmem
    rw [(row.shows_itemOf scope budget).content, Row.eq_of_uncutText htext] at hcontent
    omega
  · refine fun hrows => ⟨hlength, fun item hitem => ?_⟩
    obtain ⟨row, hrow, rfl, hbefore⟩ := hbuilt.mem_items_iff.mp hitem
    rw [(row.shows_itemOf scope budget).content]
    rcases Row.length_content_le (hbuilt.rows row hrow).2.2 hchars with huncut | hcut
    · by_contra hlong
      exact absurd (hrows row hrow _ huncut (not_le.mp hlong)) (not_le.mpr hbefore)
    · exact hcut

/-! ### The context of a probe -/

/-- A business with a goal. -/
def probeTables (target : Text) : Tables where
  rows := [
    ⟨demoTenant, .business ⟨"business".toList, "Studio".toList, "UTC".toList, 1,
      "2024-01-01T00:00:00+00:00".toList, "2024-01-01T00:00:00+00:00".toList⟩⟩,
    ⟨demoTenant, .goal ⟨"goal".toList, "Grow".toList, target, none,
      "2024-01-02T00:00:00+00:00".toList, "2024-01-02T00:00:00+00:00".toList⟩⟩]
  ids := show [("business", "business".toList), ("goal", "goal".toList)].Nodup by decide
  businesses := by
    rintro row hrow htype
    simp only [List.mem_cons, List.not_mem_nil, or_false] at hrow
    rcases hrow with rfl | rfl
    · decide
    · exact absurd htype (by simp [Row.objectType])

/-- The contract of `runtime_probe_contract`. -/
def probeContract : Contract where
  allowedContextTypes := ["business", "goal", "constraint", "source_record", "evidence"]
  requiredContextTypes := ["business"]
  contractKey := "ai.runtime_probe".toList

theorem probe_refs_in_any_order :
    build (fun _ => 0) demoHash .base {} (probeTables "ten places".toList) demoTenant probeContract
        [⟨"business", "business"⟩, ⟨"goal", "goal"⟩] =
      build (fun _ => 0) demoHash .base {} (probeTables "ten places".toList) demoTenant probeContract
        [⟨"goal", "goal"⟩, ⟨"business", "business"⟩] :=
  build_perm (List.Perm.swap _ _ [])

/-- What the base builder makes of it, within the default budget and with nothing requested. -/
def probeContext (target : Text) : Except JobError ContextBundle :=
  build (fun _ => 0) demoHash .base {} (probeTables target) demoTenant probeContract []

theorem exists_ok_of_any {context : Except JobError ContextBundle} {test : ContextBundle → Bool}
    (h : context.toOption.any test = true) :
    ∃ bundle, context = .ok bundle ∧ test bundle = true := by
  cases context with
  | error error => cases h
  | ok bundle => exact ⟨bundle, rfl, h⟩

/-- A goal with a target of 600 characters does not keep to the default budget. -/
theorem long_goal_exceeds_budget : ∃ bundle,
    probeContext (List.replicate 600 'a') = .ok bundle ∧
    ∃ item ∈ bundle.items, 600 < item.content.length := by
  have hrun : (probeContext (List.replicate 600 'a')).toOption.any (fun bundle =>
      bundle.items.any fun item => decide (600 < item.content.length)) = true := by
    decide +kernel
  obtain ⟨bundle, hbuild, hlong⟩ := exists_ok_of_any hrun
  obtain ⟨item, hitem, hlong⟩ := List.any_eq_true.mp hlong
  exact ⟨bundle, hbuild, item, hitem, of_decide_eq_true hlong⟩

/-- A short one does. -/
theorem short_goal_within_budget : ∃ bundle, probeContext "ten places".toList = .ok bundle ∧
    ((bundle.items.length ≤ 20 ∧ ∀ item ∈ bundle.items, item.content.length ≤ 600) ↔
      ∀ row ∈ selectedRows (fun _ => 0) {} (probeTables "ten places".toList) demoTenant
          probeContract [],
        ∀ text ∈ row.row.uncutText, 600 < text.length →
          20 ≤ rowsBefore (selectedRows (fun _ => 0) {} (probeTables "ten places".toList) demoTenant
            probeContract []) row) := by
  have hrun : (probeContext "ten places".toList).toOption.any (fun _ => true) = true := by
    decide +kernel
  obtain ⟨bundle, hbuild, -⟩ := exists_ok_of_any hrun
  exact ⟨bundle, hbuild, within_budget_iff (by decide) hbuild⟩

end LaunchOS.ContextBuilder
