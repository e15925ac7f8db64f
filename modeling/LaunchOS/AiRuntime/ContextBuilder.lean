import Mathlib.Data.String.Basic
import LaunchOS.AiRuntime.ContextItems
import LaunchOS.Lib.SortByKey

/-!
# The context builder

`ContextBuilder` of `ai_runtime/context.py` and `ProductionContextBuilder` of `production/context.py`:
the rows of the database that an agent run is shown.

The module introduces:

* `ContextRow`, `Tables`: the rows with their tenants, and the database;
* `loadReferences`, `collectDefaultItems`, `build`: the builder;
* `selectedRows`: the rows that a call of the builder is about;
* `build_eq_ok`: what is built is made of these rows.
-/

namespace LaunchOS

/-- The types of an `AgentContract`. -/
structure ContextContract where
  allowedContextTypes : List String
  requiredContextTypes : List String

/-- `AIContextError`, a `PermanentJobError`. -/
def JobError.aiContextError (message : String) : JobError :=
  ⟨.permanent, "AIContextError", message⟩

namespace ContextBuilder

open Sorting Txn

/-! ## Tables -/

/-- A row with its tenant. The tenant of a business is its own id with its organization. -/
structure ContextRow where
  scope : TenantScope
  row : Row

/-- The table of a row, and its primary key. -/
def ContextRow.key (row : ContextRow) : String × Text := (row.row.objectType, row.row.id)

/-- The tables that contexts are built from. -/
structure Tables where
  rows : List ContextRow
  ids : Table.KeysNodup ContextRow.key rows
  businesses : ∀ row ∈ rows, row.row.objectType = "business" → row.row.id = row.scope.businessId.toList

/-! ## The builder -/

/-- `ContextBuilder`, or `ProductionContextBuilder`. -/
inductive Builder
  | base
  | production
deriving DecidableEq, Repr

/-- The types that `ContextBuilder._load_reference` knows. -/
def baseTypes : List String :=
  ["business", "goal", "constraint", "source_record", "evidence", "business_snapshot",
    "specialist_contribution", "decision_candidate", "controller_review"]

/-- The types that `_load_reference` knows. -/
def Builder.types : Builder → List String
  | .base => baseTypes
  | .production => ["decision", "content_strategy", "creative_brief", "asset_version", "asset_review",
      "asset_rights_provenance"] ++ baseTypes

/-- `ContextBudget` -/
structure ContextBudget where
  maxItems : ℕ := 20
  maxContentChars : ℕ := 600

/-- What `build` reads of an `AgentContract`. -/
structure Contract extends ContextContract where
  contractKey : Text

/-- `ContextBundle` -/
structure ContextBundle where
  items : List Item
  manifest : Json
  contextHash : Text
  structuredContext : Text

/-- `session.get` -/
def Tables.get (T : Tables) (reference : ContextReference) : Option ContextRow :=
  Table.find ContextRow.key (reference.objectType, reference.objectId.toList) T.rows

/-- `_load_reference` -/
def loadReference (builder : Builder) (budget : ContextBudget) (T : Tables) (scope : TenantScope)
    (reference : ContextReference) : Except JobError (Option Item) := do
  require (reference.objectType ∈ builder.types)
    (.aiContextError ("unsupported context type: " ++ reference.objectType))
  match T.get reference with
  | none => return none
  | some row =>
      scope.assertMatches row.scope
      let item ← row.row.item scope budget.maxContentChars
      return some item

/-- The items of the requested references, in turn. -/
def loadReferences (builder : Builder) (budget : ContextBudget) (T : Tables) (scope : TenantScope)
    (contract : Contract) : List ContextReference → Except JobError (List Item)
  | [] => .ok []
  | reference :: references => do
      require (reference.objectType ∈ contract.allowedContextTypes)
        (.aiContextError ("context type not allowed for agent: " ++ reference.objectType))
      let item ← loadReference builder budget T scope reference
      let items ← loadReferences builder budget T scope contract references
      return item.toList ++ items

/-- The items of rows, in turn. -/
def itemsOf (budget : ContextBudget) (scope : TenantScope) :
    List ContextRow → Except JobError (List Item)
  | [] => .ok []
  | row :: rows => do
      let item ← row.row.item scope budget.maxContentChars
      let items ← itemsOf budget scope rows
      return item :: items

section Default

-- the instants that the texts of the times stand for
variable (instant : Text → ℤ)

/-- The rows of a tenant in one table: the first `max_items` in the order of their times. -/
def defaultRows (budget : ContextBudget) (T : Tables) (scope : TenantScope) (objectType : String) :
    List ContextRow :=
  (sortByKey (fun row : ContextRow => toLex (instant row.row.orderedBy, row.row.id))
    (T.rows.filter fun row => row.row.objectType = objectType ∧ row.scope = scope)).take
      budget.maxItems

/-- The part of `_collect_default_items` for one type. -/
def collect (budget : ContextBudget) (T : Tables) (scope : TenantScope) (allowed : List String)
    (objectType : String) : Except JobError (List Item) :=
  if objectType ∈ allowed then itemsOf budget scope (defaultRows instant budget T scope objectType)
  else .ok []

/-- `_collect_default_items` -/
def collectDefaultItems (builder : Builder) (budget : ContextBudget) (T : Tables)
    (scope : TenantScope) (allowed : List String) : Except JobError (List Item) := do
  let business ← (if "business" ∈ allowed then
      loadReference builder budget T scope ⟨"business", scope.businessId⟩
    else .ok none)
  let goals ← collect instant budget T scope allowed "goal"
  let constraints ← collect instant budget T scope allowed "constraint"
  let sourceRecords ← collect instant budget T scope allowed "source_record"
  let evidence ← collect instant budget T scope allowed "evidence"
  return business.toList ++ goals ++ constraints ++ sourceRecords ++ evidence

/-- The order of `requested_refs`. -/
def referenceKey (reference : ContextReference) : String ×ₗ String :=
  toLex (reference.objectType, reference.objectId)

/-- The order of the items. -/
def Item.key (item : Item) : Text ×ₗ Text ×ₗ Text :=
  toLex (item.sourceObjectType, toLex (item.occurredAt.getD [], item.sourceObjectId))

/-- `set(contract.required_context_types) - present_types`, sorted. -/
def missingTypes (contract : Contract) (items : List Item) : List String :=
  sortByKey (fun type => type) ((contract.requiredContextTypes.filter fun type =>
    !items.any fun item => item.sourceObjectType = type.toList).dedup)

/-- `ContextBuilder.build` -/
def build (H : StableHash) (builder : Builder) (budget : ContextBudget) (T : Tables)
    (scope : TenantScope) (contract : Contract) (requestedRefs : List ContextReference) :
    Except JobError ContextBundle := do
  let items ← (if requestedRefs.isEmpty then
      collectDefaultItems instant builder budget T scope contract.allowedContextTypes
    else
      loadReferences builder budget T scope contract (sortByKey referenceKey requestedRefs))
  let limited := (sortByKey Item.key items).take budget.maxItems
  let missing := missingTypes contract limited
  require (missing = [])
    (.aiContextError ("required context missing: " ++ String.intercalate ", " missing))
  assertContext H contract.contractKey limited
  let payload := contextPayload contract.contractKey limited
  return {
    items := limited
    manifest := manifest H contract.contractKey limited
    contextHash := H.digest payload
    structuredContext := payload.sortKeys.dumps .compact }

end Default

namespace ContextRow

/-- The item of a row of the tenant. -/
def itemOf (scope : TenantScope) (budget : ContextBudget) (row : ContextRow) : Item :=
  row.row.itemWith scope (row.row.content budget.maxContentChars)

/-- Where the item of a row stands among the others. -/
def position (row : ContextRow) : Text ×ₗ Text ×ₗ Text :=
  toLex (row.row.objectType.toList, toLex (row.row.occurredAt.getD [], row.row.id))

variable (scope : TenantScope) (budget : ContextBudget) (row : ContextRow)

theorem shows_itemOf : (row.itemOf scope budget).Shows scope row.row
    (row.row.content budget.maxContentChars) :=
  row.row.shows_itemWith scope _

theorem key_itemOf : (row.itemOf scope budget).key = row.position := by
  have h := row.shows_itemOf scope budget
  simp only [Item.key, position, h.sourceObjectType, h.occurredAt, h.sourceObjectId]

variable {row}

theorem key_eq_of_position_eq {other : ContextRow} (h : row.position = other.position) :
    row.key = other.key := by
  have hpair := congrArg ofLex h
  simp only [position, ofLex_toLex, Prod.mk.injEq, toLex_inj] at hpair
  exact Prod.ext (String.toList_inj.mp hpair.1) hpair.2.2

end ContextRow

namespace Tables

variable {T : Tables} {reference : ContextReference} {row : ContextRow}

theorem get_eq_some_iff : T.get reference = some row ↔
    row ∈ T.rows ∧ row.key = (reference.objectType, reference.objectId.toList) :=
  T.ids.find_eq_some_iff

/-- The rows of the tables have positions of their own. -/
theorem keyInjective {rows : List ContextRow} (h : ∀ row ∈ rows, row ∈ T.rows) :
    KeyInjective ContextRow.position rows :=
  fun _ hrow _ hother hposition =>
    T.ids.eq_of_key_eq (h _ hrow) (h _ hother) (ContextRow.key_eq_of_position_eq hposition)

/-- The same for their items. -/
theorem keyInjective_items {rows : List ContextRow} (h : ∀ row ∈ rows, row ∈ T.rows)
    (scope : TenantScope) (budget : ContextBudget) :
    KeyInjective Item.key (rows.map (ContextRow.itemOf scope budget)) := by
  intro a ha b hb hkey
  obtain ⟨row, hrow, rfl⟩ := List.mem_map.mp ha
  obtain ⟨other, hother, rfl⟩ := List.mem_map.mp hb
  rw [ContextRow.key_itemOf, ContextRow.key_itemOf] at hkey
  rw [keyInjective h row hrow other hother hkey]

end Tables

/-! ## What is built -/

section Built

variable {builder : Builder} {budget : ContextBudget} {T : Tables} {scope : TenantScope}
variable {contract : Contract}

/-- A row is loaded for the reference, if there is one, and it is a row of the tenant. -/
theorem loadReference_eq_ok {reference : ContextReference} {loaded : Option Item}
    (h : loadReference builder budget T scope reference = .ok loaded) :
    reference.objectType ∈ builder.types ∧
      loaded = (T.get reference).map (ContextRow.itemOf scope budget) ∧
      ∀ row ∈ T.get reference, row.scope = scope := by
  obtain ⟨_, htype, h⟩ := Except.bind_eq_ok_iff.mp h
  refine ⟨require_eq_ok_iff.mp htype, ?_⟩
  cases hget : T.get reference with
  | none =>
      rw [hget] at h
      rw [← Except.pure_eq_ok_iff.mp h]
      exact ⟨rfl, by simp⟩
  | some row =>
      rw [hget] at h
      obtain ⟨_, hscope, h⟩ := Except.bind_eq_ok_iff.mp h
      obtain ⟨item, hitem, h⟩ := Except.bind_eq_ok_iff.mp h
      rw [← Except.pure_eq_ok_iff.mp h, Row.eq_of_item hitem]
      refine ⟨rfl, ?_⟩
      rintro _ ⟨⟩
      exact (TenantScope.assertMatches_eq_ok_iff.mp hscope).symm

theorem loadReferences_eq_ok {references : List ContextReference} {items : List Item}
    (h : loadReferences builder budget T scope contract references = .ok items) :
    items = (references.filterMap T.get).map (ContextRow.itemOf scope budget) ∧
      ∀ reference ∈ references, reference.objectType ∈ builder.types ∧
        ∀ row ∈ T.get reference, row.scope = scope := by
  induction references generalizing items with
  | nil =>
      cases h
      simp
  | cons reference references ih =>
      obtain ⟨_, -, h⟩ := Except.bind_eq_ok_iff.mp h
      obtain ⟨loaded, hloaded, h⟩ := Except.bind_eq_ok_iff.mp h
      obtain ⟨rest, hrest, h⟩ := Except.bind_eq_ok_iff.mp h
      obtain ⟨htype, hitem, hscope⟩ := loadReference_eq_ok hloaded
      obtain ⟨hitems, hall⟩ := ih hrest
      refine ⟨?_, List.forall_mem_cons.mpr ⟨⟨htype, hscope⟩, hall⟩⟩
      rw [← Except.pure_eq_ok_iff.mp h, hitem, hitems]
      cases hget : T.get reference <;> simp [hget]

theorem itemsOf_eq_ok {rows : List ContextRow} {items : List Item}
    (h : itemsOf budget scope rows = .ok items) :
    items = rows.map (ContextRow.itemOf scope budget) := by
  induction rows generalizing items with
  | nil =>
      cases h
      rfl
  | cons row rows ih =>
      obtain ⟨item, hitem, h⟩ := Except.bind_eq_ok_iff.mp h
      obtain ⟨rest, hrest, h⟩ := Except.bind_eq_ok_iff.mp h
      rw [← Except.pure_eq_ok_iff.mp h, Row.eq_of_item hitem, ih hrest]
      rfl

section Selected

variable (instant : Text → ℤ) (budget : ContextBudget) (T : Tables) (scope : TenantScope)

/-- The types of the default queries. -/
def defaultTypes : List String := ["goal", "constraint", "source_record", "evidence"]

/-- The rows of the default queries of the types that are allowed. -/
def queriedRows (allowed : List String) : List ContextRow :=
  defaultTypes.flatMap fun objectType =>
    if objectType ∈ allowed then defaultRows instant budget T scope objectType else []

/-- The rows that a call of `build` is about. -/
def selectedRows (contract : Contract) (requestedRefs : List ContextReference) :
    List ContextRow :=
  if requestedRefs.isEmpty then
    (if "business" ∈ contract.allowedContextTypes then T.get ⟨"business", scope.businessId⟩
      else none).toList ++ queriedRows instant budget T scope contract.allowedContextTypes
  else (sortByKey referenceKey requestedRefs).filterMap T.get

end Selected

variable {instant : Text → ℤ}

theorem mem_defaultRows {row : ContextRow} {objectType : String}
    (h : row ∈ defaultRows instant budget T scope objectType) :
    row ∈ T.rows ∧ row.row.objectType = objectType ∧ row.scope = scope := by
  have h := mem_sortByKey.mp (List.mem_of_mem_take h)
  simpa using h

theorem collect_eq_ok {allowed : List String} {objectType : String} {items : List Item}
    (h : collect instant budget T scope allowed objectType = .ok items) :
    items = (if objectType ∈ allowed then defaultRows instant budget T scope objectType
      else []).map (ContextRow.itemOf scope budget) := by
  unfold collect at h
  by_cases hallowed : objectType ∈ allowed
  · rw [if_pos hallowed] at h ⊢
    exact itemsOf_eq_ok h
  · rw [if_neg hallowed] at h ⊢
    cases h
    rfl

theorem collectDefaultItems_eq_ok {allowed : List String} {items : List Item}
    (h : collectDefaultItems instant builder budget T scope allowed = .ok items) :
    items = ((if "business" ∈ allowed then T.get ⟨"business", scope.businessId⟩
        else none).toList ++ queriedRows instant budget T scope allowed).map
          (ContextRow.itemOf scope budget) ∧
      ("business" ∈ allowed → ∀ row ∈ T.get ⟨"business", scope.businessId⟩, row.scope = scope) := by
  obtain ⟨business, hbusiness, h⟩ := Except.bind_eq_ok_iff.mp h
  obtain ⟨goals, hgoals, h⟩ := Except.bind_eq_ok_iff.mp h
  obtain ⟨constraints, hconstraints, h⟩ := Except.bind_eq_ok_iff.mp h
  obtain ⟨sourceRecords, hsources, h⟩ := Except.bind_eq_ok_iff.mp h
  obtain ⟨evidence, hevidence, h⟩ := Except.bind_eq_ok_iff.mp h
  rw [← Except.pure_eq_ok_iff.mp h, collect_eq_ok hgoals, collect_eq_ok hconstraints,
    collect_eq_ok hsources, collect_eq_ok hevidence]
  have hrows : queriedRows instant budget T scope allowed =
      (if "goal" ∈ allowed then defaultRows instant budget T scope "goal" else []) ++
      ((if "constraint" ∈ allowed then defaultRows instant budget T scope "constraint" else []) ++
      ((if "source_record" ∈ allowed then defaultRows instant budget T scope "source_record"
        else []) ++
      (if "evidence" ∈ allowed then defaultRows instant budget T scope "evidence" else []))) := by
    simp [queriedRows, defaultTypes]
  rw [hrows]
  simp only [List.map_append, List.append_assoc]
  by_cases hallowed : "business" ∈ allowed
  · rw [if_pos hallowed] at hbusiness
    obtain ⟨-, hitem, hscope⟩ := loadReference_eq_ok hbusiness
    refine ⟨?_, fun _ => hscope⟩
    rw [if_pos hallowed, hitem]
    cases T.get ⟨"business", scope.businessId⟩ <;> rfl
  · rw [if_neg hallowed] at hbusiness
    cases hbusiness
    rw [if_neg hallowed]
    exact ⟨rfl, fun h => absurd h hallowed⟩

/-- A bundle that is built: its items are the first of those of the selected rows. -/
structure Built (H : StableHash) (instant : Text → ℤ) (builder : Builder) (budget : ContextBudget)
    (T : Tables) (scope : TenantScope) (contract : Contract) (requestedRefs : List ContextReference)
    (bundle : ContextBundle) : Prop where
  items : bundle.items = (sortByKey Item.key ((selectedRows instant budget T scope contract
    requestedRefs).map (ContextRow.itemOf scope budget))).take budget.maxItems
  rows : ∀ row ∈ selectedRows instant budget T scope contract requestedRefs,
    row ∈ T.rows ∧ row.scope = scope ∧ row.row.objectType ∈ builder.types
  bundle : bundle = {
    items := bundle.items
    manifest := ContextBuilder.manifest H contract.contractKey bundle.items
    contextHash := H.digest (contextPayload contract.contractKey bundle.items)
    structuredContext := (contextPayload contract.contractKey bundle.items).sortKeys.dumps .compact }

theorem build_eq_ok {H : StableHash} {requestedRefs : List ContextReference}
    {bundle : ContextBundle}
    (h : build instant H builder budget T scope contract requestedRefs = .ok bundle) :
    Built H instant builder budget T scope contract requestedRefs bundle := by
  obtain ⟨items, hitems, h⟩ := Except.bind_eq_ok_iff.mp h
  obtain ⟨_, -, h⟩ := Except.bind_eq_ok_iff.mp h
  obtain ⟨_, -, h⟩ := Except.bind_eq_ok_iff.mp h
  obtain rfl := Except.pure_eq_ok_iff.mp h
  have htypes : ∀ objectType ∈ "business" :: defaultTypes, objectType ∈ builder.types := by
    cases builder <;> decide
  by_cases hrefs : requestedRefs.isEmpty = true
  · rw [if_pos hrefs] at hitems
    obtain ⟨hitems, hscope⟩ := collectDefaultItems_eq_ok hitems
    refine ⟨?_, ?_, rfl⟩
    · rw [selectedRows, if_pos hrefs, ← hitems]
    · rw [selectedRows, if_pos hrefs]
      intro row hrow
      rcases List.mem_append.mp hrow with hbusiness | hqueried
      · rw [Option.mem_toList] at hbusiness
        split at hbusiness
        next hallowed =>
          obtain ⟨hmem, hkey⟩ := Tables.get_eq_some_iff.mp hbusiness
          refine ⟨hmem, hscope hallowed row hbusiness, ?_⟩
          rw [show row.row.objectType = "business" from congrArg Prod.fst hkey]
          exact htypes _ List.mem_cons_self
        next => cases hbusiness
      · obtain ⟨objectType, htype, hrow⟩ := List.mem_flatMap.mp hqueried
        split at hrow
        next =>
          obtain ⟨hmem, rfl, hmine⟩ := mem_defaultRows hrow
          exact ⟨hmem, hmine, htypes _ (List.mem_cons_of_mem _ htype)⟩
        next => cases hrow
  · rw [if_neg hrefs] at hitems
    obtain ⟨hitems, hall⟩ := loadReferences_eq_ok hitems
    refine ⟨?_, ?_, rfl⟩
    · rw [selectedRows, if_neg hrefs, ← hitems]
    · rw [selectedRows, if_neg hrefs]
      intro row hrow
      obtain ⟨reference, hreference, hget⟩ := List.mem_filterMap.mp hrow
      obtain ⟨hmem, hkey⟩ := Tables.get_eq_some_iff.mp hget
      obtain ⟨htype, hscope⟩ := hall reference hreference
      refine ⟨hmem, hscope row hget, ?_⟩
      rw [show row.row.objectType = reference.objectType from congrArg Prod.fst hkey]
      exact htype

/-- An item is in the bundle if few selected rows come before its row. -/
theorem Built.mem_items_iff {H : StableHash} {requestedRefs : List ContextReference}
    {bundle : ContextBundle}
    (h : Built H instant builder budget T scope contract requestedRefs bundle) {item : Item} :
    item ∈ bundle.items ↔
      ∃ row ∈ selectedRows instant budget T scope contract requestedRefs,
        row.itemOf scope budget = item ∧
        (selectedRows instant budget T scope contract requestedRefs).countP
          (fun other => other.position < row.position) < budget.maxItems := by
  have hitems := Tables.keyInjective_items (fun row hrow => (h.rows row hrow).1) scope budget
  rw [h.items, mem_take_sortByKey_iff hitems, List.mem_map]
  constructor
  · rintro ⟨⟨row, hrow, rfl⟩, hcount⟩
    refine ⟨row, hrow, rfl, ?_⟩
    simpa only [List.countP_map, Function.comp_def, ContextRow.key_itemOf] using hcount
  · rintro ⟨row, hrow, rfl, hcount⟩
    refine ⟨⟨row, hrow, rfl⟩, ?_⟩
    simpa only [List.countP_map, Function.comp_def, ContextRow.key_itemOf] using hcount

end Built

end ContextBuilder

end LaunchOS
