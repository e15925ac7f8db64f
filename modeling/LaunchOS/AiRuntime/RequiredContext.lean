import LaunchOS.AiRuntime.Registry
import LaunchOS.Runtime.SecretSearch

/-!
# Required context and the budget

A run is built a context from its references. They are sorted, with the types of the rows first, and
cut to `max_items`; the types that the contract requires are looked for among what is left.

The module introduces:

* `Readable`: a reference names a row of the tenant that passes the scans;
* `Fits`: few references are of a type that comes before a required one;
* `build_of_fits`: then the context is built, with an item of each required type.
-/

namespace LaunchOS.ContextBuilder

open Security Sorting Txn

variable {instant : Text → ℤ} {H : StableHash} {builder : Builder} {budget : ContextBudget}
variable {T : Tables} {scope : TenantScope} {contract : Contract}

/-! ## The scans -/

/-- Nothing in what the payload and the manifest of a context have of an item is refused. -/
structure Item.Accepted (H : StableHash) (item : Item) : Prop where
  refs : ∀ ref ∈ item.allowedRefs, ref.accepted = true
  dump : item.modelDump.accepted = true
  entry : (item.manifestEntry H).accepted = true

theorem accepted_contextPayload (purpose : Text) (items : List Item) :
    (contextPayload purpose items).accepted = ((contextPayload purpose []).accepted &&
      (Json.acceptedItems (items.flatMap Item.allowedRefs) &&
        Json.acceptedItems (items.map Item.modelDump))) := by
  simp only [contextPayload, fields, List.map_cons, List.map_nil, List.flatMap_nil, Json.accepted,
    Json.acceptedFields, Json.acceptedField, Json.acceptedItems]
  cases Json.acceptedItems (items.flatMap Item.allowedRefs) <;>
    cases Json.acceptedItems (items.map Item.modelDump) <;> simp

theorem accepted_manifest (purpose : Text) (items : List Item) :
    (manifest H purpose items).accepted = ((manifest H purpose []).accepted &&
      Json.acceptedItems (items.map (Item.manifestEntry H))) := by
  have hdigest : ∀ value, hasSecretAssignment (H.digest value) = false := fun value =>
    hasSecretAssignment_of_not_mem (H.hexadecimal value)
  simp only [manifest, fields, List.map_cons, List.map_nil, Json.accepted, Json.acceptedFields,
    Json.acceptedField, Json.acceptedItems, hdigest]
  cases Json.acceptedItems (items.map (Item.manifestEntry H)) <;> simp

/-- A context passes the scans if an empty one does, and each of its items. -/
theorem assertContext_forall_iff {purpose : Text} {items : List Item} :
    assertContext H purpose items = .ok () ↔
      assertContext H purpose [] = .ok () ∧ ∀ item ∈ items, item.Accepted H := by
  rw [assertContext_eq_ok_iff, assertContext_eq_ok_iff, accepted_contextPayload, accepted_manifest]
  simp only [Bool.and_eq_true, Json.acceptedItems_iff, List.forall_mem_map, List.mem_flatMap]
  constructor
  · rintro ⟨⟨hpayload, hrefs, hdumps⟩, hmanifest, hentries⟩
    refine ⟨⟨hpayload, hmanifest⟩, fun item hitem => ?_⟩
    exact ⟨fun ref href => hrefs ref ⟨item, hitem, href⟩, hdumps item hitem, hentries item hitem⟩
  · rintro ⟨⟨hpayload, hmanifest⟩, haccepted⟩
    refine ⟨⟨hpayload, ?_, fun item hitem => (haccepted item hitem).dump⟩, hmanifest,
      fun item hitem => (haccepted item hitem).entry⟩
    rintro ref ⟨item, hitem, href⟩
    exact (haccepted item hitem).refs ref href

/-! ## References that are read -/

/-- The reference names a row of the tenant, its item is made, and a context with that item alone
passes the scans. -/
def Readable (H : StableHash) (budget : ContextBudget) (T : Tables) (scope : TenantScope)
    (purpose : Text) (reference : ContextReference) : Prop :=
  ∃ row item, T.get reference = some row ∧ row.scope = scope ∧
    row.row.item scope budget.maxContentChars = .ok item ∧
    assertContext H purpose [item] = .ok ()

/-- The item of a row that is read. -/
theorem Readable.row {purpose : Text} {reference : ContextReference}
    (h : Readable H budget T scope purpose reference) : ∃ row, T.get reference = some row ∧
      row.scope = scope ∧
      row.row.item scope budget.maxContentChars = .ok (row.itemOf scope budget) ∧
      assertContext H purpose [row.itemOf scope budget] = .ok () := by
  obtain ⟨row, item, hget, hscope, hitem, hscan⟩ := h
  have heq : item = row.itemOf scope budget := Row.eq_of_item hitem
  rw [heq] at hitem hscan
  exact ⟨row, hget, hscope, hitem, hscan⟩

/-- References that can be read are loaded, if their types are allowed. -/
theorem loadReferences_of_readable {references : List ContextReference}
    (hallowed : ∀ reference ∈ references, reference.objectType ∈ contract.allowedContextTypes)
    (hknown : contract.allowedContextTypes ⊆ builder.types)
    (hread : ∀ reference ∈ references, Readable H budget T scope contract.contractKey reference) :
    loadReferences builder budget T scope contract references =
      .ok ((references.filterMap T.get).map (ContextRow.itemOf scope budget)) := by
  suffices hloaded : ∃ items, loadReferences builder budget T scope contract references = .ok items by
    obtain ⟨items, hitems⟩ := hloaded
    rw [hitems, (loadReferences_eq_ok hitems).1]
  induction references with
  | nil => exact ⟨[], rfl⟩
  | cons reference references ih =>
      obtain ⟨hfirst, hrest⟩ := List.forall_mem_cons.mp hallowed
      obtain ⟨hreadable, hothers⟩ := List.forall_mem_cons.mp hread
      obtain ⟨items, hitems⟩ := ih hrest hothers
      obtain ⟨row, hget, hscope, hitem, -⟩ := hreadable.row
      have hload : loadReference builder budget T scope reference =
          .ok (some (row.itemOf scope budget)) := by
        rw [loadReference]
        refine Except.bind_eq_ok_iff.mpr ⟨(), require_eq_ok_iff.mpr (hknown hfirst), ?_⟩
        rw [hget]
        refine Except.bind_eq_ok_iff.mpr ⟨(), TenantScope.assertMatches_eq_ok_iff.mpr hscope.symm, ?_⟩
        exact Except.bind_eq_ok_iff.mpr ⟨_, hitem, rfl⟩
      refine ⟨row.itemOf scope budget :: items, ?_⟩
      rw [loadReferences]
      refine Except.bind_eq_ok_iff.mpr ⟨(), require_eq_ok_iff.mpr hfirst, ?_⟩
      refine Except.bind_eq_ok_iff.mpr ⟨_, hload, ?_⟩
      exact Except.bind_eq_ok_iff.mpr ⟨_, hitems, rfl⟩

/-! ## References that fit -/

/-- The references are of types that the contract allows, each type that it requires is among them,
and fewer than `maxItems` of them are of a type that comes before it. -/
structure Fits (maxItems : ℕ) (contract : ContextContract) (references : List ContextReference) :
    Prop where
  ne_nil : references ≠ []
  allowed : ∀ reference ∈ references, reference.objectType ∈ contract.allowedContextTypes
  present : ∀ type ∈ contract.requiredContextTypes,
    ∃ reference ∈ references, reference.objectType = type
  before : ∀ type ∈ contract.requiredContextTypes,
    references.countP (fun reference => reference.objectType.toList < type.toList) < maxItems

theorem Fits.perm {maxItems : ℕ} {contract : ContextContract}
    {references references' : List ContextReference} (h : Fits maxItems contract references)
    (hperm : references.Perm references') : Fits maxItems contract references' where
  ne_nil hnil := h.ne_nil (hperm.trans (hnil ▸ List.Perm.refl _)).eq_nil
  allowed reference hreference := h.allowed reference (hperm.mem_iff.mpr hreference)
  present type htype := by
    obtain ⟨reference, hreference, heq⟩ := h.present type htype
    exact ⟨reference, hperm.mem_iff.mp hreference, heq⟩
  before type htype := by
    rw [← hperm.countP_eq]
    exact h.before type htype

/-- The references of one type to the rows of a list come before another type, or none of them does. -/
theorem countP_typed {α : Type} (objectType : String) (objectId : α → String) (rows : List α)
    (type : Text) :
    (rows.map fun row => (⟨objectType, objectId row⟩ : ContextReference)).countP
        (fun reference => reference.objectType.toList < type) =
      if objectType.toList < type then rows.length else 0 := by
  rw [List.countP_map]
  by_cases hbefore : objectType.toList < type
  · rw [if_pos hbefore, List.countP_eq_length]
    exact fun _ _ => decide_eq_true hbefore
  · rw [if_neg hbefore, List.countP_eq_zero]
    exact fun _ _ h => hbefore (of_decide_eq_true h)

/-- The cut leaves an item of each required type. -/
theorem Fits.survives {references : List ContextReference}
    (h : Fits budget.maxItems contract.toContextContract references)
    (hread : ∀ reference ∈ references, Readable H budget T scope contract.contractKey reference)
    {type : String} (htype : type ∈ contract.requiredContextTypes) :
    ∃ item ∈ (sortByKey Item.key ((references.filterMap T.get).map
      (ContextRow.itemOf scope budget))).take budget.maxItems,
        item.sourceObjectType = type.toList := by
  have hitem : ∀ reference row, T.get reference = some row →
      (row.itemOf scope budget).sourceObjectType = reference.objectType.toList := by
    intro reference row hget
    rw [(row.shows_itemOf scope budget).sourceObjectType]
    exact congrArg String.toList (congrArg Prod.fst (Tables.get_eq_some_iff.mp hget).2)
  have hrows : ∀ row ∈ references.filterMap T.get, row ∈ T.rows := by
    intro row hrow
    obtain ⟨reference, -, hget⟩ := List.mem_filterMap.mp hrow
    exact (Tables.get_eq_some_iff.mp hget).1
  refine exists_mem_take_sortByKey (p := fun item => item.sourceObjectType = type.toList)
    (q := fun item => item.sourceObjectType < type.toList)
    (Tables.keyInjective_items hrows scope budget) ?_ ?_ ?_
  · obtain ⟨reference, hreference, rfl⟩ := h.present type htype
    obtain ⟨row, hget, -⟩ := (hread reference hreference).row
    refine ⟨row.itemOf scope budget, List.mem_map_of_mem ?_, hitem reference row hget⟩
    exact List.mem_filterMap.mpr ⟨reference, hreference, hget⟩
  · -- the type comes first in the order of the items
    intro item _ hsame other _ hlt
    rw [Item.key, Item.key, Prod.Lex.toLex_lt_toLex] at hlt
    rcases hlt with hbefore | ⟨htie, -⟩
    · exact .inr (hsame ▸ hbefore)
    · exact .inl (htie.trans hsame)
  · refine lt_of_le_of_lt ?_ (h.before type htype)
    rw [List.countP_map, List.countP_filterMap]
    refine List.countP_mono_left fun reference _ hcounted => ?_
    cases hget : T.get reference with
    | none => simp [hget] at hcounted
    | some row =>
        rw [hget] at hcounted
        have hbefore : (row.itemOf scope budget).sourceObjectType < type.toList :=
          of_decide_eq_true hcounted
        rw [hitem reference row hget] at hbefore
        exact decide_eq_true hbefore

/-- References that fit and can be read give a context with an item of each required type. -/
theorem build_of_fits {references : List ContextReference}
    (h : Fits budget.maxItems contract.toContextContract references)
    (hknown : contract.allowedContextTypes ⊆ builder.types)
    (hread : ∀ reference ∈ references, Readable H budget T scope contract.contractKey reference) :
    ∃ bundle, build instant H builder budget T scope contract references = .ok bundle ∧
      ∀ type ∈ contract.requiredContextTypes,
        ∃ item ∈ bundle.items, item.sourceObjectType = type.toList := by
  have hperm := perm_sortByKey referenceKey references
  have hsorted := h.perm hperm.symm
  have hread' : ∀ reference ∈ sortByKey referenceKey references,
      Readable H budget T scope contract.contractKey reference :=
    fun reference hreference => hread reference (mem_sortByKey.mp hreference)
  have hload := loadReferences_of_readable hsorted.allowed hknown hread'
  generalize hitems : ((sortByKey referenceKey references).filterMap T.get).map
    (ContextRow.itemOf scope budget) = items at hload
  have hsurvives : ∀ type ∈ contract.requiredContextTypes,
      ∃ item ∈ (sortByKey Item.key items).take budget.maxItems,
        item.sourceObjectType = type.toList := by
    intro type htype
    rw [← hitems]
    exact hsorted.survives hread' htype
  have hmissing : missingTypes contract ((sortByKey Item.key items).take budget.maxItems) = [] := by
    have hnone : (contract.requiredContextTypes.filter fun type =>
        !((sortByKey Item.key items).take budget.maxItems).any fun item =>
          item.sourceObjectType = type.toList) = [] := by
      rw [List.filter_eq_nil_iff]
      intro type htype
      obtain ⟨item, hitem, hsame⟩ := hsurvives type htype
      simp only [Bool.not_eq_true', Bool.not_eq_false, List.any_eq_true]
      exact ⟨item, hitem, decide_eq_true hsame⟩
    rw [missingTypes, hnone]
    rfl
  have hscan : assertContext H contract.contractKey
      ((sortByKey Item.key items).take budget.maxItems) = .ok () := by
    have hall : ∀ item ∈ items, assertContext H contract.contractKey [item] = .ok () := by
      intro item hitem
      rw [← hitems] at hitem
      obtain ⟨row, hrow, rfl⟩ := List.mem_map.mp hitem
      obtain ⟨reference, hreference, hget⟩ := List.mem_filterMap.mp hrow
      obtain ⟨found, hfound, -, -, hok⟩ := (hread' reference hreference).row
      cases hget.symm.trans hfound
      exact hok
    obtain ⟨reference, hreference⟩ := List.exists_mem_of_ne_nil _ h.ne_nil
    obtain ⟨row, -, -, -, hfirst⟩ := (hread reference hreference).row
    refine assertContext_forall_iff.mpr ⟨(assertContext_forall_iff.mp hfirst).1, fun item hitem => ?_⟩
    have hmem : item ∈ items := mem_sortByKey.mp (List.mem_of_mem_take hitem)
    exact (assertContext_forall_iff.mp (hall item hmem)).2 item List.mem_cons_self
  have hnonempty : ¬ references.isEmpty = true := by
    rw [List.isEmpty_iff]
    exact h.ne_nil
  have hbuild : build instant H builder budget T scope contract references = .ok {
      items := (sortByKey Item.key items).take budget.maxItems
      manifest := manifest H contract.contractKey ((sortByKey Item.key items).take budget.maxItems)
      contextHash := H.digest (contextPayload contract.contractKey
        ((sortByKey Item.key items).take budget.maxItems))
      structuredContext := (contextPayload contract.contractKey
        ((sortByKey Item.key items).take budget.maxItems)).sortKeys.dumps .compact } := by
    rw [build, if_neg hnonempty]
    refine Except.bind_eq_ok_iff.mpr ⟨items, hload, ?_⟩
    refine Except.bind_eq_ok_iff.mpr ⟨(), require_eq_ok_iff.mpr hmissing, ?_⟩
    exact Except.bind_eq_ok_iff.mpr ⟨(), hscan, rfl⟩
  exact ⟨_, hbuild, hsurvives⟩

end LaunchOS.ContextBuilder
