import LaunchOS.AiRuntime.ContextLimits
import LaunchOS.Lib.JsonParse

/-!
# The text and the hash of a context

An agent is given a context as a text, and the run keeps the hash of this text. Both say what the items
are.

The module introduces:

* `StableHash.ofText`: `_stable_hash`, over a digest of texts;
* `Item.canonical`: an item, up to the order of the keys in its projection;
* `contextPayload_inj`: what the payload of a context says of its items;
* `structured_context_read`: the payload is read back from the structured context;
* `context_hash_identifies`: contexts with one hash have the same items, or the digest has a collision.
-/

namespace LaunchOS

open Sorting

/-- `_stable_hash` -/
def StableHash.ofText (sha256 : Text → Text) (hexadecimal : ∀ text, '=' ∉ sha256 text) :
    StableHash where
  digest value := sha256 (value.sortKeys.dumps .compact)
  hexadecimal _ := hexadecimal _

namespace ContextBuilder

/-! ## What a payload says -/

/-- An item up to the order of the keys in its projection, which a `dict` does not have. -/
def Item.canonical (item : Item) : Item :=
  { item with structuredProjection := item.structuredProjection.sortKeys }

/-- The fields of an object that is written down with its keys. -/
theorem fields_sortKeys {entries entries' : List (String × Json)}
    (hkeys : entries.map Prod.fst = entries'.map Prod.fst)
    (hnodup : (entries.map Prod.fst).Nodup)
    (h : (fields entries).sortKeys = (fields entries').sortKeys) :
    entries.map (fun entry => entry.2.sortKeys) = entries'.map fun entry => entry.2.sortKeys := by
  have hpairs := Json.fields_eq_of_sortKeys_eq ?_ ?_ h
  · simpa [Function.comp_def] using congrArg (List.map Prod.snd) hpairs
  · simpa [Function.comp_def] using congrArg (List.map String.toList) hkeys
  · have hinj := hnodup.map (f := String.toList) fun _ _ => String.toList_inj.mp
    simpa [Function.comp_def] using hinj

theorem sortKeys_optionalText (text : Option Text) :
    (optionalText text).sortKeys = optionalText text := by
  cases text <;> rfl

theorem optionalText_inj {text text' : Option Text} :
    optionalText text = optionalText text' ↔ text = text' := by
  cases text <;> cases text' <;> simp [optionalText]

/-- The dump of an item shows all of it. -/
theorem Item.canonical_eq_of_modelDump {item item' : Item}
    (h : item.modelDump.sortKeys = item'.modelDump.sortKeys) : item.canonical = item'.canonical := by
  unfold Item.modelDump at h
  have hvalues := fields_sortKeys (by rfl) (by simp) h
  simp only [List.map_cons, List.map_nil, List.cons.injEq, Json.sortKeys, sortKeys_optionalText,
    Json.string.injEq, optionalText_inj] at hvalues
  obtain ⟨h1, h2, h3, h4, h5, h6, h7, h8, h9, h10, h11, h12, h13, h14, -⟩ := hvalues
  simp only [Item.canonical, Item.mk.injEq]
  exact ⟨h1, h2, h3, h4, h5, h6, h7, h8, h9, h10, h11, h12, h13, h14⟩

/-- Lists that a function cannot tell apart, item by item. -/
theorem map_eq_of_map_eq {α β γ : Type} {f : α → β} {g : α → γ} (h : ∀ a b, f a = f b → g a = g b)
    {as bs : List α} (heq : as.map f = bs.map f) : as.map g = bs.map g := by
  induction as generalizing bs with
  | nil =>
      rw [List.map_nil, eq_comm, List.map_eq_nil_iff] at heq
      rw [heq]
  | cons a as ih =>
      cases bs with
      | nil => cases heq
      | cons b bs =>
          rw [List.map_cons, List.map_cons, List.cons.injEq] at heq
          rw [List.map_cons, List.map_cons, h a b heq.1, ih heq.2]

/-- The payload of a context shows the contract and the items. -/
theorem contextPayload_inj {purpose purpose' : Text} {items items' : List Item}
    (h : (contextPayload purpose items).sortKeys = (contextPayload purpose' items').sortKeys) :
    purpose = purpose' ∧ items.map Item.canonical = items'.map Item.canonical := by
  unfold contextPayload at h
  have hvalues := fields_sortKeys (by rfl) (by simp) h
  simp only [List.map_cons, List.map_nil, List.cons.injEq, Json.sortKeys, Json.string.injEq,
    Json.array.injEq, Json.sortKeysItems_eq_map, List.map_map] at hvalues
  obtain ⟨-, -, hpurpose, -, hitems, -⟩ := hvalues
  exact ⟨hpurpose, map_eq_of_map_eq (fun _ _ => Item.canonical_eq_of_modelDump) hitems⟩

/-! ## The text -/

/-- Every number in the projection of an item is written somehow. -/
def Item.Written (item : Item) : Prop := item.structuredProjection.Written

theorem written_fields {entries : List (String × Json)} :
    (fields entries).Written ↔ ∀ entry ∈ entries, entry.2.Written := by
  show Json.WrittenFields _ ↔ _
  rw [Json.writtenFields_iff, List.forall_mem_map]

theorem written_ofNat (n : ℕ) : (Json.number (.ofNat n)).Written := by
  have hlength := Nat.length_toDigits_pos (b := 10) (n := n)
  exact List.ne_nil_of_length_pos hlength

theorem written_optionalText (text : Option Text) : (optionalText text).Written := by
  cases text <;> trivial

theorem Item.written_modelDump {item : Item} (h : item.Written) : item.modelDump.Written := by
  unfold Item.modelDump
  rw [written_fields]
  simp only [List.forall_mem_cons, written_optionalText]
  exact ⟨trivial, trivial, trivial, trivial, trivial, trivial, trivial, trivial, trivial, trivial,
    trivial, h, trivial, trivial, List.forall_mem_nil _⟩

theorem written_contextPayload {purpose : Text} {items : List Item}
    (h : ∀ item ∈ items, item.Written) : (contextPayload purpose items).Written := by
  have hrefs : ∀ ref ∈ items.flatMap Item.allowedRefs, ref.Written := by
    intro ref href
    obtain ⟨item, -, href⟩ := List.mem_flatMap.mp href
    unfold Item.allowedRefs at href
    split at href
    all_goals
      simp only [List.mem_cons, List.not_mem_nil, or_false] at href
      rcases href with rfl | rfl <;> exact written_fields.mpr (by simp [Json.Written])
  have hitems : ∀ dump ∈ items.map Item.modelDump, dump.Written := by
    intro dump hdump
    obtain ⟨item, hitem, rfl⟩ := List.mem_map.mp hdump
    exact Item.written_modelDump (h item hitem)
  unfold contextPayload
  rw [written_fields]
  simp only [List.forall_mem_cons]
  refine ⟨trivial, written_ofNat 1, trivial, ?_, Json.writtenItems_iff.mpr hitems,
    List.forall_mem_nil _⟩
  rw [written_fields]
  simp only [List.forall_mem_cons]
  exact ⟨Json.writtenItems_iff.mpr hrefs, trivial, List.forall_mem_nil _⟩

section Context

variable {instant instant' : Text → ℤ} {H : StableHash} {builder builder' : Builder}
variable {budget budget' : ContextBudget} {T T' : Tables} {scope scope' : TenantScope}
variable {contract contract' : Contract} {requestedRefs requestedRefs' : List ContextReference}
variable {bundle bundle' : ContextBundle}

/-- The payload is read back from the structured context of an agent. -/
theorem structured_context_read
    (h : build instant H builder budget T scope contract requestedRefs = .ok bundle)
    (hwritten : ∀ item ∈ bundle.items, item.Written) :
    Json.loads .compact bundle.structuredContext =
      some (contextPayload contract.contractKey bundle.items).sortKeys := by
  rw [(build_eq_ok h).bundle]
  exact Json.loads_dumps (by rfl) (Json.written_sortKeys (written_contextPayload hwritten))

/-- Two contexts with one text are for one agent and have the same items. -/
theorem items_eq_of_structuredContext_eq
    (h : build instant H builder budget T scope contract requestedRefs = .ok bundle)
    (h' : build instant' H builder' budget' T' scope' contract' requestedRefs' = .ok bundle')
    (hwritten : ∀ item ∈ bundle.items, item.Written)
    (hwritten' : ∀ item ∈ bundle'.items, item.Written)
    (htext : bundle.structuredContext = bundle'.structuredContext) :
    contract.contractKey = contract'.contractKey ∧
      bundle.items.map Item.canonical = bundle'.items.map Item.canonical := by
  have hread := structured_context_read h hwritten
  rw [htext, structured_context_read h' hwritten'] at hread
  exact contextPayload_inj (Option.some.inj hread).symm

/-- The hash of a context stands for its contract and its items: the contexts of any two runs, of any
tenants and databases, have different hashes if they differ in these, unless the digest has one value
for both texts. -/
theorem context_hash_identifies {sha256 : Text → Text} {hexadecimal : ∀ text, '=' ∉ sha256 text}
    (h : build instant (.ofText sha256 hexadecimal) builder budget T scope contract requestedRefs =
      .ok bundle)
    (h' : build instant' (.ofText sha256 hexadecimal) builder' budget' T' scope' contract'
      requestedRefs' = .ok bundle')
    (hwritten : ∀ item ∈ bundle.items, item.Written)
    (hwritten' : ∀ item ∈ bundle'.items, item.Written)
    (hhash : bundle.contextHash = bundle'.contextHash) :
    (contract.contractKey = contract'.contractKey ∧
      bundle.items.map Item.canonical = bundle'.items.map Item.canonical) ∨
    (bundle.structuredContext ≠ bundle'.structuredContext ∧
      sha256 bundle.structuredContext = sha256 bundle'.structuredContext) := by
  by_cases htext : bundle.structuredContext = bundle'.structuredContext
  · exact .inl (items_eq_of_structuredContext_eq h h' hwritten hwritten' htext)
  · refine .inr ⟨htext, ?_⟩
    rw [(build_eq_ok h).bundle, (build_eq_ok h').bundle] at hhash ⊢
    exact hhash

end Context

/-! ### The context of a probe -/

theorem written_probe_items {requestedRefs : List ContextReference} {bundle : ContextBundle}
    {H : StableHash} {target : Text}
    (h : build (fun _ => 0) H .base {} (probeTables target) demoTenant probeContract requestedRefs =
      .ok bundle) : ∀ item ∈ bundle.items, item.Written := by
  intro item hitem
  have hbuilt := build_eq_ok h
  obtain ⟨row, hrow, rfl, -⟩ := hbuilt.mem_items_iff.mp hitem
  have hmem := (hbuilt.rows row hrow).1
  simp only [probeTables, List.mem_cons, List.not_mem_nil, or_false] at hmem
  rcases hmem with rfl | rfl
  all_goals
    refine written_fields.mpr ?_
    simp only [List.forall_mem_cons]
  · exact ⟨trivial, trivial, written_ofNat 1, List.forall_mem_nil _⟩
  · exact ⟨trivial, trivial, List.forall_mem_nil _⟩

/-- The business and a goal that does not exist, asked for in both orders. -/
theorem probe_hash_identifies :
    let H := StableHash.ofText (fun _ => ['0']) (fun _ => by decide)
    ∃ bundle bundle',
      build (fun _ => 0) H .base {} (probeTables "ten places".toList) demoTenant probeContract
        [⟨"business", "business"⟩, ⟨"goal", "missing"⟩] = .ok bundle ∧
      build (fun _ => 0) H .base {} (probeTables "ten places".toList) demoTenant probeContract
        [⟨"goal", "missing"⟩, ⟨"business", "business"⟩] = .ok bundle' ∧
      ((probeContract.contractKey = probeContract.contractKey ∧
          bundle.items.map Item.canonical = bundle'.items.map Item.canonical) ∨
        (bundle.structuredContext ≠ bundle'.structuredContext ∧ ['0'] = ['0'])) := by
  intro H
  have hrun : (build (fun _ => 0) H .base {} (probeTables "ten places".toList) demoTenant
      probeContract [⟨"business", "business"⟩, ⟨"goal", "missing"⟩]).toOption.any
        (fun _ => true) = true := by
    decide +kernel
  obtain ⟨bundle, hbuild, -⟩ := exists_ok_of_any hrun
  have hbuild' := (build_perm (List.Perm.swap _ _ [])).symm.trans hbuild
  exact ⟨bundle, bundle, hbuild, hbuild', context_hash_identifies hbuild hbuild'
    (written_probe_items hbuild) (written_probe_items hbuild') rfl⟩

end ContextBuilder

end LaunchOS
