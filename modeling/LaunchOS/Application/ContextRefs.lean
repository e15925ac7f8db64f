import LaunchOS.AiRuntime.ContextBuilder
import LaunchOS.Application.EvidenceStatuses

/-!
# Advertised evidence references

A context lists the evidence references that an output may cite. The decision workflow reads the same
list back from the manifest of the run; the production workflow looks up rows of `evidence`.

The module introduces:

* `loadReference`, `buildContext`: the items of a context;
* `allowedEvidenceRefs`, `manifestItem`: what the context advertises, and what it leaves with the run;
* `built_items`: the reference of an item determines its status;
* `advertised_refs_accepted_iff`: when the two workflows accept what is advertised.
-/

namespace LaunchOS

open Txn DecisionWorkflow

variable {M : Type}

/-! ## Contexts -/

/-- An item of a context, as far as evidence references go. -/
structure EvidenceItem where
  sourceObjectType : String
  sourceObjectId : String
  provenanceRef : String
  epistemicStatus : EpistemicStatus
  occurredAt : Option Time
deriving DecidableEq, Repr

/-- What `session.get` finds. -/
structure ContextTables where
  evidence : List Evidence
  businessSnapshot : String → Option BusinessSnapshot
  /-- The tenant of a row of another type. -/
  tenant : ContextReference → Option TenantScope
  /-- The time of the item of a row. -/
  occurredAt : ContextReference → Option Time

/-- The status of the items of a type other than evidence. -/
def contextStatus (objectType : String) : Option EpistemicStatus :=
  if objectType ∈ ["business", "goal", "constraint", "business_snapshot", "asset_rights_provenance"]
  then some .fact
  else if objectType = "decision_candidate" then some .hypothesis
  else if objectType ∈ ["source_record", "specialist_contribution", "controller_review", "decision",
    "content_strategy", "creative_brief", "asset_version", "asset_review"] then some .observation
  else none

namespace ContextTables

/-- The item of a row. -/
def item (T : ContextTables) (reference : ContextReference) (status : EpistemicStatus) :
    EvidenceItem where
  sourceObjectType := reference.objectType
  sourceObjectId := reference.objectId
  provenanceRef := reference.objectType ++ ":" ++ reference.objectId
  epistemicStatus := status
  occurredAt := T.occurredAt reference

/-- The tenant and the status of the row of a reference. -/
def row (T : ContextTables) (reference : ContextReference) :
    Except JobError (Option (TenantScope × EpistemicStatus)) :=
  if reference.objectType = "evidence" then
    .ok ((Table.find Evidence.id reference.objectId T.evidence).map fun row =>
      (row.scope, row.status))
  else match contextStatus reference.objectType with
    | none => .error ⟨.permanent, "AIContextError",
        "unsupported context type: " ++ reference.objectType⟩
    | some status =>
        if reference.objectType = "business_snapshot" then
          .ok ((T.businessSnapshot reference.objectId).map fun row => (row.scope, status))
        else .ok ((T.tenant reference).map fun scope => (scope, status))

end ContextTables

/-- `_load_reference`, of both builders. -/
def loadReference (T : ContextTables) (scope : TenantScope) (reference : ContextReference) :
    Except JobError (Option EvidenceItem) := do
  match ← T.row reference with
  | none => return none
  | some (rowScope, status) =>
      scope.assertMatches rowScope
      return some (T.item reference status)

/-- `requested_refs` are loaded in this order. -/
def ContextReference.le (a b : ContextReference) : Bool :=
  a.objectType < b.objectType || a.objectType = b.objectType && !(b.objectId < a.objectId)

/-- The items stand in this order. -/
def EvidenceItem.le (a b : EvidenceItem) : Bool :=
  a.sourceObjectType < b.sourceObjectType ||
    a.sourceObjectType = b.sourceObjectType &&
      (match a.occurredAt, b.occurredAt with
      | none, some _ => true
      | some _, none => false
      | none, none => !(b.sourceObjectId < a.sourceObjectId)
      | some s, some t => s < t || s = t && !(b.sourceObjectId < a.sourceObjectId))

/-- The items of the references, in turn. -/
def loadReferences (T : ContextTables) (scope : TenantScope) (contract : ContextContract) :
    List ContextReference → Except JobError (List EvidenceItem)
  | [] => .ok []
  | reference :: references => do
      require (reference.objectType ∈ contract.allowedContextTypes)
        ⟨.permanent, "AIContextError",
          "context type not allowed for agent: " ++ reference.objectType⟩
      let item ← loadReference T scope reference
      let items ← loadReferences T scope contract references
      return item.toList ++ items

/-- `ContextBuilder.build` for the references that were requested, up to the scans. -/
def buildContext (T : ContextTables) (scope : TenantScope) (contract : ContextContract)
    (maxItems : ℕ) (requestedRefs : List ContextReference) :
    Except JobError (List EvidenceItem) := do
  let items ← loadReferences T scope contract
    (requestedRefs.insertionSort fun a b => a.le b = true)
  let limited := (items.insertionSort fun a b => a.le b = true).take maxItems
  let missing := contract.requiredContextTypes.filter fun type =>
    !limited.any fun item => item.sourceObjectType = type
  require (missing = []) ⟨.permanent, "AIContextError",
    "required context missing: " ++ String.intercalate ", " missing⟩
  return limited

/-- An entry of `allowed_refs`. -/
structure AllowedRef where
  evidenceId : String
  epistemicStatus : EpistemicStatus
deriving DecidableEq, Repr

/-- `_allowed_evidence_refs` -/
def allowedEvidenceRefs (items : List EvidenceItem) : List AllowedRef :=
  items.flatMap fun item =>
    ⟨item.provenanceRef, item.epistemicStatus⟩ ::
      (if item.sourceObjectType = "evidence" then [⟨item.sourceObjectId, item.epistemicStatus⟩]
      else [])

/-- `manifest_entry` -/
def manifestItem (item : EvidenceItem) : ContextItem where
  epistemicStatus := some item.epistemicStatus.value
  provenanceRef := some item.provenanceRef
  sourceObjectType := some item.sourceObjectType
  sourceObjectId := some item.sourceObjectId

/-- The reference is advertised, with its status. -/
def Advertised (items : List EvidenceItem) (ref : EvidenceReference) : Prop :=
  ⟨ref.evidenceId, ref.epistemicStatus⟩ ∈ allowedEvidenceRefs items

/-- The reference is the id of a row of `evidence`. -/
def NamesEvidence (items : List EvidenceItem) (ref : EvidenceReference) : Prop :=
  ∃ item ∈ items, item.sourceObjectType = "evidence" ∧ item.sourceObjectId = ref.evidenceId

instance (items : List EvidenceItem) (ref : EvidenceReference) : Decidable (Advertised items ref) :=
  inferInstanceAs (Decidable (_ ∈ _))

instance (items : List EvidenceItem) (ref : EvidenceReference) :
    Decidable (NamesEvidence items ref) :=
  inferInstanceAs (Decidable (∃ item ∈ items, _))

theorem advertised_iff {items : List EvidenceItem} {ref : EvidenceReference} :
    Advertised items ref ↔ ∃ item ∈ items, item.epistemicStatus = ref.epistemicStatus ∧
      (item.provenanceRef = ref.evidenceId ∨
        item.sourceObjectType = "evidence" ∧ item.sourceObjectId = ref.evidenceId) := by
  unfold Advertised allowedEvidenceRefs
  rw [List.mem_flatMap]
  refine exists_congr fun item => and_congr_right fun _ => ?_
  by_cases htype : item.sourceObjectType = "evidence"
  · simp only [htype, if_true, List.mem_cons, AllowedRef.mk.injEq, List.not_mem_nil, or_false,
      true_and]
    grind
  · simp only [htype, if_false, List.mem_singleton, AllowedRef.mk.injEq, false_and, or_false]
    grind

/-! ## What is built -/

/-- The item is that of a row of the tenant. -/
def BuiltFrom (T : ContextTables) (scope : TenantScope) (item : EvidenceItem) : Prop :=
  ∃ reference status, T.row reference = .ok (some (scope, status)) ∧ item = T.item reference status

section Built

variable {T : ContextTables} {scope : TenantScope} {contract : ContextContract}

theorem builtFrom_of_loadReference {reference : ContextReference} {item : EvidenceItem}
    (h : loadReference T scope reference = .ok (some item)) : BuiltFrom T scope item := by
  unfold loadReference at h
  obtain ⟨row, hrow, h⟩ := Except.bind_eq_ok_iff.mp h
  cases row with
  | none => cases Except.pure_eq_ok_iff.mp h
  | some row =>
      obtain ⟨rowScope, status⟩ := row
      dsimp only at h
      obtain ⟨_, hscope, hitem⟩ := Except.bind_eq_ok_iff.mp h
      obtain rfl := TenantScope.assertMatches_eq_ok_iff.mp hscope
      cases Except.pure_eq_ok_iff.mp hitem
      exact ⟨reference, status, hrow, rfl⟩

theorem builtFrom_of_loadReferences {references : List ContextReference}
    {items : List EvidenceItem} (h : loadReferences T scope contract references = .ok items) :
    ∀ item ∈ items, BuiltFrom T scope item := by
  induction references generalizing items with
  | nil =>
      cases h
      simp
  | cons reference references ih =>
      obtain ⟨_, -, h⟩ := Except.bind_eq_ok_iff.mp h
      obtain ⟨item, hitem, h⟩ := Except.bind_eq_ok_iff.mp h
      obtain ⟨rest, hrest, h⟩ := Except.bind_eq_ok_iff.mp h
      cases Except.pure_eq_ok_iff.mp h
      intro item' hmem
      rcases List.mem_append.mp hmem with hfirst | hlater
      · rw [Option.mem_toList] at hfirst
        exact builtFrom_of_loadReference (hfirst ▸ hitem)
      · exact ih hrest item' hlater

theorem builtFrom_of_buildContext {maxItems : ℕ} {refs : List ContextReference}
    {items : List EvidenceItem} (h : buildContext T scope contract maxItems refs = .ok items) :
    ∀ item ∈ items, BuiltFrom T scope item := by
  obtain ⟨loaded, hloaded, h⟩ := Except.bind_eq_ok_iff.mp h
  obtain ⟨_, -, h⟩ := Except.bind_eq_ok_iff.mp h
  cases Except.pure_eq_ok_iff.mp h
  intro item hmem
  exact builtFrom_of_loadReferences hloaded item
    ((List.mem_insertionSort _).mp (List.mem_of_mem_take hmem))

/-- The types have no colon. -/
theorem no_colon_of_row {reference : ContextReference}
    {row : TenantScope × EpistemicStatus} (h : T.row reference = .ok (some row)) :
    ':' ∉ reference.objectType.toList := by
  unfold ContextTables.row at h
  split at h
  next htype =>
    rw [htype]
    decide
  next =>
    cases hstatus : contextStatus reference.objectType with
    | none => simp [hstatus] at h
    | some status =>
        unfold contextStatus at hstatus
        split at hstatus
        next hmem =>
          simp only [List.mem_cons, List.not_mem_nil, or_false] at hmem
          rcases hmem with htype | htype | htype | htype | htype <;> rw [htype] <;> decide
        next =>
          split at hstatus
          next htype =>
            rw [htype]
            decide
          next =>
            split at hstatus
            next hmem =>
              simp only [List.mem_cons, List.not_mem_nil, or_false] at hmem
              rcases hmem with htype | htype | htype | htype | htype | htype | htype | htype <;>
                rw [htype] <;> decide
            next => cases hstatus

/-- The text before the first colon, and the text after it. -/
theorem split_colon {before before' after after' : List Char} (hbefore : ':' ∉ before)
    (hbefore' : ':' ∉ before') (h : before ++ ':' :: after = before' ++ ':' :: after') :
    before = before' ∧ after = after' := by
  induction before generalizing before' with
  | nil =>
      cases before' with
      | nil => simpa using h
      | cons c before' =>
          simp only [List.nil_append, List.cons_append, List.cons.injEq] at h
          exact absurd (h.1 ▸ List.mem_cons_self) hbefore'
  | cons c before ih =>
      cases before' with
      | nil =>
          simp only [List.nil_append, List.cons_append, List.cons.injEq] at h
          exact absurd (h.1 ▸ List.mem_cons_self) hbefore
      | cons c' before' =>
          simp only [List.cons_append, List.cons.injEq] at h
          obtain ⟨hfirst, hrest⟩ := ih (fun hmem => hbefore (List.mem_cons_of_mem _ hmem))
            (fun hmem => hbefore' (List.mem_cons_of_mem _ hmem)) h.2
          exact ⟨by rw [h.1, hfirst], hrest⟩

theorem toList_provenanceRef (T : ContextTables) (reference : ContextReference)
    (status : EpistemicStatus) : (T.item reference status).provenanceRef.toList =
      reference.objectType.toList ++ ':' :: reference.objectId.toList := by
  simp [ContextTables.item]

/-- A reference determines the status of its item. -/
theorem BuiltFrom.eq_of_provenanceRef {item item' : EvidenceItem} (h : BuiltFrom T scope item)
    (h' : BuiltFrom T scope item') (hsame : item.provenanceRef = item'.provenanceRef) :
    item = item' := by
  obtain ⟨reference, status, hrow, rfl⟩ := h
  obtain ⟨reference', status', hrow', rfl⟩ := h'
  have hlists := congrArg String.toList hsame
  rw [toList_provenanceRef, toList_provenanceRef] at hlists
  obtain ⟨htype, hid⟩ := split_colon (no_colon_of_row hrow) (no_colon_of_row hrow') hlists
  have heq : reference = reference' := by
    cases reference
    cases reference'
    simp only [ContextReference.mk.injEq]
    exact ⟨String.toList_inj.mp htype, String.toList_inj.mp hid⟩
  subst heq
  cases hrow.symm.trans hrow'
  rfl

theorem BuiltFrom.eq_of_sourceObject {item item' : EvidenceItem} (h : BuiltFrom T scope item)
    (h' : BuiltFrom T scope item') (htype : item.sourceObjectType = item'.sourceObjectType)
    (hid : item.sourceObjectId = item'.sourceObjectId) : item = item' := by
  refine h.eq_of_provenanceRef h' ?_
  obtain ⟨reference, status, -, rfl⟩ := h
  obtain ⟨reference', status', -, rfl⟩ := h'
  exact congrArg₂ (fun type id => type ++ ":" ++ id) htype hid

/-- The row of an item about evidence. -/
theorem BuiltFrom.evidence {item : EvidenceItem} (h : BuiltFrom T scope item)
    (htype : item.sourceObjectType = "evidence") : ∃ row,
      Table.find Evidence.id item.sourceObjectId T.evidence = some row ∧ row.scope = scope ∧
        row.status = item.epistemicStatus := by
  obtain ⟨reference, status, hrow, rfl⟩ := h
  have htype : reference.objectType = "evidence" := htype
  unfold ContextTables.row at hrow
  rw [if_pos htype] at hrow
  simp only [Except.ok.injEq, Option.map_eq_some_iff] at hrow
  obtain ⟨row, hfind, hpair⟩ := hrow
  simp only [Prod.mk.injEq] at hpair
  exact ⟨row, hfind, hpair.1, hpair.2⟩

end Built

/-! ## What is accepted -/

/-- The ids of the rows of `evidence` have no colon, as those that `new_id` makes. -/
def ContextTables.PlainIds (T : ContextTables) : Prop := ∀ row ∈ T.evidence, ':' ∉ row.id.toList

/-- What the snapshot says of a reference: the last item of its evidence with that id. -/
def BusinessSnapshot.statusOf (ref : String) (snapshot : BusinessSnapshot) : Option String :=
  (snapshot.evidence.map fun item => (item.id, item.status)).reverse.lookup ref

section Accepted

variable {T : ContextTables} {scope : TenantScope} {items : List EvidenceItem}

/-- An entry is found if all entries of its key agree. -/
theorem lookup_eq_some_of_unique {entries : EvidenceStatuses} {ref status : String}
    (hmem : (ref, status) ∈ entries) (hunique : ∀ other, (ref, other) ∈ entries → other = status) :
    entries.lookup ref = some status := by
  cases hlookup : entries.lookup ref with
  | none =>
      have hnone := List.lookup_eq_none_iff.mp hlookup (ref, status) hmem
      simp at hnone
  | some other => rw [hunique other (mem_of_lookup_eq_some hlookup)]

/-- The production workflow accepts references to rows of its tenant with their statuses. -/
theorem production_validateEvidenceRefs_eq_ok_iff {w : ProductionWorkflow} {t : ProductionTables}
    {refs : List EvidenceReference} :
    LaunchOS.validateEvidenceRefs w t refs = .ok () ↔ ∀ ref ∈ refs, ∃ row,
      Table.find Evidence.id ref.evidenceId t.evidence = some row ∧ row.scope = w.scope ∧
        row.status = ref.epistemicStatus := by
  induction refs with
  | nil => simp [LaunchOS.validateEvidenceRefs]
  | cons ref refs ih =>
      rw [LaunchOS.validateEvidenceRefs]
      simp only [Except.bind_eq_ok_iff, orRaise_eq_ok_iff, TenantScope.assertMatches_eq_ok_iff,
        require_eq_ok_iff, List.mem_cons, forall_eq_or_imp, ih]
      constructor
      · rintro ⟨row, hfind, _, hscope, _, hstatus, hrest⟩
        exact ⟨⟨row, hfind, hscope.symm, hstatus⟩, hrest⟩
      · rintro ⟨⟨row, hfind, hscope, hstatus⟩, hrest⟩
        exact ⟨row, hfind, (), hscope.symm, (), hstatus, hrest⟩

theorem BuiltFrom.colon_mem {item : EvidenceItem} (h : BuiltFrom T scope item) :
    ':' ∈ item.provenanceRef.toList := by
  obtain ⟨reference, status, -, rfl⟩ := h
  rw [toList_provenanceRef]
  exact List.mem_append_right _ List.mem_cons_self

theorem BuiltFrom.colon_not_mem {item : EvidenceItem} (h : BuiltFrom T scope item)
    (hids : T.PlainIds) (htype : item.sourceObjectType = "evidence") :
    ':' ∉ item.sourceObjectId.toList := by
  obtain ⟨row, hfind, -, -⟩ := h.evidence htype
  rw [← Table.key_of_find hfind]
  exact hids row (Table.mem_of_find hfind)

theorem names_manifestItem {item : EvidenceItem} {ref : String} :
    (manifestItem item).Names ref ↔ item.provenanceRef = ref ∨
      item.sourceObjectType = "evidence" ∧ item.sourceObjectId = ref := by
  simp [ContextItem.Names, manifestItem]

variable (hbuilt : ∀ item ∈ items, BuiltFrom T scope item) (hids : T.PlainIds)
include hbuilt hids

/-- The status that is advertised for a reference. -/
theorem eq_of_names {item item' : EvidenceItem} (hitem : item ∈ items) (hitem' : item' ∈ items)
    {ref : String}
    (hnames : item.provenanceRef = ref ∨
      item.sourceObjectType = "evidence" ∧ item.sourceObjectId = ref)
    (hnames' : item'.provenanceRef = ref ∨
      item'.sourceObjectType = "evidence" ∧ item'.sourceObjectId = ref) : item = item' := by
  have h := hbuilt item hitem
  have h' := hbuilt item' hitem'
  rcases hnames with hprovenance | ⟨htype, hid⟩
  · rcases hnames' with hprovenance' | ⟨htype', hid'⟩
    · exact h.eq_of_provenanceRef h' (hprovenance.trans hprovenance'.symm)
    · have hcolon := h.colon_mem
      rw [hprovenance, ← hid'] at hcolon
      exact absurd hcolon (h'.colon_not_mem hids htype')
  · rcases hnames' with hprovenance' | ⟨htype', hid'⟩
    · have hcolon := h'.colon_mem
      rw [hprovenance', ← hid] at hcolon
      exact absurd hcolon (h.colon_not_mem hids htype)
    · exact h.eq_of_sourceObject h' (htype.trans htype'.symm) (hid.trans hid'.symm)

/-- The manifest gives back what is advertised. -/
theorem lookup_manifest {ref : EvidenceReference} (href : Advertised items ref) :
    (manifestEvidenceRefStatuses (items.map manifestItem)).lookup ref.evidenceId =
      some ref.epistemicStatus.value := by
  obtain ⟨item, hitem, hstatus, hnames⟩ := advertised_iff.mp href
  refine lookup_eq_some_of_unique ?_ fun other hother => ?_
  · rw [mem_manifestEvidenceRefStatuses]
    exact ⟨_, List.mem_map_of_mem hitem, names_manifestItem.mpr hnames,
      congrArg some (congrArg EpistemicStatus.value hstatus)⟩
  · rw [mem_manifestEvidenceRefStatuses] at hother
    obtain ⟨entry, hentry, hnames', hvalue⟩ := hother
    obtain ⟨item', hitem', rfl⟩ := List.mem_map.mp hentry
    obtain rfl := eq_of_names hbuilt hids hitem hitem' hnames
      (names_manifestItem.mp hnames')
    rw [← hstatus]
    exact (Option.some.inj hvalue).symm

/-- A production workflow accepts the ids of the rows of `evidence` only. -/
theorem production_accepts_iff {w : ProductionWorkflow} {t : ProductionTables}
    (hscope : w.scope = scope) (hrows : t.evidence = T.evidence) {refs : List EvidenceReference}
    (hrefs : ∀ ref ∈ refs, Advertised items ref) :
    LaunchOS.validateEvidenceRefs w t refs = .ok () ↔ ∀ ref ∈ refs, NamesEvidence items ref := by
  rw [production_validateEvidenceRefs_eq_ok_iff, hrows, hscope]
  refine forall₂_congr fun ref href => ?_
  obtain ⟨item, hitem, hstatus, hnames⟩ := advertised_iff.mp (hrefs ref href)
  constructor
  · rintro ⟨row, hfind, -, -⟩
    rcases hnames with hprovenance | hid
    · have hcolon := (hbuilt item hitem).colon_mem
      rw [hprovenance, ← Table.key_of_find hfind] at hcolon
      exact absurd hcolon (hids row (Table.mem_of_find hfind))
    · exact ⟨item, hitem, hid⟩
  · rintro ⟨item', hitem', htype', hid'⟩
    obtain rfl := eq_of_names hbuilt hids hitem hitem' hnames (.inr ⟨htype', hid'⟩)
    obtain ⟨row, hfind, hrow, hvalue⟩ := (hbuilt item hitem).evidence htype'
    exact ⟨row, hid' ▸ hfind, hrow, hvalue.trans hstatus⟩

/-- A context that shows the snapshot was built from it. -/
theorem snapshot_of_shows {snapshotId : Id}
    (hshown : showsSnapshot (items.map manifestItem) snapshotId = true) :
    ∃ snapshot, T.businessSnapshot (toString snapshotId) = some snapshot ∧ snapshot.scope = scope := by
  obtain ⟨status, hlookup⟩ := Option.isSome_iff_exists.mp hshown
  obtain ⟨entry, hentry, hnames, -⟩ :=
    mem_manifestEvidenceRefStatuses.mp (mem_of_lookup_eq_some hlookup)
  obtain ⟨item, hitem, rfl⟩ := List.mem_map.mp hentry
  have hitem := hbuilt item hitem
  have hcolon : ':' ∈ ("business_snapshot:" ++ toString snapshotId).toList := by
    rw [String.toList_append]
    exact List.mem_append_left _ (by decide)
  rcases names_manifestItem.mp hnames with hprovenance | ⟨htype, hid⟩
  · obtain ⟨reference, status, hrow, rfl⟩ := hitem
    have hlists := congrArg String.toList hprovenance
    rw [toList_provenanceRef, String.toList_append,
      show "business_snapshot:".toList = "business_snapshot".toList ++ [':'] by decide,
      List.append_assoc] at hlists
    obtain ⟨htype, hid⟩ := split_colon (no_colon_of_row hrow) (by decide) hlists
    have htype := String.toList_inj.mp htype
    have hid := String.toList_inj.mp hid
    unfold ContextTables.row contextStatus at hrow
    rw [htype, hid] at hrow
    simp only [String.reduceEq, if_false, List.mem_cons, true_or, or_true, if_true,
      Except.ok.injEq, Option.map_eq_some_iff, Prod.mk.injEq] at hrow
    obtain ⟨snapshot, hsnapshot, hscope, -⟩ := hrow
    exact ⟨snapshot, hsnapshot, hscope⟩
  · rw [← hid] at hcolon
    exact absurd hcolon (hitem.colon_not_mem hids htype)

/-- A decision workflow accepts what its snapshot does not contradict. -/
theorem decision_accepts_iff {R : RunReader M} {w : DecisionWorkflow} {t : DecisionTables}
    {run : AgentRun M} (hscope : w.scope = scope) (hrun : run.scope = scope)
    (hmanifest : R.contextManifest run = items.map manifestItem)
    (hrows : Table.find BusinessSnapshot.id w.snapshotId t.businessSnapshots =
      T.businessSnapshot (toString w.snapshotId)) {refs : List EvidenceReference}
    (hrefs : ∀ ref ∈ refs, Advertised items ref) :
    DecisionWorkflow.validateEvidenceRefs R w t run refs = .ok () ↔
      (showsSnapshot (items.map manifestItem) w.snapshotId = true →
        ∀ snapshot, T.businessSnapshot (toString w.snapshotId) = some snapshot →
          ∀ ref ∈ refs, ∀ status, snapshot.statusOf ref.evidenceId = some status →
            status = ref.epistemicStatus.value) := by
  have hlookup := fun ref href => lookup_manifest hbuilt hids (hrefs ref href)
  unfold DecisionWorkflow.validateEvidenceRefs
  rw [Except.bind_eq_ok_iff]
  simp only [agentRunEvidenceRefStatuses_eq_ok_iff, Except.forM_eq_ok_iff,
    validateEvidenceRef_eq_ok_iff, hmanifest]
  have hbelongs : w.scope = run.scope := hscope.trans hrun.symm
  by_cases hshown : showsSnapshot (items.map manifestItem) w.snapshotId = true
  · obtain ⟨snapshot, hsnapshot, hmine⟩ := snapshot_of_shows hbuilt hids hshown
    have hstatuses : recordedStatuses (items.map manifestItem) w.snapshotId t = some
        ((snapshot.evidence.map fun item => (item.id, item.status)).reverse ++
          manifestEvidenceRefStatuses (items.map manifestItem)) := by
      rw [recordedStatuses, if_pos hshown, hrows, hsnapshot, Option.map_some]
    have hfound : ∀ ref ∈ refs,
        (((snapshot.evidence.map fun item => (item.id, item.status)).reverse ++
          manifestEvidenceRefStatuses (items.map manifestItem)).lookup ref.evidenceId =
            some ref.epistemicStatus.value ↔ ∀ status,
              snapshot.statusOf ref.evidenceId = some status →
                status = ref.epistemicStatus.value) := by
      intro ref href
      rw [List.lookup_append, hlookup ref href, BusinessSnapshot.statusOf]
      cases List.lookup ref.evidenceId
        (snapshot.evidence.map fun item => (item.id, item.status)).reverse <;> simp
    constructor
    · rintro ⟨statuses, ⟨-, hrecorded, -⟩, hall⟩ - other hother ref href
      cases hstatuses.symm.trans hrecorded
      cases hsnapshot.symm.trans hother
      exact (hfound ref href).mp (hall ref href)
    · intro hall
      refine ⟨_, ⟨hbelongs, hstatuses, fun _ other hother => ?_⟩, fun ref href =>
        (hfound ref href).mpr (hall hshown snapshot hsnapshot ref href)⟩
      rw [hrows, hsnapshot] at hother
      cases hother
      exact hscope.trans hmine.symm
  · have hstatuses : recordedStatuses (items.map manifestItem) w.snapshotId t = some
        (manifestEvidenceRefStatuses (items.map manifestItem)) := by
      rw [recordedStatuses, if_neg hshown]
    constructor
    · exact fun _ hshown' => absurd hshown' hshown
    · exact fun _ => ⟨_, ⟨hbelongs, hstatuses, fun hshown' => absurd hshown' hshown⟩, hlookup⟩

end Accepted

/-- What a context advertises is accepted by the decision workflow, unless the snapshot that the
context shows says otherwise, and by the production workflow if and only if it is no provenance
reference. -/
theorem advertised_refs_accepted_iff {T : ContextTables} (hids : T.PlainIds) {scope : TenantScope}
    {contract : ContextContract} {maxItems : ℕ} {requestedRefs : List ContextReference}
    {items : List EvidenceItem}
    (hbuilt : buildContext T scope contract maxItems requestedRefs = .ok items)
    {refs : List EvidenceReference} (hrefs : ∀ ref ∈ refs, Advertised items ref) :
    (∀ (R : RunReader M) (w : DecisionWorkflow) (t : DecisionTables) (run : AgentRun M),
      w.scope = scope → run.scope = scope → R.contextManifest run = items.map manifestItem →
      Table.find BusinessSnapshot.id w.snapshotId t.businessSnapshots =
        T.businessSnapshot (toString w.snapshotId) →
      (DecisionWorkflow.validateEvidenceRefs R w t run refs = .ok () ↔
        (showsSnapshot (items.map manifestItem) w.snapshotId = true →
          ∀ snapshot, T.businessSnapshot (toString w.snapshotId) = some snapshot →
            ∀ ref ∈ refs, ∀ status, snapshot.statusOf ref.evidenceId = some status →
              status = ref.epistemicStatus.value))) ∧
    (∀ (w : ProductionWorkflow) (t : ProductionTables), w.scope = scope →
      t.evidence = T.evidence →
      (LaunchOS.validateEvidenceRefs w t refs = .ok () ↔ ∀ ref ∈ refs, NamesEvidence items ref)) := by
  have hfrom := builtFrom_of_buildContext hbuilt
  refine ⟨fun R w t run hscope hrun hmanifest hrows => ?_, fun w t hscope hrows => ?_⟩
  · exact decision_accepts_iff hfrom hids hscope hrun hmanifest hrows hrefs
  · exact production_accepts_iff hfrom hids hscope hrows hrefs

/-! ### The context of a content director -/

/-- One row of evidence, a snapshot that shows it, and a Decision. -/
def directorTables : ContextTables where
  evidence := [⟨"3", demoScope, .fact⟩]
  businessSnapshot key := if key = "1" then some ⟨1, demoScope, [⟨"3", "FACT"⟩]⟩ else none
  tenant reference := if reference = ⟨"decision", "5"⟩ then some demoScope else none
  occurredAt _ := none

/-- The contract of `production/registry.py`. -/
def directorContract : ContextContract where
  allowedContextTypes := ["business_snapshot", "decision", "evidence"]
  requiredContextTypes := ["business_snapshot", "decision"]

/-- The context of `_ensure_content_strategy_run`. -/
def directorItems : List EvidenceItem :=
  [directorTables.item ⟨"business_snapshot", "1"⟩ .fact,
    directorTables.item ⟨"decision", "5"⟩ .observation,
    directorTables.item ⟨"evidence", "3"⟩ .fact]

theorem directorItems_built : buildContext directorTables demoScope directorContract 20
    [⟨"business_snapshot", "1"⟩, ⟨"decision", "5"⟩, ⟨"evidence", "3"⟩] = .ok directorItems := by
  decide +kernel

def directorWorkflow : ProductionWorkflow where
  id := 6
  scope := demoScope
  decisionId := 5
  decisionVersion := 1
  decisionApprovalId := 7
  snapshotId := 1
  maxRevisionRounds := 1

/-- The bare id is accepted by either workflow. -/
theorem bare_evidence_ref_accepted :
    (DecisionWorkflow.validateEvidenceRefs (plainReader (directorItems.map manifestItem))
        { id := 2, scope := demoScope, launchId := none, snapshotId := 1, maxRevisionRounds := 1 }
        { businessSnapshots := [⟨1, demoScope, [⟨"3", "FACT"⟩]⟩] }
        { id := 4, scope := demoScope, contractKey := "ai.chief_strategy", contractVersion := 1,
          inputRef := none, idempotencyKey := none }
        [⟨"3", .fact, ""⟩] = .ok () ↔
      (showsSnapshot (directorItems.map manifestItem) 1 = true →
        ∀ snapshot, directorTables.businessSnapshot (toString 1) = some snapshot →
          ∀ ref ∈ [(⟨"3", .fact, ""⟩ : EvidenceReference)], ∀ status,
            snapshot.statusOf ref.evidenceId = some status →
              status = ref.epistemicStatus.value)) ∧
    (LaunchOS.validateEvidenceRefs directorWorkflow
        { evidence := directorTables.evidence } [⟨"3", .fact, ""⟩] = .ok () ↔
      ∀ ref ∈ [(⟨"3", .fact, ""⟩ : EvidenceReference)], NamesEvidence directorItems ref) := by
  have hrefs : ∀ ref ∈ [(⟨"3", .fact, ""⟩ : EvidenceReference)], Advertised directorItems ref := by
    decide +kernel
  have hboth := advertised_refs_accepted_iff (M := AgentOutput) (T := directorTables)
    (by unfold ContextTables.PlainIds; decide) directorItems_built hrefs
  exact ⟨hboth.1 (plainReader (directorItems.map manifestItem)) _ _ _ rfl rfl rfl (by decide +kernel),
    hboth.2 directorWorkflow _ rfl rfl⟩

/-- The provenance reference of the same row is advertised as well, and production does not know
it. -/
theorem provenance_ref_unknown :
    buildContext directorTables demoScope directorContract 20
      [⟨"business_snapshot", "1"⟩, ⟨"decision", "5"⟩, ⟨"evidence", "3"⟩] = .ok directorItems ∧
    Advertised directorItems ⟨"evidence:3", .fact, ""⟩ ∧
    LaunchOS.validateEvidenceRefs directorWorkflow { evidence := directorTables.evidence }
      [⟨"evidence:3", .fact, ""⟩] =
        .error (.permanentJobError "unknown evidence ref: evidence:3") :=
  ⟨directorItems_built, by decide +kernel, by decide +kernel⟩

end LaunchOS
