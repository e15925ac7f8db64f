import LaunchOS.Runtime.SecretScan

/-!
# The content of context items

The items that `ContextBuilder` makes of rows with a JSON payload: the payload is scanned, written as
JSON, cut to the budget, and scanned again as a text, on its own or within the whole context.

The module introduces:

* `ContextBuilder.Item`, `ContextBuilder.contextPayload`, `ContextBuilder.manifest`: what is built;
* `PayloadRow`, `PayloadRow.item`: the rows, and the item of each;
* `PayloadRow.written`: what the content holds of the strings of the payload;
* `context_ok_iff`: when a payload that was accepted does not stop the context.
-/

namespace LaunchOS

open Security

/-- A text of JSON. -/
abbrev Text := List Char

/-- `_stable_hash`: the hexadecimal digest of a value. -/
structure StableHash where
  digest : Json → Text
  hexadecimal : ∀ value, '=' ∉ digest value

namespace ContextBuilder

/-! ## Items -/

/-- `ContextItem`; times are written in ISO format. -/
structure Item where
  organizationId : Text
  businessId : Text
  sourceObjectType : Text
  sourceObjectId : Text
  provenanceRef : Text
  epistemicStatus : Text
  trustClass : Text
  dataBoundary : Text
  occurredAt : Option Text
  recordedAt : Option Text
  content : Text
  structuredProjection : Json
  sensitivity : Text := "INTERNAL".toList
  retention : Text := "STANDARD".toList

/-- A column that may be null. -/
def optionalText : Option Text → Json
  | none => .null
  | some text => .string text

/-- An object, with its keys as strings. -/
def fields (entries : List (String × Json)) : Json :=
  .object (entries.map fun entry => (entry.1.toList, entry.2))

/-- `model_dump(mode="json")` -/
def Item.modelDump (item : Item) : Json :=
  fields [
    ("organization_id", .string item.organizationId),
    ("business_id", .string item.businessId),
    ("source_object_type", .string item.sourceObjectType),
    ("source_object_id", .string item.sourceObjectId),
    ("provenance_ref", .string item.provenanceRef),
    ("epistemic_status", .string item.epistemicStatus),
    ("trust_class", .string item.trustClass),
    ("data_boundary", .string item.dataBoundary),
    ("occurred_at", optionalText item.occurredAt),
    ("recorded_at", optionalText item.recordedAt),
    ("content", .string item.content),
    ("structured_projection", item.structuredProjection),
    ("sensitivity", .string item.sensitivity),
    ("retention", .string item.retention)]

/-- `manifest_entry` -/
def Item.manifestEntry (H : StableHash) (item : Item) : Json :=
  fields [
    ("organization_id", .string item.organizationId),
    ("business_id", .string item.businessId),
    ("source_object_type", .string item.sourceObjectType),
    ("source_object_id", .string item.sourceObjectId),
    ("provenance_ref", .string item.provenanceRef),
    ("epistemic_status", .string item.epistemicStatus),
    ("trust_class", .string item.trustClass),
    ("data_boundary", .string item.dataBoundary),
    ("occurred_at", optionalText item.occurredAt),
    ("recorded_at", optionalText item.recordedAt),
    ("content_hash", .string (H.digest item.modelDump)),
    ("sensitivity", .string item.sensitivity),
    ("retention", .string item.retention)]

/-- `_allowed_evidence_refs`, of one item. -/
def Item.allowedRefs (item : Item) : List Json :=
  let ref (evidenceId : Text) : Json :=
    fields [("evidence_id", .string evidenceId), ("epistemic_status", .string item.epistemicStatus)]
  if item.sourceObjectType = "evidence".toList then
    [ref item.provenanceRef, ref item.sourceObjectId]
  else [ref item.provenanceRef]

/-- The rule that comes with the references. -/
def outputRule : Text :=
  ("If the output schema includes evidence_refs, evidence_id must be one of allowed_refs exactly " ++
    "and must use the listed epistemic_status. Do not use IDs embedded inside content unless they " ++
    "are listed here.").toList

/-- `context_payload` -/
def contextPayload (purpose : Text) (items : List Item) : Json :=
  fields [
    ("schema_name", .string "AgentScopedContext".toList),
    ("schema_version", .number (.ofNat 1)),
    ("purpose", .string purpose),
    ("evidence_ref_policy", fields [
      ("allowed_refs", .array (items.flatMap Item.allowedRefs)),
      ("output_rule", .string outputRule)]),
    ("items", .array (items.map Item.modelDump))]

/-- `manifest` -/
def manifest (H : StableHash) (purpose : Text) (items : List Item) : Json :=
  fields [
    ("schema_name", .string "AgentContextManifest".toList),
    ("schema_version", .number (.ofNat 1)),
    ("purpose", .string purpose),
    ("item_count", .number (.ofNat items.length)),
    ("items", .array (items.map (Item.manifestEntry H))),
    ("context_hash", .string (H.digest (contextPayload purpose items)))]

/-- The scans at the end of `ContextBuilder.build`. -/
def assertContext (H : StableHash) (purpose : Text) (items : List Item) : Except JobError Unit := do
  (contextPayload purpose items).assertNoSecrets "payload".toList
  (manifest H purpose items).assertNoSecrets "payload".toList

/-! ## The content -/

/-- `value[:stop]` -/
def upTo (stop : ℤ) (text : Text) : Text :=
  text.take (if 0 ≤ stop then stop else text.length + stop).toNat

/-- `_truncate` -/
def truncate (text : Text) (maxChars : ℕ) : Text :=
  if text.length ≤ maxChars then text else upTo (maxChars - 3) text ++ "...".toList

/-- `_json_content` of `production/context.py`. -/
def jsonContent (payload : Json) : Text := upTo 600 (payload.dumps .compact)

/-- What the constructors have in common: the payload is scanned and, where `scanned` says so, the
content is as well. -/
def payloadItem (payload : Json) (budget : ℕ) (scanned : Bool) (item : Text → Item) :
    Except JobError Item := do
  payload.assertNoSecrets "payload".toList
  let content := truncate (payload.dumps .spaced) budget
  if scanned then
    (Json.string content).assertNoSecrets "payload".toList
  return item content

/-! ## The rows -/

/-- A row of `source_records`. -/
structure SourceRecordRow where
  id : Text
  provider : Text
  externalId : Text
  sourceType : Text
  trust : Text
  payload : Json
  sourceOccurredAt : Option Text
  ingestedAt : Text

/-- A row of `business_snapshots`. -/
structure SnapshotRow where
  id : Text
  version : ℕ
  reason : Text
  payload : Json
  createdAt : Text

/-- A row of `specialist_contributions`. -/
structure SpecialistContributionRow where
  id : Text
  contractKey : Text
  schemaVersion : ℕ
  role : Text
  payload : Json
  createdAt : Text

/-- A row of `decision_candidates`. -/
structure DecisionCandidateRow where
  id : Text
  versionNumber : ℕ
  status : Text
  selectedAction : Text
  payload : Json
  createdAt : Text

/-- A row of `controller_reviews`. -/
structure ControllerReviewRow where
  id : Text
  controllerType : Option Text
  controllerName : Text
  verdict : Text
  issues : List Text
  requiredChanges : List Text
  conditions : List Text
  createdAt : Text
  updatedAt : Text

/-- A row of `content_strategies`. -/
structure ContentStrategyRow where
  id : Text
  decisionId : Text
  snapshotId : Text
  payload : Json
  evidenceRefs : Json
  createdAt : Text

/-- `_trust` -/
def trustClass (value : Text) : Text :=
  if value ∈ ["UNTRUSTED_EXTERNAL", "CONNECTOR", "USER_PROVIDED", "INTERNAL_SYSTEM"].map String.toList
  then value else "UNTRUSTED_EXTERNAL".toList

/-- A string of the items: `f"\x7bobject_type\x7d:\x7bobject_id\x7d"`. -/
def provenance (objectType : String) (objectId : Text) : Text :=
  objectType.toList ++ ':' :: objectId

/-- `_source_record_item`, up to its content. -/
def SourceRecordRow.itemWith (scope : TenantScope) (row : SourceRecordRow) (content : Text) : Item where
  organizationId := scope.organizationId.toList
  businessId := scope.businessId.toList
  sourceObjectType := "source_record".toList
  sourceObjectId := row.id
  provenanceRef := provenance "source_record" row.id
  epistemicStatus := "OBSERVATION".toList
  trustClass := trustClass row.trust
  dataBoundary := "UNTRUSTED_DATA".toList
  occurredAt := row.sourceOccurredAt
  recordedAt := some row.ingestedAt
  content := content
  structuredProjection := fields [("provider", .string row.provider),
    ("external_id", .string row.externalId), ("source_type", .string row.sourceType)]
  sensitivity := "CONFIDENTIAL".toList

/-- An item of the application itself. -/
def internalItem (scope : TenantScope) (objectType : String) (objectId : Text) (status : String)
    (occurredAt recordedAt : Option Text) (content : Text) (projection : Json) : Item where
  organizationId := scope.organizationId.toList
  businessId := scope.businessId.toList
  sourceObjectType := objectType.toList
  sourceObjectId := objectId
  provenanceRef := provenance objectType objectId
  epistemicStatus := status.toList
  trustClass := "INTERNAL_SYSTEM".toList
  dataBoundary := "TRUSTED_INTERNAL_DATA".toList
  occurredAt := occurredAt
  recordedAt := recordedAt
  content := content
  structuredProjection := projection

/-- `_snapshot_item`, up to its content. -/
def SnapshotRow.itemWith (scope : TenantScope) (row : SnapshotRow) (content : Text) : Item :=
  { internalItem scope "business_snapshot" row.id "FACT" (some row.createdAt) (some row.createdAt)
      content (fields [("snapshot_id", .string row.id), ("version", .number (.ofNat row.version)),
        ("reason", .string row.reason)]) with
    retention := "AUDIT".toList }

/-- `_specialist_contribution_item`, up to its content. -/
def SpecialistContributionRow.itemWith (scope : TenantScope) (row : SpecialistContributionRow)
    (content : Text) : Item :=
  { internalItem scope "specialist_contribution" row.id "OBSERVATION" (some row.createdAt)
      (some row.createdAt) content (fields [("role", .string row.role),
        ("contract_key", .string row.contractKey),
        ("schema_version", .number (.ofNat row.schemaVersion))]) with
    retention := "AUDIT".toList }

/-- `_decision_candidate_item`, up to its content. -/
def DecisionCandidateRow.itemWith (scope : TenantScope) (row : DecisionCandidateRow)
    (content : Text) : Item :=
  { internalItem scope "decision_candidate" row.id "HYPOTHESIS" (some row.createdAt)
      (some row.createdAt) content (fields [("version_number", .number (.ofNat row.versionNumber)),
        ("selected_action", .string row.selectedAction), ("status", .string row.status)]) with
    retention := "AUDIT".toList }

/-- The payload that `_controller_review_item` makes of the row; the keys stand in their order. -/
def ControllerReviewRow.payload (row : ControllerReviewRow) : Json :=
  fields [
    ("conditions", .array (row.conditions.map .string)),
    ("controller_type", .string (row.controllerType.getD row.controllerName)),
    ("issues", .array (row.issues.map .string)),
    ("required_changes", .array (row.requiredChanges.map .string)),
    ("verdict", .string row.verdict)]

/-- `_controller_review_item`, up to its content. -/
def ControllerReviewRow.itemWith (scope : TenantScope) (row : ControllerReviewRow)
    (content : Text) : Item :=
  { internalItem scope "controller_review" row.id "OBSERVATION" (some row.createdAt)
      (some row.updatedAt) content row.payload with
    retention := "AUDIT".toList }

/-- The item of a `content_strategy`, up to its content. -/
def ContentStrategyRow.itemWith (scope : TenantScope) (row : ContentStrategyRow)
    (content : Text) : Item :=
  internalItem scope "content_strategy" row.id "OBSERVATION" none (some row.createdAt) content
    (fields [("decision_id", .string row.decisionId), ("snapshot_id", .string row.snapshotId),
      ("payload", row.payload), ("evidence_refs", row.evidenceRefs)])

/-- A row with a payload that was scanned when it was stored. -/
inductive PayloadRow
  | sourceRecord (row : SourceRecordRow)
  | snapshot (row : SnapshotRow)
  | specialistContribution (row : SpecialistContributionRow)
  | decisionCandidate (row : DecisionCandidateRow)
  | controllerReview (row : ControllerReviewRow)
  | contentStrategy (row : ContentStrategyRow)

namespace PayloadRow

def payload : PayloadRow → Json
  | .sourceRecord row => row.payload
  | .snapshot row => row.payload
  | .specialistContribution row => row.payload
  | .decisionCandidate row => row.payload
  | .controllerReview row => row.payload
  | .contentStrategy row => row.payload

def itemWith (scope : TenantScope) : PayloadRow → Text → Item
  | .sourceRecord row => row.itemWith scope
  | .snapshot row => row.itemWith scope
  | .specialistContribution row => row.itemWith scope
  | .decisionCandidate row => row.itemWith scope
  | .controllerReview row => row.itemWith scope
  | .contentStrategy row => row.itemWith scope

/-- The item of a row. -/
def item (scope : TenantScope) (budget : ℕ) : PayloadRow → Except JobError Item
  | .sourceRecord row => payloadItem row.payload budget true (row.itemWith scope)
  | .snapshot row => payloadItem row.payload budget true (row.itemWith scope)
  | .specialistContribution row => payloadItem row.payload budget false (row.itemWith scope)
  | .decisionCandidate row => payloadItem row.payload budget false (row.itemWith scope)
  | .controllerReview row => payloadItem row.payload budget false (row.itemWith scope)
  | .contentStrategy row => do
      let item := row.itemWith scope (jsonContent row.payload)
      (Json.string item.content).assertNoSecrets "payload".toList
      item.structuredProjection.assertNoSecrets "payload".toList
      return item

/-- What the content holds of the strings of the payload: each as it is written, with its closing
quote, or up to the cut and with what stands for the rest. -/
def written (budget : ℕ) (row : PayloadRow) : List Text :=
  match row with
  | .contentStrategy row => Json.written [] 600 (row.payload.tokens .compact)
  | row =>
      let text := row.payload.dumps .spaced
      if text.length ≤ budget then Json.written [] text.length (row.payload.tokens .spaced)
      else Json.written "...".toList (budget - 3) (row.payload.tokens .spaced)

end PayloadRow

/-! ## The scans of a context -/

section Accepted

variable {H : StableHash}

/-- The same item, with nothing in its content. -/
def Item.bare (item : Item) : Item := { item with content := [] }

theorem accepted_modelDump (item : Item) : item.modelDump.accepted =
    (item.bare.modelDump.accepted && !hasSecretAssignment item.content) := by
  have hnil : hasSecretAssignment [] = false := by decide
  simp only [Item.modelDump, Item.bare, fields, List.map_cons, List.map_nil, Json.accepted,
    Json.acceptedFields, Json.acceptedField, hnil]
  cases hasSecretAssignment item.content <;> simp

theorem accepted_manifestEntry (item : Item) :
    (item.manifestEntry H).accepted = (item.bare.manifestEntry H).accepted := by
  have hdigest : ∀ value, hasSecretAssignment (H.digest value) = false := fun value =>
    hasSecretAssignment_of_not_mem (H.hexadecimal value)
  simp only [Item.manifestEntry, Item.bare, fields, List.map_cons, List.map_nil, Json.accepted,
    Json.acceptedFields, Json.acceptedField, hdigest]

theorem assertContext_eq_ok_iff {purpose : Text} {items : List Item} :
    assertContext H purpose items = .ok () ↔
      (contextPayload purpose items).accepted = true ∧
        (manifest H purpose items).accepted = true := by
  rw [assertContext, Except.bind_eq_ok_iff, ← Json.assertNoSecrets_eq_ok_iff "payload".toList,
    ← Json.assertNoSecrets_eq_ok_iff "payload".toList]
  constructor
  · rintro ⟨_, hfirst, hsecond⟩
    exact ⟨hfirst, hsecond⟩
  · rintro ⟨hfirst, hsecond⟩
    exact ⟨_, hfirst, hsecond⟩

theorem assertContext_ok_iff (purpose : Text) (before after : List Item) (item : Item) :
    assertContext H purpose (before ++ item :: after) = .ok () ↔
      assertContext H purpose (before ++ item.bare :: after) = .ok () ∧
        hasSecretAssignment item.content = false := by
  have hpayload : (contextPayload purpose (before ++ item :: after)).accepted =
      ((contextPayload purpose (before ++ item.bare :: after)).accepted &&
        !hasSecretAssignment item.content) := by
    have hrefs : item.bare.allowedRefs = item.allowedRefs := rfl
    simp only [contextPayload, fields, List.map_cons, List.map_nil, List.map_append,
      List.flatMap_append, List.flatMap_cons, Json.accepted, Json.acceptedFields,
      Json.acceptedField, Json.acceptedItems_append, Json.acceptedItems, accepted_modelDump item,
      hrefs]
    cases hasSecretAssignment item.content <;> simp
  have hmanifest : (manifest H purpose (before ++ item :: after)).accepted =
      (manifest H purpose (before ++ item.bare :: after)).accepted := by
    have hdigest : ∀ value, hasSecretAssignment (H.digest value) = false := fun value =>
      hasSecretAssignment_of_not_mem (H.hexadecimal value)
    simp only [manifest, fields, List.map_cons, List.map_nil, List.map_append, Json.accepted,
      Json.acceptedFields, Json.acceptedField, Json.acceptedItems_append, Json.acceptedItems,
      accepted_manifestEntry item, hdigest]
  rw [assertContext_eq_ok_iff, assertContext_eq_ok_iff, hpayload, hmanifest, Bool.and_eq_true,
    Bool.not_eq_true']
  exact and_right_comm

end Accepted

/-! ## Accepted payloads -/

section Written

theorem quiet_spaced : Json.Separators.Quiet '=' .spaced := by
  constructor <;> decide

theorem quiet_compact : Json.Separators.Quiet '=' .compact := by
  constructor <;> decide

/-- The content that a row is given. -/
def PayloadRow.content (budget : ℕ) : PayloadRow → Text
  | .contentStrategy row => jsonContent row.payload
  | row => truncate (row.payload.dumps .spaced) budget

/-- The content holds an assignment if one of the strings does, as far as it is in the content. -/
theorem PayloadRow.scan_content (row : PayloadRow) {budget : ℕ} (hbudget : 3 ≤ budget) :
    hasSecretAssignment (row.content budget) = (row.written budget).any hasSecretAssignment := by
  have htruncate : ∀ payload : Json,
      hasSecretAssignment (truncate (payload.dumps .spaced) budget) =
      (if (payload.dumps .spaced).length ≤ budget then
          Json.written [] (payload.dumps .spaced).length (payload.tokens .spaced)
        else Json.written "...".toList (budget - 3) (payload.tokens .spaced)).any
          hasSecretAssignment := by
    intro payload
    have hscan := fun (tail : List Char) (htail : '=' ∉ tail) k =>
      scan_secretAssignment.dumps quiet_spaced htail payload k
    unfold truncate
    split
    next =>
      rw [← hscan [] (by simp), List.take_length, List.append_nil]
    next =>
      have hstop : (budget : ℤ) - 3 = ((budget - 3 : ℕ) : ℤ) := by omega
      rw [← hscan _ (by decide), upTo, hstop, if_pos (Int.natCast_nonneg _), Int.toNat_natCast]
  cases row with
  | contentStrategy row =>
      have hscan := scan_secretAssignment.dumps quiet_compact (show '=' ∉ [] by simp) row.payload 600
      rw [List.append_nil] at hscan
      exact hscan
  | sourceRecord row | snapshot row | specialistContribution row | decisionCandidate row
  | controllerReview row => exact htruncate row.payload

end Written

section Rows

variable {H : StableHash} {scope : TenantScope} {row : PayloadRow} {budget : ℕ}

theorem PayloadRow.content_itemWith (scope : TenantScope) (row : PayloadRow) (content : Text) :
    (row.itemWith scope content).content = content := by
  cases row <;> rfl

theorem PayloadRow.bare_itemWith (scope : TenantScope) (row : PayloadRow) (content : Text) :
    (row.itemWith scope content).bare = row.itemWith scope [] := by
  cases row <;> rfl

theorem PayloadRow.eq_of_item {item : Item} (h : row.item scope budget = .ok item) :
    item = row.itemWith scope (row.content budget) := by
  have hpayload : ∀ {payload : Json} {scanned : Bool} {make : Text → Item},
      payloadItem payload budget scanned make = .ok item →
        item = make (truncate (payload.dumps .spaced) budget) := by
    intro payload scanned make hitem
    obtain ⟨_, -, hitem⟩ := Except.bind_eq_ok_iff.mp hitem
    dsimp only at hitem
    split at hitem
    next =>
      obtain ⟨_, -, hitem⟩ := Except.bind_eq_ok_iff.mp hitem
      exact (Except.pure_eq_ok_iff.mp hitem).symm
    next => exact (Except.pure_eq_ok_iff.mp hitem).symm
  cases row with
  | contentStrategy row =>
      obtain ⟨_, -, h⟩ := Except.bind_eq_ok_iff.mp h
      obtain ⟨_, -, h⟩ := Except.bind_eq_ok_iff.mp h
      exact (Except.pure_eq_ok_iff.mp h).symm
  | sourceRecord row | snapshot row | specialistContribution row | decisionCandidate row
  | controllerReview row => exact hpayload h

/-- An item is made where its parts pass the scan. -/
theorem PayloadRow.item_eq_ok (hpayload : row.payload.accepted = true)
    (hprojection : (row.itemWith scope []).structuredProjection.accepted = true)
    (hcontent : hasSecretAssignment (row.content budget) = false) :
    row.item scope budget = .ok (row.itemWith scope (row.content budget)) := by
  have hscan : (Json.string (row.content budget)).assertNoSecrets "payload".toList = .ok () := by
    rw [Json.assertNoSecrets_eq_ok_iff, Json.accepted, hcontent]
    rfl
  have hmake : ∀ {payload : Json} (scanned : Bool) {make : Text → Item},
      payload.accepted = true → (Json.string (truncate (payload.dumps .spaced) budget)).assertNoSecrets
        "payload".toList = .ok () →
      payloadItem payload budget scanned make =
        .ok (make (truncate (payload.dumps .spaced) budget)) := by
    intro payload scanned make haccepted htext
    rw [payloadItem, (Json.assertNoSecrets_eq_ok_iff _ payload).mpr haccepted]
    cases scanned with
    | false => rfl
    | true =>
        change (Json.assertNoSecrets _ (.string (truncate _ _)) >>= fun _ => _) = _
        rw [htext]
        rfl
  cases row with
  | contentStrategy row =>
      change (Json.assertNoSecrets _ (.string (jsonContent _)) >>= fun _ => _) = _
      rw [show Json.assertNoSecrets _ (.string (jsonContent row.payload)) = _ from hscan]
      have hscanned : (row.itemWith scope
          (jsonContent row.payload)).structuredProjection.assertNoSecrets "payload".toList =
            .ok () := (Json.assertNoSecrets_eq_ok_iff _ _).mpr hprojection
      change (Json.assertNoSecrets _ _ >>= fun _ => _) = _
      rw [hscanned]
      rfl
  | sourceRecord row | snapshot row => exact hmake true hpayload hscan
  | specialistContribution row | decisionCandidate row | controllerReview row =>
      exact hmake false hpayload hscan

theorem accepted_projection {item : Item} (h : item.modelDump.accepted = true) :
    item.structuredProjection.accepted = true := by
  simp only [Item.modelDump, fields, List.map_cons, List.map_nil, Json.accepted,
    Json.acceptedFields, Json.acceptedField, Bool.and_eq_true] at h
  obtain ⟨-, -, -, -, -, -, -, -, -, -, -, hprojection, -⟩ := h
  exact hprojection.2

/-- A payload that was accepted does not stop the context if and only if no string of it, as it is
written in the content, holds an assignment. The rest of the context passes. -/
theorem context_ok_iff (hbudget : 3 ≤ budget)
    (hpayload : row.payload.assertNoSecrets "payload".toList = .ok ()) {purpose : Text}
    {before after : List Item}
    (hrest : assertContext H purpose (before ++ row.itemWith scope [] :: after) = .ok ()) :
    (do
      let item ← row.item scope budget
      assertContext H purpose (before ++ item :: after)) = .ok () ↔
      ∀ text ∈ row.written budget, hasSecretAssignment text = false := by
  have hcontext : assertContext H purpose
      (before ++ row.itemWith scope (row.content budget) :: after) = .ok () ↔
        hasSecretAssignment (row.content budget) = false := by
    rw [assertContext_ok_iff, row.bare_itemWith, row.content_itemWith]
    exact and_iff_right hrest
  have hwritten : hasSecretAssignment (row.content budget) = false ↔
      ∀ text ∈ row.written budget, hasSecretAssignment text = false := by
    rw [row.scan_content hbudget, List.any_eq_false]
    simp only [Bool.not_eq_true]
  rw [← hwritten, Except.bind_eq_ok_iff]
  constructor
  · rintro ⟨item, hitem, hok⟩
    rw [PayloadRow.eq_of_item hitem] at hok
    exact hcontext.mp hok
  · intro hcontent
    refine ⟨_, PayloadRow.item_eq_ok ?_ ?_ hcontent, hcontext.mpr hcontent⟩
    · exact (Json.assertNoSecrets_eq_ok_iff _ _).mp hpayload
    · obtain ⟨_, haccepted, -⟩ := Except.bind_eq_ok_iff.mp hrest
      rw [Json.assertNoSecrets_eq_ok_iff] at haccepted
      simp only [contextPayload, fields, List.map_cons, List.map_nil, List.map_append,
        Json.accepted, Json.acceptedFields, Json.acceptedField, Json.acceptedItems_append,
        Json.acceptedItems, Bool.and_eq_true] at haccepted
      obtain ⟨-, -, -, -, hitems, -⟩ := haccepted
      exact accepted_projection hitems.2.2.1

end Rows

/-! ### Examples -/

/-- A snapshot of one field. -/
def notedSnapshot (key text : String) : SnapshotRow where
  id := "snapshot".toList
  version := 1
  reason := "start".toList
  payload := .object [(key.toList, .string text.toList)]
  createdAt := "2024-01-01T00:00:00+00:00".toList

def demoTenant : TenantScope := ⟨"organization", "business"⟩

/-- A digest of one letter. -/
def demoHash : StableHash := ⟨fun _ => ['0'], fun _ => by decide⟩

/-- An equals sign in a payload is not all that it takes. -/
theorem context_ok_of_plain_note :
    (do
      let item ← (PayloadRow.snapshot (notedSnapshot "note" "token= , none")).item demoTenant 600
      assertContext demoHash "chief".toList ([] ++ item :: [])) = .ok () ↔
      ∀ text ∈ (PayloadRow.snapshot (notedSnapshot "note" "token= , none")).written 600,
        hasSecretAssignment text = false := by
  have haccepted : (PayloadRow.snapshot (notedSnapshot "note" "token= , none")).payload.accepted =
      true := by
    decide +kernel
  have hcontext : ∀ item : Item, (contextPayload "chief".toList [item]).accepted = true →
      (manifest demoHash "chief".toList [item]).accepted = true →
      assertContext demoHash "chief".toList ([] ++ item :: []) = .ok () := by
    intro item hpayload hmanifest
    rw [assertContext, Except.bind_eq_ok_iff]
    exact ⟨_, (Json.assertNoSecrets_eq_ok_iff _ _).mpr hpayload,
      (Json.assertNoSecrets_eq_ok_iff _ _).mpr hmanifest⟩
  exact context_ok_iff (by decide) ((Json.assertNoSecrets_eq_ok_iff _ _).mpr haccepted)
    (hcontext _ (by decide +kernel) (by decide +kernel))

/-- The snapshot is accepted, and its item is not. -/
def StopsContext (row : SnapshotRow) (budget : ℕ) : Prop :=
  row.payload.assertNoSecrets "payload".toList = .ok () ∧
    (PayloadRow.snapshot row).item demoTenant budget =
      .error (.secretRejectedError "secret-like value rejected at payload")

theorem stopsContext_iff {row : SnapshotRow} {budget : ℕ} : StopsContext row budget ↔
    row.payload.accepted = true ∧
      hasSecretAssignment (truncate (row.payload.dumps .spaced) budget) = true := by
  rw [StopsContext, Json.assertNoSecrets_eq_ok_iff]
  refine and_congr_right fun haccepted => ?_
  rw [PayloadRow.item, payloadItem, (Json.assertNoSecrets_eq_ok_iff _ row.payload).mpr haccepted]
  change (Json.assertNoSecrets _ (.string (truncate _ _)) >>= fun _ => _) = _ ↔ _
  rw [Json.assertNoSecrets]
  cases hasSecretAssignment (truncate (row.payload.dumps .spaced) budget) with
  | false =>
      constructor
      · rintro ⟨⟩
      · rintro ⟨⟩
  | true => exact ⟨fun _ => rfl, fun _ => rfl⟩

/-- The closing quote, a key, an escape and the dots of a cut each make an assignment of a payload
that was accepted. -/
theorem accepted_payload_stops_context :
    StopsContext (notedSnapshot "note" "token =") 600 ∧
    StopsContext (notedSnapshot "api-key=x" "") 600 ∧
    StopsContext (notedSnapshot "note" "\token=x") 600 ∧
    StopsContext (notedSnapshot "note" "token= ,") 19 := by
  simp only [stopsContext_iff]
  decide +kernel

end ContextBuilder

end LaunchOS
