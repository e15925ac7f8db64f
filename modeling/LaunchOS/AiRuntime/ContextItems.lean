import LaunchOS.AiRuntime.ContextContent
import LaunchOS.AiRuntime.DomainTxn

/-!
# The rows and the items of a context

The item constructors of `ai_runtime/context.py` and `production/context.py`: what an agent is shown
of a row.

The module introduces:

* `BusinessRow`, `GoalRow` and so on: the rows without a scanned payload, and the item of each;
* `Row`, `Row.item`: any row that a context item is made of, and its item;
* `Row.eq_of_item`, `Row.shows_itemWith`: what the item of a row says of it.
-/

namespace LaunchOS

namespace ContextBuilder

open Txn

/-! ## Items of rows without a payload -/

/-- An item whose content is scanned. -/
def scannedItem (content : Text) (item : Text → Item) : Except JobError Item := do
  (Json.string content).assertNoSecrets "payload".toList
  return item content

/-- A row of `businesses`. -/
structure BusinessRow where
  id : Text
  name : Text
  timezone : Text
  version : ℕ
  createdAt : Text
  updatedAt : Text

namespace BusinessRow

def content (row : BusinessRow) : Text :=
  "Business name: ".toList ++ row.name ++ "; timezone: ".toList ++ row.timezone

/-- `_business_item`, up to its content. -/
def itemWith (scope : TenantScope) (row : BusinessRow) (content : Text) : Item :=
  internalItem scope "business" row.id "FACT" (some row.createdAt) (some row.updatedAt) content
    (fields [("name", .string row.name), ("timezone", .string row.timezone),
      ("version", .number (.ofNat row.version))])

/-- `_business_item` -/
def item (scope : TenantScope) (row : BusinessRow) : Except JobError Item :=
  scannedItem row.content (row.itemWith scope)

end BusinessRow

/-- A row of `goals`. -/
structure GoalRow where
  id : Text
  title : Text
  target : Text
  metric : Option Text
  createdAt : Text
  updatedAt : Text

namespace GoalRow

def content (row : GoalRow) : Text :=
  "Goal: ".toList ++ row.title ++ "; target: ".toList ++ row.target

/-- `_goal_item`, up to its content. -/
def itemWith (scope : TenantScope) (row : GoalRow) (content : Text) : Item :=
  internalItem scope "goal" row.id "FACT" (some row.createdAt) (some row.updatedAt) content
    (fields [("title", .string row.title), ("metric", optionalText row.metric)])

/-- `_goal_item` -/
def item (scope : TenantScope) (row : GoalRow) : Except JobError Item :=
  scannedItem row.content (row.itemWith scope)

end GoalRow

/-- A row of `constraints`. -/
structure ConstraintRow where
  id : Text
  category : Text
  rule : Text
  createdAt : Text
  updatedAt : Text

namespace ConstraintRow

def content (row : ConstraintRow) : Text :=
  "Constraint category: ".toList ++ row.category ++ "; rule: ".toList ++ row.rule

/-- `_constraint_item`, up to its content. -/
def itemWith (scope : TenantScope) (row : ConstraintRow) (content : Text) : Item :=
  internalItem scope "constraint" row.id "FACT" (some row.createdAt) (some row.updatedAt) content
    (fields [("category", .string row.category)])

/-- `_constraint_item` -/
def item (scope : TenantScope) (row : ConstraintRow) : Except JobError Item :=
  scannedItem row.content (row.itemWith scope)

end ConstraintRow

/-- A row of `evidence`. -/
structure EvidenceRow where
  id : Text
  sourceRecordId : Text
  statement : Text
  status : Text
  confidence : Option Json.Number
  occurredAt : Option Text
  recordedAt : Text

namespace EvidenceRow

def content (budget : ℕ) (row : EvidenceRow) : Text := truncate row.statement budget

/-- `_evidence_item`, up to its content. -/
def itemWith (scope : TenantScope) (row : EvidenceRow) (content : Text) : Item where
  organizationId := scope.organizationId.toList
  businessId := scope.businessId.toList
  sourceObjectType := "evidence".toList
  sourceObjectId := row.id
  provenanceRef := provenance "evidence" row.id
  epistemicStatus := row.status
  trustClass := "UNTRUSTED_EXTERNAL".toList
  dataBoundary := "UNTRUSTED_DATA".toList
  occurredAt := row.occurredAt
  recordedAt := some row.recordedAt
  content := content
  structuredProjection := fields [("source_record_id", .string row.sourceRecordId),
    ("confidence", match row.confidence with | none => .null | some confidence => .number confidence)]
  sensitivity := "CONFIDENTIAL".toList

/-- The values of `EpistemicStatus`. -/
def statuses : List Text :=
  ["OBSERVATION", "FACT", "DERIVED_FACT", "HYPOTHESIS", "ASSUMPTION", "UNKNOWN", "CONFLICT",
    "REJECTED", "INVALIDATED"].map String.toList

local instance : LawfulBEq Text := inferInstance

/-- `_evidence_item` -/
def item (scope : TenantScope) (budget : ℕ) (row : EvidenceRow) : Except JobError Item := do
  let item ← scannedItem (row.content budget) (row.itemWith scope)
  require (row.status ∈ statuses) ⟨.unexpected, "ValueError",
    "'" ++ String.ofList row.status ++ "' is not a valid EpistemicStatus"⟩
  return item

end EvidenceRow

/-! ## Items of production -/

/-- `_item` of `production/context.py`, for an item that is made of its content. -/
def productionItem (content : Text) (item : Text → Item) : Except JobError Item := do
  let made := item (upTo 600 content)
  (Json.string content).assertNoSecrets "payload".toList
  made.structuredProjection.assertNoSecrets "payload".toList
  return made

/-- A list of strings. -/
def texts (values : List Text) : Json := .array (values.map .string)

/-- A row of `decisions`. -/
structure DecisionRow where
  id : Text
  version : ℕ
  status : Text
  goalProblem : Text
  selectedAction : Text
  expectedEffect : Text
  riskClass : Text
  requiredAssets : List Text
  requiredActions : List Text
  experimentProposal : Json
  evidenceIds : List Text
  updatedAt : Text

/-- The item of a `decision`, up to its content. -/
def DecisionRow.itemWith (scope : TenantScope) (row : DecisionRow) (content : Text) : Item :=
  internalItem scope "decision" row.id "OBSERVATION" none (some row.updatedAt) content
    (fields [
      ("version", .number (.ofNat row.version)),
      ("status", .string row.status),
      ("goal_problem", .string row.goalProblem),
      ("selected_action", .string row.selectedAction),
      ("expected_effect", .string row.expectedEffect),
      ("risk_class", .string row.riskClass),
      ("required_assets", texts row.requiredAssets),
      ("required_actions", texts row.requiredActions),
      ("experiment_proposal", row.experimentProposal),
      ("evidence_ids", texts row.evidenceIds)])

/-- A row of `creative_briefs`. -/
structure CreativeBriefRow where
  id : Text
  decisionId : Text
  title : Text
  objective : Text
  constraints : List Text
  updatedAt : Text

/-- The item of a `creative_brief`, up to its content. -/
def CreativeBriefRow.itemWith (scope : TenantScope) (row : CreativeBriefRow) (content : Text) :
    Item :=
  internalItem scope "creative_brief" row.id "OBSERVATION" none (some row.updatedAt) content
    (fields [
      ("decision_id", .string row.decisionId),
      ("title", .string row.title),
      ("objective", .string row.objective),
      ("constraints", texts row.constraints)])

/-- A row of `asset_versions`. -/
structure AssetVersionRow where
  id : Text
  assetId : Text
  versionNumber : ℕ
  body : Text
  provenance : Json
  createdAt : Text

/-- The item of an `asset_version`, up to its content. -/
def AssetVersionRow.itemWith (scope : TenantScope) (row : AssetVersionRow) (content : Text) : Item :=
  internalItem scope "asset_version" row.id "OBSERVATION" none (some row.createdAt) content
    (fields [
      ("asset_id", .string row.assetId),
      ("version_number", .number (.ofNat row.versionNumber)),
      ("provenance", row.provenance)])

/-- A row of `asset_reviews`. -/
structure AssetReviewRow where
  id : Text
  assetVersionId : Text
  controllerType : Text
  verdict : Text
  reason : Text
  issues : List Text
  requiredChanges : List Text
  conditions : List Text
  createdAt : Text

/-- The item of an `asset_review`, up to its content. -/
def AssetReviewRow.itemWith (scope : TenantScope) (row : AssetReviewRow) (content : Text) : Item :=
  internalItem scope "asset_review" row.id "OBSERVATION" none (some row.createdAt) content
    (fields [
      ("asset_version_id", .string row.assetVersionId),
      ("controller_type", .string row.controllerType),
      ("verdict", .string row.verdict),
      ("issues", texts row.issues),
      ("required_changes", texts row.requiredChanges),
      ("conditions", texts row.conditions)])

/-- A row of `asset_rights_provenance`. -/
structure AssetRightsRow where
  id : Text
  assetVersionId : Text
  origin : Text
  generatedByAgentRunId : Option Text
  relatedSourceAssetIds : List Text
  permissionScope : Option Text
  customerContentConsentRef : Option Text
  publicationRestrictions : List Text
  createdAt : Text

/-- The item of an `asset_rights_provenance`, up to its content. -/
def AssetRightsRow.itemWith (scope : TenantScope) (row : AssetRightsRow) (content : Text) : Item :=
  internalItem scope "asset_rights_provenance" row.id "FACT" none (some row.createdAt) content
    (fields [
      ("asset_version_id", .string row.assetVersionId),
      ("origin", .string row.origin),
      ("generated_by_agent_run_id", optionalText row.generatedByAgentRunId),
      ("related_source_asset_ids", texts row.relatedSourceAssetIds),
      ("permission_scope", optionalText row.permissionScope),
      ("customer_content_consent_ref", optionalText row.customerContentConsentRef),
      ("publication_restrictions", texts row.publicationRestrictions)])

/-! ## Rows -/

/-- A row that a context item is made of. -/
inductive Row
  | business (row : BusinessRow)
  | goal (row : GoalRow)
  | constraint (row : ConstraintRow)
  | evidence (row : EvidenceRow)
  | payload (row : PayloadRow)
  | decision (row : DecisionRow)
  | creativeBrief (row : CreativeBriefRow)
  | assetVersion (row : AssetVersionRow)
  | assetReview (row : AssetReviewRow)
  | assetRights (row : AssetRightsRow)

namespace Row

/-- The item of a row, up to its content. -/
def itemWith (scope : TenantScope) : Row → Text → Item
  | .business row => row.itemWith scope
  | .goal row => row.itemWith scope
  | .constraint row => row.itemWith scope
  | .evidence row => row.itemWith scope
  | .payload row => row.itemWith scope
  | .decision row => row.itemWith scope
  | .creativeBrief row => row.itemWith scope
  | .assetVersion row => row.itemWith scope
  | .assetReview row => row.itemWith scope
  | .assetRights row => row.itemWith scope

/-- The text that the content of a row of production is cut from. -/
def productionContent : Row → Text
  | .decision row => row.selectedAction
  | .creativeBrief row => row.title ++ ": ".toList ++ row.objective
  | .assetVersion row => row.body
  | .assetReview row => row.reason
  | .assetRights row =>
      "origin=".toList ++ row.origin ++ "; permission_scope=".toList ++
        row.permissionScope.getD "None".toList
  | _ => []

/-- The item of a row. -/
def item (scope : TenantScope) (budget : ℕ) (row : Row) : Except JobError Item :=
  match row with
  | .business row => row.item scope
  | .goal row => row.item scope
  | .constraint row => row.item scope
  | .evidence row => row.item scope budget
  | .payload row => row.item scope budget
  | .decision _ | .creativeBrief _ | .assetVersion _ | .assetReview _ | .assetRights _ =>
      productionItem row.productionContent (row.itemWith scope)

/-- The content that a row is given. -/
def content (budget : ℕ) (row : Row) : Text :=
  match row with
  | .business row => row.content
  | .goal row => row.content
  | .constraint row => row.content
  | .evidence row => row.content budget
  | .payload row => row.content budget
  | .decision _ | .creativeBrief _ | .assetVersion _ | .assetReview _ | .assetRights _ =>
      upTo 600 row.productionContent

/-- `source_object_type` -/
def objectType : Row → String
  | .business _ => "business"
  | .goal _ => "goal"
  | .constraint _ => "constraint"
  | .evidence _ => "evidence"
  | .payload (.sourceRecord _) => "source_record"
  | .payload (.snapshot _) => "business_snapshot"
  | .payload (.specialistContribution _) => "specialist_contribution"
  | .payload (.decisionCandidate _) => "decision_candidate"
  | .payload (.controllerReview _) => "controller_review"
  | .payload (.contentStrategy _) => "content_strategy"
  | .decision _ => "decision"
  | .creativeBrief _ => "creative_brief"
  | .assetVersion _ => "asset_version"
  | .assetReview _ => "asset_review"
  | .assetRights _ => "asset_rights_provenance"

/-- `source_object_id` -/
def id : Row → Text
  | .business row => row.id
  | .goal row => row.id
  | .constraint row => row.id
  | .evidence row => row.id
  | .payload (.sourceRecord row) => row.id
  | .payload (.snapshot row) => row.id
  | .payload (.specialistContribution row) => row.id
  | .payload (.decisionCandidate row) => row.id
  | .payload (.controllerReview row) => row.id
  | .payload (.contentStrategy row) => row.id
  | .decision row => row.id
  | .creativeBrief row => row.id
  | .assetVersion row => row.id
  | .assetReview row => row.id
  | .assetRights row => row.id

/-- `occurred_at` -/
def occurredAt (row : Row) : Option Text := (row.itemWith ⟨"", ""⟩ []).occurredAt

/-- The column that the default collection of a type goes by. -/
def orderedBy : Row → Text
  | .goal row => row.createdAt
  | .constraint row => row.createdAt
  | .evidence row => row.recordedAt
  | .payload (.sourceRecord row) => row.ingestedAt
  | _ => []

end Row

/-! ## Rows and their items -/

section Items

variable {scope : TenantScope} {budget : ℕ} {row : Row}

theorem eq_of_scannedItem {content : Text} {make : Text → Item} {item : Item}
    (h : scannedItem content make = .ok item) : item = make content := by
  obtain ⟨_, -, h⟩ := Except.bind_eq_ok_iff.mp h
  exact (Except.pure_eq_ok_iff.mp h).symm

theorem eq_of_productionItem {content : Text} {make : Text → Item} {item : Item}
    (h : productionItem content make = .ok item) : item = make (upTo 600 content) := by
  obtain ⟨_, -, h⟩ := Except.bind_eq_ok_iff.mp h
  obtain ⟨_, -, h⟩ := Except.bind_eq_ok_iff.mp h
  exact (Except.pure_eq_ok_iff.mp h).symm

/-- The item of a row is made of its content. -/
theorem Row.eq_of_item {item : Item} (h : row.item scope budget = .ok item) :
    item = row.itemWith scope (row.content budget) := by
  cases row with
  | business row | goal row | constraint row => exact eq_of_scannedItem h
  | evidence row =>
      obtain ⟨item', hitem, h⟩ := Except.bind_eq_ok_iff.mp h
      obtain ⟨_, -, h⟩ := Except.bind_eq_ok_iff.mp h
      rw [← Except.pure_eq_ok_iff.mp h]
      exact eq_of_scannedItem hitem
  | payload row => exact PayloadRow.eq_of_item h
  | decision row | creativeBrief row | assetVersion row | assetReview row | assetRights row =>
      exact eq_of_productionItem h

/-- What the item of a row has of the row itself. -/
structure Item.Shows (scope : TenantScope) (row : Row) (content : Text) (item : Item) : Prop where
  organizationId : item.organizationId = scope.organizationId.toList
  businessId : item.businessId = scope.businessId.toList
  sourceObjectType : item.sourceObjectType = row.objectType.toList
  sourceObjectId : item.sourceObjectId = row.id
  occurredAt : item.occurredAt = row.occurredAt
  content : item.content = content

theorem Row.shows_itemWith (scope : TenantScope) (row : Row) (content : Text) :
    (row.itemWith scope content).Shows scope row content := by
  cases row with
  | payload row => cases row <;> constructor <;> rfl
  | _ => constructor <;> rfl

end Items

end ContextBuilder

end LaunchOS
