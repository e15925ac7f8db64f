import LaunchOS.Execution.Contracts
import LaunchOS.AiRuntime.Schemas

/-!
# The tables of the analytics

`analytics/contracts.py` and the rows of `persistence/phase6_models.py` and `persistence/models.py`
that `analytics/phase6.py` reads or writes.

* `Json`, `TelegramUpdate`: what the provider sends;
* `AnalyticsTables`: the rows of the observations, of the metrics and of the learnings, next to the
  tables of the execution service;
* `Derivation`: what the derivation hash of a metric is a hash of.

Columns that no function reads are left out: the raw payload of an observation and its hash, the
freshness status, the texts of evidence, learnings and reviews.
-/

namespace LaunchOS.Analytics

/-! ## What the provider sends -/

/-- A decoded JSON value. -/
inductive Json
  | null
  | bool (value : Bool)
  | int (value : ℤ)
  | float (text : String)
  | str (value : String)
  | list (items : List Json)
  | dict (fields : List (String × Json))

/-- A `dict` with string keys. -/
abbrev JsonDict := List (String × Json)

/-- An update of the provider. -/
abbrev TelegramUpdate := JsonDict

namespace Json

/-- `isinstance(value, int)`, which a `bool` is as well. -/
def asInt : Json → Option ℤ
  | int value => some value
  | bool value => some (if value then 1 else 0)
  | _ => none

/-- `str(value) if isinstance(value, int | str)`. -/
def asIntOrStr : Json → Option String
  | int value => some (toString value)
  | bool value => some (if value then "True" else "False")
  | str value => some value
  | _ => none

/-- `isinstance(value, dict)`. -/
def asDict : Json → Option JsonDict
  | dict fields => some fields
  | _ => none

end Json

/-- `update.get("update_id")`, if it is an `int`. -/
def updateId? (update : TelegramUpdate) : Option ℤ :=
  (update.lookup "update_id").bind Json.asInt

/-- `TELEGRAM_ALLOWED_UPDATES`. -/
def telegramAllowedUpdates : List String :=
  ["channel_post", "message_reaction", "message_reaction_count"]

/-- `REACTION_EVENT_TYPES`. -/
def reactionEventTypes : List String :=
  ["telegram.message_reaction", "telegram.message_reaction_count"]

/-- A `timedelta` of so many seconds. -/
def seconds (n : ℕ) : Duration := n * 1000000

/-- `TELEGRAM_RETENTION_GAP`: 23 hours. -/
def telegramRetentionGap : Duration := seconds 82800

/-! ## Observations -/

/-- A row of `connector_observation_states`. -/
structure ConnectorObservationState where
  id : Id
  scope : TenantScope
  connectorAccountId : Id
  observationMode : String := "LONG_POLL"
  lastUpdateId : Option ℤ := none
  coverageStartedAt : Time
  lastSuccessfulIngestAt : Option Time := none
  gapDetected : Bool := false
  allowedUpdateTypes : List String
deriving DecidableEq, Repr

/-- A row of `connector_observations`. -/
structure ConnectorObservation where
  id : Id
  scope : TenantScope
  connectorAccountId : Id
  providerEventIdentity : String
  providerEventType : String
  externalObjectId : Option String
  externalParentId : Option String
  eventTime : Time
  ingestedAt : Time
  rawPayload : TelegramUpdate

/-- A row of `source_records`. -/
structure SourceRecord where
  id : Id
  scope : TenantScope
  provider : String
  externalId : String
deriving DecidableEq, Repr

/-- A row of `business_events`; `publicationId` is `payload.get("publication_id")`. -/
structure BusinessEvent where
  id : Id
  scope : TenantScope
  eventType : String
  occurredAt : Time
  publicationId : Option Id
deriving DecidableEq, Repr

/-- A row of `evidence`. -/
structure Evidence where
  id : Id
  scope : TenantScope
  sourceRecordId : Id
  status : EpistemicStatus
deriving DecidableEq, Repr

/-- A row of `normalized_observation_links`. -/
structure NormalizedObservationLink where
  id : Id
  scope : TenantScope
  observationId : Id
  sourceRecordId : Id
  businessEventId : Id
  evidenceId : Id
  publicationId : Option Id
deriving DecidableEq, Repr

/-! ## Metrics -/

/-- The `availability_status` of a metric. -/
inductive AvailabilityStatus
  | available
  | partially
  | unavailable
  | stale
deriving DecidableEq, Repr

/-- The `coverage_status` of a metric. -/
inductive CoverageStatus
  | complete
  | partially
  | unavailable
  | stale
deriving DecidableEq, Repr

/-- What `derivation_hash` is a hash of. -/
structure Derivation where
  metricKey : String
  publicationId : Id
  checkpointContractHash : String
  eventIds : List Id
  availability : AvailabilityStatus
  coverage : CoverageStatus
  sourceWindowStart : Time
  sourceWindowEnd : Time
  lastSuccessfulIngestAt : Option Time
deriving DecidableEq, Repr

/-- A row of `metric_versions` for a Publication. -/
structure MetricVersion where
  id : Id
  scope : TenantScope
  checkpointDefinitionId : Id
  metricKey : String
  subjectId : Id
  sourceConnectorAccountId : Id
  versionNumber : ℕ
  valueNumeric : Option ℕ
  availabilityStatus : AvailabilityStatus
  coverageStatus : CoverageStatus
  sourceWindowStart : Time
  sourceWindowEnd : Time
  includedBusinessEventIds : List Id
  calculatedAt : Time
  previousMetricVersionId : Option Id
  derivationHash : String
  evidenceId : Id
deriving DecidableEq, Repr

/-! ## Learnings -/

/-- The `result_class` of an experiment. -/
inductive ResultClass
  | success
  | weakSignal
  | failure
  | insufficientData
deriving DecidableEq, Repr

/-- A row of `experiment_results`. -/
structure ExperimentResult where
  id : Id
  scope : TenantScope
  experimentId : Id
  resultClass : ResultClass
deriving DecidableEq, Repr

/-- A row of `experiment_result_details`. -/
structure ExperimentResultDetail where
  id : Id
  scope : TenantScope
  experimentResultId : Id
  checkpointDefinitionId : Id
  metricVersionId : Id
  resultClass : ResultClass
deriving DecidableEq, Repr

/-- A row of `learning_controller_reviews`. -/
structure LearningControllerReview where
  id : Id
  scope : TenantScope
  experimentResultId : Id
  controllerType : String
  verdict : ControllerVerdict
deriving DecidableEq, Repr

/-- A row of `learnings`. -/
structure Learning where
  id : Id
  scope : TenantScope
  decisionId : Option Id
  experimentId : Option Id
deriving DecidableEq, Repr

/-- A row of `learning_details`. -/
structure LearningDetail where
  id : Id
  scope : TenantScope
  learningId : Id
  experimentResultId : Id
  interpretationClass : ResultClass
  controllerReviewIds : List Id
deriving DecidableEq, Repr

/-- The tables of the analytics and of the execution service. -/
structure AnalyticsTables extends ExecutionTables where
  connectorObservationStates : List ConnectorObservationState := []
  connectorObservations : List ConnectorObservation := []
  sourceRecords : List SourceRecord := []
  businessEvents : List BusinessEvent := []
  evidence : List Evidence := []
  normalizedObservationLinks : List NormalizedObservationLink := []
  metricVersions : List MetricVersion := []
  experimentResults : List ExperimentResult := []
  experimentResultDetails : List ExperimentResultDetail := []
  learningControllerReviews : List LearningControllerReview := []
  learnings : List Learning := []
  learningDetails : List LearningDetail := []

/-- A transaction of the analytics. -/
abbrev AnalyticsTxn (M α : Type) := DomainTxn M AnalyticsTables α

end LaunchOS.Analytics
