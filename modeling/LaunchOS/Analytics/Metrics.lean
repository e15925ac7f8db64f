import LaunchOS.Analytics.Ingestion
import LaunchOS.Execution.Governance

/-!
# Metrics

`calculate_metric_version` of `analytics/phase6.py` and what it reads.

The module introduces:

* `metricCoverage`: whether the observation of an account covers a window;
* `checkpointContextForPublication`: the checkpoint and the message of a publication;
* `attributedEvents`: the events of a publication in a window;
* `calculateMetricVersion`: one calculation.
-/

namespace LaunchOS.Analytics

open Txn

variable {M : Type}

/-! ## Coverage -/

/-- `_metric_coverage`. -/
def metricCoverage (state : Option ConnectorObservationState)
    (sourceWindowStart sourceWindowEnd : Time) (graceSeconds : ℕ) (now : Time) :
    AvailabilityStatus × CoverageStatus :=
  match state with
  | none => (.unavailable, .unavailable)
  | some state =>
      match state.lastSuccessfulIngestAt with
      | none => (.unavailable, .unavailable)
      | some last =>
          if sourceWindowStart < state.coverageStartedAt then (.unavailable, .unavailable)
          else if state.gapDetected then (.partially, .partially)
          else if telegramRetentionGap < now - last then (.stale, .stale)
          else if last < sourceWindowEnd + seconds graceSeconds then (.partially, .partially)
          else (.available, .complete)

/-! ## The publication -/

/-- `_checkpoint_context_for_publication`. -/
def checkpointContextForPublication (publicationId : Id) (t : ExecutionTables) :
    Except JobError (CheckpointDefinition × ExternalReference) := do
  let link ← orRaise (.permanentJobError "Publication execution lineage is missing")
    (Table.find PublicationExecutionLink.publicationId publicationId t.publicationExecutionLinks)
  let incomplete := JobError.permanentJobError "Publication external/action lineage is incomplete"
  let external ← orRaise incomplete
    (Table.find ExternalReference.id link.externalReferenceId t.externalReferences)
  let detail ← orRaise incomplete
    (Table.find ActionProposalDetail.actionId link.actionId t.actionProposalDetails)
  let experiment ← orRaise (.permanentJobError "Phase 6 Publication has no Experiment")
    (experimentOf detail.decisionId t.toExecutionContext)
  let checkpoint ← orRaise (.permanentJobError "Phase 6 Publication has no typed checkpoint")
    (Table.find CheckpointDefinition.experimentId experiment.id t.checkpointDefinitions)
  return (checkpoint, external)

/-- The events of a publication that a metric over a window counts. -/
def attributedEvents (scope : TenantScope) (publicationId : Id)
    (sourceWindowStart sourceWindowEnd : Time) (t : AnalyticsTables) : List BusinessEvent :=
  (t.businessEvents.filter fun event =>
    event.scope = scope && event.eventType ∈ reactionEventTypes &&
      decide (sourceWindowStart ≤ event.occurredAt) &&
      decide (event.occurredAt ≤ sourceWindowEnd) &&
      event.publicationId = some publicationId).insertionSort fun a b =>
    a.occurredAt < b.occurredAt ∨ a.occurredAt = b.occurredAt ∧ a.id ≤ b.id

/-- The metrics of a publication. -/
def metricsOf (scope : TenantScope) (metricKey : String) (publicationId : Id)
    (t : AnalyticsTables) : List MetricVersion :=
  t.metricVersions.filter fun metric =>
    metric.scope.businessId = scope.businessId && metric.metricKey = metricKey &&
      metric.subjectId = publicationId

/-- The latest metric of a publication. -/
def latestMetric (scope : TenantScope) (metricKey : String) (publicationId : Id)
    (t : AnalyticsTables) : Option MetricVersion :=
  let metrics := metricsOf scope metricKey publicationId t
  metrics.find? fun metric =>
    metric.versionNumber = Table.maxOf MetricVersion.versionNumber metrics

/-! ## The calculation -/

/-- What a calculation finds before it writes. -/
structure MetricInputs where
  checkpoint : CheckpointDefinition
  external : ExternalReference
  derivation : Derivation
deriving DecidableEq, Repr

/-- The published publication that a metric is about. -/
def publishedPublication (scope : TenantScope) (publicationId : Id) (t : ExecutionTables) :
    Except JobError (Publication × Time) := do
  let missing := JobError.permanentJobError "published Publication is required for metric calculation"
  let publication ← orRaise missing (Table.find Publication.id publicationId t.publications)
  let publishedAt ← orRaise missing publication.publishedAt
  scope.assertMatches publication.scope
  return (publication, publishedAt)

/-- The reading part of `calculate_metric_version`. -/
def metricInputs (now : Time) (scope : TenantScope) (publicationId : Id) (t : AnalyticsTables) :
    Except JobError MetricInputs := do
  let (publication, publishedAt) ← publishedPublication scope publicationId t.toExecutionTables
  let (checkpoint, external) ←
    checkpointContextForPublication publication.id t.toExecutionTables
  require (checkpoint.metricKey = "telegram_reaction_changes")
    (.permanentJobError "unsupported Phase 6 metric key")
  let state := observationState external.connectorAccountId t
  let sourceWindowEnd := publishedAt + seconds checkpoint.windowSeconds
  let (availability, coverage) :=
    metricCoverage state publishedAt sourceWindowEnd checkpoint.graceSeconds now
  let events := attributedEvents scope publication.id publishedAt sourceWindowEnd t
  return {
    checkpoint := checkpoint
    external := external
    derivation :=
      { metricKey := checkpoint.metricKey
        publicationId := publication.id
        checkpointContractHash := checkpoint.contractHash
        eventIds := events.map BusinessEvent.id
        availability := availability
        coverage := coverage
        sourceWindowStart := publishedAt
        sourceWindowEnd := sourceWindowEnd
        lastSuccessfulIngestAt := state.bind
          ConnectorObservationState.lastSuccessfulIngestAt } }

/-- `value_numeric`: a number of events, where no event counts only under complete coverage. -/
def Derivation.valueNumeric (derivation : Derivation) : Option ℕ :=
  if derivation.availability = .available ∨ 0 < derivation.eventIds.length then
    some derivation.eventIds.length
  else none

/-- The row of a new metric. -/
def MetricInputs.row (inputs : MetricInputs) (id : Id) (now : Time) (scope : TenantScope)
    (latest : Option MetricVersion) (derivationHash : String) (evidenceId : Id) :
    MetricVersion where
  id := id
  scope := scope
  checkpointDefinitionId := inputs.checkpoint.id
  metricKey := inputs.checkpoint.metricKey
  subjectId := inputs.derivation.publicationId
  sourceConnectorAccountId := inputs.external.connectorAccountId
  versionNumber := (latest.map MetricVersion.versionNumber).getD 0 + 1
  valueNumeric := inputs.derivation.valueNumeric
  availabilityStatus := inputs.derivation.availability
  coverageStatus := inputs.derivation.coverage
  sourceWindowStart := inputs.derivation.sourceWindowStart
  sourceWindowEnd := inputs.derivation.sourceWindowEnd
  includedBusinessEventIds := inputs.derivation.eventIds
  calculatedAt := now
  previousMetricVersionId := latest.map MetricVersion.id
  derivationHash := derivationHash
  evidenceId := evidenceId

/-- `calculate_metric_version`, with `_hash_payload` of a derivation; the result is the metric and
whether it is new. -/
def calculateMetricVersion (hashPayload : Derivation → String) (now : Time) (scope : TenantScope)
    (publicationId : Id) : AnalyticsTxn M (MetricVersion × Bool) := do
  let t ← DomainTxn.tables
  let inputs ← DomainTxn.check (metricInputs now scope publicationId t)
  let derivationHash := hashPayload inputs.derivation
  let latest := latestMetric scope inputs.checkpoint.metricKey inputs.derivation.publicationId t
  match latest.filter fun metric => metric.derivationHash = derivationHash with
  | some metric => return (metric, false)
  | none => do
      let metricId ← DomainTxn.newId
      let sourceId ← DomainTxn.newId
      insertSourceRecord {
        id := sourceId
        scope := scope
        provider := "launch_os"
        externalId := "metric:" ++ toString metricId }
      let evidenceId ← DomainTxn.newId
      let evidence : Evidence :=
        { id := evidenceId
          scope := scope
          sourceRecordId := sourceId
          status := if inputs.derivation.availability = .available then .derivedFact
            else .unknown }
      let metric := inputs.row metricId now scope latest derivationHash evidenceId
      DomainTxn.modifyTables fun t => { t with
        evidence := t.evidence ++ [evidence]
        metricVersions := t.metricVersions ++ [metric] }
      DomainTxn.addOutboxEvent now scope "metric.version.calculated"
      return (metric, true)

end LaunchOS.Analytics
