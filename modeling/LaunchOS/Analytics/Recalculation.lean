import LaunchOS.Analytics.ExactlyOnce
import LaunchOS.Analytics.PollHistory

/-!
# Recalculation

A calculation returns the latest metric if it was derived from the same. What is compared is a hash
of all that a derivation records, and one of its fields is the last successful ingest of the account,
which every poll moves.

The module introduces:

* `PollsTo`: observation jobs that run one after the other and all succeed;
* `lastPoll`: when the last of those of an account has finished;
* `Repolled`: what they do to what a calculation reads;
* `recalculation_noop_iff`: when a calculation after them returns the metric of before;
* a poll without updates, after which the metric has a new version.
-/

namespace LaunchOS.Analytics

open Txn Transition

variable {M : Type}

/-! ## Polls -/

/-- Observation jobs that run one after the other, and all succeed. -/
inductive PollsTo :
    AgentDatabase M AnalyticsTables → List ObservationJob → AgentDatabase M AnalyticsTables → Prop
  | nil (db : AgentDatabase M AnalyticsTables) : PollsTo db [] db
  | cons {db db₁ db₂ : AgentDatabase M AnalyticsTables} {job : ObservationJob}
      {jobs : List ObservationJob} (hrun : exec job.run db = .ok db₁) (hpolls : PollsTo db₁ jobs db₂) :
      PollsTo db (job :: jobs) db₂

/-- When the last job of an account has finished. -/
def lastPoll (accountId : Id) : List ObservationJob → Option Time
  | [] => none
  | job :: jobs =>
      (lastPoll accountId jobs).or
        (if job.connectorAccountId = accountId then some job.finishedAt else none)

/-- The last successful ingest of an account. -/
def lastIngest (accountId : Id) (t : AnalyticsTables) : Option Time :=
  (observationState accountId t).bind ConnectorObservationState.lastSuccessfulIngestAt

/-- The rows of the observation states have ids and accounts of their own. -/
structure RowKeys (t : AnalyticsTables) : Prop where
  ids : Table.KeysNodup ConnectorObservationState.id t.connectorObservationStates
  accounts : Table.KeysNodup ConnectorObservationState.connectorAccountId
    t.connectorObservationStates

/-- The same publications and metrics. -/
structure SameLineage (t t' : AnalyticsTables) : Prop where
  execution : t'.toExecutionTables = t.toExecutionTables
  metrics : t'.metricVersions = t.metricVersions

instance : IsPreorder AnalyticsTables SameLineage where
  refl _ := ⟨rfl, rfl⟩
  trans _ _ _ h h' := ⟨h'.execution.trans h.execution, h'.metrics.trans h.metrics⟩

/-- What polls do to what a calculation reads: `last` tells when the last poll of an account has
finished. -/
structure Repolled (last : Id → Option Time) (t t' : AnalyticsTables) : Prop
    extends SameLineage t t' where
  keys : RowKeys t'
  last : ∀ accountId, lastIngest accountId t' = (last accountId).or (lastIngest accountId t)

/-- A poll writes the row of its account, and no other. -/
theorem lastIngest_write {t t' : AnalyticsTables} (hkeys : RowKeys t) {poll : Poll} {accountId : Id}
    (hloaded : observationState accountId t = some poll.loaded) (now : Time)
    (lastUpdateId : Option ℤ)
    (hwrote : t'.connectorObservationStates =
      Table.modify ConnectorObservationState.id poll.loaded.id (poll.write now lastUpdateId)
        t.connectorObservationStates) (otherId : Id) :
    lastIngest otherId t' =
      (if accountId = otherId then some now else none).or (lastIngest otherId t) := by
  have hfind : observationState otherId t' = (observationState otherId t).map fun state =>
      if state.id = poll.loaded.id then poll.write now lastUpdateId state else state := by
    rw [observationState, hwrote]
    refine Table.find_map fun state => ?_
    split <;> rfl
  rw [lastIngest, hfind]
  by_cases hother : accountId = otherId
  · subst hother
    rw [hloaded, Option.map_some, if_pos rfl, if_pos rfl]
    rfl
  · rw [if_neg hother, Option.none_or, lastIngest]
    cases hstate : observationState otherId t with
    | none => rfl
    | some state =>
        have hne : state.id ≠ poll.loaded.id := by
          intro hid
          have hsame := hkeys.ids.eq_of_key_eq (Table.mem_of_find hstate) (Table.mem_of_find hloaded)
            hid
          exact hother ((Table.key_of_find hloaded).symm.trans
            ((congrArg ConnectorObservationState.connectorAccountId hsame).symm.trans
              (Table.key_of_find hstate)))
        rw [Option.map_some, if_neg hne]

theorem ensures_run_repolled {db : AgentDatabase M AnalyticsTables}
    (hkeys : RowKeys db.tables.domain) (job : ObservationJob) :
    Ensures job.run (fun _ db' => Repolled
      (fun accountId => if job.connectorAccountId = accountId then some job.finishedAt else none)
      db.tables.domain db'.tables.domain) db := by
  have hf := domainRelation_frames (M := M) (r := SameLineage) job.finishedAt fun _ => true
  have hingest : IngestWrites SameLineage := by constructor <;> intros <;> exact ⟨rfl, rfl⟩
  rw [ObservationJob.run, ensures_bind, ensures_tables, ensures_bind, ensures_check]
  intro poll hpoll
  obtain ⟨hmem, haccount, hloaded, -⟩ := beginPoll_eq_ok hpoll
  have hlineage := within_finishPoll hf hingest (fun _ _ => ⟨rfl, rfl⟩) job.context
    job.connectorAccountId poll job.updates (fun _ => framesWithin_createJob job.finishedAt _) db
  refine (hlineage.and (finishPoll_states job.context job.connectorAccountId poll job.updates)).mono ?_
  rintro _ db' ⟨hframes, -, lastUpdateId, hwrote⟩
  refine ⟨hframes.domain, ⟨?_, ?_⟩, fun otherId => ?_⟩
  · rw [hwrote.states]
    exact hkeys.ids.modify fun _ _ hid => hid
  · rw [hwrote.states]
    refine hkeys.accounts.map fun state => ?_
    split <;> rfl
  · exact lastIngest_write hkeys hloaded job.finishedAt lastUpdateId hwrote.states otherId

theorem PollsTo.repolled {db db' : AgentDatabase M AnalyticsTables} {jobs : List ObservationJob}
    (h : PollsTo db jobs db') (hkeys : RowKeys db.tables.domain) :
    Repolled (fun accountId => lastPoll accountId jobs) db.tables.domain db'.tables.domain := by
  induction h with
  | nil db => exact ⟨refl _, hkeys, fun accountId => rfl⟩
  | cons hrun hpolls ih =>
      have hjob := Ensures.of_exec (ensures_run_repolled hkeys _) hrun
      have hjobs := ih hjob.keys
      refine ⟨trans_of SameLineage hjob.toSameLineage hjobs.toSameLineage, hjobs.keys, fun accountId => ?_⟩
      rw [hjobs.last, hjob.last, lastPoll, Option.or_assoc]

/-! ## Calculations -/

section Calculation

variable {hashPayload : Derivation → String} {now now' : Time} {scope : TenantScope}
variable {publicationId : Id}

/-- What a calculation reads after polls that bring it nothing: only the last ingest may differ. -/
def MetricInputs.withLastIngest (inputs : MetricInputs) (last : Option Time) : MetricInputs :=
  { inputs with derivation := { inputs.derivation with lastSuccessfulIngestAt := last } }

theorem metricInputs_lastIngest {t : AnalyticsTables} {inputs : MetricInputs}
    (h : metricInputs now scope publicationId t = .ok inputs) :
    inputs.derivation.lastSuccessfulIngestAt = lastIngest inputs.external.connectorAccountId t := by
  unfold metricInputs at h
  obtain ⟨_, -, h⟩ := Except.bind_eq_ok_iff.mp h
  obtain ⟨_, -, h⟩ := Except.bind_eq_ok_iff.mp h
  obtain ⟨_, -, h⟩ := Except.bind_eq_ok_iff.mp h
  cases h
  rfl

theorem metricInputs_withLastIngest {t t' : AnalyticsTables} {inputs : MetricInputs}
    (h : metricInputs now scope publicationId t = .ok inputs)
    (hexecution : t'.toExecutionTables = t.toExecutionTables)
    (hevents : (attributedEvents scope publicationId inputs.derivation.sourceWindowStart
      inputs.derivation.sourceWindowEnd t').map BusinessEvent.id = inputs.derivation.eventIds)
    (hcoverage : metricCoverage (observationState inputs.external.connectorAccountId t')
      inputs.derivation.sourceWindowStart inputs.derivation.sourceWindowEnd
      inputs.checkpoint.graceSeconds now' =
        (inputs.derivation.availability, inputs.derivation.coverage)) :
    metricInputs now' scope publicationId t' =
      .ok (inputs.withLastIngest (lastIngest inputs.external.connectorAccountId t')) := by
  have hsubject := (metricInputs_reads h).subject
  unfold metricInputs at h
  obtain ⟨⟨publication, publishedAt⟩, hpublished, h⟩ := Except.bind_eq_ok_iff.mp h
  obtain ⟨⟨checkpoint, external⟩, hcontext, h⟩ := Except.bind_eq_ok_iff.mp h
  obtain ⟨_, hkey, h⟩ := Except.bind_eq_ok_iff.mp h
  cases h
  dsimp only at hsubject hevents hcoverage
  unfold metricInputs
  rw [hexecution]
  refine Except.bind_eq_ok_iff.mpr ⟨_, hpublished, Except.bind_eq_ok_iff.mpr ⟨_, hcontext,
    Except.bind_eq_ok_iff.mpr ⟨_, hkey, ?_⟩⟩⟩
  rw [← hsubject] at hevents
  dsimp only
  rw [hevents, hcoverage]
  rfl

theorem latestMetric_congr {t t' : AnalyticsTables} (h : t'.metricVersions = t.metricVersions)
    (metricKey : String) :
    latestMetric scope metricKey publicationId t' = latestMetric scope metricKey publicationId t := by
  rw [latestMetric, metricsOf, h]
  rfl

/-- With the latest metric derived from the same, nothing is written. -/
theorem calculateMetricVersion_eq_known {hashPayload : Derivation → String} {now : Time}
    {scope : TenantScope} {publicationId : Id} {db : AgentDatabase M AnalyticsTables}
    {inputs : MetricInputs} {metric : MetricVersion}
    (hinputs : metricInputs now scope publicationId db.tables.domain = .ok inputs)
    (hlatest : latestMetric scope inputs.checkpoint.metricKey inputs.derivation.publicationId
      db.tables.domain = some metric)
    (hhash : metric.derivationHash = hashPayload inputs.derivation) :
    calculateMetricVersion hashPayload now scope publicationId db = .ok ((metric, false), db) := by
  have hfilter : (latestMetric scope inputs.checkpoint.metricKey inputs.derivation.publicationId
      db.tables.domain).filter (fun metric => metric.derivationHash = hashPayload inputs.derivation) =
      some metric := by
    rw [hlatest, Option.filter_eq_some_iff]
    exact ⟨rfl, decide_eq_true hhash⟩
  refine Except.bind_eq_ok_iff.mpr ⟨(inputs, db), DomainTxn.check_eq_ok_iff.mpr ⟨hinputs, rfl⟩, ?_⟩
  simp only [hfilter]
  rfl

variable {db db' : AgentDatabase M AnalyticsTables} {result : MetricVersion × Bool}

/-- What a calculation leaves behind for the next one: it has read what is still there, and the metric
that it returns is the latest one, with the hash of what it has read. -/
theorem Calculated.leaves (h : Calculated hashPayload now scope publicationId db result db')
    (hhistory : MetricHistory hashPayload db.nextId db.tables.domain) :
    ∃ inputs, metricInputs now scope publicationId db.tables.domain = .ok inputs ∧
      db'.tables.domain.toExecutionTables = db.tables.domain.toExecutionTables ∧
      db'.tables.domain.connectorObservationStates =
        db.tables.domain.connectorObservationStates ∧
      latestMetric scope inputs.checkpoint.metricKey inputs.derivation.publicationId
        db'.tables.domain = some result.1 ∧
      result.1.derivationHash = hashPayload inputs.derivation := by
  have hnewest := h.newest hhistory
  have hhistory' := hhistory.calculate h
  cases h with
  | known inputs hinputs metric hlatest hhash => exact ⟨inputs, hinputs, rfl, rfl, hlatest, hhash⟩
  | fresh inputs hinputs metric evidenceId source evidence hmetric hnext hdomain =>
      have hreads := metricInputs_reads hinputs
      have hreads' : inputs.Reads now scope publicationId db'.tables.domain := by
        rw [hdomain]
        exact { hreads with }
      refine ⟨inputs, hinputs, by rw [hdomain], by rw [hdomain], ?_, ?_⟩
      · rw [hhistory'.latestMetric_eq hreads']
        exact hnewest
      · rw [hmetric]
        rfl

end Calculation

/-! ## Recalculation -/

theorem PollRecord.rowKeys {o : Observed M} (h : PollRecord o) : RowKeys o.state.db.tables.domain :=
  ⟨h.rows.ids, h.rows.accounts⟩

theorem rowKeys_run (D : Digest) (hashPayload : Derivation → String) {s : AnalyticsState M}
    (hs : AnalyticsInitial s) (actions : List AnalyticsAction) :
    RowKeys (run (analyticsApp D hashPayload).step s actions).db.tables.domain := by
  have hkeys := (pollRecord_run D hashPayload hs actions).rowKeys
  rwa [run_observedStep_state] at hkeys

/-- In every run, after a calculation that returns a metric: if polls bring no event that it would
count, and leave its availability and its coverage as they are, the next calculation returns the same
metric and writes nothing if and only if the last poll of the account, if there was one, has finished
at the very time of the last successful ingest before. -/
theorem recalculation_noop_iff (D : Digest) {hashPayload : Derivation → String}
    (hhash : ∀ derivation time,
      hashPayload { derivation with lastSuccessfulIngestAt := time } = hashPayload derivation →
        time = derivation.lastSuccessfulIngestAt)
    {s₀ : AnalyticsState M} (hs₀ : AnalyticsInitial s₀) (actions : List AnalyticsAction)
    {now now' : Time} {scope : TenantScope} {publicationId : Id} {inputs : MetricInputs}
    {metric : MetricVersion} {created : Bool} {db db' : AgentDatabase M AnalyticsTables}
    {jobs : List ObservationJob} :
    let s := run (analyticsApp D hashPayload).step s₀ actions
    metricInputs now scope publicationId s.db.tables.domain = .ok inputs →
    calculateMetricVersion hashPayload now scope publicationId s.db = .ok ((metric, created), db) →
    PollsTo db jobs db' →
    (attributedEvents scope publicationId inputs.derivation.sourceWindowStart
      inputs.derivation.sourceWindowEnd db'.tables.domain).map BusinessEvent.id =
        inputs.derivation.eventIds →
    metricCoverage (observationState inputs.external.connectorAccountId db'.tables.domain)
      inputs.derivation.sourceWindowStart inputs.derivation.sourceWindowEnd
      inputs.checkpoint.graceSeconds now' =
        (inputs.derivation.availability, inputs.derivation.coverage) →
    (calculateMetricVersion hashPayload now' scope publicationId db' = .ok ((metric, false), db') ↔
      ∀ time, lastPoll inputs.external.connectorAccountId jobs = some time →
        inputs.derivation.lastSuccessfulIngestAt = some time) := by
  intro s hinputs hresult hpolls hevents hcoverage
  have hhistory := metricHistory_run D (hs₀.metricHistory hashPayload) actions
  have hcalculated := ensures_calculated hashPayload now scope publicationId s.db _ _ hresult
  obtain ⟨inputs', hinputs', hexecution, hstates, hlatest, hderived⟩ := hcalculated.leaves hhistory
  obtain rfl : inputs = inputs' := Except.ok.inj (hinputs.symm.trans hinputs')
  have hkeys : RowKeys db.tables.domain := by
    have hrun := rowKeys_run D hashPayload hs₀ actions
    exact ⟨hstates ▸ hrun.ids, hstates ▸ hrun.accounts⟩
  have hrepolled := hpolls.repolled hkeys
  -- what the calculation after the polls reads differs in the last ingest only
  have hinputs₁ := metricInputs_withLastIngest hinputs (hrepolled.execution.trans hexecution)
    hevents hcoverage
  have hlast : lastIngest inputs.external.connectorAccountId db'.tables.domain =
      (lastPoll inputs.external.connectorAccountId jobs).or
        inputs.derivation.lastSuccessfulIngestAt := by
    rw [hrepolled.last, metricInputs_lastIngest hinputs, lastIngest, lastIngest, observationState,
      observationState, hstates]
  rw [hlast] at hinputs₁
  generalize (lastPoll inputs.external.connectorAccountId jobs) = polled at hinputs₁ ⊢
  have hknown : calculateMetricVersion hashPayload now' scope publicationId db' =
      .ok ((metric, false), db') ↔ metric.derivationHash = hashPayload
        { inputs.derivation with
          lastSuccessfulIngestAt := polled.or inputs.derivation.lastSuccessfulIngestAt } := by
    constructor
    · intro hnoop
      have hagain := ensures_calculated hashPayload now' scope publicationId db' _ _ hnoop
      cases hagain with
      | known inputs₁ hread _ _ hsame =>
          obtain rfl := Except.ok.inj (hinputs₁.symm.trans hread)
          exact hsame
    · intro hsame
      refine calculateMetricVersion_eq_known hinputs₁ ?_ hsame
      exact (latestMetric_congr hrepolled.metrics _).trans hlatest
  rw [hknown, hderived]
  constructor
  · intro hsame time htime
    have hnew := hhash inputs.derivation _ hsame.symm
    rw [htime, Option.some_or] at hnew
    exact hnew.symm
  · intro hall
    cases polled with
    | none => rfl
    | some time => rw [Option.some_or, ← hall time rfl]

/-! ### A poll without updates -/

/-- The account is polled at a time, and the provider has nothing new. -/
def emptyPoll (time : Time) : ObservationJob where
  context := observationContext
  connectorAccountId := 1
  startedAt := time
  finishedAt := time
  updates := []

/-- A hash of the last ingest alone. -/
def ingestHash (derivation : Derivation) : String :=
  match derivation.lastSuccessfulIngestAt with
  | none => ""
  | some time => "at " ++ Int.repr time

theorem ingestHash_lastIngest (derivation : Derivation) (time : Option Time)
    (h : ingestHash { derivation with lastSuccessfulIngestAt := time } = ingestHash derivation) :
    time = derivation.lastSuccessfulIngestAt := by
  have hne : ∀ time : Time, "at " ++ Int.repr time ≠ "" := by
    intro time heq
    have hlength := congrArg String.length heq
    simp at hlength
  unfold ingestHash at h
  dsimp only at h
  cases time with
  | none =>
      cases hlast : derivation.lastSuccessfulIngestAt with
      | none => rfl
      | some last =>
          rw [hlast] at h
          exact absurd h.symm (hne last)
  | some time =>
      cases hlast : derivation.lastSuccessfulIngestAt with
      | none =>
          rw [hlast] at h
          exact absurd h (hne time)
      | some last =>
          rw [hlast] at h
          exact congrArg some (intRepr_injective ((String.append_right_inj "at ").mp h))

/-- Three hours after the start the account has been polled, and the metric of the post calculated. -/
def calculatedPost : AgentDatabase Unit AnalyticsTables :=
  (run (analyticsApp plainDigest ingestHash).step analyticsStart (polledAfter 2)).db

/-- The account is polled again. -/
def repolledPost (time : Time) : AgentDatabase Unit AnalyticsTables :=
  (exec (emptyPoll time).run calculatedPost).toOption.getD calculatedPost

theorem pollsTo_repolledPost {time : Time}
    (h : (exec (emptyPoll time).run calculatedPost).toOption.isSome = true) :
    PollsTo calculatedPost [emptyPoll time] (repolledPost time) := by
  refine .cons ?_ (.nil _)
  rw [repolledPost]
  cases hrun : exec (emptyPoll time).run calculatedPost with
  | error error =>
      rw [hrun] at h
      cases h
  | ok db => rfl

/-- What the metric was derived from. -/
def postDerivation : Derivation where
  metricKey := "telegram_reaction_changes"
  publicationId := 15
  checkpointContractHash := ""
  eventIds := []
  availability := .available
  coverage := .complete
  sourceWindowStart := hour
  sourceWindowEnd := 2 * hour
  lastSuccessfulIngestAt := some (3 * hour)

/-- A calculation three hours after the start returns the metric. -/
theorem calculatedPost_calculation :
    ∃ inputs metric,
      metricInputs (3 * hour) demoScope 15 calculatedPost.tables.domain = .ok inputs ∧
      calculateMetricVersion ingestHash (3 * hour) demoScope 15 calculatedPost =
        .ok ((metric, false), calculatedPost) ∧
      inputs.external.connectorAccountId = 1 ∧ inputs.checkpoint.graceSeconds = 60 ∧
      inputs.derivation = postDerivation := by
  have hread : (metricInputs (3 * hour) demoScope 15 calculatedPost.tables.domain).map (fun inputs =>
      (inputs.external.connectorAccountId, inputs.checkpoint.graceSeconds, inputs.derivation)) =
      .ok (1, 60, postDerivation) := by
    decide +kernel
  have hreturned : (calculateMetricVersion ingestHash (3 * hour) demoScope 15 calculatedPost).map
      (fun result => result.1.2) = .ok false := by
    decide +kernel
  obtain ⟨inputs, hinputs, heq⟩ := Except.map_eq_ok_iff.mp hread
  obtain ⟨⟨⟨metric, created⟩, db⟩, hresult, hcreated⟩ := Except.map_eq_ok_iff.mp hreturned
  obtain rfl : created = false := hcreated
  simp only [Prod.mk.injEq] at heq
  cases ensures_calculated ingestHash (3 * hour) demoScope 15 calculatedPost _ _ hresult with
  | known inputs' hinputs' _ hlatest hhash => exact ⟨inputs, metric, hinputs, hresult, heq⟩

/-- An hour later a poll brings nothing, the window has the same status and the same events, and yet
the calculation makes a new version. -/
theorem empty_poll_makes_version :
    ∃ inputs metric,
      metricInputs (3 * hour) demoScope 15 calculatedPost.tables.domain = .ok inputs ∧
      calculateMetricVersion ingestHash (3 * hour) demoScope 15 calculatedPost =
        .ok ((metric, false), calculatedPost) ∧
      PollsTo calculatedPost [emptyPoll (4 * hour)] (repolledPost (4 * hour)) ∧
      (attributedEvents demoScope 15 inputs.derivation.sourceWindowStart
        inputs.derivation.sourceWindowEnd (repolledPost (4 * hour)).tables.domain).map
          BusinessEvent.id = inputs.derivation.eventIds ∧
      metricCoverage (observationState inputs.external.connectorAccountId
          (repolledPost (4 * hour)).tables.domain) inputs.derivation.sourceWindowStart
        inputs.derivation.sourceWindowEnd inputs.checkpoint.graceSeconds (4 * hour) =
          (inputs.derivation.availability, inputs.derivation.coverage) ∧
      ∃ metric' db, calculateMetricVersion ingestHash (4 * hour) demoScope 15
        (repolledPost (4 * hour)) = .ok ((metric', true), db) := by
  obtain ⟨inputs, metric, hinputs, hresult, haccount, hgrace, hderivation⟩ :=
    calculatedPost_calculation
  refine ⟨inputs, metric, hinputs, hresult, pollsTo_repolledPost (by decide +kernel), ?_, ?_, ?_⟩
  · rw [hderivation]
    decide +kernel
  · rw [haccount, hgrace, hderivation]
    decide +kernel
  · have hreturned : (calculateMetricVersion ingestHash (4 * hour) demoScope 15
        (repolledPost (4 * hour))).map (fun result => result.1.2) = .ok true := by
      decide +kernel
    obtain ⟨⟨⟨metric', created⟩, db⟩, hresult', hcreated⟩ := Except.map_eq_ok_iff.mp hreturned
    obtain rfl : created = true := hcreated
    exact ⟨metric', db, hresult'⟩

/-- With a clock that stands still, it does not. -/
theorem frozen_clock_noop :
    ∃ metric, calculateMetricVersion ingestHash (3 * hour) demoScope 15 (repolledPost (3 * hour)) =
      .ok ((metric, false), repolledPost (3 * hour)) := by
  obtain ⟨inputs, metric, hinputs, hresult, haccount, hgrace, hderivation⟩ :=
    calculatedPost_calculation
  refine ⟨metric, (recalculation_noop_iff plainDigest ingestHash_lastIngest analyticsStart_initial
    (polledAfter 2) hinputs hresult (pollsTo_repolledPost (by decide +kernel)) ?_ ?_).mpr ?_⟩
  · rw [hderivation]
    decide +kernel
  · rw [haccount, hgrace, hderivation]
    decide +kernel
  · rw [haccount, hderivation]
    intro time htime
    exact htime

end LaunchOS.Analytics
