import LaunchOS.Analytics.Provenance
import LaunchOS.Analytics.Writes
import LaunchOS.Lib.Versions

/-!
# The history of a metric

Every calculation adds a version to the metric of a publication, unless the latest one has the same
derivation. A version is never changed: an event that comes late is counted by the next version.

The module introduces:

* `AnalyticsTables.metricVersionsOf`: the versions of a publication, oldest first;
* `MetricVersion.Holds`: the version shows a derivation;
* `MetricVersion.Counts`: it counts exactly the reactions to a publication in a window, in order;
* `AddsEvents`: what every transaction but a calculation does;
* `MetricHistory`: the invariant, with `MetricHistory.calculate` for a calculation;
* `metric_history_append_only`: the history in every run, and what a calculation adds to it.
-/

namespace LaunchOS.Analytics

open Txn Transition Versions

variable {M : Type}

/-! ## Versions -/

/-- The metrics of a publication, oldest first. -/
def AnalyticsTables.metricVersionsOf (publicationId : Id) (t : AnalyticsTables) :
    List MetricVersion :=
  t.metricVersions.filter fun metric => metric.subjectId = publicationId

theorem metricVersionsOf_congr {t t' : AnalyticsTables} (h : t'.metricVersions = t.metricVersions)
    (publicationId : Id) : t'.metricVersionsOf publicationId = t.metricVersionsOf publicationId := by
  rw [AnalyticsTables.metricVersionsOf, h, AnalyticsTables.metricVersionsOf]

/-- The metric shows a derivation, and has its hash. -/
structure MetricVersion.Holds (hashPayload : Derivation → String) (metric : MetricVersion)
    (derivation : Derivation) : Prop where
  metricKey : metric.metricKey = derivation.metricKey
  subject : metric.subjectId = derivation.publicationId
  events : metric.includedBusinessEventIds = derivation.eventIds
  value : metric.valueNumeric = derivation.valueNumeric
  availability : metric.availabilityStatus = derivation.availability
  coverage : metric.coverageStatus = derivation.coverage
  start : metric.sourceWindowStart = derivation.sourceWindowStart
  stop : metric.sourceWindowEnd = derivation.sourceWindowEnd
  hash : metric.derivationHash = hashPayload derivation

theorem MetricInputs.row_holds (inputs : MetricInputs)
    (hkey : inputs.checkpoint.metricKey = inputs.derivation.metricKey) (id : Id) (now : Time)
    (scope : TenantScope) (latest : Option MetricVersion) (hashPayload : Derivation → String)
    (evidenceId : Id) :
    (inputs.row id now scope latest (hashPayload inputs.derivation) evidenceId).Holds hashPayload
      inputs.derivation :=
  ⟨hkey, rfl, rfl, rfl, rfl, rfl, rfl, rfl, rfl⟩

/-- A reaction of a tenant to a publication, in a closed window. -/
structure BusinessEvent.ReactionTo (event : BusinessEvent) (scope : TenantScope)
    (publicationId : Id) (start stop : Time) : Prop where
  scope : event.scope = scope
  type : event.eventType ∈ reactionEventTypes
  after : start ≤ event.occurredAt
  before : event.occurredAt ≤ stop
  publication : event.publicationId = some publicationId

instance (event : BusinessEvent) (scope : TenantScope) (publicationId : Id) (start stop : Time) :
    Decidable (event.ReactionTo scope publicationId start stop) :=
  decidable_of_iff (event.scope = scope ∧ event.eventType ∈ reactionEventTypes ∧
      start ≤ event.occurredAt ∧ event.occurredAt ≤ stop ∧ event.publicationId = some publicationId)
    ⟨fun h => ⟨h.1, h.2.1, h.2.2.1, h.2.2.2.1, h.2.2.2.2⟩,
      fun h => ⟨h.scope, h.type, h.after, h.before, h.publication⟩⟩

/-- The order of the counted events: by their times, then by their ids. -/
def BusinessEvent.Precedes (event event' : BusinessEvent) : Prop :=
  event.occurredAt < event'.occurredAt ∨
    event.occurredAt = event'.occurredAt ∧ event.id ≤ event'.id

instance : DecidableRel BusinessEvent.Precedes := fun event event' =>
  inferInstanceAs (Decidable (event.occurredAt < event'.occurredAt ∨
    event.occurredAt = event'.occurredAt ∧ event.id ≤ event'.id))

instance : Std.Total BusinessEvent.Precedes where
  total event event' := by
    rcases lt_trichotomy event.occurredAt event'.occurredAt with hlt | heq | hgt
    · exact .inl (.inl hlt)
    · rcases Nat.le_total event.id event'.id with hle | hle
      · exact .inl (.inr ⟨heq, hle⟩)
      · exact .inr (.inr ⟨heq.symm, hle⟩)
    · exact .inr (.inl hgt)

instance : IsTrans BusinessEvent BusinessEvent.Precedes where
  trans event event' event'' h h' := by
    simp only [BusinessEvent.Precedes, Time, Id] at *
    omega

/-- The metric counts the reactions that the tables hold, each once, and no other events. -/
def MetricVersion.Counts (metric : MetricVersion) (scope : TenantScope) (publicationId : Id)
    (start stop : Time) (t : AnalyticsTables) : Prop :=
  metric.sourceWindowStart = start ∧ metric.sourceWindowEnd = stop ∧
    ∃ events : List BusinessEvent, metric.includedBusinessEventIds = events.map BusinessEvent.id ∧
      Table.KeysNodup BusinessEvent.id events ∧ events.Pairwise BusinessEvent.Precedes ∧
      ∀ event, event ∈ events ↔
        event ∈ t.businessEvents ∧ event.ReactionTo scope publicationId start stop

theorem mem_attributedEvents_iff {scope : TenantScope} {publicationId : Id} {start stop : Time}
    {t : AnalyticsTables} {event : BusinessEvent} :
    event ∈ attributedEvents scope publicationId start stop t ↔
      event ∈ t.businessEvents ∧ event.ReactionTo scope publicationId start stop := by
  rw [attributedEvents, List.mem_insertionSort, List.mem_filter]
  simp only [Bool.and_eq_true, decide_eq_true_eq, and_congr_right_iff]
  intro _
  constructor
  · rintro ⟨⟨⟨⟨hscope, htype⟩, hafter⟩, hbefore⟩, hpublication⟩
    exact ⟨hscope, htype, hafter, hbefore, hpublication⟩
  · rintro ⟨hscope, htype, hafter, hbefore, hpublication⟩
    exact ⟨⟨⟨⟨hscope, htype⟩, hafter⟩, hbefore⟩, hpublication⟩

theorem pairwise_attributedEvents (scope : TenantScope) (publicationId : Id) (start stop : Time)
    (t : AnalyticsTables) :
    (attributedEvents scope publicationId start stop t).Pairwise BusinessEvent.Precedes :=
  List.pairwise_insertionSort BusinessEvent.Precedes _

theorem keysNodup_attributedEvents {scope : TenantScope} {publicationId : Id} {start stop : Time}
    {t : AnalyticsTables} (h : Table.KeysNodup BusinessEvent.id t.businessEvents) :
    Table.KeysNodup BusinessEvent.id (attributedEvents scope publicationId start stop t) := by
  have hfilter := (List.filter_sublist (p := fun event : BusinessEvent =>
    event.scope = scope && event.eventType ∈ reactionEventTypes &&
      decide (start ≤ event.occurredAt) && decide (event.occurredAt ≤ stop) &&
      event.publicationId = some publicationId) (l := t.businessEvents)).map BusinessEvent.id
  exact (((List.perm_insertionSort _ _).map BusinessEvent.id).nodup_iff).mpr (h.sublist hfilter)

/-! ## What a calculation reads -/

/-- The window of a publication, and the tenant and the checkpoint that it is read from. -/
structure MetricInputs.Reads (inputs : MetricInputs) (now : Time) (scope : TenantScope)
    (publicationId : Id) (t : AnalyticsTables) : Prop where
  publication : ∃ publication publishedAt,
    Table.find Publication.id publicationId t.publications = some publication ∧
      publication.publishedAt = some publishedAt ∧ publication.scope = scope ∧
      inputs.derivation.sourceWindowStart = publishedAt
  checkpoint : checkpointContextForPublication publicationId t.toExecutionTables =
    .ok (inputs.checkpoint, inputs.external)
  metricKey : inputs.checkpoint.metricKey = "telegram_reaction_changes"
  derivationKey : inputs.derivation.metricKey = inputs.checkpoint.metricKey
  subject : inputs.derivation.publicationId = publicationId
  stop : inputs.derivation.sourceWindowEnd =
    inputs.derivation.sourceWindowStart + seconds inputs.checkpoint.windowSeconds
  events : inputs.derivation.eventIds = (attributedEvents scope publicationId
    inputs.derivation.sourceWindowStart inputs.derivation.sourceWindowEnd t).map BusinessEvent.id

theorem metricInputs_reads {now : Time} {scope : TenantScope} {publicationId : Id}
    {t : AnalyticsTables} {inputs : MetricInputs}
    (h : metricInputs now scope publicationId t = .ok inputs) :
    inputs.Reads now scope publicationId t := by
  unfold metricInputs at h
  obtain ⟨⟨publication, publishedAt⟩, hpublished, h⟩ := Except.bind_eq_ok_iff.mp h
  obtain ⟨⟨checkpoint, external⟩, hcontext, h⟩ := Except.bind_eq_ok_iff.mp h
  obtain ⟨_, hkey, h⟩ := Except.bind_eq_ok_iff.mp h
  cases h
  unfold publishedPublication at hpublished
  obtain ⟨found, hfound, hpublished⟩ := Except.bind_eq_ok_iff.mp hpublished
  obtain ⟨time, htime, hpublished⟩ := Except.bind_eq_ok_iff.mp hpublished
  obtain ⟨_, hscope, hpublished⟩ := Except.bind_eq_ok_iff.mp hpublished
  cases hpublished
  have hfind := orRaise_eq_ok_iff.mp hfound
  have hid : publication.id = publicationId := Table.key_of_find hfind
  exact
    { publication := ⟨publication, publishedAt, hfind, orRaise_eq_ok_iff.mp htime,
        (TenantScope.assertMatches_eq_ok_iff.mp hscope).symm, rfl⟩
      checkpoint := hid ▸ hcontext
      metricKey := require_eq_ok_iff.mp hkey
      derivationKey := rfl
      subject := hid
      stop := rfl
      events := by rw [← hid] }

/-! ## What the other transactions write -/

/-- The same events and metrics, and no fewer publications. -/
structure SameHistory (t t' : AnalyticsTables) : Prop where
  events : t'.businessEvents = t.businessEvents
  metrics : t'.metricVersions = t.metricVersions
  publications : t.publications <+: t'.publications

instance : IsPreorder AnalyticsTables SameHistory where
  refl _ := ⟨rfl, rfl, List.prefix_refl _⟩
  trans _ _ _ h h' := ⟨h'.events.trans h.events, h'.metrics.trans h.metrics,
    h.publications.trans h'.publications⟩

/-- New events with ids of their own, no metrics, and no fewer publications. -/
structure AddsEvents (db db' : AgentDatabase M AnalyticsTables) : Prop where
  nextId : db.nextId ≤ db'.nextId
  events : Table.Issued BusinessEvent.id db.nextId db.tables.domain.businessEvents →
    Table.Issued BusinessEvent.id db'.nextId db'.tables.domain.businessEvents
  metrics : db'.tables.domain.metricVersions = db.tables.domain.metricVersions
  publications : db.tables.domain.publications <+: db'.tables.domain.publications

instance : IsPreorder (AgentDatabase M AnalyticsTables) AddsEvents where
  refl _ := ⟨le_rfl, id, rfl, List.prefix_refl _⟩
  trans _ _ _ h h' := ⟨h.nextId.trans h'.nextId, fun hissued => h'.events (h.events hissued),
    h'.metrics.trans h.metrics, h.publications.trans h'.publications⟩

section Transactions

variable {now : Time} {db db' : AgentDatabase M AnalyticsTables}

theorem AddsEvents.of_frames (h : Frames SameHistory db db') : AddsEvents db db' where
  nextId := h.nextId
  events hissued := by
    rw [h.domain.events]
    exact hissued.mono h.nextId
  metrics := h.domain.metrics
  publications := h.domain.publications

theorem within_addsEvents {α : Type} {m : AnalyticsTxn M α} (h : Within (Frames SameHistory) m) :
    Within AddsEvents m :=
  fun db => (h db).mono fun _ _ hframes => .of_frames hframes

theorem domainRelation_addsEvents (now : Time) (refOk : RunRef → Bool) :
    DomainRelation (M := M) now refOk SameHistory AddsEvents where
  modifyTables f hf := within_addsEvents ((domainRelation_frames now refOk).modifyTables f hf)
  newId := within_addsEvents (domainRelation_frames now refOk).newId
  addOutboxEvent scope eventType :=
    within_addsEvents ((domainRelation_frames now refOk).addOutboxEvent scope eventType)
  createAgentRun args admission href hkey :=
    within_addsEvents ((domainRelation_frames now refOk).createAgentRun args admission href hkey)

/-- An event with a new id. -/
theorem AddsEvents.insert (event : BusinessEvent) (hle : db.nextId ≤ event.id)
    (hlt : event.id < db'.nextId)
    (hevents : db'.tables.domain.businessEvents = db.tables.domain.businessEvents ++ [event])
    (hmetrics : db'.tables.domain.metricVersions = db.tables.domain.metricVersions)
    (hpublications : db'.tables.domain.publications = db.tables.domain.publications) :
    AddsEvents db db' where
  nextId := (hle.trans_lt hlt).le
  events hissued := by
    rw [hevents]
    exact hissued.concat hle hlt
  metrics := hmetrics
  publications := hpublications ▸ List.prefix_refl _

theorem Normalizing.addsEvents {scope : TenantScope} {observation : ConnectorObservation}
    {publicationId : Option Id} (h : Normalizing scope observation db publicationId db') :
    AddsEvents db db' := by
  cases h with
  | done existing hlink => exact refl db
  | fresh hlink hsource hnext hdomain =>
      have hlt : db.nextId + 1 < db'.nextId := by
        rw [hnext]
        exact Nat.add_lt_add_left (by decide) db.nextId
      exact .insert (eventOf (db.nextId + 1) scope observation _) (Nat.le_succ _) hlt
        (by rw [hdomain]; rfl) (by rw [hdomain]; rfl) (by rw [hdomain]; rfl)

theorem Ingesting.addsEvents {scope : TenantScope} {accountId : Id} {update : TelegramUpdate}
    {publicationId : Option Id} (h : Ingesting scope accountId update now db publicationId db') :
    AddsEvents db db' := by
  cases h with
  | known account read existing haccount hread hknown hnormalizing => exact hnormalizing.addsEvents
  | fresh account read db₁ haccount hread hknown hnext hdomain hnormalizing =>
      refine trans_of AddsEvents (AddsEvents.of_frames ⟨hnext ▸ Nat.le_succ _, ?_⟩)
        hnormalizing.addsEvents
      rw [hdomain]
      exact ⟨rfl, rfl, List.prefix_refl _⟩

theorem within_ingest_addsEvents (scope : TenantScope) (accountId : Id) (update : TelegramUpdate) :
    Within AddsEvents (ingestTelegramUpdate (M := M) scope accountId update now) :=
  fun db => (ensures_ingestTelegramUpdate scope accountId update now db).mono
    fun _ _ h => h.addsEvents

theorem within_finishPoll_addsEvents (context : RuntimeJobContext) (accountId : Id) (poll : Poll)
    (updates : List TelegramUpdate) :
    Within AddsEvents (finishPoll (M := M) context accountId now poll updates) := by
  have hf := domainRelation_addsEvents (M := M) now fun _ => true
  refine hf.bind hf.tables fun t => hf.bind (hf.check _) fun sorted => ?_
  refine hf.bind (hf.foldlM (fun progress update => ?_) _) fun progress => ?_
  · exact hf.bind (within_ingest_addsEvents _ _ _) fun _ => hf.pure _
  · refine hf.bind (hf.modifyTables _ fun t => ⟨rfl, rfl, List.prefix_refl _⟩) fun _ => ?_
    refine hf.foldlM (fun _ id => hf.bind ?_ fun _ => hf.pure _) _
    exact within_addsEvents (framesWithin_createJob now _)

theorem within_normalize_addsEvents (context : RuntimeJobContext) (observationId : Id) :
    Within AddsEvents (normalizeConnectorObservation (M := M) context observationId) := by
  have hf := domainRelation_addsEvents (M := M) 0 fun _ => true
  refine hf.bind hf.tables fun t => hf.bind (hf.check _) fun observation => ?_
  refine hf.bind (hf.check _) fun _ => hf.bind (fun db => ?_) fun _ => hf.pure _
  exact (ensures_normalizeObservation context.scope observation db).mono
    fun _ _ h => h.addsEvents

theorem within_createBusinessEvent_addsEvents (scope : TenantScope) (eventType : String)
    (occurredAt : Time) (publicationId : Option Id) :
    Within AddsEvents (createBusinessEvent (M := M) now scope eventType occurredAt publicationId) := by
  intro db
  rw [createBusinessEvent, ensures_bind, ensures_newId, ensures_bind, ensures_modifyTables,
    DomainTxn.addOutboxEvent, ensures_modify]
  exact .insert _ le_rfl (Nat.lt_add_of_pos_right (Nat.succ_pos 1)) rfl rfl rfl

theorem Published.addsEvents {scope : TenantScope} {request : PublishRequest}
    {messageId chatId : String} (h : Published now scope request messageId chatId db db') :
    AddsEvents db db' := by
  refine .of_frames ⟨(Nat.le_add_right _ 3).trans h.publishing.nextId, ?_⟩
  have hpublications := h.publishing.publications
  simp only [domain_withDomain, toRuntimeTables_withDomain] at hpublications
  rw [h.domain]
  refine ⟨rfl, rfl, ?_⟩
  change db.tables.domain.publications <+: db'.tables.domain.publications
  rw [hpublications]
  exact List.prefix_append _ _

theorem transaction_addsEvents {hashPayload : Derivation → String}
    {transaction : AnalyticsTransaction}
    (hother : ∀ scope publicationId, transaction ≠ .calculate scope publicationId)
    (hrun : exec (transaction.run hashPayload now) db = .ok db') : AddsEvents db db' := by
  have hf := domainRelation_addsEvents (M := M) now fun _ => true
  suffices hwithin : Within AddsEvents (transaction.run (M := M) hashPayload now) from
    Ensures.of_exec (hwithin db) hrun
  cases transaction with
  | configure scope accountId types =>
      exact within_configureTelegramObservation hf (fun _ _ => ⟨rfl, rfl, List.prefix_refl _⟩) _ _ _
  | ingest scope accountId update =>
      exact hf.bind (within_ingest_addsEvents scope accountId update) fun _ => hf.pure _
  | normalize context observationId => exact within_normalize_addsEvents context observationId
  | commitPoll context accountId poll updates =>
      exact within_finishPoll_addsEvents context accountId poll _
  | calculate scope publicationId => exact absurd rfl (hother scope publicationId)
  | recordEvent scope eventType occurredAt publicationId =>
      exact within_createBusinessEvent_addsEvents scope eventType occurredAt publicationId
  | publish scope request messageId chatId =>
      exact fun db => (ensures_publish now scope request messageId chatId db).mono
        fun _ _ h => h.addsEvents
  | foreign effect =>
      refine within_performForeign hf ⟨fun _ _ _ => ⟨rfl, rfl, List.prefix_refl _⟩,
        fun _ _ => ⟨rfl, rfl, List.prefix_refl _⟩⟩ effect fun work => ?_
      exact within_addsEvents (framesWithin_perform now _ _ work)

end Transactions

/-! ## The invariant -/

/-- The versions of each publication are numbered and linked, and show what they were derived from. -/
structure MetricHistory (hashPayload : Derivation → String) (nextId : Id) (t : AnalyticsTables) :
    Prop where
  events : Table.Issued BusinessEvent.id nextId t.businessEvents
  ids : Table.Issued MetricVersion.id nextId t.metricVersions
  numbered : ∀ publicationId, Numbered MetricVersion.versionNumber (t.metricVersionsOf publicationId)
  linked : ∀ publicationId, Linked MetricVersion.id MetricVersion.previousMetricVersionId
    (t.metricVersionsOf publicationId)
  derived : ∀ metric ∈ t.metricVersions, ∃ derivation, metric.Holds hashPayload derivation
  distinct : ∀ metric ∈ t.metricVersions, metric.includedBusinessEventIds.Nodup
  metricKey : ∀ metric ∈ t.metricVersions, metric.metricKey = "telegram_reaction_changes"
  scopes : ∀ metric ∈ t.metricVersions, ∃ publication,
    Table.find Publication.id metric.subjectId t.publications = some publication ∧
      publication.scope = metric.scope

namespace MetricHistory

variable {hashPayload : Derivation → String} {now : Time} {scope : TenantScope}
variable {publicationId : Id} {db db' : AgentDatabase M AnalyticsTables}

theorem addsEvents (h : MetricHistory hashPayload db.nextId db.tables.domain)
    (hadds : AddsEvents db db') : MetricHistory hashPayload db'.nextId db'.tables.domain := by
  obtain ⟨new, hnew⟩ := hadds.publications
  constructor
  · exact hadds.events h.events
  · rw [hadds.metrics]
    exact h.ids.mono hadds.nextId
  · intro publicationId
    rw [metricVersionsOf_congr hadds.metrics]
    exact h.numbered publicationId
  · intro publicationId
    rw [metricVersionsOf_congr hadds.metrics]
    exact h.linked publicationId
  · rw [hadds.metrics]
    exact h.derived
  · rw [hadds.metrics]
    exact h.distinct
  · rw [hadds.metrics]
    exact h.metricKey
  · rw [hadds.metrics]
    intro metric hmetric
    obtain ⟨publication, hfind, hscope⟩ := h.scopes metric hmetric
    exact ⟨publication, hnew ▸ Table.find_append_of_eq_some hfind, hscope⟩

/-- The metrics that a calculation looks through are the versions of its publication. -/
theorem metricsOf_eq (h : MetricHistory hashPayload db.nextId db.tables.domain)
    {inputs : MetricInputs} (hreads : inputs.Reads now scope publicationId db.tables.domain) :
    metricsOf scope inputs.checkpoint.metricKey inputs.derivation.publicationId db.tables.domain =
      db.tables.domain.metricVersionsOf publicationId := by
  obtain ⟨publication, _, hfind, -, hscope, -⟩ := hreads.publication
  refine List.filter_congr fun metric hmetric => ?_
  rw [hreads.subject, hreads.metricKey]
  by_cases hsubject : metric.subjectId = publicationId
  · obtain ⟨found, hfound, hsame⟩ := h.scopes metric hmetric
    rw [hsubject, hfind] at hfound
    obtain rfl : publication = found := Option.some.inj hfound
    simp [hsubject, h.metricKey metric hmetric, ← hsame, hscope]
  · simp [hsubject]

theorem latestMetric_eq (h : MetricHistory hashPayload db.nextId db.tables.domain)
    {inputs : MetricInputs} (hreads : inputs.Reads now scope publicationId db.tables.domain) :
    latestMetric scope inputs.checkpoint.metricKey inputs.derivation.publicationId
        db.tables.domain =
      (db.tables.domain.metricVersionsOf publicationId).getLast? := by
  rw [latestMetric, h.metricsOf_eq hreads]
  exact (h.numbered publicationId).find_highest

/-- The number of a version comes from the latest one. -/
theorem next_number (h : MetricHistory hashPayload db.nextId db.tables.domain) :
    (((db.tables.domain.metricVersionsOf publicationId).getLast?).map
      MetricVersion.versionNumber).getD 0 + 1 =
        (db.tables.domain.metricVersionsOf publicationId).length + 1 := by
  have hnumbered := h.numbered publicationId
  generalize db.tables.domain.metricVersionsOf publicationId = versions at hnumbered ⊢
  cases hlast : versions.getLast? with
  | none =>
      rw [List.getLast?_eq_none_iff.mp hlast]
      rfl
  | some last =>
      have hpos : 0 < versions.length := List.length_pos_of_mem (List.mem_of_getLast? hlast)
      rw [List.getLast?_eq_getElem?] at hlast
      have hnum := hnumbered.num_eq hlast
      simp only [Option.map_some, Option.getD_some]
      omega

/-- What a calculation keeps. -/
theorem calculate (h : MetricHistory hashPayload db.nextId db.tables.domain)
    {result : MetricVersion × Bool}
    (hcalculated : Calculated hashPayload now scope publicationId db result db') :
    MetricHistory hashPayload db'.nextId db'.tables.domain := by
  cases hcalculated with
  | known inputs hinputs metric hlatest hhash => exact h
  | fresh inputs hinputs metric evidenceId source evidence hmetric hnext hdomain =>
      have hreads := metricInputs_reads hinputs
      rw [h.latestMetric_eq hreads] at hmetric
      have hholds : metric.Holds hashPayload inputs.derivation := by
        rw [hmetric]
        exact inputs.row_holds hreads.derivationKey.symm _ _ _ _ _ _
      have hsubject : metric.subjectId = publicationId := hholds.subject.trans hreads.subject
      have hversions : ∀ otherId, db'.tables.domain.metricVersionsOf otherId =
          db.tables.domain.metricVersionsOf otherId ++
            if publicationId = otherId then [metric] else [] := by
        intro otherId
        rw [hdomain, AnalyticsTables.metricVersionsOf, List.filter_append, ← hsubject]
        by_cases hother : metric.subjectId = otherId <;>
          simp [AnalyticsTables.metricVersionsOf, hother]
      have hmem : ∀ row ∈ db'.tables.domain.metricVersions,
          row ∈ db.tables.domain.metricVersions ∨ row = metric := by
        rw [hdomain]
        intro row hrow
        exact (List.mem_append.mp hrow).imp_right List.mem_singleton.mp
      have hpublications : db'.tables.domain.publications = db.tables.domain.publications := by
        rw [hdomain]
      constructor
      · rw [hdomain]
        exact h.events.mono hnext.le
      · rw [hdomain]
        exact h.ids.concat (by rw [hmetric]; exact le_rfl) (by rw [hmetric]; exact hnext)
      · intro otherId
        rw [hversions otherId]
        split
        next hother =>
          refine (h.numbered otherId).concat ?_
          rw [hmetric, ← hother]
          exact h.next_number
        next =>
          rw [List.append_nil]
          exact h.numbered otherId
      · intro otherId
        rw [hversions otherId]
        split
        next hother =>
          refine (h.linked otherId).concat ?_
          rw [hmetric, ← hother]
          rfl
        next =>
          rw [List.append_nil]
          exact h.linked otherId
      · intro row hrow
        rcases hmem row hrow with hold | rfl
        · exact h.derived row hold
        · exact ⟨inputs.derivation, hholds⟩
      · intro row hrow
        rcases hmem row hrow with hold | rfl
        · exact h.distinct row hold
        · rw [hholds.events, hreads.events]
          exact keysNodup_attributedEvents h.events.nodup
      · intro row hrow
        rcases hmem row hrow with hold | rfl
        · exact h.metricKey row hold
        · exact (hholds.metricKey.trans hreads.derivationKey).trans hreads.metricKey
      · intro row hrow
        rw [hpublications]
        rcases hmem row hrow with hold | rfl
        · exact h.scopes row hold
        · obtain ⟨publication, _, hfind, -, hscope, -⟩ := hreads.publication
          refine ⟨publication, hsubject ▸ hfind, ?_⟩
          rw [hscope, hmetric]
          rfl

end MetricHistory

/-! ## Runs -/

section Step

variable {D : Digest} {hashPayload : Derivation → String} {action : AnalyticsAction}
variable {s : AnalyticsState M}

theorem SameObservations.sameHistory {t t' : AnalyticsTables} (h : SameObservations t t') :
    SameHistory t t' :=
  ⟨h.events, h.metrics, h.publications ▸ List.prefix_refl _⟩

theorem Calculated.metrics {now : Time} {scope : TenantScope} {publicationId : Id}
    {db db' : AgentDatabase M AnalyticsTables} {result : MetricVersion × Bool}
    (h : Calculated hashPayload now scope publicationId db result db') :
    db'.tables.domain.metricVersions =
      db.tables.domain.metricVersions ++ if result.2 then [result.1] else [] := by
  cases h with
  | known inputs hinputs metric hlatest hhash => exact (List.append_nil _).symm
  | fresh inputs hinputs metric evidenceId source evidence hmetric hnext hdomain =>
      rw [hdomain]
      rfl

/-- A step keeps the invariant, and all versions. -/
theorem metricHistory_step (h : MetricHistory hashPayload s.db.nextId s.db.tables.domain) :
    MetricHistory hashPayload ((analyticsApp D hashPayload).step action s).db.nextId
        ((analyticsApp D hashPayload).step action s).db.tables.domain ∧
      s.db.tables.domain.metricVersions <+:
        ((analyticsApp D hashPayload).step action s).db.tables.domain.metricVersions := by
  have hadds : ∀ {db db' : AgentDatabase M AnalyticsTables}, AddsEvents db db' →
      MetricHistory hashPayload db.nextId db.tables.domain →
        MetricHistory hashPayload db'.nextId db'.tables.domain ∧
          db.tables.domain.metricVersions <+: db'.tables.domain.metricVersions :=
    fun hdb h => ⟨h.addsEvents hdb, hdb.metrics ▸ List.prefix_refl _⟩
  cases analytics_step D hashPayload action s with
  | quiet hframes hingests =>
      exact hadds (.of_frames ⟨hframes.nextId, hframes.domain.sameHistory⟩) h
  | ran transaction db hfrom hrun hframes hingests =>
      have hafter : AddsEvents db ((analyticsApp D hashPayload).step action s).db := by
        refine .of_frames ⟨hframes.nextId, ?_⟩
        rw [← hframes.domain]
        exact refl _
      have hdb : MetricHistory hashPayload db.nextId db.tables.domain ∧
          s.db.tables.domain.metricVersions <+: db.tables.domain.metricVersions := by
        by_cases hcalculate : ∃ scope publicationId, transaction = .calculate scope publicationId
        · obtain ⟨scope, publicationId, rfl⟩ := hcalculate
          obtain ⟨_, hrun⟩ := exec_eq_ok_iff.mp hrun
          obtain ⟨⟨result, db₁⟩, hresult, hpure⟩ := Except.bind_eq_ok_iff.mp hrun
          cases hpure
          have hcalculated := ensures_calculated hashPayload s.now scope publicationId s.db _ _ hresult
          exact ⟨h.calculate hcalculated, hcalculated.metrics ▸ List.prefix_append _ _⟩
        · refine hadds (transaction_addsEvents (fun scope publicationId heq => ?_) hrun) h
          exact hcalculate ⟨scope, publicationId, heq⟩
      exact ⟨hdb.1.addsEvents hafter, hdb.2.trans (hafter.metrics ▸ List.prefix_refl _)⟩

theorem metricHistory_run (D : Digest) {hashPayload : Derivation → String} {s : AnalyticsState M}
    (h : MetricHistory hashPayload s.db.nextId s.db.tables.domain) (actions : List AnalyticsAction) :
    MetricHistory hashPayload (run (analyticsApp D hashPayload).step s actions).db.nextId
      (run (analyticsApp D hashPayload).step s actions).db.tables.domain :=
  invariant_run_of_step _
    (I := fun s : AnalyticsState M => MetricHistory hashPayload s.db.nextId s.db.tables.domain)
    (fun _ _ h => (metricHistory_step h).1) h actions

theorem metricVersions_prefix_run (D : Digest) {hashPayload : Derivation → String}
    {s : AnalyticsState M} (h : MetricHistory hashPayload s.db.nextId s.db.tables.domain)
    (actions : List AnalyticsAction) :
    s.db.tables.domain.metricVersions <+:
      (run (analyticsApp D hashPayload).step s actions).db.tables.domain.metricVersions := by
  refine relation_run
    (I := fun s : AnalyticsState M => MetricHistory hashPayload s.db.nextId s.db.tables.domain)
    (R := fun s s' : AnalyticsState M =>
      s.db.tables.domain.metricVersions <+: s'.db.tables.domain.metricVersions)
    (fun _ => List.prefix_refl _) (fun _ _ _ => List.IsPrefix.trans)
    (fun _ _ h _ => (metricHistory_step h).1) (fun _ _ h _ => (metricHistory_step h).2) h
    (guarded_of_forall (G := fun _ _ => True) (fun _ _ => trivial) s actions)

theorem AnalyticsInitial.metricHistory (hs : AnalyticsInitial s) (hashPayload : Derivation → String) :
    MetricHistory hashPayload s.db.nextId s.db.tables.domain := by
  constructor <;> simp [hs.events, hs.metrics, AnalyticsTables.metricVersionsOf, Table.issued_nil]

end Step

/-! ## What a calculation returns -/

section Calculation

variable {hashPayload : Derivation → String} {now : Time} {scope : TenantScope}
variable {publicationId : Id} {db db' : AgentDatabase M AnalyticsTables}
variable {result : MetricVersion × Bool}

/-- It returns the newest version. -/
theorem Calculated.newest (h : Calculated hashPayload now scope publicationId db result db')
    (hhistory : MetricHistory hashPayload db.nextId db.tables.domain) :
    (db'.tables.domain.metricVersionsOf publicationId).getLast? = some result.1 := by
  cases h with
  | known inputs hinputs metric hlatest hhash =>
      rw [← hhistory.latestMetric_eq (metricInputs_reads hinputs)]
      exact hlatest
  | fresh inputs hinputs metric evidenceId source evidence hmetric hnext hdomain =>
      have hsubject : metric.subjectId = publicationId := by
        rw [hmetric]
        exact (metricInputs_reads hinputs).subject
      rw [hdomain, AnalyticsTables.metricVersionsOf, List.filter_append]
      simp [hsubject]

/-- It shows what the calculation has read: the version is new, or its derivation would hash
differently. -/
theorem Calculated.holds (h : Calculated hashPayload now scope publicationId db result db')
    (hhistory : MetricHistory hashPayload db.nextId db.tables.domain)
    (hhash : result.2 = true ∨ Function.Injective hashPayload) :
    ∃ inputs, metricInputs now scope publicationId db.tables.domain = .ok inputs ∧
      result.1.Holds hashPayload inputs.derivation := by
  cases h with
  | known inputs hinputs metric hlatest hsame =>
      refine ⟨inputs, hinputs, ?_⟩
      rw [hhistory.latestMetric_eq (metricInputs_reads hinputs)] at hlatest
      have hmem := (List.mem_filter.mp (List.mem_of_getLast? hlatest)).1
      obtain ⟨derivation, hholds⟩ := hhistory.derived metric hmem
      -- the hash of the stored derivation is that of the present one
      have hinjective := hhash.resolve_left Bool.false_ne_true
      obtain rfl : derivation = inputs.derivation := hinjective (hholds.hash.symm.trans hsame)
      exact hholds
  | fresh inputs hinputs metric evidenceId source evidence hmetric hnext hdomain =>
      refine ⟨inputs, hinputs, ?_⟩
      rw [hmetric]
      exact inputs.row_holds (metricInputs_reads hinputs).derivationKey.symm _ _ _ _ _ _

/-- So it counts what the tables hold. -/
theorem Calculated.counts (h : Calculated hashPayload now scope publicationId db result db')
    (hhistory : MetricHistory hashPayload db.nextId db.tables.domain)
    (hhash : result.2 = true ∨ Function.Injective hashPayload) :
    ∃ publication publishedAt checkpoint external,
      Table.find Publication.id publicationId db.tables.domain.publications = some publication ∧
      publication.publishedAt = some publishedAt ∧
      checkpointContextForPublication publicationId db.tables.domain.toExecutionTables =
        .ok (checkpoint, external) ∧
      result.1.Counts scope publicationId publishedAt
        (publishedAt + seconds checkpoint.windowSeconds) db.tables.domain := by
  obtain ⟨inputs, hinputs, hholds⟩ := h.holds hhistory hhash
  have hreads := metricInputs_reads hinputs
  obtain ⟨publication, publishedAt, hfind, hpublished, -, hstart⟩ := hreads.publication
  have hstop := hreads.stop
  have hevents := hreads.events
  rw [hstart] at hstop hevents
  rw [hstop] at hevents
  exact ⟨publication, publishedAt, inputs.checkpoint, inputs.external, hfind, hpublished,
    hreads.checkpoint, hholds.start.trans hstart, hholds.stop.trans hstop, _,
    hholds.events.trans hevents, keysNodup_attributedEvents hhistory.events.nodup,
    pairwise_attributedEvents _ _ _ _ _, fun event => mem_attributedEvents_iff⟩

end Calculation

/-! ## The history -/

/-- In every run the versions of a publication are numbered from one, each linked to the one before it,
and none is ever changed; each has the number of its events as its value, if it has one. A calculation
returns the newest version, which counts the reactions that the tables hold then. -/
theorem metric_history_append_only (D : Digest) (hashPayload : Derivation → String)
    {s₀ : AnalyticsState M} (hs₀ : AnalyticsInitial s₀) (actions : List AnalyticsAction) :
    let s := run (analyticsApp D hashPayload).step s₀ actions
    let t := s.db.tables.domain
    (∀ publicationId, Numbered MetricVersion.versionNumber (t.metricVersionsOf publicationId) ∧
      Linked MetricVersion.id MetricVersion.previousMetricVersionId
        (t.metricVersionsOf publicationId)) ∧
    (∀ more, t.metricVersions <+:
      (run (analyticsApp D hashPayload).step s more).db.tables.domain.metricVersions) ∧
    (∀ metric ∈ t.metricVersions, metric.includedBusinessEventIds.Nodup ∧
      metric.valueNumeric =
        if metric.availabilityStatus = .available ∨ metric.includedBusinessEventIds ≠ [] then
          some metric.includedBusinessEventIds.length
        else none) ∧
    ∀ now scope publicationId metric created (db : AgentDatabase M AnalyticsTables),
      calculateMetricVersion hashPayload now scope publicationId s.db = .ok ((metric, created), db) →
      db.tables.domain.metricVersions = t.metricVersions ++ (if created then [metric] else []) ∧
      (db.tables.domain.metricVersionsOf publicationId).getLast? = some metric ∧
      (created = true ∨ Function.Injective hashPayload →
        ∃ publication publishedAt checkpoint external,
          Table.find Publication.id publicationId t.publications = some publication ∧
          publication.publishedAt = some publishedAt ∧
          checkpointContextForPublication publicationId t.toExecutionTables =
            .ok (checkpoint, external) ∧
          metric.Counts scope publicationId publishedAt
            (publishedAt + seconds checkpoint.windowSeconds) t) := by
  intro s t
  have hhistory := metricHistory_run D (hs₀.metricHistory hashPayload) actions
  refine ⟨fun publicationId => ⟨hhistory.numbered publicationId, hhistory.linked publicationId⟩,
    metricVersions_prefix_run D hhistory, fun metric hmetric => ⟨hhistory.distinct metric hmetric, ?_⟩,
    fun now scope publicationId metric created db hrun => ?_⟩
  · obtain ⟨derivation, hholds⟩ := hhistory.derived metric hmetric
    rw [hholds.value, hholds.availability, hholds.events, Derivation.valueNumeric]
    simp only [List.length_pos_iff]
  · have hcalculated := ensures_calculated hashPayload now scope publicationId s.db _ _ hrun
    exact ⟨hcalculated.metrics, hcalculated.newest hhistory, hcalculated.counts hhistory⟩

/-! ### A reaction that comes after the calculation -/

/-- The metric of the post is calculated, and a reaction comes. -/
def lateReaction : List AnalyticsAction :=
  calculatedAfter [] ++ [.command (.ingestTelegramUpdate demoScope 1 postReaction)]

/-- The newest version does not count the reaction. -/
theorem late_reaction_not_counted :
    let t := (run (analyticsApp plainDigest plainHash).step analyticsStart
      lateReaction).db.tables.domain
    ∃ metric ∈ t.metricVersions, (t.metricVersionsOf 15).getLast? = some metric ∧
      ∃ event ∈ t.businessEvents,
        event.ReactionTo demoScope 15 metric.sourceWindowStart metric.sourceWindowEnd ∧
          event.id ∉ metric.includedBusinessEventIds := by
  decide +kernel

/-- The version after it does. -/
theorem late_reaction_recalculated :
    let t := (run (analyticsApp plainDigest plainHash).step analyticsStart
      (lateReaction ++ [.command (.calculateMetricVersion demoScope 15)])).db.tables.domain
    (t.metricVersionsOf 15).map MetricVersion.includedBusinessEventIds = [[], [25]] ∧
      Numbered MetricVersion.versionNumber (t.metricVersionsOf 15) ∧
      Linked MetricVersion.id MetricVersion.previousMetricVersionId (t.metricVersionsOf 15) :=
  ⟨by decide +kernel,
    (metric_history_append_only plainDigest plainHash analyticsStart_initial _).1 15⟩

end LaunchOS.Analytics
