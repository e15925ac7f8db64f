import LaunchOS.Analytics.Writes

/-!
# Where the events of a metric come from

A metric counts events by their type and by the publication that they name. The normalization of an
observation writes such events, and so does an owner who records one.

The module introduces:

* `AnalyticsTables.TracesTo`: an event comes from an observation of the message of a publication;
* `MetricVersion.Sourced`: every event that a metric counts does;
* `RecordsNoReaction`: no owner records a reaction to a publication;
* `metric_sourced`: under this guard every metric of every run is sourced;
* a run in which the owner's own event is counted.
-/

namespace LaunchOS.Analytics

open Txn Transition

variable {M : Type}

/-! ## Provenance -/

namespace AnalyticsTables

/-- The event was normalized from an observation of the account, which is about the message of the
publication. -/
def TracesTo (t : AnalyticsTables) (eventId publicationId connectorAccountId : Id) : Prop :=
  ∃ link ∈ t.normalizedObservationLinks, link.businessEventId = eventId ∧
    ∃ observation ∈ t.connectorObservations, observation.id = link.observationId ∧
      observation.connectorAccountId = connectorAccountId ∧
      ∃ published ∈ t.publicationExecutionLinks, published.publicationId = publicationId ∧
        ∃ external ∈ t.externalReferences, external.id = published.externalReferenceId ∧
          external.connectorAccountId = connectorAccountId ∧
          observation.externalObjectId = some external.externalId ∧
          sameChat observation external = true

instance (t : AnalyticsTables) (eventId publicationId connectorAccountId : Id) :
    Decidable (t.TracesTo eventId publicationId connectorAccountId) := by
  unfold TracesTo
  infer_instance

end AnalyticsTables

/-- Every event of a metric is the event of an observation of its account, about the message of its
publication. -/
def MetricVersion.Sourced (metric : MetricVersion) (t : AnalyticsTables) : Prop :=
  ∀ eventId ∈ metric.includedBusinessEventIds,
    t.TracesTo eventId metric.subjectId metric.sourceConnectorAccountId

instance (metric : MetricVersion) (t : AnalyticsTables) : Decidable (metric.Sourced t) := by
  unfold MetricVersion.Sourced
  infer_instance

/-- Nothing of a provenance is lost. -/
structure KeepsSources (t t' : AnalyticsTables) : Prop where
  normalized : t.normalizedObservationLinks ⊆ t'.normalizedObservationLinks
  observations : t.connectorObservations ⊆ t'.connectorObservations
  links : t.publicationExecutionLinks ⊆ t'.publicationExecutionLinks
  references : t.externalReferences ⊆ t'.externalReferences

instance : IsPreorder AnalyticsTables KeepsSources where
  refl _ := ⟨List.Subset.refl _, List.Subset.refl _, List.Subset.refl _, List.Subset.refl _⟩
  trans _ _ _ h h' := ⟨List.Subset.trans h.normalized h'.normalized,
    List.Subset.trans h.observations h'.observations, List.Subset.trans h.links h'.links,
    List.Subset.trans h.references h'.references⟩

theorem AnalyticsTables.TracesTo.mono {t t' : AnalyticsTables} {eventId publicationId accountId : Id}
    (h : t.TracesTo eventId publicationId accountId) (hkeeps : KeepsSources t t') :
    t'.TracesTo eventId publicationId accountId := by
  obtain ⟨link, hlink, hevent, observation, hobservation, hid, haccount, published, hpublished,
    hpublication, external, hexternal, hsame⟩ := h
  exact ⟨link, hkeeps.normalized hlink, hevent, observation, hkeeps.observations hobservation, hid,
    haccount, published, hkeeps.links hpublished, hpublication, external,
    hkeeps.references hexternal, hsame⟩

theorem MetricVersion.Sourced.mono {metric : MetricVersion} {t t' : AnalyticsTables}
    (h : metric.Sourced t) (hkeeps : KeepsSources t t') : metric.Sourced t' :=
  fun eventId hevent => (h eventId hevent).mono hkeeps

theorem publicationForObservation_eq_some {observation : ConnectorObservation}
    {t : ExecutionTables} {publicationId : Id}
    (h : publicationForObservation observation t = some publicationId) :
    ∃ published ∈ t.publicationExecutionLinks, published.publicationId = publicationId ∧
      ∃ external ∈ t.externalReferences, external.id = published.externalReferenceId ∧
        external.connectorAccountId = observation.connectorAccountId ∧
        observation.externalObjectId = some external.externalId ∧
        sameChat observation external = true := by
  unfold publicationForObservation at h
  obtain ⟨messageId, hmessage, h⟩ := Option.bind_eq_some_iff.mp h
  obtain ⟨external, hexternal, h⟩ := Option.bind_eq_some_iff.mp h
  obtain ⟨_, hchat, h⟩ := Option.bind_eq_some_iff.mp h
  obtain ⟨published, hpublished, h⟩ := Option.bind_eq_some_iff.mp h
  cases h
  have hmatch := List.find?_some hexternal
  simp only [Bool.and_eq_true, decide_eq_true_eq] at hmatch
  refine ⟨published, Table.mem_of_find hpublished, rfl, external,
    List.mem_of_find?_eq_some hexternal, (Table.key_of_find hpublished).symm, hmatch.1.1.1, ?_, ?_⟩
  · rw [hmessage, hmatch.2]
  · by_contra hne
    rw [Bool.not_eq_true] at hne
    simp [hne] at hchat

/-! ## Events -/

/-- An event that a metric may count has a provenance. -/
def BusinessEvent.Traced (event : BusinessEvent) (t : AnalyticsTables) : Prop :=
  event.eventType ∈ reactionEventTypes → ∀ publicationId, event.publicationId = some publicationId →
    ∃ accountId, t.TracesTo event.id publicationId accountId

theorem BusinessEvent.Traced.mono {event : BusinessEvent} {t t' : AnalyticsTables}
    (h : event.Traced t) (hkeeps : KeepsSources t t') : event.Traced t' := by
  intro htype publicationId hpublication
  obtain ⟨accountId, htraces⟩ := h htype publicationId hpublication
  exact ⟨accountId, htraces.mono hkeeps⟩

/-- The same messages of publications. -/
structure SameReferences (t t' : ExecutionTables) : Prop where
  references : t'.externalReferences = t.externalReferences
  links : t'.publicationExecutionLinks = t.publicationExecutionLinks

/-- From `t` to `t'` only events with a provenance are added, and no metrics or publications. -/
structure AddsTraced (t t' : AnalyticsTables) : Prop
    extends SameReferences t.toExecutionTables t'.toExecutionTables where
  normalized : t.normalizedObservationLinks ⊆ t'.normalizedObservationLinks
  observations : t.connectorObservations ⊆ t'.connectorObservations
  events : ∀ event ∈ t'.businessEvents, event ∈ t.businessEvents ∨ event.Traced t'
  metrics : t'.metricVersions = t.metricVersions

theorem AddsTraced.keepsSources {t t' : AnalyticsTables} (h : AddsTraced t t') :
    KeepsSources t t' :=
  ⟨h.normalized, h.observations, fun _ hmem => h.links ▸ hmem, fun _ hmem => h.references ▸ hmem⟩

/-- Writing none of these tables. -/
theorem AddsTraced.of_eq {t t' : AnalyticsTables}
    (hreferences : t'.externalReferences = t.externalReferences)
    (hlinks : t'.publicationExecutionLinks = t.publicationExecutionLinks)
    (hnormalized : t'.normalizedObservationLinks = t.normalizedObservationLinks)
    (hobservations : t'.connectorObservations = t.connectorObservations)
    (hevents : t'.businessEvents = t.businessEvents)
    (hmetrics : t'.metricVersions = t.metricVersions) : AddsTraced t t' where
  references := hreferences
  links := hlinks
  normalized _ hmem := hnormalized ▸ hmem
  observations _ hmem := hobservations ▸ hmem
  events _ hevent := .inl (hevents ▸ hevent)
  metrics := hmetrics

instance : IsPreorder AnalyticsTables AddsTraced where
  refl _ := .of_eq rfl rfl rfl rfl rfl rfl
  trans _ _ _ h h' :=
    { references := h'.references.trans h.references
      links := h'.links.trans h.links
      normalized := List.Subset.trans h.normalized h'.normalized
      observations := List.Subset.trans h.observations h'.observations
      events := fun event hevent => by
        rcases h'.events event hevent with hold | hnew
        · exact (h.events event hold).imp id fun htraced => htraced.mono h'.keepsSources
        · exact .inr hnew
      metrics := h'.metrics.trans h.metrics }

theorem SameObservations.addsTraced {t t' : AnalyticsTables} (h : SameObservations t t') :
    AddsTraced t t' :=
  .of_eq h.references h.links h.normalized h.observations h.events h.metrics

/-! ## The transactions -/

section Transactions

variable {now : Time} {db db' : AgentDatabase M AnalyticsTables}

theorem Normalizing.addsTraced {scope : TenantScope} {observation : ConnectorObservation}
    {publicationId : Option Id} (h : Normalizing scope observation db publicationId db')
    (hmem : observation ∈ db.tables.domain.connectorObservations) :
    Frames AddsTraced db db' := by
  cases h with
  | done existing hlink => exact refl db
  | fresh hlink hsource hnext hdomain =>
      refine ⟨hnext ▸ Nat.le_add_right _ _, ?_⟩
      rw [hdomain]
      refine { references := rfl, links := rfl, metrics := rfl,
               normalized := List.subset_append_left _ _, observations := List.Subset.refl _,
               events := fun event hevent => ?_ }
      rcases List.mem_append.mp hevent with hold | hnew
      · exact .inl hold
      · rw [List.mem_singleton.mp hnew]
        refine .inr fun _ publicationId hpublication => ?_
        -- the new event names what `_publication_for_observation` found
        obtain ⟨published, hpublished, hid, external, hexternal, hreference, haccount, hmessage⟩ :=
          publicationForObservation_eq_some hpublication
        exact ⟨observation.connectorAccountId, _, List.mem_append_right _ (List.mem_singleton_self _),
          rfl, observation, hmem, rfl, rfl, published, hpublished, hid, external, hexternal,
          hreference, haccount, hmessage⟩

theorem Ingesting.addsTraced {scope : TenantScope} {accountId : Id} {update : TelegramUpdate}
    {publicationId : Option Id} (h : Ingesting scope accountId update now db publicationId db') :
    Frames AddsTraced db db' := by
  cases h with
  | known account read existing haccount hread hknown hnormalizing =>
      exact hnormalizing.addsTraced (List.mem_of_find?_eq_some hknown)
  | fresh account read db₁ haccount hread hknown hnext hdomain hnormalizing =>
      have hinsert : Frames AddsTraced db db₁ := by
        refine ⟨hnext ▸ Nat.le_add_right _ _, ?_⟩
        rw [hdomain]
        exact { references := rfl, links := rfl, metrics := rfl,
                normalized := List.Subset.refl _, observations := List.subset_append_left _ _,
                events := fun _ hevent => .inl hevent }
      refine hinsert.trans (hnormalizing.addsTraced ?_)
      rw [hdomain]
      exact List.mem_append_right _ (List.mem_singleton_self _)

theorem within_ingest_addsTraced (scope : TenantScope) (accountId : Id) (update : TelegramUpdate) :
    Within (Frames AddsTraced) (ingestTelegramUpdate (M := M) scope accountId update now) :=
  fun db => (ensures_ingestTelegramUpdate scope accountId update now db).mono
    fun _ _ h => h.addsTraced

theorem within_finishPoll_addsTraced (context : RuntimeJobContext) (accountId : Id) (poll : Poll)
    (updates : List TelegramUpdate) :
    Within (Frames AddsTraced) (finishPoll (M := M) context accountId now poll updates) := by
  have hf := domainRelation_frames (M := M) (r := AddsTraced) now fun _ => true
  refine hf.bind hf.tables fun t => hf.bind (hf.check _) fun sorted => ?_
  refine hf.bind (hf.foldlM (fun progress update => ?_) _) fun progress => ?_
  · exact hf.bind (within_ingest_addsTraced _ _ _) fun _ => hf.pure _
  · refine hf.bind (hf.modifyTables _ fun t => ?_) fun _ => ?_
    · exact .of_eq rfl rfl rfl rfl rfl rfl
    · exact hf.foldlM (fun _ id => hf.bind (framesWithin_createJob now _) fun _ => hf.pure _) _

theorem within_normalize_addsTraced (context : RuntimeJobContext) (observationId : Id) :
    Within (Frames AddsTraced)
      (normalizeConnectorObservation (M := M) context observationId) := by
  intro db
  unfold normalizeConnectorObservation
  rw [ensures_bind, ensures_tables, ensures_bind, ensures_check]
  intro observation hfind
  rw [ensures_bind, ensures_check]
  intro _ _
  rw [ensures_bind]
  refine (ensures_normalizeObservation context.scope observation db).mono fun _ db' h => ?_
  rw [ensures_pure]
  exact h.addsTraced (Table.mem_of_find (orRaise_eq_ok_iff.mp hfind))

theorem within_configure_addsTraced (scope : TenantScope) (accountId : Id) (types : List String) :
    Within (Frames AddsTraced)
      (configureTelegramObservation (M := M) now scope accountId types) :=
  within_configureTelegramObservation (domainRelation_frames now fun _ => true)
    (fun _ _ => .of_eq rfl rfl rfl rfl rfl rfl) scope accountId types

theorem within_performForeign_addsTraced (effect : ForeignWrite) :
    Within (Frames AddsTraced) (effect.perform (M := M) now) :=
  within_performForeign (domainRelation_frames now fun _ => true)
    ⟨fun _ _ _ => .of_eq rfl rfl rfl rfl rfl rfl, fun _ _ => .of_eq rfl rfl rfl rfl rfl rfl⟩ effect
    fun work => framesWithin_perform now _ _ work

end Transactions

/-! ## The invariant -/

/-- Events and metrics have their provenance, which is unique. -/
structure Provenance (nextId : Id) (t : AnalyticsTables) : Prop where
  references : Table.KeysNodup ExternalReference.id t.externalReferences
  reference_lt : ∀ external ∈ t.externalReferences, external.id < nextId
  links : Table.KeysNodup PublicationExecutionLink.publicationId t.publicationExecutionLinks
  link_lt : ∀ published ∈ t.publicationExecutionLinks, published.publicationId < nextId
  events : ∀ event ∈ t.businessEvents, event.Traced t
  metrics : ∀ metric ∈ t.metricVersions, metric.Sourced t

namespace Provenance

variable {nextId nextId' : Id} {t t' : AnalyticsTables}

theorem addsTraced (h : Provenance nextId t) (hnext : nextId ≤ nextId') (hadds : AddsTraced t t') :
    Provenance nextId' t' := by
  constructor
  · rw [hadds.references]
    exact h.references
  · rw [hadds.references]
    exact fun external hexternal => (h.reference_lt external hexternal).trans_le hnext
  · rw [hadds.links]
    exact h.links
  · rw [hadds.links]
    exact fun published hpublished => (h.link_lt published hpublished).trans_le hnext
  · intro event hevent
    rcases hadds.events event hevent with hold | hnew
    · exact (h.events event hold).mono hadds.keepsSources
    · exact hnew
  · rw [hadds.metrics]
    exact fun metric hmetric => (h.metrics metric hmetric).mono hadds.keepsSources

/-- An event without a publication, or of another type, is no reaction that counts. -/
theorem recordEvent (h : Provenance nextId t) (hnext : nextId ≤ nextId') {event : BusinessEvent}
    (hevent : event.eventType ∈ reactionEventTypes → event.publicationId = none) :
    Provenance nextId' { t with businessEvents := t.businessEvents ++ [event] } := by
  refine h.addsTraced hnext { references := rfl, links := rfl, metrics := rfl,
                              normalized := List.Subset.refl _, observations := List.Subset.refl _,
                              events := fun row hrow => ?_ }
  rcases List.mem_append.mp hrow with hold | hnew
  · exact .inl hold
  · rw [List.mem_singleton.mp hnew]
    refine .inr fun htype publicationId hpublication => ?_
    rw [hevent htype] at hpublication
    cases hpublication

/-- A new message and its publication take new ids. -/
theorem publish (h : Provenance nextId t) {external : ExternalReference}
    {published : PublicationExecutionLink} (hexternal : nextId ≤ external.id)
    (hexternal' : external.id < nextId') (hpublished : nextId ≤ published.publicationId)
    (hpublished' : published.publicationId < nextId') (hkeeps : KeepsSources t t')
    (hreferences : t'.externalReferences = t.externalReferences ++ [external])
    (hlinks : t'.publicationExecutionLinks = t.publicationExecutionLinks ++ [published])
    (hevents : t'.businessEvents = t.businessEvents)
    (hmetrics : t'.metricVersions = t.metricVersions) : Provenance nextId' t' := by
  constructor
  · rw [hreferences]
    refine h.references.append (Table.keysNodup_singleton _) fun new hnew old hold => ?_
    rw [List.mem_singleton.mp hnew]
    exact ((h.reference_lt old hold).trans_le hexternal).ne
  · rw [hreferences]
    intro row hrow
    rcases List.mem_append.mp hrow with hold | hnew
    · exact (h.reference_lt row hold).trans (hexternal.trans_lt hexternal')
    · rw [List.mem_singleton.mp hnew]
      exact hexternal'
  · rw [hlinks]
    refine h.links.append (Table.keysNodup_singleton _) fun new hnew old hold => ?_
    rw [List.mem_singleton.mp hnew]
    exact ((h.link_lt old hold).trans_le hpublished).ne
  · rw [hlinks]
    intro row hrow
    rcases List.mem_append.mp hrow with hold | hnew
    · exact (h.link_lt row hold).trans (hpublished.trans_lt hpublished')
    · rw [List.mem_singleton.mp hnew]
      exact hpublished'
  · rw [hevents]
    exact fun event hevent => (h.events event hevent).mono hkeeps
  · rw [hmetrics]
    exact fun metric hmetric => (h.metrics metric hmetric).mono hkeeps

/-- What a calculation counts has its provenance in the message that it has found. -/
theorem metric (h : Provenance nextId t) {now : Time} {scope : TenantScope} {publicationId : Id}
    {inputs : MetricInputs} (hinputs : metricInputs now scope publicationId t = .ok inputs) :
    ∀ eventId ∈ inputs.derivation.eventIds,
      t.TracesTo eventId inputs.derivation.publicationId inputs.external.connectorAccountId := by
  unfold metricInputs at hinputs
  obtain ⟨⟨publication, publishedAt⟩, -, hinputs⟩ := Except.bind_eq_ok_iff.mp hinputs
  obtain ⟨⟨checkpoint, external⟩, hcontext, hinputs⟩ := Except.bind_eq_ok_iff.mp hinputs
  obtain ⟨_, -, hinputs⟩ := Except.bind_eq_ok_iff.mp hinputs
  cases hinputs
  unfold checkpointContextForPublication at hcontext
  obtain ⟨found, hfound, hcontext⟩ := Except.bind_eq_ok_iff.mp hcontext
  obtain ⟨reference, hreference, hcontext⟩ := Except.bind_eq_ok_iff.mp hcontext
  obtain ⟨_, -, hcontext⟩ := Except.bind_eq_ok_iff.mp hcontext
  obtain ⟨_, -, hcontext⟩ := Except.bind_eq_ok_iff.mp hcontext
  obtain ⟨_, -, hcontext⟩ := Except.bind_eq_ok_iff.mp hcontext
  cases hcontext
  obtain ⟨hfoundMem, hfoundId⟩ := h.links.find_eq_some_iff.mp (orRaise_eq_ok_iff.mp hfound)
  obtain ⟨hexternalMem, hexternalId⟩ :=
    h.references.find_eq_some_iff.mp (orRaise_eq_ok_iff.mp hreference)
  intro eventId heventId
  obtain ⟨event, hevent, rfl⟩ := List.mem_map.mp heventId
  obtain ⟨hmem, hfilter⟩ := List.mem_filter.mp ((List.mem_insertionSort _).mp hevent)
  simp only [Bool.and_eq_true, decide_eq_true_eq] at hfilter
  obtain ⟨accountId, link, hlink, hid, observation, hobservation, hobservationId, haccount,
    published, hpublished, hpublication, other, hother, hotherId, hotherAccount, hmessage⟩ :=
    h.events event hmem hfilter.1.1.1.2 publication.id hfilter.2
  -- the publication has one link, and the link one message
  have hsame : published = found :=
    h.links.eq_of_key_eq hpublished hfoundMem (hpublication.trans hfoundId.symm)
  subst hsame
  have hexternal : other = external :=
    h.references.eq_of_key_eq hother hexternalMem (hotherId.trans hexternalId.symm)
  subst hexternal
  exact ⟨link, hlink, hid, observation, hobservation, hobservationId,
    haccount.trans hotherAccount.symm, published, hpublished, hpublication, other, hother, hotherId,
    rfl, hmessage⟩

end Provenance

/-! ## Runs -/

/-- No owner records a reaction to a publication. -/
def RecordsNoReaction : AnalyticsAction → Prop
  | .command (.createBusinessEvent _ eventType _ publicationId) =>
      eventType ∈ reactionEventTypes → publicationId = none
  | _ => True

instance (action : AnalyticsAction) : Decidable (RecordsNoReaction action) := by
  unfold RecordsNoReaction
  split <;> infer_instance

theorem Published.provenance {now : Time} {scope : TenantScope} {request : PublishRequest}
    {messageId chatId : String} {db db' : AgentDatabase M AnalyticsTables}
    (h : Provenance db.nextId db.tables.domain)
    (hpublished : Published now scope request messageId chatId db db') :
    Provenance db'.nextId db'.tables.domain := by
  obtain ⟨hpublishing, hdomain⟩ := hpublished
  have hnext : db.nextId + 3 ≤ db'.nextId := hpublishing.nextId
  have hreferences := hpublishing.references
  have hlinks := hpublishing.links
  simp only [domain_withDomain, toRuntimeTables_withDomain] at hreferences hlinks
  have hreference : db.nextId + 1 < db'.nextId :=
    lt_of_lt_of_le (Nat.lt_succ_self _) (Nat.le_of_succ_le hnext)
  refine h.publish (Nat.le_succ _) hreference le_rfl ((Nat.lt_succ_self _).trans hreference) ?_
    hreferences hlinks ((congrArg AnalyticsTables.businessEvents hdomain).trans rfl)
    ((congrArg AnalyticsTables.metricVersions hdomain).trans rfl)
  refine ⟨?_, ?_, ?_, ?_⟩
  · rw [congrArg AnalyticsTables.normalizedObservationLinks hdomain]
    exact List.Subset.refl _
  · rw [congrArg AnalyticsTables.connectorObservations hdomain]
    exact List.Subset.refl _
  · rw [hlinks]
    exact List.subset_append_left _ _
  · rw [hreferences]
    exact List.subset_append_left _ _

section Step

variable {D : Digest} {hashPayload : Derivation → String} {action : AnalyticsAction}
variable {s : AnalyticsState M} {now : Time} {db db' : AgentDatabase M AnalyticsTables}

/-- What one transaction preserves. -/
theorem Provenance.transaction (h : Provenance db.nextId db.tables.domain)
    {transaction : AnalyticsTransaction} (hfrom : transaction.From s action)
    (hguard : RecordsNoReaction action)
    (hrun : exec (transaction.run hashPayload now) db = .ok db') :
    Provenance db'.nextId db'.tables.domain := by
  have hf := domainRelation_frames (M := M) (r := AddsTraced) now fun _ => true
  have hadds : Within (Frames AddsTraced) (transaction.run (M := M) hashPayload now) →
      Provenance db'.nextId db'.tables.domain := by
    intro hwithin
    have hdb : Frames AddsTraced db db' := Ensures.of_exec (hwithin db) hrun
    exact h.addsTraced hdb.nextId hdb.domain
  cases transaction with
  | configure scope accountId types =>
      exact hadds (within_configure_addsTraced scope accountId types)
  | ingest scope accountId update =>
      exact hadds (hf.bind (within_ingest_addsTraced scope accountId update) fun _ => hf.pure _)
  | normalize context observationId =>
      exact hadds (within_normalize_addsTraced context observationId)
  | commitPoll context accountId poll updates =>
      exact hadds (within_finishPoll_addsTraced context accountId poll _)
  | calculate scope publicationId =>
      obtain ⟨_, hrun⟩ := exec_eq_ok_iff.mp hrun
      obtain ⟨⟨result, db₁⟩, hcalculate, hpure⟩ := Except.bind_eq_ok_iff.mp hrun
      cases hpure
      cases ensures_calculateMetricVersion hashPayload now scope publicationId db _ _ hcalculate with
      | known => exact h
      | fresh inputs hinputs id evidenceId latest source evidence hnext hdomain =>
          have hsources := h.metric hinputs
          rw [hdomain]
          refine ⟨h.references, fun _ hmem => (h.reference_lt _ hmem).trans_le hnext, h.links,
            fun _ hmem => (h.link_lt _ hmem).trans_le hnext, h.events, fun metric hmetric => ?_⟩
          rcases List.mem_append.mp hmetric with hold | hnew
          · exact h.metrics metric hold
          · rw [List.mem_singleton.mp hnew]
            exact hsources
  | recordEvent scope eventType occurredAt publicationId =>
      subst hfrom
      refine Ensures.of_exec (Q := fun db' => Provenance db'.nextId db'.tables.domain) ?_ hrun
      rw [AnalyticsTransaction.run, createBusinessEvent, ensures_bind, ensures_newId, ensures_bind,
        ensures_modifyTables, DomainTxn.addOutboxEvent, ensures_modify]
      exact h.recordEvent (Nat.le_add_right _ 2) hguard
  | publish scope request messageId chatId =>
      have hpublished := Ensures.of_exec (ensures_publish now scope request messageId chatId db) hrun
      exact hpublished.provenance h
  | foreign effect => exact hadds (within_performForeign_addsTraced effect)

theorem provenance_step (h : Provenance s.db.nextId s.db.tables.domain)
    (hguard : RecordsNoReaction action) :
    Provenance ((analyticsApp D hashPayload).step action s).db.nextId
      ((analyticsApp D hashPayload).step action s).db.tables.domain := by
  cases analytics_step D hashPayload action s with
  | quiet hframes hingests => exact h.addsTraced hframes.nextId hframes.domain.addsTraced
  | ran transaction db hfrom hrun hframes hingests =>
      have hdb := h.transaction hfrom hguard hrun
      rw [← hframes.domain]
      exact hdb.addsTraced hframes.nextId (refl _)

end Step

theorem AnalyticsInitial.provenance {s : AnalyticsState M} (hs : AnalyticsInitial s) :
    Provenance s.db.nextId s.db.tables.domain := by
  constructor <;> simp [hs.references, hs.links, hs.events, hs.metrics, Table.keysNodup_nil]

/-- In every run in which no owner records a reaction to a publication, every event that a metric
counts comes from an observation of the message of its publication. -/
theorem metric_sourced (D : Digest) (hashPayload : Derivation → String) {s : AnalyticsState M}
    (hs : AnalyticsInitial s) {actions : List AnalyticsAction}
    (hguard : Guarded (analyticsApp D hashPayload).step (fun _ action => RecordsNoReaction action) s
      actions) :
    let t := (run (analyticsApp D hashPayload).step s actions).db.tables.domain
    ∀ metric ∈ t.metricVersions, metric.Sourced t :=
  (invariant_run (I := fun s => Provenance s.db.nextId s.db.tables.domain)
    (fun _ _ h hguard => provenance_step h hguard) hs.provenance hguard).metrics

/-! ### A reaction that nobody has observed, and one from the provider -/

/-- The metric of the post is calculated once the given commands have been carried out. -/
def calculatedAfter (commands : List AnalyticsCommand) : List AnalyticsAction :=
  publishedExperiment ++ commands.map .command ++
    [.command (.calculateMetricVersion demoScope 15)]

/-- The owner's own event counts as a reaction to the post. -/
theorem recorded_reaction_not_sourced :
    let t := (run (analyticsApp plainDigest plainHash).step analyticsStart (calculatedAfter
      [.createBusinessEvent demoScope "telegram.message_reaction" hour (some 15)])).db.tables.domain
    ∃ metric ∈ t.metricVersions, ¬ metric.Sourced t := by
  decide +kernel

theorem observed_reaction_sourced :
    let t := (run (analyticsApp plainDigest plainHash).step analyticsStart (calculatedAfter
      [.ingestTelegramUpdate demoScope 1 postReaction])).db.tables.domain
    (∃ metric ∈ t.metricVersions, metric.includedBusinessEventIds ≠ []) ∧
      ∀ metric ∈ t.metricVersions, metric.Sourced t :=
  ⟨by decide +kernel,
    metric_sourced plainDigest plainHash analyticsStart_initial (by decide +kernel)⟩

end LaunchOS.Analytics
