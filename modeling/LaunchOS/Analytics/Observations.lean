import LaunchOS.Analytics.Writes

/-!
# Observations and their links

An observation is stored together with what it is normalized to, in one transaction.

The module introduces:

* `ObservationsNormalized`: every observation has a link, and every link its event and evidence;
* `observationsNormalized_run`: this holds in every state of every run;
* `NewUpdate`: what makes an update a new observation of an account;
* `achieves_ingest_new`, `achieves_ingest_known`: the ingestions that succeed.
-/

namespace LaunchOS.Analytics

open Txn Transition

variable {M : Type}

/-! ## The invariant -/

/-- Every observation has a link, and every link its event and evidence. -/
structure ObservationsNormalized (nextId : Id) (t : AnalyticsTables) : Prop where
  observation_lt : ∀ observation ∈ t.connectorObservations, observation.id < nextId
  link_lt : ∀ link ∈ t.normalizedObservationLinks, link.observationId < nextId
  normalized : ∀ observation ∈ t.connectorObservations,
    ∃ link ∈ t.normalizedObservationLinks, link.observationId = observation.id
  complete : ∀ link ∈ t.normalizedObservationLinks,
    (∃ event ∈ t.businessEvents, event.id = link.businessEventId) ∧
      ∃ evidence ∈ t.evidence, evidence.id = link.evidenceId

/-- The same observations and links, and no fewer events and evidence. -/
structure SameLinks (t t' : AnalyticsTables) : Prop where
  observations : t'.connectorObservations = t.connectorObservations
  normalized : t'.normalizedObservationLinks = t.normalizedObservationLinks
  events : t.businessEvents ⊆ t'.businessEvents
  evidence : t.evidence ⊆ t'.evidence

instance : IsPreorder AnalyticsTables SameLinks where
  refl _ := ⟨rfl, rfl, List.Subset.refl _, List.Subset.refl _⟩
  trans _ _ _ h h' := ⟨h'.observations.trans h.observations, h'.normalized.trans h.normalized,
    List.Subset.trans h.events h'.events, List.Subset.trans h.evidence h'.evidence⟩

theorem SameObservations.sameLinks {t t' : AnalyticsTables} (h : SameObservations t t') :
    SameLinks t t' :=
  ⟨h.observations, h.normalized, fun _ hmem => h.events ▸ hmem, h.evidence⟩

namespace ObservationsNormalized

variable {nextId nextId' : Id} {t t' : AnalyticsTables}

theorem sameLinks (h : ObservationsNormalized nextId t) (hnext : nextId ≤ nextId')
    (hsame : SameLinks t t') : ObservationsNormalized nextId' t' := by
  constructor
  · rw [hsame.observations]
    exact fun observation hmem => (h.observation_lt observation hmem).trans_le hnext
  · rw [hsame.normalized]
    exact fun link hmem => (h.link_lt link hmem).trans_le hnext
  · rw [hsame.observations, hsame.normalized]
    exact h.normalized
  · rw [hsame.normalized]
    intro link hmem
    obtain ⟨⟨event, hevent, hid⟩, evidence, hevidence, hid'⟩ := h.complete link hmem
    exact ⟨⟨event, hsame.events hevent, hid⟩, evidence, hsame.evidence hevidence, hid'⟩

/-- The link of an observation that is stored. -/
theorem exists_linkOf (h : ObservationsNormalized nextId t) {observation : ConnectorObservation}
    (hmem : observation ∈ t.connectorObservations) :
    ∃ link ∈ t.normalizedObservationLinks, t.linkOf observation = some link := by
  cases hlink : t.linkOf observation with
  | some link => exact ⟨link, Table.mem_of_find hlink, rfl⟩
  | none =>
      obtain ⟨link, hlinkMem, hid⟩ := h.normalized observation hmem
      exact absurd hid (Table.find_eq_none_iff.mp hlink link hlinkMem)

end ObservationsNormalized

/-! ## The transactions -/

/-- The update is readable, and the account has not observed it yet. -/
structure NewUpdate (scope : TenantScope) (connectorAccountId : Id) (update : TelegramUpdate)
    (account : ConnectorAccount) (read : String × String × EventIdentity) (t : AnalyticsTables) :
    Prop where
  found : AccountOf scope connectorAccountId account t.toExecutionTables
  readable : readUpdate update = .ok read
  unknown : observationOf connectorAccountId read.1 t = none
  source : SourceFree scope connectorAccountId read.1 t

section Transactions

variable {now : Time} {db db' : AgentDatabase M AnalyticsTables}
variable {publicationId : Option Id}

/-- Normalizing an observation that is stored changes nothing. -/
theorem Normalizing.eq_of_mem {scope : TenantScope} {observation : ConnectorObservation}
    (h : Normalizing scope observation db publicationId db')
    (hinv : ObservationsNormalized db.nextId db.tables.domain)
    (hmem : observation ∈ db.tables.domain.connectorObservations) : db' = db := by
  obtain ⟨link, -, hfound⟩ := hinv.exists_linkOf hmem
  cases h with
  | done existing hlink => rfl
  | fresh hlink hsource hnext hdomain =>
      rw [hfound] at hlink
      cases hlink

/-- An ingestion changes nothing, or it adds an observation with its rows. -/
theorem Ingesting.cases_of_normalized {scope : TenantScope} {accountId : Id}
    {update : TelegramUpdate} (h : Ingesting scope accountId update now db publicationId db')
    (hinv : ObservationsNormalized db.nextId db.tables.domain) :
    (db' = db ∧ ∃ account read existing,
      AccountOf scope accountId account db.tables.domain.toExecutionTables ∧
      readUpdate update = .ok read ∧ observationOf accountId read.1 db.tables.domain = some existing) ∨
    ∃ account read, NewUpdate scope accountId update account read db.tables.domain ∧
      db'.nextId = db.nextId + 5 ∧
      publicationId = publicationForObservation (newObservation db.nextId scope accountId update read now)
        db.tables.domain.toExecutionTables ∧
      db'.tables.domain = (db.tables.domain.withObservation
        (newObservation db.nextId scope accountId update read now)).withNormalized (db.nextId + 1) scope
          (newObservation db.nextId scope accountId update read now) publicationId := by
  cases h with
  | known account read existing haccount hread hknown hnormalizing =>
      exact .inl ⟨hnormalizing.eq_of_mem hinv (List.mem_of_find?_eq_some hknown), account, read,
        existing, haccount, hread, hknown⟩
  | fresh account read db₁ haccount hread hknown hnext hdomain hnormalizing =>
      refine .inr ⟨account, read, ?_⟩
      cases hnormalizing with
      | done existing hlink =>
          -- no link can be about an observation with a new id
          rw [hdomain] at hlink
          have hlt := hinv.link_lt existing (Table.mem_of_find hlink)
          rw [Table.key_of_find hlink] at hlt
          exact absurd hlt (lt_irrefl _)
      | fresh hlink hsource hnext' hdomain' =>
          rw [hdomain] at hdomain' hsource
          refine ⟨⟨haccount, hread, hknown, hsource⟩, ?_, ?_, ?_⟩
          · rw [hnext', hnext]
          · rw [hdomain]
            rfl
          · rw [hdomain', hnext, hdomain]

theorem ObservationsNormalized.insert {nextId : Id} {t : AnalyticsTables}
    (h : ObservationsNormalized nextId t) (scope : TenantScope)
    {observation : ConnectorObservation} (hid : observation.id = nextId) :
    ObservationsNormalized (nextId + 5)
      ((t.withObservation observation).withNormalized (nextId + 1) scope observation
        publicationId) := by
  have hlt : nextId < nextId + 5 := Nat.lt_add_of_pos_right (by decide)
  constructor
  · intro row hrow
    rcases List.mem_append.mp hrow with hold | hnew
    · exact (h.observation_lt row hold).trans hlt
    · rw [List.mem_singleton.mp hnew, hid]
      exact hlt
  · intro row hrow
    rcases List.mem_append.mp hrow with hold | hnew
    · exact (h.link_lt row hold).trans hlt
    · rw [List.mem_singleton.mp hnew]
      exact hid ▸ hlt
  · intro row hrow
    rcases List.mem_append.mp hrow with hold | hnew
    · obtain ⟨link, hlink, heq⟩ := h.normalized row hold
      exact ⟨link, List.mem_append_left _ hlink, heq⟩
    · rw [List.mem_singleton.mp hnew]
      exact ⟨_, List.mem_append_right _ (List.mem_singleton_self _), rfl⟩
  · intro link hlink
    rcases List.mem_append.mp hlink with hold | hnew
    · obtain ⟨⟨event, hevent, heq⟩, evidence, hevidence, heq'⟩ := h.complete link hold
      exact ⟨⟨event, List.mem_append_left _ hevent, heq⟩, evidence,
        List.mem_append_left _ hevidence, heq'⟩
    · rw [List.mem_singleton.mp hnew]
      exact ⟨⟨_, List.mem_append_right _ (List.mem_singleton_self _), rfl⟩, _,
        List.mem_append_right _ (List.mem_singleton_self _), rfl⟩

theorem Ingesting.normalized {scope : TenantScope} {accountId : Id} {update : TelegramUpdate}
    (h : Ingesting scope accountId update now db publicationId db')
    (hinv : ObservationsNormalized db.nextId db.tables.domain) :
    ObservationsNormalized db'.nextId db'.tables.domain := by
  rcases h.cases_of_normalized hinv with ⟨rfl, -⟩ | ⟨account, read, -, hnext, -, hdomain⟩
  · exact hinv
  · rw [hnext, hdomain]
    exact hinv.insert scope rfl

/-- A transaction ingests, normalizes, and otherwise leaves the observations and their links alone:
what all of this preserves, it preserves. -/
theorem AnalyticsTransaction.preserves {I : AgentDatabase M AnalyticsTables → Prop}
    (hsame : ∀ {db db' : AgentDatabase M AnalyticsTables}, I db → Frames SameLinks db db' → I db')
    (hingesting : ∀ {db db' : AgentDatabase M AnalyticsTables} {scope : TenantScope}
      {accountId : Id} {update : TelegramUpdate} {publicationId : Option Id}, I db →
        Ingesting scope accountId update now db publicationId db' → I db')
    (hnormalizing : ∀ {db db' : AgentDatabase M AnalyticsTables} {scope : TenantScope}
      {observation : ConnectorObservation} {publicationId : Option Id}, I db →
        observation ∈ db.tables.domain.connectorObservations →
          Normalizing scope observation db publicationId db' → I db')
    {hashPayload : Derivation → String} (h : I db) (transaction : AnalyticsTransaction)
    (hrun : exec (transaction.run hashPayload now) db = .ok db') : I db' := by
  have hf := domainRelation_frames (M := M) (r := SameLinks) now fun _ => true
  have hwithin : Within (Frames SameLinks) (transaction.run (M := M) hashPayload now) → I db' :=
    fun hwithin => hsame h (Ensures.of_exec (hwithin db) hrun)
  have hkept : ∀ {t t' : AnalyticsTables}, t'.connectorObservations = t.connectorObservations →
      t'.normalizedObservationLinks = t.normalizedObservationLinks →
      t'.businessEvents = t.businessEvents → t'.evidence = t.evidence → SameLinks t t' :=
    fun hobservations hnormalized hevents hevidence =>
      ⟨hobservations, hnormalized, fun _ hmem => hevents ▸ hmem, fun _ hmem => hevidence ▸ hmem⟩
  have hingest : ∀ scope accountId update (db : AgentDatabase M AnalyticsTables), I db →
      Ensures (ingestTelegramUpdate scope accountId update now) (fun _ => I) db :=
    fun scope accountId update db h =>
      (ensures_ingestTelegramUpdate scope accountId update now db).mono
        fun _ _ hingest => hingesting h hingest
  cases transaction with
  | configure scope accountId types =>
      exact hwithin (within_configureTelegramObservation hf (fun _ _ => hkept rfl rfl rfl rfl) scope
        accountId types)
  | ingest scope accountId update =>
      refine Ensures.of_exec (Q := I) ?_ hrun
      rw [AnalyticsTransaction.run, ensures_bind]
      refine (hingest scope accountId update db h).mono fun _ db₁ h₁ => ?_
      exact (ensures_pure _).mpr h₁
  | normalize context observationId =>
      refine Ensures.of_exec (Q := I) ?_ hrun
      rw [AnalyticsTransaction.run, normalizeConnectorObservation, ensures_bind, ensures_tables,
        ensures_bind, ensures_check]
      intro observation hfind
      rw [ensures_bind, ensures_check]
      intro _ _
      rw [ensures_bind]
      refine (ensures_normalizeObservation context.scope observation db).mono fun _ db₁ h₁ => ?_
      rw [ensures_pure]
      exact hnormalizing h (Table.mem_of_find (orRaise_eq_ok_iff.mp hfind)) h₁
  | commitPoll context accountId poll updates =>
      refine Ensures.of_exec (Q := I) ?_ hrun
      rw [AnalyticsTransaction.run, finishPoll, ensures_bind, ensures_tables, ensures_bind,
        ensures_check]
      intro sorted _
      rw [ensures_bind]
      refine Ensures.mono (Ensures.foldlM (I := fun _ => I) (fun update _ progress db₁ h₁ => ?_)
        h) fun progress db₁ h₁ => ?_
      · rw [ingestOne, ensures_bind]
        refine (hingest _ _ _ db₁ h₁).mono fun _ db₂ h₂ => ?_
        exact (ensures_pure _).mpr h₂
      · refine Within.ensures_bind (R := Frames SameLinks) (hf.modifyTables _ ?_)
          fun _ db₂ h₂ => ?_
        · exact fun _ => hkept rfl rfl rfl rfl
        refine Ensures.mono (hf.foldlM (fun _ id => hf.bind (framesWithin_createJob now _)
          fun _ => hf.pure _) () db₂) fun _ db₃ h₃ => ?_
        exact hsame h₁ (h₂.trans h₃)
  | calculate scope publicationId =>
      refine hwithin (hf.bind (within_calculateMetricVersion hf ⟨?_, ?_⟩ _ _ _) fun _ => hf.pure _)
      · exact fun _ _ => hkept rfl rfl rfl rfl
      · exact fun _ _ _ => ⟨rfl, rfl, List.Subset.refl _, List.subset_append_left _ _⟩
  | recordEvent scope eventType occurredAt publicationId =>
      refine hwithin (within_createBusinessEvent hf (fun _ _ => ?_) _ _ _ _)
      exact ⟨rfl, rfl, List.subset_append_left _ _, List.Subset.refl _⟩
  | publish scope request messageId chatId =>
      have hpublished := Ensures.of_exec (ensures_publish now scope request messageId chatId db) hrun
      refine hsame h ⟨(Nat.le_add_right _ 3).trans hpublished.publishing.nextId, ?_⟩
      rw [hpublished.domain]
      exact hkept rfl rfl rfl rfl
  | foreign effect =>
      refine hwithin (within_performForeign hf ⟨?_, ?_⟩ effect fun work =>
        framesWithin_perform now _ _ work)
      · exact fun _ _ _ => hkept rfl rfl rfl rfl
      · exact fun _ _ => hkept rfl rfl rfl rfl

/-- What one transaction preserves. -/
theorem ObservationsNormalized.transaction {hashPayload : Derivation → String}
    (hinv : ObservationsNormalized db.nextId db.tables.domain)
    (transaction : AnalyticsTransaction)
    (hrun : exec (transaction.run hashPayload now) db = .ok db') :
    ObservationsNormalized db'.nextId db'.tables.domain := by
  refine AnalyticsTransaction.preserves
    (I := fun db => ObservationsNormalized db.nextId db.tables.domain)
    (fun h hframes => h.sameLinks hframes.nextId hframes.domain)
    (fun h hingesting => hingesting.normalized h) (fun h hmem hnormalizing => ?_) hinv transaction
    hrun
  rw [hnormalizing.eq_of_mem h hmem]
  exact h

end Transactions

/-! ## Ingestions that succeed -/

section Achieves

variable {now : Time} {db : AgentDatabase M AnalyticsTables} {scope : TenantScope}

theorem achieves_normalize_fresh {observation : ConnectorObservation}
    (hlink : db.tables.domain.linkOf observation = none)
    (hsource : SourceFree scope observation.connectorAccountId observation.providerEventIdentity
      db.tables.domain) :
    Achieves (normalizeObservation scope observation) (Normalizing scope observation db) db := by
  suffices h : Achieves (normalizeObservation scope observation) (fun _ _ => True) db by
    obtain ⟨publicationId, db', hrun, -⟩ := h
    exact ⟨publicationId, db', hrun, ensures_normalizeObservation scope observation db _ _ hrun⟩
  have hfree : require (db.tables.domain.sourceRecords.all fun other =>
      !(other.scope.businessId = scope.businessId && other.provider = "telegram" &&
        other.externalId = sourceExternalId observation.connectorAccountId
          observation.providerEventIdentity))
      (.integrityError "uq_source_record_business_provider_external") = .ok () := by
    rw [require_eq_ok_iff, List.all_eq_true]
    intro other hother
    rw [Bool.not_eq_eq_eq_not, Bool.not_true, ← Bool.not_eq_true]
    simp only [Bool.and_eq_true, decide_eq_true_eq, and_assoc]
    exact hsource other hother
  unfold normalizeObservation
  rw [achieves_bind, achieves_tables]
  simp only [AnalyticsTables.linkOf] at hlink
  simp only [hlink]
  rw [achieves_bind, achieves_newId, insertSourceRecord, achieves_bind, achieves_bind,
    achieves_tables, achieves_bind, achieves_check]
  refine ⟨(), hfree, ?_⟩
  rw [achieves_modifyTables, achieves_bind, achieves_newId, achieves_bind, achieves_newId,
    achieves_bind, achieves_newId, achieves_bind, achieves_modifyTables, achieves_pure]
  trivial

/-- An update that is new is ingested. -/
theorem achieves_ingest_new {accountId : Id} {update : TelegramUpdate} {account : ConnectorAccount}
    {read : String × String × EventIdentity}
    (hinv : ObservationsNormalized db.nextId db.tables.domain)
    (hnew : NewUpdate scope accountId update account read db.tables.domain) :
    Achieves (ingestTelegramUpdate scope accountId update now)
      (Ingesting scope accountId update now db) db := by
  suffices h : Achieves (ingestTelegramUpdate scope accountId update now) (fun _ _ => True) db by
    obtain ⟨publicationId, db', hrun, -⟩ := h
    exact ⟨publicationId, db', hrun,
      ensures_ingestTelegramUpdate scope accountId update now db _ _ hrun⟩
  have hid : account.id = accountId := Table.key_of_find hnew.found.find
  obtain ⟨providerEventIdentity, eventType, identity⟩ := read
  have hunknown : observationOf account.id providerEventIdentity db.tables.domain = none :=
    hid ▸ hnew.unknown
  unfold ingestTelegramUpdate
  rw [achieves_bind, achieves_tables, achieves_bind, achieves_check]
  refine ⟨account, orRaise_eq_ok_iff.mpr hnew.found.find, ?_⟩
  rw [achieves_bind, achieves_check]
  refine ⟨(), TenantScope.assertMatches_eq_ok_iff.mpr hnew.found.scope, ?_⟩
  rw [achieves_bind, achieves_check]
  refine ⟨_, hnew.readable, ?_⟩
  simp only [hunknown]
  rw [achieves_bind, achieves_newId, achieves_bind, achieves_modifyTables]
  refine (achieves_normalize_fresh ?_ ?_).mono fun _ _ _ => trivial
  · -- no link can be about an observation with a new id
    refine Table.find_eq_none_iff.mpr fun link hlink => ?_
    exact (hinv.link_lt link hlink).ne
  · exact hid ▸ hnew.source

/-- So is one that the account has observed. -/
theorem achieves_ingest_known {accountId : Id} {update : TelegramUpdate} {account : ConnectorAccount}
    {read : String × String × EventIdentity} {existing : ConnectorObservation}
    (hinv : ObservationsNormalized db.nextId db.tables.domain)
    (haccount : AccountOf scope accountId account db.tables.domain.toExecutionTables)
    (hread : readUpdate update = .ok read)
    (hknown : observationOf accountId read.1 db.tables.domain = some existing) :
    Achieves (ingestTelegramUpdate scope accountId update now) (fun _ db' => db' = db) db := by
  have hid : account.id = accountId := Table.key_of_find haccount.find
  obtain ⟨providerEventIdentity, eventType, identity⟩ := read
  have hfound : observationOf account.id providerEventIdentity db.tables.domain = some existing :=
    hid ▸ hknown
  obtain ⟨link, hlink, hlinkOf⟩ := hinv.exists_linkOf (List.mem_of_find?_eq_some hknown)
  obtain ⟨⟨event, hevent, heventId⟩, evidence, hevidence, hevidenceId⟩ := hinv.complete link hlink
  have hfind : ∀ {ρ : Type} {key : ρ → Id} {rows : List ρ} {row : ρ} {id : Id}
      {error : JobError}, row ∈ rows → key row = id →
        ∃ found, orRaise error (Table.find key id rows) = .ok found := by
    intro ρ key rows row id error hrow hkey
    cases hfound : Table.find key id rows with
    | some found => exact ⟨found, rfl⟩
    | none => exact absurd hkey (Table.find_eq_none_iff.mp hfound row hrow)
  unfold ingestTelegramUpdate
  rw [achieves_bind, achieves_tables, achieves_bind, achieves_check]
  refine ⟨account, orRaise_eq_ok_iff.mpr haccount.find, ?_⟩
  rw [achieves_bind, achieves_check]
  refine ⟨(), TenantScope.assertMatches_eq_ok_iff.mpr haccount.scope, ?_⟩
  rw [achieves_bind, achieves_check]
  refine ⟨_, hread, ?_⟩
  simp only [hfound]
  unfold normalizeObservation
  rw [achieves_bind, achieves_tables]
  simp only [AnalyticsTables.linkOf] at hlinkOf
  simp only [hlinkOf]
  rw [achieves_bind, achieves_check]
  obtain ⟨foundEvent, hfoundEvent⟩ := hfind hevent heventId
  refine ⟨foundEvent, hfoundEvent, ?_⟩
  rw [achieves_bind, achieves_check]
  obtain ⟨foundEvidence, hfoundEvidence⟩ := hfind hevidence hevidenceId
  refine ⟨foundEvidence, hfoundEvidence, ?_⟩
  exact (achieves_pure _).mpr rfl

end Achieves

/-! ## Runs -/

theorem observationsNormalized_step {D : Digest} {hashPayload : Derivation → String}
    {action : AnalyticsAction} {s : AnalyticsState M}
    (h : ObservationsNormalized s.db.nextId s.db.tables.domain) :
    ObservationsNormalized ((analyticsApp D hashPayload).step action s).db.nextId
      ((analyticsApp D hashPayload).step action s).db.tables.domain := by
  cases analytics_step D hashPayload action s with
  | quiet hframes hingests => exact h.sameLinks hframes.nextId hframes.domain.sameLinks
  | ran transaction db hfrom hrun hframes hingests =>
      have hdb := h.transaction transaction hrun
      rw [← hframes.domain]
      exact hdb.sameLinks hframes.nextId (refl _)

theorem observationsNormalized_run (D : Digest) (hashPayload : Derivation → String)
    {s : AnalyticsState M} (hs : AnalyticsInitial s) (actions : List AnalyticsAction) :
    ObservationsNormalized (run (analyticsApp D hashPayload).step s actions).db.nextId
      (run (analyticsApp D hashPayload).step s actions).db.tables.domain := by
  refine invariant_run_of_step _
    (I := fun s : AnalyticsState M => ObservationsNormalized s.db.nextId s.db.tables.domain)
    (fun s action h => observationsNormalized_step h) ?_ actions
  constructor <;> simp [hs.observations, hs.normalized]

end LaunchOS.Analytics
