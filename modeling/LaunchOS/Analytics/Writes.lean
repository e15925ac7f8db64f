import LaunchOS.Analytics.Steps

/-!
# What ingestions, calculations and publications write

The exact effect of `_normalize_observation`, of `ingest_telegram_update`, of
`configure_telegram_observation`, of `calculate_metric_version` and of a successful publish handler,
for the proofs about observations, events and metrics.

The module introduces:

* `AnalyticsTables.withObservation`, `AnalyticsTables.withNormalized`: the rows of an ingestion;
* `Normalizing`, `Ingesting`: what the first two have done when they return;
* `Configuring`, `Calculating`, `Calculated`: what a configuration and a calculation have done when
  they return;
* `Publishing`: what the handler has done when it returns;
* `ensures_normalizeObservation` and so on: that they have.
-/

namespace LaunchOS.Analytics

open Txn

variable {M : Type}

/-! ## Rows -/

/-- What an ingestion stores of an update that it has read. -/
def newObservation (id : Id) (scope : TenantScope) (connectorAccountId : Id)
    (update : TelegramUpdate) (read : String × String × EventIdentity) (ingestedAt : Time) :
    ConnectorObservation where
  id := id
  scope := scope
  connectorAccountId := connectorAccountId
  providerEventIdentity := read.1
  providerEventType := read.2.1
  externalObjectId := read.2.2.messageId
  externalParentId := read.2.2.chatId
  eventTime := read.2.2.eventTime
  ingestedAt := ingestedAt
  rawPayload := update

/-- The business event of an observation. -/
def eventOf (id : Id) (scope : TenantScope) (observation : ConnectorObservation)
    (publicationId : Option Id) : BusinessEvent where
  id := id
  scope := scope
  eventType := "telegram." ++ observation.providerEventType
  occurredAt := observation.eventTime
  publicationId := publicationId

namespace AnalyticsTables

/-- The tables with one more observation. -/
def withObservation (observation : ConnectorObservation) (t : AnalyticsTables) : AnalyticsTables :=
  { t with connectorObservations := t.connectorObservations ++ [observation] }

/-- The tables with what an observation is normalized to, from the id `id` on. -/
def withNormalized (id : Id) (scope : TenantScope) (observation : ConnectorObservation)
    (publicationId : Option Id) (t : AnalyticsTables) : AnalyticsTables :=
  { t with
    sourceRecords := t.sourceRecords ++ [{
      id := id
      scope := scope
      provider := "telegram"
      externalId :=
        sourceExternalId observation.connectorAccountId observation.providerEventIdentity }]
    businessEvents := t.businessEvents ++ [eventOf (id + 1) scope observation publicationId]
    evidence := t.evidence ++ [{
      id := id + 2
      scope := scope
      sourceRecordId := id
      status := .observation }]
    normalizedObservationLinks := t.normalizedObservationLinks ++ [{
      id := id + 3
      scope := scope
      observationId := observation.id
      sourceRecordId := id
      businessEventId := id + 1
      evidenceId := id + 2
      publicationId := publicationId }] }

variable (id : Id) (scope : TenantScope) (observation : ConnectorObservation)
variable (publicationId : Option Id) (t : AnalyticsTables)

@[simp]
theorem withObservation_toExecutionTables :
    (t.withObservation observation).toExecutionTables = t.toExecutionTables := rfl

@[simp]
theorem withNormalized_toExecutionTables :
    (t.withNormalized id scope observation publicationId).toExecutionTables =
      t.toExecutionTables := rfl

@[simp]
theorem withNormalized_connectorObservations :
    (t.withNormalized id scope observation publicationId).connectorObservations =
      t.connectorObservations := rfl

/-- The link of an observation, if it has been normalized. -/
def linkOf (observation : ConnectorObservation) (t : AnalyticsTables) :
    Option NormalizedObservationLink :=
  Table.find NormalizedObservationLink.observationId observation.id t.normalizedObservationLinks

end AnalyticsTables

/-! ## Effects -/

/-- No source record has the key of an observation. -/
def SourceFree (scope : TenantScope) (connectorAccountId : Id) (providerEventIdentity : String)
    (t : AnalyticsTables) : Prop :=
  ∀ source ∈ t.sourceRecords, ¬ (source.scope.businessId = scope.businessId ∧
    source.provider = "telegram" ∧
    source.externalId = sourceExternalId connectorAccountId providerEventIdentity)

instance (scope : TenantScope) (connectorAccountId : Id) (providerEventIdentity : String)
    (t : AnalyticsTables) :
    Decidable (SourceFree scope connectorAccountId providerEventIdentity t) := by
  unfold SourceFree
  infer_instance

/-- An account of the scope, which an ingestion finds. -/
structure AccountOf (scope : TenantScope) (connectorAccountId : Id) (account : ConnectorAccount)
    (t : ExecutionTables) : Prop where
  find : Table.find ConnectorAccount.id connectorAccountId t.connectorAccounts = some account
  scope : scope = account.scope

/-- What `_normalize_observation` has done when it returns a publication. -/
inductive Normalizing (scope : TenantScope) (observation : ConnectorObservation)
    (db : AgentDatabase M AnalyticsTables) :
    Option Id → AgentDatabase M AnalyticsTables → Prop
  /-- Nothing: the observation has a link. -/
  | done (existing : NormalizedObservationLink)
      (hlink : db.tables.domain.linkOf observation = some existing) :
      Normalizing scope observation db existing.publicationId db
  /-- It has written the four rows. -/
  | fresh {db' : AgentDatabase M AnalyticsTables}
      (hlink : db.tables.domain.linkOf observation = none)
      (hsource : SourceFree scope observation.connectorAccountId observation.providerEventIdentity
        db.tables.domain)
      (hnext : db'.nextId = db.nextId + 4)
      (hdomain : db'.tables.domain = db.tables.domain.withNormalized db.nextId scope observation
        (publicationForObservation observation db.tables.domain.toExecutionTables)) :
      Normalizing scope observation db
        (publicationForObservation observation db.tables.domain.toExecutionTables) db'

/-- What `ingest_telegram_update` has read and done when it returns a publication. -/
inductive Ingesting (scope : TenantScope) (connectorAccountId : Id) (update : TelegramUpdate)
    (ingestedAt : Time) (db : AgentDatabase M AnalyticsTables) (publicationId : Option Id)
    (db' : AgentDatabase M AnalyticsTables) : Prop
  /-- The update has been delivered before. -/
  | known (account : ConnectorAccount) (read : String × String × EventIdentity)
      (existing : ConnectorObservation)
      (haccount : AccountOf scope connectorAccountId account db.tables.domain.toExecutionTables)
      (hread : readUpdate update = .ok read)
      (hknown : observationOf connectorAccountId read.1 db.tables.domain = some existing)
      (hnormalizing : Normalizing scope existing db publicationId db')
  /-- The update is new. -/
  | fresh (account : ConnectorAccount) (read : String × String × EventIdentity)
      (db₁ : AgentDatabase M AnalyticsTables)
      (haccount : AccountOf scope connectorAccountId account db.tables.domain.toExecutionTables)
      (hread : readUpdate update = .ok read)
      (hknown : observationOf connectorAccountId read.1 db.tables.domain = none)
      (hnext : db₁.nextId = db.nextId + 1)
      (hdomain : db₁.tables.domain = db.tables.domain.withObservation
        (newObservation db.nextId scope connectorAccountId update read ingestedAt))
      (hnormalizing : Normalizing scope
        (newObservation db.nextId scope connectorAccountId update read ingestedAt) db₁ publicationId db')

theorem ensures_normalizeObservation (scope : TenantScope) (observation : ConnectorObservation)
    (db : AgentDatabase M AnalyticsTables) :
    Ensures (normalizeObservation scope observation) (Normalizing scope observation db) db := by
  unfold normalizeObservation
  rw [ensures_bind, ensures_tables]
  split
  next existing hlink =>
    dsimp only
    rw [ensures_bind, ensures_check]
    intro _ _
    rw [ensures_bind, ensures_check]
    intro _ _
    rw [ensures_pure]
    exact .done existing hlink
  next hlink =>
    dsimp only
    rw [ensures_bind, ensures_newId, insertSourceRecord, ensures_bind, ensures_bind,
      ensures_tables, ensures_bind, ensures_check]
    intro _ hfree
    rw [ensures_modifyTables, ensures_bind, ensures_newId, ensures_bind, ensures_newId,
      ensures_bind, ensures_newId, ensures_bind, ensures_modifyTables, ensures_pure]
    refine .fresh hlink (fun source hsource hsame => ?_) rfl rfl
    have hall := List.all_eq_true.mp (require_eq_ok_iff.mp hfree) source hsource
    simp [hsame.1, hsame.2.1, hsame.2.2] at hall

theorem ensures_ingestTelegramUpdate (scope : TenantScope) (connectorAccountId : Id)
    (update : TelegramUpdate) (ingestedAt : Time) (db : AgentDatabase M AnalyticsTables) :
    Ensures (ingestTelegramUpdate scope connectorAccountId update ingestedAt)
      (Ingesting scope connectorAccountId update ingestedAt db) db := by
  unfold ingestTelegramUpdate
  rw [ensures_bind, ensures_tables, ensures_bind, ensures_check]
  intro account haccount
  have hid : account.id = connectorAccountId := Table.key_of_find (orRaise_eq_ok_iff.mp haccount)
  rw [ensures_bind, ensures_check]
  intro _ hscope
  have haccountOf : AccountOf scope connectorAccountId account
      db.tables.domain.toExecutionTables :=
    ⟨orRaise_eq_ok_iff.mp haccount, TenantScope.assertMatches_eq_ok_iff.mp hscope⟩
  rw [ensures_bind, ensures_check]
  rintro ⟨providerEventIdentity, eventType, identity⟩ hread
  dsimp only
  split
  next existing hknown =>
    refine (ensures_normalizeObservation scope existing db).mono fun publicationId db' h => ?_
    exact .known account _ existing haccountOf hread (hid ▸ hknown) h
  next hknown =>
    rw [ensures_bind, ensures_newId, ensures_bind, ensures_modifyTables]
    refine (ensures_normalizeObservation scope _ _).mono fun publicationId db' h => ?_
    rw [hid] at h hknown
    exact .fresh account _ _ haccountOf hread hknown rfl rfl h

/-! ## Observation states -/

/-- What `configure_telegram_observation` has done when it returns. -/
inductive Configuring (now : Time) (scope : TenantScope) (connectorAccountId : Id)
    (allowedUpdateTypes : List String) (db db' : AgentDatabase M AnalyticsTables) : Prop
  /-- The row of the account has other update types. -/
  | updated (id : Id) (hnext : db'.nextId = db.nextId)
      (hdomain : db'.tables.domain = { db.tables.domain with
        connectorObservationStates := Table.modify ConnectorObservationState.id id
          (fun state => { state with allowedUpdateTypes := allowedUpdateTypes })
          db.tables.domain.connectorObservationStates })
  /-- The account had no row, and it has a new one. -/
  | inserted (hnew : ∀ state ∈ db.tables.domain.connectorObservationStates,
        state.connectorAccountId ≠ connectorAccountId)
      (hnext : db'.nextId = db.nextId + 1)
      (hdomain : db'.tables.domain = { db.tables.domain with
        connectorObservationStates := db.tables.domain.connectorObservationStates ++ [{
          id := db.nextId
          scope := scope
          connectorAccountId := connectorAccountId
          coverageStartedAt := now
          allowedUpdateTypes := allowedUpdateTypes }] })

theorem ensures_configureTelegramObservation (now : Time) (scope : TenantScope)
    (connectorAccountId : Id) (allowedUpdateTypes : List String)
    (db : AgentDatabase M AnalyticsTables) :
    Ensures (configureTelegramObservation now scope connectorAccountId allowedUpdateTypes)
      (fun _ => Configuring now scope connectorAccountId allowedUpdateTypes db) db := by
  unfold configureTelegramObservation
  rw [ensures_bind, ensures_tables, ensures_bind, ensures_check]
  intro account haccount
  have hid : account.id = connectorAccountId := by
    unfold observableAccount at haccount
    obtain ⟨found, hfound, haccount⟩ := Except.bind_eq_ok_iff.mp haccount
    obtain ⟨_, -, haccount⟩ := Except.bind_eq_ok_iff.mp haccount
    obtain ⟨_, -, haccount⟩ := Except.bind_eq_ok_iff.mp haccount
    cases haccount
    exact Table.key_of_find (orRaise_eq_ok_iff.mp hfound)
  rw [ensures_bind, ensures_check, hid]
  intro _ _
  split
  next existing _ =>
    rw [ensures_modifyTables]
    exact .updated existing.id rfl rfl
  next hnone =>
    rw [ensures_bind, ensures_newId, ensures_modifyTables]
    exact .inserted (Table.find_eq_none_iff.mp hnone) rfl rfl

/-! ## Metrics -/

/-- What `calculate_metric_version` has done when it returns a metric. -/
inductive Calculating (hashPayload : Derivation → String) (now : Time) (scope : TenantScope)
    (publicationId : Id) (db : AgentDatabase M AnalyticsTables) :
    AgentDatabase M AnalyticsTables → Prop
  /-- Nothing: the latest metric has the same derivation. -/
  | known : Calculating hashPayload now scope publicationId db db
  /-- It has added a metric, with a source record and evidence of its own. -/
  | fresh {db' : AgentDatabase M AnalyticsTables} (inputs : MetricInputs)
      (hinputs : metricInputs now scope publicationId db.tables.domain = .ok inputs)
      (id evidenceId : Id) (latest : Option MetricVersion) (source : SourceRecord)
      (evidence : Evidence) (hnext : db.nextId ≤ db'.nextId)
      (hdomain : db'.tables.domain = { db.tables.domain with
        sourceRecords := db.tables.domain.sourceRecords ++ [source]
        evidence := db.tables.domain.evidence ++ [evidence]
        metricVersions := db.tables.domain.metricVersions ++
          [inputs.row id now scope latest (hashPayload inputs.derivation) evidenceId] }) :
      Calculating hashPayload now scope publicationId db db'

/-- The same with what it returns, and with the latest metric that it has found. -/
inductive Calculated (hashPayload : Derivation → String) (now : Time) (scope : TenantScope)
    (publicationId : Id) (db : AgentDatabase M AnalyticsTables) :
    MetricVersion × Bool → AgentDatabase M AnalyticsTables → Prop
  | known (inputs : MetricInputs)
      (hinputs : metricInputs now scope publicationId db.tables.domain = .ok inputs)
      (metric : MetricVersion)
      (hlatest : latestMetric scope inputs.checkpoint.metricKey inputs.derivation.publicationId
        db.tables.domain = some metric)
      (hhash : metric.derivationHash = hashPayload inputs.derivation) :
      Calculated hashPayload now scope publicationId db (metric, false) db
  | fresh {db' : AgentDatabase M AnalyticsTables} (inputs : MetricInputs)
      (hinputs : metricInputs now scope publicationId db.tables.domain = .ok inputs)
      (metric : MetricVersion) (evidenceId : Id) (source : SourceRecord) (evidence : Evidence)
      (hmetric : metric = inputs.row db.nextId now scope
        (latestMetric scope inputs.checkpoint.metricKey inputs.derivation.publicationId
          db.tables.domain) (hashPayload inputs.derivation) evidenceId)
      (hnext : db.nextId < db'.nextId)
      (hdomain : db'.tables.domain = { db.tables.domain with
        sourceRecords := db.tables.domain.sourceRecords ++ [source]
        evidence := db.tables.domain.evidence ++ [evidence]
        metricVersions := db.tables.domain.metricVersions ++ [metric] }) :
      Calculated hashPayload now scope publicationId db (metric, true) db'

theorem ensures_calculated (hashPayload : Derivation → String) (now : Time) (scope : TenantScope)
    (publicationId : Id) (db : AgentDatabase M AnalyticsTables) :
    Ensures (calculateMetricVersion hashPayload now scope publicationId)
      (Calculated hashPayload now scope publicationId db) db := by
  unfold calculateMetricVersion
  rw [ensures_bind, ensures_tables, ensures_bind, ensures_check]
  intro inputs hinputs
  dsimp only
  split
  next metric hmetric =>
    rw [ensures_pure]
    obtain ⟨hlatest, hhash⟩ := Option.filter_eq_some_iff.mp hmetric
    exact .known inputs hinputs metric hlatest (of_decide_eq_true hhash)
  next =>
    rw [ensures_bind, ensures_newId, ensures_bind, ensures_newId, insertSourceRecord, ensures_bind,
      ensures_bind, ensures_tables, ensures_bind, ensures_check]
    intro _ _
    rw [ensures_modifyTables, ensures_bind, ensures_newId, ensures_bind, ensures_modifyTables,
      DomainTxn.addOutboxEvent, ensures_bind, ensures_modify, ensures_pure]
    refine .fresh inputs hinputs _ _ _ _ rfl ?_ rfl
    exact Nat.lt_add_of_pos_right (Nat.succ_pos 3)

theorem ensures_calculateMetricVersion (hashPayload : Derivation → String) (now : Time)
    (scope : TenantScope) (publicationId : Id) (db : AgentDatabase M AnalyticsTables) :
    Ensures (calculateMetricVersion hashPayload now scope publicationId)
      (fun _ => Calculating hashPayload now scope publicationId db) db := by
  refine (ensures_calculated hashPayload now scope publicationId db).mono fun result db' h => ?_
  cases h with
  | known inputs hinputs metric hlatest hhash => exact .known
  | fresh inputs hinputs metric evidenceId source evidence hmetric hnext hdomain =>
      subst hmetric
      exact .fresh inputs hinputs _ _ _ source evidence hnext.le hdomain

/-! ## Publications -/

/-- The reference of the message that a publication has become. -/
def externalReferenceOf (id : Id) (scope : TenantScope) (request : PublishRequest)
    (messageId chatId : String) : ExternalReference where
  id := id
  scope := scope
  connectorAccountId := request.account.id
  channelId := request.detail.channelId
  externalId := messageId
  externalParentId := some chatId
  actionId := request.action.id
  executionId := request.executionId

/-- The link of a publication to its message. -/
def publicationLinkOf (id publicationId externalReferenceId : Id) (scope : TenantScope)
    (request : PublishRequest) : PublicationExecutionLink where
  id := id
  scope := scope
  publicationId := publicationId
  actionId := request.action.id
  executionId := request.executionId
  externalReferenceId := externalReferenceId

/-- The same checkpoints, publications and accounts. -/
structure SameAccounts (t t' : ExecutionTables) : Prop extends SamePublications t t' where
  accounts : t'.connectorAccounts = t.connectorAccounts

instance : IsPreorder ExecutionTables SameAccounts where
  refl t := ⟨refl t, rfl⟩
  trans _ _ _ h h' := ⟨trans_of SamePublications h.toSamePublications h'.toSamePublications,
    h'.accounts.trans h.accounts⟩

/-- What the publish handler has done when a message was published. -/
structure Publishing (now : Time) (scope : TenantScope) (request : PublishRequest)
    (messageId chatId : String) (db db' : AgentDatabase M ExecutionTables) : Prop where
  nextId : db.nextId + 3 ≤ db'.nextId
  /-- The account had no reference to this message. -/
  free : ∀ other ∈ db.tables.domain.externalReferences,
    ¬ (other.provider = "telegram" ∧ other.connectorAccountId = request.account.id ∧
      other.externalObjectType = "message" ∧ other.externalId = messageId)
  /-- The execution had no reference. -/
  executionFree : ∀ other ∈ db.tables.domain.externalReferences,
    other.executionId ≠ request.executionId
  accounts : db'.tables.domain.connectorAccounts = db.tables.domain.connectorAccounts
  checkpoints : db'.tables.domain.checkpointDefinitions = db.tables.domain.checkpointDefinitions
  publications : db'.tables.domain.publications = db.tables.domain.publications ++
    [⟨db.nextId, scope, request.detail.assetVersionId, request.detail.channelId, some now⟩]
  references : db'.tables.domain.externalReferences = db.tables.domain.externalReferences ++
    [externalReferenceOf (db.nextId + 1) scope request messageId chatId]
  links : db'.tables.domain.publicationExecutionLinks =
    db.tables.domain.publicationExecutionLinks ++
      [publicationLinkOf (db.nextId + 2) db.nextId (db.nextId + 1) scope request]

theorem ensures_published (now : Time) (scope : TenantScope) (request : PublishRequest)
    (messageId chatId : String) (db : AgentDatabase M ExecutionTables) :
    Ensures (settleExecution now scope request (.published messageId chatId))
      (fun _ => Publishing now scope request messageId chatId db) db := by
  have hf := domainRelation_frames (M := M) (r := SameAccounts) now fun _ => true
  have hexperiment : Within (Frames SameAccounts)
      (startExperiment (M := M) request.detail.decisionId) := by
    refine hf.modifyTables _ fun t => ?_
    split
    · exact ⟨⟨rfl, rfl, rfl, rfl⟩, rfl⟩
    · exact refl t
  have hsucceed : Within (Frames SameAccounts)
      (succeedExecution (M := M) request.executionId request.action.id messageId) := by
    refine hf.bind (hf.modifyTables _ fun _ => ⟨⟨rfl, rfl, rfl, rfl⟩, rfl⟩) fun _ => ?_
    exact hf.modifyTables _ fun _ => ⟨⟨rfl, rfl, rfl, rfl⟩, rfl⟩
  unfold settleExecution insertExternalReference
  rw [ensures_bind, ensures_newId, ensures_bind, ensures_modifyTables, ensures_bind, ensures_newId,
    ensures_bind, ensures_bind, ensures_tables, ensures_bind, ensures_check]
  intro _ hfree
  rw [ensures_bind, ensures_check]
  intro _ hexecution
  rw [ensures_modifyTables, ensures_bind, ensures_newId, ensures_bind, ensures_modifyTables]
  -- the rest leaves these tables alone
  refine hexperiment.ensures_bind fun _ db₁ h₁ => ?_
  refine hsucceed.ensures_bind fun _ db₂ h₂ => ?_
  refine (hf.addOutboxEvent scope "telegram.publication.executed" _).mono fun _ db₃ h₃ => ?_
  have h := h₁.trans (h₂.trans h₃)
  refine ⟨h.nextId, fun other hother hsame => ?_, fun other hother => ?_, h.domain.accounts,
    h.domain.checkpoints, h.domain.publications, h.domain.references, h.domain.links⟩
  · have hall := List.all_eq_true.mp (require_eq_ok_iff.mp hfree) other hother
    simp [hsame.1, hsame.2.1, hsame.2.2.1, hsame.2.2.2] at hall
  · have hall := List.all_eq_true.mp (require_eq_ok_iff.mp hexecution) other hother
    simpa using hall

/-- The same for the handler within the analytics, which leaves all their own tables alone. -/
structure Published (now : Time) (scope : TenantScope) (request : PublishRequest)
    (messageId chatId : String) (db db' : AgentDatabase M AnalyticsTables) : Prop where
  publishing : Publishing now scope request messageId chatId
    (db.withDomain db.tables.domain.toExecutionTables)
    (db'.withDomain db'.tables.domain.toExecutionTables)
  domain : db'.tables.domain =
    executionView.set db'.tables.domain.toExecutionTables db.tables.domain

theorem ensures_publish (now : Time) (scope : TenantScope) (request : PublishRequest)
    (messageId chatId : String) (db : AgentDatabase M AnalyticsTables) :
    Ensures ((settleExecution now scope request (.published messageId chatId)).zoom executionView)
      (fun _ => Published now scope request messageId chatId db) db := by
  rw [ensures_zoom]
  refine (ensures_published now scope request messageId chatId _).mono fun _ part h => ?_
  exact ⟨h, rfl⟩

end LaunchOS.Analytics
