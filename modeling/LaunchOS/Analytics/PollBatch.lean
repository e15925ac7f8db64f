import LaunchOS.Analytics.Observations

/-!
# The batch of a poll

A poll ingests the updates of its batch one after another, in one transaction with the cursor. One
update that is refused rolls back all of it.

The module introduces:

* `sortUpdates_eq_ok`, `sortUpdates_ok`, `batchMax`: the order of a batch, and the cursor after it;
* `Observed`, `Ingestible`: what is known of an update, and when it is not refused;
* `IngestGrows`: what ingestions do to the keys of an account;
* `BatchDone`, `ensures_finishPoll`: what a poll has done when it commits;
* `achieves_finishPoll`: a poll commits if no update is refused;
* `poll_ingests_iff`: so a batch is ingested if and only if this is so;
* a batch with an update of another class.
-/

namespace LaunchOS.Analytics

open Txn Transition

variable {M : Type}

/-! ## The order of a batch -/

/-- `_update_sort_key`, with the update. -/
def keyedUpdate (update : TelegramUpdate) : Except JobError (ℤ × TelegramUpdate) := do
  let id ← orRaise (.permanentJobError "Telegram update_id is invalid") (updateId? update)
  return (id, update)

theorem keyedUpdate_eq_ok_iff {update : TelegramUpdate} {keyed : ℤ × TelegramUpdate} :
    keyedUpdate update = .ok keyed ↔ updateId? update = some keyed.1 ∧ keyed.2 = update := by
  obtain ⟨id, body⟩ := keyed
  unfold keyedUpdate
  rw [Except.bind_eq_ok_iff]
  constructor
  · rintro ⟨id', hid, hpure⟩
    cases hpure
    exact ⟨orRaise_eq_ok_iff.mp hid, rfl⟩
  · rintro ⟨hid, rfl⟩
    exact ⟨id, orRaise_eq_ok_iff.mpr hid, rfl⟩

theorem mapM_keyedUpdate_eq_ok {updates : List TelegramUpdate}
    {keyed : List (ℤ × TelegramUpdate)} (h : updates.mapM keyedUpdate = .ok keyed) :
    keyed.map Prod.snd = updates ∧ ∀ x ∈ keyed, updateId? x.2 = some x.1 := by
  induction updates generalizing keyed with
  | nil =>
      rw [List.mapM_nil, Except.pure_eq_ok_iff] at h
      subst h
      exact ⟨rfl, by simp⟩
  | cons update updates ih =>
      rw [List.mapM_cons, Except.bind_eq_ok_iff] at h
      obtain ⟨first, hfirst, h⟩ := h
      obtain ⟨rest, hrest, h⟩ := Except.bind_eq_ok_iff.mp h
      cases h
      obtain ⟨hid, hupdate⟩ := keyedUpdate_eq_ok_iff.mp hfirst
      obtain ⟨hmap, hids⟩ := ih hrest
      refine ⟨by rw [List.map_cons, hupdate, hmap], fun x hx => ?_⟩
      rcases List.mem_cons.mp hx with rfl | hx
      · rw [hupdate]
        exact hid
      · exact hids x hx

theorem mapM_keyedUpdate_ok {updates : List TelegramUpdate}
    (h : ∀ update ∈ updates, ∃ id, updateId? update = some id) :
    ∃ keyed, updates.mapM keyedUpdate = .ok keyed := by
  induction updates with
  | nil => exact ⟨[], rfl⟩
  | cons update updates ih =>
      obtain ⟨id, hid⟩ := h update List.mem_cons_self
      obtain ⟨rest, hrest⟩ := ih fun other hother => h other (List.mem_cons_of_mem _ hother)
      have hfirst : keyedUpdate update = .ok (id, update) := keyedUpdate_eq_ok_iff.mpr ⟨hid, rfl⟩
      refine ⟨(id, update) :: rest, ?_⟩
      rw [List.mapM_cons, Except.bind_eq_ok_iff]
      exact ⟨_, hfirst, Except.bind_eq_ok_iff.mpr ⟨rest, hrest, rfl⟩⟩

/-- Sorting keeps the updates, each with its own id. -/
theorem sortUpdates_eq_ok {updates : List TelegramUpdate} {sorted : List (ℤ × TelegramUpdate)}
    (h : sortUpdates updates = .ok sorted) :
    (∀ x ∈ sorted, x.2 ∈ updates ∧ updateId? x.2 = some x.1) ∧
      ∀ update ∈ updates, ∃ id, (id, update) ∈ sorted := by
  unfold sortUpdates at h
  obtain ⟨keyed, hkeyed, h⟩ := Except.bind_eq_ok_iff.mp h
  cases h
  obtain ⟨hmap, hids⟩ := mapM_keyedUpdate_eq_ok hkeyed
  constructor
  · intro x hx
    have hmem : x ∈ keyed := (List.mem_insertionSort _).mp hx
    exact ⟨hmap ▸ List.mem_map_of_mem hmem, hids x hmem⟩
  · intro update hupdate
    rw [← hmap] at hupdate
    obtain ⟨⟨id, body⟩, hmem, rfl⟩ := List.mem_map.mp hupdate
    exact ⟨id, (List.mem_insertionSort _).mpr hmem⟩

theorem sortUpdates_ok {updates : List TelegramUpdate}
    (h : ∀ update ∈ updates, ∃ id, updateId? update = some id) :
    ∃ sorted, sortUpdates updates = .ok sorted := by
  obtain ⟨keyed, hkeyed⟩ := mapM_keyedUpdate_ok h
  unfold sortUpdates
  exact ⟨_, Except.bind_eq_ok_iff.mpr ⟨keyed, hkeyed, rfl⟩⟩

/-! ### The highest id -/

/-- `max_update_id` after a batch. -/
def batchMax (lastUpdateId : Option ℤ) (sorted : List (ℤ × TelegramUpdate)) : Option ℤ :=
  sorted.foldl (fun current update => maxUpdateId current update.1) lastUpdateId

section BatchMax

variable {lastUpdateId : Option ℤ} {sorted : List (ℤ × TelegramUpdate)}

theorem batchMax_append (x : ℤ × TelegramUpdate) :
    batchMax lastUpdateId (sorted ++ [x]) = maxUpdateId (batchMax lastUpdateId sorted) x.1 := by
  simp [batchMax]

theorem le_maxUpdateId {current : Option ℤ} {id : ℤ} (h : current = some id) (updateId : ℤ) :
    ∃ highest, maxUpdateId current updateId = some highest ∧ id ≤ highest := by
  subst h
  exact ⟨max id updateId, rfl, le_max_left _ _⟩

theorem self_le_maxUpdateId (current : Option ℤ) (updateId : ℤ) :
    ∃ highest, maxUpdateId current updateId = some highest ∧ updateId ≤ highest := by
  cases current with
  | none => exact ⟨updateId, rfl, le_rfl⟩
  | some id => exact ⟨max id updateId, rfl, le_max_right _ _⟩

/-- The cursor does not go back. -/
theorem le_batchMax {id : ℤ} (h : lastUpdateId = some id) :
    ∃ highest, batchMax lastUpdateId sorted = some highest ∧ id ≤ highest := by
  induction sorted using List.reverseRecOn with
  | nil => exact ⟨id, h, le_rfl⟩
  | append_singleton sorted x ih =>
      obtain ⟨highest, hhighest, hle⟩ := ih
      obtain ⟨highest', hhighest', hle'⟩ := le_maxUpdateId hhighest x.1
      rw [batchMax_append]
      exact ⟨highest', hhighest', hle.trans hle'⟩

/-- It is past every update of the batch. -/
theorem mem_le_batchMax {x : ℤ × TelegramUpdate} (hx : x ∈ sorted) :
    ∃ highest, batchMax lastUpdateId sorted = some highest ∧ x.1 ≤ highest := by
  induction sorted using List.reverseRecOn with
  | nil => cases hx
  | append_singleton sorted y ih =>
      rw [batchMax_append]
      rcases List.mem_append.mp hx with hold | hnew
      · obtain ⟨highest, hhighest, hle⟩ := ih hold
        obtain ⟨highest', hhighest', hle'⟩ := le_maxUpdateId hhighest y.1
        exact ⟨highest', hhighest', hle.trans hle'⟩
      · rw [List.mem_singleton.mp hnew]
        exact self_le_maxUpdateId _ _

/-- It stands where it was, or at an update of the batch. -/
theorem batchMax_cases :
    batchMax lastUpdateId sorted = lastUpdateId ∨
      ∃ x ∈ sorted, batchMax lastUpdateId sorted = some x.1 := by
  induction sorted using List.reverseRecOn with
  | nil => exact .inl rfl
  | append_singleton sorted y ih =>
      rw [batchMax_append]
      cases hcurrent : batchMax lastUpdateId sorted with
      | none => exact .inr ⟨y, List.mem_append_right _ (List.mem_singleton_self y), rfl⟩
      | some id =>
          rcases le_total id y.1 with hle | hle
          · refine .inr ⟨y, List.mem_append_right _ (List.mem_singleton_self y), ?_⟩
            rw [maxUpdateId, max_eq_right hle]
          · have hsame : maxUpdateId (some id) y.1 = some id := by rw [maxUpdateId, max_eq_left hle]
            rw [hsame, ← hcurrent]
            rcases ih with hsame | ⟨x, hx, heq⟩
            · exact .inl hsame
            · exact .inr ⟨x, List.mem_append_left _ hx, heq⟩

end BatchMax

/-! ## One account -/

/-- The account has observed the update with this identity. -/
def HasObserved (connectorAccountId : Id) (providerEventIdentity : String) (t : AnalyticsTables) :
    Prop :=
  ∃ observation ∈ t.connectorObservations,
    observation.connectorAccountId = connectorAccountId ∧
      observation.providerEventIdentity = providerEventIdentity

instance (connectorAccountId : Id) (providerEventIdentity : String) (t : AnalyticsTables) :
    Decidable (HasObserved connectorAccountId providerEventIdentity t) := by
  unfold HasObserved
  infer_instance

theorem observationOf_eq_none_iff {connectorAccountId : Id} {providerEventIdentity : String}
    {t : AnalyticsTables} :
    observationOf connectorAccountId providerEventIdentity t = none ↔
      ¬ HasObserved connectorAccountId providerEventIdentity t := by
  simp [observationOf, HasObserved]

theorem hasObserved_of_observationOf {connectorAccountId : Id} {providerEventIdentity : String}
    {t : AnalyticsTables} {observation : ConnectorObservation}
    (h : observationOf connectorAccountId providerEventIdentity t = some observation) :
    HasObserved connectorAccountId providerEventIdentity t := by
  by_contra hnone
  rw [observationOf_eq_none_iff.mpr hnone] at h
  cases h

/-- An update that an ingestion does not refuse: its account is there, it is well formed, and it has
been observed or its key is free. -/
def Ingestible (scope : TenantScope) (connectorAccountId : Id) (update : TelegramUpdate)
    (t : AnalyticsTables) : Prop :=
  (∃ account, AccountOf scope connectorAccountId account t.toExecutionTables) ∧
    ∃ read, readUpdate update = .ok read ∧ (HasObserved connectorAccountId read.1 t ∨
      SourceFree scope connectorAccountId read.1 t)

theorem sourceExternalId_injective {connectorAccountId : Id} {identity identity' : String}
    (h : sourceExternalId connectorAccountId identity =
      sourceExternalId connectorAccountId identity') : identity = identity' := by
  simpa [sourceExternalId] using h

/-- From `t` to `t'` an account of the scope only observes: what it observes, it takes the keys of. -/
structure IngestGrows (scope : TenantScope) (connectorAccountId : Id) (t t' : AnalyticsTables) :
    Prop where
  execution : t'.toExecutionTables = t.toExecutionTables
  states : t'.connectorObservationStates = t.connectorObservationStates
  observations : t.connectorObservations ⊆ t'.connectorObservations
  sources : t.sourceRecords ⊆ t'.sourceRecords
  free : ∀ identity, ¬ HasObserved connectorAccountId identity t' →
    SourceFree scope connectorAccountId identity t → SourceFree scope connectorAccountId identity t'
  back : ∀ identity, HasObserved connectorAccountId identity t' →
    HasObserved connectorAccountId identity t ∨ SourceFree scope connectorAccountId identity t

theorem HasObserved.mono {connectorAccountId : Id} {identity : String} {t t' : AnalyticsTables}
    (h : HasObserved connectorAccountId identity t)
    (hsubset : t.connectorObservations ⊆ t'.connectorObservations) :
    HasObserved connectorAccountId identity t' := by
  obtain ⟨observation, hmem, hsame⟩ := h
  exact ⟨observation, hsubset hmem, hsame⟩

theorem SourceFree.anti {scope : TenantScope} {connectorAccountId : Id} {identity : String}
    {t t' : AnalyticsTables} (h : SourceFree scope connectorAccountId identity t')
    (hsubset : t.sourceRecords ⊆ t'.sourceRecords) :
    SourceFree scope connectorAccountId identity t :=
  fun source hsource => h source (hsubset hsource)

instance (scope : TenantScope) (connectorAccountId : Id) :
    IsPreorder AnalyticsTables (IngestGrows scope connectorAccountId) where
  refl _ := ⟨rfl, rfl, List.Subset.refl _, List.Subset.refl _, fun _ _ h => h, fun _ h => .inl h⟩
  trans _ _ _ h h' :=
    { execution := h'.execution.trans h.execution
      states := h'.states.trans h.states
      observations := List.Subset.trans h.observations h'.observations
      sources := List.Subset.trans h.sources h'.sources
      free := fun identity hnone hfree => h'.free identity hnone
        (h.free identity (fun hold => hnone (hold.mono h'.observations)) hfree)
      back := fun identity hobserved => by
        rcases h'.back identity hobserved with hold | hfree
        · exact h.back identity hold
        · exact .inr (hfree.anti h.sources) }

/-- What is ingestible stays so while the account ingests other updates. -/
theorem Ingestible.grow {scope : TenantScope} {connectorAccountId : Id} {update : TelegramUpdate}
    {t t' : AnalyticsTables} (h : Ingestible scope connectorAccountId update t)
    (hgrows : IngestGrows scope connectorAccountId t t') :
    Ingestible scope connectorAccountId update t' := by
  obtain ⟨⟨account, haccount⟩, read, hread, hkey⟩ := h
  refine ⟨⟨account, hgrows.execution ▸ haccount⟩, read, hread, ?_⟩
  rcases hkey with hobserved | hfree
  · exact .inl (hobserved.mono hgrows.observations)
  · by_cases hobserved : HasObserved connectorAccountId read.1 t'
    · exact .inl hobserved
    · exact .inr (hgrows.free read.1 hobserved hfree)

/-- What was ingestible after other ingestions was so before. -/
theorem Ingestible.back {scope : TenantScope} {connectorAccountId : Id} {update : TelegramUpdate}
    {t t' : AnalyticsTables} (h : Ingestible scope connectorAccountId update t')
    (hgrows : IngestGrows scope connectorAccountId t t') :
    Ingestible scope connectorAccountId update t := by
  obtain ⟨⟨account, haccount⟩, read, hread, hkey⟩ := h
  refine ⟨⟨account, hgrows.execution ▸ haccount⟩, read, hread, ?_⟩
  rcases hkey with hobserved | hfree
  · exact hgrows.back read.1 hobserved
  · exact .inr (hfree.anti hgrows.sources)

/-- A new observation takes its own key and no other. -/
theorem ingestGrows_insert {scope : TenantScope} {connectorAccountId : Id} {t : AnalyticsTables}
    {observation : ConnectorObservation} {id : Id} {publicationId : Option Id}
    (haccount : observation.connectorAccountId = connectorAccountId)
    (hfree : SourceFree scope connectorAccountId observation.providerEventIdentity t) :
    IngestGrows scope connectorAccountId t
      ((t.withObservation observation).withNormalized id scope observation publicationId) := by
  refine ⟨rfl, rfl, List.subset_append_left _ _, List.subset_append_left _ _, ?_, ?_⟩
  · intro identity hnone hold source hsource hsame
    rcases List.mem_append.mp hsource with hmem | hnew
    · exact hold source hmem hsame
    · rw [List.mem_singleton.mp hnew] at hsame
      have hidentity : observation.providerEventIdentity = identity :=
        sourceExternalId_injective (haccount ▸ hsame.2.2)
      exact hnone ⟨observation, List.mem_append_right _ (List.mem_singleton_self _), haccount,
        hidentity⟩
  · rintro identity ⟨row, hrow, hrowAccount, hidentity⟩
    rcases List.mem_append.mp hrow with hold | hnew
    · exact .inl ⟨row, hold, hrowAccount, hidentity⟩
    · rw [List.mem_singleton.mp hnew] at hidentity
      exact .inr (hidentity ▸ hfree)

/-! ## One update -/

section Ingest

variable {scope : TenantScope} {connectorAccountId : Id} {update : TelegramUpdate} {now : Time}
variable {db db' : AgentDatabase M AnalyticsTables} {publicationId : Option Id}

/-- What the ingestion of an update that is not refused does. -/
structure IngestedOne (scope : TenantScope) (connectorAccountId : Id) (update : TelegramUpdate)
    (db db' : AgentDatabase M AnalyticsTables) : Prop where
  nextId : db.nextId ≤ db'.nextId
  normalized : ObservationsNormalized db'.nextId db'.tables.domain
  grows : IngestGrows scope connectorAccountId db.tables.domain db'.tables.domain
  ingestible : Ingestible scope connectorAccountId update db.tables.domain
  observed : ∃ read, readUpdate update = .ok read ∧
    HasObserved connectorAccountId read.1 db'.tables.domain

theorem Ingesting.one (h : Ingesting scope connectorAccountId update now db publicationId db')
    (hinv : ObservationsNormalized db.nextId db.tables.domain) :
    IngestedOne scope connectorAccountId update db db' := by
  have hnormalized := h.normalized hinv
  rcases h.cases_of_normalized hinv with
    ⟨rfl, account, read, existing, haccount, hread, hknown⟩ |
    ⟨account, read, hnew, hnext, -, hdomain⟩
  · have hobserved := hasObserved_of_observationOf hknown
    exact ⟨le_rfl, hnormalized, refl _, ⟨⟨account, haccount⟩, read, hread, .inl hobserved⟩, read, hread,
      hobserved⟩
  · refine ⟨hnext ▸ Nat.le_add_right _ 5, hnormalized, ?_, ⟨⟨account, hnew.found⟩, read, hnew.readable, .inr hnew.source⟩, read,
      hnew.readable, ?_⟩
    · rw [hdomain]
      exact ingestGrows_insert rfl hnew.source
    · rw [hdomain]
      exact ⟨_, List.mem_append_right _ (List.mem_singleton_self _), rfl, rfl⟩

theorem achieves_ingest (hinv : ObservationsNormalized db.nextId db.tables.domain)
    (h : Ingestible scope connectorAccountId update db.tables.domain) :
    Achieves (ingestTelegramUpdate scope connectorAccountId update now)
      (fun _ db' => IngestedOne scope connectorAccountId update db db') db := by
  suffices hrun : Achieves (ingestTelegramUpdate scope connectorAccountId update now)
      (fun _ _ => True) db by
    obtain ⟨publicationId, db', hrun, -⟩ := hrun
    exact ⟨publicationId, db', hrun,
      (ensures_ingestTelegramUpdate _ _ _ _ _ _ _ hrun).one hinv⟩
  obtain ⟨⟨account, haccount⟩, read, hread, hkey⟩ := h
  cases hknown : observationOf connectorAccountId read.1 db.tables.domain with
  | some existing =>
      exact (achieves_ingest_known hinv haccount hread hknown).mono fun _ _ _ => trivial
  | none =>
      have hfree := hkey.resolve_left (observationOf_eq_none_iff.mp hknown)
      exact (achieves_ingest_new hinv ⟨haccount, hread, hknown, hfree⟩).mono fun _ _ _ => trivial

end Ingest

/-! ## The batch -/

section Batch

variable {scope : TenantScope} {connectorAccountId : Id} {now : Time} {lastUpdateId : Option ℤ}
variable {db₀ db : AgentDatabase M AnalyticsTables}

/-- Where the loop over the updates stands after a part of them. -/
structure BatchProgress (scope : TenantScope) (connectorAccountId : Id) (lastUpdateId : Option ℤ)
    (db₀ : AgentDatabase M AnalyticsTables) (done : List (ℤ × TelegramUpdate))
    (progress : PollProgress) (db : AgentDatabase M AnalyticsTables) : Prop where
  nextId : db₀.nextId ≤ db.nextId
  normalized : ObservationsNormalized db.nextId db.tables.domain
  grows : IngestGrows scope connectorAccountId db₀.tables.domain db.tables.domain
  ingestible : ∀ x ∈ done, Ingestible scope connectorAccountId x.2 db₀.tables.domain
  observed : ∀ x ∈ done, ∃ read, readUpdate x.2 = .ok read ∧
    HasObserved connectorAccountId read.1 db.tables.domain
  highest : progress.maxUpdateId = batchMax lastUpdateId done

theorem BatchProgress.nil (hinv : ObservationsNormalized db₀.nextId db₀.tables.domain)
    (publicationIds : List Id) :
    BatchProgress scope connectorAccountId lastUpdateId db₀ [] ⟨lastUpdateId, publicationIds⟩ db₀ :=
  ⟨le_rfl, hinv, refl _, by simp, by simp, rfl⟩

/-- One more update. -/
theorem BatchProgress.snoc {done : List (ℤ × TelegramUpdate)} {x : ℤ × TelegramUpdate}
    {progress : PollProgress} (publicationIds : List Id) {db' : AgentDatabase M AnalyticsTables}
    (h : BatchProgress scope connectorAccountId lastUpdateId db₀ done progress db)
    (hone : IngestedOne scope connectorAccountId x.2 db db') :
    BatchProgress scope connectorAccountId lastUpdateId db₀ (done ++ [x])
      ⟨maxUpdateId progress.maxUpdateId x.1, publicationIds⟩ db' := by
  refine ⟨h.nextId.trans hone.nextId, hone.normalized,
    trans_of (IngestGrows scope connectorAccountId) h.grows hone.grows, ?_, ?_, ?_⟩
  · intro y hy
    rcases List.mem_append.mp hy with hold | hnew
    · exact h.ingestible y hold
    · rw [List.mem_singleton.mp hnew]
      exact hone.ingestible.back h.grows
  · intro y hy
    rcases List.mem_append.mp hy with hold | hnew
    · obtain ⟨read, hread, hobserved⟩ := h.observed y hold
      exact ⟨read, hread, hobserved.mono hone.grows.observations⟩
    · rw [List.mem_singleton.mp hnew]
      exact hone.observed
  · rw [batchMax_append, h.highest]

/-- What a poll has done when it commits. -/
structure BatchDone (scope : TenantScope) (connectorAccountId : Id) (now : Time) (poll : Poll)
    (sorted : List (ℤ × TelegramUpdate)) (db db' : AgentDatabase M AnalyticsTables) : Prop where
  nextId : db.nextId ≤ db'.nextId
  execution : db'.tables.domain.toExecutionTables = db.tables.domain.toExecutionTables
  observations : db.tables.domain.connectorObservations ⊆ db'.tables.domain.connectorObservations
  ingestible : ∀ x ∈ sorted, Ingestible scope connectorAccountId x.2 db.tables.domain
  observed : ∀ x ∈ sorted, ∃ read, readUpdate x.2 = .ok read ∧
    HasObserved connectorAccountId read.1 db'.tables.domain
  states : db'.tables.domain.connectorObservationStates =
    Table.modify ConnectorObservationState.id poll.loaded.id
      (poll.write now (batchMax poll.loaded.lastUpdateId sorted))
      db.tables.domain.connectorObservationStates

theorem ensures_finishPoll (context : RuntimeJobContext) (connectorAccountId : Id) (now : Time)
    (poll : Poll) (updates : List TelegramUpdate)
    (hinv : ObservationsNormalized db.nextId db.tables.domain) :
    Ensures (finishPoll context connectorAccountId now poll updates) (fun _ db' =>
      ∃ sorted, sortUpdates updates = .ok sorted ∧
        BatchDone context.scope connectorAccountId now poll sorted db db') db := by
  have hf := domainRelation_frames (M := M) (T := AnalyticsTables) (r := Eq) now fun _ => true
  unfold finishPoll
  rw [ensures_bind, ensures_tables, ensures_bind, ensures_check]
  intro sorted hsorted
  rw [ensures_bind]
  refine Ensures.mono (Ensures.foldlM_prefix (I := fun done progress db₁ =>
      BatchProgress context.scope connectorAccountId poll.loaded.lastUpdateId db done progress db₁)
    (fun done x rest _ progress db₁ h => ?_) (.nil hinv _)) fun progress db₁ h => ?_
  · rw [ingestOne, ensures_bind]
    refine (ensures_ingestTelegramUpdate _ _ _ _ db₁).mono fun publicationId db₂ hingesting => ?_
    rw [ensures_pure]
    exact h.snoc _ (hingesting.one h.normalized)
  · rw [ensures_bind, ensures_modifyTables]
    refine Ensures.mono (hf.foldlM (fun _ id => hf.bind (framesWithin_createJob now _)
      fun _ => hf.pure _) () _) fun _ db₂ h₂ => ?_
    refine ⟨sorted, hsorted, h.nextId.trans h₂.nextId, ?_, ?_, h.ingestible, ?_, ?_⟩
    · rw [← h₂.domain]
      exact h.grows.execution
    · rw [← h₂.domain]
      exact h.grows.observations
    · rw [← h₂.domain]
      exact h.observed
    · rw [← h₂.domain, ← h.highest, ← h.grows.states]

/-- The metric jobs of a poll are always created. -/
theorem achieves_createMetricJob (context : RuntimeJobContext) (publicationId : Id) :
    Achieves (DomainTxn.createJob now (metricJob context publicationId)) (fun _ _ => True) db := by
  unfold Achieves DomainTxn.createJob LaunchOS.createJob
  have hcheck : (metricJob context publicationId).check = .ok () := rfl
  rw [hcheck]
  dsimp only
  cases Table.find Job.uniqueKey (metricJob context publicationId).uniqueKey db.toJobTable.jobs with
  | some existing => exact ⟨existing, _, rfl, trivial⟩
  | none => exact ⟨_, _, rfl, trivial⟩

theorem achieves_finishPoll (context : RuntimeJobContext) (connectorAccountId : Id) (now : Time)
    (poll : Poll) {updates : List TelegramUpdate}
    (hinv : ObservationsNormalized db.nextId db.tables.domain)
    (hids : ∀ update ∈ updates, ∃ id, updateId? update = some id)
    (hupdates : ∀ update ∈ updates,
      Ingestible context.scope connectorAccountId update db.tables.domain) :
    Achieves (finishPoll context connectorAccountId now poll updates) (fun _ _ => True) db := by
  obtain ⟨sorted, hsorted⟩ := sortUpdates_ok hids
  obtain ⟨hmem, -⟩ := sortUpdates_eq_ok hsorted
  unfold finishPoll
  rw [achieves_bind, achieves_tables, achieves_bind, achieves_check]
  refine ⟨sorted, hsorted, ?_⟩
  rw [achieves_bind]
  refine Achieves.mono (Achieves.foldlM_prefix (I := fun done progress db₁ =>
      BatchProgress context.scope connectorAccountId poll.loaded.lastUpdateId db done progress db₁)
    (fun done x rest hx progress db₁ h => ?_) (.nil hinv _)) fun progress db₁ h => ?_
  · have hxmem : x ∈ sorted := hx ▸ List.mem_append_right _ List.mem_cons_self
    rw [ingestOne, achieves_bind]
    refine (achieves_ingest h.normalized ((hupdates x.2 (hmem x hxmem).1).grow h.grows)).mono
      fun publicationId db₂ hone => ?_
    rw [achieves_pure]
    exact h.snoc _ hone
  · rw [achieves_bind, achieves_modifyTables]
    refine (Achieves.foldlM_prefix (I := fun _ _ _ => True) (fun _ _ _ _ _ _ _ => ?_) trivial)
    rw [achieves_bind]
    refine (achieves_createMetricJob context _).mono fun _ _ _ => ?_
    rw [achieves_pure]
    trivial

end Batch

/-! ## The cursor -/

/-- The poll commits, the account has observed every well-formed update of the batch, and the cursor
is past all of it. -/
def PollIngests (context : RuntimeJobContext) (connectorAccountId : Id) (now : Time) (poll : Poll)
    (updates : List TelegramUpdate) (db : AgentDatabase M AnalyticsTables) : Prop :=
  ∃ db', exec (finishPoll context connectorAccountId now poll updates) db = .ok db' ∧
    (∀ update ∈ updates, ∀ read, readUpdate update = .ok read →
      HasObserved connectorAccountId read.1 db'.tables.domain) ∧
    ∀ state ∈ db'.tables.domain.connectorObservationStates, state.id = poll.loaded.id →
      ∀ update ∈ updates, ∀ id, updateId? update = some id →
        ∃ last, state.lastUpdateId = some last ∧ id ≤ last

/-- What `get_updates` returns for an offset: updates with ids from the offset on. -/
def FromOffset (poll : Poll) (updates : List TelegramUpdate) : Prop :=
  ∀ update ∈ updates, ∃ id, updateId? update = some id ∧
    ∀ last, poll.loaded.lastUpdateId = some last → last < id

theorem pollIngests_of_normalized {db : AgentDatabase M AnalyticsTables}
    (hinv : ObservationsNormalized db.nextId db.tables.domain) (context : RuntimeJobContext)
    (connectorAccountId : Id) (now : Time) {poll : Poll} {updates : List TelegramUpdate}
    (hoffset : FromOffset poll updates) :
    PollIngests context connectorAccountId now poll updates db ↔
      ∀ update ∈ updates, Ingestible context.scope connectorAccountId update db.tables.domain := by
  constructor
  · rintro ⟨db', hrun, -⟩ update hupdate
    obtain ⟨sorted, hsorted, hdone⟩ :=
      Ensures.of_exec (ensures_finishPoll context connectorAccountId now poll updates hinv) hrun
    obtain ⟨id, hmem⟩ := (sortUpdates_eq_ok hsorted).2 update hupdate
    exact hdone.ingestible (id, update) hmem
  · intro hingestible
    have hids : ∀ update ∈ updates, ∃ id, updateId? update = some id := fun update hupdate =>
      (hoffset update hupdate).imp fun _ h => h.1
    obtain ⟨_, db', hrun, -⟩ :=
      achieves_finishPoll context connectorAccountId now poll hinv hids hingestible
    have hexec : exec (finishPoll context connectorAccountId now poll updates) db = .ok db' :=
      exec_eq_ok_iff.mpr ⟨_, hrun⟩
    obtain ⟨sorted, hsorted, hdone⟩ :=
      Ensures.of_exec (ensures_finishPoll context connectorAccountId now poll updates hinv) hexec
    obtain ⟨hmem, hall⟩ := sortUpdates_eq_ok hsorted
    refine ⟨db', hexec, ?_, ?_⟩
    · intro update hupdate read hread
      obtain ⟨id, hx⟩ := hall update hupdate
      obtain ⟨read', hread', hobserved⟩ := hdone.observed (id, update) hx
      cases hread.symm.trans hread'
      exact hobserved
    · intro state hstate hid update hupdate id hupdateId
      rw [hdone.states] at hstate
      rcases Table.mem_modify_cases hstate with ⟨old, -, -, rfl⟩ | ⟨-, hne⟩
      · obtain ⟨id', hx⟩ := hall update hupdate
        have hsame : id' = id := Option.some.inj ((hmem _ hx).2.symm.trans hupdateId)
        subst hsame
        obtain ⟨highest, hhighest, hle⟩ : ∃ highest,
            batchMax poll.loaded.lastUpdateId sorted = some highest ∧ id' ≤ highest :=
          mem_le_batchMax hx
        refine ⟨highest, ?_, hle⟩
        -- the batch is not empty, so the cursor moves
        have hmoved : batchMax poll.loaded.lastUpdateId sorted ≠ poll.loaded.lastUpdateId := by
          intro hsame
          obtain ⟨id'', hid'', hlast⟩ := hoffset update hupdate
          cases hid''.symm.trans hupdateId
          exact absurd hle (not_le.mpr (hlast highest (hsame.symm.trans hhighest)))
        rw [Poll.write, if_pos hmoved, hhighest]
      · exact absurd hid hne

/-- In every state of every run, a poll ingests the well-formed updates of its batch and moves its
cursor past the batch if and only if every update of the batch is ingestible. -/
theorem poll_ingests_iff (D : Digest) (hashPayload : Derivation → String) {s : AnalyticsState M}
    (hs : AnalyticsInitial s) (actions : List AnalyticsAction) (context : RuntimeJobContext)
    (connectorAccountId : Id) (now : Time) {poll : Poll} {updates : List TelegramUpdate}
    (hoffset : FromOffset poll updates) :
    let db := (run (analyticsApp D hashPayload).step s actions).db
    PollIngests context connectorAccountId now poll updates db ↔
      ∀ update ∈ updates, Ingestible context.scope connectorAccountId update db.tables.domain :=
  pollIngests_of_normalized (observationsNormalized_run D hashPayload hs actions) context
    connectorAccountId now hoffset

/-! ### A batch with an update of another class -/

/-- An update of a class that nobody has asked for. -/
def editedPost : TelegramUpdate :=
  [("update_id", .int 6), ("edited_channel_post", .dict
    [("date", .int 3600), ("message_id", .int 7), ("chat", .dict [("id", .str "@channel")])])]

/-- An observation job of the account `1`. -/
def observationContext : RuntimeJobContext where
  scope := demoScope
  jobId := 19
  jobType := .connectorTelegramObserveUpdates
  attemptCount := 1

/-- Its poll, before the account has observed anything. -/
def firstPoll : Poll where
  loaded :=
    { id := 2
      scope := demoScope
      connectorAccountId := 1
      coverageStartedAt := 0
      allowedUpdateTypes := telegramAllowedUpdates }
  gapDetected := false

/-- The other update keeps the reaction from being ingested. -/
theorem edited_post_poisons :
    let db := (run (analyticsApp plainDigest plainHash).step analyticsStart publishedExperiment).db
    beginPoll observationContext 1 hour db.tables.domain = .ok firstPoll ∧
      FromOffset firstPoll [postReaction, editedPost] ∧
      ¬ PollIngests observationContext 1 hour firstPoll [postReaction, editedPost] db := by
  refine ⟨by decide +kernel, ?_, ?_⟩
  · intro update hupdate
    rcases List.mem_cons.mp hupdate with rfl | hupdate
    · exact ⟨5, rfl, fun last hlast => by cases hlast⟩
    · rw [List.mem_singleton.mp hupdate]
      exact ⟨6, rfl, fun last hlast => by cases hlast⟩
  · rintro ⟨db', hrun, -⟩
    have hraised : (exec (finishPoll observationContext 1 hour firstPoll
        [postReaction, editedPost]) (run (analyticsApp plainDigest plainHash).step analyticsStart
          publishedExperiment).db).toOption.isSome = false := by decide +kernel
    rw [hrun] at hraised
    cases hraised

theorem reaction_ingested :
    FromOffset firstPoll [postReaction] ∧
      PollIngests observationContext 1 hour firstPoll [postReaction]
        (run (analyticsApp plainDigest plainHash).step analyticsStart publishedExperiment).db := by
  have hoffset : FromOffset firstPoll [postReaction] := by
    intro update hupdate
    rw [List.mem_singleton.mp hupdate]
    exact ⟨5, rfl, fun last hlast => by cases hlast⟩
  refine ⟨hoffset, (poll_ingests_iff plainDigest plainHash analyticsStart_initial
    publishedExperiment observationContext 1 hour hoffset).mpr fun update hupdate => ?_⟩
  rw [List.mem_singleton.mp hupdate]
  refine ⟨⟨⟨1, demoScope, 100, "telegram", "@channel", .ready, true, true, true⟩, ?_, rfl⟩,
    ("5", "message_reaction", ⟨hour, some "7", some "@channel"⟩), rfl, .inr ?_⟩
  · decide +kernel
  · decide +kernel

end LaunchOS.Analytics
