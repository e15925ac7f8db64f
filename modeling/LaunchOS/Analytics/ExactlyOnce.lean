import LaunchOS.Analytics.PollBatch
import Mathlib.Order.Bounds.Basic

/-!
# Observations exactly once

Observation jobs that are applied one at a time, each with whatever updates the provider hands over:
old ones again, in any order, or several with one id. What is looked up before a row is written are
the observation of the account and the link of the observation, so no row is written twice.

The module introduces:

* `ObservationJob`, `ObservationJob.run`: a job from its start to its end;
* `ObservationLog`: the database, next to every update that a job has committed;
* `Ingestion`: the five rows of an update;
* `Ingested`: the tables hold the rows of exactly the updates that were delivered, each once and with
  the payload that came first;
* `Cursors`: the cursor of an account is the highest id delivered to it;
* `ingestion_exactly_once`: all of it, after every sequence of jobs.
-/

namespace LaunchOS.Analytics

open Txn Transition

variable {M : Type}

/-! ## Jobs -/

/-- An observation job, with the updates that `get_updates` returns to it. -/
structure ObservationJob where
  context : RuntimeJobContext
  connectorAccountId : Id
  startedAt : Time
  finishedAt : Time
  updates : List TelegramUpdate

/-- `TelegramObservationHandler.handle`, with nothing in between. -/
def ObservationJob.run (job : ObservationJob) : AnalyticsTxn M Unit := do
  let t ← DomainTxn.tables
  let poll ← DomainTxn.check (beginPoll job.context job.connectorAccountId job.startedAt t)
  finishPoll job.context job.connectorAccountId job.finishedAt poll job.updates

/-- An update that an account has been handed. -/
structure Delivered where
  connectorAccountId : Id
  updateId : ℤ
  update : TelegramUpdate

/-- `str(update_id)`. -/
def updateIdentity (update : TelegramUpdate) : String :=
  ((update.lookup "update_id").bind Json.asIntOrStr).getD ""

/-- What an update is known by. -/
def Delivered.key (d : Delivered) : Id × String :=
  (d.connectorAccountId, updateIdentity d.update)

/-- The update has an integer as its id, as the provider documents. -/
def Delivered.WellFormed (d : Delivered) : Prop :=
  d.update.lookup "update_id" = some (.int d.updateId)

section Identity

theorem natRepr_injective : Function.Injective Nat.repr := by
  intro a b h
  have hdigits := congrArg (fun s : String => Nat.ofDigitChars 10 s.toList 0) h
  simpa using hdigits

theorem natRepr_ne_minus (a b : ℕ) : Nat.repr a ≠ "-" ++ Nat.repr b := by
  intro h
  have hminus : '-' ∈ (Nat.repr a).toList := by
    rw [h]
    simp
  have hdigit : '-'.isDigit :=
    Nat.isDigit_of_mem_toDigits (b := 10) (by decide) le_rfl (by simpa using hminus)
  revert hdigit
  decide

theorem intRepr_injective : Function.Injective Int.repr := by
  intro a b h
  cases a with
  | ofNat a =>
      cases b with
      | ofNat b => exact congrArg Int.ofNat (natRepr_injective h)
      | negSucc b => exact absurd h (natRepr_ne_minus a (b + 1))
  | negSucc a =>
      cases b with
      | ofNat b => exact absurd h.symm (natRepr_ne_minus b (a + 1))
      | negSucc b =>
          have hsucc := natRepr_injective ((String.append_right_inj "-").mp h)
          exact congrArg Int.negSucc (Nat.succ.inj hsucc)

/-- Well-formed updates are known by their account and their id. -/
theorem Delivered.key_eq_iff {d d' : Delivered} (h : d.WellFormed) (h' : d'.WellFormed) :
    d.key = d'.key ↔ d.connectorAccountId = d'.connectorAccountId ∧ d.updateId = d'.updateId := by
  have hidentity : ∀ {d : Delivered}, d.WellFormed → updateIdentity d.update = d.updateId.repr := by
    intro d h
    rw [updateIdentity, h]
    rfl
  rw [key, key, Prod.mk.injEq, hidentity h, hidentity h', intRepr_injective.eq_iff]

end Identity

/-- The updates of a job, in the order in which it ingests them. -/
def ObservationJob.batch (job : ObservationJob) : List Delivered :=
  ((sortUpdates job.updates).toOption.getD []).map fun x =>
    { connectorAccountId := job.connectorAccountId, updateId := x.1, update := x.2 }

/-- The database, and the updates that have been delivered. -/
structure ObservationLog (M : Type) where
  db : AgentDatabase M AnalyticsTables
  delivered : List Delivered := []

/-- A job that raises is rolled back. -/
def ObservationLog.step (job : ObservationJob) (log : ObservationLog M) : ObservationLog M :=
  match exec job.run log.db with
  | .ok db => { db := db, delivered := log.delivered ++ job.batch }
  | .error _ => log

/-! ## The rows of an update -/

/-- The observation of an update, with the four rows it is normalized to. -/
structure Ingestion where
  origin : Delivered
  observation : ConnectorObservation
  source : SourceRecord
  event : BusinessEvent
  evidence : Evidence
  link : NormalizedObservationLink
  /-- The observation is that of the update. -/
  observed : ∃ read, readUpdate origin.update = .ok read ∧
    observation = newObservation observation.id observation.scope origin.connectorAccountId origin.update read
      observation.ingestedAt
  sourced : source.provider = "telegram" ∧ source.externalId =
    sourceExternalId observation.connectorAccountId observation.providerEventIdentity
  recorded : event = eventOf event.id event.scope observation event.publicationId
  supported : evidence.sourceRecordId = source.id
  linked : link.observationId = observation.id ∧ link.sourceRecordId = source.id ∧
    link.businessEventId = event.id ∧ link.evidenceId = evidence.id

theorem readUpdate_identity {update : TelegramUpdate} {read : String × String × EventIdentity}
    (h : readUpdate update = .ok read) : read.1 = updateIdentity update := by
  unfold readUpdate at h
  obtain ⟨_, -, h⟩ := Except.bind_eq_ok_iff.mp h
  obtain ⟨_, -, h⟩ := Except.bind_eq_ok_iff.mp h
  obtain ⟨_, -, h⟩ := Except.bind_eq_ok_iff.mp h
  cases h
  rfl

/-- An observation is known by what its update is known by. -/
theorem Ingestion.key_eq (i : Ingestion) :
    (i.observation.connectorAccountId, i.observation.providerEventIdentity) = i.origin.key := by
  obtain ⟨read, hread, hobservation⟩ := i.observed
  rw [hobservation, Delivered.key, ← readUpdate_identity hread]
  rfl

/-- The rows that a new update gets. -/
def Ingestion.new (d : Delivered) (id : Id) (scope : TenantScope)
    (read : String × String × EventIdentity) (now : Time) (publicationId : Option Id)
    (hread : readUpdate d.update = .ok read) : Ingestion where
  origin := d
  observation := newObservation id scope d.connectorAccountId d.update read now
  source :=
    { id := id + 1
      scope := scope
      provider := "telegram"
      externalId := sourceExternalId d.connectorAccountId read.1 }
  event := eventOf (id + 2) scope (newObservation id scope d.connectorAccountId d.update read now)
    publicationId
  evidence :=
    { id := id + 3
      scope := scope
      sourceRecordId := id + 1
      status := .observation }
  link :=
    { id := id + 4
      scope := scope
      observationId := id
      sourceRecordId := id + 1
      businessEventId := id + 2
      evidenceId := id + 3
      publicationId := publicationId }
  observed := ⟨read, hread, rfl⟩
  sourced := ⟨rfl, rfl⟩
  recorded := rfl
  supported := rfl
  linked := ⟨rfl, rfl, rfl, rfl⟩

/-- The tables `t` hold what `t₀` held and the rows of the delivered updates: one `Ingestion` for
every key, of the update that was delivered first. -/
structure Ingested (t₀ : AnalyticsTables) (delivered : List Delivered) (ingestions : List Ingestion)
    (nextId : Id) (t : AnalyticsTables) : Prop where
  normalized : ObservationsNormalized nextId t
  observations : t.connectorObservations = ingestions.map Ingestion.observation
  sources : t.sourceRecords = t₀.sourceRecords ++ ingestions.map Ingestion.source
  events : t.businessEvents = t₀.businessEvents ++ ingestions.map Ingestion.event
  evidence : t.evidence = t₀.evidence ++ ingestions.map Ingestion.evidence
  links : t.normalizedObservationLinks = ingestions.map Ingestion.link
  observationIds : Table.Issued ConnectorObservation.id nextId t.connectorObservations
  sourceIds : Table.Issued SourceRecord.id nextId t.sourceRecords
  eventIds : Table.Issued BusinessEvent.id nextId t.businessEvents
  evidenceIds : Table.Issued Evidence.id nextId t.evidence
  keys : Table.KeysNodup (fun i => i.origin.key) ingestions
  first : ∀ i ∈ ingestions, delivered.find? (fun d => d.key = i.origin.key) = some i.origin
  all : ∀ d ∈ delivered, ∃ i ∈ ingestions, i.origin.key = d.key

/-- The tables have one row of each kind for an update, with what was delivered first. -/
def IngestedOnce (delivered : List Delivered) (t : AnalyticsTables) (d : Delivered) : Prop :=
  ∃ i : Ingestion, delivered.find? (fun d' => d'.key = d.key) = some i.origin ∧
    t.connectorObservations.filter
      (fun o => (o.connectorAccountId, o.providerEventIdentity) = d.key) = [i.observation] ∧
    t.normalizedObservationLinks.filter (fun link => link.observationId = i.observation.id) =
      [i.link] ∧
    t.sourceRecords.filter (fun source => source.id = i.link.sourceRecordId) = [i.source] ∧
    t.businessEvents.filter (fun event => event.id = i.link.businessEventId) = [i.event] ∧
    t.evidence.filter (fun evidence => evidence.id = i.link.evidenceId) = [i.evidence]

namespace Ingested

variable {t₀ t t' : AnalyticsTables} {delivered : List Delivered} {ingestions : List Ingestion}
variable {nextId nextId' : Id}

/-- The rest of the tables does not matter. -/
theorem congr (h : Ingested t₀ delivered ingestions nextId t) (hle : nextId ≤ nextId')
    (hobservations : t'.connectorObservations = t.connectorObservations)
    (hsources : t'.sourceRecords = t.sourceRecords) (hevents : t'.businessEvents = t.businessEvents)
    (hevidence : t'.evidence = t.evidence)
    (hlinks : t'.normalizedObservationLinks = t.normalizedObservationLinks) :
    Ingested t₀ delivered ingestions nextId' t' where
  normalized := h.normalized.sameLinks hle
    ⟨hobservations, hlinks, hevents ▸ List.Subset.refl _, hevidence ▸ List.Subset.refl _⟩
  observations := hobservations.trans h.observations
  sources := hsources.trans h.sources
  events := hevents.trans h.events
  evidence := hevidence.trans h.evidence
  links := hlinks.trans h.links
  observationIds := hobservations ▸ h.observationIds.mono hle
  sourceIds := hsources ▸ h.sourceIds.mono hle
  eventIds := hevents ▸ h.eventIds.mono hle
  evidenceIds := hevidence ▸ h.evidenceIds.mono hle
  keys := h.keys
  first := h.first
  all := h.all

/-- A redelivered update changes nothing. -/
theorem again (h : Ingested t₀ delivered ingestions nextId t) {d : Delivered}
    (hobserved : HasObserved d.connectorAccountId (updateIdentity d.update) t) :
    Ingested t₀ (delivered ++ [d]) ingestions nextId t := by
  refine { h with first := fun i hi => ?_, all := fun d' hd' => ?_ }
  · rw [List.find?_append, h.first i hi]
    rfl
  · rcases List.mem_append.mp hd' with hold | hnew
    · exact h.all d' hold
    · obtain ⟨observation, hmem, haccount, hidentity⟩ := hobserved
      rw [h.observations] at hmem
      obtain ⟨i, hi, rfl⟩ := List.mem_map.mp hmem
      refine ⟨i, hi, ?_⟩
      rw [List.mem_singleton.mp hnew, ← i.key_eq, haccount, hidentity]
      rfl

/-- An update with a key of its own gets its rows. -/
theorem add (h : Ingested t₀ delivered ingestions nextId t) (d : Delivered) (scope : TenantScope)
    {read : String × String × EventIdentity} (now : Time) (publicationId : Option Id)
    (hread : readUpdate d.update = .ok read)
    (hnew : ¬ HasObserved d.connectorAccountId read.1 t) :
    Ingested t₀ (delivered ++ [d])
      (ingestions ++ [Ingestion.new d nextId scope read now publicationId hread]) (nextId + 5)
      ((t.withObservation (newObservation nextId scope d.connectorAccountId d.update read now)).withNormalized
        (nextId + 1) scope (newObservation nextId scope d.connectorAccountId d.update read now)
          publicationId) := by
  have hfresh : ∀ i ∈ ingestions, i.origin.key ≠ d.key := by
    intro i hi hkey
    refine hnew ⟨i.observation, h.observations ▸ List.mem_map_of_mem hi, ?_⟩
    rw [← i.key_eq, Delivered.key, ← readUpdate_identity hread] at hkey
    exact Prod.mk.inj hkey
  have hunseen : delivered.find? (fun d' => d'.key = d.key) = none := by
    rw [List.find?_eq_none]
    intro d' hd' hkey
    obtain ⟨i, hi, hsame⟩ := h.all d' hd'
    exact hfresh i hi (hsame.trans (of_decide_eq_true hkey))
  have hlt : ∀ n < 5, nextId + n < nextId + 5 := fun n hn => Nat.add_lt_add_left hn nextId
  constructor
  · exact h.normalized.insert scope rfl
  · rw [List.map_append, ← h.observations]
    rfl
  · rw [List.map_append, ← List.append_assoc, ← h.sources]
    rfl
  · rw [List.map_append, ← List.append_assoc, ← h.events]
    rfl
  · rw [List.map_append, ← List.append_assoc, ← h.evidence]
    rfl
  · rw [List.map_append, ← h.links]
    rfl
  · exact h.observationIds.concat le_rfl (hlt 0 (by decide))
  · exact h.sourceIds.concat (Nat.le_add_right nextId 1) (hlt 1 (by decide))
  · exact h.eventIds.concat (Nat.le_add_right nextId 2) (hlt 2 (by decide))
  · exact h.evidenceIds.concat (Nat.le_add_right nextId 3) (hlt 3 (by decide))
  · refine h.keys.append (Table.keysNodup_singleton _) ?_
    intro new hnew old hold
    rw [List.mem_singleton.mp hnew]
    exact hfresh old hold
  · intro i hi
    rw [List.find?_append]
    rcases List.mem_append.mp hi with hold | hnew
    · rw [h.first i hold]
      rfl
    · rw [List.mem_singleton.mp hnew]
      change (delivered.find? fun d' => d'.key = d.key).or ([d].find? fun d' => d'.key = d.key) =
        some d
      rw [hunseen]
      simp
  · intro d' hd'
    rcases List.mem_append.mp hd' with hold | hnew
    · obtain ⟨i, hi, hkey⟩ := h.all d' hold
      exact ⟨i, List.mem_append_left _ hi, hkey⟩
    · rw [List.mem_singleton.mp hnew]
      exact ⟨_, List.mem_append_right _ (List.mem_singleton_self _), rfl⟩

/-- Every update that was delivered has its five rows, once each, and the observation is that of the
first update with its key. -/
theorem once (h : Ingested t₀ delivered ingestions nextId t) {d : Delivered} (hd : d ∈ delivered) :
    IngestedOnce delivered t d := by
  obtain ⟨i, hi, hkey⟩ := h.all d hd
  obtain ⟨hobservation, hsource, hevent, hevidence⟩ := i.linked
  have hobservations : Table.KeysNodup
      (fun o : ConnectorObservation => (o.connectorAccountId, o.providerEventIdentity))
      t.connectorObservations := by
    have hkeys := h.keys
    rw [Table.KeysNodup, ← List.map_congr_left fun i _ => i.key_eq] at hkeys
    rw [Table.KeysNodup, h.observations, List.map_map]
    exact hkeys
  have hlinks : Table.KeysNodup NormalizedObservationLink.observationId
      t.normalizedObservationLinks := by
    have hids := h.observationIds.nodup
    rw [Table.KeysNodup, h.observations, List.map_map] at hids
    have hsame : ingestions.map (NormalizedObservationLink.observationId ∘ Ingestion.link) =
        ingestions.map (ConnectorObservation.id ∘ Ingestion.observation) :=
      List.map_congr_left fun i _ => i.linked.1
    rw [Table.KeysNodup, h.links, List.map_map, hsame]
    exact hids
  refine ⟨i, hkey ▸ h.first i hi, ?_, ?_, ?_, ?_, ?_⟩
  · rw [← hkey, ← i.key_eq]
    exact hobservations.filter_eq_singleton (h.observations ▸ List.mem_map_of_mem hi)
  · rw [← hobservation]
    exact hlinks.filter_eq_singleton (h.links ▸ List.mem_map_of_mem hi)
  · rw [hsource]
    exact h.sourceIds.nodup.filter_eq_singleton
      (h.sources ▸ List.mem_append_right _ (List.mem_map_of_mem hi))
  · rw [hevent]
    exact h.eventIds.nodup.filter_eq_singleton
      (h.events ▸ List.mem_append_right _ (List.mem_map_of_mem hi))
  · rw [hevidence]
    exact h.evidenceIds.nodup.filter_eq_singleton
      (h.evidence ▸ List.mem_append_right _ (List.mem_map_of_mem hi))

section Jobs

variable {db db' : AgentDatabase M AnalyticsTables} {scope : TenantScope} {now : Time}

/-- One update. -/
theorem ingest {d : Delivered} {publicationId : Option Id}
    (h : Ingested t₀ delivered ingestions db.nextId db.tables.domain)
    (hingesting : Ingesting scope d.connectorAccountId d.update now db publicationId db') :
    ∃ new, Ingested t₀ (delivered ++ [d]) (ingestions ++ new) db'.nextId db'.tables.domain := by
  rcases hingesting.cases_of_normalized h.normalized with
    ⟨rfl, account, read, existing, -, hread, hknown⟩ | ⟨account, read, hnew, hnext, -, hdomain⟩
  · refine ⟨[], ?_⟩
    rw [List.append_nil]
    exact h.again (readUpdate_identity hread ▸ hasObserved_of_observationOf hknown)
  · rw [hnext, hdomain]
    exact ⟨_, h.add d scope now publicationId hnew.readable
      (observationOf_eq_none_iff.mp hnew.unknown)⟩

theorem finishPoll (h : Ingested t₀ delivered ingestions db.nextId db.tables.domain)
    (context : RuntimeJobContext) (connectorAccountId : Id) (now : Time) (poll : Poll)
    (updates : List TelegramUpdate) :
    Ensures (finishPoll context connectorAccountId now poll updates) (fun _ db' =>
      ∃ sorted new, sortUpdates updates = .ok sorted ∧ Ingested t₀
        (delivered ++ sorted.map fun x => ⟨connectorAccountId, x.1, x.2⟩) (ingestions ++ new)
        db'.nextId db'.tables.domain) db := by
  have hf := domainRelation_frames (M := M) (T := AnalyticsTables) (r := Eq) now fun _ => true
  unfold LaunchOS.Analytics.finishPoll
  rw [ensures_bind, ensures_tables, ensures_bind, ensures_check]
  intro sorted hsorted
  rw [ensures_bind]
  refine Ensures.mono (Ensures.foldlM_prefix
    (I := fun done _ (db₁ : AgentDatabase M AnalyticsTables) => ∃ new, Ingested t₀
      (delivered ++ done.map fun x => ⟨connectorAccountId, x.1, x.2⟩) (ingestions ++ new)
      db₁.nextId db₁.tables.domain)
    (fun done x rest _ progress db₁ hdone => ?_) ⟨[], by simpa using h⟩) fun progress db₁ hdone => ?_
  · obtain ⟨new, hnew⟩ := hdone
    rw [ingestOne, ensures_bind]
    refine (ensures_ingestTelegramUpdate _ _ _ _ db₁).mono fun publicationId db₂ hingesting => ?_
    rw [ensures_pure]
    obtain ⟨more, hmore⟩ := hnew.ingest (d := ⟨connectorAccountId, x.1, x.2⟩) hingesting
    refine ⟨new ++ more, ?_⟩
    rw [List.map_append, ← List.append_assoc, ← List.append_assoc]
    exact hmore
  · obtain ⟨new, hnew⟩ := hdone
    rw [ensures_bind, ensures_modifyTables]
    refine Ensures.mono (hf.foldlM (fun _ id => hf.bind (framesWithin_createJob now _)
      fun _ => hf.pure _) () _) fun _ db₂ h₂ => ?_
    refine ⟨sorted, new, hsorted, ?_⟩
    have hrows := h₂.domain
    refine hnew.congr h₂.nextId ?_ ?_ ?_ ?_ ?_ <;> rw [← hrows]

end Jobs

end Ingested

/-! ## Cursors -/

/-- The highest of a set of ids, if there is one. -/
def Highest (ids : Set ℤ) : Option ℤ → Prop
  | none => ids = ∅
  | some id => IsGreatest ids id

theorem Highest.insert {ids : Set ℤ} {current : Option ℤ} (h : Highest ids current) (id : ℤ) :
    Highest (insert id ids) (maxUpdateId current id) := by
  cases current with
  | none =>
      rw [Highest] at h
      rw [h, maxUpdateId, Highest]
      simp
  | some highest =>
      rw [maxUpdateId, max_comm]
      exact IsGreatest.insert id h

theorem Highest.batch {ids : Set ℤ} {current : Option ℤ} (h : Highest ids current)
    (sorted : List (ℤ × TelegramUpdate)) :
    Highest (ids ∪ {id | ∃ x ∈ sorted, x.1 = id}) (batchMax current sorted) := by
  induction sorted using List.reverseRecOn with
  | nil =>
      have hids : ids ∪ {id | ∃ x ∈ ([] : List (ℤ × TelegramUpdate)), x.1 = id} = ids := by simp
      rw [hids]
      exact h
  | append_singleton sorted x ih =>
      have hids : ids ∪ {id | ∃ y ∈ sorted ++ [x], y.1 = id} =
          Insert.insert x.1 (ids ∪ {id | ∃ y ∈ sorted, y.1 = id}) := by
        ext id
        simp only [Set.mem_insert_iff, Set.mem_union, Set.mem_ofPred_eq, List.mem_append,
          List.mem_singleton]
        constructor
        · rintro (hold | ⟨y, hy | rfl, rfl⟩)
          · exact .inr (.inl hold)
          · exact .inr (.inr ⟨y, hy, rfl⟩)
          · exact .inl rfl
        · rintro (rfl | hold | ⟨y, hy, rfl⟩)
          · exact .inr ⟨x, .inr rfl, rfl⟩
          · exact .inl hold
          · exact .inr ⟨y, .inl hy, rfl⟩
      rw [batchMax_append, hids]
      exact ih.insert x.1

/-- More ids do not lower it. -/
theorem Highest.mono {ids ids' : Set ℤ} {current current' : Option ℤ} (h : Highest ids current)
    (h' : Highest ids' current') (hsubset : ids ⊆ ids') {id : ℤ} (hid : current = some id) :
    ∃ id', current' = some id' ∧ id ≤ id' := by
  subst hid
  cases current' with
  | none =>
      rw [Highest] at h'
      have hmem : id ∈ ids' := hsubset h.1
      rw [h'] at hmem
      cases hmem
  | some id' => exact ⟨id', rfl, h'.2 (hsubset h.1)⟩

/-- The ids that an account has been handed. -/
def deliveredIds (connectorAccountId : Id) (delivered : List Delivered) : Set ℤ :=
  {id | ∃ d ∈ delivered, d.connectorAccountId = connectorAccountId ∧ d.updateId = id}

/-- Every account has one state, and its cursor is the highest id it has been handed. -/
structure Cursors (delivered : List Delivered) (states : List ConnectorObservationState) : Prop where
  ids : Table.KeysNodup ConnectorObservationState.id states
  accounts : Table.KeysNodup ConnectorObservationState.connectorAccountId states
  highest : ∀ state ∈ states,
    Highest (deliveredIds state.connectorAccountId delivered) state.lastUpdateId

/-- The states are those of before, each with a cursor that has not gone back. -/
def KeepsCursors (states states' : List ConnectorObservationState) : Prop :=
  ∀ state ∈ states, ∃ state' ∈ states', state'.id = state.id ∧
    state'.connectorAccountId = state.connectorAccountId ∧
    ∀ last, state.lastUpdateId = some last → ∃ last', state'.lastUpdateId = some last' ∧ last ≤ last'

section Write

variable {states : List ConnectorObservationState} {delivered : List Delivered}
variable {sorted : List (ℤ × TelegramUpdate)}

/-- With its row as it was loaded, a poll writes the highest id of its batch. -/
theorem Poll.write_loaded (poll : Poll) (now : Time) (last : Option ℤ) :
    (poll.write now last poll.loaded).lastUpdateId = last := by
  rw [Poll.write]
  dsimp only
  split
  next => rfl
  next hsame => exact (not_not.mp hsame).symm

theorem deliveredIds_append (connectorAccountId accountId : Id) :
    deliveredIds connectorAccountId
        (delivered ++ sorted.map fun x => ⟨accountId, x.1, x.2⟩) =
      if accountId = connectorAccountId then
        deliveredIds connectorAccountId delivered ∪ {id | ∃ x ∈ sorted, x.1 = id}
      else deliveredIds connectorAccountId delivered := by
  ext id
  split
  next heq =>
    simp [deliveredIds, heq, or_and_right, exists_or]
  next hne => simp [deliveredIds, hne, or_and_right, exists_or]

theorem Cursors.write (h : Cursors delivered states) {poll : Poll} (hloaded : poll.loaded ∈ states)
    (now : Time) (sorted : List (ℤ × TelegramUpdate)) :
    Cursors (delivered ++ sorted.map fun x => ⟨poll.loaded.connectorAccountId, x.1, x.2⟩)
      (Table.modify ConnectorObservationState.id poll.loaded.id
        (poll.write now (batchMax poll.loaded.lastUpdateId sorted)) states) := by
  constructor
  · exact h.ids.modify fun _ _ hid => hid
  · rw [Table.modify]
    refine h.accounts.map fun state => ?_
    split <;> rfl
  · intro state hstate
    rw [deliveredIds_append]
    rcases Table.mem_modify_cases hstate with ⟨old, hold, hid, rfl⟩ | ⟨hold, hid⟩
    · obtain rfl := h.ids.eq_of_key_eq hold hloaded hid
      have haccount : (poll.write now (batchMax poll.loaded.lastUpdateId sorted)
          poll.loaded).connectorAccountId = poll.loaded.connectorAccountId := rfl
      rw [poll.write_loaded, haccount, if_pos rfl]
      exact (h.highest _ hold).batch sorted
    · have hne : poll.loaded.connectorAccountId ≠ state.connectorAccountId := fun heq =>
        hid (congrArg ConnectorObservationState.id (h.accounts.eq_of_key_eq hold hloaded heq.symm))
      rw [if_neg hne]
      exact h.highest state hold

/-- The states stay, with the accounts they are for. -/
def SameStates (states states' : List ConnectorObservationState) : Prop :=
  states'.map (fun state => (state.id, state.connectorAccountId)) =
    states.map fun state => (state.id, state.connectorAccountId)

theorem sameStates_write (states : List ConnectorObservationState) (id : Id) (poll : Poll)
    (now : Time) (last : Option ℤ) :
    SameStates states (Table.modify ConnectorObservationState.id id (poll.write now last) states) := by
  rw [SameStates, Table.modify, List.map_map]
  refine List.map_congr_left fun state _ => ?_
  simp only [Function.comp_apply]
  split <;> rfl

/-- So no cursor goes back as more is delivered. -/
theorem Cursors.keeps {states' : List ConnectorObservationState} {delivered' : List Delivered}
    (h : Cursors delivered states) (h' : Cursors delivered' states')
    (hsame : SameStates states states') (hsubset : delivered ⊆ delivered') :
    KeepsCursors states states' := by
  intro state hstate
  have hmem : (state.id, state.connectorAccountId) ∈
      states'.map fun state => (state.id, state.connectorAccountId) := by
    rw [hsame]
    exact List.mem_map_of_mem hstate
  obtain ⟨state', hstate', heq⟩ := List.mem_map.mp hmem
  obtain ⟨hid, haccount⟩ := Prod.mk.inj heq
  refine ⟨state', hstate', hid, haccount, fun last hlast => ?_⟩
  refine (h.highest state hstate).mono (h'.highest state' hstate') ?_ hlast
  rw [haccount]
  rintro id ⟨d, hd, hfor, hid⟩
  exact ⟨d, hsubset hd, hfor, hid⟩

end Write

/-! ## Runs -/

/-- The tables before any job: nothing has been observed, and no row is numbered ahead. -/
structure ObservationStart (nextId : Id) (t : AnalyticsTables) : Prop where
  observations : t.connectorObservations = []
  links : t.normalizedObservationLinks = []
  sources : Table.Issued SourceRecord.id nextId t.sourceRecords
  events : Table.Issued BusinessEvent.id nextId t.businessEvents
  evidence : Table.Issued Evidence.id nextId t.evidence
  states : Table.KeysNodup ConnectorObservationState.id t.connectorObservationStates
  accounts : Table.KeysNodup ConnectorObservationState.connectorAccountId
    t.connectorObservationStates
  unpolled : ∀ state ∈ t.connectorObservationStates, state.lastUpdateId = none

/-- What every sequence of jobs keeps. -/
structure ObservationLog.Exact (t₀ : AnalyticsTables) (log : ObservationLog M) : Prop where
  ingested : ∃ ingestions, Ingested t₀ log.delivered ingestions log.db.nextId log.db.tables.domain
  cursors : Cursors log.delivered log.db.tables.domain.connectorObservationStates

/-- What it does to what there was before. -/
structure ObservationLog.Extends (log log' : ObservationLog M) : Prop where
  delivered : log.delivered <+: log'.delivered
  observations : log.db.tables.domain.connectorObservations <+:
    log'.db.tables.domain.connectorObservations
  events : log.db.tables.domain.businessEvents <+: log'.db.tables.domain.businessEvents
  accounts : SameStates log.db.tables.domain.connectorObservationStates
    log'.db.tables.domain.connectorObservationStates

section Runs

variable {t₀ : AnalyticsTables} {log : ObservationLog M}

theorem ObservationStart.exact {db : AgentDatabase M AnalyticsTables}
    (h : ObservationStart db.nextId db.tables.domain) :
    ObservationLog.Exact db.tables.domain ⟨db, []⟩ := by
  refine ⟨⟨[], ?_⟩, h.states, h.accounts, fun state hstate => ?_⟩
  · constructor <;> simp [h.observations, h.links, h.sources, h.events, h.evidence,
      Table.issued_nil, Table.keysNodup_nil]
    constructor <;> simp [h.observations, h.links]
  · rw [h.unpolled state hstate]
    simp [Highest, deliveredIds]

theorem ObservationJob.batch_eq {job : ObservationJob} {sorted : List (ℤ × TelegramUpdate)}
    (h : sortUpdates job.updates = .ok sorted) :
    job.batch = sorted.map fun x => ⟨job.connectorAccountId, x.1, x.2⟩ := by
  rw [batch, h]
  rfl

/-- A job that commits. -/
theorem ensures_observationJob (h : log.Exact t₀) (job : ObservationJob) :
    Ensures job.run (fun _ db =>
      ObservationLog.Exact t₀ ⟨db, log.delivered ++ job.batch⟩ ∧
        log.Extends ⟨db, log.delivered ++ job.batch⟩) log.db := by
  obtain ⟨⟨ingestions, hingested⟩, hcursors⟩ := h
  rw [ObservationJob.run, ensures_bind, ensures_tables, ensures_bind, ensures_check]
  intro poll hpoll
  obtain ⟨hloaded, haccount, -⟩ := beginPoll_eq_ok hpoll
  refine ((hingested.finishPoll job.context job.connectorAccountId job.finishedAt poll
    job.updates).and (ensures_finishPoll job.context job.connectorAccountId job.finishedAt poll
      job.updates hingested.normalized)).mono ?_
  rintro _ db ⟨⟨sorted, new, hsorted, hdone⟩, sorted', hsorted', hbatch⟩
  obtain rfl : sorted = sorted' := Except.ok.inj (hsorted.symm.trans hsorted')
  have hwritten := hcursors.write hloaded job.finishedAt sorted
  rw [← hbatch.states, haccount, ← job.batch_eq hsorted] at hwritten
  rw [← job.batch_eq hsorted] at hdone
  refine ⟨⟨⟨_, hdone⟩, hwritten⟩, List.prefix_append _ _, ?_, ?_, ?_⟩
  · rw [hdone.observations, hingested.observations, List.map_append]
    exact List.prefix_append _ _
  · rw [hdone.events, hingested.events, List.map_append, ← List.append_assoc]
    exact List.prefix_append _ _
  · rw [hbatch.states]
    exact sameStates_write _ _ poll _ _

instance : IsPreorder (ObservationLog M) ObservationLog.Extends where
  refl _ := ⟨List.prefix_refl _, List.prefix_refl _, List.prefix_refl _, rfl⟩
  trans _ _ _ h h' := ⟨h.delivered.trans h'.delivered, h.observations.trans h'.observations,
    h.events.trans h'.events, Eq.trans h'.accounts h.accounts⟩

theorem exact_step (h : log.Exact t₀) (job : ObservationJob) :
    (log.step job).Exact t₀ ∧ log.Extends (log.step job) := by
  rw [ObservationLog.step]
  split
  next db hdb =>
    obtain ⟨_, hrun⟩ := exec_eq_ok_iff.mp hdb
    exact ensures_observationJob h job _ _ hrun
  next => exact ⟨h, refl _⟩

theorem exact_run (h : log.Exact t₀) (jobs : List ObservationJob) :
    (run ObservationLog.step log jobs).Exact t₀ ∧
      log.Extends (run ObservationLog.step log jobs) := by
  have hguarded : Guarded ObservationLog.step (fun _ _ => True) log jobs :=
    guarded_of_forall (fun _ _ => trivial) log jobs
  constructor
  · exact invariant_run_of_step _ (I := fun log : ObservationLog M => log.Exact t₀)
      (fun log job h => (exact_step h job).1) h jobs
  · exact relation_run (I := fun log : ObservationLog M => log.Exact t₀) (fun _ => refl _)
      (fun _ _ _ => trans_of ObservationLog.Extends) (fun log job h _ => (exact_step h job).1)
      (fun log job h _ => (exact_step h job).2) h hguarded

end Runs

/-! ## The handler -/

section Handler

variable {context : RuntimeJobContext} {connectorAccountId : Id} {startedAt finishedAt : Time}
variable {answer answer' : AnalyticsAnswer} {world world' : Provider}
variable {db db' : AgentDatabase M AnalyticsTables} {progress : TelegramProgress}

/-- The handler, with nothing between its two transactions, does what the job does. -/
theorem observationJob_of_handler {poll : Poll} {updates : List QueuedUpdate}
    (hstart : telegramObservationHandler context (.observeUpdates connectorAccountId) startedAt
      answer world db (.execution progress) = .next (.polling poll (.ok updates)) world') :
    telegramObservationHandler context (.observeUpdates connectorAccountId) finishedAt answer'
        world' db (.polling poll (.ok updates)) =
      .ofDomain (exec (ObservationJob.run
        { context := context
          connectorAccountId := connectorAccountId
          startedAt := startedAt
          finishedAt := finishedAt
          updates := updates.map QueuedUpdate.json }) db) := by
  have hpoll : beginPoll context connectorAccountId startedAt db.tables.domain = .ok poll := by
    simp only [telegramObservationHandler, observedAccount] at hstart
    split at hstart
    next found hfound =>
      obtain ⟨hprogress, -⟩ := Stage.next.inj hstart
      obtain ⟨rfl, -⟩ := AnalyticsProgress.polling.inj hprogress
      exact hfound
    next => cases hstart
  have hrun : ObservationJob.run
      { context := context
        connectorAccountId := connectorAccountId
        startedAt := startedAt
        finishedAt := finishedAt
        updates := updates.map QueuedUpdate.json } db =
      finishPoll context connectorAccountId finishedAt poll (updates.map QueuedUpdate.json) db := by
    change (DomainTxn.check (beginPoll context connectorAccountId startedAt db.tables.domain) >>=
      fun poll => finishPoll context connectorAccountId finishedAt poll
        (updates.map QueuedUpdate.json)) db = _
    rw [hpoll]
    rfl
  simp only [telegramObservationHandler, observedAccount, exec, hrun]

/-- An attempt whose handler raises leaves the database as it is. -/
theorem failed_attempt_keeps_database (D : Digest) (hashPayload : Derivation → String)
    {s : AnalyticsState M} {a : AttemptId} {answer : AnalyticsAnswer} {worker : Worker}
    {error : JobError}
    (h : ((analyticsApp D hashPayload).step (.proceed a answer) s).attempts a =
      some ⟨worker, .failing error⟩) :
    ((analyticsApp D hashPayload).step (.proceed a answer) s).db = s.db := by
  simp only [App.step] at h ⊢
  split at h
  next worker context payload progress ha =>
    cases hstage : (analyticsApp D hashPayload).handleJob context payload s.now answer progress
        s.world s.db with
    | next progress' world => rfl
    | commit db => simp [hstage, RuntimeState.proceedAttempt, RuntimeState.setAttempt] at h
    | raise error => rfl
  next => rfl

/-- The record of its failure is on the job, and on the run that the job was for. -/
theorem recordFailure_keeps_domain (D : Digest) (hashPayload : Derivation → String)
    (s : AnalyticsState M) (a : AttemptId) :
    ((analyticsApp D hashPayload).step (.recordFailure a) s).db.tables.domain =
      s.db.tables.domain := by
  suffices heffect : ∀ db world,
      (analyticsApp D hashPayload).Effect s (.recordFailure a) db world →
        db.tables.domain = s.db.tables.domain from
    heffect _ _ ((analyticsApp D hashPayload).effect (.recordFailure a) s)
  intro db world heffect
  cases heffect with
  | quiet hnext htables => rw [htables]
  | failed job error willRetry hnext htables =>
      rw [htables]
      simp only [analyticsApp]
      split
      · exact domain_recordAgentRunFailure job error willRetry s.now s.db.tables
      · rfl

end Handler

/-! ## Exactly once -/

/-- After every sequence of observation jobs: each update that was delivered has its rows once, with
what came first; the cursor of an account is the highest id delivered to it, and never goes back; a
job that raises changes nothing, in one piece or in the runtime. -/
theorem ingestion_exactly_once {db : AgentDatabase M AnalyticsTables}
    (hdb : ObservationStart db.nextId db.tables.domain) (jobs : List ObservationJob) :
    let log := run ObservationLog.step ⟨db, []⟩ jobs
    (∃ ingestions,
      Ingested db.tables.domain log.delivered ingestions log.db.nextId log.db.tables.domain) ∧
    (∀ d ∈ log.delivered, IngestedOnce log.delivered log.db.tables.domain d) ∧
    (∀ d ∈ log.delivered, ∀ d' ∈ log.delivered, d.WellFormed → d'.WellFormed →
      (d.key = d'.key ↔
        d.connectorAccountId = d'.connectorAccountId ∧ d.updateId = d'.updateId)) ∧
    (∀ state ∈ log.db.tables.domain.connectorObservationStates,
      Highest (deliveredIds state.connectorAccountId log.delivered) state.lastUpdateId) ∧
    (∀ more, KeepsCursors log.db.tables.domain.connectorObservationStates
      (run ObservationLog.step log more).db.tables.domain.connectorObservationStates) ∧
    (∀ job error, exec job.run log.db = .error error → log.step job = log) ∧
    ∀ (D : Digest) (hashPayload : Derivation → String) (s : AnalyticsState M) (a : AttemptId),
      (∀ answer worker error,
        ((analyticsApp D hashPayload).step (.proceed a answer) s).attempts a =
          some ⟨worker, .failing error⟩ →
        ((analyticsApp D hashPayload).step (.proceed a answer) s).db = s.db) ∧
      ((analyticsApp D hashPayload).step (.recordFailure a) s).db.tables.domain =
        s.db.tables.domain := by
  intro log
  have hlog : log.Exact db.tables.domain := (exact_run hdb.exact jobs).1
  obtain ⟨ingestions, hingested⟩ := hlog.ingested
  refine ⟨⟨ingestions, hingested⟩, fun d hd => hingested.once hd,
    fun d _ d' _ hd hd' => Delivered.key_eq_iff hd hd', hlog.cursors.highest, fun more => ?_,
    fun job error herror => ?_, fun D hashPayload s a => ⟨?_, ?_⟩⟩
  · obtain ⟨hmore, hextends⟩ := exact_run hlog more
    exact hlog.cursors.keeps hmore.cursors hextends.accounts hextends.delivered.subset
  · rw [ObservationLog.step, herror]
  · intro answer worker error
    exact failed_attempt_keeps_database D hashPayload
  · exact recordFailure_keeps_domain D hashPayload s a

/-! ### A reaction that is delivered twice -/

/-- The reaction, edited, and with another id after it. -/
def redelivered : List ObservationJob :=
  [{ context := observationContext
     connectorAccountId := 1
     startedAt := hour
     finishedAt := hour
     updates := [postReaction] },
   { context := observationContext
     connectorAccountId := 1
     startedAt := hour
     finishedAt := hour
     updates := [("update_id", .int 6) :: postReaction, ("edited", .bool true) :: postReaction] }]

theorem redelivered_once :
    let db := (run (analyticsApp plainDigest plainHash).step analyticsStart publishedExperiment).db
    let log := run ObservationLog.step ⟨db, []⟩ redelivered
    log.delivered.length = 3 ∧ log.db.tables.domain.connectorObservations.length = 2 ∧
      ∀ d ∈ log.delivered, IngestedOnce log.delivered log.db.tables.domain d := by
  refine ⟨by decide +kernel, by decide +kernel, (ingestion_exactly_once ?_ redelivered).2.1⟩
  constructor
  case states | accounts =>
    rw [Table.KeysNodup]
    decide +kernel
  case sources | events | evidence =>
    exact ⟨by rw [Table.KeysNodup]; decide +kernel, by decide +kernel⟩
  all_goals decide +kernel

end LaunchOS.Analytics
