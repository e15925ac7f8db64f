import Mathlib.Algebra.Order.Floor.Ring
import Mathlib.Data.Rat.Floor
import LaunchOS.Analytics.MetricHistory
import LaunchOS.Analytics.Observations

/-!
# The times of events

The provider reports when something has happened in whole seconds; the time of a publication is read
off a clock of microseconds. A metric compares the two.

The module introduces:

* `reportedDate`: the whole second that an update reports;
* `EventsTimed`: every event that was normalized has the time that its update reports;
* `eventsTimed_run`: this holds in every state of every run;
* `ReactionWindow`, `ReportedReaction`: the window of a publication, and a reaction at a real time;
* `truncated_in_window_iff`: when the truncated time is in a window that holds the real one;
* `reaction_counted_iff`: when a calculation counts a reaction that is in its window.
-/

namespace LaunchOS.Analytics

open Txn Transition

variable {M : Type}

/-! ## What an update reports -/

/-- The `date` of the body of an update, in seconds. -/
def reportedDate (update : TelegramUpdate) (eventType : String) : Option ℤ :=
  (((update.lookup eventType).bind Json.asDict).bind (List.lookup "date")).bind Json.asInt

theorem fromTimestamp_eq_ok {date : ℤ} {time : Time} (h : fromTimestamp date = .ok time) :
    time = date * 1000000 := by
  unfold fromTimestamp at h
  obtain ⟨_, -, h⟩ := Except.bind_eq_ok_iff.mp h
  cases h
  rfl

theorem telegramEventIdentity_time {update : TelegramUpdate} {eventType : String}
    {identity : EventIdentity} (h : telegramEventIdentity update eventType = .ok identity) :
    ∃ date, reportedDate update eventType = some date ∧ identity.eventTime = date * 1000000 := by
  unfold telegramEventIdentity at h
  obtain ⟨body, hbody, h⟩ := Except.bind_eq_ok_iff.mp h
  obtain ⟨date, hdate, h⟩ := Except.bind_eq_ok_iff.mp h
  obtain ⟨time, htime, h⟩ := Except.bind_eq_ok_iff.mp h
  cases h
  refine ⟨date, ?_, fromTimestamp_eq_ok htime⟩
  rw [reportedDate, orRaise_eq_ok_iff.mp hbody]
  exact orRaise_eq_ok_iff.mp hdate

theorem readUpdate_time {update : TelegramUpdate} {read : String × String × EventIdentity}
    (h : readUpdate update = .ok read) :
    ∃ date, reportedDate update read.2.1 = some date ∧ read.2.2.eventTime = date * 1000000 := by
  unfold readUpdate at h
  obtain ⟨_, -, h⟩ := Except.bind_eq_ok_iff.mp h
  obtain ⟨eventType, -, h⟩ := Except.bind_eq_ok_iff.mp h
  obtain ⟨identity, hidentity, h⟩ := Except.bind_eq_ok_iff.mp h
  cases h
  exact telegramEventIdentity_time hidentity

/-! ## The invariant -/

/-- Every observation has the time that its update reports, and every link the event of its
observation. -/
structure EventsTimed (nextId : Id) (t : AnalyticsTables) : Prop where
  observations : Table.Issued ConnectorObservation.id nextId t.connectorObservations
  timed : ∀ observation ∈ t.connectorObservations,
    ∃ date, reportedDate observation.rawPayload observation.providerEventType = some date ∧
      observation.eventTime = date * 1000000
  normalized : ∀ link ∈ t.normalizedObservationLinks,
    ∃ observation ∈ t.connectorObservations, observation.id = link.observationId ∧
      eventOf link.businessEventId link.scope observation link.publicationId ∈ t.businessEvents

namespace EventsTimed

variable {nextId nextId' : Id} {t t' : AnalyticsTables}

theorem sameLinks (h : EventsTimed nextId t) (hnext : nextId ≤ nextId') (hsame : SameLinks t t') :
    EventsTimed nextId' t' where
  observations := by
    rw [hsame.observations]
    exact h.observations.mono hnext
  timed := by
    rw [hsame.observations]
    exact h.timed
  normalized := by
    rw [hsame.observations, hsame.normalized]
    intro link hlink
    obtain ⟨observation, hobservation, hid, hevent⟩ := h.normalized link hlink
    exact ⟨observation, hobservation, hid, hsame.events hevent⟩

/-- A new observation of an update. -/
theorem withObservation (h : EventsTimed nextId t) (scope : TenantScope) (accountId : Id)
    {update : TelegramUpdate} {read : String × String × EventIdentity}
    (hread : readUpdate update = .ok read) (ingestedAt : Time) :
    EventsTimed (nextId + 1)
      (t.withObservation (newObservation nextId scope accountId update read ingestedAt)) where
  observations := h.observations.concat le_rfl (Nat.lt_succ_self _)
  timed observation hmem := by
    rcases List.mem_append.mp hmem with hold | hnew
    · exact h.timed observation hold
    · rw [List.mem_singleton.mp hnew]
      exact readUpdate_time hread
  normalized link hlink := by
    obtain ⟨observation, hobservation, hid, hevent⟩ := h.normalized link hlink
    exact ⟨observation, List.mem_append_left _ hobservation, hid, hevent⟩

/-- What an observation is normalized to. -/
theorem withNormalized (h : EventsTimed nextId t) (hnext : nextId ≤ nextId') (id : Id)
    (scope : TenantScope) {observation : ConnectorObservation}
    (hmem : observation ∈ t.connectorObservations) (publicationId : Option Id) :
    EventsTimed nextId' (t.withNormalized id scope observation publicationId) where
  observations := h.observations.mono hnext
  timed := h.timed
  normalized link hlink := by
    rcases List.mem_append.mp hlink with hold | hnew
    · obtain ⟨other, hother, hid, hevent⟩ := h.normalized link hold
      exact ⟨other, hother, hid, List.mem_append_left _ hevent⟩
    · rw [List.mem_singleton.mp hnew]
      exact ⟨observation, hmem, rfl, List.mem_append_right _ (List.mem_singleton_self _)⟩

/-- The event of an observation has the time that its update reports. -/
theorem event (h : EventsTimed nextId t) {observation : ConnectorObservation}
    {link : NormalizedObservationLink} (hobservation : observation ∈ t.connectorObservations)
    (hlink : link ∈ t.normalizedObservationLinks) (hid : link.observationId = observation.id) :
    eventOf link.businessEventId link.scope observation link.publicationId ∈ t.businessEvents := by
  obtain ⟨other, hother, hother', hevent⟩ := h.normalized link hlink
  obtain rfl : other = observation :=
    h.observations.nodup.eq_of_key_eq hother hobservation (hother'.trans hid)
  exact hevent

end EventsTimed

section Transactions

variable {now : Time} {db db' : AgentDatabase M AnalyticsTables} {scope : TenantScope}
variable {publicationId : Option Id}

theorem Normalizing.eventsTimed {observation : ConnectorObservation}
    (h : Normalizing scope observation db publicationId db')
    (hinv : EventsTimed db.nextId db.tables.domain)
    (hmem : observation ∈ db.tables.domain.connectorObservations) :
    EventsTimed db'.nextId db'.tables.domain := by
  cases h with
  | done existing hlink => exact hinv
  | fresh hlink hsource hnext hdomain =>
      rw [hdomain]
      exact hinv.withNormalized (hnext ▸ Nat.le_add_right _ _) _ scope hmem _

theorem Ingesting.eventsTimed {accountId : Id} {update : TelegramUpdate}
    (h : Ingesting scope accountId update now db publicationId db')
    (hinv : EventsTimed db.nextId db.tables.domain) : EventsTimed db'.nextId db'.tables.domain := by
  cases h with
  | known account read existing haccount hread hknown hnormalizing =>
      exact hnormalizing.eventsTimed hinv (List.mem_of_find?_eq_some hknown)
  | fresh account read db₁ haccount hread hknown hnext hdomain hnormalizing =>
      refine hnormalizing.eventsTimed ?_ ?_
      · rw [hnext, hdomain]
        exact hinv.withObservation scope accountId hread now
      · rw [hdomain]
        exact List.mem_append_right _ (List.mem_singleton_self _)

end Transactions

theorem eventsTimed_step {D : Digest} {hashPayload : Derivation → String}
    {action : AnalyticsAction} {s : AnalyticsState M}
    (h : EventsTimed s.db.nextId s.db.tables.domain) :
    EventsTimed ((analyticsApp D hashPayload).step action s).db.nextId
      ((analyticsApp D hashPayload).step action s).db.tables.domain := by
  cases analytics_step D hashPayload action s with
  | quiet hframes hingests => exact h.sameLinks hframes.nextId hframes.domain.sameLinks
  | ran transaction db hfrom hrun hframes hingests =>
      have hdb : EventsTimed db.nextId db.tables.domain :=
        AnalyticsTransaction.preserves (I := fun db => EventsTimed db.nextId db.tables.domain)
          (fun h hsame => h.sameLinks hsame.nextId hsame.domain)
          (fun h hingesting => hingesting.eventsTimed h)
          (fun h hmem hnormalizing => hnormalizing.eventsTimed h hmem) h transaction hrun
      rw [← hframes.domain]
      exact hdb.sameLinks hframes.nextId (refl _)

theorem eventsTimed_run (D : Digest) (hashPayload : Derivation → String) {s : AnalyticsState M}
    (hs : AnalyticsInitial s) (actions : List AnalyticsAction) :
    EventsTimed (run (analyticsApp D hashPayload).step s actions).db.nextId
      (run (analyticsApp D hashPayload).step s actions).db.tables.domain := by
  refine invariant_run_of_step _
    (I := fun s : AnalyticsState M => EventsTimed s.db.nextId s.db.tables.domain)
    (fun s action h => eventsTimed_step h) ?_ actions
  constructor <;> simp [hs.observations, hs.normalized, Table.issued_nil]

/-! ## Two clocks -/

section Clocks

variable {K : Type} [Field K] [LinearOrder K] [IsStrictOrderedRing K] [FloorRing K]

/-- The whole second of a time in microseconds. -/
def wholeSecond (time : K) : ℤ := ⌊time / 1000000⌋

theorem wholeSecond_le (time : K) : ((wholeSecond time * 1000000 : ℤ) : K) ≤ time := by
  have hfloor : ((wholeSecond time : ℤ) : K) ≤ time / 1000000 := Int.floor_le _
  rw [le_div_iff₀ (by norm_num)] at hfloor
  push_cast
  exact hfloor

theorem le_wholeSecond {second : ℤ} {time : K} (h : ((second * 1000000 : ℤ) : K) ≤ time) :
    second ≤ wholeSecond time := by
  rw [wholeSecond, Int.le_floor, le_div_iff₀ (by norm_num)]
  push_cast at h
  exact h

/-- Truncating a time of a window to whole seconds keeps it in the window, unless it is truncated to
before the start. -/
theorem truncated_in_window_iff {start stop : Time} {time : K} (hstart : (start : K) ≤ time)
    (hstop : time ≤ (stop : K)) :
    (start ≤ wholeSecond time * 1000000 ∧ wholeSecond time * 1000000 ≤ stop) ↔
      1000000 ∣ start ∨ start / 1000000 < wholeSecond time := by
  have hend : wholeSecond time * 1000000 ≤ stop :=
    Int.cast_le.mp ((wholeSecond_le time).trans hstop)
  -- the second of the start is no later than that of the time
  have hsecond : start / 1000000 ≤ wholeSecond time := by
    refine le_wholeSecond (le_trans ?_ hstart)
    exact Int.cast_le.mpr (Int.ediv_mul_le start (by decide))
  simp only [Time] at *
  omega

/-! ## Reactions -/

/-- The window of a publication that its checkpoint sets. -/
structure ReactionWindow (publicationId : Id) (publishedAt stop : Time) (t : ExecutionTables) :
    Prop where
  published : ∃ publication, Table.find Publication.id publicationId t.publications =
    some publication ∧ publication.publishedAt = some publishedAt
  checkpoint : ∃ checkpoint external, checkpointContextForPublication publicationId t =
    .ok (checkpoint, external) ∧ stop = publishedAt + seconds checkpoint.windowSeconds

/-- A reaction at a time, which an update reports in whole seconds, and which is attributed to a
publication; `link` names its event. -/
structure ReportedReaction (scope : TenantScope) (publicationId : Id) (time : K)
    (link : NormalizedObservationLink) (t : AnalyticsTables) : Prop where
  linked : link ∈ t.normalizedObservationLinks
  scope : link.scope = scope
  publication : link.publicationId = some publicationId
  observation : ∃ observation ∈ t.connectorObservations, link.observationId = observation.id ∧
    "telegram." ++ observation.providerEventType ∈ reactionEventTypes ∧
    reportedDate observation.rawPayload observation.providerEventType = some (wholeSecond time)

omit [IsStrictOrderedRing K] in
/-- The event of a reported reaction. -/
theorem ReportedReaction.event {nextId : Id} {t : AnalyticsTables} {scope : TenantScope}
    {publicationId : Id} {time : K} {link : NormalizedObservationLink}
    (h : ReportedReaction scope publicationId time link t) (hinv : EventsTimed nextId t) :
    ∃ event ∈ t.businessEvents, event.id = link.businessEventId ∧ event.scope = scope ∧
      event.eventType ∈ reactionEventTypes ∧ event.publicationId = some publicationId ∧
      event.occurredAt = wholeSecond time * 1000000 := by
  obtain ⟨observation, hobservation, hid, htype, hreported⟩ := h.observation
  obtain ⟨date, hdate, htime⟩ := hinv.timed observation hobservation
  obtain rfl : wholeSecond time = date := Option.some.inj (hreported.symm.trans hdate)
  exact ⟨_, hinv.event hobservation h.linked hid, rfl, h.scope, htype, h.publication, htime⟩

theorem MetricVersion.Counts.mem_iff {metric : MetricVersion} {scope : TenantScope}
    {publicationId : Id} {start stop : Time} {t : AnalyticsTables}
    (h : metric.Counts scope publicationId start stop t)
    (hids : Table.KeysNodup BusinessEvent.id t.businessEvents) {event : BusinessEvent}
    (hevent : event ∈ t.businessEvents) :
    event.id ∈ metric.includedBusinessEventIds ↔
      event.ReactionTo scope publicationId start stop := by
  obtain ⟨-, -, events, hincluded, -, -, hmem⟩ := h
  rw [hincluded, List.mem_map]
  constructor
  · rintro ⟨other, hother, hid⟩
    obtain ⟨hstored, hreaction⟩ := (hmem other).mp hother
    rwa [hids.eq_of_key_eq hstored hevent hid] at hreaction
  · exact fun hreaction => ⟨event, (hmem event).mpr ⟨hevent, hreaction⟩, rfl⟩

/-- In every run, a calculation counts a reaction that has happened in the window of its publication
if and only if the publication is of a whole second, or the reaction of a later second. -/
theorem reaction_counted_iff (D : Digest) {hashPayload : Derivation → String}
    {s₀ : AnalyticsState M} (hs₀ : AnalyticsInitial s₀) (actions : List AnalyticsAction)
    {now : Time} {scope : TenantScope} {publicationId : Id} {metric : MetricVersion} {created : Bool}
    {db : AgentDatabase M AnalyticsTables} {publishedAt stop : Time} {time : K}
    {link : NormalizedObservationLink} :
    let s := run (analyticsApp D hashPayload).step s₀ actions
    let t := s.db.tables.domain
    calculateMetricVersion hashPayload now scope publicationId s.db = .ok ((metric, created), db) →
    created = true ∨ Function.Injective hashPayload →
    ReactionWindow publicationId publishedAt stop t.toExecutionTables →
    ReportedReaction scope publicationId time link t →
    (publishedAt : K) ≤ time → time ≤ (stop : K) →
    (link.businessEventId ∈ metric.includedBusinessEventIds ↔
      1000000 ∣ publishedAt ∨ publishedAt / 1000000 < wholeSecond time) := by
  intro s t hrun hhash hwindow hreported hstart hstop
  have hhistory := metricHistory_run D (hs₀.metricHistory hashPayload) actions
  obtain ⟨event, hevent, hid, hscope, htype, hpublication, htime⟩ :=
    hreported.event (eventsTimed_run D hashPayload hs₀ actions)
  have hcalculated := ensures_calculated hashPayload now scope publicationId s.db _ _ hrun
  obtain ⟨publication, published, checkpoint, external, hfind, hpublished, hcontext, hcounts⟩ :=
    hcalculated.counts hhistory hhash
  -- what the calculation has read is the window
  obtain ⟨⟨publication', hfind', hpublished'⟩, checkpoint', external', hcontext', rfl⟩ := hwindow
  obtain rfl := Option.some.inj (hfind.symm.trans hfind')
  obtain rfl := Option.some.inj (hpublished.symm.trans hpublished')
  obtain ⟨rfl, -⟩ := Prod.mk.inj (Except.ok.inj (hcontext.symm.trans hcontext'))
  rw [← hid, hcounts.mem_iff hhistory.events.nodup hevent, ← truncated_in_window_iff hstart hstop]
  constructor
  · intro hreaction
    exact ⟨htime ▸ hreaction.after, htime ▸ hreaction.before⟩
  · rintro ⟨hafter, hbefore⟩
    exact ⟨hscope, htype, htime ▸ hafter, htime ▸ hbefore, hpublication⟩

end Clocks

/-! ### A reaction within the second of the publication -/

/-- The post is published after so many microseconds, and the provider reports a reaction of second
3600. -/
def reactedAfter (duration : ℕ) : List AnalyticsAction :=
  publishedExperiment.take 5 ++ .tick duration :: publishedExperiment.drop 6 ++
    [.command (.ingestTelegramUpdate demoScope 1 postReaction)]

/-- The state then. -/
def reactedState (duration : ℕ) : AnalyticsState Unit :=
  run (analyticsApp plainDigest plainHash).step analyticsStart (reactedAfter duration)

/-- The link of the reaction to its event. -/
def reactionLink : NormalizedObservationLink where
  id := 23
  scope := demoScope
  observationId := 19
  sourceRecordId := 20
  businessEventId := 21
  evidenceId := 22
  publicationId := some 15

theorem ReactionWindow.of_reads {publicationId : Id} {publishedAt stop : Time} {t : ExecutionTables}
    (hpublished : (Table.find Publication.id publicationId t.publications).bind
      Publication.publishedAt = some publishedAt)
    (hcheckpoint : (checkpointContextForPublication publicationId t).map
      (fun context => publishedAt + seconds context.1.windowSeconds) = .ok stop) :
    ReactionWindow publicationId publishedAt stop t where
  published := Option.bind_eq_some_iff.mp hpublished
  checkpoint := by
    obtain ⟨⟨checkpoint, external⟩, hcontext, hstop⟩ := Except.map_eq_ok_iff.mp hcheckpoint
    exact ⟨checkpoint, external, hcontext, hstop.symm⟩

/-- The reaction has happened 0.7 seconds into second 3600. -/
theorem wholeSecond_reaction : wholeSecond (3600700000 : ℚ) = 3600 := by
  rw [wholeSecond, Int.floor_eq_iff]
  norm_num

/-- The post is published half a second into second 3600, and the reaction is lost. -/
theorem reaction_lost :
    let s := reactedState (hour + 500000)
    ReactionWindow 15 3600500000 7200500000 s.db.tables.domain.toExecutionTables ∧
      ReportedReaction demoScope 15 (3600700000 : ℚ) reactionLink s.db.tables.domain ∧
      (((3600500000 : ℤ) : ℚ) ≤ 3600700000 ∧ 3600700000 ≤ ((7200500000 : ℤ) : ℚ)) ∧
      ∃ metric db, calculateMetricVersion plainHash (3 * hour) demoScope 15 s.db =
          .ok ((metric, true), db) ∧
        reactionLink.businessEventId ∉ metric.includedBusinessEventIds := by
  refine ⟨.of_reads (by decide +kernel) (by decide +kernel),
    ⟨by decide +kernel, rfl, rfl, ?_⟩, by norm_num, ?_⟩
  · rw [wholeSecond_reaction]
    decide +kernel
  · have hreturned : (calculateMetricVersion plainHash (3 * hour) demoScope 15
        (reactedState (hour + 500000)).db).map (fun result =>
          (result.1.1.includedBusinessEventIds, result.1.2)) = .ok ([], true) := by
      decide +kernel
    obtain ⟨⟨⟨metric, created⟩, db⟩, hresult, heq⟩ := Except.map_eq_ok_iff.mp hreturned
    obtain ⟨hincluded, rfl⟩ := Prod.mk.inj heq
    exact ⟨metric, db, hresult, by rw [hincluded]; exact List.not_mem_nil⟩

/-- With the post published on the second, it is counted. -/
theorem reaction_kept :
    ∃ metric db, calculateMetricVersion plainHash (3 * hour) demoScope 15 (reactedState hour).db =
        .ok ((metric, true), db) ∧
      reactionLink.businessEventId ∈ metric.includedBusinessEventIds := by
  have hreturned : (calculateMetricVersion plainHash (3 * hour) demoScope 15
      (reactedState hour).db).map (fun result => result.1.2) = .ok true := by
    decide +kernel
  obtain ⟨⟨⟨metric, created⟩, db⟩, hresult, hcreated⟩ := Except.map_eq_ok_iff.mp hreturned
  obtain rfl : created = true := hcreated
  have hwindow : ReactionWindow 15 3600000000 7200000000
      (reactedState hour).db.tables.domain.toExecutionTables :=
    .of_reads (by decide +kernel) (by decide +kernel)
  have hreported : ReportedReaction demoScope 15 (3600700000 : ℚ) reactionLink
      (reactedState hour).db.tables.domain := by
    refine ⟨by decide +kernel, rfl, rfl, ?_⟩
    rw [wholeSecond_reaction]
    decide +kernel
  exact ⟨metric, db, hresult, (reaction_counted_iff plainDigest analyticsStart_initial
    (reactedAfter hour) hresult (.inl rfl) hwindow hreported (by norm_num) (by norm_num)).mpr
      (.inl (by decide))⟩

end LaunchOS.Analytics
