import LaunchOS.Analytics.Steps
import Mathlib.Data.List.Chain

/-!
# Coverage

The provider keeps updates for a limited time only, so an account is observed without loss as long as
no two successive polls are too far apart. The tables keep the last successful ingest and a flag; the
whole history is in the record of the polls.

The module introduces:

* `coveragePoints`, `CoveredWindow`: which points cover a window;
* `Poll.Timely`: a poll does not come too late for the row it was made with;
* `Coverage`: the invariant that ties rows, polls under way and metrics to the record;
* `available_metric_covered`: what a metric that is `AVAILABLE` tells about the history;
* a run whose first poll comes two days after the observation was configured.
-/

namespace LaunchOS.Analytics

open Txn Transition

variable {M : Type}

/-! ## Windows and points -/

/-- When the coverage of an account starts, and its polls. -/
def coveragePoints (coverageStartedAt : Time) (ingests : List Ingest) : List Time :=
  coverageStartedAt :: ingests.map Ingest.time

/-- The points cover a window: one of them is not after `start`, an ingest is not before `stop`, and
from the one to the other no two consecutive points are further apart than the retention gap. -/
structure CoveredWindow (points : List Time) (start stop : Time) : Prop where
  before : ∃ point ∈ points, point ≤ start
  after : ∃ point ∈ points.tail, stop ≤ point
  close : points.IsChain fun a b => start < b → a < stop → b - a ≤ telegramRetentionGap

/-- Points that are close everywhere. -/
def Close (points : List Time) : Prop :=
  points.IsChain fun a b => b - a ≤ telegramRetentionGap

section Points

variable {points : List Time} {start stop point : Time}

theorem Close.covered (h : Close points) (hbefore : ∃ point ∈ points, point ≤ start)
    (hafter : ∃ point ∈ points.tail, stop ≤ point) : CoveredWindow points start stop :=
  ⟨hbefore, hafter, h.imp fun _ _ hclose _ _ => hclose⟩

/-- The last of a sorted list is above all. -/
theorem le_getLast? (hsorted : points.Pairwise (· ≤ ·)) {last : Time}
    (hlast : points.getLast? = some last) : ∀ p ∈ points, p ≤ last := by
  intro p hp
  obtain ⟨init, rfl⟩ := List.getLast?_eq_some_iff.mp hlast
  rcases List.mem_append.mp hp with hinit | hp
  · exact (List.pairwise_append.mp hsorted).2.2 p hinit last (List.mem_singleton_self last)
  · exact (List.mem_singleton.mp hp).le

/-- A point at the end does not uncover a window. -/
theorem CoveredWindow.append (h : CoveredWindow points start stop)
    (hsorted : points.Pairwise (· ≤ ·)) : CoveredWindow (points ++ [point]) start stop := by
  obtain ⟨first, hfirst, hstart⟩ := h.before
  obtain ⟨ingest, hingest, hstop⟩ := h.after
  have htail : (points ++ [point]).tail = points.tail ++ [point] :=
    List.tail_append_of_ne_nil (List.ne_nil_of_mem hfirst)
  refine ⟨⟨first, List.mem_append_left _ hfirst, hstart⟩, ⟨ingest, ?_, hstop⟩, ?_⟩
  · rw [htail]
    exact List.mem_append_left _ hingest
  · refine List.isChain_append.mpr ⟨h.close, List.isChain_singleton _, fun last hlast p hp => ?_⟩
    -- the last point is already past the end of the window
    have hle : ingest ≤ last := le_getLast? hsorted hlast ingest (List.mem_of_mem_tail hingest)
    exact fun _ hlt => absurd (hstop.trans hle) (not_le.mpr hlt)

theorem Close.append (h : Close points)
    (hpoint : ∀ last, points.getLast? = some last → point - last ≤ telegramRetentionGap) :
    Close (points ++ [point]) := by
  refine List.isChain_append.mpr ⟨h, List.isChain_singleton _, fun last hlast p hp => ?_⟩
  rw [List.head?_singleton, Option.mem_some_iff] at hp
  rw [← hp]
  exact hpoint last hlast

theorem coveragePoints_append (coverageStartedAt : Time) (ingests : List Ingest) (ingest : Ingest) :
    coveragePoints coverageStartedAt (ingests ++ [ingest]) =
      coveragePoints coverageStartedAt ingests ++ [ingest.time] := by
  simp [coveragePoints]

theorem getLast?_coveragePoints (coverageStartedAt : Time) (ingests : List Ingest) :
    (coveragePoints coverageStartedAt ingests).getLast? =
      some ((ingests.getLast?.map Ingest.time).getD coverageStartedAt) := by
  rw [coveragePoints, List.getLast?_cons, List.getLast?_map]

end Points

/-! ## One row -/

/-- The row of an observation state and the record of its polls. -/
structure StateCovered (now : Time) (state : ConnectorObservationState) (ingests : List Ingest) :
    Prop where
  last : state.lastSuccessfulIngestAt = ingests.getLast?.map Ingest.time
  sorted : (coveragePoints state.coverageStartedAt ingests).Pairwise (· ≤ ·)
  le_now : ∀ point ∈ coveragePoints state.coverageStartedAt ingests, point ≤ now
  close : state.gapDetected = false → Close (coveragePoints state.coverageStartedAt ingests)

/-- A poll that is under way was made with an earlier state of the row. -/
structure Poll.MadeWith (poll : Poll) (connectorAccountId : Id)
    (state : ConnectorObservationState) : Prop where
  id : state.id = poll.loaded.id
  account : state.connectorAccountId = connectorAccountId
  started : state.coverageStartedAt = poll.loaded.coverageStartedAt
  last : ∀ last, poll.loaded.lastSuccessfulIngestAt = some last →
    ∃ last', state.lastSuccessfulIngestAt = some last' ∧ last ≤ last'

/-- A poll that commits now comes in time: the first one after the start of the coverage, and every
other one after the last ingest that it knows of, unless it reports the gap. -/
def Poll.Timely (poll : Poll) (now : Time) : Prop :=
  match poll.loaded.lastSuccessfulIngestAt with
  | none => now - poll.loaded.coverageStartedAt ≤ telegramRetentionGap
  | some last => poll.gapDetected = true ∨ now - last ≤ telegramRetentionGap

instance (poll : Poll) (now : Time) : Decidable (poll.Timely now) := by
  unfold Poll.Timely
  split <;> infer_instance

namespace StateCovered

variable {now now' : Time} {state : ConnectorObservationState} {ingests : List Ingest}

theorem mono (h : StateCovered now state ingests) (hnow : now ≤ now') :
    StateCovered now' state ingests :=
  { h with le_now := fun point hpoint => (h.le_now point hpoint).trans hnow }

/-- The last point is the last ingest, or the start of the coverage. -/
theorem getLast? (h : StateCovered now state ingests) :
    (coveragePoints state.coverageStartedAt ingests).getLast? =
      some (state.lastSuccessfulIngestAt.getD state.coverageStartedAt) := by
  rw [getLast?_coveragePoints, h.last]

/-- A timely poll leaves no gap that is not flagged. -/
theorem ingest (h : StateCovered now state ingests) {poll : Poll} {connectorAccountId : Id}
    (hpoll : poll.MadeWith connectorAccountId state) (htimely : poll.Timely now)
    (lastUpdateId : Option ℤ) :
    StateCovered now (poll.write now lastUpdateId state) (ingests ++ [⟨now, poll⟩]) := by
  have hpoints : coveragePoints (poll.write now lastUpdateId state).coverageStartedAt
      (ingests ++ [⟨now, poll⟩]) = coveragePoints state.coverageStartedAt ingests ++ [now] :=
    coveragePoints_append state.coverageStartedAt ingests ⟨now, poll⟩
  constructor
  · simp [Poll.write]
  · rw [hpoints, List.pairwise_append]
    refine ⟨h.sorted, List.pairwise_singleton _ _, fun point hpoint last hlast => ?_⟩
    rw [List.mem_singleton.mp hlast]
    exact h.le_now point hpoint
  · rw [hpoints]
    intro point hpoint
    rcases List.mem_append.mp hpoint with hold | hnew
    · exact h.le_now point hold
    · exact (List.mem_singleton.mp hnew).le
  · rw [hpoints]
    intro hgap
    obtain ⟨hpollGap, hstateGap⟩ : poll.gapDetected = false ∧ state.gapDetected = false := by
      simpa [Poll.write] using hgap
    refine (h.close hstateGap).append fun last hlast => ?_
    rw [h.getLast?, Option.some.injEq] at hlast
    cases hloaded : poll.loaded.lastSuccessfulIngestAt with
    | none =>
        -- the first poll: no point is before the start of the coverage
        rw [Poll.Timely, hloaded] at htimely
        have hstarted : state.coverageStartedAt ≤ last := by
          rw [← hlast]
          exact le_getLast? h.sorted h.getLast? _ List.mem_cons_self
        rw [← hpoll.started] at htimely
        exact (Int.sub_le_sub_left hstarted now).trans htimely
    | some read =>
        rw [Poll.Timely, hloaded] at htimely
        obtain ⟨last', hlast', hle⟩ := hpoll.last read hloaded
        rw [hlast', Option.getD_some] at hlast
        rcases htimely with hflag | hclose
        · rw [hpollGap] at hflag
          cases hflag
        · exact (Int.sub_le_sub_left (hlast ▸ hle) now).trans hclose

end StateCovered

/-! ## All rows -/

/-- The rows of the observation states and the record of all polls. -/
structure RowsCovered (nextId : Id) (now : Time) (states : List ConnectorObservationState)
    (ingests : Id → List Ingest) : Prop where
  ids : Table.KeysNodup ConnectorObservationState.id states
  accounts : Table.KeysNodup ConnectorObservationState.connectorAccountId states
  id_lt : ∀ state ∈ states, state.id < nextId
  covered : ∀ state ∈ states, StateCovered now state (ingests state.connectorAccountId)
  fresh : ∀ accountId, (∀ state ∈ states, state.connectorAccountId ≠ accountId) →
    ingests accountId = []

/-- What never changes of a row, and what only moves on. -/
structure ConnectorObservationState.Follows (state' state : ConnectorObservationState) : Prop where
  id : state'.id = state.id
  account : state'.connectorAccountId = state.connectorAccountId
  started : state'.coverageStartedAt = state.coverageStartedAt
  last : ∀ last, state.lastSuccessfulIngestAt = some last →
    ∃ last', state'.lastSuccessfulIngestAt = some last' ∧ last ≤ last'

theorem ConnectorObservationState.Follows.refl (state : ConnectorObservationState) :
    state.Follows state :=
  ⟨rfl, rfl, rfl, fun last hlast => ⟨last, hlast, le_rfl⟩⟩

theorem Poll.MadeWith.follow {poll : Poll} {connectorAccountId : Id}
    {state state' : ConnectorObservationState} (h : poll.MadeWith connectorAccountId state)
    (hfollows : state'.Follows state) : poll.MadeWith connectorAccountId state' := by
  refine ⟨hfollows.id.trans h.id, hfollows.account.trans h.account,
    hfollows.started.trans h.started, fun last hlast => ?_⟩
  obtain ⟨last', hlast', hle⟩ := h.last last hlast
  obtain ⟨last'', hlast'', hle'⟩ := hfollows.last last' hlast'
  exact ⟨last'', hlast'', hle.trans hle'⟩

namespace RowsCovered

variable {nextId nextId' : Id} {now now' : Time} {states : List ConnectorObservationState}
variable {ingests : Id → List Ingest}

theorem mono (h : RowsCovered nextId now states ingests) (hnext : nextId ≤ nextId')
    (hnow : now ≤ now') : RowsCovered nextId' now' states ingests :=
  { h with
    id_lt := fun state hstate => (h.id_lt state hstate).trans_le hnext
    covered := fun state hstate => (h.covered state hstate).mono hnow }

/-- Another list of update types. -/
theorem configure (h : RowsCovered nextId now states ingests) (id : Id) (types : List String) :
    RowsCovered nextId now (Table.modify ConnectorObservationState.id id
      (fun state => { state with allowedUpdateTypes := types }) states) ingests := by
  have hold : ∀ state' ∈ Table.modify ConnectorObservationState.id id
      (fun state => { state with allowedUpdateTypes := types }) states,
      ∃ state ∈ states, state'.id = state.id ∧
        state'.connectorAccountId = state.connectorAccountId ∧
        (StateCovered now state (ingests state.connectorAccountId) →
          StateCovered now state' (ingests state.connectorAccountId)) := by
    intro state' hstate'
    obtain ⟨state, hstate, rfl⟩ := Table.mem_modify_iff.mp hstate'
    refine ⟨state, hstate, ?_⟩
    split
    · exact ⟨rfl, rfl, fun hc => ⟨hc.last, hc.sorted, hc.le_now, hc.close⟩⟩
    · exact ⟨rfl, rfl, fun hc => hc⟩
  constructor
  · exact h.ids.modify fun state _ hid => hid
  · refine h.accounts.map fun state => ?_
    split <;> rfl
  · intro state' hstate'
    obtain ⟨state, hstate, hid, -⟩ := hold state' hstate'
    rw [hid]
    exact h.id_lt state hstate
  · intro state' hstate'
    obtain ⟨state, hstate, -, haccount, hcovered⟩ := hold state' hstate'
    rw [haccount]
    exact hcovered (h.covered state hstate)
  · intro accountId hnone
    refine h.fresh accountId fun state hstate haccount => ?_
    by_cases hid : state.id = id
    · exact hnone _ (Table.mem_modify_of_eq hstate hid) haccount
    · exact hnone _ (Table.mem_modify_of_ne hstate hid) haccount

/-- The row of an account that was not observed before. -/
theorem insert (h : RowsCovered nextId now states ingests) {state : ConnectorObservationState}
    (hid : nextId = state.id)
    (hnew : ∀ old ∈ states, old.connectorAccountId ≠ state.connectorAccountId)
    (hstarted : state.coverageStartedAt = now) (hlast : state.lastSuccessfulIngestAt = none) :
    RowsCovered (nextId + 1) now (states ++ [state]) ingests := by
  have hempty := h.fresh state.connectorAccountId hnew
  constructor
  · refine h.ids.append (Table.keysNodup_singleton state) fun new hnew old hold => ?_
    rw [List.mem_singleton.mp hnew, ← hid]
    exact (h.id_lt old hold).ne
  · refine h.accounts.append (Table.keysNodup_singleton state) fun new hmem old hold => ?_
    rw [List.mem_singleton.mp hmem]
    exact hnew old hold
  · intro row hrow
    rcases List.mem_append.mp hrow with hold | hrow
    · exact Nat.lt_succ_of_lt (h.id_lt row hold)
    · rw [List.mem_singleton.mp hrow, ← hid]
      exact Nat.lt_succ_self nextId
  · intro row hrow
    rcases List.mem_append.mp hrow with hold | hrow
    · exact h.covered row hold
    · rw [List.mem_singleton.mp hrow, hempty]
      refine ⟨hlast, List.pairwise_singleton _ _, ?_, fun _ => List.isChain_singleton _⟩
      simp [coveragePoints, hstarted]
  · intro accountId hnone
    exact h.fresh accountId fun row hrow => hnone row (List.mem_append_left _ hrow)

/-- A timely poll. -/
theorem ingest (h : RowsCovered nextId now states ingests) {poll : Poll} {accountId : Id}
    {state : ConnectorObservationState} (hstate : state ∈ states)
    (hpoll : poll.MadeWith accountId state) (htimely : poll.Timely now)
    (lastUpdateId : Option ℤ) :
    RowsCovered nextId now (Table.modify ConnectorObservationState.id poll.loaded.id
        (poll.write now lastUpdateId) states)
      (fun id => ingests id ++ if accountId = id then [⟨now, poll⟩] else []) := by
  constructor
  · exact h.ids.modify fun state _ hid => hid
  · refine h.accounts.map fun state => ?_
    split <;> rfl
  · intro row hrow
    obtain ⟨old, hold, rfl⟩ := Table.mem_modify_iff.mp hrow
    split
    · exact h.id_lt old hold
    · exact h.id_lt old hold
  · intro row hrow
    rcases Table.mem_modify_cases hrow with ⟨old, hold, hid, rfl⟩ | ⟨hold, hid⟩
    · -- the row of the poll
      have hsame : old = state := h.ids.eq_of_key_eq hold hstate (hid.trans hpoll.id.symm)
      subst hsame
      have haccount : accountId = (poll.write now lastUpdateId old).connectorAccountId :=
        hpoll.account.symm
      rw [if_pos haccount]
      exact (h.covered old hold).ingest hpoll htimely lastUpdateId
    · have hother : accountId ≠ row.connectorAccountId := by
        intro heq
        have hsame : row = state := h.accounts.eq_of_key_eq hold hstate (heq.symm.trans
          hpoll.account.symm)
        exact hid (hsame ▸ hpoll.id)
      rw [if_neg hother, List.append_nil]
      exact h.covered row hold
  · intro id hnone
    have hnone' : ∀ row ∈ states, row.connectorAccountId ≠ id := by
      intro row hrow haccount
      by_cases hid : row.id = poll.loaded.id
      · exact hnone _ (Table.mem_modify_of_eq hrow hid) haccount
      · exact hnone _ (Table.mem_modify_of_ne hrow hid) haccount
    rw [h.fresh id hnone', List.nil_append, if_neg]
    intro heq
    exact hnone' state hstate (hpoll.account.trans heq)

end RowsCovered

/-! ## The transactions -/

/-- The same observation states, metrics and checkpoints. -/
structure SameCoverage (t t' : AnalyticsTables) : Prop where
  states : t'.connectorObservationStates = t.connectorObservationStates
  metrics : t'.metricVersions = t.metricVersions
  checkpoints : t'.checkpointDefinitions = t.checkpointDefinitions

instance : IsPreorder AnalyticsTables SameCoverage where
  refl _ := ⟨rfl, rfl, rfl⟩
  trans _ _ _ h h' := ⟨h'.states.trans h.states, h'.metrics.trans h.metrics,
    h'.checkpoints.trans h.checkpoints⟩

theorem SameObservations.sameCoverage {t t' : AnalyticsTables} (h : SameObservations t t') :
    SameCoverage t t' :=
  ⟨h.states, h.metrics, h.checkpoints⟩

theorem ingestWrites_sameCoverage : IngestWrites SameCoverage := by
  constructor <;> intros <;> exact ⟨rfl, rfl, rfl⟩

section Transactions

variable {now : Time} {db : AgentDatabase M AnalyticsTables}

private theorem coverageFrames (now : Time) :
    DomainRelation (M := M) now (fun _ => true) SameCoverage (Frames SameCoverage) :=
  domainRelation_frames now _

/-- A publication leaves the coverage alone. -/
theorem framesWithin_publish (scope : TenantScope) (request : PublishRequest)
    (outcome : PublishOutcome) :
    Within (Frames SameCoverage)
      ((settleExecution (M := M) now scope request outcome).zoom executionView) := by
  let r : ExecutionTables → ExecutionTables → Prop := fun t t' =>
    t'.checkpointDefinitions = t.checkpointDefinitions
  have : IsPreorder ExecutionTables r :=
    { refl := fun _ => rfl, trans := fun _ _ _ h h' => h'.trans h }
  have hw : ServiceWrites r := ⟨by constructor <;> intros <;> rfl, fun _ _ _ => rfl⟩
  have hp : PublicationWrites r := by constructor <;> intros <;> rfl
  refine framesWithin_zoom (r := r) ?_ fun t s hs => ⟨rfl, rfl, hs⟩
  exact within_settleExecution hw.handler (domainRelation_frames now fun _ => true) hp scope request outcome

/-- A configuration changes the update types of a row, or inserts the row of an account that has
none. -/
theorem configureTelegramObservation_states (scope : TenantScope) (accountId : Id)
    (types : List String) :
    Ensures (configureTelegramObservation now scope accountId types) (fun _ db' =>
      db'.tables.domain.metricVersions = db.tables.domain.metricVersions ∧
      db'.tables.domain.checkpointDefinitions = db.tables.domain.checkpointDefinitions ∧
      ((db'.nextId = db.nextId ∧ ∃ id, db'.tables.domain.connectorObservationStates =
        Table.modify ConnectorObservationState.id id
          (fun state => { state with allowedUpdateTypes := types })
          db.tables.domain.connectorObservationStates) ∨
      (db'.nextId = db.nextId + 1 ∧ ∃ state : ConnectorObservationState, db.nextId = state.id ∧
        state.coverageStartedAt = now ∧ state.lastSuccessfulIngestAt = none ∧
        (∀ old ∈ db.tables.domain.connectorObservationStates,
          old.connectorAccountId ≠ state.connectorAccountId) ∧
        db'.tables.domain.connectorObservationStates =
          db.tables.domain.connectorObservationStates ++ [state]))) db := by
  unfold configureTelegramObservation
  rw [ensures_bind, ensures_tables, ensures_bind, ensures_check]
  intro account _
  rw [ensures_bind, ensures_check]
  intro _ _
  split
  next existing _ =>
    rw [ensures_modifyTables]
    exact ⟨rfl, rfl, .inl ⟨rfl, existing.id, rfl⟩⟩
  next hnone =>
    have hnew : ∀ old ∈ db.tables.domain.connectorObservationStates,
        old.connectorAccountId ≠ account.id := Table.find_eq_none_iff.mp hnone
    rw [ensures_bind, ensures_newId, ensures_modifyTables]
    exact ⟨rfl, rfl, .inr ⟨rfl, _, rfl, rfl, rfl, hnew, rfl⟩⟩

/-- A poll writes its row, and leaves all else of the coverage alone. -/
theorem finishPoll_states (context : RuntimeJobContext) (accountId : Id) (poll : Poll)
    (updates : List TelegramUpdate) :
    Ensures (finishPoll context accountId now poll updates) (fun _ db' =>
      db.nextId ≤ db'.nextId ∧ ∃ lastUpdateId, SameCoverage
        { db.tables.domain with
          connectorObservationStates := Table.modify ConnectorObservationState.id poll.loaded.id
            (poll.write now lastUpdateId) db.tables.domain.connectorObservationStates }
        db'.tables.domain) db := by
  have hf := coverageFrames (M := M) now
  unfold finishPoll
  rw [ensures_bind, ensures_tables, ensures_bind, ensures_check]
  intro sorted _
  refine Within.ensures_bind (R := Frames SameCoverage) ?_ fun progress db₁ h₁ => ?_
  · refine hf.foldlM (fun progress update => ?_) _
    exact hf.bind (within_ingestTelegramUpdate hf ingestWrites_sameCoverage _ _ _ _)
      fun _ => hf.pure _
  · rw [ensures_bind, ensures_modifyTables]
    refine Ensures.mono (hf.foldlM (fun _ id => hf.bind (framesWithin_createJob now _)
      fun _ => hf.pure _) () _) fun _ db₂ h₂ => ?_
    refine ⟨h₁.nextId.trans h₂.nextId, progress.maxUpdateId, ?_⟩
    refine ⟨h₂.domain.states.trans ?_, h₂.domain.metrics.trans h₁.domain.metrics,
      h₂.domain.checkpoints.trans h₁.domain.checkpoints⟩
    dsimp only
    rw [h₁.domain.states]

/-- What a metric reports, it reads off the row of its account and off its checkpoint. -/
structure MetricVersion.ReadFrom (metric : MetricVersion) (now : Time) (t : AnalyticsTables) :
    Prop where
  checkpoint : ∃ checkpoint ∈ t.checkpointDefinitions,
    checkpoint.id = metric.checkpointDefinitionId ∧
    metricCoverage (observationState metric.sourceConnectorAccountId t) metric.sourceWindowStart
      metric.sourceWindowEnd checkpoint.graceSeconds now =
        (metric.availabilityStatus, metric.coverageStatus)
  /-- No event counts as zero only under complete coverage. -/
  zero : metric.valueNumeric = some 0 →
    metric.availabilityStatus = .available ∧ metric.includedBusinessEventIds = []

theorem Derivation.valueNumeric_eq_zero {derivation : Derivation}
    (h : derivation.valueNumeric = some 0) :
    derivation.availability = .available ∧ derivation.eventIds = [] := by
  unfold Derivation.valueNumeric at h
  split at h
  next hcounts =>
    have hlength : derivation.eventIds.length = 0 := Option.some.inj h
    refine ⟨hcounts.resolve_right ?_, List.length_eq_zero_iff.mp hlength⟩
    rw [hlength]
    exact lt_irrefl 0
  next => cases h

theorem metricInputs_readFrom {scope : TenantScope} {publicationId : Id} {t : AnalyticsTables}
    {inputs : MetricInputs} (h : metricInputs now scope publicationId t = .ok inputs) (id : Id)
    (latest : Option MetricVersion) (hash : String) (evidenceId : Id) :
    (inputs.row id now scope latest hash evidenceId).ReadFrom now t := by
  unfold metricInputs at h
  obtain ⟨⟨publication, publishedAt⟩, -, h⟩ := Except.bind_eq_ok_iff.mp h
  obtain ⟨⟨checkpoint, external⟩, hcontext, h⟩ := Except.bind_eq_ok_iff.mp h
  obtain ⟨_, -, h⟩ := Except.bind_eq_ok_iff.mp h
  cases h
  constructor
  · refine ⟨checkpoint, ?_, rfl, rfl⟩
    unfold checkpointContextForPublication at hcontext
    obtain ⟨_, -, hcontext⟩ := Except.bind_eq_ok_iff.mp hcontext
    obtain ⟨_, -, hcontext⟩ := Except.bind_eq_ok_iff.mp hcontext
    obtain ⟨_, -, hcontext⟩ := Except.bind_eq_ok_iff.mp hcontext
    obtain ⟨_, -, hcontext⟩ := Except.bind_eq_ok_iff.mp hcontext
    obtain ⟨found, hfound, hcontext⟩ := Except.bind_eq_ok_iff.mp hcontext
    cases hcontext
    exact Table.mem_of_find (orRaise_eq_ok_iff.mp hfound)
  · exact Derivation.valueNumeric_eq_zero

/-- A calculation adds at most one metric. -/
theorem calculateMetricVersion_metrics (hashPayload : Derivation → String) (scope : TenantScope)
    (publicationId : Id) :
    Ensures (calculateMetricVersion hashPayload now scope publicationId) (fun _ db' =>
      db.nextId ≤ db'.nextId ∧
      db'.tables.domain.connectorObservationStates = db.tables.domain.connectorObservationStates ∧
      db'.tables.domain.checkpointDefinitions = db.tables.domain.checkpointDefinitions ∧
      ∀ metric ∈ db'.tables.domain.metricVersions,
        metric ∈ db.tables.domain.metricVersions ∨ metric.ReadFrom now db.tables.domain) db := by
  have hf := coverageFrames (M := M) now
  unfold calculateMetricVersion
  rw [ensures_bind, ensures_tables, ensures_bind, ensures_check]
  intro inputs hinputs
  dsimp only
  split
  next =>
    rw [ensures_pure]
    exact ⟨le_rfl, rfl, rfl, fun metric hmetric => .inl hmetric⟩
  next =>
    refine hf.newId.ensures_bind fun metricId db₁ h₁ => ?_
    refine hf.newId.ensures_bind fun sourceId db₂ h₂ => ?_
    refine (within_insertSourceRecord hf (fun _ _ => ⟨rfl, rfl, rfl⟩) _).ensures_bind
      fun _ db₃ h₃ => ?_
    refine hf.newId.ensures_bind fun evidenceId db₄ h₄ => ?_
    rw [ensures_bind, ensures_modifyTables]
    have hframes := h₁.trans (h₂.trans (h₃.trans h₄))
    refine (hf.addOutboxEvent _ _).ensures_bind fun _ db₅ h₅ => ?_
    rw [ensures_pure]
    refine ⟨hframes.nextId.trans h₅.nextId, h₅.domain.states.trans hframes.domain.states,
      h₅.domain.checkpoints.trans hframes.domain.checkpoints, fun metric hmetric => ?_⟩
    rw [h₅.domain.metrics] at hmetric
    rcases List.mem_append.mp hmetric with hold | hnew
    · rw [hframes.domain.metrics] at hold
      exact .inl hold
    · rw [List.mem_singleton.mp hnew]
      exact .inr (metricInputs_readFrom hinputs _ _ _ _)

end Transactions

/-! ## Checkpoints -/

/-- Checkpoints have their own ids. -/
structure CheckpointIds (nextId : Id) (checkpoints : List CheckpointDefinition) : Prop where
  nodup : Table.KeysNodup CheckpointDefinition.id checkpoints
  id_lt : ∀ checkpoint ∈ checkpoints, checkpoint.id < nextId

theorem CheckpointIds.mono {nextId nextId' : Id} {checkpoints : List CheckpointDefinition}
    (h : CheckpointIds nextId checkpoints) (hnext : nextId ≤ nextId') :
    CheckpointIds nextId' checkpoints :=
  ⟨h.nodup, fun checkpoint hmem => (h.id_lt checkpoint hmem).trans_le hnext⟩

theorem CheckpointIds.insert {nextId : Id} {checkpoints : List CheckpointDefinition}
    (h : CheckpointIds nextId checkpoints) (checkpoint : CheckpointDefinition) :
    CheckpointIds (nextId + 1) (checkpoints ++ [{ checkpoint with id := nextId }]) := by
  constructor
  · refine h.nodup.append (Table.keysNodup_singleton _) fun new hnew old hold => ?_
    rw [List.mem_singleton.mp hnew]
    exact (h.id_lt old hold).ne
  · intro row hrow
    rcases List.mem_append.mp hrow with hold | hnew
    · exact Nat.lt_succ_of_lt (h.id_lt row hold)
    · rw [List.mem_singleton.mp hnew]
      exact Nat.lt_succ_self nextId

/-- From `db` to `db'` at most checkpoints are added, with new ids. -/
structure AddsCheckpoints (db db' : AgentDatabase M AnalyticsTables) : Prop where
  nextId : db.nextId ≤ db'.nextId
  states : db'.tables.domain.connectorObservationStates =
    db.tables.domain.connectorObservationStates
  metrics : db'.tables.domain.metricVersions = db.tables.domain.metricVersions
  subset : db.tables.domain.checkpointDefinitions ⊆ db'.tables.domain.checkpointDefinitions
  ids : CheckpointIds db'.nextId db'.tables.domain.checkpointDefinitions

/-- The rest of the application does so. -/
theorem performForeign_checkpoints {now : Time} {db : AgentDatabase M AnalyticsTables}
    (h : CheckpointIds db.nextId db.tables.domain.checkpointDefinitions) (effect : ForeignWrite) :
    Ensures (effect.perform now) (fun _ => AddsCheckpoints db) db := by
  have hf := coverageFrames (M := M) now
  unfold ForeignWrite.perform
  refine Within.ensures_bind (R := Frames SameCoverage) ?_ fun _ db₁ h₁ => ?_
  · exact hf.foldlM (fun _ work => framesWithin_perform now _ _ work) _
  refine Within.ensures_bind (R := Frames SameCoverage) ?_ fun _ db₂ h₂ => ?_
  · exact hf.modifyTables _ fun t => ⟨rfl, rfl, rfl⟩
  have hframes := h₁.trans h₂
  refine Ensures.foldlM (I := fun _ => AddsCheckpoints db) (fun checkpoint _ _ db₃ h₃ => ?_) ?_
  · rw [ensures_bind, ensures_newId, ensures_modifyTables]
    refine ⟨h₃.nextId.trans (Nat.le_succ _), h₃.states, h₃.metrics, ?_, h₃.ids.insert checkpoint⟩
    exact List.Subset.trans h₃.subset (List.subset_append_left _ _)
  · refine ⟨hframes.nextId, hframes.domain.states, hframes.domain.metrics, ?_, ?_⟩
    · rw [hframes.domain.checkpoints]
      exact List.Subset.refl _
    · rw [hframes.domain.checkpoints]
      exact h.mono hframes.nextId

/-! ## The invariant -/

/-- A metric that is `AVAILABLE` has complete coverage, and the polls of its account cover its window
and the grace after it. -/
def MetricVersion.Covered (metric : MetricVersion) (t : AnalyticsTables)
    (ingests : Id → List Ingest) : Prop :=
  ∃ checkpoint ∈ t.checkpointDefinitions, checkpoint.id = metric.checkpointDefinitionId ∧
    (metric.availabilityStatus = .available → metric.coverageStatus = .complete ∧
      ∃ state ∈ t.connectorObservationStates,
        state.connectorAccountId = metric.sourceConnectorAccountId ∧
        CoveredWindow (coveragePoints state.coverageStartedAt (ingests state.connectorAccountId))
          metric.sourceWindowStart (metric.sourceWindowEnd + seconds checkpoint.graceSeconds))

/-- Rows, polls under way and metrics agree with the record of the polls. -/
structure Coverage (o : Observed M) : Prop where
  rows : RowsCovered o.state.db.nextId o.state.now
    o.state.db.tables.domain.connectorObservationStates o.ingests
  polls : ∀ a worker context accountId poll reply, o.state.attempts a =
    some ⟨worker, .running context (.observeUpdates accountId) (.polling poll reply)⟩ →
    ∃ state ∈ o.state.db.tables.domain.connectorObservationStates, poll.MadeWith accountId state
  checkpoints : CheckpointIds o.state.db.nextId o.state.db.tables.domain.checkpointDefinitions
  metrics : ∀ metric ∈ o.state.db.tables.domain.metricVersions,
    metric.Covered o.state.db.tables.domain o.ingests

/-- What a metric reports now, the history bears out. -/
theorem RowsCovered.metric {nextId : Id} {now : Time} {t : AnalyticsTables}
    {ingests : Id → List Ingest}
    (h : RowsCovered nextId now t.connectorObservationStates ingests) {metric : MetricVersion}
    (hmetric : metric.ReadFrom now t) : metric.Covered t ingests := by
  obtain ⟨checkpoint, hcheckpoint, hid, hcoverage⟩ := hmetric.checkpoint
  refine ⟨checkpoint, hcheckpoint, hid, fun havailable => ?_⟩
  rw [havailable] at hcoverage
  unfold metricCoverage at hcoverage
  split at hcoverage
  next => cases hcoverage
  next state hstate =>
    have hmem := Table.mem_of_find hstate
    have haccount := Table.key_of_find hstate
    have hcovered := h.covered state hmem
    split at hcoverage
    next => cases hcoverage
    next last hlast =>
    split at hcoverage
    next => cases hcoverage
    next hstart =>
    split at hcoverage
    next => cases hcoverage
    next hgap =>
    split at hcoverage
    next => cases hcoverage
    next =>
    split at hcoverage
    next => cases hcoverage
    next hstop =>
    refine ⟨(Prod.mk.inj hcoverage).2.symm, state, hmem, haccount, ?_⟩
    refine (hcovered.close (Bool.not_eq_true _ ▸ hgap)).covered ⟨state.coverageStartedAt, ?_, ?_⟩
      ⟨last, ?_, not_lt.mp hstop⟩
    · exact List.mem_cons_self
    · exact not_lt.mp hstart
    · obtain ⟨ingest, hingest, rfl⟩ := Option.map_eq_some_iff.mp (hcovered.last.symm.trans hlast)
      exact List.mem_map_of_mem (List.mem_of_getLast? hingest)

/-- Later polls, rows and checkpoints leave a covered metric covered. -/
theorem MetricVersion.Covered.mono {metric : MetricVersion} {t t' : AnalyticsTables}
    {ingests ingests' : Id → List Ingest} {nextId : Id} {now : Time}
    (h : metric.Covered t ingests)
    (hrows : RowsCovered nextId now t.connectorObservationStates ingests)
    (hcheckpoints : t.checkpointDefinitions ⊆ t'.checkpointDefinitions)
    (hstates : ∀ state ∈ t.connectorObservationStates,
      ∃ state' ∈ t'.connectorObservationStates, state'.Follows state)
    (hingests : ∀ accountId, ingests' accountId = ingests accountId ∨
      ∃ ingest, ingests' accountId = ingests accountId ++ [ingest]) :
    metric.Covered t' ingests' := by
  obtain ⟨checkpoint, hcheckpoint, hid, hcovered⟩ := h
  refine ⟨checkpoint, hcheckpoints hcheckpoint, hid, fun havailable => ?_⟩
  obtain ⟨hcomplete, state, hstate, haccount, hwindow⟩ := hcovered havailable
  obtain ⟨state', hstate', hfollows⟩ := hstates state hstate
  refine ⟨hcomplete, state', hstate', hfollows.account.trans haccount, ?_⟩
  rw [hfollows.account, hfollows.started]
  rcases hingests state.connectorAccountId with hsame | ⟨ingest, hnew⟩
  · rw [hsame]
    exact hwindow
  · rw [hnew, coveragePoints_append]
    exact hwindow.append (hrows.covered state hstate).sorted

/-! ## Steps -/

/-- A poll that is about to commit comes in time. -/
def PollsTimely (s : AnalyticsState M) : AnalyticsAction → Prop
  | .proceed a _ =>
      match s.attempts a with
      | some ⟨_, .running _ _ (.polling poll (.ok _))⟩ => poll.Timely s.now
      | _ => True
  | _ => True

instance (s : AnalyticsState M) (action : AnalyticsAction) : Decidable (PollsTimely s action) := by
  unfold PollsTimely
  split
  · split <;> infer_instance
  · infer_instance

section Step

variable {D : Digest} {hashPayload : Derivation → String} {o : Observed M} {action : AnalyticsAction}

theorem observedStep_ingests (accountId : Id) :
    (observedStep D hashPayload action o).ingests accountId =
      o.ingests accountId ++ ingestsOf D hashPayload accountId action o.state := rfl

/-- A step keeps the invariant if it keeps the rows, moves them on, and adds metrics that are
covered. -/
theorem Coverage.advance (h : Coverage o) {o' : Observed M}
    (ho' : o' = observedStep D hashPayload action o)
    (hrows : RowsCovered o'.state.db.nextId o'.state.now
      o'.state.db.tables.domain.connectorObservationStates o'.ingests)
    (hfollows : ∀ state ∈ o.state.db.tables.domain.connectorObservationStates,
      ∃ state' ∈ o'.state.db.tables.domain.connectorObservationStates, state'.Follows state)
    (hsubset : o.state.db.tables.domain.checkpointDefinitions ⊆
      o'.state.db.tables.domain.checkpointDefinitions)
    (hids : CheckpointIds o'.state.db.nextId o'.state.db.tables.domain.checkpointDefinitions)
    (hmetrics : ∀ metric ∈ o'.state.db.tables.domain.metricVersions,
      metric ∈ o.state.db.tables.domain.metricVersions ∨
        metric.Covered o.state.db.tables.domain o.ingests)
    (hingests : ∀ accountId, ingestsOf D hashPayload accountId action o.state = [] ∨
      ∃ ingest, ingestsOf D hashPayload accountId action o.state = [ingest]) : Coverage o' := by
  subst ho'
  refine ⟨hrows, ?_, hids, fun metric hmetric => ?_⟩
  · intro a worker context accountId poll reply ha
    rcases polling_step ha with hbefore | ⟨id, answer, progress, -, -, hpayload, -, hbegin, -⟩
    · obtain ⟨state, hstate, hpoll⟩ := h.polls a worker context accountId poll reply hbefore
      obtain ⟨state', hstate', hfollow⟩ := hfollows state hstate
      exact ⟨state', hstate', hpoll.follow hfollow⟩
    · cases hpayload
      obtain ⟨hloaded, haccount, -, -⟩ := beginPoll_eq_ok hbegin
      obtain ⟨state', hstate', hfollow⟩ := hfollows poll.loaded hloaded
      refine ⟨state', hstate', Poll.MadeWith.follow ⟨rfl, haccount, rfl, ?_⟩ hfollow⟩
      exact fun last hlast => ⟨last, hlast, le_rfl⟩
  · have hcovered := (hmetrics metric hmetric).elim (h.metrics metric) id
    refine hcovered.mono h.rows hsubset hfollows fun accountId => ?_
    rcases hingests accountId with hnone | ⟨ingest, hone⟩
    · exact .inl (by rw [observedStep_ingests, hnone, List.append_nil])
    · exact .inr ⟨ingest, by rw [observedStep_ingests, hone]⟩

/-- A step that leaves the coverage alone keeps the invariant. -/
theorem Coverage.same (h : Coverage o)
    (hnext : o.state.db.nextId ≤ (observedStep D hashPayload action o).state.db.nextId)
    (hsame : SameCoverage o.state.db.tables.domain
      (observedStep D hashPayload action o).state.db.tables.domain)
    (hingests : ∀ accountId, ingestsOf D hashPayload accountId action o.state = []) :
    Coverage (observedStep D hashPayload action o) := by
  have hlog : (observedStep D hashPayload action o).ingests = o.ingests := by
    funext accountId
    rw [observedStep_ingests, hingests, List.append_nil]
  refine h.advance rfl ?_ ?_ ?_ ?_ ?_ fun accountId => .inl (hingests accountId)
  · rw [hsame.states, hlog]
    exact h.rows.mono hnext ((analyticsApp D hashPayload).now_le_step action o.state)
  · rw [hsame.states]
    exact fun state hstate => ⟨state, hstate, .refl state⟩
  · rw [hsame.checkpoints]
    exact List.Subset.refl _
  · rw [hsame.checkpoints]
    exact h.checkpoints.mono hnext
  · rw [hsame.metrics]
    exact fun metric hmetric => .inl hmetric

theorem coverage_step (h : Coverage o) (htimely : PollsTimely o.state action) :
    Coverage (observedStep D hashPayload action o) := by
  have hnow : o.state.now ≤ (observedStep D hashPayload action o).state.now :=
    (analyticsApp D hashPayload).now_le_step action o.state
  have hf := coverageFrames (M := M) o.state.now
  cases analytics_step D hashPayload action o.state with
  | quiet hframes hingests => exact h.same hframes.nextId hframes.domain.sameCoverage hingests
  | ran transaction db hfrom hrun hframes hingests =>
      have hnext : db.nextId ≤ (observedStep D hashPayload action o).state.db.nextId :=
        hframes.nextId
      have hdomain : (observedStep D hashPayload action o).state.db.tables.domain =
          db.tables.domain := hframes.domain.symm
      have hsame : Within (Frames SameCoverage) (transaction.run (M := M) hashPayload o.state.now) →
          (∀ accountId, transaction.ingests accountId o.state.now = []) →
          Coverage (observedStep D hashPayload action o) := by
        intro hwithin hnone
        have hdb : Frames SameCoverage o.state.db db := Ensures.of_exec (hwithin o.state.db) hrun
        refine h.same (hdb.nextId.trans hnext) ?_ fun accountId => ?_
        · rw [hdomain]
          exact hdb.domain
        · rw [hingests, hnone]
      cases transaction with
      | configure scope accountId types =>
          have hnone : ∀ accountId, ingestsOf D hashPayload accountId action o.state = [] :=
            hingests
          have hlog : (observedStep D hashPayload action o).ingests = o.ingests := by
            funext accountId
            rw [observedStep_ingests, hnone, List.append_nil]
          obtain ⟨hmetrics, hcheckpoints, hcases⟩ :=
            Ensures.of_exec (configureTelegramObservation_states scope accountId types) hrun
          have hrows : RowsCovered db.nextId o.state.now
              db.tables.domain.connectorObservationStates o.ingests ∧ o.state.db.nextId ≤ db.nextId ∧
              ∀ state ∈ o.state.db.tables.domain.connectorObservationStates,
                ∃ state' ∈ db.tables.domain.connectorObservationStates, state'.Follows state := by
            rcases hcases with ⟨hid, id, hstates⟩ | ⟨hid, row, hrow, hstarted, hlast, hnew, hstates⟩
            · rw [hstates, hid]
              refine ⟨h.rows.configure id types, le_rfl, fun state hstate => ?_⟩
              by_cases hmodified : state.id = id
              · refine ⟨_, Table.mem_modify_of_eq hstate hmodified, rfl, rfl, rfl, ?_⟩
                exact fun last hlast => ⟨last, hlast, le_rfl⟩
              · exact ⟨state, Table.mem_modify_of_ne hstate hmodified, .refl state⟩
            · rw [hstates, hid]
              refine ⟨h.rows.insert hrow hnew hstarted hlast, Nat.le_succ _, fun state hstate => ?_⟩
              exact ⟨state, List.mem_append_left _ hstate, .refl state⟩
          refine h.advance rfl ?_ ?_ ?_ ?_ ?_ fun accountId => .inl (hnone accountId)
          · rw [hdomain, hlog]
            exact hrows.1.mono hnext hnow
          · rw [hdomain]
            exact hrows.2.2
          · rw [hdomain, hcheckpoints]
            exact List.Subset.refl _
          · rw [hdomain, hcheckpoints]
            exact h.checkpoints.mono (hrows.2.1.trans hnext)
          · rw [hdomain, hmetrics]
            exact fun metric hmetric => .inl hmetric
      | ingest scope accountId update =>
          refine hsame (hf.bind ?_ fun _ => hf.pure _) fun _ => rfl
          exact within_ingestTelegramUpdate hf ingestWrites_sameCoverage scope accountId update _
      | normalize context observationId =>
          refine hsame ?_ fun _ => rfl
          exact within_normalizeConnectorObservation hf ingestWrites_sameCoverage context _
      | commitPoll context accountId poll updates =>
          obtain ⟨a, worker, answer, rfl, -, ha⟩ := hfrom
          have hpoll : poll.Timely o.state.now := by
            simpa only [PollsTimely, ha] using htimely
          obtain ⟨state, hstate, hmade⟩ := h.polls a worker context accountId poll _ ha
          obtain ⟨hle, lastUpdateId, hwrote⟩ :=
            Ensures.of_exec (finishPoll_states context accountId poll _) hrun
          have hlog : (observedStep D hashPayload (.proceed a answer) o).ingests = fun id =>
              o.ingests id ++ if accountId = id then [⟨o.state.now, poll⟩] else [] := by
            funext id
            rw [observedStep_ingests, hingests]
            rfl
          refine h.advance rfl ?_ ?_ ?_ ?_ ?_ fun id => ?_
          · rw [hdomain, hwrote.states, hlog]
            exact (h.rows.ingest hstate hmade hpoll lastUpdateId).mono (hle.trans hnext) hnow
          · rw [hdomain, hwrote.states]
            intro row hrow
            by_cases hid : row.id = poll.loaded.id
            · refine ⟨_, Table.mem_modify_of_eq hrow hid, rfl, rfl, rfl, fun last hlast => ?_⟩
              refine ⟨o.state.now, rfl, ?_⟩
              have hcovered := h.rows.covered row hrow
              obtain ⟨ingest, hingest, rfl⟩ :=
                Option.map_eq_some_iff.mp (hcovered.last.symm.trans hlast)
              refine hcovered.le_now _ (List.mem_cons_of_mem _ ?_)
              exact List.mem_map_of_mem (List.mem_of_getLast? hingest)
            · exact ⟨row, Table.mem_modify_of_ne hrow hid, .refl row⟩
          · rw [hdomain, hwrote.checkpoints]
            exact List.Subset.refl _
          · rw [hdomain, hwrote.checkpoints]
            exact h.checkpoints.mono (hle.trans hnext)
          · rw [hdomain, hwrote.metrics]
            exact fun metric hmetric => .inl hmetric
          · rw [hingests]
            simp only [AnalyticsTransaction.ingests]
            split
            · exact .inr ⟨_, rfl⟩
            · exact .inl rfl
      | calculate scope publicationId =>
          have hlog : (observedStep D hashPayload action o).ingests = o.ingests := by
            funext accountId
            rw [observedStep_ingests, hingests]
            exact List.append_nil _
          have hcalculated : Ensures
              ((AnalyticsTransaction.calculate scope publicationId).run hashPayload o.state.now)
              (fun _ db => o.state.db.nextId ≤ db.nextId ∧
                db.tables.domain.connectorObservationStates =
                  o.state.db.tables.domain.connectorObservationStates ∧
                db.tables.domain.checkpointDefinitions =
                  o.state.db.tables.domain.checkpointDefinitions ∧
                ∀ metric ∈ db.tables.domain.metricVersions,
                  metric ∈ o.state.db.tables.domain.metricVersions ∨
                    metric.ReadFrom o.state.now o.state.db.tables.domain) o.state.db := by
            simp only [AnalyticsTransaction.run]
            rw [ensures_bind]
            refine (calculateMetricVersion_metrics hashPayload scope publicationId).mono ?_
            intro _ db hdb
            rw [ensures_pure]
            exact hdb
          obtain ⟨hle, hstates, hcheckpoints, hmetrics⟩ := Ensures.of_exec hcalculated hrun
          refine h.advance rfl ?_ ?_ ?_ ?_ ?_ fun accountId => .inl (hingests accountId)
          · rw [hdomain, hstates, hlog]
            exact h.rows.mono (hle.trans hnext) hnow
          · rw [hdomain, hstates]
            exact fun state hstate => ⟨state, hstate, .refl state⟩
          · rw [hdomain, hcheckpoints]
            exact List.Subset.refl _
          · rw [hdomain, hcheckpoints]
            exact h.checkpoints.mono (hle.trans hnext)
          · rw [hdomain]
            exact fun metric hmetric => (hmetrics metric hmetric).imp_right h.rows.metric
      | recordEvent scope eventType occurredAt publicationId =>
          refine hsame ?_ fun _ => rfl
          exact within_createBusinessEvent hf (fun _ _ => ⟨rfl, rfl, rfl⟩) _ _ _ _
      | publish scope request messageId chatId =>
          exact hsame (framesWithin_publish scope request _) fun _ => rfl
      | foreign effect =>
          have hlog : (observedStep D hashPayload action o).ingests = o.ingests := by
            funext accountId
            rw [observedStep_ingests, hingests]
            exact List.append_nil _
          have hadds := Ensures.of_exec (performForeign_checkpoints h.checkpoints effect) hrun
          refine h.advance rfl ?_ ?_ ?_ ?_ ?_ fun accountId => .inl (hingests accountId)
          · rw [hdomain, hadds.states, hlog]
            exact h.rows.mono (hadds.nextId.trans hnext) hnow
          · rw [hdomain, hadds.states]
            exact fun state hstate => ⟨state, hstate, .refl state⟩
          · rw [hdomain]
            exact hadds.subset
          · rw [hdomain]
            exact hadds.ids.mono hnext
          · rw [hdomain, hadds.metrics]
            exact fun metric hmetric => .inl hmetric

end Step

/-! ## Runs -/

/-- A metric that is `AVAILABLE` and `COMPLETE` is borne out by the polls of its account, up to the
end of the grace after its window. -/
def MetricVersion.BorneOut (metric : MetricVersion) (o : Observed M) : Prop :=
  metric.availabilityStatus = .available → metric.coverageStatus = .complete →
    match Table.find CheckpointDefinition.id metric.checkpointDefinitionId
        o.state.db.tables.domain.checkpointDefinitions,
      observationState metric.sourceConnectorAccountId o.state.db.tables.domain with
    | some checkpoint, some state =>
        CoveredWindow (coveragePoints state.coverageStartedAt (o.ingests state.connectorAccountId))
          metric.sourceWindowStart (metric.sourceWindowEnd + seconds checkpoint.graceSeconds)
    | _, _ => False

instance (points : List Time) (start stop : Time) : Decidable (CoveredWindow points start stop) :=
  decidable_of_iff ((∃ point ∈ points, point ≤ start) ∧ (∃ point ∈ points.tail, stop ≤ point) ∧
      points.IsChain fun a b => start < b → a < stop → b - a ≤ telegramRetentionGap)
    ⟨fun h => ⟨h.1, h.2.1, h.2.2⟩, fun h => ⟨h.before, h.after, h.close⟩⟩

instance (metric : MetricVersion) (o : Observed M) : Decidable (metric.BorneOut o) := by
  unfold MetricVersion.BorneOut
  have : Decidable (match Table.find CheckpointDefinition.id metric.checkpointDefinitionId
        o.state.db.tables.domain.checkpointDefinitions,
      observationState metric.sourceConnectorAccountId o.state.db.tables.domain with
    | some checkpoint, some state =>
        CoveredWindow (coveragePoints state.coverageStartedAt (o.ingests state.connectorAccountId))
          metric.sourceWindowStart (metric.sourceWindowEnd + seconds checkpoint.graceSeconds)
    | _, _ => False) := by
    split <;> infer_instance
  infer_instance

theorem Coverage.borneOut {o : Observed M} (h : Coverage o) :
    ∀ metric ∈ o.state.db.tables.domain.metricVersions, metric.BorneOut o := by
  intro metric hmetric havailable _
  obtain ⟨checkpoint, hcheckpoint, hid, hcovered⟩ := h.metrics metric hmetric
  obtain ⟨-, state, hstate, haccount, hwindow⟩ := hcovered havailable
  have hfind : Table.find CheckpointDefinition.id metric.checkpointDefinitionId
      o.state.db.tables.domain.checkpointDefinitions = some checkpoint :=
    h.checkpoints.nodup.find_eq_some_iff.mpr ⟨hcheckpoint, hid⟩
  have hrow : observationState metric.sourceConnectorAccountId o.state.db.tables.domain =
      some state := h.rows.accounts.find_eq_some_iff.mpr ⟨hstate, haccount⟩
  rw [hfind, hrow]
  exact hwindow

theorem AnalyticsInitial.coverage {s : AnalyticsState M} (hs : AnalyticsInitial s) :
    Coverage ⟨s, fun _ => []⟩ := by
  refine ⟨⟨?_, ?_, ?_, ?_, fun _ _ => rfl⟩, ?_, ⟨?_, ?_⟩, ?_⟩ <;>
    simp [hs.states, hs.attempts, hs.checkpoints, hs.metrics, Table.keysNodup_nil]

/-- In every run whose polls all come in time, a metric that is `AVAILABLE` and `COMPLETE` is borne
out by the history of the polls. -/
theorem available_metric_covered (D : Digest) (hashPayload : Derivation → String)
    {s : AnalyticsState M} (hs : AnalyticsInitial s) {actions : List AnalyticsAction}
    (htimely : Guarded (observedStep D hashPayload) (fun o action => PollsTimely o.state action)
      ⟨s, fun _ => []⟩ actions) :
    let o := run (observedStep D hashPayload) ⟨s, fun _ => []⟩ actions
    ∀ metric ∈ o.state.db.tables.domain.metricVersions, metric.BorneOut o :=
  Coverage.borneOut (invariant_run (I := fun o => Coverage o)
    (fun _ _ h htimely => coverage_step h htimely) hs.coverage htimely)

/-! ### A first poll that comes too late, and one in time -/

/-- The post is polled so many hours after its publication, and its metric is calculated. -/
def polledAfter (hours : ℕ) : List AnalyticsAction :=
  publishedExperiment ++
    .tick (hours * hour) :: .command (.enqueueTelegramObservationJob demoScope 1 "cycle") ::
      runJob 19 [{}, {}] ++ runJob 20 [{}]

/-- The metric of a post that nobody has looked at for two days is `AVAILABLE`. -/
theorem late_first_poll_not_covered :
    let o := run (observedStep plainDigest plainHash) ⟨analyticsStart, fun _ => []⟩
      (polledAfter 47)
    ∃ metric ∈ o.state.db.tables.domain.metricVersions, ¬ metric.BorneOut o := by
  decide +kernel

theorem timely_first_poll_covered :
    let o := run (observedStep plainDigest plainHash) ⟨analyticsStart, fun _ => []⟩ (polledAfter 2)
    (∃ metric ∈ o.state.db.tables.domain.metricVersions, metric.availabilityStatus = .available) ∧
      ∀ metric ∈ o.state.db.tables.domain.metricVersions, metric.BorneOut o :=
  ⟨by decide +kernel,
    available_metric_covered plainDigest plainHash analyticsStart_initial (by decide +kernel)⟩

end LaunchOS.Analytics
