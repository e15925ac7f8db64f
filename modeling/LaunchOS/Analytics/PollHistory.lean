import LaunchOS.Analytics.Coverage
import LaunchOS.Analytics.MetricHistory

/-!
# The history of the polls

`_metric_coverage` does not look at the polls of an account one by one. It looks at the row of the
account, which keeps when the coverage started, the last successful poll, and whether any poll has
found a gap. Both the flag and the age of the last poll concern the account and not the window.

The module introduces:

* `ConnectorObservationState.Shows`: what a row tells about the record of its polls;
* `PollRecord`: the invariant that every row does so, with `pollRecord_run`;
* `PollHistory`, `windowPolls`, `PollHistory.coverage`: the history of an account, its part that a
  window sees, and the status of a window in terms of it;
* `coverage_local`: which histories give a window the same status;
* two posts whose windows have seen the same polls, and are not reported alike.
-/

namespace LaunchOS.Analytics

open Txn Transition

variable {M : Type}

/-! ## One row -/

/-- The row of an account shows when it was polled last, and whether a poll has found a gap. -/
structure ConnectorObservationState.Shows (state : ConnectorObservationState) (now : Time)
    (ingests : List Ingest) : Prop where
  last : state.lastSuccessfulIngestAt = ingests.getLast?.map Ingest.time
  gap : state.gapDetected = ingests.any fun ingest => ingest.poll.gapDetected
  sorted : ingests.Pairwise fun a b => a.time ≤ b.time
  le_now : ∀ ingest ∈ ingests, ingest.time ≤ now

namespace ConnectorObservationState.Shows

variable {state : ConnectorObservationState} {now now' : Time} {ingests : List Ingest}

theorem mono (h : state.Shows now ingests) (hnow : now ≤ now') : state.Shows now' ingests :=
  { h with le_now := fun ingest hingest => (h.le_now ingest hingest).trans hnow }

theorem ingest (h : state.Shows now ingests) (poll : Poll) (lastUpdateId : Option ℤ) :
    (poll.write now lastUpdateId state).Shows now (ingests ++ [⟨now, poll⟩]) := by
  constructor
  · simp [Poll.write]
  · rw [List.any_append, ← h.gap, Bool.or_comm]
    simp [Poll.write]
  · refine List.pairwise_append.mpr ⟨h.sorted, List.pairwise_singleton _ _, ?_⟩
    intro a ha b hb
    rw [List.mem_singleton.mp hb]
    exact h.le_now a ha
  · intro a ha
    rcases List.mem_append.mp ha with hold | hnew
    · exact h.le_now a hold
    · rw [List.mem_singleton.mp hnew]

/-- The last poll is the latest one. -/
theorem le_last (h : state.Shows now ingests) {last : Ingest} (hlast : ingests.getLast? = some last) :
    ∀ ingest ∈ ingests, ingest.time ≤ last.time := by
  intro ingest hingest
  obtain ⟨init, rfl⟩ := List.getLast?_eq_some_iff.mp hlast
  rcases List.mem_append.mp hingest with hinit | hsame
  · exact (List.pairwise_append.mp h.sorted).2.2 ingest hinit last (List.mem_singleton_self last)
  · rw [List.mem_singleton.mp hsame]

end ConnectorObservationState.Shows

/-! ## All rows -/

/-- Every account has at most one row, which shows the record of its polls. -/
structure RowsShown (nextId : Id) (now : Time) (states : List ConnectorObservationState)
    (ingests : Id → List Ingest) : Prop where
  ids : Table.KeysNodup ConnectorObservationState.id states
  accounts : Table.KeysNodup ConnectorObservationState.connectorAccountId states
  id_lt : ∀ state ∈ states, state.id < nextId
  shown : ∀ state ∈ states, state.Shows now (ingests state.connectorAccountId)
  fresh : ∀ accountId, (∀ state ∈ states, state.connectorAccountId ≠ accountId) →
    ingests accountId = []

namespace RowsShown

variable {nextId nextId' : Id} {now now' : Time} {states : List ConnectorObservationState}
variable {ingests : Id → List Ingest}

theorem mono (h : RowsShown nextId now states ingests) (hnext : nextId ≤ nextId')
    (hnow : now ≤ now') : RowsShown nextId' now' states ingests :=
  { h with
    id_lt := fun state hstate => (h.id_lt state hstate).trans_le hnext
    shown := fun state hstate => (h.shown state hstate).mono hnow }

/-- Rows may be rewritten as long as they keep their ids and accounts and show the new record. -/
theorem rewrite (h : RowsShown nextId now states ingests)
    {f : ConnectorObservationState → ConnectorObservationState} {ingests' : Id → List Ingest}
    (hid : ∀ state, (f state).id = state.id)
    (haccount : ∀ state, (f state).connectorAccountId = state.connectorAccountId)
    (hshown : ∀ state ∈ states, (f state).Shows now (ingests' state.connectorAccountId))
    (hfresh : ∀ accountId, (∀ state ∈ states, state.connectorAccountId ≠ accountId) →
      ingests' accountId = ingests accountId) :
    RowsShown nextId now (states.map f) ingests' where
  ids := h.ids.map hid
  accounts := h.accounts.map haccount
  id_lt state' hstate' := by
    obtain ⟨state, hstate, rfl⟩ := List.mem_map.mp hstate'
    rw [hid]
    exact h.id_lt state hstate
  shown state' hstate' := by
    obtain ⟨state, hstate, rfl⟩ := List.mem_map.mp hstate'
    rw [haccount]
    exact hshown state hstate
  fresh accountId hnone := by
    have hold : ∀ state ∈ states, state.connectorAccountId ≠ accountId := fun state hstate =>
      haccount state ▸ hnone (f state) (List.mem_map_of_mem hstate)
    rw [hfresh accountId hold]
    exact h.fresh accountId hold

theorem configure (h : RowsShown nextId now states ingests) (id : Id) (types : List String) :
    RowsShown nextId now (Table.modify ConnectorObservationState.id id
      (fun state => { state with allowedUpdateTypes := types }) states) ingests := by
  refine h.rewrite (fun state => ?_) (fun state => ?_) (fun state hstate => ?_) fun _ _ => rfl
  · split <;> rfl
  · split <;> rfl
  · have hshown := h.shown state hstate
    split
    · exact ⟨hshown.last, hshown.gap, hshown.sorted, hshown.le_now⟩
    · exact hshown

/-- A poll adds to the record of its own account only. -/
theorem ingest (h : RowsShown nextId now states ingests) {poll : Poll} {accountId : Id}
    {state : ConnectorObservationState} (hstate : state ∈ states) (hid : state.id = poll.loaded.id)
    (haccount : state.connectorAccountId = accountId) (lastUpdateId : Option ℤ) :
    RowsShown nextId now (Table.modify ConnectorObservationState.id poll.loaded.id
        (poll.write now lastUpdateId) states)
      (fun id => ingests id ++ if accountId = id then [⟨now, poll⟩] else []) := by
  refine h.rewrite (fun row => ?_) (fun row => ?_) (fun row hrow => ?_) fun other hnone => ?_
  · split <;> rfl
  · split <;> rfl
  · have hshown := h.shown row hrow
    by_cases hrowId : row.id = poll.loaded.id
    · have hsame : row = state := h.ids.eq_of_key_eq hrow hstate (hrowId.trans hid.symm)
      rw [if_pos hrowId, if_pos (by rw [hsame, haccount])]
      exact hshown.ingest poll lastUpdateId
    · rw [if_neg hrowId, if_neg, List.append_nil]
      · exact hshown
      · -- another row is that of another account
        intro hother
        have hsame : row = state :=
          h.accounts.eq_of_key_eq hrow hstate (hother.symm.trans haccount.symm)
        exact hrowId (hsame ▸ hid)
  · rw [if_neg, List.append_nil]
    intro hother
    exact hnone state hstate (haccount.trans hother)

/-- The row of an account that was not observed before. -/
theorem insert (h : RowsShown nextId now states ingests) {state : ConnectorObservationState}
    (hid : state.id = nextId)
    (hnew : ∀ old ∈ states, old.connectorAccountId ≠ state.connectorAccountId)
    (hlast : state.lastSuccessfulIngestAt = none) (hgap : state.gapDetected = false) :
    RowsShown (nextId + 1) now (states ++ [state]) ingests where
  ids := by
    refine h.ids.append (Table.keysNodup_singleton state) fun new hmem old hold => ?_
    rw [List.mem_singleton.mp hmem, hid]
    exact (h.id_lt old hold).ne
  accounts := by
    refine h.accounts.append (Table.keysNodup_singleton state) fun new hmem old hold => ?_
    rw [List.mem_singleton.mp hmem]
    exact hnew old hold
  id_lt row hrow := by
    rcases List.mem_append.mp hrow with hold | hmem
    · exact Nat.lt_succ_of_lt (h.id_lt row hold)
    · rw [List.mem_singleton.mp hmem, hid]
      exact Nat.lt_succ_self nextId
  shown row hrow := by
    rcases List.mem_append.mp hrow with hold | hmem
    · exact h.shown row hold
    · rw [List.mem_singleton.mp hmem, h.fresh state.connectorAccountId hnew]
      exact ⟨hlast, hgap, List.Pairwise.nil, by simp⟩
  fresh accountId hnone :=
    h.fresh accountId fun row hrow => hnone row (List.mem_append_left _ hrow)

end RowsShown

/-! ## The transactions -/

/-- The same observation states. -/
structure SameRows (t t' : AnalyticsTables) : Prop where
  states : t'.connectorObservationStates = t.connectorObservationStates

instance : IsPreorder AnalyticsTables SameRows where
  refl _ := ⟨rfl⟩
  trans _ _ _ h h' := ⟨h'.states.trans h.states⟩

section Transactions

variable {now : Time} {db db' : AgentDatabase M AnalyticsTables}

/-- All but a configuration and a poll leave the rows alone. -/
theorem transaction_sameRows {hashPayload : Derivation → String}
    {transaction : AnalyticsTransaction}
    (hconfigure : ∀ scope accountId types, transaction ≠ .configure scope accountId types)
    (hpoll : ∀ context accountId poll updates,
      transaction ≠ .commitPoll context accountId poll updates)
    (hrun : exec (transaction.run hashPayload now) db = .ok db') : Frames SameRows db db' := by
  have hf := domainRelation_frames (M := M) (r := SameRows) now fun _ => true
  have hingest : IngestWrites SameRows := by constructor <;> intros <;> exact ⟨rfl⟩
  have hmetric : MetricWrites SameRows := by constructor <;> intros <;> exact ⟨rfl⟩
  cases transaction with
  | configure scope accountId types => exact absurd rfl (hconfigure scope accountId types)
  | commitPoll context accountId poll updates =>
      exact absurd rfl (hpoll context accountId poll updates)
  | ingest scope accountId update =>
      refine Ensures.of_exec (hf.bind ?_ (fun _ => hf.pure _) db) hrun
      exact within_ingestTelegramUpdate hf hingest scope accountId update now
  | normalize context observationId =>
      exact Ensures.of_exec
        (within_normalizeConnectorObservation hf hingest context observationId db) hrun
  | calculate scope publicationId =>
      refine Ensures.of_exec (hf.bind ?_ (fun _ => hf.pure _) db) hrun
      exact within_calculateMetricVersion hf hmetric hashPayload scope publicationId
  | recordEvent scope eventType occurredAt publicationId =>
      exact Ensures.of_exec
        (within_createBusinessEvent hf (fun _ _ => ⟨rfl⟩) scope eventType occurredAt publicationId db)
        hrun
  | publish scope request messageId chatId =>
      have hpublished := Ensures.of_exec (ensures_publish now scope request messageId chatId db) hrun
      refine ⟨(Nat.le_add_right _ 3).trans hpublished.publishing.nextId, ⟨?_⟩⟩
      rw [hpublished.domain]
      rfl
  | foreign effect =>
      refine Ensures.of_exec (within_performForeign hf ⟨fun _ _ _ => ⟨rfl⟩, fun _ _ => ⟨rfl⟩⟩ effect
        (fun work => ?_) db) hrun
      exact framesWithin_perform now _ _ work

end Transactions

/-! ## Runs -/

/-- The rows show the record of the polls, and so do those that the polls under way were made
with. -/
structure PollRecord (o : Observed M) : Prop where
  rows : RowsShown o.state.db.nextId o.state.now
    o.state.db.tables.domain.connectorObservationStates o.ingests
  polls : ∀ a worker context accountId poll reply, o.state.attempts a =
    some ⟨worker, .running context (.observeUpdates accountId) (.polling poll reply)⟩ →
    ∃ state ∈ o.state.db.tables.domain.connectorObservationStates,
      state.id = poll.loaded.id ∧ state.connectorAccountId = accountId

/-- The rows of before are there, with their ids and accounts. -/
def KeepsRows (states states' : List ConnectorObservationState) : Prop :=
  ∀ state ∈ states, ∃ state' ∈ states',
    state'.id = state.id ∧ state'.connectorAccountId = state.connectorAccountId

theorem keepsRows_modify {f : ConnectorObservationState → ConnectorObservationState} (id : Id)
    (hid : ∀ state, (f state).id = state.id)
    (haccount : ∀ state, (f state).connectorAccountId = state.connectorAccountId)
    (states : List ConnectorObservationState) :
    KeepsRows states (Table.modify ConnectorObservationState.id id f states) := by
  intro state hstate
  by_cases hmodified : state.id = id
  · exact ⟨f state, Table.mem_modify_of_eq hstate hmodified, hid state, haccount state⟩
  · exact ⟨state, Table.mem_modify_of_ne hstate hmodified, rfl, rfl⟩

section Step

variable {D : Digest} {hashPayload : Derivation → String} {o : Observed M} {action : AnalyticsAction}

/-- A step keeps the record if its rows show it and keep the rows of before. -/
theorem PollRecord.advance (h : PollRecord o)
    (hrows : RowsShown (observedStep D hashPayload action o).state.db.nextId
      (observedStep D hashPayload action o).state.now
      (observedStep D hashPayload action o).state.db.tables.domain.connectorObservationStates
      (observedStep D hashPayload action o).ingests)
    (hkeeps : KeepsRows o.state.db.tables.domain.connectorObservationStates
      (observedStep D hashPayload action o).state.db.tables.domain.connectorObservationStates) :
    PollRecord (observedStep D hashPayload action o) := by
  refine ⟨hrows, fun a worker context accountId poll reply ha => ?_⟩
  have hold : ∃ state ∈ o.state.db.tables.domain.connectorObservationStates,
      state.id = poll.loaded.id ∧ state.connectorAccountId = accountId := by
    rcases polling_step ha with hbefore | ⟨accountId', answer, progress, -, -, heq, -, hbegin, -⟩
    · exact h.polls a worker context accountId poll reply hbefore
    · obtain rfl : accountId = accountId' := JobPayload.observeUpdates.inj heq
      obtain ⟨hloaded, haccount, -⟩ := beginPoll_eq_ok hbegin
      exact ⟨poll.loaded, hloaded, rfl, haccount⟩
  obtain ⟨state, hstate, hid, haccount⟩ := hold
  obtain ⟨state', hstate', hid', haccount'⟩ := hkeeps state hstate
  exact ⟨state', hstate', hid'.trans hid, haccount'.trans haccount⟩

theorem pollRecord_step (h : PollRecord o) : PollRecord (observedStep D hashPayload action o) := by
  have hnow : o.state.now ≤ (observedStep D hashPayload action o).state.now :=
    (analyticsApp D hashPayload).now_le_step action o.state
  have hsame : Frames SameRows o.state.db (observedStep D hashPayload action o).state.db →
      (∀ accountId, ingestsOf D hashPayload accountId action o.state = []) →
      PollRecord (observedStep D hashPayload action o) := by
    intro hframes hnone
    have hrecord : (observedStep D hashPayload action o).ingests = o.ingests := by
      funext accountId
      rw [observedStep_ingests, hnone, List.append_nil]
    refine h.advance ?_ ?_
    · rw [hframes.domain.states, hrecord]
      exact h.rows.mono hframes.nextId hnow
    · rw [hframes.domain.states]
      exact fun state hstate => ⟨state, hstate, rfl, rfl⟩
  cases analytics_step D hashPayload action o.state with
  | quiet hframes hingests => exact hsame ⟨hframes.nextId, ⟨hframes.domain.states⟩⟩ hingests
  | ran transaction db hfrom hrun hframes hingests =>
      have hnext : db.nextId ≤ (observedStep D hashPayload action o).state.db.nextId :=
        hframes.nextId
      have hdomain : (observedStep D hashPayload action o).state.db.tables.domain =
          db.tables.domain := hframes.domain.symm
      by_cases hconfigure : ∃ scope accountId types,
          transaction = .configure scope accountId types
      · obtain ⟨scope, accountId, types, rfl⟩ := hconfigure
        have hrecord : (observedStep D hashPayload action o).ingests = o.ingests := by
          funext id
          rw [observedStep_ingests, hingests]
          exact List.append_nil _
        cases Ensures.of_exec
          (ensures_configureTelegramObservation o.state.now scope accountId types o.state.db) hrun with
        | updated id hid hwrote =>
            refine h.advance ?_ ?_
            · rw [hdomain, hwrote, hrecord]
              exact (h.rows.configure id types).mono (hid ▸ hnext) hnow
            · rw [hdomain, hwrote]
              exact keepsRows_modify (f := fun state => { state with allowedUpdateTypes := types }) id
                (fun _ => rfl) (fun _ => rfl) _
        | inserted hnew hid hwrote =>
            refine h.advance ?_ ?_
            · rw [hdomain, hwrote, hrecord]
              exact (h.rows.insert rfl hnew rfl rfl).mono (hid ▸ hnext) hnow
            · rw [hdomain, hwrote]
              exact fun state hstate => ⟨state, List.mem_append_left _ hstate, rfl, rfl⟩
      · by_cases hpoll : ∃ context accountId poll updates,
            transaction = .commitPoll context accountId poll updates
        · obtain ⟨context, accountId, poll, updates, rfl⟩ := hpoll
          obtain ⟨a, worker, answer, rfl, -, ha⟩ := hfrom
          obtain ⟨state, hstate, hid, haccount⟩ := h.polls a worker context accountId poll _ ha
          obtain ⟨hle, lastUpdateId, hwrote⟩ :=
            Ensures.of_exec (finishPoll_states context accountId poll _) hrun
          have hrecord : (observedStep D hashPayload (.proceed a answer) o).ingests = fun id =>
              o.ingests id ++ if accountId = id then [⟨o.state.now, poll⟩] else [] := by
            funext id
            rw [observedStep_ingests, hingests]
            rfl
          refine h.advance ?_ ?_
          · rw [hdomain, hwrote.states, hrecord]
            exact (h.rows.ingest hstate hid haccount lastUpdateId).mono (hle.trans hnext) hnow
          · rw [hdomain, hwrote.states]
            exact keepsRows_modify (f := poll.write o.state.now lastUpdateId) poll.loaded.id
              (fun _ => rfl) (fun _ => rfl) _
        · have hrows : Frames SameRows o.state.db db := by
            refine transaction_sameRows (fun scope accountId types heq => ?_)
              (fun context accountId poll updates heq => ?_) hrun
            · exact hconfigure ⟨scope, accountId, types, heq⟩
            · exact hpoll ⟨context, accountId, poll, updates, heq⟩
          refine hsame ⟨hrows.nextId.trans hnext, ⟨?_⟩⟩ fun accountId => ?_
          · rw [hdomain]
            exact hrows.domain.states
          · rw [hingests]
            cases transaction with
            | commitPoll context id poll updates =>
                exact absurd ⟨context, id, poll, updates, rfl⟩ hpoll
            | _ => rfl

end Step

theorem AnalyticsInitial.pollRecord {s : AnalyticsState M} (hs : AnalyticsInitial s) :
    PollRecord ⟨s, fun _ => []⟩ := by
  refine ⟨⟨?_, ?_, ?_, ?_, fun _ _ => rfl⟩, ?_⟩ <;>
    simp [hs.states, hs.attempts, Table.keysNodup_nil]

theorem pollRecord_run (D : Digest) (hashPayload : Derivation → String) {s : AnalyticsState M}
    (hs : AnalyticsInitial s) (actions : List AnalyticsAction) :
    PollRecord (run (observedStep D hashPayload) ⟨s, fun _ => []⟩ actions) :=
  invariant_run_of_step _ (I := fun o : Observed M => PollRecord o)
    (fun _ _ h => pollRecord_step h) hs.pollRecord actions

/-! ## Windows -/

/-- The observation of an account: when it started, and the successful polls so far. -/
structure PollHistory where
  coverageStartedAt : Option Time
  ingests : List Ingest
deriving DecidableEq

/-- The history of an account. -/
def Observed.history (o : Observed M) (accountId : Id) : PollHistory where
  coverageStartedAt := (observationState accountId o.state.db.tables.domain).map
    ConnectorObservationState.coverageStartedAt
  ingests := o.ingests accountId

/-- A list up to its first element with a property. -/
def upToFirst (p : Time → Prop) [DecidablePred p] : List Time → List Time
  | [] => []
  | time :: times => if p time then [time] else time :: upToFirst p times

theorem exists_mem_upToFirst {p : Time → Prop} [DecidablePred p] {times : List Time} :
    (∃ time ∈ upToFirst p times, p time) ↔ ∃ time ∈ times, p time := by
  induction times with
  | nil => exact Iff.rfl
  | cons time times ih =>
      rw [upToFirst]
      split
      next htime => simp [htime]
      next htime =>
        rw [List.exists_mem_cons_iff, List.exists_mem_cons_iff, ih]

namespace PollHistory

/-- The successful polls from the start of a window to the first one at or after `required`. -/
def windowPolls (history : PollHistory) (start required : Time) : List Time :=
  upToFirst (fun time => required ≤ time)
    ((history.ingests.map Ingest.time).filter fun time => start ≤ time)

/-- A poll has found that the one before it was too long ago. -/
def FoundGap (history : PollHistory) : Prop :=
  ∃ ingest ∈ history.ingests, ingest.poll.gapDetected = true

/-- No poll has succeeded within the retention gap before `now`. -/
def Outdated (history : PollHistory) (now : Time) : Prop :=
  ∀ ingest ∈ history.ingests, telegramRetentionGap < now - ingest.time

/-- The coverage started in time for a window, and a poll has come after its grace. -/
structure Spans (history : PollHistory) (start required : Time) : Prop where
  started : ∃ time, history.coverageStartedAt = some time ∧ time ≤ start
  closed : ∃ time ∈ history.windowPolls start required, required ≤ time

variable {history history' : PollHistory} {start required now now' : Time}

instance : Decidable history.FoundGap :=
  inferInstanceAs (Decidable (∃ ingest ∈ history.ingests, ingest.poll.gapDetected = true))

instance : Decidable (history.Outdated now) :=
  inferInstanceAs (Decidable (∀ ingest ∈ history.ingests, telegramRetentionGap < now - ingest.time))

instance : Decidable (history.Spans start required) :=
  decidable_of_iff (history.coverageStartedAt.any (· ≤ start) = true ∧
      ∃ time ∈ history.windowPolls start required, required ≤ time)
    ⟨fun h => ⟨by simpa [Option.any_eq_true] using h.1, h.2⟩,
      fun h => ⟨by simpa [Option.any_eq_true] using h.started, h.closed⟩⟩

/-- The poll after the grace is one that the window sees. -/
theorem closed_iff (hle : start ≤ required) :
    (∃ time ∈ history.windowPolls start required, required ≤ time) ↔
      ∃ ingest ∈ history.ingests, required ≤ ingest.time := by
  rw [windowPolls, exists_mem_upToFirst]
  constructor
  · rintro ⟨time, htime, hrequired⟩
    obtain ⟨ingest, hingest, rfl⟩ := List.mem_map.mp (List.mem_filter.mp htime).1
    exact ⟨ingest, hingest, hrequired⟩
  · rintro ⟨ingest, hingest, hrequired⟩
    refine ⟨ingest.time, List.mem_filter.mpr ⟨List.mem_map_of_mem hingest, ?_⟩, hrequired⟩
    exact decide_eq_true (hle.trans hrequired)

/-- The status that a window gets from the history of its account. -/
def coverage (history : PollHistory) (start required now : Time) :
    AvailabilityStatus × CoverageStatus :=
  match history.coverageStartedAt with
  | none => (.unavailable, .unavailable)
  | some time =>
      if history.ingests = [] ∨ start < time then (.unavailable, .unavailable)
      else if history.FoundGap then (.partially, .partially)
      else if history.Outdated now then (.stale, .stale)
      else if ∃ time ∈ history.windowPolls start required, required ≤ time then
        (.available, .complete)
      else (.partially, .partially)

/-- Two histories that agree on when the coverage started and on the polls that a window sees. -/
structure SeenAlike (history history' : PollHistory) (start required : Time) : Prop where
  started : history.coverageStartedAt = history'.coverageStartedAt
  polls : history.windowPolls start required = history'.windowPolls start required

instance : Decidable (history.SeenAlike history' start required) :=
  decidable_of_iff (history.coverageStartedAt = history'.coverageStartedAt ∧
      history.windowPolls start required = history'.windowPolls start required)
    ⟨fun h => ⟨h.1, h.2⟩, fun h => ⟨h.started, h.polls⟩⟩

/-- Neither of them tells more than the other of what concerns the whole account. -/
structure Alike (history history' : PollHistory) (start required now now' : Time) : Prop
    extends SeenAlike history history' start required where
  polled : history.ingests = [] ↔ history'.ingests = []
  gap : history.FoundGap ↔ history'.FoundGap
  outdated : history.Outdated now ↔ history'.Outdated now'

instance : Decidable (history.Alike history' start required now now') :=
  decidable_of_iff (history.SeenAlike history' start required ∧
      (history.ingests = [] ↔ history'.ingests = []) ∧ (history.FoundGap ↔ history'.FoundGap) ∧
      (history.Outdated now ↔ history'.Outdated now'))
    ⟨fun h => ⟨h.1, h.2.1, h.2.2.1, h.2.2.2⟩, fun h => ⟨h.toSeenAlike, h.polled, h.gap, h.outdated⟩⟩

theorem Alike.coverage_eq (h : history.Alike history' start required now now') :
    history.coverage start required now = history'.coverage start required now' := by
  rw [coverage, coverage, h.started, h.polls]
  simp only [h.polled, h.gap, h.outdated]

/-- A window that is covered and closed is complete, unless a poll has found a gap at any time, or
the account has not been polled for too long. -/
theorem Spans.coverage_eq (h : history.Spans start required) :
    history.coverage start required now =
      if history.FoundGap then (.partially, .partially)
      else if history.Outdated now then (.stale, .stale)
      else (.available, .complete) := by
  obtain ⟨time, htime, hle⟩ := h.started
  have hpolled : ¬ (history.ingests = [] ∨ start < time) := by
    rintro (hnone | hlt)
    · obtain ⟨poll, hpoll, -⟩ := h.closed
      rw [windowPolls, hnone] at hpoll
      cases hpoll
    · exact absurd hle (not_le.mpr hlt)
  rw [coverage, htime]
  dsimp only
  rw [if_neg hpolled, if_pos h.closed]

end PollHistory

/-- `_metric_coverage` reads the history off the row. -/
theorem PollRecord.metricCoverage_eq {o : Observed M} (h : PollRecord o) (accountId : Id)
    {start stop now : Time} {graceSeconds : ℕ} (hle : start ≤ stop + seconds graceSeconds) :
    metricCoverage (observationState accountId o.state.db.tables.domain) start stop graceSeconds now =
      (o.history accountId).coverage start (stop + seconds graceSeconds) now := by
  cases hstate : observationState accountId o.state.db.tables.domain with
  | none =>
      rw [PollHistory.coverage, Observed.history, hstate]
      rfl
  | some state =>
      have hshown := h.rows.shown state (Table.mem_of_find hstate)
      rw [Table.key_of_find hstate] at hshown
      rw [PollHistory.coverage, Observed.history, hstate]
      simp only [metricCoverage, Option.map_some, PollHistory.FoundGap, PollHistory.Outdated,
        PollHistory.closed_iff hle]
      cases hlast : (o.ingests accountId).getLast? with
      | none =>
          rw [hshown.last, hlast, if_pos (.inl (List.getLast?_eq_none_iff.mp hlast))]
          rfl
      | some last =>
          have hmem : last ∈ o.ingests accountId := List.mem_of_getLast? hlast
          have hlatest := hshown.le_last hlast
          have hgap : state.gapDetected = true ↔
              ∃ ingest ∈ o.ingests accountId, ingest.poll.gapDetected = true := by
            rw [hshown.gap, List.any_eq_true]
          -- the last poll stands for all of them: it is outdated if all are, and too early if all are
          have houtdated : telegramRetentionGap < now - last.time ↔
              ∀ ingest ∈ o.ingests accountId, telegramRetentionGap < now - ingest.time := by
            constructor
            · intro hlt ingest hingest
              exact hlt.trans_le (Int.sub_le_sub_left (hlatest ingest hingest) now)
            · intro hall
              exact hall last hmem
          have hclosed : last.time < stop + seconds graceSeconds ↔
              ¬ ∃ ingest ∈ o.ingests accountId, stop + seconds graceSeconds ≤ ingest.time := by
            constructor
            · rintro hlt ⟨ingest, hingest, hle⟩
              exact absurd (hle.trans (hlatest ingest hingest)) (not_le.mpr hlt)
            · intro hnone
              exact not_le.mp fun hle => hnone ⟨last, hmem, hle⟩
          rw [hshown.last, hlast, Option.map_some]
          simp only [List.ne_nil_of_mem hmem, false_or, hgap, houtdated, hclosed, ite_not]

/-! ## Calculations -/

/-- When a window and its grace are over. -/
def MetricInputs.required (inputs : MetricInputs) : Time :=
  inputs.derivation.sourceWindowEnd + seconds inputs.checkpoint.graceSeconds

/-- A calculation for a window of an account. -/
structure MetricInputs.IsFor (inputs : MetricInputs) (accountId : Id) (start required : Time) :
    Prop where
  account : inputs.external.connectorAccountId = accountId
  start : inputs.derivation.sourceWindowStart = start
  required : inputs.required = required

/-- What a metric reports. -/
def MetricVersion.coverage (metric : MetricVersion) : AvailabilityStatus × CoverageStatus :=
  (metric.availabilityStatus, metric.coverageStatus)

/-- What a calculation would read now, the metric that it would return, and whether it is new. -/
def Observed.calculation (o : Observed M) (hashPayload : Derivation → String) (now : Time)
    (scope : TenantScope) (publicationId : Id) :
    Except JobError (MetricInputs × MetricVersion × Bool) := do
  let inputs ← metricInputs now scope publicationId o.state.db.tables.domain
  let (result, _) ← calculateMetricVersion hashPayload now scope publicationId o.state.db
  return (inputs, result)

/-- A calculation for a window returns a metric that is new, or no two derivations have the same
hash. -/
def Observed.Calculates (o : Observed M) (hashPayload : Derivation → String) (accountId : Id)
    (start required now : Time) (metric : MetricVersion) : Prop :=
  ∃ scope publicationId inputs created,
    o.calculation hashPayload now scope publicationId = .ok (inputs, metric, created) ∧
    inputs.IsFor accountId start required ∧ (created = true ∨ Function.Injective hashPayload)

/-- A new metric that a calculation would return. -/
theorem Observed.calculates_of_map {o : Observed M} {hashPayload : Derivation → String}
    (scope : TenantScope) (publicationId : Id) {accountId : Id} {start required now : Time}
    {status : AvailabilityStatus × CoverageStatus}
    (h : (o.calculation hashPayload now scope publicationId).map (fun result =>
      (result.1.external.connectorAccountId, result.1.derivation.sourceWindowStart,
        result.1.required, result.2.1.coverage, result.2.2)) =
      .ok (accountId, start, required, status, true)) :
    ∃ metric, o.Calculates hashPayload accountId start required now metric ∧
      metric.coverage = status := by
  obtain ⟨⟨inputs, metric, created⟩, hresult, heq⟩ := Except.map_eq_ok_iff.mp h
  simp only [Prod.mk.injEq] at heq
  obtain ⟨haccount, hstart, hrequired, hstatus, hcreated⟩ := heq
  exact ⟨metric, ⟨scope, publicationId, inputs, created, hresult,
    ⟨haccount, hstart, hrequired⟩, .inl hcreated⟩, hstatus⟩

theorem metricInputs_coverage {now : Time} {scope : TenantScope} {publicationId : Id}
    {t : AnalyticsTables} {inputs : MetricInputs}
    (h : metricInputs now scope publicationId t = .ok inputs) :
    metricCoverage (observationState inputs.external.connectorAccountId t)
        inputs.derivation.sourceWindowStart inputs.derivation.sourceWindowEnd
        inputs.checkpoint.graceSeconds now =
      (inputs.derivation.availability, inputs.derivation.coverage) := by
  unfold metricInputs at h
  obtain ⟨_, -, h⟩ := Except.bind_eq_ok_iff.mp h
  obtain ⟨⟨checkpoint, external⟩, -, h⟩ := Except.bind_eq_ok_iff.mp h
  obtain ⟨_, -, h⟩ := Except.bind_eq_ok_iff.mp h
  cases h
  rfl

/-- The window comes before the end of its grace. -/
theorem MetricInputs.Reads.start_le {now : Time} {scope : TenantScope} {publicationId : Id}
    {t : AnalyticsTables} {inputs : MetricInputs} (h : inputs.Reads now scope publicationId t) :
    inputs.derivation.sourceWindowStart ≤ inputs.required := by
  have hstop := h.stop
  simp only [MetricInputs.required, seconds, Time, Duration] at *
  omega

/-- A metric reports what the history of its account gives its window. -/
theorem Observed.Calculates.coverage_eq {o : Observed M} {hashPayload : Derivation → String}
    {accountId : Id} {start required now : Time} {metric : MetricVersion}
    (h : o.Calculates hashPayload accountId start required now metric) (hrecord : PollRecord o)
    (hhistory : MetricHistory hashPayload o.state.db.nextId o.state.db.tables.domain) :
    metric.coverage = (o.history accountId).coverage start required now := by
  obtain ⟨scope, publicationId, inputs, created, hcalculation, ⟨rfl, rfl, rfl⟩, hhash⟩ := h
  obtain ⟨inputs', hinputs, hcalculation⟩ := Except.bind_eq_ok_iff.mp hcalculation
  obtain ⟨⟨result, db⟩, hresult, hpure⟩ := Except.bind_eq_ok_iff.mp hcalculation
  cases hpure
  have hcalculated := ensures_calculated hashPayload now scope publicationId o.state.db _ _ hresult
  obtain ⟨inputs', hinputs', hholds⟩ := hcalculated.holds hhistory hhash
  obtain rfl : inputs = inputs' := Except.ok.inj (hinputs.symm.trans hinputs')
  rw [MetricVersion.coverage, hholds.availability, hholds.coverage, ← metricInputs_coverage hinputs]
  exact hrecord.metricCoverage_eq _ (metricInputs_reads hinputs).start_le

/-- In every two runs, two windows with the same bounds are reported alike if their accounts have
histories that agree on when the coverage started, on the polls that the windows see, and on what the
row of an account keeps besides: whether there was a poll, whether one has found a gap, and whether
the last one is outdated. A window that is covered and closed is `PARTIAL` if a poll has found a gap,
`STALE` if not but the last poll is outdated, and `AVAILABLE` otherwise. -/
theorem coverage_local (D : Digest) (hashPayload : Derivation → String) {s₁ s₂ : AnalyticsState M}
    (hs₁ : AnalyticsInitial s₁) (hs₂ : AnalyticsInitial s₂) (actions₁ actions₂ : List AnalyticsAction)
    {accountId : Id} {start required now₁ now₂ : Time} {metric₁ metric₂ : MetricVersion} :
    let o₁ := run (observedStep D hashPayload) ⟨s₁, fun _ => []⟩ actions₁
    let o₂ := run (observedStep D hashPayload) ⟨s₂, fun _ => []⟩ actions₂
    o₁.Calculates hashPayload accountId start required now₁ metric₁ →
    o₂.Calculates hashPayload accountId start required now₂ metric₂ →
    ((o₁.history accountId).Alike (o₂.history accountId) start required now₁ now₂ →
      metric₁.coverage = metric₂.coverage) ∧
    ((o₁.history accountId).Spans start required → metric₁.coverage =
      if (o₁.history accountId).FoundGap then (.partially, .partially)
      else if (o₁.history accountId).Outdated now₁ then (.stale, .stale)
      else (.available, .complete)) := by
  intro o₁ o₂ hcalculates₁ hcalculates₂
  have hstatus : ∀ {s : AnalyticsState M} (hs : AnalyticsInitial s) (actions : List AnalyticsAction)
      {now : Time} {metric : MetricVersion},
      (run (observedStep D hashPayload) ⟨s, fun _ => []⟩ actions).Calculates hashPayload accountId
        start required now metric →
      metric.coverage = ((run (observedStep D hashPayload) ⟨s, fun _ => []⟩ actions).history
        accountId).coverage start required now := by
    intro s hs actions now metric hcalculates
    refine hcalculates.coverage_eq (pollRecord_run D hashPayload hs actions) ?_
    rw [run_observedStep_state]
    exact metricHistory_run D (hs.metricHistory hashPayload) actions
  rw [hstatus hs₁ actions₁ hcalculates₁, hstatus hs₂ actions₂ hcalculates₂]
  exact ⟨fun halike => halike.coverage_eq, fun hspans => hspans.coverage_eq⟩

/-! ### Polls that a window does not see -/

/-- The account is polled, by the job with this id. -/
def polled (cycleId : String) (jobId : Id) : List AnalyticsAction :=
  .command (.enqueueTelegramObservationJob demoScope 1 cycleId) :: runJob jobId [{}, {}]

/-- The account is observed, and `between` happens before the post is published, whose action gets
the id `actionId`, and whose job the id `jobId`. -/
def publishedLater (between : List AnalyticsAction) (actionId jobId : Id) : List AnalyticsAction :=
  publishedExperiment.take 3 ++ between ++
    [.command (.execution (.createActionProposal demoScope 101 1)),
      .command (.execution (.approveActionProposal demoScope actionId "owner")), .tick hour,
      .claim applicationWorker jobId, .start ⟨jobId, 1⟩, .proceed ⟨jobId, 1⟩ {},
      .proceed ⟨jobId, 1⟩ { outcome := .published "7" "@channel" }, .tick (2 * hour)]

/-- The post is polled after its window, and not again for thirty hours. -/
def outageAfter : List AnalyticsAction :=
  publishedExperiment ++ .tick (2 * hour) :: polled "cycle" 19 ++ [.tick (30 * hour)]

/-- It is polled once more in between. -/
def pollAfter : List AnalyticsAction :=
  publishedExperiment ++ .tick (2 * hour) :: polled "cycle" 19 ++ .tick (15 * hour) ::
    polled "next" 21 ++ [.tick (15 * hour)]

/-- Two polls of the account are a day apart, and then the post is published and polled. -/
def gapBefore : List AnalyticsAction :=
  publishedLater (polled "first" 3 ++ .tick (24 * hour) :: polled "second" 4) 5 16 ++ polled "cycle" 21

/-- The first of them is missing. -/
def noGapBefore : List AnalyticsAction :=
  publishedLater (.tick (24 * hour) :: polled "second" 3) 4 15 ++ polled "cycle" 20

/-- The system after these steps, with its record. -/
def demoObserved (actions : List AnalyticsAction) : Observed Unit :=
  run (observedStep plainDigest plainHash) ⟨analyticsStart, fun _ => []⟩ actions

/-- An outage after a window, and a gap before another one, each covered and closed: with and without
them the windows have seen the same polls. -/
theorem coverage_not_local :
    (((demoObserved outageAfter).history 1).SeenAlike ((demoObserved pollAfter).history 1)
        3600000000 7260000000 ∧
      ((demoObserved outageAfter).history 1).Spans 3600000000 7260000000 ∧
      (∃ metric, (demoObserved outageAfter).Calculates plainHash 1 3600000000 7260000000
        118800000000 metric ∧ metric.coverage = (.stale, .stale)) ∧
      ∃ metric, (demoObserved pollAfter).Calculates plainHash 1 3600000000 7260000000
        118800000000 metric ∧ metric.coverage = (.available, .complete)) ∧
    ((demoObserved gapBefore).history 1).SeenAlike ((demoObserved noGapBefore).history 1)
        90000000000 93660000000 ∧
      ((demoObserved gapBefore).history 1).Spans 90000000000 93660000000 ∧
      (∃ metric, (demoObserved gapBefore).Calculates plainHash 1 90000000000 93660000000
        97200000000 metric ∧ metric.coverage = (.partially, .partially)) ∧
      ∃ metric, (demoObserved noGapBefore).Calculates plainHash 1 90000000000 93660000000
        97200000000 metric ∧ metric.coverage = (.available, .complete) := by
  refine ⟨⟨by decide +kernel, by decide +kernel, ?_, ?_⟩, by decide +kernel, by decide +kernel, ?_, ?_⟩
  · exact Observed.calculates_of_map demoScope 15 (by decide +kernel)
  · exact Observed.calculates_of_map demoScope 15 (by decide +kernel)
  · exact Observed.calculates_of_map demoScope 17 (by decide +kernel)
  · exact Observed.calculates_of_map demoScope 16 (by decide +kernel)

/-- The window of the first post is complete three hours after the publication, and thirty hours after
that, since the account is polled in between. -/
theorem coverage_kept :
    ∃ metric metric' : MetricVersion, metric.coverage = metric'.coverage ∧
      metric.coverage = (.available, .complete) ∧
      (demoObserved outageAfter).Calculates plainHash 1 3600000000 7260000000 10800000000 metric ∧
      (demoObserved pollAfter).Calculates plainHash 1 3600000000 7260000000 118800000000 metric' := by
  obtain ⟨metric, hmetric, hstatus⟩ : ∃ metric, (demoObserved outageAfter).Calculates plainHash 1
      3600000000 7260000000 10800000000 metric ∧ metric.coverage = (.available, .complete) :=
    Observed.calculates_of_map demoScope 15 (by decide +kernel)
  obtain ⟨metric', hmetric', -⟩ : ∃ metric, (demoObserved pollAfter).Calculates plainHash 1
      3600000000 7260000000 118800000000 metric ∧ metric.coverage = (.available, .complete) :=
    Observed.calculates_of_map demoScope 15 (by decide +kernel)
  have hlocal := coverage_local plainDigest plainHash analyticsStart_initial analyticsStart_initial
    outageAfter pollAfter hmetric hmetric'
  exact ⟨metric, metric', hlocal.1 (by decide +kernel), hstatus, hmetric, hmetric'⟩

end LaunchOS.Analytics
