import LaunchOS.Analytics.Coverage

/-!
# Zero

A metric says zero if no event is counted under complete coverage. Nothing it reads tells which
updates the bot was asked for.

The module introduces:

* `transaction_metrics`: metrics are only added, and only by calculations;
* `Subscribes`, `PollsSubscribed`: a poll asks for reactions of both classes;
* `MetricVersion.ZeroLegal`: what a zero should mean;
* `zero_metric_legal`: that it means this where every poll is made so;
* a run in which the reactions are unsubscribed before the post is polled.
-/

namespace LaunchOS.Analytics

open Txn Transition

variable {M : Type}

/-! ## Where metrics come from -/

/-- Metrics are only added, and only by calculations. -/
def AddsMetrics (now : Time) (db db' : AgentDatabase M AnalyticsTables) : Prop :=
  ∀ metric ∈ db'.tables.domain.metricVersions, metric ∈ db.tables.domain.metricVersions ∨
    metric.ReadFrom now db.tables.domain

/-- The same metrics. -/
def SameMetrics (t t' : AnalyticsTables) : Prop := t'.metricVersions = t.metricVersions

instance : IsPreorder AnalyticsTables SameMetrics where
  refl _ := rfl
  trans _ _ _ h h' := h'.trans h

theorem ingestWrites_sameMetrics : IngestWrites SameMetrics := by
  constructor <;> intros <;> rfl

theorem transaction_metrics {hashPayload : Derivation → String} {now : Time}
    {transaction : AnalyticsTransaction} {db db' : AgentDatabase M AnalyticsTables}
    (h : exec (transaction.run hashPayload now) db = .ok db') : AddsMetrics now db db' := by
  have hf := domainRelation_frames (M := M) (r := SameMetrics) now fun _ => true
  have hsame : Within (Frames SameMetrics) (transaction.run (M := M) hashPayload now) →
      AddsMetrics now db db' := by
    intro hwithin metric hmetric
    have hdb : Frames SameMetrics db db' := Ensures.of_exec (hwithin db) h
    rw [show db'.tables.domain.metricVersions = db.tables.domain.metricVersions from hdb.domain]
      at hmetric
    exact .inl hmetric
  cases transaction with
  | configure scope accountId types =>
      exact hsame (within_configureTelegramObservation hf (fun _ _ => rfl) scope accountId types)
  | ingest scope accountId update =>
      exact hsame (hf.bind (within_ingestTelegramUpdate hf ingestWrites_sameMetrics _ _ _ _)
        fun _ => hf.pure _)
  | normalize context observationId =>
      exact hsame (within_normalizeConnectorObservation hf ingestWrites_sameMetrics context _)
  | commitPoll context accountId poll updates =>
      exact hsame (within_finishPoll hf ingestWrites_sameMetrics (fun _ _ => rfl) context accountId
        poll _ fun publicationId => framesWithin_createJob now _)
  | calculate scope publicationId =>
      obtain ⟨_, hrun⟩ := exec_eq_ok_iff.mp h
      obtain ⟨⟨result, db₁⟩, hcalculate, hpure⟩ := Except.bind_eq_ok_iff.mp hrun
      cases hpure
      exact (calculateMetricVersion_metrics hashPayload scope publicationId _ _ hcalculate).2.2.2
  | recordEvent scope eventType occurredAt publicationId =>
      exact hsame (within_createBusinessEvent hf (fun _ _ => rfl) _ _ _ _)
  | publish scope request messageId chatId =>
      refine hsame (framesWithin_zoom (r := fun _ _ => True) ?_ fun _ _ _ => rfl)
      have : IsPreorder ExecutionTables fun _ _ => True :=
        { refl := fun _ => trivial, trans := fun _ _ _ _ _ => trivial }
      exact within_settleExecution ServiceWrites.top.handler (domainRelation_frames now fun _ => true) .top _ _ _
  | foreign effect =>
      exact hsame (within_performForeign hf ⟨fun _ _ _ => rfl, fun _ _ => rfl⟩ effect
        fun work => framesWithin_perform now _ _ work)

/-! ## What a zero means -/

/-- The bot is asked for reactions of both classes. -/
def Subscribes (allowedUpdateTypes : List String) : Prop :=
  "message_reaction" ∈ allowedUpdateTypes ∧ "message_reaction_count" ∈ allowedUpdateTypes

instance (types : List String) : Decidable (Subscribes types) := by
  unfold Subscribes
  infer_instance

/-- The polls that covered a part of a window: after its start, and not after a poll that was past its
end. -/
def coveringIngests (start stop : Time) (ingests : List Ingest) : List Ingest :=
  ingests.filter fun ingest => decide (start < ingest.time) &&
    ingests.all fun earlier => !decide (earlier.time < ingest.time) || decide (earlier.time < stop)

/-- A zero stands for complete coverage without an event, by polls that asked for reactions. -/
def MetricVersion.ZeroLegal (metric : MetricVersion) (ingests : Id → List Ingest) : Prop :=
  metric.valueNumeric = some 0 →
    metric.coverageStatus = .complete ∧ metric.includedBusinessEventIds = [] ∧
      ∀ ingest ∈ coveringIngests metric.sourceWindowStart metric.sourceWindowEnd
        (ingests metric.sourceConnectorAccountId),
        Subscribes ingest.poll.loaded.allowedUpdateTypes

instance (metric : MetricVersion) (ingests : Id → List Ingest) :
    Decidable (metric.ZeroLegal ingests) := by
  unfold MetricVersion.ZeroLegal
  infer_instance

/-- A call of `get_updates` that is about to be made asks for reactions of both classes. -/
def PollsSubscribed (s : AnalyticsState M) : AnalyticsAction → Prop
  | .proceed a _ =>
      match s.attempts a with
      | some ⟨_, .running _ (.observeUpdates accountId) (.execution _)⟩ =>
          ∀ state ∈ s.db.tables.domain.connectorObservationStates,
            state.connectorAccountId = accountId → Subscribes state.allowedUpdateTypes
      | _ => True
  | _ => True

theorem pollsSubscribed_iff {s : AnalyticsState M} {action : AnalyticsAction} :
    PollsSubscribed s action ↔ ∀ accountId ∈ askingAccount s action,
      ∀ state ∈ s.db.tables.domain.connectorObservationStates,
        state.connectorAccountId = accountId → Subscribes state.allowedUpdateTypes := by
  cases action with
  | proceed a answer =>
      simp only [PollsSubscribed, askingAccount]
      rcases s.attempts a with _ | ⟨_, _ | ⟨_, payload, progress⟩ | _⟩
      case proceed.some.running => cases payload <;> cases progress <;> simp
      all_goals simp
  | _ => simp [PollsSubscribed, askingAccount]

instance (s : AnalyticsState M) (action : AnalyticsAction) :
    Decidable (PollsSubscribed s action) :=
  decidable_of_iff _ pollsSubscribed_iff.symm

/-- Every poll of the record and every poll under way has asked for reactions. -/
structure ZeroSound (o : Observed M) : Prop where
  metrics : ∀ metric ∈ o.state.db.tables.domain.metricVersions, metric.valueNumeric = some 0 →
    metric.coverageStatus = .complete ∧ metric.includedBusinessEventIds = []
  polls : ∀ a worker context payload poll reply, o.state.attempts a =
    some ⟨worker, .running context payload (.polling poll reply)⟩ →
      Subscribes poll.loaded.allowedUpdateTypes
  ingests : ∀ accountId, ∀ ingest ∈ o.ingests accountId,
    Subscribes ingest.poll.loaded.allowedUpdateTypes

theorem metricCoverage_available {state : Option ConnectorObservationState} {start stop now : Time}
    {graceSeconds : ℕ} {coverage : CoverageStatus}
    (h : metricCoverage state start stop graceSeconds now = (.available, coverage)) :
    coverage = .complete := by
  unfold metricCoverage at h
  repeat' split at h
  all_goals simp_all

theorem MetricVersion.ReadFrom.zero_complete {metric : MetricVersion} {now : Time}
    {t : AnalyticsTables} (h : metric.ReadFrom now t) (hzero : metric.valueNumeric = some 0) :
    metric.coverageStatus = .complete ∧ metric.includedBusinessEventIds = [] := by
  obtain ⟨havailable, hevents⟩ := h.zero hzero
  obtain ⟨checkpoint, -, -, hcoverage⟩ := h.checkpoint
  rw [havailable] at hcoverage
  exact ⟨metricCoverage_available hcoverage, hevents⟩

section Step

variable {D : Digest} {hashPayload : Derivation → String} {o : Observed M} {action : AnalyticsAction}

/-- A poll in the record comes from one that was under way. -/
theorem mem_ingestsOf {s : AnalyticsState M} {accountId : Id} {ingest : Ingest}
    (h : ingest ∈ ingestsOf D hashPayload accountId action s) :
    ∃ a worker context payload reply,
      s.attempts a = some ⟨worker, .running context payload (.polling ingest.poll reply)⟩ := by
  unfold ingestsOf at h
  split at h
  next a answer =>
    split at h
    next worker context payload poll reply ha =>
      split at h
      next =>
        split at h
        · rw [List.mem_singleton.mp h]
          exact ⟨a, worker, context, payload, reply, ha⟩
        · cases h
      next => cases h
    next => cases h
  next => cases h

theorem zeroSound_step (h : ZeroSound o) (hsubscribed : PollsSubscribed o.state action) :
    ZeroSound (observedStep D hashPayload action o) := by
  refine ⟨?_, ?_, ?_⟩
  · intro metric hmetric hzero
    cases analytics_step D hashPayload action o.state with
    | quiet hframes hingests =>
        have hsame : (observedStep D hashPayload action o).state.db.tables.domain.metricVersions =
            o.state.db.tables.domain.metricVersions := hframes.domain.metrics
        rw [hsame] at hmetric
        exact h.metrics metric hmetric hzero
    | ran transaction db hfrom hrun hframes hingests =>
        have hsame : db.tables.domain =
            (observedStep D hashPayload action o).state.db.tables.domain := hframes.domain
        rw [← hsame] at hmetric
        rcases transaction_metrics hrun metric hmetric with hold | hnew
        · exact h.metrics metric hold hzero
        · exact hnew.zero_complete hzero
  · intro a worker context payload poll reply ha
    rcases polling_step ha with hbefore |
      ⟨accountId, answer, progress, rfl, hbefore, rfl, -, hbegin, -⟩
    · exact h.polls a worker context payload poll reply hbefore
    · obtain ⟨hloaded, haccount, -, -⟩ := beginPoll_eq_ok hbegin
      simp only [PollsSubscribed, hbefore] at hsubscribed
      exact hsubscribed poll.loaded hloaded haccount
  · intro accountId ingest hmem
    rw [observedStep_ingests] at hmem
    rcases List.mem_append.mp hmem with hold | hnew
    · exact h.ingests accountId ingest hold
    · obtain ⟨a, worker, context, payload, reply, ha⟩ := mem_ingestsOf hnew
      exact h.polls a worker context payload ingest.poll reply ha

end Step

/-! ## Runs -/

theorem AnalyticsInitial.zeroSound {s : AnalyticsState M} (hs : AnalyticsInitial s) :
    ZeroSound ⟨s, fun _ => []⟩ := by
  constructor <;> simp [hs.attempts, hs.metrics]

/-- In every run whose calls of `get_updates` ask for reactions of both classes, a zero means complete
coverage without an event, by polls that asked for reactions. -/
theorem zero_metric_legal (D : Digest) (hashPayload : Derivation → String)
    {s : AnalyticsState M} (hs : AnalyticsInitial s) {actions : List AnalyticsAction}
    (hsubscribed : Guarded (observedStep D hashPayload)
      (fun o action => PollsSubscribed o.state action) ⟨s, fun _ => []⟩ actions) :
    let o := run (observedStep D hashPayload) ⟨s, fun _ => []⟩ actions
    ∀ metric ∈ o.state.db.tables.domain.metricVersions, metric.ZeroLegal o.ingests := by
  have hsound : ZeroSound (run (observedStep D hashPayload) ⟨s, fun _ => []⟩ actions) :=
    invariant_run (I := fun o => ZeroSound o)
      (fun _ _ h hsubscribed => zeroSound_step h hsubscribed) hs.zeroSound hsubscribed
  intro o metric hmetric hzero
  obtain ⟨hcomplete, hevents⟩ := hsound.metrics metric hmetric hzero
  exact ⟨hcomplete, hevents, fun ingest hingest =>
    hsound.ingests _ ingest (List.mem_filter.mp hingest).1⟩

/-! ### Polls that ask for no reactions, and polls that do -/

/-- The update types change after the publication, and two hours later the post is polled. -/
def polledWith (types : List String) : List AnalyticsAction :=
  publishedExperiment ++
    .command (.configureTelegramObservation demoScope 1 types) :: .tick (2 * hour) ::
      .command (.enqueueTelegramObservationJob demoScope 1 "cycle") ::
        runJob 19 [{}, {}] ++ runJob 20 [{}]

/-- A post whose reactions nobody has asked for has zero reactions. -/
theorem unsubscribed_zero_not_legal :
    let o := run (observedStep plainDigest plainHash) ⟨analyticsStart, fun _ => []⟩
      (polledWith ["channel_post"])
    ∃ metric ∈ o.state.db.tables.domain.metricVersions, ¬ metric.ZeroLegal o.ingests := by
  decide +kernel

theorem subscribed_zero_legal :
    let o := run (observedStep plainDigest plainHash) ⟨analyticsStart, fun _ => []⟩
      (polledWith telegramAllowedUpdates)
    (∃ metric ∈ o.state.db.tables.domain.metricVersions, metric.valueNumeric = some 0) ∧
      ∀ metric ∈ o.state.db.tables.domain.metricVersions, metric.ZeroLegal o.ingests :=
  ⟨by decide +kernel,
    zero_metric_legal plainDigest plainHash analyticsStart_initial (by decide +kernel)⟩

end LaunchOS.Analytics
