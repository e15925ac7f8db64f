import LaunchOS.Analytics.App
import LaunchOS.Execution.AtMostOnce

/-!
# Steps of the analytics

Most steps leave observations, events, metrics and publications alone. The others run one of eight
transactions.

The module introduces:

* `SamePublications`, `SameObservations`: what the other steps leave alone;
* `AnalyticsTransaction`: the transactions that write these tables;
* `analytics_step`: every step is one or the other;
* `polling_step`, `bot_step`: where polls and calls come from;
* `Ingest`, `RuntimeState.ingests`: the polls that have committed, which the tables only keep the last
  of;
* `Observed`: the system together with this record.
-/

namespace LaunchOS.Analytics

open Txn Transition

variable {M : Type}

/-! ## What most transactions leave alone -/

/-- The same checkpoints and publications. -/
structure SamePublications (t t' : ExecutionTables) : Prop where
  checkpoints : t'.checkpointDefinitions = t.checkpointDefinitions
  publications : t'.publications = t.publications
  references : t'.externalReferences = t.externalReferences
  links : t'.publicationExecutionLinks = t.publicationExecutionLinks

instance : IsPreorder ExecutionTables SamePublications where
  refl _ := ⟨rfl, rfl, rfl, rfl⟩
  trans _ _ _ h h' := ⟨h'.checkpoints.trans h.checkpoints, h'.publications.trans h.publications,
    h'.references.trans h.references, h'.links.trans h.links⟩

theorem commandWrites_samePublications : CommandWrites SamePublications := by
  constructor <;> intros <;> exact ⟨rfl, rfl, rfl, rfl⟩

theorem serviceWrites_samePublications : ServiceWrites SamePublications :=
  ⟨commandWrites_samePublications, fun _ _ _ => ⟨rfl, rfl, rfl, rfl⟩⟩

theorem proposalWrites_samePublications : ProposalWrites SamePublications := by
  constructor <;> intros <;> exact ⟨rfl, rfl, rfl, rfl⟩

/-- The same observations, events, metrics, checkpoints and publications, and no less evidence. -/
structure SameObservations (t t' : AnalyticsTables) : Prop
    extends SamePublications t.toExecutionTables t'.toExecutionTables where
  states : t'.connectorObservationStates = t.connectorObservationStates
  observations : t'.connectorObservations = t.connectorObservations
  events : t'.businessEvents = t.businessEvents
  normalized : t'.normalizedObservationLinks = t.normalizedObservationLinks
  metrics : t'.metricVersions = t.metricVersions
  evidence : t.evidence ⊆ t'.evidence

theorem SamePublications.sameObservations {t : AnalyticsTables} {s : ExecutionTables}
    (h : SamePublications t.toExecutionTables s) :
    SameObservations t (executionView.set s t) :=
  { toSamePublications := h
    states := rfl
    observations := rfl
    events := rfl
    normalized := rfl
    metrics := rfl
    evidence := List.Subset.refl _ }

instance : IsPreorder AnalyticsTables SameObservations where
  refl t := (refl t.toExecutionTables : SamePublications _ _).sameObservations
  trans _ _ _ h h' :=
    { toSamePublications := trans_of SamePublications h.toSamePublications h'.toSamePublications
      states := h'.states.trans h.states
      observations := h'.observations.trans h.observations
      events := h'.events.trans h.events
      normalized := h'.normalized.trans h.normalized
      metrics := h'.metrics.trans h.metrics
      evidence := List.Subset.trans h.evidence h'.evidence }

theorem learningWrites_sameObservations : LearningWrites SameObservations := by
  constructor <;> intros <;>
    exact ⟨⟨rfl, rfl, rfl, rfl⟩, rfl, rfl, rfl, rfl, rfl, List.Subset.refl _⟩

/-! ## The transactions -/

/-- The transactions that write observations, events, metrics, checkpoints or publications. -/
inductive AnalyticsTransaction
  | configure (scope : TenantScope) (connectorAccountId : Id) (allowedUpdateTypes : List String)
  | ingest (scope : TenantScope) (connectorAccountId : Id) (update : TelegramUpdate)
  | normalize (context : RuntimeJobContext) (observationId : Id)
  | commitPoll (context : RuntimeJobContext) (connectorAccountId : Id) (poll : Poll)
      (updates : List QueuedUpdate)
  | calculate (scope : TenantScope) (publicationId : Id)
  | recordEvent (scope : TenantScope) (eventType : String) (occurredAt : Time)
      (publicationId : Option Id)
  | publish (scope : TenantScope) (request : PublishRequest) (messageId chatId : String)
  | foreign (effect : ForeignWrite)

/-- Run it. -/
def AnalyticsTransaction.run (hashPayload : Derivation → String) (now : Time) :
    AnalyticsTransaction → AnalyticsTxn M Unit
  | .configure scope connectorAccountId allowedUpdateTypes =>
      configureTelegramObservation now scope connectorAccountId allowedUpdateTypes
  | .ingest scope connectorAccountId update => do
      let _ ← ingestTelegramUpdate scope connectorAccountId update now
  | .normalize context observationId => normalizeConnectorObservation context observationId
  | .commitPoll context connectorAccountId poll updates =>
      finishPoll context connectorAccountId now poll (updates.map QueuedUpdate.json)
  | .calculate scope publicationId => do
      let _ ← calculateMetricVersion hashPayload now scope publicationId
  | .recordEvent scope eventType occurredAt publicationId =>
      createBusinessEvent now scope eventType occurredAt publicationId
  | .publish scope request messageId chatId =>
      (settleExecution now scope request (.published messageId chatId)).zoom executionView
  | .foreign effect => effect.perform now

/-- Where a transaction comes from, as far as it matters. -/
def AnalyticsTransaction.From (s : AnalyticsState M) (action : AnalyticsAction) :
    AnalyticsTransaction → Prop
  | .configure scope connectorAccountId allowedUpdateTypes =>
      action = .command (.configureTelegramObservation scope connectorAccountId allowedUpdateTypes)
  | .commitPoll context connectorAccountId poll updates => ∃ a worker answer,
      action = .proceed a answer ∧ context.jobType = .connectorTelegramObserveUpdates ∧
        s.attempts a = some ⟨worker,
          .running context (.observeUpdates connectorAccountId) (.polling poll (.ok updates))⟩
  | .recordEvent scope eventType occurredAt publicationId =>
      action = .command (.createBusinessEvent scope eventType occurredAt publicationId)
  | _ => True

/-! ### Commands and handlers -/

section Classify

variable {D : Digest} {hashPayload : Derivation → String} {now : Time}
variable {db db' : AgentDatabase M AnalyticsTables}

/-- A transaction of the execution service that is no publication. -/
theorem framesWithin_executionCommand (c : ExecutionCommand) :
    Within (Frames SameObservations) (executionCommand (M := M) D now c) := by
  have h := domainRelation_frames (M := M) (r := SamePublications) now fun _ => true
  have hrun : (∀ effect, c ≠ .foreign effect) →
      Within (Frames SameObservations) ((c.run (M := M) D now).zoom executionView) := by
    intro hforeign
    refine framesWithin_zoom (r := SamePublications) ?_ fun t s hs => hs.sameObservations
    exact within_run proposalWrites_samePublications h commandWrites_samePublications D c
      (fun scope actionId executionId => framesWithin_createJob now _)
      fun effect heq => absurd heq (hforeign effect)
  cases c with
  | foreign effect => exact (domainRelation_frames now fun _ => true).pure ()
  | _ => exact hrun (by simp)

/-- A command is quiet or one of the transactions. -/
theorem command_cases {c : AnalyticsCommand} (h : exec (c.run D hashPayload now) db = .ok db')
    (s : AnalyticsState M) :
    Frames SameObservations db db' ∨ ∃ transaction : AnalyticsTransaction,
      transaction.From s (.command c) ∧ exec (transaction.run hashPayload now) db = .ok db' := by
  have hf := domainRelation_frames (M := M) (r := SameObservations) now fun _ => true
  have hquiet : Within (Frames SameObservations) (c.run (M := M) D hashPayload now) →
      Frames SameObservations db db' := fun hw => Ensures.of_exec (hw db) h
  cases c with
  | execution c => exact .inl (hquiet (framesWithin_executionCommand c))
  | configureTelegramObservation scope connectorAccountId allowedUpdateTypes =>
      exact .inr ⟨.configure scope connectorAccountId allowedUpdateTypes, rfl, h⟩
  | enqueueTelegramObservationJob scope connectorAccountId cycleId =>
      exact .inl (hquiet (hf.bind (framesWithin_createJob now _) fun _ => hf.pure _))
  | enqueueCheckpointInterpretationJob scope metricVersionId =>
      refine .inl (hquiet (hf.bind hf.tables fun t => hf.bind (hf.check _) fun metric => ?_))
      refine hf.bind (hf.check _) fun _ => ?_
      exact hf.bind (framesWithin_createJob now _) fun _ => hf.pure _
  | ingestTelegramUpdate scope connectorAccountId update =>
      exact .inr ⟨.ingest scope connectorAccountId update, trivial, h⟩
  | calculateMetricVersion scope publicationId =>
      exact .inr ⟨.calculate scope publicationId, trivial, h⟩
  | interpretCheckpoint scope metricVersionId =>
      exact .inl (hquiet (hf.bind (within_interpretCheckpoint hf learningWrites_sameObservations _ _)
        fun _ => hf.pure _))
  | createGovernedLearning scope experimentResultId =>
      exact .inl (hquiet (hf.bind
        (within_createGovernedLearning hf learningWrites_sameObservations _ _) fun _ => hf.pure _))
  | createBusinessEvent scope eventType occurredAt publicationId =>
      exact .inr ⟨.recordEvent scope eventType occurredAt publicationId, rfl, h⟩
  | createSourceRecord scope provider externalId =>
      exact .inl (hquiet (within_createSourceRecord hf
        (fun _ _ => ⟨⟨rfl, rfl, rfl, rfl⟩, rfl, rfl, rfl, rfl, rfl, List.Subset.refl _⟩) _ _ _))
  | createEvidence scope sourceRecordId status =>
      exact .inl (hquiet (within_createEvidence hf
        (fun _ _ => ⟨⟨rfl, rfl, rfl, rfl⟩, rfl, rfl, rfl, rfl, rfl, List.subset_append_left _ _⟩)
        _ _ _))
  | foreign effect => exact .inr ⟨.foreign effect, trivial, h⟩

variable {context : RuntimeJobContext} {payload : JobPayload} {answer : AnalyticsAnswer}
variable {progress : AnalyticsProgress}

/-- So is a handler that takes one step. -/
theorem handler_cases (h : exec (analyticsHandler hashPayload context payload now answer) db = .ok db') :
    Frames SameObservations db db' ∨ ∃ transaction : AnalyticsTransaction,
      (∀ (s : AnalyticsState M) action, transaction.From s action) ∧
        exec (transaction.run hashPayload now) db = .ok db' := by
  have hf := domainRelation_frames (M := M) (r := SameObservations) now fun _ => true
  unfold analyticsHandler at h
  split at h
  next observationId _ => exact .inr ⟨.normalize context observationId, fun _ _ => trivial, h⟩
  next publicationId _ =>
    exact .inr ⟨.calculate context.scope publicationId, fun _ _ => trivial, h⟩
  next =>
    exact .inl (Ensures.of_exec (within_interpretCheckpointHandler hf
      learningWrites_sameObservations _ _ (fun id => framesWithin_createJob now _) db) h)
  next =>
    refine .inl (Ensures.of_exec (hf.bind ?_ (fun _ => hf.pure _) db) h)
    exact within_createGovernedLearning hf learningWrites_sameObservations _ _
  next => exact .inl (Ensures.of_exec (hf.check _ db) h)
  next => exact .inl (Ensures.of_exec (hf.check _ db) h)
  next => exact .inl (Ensures.of_exec (hf.check _ db) h)
  next => exact .inl (Ensures.of_exec (hf.check _ db) h)
  next =>
    obtain ⟨_, hrun⟩ := exec_eq_ok_iff.mp h
    obtain ⟨⟨effect, db₁⟩, hcheck, hperform⟩ := Except.bind_eq_ok_iff.mp hrun
    obtain ⟨-, rfl⟩ := DomainTxn.check_eq_ok_iff.mp hcheck
    exact .inr ⟨.foreign effect, fun _ _ => trivial, exec_eq_ok_iff.mpr ⟨_, hperform⟩⟩

end Classify

/-! ## Steps -/

/-- A poll that has committed: when, and with which row it was made. -/
structure Ingest where
  time : Time
  poll : Poll
deriving DecidableEq, Repr

variable (D : Digest) (hashPayload : Derivation → String)

/-- The poll of an account that a step commits. -/
def ingestsOf (connectorAccountId : Id) (action : AnalyticsAction) (s : AnalyticsState M) :
    List Ingest :=
  match action with
  | .proceed a answer =>
      match s.attempts a with
      | some ⟨_, .running context payload (.polling poll reply)⟩ =>
          match (analyticsApp D hashPayload).handleJob context payload s.now answer
              (.polling poll reply) s.world s.db with
          | .commit _ =>
              if context.jobType = .connectorTelegramObserveUpdates ∧
                  payload = .observeUpdates connectorAccountId then [⟨s.now, poll⟩]
              else []
          | _ => []
      | _ => []
  | _ => []

/-- The poll of an account that a transaction commits. -/
def AnalyticsTransaction.ingests (connectorAccountId : Id) (now : Time) :
    AnalyticsTransaction → List Ingest
  | .commitPoll _ accountId poll _ =>
      if accountId = connectorAccountId then [⟨now, poll⟩] else []
  | _ => []

/-- What a step does: at most quiet writes, or one of the transactions. -/
inductive AnalyticsStep (s : AnalyticsState M) (action : AnalyticsAction)
    (s' : AnalyticsState M) : Prop
  | quiet (hframes : Frames SameObservations s.db s'.db)
      (hingests : ∀ accountId, ingestsOf D hashPayload accountId action s = [])
  | ran (transaction : AnalyticsTransaction) (db : AgentDatabase M AnalyticsTables)
      (hfrom : transaction.From s action)
      (hrun : exec (transaction.run hashPayload s.now) s.db = .ok db)
      (hframes : Frames Eq db s'.db)
      (hingests : ∀ accountId,
        ingestsOf D hashPayload accountId action s = transaction.ingests accountId s.now)

theorem ingestsOf_eq_nil_of_type {D : Digest} {hashPayload : Derivation → String}
    {s : AnalyticsState M} {a : AttemptId} {answer : AnalyticsAnswer} {worker : Worker}
    {context : RuntimeJobContext} {payload : JobPayload} {progress : AnalyticsProgress}
    (ha : s.attempts a = some ⟨worker, .running context payload progress⟩)
    (htype : context.jobType ≠ .connectorTelegramObserveUpdates) (accountId : Id) :
    ingestsOf D hashPayload accountId (.proceed a answer) s = [] := by
  simp only [ingestsOf, ha]
  cases progress with
  | execution progress => rfl
  | polling poll reply =>
      dsimp only
      split
      · rw [if_neg fun h => htype h.1]
      · rfl

/-- A handler that commits is quiet or one of the transactions. -/
theorem commit_cases {s : AnalyticsState M} {a : AttemptId} {worker : Worker}
    {context : RuntimeJobContext} {payload : JobPayload} {progress : AnalyticsProgress}
    {answer : AnalyticsAnswer} {db : AgentDatabase M AnalyticsTables} {s' : AnalyticsState M}
    (ha : s.attempts a = some ⟨worker, .running context payload progress⟩)
    (hstage : (analyticsApp D hashPayload).handleJob context payload s.now answer progress s.world
      s.db = .commit db) (hnext : db.nextId ≤ s'.db.nextId) (htables : s'.db.tables = db.tables) :
    AnalyticsStep D hashPayload s (.proceed a answer) s' := by
  have hafter : Frames Eq db s'.db := ⟨hnext, by rw [htables]⟩
  have hquiet : context.jobType ≠ .connectorTelegramObserveUpdates →
      Frames SameObservations s.db db → AnalyticsStep D hashPayload s (.proceed a answer) s' := by
    intro htype hframes
    refine .quiet ⟨hframes.nextId.trans hnext, ?_⟩ (ingestsOf_eq_nil_of_type ha htype)
    rw [htables]
    exact hframes.domain
  have hruntime : ∀ {result : Except JobError RuntimeTables},
      (∀ t', result = .ok t' → t'.toJobTable = s.db.toJobTable) →
      Stage.ofTables (W := Provider) (L := AnalyticsProgress) s.db result = .commit db →
      Frames SameObservations s.db db := by
    intro result hresult hok
    cases result with
    | error e => cases hok
    | ok t' =>
        cases hok
        refine ⟨le_of_eq ?_, refl _⟩
        exact congrArg JobTable.nextId (hresult t' rfl).symm
  have hhandle := hstage
  unfold App.handleJob at hhandle
  split at hhandle
  next htype =>
    exact hquiet (by simp [htype]) (hruntime (fun _ => outboxDispatchHandler_jobTable) hhandle)
  next htype =>
    exact hquiet (by simp [htype]) (hruntime (fun _ => runtimeProbeHandler_jobTable) hhandle)
  next =>
    have hservice := domainRelation_frames (M := M) (r := SamePublications) s.now fun _ => true
    cases analyticsHandle_commit hhandle with
    | prepared htype h =>
        refine hquiet (by simp [htype]) ?_
        exact framesWithin_zoom (within_prepareExecution serviceWrites_samePublications.handler hservice D
          context payload) (fun t s hs => hs.sameObservations) s.db _ _ h
    | @settled request htype h =>
        cases houtcome : answer.outcome with
        | published messageId chatId =>
            rw [houtcome] at h
            exact .ran (.publish context.scope request messageId chatId) db trivial h hafter
              (ingestsOf_eq_nil_of_type ha (by simp [htype]))
        | ambiguous errorClass | rejected errorClass =>
            rw [houtcome] at h
            refine hquiet (by simp [htype]) (Ensures.of_exec ?_ h)
            refine framesWithin_zoom (r := SamePublications) ?_ (fun t s hs => hs.sameObservations)
              s.db
            exact within_unpublished serviceWrites_samePublications.handler hservice (by simp) _ _
    | @polled connectorAccountId poll updates htype hpayload h =>
        subst hpayload
        refine .ran (.commitPoll context connectorAccountId poll updates) db
          ⟨a, worker, answer, rfl, htype, ha⟩ h hafter fun accountId => ?_
        simp only [ingestsOf, ha, hstage, AnalyticsTransaction.ingests, htype, true_and,
          JobPayload.observeUpdates.injEq]
    | handled htype h =>
        rcases handler_cases h with hframes | ⟨transaction, hfrom, hrun⟩
        · exact hquiet htype hframes
        · refine .ran transaction db (hfrom s _) hrun hafter fun accountId => ?_
          rw [ingestsOf_eq_nil_of_type ha htype accountId]
          cases transaction with
          | commitPoll context' connectorAccountId poll updates =>
              -- such a poll would come from the attempt of an observation job
              obtain ⟨b, worker', answer', heq, htype', hb⟩ := hfrom s (.proceed a answer)
              cases heq
              cases ha.symm.trans hb
              exact absurd htype' htype
          | _ => rfl

/-- A step that commits no handler commits no poll. -/
theorem ingestsOf_eq_nil {s : AnalyticsState M} {action : AnalyticsAction}
    (h : ∀ a worker context payload progress answer db, action = .proceed a answer →
      s.attempts a = some ⟨worker, .running context payload progress⟩ →
      (analyticsApp D hashPayload).handleJob context payload s.now answer progress s.world s.db ≠
        .commit db) (accountId : Id) :
    ingestsOf D hashPayload accountId action s = [] := by
  unfold ingestsOf
  split
  next a answer =>
    split
    next worker context payload poll reply ha =>
      split
      next db hstage => exact absurd hstage (h a worker context payload _ answer db rfl ha)
      next => rfl
    next => rfl
  next => rfl

/-- Every step is quiet or runs one of the transactions. -/
theorem analytics_step (action : AnalyticsAction) (s : AnalyticsState M) :
    AnalyticsStep D hashPayload s action ((analyticsApp D hashPayload).step action s) := by
  by_cases hcommit : ∃ a worker context payload progress answer db, action = .proceed a answer ∧
      s.attempts a = some ⟨worker, .running context payload progress⟩ ∧
      (analyticsApp D hashPayload).handleJob context payload s.now answer progress s.world s.db =
        .commit db
  · obtain ⟨a, worker, context, payload, progress, answer, db, rfl, ha, hstage⟩ := hcommit
    refine commit_cases D hashPayload ha hstage ?_ ?_
    · simp only [App.step, ha, hstage, RuntimeState.proceedAttempt]
      exact db.toJobTable.nextId_le_apply _ _
    · simp only [App.step, ha, hstage, RuntimeState.proceedAttempt]
      rfl
  · have hingests : ∀ accountId, ingestsOf D hashPayload accountId action s = [] := by
      refine ingestsOf_eq_nil D hashPayload ?_
      intro a worker context payload progress answer db haction ha hstage
      exact hcommit ⟨a, worker, context, payload, progress, answer, db, haction, ha, hstage⟩
    suffices heffect : ∀ db world, (analyticsApp D hashPayload).Effect s action db world →
        ∀ s' : AnalyticsState M, s'.db = db → AnalyticsStep D hashPayload s action s' from
      heffect _ _ ((analyticsApp D hashPayload).effect action s) _ rfl
    intro db world heffect s' hdb
    have hquiet : s.db.nextId ≤ db.nextId → db.tables.domain = s.db.tables.domain →
        AnalyticsStep D hashPayload s action s' := by
      intro hnext hdomain
      refine .quiet ⟨hdb ▸ hnext, ?_⟩ hingests
      rw [hdb, hdomain]
      exact refl _
    cases heffect with
    | quiet hnext htables => exact hquiet hnext (by rw [htables])
    | command c hcommand =>
        rcases command_cases hcommand s with hframes | ⟨transaction, hfrom, hrun⟩
        · exact .quiet (hdb ▸ hframes) hingests
        · refine .ran transaction _ hfrom hrun (by rw [hdb]; exact refl _) fun accountId => ?_
          rw [hingests accountId]
          cases transaction with
          | commitPoll context connectorAccountId poll updates =>
              obtain ⟨a, worker, answer, heq, -⟩ := hfrom
              cases heq
          | _ => rfl
    | called ha hstage => exact hquiet le_rfl rfl
    | committed ha hstage hnext htables =>
        exact absurd ⟨_, _, _, _, _, _, _, rfl, ha, hstage⟩ hcommit
    | failed job error willRetry hnext htables =>
        refine hquiet hnext ?_
        rw [htables]
        simp only [analyticsApp]
        split
        · exact domain_recordAgentRunFailure job error willRetry s.now s.db.tables
        · rfl

/-! ## Calls -/

variable {D hashPayload}

/-- A handler that makes a call is the publish handler, or the observation handler. -/
theorem analyticsApp_next {context : RuntimeJobContext} {payload : JobPayload} {now : Time}
    {answer : AnalyticsAnswer} {progress progress' : AnalyticsProgress} {world world' : Provider}
    {db : AgentDatabase M AnalyticsTables}
    (h : (analyticsApp D hashPayload).handleJob context payload now answer progress world db =
      .next progress' world') :
    ((∃ request, progress' = .execution (.called request)) ∧ world'.bot = world.bot ∧
        world'.getUpdatesCalls = world.getUpdatesCalls) ∨
      ∃ before accountId poll, progress = .execution before ∧
        payload = .observeUpdates accountId ∧
        context.jobType = .connectorTelegramObserveUpdates ∧
        beginPoll context accountId now db.tables.domain = .ok poll ∧
        progress' = .polling poll (answer.reply poll.offset world.bot) ∧
        world'.bot = answer.bot poll.offset world.bot ∧
        world'.getUpdatesCalls = world.getUpdatesCalls ++
          [⟨context.jobId, accountId, poll.offset, poll.loaded.allowedUpdateTypes⟩] := by
  have htables : ∀ result : Except JobError RuntimeTables,
      Stage.ofTables db result ≠ .next progress' world' := by
    rintro (_ | _) <;> simp [Stage.ofTables]
  have hdomain : ∀ result : Except JobError (AgentDatabase M AnalyticsTables),
      Stage.ofDomain result ≠ .next progress' world' := by
    rintro (_ | _) <;> simp [Stage.ofDomain]
  unfold App.handleJob at h
  split at h
  · exact absurd h (htables _)
  · exact absurd h (htables _)
  · simp only [analyticsApp, analyticsHandle] at h
    split at h
    next =>
      cases progress with
      | polling poll reply => cases h
      | execution progress =>
          cases progress with
          | called request => exact absurd h (hdomain _)
          | preparing =>
              simp only [publishHandler] at h
              split at h
              next => cases h
              next request _ _ =>
                cases h
                exact .inl ⟨⟨request, rfl⟩, rfl, rfl⟩
              next => cases h
    next =>
      split at h
      next htype =>
        unfold telegramObservationHandler at h
        split at h
        next => cases h
        next accountId haccount =>
          cases progress with
          | polling poll reply =>
              cases reply with
              | error error => cases h
              | ok updates => exact absurd h (hdomain _)
          | execution progress =>
              dsimp only at h
              split at h
              next poll hbegin =>
                cases h
                exact .inr ⟨progress, accountId, poll, rfl, observedAccount_eq_ok_iff.mp haccount,
                  htype, hbegin, rfl, rfl, rfl⟩
              next => cases h
      next => exact absurd h (hdomain _)

/-- A poll that is under way was under way before, or its call is made in this step. -/
theorem polling_step {action : AnalyticsAction} {s : AnalyticsState M} {a : AttemptId}
    {worker : Worker} {context : RuntimeJobContext} {payload : JobPayload} {poll : Poll}
    {reply : Except JobError (List QueuedUpdate)}
    (h : ((analyticsApp D hashPayload).step action s).attempts a =
      some ⟨worker, .running context payload (.polling poll reply)⟩) :
    s.attempts a = some ⟨worker, .running context payload (.polling poll reply)⟩ ∨
      ∃ accountId answer progress, action = .proceed a answer ∧
        s.attempts a = some ⟨worker, .running context payload (.execution progress)⟩ ∧
        payload = .observeUpdates accountId ∧
        context.jobType = .connectorTelegramObserveUpdates ∧
        beginPoll context accountId s.now s.db.tables.domain = .ok poll ∧
        reply = answer.reply poll.offset s.world.bot ∧
        ((analyticsApp D hashPayload).step action s).db = s.db ∧
        ((analyticsApp D hashPayload).step action s).world.bot =
          answer.bot poll.offset s.world.bot := by
  rcases (analyticsApp D hashPayload).running_step h with hbefore | hstart |
    ⟨before, answer, world, haction, hbefore, hstage, hdb, hworld⟩
  · exact .inl hbefore
  · cases hstart
  · rcases analyticsApp_next hstage with ⟨⟨request, hprogress⟩, -⟩ |
      ⟨progress, accountId, poll', rfl, hpayload, htype, hbegin, hprogress, hbot, -⟩
    · cases hprogress
    · cases hprogress
      refine .inr ⟨accountId, answer, progress, haction, hbefore, hpayload, htype, hbegin, rfl, hdb,
        ?_⟩
      rw [hworld]
      exact hbot

/-- The calls of `get_updates` that a step makes. -/
def newCalls (D : Digest) (hashPayload : Derivation → String) (action : AnalyticsAction)
    (s : AnalyticsState M) : List GetUpdatesCall :=
  ((analyticsApp D hashPayload).step action s).world.getUpdatesCalls.drop
    s.world.getUpdatesCalls.length

/-- A step makes no call and leaves the bot alone, or it is the call of a poll. -/
theorem bot_step (D : Digest) (hashPayload : Derivation → String) (action : AnalyticsAction)
    (s : AnalyticsState M) :
    (newCalls D hashPayload action s = [] ∧
        ((analyticsApp D hashPayload).step action s).world.bot = s.world.bot) ∨
      ∃ a answer worker context accountId before poll, action = .proceed a answer ∧
        s.attempts a = some ⟨worker,
          .running context (.observeUpdates accountId) (.execution before)⟩ ∧
        beginPoll context accountId s.now s.db.tables.domain = .ok poll ∧
        newCalls D hashPayload action s =
          [⟨context.jobId, accountId, poll.offset, poll.loaded.allowedUpdateTypes⟩] ∧
        ((analyticsApp D hashPayload).step action s).world.bot =
          answer.bot poll.offset s.world.bot ∧
        ((analyticsApp D hashPayload).step action s).db = s.db := by
  suffices h : ∀ db world, (analyticsApp D hashPayload).Effect s action db world →
      (world.getUpdatesCalls = s.world.getUpdatesCalls ∧ world.bot = s.world.bot) ∨
        ∃ a answer worker context accountId before poll, action = .proceed a answer ∧
          s.attempts a = some ⟨worker,
            .running context (.observeUpdates accountId) (.execution before)⟩ ∧
          beginPoll context accountId s.now s.db.tables.domain = .ok poll ∧
          world.getUpdatesCalls = s.world.getUpdatesCalls ++
            [⟨context.jobId, accountId, poll.offset, poll.loaded.allowedUpdateTypes⟩] ∧
          world.bot = answer.bot poll.offset s.world.bot ∧ db = s.db by
    unfold newCalls
    rcases h _ _ ((analyticsApp D hashPayload).effect action s) with ⟨hcalls, hbot⟩ |
      ⟨a, answer, worker, context, accountId, before, poll, haction, ha, hbegin, hcalls, hrest⟩
    · refine .inl ⟨?_, hbot⟩
      rw [hcalls, List.drop_length]
    · refine .inr ⟨a, answer, worker, context, accountId, before, poll, haction, ha, hbegin, ?_,
        hrest⟩
      rw [hcalls, List.drop_left]
  intro db world heffect
  cases heffect with
  | quiet | command | committed | failed => exact .inl ⟨rfl, rfl⟩
  | @called a worker context payload state state' answer world ha hstage =>
      rcases analyticsApp_next hstage with ⟨-, hbot, hcalls⟩ |
        ⟨before, accountId, poll, rfl, rfl, -, hbegin, -, hbot, hcalls⟩
      · exact .inl ⟨hcalls, hbot⟩
      · exact .inr ⟨a, answer, worker, context, accountId, before, poll, rfl, ha, hbegin, hcalls,
          hbot, rfl⟩

theorem beginPoll_eq_ok {context : RuntimeJobContext} {connectorAccountId : Id} {now : Time}
    {t : AnalyticsTables} {poll : Poll} (h : beginPoll context connectorAccountId now t = .ok poll) :
    poll.loaded ∈ t.connectorObservationStates ∧
      poll.loaded.connectorAccountId = connectorAccountId ∧
      observationState connectorAccountId t = some poll.loaded ∧
      poll.gapDetected = poll.loaded.retentionExceeded now := by
  unfold beginPoll at h
  obtain ⟨state, hstate, h⟩ := Except.bind_eq_ok_iff.mp h
  obtain ⟨_, -, h⟩ := Except.bind_eq_ok_iff.mp h
  obtain ⟨_, -, h⟩ := Except.bind_eq_ok_iff.mp h
  cases h
  have hfind := orRaise_eq_ok_iff.mp hstate
  exact ⟨Table.mem_of_find hfind, Table.key_of_find hfind, hfind, rfl⟩

/-- The account whose updates an attempt is about to ask for. -/
def askingAccount (s : AnalyticsState M) : AnalyticsAction → Option Id
  | .proceed a _ =>
      match s.attempts a with
      | some ⟨_, .running _ (.observeUpdates accountId) (.execution _)⟩ => some accountId
      | _ => none
  | _ => none

/-! ## The system with its record of polls -/

/-- The system, and the polls of each account that have committed so far. -/
structure Observed (M : Type) where
  state : AnalyticsState M
  ingests : Id → List Ingest

variable (D hashPayload)

/-- A step of the system, with its record. -/
def observedStep (action : AnalyticsAction) (o : Observed M) : Observed M where
  state := (analyticsApp D hashPayload).step action o.state
  ingests accountId := o.ingests accountId ++ ingestsOf D hashPayload accountId action o.state

/-- The record does not disturb the system. -/
theorem run_observedStep_state (o : Observed M) (actions : List AnalyticsAction) :
    (run (observedStep D hashPayload) o actions).state =
      run (analyticsApp D hashPayload).step o.state actions := by
  induction actions generalizing o with
  | nil => rfl
  | cons action actions ih => exact ih (observedStep D hashPayload action o)

/-- A state without attempts and with empty tables of the analytics. -/
structure AnalyticsInitial (s : AnalyticsState M) : Prop where
  attempts : ∀ a, s.attempts a = none
  states : s.db.tables.domain.connectorObservationStates = []
  observations : s.db.tables.domain.connectorObservations = []
  events : s.db.tables.domain.businessEvents = []
  normalized : s.db.tables.domain.normalizedObservationLinks = []
  metrics : s.db.tables.domain.metricVersions = []
  checkpoints : s.db.tables.domain.checkpointDefinitions = []
  publications : s.db.tables.domain.publications = []
  references : s.db.tables.domain.externalReferences = []
  links : s.db.tables.domain.publicationExecutionLinks = []
  bot : s.world.bot = {}

/-! ### A post that is observed -/

/-- Before anything has happened. -/
def analyticsStart : AnalyticsState Unit where
  now := 0
  db := { tables := { domain := {} } }
  world := {}
  attempts _ := none
  history := []

theorem analyticsStart_initial : AnalyticsInitial analyticsStart := by
  constructor <;> intros <;> rfl

/-- A hash that keeps what changes from one calculation to the next. -/
def plainHash (derivation : Derivation) : String :=
  toString derivation.eventIds ++ toString derivation.lastSuccessfulIngestAt

/-- A finished post with an Experiment. -/
def experimentalPost : ExecutionContext :=
  { finishedPost with
    experiments := [{ id := 107, decisionId := 102, metric := "telegram_reaction_changes" }] }

/-- Its reactions count for an hour. -/
def hourlyCheckpoint : CheckpointDefinition where
  id := 0
  experimentId := 107
  decisionId := 102
  metricKey := "telegram_reaction_changes"
  windowSeconds := 3600
  graceSeconds := 60

/-- An hour in microseconds. -/
def hour : ℕ := 3600000000

/-- The account `1` is registered and observed, and an hour later the post is published. -/
def publishedExperiment : List AnalyticsAction :=
  [.command (.foreign { context := fun _ => experimentalPost, checkpoints := [hourlyCheckpoint] }),
    .command (.execution
      (.probeAndRegisterTelegramConnector demoScope 100 "@channel" ⟨true, true, true⟩)),
    .command (.configureTelegramObservation demoScope 1 telegramAllowedUpdates),
    .command (.execution (.createActionProposal demoScope 101 1)),
    .command (.execution (.approveActionProposal demoScope 3 "owner")),
    .tick hour,
    .claim applicationWorker 14, .start ⟨14, 1⟩, .proceed ⟨14, 1⟩ {},
    .proceed ⟨14, 1⟩ { outcome := .published "7" "@channel" }]

/-- A reaction to the post, at the second of its publication. -/
def postReaction : TelegramUpdate :=
  [("update_id", .int 5), ("message_reaction", .dict
    [("date", .int 3600), ("message_id", .int 7), ("chat", .dict [("id", .str "@channel")])])]

/-- A job runs from its claim to the end of its handler, which takes so many steps. -/
def runJob (jobId : Id) (answers : List AnalyticsAnswer) : List AnalyticsAction :=
  .claim applicationWorker jobId :: .start ⟨jobId, 1⟩ :: answers.map (.proceed ⟨jobId, 1⟩)

end LaunchOS.Analytics
