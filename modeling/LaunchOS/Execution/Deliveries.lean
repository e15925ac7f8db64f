import LaunchOS.Execution.WriteBoundary

/-!
# What is recorded of a message

The publish handler writes the publication, the external reference and the status of the execution
in the transaction that was open during the call, and the unique constraints of
`external_references` know a message by its account and its id. What is recorded of a message that
`publish_text` has returned is therefore settled by the references that are there already.

The module introduces:

* `Delivery`, `RuntimeState.delivery`: the messages that `publish_text` returns;
* `Delivery.Recorded`, `DeliveriesRecorded`: the execution has succeeded with the message;
* `DeliveryStep`: what a step does to executions and references, if its message is new;
* `deliveries_recorded`: what is recorded if every message is new to its account and no claim takes
  over a publish job with no attempts left.
-/

namespace LaunchOS

open Txn Transition

variable {M : Type}

/-! ## Messages -/

/-- A message that `publish_text` has returned to the handler of an attempt. -/
structure Delivery where
  attempt : AttemptId
  request : PublishRequest
  messageId : String
  chatId : String
deriving DecidableEq, Repr

/-- The message that `publish_text` returns in a step. -/
def RuntimeState.delivery (s : ExecutionState M) :
    Action ExecutionAnswer ExecutionCommand → Option Delivery
  | .proceed a answer =>
      match s.attempts a, answer.outcome with
      | some ⟨_, .running _ _ (.called request)⟩, .published messageId chatId =>
          some ⟨a, request, messageId, chatId⟩
      | _, _ => none
  | _ => none

/-- The execution has succeeded with the message, and its publication and its external reference
are there. -/
structure Delivery.Recorded (d : Delivery) (t : ExecutionTables) : Prop where
  execution : ∃ execution ∈ t.executions, execution.id = d.request.executionId ∧
    execution.status = .succeeded ∧ execution.externalReference = some d.messageId
  reference : ∃ link ∈ t.publicationExecutionLinks, link.executionId = d.request.executionId ∧
    (∃ publication ∈ t.publications, publication.id = link.publicationId) ∧
    ∃ reference ∈ t.externalReferences, reference.id = link.externalReferenceId ∧
      reference.executionId = d.request.executionId ∧ reference.externalId = d.messageId

/-- Nobody knows how the execution ended. -/
def Delivery.Unknown (d : Delivery) (t : ExecutionTables) : Prop :=
  ∃ execution ∈ t.executions, execution.id = d.request.executionId ∧
    execution.status = .unknownExternalOutcome

/-- Every message that `publish_text` returns in the run is recorded when its attempt is over,
unless the attempt crashes. -/
def DeliveriesRecorded (D : Digest) (s : ExecutionState M)
    (actions : List (Action ExecutionAnswer ExecutionCommand)) : Prop :=
  ∀ before action after, actions = before ++ action :: after →
    ∀ d, (run (executionApp D).step s before).delivery action = some d →
      Action.crash d.attempt ∉ after →
      (run (executionApp D).step s actions).attempts d.attempt = none →
        d.Recorded (run (executionApp D).step s actions).db.tables.domain ∨
          d.Unknown (run (executionApp D).step s actions).db.tables.domain

/-- The account has no reference to the message that is returned. -/
def RuntimeState.NewMessage (s : ExecutionState M)
    (action : Action ExecutionAnswer ExecutionCommand) : Prop :=
  ∀ d ∈ s.delivery action, ∀ reference ∈ s.db.tables.domain.externalReferences,
    ¬ (reference.provider = "telegram" ∧ reference.connectorAccountId = d.request.account.id ∧
      reference.externalObjectType = "message" ∧ reference.externalId = d.messageId)

/-! ## Executions that are kept -/

/-- No execution changes but the given one, and publications stay. -/
structure KeepsExecutions (executionId : Option Id) (t t' : ExecutionTables) : Prop where
  executions : ∀ execution ∈ t.executions, executionId ≠ some execution.id →
    execution ∈ t'.executions
  ids : ∀ execution ∈ t.executions, ∃ execution' ∈ t'.executions, execution'.id = execution.id
  publications : t.publications ⊆ t'.publications
  references : t'.externalReferences = t.externalReferences
  links : t.publicationExecutionLinks ⊆ t'.publicationExecutionLinks

variable {executionId : Option Id}

instance : IsPreorder ExecutionTables (KeepsExecutions executionId) where
  refl _ := ⟨fun _ h _ => h, fun execution h => ⟨execution, h, rfl⟩, List.Subset.refl _, rfl,
    List.Subset.refl _⟩
  trans _ _ _ h h' :=
    { executions := fun execution hexecution hne =>
        h'.executions execution (h.executions execution hexecution hne) hne
      ids := fun execution hexecution => by
        obtain ⟨execution', hexecution', hid⟩ := h.ids execution hexecution
        obtain ⟨execution'', hexecution'', hid'⟩ := h'.ids execution' hexecution'
        exact ⟨execution'', hexecution'', hid'.trans hid⟩
      publications := List.Subset.trans h.publications h'.publications
      references := h'.references.trans h.references
      links := List.Subset.trans h.links h'.links }

/-- Writing none of these tables. -/
theorem KeepsExecutions.of_eq {t t' : ExecutionTables} (hexecutions : t'.executions = t.executions)
    (hpublications : t'.publications = t.publications)
    (hreferences : t'.externalReferences = t.externalReferences)
    (hlinks : t'.publicationExecutionLinks = t.publicationExecutionLinks) :
    KeepsExecutions executionId t t' :=
  ⟨fun _ h _ => hexecutions ▸ h, fun execution h => ⟨execution, hexecutions ▸ h, rfl⟩,
    hpublications ▸ List.Subset.refl _, hreferences, hlinks ▸ List.Subset.refl _⟩

theorem KeepsExecutions.insert (t : ExecutionTables) (execution : Execution) :
    KeepsExecutions executionId t { t with executions := t.executions ++ [execution] } where
  executions _ h _ := List.mem_append_left _ h
  ids old h := ⟨old, List.mem_append_left _ h, rfl⟩
  publications := List.Subset.refl _
  references := rfl
  links := List.Subset.refl _

theorem KeepsExecutions.modify (t : ExecutionTables) (id : Id) {f : Execution → Execution}
    (hf : ∀ execution, (f execution).id = execution.id) :
    KeepsExecutions (some id) t { t with
      executions := Table.modify Execution.id id f t.executions } where
  executions execution hexecution hne := by
    have hother : execution.id ≠ id := fun heq => hne (congrArg some heq.symm)
    exact Table.mem_modify_of_ne hexecution hother
  ids execution hexecution := by
    refine ⟨_, List.mem_map_of_mem hexecution, ?_⟩
    split
    · exact hf execution
    · rfl
  publications := List.Subset.refl _
  references := rfl
  links := List.Subset.refl _

theorem commandWrites_keepsExecutions : CommandWrites (KeepsExecutions executionId) := by
  constructor <;> intros <;> exact .of_eq rfl rfl rfl rfl

theorem proposalWrites_keepsExecutions : ProposalWrites (KeepsExecutions executionId) where
  insertDetail _ _ := .of_eq rfl rfl rfl rfl
  insertAction _ _ _ := .of_eq rfl rfl rfl rfl
  insertExecution t execution := .insert t execution
  controls _ _ := .of_eq rfl rfl rfl rfl

/-! ## The handler -/

section Handler

variable {D : Digest} {context : RuntimeJobContext} {payload : JobPayload} {now : Time}
variable {db db' : AgentDatabase M ExecutionTables}

theorem keepsWithin_modifyExecution (id : Id) {f : Execution → Execution}
    (hf : ∀ execution, (f execution).id = execution.id) :
    Within (Frames (KeepsExecutions (some id)))
      (DomainTxn.modifyTables (M := M) fun t : ExecutionTables =>
        { t with executions := Table.modify Execution.id id f t.executions }) :=
  (domainRelation_frames 0 fun _ => true).modifyTables _ fun t => .modify t id hf

theorem keepsWithin_setActionStatus (actionId : Id) (status : ActionStatus) :
    Within (Frames (KeepsExecutions executionId)) (setActionStatus (M := M) actionId status) :=
  within_setActionStatus commandWrites_keepsExecutions (domainRelation_frames 0 fun _ => true)
    actionId status

/-- Up to its call the handler writes its execution only, and only if that is not over. -/
theorem ensures_prepare (D : Digest) (context : RuntimeJobContext) (payload : JobPayload)
    (db : AgentDatabase M ExecutionTables) :
    Ensures (prepareExecution D context payload) (fun result db' =>
      db'.tables.domain = db.tables.domain ∧ result = none ∨
      ∃ execution ∈ db.tables.domain.executions, execution.settled = false ∧
        KeepsExecutions (some execution.id) db.tables.domain db'.tables.domain ∧
        ∀ request, result = some request → request.executionId = execution.id) db := by
  rw [prepareExecution, ensures_bind, ensures_tables, ensures_bind, ensures_check]
  rintro ⟨action, execution⟩ hbound
  have hexecution : execution ∈ db.tables.domain.executions :=
    Table.mem_of_find (boundExecution_eq_ok hbound).2.2
  dsimp only
  split
  next =>
    rw [ensures_pure]
    exact .inl ⟨rfl, rfl⟩
  next hsettled =>
    have hopen : execution.settled = false := Bool.not_eq_true _ ▸ hsettled
    have hf := domainRelation_frames (M := M) (r := KeepsExecutions (some execution.id)) 0
      fun _ => true
    have hstatus : ∀ status, Within (Frames (KeepsExecutions (some execution.id)))
        (setExecutionStatus (M := M) execution.id status) :=
      fun status => keepsWithin_modifyExecution execution.id fun _ => rfl
    -- each way on writes this execution and comes with a result of its own
    have hway : ∀ {m : ExecutionTxn M Unit} (result : Option PublishRequest),
        Within (Frames (KeepsExecutions (some execution.id))) m →
        (∀ request, result = some request → request.executionId = execution.id) →
        Ensures (do m; return result) (fun result db' =>
          db'.tables.domain = db.tables.domain ∧ result = none ∨
          ∃ execution ∈ db.tables.domain.executions, execution.settled = false ∧
            KeepsExecutions (some execution.id) db.tables.domain db'.tables.domain ∧
            ∀ request, result = some request → request.executionId = execution.id) db := by
      intro m result hm hrequest
      refine hm.ensures_bind fun _ db₁ h₁ => ?_
      rw [ensures_pure]
      exact .inr ⟨execution, hexecution, hopen, h₁.domain, hrequest⟩
    rw [ensures_bind, ensures_check]
    intro detail _
    rw [ensures_bind, ensures_check]
    intro approval _
    rw [ensures_bind, ensures_check]
    intro account _
    rw [ensures_bind, ensures_check]
    rintro (_ | reason) _
    · dsimp only
      split
      next reference _ =>
        refine hway none ?_ (by simp)
        exact hf.bind (keepsWithin_modifyExecution execution.id fun _ => rfl) fun _ =>
          keepsWithin_setActionStatus action.id _
      next =>
        rw [ensures_bind, ensures_check]
        intro command _
        exact hway (some _) (hstatus _) fun request hrequest => by
          obtain rfl := Option.some.inj hrequest
          rfl
    · dsimp only
      have hblocked := hway none
        (hf.bind (hstatus .blocked) fun _ => keepsWithin_setActionStatus action.id .blocked)
        (by simp)
      simpa only [bind_assoc] using hblocked

/-- An answer without a message moves the execution and its action. -/
theorem keepsWithin_unpublished {outcome : PublishOutcome}
    (hunpublished : ∀ messageId chatId, outcome ≠ .published messageId chatId)
    (scope : TenantScope) (request : PublishRequest) :
    Within (Frames (KeepsExecutions (some request.executionId)))
      (settleExecution (M := M) now scope request outcome) := by
  have hf := domainRelation_frames (M := M) (r := KeepsExecutions (some request.executionId)) now
    fun _ => true
  have hstatus : ∀ status, Within (Frames (KeepsExecutions (some request.executionId)))
      (setExecutionStatus (M := M) request.executionId status) :=
    fun status => keepsWithin_modifyExecution request.executionId fun _ => rfl
  cases outcome with
  | ambiguous errorClass => exact hf.bind (hstatus _) fun _ => hf.check _
  | rejected errorClass =>
      refine hf.bind (hstatus _) fun _ => ?_
      exact hf.bind (keepsWithin_setActionStatus request.action.id _) fun _ => hf.check _
  | published messageId chatId => exact absurd rfl (hunpublished messageId chatId)

/-- The rows of a message are written, and its execution has succeeded. -/
structure MessageWritten (request : PublishRequest) (messageId : String)
    (t t' : ExecutionTables) : Prop where
  executions : t'.executions = Table.modify Execution.id request.executionId
    (fun execution =>
      { execution with status := .succeeded, externalReference := some messageId }) t.executions
  rows : ∃ publication reference link,
    t'.publications = t.publications ++ [publication] ∧
    t'.externalReferences = t.externalReferences ++ [reference] ∧
    t'.publicationExecutionLinks = t.publicationExecutionLinks ++ [link] ∧
    reference.executionId = request.executionId ∧ reference.externalId = messageId ∧
    link.executionId = request.executionId ∧ link.publicationId = publication.id ∧
    link.externalReferenceId = reference.id

/-- The Experiment is exposed, and the execution has succeeded. -/
theorem achieves_succeeded (decisionId executionId actionId : Id) (messageId eventType : String)
    (scope : TenantScope) (db : AgentDatabase M ExecutionTables) :
    Achieves (do
        startExperiment decisionId
        succeedExecution executionId actionId messageId
        DomainTxn.addOutboxEvent now scope eventType)
      (fun _ db' =>
        db'.tables.domain.executions = Table.modify Execution.id executionId
          (fun execution =>
            { execution with status := .succeeded, externalReference := some messageId })
          db.tables.domain.executions ∧
        db'.tables.domain.publications = db.tables.domain.publications ∧
        db'.tables.domain.externalReferences = db.tables.domain.externalReferences ∧
        db'.tables.domain.publicationExecutionLinks =
          db.tables.domain.publicationExecutionLinks) db := by
  unfold startExperiment succeedExecution setActionStatus
  rw [achieves_bind, achieves_modifyTables, achieves_bind, achieves_bind, achieves_modifyTables,
    achieves_modifyTables, DomainTxn.addOutboxEvent, achieves_modify]
  -- the Experiment may be there or not; either way these tables are written the same
  dsimp only
  split
  · exact ⟨rfl, rfl, rfl, rfl⟩
  · exact ⟨rfl, rfl, rfl, rfl⟩

/-- A message that is new to its account, of an execution without a reference, is written. -/
theorem achieves_published {request : PublishRequest} {messageId chatId : String}
    (hmessage : ∀ reference ∈ db.tables.domain.externalReferences,
      ¬ (reference.provider = "telegram" ∧ reference.connectorAccountId = request.account.id ∧
        reference.externalObjectType = "message" ∧ reference.externalId = messageId))
    (hexecution : ∀ reference ∈ db.tables.domain.externalReferences,
      reference.executionId ≠ request.executionId) (scope : TenantScope) :
    Achieves (settleExecution now scope request (.published messageId chatId))
      (fun _ db' => MessageWritten request messageId db.tables.domain db'.tables.domain) db := by
  unfold settleExecution insertExternalReference
  rw [achieves_bind, achieves_newId, achieves_bind, achieves_modifyTables, achieves_bind,
    achieves_newId, achieves_bind, achieves_bind, achieves_tables, achieves_bind, achieves_check]
  refine ⟨(), require_eq_ok_iff.mpr ?_, ?_⟩
  · refine List.all_eq_true.mpr fun other hother => ?_
    have hother' := hmessage other hother
    simp only [Bool.not_eq_true', Bool.and_eq_false_iff, decide_eq_false_iff_not]
    tauto
  rw [achieves_bind, achieves_check]
  refine ⟨(), require_eq_ok_iff.mpr ?_, ?_⟩
  · exact List.all_eq_true.mpr fun other hother => decide_eq_true (hexecution other hother)
  rw [achieves_modifyTables, achieves_bind, achieves_newId, achieves_bind, achieves_modifyTables]
  refine (achieves_succeeded _ _ _ _ _ _ _).mono ?_
  rintro _ db' ⟨hexecutions, hpublications, hreferences, hlinks⟩
  exact ⟨hexecutions, _, _, _, hpublications, hreferences, hlinks, rfl, rfl, rfl, rfl, rfl⟩

/-- The rest of the application writes none of these tables. -/
theorem keepsWithin_performEffect (effect : ForeignEffect) :
    Within (Frames (KeepsExecutions executionId)) (effect.perform (M := M) now) := by
  have hf := domainRelation_frames (M := M) (r := KeepsExecutions executionId) now fun _ => true
  refine hf.bind (hf.foldlM (fun _ work => framesWithin_perform now _ _ work) _) fun _ => ?_
  exact hf.modifyTables _ fun t => .of_eq rfl rfl rfl rfl

/-- A command leaves every execution as it is. -/
theorem keepsWithin_run (D : Digest) (c : ExecutionCommand) :
    Within (Frames (KeepsExecutions executionId)) (c.run (M := M) D now) :=
  within_run proposalWrites_keepsExecutions (domainRelation_frames now fun _ => true)
    commandWrites_keepsExecutions D c (fun _ _ _ => framesWithin_createJob now _)
    fun effect _ => keepsWithin_performEffect effect

/-- What a handler that returns has done. -/
theorem keeps_of_commit {answer : ExecutionAnswer} {progress : TelegramProgress}
    {calls : List PublishCall}
    (h : (executionApp D).handleJob context payload now answer progress calls db = .commit db') :
    KeepsExecutions none db.tables.domain db'.tables.domain ∨
      (∃ execution ∈ db.tables.domain.executions, execution.settled = false ∧
        KeepsExecutions (some execution.id) db.tables.domain db'.tables.domain) ∨
      ∃ request, progress = .called request ∧
        exec (settleExecution now context.scope request answer.outcome) db = .ok db' := by
  have htables : ∀ {result : Except JobError RuntimeTables},
      Stage.ofTables (W := List PublishCall) (L := TelegramProgress) db result = .commit db' →
      KeepsExecutions none db.tables.domain db'.tables.domain := by
    rintro (_ | t') hok
    · cases hok
    · cases hok
      exact refl _
  unfold App.handleJob at h
  split at h
  · exact .inl (htables h)
  · exact .inl (htables h)
  · simp only [executionApp, executionHandler] at h
    split at h
    next =>
      cases progress with
      | preparing =>
          simp only [telegramExecutionHandler] at h
          split at h
          next hprepare =>
            cases h
            rcases ensures_prepare D context payload db none db' hprepare with
              ⟨hsame, -⟩ | ⟨execution, hexecution, hopen, hkeeps, -⟩
            · rw [hsame]
              exact .inl (refl _)
            · exact .inr (.inl ⟨execution, hexecution, hopen, hkeeps⟩)
          next => cases h
          next => cases h
      | called request =>
          simp only [telegramExecutionHandler, Stage.ofDomain] at h
          split at h
          next hsettle =>
            cases h
            exact .inr (.inr ⟨request, rfl, hsettle⟩)
          next => cases h
    next =>
      simp only [Stage.ofDomain] at h
      split at h
      next hexec =>
        cases h
        have hf := domainRelation_frames (M := M) (r := KeepsExecutions none) now fun _ => true
        refine .inl (Frames.domain (Ensures.of_exec (Q := Frames (KeepsExecutions none) db) ?_ hexec))
        exact hf.bind (hf.check _) (fun effect => keepsWithin_performEffect effect) db
      next => cases h

end Handler

/-! ## Steps -/

/-- The handler of the attempt has called the provider and waits for its answer. -/
def RuntimeState.Calling (s : ExecutionState M) (a : AttemptId) (request : PublishRequest) : Prop :=
  ∃ worker context payload, s.attempts a = some ⟨worker, .running context payload (.called request)⟩

/-- The execution of a reference has succeeded with its message, and is linked to a publication. -/
structure ExternalReference.Backed (reference : ExternalReference) (t : ExecutionTables) :
    Prop where
  execution : ∃ execution ∈ t.executions, execution.id = reference.executionId ∧
    execution.status = .succeeded ∧ execution.externalReference = some reference.externalId
  link : ∃ link ∈ t.publicationExecutionLinks, link.executionId = reference.executionId ∧
    (∃ publication ∈ t.publications, publication.id = link.publicationId) ∧
    reference.id = link.externalReferenceId

/-- The execution stays, and no publication and no link goes away. -/
theorem ExternalReference.Backed.mono {reference : ExternalReference} {t t' : ExecutionTables}
    (h : reference.Backed t)
    (hexecutions : ∀ execution ∈ t.executions, execution.id = reference.executionId →
      execution ∈ t'.executions)
    (hpublications : t.publications ⊆ t'.publications)
    (hlinks : t.publicationExecutionLinks ⊆ t'.publicationExecutionLinks) :
    reference.Backed t' := by
  obtain ⟨⟨execution, hexecution, hid, hstatus, hmessage⟩, link, hlink, hexecutionId,
    ⟨publication, hpublication, hpublicationId⟩, hreference⟩ := h
  exact
    { execution := ⟨execution, hexecutions execution hexecution hid, hid, hstatus, hmessage⟩
      link := ⟨link, hlinks hlink, hexecutionId,
        ⟨publication, hpublications hpublication, hpublicationId⟩, hreference⟩ }

theorem ExternalReference.Backed.keeps {reference : ExternalReference} {t t' : ExecutionTables}
    (h : reference.Backed t) (hkeeps : KeepsExecutions executionId t t')
    (hne : executionId ≠ some reference.executionId) : reference.Backed t' :=
  h.mono (fun execution hexecution hid => hkeeps.executions execution hexecution (hid ▸ hne))
    hkeeps.publications hkeeps.links

/-- A message that is written backs its reference, and leaves those of the other executions
backed. -/
theorem MessageWritten.backed {request : PublishRequest} {messageId : String}
    {t t' : ExecutionTables} (h : MessageWritten request messageId t t')
    (hknown : ∃ execution ∈ t.executions, execution.id = request.executionId) :
    (∃ reference, t'.externalReferences = t.externalReferences ++ [reference] ∧
      reference.executionId = request.executionId ∧ reference.externalId = messageId ∧
      reference.Backed t') ∧
    ∀ reference : ExternalReference, reference.executionId ≠ request.executionId →
      reference.Backed t → reference.Backed t' := by
  obtain ⟨hexecutions, publication, reference, link, hpublications, hreferences, hlinks,
    hexecutionId, hmessage, hlinkExecution, hlinkPublication, hlinkReference⟩ := h
  constructor
  · obtain ⟨execution, hexecution, hid⟩ := hknown
    refine ⟨reference, hreferences, hexecutionId, hmessage, ⟨?_, ?_⟩⟩
    · rw [hexecutions]
      exact ⟨_, Table.mem_modify_of_eq hexecution hid, hid.trans hexecutionId.symm, rfl,
        congrArg some hmessage.symm⟩
    · rw [hlinks, hpublications]
      exact ⟨link, List.mem_append_right _ (List.mem_singleton_self _),
        hlinkExecution.trans hexecutionId.symm,
        ⟨publication, List.mem_append_right _ (List.mem_singleton_self _),
          hlinkPublication.symm⟩, hlinkReference.symm⟩
  · intro other hne hbacked
    refine hbacked.mono (fun execution hexecution hid => ?_) ?_ ?_
    · rw [hexecutions]
      exact Table.mem_modify_of_ne hexecution (hid ▸ hne)
    · rw [hpublications]
      exact List.subset_append_left _ _
    · rw [hlinks]
      exact List.subset_append_left _ _

/-- What a step does to executions, references and calls, if its message is new. -/
inductive DeliveryStep (s s' : ExecutionState M)
    (action : Action ExecutionAnswer ExecutionCommand) : Prop
  /-- No execution changes. -/
  | kept (hdelivery : s.delivery action = none)
      (htables : KeepsExecutions none s.db.tables.domain s'.db.tables.domain)
      (hcalling : ∀ b request, s'.Calling b request → s.Calling b request)
  /-- A handler returns before a call. -/
  | prepared (hdelivery : s.delivery action = none) {execution : Execution}
      (hexecution : execution ∈ s.db.tables.domain.executions)
      (hopen : execution.settled = false)
      (htables : KeepsExecutions (some execution.id) s.db.tables.domain s'.db.tables.domain)
      (hcalling : ∀ b request, s'.Calling b request → s.Calling b request)
  /-- The provider is called for an execution that is not over. -/
  | called (hdelivery : s.delivery action = none) {execution : Execution}
      (hexecution : execution ∈ s.db.tables.domain.executions)
      (hopen : execution.settled = false)
      (htables : s'.db.tables.domain = s.db.tables.domain)
      (hcalling : ∀ b request, s'.Calling b request →
        s.Calling b request ∨ request.executionId = execution.id)
  /-- The provider answers without a message. -/
  | answered (hdelivery : s.delivery action = none) {a : AttemptId} {request : PublishRequest}
      (ha : s.Calling a request)
      (htables : KeepsExecutions (some request.executionId) s.db.tables.domain
        s'.db.tables.domain)
      (hcalling : ∀ b request, s'.Calling b request → s.Calling b request)
  /-- The provider answers with a message. -/
  | written {d : Delivery} (hdelivery : s.delivery action = some d)
      (ha : s.Calling d.attempt d.request)
      (htables : MessageWritten d.request d.messageId s.db.tables.domain s'.db.tables.domain)
      (hcalling : ∀ b request, s'.Calling b request → s.Calling b request ∧ b ≠ d.attempt)

/-- The invariant: every reference is backed, and no call is open for its execution. -/
structure RuntimeState.Delivering (s : ExecutionState M) : Prop where
  orderly : s.Orderly
  bounded : s.db.AttemptsBounded fun type => type = .executionTelegramPublish
  calls : ∀ a worker context payload request,
    s.attempts a = some ⟨worker, .running context payload (.called request)⟩ →
      context.jobType = .executionTelegramPublish ∧
        ∃ actionId, payload = .telegramPublish actionId request.executionId
  known : ∀ a request, s.Calling a request →
    ∃ execution ∈ s.db.tables.domain.executions, execution.id = request.executionId
  backed : ∀ reference ∈ s.db.tables.domain.externalReferences,
    reference.Backed s.db.tables.domain
  unreferenced : ∀ reference ∈ s.db.tables.domain.externalReferences, ∀ a request,
    s.Calling a request → request.executionId ≠ reference.executionId

section Step

variable {D : Digest} {s : ExecutionState M} {action : Action ExecutionAnswer ExecutionCommand}

/-- A call that is open was open before, or it is made in this step. -/
theorem calling_step {b : AttemptId} {request : PublishRequest}
    (h : ((executionApp D).step action s).Calling b request) :
    s.Calling b request ∨ ∃ worker context payload answer calls,
      action = .proceed b answer ∧
      s.attempts b = some ⟨worker, .running context payload .preparing⟩ ∧
      (executionApp D).handleJob context payload s.now answer .preparing s.world s.db =
        .next (.called request) calls ∧
      ((executionApp D).step action s).db = s.db := by
  obtain ⟨worker, context, payload, hb⟩ := h
  rcases App.running_step (executionApp D) hb with hold | hstart |
    ⟨before, answer, calls, haction, hbefore, hstage, hdb, -⟩
  · exact .inl ⟨worker, context, payload, hold⟩
  · cases hstart
  · obtain ⟨-, rfl, -⟩ := executionApp_next hstage
    exact .inr ⟨worker, context, payload, answer, calls, haction, hbefore, hstage, hdb⟩

/-- An open call belongs to a publish job for its execution. -/
theorem calls_step (action : Action ExecutionAnswer ExecutionCommand)
    (h : ∀ a worker context payload request,
      s.attempts a = some ⟨worker, .running context payload (.called request)⟩ →
        context.jobType = .executionTelegramPublish ∧
          ∃ actionId, payload = .telegramPublish actionId request.executionId)
    (a : AttemptId) (worker : Worker) (context : RuntimeJobContext) (payload : JobPayload)
    (request : PublishRequest)
    (ha : ((executionApp D).step action s).attempts a =
      some ⟨worker, .running context payload (.called request)⟩) :
    context.jobType = .executionTelegramPublish ∧
      ∃ actionId, payload = .telegramPublish actionId request.executionId := by
  rcases App.running_step (executionApp D) ha with hold | hstart |
    ⟨before, answer, calls, -, -, hstage, -⟩
  · exact h a worker context payload request hold
  · cases hstart
  · obtain ⟨htype, -, request', actionId, hpayload, hrequest, -⟩ := executionApp_next hstage
    cases hrequest
    exact ⟨htype, actionId, hpayload⟩

/-- A step that makes a call makes it for an execution that is not over. -/
theorem deliveryStep_of_call {b : AttemptId} {request : PublishRequest}
    (hb : ((executionApp D).step action s).Calling b request) (hnot : ¬ s.Calling b request) :
    DeliveryStep s ((executionApp D).step action s) action := by
  obtain hold | ⟨worker, context, payload, answer, calls, rfl, hattempt, hstage, hdb⟩ :=
    calling_step hb
  · exact absurd hold hnot
  obtain ⟨htype, -⟩ := executionApp_next hstage
  unfold App.handleJob at hstage
  rw [htype] at hstage
  simp only [executionApp, executionHandler, htype, if_true, telegramExecutionHandler] at hstage
  split at hstage
  next => cases hstage
  next request' db hprepare =>
    cases hstage
    obtain ⟨-, hnone⟩ | ⟨execution, hexecution, hopen, -, hid⟩ :=
      ensures_prepare D context payload s.db _ db hprepare
    · cases hnone
    refine .called (by simp [RuntimeState.delivery, hattempt]) hexecution hopen (by rw [hdb])
      fun c other hc => ?_
    obtain hold | ⟨_, _, _, _, _, haction, -⟩ := calling_step hc
    · exact .inl hold
    · -- the step is that of one attempt, which waits for one answer
      cases haction
      obtain ⟨_, _, _, hsame⟩ := hb
      obtain ⟨_, _, _, hsame'⟩ := hc
      cases hsame.symm.trans hsame'
      exact .inr (hid request rfl)
  next => cases hstage

/-- A step without a message and without a call. -/
theorem deliveryStep_of_quiet (hdelivery : s.delivery action = none)
    (hcalling : ∀ b request, ((executionApp D).step action s).Calling b request →
      s.Calling b request) :
    DeliveryStep s ((executionApp D).step action s) action := by
  have heffect := App.effect (executionApp D) action s
  have hkept : ((executionApp D).step action s).db.tables.domain = s.db.tables.domain →
      DeliveryStep s ((executionApp D).step action s) action := by
    intro hsame
    refine .kept hdelivery ?_ hcalling
    rw [hsame]
    exact refl _
  generalize hdb : ((executionApp D).step action s).db = db at heffect hkept
  generalize ((executionApp D).step action s).world = world at heffect
  cases heffect with
  | quiet _ htables => exact hkept (by rw [htables])
  | called => exact hkept rfl
  | failed job error willRetry _ htables =>
      refine hkept ?_
      rw [htables]
      simp only [executionApp]
      split
      · exact domain_recordAgentRunFailure job error _ _ _
      · rfl
  | command c hcommand =>
      refine .kept hdelivery ?_ hcalling
      rw [hdb]
      exact Frames.domain (Ensures.of_exec (Q := Frames (KeepsExecutions none) s.db)
        (keepsWithin_run D c s.db) hcommand)
  | @committed a worker context payload progress answer db' _ hattempt hstage _ htables =>
      rcases keeps_of_commit hstage with hkeeps | ⟨execution, hexecution, hopen, hkeeps⟩ |
        ⟨request, rfl, hsettle⟩
      · refine .kept hdelivery ?_ hcalling
        rw [hdb, htables]
        exact hkeeps
      · refine .prepared hdelivery hexecution hopen ?_ hcalling
        rw [hdb, htables]
        exact hkeeps
      · refine .answered hdelivery ⟨worker, context, payload, hattempt⟩ ?_ hcalling
        rw [hdb, htables]
        refine Frames.domain (Ensures.of_exec
          (Q := Frames (KeepsExecutions (some request.executionId)) s.db) ?_ hsettle)
        refine keepsWithin_unpublished (fun messageId chatId houtcome => ?_) context.scope request _
        simp [RuntimeState.delivery, hattempt, houtcome] at hdelivery

namespace RuntimeState.Delivering

variable (h : s.Delivering)
include h

/-- One call is open for an execution. -/
theorem calling_unique {a b : AttemptId} {request request' : PublishRequest}
    (ha : s.Calling a request) (hb : s.Calling b request')
    (hid : request.executionId = request'.executionId) : a = b := by
  obtain ⟨worker, context, payload, hattempt⟩ := ha
  obtain ⟨worker', context', payload', hattempt'⟩ := hb
  obtain ⟨htype, actionId, hpayload⟩ := h.calls a worker context payload request hattempt
  obtain ⟨htype', actionId', hpayload'⟩ := h.calls b worker' context' payload' request' hattempt'
  have hwf := h.orderly.wellFormed
  obtain ⟨⟨job, hjob, hjobId, -, -, hjobType, hjobPayload⟩, -⟩ :=
    hwf.serves a worker context payload _ hattempt
  obtain ⟨⟨job', hjob', hjobId', -, -, hjobType', hjobPayload'⟩, -⟩ :=
    hwf.serves b worker' context' payload' _ hattempt'
  have hpublish : job.jobType = .executionTelegramPublish := hjobType.symm.trans htype
  have hpublish' : job'.jobType = .executionTelegramPublish := hjobType'.symm.trans htype'
  have hsame : job = job' := by
    rw [hid] at hpayload
    exact h.orderly.ledger.job_unique hwf.table hjob hjob' hpublish hpublish'
      (hjobPayload.symm.trans hpayload) (hjobPayload'.symm.trans hpayload')
  have hfirst := h.orderly.ledger.number_eq_one hwf h.bounded (a := a) (by simp [hattempt]) hjob
    hjobId hpublish
  have hfirst' := h.orderly.ledger.number_eq_one hwf h.bounded (a := b) (by simp [hattempt'])
    hjob' hjobId' hpublish'
  rw [hfirst, hfirst', ← hjobId, ← hjobId', hsame]

/-- A step that returns a new message writes it. -/
theorem written {d : Delivery} (hdelivery : s.delivery action = some d)
    (hnew : s.NewMessage action) :
    DeliveryStep s ((executionApp D).step action s) action := by
  cases action with
  | proceed a answer =>
      obtain ⟨outcome, foreign⟩ := answer
      simp only [RuntimeState.delivery] at hdelivery
      split at hdelivery
      next worker context payload request messageId chatId hattempt =>
        cases hdelivery
        have hcalling : s.Calling a request := ⟨worker, context, payload, hattempt⟩
        obtain ⟨htype, -⟩ := h.calls a worker context payload request hattempt
        obtain ⟨_, db, hsettle, hwritten⟩ := achieves_published
          (hnew ⟨a, request, messageId, chatId⟩ (by simp [RuntimeState.delivery, hattempt]))
          (fun reference hreference heq => h.unreferenced reference hreference a request hcalling heq.symm)
          context.scope
        have hexec : exec (settleExecution s.now context.scope request
            (.published messageId chatId)) s.db = .ok db := exec_eq_ok_iff.mpr ⟨_, hsettle⟩
        have hstage : (executionApp D).handleJob context payload s.now
            ⟨.published messageId chatId, foreign⟩ (.called request) s.world s.db = .commit db := by
          unfold App.handleJob
          rw [htype]
          simp only [executionApp, executionHandler, htype, if_true, telegramExecutionHandler,
            hexec, Stage.ofDomain]
        refine .written (d := ⟨a, request, messageId, chatId⟩)
          (by simp [RuntimeState.delivery, hattempt]) hcalling ?_ ?_
        · simp only [App.step, hattempt, hstage, RuntimeState.proceedAttempt]
          exact hwritten
        · rintro b request' ⟨worker', context', payload', hb⟩
          simp only [App.step, hattempt, hstage, RuntimeState.proceedAttempt,
            RuntimeState.setAttempt] at hb
          by_cases hba : b = a
          · simp [hba] at hb
          · refine ⟨⟨worker', context', payload', ?_⟩, hba⟩
            simpa [hba] using hb
      next => cases hdelivery
  | _ => cases hdelivery

/-- Every step is one of these, if its message is new. -/
theorem deliveryStep (hnew : s.NewMessage action) :
    DeliveryStep s ((executionApp D).step action s) action := by
  cases hdelivery : s.delivery action with
  | some d => exact h.written hdelivery hnew
  | none =>
      by_cases hcalling : ∀ b request, ((executionApp D).step action s).Calling b request →
          s.Calling b request
      · exact deliveryStep_of_quiet hdelivery hcalling
      · push Not at hcalling
        obtain ⟨b, request, hb, hnot⟩ := hcalling
        exact deliveryStep_of_call hb hnot

/-- An execution that is not over has no reference. -/
theorem open_ne {execution : Execution} (hexecution : execution ∈ s.db.tables.domain.executions)
    (hopen : execution.settled = false) {reference : ExternalReference}
    (hreference : reference ∈ s.db.tables.domain.externalReferences) :
    execution.id ≠ reference.executionId := by
  obtain ⟨other, hother, hid, hstatus, -⟩ := (h.backed reference hreference).execution
  intro heq
  obtain rfl := h.orderly.ledger.executions.eq_of_key_eq hexecution hother (heq.trans hid.symm)
  simp [Execution.settled, hstatus] at hopen

/-- A state in which no reference and no open call is new, and the executions of the references are
as they were. -/
theorem keep {s' : ExecutionState M} (horderly : s'.Orderly)
    (hbounded : s'.db.AttemptsBounded fun type => type = .executionTelegramPublish)
    (hcalls : ∀ a worker context payload request,
      s'.attempts a = some ⟨worker, .running context payload (.called request)⟩ →
        context.jobType = .executionTelegramPublish ∧
          ∃ actionId, payload = .telegramPublish actionId request.executionId)
    (htables : KeepsExecutions executionId s.db.tables.domain s'.db.tables.domain)
    (hfree : ∀ reference ∈ s.db.tables.domain.externalReferences,
      executionId ≠ some reference.executionId)
    (hcalling : ∀ b request, s'.Calling b request → s.Calling b request) : s'.Delivering := by
  refine ⟨horderly, hbounded, hcalls, fun a request ha => ?_, fun reference hreference => ?_,
    fun reference hreference a request ha => ?_⟩
  · obtain ⟨execution, hexecution, hid⟩ := h.known a request (hcalling a request ha)
    obtain ⟨execution', hexecution', hid'⟩ := htables.ids execution hexecution
    exact ⟨execution', hexecution', hid'.trans hid⟩
  · rw [htables.references] at hreference
    exact (h.backed reference hreference).keeps htables (hfree reference hreference)
  · rw [htables.references] at hreference
    exact h.unreferenced reference hreference a request (hcalling a request ha)

/-- The next state is in order as well. The message of the step has a reference there, and no
reference has gone away. -/
theorem step (hbudget : action.WithinBudget (fun type => type = .executionTelegramPublish) s)
    (hnew : s.NewMessage action) :
    ((executionApp D).step action s).Delivering ∧
      s.db.tables.domain.externalReferences ⊆
        ((executionApp D).step action s).db.tables.domain.externalReferences ∧
      ∀ d, s.delivery action = some d →
        ∃ reference ∈ ((executionApp D).step action s).db.tables.domain.externalReferences,
          reference.executionId = d.request.executionId ∧ reference.externalId = d.messageId := by
  have horderly := orderly_step D h.orderly action
  have hbounded := (executionApp D).attemptsBounded_step h.orderly.wellFormed.table h.bounded
    hbudget
  have hcalls := calls_step (D := D) action h.calls
  have hstep := h.deliveryStep (D := D) hnew
  generalize (executionApp D).step action s = s' at horderly hbounded hcalls hstep ⊢
  cases hstep with
  | kept hdelivery htables hcalling =>
      rw [htables.references, hdelivery]
      exact ⟨h.keep horderly hbounded hcalls htables (by simp) hcalling, List.Subset.refl _,
        by simp⟩
  | prepared hdelivery hexecution hopen htables hcalling =>
      rw [htables.references, hdelivery]
      refine ⟨h.keep horderly hbounded hcalls htables (fun reference hreference heq => ?_) hcalling,
        List.Subset.refl _, by simp⟩
      exact h.open_ne hexecution hopen hreference (Option.some.inj heq)
  | @called hdelivery execution hexecution hopen htables hcalling =>
      rw [htables, hdelivery]
      refine ⟨⟨horderly, hbounded, hcalls, fun a request ha => ?_, ?_,
        fun reference hreference a request ha => ?_⟩, List.Subset.refl _, by simp⟩
      · rw [htables]
        rcases hcalling a request ha with hold | hid
        · exact h.known a request hold
        · exact ⟨execution, hexecution, hid.symm⟩
      · rw [htables]
        exact h.backed
      · rw [htables] at hreference
        rcases hcalling a request ha with hold | hid
        · exact h.unreferenced reference hreference a request hold
        · exact hid ▸ h.open_ne hexecution hopen hreference
  | @answered hdelivery a request ha htables hcalling =>
      rw [htables.references, hdelivery]
      refine ⟨h.keep horderly hbounded hcalls htables (fun reference hreference heq => ?_) hcalling,
        List.Subset.refl _, by simp⟩
      exact h.unreferenced reference hreference a request ha (Option.some.inj heq)
  | @written d hdelivery ha htables hcalling =>
      obtain ⟨⟨reference, hreferences, hid, hmessage, hbacked⟩, hothers⟩ :=
        htables.backed (h.known d.attempt d.request ha)
      rw [hreferences]
      refine ⟨⟨horderly, hbounded, hcalls, fun a request hcall => ?_, fun other hother => ?_,
        fun other hother a request hcall => ?_⟩, List.subset_append_left _ _, fun d' hd' => ?_⟩
      · obtain ⟨execution, hexecution, hexecutionId⟩ := h.known a request (hcalling a request hcall).1
        rw [htables.executions, ← hexecutionId]
        refine (KeepsExecutions.modify s.db.tables.domain d.request.executionId ?_).ids execution
          hexecution
        exact fun _ => rfl
      · rw [hreferences, List.mem_append, List.mem_singleton] at hother
        rcases hother with hold | rfl
        · exact hothers other (h.unreferenced other hold d.attempt d.request ha).symm (h.backed other hold)
        · exact hbacked
      · rw [hreferences, List.mem_append, List.mem_singleton] at hother
        obtain ⟨hopen, hne⟩ := hcalling a request hcall
        rcases hother with hold | rfl
        · exact h.unreferenced other hold a request hopen
        · -- the execution of the new reference had one open call, which is answered now
          exact fun heq => hne (h.calling_unique hopen ha (heq.trans hid))
      · rw [hdelivery] at hd'
        obtain rfl := Option.some.inj hd'
        exact ⟨reference, List.mem_append_right _ (List.mem_singleton_self _), hid, hmessage⟩

end RuntimeState.Delivering

end Step

/-! ## Runs -/

/-- A state with nothing of the runtime and nothing of the service in it, references included. -/
structure RuntimeState.DeliveryInitial (s : ExecutionState M) : Prop
    extends RuntimeState.ServiceInitial s where
  references : s.db.tables.domain.externalReferences = []

theorem RuntimeState.DeliveryInitial.delivering {s : ExecutionState M} (h : s.DeliveryInitial) :
    s.Delivering := by
  have hnone : ∀ a request, ¬ s.Calling a request := by
    rintro a request ⟨worker, context, payload, ha⟩
    rw [h.attempts] at ha
    cases ha
  refine ⟨h.toServiceInitial.orderly, ?_, fun a worker context payload request ha => ?_,
    fun a request ha => absurd ha (hnone a request), ?_, ?_⟩
  · simp [JobTable.AttemptsBounded, h.jobs]
  · exact absurd ⟨worker, context, payload, ha⟩ (hnone a request)
  · simp [h.references]
  · simp [h.references]

/-- The guard: no claim takes over a publish job with no attempts left, and every message is new to
its account. -/
def RuntimeState.DeliveryGuard (s : ExecutionState M)
    (action : Action ExecutionAnswer ExecutionCommand) : Prop :=
  action.WithinBudget (fun type => type = .executionTelegramPublish) s ∧ s.NewMessage action

/-- What a guarded run keeps. -/
theorem RuntimeState.Delivering.run {D : Digest} {s : ExecutionState M} (h : s.Delivering)
    {actions : List (Action ExecutionAnswer ExecutionCommand)}
    (hactions : Guarded (executionApp D).step RuntimeState.DeliveryGuard s actions) :
    (Transition.run (executionApp D).step s actions).Delivering ∧
      s.db.tables.domain.externalReferences ⊆
        (Transition.run (executionApp D).step s actions).db.tables.domain.externalReferences := by
  constructor
  · exact invariant_run (I := RuntimeState.Delivering)
      (fun _ _ h haction => (h.step haction.1 haction.2).1) h hactions
  · exact relation_run (I := RuntimeState.Delivering)
      (R := fun s s' : ExecutionState M => s.db.tables.domain.externalReferences ⊆
        s'.db.tables.domain.externalReferences)
      (fun _ => List.Subset.refl _) (fun _ _ _ => List.Subset.trans)
      (fun _ _ h haction => (h.step haction.1 haction.2).1)
      (fun _ _ h haction => (h.step haction.1 haction.2).2.1) h hactions

/-- As long as no claim takes over a publish job with no attempts left and no account has a
reference to the message that is returned, every message that `publish_text` returns is recorded
from then on, whatever the workers, the scheduler, the clock and the rest of the application do. -/
theorem deliveries_recorded (D : Digest) {s : ExecutionState M} (hs : s.DeliveryInitial)
    {actions : List (Action ExecutionAnswer ExecutionCommand)}
    (hactions : Guarded (executionApp D).step RuntimeState.DeliveryGuard s actions) :
    DeliveriesRecorded D s actions := by
  rintro before action after rfl d hdelivery - -
  rw [guarded_append, guarded_cons] at hactions
  obtain ⟨hbefore, haction, hafter⟩ := hactions
  obtain ⟨hstep, -, hwritten⟩ := (hs.delivering.run hbefore).1.step (D := D) haction.1 haction.2
  obtain ⟨hfinal, hsubset⟩ := hstep.run hafter
  rw [run_append, run_cons]
  -- the reference that the step has written is still there, and backed
  obtain ⟨reference, hreference, hexecutionId, hmessage⟩ := hwritten d hdelivery
  have hlast := hsubset hreference
  obtain ⟨⟨execution, hexecution, hid, hstatus, hexternal⟩, link, hlink, hlinkId, hpublication,
    hlinkReference⟩ := hfinal.backed reference hlast
  exact .inl
    { execution := ⟨execution, hexecution, hid.trans hexecutionId, hstatus, hmessage ▸ hexternal⟩
      reference := ⟨link, hlink, hlinkId.trans hexecutionId, hpublication, reference, hlast,
        hlinkReference, hexecutionId, hmessage⟩ }

/-! ### A message that is lost, and one that is not -/

theorem executionStart_deliveryInitial : executionStart.DeliveryInitial where
  toServiceInitial := executionStart_serviceInitial
  references := rfl

instance (s : ExecutionState M) (action : Action ExecutionAnswer ExecutionCommand) :
    Decidable (s.NewMessage action) :=
  inferInstanceAs (Decidable (∀ d ∈ s.delivery action, ∀ reference ∈ _, _))

instance (s : ExecutionState M) (action : Action ExecutionAnswer ExecutionCommand) :
    Decidable (s.DeliveryGuard action) :=
  inferInstanceAs (Decidable (action.WithinBudget _ s ∧ s.NewMessage action))

/-- The post is published as message 7 of its channel. -/
def deliveredPost : List (Action ExecutionAnswer ExecutionCommand) :=
  publishedPost ++ [.proceed ⟨12, 1⟩ { outcome := .published "7" "@channel" }]

theorem delivered_post_recorded :
    DeliveriesRecorded plainDigest executionStart deliveredPost :=
  deliveries_recorded plainDigest executionStart_deliveryInitial (by decide +kernel)

/-- The account is targeted at a second chat, the post is proposed and approved for it, and the
provider is called. -/
def retargetedPost : List (Action ExecutionAnswer ExecutionCommand) :=
  deliveredPost ++
    [.command (.probeAndRegisterTelegramConnector demoScope 100 "@mirror" ⟨true, true, true⟩),
      .command (.createActionProposal demoScope 101 0),
      .command (.approveActionProposal demoScope 17 "owner"),
      .claim applicationWorker 27, .start ⟨27, 1⟩, .proceed ⟨27, 1⟩ {}]

/-- The second chat numbers its messages from the start as well. The constraint on messages rolls
the transaction back, and the execution is `PENDING` when the failure has been recorded. -/
theorem retargeted_message_lost :
    ¬ DeliveriesRecorded plainDigest executionStart (retargetedPost ++
      [.proceed ⟨27, 1⟩ { outcome := .published "7" "@mirror" }, .recordFailure ⟨27, 1⟩]) := by
  intro hrecorded
  have hdelivery : ((run (executionApp plainDigest).step executionStart retargetedPost).delivery
      (.proceed ⟨27, 1⟩ { outcome := .published "7" "@mirror" })).any
        (fun d => d.attempt = ⟨27, 1⟩ && d.request.executionId = 26) = true := by
    decide +kernel
  obtain ⟨d, hd, hids⟩ := (Option.any_eq_true _ _).mp hdelivery
  simp only [Bool.and_eq_true, decide_eq_true_eq] at hids
  have hover : (run (executionApp plainDigest).step executionStart (retargetedPost ++
      [.proceed ⟨27, 1⟩ { outcome := .published "7" "@mirror" }, .recordFailure ⟨27, 1⟩])).attempts
        ⟨27, 1⟩ = none := by
    rw [← Option.isNone_iff_eq_none]
    decide +kernel
  have hpending : ∀ execution ∈ (run (executionApp plainDigest).step executionStart
      (retargetedPost ++ [.proceed ⟨27, 1⟩ { outcome := .published "7" "@mirror" },
        .recordFailure ⟨27, 1⟩])).db.tables.domain.executions,
      execution.id = 26 → execution.status = .pending := by
    decide +kernel
  rcases hrecorded retargetedPost _ [.recordFailure ⟨27, 1⟩] rfl d hd (by simp)
    (hids.1 ▸ hover) with h | ⟨execution, hexecution, hid, hstatus⟩
  · obtain ⟨execution, hexecution, hid, hstatus, -⟩ := h.execution
    rw [hpending execution hexecution (hid.trans hids.2)] at hstatus
    cases hstatus
  · rw [hpending execution hexecution (hid.trans hids.2)] at hstatus
    cases hstatus

end LaunchOS
