import LaunchOS.Lib.FirstCome
import LaunchOS.Analytics.Observations
import LaunchOS.Analytics.Provenance

/-!
# Attribution

An event is attributed to a publication when its observation is normalized, and the attribution
stays: an observation binds to the message of a publication on its first arrival.

The module introduces:

* `AttributionOp`: the commit of a publication, the ingestion of an update, and a normalize job;
* `Post`, `Row`, `Layout`: how the rows of the tables belong together;
* `Refines`: a state carries out the binding on first arrival of `FirstCome`;
* `SameAttribution`: two states attribute the same updates to the publication of each execution;
* `sameAttribution_iff`: when two orders of the same operations do;
* a reaction that is ingested before its publication commits.
-/

namespace LaunchOS.Analytics

open Txn Transition FirstCome

variable {M : Type}

/-! ## Operations -/

/-- What takes effect on the attributions, each in a transaction of its own. -/
inductive AttributionOp
  /-- The publish handler after a call that has published a message. -/
  | publish (now : Time) (scope : TenantScope) (request : PublishRequest)
      (messageId chatId : String)
  /-- The first or a repeated delivery of an update. -/
  | ingest (now : Time) (scope : TenantScope) (connectorAccountId : Id) (update : TelegramUpdate)
  /-- A normalize job for the observation of an update. -/
  | normalize (context : RuntimeJobContext) (connectorAccountId : Id)
      (providerEventIdentity : String)

/-- Run it. -/
def AttributionOp.run : AttributionOp → AnalyticsTxn M Unit
  | .publish now scope request messageId chatId =>
      (settleExecution now scope request (.published messageId chatId)).zoom executionView
  | .ingest now scope connectorAccountId update => do
      let _ ← ingestTelegramUpdate scope connectorAccountId update now
  | .normalize context connectorAccountId providerEventIdentity => do
      let t ← DomainTxn.tables
      let observation ← DomainTxn.check (orRaise
        (.permanentJobError "ConnectorObservation not found")
        (observationOf connectorAccountId providerEventIdentity t))
      normalizeConnectorObservation context observation.id

/-- Run them in this order. -/
def runOps (ops : List AttributionOp) : AnalyticsTxn M Unit :=
  ops.foldlM (fun _ op => op.run) ()

/-- What an account observes of an update. -/
structure Delivery where
  scope : TenantScope
  connectorAccountId : Id
  content : String × String × EventIdentity
deriving DecidableEq, Repr

/-- The message that a publication has become. -/
structure Commit where
  connectorAccountId : Id
  messageId : String
  chatId : Option String
  executionId : Id
deriving DecidableEq, Repr

/-- The chats of an update and of a message do not differ. -/
def chatsAgree : Option String → Option String → Bool
  | some chatId, some parentId => chatId = parentId
  | _, _ => true

/-- The update is about the message. -/
def aboutMessage (delivery : Delivery) (commit : Commit) : Bool :=
  delivery.connectorAccountId = commit.connectorAccountId &&
    delivery.content.2.2.messageId = some commit.messageId &&
    chatsAgree delivery.content.2.2.chatId commit.chatId

theorem aboutMessage_eq_true_iff {delivery : Delivery} {commit : Commit} :
    aboutMessage delivery commit = true ↔
      delivery.connectorAccountId = commit.connectorAccountId ∧
        delivery.content.2.2.messageId = some commit.messageId ∧
        chatsAgree delivery.content.2.2.chatId commit.chatId = true := by
  simp [aboutMessage, and_assoc]

/-- An update arrives, or a message is offered; a normalize job does neither. -/
def AttributionOp.event : AttributionOp → Option (Event Delivery Commit)
  | .publish _ _ request messageId chatId =>
      some (.offer ⟨request.account.id, messageId, some chatId, request.executionId⟩)
  | .ingest _ scope connectorAccountId update =>
      (readUpdate update).toOption.map fun content => .arrive ⟨scope, connectorAccountId, content⟩
  | .normalize .. => none

/-- The events of the operations. -/
def eventsOf (ops : List AttributionOp) : List (Event Delivery Commit) :=
  ops.filterMap AttributionOp.event

theorem eventsOf_append_singleton (ops : List AttributionOp) (op : AttributionOp) :
    eventsOf (ops ++ [op]) = eventsOf ops ++ op.event.toList := by
  rw [eventsOf, List.filterMap_append, List.filterMap_cons]
  cases op.event <;> rfl

/-- The deliveries among the operations. -/
def deliveriesOf (ops : List AttributionOp) : List Delivery :=
  (eventsOf ops).filterMap fun
    | .arrive delivery => some delivery
    | .offer _ => none

theorem mem_deliveriesOf_iff {ops : List AttributionOp} {delivery : Delivery} :
    delivery ∈ deliveriesOf ops ↔ Event.arrive delivery ∈ eventsOf ops := by
  rw [deliveriesOf, List.mem_filterMap]
  constructor
  · rintro ⟨e, he, heq⟩
    cases e with
    | arrive k =>
        cases heq
        exact he
    | offer p => cases heq
  · exact fun he => ⟨_, he, rfl⟩

/-- The updates of an account have ids of their own: the same id is the same update. -/
def UpdatesIdentified (ops : List AttributionOp) : Prop :=
  ∀ delivery ∈ deliveriesOf ops, ∀ delivery' ∈ deliveriesOf ops,
    delivery.connectorAccountId = delivery'.connectorAccountId →
    delivery.content.1 = delivery'.content.1 → delivery.content = delivery'.content

instance (ops : List AttributionOp) : Decidable (UpdatesIdentified ops) := by
  unfold UpdatesIdentified
  infer_instance

/-! ## How the rows belong together -/

/-- The rows of a published message. -/
structure Post where
  reference : ExternalReference
  link : PublicationExecutionLink

/-- Its message. -/
def Post.commit (post : Post) : Commit where
  connectorAccountId := post.reference.connectorAccountId
  messageId := post.reference.externalId
  chatId := post.reference.externalParentId
  executionId := post.reference.executionId

/-- An observation and what it is normalized to, from the id `firstId` on. -/
structure Row where
  firstId : Id
  scope : TenantScope
  observation : ConnectorObservation
  post : Option Post

namespace Row

/-- The publication that the observation is attributed to. -/
def publicationId (row : Row) : Option Id := row.post.map fun post => post.link.publicationId

/-- The business event. -/
def event (row : Row) : BusinessEvent :=
  eventOf (row.firstId + 1) row.scope row.observation row.publicationId

/-- The link. -/
def link (row : Row) : NormalizedObservationLink where
  id := row.firstId + 3
  scope := row.scope
  observationId := row.observation.id
  sourceRecordId := row.firstId
  businessEventId := row.firstId + 1
  evidenceId := row.firstId + 2
  publicationId := row.publicationId

/-- The update of the observation. -/
def delivery (row : Row) : Delivery where
  scope := row.scope
  connectorAccountId := row.observation.connectorAccountId
  content := (row.observation.providerEventIdentity, row.observation.providerEventType,
    ⟨row.observation.eventTime, row.observation.externalObjectId, row.observation.externalParentId⟩)

/-- The update, with the message that it is bound to. -/
def binding (row : Row) : Delivery × Option Commit := (row.delivery, row.post.map Post.commit)

end Row

/-- The tables consist of the rows of these messages and observations. -/
structure Layout (nextId : Id) (t : AnalyticsTables) (posts : List Post) (rows : List Row) :
    Prop where
  references : t.externalReferences = posts.map Post.reference
  links : t.publicationExecutionLinks = posts.map Post.link
  observations : t.connectorObservations = rows.map Row.observation
  normalized : t.normalizedObservationLinks = rows.map Row.link
  events : t.businessEvents = rows.map Row.event
  post_mem : ∀ row ∈ rows, ∀ post, row.post = some post → post ∈ posts
  post_lt : ∀ post ∈ posts, post.reference.id < nextId ∧ post.link.publicationId < nextId
  paired : ∀ post ∈ posts, post.link.externalReferenceId = post.reference.id ∧
    post.link.executionId = post.reference.executionId
  message : ∀ post ∈ posts, post.reference.provider = "telegram" ∧
    post.reference.externalObjectType = "message"
  referenceIds : Table.KeysNodup (fun post => post.reference.id) posts
  publicationIds : Table.KeysNodup (fun post => post.link.publicationId) posts
  executionIds : Table.KeysNodup (fun post => post.reference.executionId) posts
  messageIds : Table.KeysNodup
    (fun post => (post.reference.connectorAccountId, post.reference.externalId)) posts
  row_lt : ∀ row ∈ rows, row.observation.id < nextId ∧ row.firstId < nextId
  observationIds : Table.KeysNodup (fun row => row.observation.id) rows
  rowIds : Table.KeysNodup Row.firstId rows
  scopes : ∀ row ∈ rows, ∃ account, AccountOf row.scope row.observation.connectorAccountId account
    t.toExecutionTables

namespace Layout

variable {nextId nextId' : Id} {t : AnalyticsTables} {posts : List Post} {rows : List Row}

/-- A message is found by its account and its id. -/
theorem messageReference_eq (h : Layout nextId t posts rows) {post : Post} (hpost : post ∈ posts) :
    messageReference post.reference.connectorAccountId post.reference.externalId
      t.toExecutionTables = some post.reference := by
  obtain ⟨hprovider, htype⟩ := h.message post hpost
  have hmem : post.reference ∈ t.externalReferences :=
    h.references ▸ List.mem_map_of_mem hpost
  unfold messageReference
  cases hfind : t.externalReferences.find? _ with
  | none =>
      have hnone := List.find?_eq_none.mp hfind post.reference hmem
      simp [hprovider, htype] at hnone
  | some reference =>
      obtain ⟨other, hother, rfl⟩ :=
        List.mem_map.mp (h.references ▸ List.mem_of_find?_eq_some hfind)
      have hmatch := List.find?_some hfind
      simp only [Bool.and_eq_true, decide_eq_true_eq] at hmatch
      rw [h.messageIds.eq_of_key_eq hother hpost (Prod.ext hmatch.1.1.1 hmatch.2)]

/-- So is its link. -/
theorem linkOfReference_eq (h : Layout nextId t posts rows) {post : Post} (hpost : post ∈ posts) :
    linkOfReference post.reference.id t.toExecutionTables = some post.link := by
  have hmem : post.link ∈ t.publicationExecutionLinks := h.links ▸ List.mem_map_of_mem hpost
  unfold linkOfReference
  cases hfind : Table.find PublicationExecutionLink.externalReferenceId post.reference.id
      t.publicationExecutionLinks with
  | none => exact absurd (h.paired post hpost).1 (Table.find_eq_none_iff.mp hfind _ hmem)
  | some link =>
      obtain ⟨other, hother, rfl⟩ := List.mem_map.mp (h.links ▸ Table.mem_of_find hfind)
      have hid := (h.paired other hother).1.symm.trans (Table.key_of_find hfind)
      rw [h.referenceIds.eq_of_key_eq hother hpost hid]

/-- At most one message is the one that an update is about. -/
theorem aboutMessage_unique (h : Layout nextId t posts rows) {delivery : Delivery}
    {post post' : Post} (hpost : post ∈ posts) (hpost' : post' ∈ posts)
    (habout : aboutMessage delivery post.commit = true)
    (habout' : aboutMessage delivery post'.commit = true) : post = post' := by
  rw [aboutMessage_eq_true_iff] at habout habout'
  refine h.messageIds.eq_of_key_eq hpost hpost' (Prod.ext ?_ ?_)
  · exact habout.1.symm.trans habout'.1
  · exact Option.some.inj (habout.2.1.symm.trans habout'.2.1)

/-- The publication of an observation is that of the message it is about. -/
theorem publicationForObservation_eq (h : Layout nextId t posts rows) (row : Row) :
    publicationForObservation row.observation t.toExecutionTables =
      (posts.find? fun post => aboutMessage row.delivery post.commit).map
        fun post => post.link.publicationId := by
  cases hfind : posts.find? fun post => aboutMessage row.delivery post.commit with
  | some post =>
      have hpost := List.mem_of_find?_eq_some hfind
      have habout := List.find?_some hfind
      simp only [aboutMessage_eq_true_iff] at habout
      obtain ⟨haccount, hmessage, hchat⟩ := habout
      have haccount : row.observation.connectorAccountId = post.reference.connectorAccountId :=
        haccount
      have hmessage : row.observation.externalObjectId = some post.reference.externalId := hmessage
      have hsame : sameChat row.observation post.reference = true := hchat
      unfold publicationForObservation
      simp [hmessage, haccount, h.messageReference_eq hpost, hsame, h.linkOfReference_eq hpost]
  | none =>
      rw [Option.map_none, Option.eq_none_iff_forall_not_mem]
      intro publicationId hsome
      obtain ⟨published, hpublished, -, external, hexternal, hid, haccount, hmessage, hchat⟩ :=
        publicationForObservation_eq_some hsome
      obtain ⟨post, hpost, rfl⟩ := List.mem_map.mp (h.references ▸ hexternal)
      refine List.find?_eq_none.mp hfind post hpost ?_
      exact aboutMessage_eq_true_iff.mpr ⟨haccount.symm, hmessage, hchat⟩

/-- The row that an ingestion adds. -/
def newRow (nextId : Id) (posts : List Post) (scope : TenantScope) (connectorAccountId : Id)
    (update : TelegramUpdate) (content : String × String × EventIdentity) (ingestedAt : Time) : Row where
  firstId := nextId + 1
  scope := scope
  observation := newObservation nextId scope connectorAccountId update content ingestedAt
  post := posts.find? fun post => aboutMessage ⟨scope, connectorAccountId, content⟩ post.commit

/-- An ingestion adds a row. -/
theorem insertRow (h : Layout nextId t posts rows) {scope : TenantScope} {accountId : Id}
    {update : TelegramUpdate} {content : String × String × EventIdentity} {now : Time} {account : ConnectorAccount}
    (haccount : AccountOf scope accountId account t.toExecutionTables) :
    Layout (nextId + 5)
      ((t.withObservation (newObservation nextId scope accountId update content now)).withNormalized
        (nextId + 1) scope (newObservation nextId scope accountId update content now)
        (publicationForObservation (newObservation nextId scope accountId update content now)
          t.toExecutionTables))
      posts (rows ++ [newRow nextId posts scope accountId update content now]) := by
  have hlt : nextId < nextId + 5 := Nat.lt_add_of_pos_right (by decide)
  have hpublication : publicationForObservation
      (newObservation nextId scope accountId update content now) t.toExecutionTables =
        (newRow nextId posts scope accountId update content now).publicationId :=
    h.publicationForObservation_eq (newRow nextId posts scope accountId update content now)
  refine { h with
    observations := ?_, normalized := ?_, events := ?_, post_mem := ?_, post_lt := ?_,
    row_lt := ?_, observationIds := ?_, rowIds := ?_, scopes := ?_ }
  · rw [List.map_append, ← h.observations]
    rfl
  · rw [List.map_append, ← h.normalized, hpublication]
    rfl
  · rw [List.map_append, ← h.events, hpublication]
    rfl
  · intro row hrow post hsome
    rcases List.mem_append.mp hrow with hold | hnew
    · exact h.post_mem row hold post hsome
    · rw [List.mem_singleton.mp hnew] at hsome
      exact List.mem_of_find?_eq_some hsome
  · exact fun post hpost => (h.post_lt post hpost).imp (·.trans hlt) (·.trans hlt)
  · intro row hrow
    rcases List.mem_append.mp hrow with hold | hnew
    · exact (h.row_lt row hold).imp (·.trans hlt) (·.trans hlt)
    · rw [List.mem_singleton.mp hnew]
      exact ⟨hlt, Nat.add_lt_add_left (by decide) nextId⟩
  · refine h.observationIds.append (Table.keysNodup_singleton _) fun new hnew row hrow => ?_
    rw [List.mem_singleton.mp hnew]
    exact (h.row_lt row hrow).1.ne
  · refine h.rowIds.append (Table.keysNodup_singleton _) fun new hnew row hrow => ?_
    rw [List.mem_singleton.mp hnew]
    exact ((h.row_lt row hrow).2.trans (Nat.lt_succ_self _)).ne
  · intro row hrow
    rcases List.mem_append.mp hrow with hold | hnew
    · exact h.scopes row hold
    · rw [List.mem_singleton.mp hnew]
      exact ⟨account, haccount⟩

/-- The rows of a message that is published. -/
def newPost (nextId : Id) (scope : TenantScope) (request : PublishRequest)
    (messageId chatId : String) : Post where
  reference := externalReferenceOf (nextId + 1) scope request messageId chatId
  link := publicationLinkOf (nextId + 2) nextId (nextId + 1) scope request

/-- A publication adds a message. -/
theorem insertPost {db db' : AgentDatabase M AnalyticsTables} {now : Time} {scope : TenantScope}
    {request : PublishRequest} {messageId chatId : String}
    (h : Layout db.nextId db.tables.domain posts rows)
    (hpublished : Published now scope request messageId chatId db db') :
    Layout db'.nextId db'.tables.domain
      (posts ++ [newPost db.nextId scope request messageId chatId]) rows := by
  obtain ⟨⟨hnext, hfree, hexecution, haccounts, -, -, hreferences, hlinks⟩, hdomain⟩ := hpublished
  simp only [domain_withDomain, toRuntimeTables_withDomain] at *
  have hold : ∀ post ∈ posts, post.reference ∈ db.tables.domain.externalReferences :=
    fun post hpost => h.references ▸ List.mem_map_of_mem hpost
  have hlt : db.nextId < db'.nextId := (Nat.lt_add_of_pos_right (by decide)).trans_le hnext
  constructor
  · rw [hreferences, List.map_append, h.references]
    rfl
  · rw [hlinks, List.map_append, h.links]
    rfl
  · rw [hdomain]
    exact h.observations
  · rw [hdomain]
    exact h.normalized
  · rw [hdomain]
    exact h.events
  · exact fun row hrow post hsome => List.mem_append_left _ (h.post_mem row hrow post hsome)
  · intro post hpost
    rcases List.mem_append.mp hpost with hpost | hnew
    · exact (h.post_lt post hpost).imp (·.trans hlt) (·.trans hlt)
    · rw [List.mem_singleton.mp hnew]
      exact ⟨(Nat.add_lt_add_left (by decide) db.nextId).trans_le hnext, hlt⟩
  · intro post hpost
    rcases List.mem_append.mp hpost with hpost | hnew
    · exact h.paired post hpost
    · rw [List.mem_singleton.mp hnew]
      exact ⟨rfl, rfl⟩
  · intro post hpost
    rcases List.mem_append.mp hpost with hpost | hnew
    · exact h.message post hpost
    · rw [List.mem_singleton.mp hnew]
      exact ⟨rfl, rfl⟩
  · refine h.referenceIds.append (Table.keysNodup_singleton _) fun new hnew post hpost => ?_
    rw [List.mem_singleton.mp hnew]
    exact ((h.post_lt post hpost).1.trans (Nat.lt_succ_self _)).ne
  · refine h.publicationIds.append (Table.keysNodup_singleton _) fun new hnew post hpost => ?_
    rw [List.mem_singleton.mp hnew]
    exact (h.post_lt post hpost).2.ne
  · refine h.executionIds.append (Table.keysNodup_singleton _) fun new hnew post hpost => ?_
    rw [List.mem_singleton.mp hnew]
    exact hexecution post.reference (hold post hpost)
  · refine h.messageIds.append (Table.keysNodup_singleton _) fun new hnew post hpost heq => ?_
    rw [List.mem_singleton.mp hnew] at heq
    obtain ⟨hprovider, htype⟩ := h.message post hpost
    exact hfree post.reference (hold post hpost)
      ⟨hprovider, congrArg Prod.fst heq, htype, congrArg Prod.snd heq⟩
  · exact fun row hrow => (h.row_lt row hrow).imp (·.trans hlt) (·.trans hlt)
  · exact h.observationIds
  · exact h.rowIds
  · intro row hrow
    obtain ⟨account, hfind, hscope⟩ := h.scopes row hrow
    exact ⟨account, haccounts ▸ hfind, hscope⟩

end Layout

/-! ## The refinement -/

/-- The state carries out the binding on first arrival. -/
structure Refines (db : AgentDatabase M AnalyticsTables) (bindings : Log Delivery Commit) :
    Prop where
  normalized : ObservationsNormalized db.nextId db.tables.domain
  layout : ∃ posts rows, Layout db.nextId db.tables.domain posts rows ∧
    bindings.offers = posts.map Post.commit ∧ bindings.bound = rows.map Row.binding

/-- No messages and no observations yet. -/
structure Unattributed (t : AnalyticsTables) : Prop where
  references : t.externalReferences = []
  links : t.publicationExecutionLinks = []
  observations : t.connectorObservations = []
  normalized : t.normalizedObservationLinks = []
  events : t.businessEvents = []

theorem Unattributed.refines {db : AgentDatabase M AnalyticsTables}
    (h : Unattributed db.tables.domain) : Refines db {} := by
  refine ⟨?_, [], [], ?_, rfl, rfl⟩
  · constructor <;> simp [h.observations, h.normalized]
  · constructor <;>
      simp [h.references, h.links, h.observations, h.normalized, h.events, Table.keysNodup_nil]

section Step

variable {db db' : AgentDatabase M AnalyticsTables} {es : List (Event Delivery Commit)}

/-- The updates that have arrived are those that are observed. -/
theorem Layout.known_iff {nextId : Id} {t : AnalyticsTables} {posts : List Post} {rows : List Row}
    (h : Layout nextId t posts rows)
    (hbound : (log aboutMessage es).bound = rows.map Row.binding)
    {scope : TenantScope} {accountId : Id} {account : ConnectorAccount}
    {content : String × String × EventIdentity}
    (haccount : AccountOf scope accountId account t.toExecutionTables)
    (hidentified : ∀ delivery, Event.arrive delivery ∈ es → delivery.connectorAccountId = accountId →
      delivery.content.1 = content.1 → delivery.content = content) :
    Delivery.mk scope accountId content ∈ (log aboutMessage es).keys ↔
      ∃ existing, observationOf accountId content.1 t = some existing := by
  have hkeys : (log aboutMessage es).keys = rows.map Row.delivery := by
    rw [Log.keys, hbound, List.map_map]
    rfl
  constructor
  · intro hmem
    rw [hkeys] at hmem
    obtain ⟨row, hrow, hdelivery⟩ := List.mem_map.mp hmem
    cases hfind : observationOf accountId content.1 t with
    | some existing => exact ⟨existing, rfl⟩
    | none =>
        have hobservation : row.observation ∈ t.connectorObservations :=
          h.observations ▸ List.mem_map_of_mem hrow
        have hnone := List.find?_eq_none.mp hfind row.observation hobservation
        have haccountId : row.observation.connectorAccountId = accountId :=
          congrArg Delivery.connectorAccountId hdelivery
        have hidentity : row.observation.providerEventIdentity = content.1 :=
          congrArg (fun delivery => delivery.content.1) hdelivery
        simp [haccountId, hidentity] at hnone
  · rintro ⟨existing, hfind⟩
    obtain ⟨row, hrow, rfl⟩ := List.mem_map.mp (h.observations ▸ List.mem_of_find?_eq_some hfind)
    have hmatch := List.find?_some hfind
    simp only [Bool.and_eq_true, decide_eq_true_eq] at hmatch
    have hkey : row.delivery ∈ (log aboutMessage es).keys := hkeys ▸ List.mem_map_of_mem hrow
    -- the account has one scope, and the update one content
    obtain ⟨account', hfind', hscope'⟩ := h.scopes row hrow
    rw [hmatch.1, haccount.find] at hfind'
    cases hfind'
    have hscope : row.scope = scope := hscope'.trans haccount.scope.symm
    have hcontent : row.delivery.content = content :=
      hidentified row.delivery (mem_keys_iff.mp hkey) hmatch.1 hmatch.2
    have hdelivery : row.delivery = Delivery.mk scope accountId content := by
      rw [← hcontent, ← hscope, ← hmatch.1]
      rfl
    exact hdelivery ▸ hkey

theorem Refines.ingest {now : Time} {scope : TenantScope} {accountId : Id}
    {update : TelegramUpdate} {publicationId : Option Id}
    (h : Refines db (log aboutMessage es))
    (hidentified : ∀ delivery, Event.arrive delivery ∈ es →
      delivery.connectorAccountId = accountId → ∀ content, readUpdate update = .ok content →
        delivery.content.1 = content.1 → delivery.content = content)
    (hingesting : Ingesting scope accountId update now db publicationId db') :
    Refines db' (log aboutMessage
      (es ++ (AttributionOp.ingest now scope accountId update).event.toList)) ∧
    db'.tables.domain.connectorAccounts = db.tables.domain.connectorAccounts := by
  obtain ⟨hnormalized, posts, rows, hlayout, hoffers, hbound⟩ := h
  have hnormalized' := hingesting.normalized hnormalized
  have hevent : ∀ content, readUpdate update = .ok content →
      (AttributionOp.ingest now scope accountId update).event.toList =
        [.arrive ⟨scope, accountId, content⟩] := by
    intro content hread
    simp [AttributionOp.event, hread, Except.toOption]
  rcases hingesting.cases_of_normalized hnormalized with
    ⟨rfl, account, content, existing, haccount, hread, hknown⟩ |
      ⟨account, content, hnew, hnext, hpublication, hdomain⟩
  · have hkey := (hlayout.known_iff hbound haccount fun delivery harrive hsame =>
      hidentified delivery harrive hsame content hread).mpr ⟨existing, hknown⟩
    rw [hevent content hread, log_append_singleton, Log.step, if_pos hkey]
    exact ⟨⟨hnormalized, posts, rows, hlayout, hoffers, hbound⟩, rfl⟩
  · have hkey : Delivery.mk scope accountId content ∉ (log aboutMessage es).keys := by
      rw [hlayout.known_iff hbound hnew.found fun delivery harrive hsame =>
        hidentified delivery harrive hsame content hnew.readable, hnew.unknown]
      simp
    rw [hevent content hnew.readable, log_append_singleton, Log.step, if_neg hkey]
    refine ⟨⟨hnormalized', posts, rows ++ [Layout.newRow db.nextId posts scope accountId update content now],
      ?_, hoffers, ?_⟩, by rw [hdomain]; rfl⟩
    · rw [hnext, hdomain, hpublication]
      exact hlayout.insertRow hnew.found
    · rw [hbound, hoffers, List.map_append, List.find?_map]
      rfl

theorem Refines.publish {now : Time} {scope : TenantScope} {request : PublishRequest}
    {messageId chatId : String} (h : Refines db (log aboutMessage es))
    (hpublished : Published now scope request messageId chatId db db') :
    Refines db' (log aboutMessage
      (es ++ (AttributionOp.publish now scope request messageId chatId).event.toList)) ∧
    db'.tables.domain.connectorAccounts = db.tables.domain.connectorAccounts := by
  obtain ⟨hnormalized, posts, rows, hlayout, hoffers, hbound⟩ := h
  refine ⟨⟨?_, posts ++ [Layout.newPost db.nextId scope request messageId chatId], rows,
    hlayout.insertPost hpublished, ?_, ?_⟩, hpublished.publishing.accounts⟩
  · refine hnormalized.sameLinks ((Nat.le_add_right _ 3).trans hpublished.publishing.nextId) ?_
    rw [hpublished.domain]
    exact ⟨rfl, rfl, List.Subset.refl _, List.Subset.refl _⟩
  · rw [AttributionOp.event, Option.toList_some, log_append_singleton, Log.step, hoffers,
      List.map_append]
    rfl
  · rw [AttributionOp.event, Option.toList_some, log_append_singleton, Log.step, hbound]

/-- A normalize job finds the observation of a delivery normalized. -/
theorem ensures_normalize_refines {bindings : Log Delivery Commit} (h : Refines db bindings)
    (context : RuntimeJobContext) (accountId : Id) (identity : String) :
    Ensures (AttributionOp.normalize context accountId identity).run (fun _ db' => db' = db) db := by
  rw [AttributionOp.run, ensures_bind, ensures_tables, ensures_bind, ensures_check]
  intro observation _
  rw [normalizeConnectorObservation, ensures_bind, ensures_tables, ensures_bind, ensures_check]
  intro found hfound
  rw [ensures_bind, ensures_check]
  intro _ _
  rw [ensures_bind]
  refine (ensures_normalizeObservation context.scope found db).mono fun _ db' hnormalizing => ?_
  rw [ensures_pure]
  exact hnormalizing.eq_of_mem h.normalized (Table.mem_of_find (orRaise_eq_ok_iff.mp hfound))

/-- What one operation does to the bindings. -/
theorem Refines.step (h : Refines db (log aboutMessage es)) (op : AttributionOp)
    (hidentified : ∀ delivery delivery', Event.arrive delivery ∈ es →
      op.event = some (.arrive delivery') →
      delivery.connectorAccountId = delivery'.connectorAccountId →
      delivery.content.1 = delivery'.content.1 → delivery.content = delivery'.content) :
    Ensures op.run (fun _ db' => Refines db' (log aboutMessage (es ++ op.event.toList)) ∧
      db'.tables.domain.connectorAccounts = db.tables.domain.connectorAccounts) db := by
  cases op with
  | publish now scope request messageId chatId =>
      refine (ensures_publish now scope request messageId chatId db).mono fun _ db' hdb' => ?_
      exact h.publish hdb'
  | ingest now scope accountId update =>
      rw [AttributionOp.run, ensures_bind]
      refine (ensures_ingestTelegramUpdate scope accountId update now db).mono
        fun publicationId db' hdb' => ?_
      rw [ensures_pure]
      refine h.ingest (fun delivery harrive hsame content hread hid => ?_) hdb'
      refine hidentified delivery ⟨scope, accountId, content⟩ harrive ?_ hsame hid
      simp [AttributionOp.event, hread, Except.toOption]
  | normalize context accountId identity =>
      refine (ensures_normalize_refines h context accountId identity).mono fun _ db' hdb' => ?_
      rw [hdb', AttributionOp.event, Option.toList_none, List.append_nil]
      exact ⟨h, rfl⟩

end Step

/-- A run of the operations carries out the binding of their events. -/
theorem refines_runOps {db db' : AgentDatabase M AnalyticsTables} {ops : List AttributionOp}
    (hfresh : Unattributed db.tables.domain) (hidentified : UpdatesIdentified ops)
    (hrun : exec (runOps ops) db = .ok db') :
    Refines db' (log aboutMessage (eventsOf ops)) ∧
      db'.tables.domain.connectorAccounts = db.tables.domain.connectorAccounts := by
  refine Ensures.of_exec (Q := fun db' => Refines db' (log aboutMessage (eventsOf ops)) ∧
    db'.tables.domain.connectorAccounts = db.tables.domain.connectorAccounts) ?_ hrun
  refine Ensures.foldlM_prefix
    (I := fun done (_ : Unit) db' => Refines db' (log aboutMessage (eventsOf done)) ∧
      db'.tables.domain.connectorAccounts = db.tables.domain.connectorAccounts)
    (fun done op rest hops _ db₁ h => ?_) ⟨hfresh.refines, rfl⟩
  refine (h.1.step op fun delivery delivery' harrive hevent => ?_).mono fun _ db₂ h₂ => ?_
  · refine hidentified delivery (mem_deliveriesOf_iff.mpr ?_) delivery'
      (mem_deliveriesOf_iff.mpr ?_)
    · rw [hops, eventsOf, List.filterMap_append]
      exact List.mem_append_left _ harrive
    · refine List.mem_filterMap.mpr ⟨op, ?_, hevent⟩
      rw [hops]
      exact List.mem_append_right _ List.mem_cons_self
  · rw [eventsOf_append_singleton]
    exact ⟨h₂.1, h₂.2.trans h.2⟩

/-! ## Attributions -/

/-- The event of an update of the account is attributed to the publication of the execution. -/
def AnalyticsTables.Attributes (t : AnalyticsTables) (executionId connectorAccountId : Id)
    (providerEventIdentity : String) : Prop :=
  ∃ observation ∈ t.connectorObservations,
    observation.connectorAccountId = connectorAccountId ∧
    observation.providerEventIdentity = providerEventIdentity ∧
    ∃ link ∈ t.normalizedObservationLinks, link.observationId = observation.id ∧
      ∃ event ∈ t.businessEvents, event.id = link.businessEventId ∧
        ∃ published ∈ t.publicationExecutionLinks, published.executionId = executionId ∧
          event.publicationId = some published.publicationId

instance (t : AnalyticsTables) (executionId connectorAccountId : Id)
    (providerEventIdentity : String) :
    Decidable (t.Attributes executionId connectorAccountId providerEventIdentity) := by
  unfold AnalyticsTables.Attributes
  infer_instance

/-- Both states attribute the same updates to the publication of each execution, and a metric over
any window counts as many events of it. -/
structure SameAttribution (t t' : AnalyticsTables) : Prop where
  events : ∀ executionId connectorAccountId providerEventIdentity,
    t.Attributes executionId connectorAccountId providerEventIdentity ↔
      t'.Attributes executionId connectorAccountId providerEventIdentity
  counts : ∀ published ∈ t.publicationExecutionLinks, ∀ published' ∈ t'.publicationExecutionLinks,
    published.executionId = published'.executionId → ∀ scope start stop,
      (attributedEvents scope published.publicationId start stop t).length =
        (attributedEvents scope published'.publicationId start stop t').length

/-- A metric of the publication of the execution counts the update. -/
def countsBinding (executionId : Id) (scope : TenantScope) (start stop : Time)
    (binding : Delivery × Option Commit) : Bool :=
  binding.1.scope = scope && "telegram." ++ binding.1.content.2.1 ∈ reactionEventTypes &&
    decide (start ≤ binding.1.content.2.2.eventTime) &&
    decide (binding.1.content.2.2.eventTime ≤ stop) &&
    binding.2.map Commit.executionId = some executionId

namespace Layout

variable {nextId : Id} {t : AnalyticsTables} {posts : List Post} {rows : List Row}

theorem attributes_iff (h : Layout nextId t posts rows) {executionId accountId : Id}
    {identity : String} :
    t.Attributes executionId accountId identity ↔
      ∃ row ∈ rows, row.delivery.connectorAccountId = accountId ∧
        row.delivery.content.1 = identity ∧
        ∃ post, row.post = some post ∧ post.commit.executionId = executionId := by
  constructor
  · rintro ⟨observation, hobservation, haccount, hidentity, link, hlink, hid, event, hevent, heventId,
      published, hpublished, hexecution, hpublication⟩
    obtain ⟨row, hrow, rfl⟩ := List.mem_map.mp (h.observations ▸ hobservation)
    obtain ⟨row₁, hrow₁, rfl⟩ := List.mem_map.mp (h.normalized ▸ hlink)
    obtain ⟨row₂, hrow₂, rfl⟩ := List.mem_map.mp (h.events ▸ hevent)
    obtain ⟨post, hpost, rfl⟩ := List.mem_map.mp (h.links ▸ hpublished)
    cases h.observationIds.eq_of_key_eq hrow₁ hrow hid
    cases h.rowIds.eq_of_key_eq hrow₂ hrow₁ (Nat.succ.inj heventId)
    refine ⟨row, hrow, haccount, hidentity, ?_⟩
    obtain ⟨post', hsome, hid'⟩ := Option.map_eq_some_iff.mp hpublication
    cases h.publicationIds.eq_of_key_eq (h.post_mem row hrow post' hsome) hpost hid'
    exact ⟨post, hsome, (h.paired post hpost).2.symm.trans hexecution⟩
  · rintro ⟨row, hrow, haccount, hidentity, post, hsome, hexecution⟩
    have hpost := h.post_mem row hrow post hsome
    refine ⟨row.observation, h.observations ▸ List.mem_map_of_mem hrow, haccount, hidentity,
      row.link, h.normalized ▸ List.mem_map_of_mem hrow, rfl, row.event,
      h.events ▸ List.mem_map_of_mem hrow, rfl, post.link, h.links ▸ List.mem_map_of_mem hpost,
      (h.paired post hpost).2.trans hexecution, ?_⟩
    exact Option.map_eq_some_iff.mpr ⟨post, hsome, rfl⟩

/-- What a metric counts is read off the bindings. -/
theorem length_attributedEvents (h : Layout nextId t posts rows) {post : Post}
    (hpost : post ∈ posts) (scope : TenantScope) (start stop : Time) :
    (attributedEvents scope post.link.publicationId start stop t).length =
      (rows.map Row.binding).countP
        (countsBinding post.commit.executionId scope start stop) := by
  unfold attributedEvents
  rw [List.length_insertionSort, h.events, ← List.countP_eq_length_filter, List.countP_map,
    List.countP_map]
  refine List.countP_congr fun row hrow => ?_
  have hsame : row.publicationId = some post.link.publicationId ↔
      (row.post.map Post.commit).map Commit.executionId = some post.commit.executionId := by
    rw [Row.publicationId, Option.map_map]
    cases hsome : row.post with
    | none => simp
    | some other =>
        have hother := h.post_mem row hrow other hsome
        simp only [Option.map_some, Option.some.injEq, Function.comp_apply]
        constructor
        · intro hid
          rw [h.publicationIds.eq_of_key_eq hother hpost hid]
        · intro hid
          rw [h.executionIds.eq_of_key_eq hother hpost hid]
  simp only [countsBinding, Function.comp_apply, Row.event, Row.binding, Row.delivery, eventOf,
    Bool.and_eq_true, decide_eq_true_eq, hsame]
  exact and_congr_right fun _ => decide_eq_true_iff.symm

end Layout

/-! ## Two orders -/

section Orders

variable {db db₁ db₂ : AgentDatabase M AnalyticsTables} {ops ops' : List AttributionOp}

/-- The attributions of a state are its bindings. -/
theorem Refines.attributes_iff {bindings : Log Delivery Commit} (h : Refines db bindings)
    {executionId accountId : Id} {identity : String} :
    db.tables.domain.Attributes executionId accountId identity ↔
      ∃ delivery commit, (delivery, some commit) ∈ bindings.bound ∧
        delivery.connectorAccountId = accountId ∧ delivery.content.1 = identity ∧
        commit.executionId = executionId := by
  obtain ⟨posts, rows, hlayout, -, hbound⟩ := h.layout
  rw [hlayout.attributes_iff, hbound]
  constructor
  · rintro ⟨row, hrow, haccount, hidentity, post, hsome, hexecution⟩
    refine ⟨row.delivery, post.commit, List.mem_map.mpr ⟨row, hrow, ?_⟩, haccount, hidentity,
      hexecution⟩
    rw [Row.binding, hsome]
    rfl
  · rintro ⟨delivery, commit, hmem, haccount, hidentity, hexecution⟩
    obtain ⟨row, hrow, heq⟩ := List.mem_map.mp hmem
    obtain ⟨rfl, hcommit⟩ := Prod.mk.inj heq
    obtain ⟨post, hsome, rfl⟩ := Option.map_eq_some_iff.mp hcommit
    exact ⟨row, hrow, haccount, hidentity, post, hsome, hexecution⟩

/-- The scopes and ids of an update tell it apart from the others that have arrived. -/
theorem Refines.delivery_eq (hidentified : UpdatesIdentified ops)
    (h₁ : Refines db₁ (log aboutMessage (eventsOf ops)))
    (h₂ : Refines db₂ (log aboutMessage (eventsOf ops')))
    (hperm : ops.Perm ops')
    (haccounts : db₁.tables.domain.connectorAccounts = db₂.tables.domain.connectorAccounts)
    {delivery delivery' : Delivery} {o o' : Option Commit}
    (hmem : (delivery, o) ∈ (log aboutMessage (eventsOf ops)).bound)
    (hmem' : (delivery', o') ∈ (log aboutMessage (eventsOf ops')).bound)
    (haccount : delivery.connectorAccountId = delivery'.connectorAccountId)
    (hidentity : delivery.content.1 = delivery'.content.1) : delivery = delivery' := by
  have harrive := mem_keys_iff.mp (List.mem_map_of_mem hmem)
  have harrive' := (hperm.filterMap AttributionOp.event).mem_iff.mpr
    (mem_keys_iff.mp (List.mem_map_of_mem hmem'))
  have hcontent := hidentified delivery (mem_deliveriesOf_iff.mpr harrive) delivery'
    (mem_deliveriesOf_iff.mpr harrive') haccount hidentity
  obtain ⟨posts, rows, hlayout, -, hbound⟩ := h₁.layout
  obtain ⟨posts', rows', hlayout', -, hbound'⟩ := h₂.layout
  rw [hbound] at hmem
  rw [hbound'] at hmem'
  obtain ⟨row, hrow, heq⟩ := List.mem_map.mp hmem
  obtain ⟨row', hrow', heq'⟩ := List.mem_map.mp hmem'
  cases heq
  cases heq'
  obtain ⟨account, hfind, hscope⟩ := hlayout.scopes row hrow
  obtain ⟨account', hfind', hscope'⟩ := hlayout'.scopes row' hrow'
  have hfound : some account = some account' := by
    rw [← hfind, ← hfind', haccounts]
    exact congrArg (fun id => Table.find ConnectorAccount.id id
      db₂.tables.domain.connectorAccounts) haccount
  have hscopes : row.scope = row'.scope :=
    hscope.trans ((congrArg ConnectorAccount.scope (Option.some.inj hfound)).trans hscope'.symm)
  calc row.delivery
      = ⟨row.scope, row.delivery.connectorAccountId, row.delivery.content⟩ := rfl
    _ = ⟨row'.scope, row'.delivery.connectorAccountId, row'.delivery.content⟩ := by
        rw [hscopes, haccount, hcontent]
    _ = row'.delivery := rfl

theorem Refines.offers_unique {es : List (Event Delivery Commit)}
    (h : Refines db (log aboutMessage es)) {commit commit' : Commit}
    (hmem : Event.offer commit ∈ es) (hmem' : Event.offer commit' ∈ es) :
    (commit.executionId = commit'.executionId → commit = commit') ∧
      ∀ delivery, aboutMessage delivery commit = true → aboutMessage delivery commit' = true →
        commit = commit' := by
  obtain ⟨posts, rows, hlayout, hoffers, -⟩ := h.layout
  have hposts : ∀ commit, Event.offer commit ∈ es → ∃ post ∈ posts, post.commit = commit := by
    intro commit hmem
    exact List.mem_map.mp (hoffers ▸ mem_offers_iff.mpr hmem)
  obtain ⟨post, hpost, rfl⟩ := hposts commit hmem
  obtain ⟨post', hpost', rfl⟩ := hposts commit' hmem'
  constructor
  · intro hexecution
    rw [hlayout.executionIds.eq_of_key_eq hpost hpost' hexecution]
  · intro delivery habout habout'
    rw [hlayout.aboutMessage_unique hpost hpost' habout habout']

theorem UpdatesIdentified.perm (h : UpdatesIdentified ops) (hperm : ops.Perm ops') :
    UpdatesIdentified ops' := by
  have hdeliveries : (deliveriesOf ops).Perm (deliveriesOf ops') :=
    (hperm.filterMap AttributionOp.event).filterMap _
  intro delivery harrive delivery' harrive'
  exact h delivery (hdeliveries.mem_iff.mpr harrive) delivery' (hdeliveries.mem_iff.mpr harrive')

/-- If the second order attributes what the first does, it binds what the first does. -/
theorem Refines.bound_subset (hidentified : UpdatesIdentified ops) (hperm : ops.Perm ops')
    (h₁ : Refines db₁ (log aboutMessage (eventsOf ops)))
    (h₂ : Refines db₂ (log aboutMessage (eventsOf ops')))
    (haccounts : db₁.tables.domain.connectorAccounts = db₂.tables.domain.connectorAccounts)
    (hattributes : ∀ executionId accountId identity,
      db₁.tables.domain.Attributes executionId accountId identity →
        db₂.tables.domain.Attributes executionId accountId identity)
    {delivery : Delivery} {commit : Commit}
    (hmem : (delivery, some commit) ∈ (log aboutMessage (eventsOf ops)).bound) :
    (delivery, some commit) ∈ (log aboutMessage (eventsOf ops')).bound := by
  have hevents : (eventsOf ops).Perm (eventsOf ops') := hperm.filterMap AttributionOp.event
  have hattribute := hattributes commit.executionId delivery.connectorAccountId delivery.content.1
    (h₁.attributes_iff.mpr ⟨delivery, commit, hmem, rfl, rfl, rfl⟩)
  obtain ⟨delivery', commit', hmem', haccount, hidentity, hexecution⟩ :=
    h₂.attributes_iff.mp hattribute
  have hdelivery := h₁.delivery_eq hidentified h₂ hperm haccounts hmem hmem' haccount.symm
    hidentity.symm
  have hoffer := offer_mem_of_bound hmem
  have hoffer' := hevents.mem_iff.mpr (offer_mem_of_bound hmem')
  rw [hdelivery, (h₁.offers_unique hoffer hoffer').1 hexecution.symm]
  exact hmem'

/-- Two orders attribute alike if and only if they bind alike. -/
theorem Refines.attributes_alike_iff (hidentified : UpdatesIdentified ops) (hperm : ops.Perm ops')
    (h₁ : Refines db₁ (log aboutMessage (eventsOf ops)))
    (h₂ : Refines db₂ (log aboutMessage (eventsOf ops')))
    (haccounts : db₁.tables.domain.connectorAccounts = db₂.tables.domain.connectorAccounts) :
    SameAttribution db₁.tables.domain db₂.tables.domain ↔
      ∀ delivery commit, (delivery, some commit) ∈ (log aboutMessage (eventsOf ops)).bound ↔
        (delivery, some commit) ∈ (log aboutMessage (eventsOf ops')).bound := by
  constructor
  · intro hsame delivery commit
    constructor
    · exact h₁.bound_subset hidentified hperm h₂ haccounts fun _ _ _ => (hsame.events _ _ _).mp
    · exact h₂.bound_subset (hidentified.perm hperm) hperm.symm h₁ haccounts.symm
        fun _ _ _ => (hsame.events _ _ _).mpr
  · intro hbound
    constructor
    · intro executionId accountId identity
      rw [h₁.attributes_iff, h₂.attributes_iff]
      simp only [hbound]
    · intro published hpublished published' hpublished' hexecution scope start stop
      obtain ⟨posts, rows, hlayout, -, hrows⟩ := h₁.layout
      obtain ⟨posts', rows', hlayout', -, hrows'⟩ := h₂.layout
      obtain ⟨post, hpost, rfl⟩ := List.mem_map.mp (hlayout.links ▸ hpublished)
      obtain ⟨post', hpost', rfl⟩ := List.mem_map.mp (hlayout'.links ▸ hpublished')
      have hsame : post.commit.executionId = post'.commit.executionId :=
        (hlayout.paired post hpost).2.symm.trans (hexecution.trans (hlayout'.paired post' hpost').2)
      rw [hlayout.length_attributedEvents hpost, hlayout'.length_attributedEvents hpost', hsame,
        ← hrows, ← hrows']
      exact (bound_perm (hperm.filterMap AttributionOp.event) hbound).countP_eq _

/-- Two orders of the same publications, ingestions and normalize jobs attribute alike if and only
if, for every update about a message, the publication of the message commits before the update is
ingested for the first time in both or in neither. -/
theorem sameAttribution_iff (hfresh : Unattributed db.tables.domain)
    (hidentified : UpdatesIdentified ops) (hperm : ops.Perm ops')
    (h₁ : exec (runOps ops) db = .ok db₁) (h₂ : exec (runOps ops') db = .ok db₂) :
    SameAttribution db₁.tables.domain db₂.tables.domain ↔
      Agree aboutMessage (eventsOf ops) (eventsOf ops') := by
  obtain ⟨hrefines₁, haccounts₁⟩ := refines_runOps hfresh hidentified h₁
  obtain ⟨hrefines₂, haccounts₂⟩ := refines_runOps hfresh (hidentified.perm hperm) h₂
  rw [hrefines₁.attributes_alike_iff hidentified hperm hrefines₂
    (haccounts₁.trans haccounts₂.symm)]
  refine bound_agree_iff (hperm.filterMap AttributionOp.event) fun delivery commit commit' hoffer
    hoffer' habout habout' => ?_
  exact (hrefines₁.offers_unique hoffer hoffer').2 delivery habout habout'

end Orders

/-! ### A reaction before the commit of its publication -/

/-- The provider has published the post, and the commit is still to come. -/
def calledState : AnalyticsState Unit :=
  run (analyticsApp plainDigest plainHash).step analyticsStart publishedExperiment.dropLast

/-- The commit. -/
def postCommit : List AttributionOp :=
  match calledState.attempts ⟨14, 1⟩ with
  | some ⟨_, .running _ _ (.execution (.called request))⟩ =>
      [.publish hour demoScope request "7" "@channel"]
  | _ => []

/-- The reaction to the post is delivered. -/
def reactionDelivery : AttributionOp := .ingest hour demoScope 1 postReaction

/-- So is another post. -/
def otherDelivery : AttributionOp := .ingest hour demoScope 1
  [("update_id", .int 6), ("channel_post", .dict
    [("date", .int 3600), ("message_id", .int 8), ("chat", .dict [("id", .str "@channel")])])]

/-- The state after operations that succeed. -/
def stateAfter (ops : List AttributionOp) : AgentDatabase Unit AnalyticsTables :=
  match exec (runOps ops) calledState.db with
  | .ok db => db
  | .error _ => calledState.db

theorem exec_stateAfter {ops : List AttributionOp}
    (h : (exec (runOps ops) calledState.db).toBool = true) :
    exec (runOps ops) calledState.db = .ok (stateAfter ops) := by
  unfold stateAfter
  cases hrun : exec (runOps ops) calledState.db with
  | ok db => rfl
  | error error =>
      rw [hrun] at h
      cases h

/-- The reaction counts if it comes after the commit, and not if it comes before. -/
theorem early_reaction_unattributed :
    exec (runOps (postCommit ++ [reactionDelivery])) calledState.db =
        .ok (stateAfter (postCommit ++ [reactionDelivery])) ∧
      exec (runOps (reactionDelivery :: postCommit)) calledState.db =
        .ok (stateAfter (reactionDelivery :: postCommit)) ∧
      ¬ SameAttribution (stateAfter (postCommit ++ [reactionDelivery])).tables.domain
        (stateAfter (reactionDelivery :: postCommit)).tables.domain := by
  refine ⟨exec_stateAfter (by decide +kernel), exec_stateAfter (by decide +kernel), fun h => ?_⟩
  have hevents := h.events 13 1 "5"
  exact absurd hevents (by decide +kernel)

/-- Deliveries after the commit may come in any order, and more than once. -/
theorem later_deliveries_commute :
    SameAttribution
      (stateAfter (postCommit ++ [reactionDelivery, otherDelivery, reactionDelivery])).tables.domain
      (stateAfter (postCommit ++
        [otherDelivery, reactionDelivery, reactionDelivery])).tables.domain := by
  have h₁ : exec (runOps (postCommit ++ [reactionDelivery, otherDelivery, reactionDelivery]))
      calledState.db = .ok (stateAfter _) := exec_stateAfter (by decide +kernel)
  have h₂ : exec (runOps (postCommit ++ [otherDelivery, reactionDelivery, reactionDelivery]))
      calledState.db = .ok (stateAfter _) := exec_stateAfter (by decide +kernel)
  refine (sameAttribution_iff ?_ ?_ ?_ h₁ h₂).mpr ?_
  · constructor <;> decide +kernel
  · decide +kernel
  · exact (List.Perm.swap _ _ _).append_left postCommit
  · decide +kernel

end LaunchOS.Analytics
