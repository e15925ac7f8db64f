import LaunchOS.Analytics.Observations

/-!
# The chats of the updates

One bot receives the updates of all chats that it is in. An ingestion checks the scope of the account,
and leaves the chat of the update to the attribution of the event.

The module introduces:

* `StoresOwnChat`: an ingestion writes rows only if the chat of the update is the target of the
  account;
* `storesOwnChat_iff`: when it does so;
* an update of a foreign chat that is stored.
-/

namespace LaunchOS.Analytics

open Txn Transition

variable {M : Type}

/-- An ingestion that changes the tables is about the chat that the account targets, as far as the
update names a chat. `identifies chatId target` says that the provider's id of a chat and the
`target_chat_id` of an account stand for the same chat. -/
def StoresOwnChat (identifies : String → String → Prop) (scope : TenantScope)
    (connectorAccountId : Id) (update : TelegramUpdate) (now : Time)
    (db : AgentDatabase M AnalyticsTables) : Prop :=
  ∀ publicationId db',
    ingestTelegramUpdate scope connectorAccountId update now db = .ok (publicationId, db') →
    db'.tables.domain ≠ db.tables.domain →
    ∀ account read, Table.find ConnectorAccount.id connectorAccountId
      db.tables.domain.connectorAccounts = some account → readUpdate update = .ok read →
    ∀ chatId, read.2.2.chatId = some chatId → identifies chatId account.targetChatId

/-- A new observation changes the tables. -/
theorem withObservation_ne (t : AnalyticsTables) (id : Id) (scope : TenantScope)
    (observation : ConnectorObservation) (publicationId : Option Id) :
    (t.withObservation observation).withNormalized id scope observation publicationId ≠ t := by
  intro heq
  have hlength := congrArg (fun t => t.connectorObservations.length) heq
  simp [AnalyticsTables.withObservation] at hlength

theorem storesOwnChat_of_normalized {db : AgentDatabase M AnalyticsTables}
    (hinv : ObservationsNormalized db.nextId db.tables.domain)
    (identifies : String → String → Prop) (scope : TenantScope) (connectorAccountId : Id)
    (update : TelegramUpdate) (now : Time) :
    StoresOwnChat identifies scope connectorAccountId update now db ↔
      ∀ account read, NewUpdate scope connectorAccountId update account read db.tables.domain →
        ∀ chatId, read.2.2.chatId = some chatId → identifies chatId account.targetChatId := by
  constructor
  · intro h account read hnew
    have hachieves : Achieves (ingestTelegramUpdate scope connectorAccountId update now)
        (Ingesting scope connectorAccountId update now db) db := achieves_ingest_new hinv hnew
    obtain ⟨publicationId, db', hrun, hingesting⟩ := hachieves
    refine h publicationId db' hrun ?_ account read hnew.found.find hnew.readable
    rcases hingesting.cases_of_normalized hinv with
      ⟨-, account', read', existing, -, hread', hknown⟩ | ⟨account', read', -, -, -, hdomain⟩
    · -- the update has not been observed
      cases hnew.readable.symm.trans hread'
      rw [hnew.unknown] at hknown
      cases hknown
    · rw [hdomain]
      exact withObservation_ne _ _ _ _ _
  · intro h publicationId db' hrun hchanged account read haccount hread
    have hingesting := ensures_ingestTelegramUpdate scope connectorAccountId update now db _ _ hrun
    rcases hingesting.cases_of_normalized hinv with ⟨rfl, -⟩ | ⟨account', read', hnew, -⟩
    · exact absurd rfl hchanged
    · cases hread.symm.trans hnew.readable
      cases haccount.symm.trans hnew.found.find
      exact h account read hnew

/-- In every state of every run, an ingestion stores only what is about the target of its account if
and only if the update is not a new one for the account, names no chat, or names this one. -/
theorem storesOwnChat_iff (D : Digest) (hashPayload : Derivation → String)
    (identifies : String → String → Prop) {s : AnalyticsState M} (hs : AnalyticsInitial s)
    (actions : List AnalyticsAction) (scope : TenantScope) (connectorAccountId : Id)
    (update : TelegramUpdate) (now : Time) :
    let db := (run (analyticsApp D hashPayload).step s actions).db
    StoresOwnChat identifies scope connectorAccountId update now db ↔
      ∀ account read, NewUpdate scope connectorAccountId update account read db.tables.domain →
        ∀ chatId, read.2.2.chatId = some chatId → identifies chatId account.targetChatId :=
  storesOwnChat_of_normalized (observationsNormalized_run D hashPayload hs actions) identifies scope
    connectorAccountId update now

/-! ### An update of a foreign chat -/

/-- A post in the chat of another tenant, in which the bot is as well. -/
def foreignPost : TelegramUpdate :=
  [("update_id", .int 5), ("channel_post", .dict
    [("date", .int 3600), ("message_id", .int 4), ("chat", .dict [("id", .int (-1002))])])]

/-- The account targets `@channel`, and it stores the post. -/
theorem foreign_chat_stored :
    ¬ StoresOwnChat (fun chatId target => chatId = target) demoScope 1 foreignPost hour
      (run (analyticsApp plainDigest plainHash).step analyticsStart publishedExperiment).db := by
  have hinv := observationsNormalized_run plainDigest plainHash analyticsStart_initial
    publishedExperiment
  rw [storesOwnChat_of_normalized hinv]
  intro h
  have hchat : "-1002" = "@channel" := by
    refine h ⟨1, demoScope, 100, "telegram", "@channel", .ready, true, true, true⟩
      ("5", "channel_post", ⟨hour, some "4", some "-1002"⟩) ⟨⟨?_, rfl⟩, rfl, ?_, ?_⟩ "-1002" rfl
    · decide +kernel
    · decide +kernel
    · decide +kernel
  exact absurd hchat (by decide)

theorem own_chat_stored :
    StoresOwnChat (fun chatId target => chatId = target) demoScope 1 postReaction hour
      (run (analyticsApp plainDigest plainHash).step analyticsStart publishedExperiment).db := by
  refine (storesOwnChat_iff plainDigest plainHash _ analyticsStart_initial publishedExperiment
    demoScope 1 postReaction hour).mpr fun account read hnew chatId hchat => ?_
  have htarget : ∀ account ∈ (run (analyticsApp plainDigest plainHash).step analyticsStart
      publishedExperiment).db.tables.domain.connectorAccounts,
      account.targetChatId = "@channel" := by decide +kernel
  have hread : readUpdate postReaction =
      .ok ("5", "message_reaction", ⟨hour, some "7", some "@channel"⟩) := rfl
  cases hread.symm.trans hnew.readable
  cases hchat
  exact (htarget account (Table.mem_of_find hnew.found.find)).symm

end LaunchOS.Analytics
