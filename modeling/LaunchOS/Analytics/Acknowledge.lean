import LaunchOS.Analytics.PollBatch

/-!
# Acknowledged updates

A call of `get_updates` with an offset drops the updates below it, for all accounts of the bot. The
offset is the cursor of one account.

The module introduces:

* `Bot.Arrived`, `Bot.mem_pending_of_le`: what the queue of the bot does;
* `Acknowledges`: the updates below the offset of a call are stored by the accounts they are for;
* `KeepsPace`: no other account lags behind the offset of a call, and an account is configured before
  updates for it are dropped;
* `acknowledged_run`: under this guard every call of every run acknowledges stored updates only;
* two accounts of one bot, one of which never sees its update.
-/

namespace LaunchOS.Analytics

open Txn Transition

variable {M : Type}

/-! ## The queue -/

namespace Bot

/-- The queue is in the order of the ids. -/
def Sorted (bot : Bot) : Prop :=
  bot.queued.Pairwise fun a b => a.updateId < b.updateId

/-- Updates have arrived: they are new, and none of them has been dropped. -/
structure Arrived (bot bot' : Bot) : Prop where
  confirmed : bot'.confirmed = bot.confirmed
  queued : bot.queued ⊆ bot'.queued
  fresh : ∀ update ∈ bot'.queued, update ∈ bot.queued ∨
    bot.confirmed ≤ update.updateId ∧ ∀ old ∈ bot.queued, old.updateId < update.updateId
  sorted : bot.Sorted → bot'.Sorted

theorem Arrived.refl (bot : Bot) : bot.Arrived bot :=
  ⟨rfl, List.Subset.refl _, fun _ h => .inl h, id⟩

theorem Arrived.trans {bot bot' bot'' : Bot} (h : bot.Arrived bot') (h' : bot'.Arrived bot'') :
    bot.Arrived bot'' where
  confirmed := h'.confirmed.trans h.confirmed
  queued := List.Subset.trans h.queued h'.queued
  fresh update hupdate := by
    rcases h'.fresh update hupdate with hold | ⟨hconfirmed, habove⟩
    · exact h.fresh update hold
    · exact .inr ⟨h.confirmed ▸ hconfirmed, fun old hold => habove old (h.queued hold)⟩
  sorted := h'.sorted ∘ h.sorted

theorem arrived_enqueue (bot : Bot) (update : QueuedUpdate) : bot.Arrived (bot.enqueue update) := by
  unfold enqueue
  split
  next h =>
    refine ⟨rfl, List.subset_append_left _ _, fun other hother => ?_, fun hsorted => ?_⟩
    · rcases List.mem_append.mp hother with hold | hnew
      · exact .inl hold
      · rw [List.mem_singleton.mp hnew]
        exact .inr h
    · refine List.pairwise_append.mpr ⟨hsorted, List.pairwise_singleton _ _, fun a ha b hb => ?_⟩
      rw [List.mem_singleton.mp hb]
      exact h.2 a ha
  next => exact .refl bot

theorem arrived_foldl (updates : List QueuedUpdate) (bot : Bot) :
    bot.Arrived (updates.foldl enqueue bot) := by
  induction updates generalizing bot with
  | nil => exact .refl bot
  | cons update updates ih => exact (arrived_enqueue bot update).trans (ih _)

theorem mem_pending {bot : Bot} {update : QueuedUpdate} (h : update ∈ bot.pending) :
    update ∈ bot.queued ∧ bot.confirmed ≤ update.updateId := by
  have hmem := List.mem_filter.mp (List.mem_of_mem_take h)
  exact ⟨hmem.1, of_decide_eq_true hmem.2⟩

/-- The answer to a call has no gap: with an update it has all earlier ones that are not dropped. -/
theorem mem_pending_of_le {bot : Bot} (hsorted : bot.Sorted) {update last : QueuedUpdate}
    (hupdate : update ∈ bot.queued) (hconfirmed : bot.confirmed ≤ update.updateId)
    (hlast : last ∈ bot.pending) (hle : update.updateId ≤ last.updateId) :
    update ∈ bot.pending := by
  unfold pending at hlast ⊢
  let remaining := bot.queued.filter fun update => bot.confirmed ≤ update.updateId
  have hmem : update ∈ remaining := List.mem_filter.mpr ⟨hupdate, decide_eq_true hconfirmed⟩
  have hpairwise : remaining.Pairwise fun a b => a.updateId < b.updateId :=
    hsorted.sublist List.filter_sublist
  rw [← List.take_append_drop 100 remaining] at hmem hpairwise
  rcases List.mem_append.mp hmem with htake | hdrop
  · exact htake
  · have hlt := (List.pairwise_append.mp hpairwise).2.2 last hlast update hdrop
    exact absurd hle (not_le.mpr hlt)

end Bot

/-! ## Calls -/

/-- The cursor is at an update or past it. -/
def Reached (cursor : Option ℤ) (updateId : ℤ) : Prop :=
  ∃ last, cursor = some last ∧ updateId ≤ last

instance (cursor : Option ℤ) (updateId : ℤ) : Decidable (Reached cursor updateId) :=
  match cursor with
  | none => isFalse fun ⟨_, h, _⟩ => by cases h
  | some last => decidable_of_iff (updateId ≤ last)
      ⟨fun h => ⟨last, rfl, h⟩, fun ⟨_, h, hle⟩ => by cases h; exact hle⟩

/-- An update is below the offset of a call. -/
def BelowOffset (offset : Option ℤ) (updateId : ℤ) : Prop :=
  ∃ k, offset = some k ∧ updateId < k

instance (offset : Option ℤ) (updateId : ℤ) : Decidable (BelowOffset offset updateId) :=
  match offset with
  | none => isFalse fun ⟨_, h, _⟩ => by cases h
  | some k => decidable_of_iff (updateId < k)
      ⟨fun h => ⟨k, rfl, h⟩, fun ⟨_, h, hlt⟩ => by cases h; exact hlt⟩

theorem Poll.belowOffset_iff {poll : Poll} {updateId : ℤ} :
    BelowOffset poll.offset updateId ↔ Reached poll.loaded.lastUpdateId updateId := by
  unfold BelowOffset Reached Poll.offset
  cases poll.loaded.lastUpdateId with
  | none => simp
  | some last =>
      simp only [Option.map_some, Option.some.injEq, exists_eq_left']
      exact Int.lt_add_one_iff

/-- The account has stored the update. -/
def Stores (t : AnalyticsTables) (connectorAccountId : Id) (update : QueuedUpdate) : Prop :=
  HasObserved connectorAccountId (toString update.updateId) t

section Claims

variable (D : Digest) (hashPayload : Derivation → String)
variable (isFor : QueuedUpdate → Id → Bool)

/-- Whenever a step calls `get_updates` with an offset, every update below it that the bot has queued
for the chat of an account with an observation state is stored by this account. Which updates are for
the chat of an account is an arbitrary relation `isFor`. -/
def Acknowledges (s : AnalyticsState M) (action : AnalyticsAction) : Prop :=
  ∀ call ∈ newCalls D hashPayload action s,
    ∀ state ∈ s.db.tables.domain.connectorObservationStates,
      ∀ update ∈ ((analyticsApp D hashPayload).step action s).world.bot.queued,
        BelowOffset call.offset update.updateId → isFor update state.connectorAccountId = true →
          Stores s.db.tables.domain state.connectorAccountId update

/-- When an account calls `get_updates`, the cursors of all other accounts have reached the updates
for them that its own cursor has reached. When an observation is configured for an account, none of
the updates for it has been dropped. -/
def KeepsPace (s : AnalyticsState M) : AnalyticsAction → Prop
  | .proceed a _ =>
      match s.attempts a with
      | some ⟨_, .running _ (.observeUpdates accountId) (.execution _)⟩ =>
          ∀ state ∈ s.db.tables.domain.connectorObservationStates,
            state.connectorAccountId = accountId →
            ∀ other ∈ s.db.tables.domain.connectorObservationStates,
              other.connectorAccountId ≠ accountId →
              ∀ update ∈ s.world.bot.queued, Reached state.lastUpdateId update.updateId →
                isFor update other.connectorAccountId = true →
                  Reached other.lastUpdateId update.updateId
      | _ => True
  | .command (.configureTelegramObservation _ accountId _) =>
      (∃ state ∈ s.db.tables.domain.connectorObservationStates,
        state.connectorAccountId = accountId) ∨
        ∀ update ∈ s.world.bot.queued, update.updateId < s.world.bot.confirmed →
          isFor update accountId = false
  | _ => True

/-- The account that an observation is configured for. -/
def configuredAccount : AnalyticsAction → Option Id
  | .command (.configureTelegramObservation _ accountId _) => some accountId
  | _ => none

variable {isFor} in
theorem keepsPace_iff {s : AnalyticsState M} {action : AnalyticsAction} :
    KeepsPace isFor s action ↔
      (∀ accountId ∈ askingAccount s action,
        ∀ state ∈ s.db.tables.domain.connectorObservationStates,
          state.connectorAccountId = accountId →
          ∀ other ∈ s.db.tables.domain.connectorObservationStates,
            other.connectorAccountId ≠ accountId →
            ∀ update ∈ s.world.bot.queued, Reached state.lastUpdateId update.updateId →
              isFor update other.connectorAccountId = true →
                Reached other.lastUpdateId update.updateId) ∧
      ∀ accountId ∈ configuredAccount action,
        (∃ state ∈ s.db.tables.domain.connectorObservationStates,
          state.connectorAccountId = accountId) ∨
          ∀ update ∈ s.world.bot.queued, update.updateId < s.world.bot.confirmed →
            isFor update accountId = false := by
  cases action with
  | proceed a answer =>
      simp only [KeepsPace, askingAccount, configuredAccount]
      rcases s.attempts a with _ | ⟨_, _ | ⟨_, payload, progress⟩ | _⟩
      case proceed.some.running => cases payload <;> cases progress <;> simp
      all_goals simp
  | command c => cases c <;> simp [KeepsPace, askingAccount, configuredAccount]
  | _ => simp [KeepsPace, askingAccount, configuredAccount]

instance (s : AnalyticsState M) (action : AnalyticsAction) :
    Decidable (KeepsPace isFor s action) :=
  decidable_of_iff _ keepsPace_iff.symm

instance (s : AnalyticsState M) (action : AnalyticsAction) :
    Decidable (Acknowledges D hashPayload isFor s action) := by
  unfold Acknowledges Stores
  infer_instance

end Claims

/-! ## The invariant -/

/-- A batch that an account is about to commit has every update for it up to its own last one, but
for those that are stored. -/
structure BatchSound (isFor : QueuedUpdate → Id → Bool) (nextId : Id) (t : AnalyticsTables)
    (bot : Bot) (accountId : Id) (poll : Poll) (batch : List QueuedUpdate) : Prop where
  id_lt : poll.loaded.id < nextId
  account : ∀ state ∈ t.connectorObservationStates, state.id = poll.loaded.id →
    state.connectorAccountId = accountId
  queued : batch ⊆ bot.queued
  complete : ∀ update ∈ bot.queued, ∀ last ∈ batch, update.updateId ≤ last.updateId →
    isFor update accountId = true → update ∈ batch ∨ Stores t accountId update

/-- What every account has stored: the updates for it up to its cursor, and those that are
dropped. -/
structure RowsSound (isFor : QueuedUpdate → Id → Bool) (nextId : Id) (t : AnalyticsTables)
    (bot : Bot) : Prop where
  ids : Table.KeysNodup ConnectorObservationState.id t.connectorObservationStates
  id_lt : ∀ state ∈ t.connectorObservationStates, state.id < nextId
  cursors : ∀ state ∈ t.connectorObservationStates, ∀ last, state.lastUpdateId = some last →
    ∃ update ∈ bot.queued, update.updateId = last
  reached : ∀ state ∈ t.connectorObservationStates, ∀ update ∈ bot.queued,
    Reached state.lastUpdateId update.updateId → isFor update state.connectorAccountId = true →
      Stores t state.connectorAccountId update
  dropped : ∀ state ∈ t.connectorObservationStates, ∀ update ∈ bot.queued,
    update.updateId < bot.confirmed → isFor update state.connectorAccountId = true →
      Stores t state.connectorAccountId update

/-- The invariant of the runs. -/
structure PaceKept (isFor : QueuedUpdate → Id → Bool) (s : AnalyticsState M) : Prop where
  normalized : ObservationsNormalized s.db.nextId s.db.tables.domain
  sorted : s.world.bot.Sorted
  rows : RowsSound isFor s.db.nextId s.db.tables.domain s.world.bot
  polls : ∀ a worker context accountId poll batch, s.attempts a = some ⟨worker,
    .running context (.observeUpdates accountId) (.polling poll (.ok batch))⟩ →
      BatchSound isFor s.db.nextId s.db.tables.domain s.world.bot accountId poll batch

/-! ### Writes that keep it -/

section Rows

variable {isFor : QueuedUpdate → Id → Bool} {nextId nextId' : Id} {t t' : AnalyticsTables}
variable {bot bot' : Bot}

/-- From `t` to `t'` the rows keep their ids and accounts, and nothing stored is lost. -/
structure KeepsStored (t t' : AnalyticsTables) : Prop where
  ids : t'.connectorObservationStates.map ConnectorObservationState.id =
    t.connectorObservationStates.map ConnectorObservationState.id
  accounts : ∀ state' ∈ t'.connectorObservationStates, ∃ state ∈ t.connectorObservationStates,
    state'.id = state.id ∧ state'.connectorAccountId = state.connectorAccountId
  observations : t.connectorObservations ⊆ t'.connectorObservations

/-- So do the cursors. -/
structure SameCursors (t t' : AnalyticsTables) : Prop where
  ids : t'.connectorObservationStates.map ConnectorObservationState.id =
    t.connectorObservationStates.map ConnectorObservationState.id
  states : ∀ state' ∈ t'.connectorObservationStates, ∃ state ∈ t.connectorObservationStates,
    state'.id = state.id ∧ state'.connectorAccountId = state.connectorAccountId ∧
      state'.lastUpdateId = state.lastUpdateId
  observations : t.connectorObservations ⊆ t'.connectorObservations

theorem SameCursors.of_eq (hstates : t'.connectorObservationStates = t.connectorObservationStates)
    (hobservations : t.connectorObservations ⊆ t'.connectorObservations) : SameCursors t t' :=
  ⟨by rw [hstates], fun state' hstate' => ⟨state', hstates ▸ hstate', rfl, rfl, rfl⟩,
    hobservations⟩

theorem SameCursors.keepsStored (h : SameCursors t t') : KeepsStored t t' where
  ids := h.ids
  accounts state' hstate' := by
    obtain ⟨state, hstate, hid, haccount, -⟩ := h.states state' hstate'
    exact ⟨state, hstate, hid, haccount⟩
  observations := h.observations

theorem Stores.mono {accountId : Id} {update : QueuedUpdate} (h : Stores t accountId update)
    (hsubset : t.connectorObservations ⊆ t'.connectorObservations) : Stores t' accountId update :=
  HasObserved.mono h hsubset

namespace BatchSound

variable {accountId : Id} {poll : Poll} {batch : List QueuedUpdate}

theorem mono (h : BatchSound isFor nextId t bot accountId poll batch) (hnext : nextId ≤ nextId')
    (hkeeps : KeepsStored t t') : BatchSound isFor nextId' t' bot accountId poll batch where
  id_lt := h.id_lt.trans_le hnext
  account state' hstate' hid := by
    obtain ⟨state, hstate, hsame, haccount⟩ := hkeeps.accounts state' hstate'
    rw [haccount]
    exact h.account state hstate (hsame.symm.trans hid)
  queued := h.queued
  complete update hupdate last hlast hle hfor :=
    (h.complete update hupdate last hlast hle hfor).imp_right fun hstores =>
      hstores.mono hkeeps.observations

/-- A row of an account that has none, with a new id. -/
theorem insert (h : BatchSound isFor nextId t bot accountId poll batch) (hnext : nextId ≤ nextId')
    {state : ConnectorObservationState} (hid : state.id = nextId) :
    BatchSound isFor nextId' { t with
      connectorObservationStates := t.connectorObservationStates ++ [state] } bot accountId poll
      batch := by
  refine ⟨h.id_lt.trans_le hnext, fun row hrow hsame => ?_, h.queued, h.complete⟩
  rcases List.mem_append.mp hrow with hold | hnew
  · exact h.account row hold hsame
  · rw [List.mem_singleton.mp hnew, hid] at hsame
    exact absurd hsame h.id_lt.ne'

/-- Updates that arrive come after the batch. -/
theorem arrive (h : BatchSound isFor nextId t bot accountId poll batch) (harrived : bot.Arrived bot')
    (offset : Option ℤ) : BatchSound isFor nextId t (bot'.confirm offset) accountId poll batch := by
  refine ⟨h.id_lt, h.account, List.Subset.trans h.queued harrived.queued, ?_⟩
  intro update hupdate last hlast hle hfor
  rcases harrived.fresh update hupdate with hold | ⟨-, habove⟩
  · exact h.complete update hold last hlast hle hfor
  · exact absurd hle (not_le.mpr (habove last (h.queued hlast)))

end BatchSound

namespace RowsSound

theorem mono (h : RowsSound isFor nextId t bot) (hnext : nextId ≤ nextId')
    (hsame : SameCursors t t') : RowsSound isFor nextId' t' bot where
  ids := by
    rw [Table.KeysNodup, hsame.ids]
    exact h.ids
  id_lt state' hstate' := by
    obtain ⟨state, hstate, hid, -⟩ := hsame.states state' hstate'
    exact hid ▸ (h.id_lt state hstate).trans_le hnext
  cursors state' hstate' last hlast := by
    obtain ⟨state, hstate, -, -, hcursor⟩ := hsame.states state' hstate'
    exact h.cursors state hstate last (hcursor ▸ hlast)
  reached state' hstate' update hupdate hreached hfor := by
    obtain ⟨state, hstate, -, haccount, hcursor⟩ := hsame.states state' hstate'
    rw [haccount] at hfor ⊢
    exact (h.reached state hstate update hupdate (hcursor ▸ hreached) hfor).mono hsame.observations
  dropped state' hstate' update hupdate hdropped hfor := by
    obtain ⟨state, hstate, -, haccount, -⟩ := hsame.states state' hstate'
    rw [haccount] at hfor ⊢
    exact (h.dropped state hstate update hupdate hdropped hfor).mono hsame.observations

/-- A row without a cursor, of an account for which no update has been dropped. -/
theorem insert (h : RowsSound isFor nextId t bot) (hnext : nextId < nextId')
    {state : ConnectorObservationState} (hid : state.id = nextId) (hcursor : state.lastUpdateId = none)
    (hdropped : ∀ update ∈ bot.queued, update.updateId < bot.confirmed →
      isFor update state.connectorAccountId = false) :
    RowsSound isFor nextId' { t with
      connectorObservationStates := t.connectorObservationStates ++ [state] } bot := by
  constructor
  · refine h.ids.append (Table.keysNodup_singleton _) fun new hnew old hold => ?_
    rw [List.mem_singleton.mp hnew, hid]
    exact (h.id_lt old hold).ne
  · intro row hrow
    rcases List.mem_append.mp hrow with hold | hnew
    · exact (h.id_lt row hold).trans hnext
    · rw [List.mem_singleton.mp hnew, hid]
      exact hnext
  · intro row hrow last hlast
    rcases List.mem_append.mp hrow with hold | hnew
    · exact h.cursors row hold last hlast
    · rw [List.mem_singleton.mp hnew, hcursor] at hlast
      cases hlast
  · intro row hrow update hupdate hreached hfor
    rcases List.mem_append.mp hrow with hold | hnew
    · exact h.reached row hold update hupdate hreached hfor
    · rw [List.mem_singleton.mp hnew, hcursor] at hreached
      obtain ⟨_, hnone, -⟩ := hreached
      cases hnone
  · intro row hrow update hupdate hlt hfor
    rcases List.mem_append.mp hrow with hold | hnew
    · exact h.dropped row hold update hupdate hlt hfor
    · rw [List.mem_singleton.mp hnew, hdropped update hupdate hlt] at hfor
      cases hfor

/-- What a call with the offset of a row drops, every account has stored that keeps pace with it. -/
theorem acknowledged (h : RowsSound isFor nextId t bot) (harrived : bot.Arrived bot')
    {loaded : ConnectorObservationState} (hloaded : loaded ∈ t.connectorObservationStates)
    (hpace : ∀ other ∈ t.connectorObservationStates,
      other.connectorAccountId ≠ loaded.connectorAccountId →
      ∀ update ∈ bot.queued, Reached loaded.lastUpdateId update.updateId →
        isFor update other.connectorAccountId = true → Reached other.lastUpdateId update.updateId)
    {state : ConnectorObservationState} (hstate : state ∈ t.connectorObservationStates)
    {update : QueuedUpdate} (hupdate : update ∈ bot'.queued)
    (hreached : Reached loaded.lastUpdateId update.updateId)
    (hfor : isFor update state.connectorAccountId = true) :
    Stores t state.connectorAccountId update := by
  rcases harrived.fresh update hupdate with hold | ⟨-, habove⟩
  · by_cases haccount : state.connectorAccountId = loaded.connectorAccountId
    · rw [haccount] at hfor ⊢
      exact h.reached loaded hloaded update hold hreached hfor
    · exact h.reached state hstate update hold
        (hpace state hstate haccount update hold hreached hfor) hfor
  · -- a new update is past every cursor
    obtain ⟨last, hlast, hle⟩ := hreached
    obtain ⟨read, hread, hid⟩ := h.cursors loaded hloaded last hlast
    exact absurd (habove read hread) (not_lt.mpr (hid ▸ hle))

theorem call (h : RowsSound isFor nextId t bot) (harrived : bot.Arrived bot') {poll : Poll}
    (hloaded : poll.loaded ∈ t.connectorObservationStates)
    (hpace : ∀ other ∈ t.connectorObservationStates,
      other.connectorAccountId ≠ poll.loaded.connectorAccountId →
      ∀ update ∈ bot.queued, Reached poll.loaded.lastUpdateId update.updateId →
        isFor update other.connectorAccountId = true → Reached other.lastUpdateId update.updateId) :
    RowsSound isFor nextId t (bot'.confirm poll.offset) where
  ids := h.ids
  id_lt := h.id_lt
  cursors state hstate last hlast := by
    obtain ⟨update, hupdate, hid⟩ := h.cursors state hstate last hlast
    exact ⟨update, harrived.queued hupdate, hid⟩
  reached state hstate update hupdate hreached hfor := by
    rcases harrived.fresh update hupdate with hold | ⟨-, habove⟩
    · exact h.reached state hstate update hold hreached hfor
    · obtain ⟨last, hlast, hle⟩ := hreached
      obtain ⟨read, hread, hid⟩ := h.cursors state hstate last hlast
      exact absurd (habove read hread) (not_lt.mpr (hid ▸ hle))
  dropped state hstate update hupdate hlt hfor := by
    by_cases hbelow : BelowOffset poll.offset update.updateId
    · exact h.acknowledged harrived hloaded hpace hstate hupdate (Poll.belowOffset_iff.mp hbelow)
        hfor
    · have hconfirmed : update.updateId < bot.confirmed := by
        rw [← harrived.confirmed]
        unfold Bot.confirm at hlt
        cases hoffset : poll.offset with
        | none =>
            rw [hoffset] at hlt
            exact hlt
        | some k =>
            rw [hoffset] at hlt
            exact (lt_max_iff.mp hlt).resolve_right fun hk => hbelow ⟨k, hoffset, hk⟩
      rcases harrived.fresh update hupdate with hold | ⟨hle, -⟩
      · exact h.dropped state hstate update hold hconfirmed hfor
      · exact absurd hle (not_le.mpr hconfirmed)

end RowsSound

/-- The batch of a call. -/
theorem RowsSound.batchSound (h : RowsSound isFor nextId t bot) (hsorted : bot.Sorted) {poll : Poll}
    (hloaded : poll.loaded ∈ t.connectorObservationStates) :
    BatchSound isFor nextId t bot poll.loaded.connectorAccountId poll bot.pending where
  id_lt := h.id_lt _ hloaded
  account state hstate hid :=
    congrArg ConnectorObservationState.connectorAccountId (h.ids.eq_of_key_eq hstate hloaded hid)
  queued _ hupdate := (Bot.mem_pending hupdate).1
  complete update hupdate last hlast hle hfor := by
    rcases le_or_gt bot.confirmed update.updateId with hconfirmed | hdropped
    · exact .inl (Bot.mem_pending_of_le hsorted hupdate hconfirmed hlast hle)
    · exact .inr (h.dropped _ hloaded update hupdate hdropped hfor)

end Rows

/-! ### The commit of a batch -/

section Commit

variable {isFor : QueuedUpdate → Id → Bool} {scope : TenantScope} {accountId : Id} {now : Time}
variable {poll : Poll} {batch : List QueuedUpdate} {sorted : List (ℤ × TelegramUpdate)} {bot : Bot}
variable {db db' : AgentDatabase M AnalyticsTables}

theorem readUpdate_json {update : QueuedUpdate} {read : String × String × EventIdentity}
    (h : readUpdate update.json = .ok read) : read.1 = toString update.updateId := by
  unfold readUpdate at h
  obtain ⟨_, -, h⟩ := Except.bind_eq_ok_iff.mp h
  obtain ⟨eventType, -, h⟩ := Except.bind_eq_ok_iff.mp h
  obtain ⟨identity, -, h⟩ := Except.bind_eq_ok_iff.mp h
  cases h
  simp [QueuedUpdate.json, Json.asIntOrStr]

theorem updateId?_json (update : QueuedUpdate) : updateId? update.json = some update.updateId := by
  simp [updateId?, QueuedUpdate.json, Json.asInt]

theorem BatchDone.keepsStored (h : BatchDone scope accountId now poll sorted db db') :
    KeepsStored db.tables.domain db'.tables.domain where
  ids := by
    rw [h.states]
    exact Table.map_key_modify fun state _ hid => hid
  accounts state' hstate' := by
    rw [h.states] at hstate'
    obtain ⟨state, hstate, rfl⟩ := Table.mem_modify_iff.mp hstate'
    refine ⟨state, hstate, ?_⟩
    split
    · exact ⟨rfl, rfl⟩
    · exact ⟨rfl, rfl⟩
  observations := h.observations

/-- The new cursor stands at an update of the batch, or it is an old one. -/
theorem BatchDone.cursor (h : BatchDone scope accountId now poll sorted db db')
    (hsorted : sortUpdates (batch.map QueuedUpdate.json) = .ok sorted)
    {state' : ConnectorObservationState}
    (hstate' : state' ∈ db'.tables.domain.connectorObservationStates) :
    ∃ state ∈ db.tables.domain.connectorObservationStates,
      state'.connectorAccountId = state.connectorAccountId ∧
        (state'.lastUpdateId = state.lastUpdateId ∨
          state.id = poll.loaded.id ∧ ∃ last ∈ batch, state'.lastUpdateId = some last.updateId) := by
  rw [h.states] at hstate'
  obtain ⟨state, hstate, rfl⟩ := Table.mem_modify_iff.mp hstate'
  refine ⟨state, hstate, ?_⟩
  split
  next hid =>
    refine ⟨rfl, ?_⟩
    by_cases hmoved : batchMax poll.loaded.lastUpdateId sorted ≠ poll.loaded.lastUpdateId
    · obtain ⟨x, hx, hmax⟩ := batchMax_cases.resolve_left hmoved
      obtain ⟨hmem, hxid⟩ := (sortUpdates_eq_ok hsorted).1 x hx
      obtain ⟨last, hlast, hjson⟩ := List.mem_map.mp hmem
      rw [← hjson, updateId?_json, Option.some.injEq] at hxid
      refine .inr ⟨hid, last, hlast, ?_⟩
      rw [Poll.write, if_pos hmoved, hmax, hxid]
    · refine .inl ?_
      rw [Poll.write, if_neg hmoved]
  next => exact ⟨rfl, .inl rfl⟩

/-- Every update of the batch is stored. -/
theorem BatchDone.stores (h : BatchDone scope accountId now poll sorted db db')
    (hsorted : sortUpdates (batch.map QueuedUpdate.json) = .ok sorted) {update : QueuedUpdate}
    (hupdate : update ∈ batch) : Stores db'.tables.domain accountId update := by
  obtain ⟨id, hmem⟩ := (sortUpdates_eq_ok hsorted).2 update.json (List.mem_map_of_mem hupdate)
  obtain ⟨read, hread, hobserved⟩ := h.observed (id, update.json) hmem
  rw [readUpdate_json hread] at hobserved
  exact hobserved

theorem RowsSound.commit (h : RowsSound isFor db.nextId db.tables.domain bot)
    (hbatch : BatchSound isFor db.nextId db.tables.domain bot accountId poll batch)
    (hdone : BatchDone scope accountId now poll sorted db db')
    (hsorted : sortUpdates (batch.map QueuedUpdate.json) = .ok sorted) :
    RowsSound isFor db'.nextId db'.tables.domain bot where
  ids := by
    rw [Table.KeysNodup, hdone.keepsStored.ids]
    exact h.ids
  id_lt state' hstate' := by
    obtain ⟨state, hstate, hid, -⟩ := hdone.keepsStored.accounts state' hstate'
    exact hid ▸ (h.id_lt state hstate).trans_le hdone.nextId
  cursors state' hstate' last hlast := by
    obtain ⟨state, hstate, -, hcursor | ⟨-, update, hupdate, hcursor⟩⟩ := hdone.cursor hsorted hstate'
    · exact h.cursors state hstate last (hcursor ▸ hlast)
    · rw [hcursor] at hlast
      exact ⟨update, hbatch.queued hupdate, Option.some.inj hlast⟩
  reached state' hstate' update hupdate hreached hfor := by
    obtain ⟨state, hstate, haccount, hcursor | ⟨hid, last, hlast, hcursor⟩⟩ :=
      hdone.cursor hsorted hstate'
    · rw [haccount] at hfor ⊢
      exact (h.reached state hstate update hupdate (hcursor ▸ hreached) hfor).mono
        hdone.observations
    · -- the row is that of the poll, and its batch has no gap
      rw [haccount, hbatch.account state hstate hid] at hfor ⊢
      rw [hcursor] at hreached
      obtain ⟨_, heq, hle⟩ := hreached
      cases heq
      rcases hbatch.complete update hupdate last hlast hle hfor with hmem | hstores
      · exact hdone.stores hsorted hmem
      · exact hstores.mono hdone.observations
  dropped state' hstate' update hupdate hlt hfor := by
    obtain ⟨state, hstate, haccount, -⟩ := hdone.cursor hsorted hstate'
    rw [haccount] at hfor ⊢
    exact (h.dropped state hstate update hupdate hlt hfor).mono hdone.observations

end Commit

/-! ## Steps -/

instance : IsPreorder AnalyticsTables SameCursors where
  refl _ := .of_eq rfl (List.Subset.refl _)
  trans _ _ _ h h' :=
    { ids := h'.ids.trans h.ids
      states := fun state'' hstate'' => by
        obtain ⟨state', hstate', hid', haccount', hcursor'⟩ := h'.states state'' hstate''
        obtain ⟨state, hstate, hid, haccount, hcursor⟩ := h.states state' hstate'
        exact ⟨state, hstate, hid'.trans hid, haccount'.trans haccount, hcursor'.trans hcursor⟩
      observations := List.Subset.trans h.observations h'.observations }

theorem SameObservations.sameCursors {t t' : AnalyticsTables} (h : SameObservations t t') :
    SameCursors t t' :=
  .of_eq h.states fun _ hmem => h.observations ▸ hmem

theorem ingestWrites_sameCursors : IngestWrites SameCursors where
  insertObservation _ _ := .of_eq rfl (List.subset_append_left _ _)
  insertSource _ _ := .of_eq rfl (List.Subset.refl _)
  insertNormalized _ _ _ _ := .of_eq rfl (List.Subset.refl _)

section Step

variable {D : Digest} {hashPayload : Derivation → String} {isFor : QueuedUpdate → Id → Bool}
variable {action : AnalyticsAction} {s : AnalyticsState M} {now : Time}

/-- Rows and batches are sound with the tables of `db`, and the bot of `s`. -/
structure TablesKept (isFor : QueuedUpdate → Id → Bool) (s : AnalyticsState M)
    (db : AgentDatabase M AnalyticsTables) : Prop where
  rows : RowsSound isFor db.nextId db.tables.domain s.world.bot
  polls : ∀ accountId poll batch,
    BatchSound isFor s.db.nextId s.db.tables.domain s.world.bot accountId poll batch →
      BatchSound isFor db.nextId db.tables.domain s.world.bot accountId poll batch

theorem TablesKept.mono {db db' : AgentDatabase M AnalyticsTables} (h : TablesKept isFor s db)
    (hframes : Frames SameCursors db db') : TablesKept isFor s db' where
  rows := h.rows.mono hframes.nextId hframes.domain
  polls accountId poll batch hbatch :=
    (h.polls accountId poll batch hbatch).mono hframes.nextId hframes.domain.keepsStored

theorem PaceKept.tablesKept (h : PaceKept isFor s) : TablesKept isFor s s.db :=
  ⟨h.rows, fun _ _ _ hbatch => hbatch⟩

/-- What one transaction preserves. -/
theorem PaceKept.transaction (h : PaceKept isFor s) (hpace : KeepsPace isFor s action)
    {transaction : AnalyticsTransaction} (hfrom : transaction.From s action)
    {db : AgentDatabase M AnalyticsTables}
    (hrun : exec (transaction.run hashPayload s.now) s.db = .ok db) : TablesKept isFor s db := by
  have hf := domainRelation_frames (M := M) (r := SameCursors) s.now fun _ => true
  have hsame : Within (Frames SameCursors) (transaction.run (M := M) hashPayload s.now) →
      TablesKept isFor s db :=
    fun hwithin => h.tablesKept.mono (Ensures.of_exec (hwithin s.db) hrun)
  cases transaction with
  | configure scope accountId types =>
      subst hfrom
      cases Ensures.of_exec (ensures_configureTelegramObservation s.now scope accountId types s.db)
        hrun with
      | updated id hnext hdomain =>
          refine h.tablesKept.mono ⟨hnext.ge, ?_⟩
          rw [hdomain]
          refine ⟨Table.map_key_modify fun state _ hid => hid, fun state' hstate' => ?_,
            List.Subset.refl _⟩
          obtain ⟨state, hstate, rfl⟩ := Table.mem_modify_iff.mp hstate'
          refine ⟨state, hstate, ?_⟩
          split
          · exact ⟨rfl, rfl, rfl⟩
          · exact ⟨rfl, rfl, rfl⟩
      | inserted hnew hnext hdomain =>
          have hdropped := hpace.resolve_left fun ⟨state, hstate, haccount⟩ =>
            hnew state hstate haccount
          have hlt : s.db.nextId < db.nextId := hnext ▸ Nat.lt_succ_self _
          constructor
          · rw [hdomain]
            exact h.rows.insert hlt rfl rfl hdropped
          · intro _ _ _ hother
            rw [hdomain]
            exact hother.insert hlt.le rfl
  | ingest scope accountId update =>
      exact hsame (hf.bind (within_ingestTelegramUpdate hf ingestWrites_sameCursors _ _ _ _)
        fun _ => hf.pure _)
  | normalize context observationId =>
      exact hsame (within_normalizeConnectorObservation hf ingestWrites_sameCursors context _)
  | commitPoll context accountId poll updates =>
      obtain ⟨a, worker, answer, -, -, ha⟩ := hfrom
      have hbatch := h.polls a worker context accountId poll updates ha
      obtain ⟨sorted, hsorted, hdone⟩ := Ensures.of_exec
        (ensures_finishPoll context accountId s.now poll (updates.map QueuedUpdate.json)
          h.normalized) hrun
      exact ⟨h.rows.commit hbatch hdone hsorted,
        fun _ _ _ hother => hother.mono hdone.nextId hdone.keepsStored⟩
  | calculate scope publicationId =>
      refine hsame (hf.bind (within_calculateMetricVersion hf ⟨?_, ?_⟩ _ _ _) fun _ => hf.pure _)
      · exact fun _ _ => .of_eq rfl (List.Subset.refl _)
      · exact fun _ _ _ => .of_eq rfl (List.Subset.refl _)
  | recordEvent scope eventType occurredAt publicationId =>
      exact hsame (within_createBusinessEvent hf (fun _ _ => .of_eq rfl (List.Subset.refl _)) _ _ _
        _)
  | publish scope request messageId chatId =>
      have hpublished :=
        Ensures.of_exec (ensures_publish s.now scope request messageId chatId s.db) hrun
      refine h.tablesKept.mono ⟨(Nat.le_add_right _ 3).trans hpublished.publishing.nextId, ?_⟩
      rw [hpublished.domain]
      exact .of_eq rfl (List.Subset.refl _)
  | foreign effect =>
      refine hsame (within_performForeign hf ⟨?_, ?_⟩ effect fun work =>
        framesWithin_perform s.now _ _ work)
      · exact fun _ _ _ => .of_eq rfl (List.Subset.refl _)
      · exact fun _ _ => .of_eq rfl (List.Subset.refl _)

theorem PaceKept.tables (h : PaceKept isFor s) (hpace : KeepsPace isFor s action) :
    TablesKept isFor s ((analyticsApp D hashPayload).step action s).db := by
  cases analytics_step D hashPayload action s with
  | quiet hframes hingests => exact h.tablesKept.mono ⟨hframes.nextId, hframes.domain.sameCursors⟩
  | ran transaction db hfrom hrun hframes hingests =>
      refine (h.transaction hpace hfrom hrun).mono ⟨hframes.nextId, ?_⟩
      rw [hframes.domain]
      exact refl _

theorem arrived_answer (answer : AnalyticsAnswer) (bot : Bot) :
    bot.Arrived (answer.arrived.foldl Bot.enqueue bot) :=
  Bot.arrived_foldl answer.arrived bot

/-- The other accounts keep pace with the row that a call is made with. -/
theorem KeepsPace.others {a : AttemptId} {answer : AnalyticsAnswer} {worker : Worker}
    {context : RuntimeJobContext} {accountId : Id} {before : TelegramProgress} {poll : Poll}
    (hpace : KeepsPace isFor s (.proceed a answer))
    (ha : s.attempts a = some ⟨worker,
      .running context (.observeUpdates accountId) (.execution before)⟩)
    (hloaded : poll.loaded ∈ s.db.tables.domain.connectorObservationStates)
    (haccount : poll.loaded.connectorAccountId = accountId) :
    ∀ other ∈ s.db.tables.domain.connectorObservationStates,
      other.connectorAccountId ≠ poll.loaded.connectorAccountId →
      ∀ update ∈ s.world.bot.queued, Reached poll.loaded.lastUpdateId update.updateId →
        isFor update other.connectorAccountId = true →
          Reached other.lastUpdateId update.updateId := by
  simp only [KeepsPace, ha] at hpace
  intro other hother hne
  exact hpace poll.loaded hloaded haccount other hother (haccount ▸ hne)

theorem paceKept_step (h : PaceKept isFor s) (hpace : KeepsPace isFor s action) :
    PaceKept isFor ((analyticsApp D hashPayload).step action s) := by
  have htables : TablesKept isFor s ((analyticsApp D hashPayload).step action s).db :=
    h.tables hpace
  have hbot : ∃ bot offset, s.world.bot.Arrived bot ∧
      ((analyticsApp D hashPayload).step action s).world.bot = bot.confirm offset ∧
      RowsSound isFor ((analyticsApp D hashPayload).step action s).db.nextId
        ((analyticsApp D hashPayload).step action s).db.tables.domain (bot.confirm offset) := by
    rcases bot_step D hashPayload action s with ⟨-, hbot⟩ |
      ⟨a, answer, worker, context, accountId, before, poll, rfl, ha, hbegin, -, hbot, hdb⟩
    · exact ⟨s.world.bot, none, .refl _, hbot, htables.rows⟩
    · obtain ⟨hloaded, haccount, -, -⟩ := beginPoll_eq_ok hbegin
      refine ⟨_, poll.offset, arrived_answer answer s.world.bot, hbot, ?_⟩
      rw [hdb]
      exact h.rows.call (arrived_answer answer s.world.bot) hloaded
        (hpace.others ha hloaded haccount)
  obtain ⟨bot, offset, harrived, hbot, hrows⟩ := hbot
  refine ⟨observationsNormalized_step h.normalized, ?_, ?_, ?_⟩
  · rw [hbot]
    exact harrived.sorted h.sorted
  · rw [hbot]
    exact hrows
  · intro a worker context accountId poll batch ha
    rcases polling_step ha with hbefore |
      ⟨accountId', answer, progress, rfl, hbefore, hpayload, -, hbegin, hreply, hdb, hbotAnswer⟩
    · rw [hbot]
      exact (htables.polls _ _ _ (h.polls a worker context accountId poll batch hbefore)).arrive
        harrived offset
    · -- the batch is what the bot returns now
      cases hpayload
      obtain ⟨hloaded, haccount, -, -⟩ := beginPoll_eq_ok hbegin
      have hbatch : batch =
          ((analyticsApp D hashPayload).step (.proceed a answer) s).world.bot.pending := by
        unfold AnalyticsAnswer.reply at hreply
        split at hreply
        next => cases hreply
        next =>
          rw [hbotAnswer]
          exact Except.ok.inj hreply
      have hsorted : ((analyticsApp D hashPayload).step (.proceed a answer) s).world.bot.Sorted := by
        rw [hbot]
        exact harrived.sorted h.sorted
      rw [← hbot] at hrows
      rw [hbatch, ← haccount]
      exact hrows.batchSound hsorted (hdb ▸ hloaded)

/-- The calls of a step acknowledge what is stored. -/
theorem PaceKept.acknowledges (h : PaceKept isFor s) (hpace : KeepsPace isFor s action) :
    Acknowledges D hashPayload isFor s action := by
  intro call hcall state hstate update hupdate hbelow hfor
  rcases bot_step D hashPayload action s with ⟨hnone, -⟩ |
    ⟨a, answer, worker, context, accountId, before, poll, rfl, ha, hbegin, hcalls, hbot, -⟩
  · rw [hnone] at hcall
    cases hcall
  · obtain ⟨hloaded, haccount, -, -⟩ := beginPoll_eq_ok hbegin
    rw [hcalls] at hcall
    rw [List.mem_singleton.mp hcall] at hbelow
    rw [hbot] at hupdate
    exact h.rows.acknowledged (arrived_answer answer s.world.bot) hloaded
      (hpace.others ha hloaded haccount) hstate hupdate (Poll.belowOffset_iff.mp hbelow) hfor

end Step

/-! ## Runs -/

theorem AnalyticsInitial.paceKept {s : AnalyticsState M} (hs : AnalyticsInitial s)
    (isFor : QueuedUpdate → Id → Bool) : PaceKept isFor s := by
  refine ⟨?_, ?_, ?_, ?_⟩
  · constructor <;> simp [hs.observations, hs.normalized]
  · simp [Bot.Sorted, hs.bot]
  · constructor <;> simp [hs.states, Table.keysNodup_nil]
  · simp [hs.attempts]

/-- In every run in which no account lags behind the offset of a call, and accounts are configured
before updates for them are dropped, every call of `get_updates` acknowledges only updates that are
stored by the accounts they are for. -/
theorem acknowledged_run (D : Digest) (hashPayload : Derivation → String)
    (isFor : QueuedUpdate → Id → Bool) {s : AnalyticsState M} (hs : AnalyticsInitial s)
    {actions : List AnalyticsAction}
    (hpace : Guarded (analyticsApp D hashPayload).step (KeepsPace isFor) s actions) :
    Guarded (analyticsApp D hashPayload).step (Acknowledges D hashPayload isFor) s actions := by
  suffices h : ∀ s : AnalyticsState M, PaceKept isFor s →
      Guarded (analyticsApp D hashPayload).step (KeepsPace isFor) s actions →
      Guarded (analyticsApp D hashPayload).step (Acknowledges D hashPayload isFor) s actions from
    h s (hs.paceKept isFor) hpace
  clear hpace
  induction actions with
  | nil => exact fun _ _ _ => trivial
  | cons action actions ih =>
      rintro s h ⟨hfirst, hrest⟩
      exact ⟨h.acknowledges hfirst, ih _ (paceKept_step h hfirst) hrest⟩

/-! ### Two accounts of one bot -/

/-- Two accounts that are observed, `0` and `1`. -/
def twoAccounts : List AnalyticsAction :=
  [.command (.foreign { context := fun _ =>
      { channels := [⟨100, demoScope, "telegram"⟩, ⟨101, demoScope, "telegram"⟩] } }),
    .command (.execution
      (.probeAndRegisterTelegramConnector demoScope 100 "@first" ⟨true, true, true⟩)),
    .command (.execution
      (.probeAndRegisterTelegramConnector demoScope 101 "@second" ⟨true, true, true⟩)),
    .command (.configureTelegramObservation demoScope 0 telegramAllowedUpdates),
    .command (.configureTelegramObservation demoScope 1 telegramAllowedUpdates)]

/-- A post in the chat of the second account. -/
def secondPost : QueuedUpdate where
  updateId := 5
  fields := [("channel_post", .dict
    [("date", .int 3600), ("message_id", .int 7), ("chat", .dict [("id", .str "@second")])])]

/-- The post is for the second account. -/
def isForSecond (_ : QueuedUpdate) (connectorAccountId : Id) : Bool := connectorAccountId = 1

/-- The post arrives with the first poll of the first account, which polls again after `others` with
the job `jobId`. -/
def firstPollsTwice (others : List AnalyticsAction) (jobId : Id) : List AnalyticsAction :=
  twoAccounts ++ .command (.enqueueTelegramObservationJob demoScope 0 "first") ::
    runJob 4 [{ arrived := [secondPost] }, {}] ++ others ++
      .command (.enqueueTelegramObservationJob demoScope 0 "second") :: runJob jobId [{}, {}]

/-- The second poll drops the post, which the second account has never seen. -/
theorem second_account_loses_post :
    ¬ Guarded (analyticsApp plainDigest plainHash).step
      (Acknowledges plainDigest plainHash isForSecond) analyticsStart (firstPollsTwice [] 10) := by
  decide +kernel

/-- The second account polls in between. -/
def secondPolls : List AnalyticsAction :=
  .command (.enqueueTelegramObservationJob demoScope 1 "cycle") :: runJob 10 [{}, {}]

theorem second_account_keeps_post :
    Guarded (analyticsApp plainDigest plainHash).step
      (Acknowledges plainDigest plainHash isForSecond) analyticsStart
        (firstPollsTwice secondPolls 16) ∧
      (run (analyticsApp plainDigest plainHash).step analyticsStart
        (firstPollsTwice secondPolls 16)).world.getUpdatesCalls.map GetUpdatesCall.offset =
          [none, none, some 6] :=
  ⟨acknowledged_run plainDigest plainHash isForSecond analyticsStart_initial (by decide +kernel),
    by decide +kernel⟩

end LaunchOS.Analytics
