import LaunchOS.Lib.Run
import LaunchOS.Persistence.Repositories

/-!
# Reference closure

A row that is added or changed through a repository should only refer to rows of its own tenant. The
repositories check the columns of `_REFERENCE_POLICY`, which are not all of those that refer to rows.

The module introduces:

* `referenceColumns`: the columns of `persistence/models.py` that refer to rows;
* `Session.Closed`: all references lead to rows of the same tenant;
* `RepositoryOp`: the operations of the repositories, and the commit;
* `closed_of_unchecked`: the rows stay closed if the columns that are not checked keep to the tenant.
-/

namespace LaunchOS.Persistence

open Transition

/-! ## Columns -/

/-- What a column refers to. -/
inductive ReferenceTarget
  | model (model : ModelType)
  /-- An object of the model whose name another column of the row has, or a version of it. -/
  | named (typeColumn : String)
deriving DecidableEq, Repr

/-- The columns that refer to rows of a business. -/
def referenceColumns : ModelType → List (String × ReferenceTarget)
  | .offer => [("product_id", .model .product)]
  | .evidence => [("source_record_id", .model .sourceRecord)]
  | .campaign => [("goal_id", .model .goal)]
  | .launch => [("campaign_id", .model .campaign), ("offer_id", .model .offer),
      ("goal_id", .model .goal), ("channel_id", .model .channel),
      ("snapshot_id", .model .businessSnapshot)]
  | .launchPhase => [("launch_id", .model .launch)]
  | .decision => [("snapshot_id", .model .businessSnapshot),
      ("supersedes_decision_id", .model .decision),
      ("source_candidate_id", .model .decisionCandidate)]
  | .decisionAlternative => [("decision_id", .model .decision)]
  | .controllerReview => [("decision_id", .model .decision),
      ("asset_version_id", .model .assetVersion),
      ("decision_candidate_id", .model .decisionCandidate), ("agent_run_id", .model .agentRun),
      ("snapshot_id", .model .businessSnapshot)]
  | .decisionWorkflow => [("launch_id", .model .launch), ("snapshot_id", .model .businessSnapshot),
      ("final_decision_id", .model .decision), ("final_approval_id", .model .decisionApproval)]
  | .specialistContribution => [("workflow_id", .model .decisionWorkflow),
      ("snapshot_id", .model .businessSnapshot), ("agent_run_id", .model .agentRun)]
  | .decisionCandidate => [("workflow_id", .model .decisionWorkflow),
      ("snapshot_id", .model .businessSnapshot), ("chief_agent_run_id", .model .agentRun),
      ("previous_candidate_id", .model .decisionCandidate)]
  | .experiment => [("decision_id", .model .decision), ("hypothesis_id", .model .hypothesis)]
  | .experimentRule => [("experiment_id", .model .experiment)]
  | .experimentResult => [("experiment_id", .model .experiment)]
  | .creativeBrief => [("decision_id", .model .decision)]
  | .asset => [("creative_brief_id", .model .creativeBrief)]
  | .assetVersion => [("asset_id", .model .asset)]
  | .publication => [("asset_version_id", .model .assetVersion), ("channel_id", .model .channel)]
  | .action => [("target_object_id", .named "target_object_type"),
      ("target_object_version_id", .named "target_object_type")]
  | .approval => [("action_id", .model .action), ("object_id", .named "object_type"),
      ("object_version_id", .named "object_type")]
  | .decisionApproval => [("workflow_id", .model .decisionWorkflow),
      ("decision_id", .model .decision), ("candidate_id", .model .decisionCandidate),
      ("object_id", .named "object_type"), ("object_version_id", .named "object_type")]
  | .execution => [("action_id", .model .action), ("approval_id", .model .approval)]
  | .businessEvent => [("source_record_id", .model .sourceRecord)]
  | .outboxEvent => [("aggregate_id", .named "aggregate_type")]
  | .agentRun => [("agent_definition_id", .model .agentDefinition), ("job_id", .model .job)]
  | .auditLog => [("object_id", .named "object_type")]
  | .learning => [("decision_id", .model .decision), ("experiment_id", .model .experiment)]
  | _ => []

/-- The columns that no repository checks. -/
def uncheckedColumns : ModelType → List (String × ReferenceTarget)
  | .campaign => [("goal_id", .model .goal)]
  | .action => [("target_object_id", .named "target_object_type"),
      ("target_object_version_id", .named "target_object_type")]
  | .approval | .decisionApproval => [("object_id", .named "object_type"),
      ("object_version_id", .named "object_type")]
  | .outboxEvent => [("aggregate_id", .named "aggregate_type")]
  | .auditLog => [("object_id", .named "object_type")]
  | _ => []

/-- The columns that are not checked are those without an entry in `_REFERENCE_POLICY`. -/
theorem mem_referenceColumns_iff (model : ModelType) (column : String × ReferenceTarget) :
    column ∈ referenceColumns model ↔
      column ∈ (referencePolicy model).map (fun entry => (entry.1, ReferenceTarget.model entry.2)) ∨
        column ∈ uncheckedColumns model := by
  have hlists : ∀ model : ModelType, (∀ column ∈ referenceColumns model,
      column ∈ (referencePolicy model).map (fun entry => (entry.1, ReferenceTarget.model entry.2)) ++
        uncheckedColumns model) ∧
      ∀ column ∈ (referencePolicy model).map (fun entry => (entry.1, ReferenceTarget.model entry.2)) ++
        uncheckedColumns model, column ∈ referenceColumns model := by
    intro model
    cases model <;> decide
  rw [← List.mem_append]
  exact ⟨(hlists model).1 column, (hlists model).2 column⟩

/-! ## Closed rows -/

/-- What type columns call the objects of a model. -/
def ModelType.objectNames : ModelType → List String
  | .action => ["Action", "ActionProposal"]
  | model => [model.name]

/-- A store of rows. -/
abbrev Store := RowKey → Option Row

/-- The reference leads to a row of the tenant, if it names an object that is scoped to a
business. -/
def ReferenceTarget.Resolves (stored : Store) (row : Row) (id : String) : ReferenceTarget → Prop
  | .model referenced => ∃ found, stored ⟨referenced, id⟩ = some found ∧ found.scope = row.scope
  | .named typeColumn =>
      (∃ (named : ModelType) (name : String),
        row.fields typeColumn = some name ∧ name ∈ named.objectNames) →
      ∃ referenced found, stored ⟨referenced, id⟩ = some found ∧ found.scope = row.scope

/-- The columns of the row lead to rows of its tenant. -/
def Row.ResolvesAll (stored : Store) (columns : List (String × ReferenceTarget)) (row : Row) : Prop :=
  ∀ column ∈ columns, ∀ id, row.fields column.1 = some id → column.2.Resolves stored row id

/-- Every reference of a row in the store leads to a row of the same tenant. -/
def Store.Closed (stored : Store) : Prop :=
  ∀ key row, stored key = some row → row.ResolvesAll stored (referenceColumns key.model)

/-- All references are closed, in the database and in the session. -/
def Session.Closed (s : Session) : Prop :=
  Store.Closed s.database ∧ Store.Closed fun key => s.get key

/-- The rows of one store are in the other one, with their tenants. -/
def Store.Kept (stored stored' : Store) : Prop :=
  ∀ key row, stored key = some row → ∃ row', stored' key = some row' ∧ row'.scope = row.scope

section Closed

variable {stored stored' : Store} {row : Row} {columns : List (String × ReferenceTarget)}

theorem ReferenceTarget.Resolves.mono (hkept : Store.Kept stored stored') {target : ReferenceTarget}
    {id : String} (h : target.Resolves stored row id) : target.Resolves stored' row id := by
  have hfound : ∀ {model found}, stored ⟨model, id⟩ = some found → found.scope = row.scope →
      ∃ found', stored' ⟨model, id⟩ = some found' ∧ found'.scope = row.scope := by
    intro model found hfound hscope
    obtain ⟨found', hfound', hscope'⟩ := hkept _ _ hfound
    exact ⟨found', hfound', hscope'.trans hscope⟩
  cases target with
  | model model =>
      obtain ⟨found, hstored, hscope⟩ := h
      exact hfound hstored hscope
  | named typeColumn =>
      intro hnamed
      obtain ⟨model, found, hstored, hscope⟩ := h hnamed
      exact ⟨model, hfound hstored hscope⟩

theorem Row.ResolvesAll.mono (hkept : Store.Kept stored stored')
    (h : row.ResolvesAll stored columns) : row.ResolvesAll stored' columns :=
  fun column hcolumn id hid => (h column hcolumn id hid).mono hkept

/-- A row is put into a store that is closed. -/
theorem Store.Closed.put (h : Store.Closed stored) (hkept : Store.Kept stored stored')
    {key : RowKey} (hkey : stored' key = some row)
    (hother : ∀ other, other ≠ key → stored' other = stored other)
    (hrow : row.ResolvesAll stored' (referenceColumns key.model)) : Store.Closed stored' := by
  intro other found hfound
  by_cases heq : other = key
  · subst heq
    obtain rfl : row = found := Option.some.inj (hkey.symm.trans hfound)
    exact hrow
  · rw [hother other heq] at hfound
    exact (h other found hfound).mono hkept

/-- The columns that are checked, and those that are not. -/
theorem Row.resolvesAll_iff {model : ModelType} :
    row.ResolvesAll stored (referenceColumns model) ↔
      (∀ entry ∈ referencePolicy model, ∀ id, row.fields entry.1 = some id →
        ∃ found, stored ⟨entry.2, id⟩ = some found ∧ found.scope = row.scope) ∧
      row.ResolvesAll stored (uncheckedColumns model) := by
  constructor
  · intro h
    refine ⟨fun entry hentry id hid => ?_, fun column hcolumn => ?_⟩
    · have hcolumn := (mem_referenceColumns_iff model (entry.1, .model entry.2)).mpr
        (.inl (List.mem_map_of_mem hentry))
      exact h _ hcolumn id hid
    · exact h column ((mem_referenceColumns_iff model column).mpr (.inr hcolumn))
  · rintro ⟨hchecked, hunchecked⟩ column hcolumn id hid
    rcases (mem_referenceColumns_iff model column).mp hcolumn with hentry | hcolumn
    · obtain ⟨entry, hmem, rfl⟩ := List.mem_map.mp hentry
      exact hchecked entry hmem id hid
    · exact hunchecked column hcolumn id hid

end Closed

/-! ## Operations -/

/-- What happens to the rows: the operations of the repositories, and the commit. -/
inductive RepositoryOp
  | add (scope : TenantScope) (key : RowKey) (row : Row)
  | updateFields (scope : TenantScope) (key : RowKey) (keywords : Keywords)
  | commit

/-- What an operation answers, and the session after it. -/
def RepositoryOp.call : RepositoryOp → Session → Except JobError Unit × Session
  | .add scope key row, s => Persistence.add scope key row s
  | .updateFields scope key keywords, s => Persistence.updateFields scope key keywords s
  | .commit, s => (.ok (), s.flush)

/-- The session after an operation. -/
def RepositoryOp.step (op : RepositoryOp) (s : Session) : Session := (op.call s).2

/-- The row of the operation, whose columns that are not checked lead to rows of its tenant. -/
def RepositoryOp.UncheckedResolve (s : Session) : RepositoryOp → Prop
  | .add _ key row =>
      row.ResolvesAll (Function.update (fun key => s.get key) key (some row))
        (uncheckedColumns key.model)
  | .updateFields _ key keywords => ∀ row, s.get key = some row →
      (row.assign keywords.fields).ResolvesAll
        (Function.update (fun key => s.get key) key (some (row.assign keywords.fields)))
        (uncheckedColumns key.model)
  | .commit => True

/-- The invariant of the sessions. -/
structure Session.Kept (s : Session) : Prop where
  closed : s.Closed
  kept : Store.Kept s.database fun key => s.get key

section Steps

variable {s : Session} {scope : TenantScope} {key : RowKey} {row : Row}

theorem Session.Kept.flush (h : s.Kept) : s.flush.Kept where
  closed := ⟨h.closed.2, h.closed.2⟩
  kept _ found hfound := ⟨found, hfound, rfl⟩

theorem Store.Kept.refl (stored : Store) : Store.Kept stored stored :=
  fun _ found hfound => ⟨found, hfound, rfl⟩

/-- A row is put into a session. -/
theorem Session.Kept.put (h : s.Kept)
    (hscope : ∀ old, s.get key = some old → old.scope = row.scope)
    (hchecked : ∀ entry ∈ referencePolicy key.model, ∀ id, row.fields entry.1 = some id →
      ∃ found, s.get ⟨entry.2, id⟩ = some found ∧ found.scope = row.scope)
    (hunchecked : row.ResolvesAll (Function.update (fun key => s.get key) key (some row))
      (uncheckedColumns key.model)) : (s.put key row).Kept := by
  have hget : (fun other => (s.put key row).get other) =
      Function.update (fun key => s.get key) key (some row) := by
    funext other
    by_cases heq : other = key
    · rw [heq, Session.get_put_self, Function.update_self]
    · rw [Session.get_put_of_ne heq, Function.update_of_ne heq]
  have hkept : Store.Kept (fun key => s.get key)
      (Function.update (fun key => s.get key) key (some row)) := by
    intro other found hfound
    by_cases heq : other = key
    · subst heq
      exact ⟨row, Function.update_self _ _ _, (hscope found hfound).symm⟩
    · exact ⟨found, by rw [Function.update_of_ne heq]; exact hfound, rfl⟩
  have hrow : row.ResolvesAll (Function.update (fun key => s.get key) key (some row))
      (referenceColumns key.model) := by
    refine Row.resolvesAll_iff.mpr ⟨fun entry hentry id hid => ?_, hunchecked⟩
    obtain ⟨found, hfound, hfoundScope⟩ := hchecked entry hentry id hid
    obtain ⟨found', hfound', hscope'⟩ := hkept _ found hfound
    exact ⟨found', hfound', hscope'.trans hfoundScope⟩
  constructor
  · refine ⟨h.closed.1, ?_⟩
    rw [hget]
    exact h.closed.2.put hkept (Function.update_self _ _ _)
      (fun other hother => Function.update_of_ne hother _ _) hrow
  · rw [hget]
    intro other found hfound
    obtain ⟨found', hfound', hscope'⟩ := h.kept other found hfound
    obtain ⟨found'', hfound'', hscope''⟩ := hkept other found' hfound'
    exact ⟨found'', hfound'', hscope''.trans hscope'⟩

theorem exists_of_isReferenceVisible (h : isReferenceVisible scope key s = true) :
    ∃ found, s.database key = some found ∧ found.scope = scope := by
  rw [isReferenceVisible, Option.any_eq_true] at h
  obtain ⟨found, hfound, hscope⟩ := h
  exact ⟨found, hfound, of_decide_eq_true hscope⟩

/-- A check that succeeds has seen all references, and may have flushed the session. -/
theorem Session.Kept.checked {model : ModelType} {s' : Session} (h : s.Kept)
    (hok : validateBusinessReferences scope model row s = (.ok (), s')) :
    s'.Kept ∧ (∀ key, s'.get key = s.get key) ∧
      ∀ entry ∈ referencePolicy model, ∀ id, row.fields entry.1 = some id →
        ∃ found, s.get ⟨entry.2, id⟩ = some found ∧ found.scope = scope := by
  obtain ⟨hsession, hresult, -⟩ :=
    validateReferences_spec scope model row (referencePolicy model) s
  rw [validateBusinessReferences] at hok
  rw [hok] at hsession hresult
  have hseen : ∀ entry ∈ referencePolicy model, ∀ id, row.fields entry.1 = some id →
      ∃ found, s.get ⟨entry.2, id⟩ = some found ∧ found.scope = scope :=
    fun entry hentry id hid => exists_of_isReferenceVisible (hresult.mp rfl entry hentry id hid)
  have hsession : s' = s ∨ s' = s.flush := hsession
  rcases hsession with rfl | rfl
  · exact ⟨h, fun _ => rfl, hseen⟩
  · exact ⟨h.flush, fun _ => rfl, hseen⟩

theorem Session.Kept.add (h : s.Kept) (hok : (Persistence.add scope key row s).1 = .ok ())
    (hunchecked : row.ResolvesAll (Function.update (fun key => s.get key) key (some row))
      (uncheckedColumns key.model)) : (Persistence.add scope key row s).2.Kept := by
  unfold Persistence.add at hok ⊢
  cases hmatches : scope.assertMatches row.scope with
  | error e =>
      rw [hmatches] at hok
      cases hok
  | ok u =>
      rw [hmatches] at hok
      obtain rfl := TenantScope.assertMatches_eq_ok_iff.mp hmatches
      cases hvalidated : validateBusinessReferences row.scope key.model row s with
      | mk result s₁ =>
          rw [hvalidated] at hok
          cases result with
          | error e => cases hok
          | ok u =>
              obtain ⟨hkept, hget, hchecked⟩ := h.checked hvalidated
              dsimp only at hok ⊢
              cases hnone : s₁.get key with
              | some old =>
                  rw [hnone] at hok
                  cases hok
              | none =>
                  refine hkept.put ?_ ?_ ?_
                  · intro old hold
                    rw [hnone] at hold
                    cases hold
                  · simpa only [hget] using hchecked
                  · simpa only [hget] using hunchecked

/-- The row that an update has found belongs to the tenant. -/
theorem Session.Kept.scope_of_get (h : s.Kept) (hget : Persistence.get scope key s = some row) :
    s.get key = some row ∧ row.scope = scope := by
  have hrow := get_eq_some hget
  rw [Persistence.get] at hget
  split at hget
  next hvisible =>
    obtain ⟨stored, hstored, rfl⟩ := exists_of_isReferenceVisible hvisible
    obtain ⟨found, hfound, hscope⟩ := h.kept key stored hstored
    obtain rfl : row = found := Option.some.inj (hrow.symm.trans hfound)
    exact ⟨hrow, hscope⟩
  next => cases hget

theorem Session.Kept.updateFields {keywords : Keywords} (h : s.Kept)
    (hok : (Persistence.updateFields scope key keywords s).1 = .ok ())
    (hunchecked : ∀ row, s.get key = some row →
      (row.assign keywords.fields).ResolvesAll
        (Function.update (fun key => s.get key) key (some (row.assign keywords.fields)))
        (uncheckedColumns key.model)) :
    (Persistence.updateFields scope key keywords s).2.Kept := by
  cases hget : Persistence.get scope key s with
  | none =>
      unfold Persistence.updateFields at hok
      rw [hget] at hok
      cases hok
  | some row =>
      obtain ⟨hrow, rfl⟩ := h.scope_of_get hget
      by_cases hid : keywords.Identifies
      · obtain ⟨⟨e, herror⟩, -⟩ := updateFields_of_identifies hget hid
        rw [herror] at hok
        cases hok
      · rw [updateFields_of_not_identifies hget hid, validateBusinessReferences] at hok ⊢
        obtain ⟨hsession, hresult, -⟩ := validateReferences_spec row.scope key.model
          (row.assign keywords.fields) (referencePolicy key.model)
          (s.put key (row.assign keywords.fields))
        simp only [isReferenceVisible_put hrow (Row.assign_scope _ _)] at hresult
        have hput : (s.put key (row.assign keywords.fields)).Kept := by
          refine h.put ?_ ?_ (hunchecked row hrow)
          · intro old hold
            rw [Option.some.inj (hold.symm.trans hrow), Row.assign_scope]
          · intro entry hentry id hfield
            rw [Row.assign_scope]
            exact exists_of_isReferenceVisible (hresult.mp hok entry hentry id hfield)
        rcases hsession with heq | heq <;> rw [heq]
        · exact hput
        · exact hput.flush

/-- Operations that succeed, and whose columns that are not checked keep to the tenant. -/
def RepositoryOp.Guard (s : Session) (op : RepositoryOp) : Prop :=
  (op.call s).1 = .ok () ∧ op.UncheckedResolve s

theorem Session.Kept.step (op : RepositoryOp) (h : s.Kept) (hguard : op.Guard s) :
    (op.step s).Kept := by
  obtain ⟨hok, hunchecked⟩ := hguard
  cases op with
  | add scope key row => exact h.add hok hunchecked
  | updateFields scope key keywords => exact h.updateFields hok hunchecked
  | commit => exact h.flush

theorem Session.Kept.empty : ({} : Session).Kept := by
  refine ⟨⟨?_, ?_⟩, ?_⟩
  all_goals
    intro key row hrow
    cases hrow

/-- From empty tables, all references stay within their tenants, in every run of successful
operations whose columns that are not checked do so. -/
theorem closed_of_unchecked (ops : List RepositoryOp)
    (hguarded : Guarded RepositoryOp.step (fun s op => op.Guard s) {} ops) :
    ∀ before, before <+: ops → (run RepositoryOp.step {} before).Closed := by
  rintro before ⟨after, rfl⟩
  rw [guarded_append] at hguarded
  exact (invariant_run (fun s op h hguard => h.step op hguard) Session.Kept.empty hguarded.1).closed

end Steps

/-! ## Runs -/

/-- A row with one column. -/
def rowWith (scope : TenantScope) (name : String) (value : Option String) : Row :=
  ⟨scope, fun column => if column = name then value else none⟩

/-- An Offer for the Product of its tenant. -/
def ownOffer : List RepositoryOp :=
  [.add ownScope ⟨.product, "product"⟩ (rowWith ownScope "name" (some "Product")),
    .add ownScope ⟨.offer, "offer"⟩ (rowWith ownScope "product_id" (some "product"))]

theorem ownOffer_closed : (run RepositoryOp.step {} ownOffer).Closed := by
  refine closed_of_unchecked ownOffer ?_ ownOffer List.prefix_rfl
  refine ⟨⟨by decide +kernel, ?_⟩, ⟨by decide +kernel, ?_⟩, trivial⟩
  · intro column hcolumn
    cases hcolumn
  · intro column hcolumn
    cases hcolumn

/-- A Campaign for the Goal of another tenant. -/
def foreignCampaign : List RepositoryOp :=
  [.add otherScope ⟨.goal, "goal"⟩ (rowWith otherScope "title" (some "Goal")),
    .commit,
    .add ownScope ⟨.campaign, "campaign"⟩ (rowWith ownScope "goal_id" (some "goal")),
    .commit]

/-- Both are added, and the Campaign refers to the Goal. -/
theorem foreignCampaign_not_closed :
    Guarded RepositoryOp.step (fun s op => (op.call s).1 = .ok ()) {} foreignCampaign ∧
      ¬ (run RepositoryOp.step {} foreignCampaign).Closed := by
  refine ⟨by decide +kernel, fun hclosed => ?_⟩
  have hgoal : ((run RepositoryOp.step {} foreignCampaign).database ⟨.goal, "goal"⟩).map
      Row.scope = some otherScope := by
    decide +kernel
  obtain ⟨found, hfound, hscope⟩ := hclosed.1 ⟨.campaign, "campaign"⟩
    (rowWith ownScope "goal_id" (some "goal")) rfl ("goal_id", .model .goal)
    List.mem_cons_self "goal" rfl
  rw [hfound, Option.map_some, hscope] at hgoal
  revert hgoal
  decide

end LaunchOS.Persistence
