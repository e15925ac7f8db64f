import LaunchOS.Lib.Table
import LaunchOS.Lib.Txn
import LaunchOS.Runtime.Handlers

/-!
# The scope of a session

`Worker.process_job_id` looks through `session.new` and `session.dirty` once, after the handler has
returned. A flush of the handler's own empties both of them before.

The module introduces:

* `Session`, `SessionOp`: what a handler can do to the rows of its session;
* `attempt`: the transaction of an attempt, from the handler to the commit;
* `leaves`: what a handler leaves of a row, and `tracks_run`: the session is in that state;
* `attempt_contained_iff`: when the rows of an attempt that commits belong to the tenant of its job.
-/

namespace LaunchOS

/-! ## Sessions -/

/-- The table of a row, and its primary key. -/
structure RowKey where
  table : String
  id : String
deriving DecidableEq, Repr

/-- A row, with the attributes that are looked at. Each is `none` if the row has no such attribute, or
if it is no string. -/
structure Row where
  key : RowKey
  organizationId : Option String
  businessId : Option String
deriving DecidableEq, Repr

namespace Row

/-- The tenant of a row that carries both attributes. -/
def tenant (row : Row) : Option TenantScope :=
  match row.organizationId, row.businessId with
  | some organizationId, some businessId => some ⟨organizationId, businessId⟩
  | _, _ => none

/-- The row belongs to the tenant, if to any. -/
def InScope (scope : TenantScope) (row : Row) : Prop :=
  ∀ tenant ∈ row.tenant, tenant = scope

instance (scope : TenantScope) (row : Row) : Decidable (row.InScope scope) :=
  inferInstanceAs (Decidable (∀ tenant ∈ row.tenant, tenant = scope))

end Row

/-- A session: the tables as its transaction sees them, and the rows that are not flushed. -/
structure Session where
  rows : List Row
  /-- `session.new` -/
  new : List Row := []
  /-- `session.dirty`, with the values that the attributes have been set to -/
  dirty : List Row := []
deriving DecidableEq, Repr

namespace Session

/-- The row as it stands in `session.new` or in `session.dirty`. -/
def pending (key : RowKey) (s : Session) : Option Row :=
  (Table.find Row.key key s.new).or (Table.find Row.key key s.dirty)

/-- The row as the session has it. -/
def get (key : RowKey) (s : Session) : Option Row :=
  (s.pending key).or (Table.find Row.key key s.rows)

/-- `session.add`. Where a row with the same key is known, its flush will fail, and so the attempt
cannot commit. -/
def add (row : Row) (s : Session) : Except JobError Session :=
  match s.get row.key with
  | some _ => .error ⟨.unexpected, "IntegrityError", row.key.table⟩
  | none => .ok { s with new := s.new ++ [row] }

/-- The attributes of a row are set. -/
def modify (row : Row) (s : Session) : Except JobError Session :=
  match Table.find Row.key row.key s.new, Table.find Row.key row.key s.dirty,
      Table.find Row.key row.key s.rows with
  | some _, _, _ => .ok { s with new := Table.modify Row.key row.key (fun _ => row) s.new }
  | none, some _, _ => .ok { s with dirty := Table.modify Row.key row.key (fun _ => row) s.dirty }
  | none, none, some _ => .ok { s with dirty := s.dirty ++ [row] }
  | none, none, none => .error ⟨.unexpected, "AttributeError", row.key.table⟩

/-- `session.flush` -/
def flush (s : Session) : Session where
  rows := s.rows.map (fun row => (Table.find Row.key row.key s.dirty).getD row) ++ s.new

/-- `_assert_session_scope` -/
def assertScope (scope : TenantScope) (s : Session) : Except JobError Unit :=
  (s.new ++ s.dirty).forM fun row =>
    match row.tenant with
    | some tenant => scope.assertMatches tenant
    | none => .ok ()

/-- `mark_job_succeeded`, which sets other attributes. -/
def markJobSucceeded (job : RowKey) (s : Session) : Except JobError Session :=
  match s.get job with
  | some row => s.modify row
  | none => .ok s

end Session

/-- What a handler does to its session. It is made with `autoflush=False`: reading flushes nothing. -/
inductive SessionOp
  | add (row : Row)
  | modify (row : Row)
  | flush
deriving DecidableEq, Repr

namespace SessionOp

def perform : SessionOp → Session → Except JobError Session
  | .add row, s => s.add row
  | .modify row, s => s.modify row
  | .flush, s => .ok s.flush

/-- The row that is added or modified. -/
def row? : SessionOp → Option Row
  | .add row | .modify row => some row
  | .flush => none

end SessionOp

/-- The operations of a handler, in their order. -/
def performAll (ops : List SessionOp) (s : Session) : Except JobError Session :=
  ops.foldlM (fun s op => op.perform s) s

/-- The transaction of an attempt, from the call of the handler on: what the handler does, how it
ends, and the tables that are committed. -/
def attempt (scope : TenantScope) (job : RowKey) (ops : List SessionOp)
    (finish : Except JobError Unit) (rows : List Row) : Except JobError (List Row) := do
  let s ← performAll ops { rows := rows }
  finish
  s.assertScope scope
  let s ← s.markJobSucceeded job
  return s.flush.rows

/-! ## What a handler leaves -/

/-- What has become of a row. -/
inductive RowState
  | untouched
  | pending (row : Row)
  | flushed (row : Row)
deriving DecidableEq, Repr

def SessionOp.follow (key : RowKey) : SessionOp → RowState → RowState
  | .add row, state | .modify row, state => if row.key = key then .pending row else state
  | .flush, .pending row => .flushed row
  | .flush, state => state

/-- What the operations leave of a row: the last change of it, and whether a flush comes after. -/
def leaves (key : RowKey) (ops : List SessionOp) : RowState :=
  ops.foldl (fun state op => op.follow key state) .untouched

theorem leaves_append (key : RowKey) (ops : List SessionOp) (op : SessionOp) :
    leaves key (ops ++ [op]) = op.follow key (leaves key ops) := by
  simp [leaves]

/-- The session has the row in this state. -/
def Session.Has (s : Session) (key : RowKey) : RowState → Prop
  | .untouched => s.pending key = none
  | .pending row => s.pending key = some row
  | .flushed row => s.pending key = none ∧ Table.find Row.key key s.rows = some row

/-- The session that began with `initial` is as the operations leave it. -/
structure Tracks (initial : List Row) (ops : List SessionOp) (s : Session) : Prop where
  keys : Table.KeysNodup Row.key (s.rows ++ s.new)
  dirty : ∀ row ∈ s.dirty, Table.find Row.key row.key s.rows ≠ none
  has : ∀ key, s.Has key (leaves key ops)
  untouched : ∀ key, leaves key ops = .untouched →
    Table.find Row.key key s.rows = Table.find Row.key key initial

/-! ### Steps -/

section Steps

open Table

variable {initial : List Row} {ops : List SessionOp} {s s' : Session} {row : Row} {key : RowKey}

theorem find_append {rows new : List Row} :
    find Row.key key (rows ++ new) = (find Row.key key rows).or (find Row.key key new) :=
  List.find?_append

/-- A row that is looked up by its key is that row if it is new, and otherwise found as before. -/
theorem find_append_singleton {rows : List Row} (hnew : find Row.key row.key rows = none) :
    find Row.key key (rows ++ [row]) =
      if row.key = key then some row else find Row.key key rows := by
  rw [find_append]
  by_cases hkey : row.key = key
  · subst hkey
    simp [find, show rows.find? _ = none from hnew]
  · cases hfind : find Row.key key rows <;> simp [find, hkey]

/-- And so it is after it has been set. -/
theorem find_modify_const {rows : List Row} (hknown : find Row.key row.key rows ≠ none) :
    find Row.key key (Table.modify Row.key row.key (fun _ => row) rows) =
      if row.key = key then some row else find Row.key key rows := by
  by_cases hkey : row.key = key
  · subst hkey
    obtain ⟨old, hold⟩ := Option.ne_none_iff_exists'.mp hknown
    rw [find_modify_self (fun _ _ => rfl), hold, if_pos rfl, Option.map_some]
  · rw [find_modify_of_ne (fun _ _ => rfl) (Ne.symm hkey), if_neg hkey]

/-- A row is not both in the tables and new. -/
theorem find_new_eq_none (hkeys : KeysNodup Row.key (s.rows ++ s.new))
    (h : find Row.key key s.rows ≠ none) : find Row.key key s.new = none := by
  obtain ⟨row, hrow⟩ := Option.ne_none_iff_exists'.mp h
  rw [find_eq_none_iff]
  intro row' hrow' hkey
  rw [KeysNodup, List.map_append, List.nodup_append] at hkeys
  refine hkeys.2.2 row.key (List.mem_map_of_mem (mem_of_find hrow)) row'.key
    (List.mem_map_of_mem hrow') ?_
  rw [key_of_find hrow, hkey]

theorem Session.get_eq_none_iff : s.get key = none ↔
    find Row.key key s.new = none ∧ find Row.key key s.dirty = none ∧
      find Row.key key s.rows = none := by
  simp [Session.get, Session.pending, and_assoc]

/-- What `session.add` does. -/
structure Session.Adds (row : Row) (s s' : Session) : Prop where
  fresh : s.get row.key = none
  eq : s' = { s with new := s.new ++ [row] }

theorem Session.adds_of_add (h : s.add row = .ok s') : s.Adds row s' := by
  unfold Session.add at h
  split at h
  next => cases h
  next hfresh =>
    cases h
    exact ⟨hfresh, rfl⟩

theorem Tracks.add (h : Tracks initial ops s) (hadd : s.add row = .ok s') :
    Tracks initial (ops ++ [.add row]) s' := by
  obtain ⟨hfresh, rfl⟩ := Session.adds_of_add hadd
  obtain ⟨hnew, hdirty, hrows⟩ := Session.get_eq_none_iff.mp hfresh
  have hpending : ∀ key, Session.pending key { s with new := s.new ++ [row] } =
      if row.key = key then some row else s.pending key := by
    intro key
    rw [Session.pending, find_append_singleton hnew]
    split <;> simp [Session.pending]
  constructor
  · rw [← List.append_assoc]
    refine h.keys.append (keysNodup_singleton row) ?_
    simp only [List.mem_singleton, forall_eq, List.mem_append]
    rintro row' (hrow' | hrow')
    · exact find_eq_none_iff.mp hrows row' hrow'
    · exact find_eq_none_iff.mp hnew row' hrow'
  · exact h.dirty
  · intro key
    rw [leaves_append, SessionOp.follow]
    by_cases hkey : row.key = key
    · rw [if_pos hkey, Session.Has, hpending, if_pos hkey]
    · have hhas := h.has key
      rw [if_neg hkey]
      cases hleft : leaves key ops with
      | untouched | pending _ | flushed _ =>
          rw [hleft] at hhas
          simpa [Session.Has, hpending, hkey] using hhas
  · intro key huntouched
    rw [leaves_append, SessionOp.follow] at huntouched
    split at huntouched
    next => cases huntouched
    next => exact h.untouched key huntouched

/-- What setting attributes of a row does: the row is pending, and the tables are as they were. -/
structure Session.Modifies (row : Row) (s s' : Session) : Prop where
  rows : s'.rows = s.rows
  keys : s'.new.map Row.key = s.new.map Row.key
  dirty : (∀ row' ∈ s.dirty, find Row.key row'.key s.rows ≠ none) →
    ∀ row' ∈ s'.dirty, find Row.key row'.key s.rows ≠ none
  pending : ∀ key, s'.pending key = if row.key = key then some row else s.pending key

theorem Session.modifies_of_modify (h : s.modify row = .ok s') : s.Modifies row s' := by
  unfold Session.modify at h
  split at h
  next hnew =>
    cases h
    refine ⟨rfl, map_key_modify fun _ _ _ => rfl, fun h => h, fun key => ?_⟩
    rw [Session.pending, find_modify_const (by simp [hnew])]
    split <;> simp [Session.pending]
  next hnew hdirty =>
    cases h
    refine ⟨rfl, rfl, fun h row' hrow' => ?_, fun key => ?_⟩
    · rcases mem_modify_cases hrow' with ⟨old, hold, hkey, rfl⟩ | ⟨hold, -⟩
      · rw [← hkey]
        exact h old hold
      · exact h row' hold
    · rw [Session.pending, find_modify_const (by simp [hdirty])]
      by_cases hkey : row.key = key
      · subst hkey
        simp [hnew]
      · simp [Session.pending, hkey]
  next hnew hdirty hrows =>
    cases h
    refine ⟨rfl, rfl, fun h row' hrow' => ?_, fun key => ?_⟩
    · rcases List.mem_append.mp hrow' with hold | hlast
      · exact h row' hold
      · rw [List.mem_singleton.mp hlast, hrows]
        simp
    · rw [Session.pending, find_append_singleton hdirty]
      by_cases hkey : row.key = key
      · subst hkey
        simp [hnew]
      · simp [Session.pending, hkey]
  next => cases h

theorem Tracks.modify (h : Tracks initial ops s) (hmodify : s.modify row = .ok s') :
    Tracks initial (ops ++ [.modify row]) s' := by
  have hm := Session.modifies_of_modify hmodify
  constructor
  · rw [KeysNodup, List.map_append, hm.keys, hm.rows, ← List.map_append]
    exact h.keys
  · rw [hm.rows]
    exact hm.dirty h.dirty
  · intro key
    rw [leaves_append, SessionOp.follow]
    by_cases hkey : row.key = key
    · rw [if_pos hkey, Session.Has, hm.pending, if_pos hkey]
    · have hhas := h.has key
      rw [if_neg hkey]
      cases hleft : leaves key ops with
      | untouched | pending _ | flushed _ =>
          rw [hleft] at hhas
          simpa [Session.Has, hm.pending, hm.rows, hkey] using hhas
  · intro key huntouched
    rw [leaves_append, SessionOp.follow] at huntouched
    rw [hm.rows]
    split at huntouched
    next => cases huntouched
    next => exact h.untouched key huntouched

/-- The tables have every row as the session had it. -/
theorem Tracks.find_flush (h : Tracks initial ops s) (key : RowKey) :
    find Row.key key s.flush.rows = s.get key := by
  have hkey : ∀ row : Row, ((find Row.key row.key s.dirty).getD row).key = row.key := by
    intro row
    cases hdirty : find Row.key row.key s.dirty with
    | none => rfl
    | some row' => exact key_of_find hdirty
  rw [Session.flush, find_append, find_map hkey, Session.get, Session.pending]
  cases hrows : find Row.key key s.rows with
  | none =>
      have hdirty : find Row.key key s.dirty = none := by
        rw [find_eq_none_iff]
        rintro row hrow rfl
        exact h.dirty row hrow hrows
      simp [hdirty]
  | some row =>
      obtain rfl := key_of_find hrows
      have hrow : find Row.key row.key s.rows ≠ none := by simp [hrows]
      have hnew := find_new_eq_none h.keys hrow
      cases hdirty : find Row.key row.key s.dirty <;> simp [hnew, hdirty]

theorem Tracks.keys_flush (h : Tracks initial ops s) : KeysNodup Row.key s.flush.rows := by
  have hkey : Row.key ∘ (fun row => (find Row.key row.key s.dirty).getD row) = Row.key := by
    funext row
    cases hdirty : find Row.key row.key s.dirty with
    | none => simp [hdirty]
    | some row' => simpa [hdirty] using key_of_find hdirty
  have hkeys := h.keys
  rw [KeysNodup, List.map_append] at hkeys
  rw [KeysNodup, Session.flush, List.map_append, List.map_map, hkey]
  exact hkeys

theorem Tracks.flush (h : Tracks initial ops s) : Tracks initial (ops ++ [.flush]) s.flush := by
  have hpending : ∀ key, s.flush.pending key = none := fun key => rfl
  constructor
  · rw [show s.flush.new = [] from rfl, List.append_nil]
    exact h.keys_flush
  · intro row hrow
    cases hrow
  · intro key
    have hhas := h.has key
    have hfind := h.find_flush key
    rw [leaves_append, SessionOp.follow.eq_def]
    cases hleft : leaves key ops with
    | untouched => exact hpending key
    | pending row | flushed row =>
        rw [hleft, Session.Has] at hhas
        refine ⟨hpending key, hfind.trans ?_⟩
        simp [Session.get, hhas]
  · intro key huntouched
    have hleft : leaves key ops = .untouched := by
      rw [leaves_append, SessionOp.follow.eq_def] at huntouched
      cases hleft : leaves key ops with
      | untouched => rfl
      | pending row | flushed row =>
          rw [hleft] at huntouched
          cases huntouched
    have hhas := h.has key
    rw [hleft, Session.Has] at hhas
    rw [h.find_flush key, Session.get, hhas, Option.none_or]
    exact h.untouched key hleft

theorem Tracks.perform (h : Tracks initial ops s) {op : SessionOp} (hop : op.perform s = .ok s') :
    Tracks initial (ops ++ [op]) s' := by
  cases op with
  | add row => exact h.add hop
  | modify row => exact h.modify hop
  | flush =>
      cases hop
      exact h.flush

theorem tracks_initial (hkeys : KeysNodup Row.key initial) :
    Tracks initial [] { rows := initial } where
  keys := by rwa [List.append_nil]
  dirty _ hrow := by cases hrow
  has _ := rfl
  untouched _ _ := rfl

theorem Tracks.run (h : Tracks initial ops s) {more : List SessionOp}
    (hrun : performAll more s = .ok s') : Tracks initial (ops ++ more) s' := by
  induction more generalizing ops s with
  | nil =>
      rw [List.append_nil]
      obtain rfl := Except.pure_eq_ok_iff.mp hrun
      exact h
  | cons op more ih =>
      rw [performAll, List.foldlM_cons] at hrun
      obtain ⟨s₁, hop, hrest⟩ := Except.bind_eq_ok_iff.mp hrun
      have hmore := ih (h.perform hop) hrest
      rwa [List.append_assoc] at hmore

end Steps

/-! ## Attempts -/

section Attempts

open Table

variable {scope : TenantScope} {job : RowKey} {ops : List SessionOp}
variable {finish : Except JobError Unit} {rows rows' : List Row} {s s' : Session}

theorem Session.assertScope_eq_ok_iff :
    s.assertScope scope = .ok () ↔ ∀ row ∈ s.new ++ s.dirty, row.InScope scope := by
  rw [Session.assertScope, Except.forM_eq_ok_iff]
  refine forall₂_congr fun row _ => ?_
  unfold Row.InScope
  cases row.tenant with
  | none => simp
  | some tenant =>
      refine TenantScope.assertMatches_eq_ok_iff.trans ?_
      simp [eq_comm]

theorem Session.mem_of_pending {key : RowKey} {row : Row} (h : s.pending key = some row) :
    row ∈ s.new ++ s.dirty := by
  rcases Option.or_eq_some_iff.mp h with hnew | ⟨-, hdirty⟩
  · exact List.mem_append_left _ (mem_of_find hnew)
  · exact List.mem_append_right _ (mem_of_find hdirty)

theorem Session.key_of_get {key : RowKey} {row : Row} (h : s.get key = some row) :
    row.key = key := by
  rcases Option.or_eq_some_iff.mp h with hpending | ⟨-, hrow⟩
  · rcases Option.or_eq_some_iff.mp hpending with hnew | ⟨-, hdirty⟩
    · exact key_of_find hnew
    · exact key_of_find hdirty
  · exact key_of_find hrow

/-- A row that the handler leaves pending outside of the tenant is found by the check. -/
theorem attempt_refused_of_pending (hkeys : KeysNodup Row.key rows) {key : RowKey} {row : Row}
    (hleft : leaves key ops = .pending row) (hescaped : ¬ row.InScope scope) :
    attempt scope job ops finish rows ≠ .ok rows' := by
  intro hcommit
  obtain ⟨s, hrun, hcommit⟩ := Except.bind_eq_ok_iff.mp hcommit
  obtain ⟨_, -, hcommit⟩ := Except.bind_eq_ok_iff.mp hcommit
  obtain ⟨_, hscope, -⟩ := Except.bind_eq_ok_iff.mp hcommit
  have hhas := ((tracks_initial hkeys).run hrun).has key
  rw [List.nil_append, hleft] at hhas
  exact hescaped (Session.assertScope_eq_ok_iff.mp hscope row (Session.mem_of_pending hhas))

/-- What an attempt that commits has done. -/
structure Committed (scope : TenantScope) (ops : List SessionOp) (job : RowKey)
    (rows rows' : List Row) : Prop where
  keys : KeysNodup Row.key rows'
  untouched : ∀ key, leaves key ops = .untouched → find Row.key key rows' = find Row.key key rows
  pending : ∀ key row, leaves key ops = .pending row →
    find Row.key key rows' = some row ∧ row.InScope scope
  flushed : ∀ key row, leaves key ops = .flushed row → find Row.key key rows' = some row

theorem committed_attempt (hkeys : KeysNodup Row.key rows)
    (hcommit : attempt scope job ops finish rows = .ok rows') :
    Committed scope ops job rows rows' := by
  obtain ⟨s, hrun, hcommit⟩ := Except.bind_eq_ok_iff.mp hcommit
  obtain ⟨_, -, hcommit⟩ := Except.bind_eq_ok_iff.mp hcommit
  obtain ⟨_, hscope, hcommit⟩ := Except.bind_eq_ok_iff.mp hcommit
  obtain ⟨s', hmark, hcommit⟩ := Except.bind_eq_ok_iff.mp hcommit
  obtain rfl := Except.pure_eq_ok_iff.mp hcommit
  have htracks := (tracks_initial hkeys).run hrun
  rw [List.nil_append] at htracks
  -- the job is marked in its row as it stands, and that changes nothing here
  have hmarked : KeysNodup Row.key s'.flush.rows ∧
      ∀ key, find Row.key key s'.flush.rows = s.get key := by
    unfold Session.markJobSucceeded at hmark
    split at hmark
    next row hrow =>
      have htracks' := htracks.modify hmark
      have hm := Session.modifies_of_modify hmark
      refine ⟨htracks'.keys_flush, fun key => ?_⟩
      rw [htracks'.find_flush, Session.get, hm.pending, hm.rows]
      split
      next hkey =>
        have hjob : key = job := hkey.symm.trans (Session.key_of_get hrow)
        rw [hjob, hrow, Option.some_or]
      next => rfl
    next =>
      cases hmark
      exact ⟨htracks.keys_flush, htracks.find_flush⟩
  obtain ⟨hnodup, hfind⟩ := hmarked
  have hhas := htracks.has
  refine ⟨hnodup, fun key hleft => ?_, fun key row hleft => ?_, fun key row hleft => ?_⟩
  · have hkey := hhas key
    rw [hleft, Session.Has] at hkey
    rw [hfind, Session.get, hkey, Option.none_or, htracks.untouched key hleft]
  · have hkey := hhas key
    rw [hleft, Session.Has] at hkey
    refine ⟨?_, Session.assertScope_eq_ok_iff.mp hscope row (Session.mem_of_pending hkey)⟩
    rw [hfind, Session.get, hkey, Option.some_or]
  · have hkey := hhas key
    rw [hleft, Session.Has] at hkey
    rw [hfind, Session.get, hkey.1, Option.none_or, hkey.2]

/-- The row is added or modified by one of the operations. -/
def Touches (ops : List SessionOp) (key : RowKey) : Prop :=
  ∃ op ∈ ops, ∃ row, op.row? = some row ∧ row.key = key

theorem leaves_eq_untouched_iff {key : RowKey} : leaves key ops = .untouched ↔ ¬ Touches ops key := by
  induction ops using List.reverseRecOn with
  | nil => simp [leaves, Touches]
  | append_singleton ops op ih =>
      have hsplit : Touches (ops ++ [op]) key ↔
          Touches ops key ∨ ∃ row, op.row? = some row ∧ row.key = key := by
        simp [Touches, or_and_right, exists_or]
      rw [hsplit, not_or, ← ih, leaves_append, SessionOp.follow.eq_def]
      cases op with
      | add row | modify row =>
          by_cases hkey : row.key = key <;> simp [SessionOp.row?, hkey]
      | flush => cases leaves key ops <;> simp [SessionOp.row?]

/-- When an attempt commits, the rows that have been added or modified in it, among them that of the
job, belong to the tenant of the job, if and only if no row of another tenant is flushed by the
handler and then left as it is. -/
theorem attempt_contained_iff (hkeys : KeysNodup Row.key rows)
    (hjob : ∃ row ∈ rows, row.key = job ∧ row.tenant = some scope)
    (hcommit : attempt scope job ops finish rows = .ok rows') :
    (∀ row ∈ rows', row.key = job ∨ Touches ops row.key → row.InScope scope) ↔
      ∀ key row, leaves key ops = .flushed row → row.InScope scope := by
  have hcommitted := committed_attempt hkeys hcommit
  constructor
  · intro hcontained key row hleft
    have hfind := hcommitted.flushed key row hleft
    have htouched : Touches ops row.key := by
      rw [key_of_find hfind]
      by_contra huntouched
      rw [leaves_eq_untouched_iff.mpr huntouched] at hleft
      cases hleft
    exact hcontained row (mem_of_find hfind) (.inr htouched)
  · intro hflushed row hrow htouched
    have hfind : find Row.key row.key rows' = some row :=
      hcommitted.keys.find_eq_some_iff.mpr ⟨hrow, rfl⟩
    cases hleft : leaves row.key ops with
    | untouched =>
        -- then it is the row of the job, which is as it was
        obtain hkey := htouched.resolve_right (leaves_eq_untouched_iff.mp hleft)
        obtain ⟨row', hrow', hkey', htenant⟩ := hjob
        rw [hcommitted.untouched row.key hleft] at hfind
        obtain rfl := hkeys.eq_of_key_eq (mem_of_find hfind) hrow' (hkey.trans hkey'.symm)
        intro tenant hmem
        rw [htenant] at hmem
        exact (Option.mem_some_iff.mp hmem).symm
    | pending row' =>
        obtain ⟨hfind', hscope⟩ := hcommitted.pending row.key row' hleft
        cases hfind.symm.trans hfind'
        exact hscope
    | flushed row' =>
        cases hfind.symm.trans (hcommitted.flushed row.key row' hleft)
        exact hflushed row.key row hleft

/-- A job of a tenant, with an event of its own tenant. -/
theorem attempt_contained_of_own_event :
    let job : Row := ⟨⟨"jobs", "job"⟩, some "organization", some "business"⟩
    let event : Row := ⟨⟨"business_events", "event"⟩, some "organization", some "business"⟩
    let ops : List SessionOp := [.add event, .flush]
    (∀ row ∈ [job, event], row.key = job.key ∨ Touches ops row.key →
      row.InScope ⟨"organization", "business"⟩) ↔
      ∀ key row, leaves key ops = .flushed row → row.InScope ⟨"organization", "business"⟩ := by
  intro job event ops
  have hkeys : KeysNodup Row.key [job] := by simp [KeysNodup]
  have hcommit : attempt ⟨"organization", "business"⟩ job.key ops (.ok ()) [job] =
    .ok [job, event] := rfl
  exact attempt_contained_iff hkeys (by decide) hcommit

/-- The event of another tenant that the runtime probe adds is refused, but not after a flush. -/
theorem flushed_event_escapes :
    let job : Row := ⟨⟨"jobs", "job"⟩, some "organization", some "business"⟩
    let event : Row := ⟨⟨"business_events", "event"⟩, some escapedScope.organizationId,
      some escapedScope.businessId⟩
    attempt ⟨"organization", "business"⟩ job.key [.add event, .flush] (.ok ()) [job] =
        .ok [job, event] ∧
      Touches [.add event, .flush] event.key ∧ ¬ event.InScope ⟨"organization", "business"⟩ ∧
      attempt ⟨"organization", "business"⟩ job.key [.add event] (.ok ()) [job] =
        .error (.tenantScopeViolation ⟨"organization", "business"⟩ escapedScope) := by
  refine ⟨rfl, ⟨_, List.mem_cons_self, _, rfl, rfl⟩, by decide, rfl⟩

/-- The events of a runtime probe are new when the session is checked: the check is the one of
`runtimeProbeHandler`. -/
theorem Session.assertScope_events (scope : TenantScope) (events : List BusinessEvent)
    (id : BusinessEvent → String) :
    Session.assertScope scope { rows := rows, new := events.map fun event =>
      ⟨⟨"business_events", id event⟩, some event.scope.organizationId,
        some event.scope.businessId⟩ } =
      events.forM fun event => scope.assertMatches event.scope := by
  rw [Session.assertScope, List.append_nil]
  induction events with
  | nil => rfl
  | cons event events ih => exact congrArg (scope.assertMatches event.scope >>= ·) (funext fun _ => ih)

end Attempts

end LaunchOS
