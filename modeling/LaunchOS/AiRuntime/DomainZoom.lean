import LaunchOS.AiRuntime.DomainSteps

/-!
# Transactions on a part of the tables

One part of the application is written for its own tables. Next to other parts, its tables are part
of larger ones.

The module introduces:

* `TablesView`: where the tables of a part stand in those of the whole;
* `DomainTxn.zoom`: a transaction of the part, as one of the whole;
* `ensures_zoom`, `growsWithin_zoom`, `framesWithin_zoom`: what holds of the transaction of the part
  holds of it in the whole;
* `DomainTxn.through`: a transaction of a part that only reads some of its tables, which are computed
  from those of the whole.
-/

namespace LaunchOS

open Txn

variable {M S T α : Type}

/-- Where the tables `S` of a part stand in the tables `T` of the whole. -/
structure TablesView (T S : Type) where
  get : T → S
  set : S → T → T
  get_set : ∀ s t, get (set s t) = s
  set_get : ∀ t, set (get t) t = t

/-- The same database with other tables of the domain. -/
def Database.withDomain (db : AgentDatabase M S) (t : T) : AgentDatabase M T where
  toRuntimeTables := db.toRuntimeTables
  tables := { agentRuns := db.tables.agentRuns, domain := t }

@[simp]
theorem domain_withDomain (db : AgentDatabase M S) (t : T) :
    (db.withDomain t).tables.domain = t := rfl

@[simp]
theorem toRuntimeTables_withDomain (db : AgentDatabase M S) (t : T) :
    (db.withDomain t).toRuntimeTables = db.toRuntimeTables := rfl

/-! ## Parts that only read some of their tables -/

/-- A transaction on tables that are computed from those of the whole; `write` puts back what it has
written. -/
def DomainTxn.through (read : T → S) (write : S → T → T) (m : DomainTxn M S α) : DomainTxn M T α :=
  fun db =>
    match m (db.withDomain (read db.tables.domain)) with
    | .ok (a, db') => .ok (a, db'.withDomain (write db'.tables.domain db.tables.domain))
    | .error error => .error error

section Through

variable {read : T → S} {write : S → T → T} {m : DomainTxn M S α}

theorem DomainTxn.through_eq_ok_iff {db db' : AgentDatabase M T} {a : α} :
    DomainTxn.through read write m db = .ok (a, db') ↔ ∃ part,
      m (db.withDomain (read db.tables.domain)) = .ok (a, part) ∧
      db' = part.withDomain (write part.tables.domain db.tables.domain) := by
  unfold DomainTxn.through
  split
  next b part hm =>
    constructor
    · rintro ⟨⟩
      exact ⟨part, hm, rfl⟩
    · rintro ⟨part', hm', rfl⟩
      cases hm.symm.trans hm'
      rfl
  next error hm =>
    constructor
    · intro h
      cases h
    · rintro ⟨part, hm', -⟩
      cases hm.symm.trans hm'

theorem DomainTxn.through_eq_error_iff {db : AgentDatabase M T} {error : JobError} :
    DomainTxn.through read write m db = .error error ↔
      m (db.withDomain (read db.tables.domain)) = .error error := by
  unfold DomainTxn.through
  split
  next b part hm => simp [hm]
  next error' hm => simp [hm]

theorem ensures_through {Q : α → AgentDatabase M T → Prop} {db : AgentDatabase M T} :
    Ensures (DomainTxn.through read write m) Q db ↔
      Ensures m (fun a part => Q a (part.withDomain (write part.tables.domain db.tables.domain)))
        (db.withDomain (read db.tables.domain)) := by
  constructor
  · intro h a part hm
    exact h a _ (DomainTxn.through_eq_ok_iff.mpr ⟨part, hm, rfl⟩)
  · intro h a db' hthrough
    obtain ⟨part, hm, rfl⟩ := DomainTxn.through_eq_ok_iff.mp hthrough
    exact h a part hm

end Through

/-! ## Views -/

/-- A transaction of a part, as one of the whole. -/
def DomainTxn.zoom (v : TablesView T S) (m : DomainTxn M S α) : DomainTxn M T α := fun db =>
  match m (db.withDomain (v.get db.tables.domain)) with
  | .ok (a, db') => .ok (a, db'.withDomain (v.set db'.tables.domain db.tables.domain))
  | .error error => .error error

theorem DomainTxn.zoom_eq_ok_iff {v : TablesView T S} {m : DomainTxn M S α}
    {db db' : AgentDatabase M T} {a : α} :
    DomainTxn.zoom v m db = .ok (a, db') ↔ ∃ part,
      m (db.withDomain (v.get db.tables.domain)) = .ok (a, part) ∧
      db' = part.withDomain (v.set part.tables.domain db.tables.domain) :=
  DomainTxn.through_eq_ok_iff 

theorem ensures_zoom {v : TablesView T S} {m : DomainTxn M S α}
    {Q : α → AgentDatabase M T → Prop} {db : AgentDatabase M T} :
    Ensures (DomainTxn.zoom v m) Q db ↔
      Ensures m (fun a part => Q a (part.withDomain (v.set part.tables.domain db.tables.domain)))
        (db.withDomain (v.get db.tables.domain)) :=
  ensures_through 

/-! ## Relations -/

theorem insertAgentRun_withDomain {now : Time} {args : CreateAgentRun} {db db' : AgentDatabase M S}
    {run : AgentRun M} (h : insertAgentRun now args db = .ok (run, db')) (t : T) :
    insertAgentRun now args (db.withDomain t) = .ok (run, db'.withDomain t) := by
  unfold insertAgentRun at h ⊢
  simp only [toRuntimeTables_withDomain] at h ⊢
  split at h
  next => cases h
  next job table hjob =>
    cases h
    rfl

/-- The tables of the domain do not matter for what is lawful. -/
theorem AgentGrows.withDomain {now : Time} {db db' : AgentDatabase M S}
    (h : AgentGrows now db db') (t t' : T) :
    AgentGrows now (db.withDomain t) (db'.withDomain t') := by
  induction h generalizing t' with
  | refl => exact AgentGrows.refl.domain t'
  | domain s _ ih => exact ih t'
  | newId _ ih => exact (ih t').newId
  | createJob args hdispatch hkey _ ih => exact (ih t').createJob args hdispatch hkey
  | outboxEvent scope eventType _ ih => exact (ih t').outboxEvent scope eventType
  | createAgentRun args hinsert _ ih =>
      exact (ih t').createAgentRun args (insertAgentRun_withDomain hinsert t')

section Zoom

variable {v : TablesView T S} {m : DomainTxn M S α}

theorem growsWithin_zoom {now : Time} (h : Within (AgentGrows now) m) :
    Within (AgentGrows now) (DomainTxn.zoom v m) := by
  intro db
  rw [ensures_zoom]
  refine (h _).mono fun a part hpart => ?_
  exact hpart.withDomain db.tables.domain _

theorem framesWithin_zoom {r : S → S → Prop} {r' : T → T → Prop} (h : Within (Frames r) m)
    (hr : ∀ t s, r (v.get t) s → r' t (v.set s t)) : Within (Frames r') (DomainTxn.zoom v m) := by
  intro db
  rw [ensures_zoom]
  refine (h _).mono fun a part hpart => ?_
  exact ⟨hpart.nextId, hr db.tables.domain part.tables.domain hpart.domain⟩

end Zoom

end LaunchOS
