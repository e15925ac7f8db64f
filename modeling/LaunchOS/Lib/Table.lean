import Mathlib.Data.List.Nodup
import Mathlib.Data.List.Basic
import Mathlib.Order.Lattice

/-!
# Tables of keyed rows

A table is a list of rows in insertion order, read through a key `key : ρ → ι`. Inserting appends
a row, and an update by key rewrites the rows that carry the key.

The module introduces:

* `find key i rows`: the first row with key `i`;
* `modify key i f rows`: the table with `f` applied to the rows with key `i`;
* `KeysNodup key rows`: no two rows share a key, under which `find` is exact
  (`find_eq_some_iff`), and which `modify` and the insertion of a new key keep;
* `Issued num next rows`: numbered rows, all below the next number;
* `maxOf num rows`: the highest number of a row, or zero;
* `countP_le_mul`: a bound on the rows with a key, from one on the rows with the same key.
-/

namespace Table

variable {ρ ι : Type*} (key : ρ → ι)

/-- No two rows share a key. -/
def KeysNodup (rows : List ρ) : Prop :=
  (rows.map key).Nodup

section KeysNodup

variable {key} {rows : List ρ} {r : ρ}

theorem keysNodup_nil : KeysNodup key ([] : List ρ) := List.nodup_nil

/-- Appending rows with new and distinct keys keeps the keys distinct. -/
theorem KeysNodup.append {new : List ρ} (h : KeysNodup key rows) (hnew : KeysNodup key new)
    (hdisj : ∀ r ∈ new, ∀ r' ∈ rows, key r' ≠ key r) : KeysNodup key (rows ++ new) := by
  rw [KeysNodup, List.map_append, List.nodup_append]
  refine ⟨h, hnew, ?_⟩
  intro a ha b hb
  obtain ⟨r', hr', rfl⟩ := List.mem_map.mp ha
  obtain ⟨r, hr, rfl⟩ := List.mem_map.mp hb
  exact hdisj r hr r' hr'

theorem keysNodup_singleton (r : ρ) : KeysNodup key [r] := List.nodup_singleton _

/-- Rewriting every row without changing its key keeps the keys distinct. -/
theorem KeysNodup.map {f : ρ → ρ} (h : KeysNodup key rows) (hf : ∀ r, key (f r) = key r) :
    KeysNodup key (rows.map f) := by
  have hcomp : key ∘ f = key := funext hf
  rw [KeysNodup, List.map_map, hcomp]
  exact h

/-- Two rows of a table with distinct keys that carry the same key are the same row. -/
theorem KeysNodup.eq_of_key_eq (h : KeysNodup key rows) {a b : ρ} (ha : a ∈ rows) (hb : b ∈ rows)
    (hkey : key a = key b) : a = b :=
  List.inj_on_of_nodup_map h ha hb hkey

/-- A table with distinct keys whose rows all carry the same key has at most one row. -/
theorem KeysNodup.length_le_one (h : KeysNodup key rows)
    (hsame : ∀ a ∈ rows, ∀ b ∈ rows, key a = key b) : rows.length ≤ 1 := by
  rcases rows with _ | ⟨first, _ | ⟨second, rest⟩⟩
  · exact Nat.zero_le 1
  · exact le_rfl
  · have heq : key first = key second := hsame first (by simp) second (by simp)
    simp [KeysNodup, heq] at h

end KeysNodup

variable [DecidableEq ι]

/-- The first row with key `i`. -/
def find (i : ι) (rows : List ρ) : Option ρ :=
  rows.find? fun r => decide (key r = i)

/-- Apply `f` to the rows with key `i`. -/
def modify (i : ι) (f : ρ → ρ) (rows : List ρ) : List ρ :=
  rows.map fun r => if key r = i then f r else r

variable {key} {i j : ι} {f : ρ → ρ} {rows : List ρ} {r : ρ}

theorem mem_of_find (h : find key i rows = some r) : r ∈ rows :=
  List.mem_of_find?_eq_some h

theorem key_of_find (h : find key i rows = some r) : key r = i := by
  simpa using List.find?_some h

theorem find_eq_none_iff : find key i rows = none ↔ ∀ r ∈ rows, key r ≠ i := by
  simp [find]

/-- A row of the updated table is an old row, rewritten if it carries the key. -/
theorem mem_modify_iff :
    r ∈ modify key i f rows ↔ ∃ r' ∈ rows, (if key r' = i then f r' else r') = r := by
  simp [modify]

/-- A row of the updated table is the image of a row with the key, or an old row without it. -/
theorem mem_modify_cases (h : r ∈ modify key i f rows) :
    (∃ r' ∈ rows, key r' = i ∧ r = f r') ∨ (r ∈ rows ∧ key r ≠ i) := by
  obtain ⟨r', hr', heq⟩ := mem_modify_iff.mp h
  split at heq
  next hkey => exact .inl ⟨r', hr', hkey, heq.symm⟩
  next hkey => exact .inr ⟨heq ▸ hr', heq ▸ hkey⟩

theorem mem_modify_of_ne (hr : r ∈ rows) (hne : key r ≠ i) : r ∈ modify key i f rows :=
  mem_modify_iff.mpr ⟨r, hr, by simp [hne]⟩

theorem mem_modify_of_eq (hr : r ∈ rows) (heq : key r = i) : f r ∈ modify key i f rows :=
  mem_modify_iff.mpr ⟨r, hr, by simp [heq]⟩

@[simp]
theorem length_modify : (modify key i f rows).length = rows.length := by
  simp [modify]

/-- An update that changes no row does nothing. -/
theorem modify_eq_self (h : ∀ r ∈ rows, key r = i → f r = r) : modify key i f rows = rows := by
  refine (List.map_congr_left fun r hr => ?_).trans (List.map_id' rows)
  split
  next hkey => exact h r hr hkey
  next => rfl

/-- An update of a key that no row carries does nothing. -/
theorem modify_of_find_eq_none (h : find key i rows = none) : modify key i f rows = rows :=
  modify_eq_self fun r hr hkey => absurd hkey (find_eq_none_iff.mp h r hr)

/-- An update that keeps the key of the rows it touches keeps the list of keys. -/
theorem map_key_modify (hf : ∀ r ∈ rows, key r = i → key (f r) = i) :
    (modify key i f rows).map key = rows.map key := by
  rw [modify, List.map_map]
  apply List.map_congr_left
  intro r hr
  by_cases hkey : key r = i
  · simp [hkey, hf r hr hkey]
  · simp [hkey]

theorem KeysNodup.modify (h : KeysNodup key rows) (hf : ∀ r ∈ rows, key r = i → key (f r) = i) :
    KeysNodup key (modify key i f rows) := by
  rw [KeysNodup, map_key_modify hf]
  exact h

/-- With distinct keys, `find` returns exactly the row with the key. -/
theorem KeysNodup.find_eq_some_iff (h : KeysNodup key rows) :
    find key i rows = some r ↔ r ∈ rows ∧ key r = i := by
  constructor
  · intro hfind
    exact ⟨mem_of_find hfind, key_of_find hfind⟩
  · rintro ⟨hr, hkey⟩
    cases hfind : find key i rows with
    | none => exact absurd hkey (find_eq_none_iff.mp hfind r hr)
    | some r' =>
        rw [h.eq_of_key_eq (mem_of_find hfind) hr ((key_of_find hfind).trans hkey.symm)]

/-- After an update that keeps keys, looking up the updated key finds the rewritten row. -/
theorem find_modify_self (hf : ∀ r, key r = i → key (f r) = i) :
    find key i (modify key i f rows) = (find key i rows).map f := by
  induction rows with
  | nil => rfl
  | cons r rows ih =>
      by_cases hkey : key r = i
      · simp [find, modify, hkey, hf r hkey]
      · simpa [find, modify, hkey] using ih

/-- Rewriting every row without changing its key rewrites the row that is found. -/
theorem find_map {f : ρ → ρ} (hf : ∀ r, key (f r) = key r) :
    find key i (rows.map f) = (find key i rows).map f := by
  rw [find, List.find?_map]
  refine congrArg (Option.map f) (congrArg (List.find? · rows) (funext fun r => ?_))
  simp only [Function.comp_apply, hf r]

/-- What is found first stays the first. -/
theorem find_append_of_eq_some {new : List ρ} (h : find key i rows = some r) :
    find key i (rows ++ new) = some r := by
  rw [find, List.find?_append, show rows.find? _ = some r from h]
  rfl

/-- An update does not change what another key finds. -/
theorem find_modify_of_ne (hf : ∀ r, key r = i → key (f r) = i) (hij : j ≠ i) :
    find key j (modify key i f rows) = find key j rows := by
  induction rows with
  | nil => rfl
  | cons r rows ih =>
      by_cases hkey : key r = i
      · have hfr : key (f r) ≠ j := fun h => hij (h.symm.trans (hf r hkey))
        have hr : key r ≠ j := fun h => hij (h.symm.trans hkey)
        simpa [find, modify, hkey, hfr, hr, Ne.symm hij] using ih
      · by_cases hj : key r = j
        · simp [find, modify, hj, hij]
        · simpa [find, modify, hkey, hj] using ih

/-! ## Rows with a key -/

/-- With distinct keys, the rows with the key of a row are that row alone. -/
theorem KeysNodup.filter_eq_singleton (h : KeysNodup key rows) (hr : r ∈ rows) :
    rows.filter (fun r' => key r' = key r) = [r] := by
  induction rows with
  | nil => cases hr
  | cons first rows ih =>
      rw [KeysNodup, List.map_cons, List.nodup_cons] at h
      rcases List.mem_cons.mp hr with rfl | hr
      · rw [List.filter_cons_of_pos (by simp), List.filter_eq_nil_iff.mpr]
        intro r' hr' hkey
        exact h.1 (List.mem_map.mpr ⟨r', hr', of_decide_eq_true hkey⟩)
      · have hne : key first ≠ key r := fun hkey => h.1 (List.mem_map.mpr ⟨r, hr, hkey.symm⟩)
        rw [List.filter_cons_of_neg (by simpa using hne)]
        exact ih h.2 hr

/-- A table has as many rows with a key as the list of keys has occurrences of it. -/
theorem length_filter_key (i : ι) (rows : List ρ) :
    (rows.filter fun r => key r = i).length = (rows.map key).count i := by
  rw [List.count, List.countP_map, List.countP_eq_length_filter]
  refine congrArg List.length (List.filter_congr fun r _ => ?_)
  simp only [Function.comp_apply, beq_eq_decide]

/-- Of a table in which every key comes with the same values, the rows with a key have these. -/
theorem map_filter_of_map_eq {β : Type*} {val : ρ → β} {ids : List ι} {vals : List β}
    (hids : ids.Nodup) (hi : i ∈ ids)
    (hrows : rows.map (fun r => (key r, val r)) = ids.flatMap fun j => vals.map (j, ·)) :
    (rows.filter fun r => key r = i).map val = vals := by
  have hpairs : ((rows.map fun r => (key r, val r)).filter fun p => p.1 = i).map Prod.snd =
      (rows.filter fun r => key r = i).map val := by
    rw [List.filter_map, List.map_map]
    rfl
  rw [← hpairs, hrows]
  clear hrows hpairs
  induction ids with
  | nil => cases hi
  | cons j ids ih =>
      rw [List.nodup_cons] at hids
      rw [List.flatMap_cons, List.filter_append, List.map_append]
      by_cases hij : j = i
      · subst hij
        have hrest : ((ids.flatMap fun k => vals.map (k, ·)).filter fun p => p.1 = j) = [] := by
          rw [List.filter_eq_nil_iff]
          rintro ⟨k, v⟩ hmem heq
          obtain ⟨k', hk', hmem⟩ := List.mem_flatMap.mp hmem
          obtain ⟨_, -, hpair⟩ := List.mem_map.mp hmem
          obtain ⟨rfl, -⟩ := Prod.mk.inj hpair
          exact hids.1 (of_decide_eq_true heq ▸ hk')
        have hown : (vals.map (j, ·)).filter (fun p => p.1 = j) = vals.map (j, ·) := by
          rw [List.filter_eq_self]
          rintro _ hmem
          obtain ⟨_, -, rfl⟩ := List.mem_map.mp hmem
          exact decide_eq_true rfl
        rw [hrest, hown, List.map_map, List.map_nil, List.append_nil]
        exact List.map_id vals
      · have hother : (vals.map (j, ·)).filter (fun p => p.1 = i) = [] := by
          rw [List.filter_eq_nil_iff]
          rintro _ hmem heq
          obtain ⟨_, -, rfl⟩ := List.mem_map.mp hmem
          exact hij (of_decide_eq_true heq)
        rw [hother, List.map_nil, List.nil_append]
        exact ih hids.2 ((List.mem_cons.mp hi).resolve_left (Ne.symm hij))

/-! ## Issued numbers -/

/-- The rows are numbered, each with a number of its own below the next one. -/
structure Issued (num : ρ → ℕ) (next : ℕ) (rows : List ρ) : Prop where
  nodup : KeysNodup num rows
  lt : ∀ r ∈ rows, num r < next

section Issued

variable {num : ρ → ℕ} {next next' : ℕ} {rows : List ρ} {r : ρ}

theorem issued_nil : Issued num next [] := ⟨keysNodup_nil, by simp⟩

theorem Issued.mono (h : Issued num next rows) (hle : next ≤ next') : Issued num next' rows :=
  ⟨h.nodup, fun r hr => (h.lt r hr).trans_le hle⟩

/-- A row with a new number. -/
theorem Issued.concat (h : Issued num next rows) (hle : next ≤ num r) (hlt : num r < next') :
    Issued num next' (rows ++ [r]) := by
  constructor
  · refine h.nodup.append (keysNodup_singleton r) ?_
    intro new hnew old hold
    rw [List.mem_singleton.mp hnew]
    exact ((h.lt old hold).trans_le hle).ne
  · intro row hrow
    rcases List.mem_append.mp hrow with hold | hnew
    · exact (h.lt row hold).trans (hle.trans_lt hlt)
    · rw [List.mem_singleton.mp hnew]
      exact hlt

end Issued

/-! ## The highest number -/

section MaxOf

variable {rows rows' : List ρ} {r : ρ} (num : ρ → ℕ)

/-- The highest number of a row, or zero. -/
def maxOf (num : ρ → ℕ) (rows : List ρ) : ℕ := (rows.map num).foldr max 0

@[simp]
theorem maxOf_nil : maxOf num [] = 0 := rfl

@[simp]
theorem maxOf_cons (r : ρ) (rows : List ρ) : maxOf num (r :: rows) = max (num r) (maxOf num rows) :=
  rfl

theorem maxOf_singleton (r : ρ) : maxOf num [r] = num r := max_eq_left (Nat.zero_le _)

theorem maxOf_append : maxOf num (rows ++ rows') = max (maxOf num rows) (maxOf num rows') := by
  induction rows with
  | nil => simp
  | cons r rows ih => rw [List.cons_append, maxOf_cons, maxOf_cons, ih, max_assoc]

variable {num}

theorem le_maxOf (h : r ∈ rows) : num r ≤ maxOf num rows := by
  induction rows with
  | nil => cases h
  | cons r' rows ih =>
      rw [maxOf_cons]
      rcases List.mem_cons.mp h with rfl | h
      · exact le_max_left _ _
      · exact (ih h).trans (le_max_right _ _)

theorem maxOf_le_iff {n : ℕ} : maxOf num rows ≤ n ↔ ∀ r ∈ rows, num r ≤ n := by
  induction rows with
  | nil => simp
  | cons r rows ih => rw [maxOf_cons, Nat.max_le, ih, List.forall_mem_cons]

theorem maxOf_congr {num' : ρ → ℕ} (h : ∀ r ∈ rows, num r = num' r) :
    maxOf num rows = maxOf num' rows := by
  rw [maxOf, maxOf, List.map_congr_left h]

/-- Rows that are left out count as zero. -/
theorem maxOf_filter (p : ρ → Bool) :
    maxOf num (rows.filter p) = maxOf (fun r => if p r then num r else 0) rows := by
  induction rows with
  | nil => rfl
  | cons r rows ih =>
      rw [List.filter_cons, maxOf_cons, ← ih]
      cases p r <;> simp

end MaxOf

/-! ## Counting by key -/

theorem countP_le_add {p : ρ → Bool} (q : ρ → Bool) (rows : List ρ) :
    rows.countP p ≤ rows.countP q + rows.countP (fun r => p r && !q r) := by
  induction rows with
  | nil => exact le_rfl
  | cons r rows ih =>
      rw [List.countP_cons, List.countP_cons, List.countP_cons]
      cases p r <;> cases q r <;> simp <;> omega

/-- Rows whose keys are among some, with a bound on how many have the same one. -/
theorem countP_le_mul (key : ρ → Option ι) {rows : List ρ} {p : ρ → Bool} {n : ℕ}
    {ids : List ι} (hmem : ∀ r ∈ rows, p r = true → ∃ i ∈ ids, key r = some i)
    (hcount : ∀ i ∈ ids, rows.countP (fun r => key r = some i) ≤ n) :
    rows.countP p ≤ n * ids.length := by
  induction ids generalizing p with
  | nil =>
      rw [List.length_nil, Nat.mul_zero, Nat.le_zero, List.countP_eq_zero]
      intro r hr hp
      obtain ⟨i, hi, -⟩ := hmem r hr hp
      cases hi
  | cons i ids ih =>
      obtain ⟨hi, hids⟩ := List.forall_mem_cons.mp hcount
      -- the rows with the first key, and the others
      have hsplit : rows.countP p ≤ rows.countP (fun r => key r = some i) +
          rows.countP (fun r => p r && !decide (key r = some i)) :=
        countP_le_add _ rows
      have hothers : rows.countP (fun r => p r && !decide (key r = some i)) ≤
          n * ids.length := by
        refine ih (fun r hr hp => ?_) hids
        simp only [Bool.and_eq_true, Bool.not_eq_true', decide_eq_false_iff_not] at hp
        obtain ⟨j, hj, hkey⟩ := hmem r hr hp.1
        rcases List.mem_cons.mp hj with rfl | hmem'
        · exact absurd hkey hp.2
        · exact ⟨j, hmem', hkey⟩
      rw [List.length_cons, Nat.mul_succ]
      omega

end Table
