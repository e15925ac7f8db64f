import LaunchOS.Lib.Table
import Mathlib.Data.List.Induction

/-!
# Versions

Rows that are numbered from one in the order in which they are added, where each new number comes from
the highest one, and where each row names the one before it.

The module introduces:

* `Numbered num rows`: the rows have the numbers `1`, `2` and so on, in order;
* `Linked ident prior rows`: each row names the one before it, the first names none;
* `Numbered.maxOf_eq`, `Numbered.find_highest`: the highest number is the length, and its row the last;
* `Numbered.concat`, `Linked.concat`: one more row.
-/

namespace Versions

variable {ρ ι : Type*} {num : ρ → ℕ} {ident : ρ → ι} {prior : ρ → Option ι}
variable {rows : List ρ} {r : ρ}

/-- The numbers of the rows are `1`, `2` and so on. -/
def Numbered (num : ρ → ℕ) (rows : List ρ) : Prop :=
  rows.map num = List.range' 1 rows.length

instance (num : ρ → ℕ) (rows : List ρ) : Decidable (Numbered num rows) := by
  unfold Numbered
  infer_instance

/-- Each row names the row before it. -/
def Linked (ident : ρ → ι) (prior : ρ → Option ι) (rows : List ρ) : Prop :=
  ∀ k r, rows[k]? = some r → prior r = (rows.take k).getLast?.map ident

/-! ## Numbers -/

@[simp]
theorem numbered_nil : Numbered num [] := rfl

/-- A row with the next number. -/
theorem Numbered.concat (h : Numbered num rows) (hnum : num r = rows.length + 1) :
    Numbered num (rows ++ [r]) := by
  have hone : rows.length + 1 = 1 + 1 * rows.length := by omega
  rw [Numbered, List.map_append, List.length_append, List.length_singleton, List.range'_concat, h,
    List.map_singleton, hnum, hone]

/-- The row at a place has the number of the place. -/
theorem Numbered.num_eq (h : Numbered num rows) {k : ℕ} (hk : rows[k]? = some r) :
    num r = k + 1 := by
  have hmap : (rows.map num)[k]? = some (num r) := by rw [List.getElem?_map, hk, Option.map_some]
  obtain ⟨hlt, -⟩ := List.getElem?_eq_some_iff.mp hk
  rw [h, List.getElem?_range' hlt] at hmap
  have hnum := Option.some.inj hmap
  omega

theorem Numbered.num_le (h : Numbered num rows) (hr : r ∈ rows) : num r ≤ rows.length := by
  obtain ⟨k, hk⟩ := List.mem_iff_getElem?.mp hr
  obtain ⟨hlt, -⟩ := List.getElem?_eq_some_iff.mp hk
  rw [h.num_eq hk]
  exact hlt

/-- A change of the rows that leaves their numbers alone. -/
theorem numbered_map_iff {f : ρ → ρ} (hf : ∀ r, num (f r) = num r) :
    Numbered num (rows.map f) ↔ Numbered num rows := by
  have hnums : (rows.map f).map num = rows.map num := by
    rw [List.map_map]
    exact List.map_congr_left fun r _ => hf r
  rw [Numbered, Numbered, hnums, List.length_map]

theorem Numbered.keysNodup (h : Numbered num rows) : Table.KeysNodup num rows := by
  rw [Table.KeysNodup, h]
  exact List.nodup_range'

/-- The highest number is that of the last row. -/
theorem Numbered.maxOf_eq (h : Numbered num rows) : Table.maxOf num rows = rows.length := by
  induction rows using List.reverseRecOn with
  | nil => rfl
  | append_singleton rows r ih =>
      have hnum : num r = rows.length + 1 := h.num_eq (k := rows.length) (by simp)
      have hrows : Numbered num rows := by
        have hlength : rows.length + 1 = 1 + 1 * rows.length := by omega
        rw [Numbered, List.map_append, List.length_append, List.length_singleton,
          List.range'_concat] at h
        exact (List.append_inj' h rfl).1
      rw [Table.maxOf_append, Table.maxOf_singleton, ih hrows, hnum, List.length_append,
        List.length_singleton]
      exact max_eq_right (Nat.le_succ _)

/-- What has the highest number is the last row. -/
theorem Numbered.find_highest (h : Numbered num rows) :
    rows.find? (fun r => num r = Table.maxOf num rows) = rows.getLast? := by
  rw [h.maxOf_eq]
  cases hlast : rows.getLast? with
  | none =>
      rw [List.getLast?_eq_none_iff.mp hlast]
      rfl
  | some last =>
      have hmem : last ∈ rows := List.mem_of_getLast? hlast
      have hnum : num last = rows.length := by
        rw [List.getLast?_eq_getElem?] at hlast
        have hpos : 0 < rows.length := List.length_pos_of_mem hmem
        have hnum := h.num_eq hlast
        omega
      have hfind := h.keysNodup.find_eq_some_iff (i := num last).mpr ⟨hmem, rfl⟩
      rw [← hnum]
      exact hfind

/-! ## Links -/

@[simp]
theorem linked_nil : Linked ident prior [] := by
  intro k r hk
  cases hk

/-- A row that names the last one. -/
theorem Linked.concat (h : Linked ident prior rows) (hprior : prior r = rows.getLast?.map ident) :
    Linked ident prior (rows ++ [r]) := by
  intro k row hk
  rcases lt_trichotomy k rows.length with hlt | rfl | hgt
  · rw [List.getElem?_append_left hlt] at hk
    rw [List.take_append_of_le_length hlt.le]
    exact h k row hk
  · rw [List.getElem?_append_right le_rfl, Nat.sub_self] at hk
    obtain rfl : r = row := Option.some.inj hk
    rw [List.take_append_of_le_length le_rfl, List.take_length]
    exact hprior
  · have hnone : (rows ++ [r])[k]? = none := by
      rw [List.getElem?_eq_none_iff, List.length_append, List.length_singleton]
      exact hgt
    rw [hnone] at hk
    cases hk

/-- A change of the rows that leaves their names alone. -/
theorem linked_map_iff {f : ρ → ρ} (hident : ∀ r, ident (f r) = ident r)
    (hprior : ∀ r, prior (f r) = prior r) :
    Linked ident prior (rows.map f) ↔ Linked ident prior rows := by
  have hlast : ∀ k, ((rows.map f).take k).getLast?.map ident =
      (rows.take k).getLast?.map ident := by
    intro k
    rw [← List.map_take, List.getLast?_map, Option.map_map]
    exact congrArg (fun g => Option.map g _) (funext hident)
  constructor
  · intro h k r hk
    have hmapped : (rows.map f)[k]? = some (f r) := by rw [List.getElem?_map, hk, Option.map_some]
    rw [← hprior r, h k (f r) hmapped, hlast]
  · intro h k r hk
    rw [List.getElem?_map] at hk
    obtain ⟨row, hrow, rfl⟩ := Option.map_eq_some_iff.mp hk
    rw [hprior row, h k row hrow, hlast]

end Versions
