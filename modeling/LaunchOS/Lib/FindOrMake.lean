import LaunchOS.Lib.Txn
import Mathlib.Data.List.Nodup

/-!
# Loops that find rows or make them

A loop over keys that collects the row of each key, where a row is made if there is none.

The module introduces:

* `Txn.FindOrMake`: one round of the loop;
* `Txn.Grown`: the rows that were made, one after another;
* `Txn.Ensures.foldlM_made`: the loop where there are no rows yet;
* `Txn.Ensures.foldlM_found`: the loop where all of them are there.
-/

namespace Txn

universe u v

variable {ε : Type v} {σ ρ κ : Type u}

/-- The row of the key among the rows of `s`, or a new one. -/
inductive FindOrMake (mine : σ → List ρ) (key : ρ → κ) (grow : σ → ρ → σ → Prop) (k : κ) (s : σ) :
    ρ → σ → Prop
  | found {row : ρ} (hmem : row ∈ mine s) (hkey : key row = k) : FindOrMake mine key grow k s row s
  | made {row : ρ} {s' : σ} (hnew : ∀ old ∈ mine s, key old ≠ k) (hkey : key row = k)
      (hgrow : grow s row s') : FindOrMake mine key grow k s row s'

/-- Rows that are made one after another. -/
inductive Grown (grow : σ → ρ → σ → Prop) (s : σ) : List ρ → σ → Prop
  | nil : Grown grow s [] s
  | snoc {rows : List ρ} {row : ρ} {s' s'' : σ} (h : Grown grow s rows s')
      (hgrow : grow s' row s'') : Grown grow s (rows ++ [row]) s''

/-- The invariant rule for rows that are made. -/
theorem Grown.induct {grow : σ → ρ → σ → Prop} {I : List ρ → σ → Prop} {s s' : σ} {rows : List ρ}
    (h : Grown grow s rows s') (hnil : I [] s)
    (hsnoc : ∀ rows row s' s'', I rows s' → grow s' row s'' → I (rows ++ [row]) s'') :
    I rows s' := by
  induction h with
  | nil => exact hnil
  | snoc _ hgrow ih => exact hsnoc _ _ _ _ ih hgrow

/-- Lists over the same rows with the same keys are the same if the keys tell the rows apart. -/
theorem eq_of_map_eq {α β : Type*} {f : α → β} {xs ys : List α} (hsub : ∀ x ∈ xs, x ∈ ys)
    (hmap : xs.map f = ys.map f) (hnodup : (ys.map f).Nodup) : xs = ys := by
  have hlength : xs.length = ys.length := by simpa using congrArg List.length hmap
  refine List.ext_getElem hlength fun i hi hi' => ?_
  refine List.inj_on_of_nodup_map hnodup (hsub _ (List.getElem_mem hi)) (List.getElem_mem hi') ?_
  have hget : (xs.map f)[i]? = (ys.map f)[i]? := by rw [hmap]
  simpa [hi, hi'] using hget

variable {mine : σ → List ρ} {key : ρ → κ} {grow : σ → ρ → σ → Prop}
variable {make : κ → StateT σ (Except ε) ρ}

/-- Without rows, every round makes one. -/
theorem Ensures.foldlM_made (hmake : ∀ k s, Ensures (make k) (FindOrMake mine key grow k s) s)
    (hmine : ∀ s row s', grow s row s' → mine s' = mine s ++ [row]) {keys : List κ}
    (hnodup : keys.Nodup) {s : σ} (hnone : mine s = []) :
    Ensures (keys.foldlM (fun rows k => do return rows ++ [← make k]) []) (fun (rows : List ρ) s' =>
      rows.map key = keys ∧ mine s' = rows ∧ Grown grow s rows s') s := by
  refine Ensures.foldlM_prefix (I := fun done (rows : List ρ) s' =>
    rows.map key = done ∧ mine s' = rows ∧ Grown grow s rows s') ?_ ⟨rfl, hnone, .nil⟩
  rintro pre k post rfl rows s₁ ⟨hkeys, hrows, hgrown⟩
  rw [ensures_bind]
  refine (hmake k s₁).mono fun row s₂ hrow => ?_
  rw [ensures_pure]
  cases hrow with
  | found hmem hkey =>
      -- the keys are different ones
      have hdone : k ∈ pre := by
        rw [← hkeys, ← hkey, ← hrows]
        exact List.mem_map_of_mem hmem
      rw [List.nodup_append] at hnodup
      exact absurd rfl (hnodup.2.2 k hdone k List.mem_cons_self)
  | made hnew hkey hgrow =>
      refine ⟨by rw [List.map_append, hkeys, List.map_singleton, hkey], ?_, .snoc hgrown hgrow⟩
      rw [hmine s₁ row s₂ hgrow, hrows]

/-- With all of the rows, every round finds one. -/
theorem Ensures.foldlM_found (hmake : ∀ k s, Ensures (make k) (FindOrMake mine key grow k s) s)
    {keys : List κ} (hnodup : keys.Nodup) {s : σ} (hall : (mine s).map key = keys) :
    Ensures (keys.foldlM (fun rows k => do return rows ++ [← make k]) [])
      (fun (rows : List ρ) s' => s' = s ∧ rows = mine s) s := by
  have hloop : Ensures (keys.foldlM (fun rows k => do return rows ++ [← make k]) [])
      (fun (rows : List ρ) s' => s' = s ∧ rows.map key = keys ∧ ∀ row ∈ rows, row ∈ mine s) s := by
    refine Ensures.foldlM_prefix (I := fun done (rows : List ρ) s' =>
      s' = s ∧ rows.map key = done ∧ ∀ row ∈ rows, row ∈ mine s) ?_ ⟨rfl, rfl, by simp⟩
    rintro pre k post hkeys rows _ ⟨rfl, hdone, hmem⟩
    rw [ensures_bind]
    refine (hmake k _).mono fun row s₂ hrow => ?_
    rw [ensures_pure]
    cases hrow with
    | found hmine hkey =>
        refine ⟨rfl, by rw [List.map_append, hdone, List.map_singleton, hkey], fun old hold => ?_⟩
        rcases List.mem_append.mp hold with hold | hold
        · exact hmem old hold
        · rwa [List.mem_singleton.mp hold]
    | made hnew =>
        have hk : k ∈ keys := by
          rw [hkeys]
          exact List.mem_append_right _ List.mem_cons_self
        rw [← hall] at hk
        obtain ⟨old, hold, hkey⟩ := List.mem_map.mp hk
        exact absurd hkey (hnew old hold)
  refine hloop.mono ?_
  rintro rows s' ⟨hs, hkeys, hmem⟩
  exact ⟨hs, eq_of_map_eq hmem (hkeys.trans hall.symm) (hall ▸ hnodup)⟩

end Txn
