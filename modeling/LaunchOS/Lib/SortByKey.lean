import Mathlib.Data.List.MinMax
import Mathlib.Data.List.Sort
import Mathlib.Data.Prod.Lex

/-!
# Sorting by a key

The stable sort by a key that is computed from the elements, and the cut of what is sorted.

The module introduces:

* `sortByKey`: the elements in the order of their keys;
* `sortByKey_eq_of_perm`: the order of the input does not matter where keys tell elements apart;
* `eq_of_perm_of_keys`: distinct keys in a known order say where every element stands;
* `mem_take_sortByKey_iff`: an element is among the first `n` if fewer than `n` have a smaller key;
* `exists_mem_take_sortByKey`: a kind of elements that few others come before is among the first `n`.
-/

namespace Sorting

variable {α κ : Type*} [LinearOrder κ] {key : α → κ} {xs ys : List α}

/-- The elements in the order of their keys; those with the same key keep their order. -/
def sortByKey (key : α → κ) (xs : List α) : List α := xs.insertionSort fun a b => key a ≤ key b

/-- The key tells the elements of the list apart. -/
def KeyInjective (key : α → κ) (xs : List α) : Prop :=
  ∀ a ∈ xs, ∀ b ∈ xs, key a = key b → a = b

theorem perm_sortByKey (key : α → κ) (xs : List α) : (sortByKey key xs).Perm xs :=
  List.perm_insertionSort _ xs

@[simp]
theorem mem_sortByKey {x : α} : x ∈ sortByKey key xs ↔ x ∈ xs :=
  (perm_sortByKey key xs).mem_iff

theorem pairwise_sortByKey (key : α → κ) (xs : List α) :
    (sortByKey key xs).Pairwise fun a b => key a ≤ key b :=
  haveI : Std.Total fun a b : α => key a ≤ key b := ⟨fun a b => le_total (key a) (key b)⟩
  haveI : IsTrans α fun a b => key a ≤ key b := ⟨fun _ _ _ h h' => h.trans h'⟩
  List.pairwise_insertionSort _ xs

theorem KeyInjective.perm (hinj : KeyInjective key xs) (h : xs.Perm ys) : KeyInjective key ys :=
  fun a ha b hb => hinj a (h.mem_iff.mpr ha) b (h.mem_iff.mpr hb)

/-- Two lists of the same elements are sorted alike if the key tells the elements apart. -/
theorem sortByKey_eq_of_perm (hinj : KeyInjective key xs) (h : xs.Perm ys) :
    sortByKey key xs = sortByKey key ys := by
  have hperm : (sortByKey key xs).Perm (sortByKey key ys) :=
    (perm_sortByKey key xs).trans (h.trans (perm_sortByKey key ys).symm)
  refine hperm.eq_of_pairwise ?_ (pairwise_sortByKey key xs) (pairwise_sortByKey key ys)
  intro a b ha hb hab hba
  exact hinj a (mem_sortByKey.mp ha) b (h.mem_iff.mpr (mem_sortByKey.mp hb)) (hab.antisymm hba)

omit [LinearOrder κ] in
/-- Two lists of the same elements whose distinct keys stand in the same order are the same. -/
theorem eq_of_perm_of_keys (h : xs.Perm ys) (hkeys : xs.map key = ys.map key)
    (hnodup : (xs.map key).Nodup) : xs = ys := by
  apply List.ext_getElem h.length_eq
  intro i hx hy
  have hkey : key xs[i] = key ys[i] := by
    have hget : (xs.map key)[i]? = (ys.map key)[i]? := by rw [hkeys]
    simpa [hx, hy] using hget
  exact List.inj_on_of_nodup_map hnodup (List.getElem_mem hx)
    (h.mem_iff.mpr (List.getElem_mem hy)) hkey

/-- The first elements of a sorted list are those with few smaller keys. -/
theorem mem_take_iff_of_pairwise (hinj : KeyInjective key xs)
    (hsorted : xs.Pairwise fun a b => key a ≤ key b) {x : α} {n : ℕ} :
    x ∈ xs.take n ↔ x ∈ xs ∧ xs.countP (fun y => key y < key x) < n := by
  induction xs generalizing n with
  | nil => simp
  | cons y xs ih =>
      have hrest : KeyInjective key xs := fun a ha b hb =>
        hinj a (List.mem_cons_of_mem y ha) b (List.mem_cons_of_mem y hb)
      obtain ⟨hfirst, hsorted⟩ := List.pairwise_cons.mp hsorted
      cases n with
      | zero => simp
      | succ n =>
          rw [List.take_succ_cons, List.mem_cons, List.mem_cons, List.countP_cons,
            ih hrest hsorted]
          by_cases heq : x = y
          · -- nothing stands before the first element
            subst heq
            have hnone : xs.countP (fun z => key z < key x) = 0 := by
              rw [List.countP_eq_zero]
              intro z hz
              simpa using hfirst z hz
            simp [hnone]
          · by_cases hmem : x ∈ xs
            · have hlt : key y < key x := by
                refine lt_of_le_of_ne (hfirst x hmem) fun hkey => heq ?_
                exact hinj x (List.mem_cons_of_mem y hmem) y List.mem_cons_self hkey.symm
              simp [heq, hmem, hlt]
            · simp [heq, hmem]

/-- The same for the list before it is sorted. -/
theorem mem_take_sortByKey_iff (hinj : KeyInjective key xs) {x : α} {n : ℕ} :
    x ∈ (sortByKey key xs).take n ↔ x ∈ xs ∧ xs.countP (fun y => key y < key x) < n := by
  rw [mem_take_iff_of_pairwise (hinj.perm (perm_sortByKey key xs).symm)
    (pairwise_sortByKey key xs), mem_sortByKey, (perm_sortByKey key xs).countP_eq]

/-- If only elements with `q` come before those with `p`, and fewer than `n` have it, then the first `n`
elements have one with `p` among them. -/
theorem exists_mem_take_sortByKey {p q : α → Prop} [DecidablePred p] [DecidablePred q] {n : ℕ}
    (hinj : KeyInjective key xs) (hp : ∃ x ∈ xs, p x)
    (hbelow : ∀ x ∈ xs, p x → ∀ y ∈ xs, key y < key x → p y ∨ q y)
    (hcount : xs.countP (fun y => q y) < n) : ∃ x ∈ (sortByKey key xs).take n, p x := by
  have hsome : (xs.filter fun x => p x).argmin key ≠ none := by
    obtain ⟨x, hx, hpx⟩ := hp
    rw [Ne, List.argmin_eq_none]
    exact List.ne_nil_of_mem (List.mem_filter.mpr ⟨hx, decide_eq_true hpx⟩)
  obtain ⟨least, hleast⟩ := Option.ne_none_iff_exists'.mp hsome
  have hmem := List.mem_filter.mp (List.argmin_mem hleast)
  have hpleast : p least := of_decide_eq_true hmem.2
  refine ⟨least, (mem_take_sortByKey_iff hinj).mpr ⟨hmem.1, lt_of_le_of_lt ?_ hcount⟩, hpleast⟩
  refine List.countP_mono_left fun y hy hlt => ?_
  have hbefore : key y < key least := of_decide_eq_true hlt
  -- the least of its kind has none of its kind before it
  rcases hbelow least hmem.1 hpleast y hy hbefore with hpy | hqy
  · have hfiltered : y ∈ xs.filter fun x => p x := List.mem_filter.mpr ⟨hy, decide_eq_true hpy⟩
    exact absurd (List.le_of_mem_argmin hfiltered hleast) (not_le.mpr hbefore)
  · exact decide_eq_true hqy

end Sorting
