import Mathlib.Data.List.Infix
import Mathlib.Order.Defs.Unbundled

/-!
# Guarded runs of a deterministic labelled system

A system is a function `step : α → σ → σ` that answers every action in every state; an action
that is not enabled leaves the state alone. A run is a list of actions. A guard `G : σ → α → Prop`
restricts a run step by step: `Guarded step G s as` says that every action of `as`, taken in the
state it meets, satisfies `G`.

The module introduces:

* `run` and `Guarded`, with their append lemmas;
* `invariant_run`: what every guarded step preserves holds at the end of every guarded run;
* `relation_run`: a preorder that contains every guarded step contains every guarded run;
* `invariant_run_of_step`, `relation_run_of_step`: the same rules for runs without a guard;
* `exists_step_of_run`: what does not hold at first and holds in the end becomes true in some step;
* `countSteps` and `countSteps_add_le`: a rank that such steps raise bounds how many there are.
-/

namespace Transition

variable {α σ : Type*}

/-- The state after taking the actions `as` one after another from `s`. -/
def run (step : α → σ → σ) (s : σ) (as : List α) : σ :=
  as.foldl (fun s a => step a s) s

/-- Every action of `as` satisfies the guard `G` in the state the run takes it in. -/
def Guarded (step : α → σ → σ) (G : σ → α → Prop) : σ → List α → Prop
  | _, [] => True
  | s, a :: as => G s a ∧ Guarded step G (step a s) as

/-- On a concrete run a decidable guard can be evaluated. -/
instance Guarded.decidable (step : α → σ → σ) (G : σ → α → Prop) [∀ s a, Decidable (G s a)] :
    (s : σ) → (as : List α) → Decidable (Guarded step G s as)
  | _, [] => isTrue trivial
  | s, a :: as =>
      have := Guarded.decidable step G (step a s) as
      inferInstanceAs (Decidable (G s a ∧ Guarded step G (step a s) as))

section Basic

variable (step : α → σ → σ)

@[simp]
theorem run_nil (s : σ) : run step s [] = s := rfl

@[simp]
theorem run_cons (s : σ) (a : α) (as : List α) :
    run step s (a :: as) = run step (step a s) as := rfl

theorem run_append (s : σ) (as bs : List α) :
    run step s (as ++ bs) = run step (run step s as) bs :=
  List.foldl_append

@[simp]
theorem guarded_nil (G : σ → α → Prop) (s : σ) : Guarded step G s [] := trivial

@[simp]
theorem guarded_cons (G : σ → α → Prop) (s : σ) (a : α) (as : List α) :
    Guarded step G s (a :: as) ↔ G s a ∧ Guarded step G (step a s) as := Iff.rfl

theorem guarded_append (G : σ → α → Prop) (s : σ) (as bs : List α) :
    Guarded step G s (as ++ bs) ↔
      Guarded step G s as ∧ Guarded step G (run step s as) bs := by
  induction as generalizing s with
  | nil => simp
  | cons a as ih => simp [ih, and_assoc]

end Basic

variable {step : α → σ → σ}

/-- A run is guarded if each action is, in the state that the actions before it lead to. -/
theorem guarded_iff_forall_before {G : σ → α → Prop} {s : σ} {as : List α} :
    Guarded step G s as ↔ ∀ before a, before ++ [a] <+: as → G (run step s before) a := by
  induction as using List.reverseRecOn with
  | nil => simp
  | append_singleton as a ih =>
      rw [guarded_append, ih]
      constructor
      · rintro ⟨hold, hlast, -⟩ before b hbefore
        rcases List.prefix_concat_iff.mp hbefore with heq | hprefix
        · obtain ⟨rfl, hlist⟩ := List.append_inj' heq rfl
          obtain rfl := List.singleton_inj.mp hlist
          exact hlast
        · exact hold before b hprefix
      · intro h
        exact ⟨fun before b hbefore => h before b (hbefore.trans (List.prefix_append _ _)),
          h as a (List.prefix_refl _), trivial⟩

/-- A stronger guard admits fewer runs. -/
theorem Guarded.mono {G G' : σ → α → Prop} (hG : ∀ s a, G s a → G' s a) {s : σ} {as : List α}
    (h : Guarded step G s as) : Guarded step G' s as := by
  induction as generalizing s with
  | nil => trivial
  | cons a as ih => exact ⟨hG s a h.1, ih h.2⟩

/-- A guard that admits the actions of a run in every state admits the run. -/
theorem guarded_of_forall_mem {G : σ → α → Prop} {as : List α} (hG : ∀ a ∈ as, ∀ s, G s a)
    (s : σ) : Guarded step G s as := by
  induction as generalizing s with
  | nil => trivial
  | cons a as ih =>
      exact ⟨hG a List.mem_cons_self s, ih (fun b hb => hG b (List.mem_cons_of_mem a hb)) _⟩

/-- The unrestricted guard admits every run. -/
theorem guarded_of_forall {G : σ → α → Prop} (hG : ∀ s a, G s a) (s : σ) (as : List α) :
    Guarded step G s as :=
  guarded_of_forall_mem (fun a _ s => hG s a) s

/-- The invariant rule: what every guarded step preserves, every guarded run preserves. -/
theorem invariant_run {G : σ → α → Prop} {I : σ → Prop}
    (hstep : ∀ s a, I s → G s a → I (step a s)) {s : σ} {as : List α}
    (hs : I s) (hg : Guarded step G s as) : I (run step s as) := by
  induction as generalizing s with
  | nil => exact hs
  | cons a as ih => exact ih (hstep s a hs hg.1) hg.2

/-- The invariant rule for runs without a guard. -/
theorem invariant_run_of_step (step : α → σ → σ) {I : σ → Prop}
    (hstep : ∀ s a, I s → I (step a s)) {s : σ} (hs : I s) (as : List α) : I (run step s as) :=
  invariant_run (G := fun _ _ => True) (fun s a h _ => hstep s a h) hs
    (guarded_of_forall (fun _ _ => trivial) s as)

/-- The relation rule: a reflexive and transitive relation that contains every guarded step
from an invariant state relates the two ends of every guarded run. -/
theorem relation_run {G : σ → α → Prop} {I : σ → Prop} {R : σ → σ → Prop}
    (hrefl : ∀ s, R s s) (htrans : ∀ s t u, R s t → R t u → R s u)
    (hinv : ∀ s a, I s → G s a → I (step a s))
    (hstep : ∀ s a, I s → G s a → R s (step a s)) {s : σ} {as : List α}
    (hs : I s) (hg : Guarded step G s as) : R s (run step s as) := by
  induction as generalizing s with
  | nil => exact hrefl s
  | cons a as ih => exact htrans _ _ _ (hstep s a hs hg.1) (ih (hinv s a hs hg.1) hg.2)

/-- The relation rule for runs without a guard. -/
theorem relation_run_of_step (step : α → σ → σ) {R : σ → σ → Prop} (hrefl : ∀ s, R s s)
    (htrans : ∀ s t u, R s t → R t u → R s u) (hstep : ∀ s a, R s (step a s)) (s : σ)
    (as : List α) : R s (run step s as) :=
  relation_run (G := fun _ _ => True) (I := fun _ => True) hrefl htrans
    (fun _ _ _ _ => trivial) (fun s a _ _ => hstep s a) trivial
    (guarded_of_forall (fun _ _ => trivial) s as)

/-- The step in which something becomes true. -/
theorem exists_step_of_run (P : σ → Prop) {s : σ} {as : List α} (hs : ¬ P s)
    (h : P (run step s as)) : ∃ before a after, as = before ++ a :: after ∧
      ¬ P (run step s before) ∧ P (step a (run step s before)) := by
  induction as generalizing s with
  | nil => exact absurd h hs
  | cons a as ih =>
      by_cases hstep : P (step a s)
      · exact ⟨[], a, as, rfl, hs, hstep⟩
      · obtain ⟨before, b, after, rfl, hbefore, hafter⟩ := ih hstep h
        exact ⟨a :: before, b, after, rfl, hbefore, hafter⟩

/-- How many steps of a run go from a state to the next as `P` says. -/
def countSteps (step : α → σ → σ) (P : σ → σ → Bool) : σ → List α → ℕ
  | _, [] => 0
  | s, a :: as => (if P s (step a s) then 1 else 0) + countSteps step P (step a s) as

/-- The rank rule: no step lowers the rank, and those that are counted raise it. -/
theorem countSteps_add_le (step : α → σ → σ) {P : σ → σ → Bool} {I : σ → Prop} (rank : σ → ℕ)
    (hinv : ∀ s a, I s → I (step a s))
    (hrank : ∀ s a, I s → rank s + (if P s (step a s) then 1 else 0) ≤ rank (step a s)) {s : σ}
    (hs : I s) (as : List α) : rank s + countSteps step P s as ≤ rank (run step s as) := by
  induction as generalizing s with
  | nil => exact le_rfl
  | cons a as ih =>
      have hstep := hrank s a hs
      have hrest := ih (hinv s a hs)
      rw [run_cons, countSteps]
      omega

end Transition
