import Mathlib.Order.Defs.Unbundled

/-!
# Transactions

A transaction on a state `σ` either fails, and then has no effect, or returns a value and a new
state: it is a `StateT σ (Except ε)` computation.

The module introduces:

* `Except.bind_eq_ok_iff`, for computations that only read;
* `Txn.Ensures m Q s`: whenever `m` succeeds from `s`, its result and its final state satisfy `Q`,
  with one rule for each way of building a transaction, so that rewriting with the rules reduces a
  goal about a `do` block to goals about the transactions it calls;
* `Txn.Ensures.foldlM`, `Txn.Ensures.foldlM_prefix`: the invariant rules for loops;
* `Txn.Achieves m Q s`: `m` succeeds from `s`, with `Q`;
* `Txn.Within R m`: every run of `m` that succeeds ends in a state that `R` relates to the one it
  started from, with one rule for each way of building a transaction, for a preorder `R`;
* `Txn.exec`: the final state alone.
-/

universe u v

variable {ε : Type v} {σ α β : Type u}

theorem Except.bind_eq_ok_iff {x : Except ε α} {f : α → Except ε β} {b : β} :
    (x >>= f) = .ok b ↔ ∃ a, x = .ok a ∧ f a = .ok b := by
  cases x with
  | error e => simp [bind, Except.bind]
  | ok a => simp [bind, Except.bind]

theorem Except.pure_eq_ok_iff {a b : α} : (pure a : Except ε α) = .ok b ↔ a = b := by
  simp [pure, Except.pure]

theorem Except.map_eq_ok_iff {x : Except ε α} {f : α → β} {b : β} :
    x.map f = .ok b ↔ ∃ a, x = .ok a ∧ f a = b := by
  cases x with
  | error e => simp [Except.map]
  | ok a => simp [Except.map]

/-- A loop of checks succeeds if every one of them does. -/
theorem Except.forM_eq_ok_iff {xs : List α} {f : α → Except ε PUnit} {u : PUnit} :
    xs.forM f = .ok u ↔ ∀ x ∈ xs, f x = .ok ⟨⟩ := by
  induction xs with
  | nil => simp [pure, Except.pure]
  | cons x xs ih =>
      change (f x >>= fun _ => xs.forM f) = _ ↔ _
      rw [Except.bind_eq_ok_iff]
      simp only [ih, List.mem_cons, forall_eq_or_imp]
      constructor
      · rintro ⟨_, hx, hxs⟩
        exact ⟨hx, hxs⟩
      · rintro ⟨hx, hxs⟩
        exact ⟨_, hx, hxs⟩

namespace Txn

/-- If `m` succeeds from `s`, then `Q` holds of its result and its final state. -/
def Ensures (m : StateT σ (Except ε) α) (Q : α → σ → Prop) (s : σ) : Prop :=
  ∀ a s', m s = .ok (a, s') → Q a s'

section Rules

variable {Q : α → σ → Prop} {s : σ}

theorem ensures_pure (a : α) : Ensures (pure a : StateT σ (Except ε) α) Q s ↔ Q a s := by
  constructor
  · intro h
    exact h a s rfl
  · rintro h a' s' ⟨⟩
    exact h

theorem ensures_bind (m : StateT σ (Except ε) α) (f : α → StateT σ (Except ε) β)
    {Q : β → σ → Prop} :
    Ensures (m >>= f) Q s ↔ Ensures m (fun a s' => Ensures (f a) Q s') s := by
  constructor
  · intro h a s' hm b s'' hf
    refine h b s'' ?_
    change (m s >>= fun p => f p.1 p.2) = _
    rw [hm]
    exact hf
  · intro h b s'' hbind
    obtain ⟨⟨a, s'⟩, hm, hf⟩ := Except.bind_eq_ok_iff.mp hbind
    exact h a s' hm b s'' hf

theorem ensures_map (m : StateT σ (Except ε) α) (f : α → β) {Q : β → σ → Prop} :
    Ensures (f <$> m) Q s ↔ Ensures m (fun a s' => Q (f a) s') s := by
  rw [map_eq_pure_bind, ensures_bind]
  simp only [ensures_pure]

theorem ensures_throw (e : ε) : Ensures (throw e : StateT σ (Except ε) α) Q s := by
  intro a s' h
  cases h

theorem ensures_get {Q : σ → σ → Prop} :
    Ensures (get : StateT σ (Except ε) σ) Q s ↔ Q s s := by
  constructor
  · intro h
    exact h s s rfl
  · rintro h a s' ⟨⟩
    exact h

theorem ensures_set (t : σ) {Q : PUnit → σ → Prop} :
    Ensures (set t : StateT σ (Except ε) PUnit) Q s ↔ Q ⟨⟩ t := by
  constructor
  · intro h
    exact h ⟨⟩ t rfl
  · rintro h a s' ⟨⟩
    exact h

theorem ensures_modify (f : σ → σ) {Q : PUnit → σ → Prop} :
    Ensures (modify f : StateT σ (Except ε) PUnit) Q s ↔ Q ⟨⟩ (f s) := by
  constructor
  · intro h
    exact h ⟨⟩ (f s) rfl
  · rintro h a s' ⟨⟩
    exact h

theorem ensures_lift (x : Except ε α) :
    Ensures (liftM x : StateT σ (Except ε) α) Q s ↔ ∀ a, x = .ok a → Q a s := by
  constructor
  · rintro h a rfl
    exact h a s rfl
  · intro h a s' hx
    obtain ⟨b, hb, hpair⟩ := Except.bind_eq_ok_iff.mp hx
    cases hpair
    exact h _ hb

theorem ensures_ite {c : Prop} [Decidable c] (m m' : StateT σ (Except ε) α) :
    Ensures (if c then m else m') Q s ↔
      (c → Ensures m Q s) ∧ (¬ c → Ensures m' Q s) := by
  split
  next h => simp [h]
  next h => simp [h]

end Rules

variable {m : StateT σ (Except ε) α} {Q Q' : α → σ → Prop} {s : σ}

theorem Ensures.mono (h : Ensures m Q s) (hQ : ∀ a s', Q a s' → Q' a s') : Ensures m Q' s :=
  fun a s' hm => hQ a s' (h a s' hm)

theorem Ensures.and (h : Ensures m Q s) (h' : Ensures m Q' s) :
    Ensures m (fun a s' => Q a s' ∧ Q' a s') s :=
  fun a s' hm => ⟨h a s' hm, h' a s' hm⟩

/-- What every round of a loop preserves of its accumulator and the state, the loop preserves. -/
theorem Ensures.foldlM {I : β → σ → Prop} {xs : List α} {f : β → α → StateT σ (Except ε) β}
    (hstep : ∀ x ∈ xs, ∀ b s, I b s → Ensures (f b x) I s) {b : β} {s : σ} (hs : I b s) :
    Ensures (xs.foldlM f b) I s := by
  induction xs generalizing b s with
  | nil =>
      rw [List.foldlM_nil]
      exact (ensures_pure b).mpr hs
  | cons x xs ih =>
      rw [List.foldlM_cons, ensures_bind]
      refine (hstep x List.mem_cons_self b s hs).mono fun b' s' hs' => ?_
      exact ih (fun y hy => hstep y (List.mem_cons_of_mem x hy)) hs'

/-- The same rule with an invariant that knows the part of the list the loop has gone through. -/
theorem Ensures.foldlM_prefix {I : List α → β → σ → Prop} {xs : List α}
    {f : β → α → StateT σ (Except ε) β}
    (hstep : ∀ pre x post, xs = pre ++ x :: post →
      ∀ b s, I pre b s → Ensures (f b x) (I (pre ++ [x])) s)
    {b : β} {s : σ} (hs : I [] b s) : Ensures (xs.foldlM f b) (I xs) s := by
  suffices hrest : ∀ post pre, xs = pre ++ post → ∀ b s, I pre b s →
      Ensures (post.foldlM f b) (I xs) s from hrest xs [] rfl b s hs
  intro post
  induction post with
  | nil =>
      rintro pre rfl b s h
      rw [List.foldlM_nil, ensures_pure, List.append_nil]
      exact h
  | cons x post ih =>
      intro pre hxs b s h
      rw [List.foldlM_cons, ensures_bind]
      refine (hstep pre x post hxs b s h).mono fun b' s' h' => ?_
      exact ih (pre ++ [x]) (by rw [hxs, List.append_cons]) b' s' h'

/-! ### Transactions that succeed -/

/-- `m` succeeds from `s`, and `Q` holds of its result and its final state. -/
def Achieves (m : StateT σ (Except ε) α) (Q : α → σ → Prop) (s : σ) : Prop :=
  ∃ a s', m s = .ok (a, s') ∧ Q a s'

section Achieves

theorem achieves_pure (a : α) : Achieves (pure a : StateT σ (Except ε) α) Q s ↔ Q a s := by
  constructor
  · rintro ⟨a', s', h, hQ⟩
    cases h
    exact hQ
  · intro h
    exact ⟨a, s, rfl, h⟩

theorem achieves_bind (m : StateT σ (Except ε) α) (f : α → StateT σ (Except ε) β)
    {Q : β → σ → Prop} :
    Achieves (m >>= f) Q s ↔ Achieves m (fun a s' => Achieves (f a) Q s') s := by
  constructor
  · rintro ⟨b, s'', hbind, hQ⟩
    obtain ⟨⟨a, s'⟩, hm, hf⟩ := Except.bind_eq_ok_iff.mp hbind
    exact ⟨a, s', hm, b, s'', hf, hQ⟩
  · rintro ⟨a, s', hm, b, s'', hf, hQ⟩
    refine ⟨b, s'', ?_, hQ⟩
    change (m s >>= fun p => f p.1 p.2) = _
    rw [hm]
    exact hf

theorem achieves_get {Q : σ → σ → Prop} :
    Achieves (get : StateT σ (Except ε) σ) Q s ↔ Q s s := by
  constructor
  · rintro ⟨a, s', h, hQ⟩
    cases h
    exact hQ
  · intro h
    exact ⟨s, s, rfl, h⟩

theorem achieves_modify (f : σ → σ) {Q : PUnit → σ → Prop} :
    Achieves (modify f : StateT σ (Except ε) PUnit) Q s ↔ Q ⟨⟩ (f s) := by
  constructor
  · rintro ⟨a, s', h, hQ⟩
    cases h
    exact hQ
  · intro h
    exact ⟨⟨⟩, f s, rfl, h⟩

theorem achieves_lift (x : Except ε α) :
    Achieves (liftM x : StateT σ (Except ε) α) Q s ↔ ∃ a, x = .ok a ∧ Q a s := by
  constructor
  · rintro ⟨a, s', h, hQ⟩
    obtain ⟨b, hb, hpair⟩ := Except.bind_eq_ok_iff.mp h
    cases hpair
    exact ⟨a, hb, hQ⟩
  · rintro ⟨a, rfl, hQ⟩
    exact ⟨a, s, rfl, hQ⟩

theorem Achieves.mono (h : Achieves m Q s) (hQ : ∀ a s', Q a s' → Q' a s') : Achieves m Q' s := by
  obtain ⟨a, s', hm, ha⟩ := h
  exact ⟨a, s', hm, hQ a s' ha⟩

/-- A transaction has one outcome. -/
theorem Achieves.ensures (h : Achieves m Q s) : Ensures m Q s := by
  intro a s' hm
  obtain ⟨b, t, hm', hQ⟩ := h
  cases hm.symm.trans hm'
  exact hQ

/-- The invariant rule for loops whose rounds all succeed. -/
theorem Achieves.foldlM_prefix {I : List α → β → σ → Prop} {xs : List α}
    {f : β → α → StateT σ (Except ε) β}
    (hstep : ∀ pre x post, xs = pre ++ x :: post →
      ∀ b s, I pre b s → Achieves (f b x) (I (pre ++ [x])) s)
    {b : β} {s : σ} (hs : I [] b s) : Achieves (xs.foldlM f b) (I xs) s := by
  suffices hrest : ∀ post pre, xs = pre ++ post → ∀ b s, I pre b s →
      Achieves (post.foldlM f b) (I xs) s from hrest xs [] rfl b s hs
  intro post
  induction post with
  | nil =>
      rintro pre rfl b s h
      rw [List.foldlM_nil, List.append_nil, achieves_pure]
      exact h
  | cons x post ih =>
      intro pre hxs b s h
      rw [List.foldlM_cons, achieves_bind]
      refine (hstep pre x post hxs b s h).mono fun b' s' h' => ?_
      exact ih (pre ++ [x]) (by rw [hxs, List.append_cons]) b' s' h'

end Achieves

/-! ### Relations -/

/-- Every run of `m` that succeeds ends in a state that `R` relates to the one it started from. -/
def Within (R : σ → σ → Prop) (m : StateT σ (Except ε) α) : Prop :=
  ∀ s, Ensures m (fun _ s' => R s s') s

section Within

variable {R : σ → σ → Prop}

theorem within_throw (e : ε) : Within R (throw e : StateT σ (Except ε) α) :=
  fun _ => ensures_throw e

theorem within_modify (f : σ → σ) (hf : ∀ s, R s (f s)) :
    Within R (modify f : StateT σ (Except ε) PUnit) :=
  fun s => (ensures_modify f).mpr (hf s)

theorem within_ite {c : Prop} [Decidable c] {m m' : StateT σ (Except ε) α}
    (hm : c → Within R m) (hm' : ¬ c → Within R m') : Within R (if c then m else m') :=
  fun s => (ensures_ite m m').mpr ⟨fun hc => hm hc s, fun hc => hm' hc s⟩

/-- A step that stays within `R`, and then the rest. -/
theorem Within.ensures_bind {m : StateT σ (Except ε) α} {f : α → StateT σ (Except ε) β}
    {Q : β → σ → Prop} {s : σ} (hm : Within R m)
    (hf : ∀ a s', R s s' → Ensures (f a) Q s') : Ensures (m >>= f) Q s := by
  rw [Txn.ensures_bind]
  exact (hm s).mono hf

variable [IsPreorder σ R]

theorem within_pure (a : α) : Within R (pure a : StateT σ (Except ε) α) :=
  fun s => (ensures_pure a).mpr (refl s)

theorem within_get : Within R (get : StateT σ (Except ε) σ) :=
  fun s => ensures_get.mpr (refl s)

theorem within_lift (x : Except ε α) : Within R (liftM x : StateT σ (Except ε) α) :=
  fun s => (ensures_lift x).mpr fun _ _ => refl s

theorem within_bind {m : StateT σ (Except ε) α} {f : α → StateT σ (Except ε) β}
    (hm : Within R m) (hf : ∀ a, Within R (f a)) : Within R (m >>= f) := by
  intro s
  rw [ensures_bind]
  refine (hm s).mono fun a s' hs' => (hf a s').mono fun b s'' hs'' => ?_
  exact trans_of R hs' hs''

theorem within_foldlM {xs : List α} {f : β → α → StateT σ (Except ε) β}
    (hf : ∀ b x, Within R (f b x)) (b : β) : Within R (xs.foldlM f b) := by
  induction xs generalizing b with
  | nil => exact within_pure b
  | cons x xs ih => exact within_bind (hf b x) ih

end Within

/-- The final state of a transaction that succeeds. -/
def exec (m : StateT σ (Except ε) α) (s : σ) : Except ε σ :=
  (m s).map Prod.snd

theorem exec_eq_ok_iff {s' : σ} : exec m s = .ok s' ↔ ∃ a, m s = .ok (a, s') := by
  unfold exec
  cases m s with
  | error e => simp [Except.map]
  | ok result =>
      obtain ⟨a, t⟩ := result
      simp [Except.map]

/-- What a transaction returns does not change its final state. -/
theorem exec_map (m : StateT σ (Except ε) α) (f : α → β) (s : σ) : exec (f <$> m) s = exec m s := by
  have hrun : (f <$> m) s = m s >>= fun p => pure (f p.1, p.2) := rfl
  rw [exec, exec, hrun]
  cases m s <;> rfl

theorem Ensures.of_exec {Q : σ → Prop} (h : Ensures m (fun _ => Q) s) {s' : σ}
    (hm : exec m s = .ok s') : Q s' := by
  obtain ⟨a, ha⟩ := exec_eq_ok_iff.mp hm
  exact h a s' ha

end Txn
