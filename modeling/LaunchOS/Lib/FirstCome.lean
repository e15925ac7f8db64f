import Mathlib.Data.List.Nodup
import Mathlib.Data.List.Perm.Basic
import Mathlib.Data.List.Induction
import Mathlib.Data.List.TakeWhile

/-!
# Binding on first arrival

Items arrive and offers are made, in any order. An item is bound once, when it arrives for the first
time, to an offer that matches it among those made so far; later offers come too late for it.

The module introduces:

* `Event`, `Log`, `log matching es`: the offers made and the items bound by a list of events;
* `Before es p k`: the offer `p` is made before `k` arrives for the first time;
* `mem_bound_iff`: what an item is bound to, if no item matches two offers;
* `bound_agree_iff`: two orders of the same events bind alike if and only if they agree on which
  matching offers come before the items;
* `bound_perm`: then the lists of bound items are permutations of each other.
-/

namespace FirstCome

variable {κ π : Type*}

/-- An item arrives, or an offer is made. -/
inductive Event (κ π : Type*)
  | arrive (k : κ)
  | offer (p : π)
deriving DecidableEq

/-- The offers made so far, and the items that have arrived, each with what it is bound to. -/
structure Log (κ π : Type*) where
  offers : List π := []
  bound : List (κ × Option π) := []

/-- The items that have arrived. -/
def Log.keys (log : Log κ π) : List κ := log.bound.map Prod.fst

variable [DecidableEq κ] (matching : κ → π → Bool)

/-- One event. -/
def Log.step (log : Log κ π) : Event κ π → Log κ π
  | .offer p => { log with offers := log.offers ++ [p] }
  | .arrive k =>
      if k ∈ log.keys then log
      else { log with bound := log.bound ++ [(k, log.offers.find? (matching k))] }

/-- The log of a list of events. -/
def log (es : List (Event κ π)) : Log κ π := es.foldl (Log.step matching) {}

section Log

variable {matching} {es : List (Event κ π)} {k : κ} {p : π}

theorem log_append_singleton (e : Event κ π) :
    log matching (es ++ [e]) = (log matching es).step matching e := by
  simp [log]

theorem mem_offers_iff : p ∈ (log matching es).offers ↔ Event.offer p ∈ es := by
  induction es using List.reverseRecOn with
  | nil => simp [log]
  | append_singleton es e ih =>
      rw [log_append_singleton]
      cases e with
      | offer p' => simp [Log.step, ih]
      | arrive k =>
          rw [Log.step]
          split <;> simp [ih]

theorem mem_keys_iff : k ∈ (log matching es).keys ↔ Event.arrive k ∈ es := by
  induction es using List.reverseRecOn with
  | nil => simp [log, Log.keys]
  | append_singleton es e ih =>
      rw [log_append_singleton]
      cases e with
      | offer p => simpa [Log.step, Log.keys] using ih
      | arrive k' =>
          rw [Log.step]
          split
          next hold =>
            rw [ih]
            constructor
            · exact List.mem_append_left _
            · intro hmem
              rcases List.mem_append.mp hmem with hes | hnew
              · exact hes
              · cases List.mem_singleton.mp hnew
                exact ih.mp hold
          next => simpa [Log.keys] using or_congr_left ih

theorem keys_nodup : (log matching es).keys.Nodup := by
  induction es using List.reverseRecOn with
  | nil => exact List.nodup_nil
  | append_singleton es e ih =>
      rw [log_append_singleton]
      cases e with
      | offer p => exact ih
      | arrive k =>
          rw [Log.step]
          split
          next => exact ih
          next hnew =>
            rw [Log.keys, List.map_append, List.nodup_append]
            refine ⟨ih, List.nodup_singleton _, fun a ha b hb hab => ?_⟩
            rw [List.map_singleton, List.mem_singleton] at hb
            rw [hab, hb] at ha
            exact hnew ha

theorem bound_nodup : (log matching es).bound.Nodup :=
  List.Nodup.of_map Prod.fst keys_nodup

/-- An item is bound to an offer that has been made. -/
theorem offer_mem_of_bound (h : (k, some p) ∈ (log matching es).bound) : Event.offer p ∈ es := by
  induction es using List.reverseRecOn with
  | nil => simp [log] at h
  | append_singleton es e ih =>
      rw [log_append_singleton] at h
      cases e with
      | offer p' => exact List.mem_append_left _ (ih h)
      | arrive k' =>
          rw [Log.step] at h
          split at h
          next => exact List.mem_append_left _ (ih h)
          next =>
            rcases List.mem_append.mp h with hold | hnew
            · exact List.mem_append_left _ (ih hold)
            · have hfind := (Prod.mk.inj (List.mem_singleton.mp hnew)).2
              exact List.mem_append_left _ (mem_offers_iff.mp (List.mem_of_find?_eq_some hfind.symm))

/-- An item is bound once. -/
theorem bound_unique {o o' : Option π} (h : (k, o) ∈ (log matching es).bound)
    (h' : (k, o') ∈ (log matching es).bound) : o = o' :=
  congrArg Prod.snd (List.inj_on_of_nodup_map keys_nodup h h' rfl)

end Log

/-! ## Orders -/

variable [DecidableEq π]

/-- The events before an item arrives for the first time. -/
def untilArrival (k : κ) (es : List (Event κ π)) : List (Event κ π) :=
  es.takeWhile fun e => !decide (e = Event.arrive k)

/-- The offer is made before the item arrives for the first time. -/
def Before (es : List (Event κ π)) (p : π) (k : κ) : Prop :=
  Event.arrive k ∈ es ∧ Event.offer p ∈ untilArrival k es

instance (es : List (Event κ π)) (p : π) (k : κ) : Decidable (Before es p k) :=
  inferInstanceAs (Decidable (_ ∧ _))

section Before

variable {matching} {es es' : List (Event κ π)} {k : κ} {p : π}

theorem untilArrival_eq_self_iff : untilArrival k es = es ↔ Event.arrive k ∉ es := by
  unfold untilArrival
  rw [List.takeWhile_eq_self_iff]
  constructor
  · intro hall hmem
    simpa using hall _ hmem
  · intro hmem e he
    rw [Bool.not_eq_true', decide_eq_false_iff_not]
    rintro rfl
    exact hmem he

/-- Once the item has arrived, a new event changes nothing. -/
theorem untilArrival_append_of_mem (hmem : Event.arrive k ∈ es) (e : Event κ π) :
    untilArrival k (es ++ [e]) = untilArrival k es := by
  unfold untilArrival
  rw [List.takeWhile_append, if_neg]
  intro hlength
  exact untilArrival_eq_self_iff.mp ((List.takeWhile_prefix _).eq_of_length hlength) hmem

theorem untilArrival_append_arrive (hmem : Event.arrive k ∉ es) :
    untilArrival k (es ++ [Event.arrive k]) = es := by
  have hself := untilArrival_eq_self_iff.mpr hmem
  unfold untilArrival at hself ⊢
  rw [List.takeWhile_append, if_pos (by rw [hself])]
  simp

theorem before_append_singleton (e : Event κ π) :
    Before (es ++ [e]) p k ↔
      Before es p k ∨ e = .arrive k ∧ Event.arrive k ∉ es ∧ Event.offer p ∈ es := by
  by_cases hmem : Event.arrive k ∈ es
  · simp [Before, untilArrival_append_of_mem hmem, hmem]
  · by_cases he : e = .arrive k
    · subst he
      simp [Before, untilArrival_append_arrive hmem, hmem]
    · have hnot : Event.arrive k ∉ es ++ [e] := by
        simpa [hmem] using Ne.symm he
      simp [Before, hnot, hmem, he]

/-- An item is bound to the offer that matches it and was made in time. -/
theorem mem_bound_iff (hunique : ∀ k p p', Event.offer p ∈ es → Event.offer p' ∈ es →
    matching k p = true → matching k p' = true → p = p') :
    (k, some p) ∈ (log matching es).bound ↔ Before es p k ∧ matching k p = true := by
  induction es using List.reverseRecOn with
  | nil => simp [log, Before]
  | append_singleton es e ih =>
      have ih := ih fun k p p' hp hp' =>
        hunique k p p' (List.mem_append_left _ hp) (List.mem_append_left _ hp')
      rw [log_append_singleton, before_append_singleton]
      cases e with
      | offer p' => simpa [Log.step] using ih
      | arrive k' =>
          rw [Log.step]
          split
          next hold =>
            have hmem : Event.arrive k' ∈ es := mem_keys_iff.mp hold
            rw [ih]
            constructor
            · exact fun h => ⟨.inl h.1, h.2⟩
            · rintro ⟨hbefore | ⟨heq, hnot, -⟩, hmatch⟩
              · exact ⟨hbefore, hmatch⟩
              · cases heq
                exact absurd hmem hnot
          next hnew =>
            have hmem : Event.arrive k' ∉ es := fun h => hnew (mem_keys_iff.mpr h)
            rw [List.mem_append, ih, List.mem_singleton, Prod.mk.injEq]
            constructor
            · rintro (⟨hbefore, hmatch⟩ | ⟨rfl, hfind⟩)
              · exact ⟨.inl hbefore, hmatch⟩
              · refine ⟨.inr ⟨rfl, hmem, ?_⟩, List.find?_some hfind.symm⟩
                exact mem_offers_iff.mp (List.mem_of_find?_eq_some hfind.symm)
            · rintro ⟨hbefore | ⟨heq, -, hoffer⟩, hmatch⟩
              · exact .inl ⟨hbefore, hmatch⟩
              · cases heq
                refine .inr ⟨rfl, ?_⟩
                -- the first offer that matches is the only one
                cases hfind : (log matching es).offers.find? (matching k) with
                | none =>
                    have hnone := List.find?_eq_none.mp hfind p (mem_offers_iff.mpr hoffer)
                    exact absurd hmatch hnone
                | some p' =>
                    have hp' := mem_offers_iff.mp (List.mem_of_find?_eq_some hfind)
                    rw [hunique k p p' (List.mem_append_left _ hoffer)
                      (List.mem_append_left _ hp') hmatch (List.find?_some hfind)]

/-- Both orders agree on which matching offers come in time. -/
def Agree (matching : κ → π → Bool) (es es' : List (Event κ π)) : Prop :=
  ∀ k p, Event.arrive k ∈ es → Event.offer p ∈ es → matching k p = true →
    (Before es p k ↔ Before es' p k)

/-- What they agree on, if the two events are an arrival and an offer. -/
def agreeOn (matching : κ → π → Bool) (es es' : List (Event κ π)) : Event κ π → Event κ π → Bool
  | .arrive k, .offer p => !matching k p || decide (Before es p k ↔ Before es' p k)
  | _, _ => true

instance (es es' : List (Event κ π)) : Decidable (Agree matching es es') :=
  decidable_of_iff (∀ e ∈ es, ∀ e' ∈ es, agreeOn matching es es' e e' = true) <| by
    constructor
    · intro h k p harrive hoffer hmatch
      simpa [agreeOn, hmatch] using h _ harrive _ hoffer
    · intro h e he e' he'
      cases e <;> cases e' <;> try rfl
      rw [agreeOn, Bool.or_eq_true, Bool.not_eq_true', decide_eq_true_eq]
      exact (Bool.eq_false_or_eq_true _).symm.imp id (h _ _ he he')

theorem Before.offer_mem (h : Before es p k) : Event.offer p ∈ es :=
  (List.takeWhile_prefix _).subset h.2

/-- Two orders of the same events bind alike if and only if they agree on which offers come in
time. -/
theorem bound_agree_iff (hperm : es.Perm es') (hunique : ∀ k p p', Event.offer p ∈ es →
    Event.offer p' ∈ es → matching k p = true → matching k p' = true → p = p') :
    (∀ k p, (k, some p) ∈ (log matching es).bound ↔ (k, some p) ∈ (log matching es').bound) ↔
      Agree matching es es' := by
  have hunique' : ∀ k p p', Event.offer p ∈ es' → Event.offer p' ∈ es' →
      matching k p = true → matching k p' = true → p = p' :=
    fun k p p' hp hp' => hunique k p p' (hperm.mem_iff.mpr hp) (hperm.mem_iff.mpr hp')
  constructor
  · intro h k p _ _ hmatch
    have hbound := h k p
    rw [mem_bound_iff hunique, mem_bound_iff hunique'] at hbound
    simpa [hmatch] using hbound
  · intro h k p
    rw [mem_bound_iff hunique, mem_bound_iff hunique']
    refine and_congr_left fun hmatch => ?_
    constructor
    · exact fun hbefore => (h k p hbefore.1 hbefore.offer_mem hmatch).mp hbefore
    · intro hbefore
      exact (h k p (hperm.mem_iff.mpr hbefore.1) (hperm.mem_iff.mpr hbefore.offer_mem) hmatch).mpr
        hbefore

omit [DecidableEq π] in
theorem mem_bound_none_iff :
    (k, none) ∈ (log matching es).bound ↔
      Event.arrive k ∈ es ∧ ∀ p, (k, some p) ∉ (log matching es).bound := by
  constructor
  · intro h
    refine ⟨mem_keys_iff.mp (List.mem_map_of_mem h), fun p hp => ?_⟩
    cases bound_unique h hp
  · rintro ⟨harrive, hnone⟩
    have hkey : k ∈ (log matching es).keys := mem_keys_iff.mpr harrive
    obtain ⟨⟨k', o⟩, hmem, rfl⟩ := List.mem_map.mp hkey
    cases o with
    | none => exact hmem
    | some p => exact absurd hmem (hnone p)

omit [DecidableEq π] in
/-- If they bind alike, their lists of bound items are permutations of each other. -/
theorem bound_perm (hperm : es.Perm es') (h : ∀ k p, (k, some p) ∈ (log matching es).bound ↔
    (k, some p) ∈ (log matching es').bound) :
    (log matching es).bound.Perm (log matching es').bound := by
  refine (List.perm_ext_iff_of_nodup bound_nodup bound_nodup).mpr fun ⟨k, o⟩ => ?_
  cases o with
  | some p => exact h k p
  | none =>
      rw [mem_bound_none_iff, mem_bound_none_iff, hperm.mem_iff]
      simp only [h]

end Before

end FirstCome
