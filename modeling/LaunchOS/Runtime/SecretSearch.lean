import LaunchOS.Runtime.Redaction

/-!
# Secrets at any depth

What `assert_no_secrets` looks for: a key or a string anywhere in a JSON value.

The module introduces:

* `Json.Within`: the values that a value is made of, itself among them;
* `SecretKey`, `SecretText`: what is not to be in a value;
* `accepted_iff`: a value is accepted if and only if there is none of these in it.
-/

namespace LaunchOS.Security

/-- A secret fragment is in the key, letter case aside, and the key is none of the telemetry keys. -/
def SecretKey (key : List Char) : Prop :=
  key.map lowerChar ∉ safeTelemetryKeys ∧
    ∃ fragment ∈ secretKeyFragments, fragment <:+: key.map lowerChar

/-- A secret is assigned somewhere in the text. -/
def SecretText (text : List Char) : Prop :=
  ∃ before tail word gap value rest, text = before ++ tail ∧ Assignment word gap value rest tail

theorem isSecretKey_iff {key : List Char} : isSecretKey key = true ↔ SecretKey key := by
  unfold isSecretKey SecretKey
  simp only [Bool.and_eq_true, Bool.not_eq_true', List.any_eq_true, List.mem_tails,
    List.isPrefixOf_iff_prefix, List.infix_iff_prefix_suffix]
  refine and_congr ?_ (exists_congr fun fragment => and_congr_right fun _ => ?_)
  · rw [← Bool.not_eq_true, List.contains_iff_mem]
  · exact exists_congr fun tail => and_comm

theorem hasSecretAssignment_iff {text : List Char} :
    hasSecretAssignment text = true ↔ SecretText text := by
  unfold hasSecretAssignment SecretText
  simp only [List.any_eq_true, List.mem_tails, isSome_matchSecretAssignment_iff]
  constructor
  · rintro ⟨tail, ⟨before, htext⟩, word, gap, value, rest, hassignment⟩
    exact ⟨before, tail, word, gap, value, rest, htext.symm, hassignment⟩
  · rintro ⟨before, tail, word, gap, value, rest, htext, hassignment⟩
    exact ⟨tail, ⟨before, htext.symm⟩, word, gap, value, rest, hassignment⟩

end LaunchOS.Security

namespace Json

open LaunchOS LaunchOS.Security

/-- The value is a part of the other one, at any depth. -/
inductive Within : Json → Json → Prop
  | self (value : Json) : Within value value
  | item {part item : Json} {items : List Json} (hitem : item ∈ items) (h : Within part item) :
      Within part (.array items)
  | field {part : Json} {field : List Char × Json} {fields : List (List Char × Json)}
      (hfield : field ∈ fields) (h : Within part field.2) : Within part (.object fields)

theorem acceptedItems_iff {items : List Json} :
    acceptedItems items = true ↔ ∀ item ∈ items, item.accepted = true := by
  induction items with
  | nil => simp [acceptedItems]
  | cons item items ih => rw [acceptedItems, Bool.and_eq_true, ih, List.forall_mem_cons]

theorem acceptedFields_iff {fields : List (List Char × Json)} :
    acceptedFields fields = true ↔
      ∀ field ∈ fields, ¬ SecretKey field.1 ∧ field.2.accepted = true := by
  induction fields with
  | nil => simp [acceptedFields]
  | cons field fields ih =>
      rw [acceptedFields, Bool.and_eq_true, ih, List.forall_mem_cons]
      refine and_congr_left fun _ => ?_
      rw [acceptedField, Bool.and_eq_true, Bool.not_eq_true', ← Bool.not_eq_true, isSecretKey_iff]

/-- The parts of a value that is accepted are accepted. -/
theorem Within.accepted {part value : Json} (h : Within part value)
    (haccepted : value.accepted = true) : part.accepted = true := by
  induction h with
  | self => exact haccepted
  | item hitem _ ih =>
      rw [Json.accepted] at haccepted
      exact ih (acceptedItems_iff.mp haccepted _ hitem)
  | field hfield _ ih =>
      rw [Json.accepted] at haccepted
      exact ih (acceptedFields_iff.mp haccepted _ hfield).2

/-- A value without secret keys and texts at any depth is accepted. -/
theorem accepted_of_forall (value : Json)
    (hkeys : ∀ fields, Within (.object fields) value → ∀ field ∈ fields, ¬ SecretKey field.1)
    (htexts : ∀ text, Within (.string text) value → ¬ SecretText text) :
    value.accepted = true := by
  match value with
  | .null | .bool _ | .number _ => rfl
  | .string text =>
      rw [accepted, Bool.not_eq_true', ← Bool.not_eq_true, hasSecretAssignment_iff]
      exact htexts text (.self _)
  | .array items =>
      rw [accepted, acceptedItems_iff]
      intro item hitem
      exact accepted_of_forall item (fun fields h => hkeys fields (.item hitem h))
        fun text h => htexts text (.item hitem h)
  | .object fields =>
      rw [accepted, acceptedFields_iff]
      intro field hfield
      refine ⟨hkeys fields (.self _) field hfield, ?_⟩
      exact accepted_of_forall field.2 (fun fields' h => hkeys fields' (.field hfield h))
        fun text h => htexts text (.field hfield h)
termination_by value
decreasing_by
  · have hlt := List.sizeOf_lt_of_mem hitem
    rw [Json.array.sizeOf_spec]
    omega
  · have hlt := List.sizeOf_lt_of_mem hfield
    have hpair : sizeOf field = 1 + sizeOf field.1 + sizeOf field.2 := rfl
    rw [Json.object.sizeOf_spec]
    omega

/-- `assert_no_secrets` accepts a value if and only if no object in it has a secret key and no string
in it assigns a secret, at any depth; and then it accepts every part of the value. -/
theorem assertNoSecrets_exact (path : List Char) (value : Json) :
    (assertNoSecrets path value = .ok () ↔
      (∀ fields, Within (.object fields) value → ∀ field ∈ fields, ¬ SecretKey field.1) ∧
      ∀ text, Within (.string text) value → ¬ SecretText text) ∧
    ∀ part, Within part value → assertNoSecrets path value = .ok () →
      ∀ path', assertNoSecrets path' part = .ok () := by
  constructor
  · rw [assertNoSecrets_eq_ok_iff]
    refine ⟨fun haccepted => ⟨fun fields h => ?_, fun text h => ?_⟩,
      fun ⟨hkeys, htexts⟩ => accepted_of_forall value hkeys htexts⟩
    · have hobject := h.accepted haccepted
      rw [accepted, acceptedFields_iff] at hobject
      exact fun field hfield => (hobject field hfield).1
    · have hstring := h.accepted haccepted
      rwa [accepted, Bool.not_eq_true', ← Bool.not_eq_true, hasSecretAssignment_iff] at hstring
  · intro part hpart hok path'
    rw [assertNoSecrets_eq_ok_iff] at hok ⊢
    exact hpart.accepted hok

end Json
