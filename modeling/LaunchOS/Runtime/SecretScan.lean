import Mathlib.Data.List.Infix
import LaunchOS.Lib.JsonText
import LaunchOS.Lib.Txn
import LaunchOS.Runtime.Job

/-!
# Scans for secrets

`assert_no_secrets` of `runtime/security.py` on JSON values, and what its regular expression finds in
a text that is put together from parts.

The module introduces:

* `Json.assertNoSecrets`, `Json.accepted`: the scan of a value by its structure;
* `isBarrier`: a code point that ends a value but is no part of what comes before it;
* `hasSecretAssignment_barrier`: nothing is found across a barrier;
* `scan_secretAssignment`: the regular expression as a scan of JSON texts.
-/

namespace LaunchOS

namespace Security

/-! ## The scan of a value -/

/-- `SECRET_KEY_FRAGMENTS` -/
def secretKeyFragments : List (List Char) :=
  ["api_key", "apikey", "credential", "password", "private_key", "secret", "token"].map
    String.toList

/-- `SAFE_TELEMETRY_KEYS` -/
def safeTelemetryKeys : List (List Char) :=
  ["input_tokens", "output_tokens", "total_tokens", "token_usage"].map String.toList

/-- `str.lower`, as far as it makes ASCII letters of code points. The `İ`, which becomes an `i` with a
dot after it, is left as it is: no fragment and no telemetry key has that dot. -/
def lowerChar (c : Char) : Char := if c.toNat = 0x212a then 'k' else c.toLower

/-- A key that is rejected. -/
def isSecretKey (key : List Char) : Bool :=
  let lowered := key.map lowerChar
  !safeTelemetryKeys.contains lowered &&
    secretKeyFragments.any fun fragment => lowered.tails.any fragment.isPrefixOf

end Security

end LaunchOS

namespace Json

open LaunchOS LaunchOS.Security

mutual

/-- `assert_no_secrets(value, path=path)` -/
def assertNoSecrets (path : List Char) : Json → Except JobError Unit
  | .object fields => assertFields path fields
  | .string text =>
      if hasSecretAssignment text then
        .error (.secretRejectedError ("secret-like value rejected at " ++ String.ofList path))
      else .ok ()
  | .array items => assertItems path 0 items
  | .null | .bool _ | .number _ => .ok ()

/-- The items of an array from the index on. -/
def assertItems (path : List Char) (index : ℕ) : List Json → Except JobError Unit
  | [] => .ok ()
  | item :: items => do
      assertNoSecrets (path ++ '[' :: (toString index).toList ++ [']']) item
      assertItems path (index + 1) items

/-- The fields of an object. -/
def assertFields (path : List Char) : List (List Char × Json) → Except JobError Unit
  | [] => .ok ()
  | field :: fields => do
      assertField path field
      assertFields path fields

def assertField (path : List Char) : List Char × Json → Except JobError Unit
  | (key, value) =>
      if isSecretKey key then
        .error (.secretRejectedError
          ("secret-like key rejected at " ++ String.ofList (path ++ '.' :: key)))
      else assertNoSecrets (path ++ '.' :: key) value

end

mutual

/-- The value passes the scan. -/
def accepted : Json → Bool
  | .object fields => acceptedFields fields
  | .string text => !hasSecretAssignment text
  | .array items => acceptedItems items
  | .null | .bool _ | .number _ => true

def acceptedItems : List Json → Bool
  | [] => true
  | item :: items => accepted item && acceptedItems items

def acceptedFields : List (List Char × Json) → Bool
  | [] => true
  | field :: fields => acceptedField field && acceptedFields fields

def acceptedField : List Char × Json → Bool
  | (key, value) => !isSecretKey key && accepted value

end

mutual

/-- The path is for the message only. -/
theorem assertNoSecrets_eq_ok_iff (path : List Char) (value : Json) :
    assertNoSecrets path value = .ok () ↔ value.accepted = true := by
  cases value with
  | null | bool b | number n => simp [assertNoSecrets, accepted]
  | string text => simp [assertNoSecrets, accepted]
  | array items =>
      rw [assertNoSecrets, accepted]
      exact assertItems_eq_ok_iff path 0 items
  | object fields =>
      rw [assertNoSecrets, accepted]
      exact assertFields_eq_ok_iff path fields

theorem assertItems_eq_ok_iff (path : List Char) (index : ℕ) (items : List Json) :
    assertItems path index items = .ok () ↔ acceptedItems items = true := by
  match items with
  | [] => simp [assertItems, acceptedItems]
  | item :: items =>
      rw [assertItems, acceptedItems, Except.bind_eq_ok_iff, Bool.and_eq_true]
      rw [← assertNoSecrets_eq_ok_iff _ item, ← assertItems_eq_ok_iff path (index + 1) items]
      constructor
      · rintro ⟨_, hitem, hitems⟩
        exact ⟨hitem, hitems⟩
      · rintro ⟨hitem, hitems⟩
        exact ⟨_, hitem, hitems⟩

theorem assertFields_eq_ok_iff (path : List Char) (fields : List (List Char × Json)) :
    assertFields path fields = .ok () ↔ acceptedFields fields = true := by
  match fields with
  | [] => simp [assertFields, acceptedFields]
  | field :: fields =>
      rw [assertFields, acceptedFields, Except.bind_eq_ok_iff, Bool.and_eq_true]
      rw [← assertField_eq_ok_iff path field, ← assertFields_eq_ok_iff path fields]
      constructor
      · rintro ⟨_, hfield, hfields⟩
        exact ⟨hfield, hfields⟩
      · rintro ⟨hfield, hfields⟩
        exact ⟨_, hfield, hfields⟩

theorem assertField_eq_ok_iff (path : List Char) (field : List Char × Json) :
    assertField path field = .ok () ↔ acceptedField field = true := by
  match field with
  | (key, value) =>
      rw [assertField, acceptedField]
      cases isSecretKey key with
      | true => simp
      | false => simpa using assertNoSecrets_eq_ok_iff _ value

end

theorem acceptedItems_append (items items' : List Json) :
    acceptedItems (items ++ items') = (acceptedItems items && acceptedItems items') := by
  induction items with
  | nil => rfl
  | cons item items ih => rw [List.cons_append, acceptedItems, acceptedItems, ih, Bool.and_assoc]

end Json

/-! ## Barriers -/

namespace LaunchOS.Security

/-- The code points of the key words, of `\s*` and of `=`. -/
def isAssignmentChar (c : Char) : Bool :=
  "abcdeiklnoprstvwy".toList.contains (foldCase c) || c = '_' || c = '-' || c = '=' || isSpace c

/-- A code point that a value may start with, and that is not in the way to it. -/
def isBarrier (c : Char) : Bool := !isAssignmentChar c && isValueChar c

/-- A code point that is in no key word. -/
def isStop (c : Char) : Bool :=
  !("abcdeiklnoprstvwy".toList.contains (foldCase c) || c = '_' || c = '-')

section Stop

variable {q : Char} (hq : isStop q = true)
include hq

theorem isStop_spec : foldCase q ∉ "abcdeiklnoprstvwy".toList ∧ q ≠ '_' ∧ q ≠ '-' := by
  unfold isStop at hq
  simp only [Bool.not_eq_true', Bool.or_eq_false_iff, decide_eq_false_iff_not] at hq
  obtain ⟨⟨hletter, hlow⟩, hdash⟩ := hq
  exact ⟨by simpa using hletter, hlow, hdash⟩

/-- A word is found before the code point or not at all. -/
theorem dropWord_stop {word : List Char} (hword : word ⊆ "abcdeiklnoprstvwy".toList)
    (body more : List Char) :
    dropWord word (body ++ q :: more) = (dropWord word body).map (· ++ q :: more) := by
  induction word generalizing body with
  | nil => rfl
  | cons w word ih =>
      have hrest : word ⊆ "abcdeiklnoprstvwy".toList := fun c hc => hword (List.mem_cons_of_mem _ hc)
      cases body with
      | nil =>
          have hne : foldCase q ≠ w := by
            rintro rfl
            exact (isStop_spec hq).1 (hword List.mem_cons_self)
          simp [dropWord, hne]
      | cons c body =>
          simp only [List.cons_append, dropWord]
          split
          next => exact ih hrest body
          next => rfl

theorem dropSeparator_stop (body more : List Char) :
    dropSeparator (body ++ q :: more) = dropSeparator body ++ q :: more := by
  obtain ⟨-, hlow, hdash⟩ := isStop_spec hq
  cases body with
  | nil => simp [dropSeparator, hlow, hdash]
  | cons c body =>
      by_cases hc : c = '_'
      · simp [dropSeparator, hc]
      · by_cases hc' : c = '-' <;> simp [dropSeparator, hc, hc']

theorem dropKeyWord_stop (body more : List Char) :
    dropKeyWord (body ++ q :: more) = (dropKeyWord body).map (· ++ q :: more) := by
  have hword : ∀ word : List Char, word ⊆ "abcdeiklnoprstvwy".toList →
      dropWord word (body ++ q :: more) = (dropWord word body).map (· ++ q :: more) :=
    fun word h => dropWord_stop hq h body more
  have hkeyed : ∀ word : List Char, word ⊆ "abcdeiklnoprstvwy".toList →
      ((dropWord word (body ++ q :: more)).bind fun rest =>
        dropWord "key".toList (dropSeparator rest)) =
      ((dropWord word body).bind fun rest =>
        dropWord "key".toList (dropSeparator rest)).map (· ++ q :: more) := by
    intro word h
    rw [hword word h, Option.bind_map, Option.map_bind]
    refine congrArg (Option.bind _) (funext fun rest => ?_)
    simp only [Function.comp_apply, dropSeparator_stop hq]
    exact dropWord_stop hq (by decide) _ _
  unfold dropKeyWord
  simp only [hkeyed _ (show "api".toList ⊆ _ by decide),
    hkeyed _ (show "private".toList ⊆ _ by decide),
    hword _ (show "credential".toList ⊆ _ by decide),
    hword _ (show "password".toList ⊆ _ by decide),
    hword _ (show "secret".toList ⊆ _ by decide),
    hword _ (show "token".toList ⊆ _ by decide)]
  simp only [Option.orElse_eq_orElse, Option.orElse_eq_or, Option.map_or]

end Stop

/-! ### What follows a key word -/

/-- A value follows, after an equals sign. -/
def hasValue (rest : List Char) : Bool :=
  match rest.dropWhile isSpace with
  | '=' :: afterEquals => (afterEquals.dropWhile isSpace).head?.any isValueChar
  | _ => false

theorem matchSecretAssignment_isSome (text : List Char) :
    (matchSecretAssignment text).isSome = (dropKeyWord text).any hasValue := by
  unfold matchSecretAssignment hasValue
  cases dropKeyWord text with
  | none => rfl
  | some rest =>
      dsimp only [Option.any_some]
      by_cases hequals : ∃ afterEquals, rest.dropWhile isSpace = '=' :: afterEquals
      · obtain ⟨afterEquals, heq⟩ := hequals
        rw [heq]
        show Option.isSome (if _ then _ else _) = (afterEquals.dropWhile isSpace).head?.any isValueChar
        cases afterEquals.dropWhile isSpace with
        | nil => rfl
        | cons c value => cases hc : isValueChar c <;> simp [hc]
      · repeat' split
        all_goals first | rfl | exact absurd ⟨_, by assumption⟩ hequals

/-- A value is to come next. -/
def opensValue (rest : List Char) : Bool :=
  match rest.dropWhile isSpace with
  | '=' :: afterEquals => (afterEquals.dropWhile isSpace).head?.all isValueChar
  | _ => false

/-- A value code point that is no equals sign ends what there is to say. -/
theorem hasValue_append {z : Char} (hspace : isSpace z = false) (hequals : z ≠ '=')
    (hvalue : isValueChar z = true) (rest more : List Char) :
    hasValue (rest ++ z :: more) = opensValue rest := by
  have hspaces : ∀ text : List Char,
      (text ++ z :: more).dropWhile isSpace = text.dropWhile isSpace ++ z :: more := by
    intro text
    induction text with
    | nil => simp [hspace]
    | cons c text ih =>
        rw [List.cons_append, List.dropWhile_cons, List.dropWhile_cons]
        split
        next => exact ih
        next => rfl
  unfold hasValue opensValue
  rw [hspaces]
  cases rest.dropWhile isSpace with
  | nil =>
      rw [List.nil_append]
      split
      next heq =>
        simp only [List.cons.injEq] at heq
        exact absurd heq.1 hequals
      next => rfl
  | cons c after =>
      by_cases hc : c = '='
      · subst hc
        simp only [List.cons_append, hspaces]
        cases after.dropWhile isSpace with
        | nil => simp [hvalue]
        | cons d value => simp
      · simp [hc]

section Barrier

variable {q : Char} (hq : isBarrier q = true)
include hq

theorem isBarrier_spec : isStop q = true ∧ q ≠ '=' ∧ isSpace q = false ∧ isValueChar q = true := by
  unfold isBarrier isAssignmentChar at hq
  simp only [Bool.and_eq_true, Bool.not_eq_true', Bool.or_eq_false_iff, decide_eq_false_iff_not]
    at hq
  obtain ⟨⟨⟨⟨⟨hletter, hlow⟩, hdash⟩, hequals⟩, hspace⟩, hvalue⟩ := hq
  refine ⟨?_, hequals, hspace, hvalue⟩
  rw [isStop, hletter]
  simp [hlow, hdash]

/-- An assignment at the start of `body`, up to where its value is to come. -/
def opensAssignment (body : List Char) : Bool :=
  match dropKeyWord body with
  | none => false
  | some rest =>
      match rest.dropWhile isSpace with
      | '=' :: afterEquals => (afterEquals.dropWhile isSpace).head?.all isValueChar
      | _ => false

theorem matchSecretAssignment_barrier (body more : List Char) :
    (matchSecretAssignment (body ++ q :: more)).isSome = opensAssignment body := by
  obtain ⟨hstop, hequals, hspace, hvalue⟩ := isBarrier_spec hq
  rw [matchSecretAssignment_isSome, dropKeyWord_stop hstop, opensAssignment]
  cases dropKeyWord body with
  | none => rfl
  | some rest => exact hasValue_append hspace hequals hvalue rest more

theorem hasSecretAssignment_barrier (body more : List Char) :
    hasSecretAssignment (body ++ q :: more) =
      (body.tails.any opensAssignment || hasSecretAssignment more) := by
  have hopens := matchSecretAssignment_barrier hq
  induction body with
  | nil =>
      have hnone := hopens [] more
      rw [List.nil_append] at hnone
      rw [List.nil_append, hasSecretAssignment, List.tails_cons, List.any_cons, hnone]
      rfl
  | cons c body ih =>
      rw [hasSecretAssignment] at ih ⊢
      rw [List.cons_append, List.tails_cons, List.any_cons, ih, ← List.cons_append, hopens,
        List.tails_cons, List.any_cons, Bool.or_assoc]

/-- What comes after a barrier does not matter for what is before it. -/
theorem hasSecretAssignment_append (body more : List Char) :
    hasSecretAssignment (body ++ q :: more) =
      (hasSecretAssignment (body ++ [q]) || hasSecretAssignment more) := by
  have hnil : hasSecretAssignment [] = false := by decide
  rw [hasSecretAssignment_barrier hq, hasSecretAssignment_barrier hq, hnil, Bool.or_false]

end Barrier

/-! ## Texts without an equals sign -/

theorem dropWord_suffix {word text rest : List Char} (h : dropWord word text = some rest) :
    rest <:+ text := by
  induction word generalizing text with
  | nil =>
      cases h
      exact List.suffix_rfl
  | cons w word ih =>
      cases text with
      | nil => cases h
      | cons c text =>
          rw [dropWord] at h
          split at h
          next => exact (ih h).trans (List.suffix_cons c text)
          next => cases h

theorem dropSeparator_suffix (text : List Char) : dropSeparator text <:+ text := by
  unfold dropSeparator
  split
  next => exact List.suffix_cons _ _
  next => exact List.suffix_cons _ _
  next => exact List.suffix_rfl

theorem dropKeyWord_suffix {text rest : List Char} (h : dropKeyWord text = some rest) :
    rest <:+ text := by
  have hkeyed : ∀ word : List Char, ((dropWord word text).bind fun rest =>
      dropWord "key".toList (dropSeparator rest)) = some rest → rest <:+ text := by
    intro word hword
    obtain ⟨middle, hfirst, hsecond⟩ := Option.bind_eq_some_iff.mp hword
    exact (dropWord_suffix hsecond).trans ((dropSeparator_suffix _).trans (dropWord_suffix hfirst))
  unfold dropKeyWord at h
  simp only [Option.orElse_eq_orElse, Option.orElse_eq_or, Option.or_eq_some_iff] at h
  rcases h with h | ⟨-, h | ⟨-, h | ⟨-, h | ⟨-, h | ⟨-, h⟩⟩⟩⟩⟩
  · exact hkeyed _ h
  · exact dropWord_suffix h
  · exact dropWord_suffix h
  · exact hkeyed _ h
  · exact dropWord_suffix h
  · exact dropWord_suffix h

theorem hasSecretAssignment_of_not_mem {text : List Char} (h : '=' ∉ text) :
    hasSecretAssignment text = false := by
  rw [hasSecretAssignment, List.any_eq_false]
  intro tail htail
  have htail : tail <:+ text := (List.mem_tails ..).mp htail
  unfold matchSecretAssignment
  cases hdrop : dropKeyWord tail with
  | none => simp
  | some rest =>
      have hnone : '=' ∉ rest.dropWhile isSpace := fun hmem =>
        h (((dropKeyWord_suffix hdrop).trans htail).subset
          ((List.dropWhile_suffix isSpace).subset hmem))
      cases hafter : rest.dropWhile isSpace with
      | nil => simp [hafter]
      | cons c after =>
          have hc : c ≠ '=' := by
            rintro rfl
            exact hnone (hafter ▸ List.mem_cons_self)
          simp [hafter, hc]

/-- The regular expression does not look past a quote, and it needs an equals sign. -/
theorem scan_secretAssignment : Json.Scan hasSecretAssignment '=' where
  trigger_ne := by decide
  quote := hasSecretAssignment_append (by decide)
  quiet _ := hasSecretAssignment_of_not_mem

end LaunchOS.Security
