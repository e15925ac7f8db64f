import Mathlib.Data.List.TakeWhile
import LaunchOS.Runtime.SecretScan

/-!
# What redaction leaves

`SECRET_ASSIGNMENT` as a grammar, and the texts that `SECRET_ASSIGNMENT.sub` makes: nothing is left in
them that it would still replace.

The module introduces:

* `isKeyWord`, `Assignment`: an assignment of a secret, piece by piece;
* `matchSecretAssignment_eq_some_iff`: the expression finds these, and these only;
* `Redacts`, `redacts_redact`: from left to right every assignment is replaced, and the rest is kept;
* `Redacted`: the shape of the texts that are made;
* `redaction_complete`: what holds of `redacted_error_summary`.
-/

namespace LaunchOS.Security

/-! ## The grammar -/

/-- `api[_-]?key|credential|password|private[_-]?key|secret|token`, word by word. -/
def keyWords : List (List Char) :=
  ["api_key", "api-key", "apikey", "credential", "password", "private_key", "private-key",
    "privatekey", "secret", "token"].map String.toList

/-- A key word, letter case aside. -/
def isKeyWord (word : List Char) : Bool := keyWords.contains (word.map foldCase)

/-- `\s*=\s*` -/
def IsGap (gap : List Char) : Prop :=
  ∃ before after, gap = before ++ '=' :: after ∧ (∀ c ∈ before, isSpace c = true) ∧
    ∀ c ∈ after, isSpace c = true

/-- An assignment at the start of a text: its key word, what separates the value from that, the value
as far as it goes, and the rest. -/
structure Assignment (word gap value rest text : List Char) : Prop where
  text_eq : text = word ++ (gap ++ (value ++ rest))
  word : isKeyWord word = true
  gap : IsGap gap
  value_ne : value ≠ []
  value : ∀ c ∈ value, isValueChar c = true
  maximal : rest.head?.all (fun c => !isValueChar c) = true

/-! ### Key words -/

theorem dropWord_eq_some_iff {word text rest : List Char} :
    dropWord word text = some rest ↔ ∃ start, text = start ++ rest ∧ start.map foldCase = word := by
  induction word generalizing text with
  | nil =>
      constructor
      · intro h
        cases h
        exact ⟨[], rfl, rfl⟩
      · rintro ⟨start, rfl, hstart⟩
        rw [List.map_eq_nil_iff.mp hstart]
        rfl
  | cons w word ih =>
      cases text with
      | nil => simp [dropWord]
      | cons c text =>
          rw [dropWord]
          by_cases hc : foldCase c = w
          · rw [if_pos hc, ih]
            constructor
            · rintro ⟨start, rfl, rfl⟩
              exact ⟨c :: start, rfl, by rw [List.map_cons, hc]⟩
            · rintro ⟨start, htext, hstart⟩
              cases start with
              | nil => cases hstart
              | cons d start =>
                  obtain ⟨-, hstart⟩ := List.cons.inj hstart
                  obtain ⟨-, htext⟩ := List.cons.inj htext
                  exact ⟨start, htext, hstart⟩
          · rw [if_neg hc]
            refine ⟨fun h => (by cases h), ?_⟩
            rintro ⟨start, htext, hstart⟩
            cases start with
            | nil => cases hstart
            | cons d start =>
                obtain ⟨rfl, -⟩ := List.cons.inj htext
                exact absurd (List.cons.inj hstart).1 hc

theorem toLower_eq_of_not_lower {c d : Char} (h : c.toLower = d) (hd : d.toNat < 97) : c = d := by
  delta Char.toLower at h
  split at h
  next hupper =>
    exfalso
    obtain ⟨hlow, hhigh⟩ := hupper
    have hlow : 65 ≤ c.val.toNat := hlow
    have hhigh : c.val.toNat ≤ 90 := hhigh
    have hshift : (32 : UInt32).toNat = 32 := rfl
    rw [← h] at hd
    change (c.val + 32).toNat < 97 at hd
    rw [UInt32.toNat_add] at hd
    omega
  next => exact h

/-- Nothing but itself is folded to a code point below the letters. -/
theorem eq_of_foldCase {c d : Char} (h : foldCase c = d) (hd : d.toNat < 97) : c = d := by
  unfold foldCase at h
  dsimp only at h
  split at h
  next =>
    subst h
    exact absurd hd (by decide)
  next =>
    split at h
    next =>
      subst h
      exact absurd hd (by decide)
    next =>
      split at h
      next =>
        subst h
        exact absurd hd (by decide)
      next => exact toLower_eq_of_not_lower h hd

/-- What `[_-]?` may find. -/
def separators : List (List Char) := [[], ['_'], ['-']]

theorem dropSeparator_eq (text : List Char) :
    ∃ separator ∈ separators, text = separator ++ dropSeparator text := by
  unfold dropSeparator
  split
  next rest => exact ⟨['_'], by simp [separators], rfl⟩
  next rest => exact ⟨['-'], by simp [separators], rfl⟩
  next => exact ⟨[], by simp [separators], rfl⟩

theorem dropSeparator_append {separator text : List Char} (hseparator : separator ∈ separators)
    (hlow : text.head? ≠ some '_') (hdash : text.head? ≠ some '-') :
    dropSeparator (separator ++ text) = text := by
  simp only [separators, List.mem_cons, List.not_mem_nil, or_false] at hseparator
  rcases hseparator with rfl | rfl | rfl
  · cases text with
    | nil => rfl
    | cons c text =>
        have hc : c ≠ '_' := fun heq => hlow (by rw [heq]; rfl)
        have hc' : c ≠ '-' := fun heq => hdash (by rw [heq]; rfl)
        simp [dropSeparator, hc, hc']
  · rfl
  · rfl

/-- A key word of two parts. -/
theorem dropWord_keyed_iff {stem text rest : List Char} :
    ((dropWord stem text).bind fun rest => dropWord "key".toList (dropSeparator rest)) = some rest ↔
      ∃ word, text = word ++ rest ∧ ∃ separator ∈ separators,
        word.map foldCase = stem ++ separator ++ "key".toList := by
  rw [Option.bind_eq_some_iff]
  constructor
  · rintro ⟨middle, hstem, hkey⟩
    obtain ⟨start, rfl, hstart⟩ := dropWord_eq_some_iff.mp hstem
    obtain ⟨separator, hseparator, hmiddle⟩ := dropSeparator_eq middle
    obtain ⟨key, hdrop, hkeyFold⟩ := dropWord_eq_some_iff.mp hkey
    have hfixed : separator.map foldCase = separator := by
      simp only [separators, List.mem_cons, List.not_mem_nil, or_false] at hseparator
      rcases hseparator with rfl | rfl | rfl <;> decide
    refine ⟨start ++ separator ++ key, ?_, separator, hseparator, ?_⟩
    · rw [hmiddle, hdrop, List.append_assoc, List.append_assoc]
    · rw [List.map_append, List.map_append, hstart, hfixed, hkeyFold]
  · rintro ⟨word, rfl, separator, hseparator, hword⟩
    obtain ⟨left, key, rfl, hleft, hkey⟩ := List.map_eq_append_iff.mp hword
    obtain ⟨start, middle, rfl, hstart, hmiddle⟩ := List.map_eq_append_iff.mp hleft
    -- a separator is not folded to
    have hmiddle : middle = separator := by
      simp only [separators, List.mem_cons, List.not_mem_nil, or_false] at hseparator
      rcases hseparator with rfl | rfl | rfl
      · exact List.map_eq_nil_iff.mp hmiddle
      · obtain ⟨c, rest', rfl, hc, hrest⟩ := List.map_eq_cons_iff.mp hmiddle
        rw [eq_of_foldCase hc (by decide), List.map_eq_nil_iff.mp hrest]
      · obtain ⟨c, rest', rfl, hc, hrest⟩ := List.map_eq_cons_iff.mp hmiddle
        rw [eq_of_foldCase hc (by decide), List.map_eq_nil_iff.mp hrest]
    obtain rfl := hmiddle
    have hhead : ∀ c : Char, foldCase c ≠ 'k' → (key ++ rest).head? ≠ some c := by
      intro c hc
      obtain ⟨d, key', rfl, hd, -⟩ := List.map_eq_cons_iff.mp hkey
      rintro heq
      obtain rfl := Option.some.inj heq
      exact hc hd
    refine ⟨middle ++ (key ++ rest), dropWord_eq_some_iff.mpr ⟨start, by simp, hstart⟩, ?_⟩
    rw [dropSeparator_append hseparator (hhead '_' (by decide)) (hhead '-' (by decide))]
    exact dropWord_eq_some_iff.mpr ⟨key, rfl, hkey⟩

/-- No key word starts with another one. -/
theorem eq_of_keyWords_isPrefix : ∀ word ∈ keyWords, ∀ other ∈ keyWords, word <+: other → word = other := by
  decide

theorem keyWords_cases : ∀ word ∈ keyWords,
    (∃ separator ∈ separators, word = "api".toList ++ separator ++ "key".toList) ∨
    word = "credential".toList ∨ word = "password".toList ∨
    (∃ separator ∈ separators, word = "private".toList ++ separator ++ "key".toList) ∨
    word = "secret".toList ∨ word = "token".toList := by
  decide

/-- What is dropped is a key word. -/
theorem dropKeyWord_eq_some_iff {text rest : List Char} :
    dropKeyWord text = some rest ↔ ∃ word, text = word ++ rest ∧ isKeyWord word = true := by
  have hfound : ∀ {rest : List Char}, dropKeyWord text = some rest →
      ∃ word, text = word ++ rest ∧ isKeyWord word = true := by
    intro rest h
    have hplain : ∀ w : String, w.toList ∈ keyWords → dropWord w.toList text = some rest →
        ∃ word, text = word ++ rest ∧ isKeyWord word = true := by
      intro w hw hdrop
      obtain ⟨word, htext, hword⟩ := dropWord_eq_some_iff.mp hdrop
      exact ⟨word, htext, by simpa [isKeyWord, hword] using hw⟩
    have hkeyed : ∀ stem : String,
        (∀ separator ∈ separators, stem.toList ++ separator ++ "key".toList ∈ keyWords) →
        ((dropWord stem.toList text).bind fun rest =>
          dropWord "key".toList (dropSeparator rest)) = some rest →
        ∃ word, text = word ++ rest ∧ isKeyWord word = true := by
      intro stem hstem hdrop
      obtain ⟨word, htext, separator, hseparator, hword⟩ := dropWord_keyed_iff.mp hdrop
      exact ⟨word, htext, by simpa [isKeyWord, hword] using hstem separator hseparator⟩
    unfold dropKeyWord at h
    simp only [Option.orElse_eq_orElse, Option.orElse_eq_or, Option.or_eq_some_iff] at h
    rcases h with h | ⟨-, h | ⟨-, h | ⟨-, h | ⟨-, h | ⟨-, h⟩⟩⟩⟩⟩
    · exact hkeyed "api" (by decide) h
    · exact hplain "credential" (by decide) h
    · exact hplain "password" (by decide) h
    · exact hkeyed "private" (by decide) h
    · exact hplain "secret" (by decide) h
    · exact hplain "token" (by decide) h
  refine ⟨hfound, ?_⟩
  rintro ⟨word, htext, hword⟩
  -- some key word is dropped, and there is only one
  have hsome : (dropKeyWord text).isSome = true := by
    have hmem : word.map foldCase ∈ keyWords := by simpa [isKeyWord] using hword
    have hkeyed : ∀ stem : List Char,
        (∃ separator ∈ separators, word.map foldCase = stem ++ separator ++ "key".toList) →
        ((dropWord stem text).bind fun rest => dropWord "key".toList (dropSeparator rest)) =
          some rest :=
      fun stem h => dropWord_keyed_iff.mpr ⟨word, htext, h⟩
    have hplain : ∀ w : List Char, word.map foldCase = w → dropWord w text = some rest :=
      fun w h => dropWord_eq_some_iff.mpr ⟨word, htext, h⟩
    unfold dropKeyWord
    simp only [Option.orElse_eq_orElse, Option.orElse_eq_or, Option.isSome_or]
    rcases keyWords_cases _ hmem with h | h | h | h | h | h
    · simp only [hkeyed _ h, Option.isSome_some, Bool.true_or]
    · simp only [hplain _ h, Option.isSome_some, Bool.true_or, Bool.or_true]
    · simp only [hplain _ h, Option.isSome_some, Bool.true_or, Bool.or_true]
    · simp only [hkeyed _ h, Option.isSome_some, Bool.true_or, Bool.or_true]
    · simp only [hplain _ h, Option.isSome_some, Bool.true_or, Bool.or_true]
    · simp only [hplain _ h, Option.isSome_some, Bool.or_true]
  obtain ⟨other, hother⟩ := Option.isSome_iff_exists.mp hsome
  obtain ⟨word', htext', hword'⟩ := hfound hother
  have hmem : word.map foldCase ∈ keyWords := by simpa [isKeyWord] using hword
  have hmem' : word'.map foldCase ∈ keyWords := by simpa [isKeyWord] using hword'
  have hfold : word.map foldCase = word'.map foldCase := by
    rcases List.prefix_or_prefix_of_prefix (htext ▸ List.prefix_append word rest)
      (htext' ▸ List.prefix_append word' other) with hstart | hstart
    · exact eq_of_keyWords_isPrefix _ hmem _ hmem' (hstart.map foldCase)
    · exact (eq_of_keyWords_isPrefix _ hmem' _ hmem (hstart.map foldCase)).symm
  have hlength : word.length = word'.length := by
    have h := congrArg List.length hfold
    rwa [List.length_map, List.length_map] at h
  obtain ⟨-, rfl⟩ := List.append_inj (htext.symm.trans htext') hlength
  exact hother

/-! ### Assignments -/

theorem dropWhile_append_of_forall {p : Char → Bool} {before after : List Char}
    (hbefore : ∀ c ∈ before, p c = true) (hafter : after.head?.all (fun c => !p c) = true) :
    (before ++ after).dropWhile p = after ∧ (before ++ after).takeWhile p = before := by
  have hstop : after.dropWhile p = after ∧ after.takeWhile p = [] := by
    cases after with
    | nil => exact ⟨rfl, rfl⟩
    | cons c after =>
        have hc : p c = false := by simpa using hafter
        simp [hc]
  rw [List.dropWhile_append_of_pos hbefore, List.takeWhile_append_of_pos hbefore, hstop.1, hstop.2,
    List.append_nil]
  exact ⟨rfl, rfl⟩

theorem dropWhile_head_all (p : Char → Bool) (text : List Char) :
    (text.dropWhile p).head?.all (fun c => !p c) = true := by
  induction text with
  | nil => rfl
  | cons c text ih =>
      rw [List.dropWhile_cons]
      split
      next => exact ih
      next hc => simpa using hc

theorem not_isSpace_of_isValueChar {c : Char} (h : isValueChar c = true) : isSpace c = false := by
  unfold isValueChar at h
  simp only [Bool.not_eq_true', Bool.or_eq_false_iff] at h
  exact h.2

/-- The expression finds the assignments. -/
theorem matchSecretAssignment_eq_some_iff {text word rest : List Char} :
    matchSecretAssignment text = some (word, rest) ↔
      ∃ gap value, Assignment word gap value rest text := by
  constructor
  · intro h
    unfold matchSecretAssignment at h
    split at h
    next => cases h
    next afterWord hdrop =>
      obtain ⟨found, rfl, hfound⟩ := dropKeyWord_eq_some_iff.mp hdrop
      split at h
      next afterEquals hequals =>
        dsimp only at h
        split at h
        next => cases h
        next hvalue =>
          obtain ⟨hword, hrest⟩ := Prod.mk.inj (Option.some.inj h)
          have hlength : (found ++ afterWord).length - afterWord.length = found.length := by
            rw [List.length_append]
            omega
          rw [hlength, List.take_left] at hword
          subst hword hrest
          refine ⟨afterWord.takeWhile isSpace ++ '=' :: afterEquals.takeWhile isSpace,
            (afterEquals.dropWhile isSpace).takeWhile isValueChar, ?_, hfound,
            ⟨_, _, rfl, fun c hc => List.mem_takeWhile_imp hc,
              fun c hc => List.mem_takeWhile_imp hc⟩, ?_,
            fun c hc => List.mem_takeWhile_imp hc, dropWhile_head_all _ _⟩
          · rw [List.takeWhile_append_dropWhile, List.append_assoc, List.cons_append,
              List.takeWhile_append_dropWhile, ← hequals, List.takeWhile_append_dropWhile]
          · simpa using hvalue
      next => cases h
  · rintro ⟨gap, value, htext, hword, ⟨before, after, rfl, hbefore, hafter⟩, hne, hvalue,
      hmaximal⟩
    have hdrop : dropKeyWord text = some (before ++ '=' :: (after ++ (value ++ rest))) :=
      dropKeyWord_eq_some_iff.mpr ⟨word, by rw [htext]; simp, hword⟩
    have hsign : ('=' :: (after ++ (value ++ rest))).head?.all (fun c => !isSpace c) = true := rfl
    obtain ⟨hequals, -⟩ := dropWhile_append_of_forall hbefore hsign
    have hstarts : (value ++ rest).head?.all (fun c => !isSpace c) = true := by
      cases value with
      | nil => exact absurd rfl hne
      | cons c value =>
          simpa using not_isSpace_of_isValueChar (hvalue c List.mem_cons_self)
    obtain ⟨hspaces, -⟩ := dropWhile_append_of_forall hafter hstarts
    obtain ⟨hrest, hwhole⟩ := dropWhile_append_of_forall hvalue hmaximal
    have hlength : text.length - (before ++ '=' :: (after ++ (value ++ rest))).length =
        word.length := by
      rw [htext, List.append_assoc before, List.cons_append, List.length_append]
      omega
    unfold matchSecretAssignment
    rw [hdrop]
    dsimp only
    rw [hequals]
    simp only [hspaces, hwhole, hrest, hlength]
    rw [htext, List.take_left, if_neg]
    simpa using hne

/-! ## The replacement -/

/-- `f"{match.group(1)}=[REDACTED]"`, less the key word and the equals sign. -/
def redacted : List Char := "[REDACTED]".toList

/-- What `SECRET_ASSIGNMENT.sub` makes of a text: a code point where no assignment starts is kept, and
of an assignment the key word, with `=[REDACTED]` after it. -/
inductive Redacts : List Char → List Char → Prop
  | nil : Redacts [] []
  | kept (c : Char) {text out : List Char}
      (hnone : ∀ word gap value rest, ¬ Assignment word gap value rest (c :: text))
      (h : Redacts text out) : Redacts (c :: text) (c :: out)
  | hidden {word gap value rest text out : List Char}
      (hassignment : Assignment word gap value rest text) (h : Redacts rest out) :
      Redacts text (word ++ '=' :: (redacted ++ out))

theorem Assignment.length_lt {word gap value rest text : List Char}
    (h : Assignment word gap value rest text) : rest.length < text.length := by
  have hvalue : 0 < value.length := List.length_pos_iff.mpr h.value_ne
  rw [h.text_eq, List.length_append, List.length_append, List.length_append]
  omega

theorem redacts_redactFrom (rounds : ℕ) (text : List Char) (h : text.length ≤ rounds) :
    Redacts text (redactFrom rounds text) := by
  induction rounds generalizing text with
  | zero =>
      obtain rfl := List.length_eq_zero_iff.mp (Nat.le_zero.mp h)
      exact .nil
  | succ rounds ih =>
      cases text with
      | nil => exact .nil
      | cons c text =>
          rw [redactFrom]
          split
          next word rest hmatch =>
            obtain ⟨gap, value, hassignment⟩ := matchSecretAssignment_eq_some_iff.mp hmatch
            have hlt := hassignment.length_lt
            rw [List.append_assoc]
            exact .hidden hassignment (ih rest (by omega))
          next hmatch =>
            refine .kept c (fun word gap value rest hassignment => ?_) (ih text ?_)
            · rw [matchSecretAssignment_eq_some_iff.mpr ⟨gap, value, hassignment⟩] at hmatch
              cases hmatch
            · rw [List.length_cons] at h
              omega

/-- `SECRET_ASSIGNMENT.sub` replaces the assignments from left to right. -/
theorem redacts_redact (text : List Char) : Redacts text (redact text) :=
  redacts_redactFrom text.length text le_rfl

/-! ### Where a match starts -/

theorem isSome_matchSecretAssignment_iff {text : List Char} :
    (matchSecretAssignment text).isSome = true ↔
      ∃ word gap value rest, Assignment word gap value rest text := by
  rw [Option.isSome_iff_exists]
  constructor
  · rintro ⟨⟨word, rest⟩, hmatch⟩
    obtain ⟨gap, value, hassignment⟩ := matchSecretAssignment_eq_some_iff.mp hmatch
    exact ⟨word, gap, value, rest, hassignment⟩
  · rintro ⟨word, gap, value, rest, hassignment⟩
    exact ⟨(word, rest), matchSecretAssignment_eq_some_iff.mpr ⟨gap, value, hassignment⟩⟩

theorem toNat_of_foldCase {c : Char} (h : 97 ≤ (foldCase c).toNat ∧ (foldCase c).toNat ≤ 122) :
    (65 ≤ c.toNat ∧ c.toNat ≤ 90) ∨ (97 ≤ c.toNat ∧ c.toNat ≤ 122) ∨ c.toNat = 0x130 ∨
      c.toNat = 0x131 ∨ c.toNat = 0x17f ∨ c.toNat = 0x212a := by
  by_cases hi : c.toNat = 0x130 ∨ c.toNat = 0x131
  · omega
  by_cases hs : c.toNat = 0x17f
  · omega
  by_cases hk : c.toNat = 0x212a
  · omega
  have hlower : foldCase c = c.toLower := by
    simp only [foldCase, Bool.or_eq_true, decide_eq_true_eq, hi, hs, hk, if_false]
  rw [hlower] at h
  delta Char.toLower at h
  split at h
  next hupper =>
    have hlow : 65 ≤ c.val.toNat := hupper.1
    have hhigh : c.val.toNat ≤ 90 := hupper.2
    exact .inl ⟨hlow, hhigh⟩
  next => exact .inr (.inl h)

/-- A code point of a value, other than the equals sign. -/
structure IsPlain (c : Char) : Prop where
  space : isSpace c = false
  equals : c ≠ '='
  value : isValueChar c = true

/-- Letters are plain. -/
theorem isPlain_of_foldCase {c : Char}
    (h : 97 ≤ (foldCase c).toNat ∧ (foldCase c).toNat ≤ 122) : IsPlain c := by
  have hc := toNat_of_foldCase h
  have hspace : isSpace c = false := by
    simp only [isSpace, Bool.or_eq_false_iff, Bool.and_eq_false_iff, decide_eq_false_iff_not]
    omega
  have hne : ∀ d : Char, d.toNat < 65 → c ≠ d := by
    rintro d hd rfl
    omega
  refine ⟨hspace, hne '=' (by decide), ?_⟩
  simp [isValueChar, hspace, hne ',' (by decide), hne ';' (by decide)]

theorem keyWords_ends : ∀ word ∈ keyWords, word ≠ [] ∧
    (∀ c ∈ word.head?, 97 ≤ c.toNat ∧ c.toNat ≤ 122) ∧
    ∀ c ∈ word.getLast?, 97 ≤ c.toNat ∧ c.toNat ≤ 122 := by
  have hends : keyWords.all (fun word => decide (word ≠ []) &&
      word.head?.all (fun c => decide (97 ≤ c.toNat ∧ c.toNat ≤ 122)) &&
      word.getLast?.all fun c => decide (97 ≤ c.toNat ∧ c.toNat ≤ 122)) = true := by
    decide +kernel
  intro word hword
  have hword := List.all_eq_true.mp hends word hword
  simp only [Bool.and_eq_true, decide_eq_true_eq, Option.all_eq_true, Option.mem_def] at hword ⊢
  exact ⟨hword.1.1, hword.1.2, hword.2⟩

/-- A key word starts with a letter. -/
theorem isKeyWord_cons {word : List Char} (h : isKeyWord word = true) :
    ∃ c tail, word = c :: tail ∧ IsPlain c := by
  have hmem : word.map foldCase ∈ keyWords := by simpa [isKeyWord] using h
  obtain ⟨hne, hhead, -⟩ := keyWords_ends _ hmem
  cases word with
  | nil => exact absurd rfl hne
  | cons c tail => exact ⟨c, tail, rfl, isPlain_of_foldCase (hhead _ rfl)⟩

/-- And it ends with one. -/
theorem isKeyWord_concat {word : List Char} (h : isKeyWord word = true) :
    ∃ start z, word = start ++ [z] ∧ IsPlain z := by
  have hmem : word.map foldCase ∈ keyWords := by simpa [isKeyWord] using h
  obtain ⟨hne, -, hlast⟩ := keyWords_ends _ hmem
  rcases List.eq_nil_or_concat' word with rfl | ⟨start, z, rfl⟩
  · exact absurd rfl hne
  · refine ⟨start, z, rfl, isPlain_of_foldCase (hlast _ ?_)⟩
    simp

/-- Two endings of a text, each with a value to come, are the same to a match that starts before
them. -/
theorem isSome_match_append {q q' z : Char} (hq : isStop q = true) (hq' : isStop q' = true)
    (hz : IsPlain z) (body : List Char) {more more' : List Char}
    (hmore : hasValue (q :: more) = true) (hmore' : hasValue (q' :: more') = true) :
    (matchSecretAssignment (body ++ [z] ++ q :: more)).isSome =
      (matchSecretAssignment (body ++ [z] ++ q' :: more')).isSome := by
  rw [matchSecretAssignment_isSome, matchSecretAssignment_isSome, dropKeyWord_stop hq,
    dropKeyWord_stop hq']
  cases hdrop : dropKeyWord (body ++ [z]) with
  | none => rfl
  | some rest =>
      rw [Option.map_some, Option.map_some, Option.any_some, Option.any_some]
      rcases List.suffix_concat_iff.mp (dropKeyWord_suffix hdrop) with rfl | ⟨front, rfl, -⟩
      · exact hmore.trans hmore'.symm
      · -- the last letter decides what there is to come
        rw [List.append_assoc, List.append_assoc, List.singleton_append, List.singleton_append,
          hasValue_append hz.space hz.equals hz.value, hasValue_append hz.space hz.equals hz.value]

theorem isStop_of_isSpace {c : Char} (h : isSpace c = true) : isStop c = true := by
  have hletter : ¬ (97 ≤ (foldCase c).toNat ∧ (foldCase c).toNat ≤ 122) := by
    intro hc
    rw [(isPlain_of_foldCase hc).space] at h
    cases h
  have hletters : ∀ d ∈ "abcdeiklnoprstvwy".toList, 97 ≤ d.toNat ∧ d.toNat ≤ 122 := by
    have hall : "abcdeiklnoprstvwy".toList.all (fun d => decide (97 ≤ d.toNat ∧ d.toNat ≤ 122)) =
        true := by
      decide +kernel
    exact fun d hd => of_decide_eq_true (List.all_eq_true.mp hall d hd)
  have hlow : c ≠ '_' := by
    rintro rfl
    cases h
  have hdash : c ≠ '-' := by
    rintro rfl
    cases h
  have hnone : "abcdeiklnoprstvwy".toList.contains (foldCase c) = false := by
    rw [← Bool.not_eq_true, List.contains_iff_mem]
    exact fun hmem => hletter (hletters _ hmem)
  rw [isStop, hnone]
  simp [hlow, hdash]

/-- After its key word a value is to come. -/
theorem Assignment.hasValue {word gap value rest text : List Char}
    (h : Assignment word gap value rest text) :
    ∃ q more, gap ++ (value ++ rest) = q :: more ∧ isStop q = true ∧
      Security.hasValue (q :: more) = true := by
  have hvalue : Security.hasValue (gap ++ (value ++ rest)) = true := by
    have hdrop := dropKeyWord_eq_some_iff.mpr ⟨word, h.text_eq, h.word⟩
    have hmatch := isSome_matchSecretAssignment_iff.mpr ⟨word, gap, value, rest, h⟩
    rwa [matchSecretAssignment_isSome, hdrop, Option.any_some] at hmatch
  obtain ⟨before, after, hgap, hbefore, -⟩ := h.gap
  cases before with
  | nil =>
      rw [hgap] at hvalue ⊢
      exact ⟨'=', after ++ (value ++ rest), rfl, by decide, hvalue⟩
  | cons c before =>
      rw [hgap] at hvalue ⊢
      exact ⟨c, _, rfl, isStop_of_isSpace (hbefore c List.mem_cons_self), hvalue⟩

/-- A match starts in what is made of a text where it starts in the text. -/
theorem Redacts.isSome_match {text out : List Char} (h : Redacts text out) (body : List Char) :
    (matchSecretAssignment (body ++ out)).isSome =
      (matchSecretAssignment (body ++ text)).isSome := by
  induction h generalizing body with
  | nil => rfl
  | kept c _ _ ih => simpa using ih (body ++ [c])
  | @hidden word gap value rest text out hassignment _ _ =>
      obtain ⟨start, z, hword, hz⟩ := isKeyWord_concat hassignment.word
      obtain ⟨q, more, hgap, hq, hmore⟩ := hassignment.hasValue
      have hmark : Security.hasValue ('=' :: (redacted ++ out)) = true := rfl
      have hsign : isStop '=' = true := by decide
      have h := isSome_match_append hsign hq hz (body ++ start) hmark hmore
      rw [hassignment.text_eq, hgap, hword]
      simpa only [List.append_assoc] using h

/-! ### Texts without a secret -/

/-- A text in which an assignment hides its value. -/
inductive Redacted : List Char → Prop
  | nil : Redacted []
  | kept (c : Char) {out : List Char} (hnone : matchSecretAssignment (c :: out) = none)
      (h : Redacted out) : Redacted (c :: out)
  | hidden {word out : List Char} (hword : isKeyWord word = true)
      (hend : out.head?.all (fun c => !isValueChar c) = true) (h : Redacted out) :
      Redacted (word ++ '=' :: (redacted ++ out))

theorem Redacts.head? {text out : List Char} (h : Redacts text out)
    (hend : text.head?.all (fun c => !isValueChar c) = true) :
    out.head?.all (fun c => !isValueChar c) = true := by
  cases h with
  | nil => rfl
  | kept c _ _ => exact hend
  | @hidden word gap value rest _ out hassignment _ =>
      -- a key word starts with a code point of a value
      obtain ⟨c, tail, rfl, hc⟩ := isKeyWord_cons hassignment.word
      rw [hassignment.text_eq] at hend
      simp [hc.value] at hend

theorem Redacts.redacted {text out : List Char} (h : Redacts text out) : Redacted out := by
  induction h with
  | nil => exact .nil
  | @kept c text out hnone h ih =>
      refine .kept c ?_ ih
      have hsame := h.isSome_match [c]
      rw [List.singleton_append, List.singleton_append] at hsame
      cases hmatch : matchSecretAssignment (c :: out) with
      | none => rfl
      | some found =>
          rw [hmatch, Option.isSome_some] at hsame
          obtain ⟨word, gap, value, rest, hassignment⟩ :=
            isSome_matchSecretAssignment_iff.mp hsame.symm
          exact absurd hassignment (hnone word gap value rest)
  | hidden hassignment h ih => exact .hidden hassignment.word (h.head? hassignment.maximal) ih

/-- A hidden value is what the expression finds. -/
theorem match_hidden {word out : List Char} (hword : isKeyWord word = true)
    (hend : out.head?.all (fun c => !isValueChar c) = true) :
    matchSecretAssignment (word ++ '=' :: (redacted ++ out)) = some (word, out) :=
  matchSecretAssignment_eq_some_iff.mpr ⟨['='], redacted,
    { text_eq := rfl
      word := hword
      gap := ⟨[], [], rfl, by simp, by simp⟩
      value_ne := by decide
      value := List.all_eq_true.mp (show redacted.all isValueChar = true by decide)
      maximal := hend }⟩

/-- No key word starts within another one. -/
theorem keyWords_tails : ∀ word ∈ keyWords, ∀ tail ∈ word.tails, tail ≠ word →
    ∀ other ∈ keyWords, ¬ other <+: tail := by
  decide +kernel

/-- No key word starts within what hides a value. -/
theorem dropKeyWord_redacted {tail : List Char} (htail : tail ∈ ('=' :: redacted).tails)
    (hne : tail ≠ []) (out : List Char) : dropKeyWord (tail ++ out) = none := by
  have htails : ('=' :: redacted).tails = ["=[REDACTED]".toList, "[REDACTED]".toList,
      "REDACTED]".toList, "EDACTED]".toList, "DACTED]".toList, "ACTED]".toList, "CTED]".toList,
      "TED]".toList, "ED]".toList, "D]".toList, "]".toList, []] := by
    decide
  rw [htails] at htail
  simp only [List.mem_cons, List.not_mem_nil, or_false] at htail
  rcases htail with rfl | rfl | rfl | rfl | rfl | rfl | rfl | rfl | rfl | rfl | rfl | rfl
  all_goals first | rfl | exact absurd rfl hne

/-- No match starts between the start and the end of a hidden assignment. -/
theorem match_within {word before tail out : List Char} (hword : isKeyWord word = true)
    (heq : word ++ '=' :: redacted = before ++ tail) (hbefore : before ≠ []) (htail : tail ≠ []) :
    matchSecretAssignment (tail ++ out) = none := by
  have hdrop : dropKeyWord (tail ++ out) = none := by
    rcases List.append_eq_append_iff.mp heq with ⟨middle, -, hmiddle⟩ | ⟨middle, hmiddle, rfl⟩
    · exact dropKeyWord_redacted ((List.mem_tails ..).mpr ⟨middle, hmiddle.symm⟩) htail out
    · rw [List.append_assoc, List.cons_append, dropKeyWord_stop (by decide)]
      cases hfound : dropKeyWord middle with
      | none => rfl
      | some rest =>
          -- a key word within the key word
          exfalso
          obtain ⟨other, rfl, hother⟩ := dropKeyWord_eq_some_iff.mp hfound
          have hmem : word.map foldCase ∈ keyWords := by simpa [isKeyWord] using hword
          have hotherMem : other.map foldCase ∈ keyWords := by simpa [isKeyWord] using hother
          have hsuffix : (other ++ rest).map foldCase ∈ (word.map foldCase).tails := by
            rw [hmiddle, List.map_append, List.mem_tails]
            exact List.suffix_append _ _
          have hne : (other ++ rest).map foldCase ≠ word.map foldCase := by
            intro hsame
            have hlength := congrArg List.length hsame
            have hpos : 0 < before.length := List.length_pos_iff.mpr hbefore
            simp only [hmiddle, List.length_map, List.length_append] at hlength
            omega
          refine keyWords_tails _ hmem _ hsuffix hne _ hotherMem ?_
          rw [List.map_append]
          exact List.prefix_append _ _
  unfold matchSecretAssignment
  rw [hdrop]

/-- Wherever a match starts, its value is hidden. -/
theorem Redacted.hidden_of_match {out : List Char} (h : Redacted out) {before tail : List Char}
    (heq : out = before ++ tail) {word rest : List Char}
    (hmatch : matchSecretAssignment tail = some (word, rest)) :
    tail = word ++ '=' :: (Security.redacted ++ rest) := by
  induction h generalizing before with
  | nil =>
      obtain ⟨-, rfl⟩ := List.append_eq_nil_iff.mp heq.symm
      cases hmatch
  | @kept c out hnone h ih =>
      cases before with
      | nil =>
          rw [← (show c :: out = tail from heq), hnone] at hmatch
          cases hmatch
      | cons d before => exact ih (List.cons.inj heq).2
  | @hidden found out hword hend h ih =>
      have heq' : (found ++ '=' :: Security.redacted) ++ out = before ++ tail := by
        rw [← heq, List.append_assoc, List.cons_append]
      rcases List.append_eq_append_iff.mp heq' with ⟨middle, -, hmiddle⟩ | ⟨middle, hmiddle, rfl⟩
      · exact ih hmiddle
      · by_cases hstart : before = []
        · subst hstart
          rw [List.nil_append] at hmiddle
          rw [← hmiddle, List.append_assoc, List.cons_append, match_hidden hword hend] at hmatch
          obtain ⟨rfl, rfl⟩ := Prod.mk.inj (Option.some.inj hmatch)
          rw [← hmiddle, List.append_assoc, List.cons_append]
        · by_cases hmid : middle = []
          · subst hmid
            exact ih (List.nil_append _).symm
          · rw [match_within hword hmiddle hstart hmid] at hmatch
            cases hmatch

/-- There is nothing left to replace. -/
theorem Redacted.redactFrom_eq {out : List Char} (h : Redacted out) (rounds : ℕ) :
    redactFrom rounds out = out := by
  induction h generalizing rounds with
  | nil => cases rounds <;> rfl
  | @kept c out hnone h ih =>
      cases rounds with
      | zero => rfl
      | succ rounds => rw [redactFrom, hnone, ih]
  | @hidden word out hword hend h ih =>
      cases rounds with
      | zero => rfl
      | succ rounds =>
          have hmatch := match_hidden hword hend
          obtain ⟨c, tail, rfl, -⟩ := isKeyWord_cons hword
          rw [List.cons_append] at hmatch ⊢
          rw [redactFrom, hmatch]
          dsimp only
          rw [ih, List.append_assoc]
          rfl

/-! ## The summary of an error -/

/-- `f"{error.__class__.__name__}: {error}"` -/
def errorText (className message : String) : List Char := (className ++ ": " ++ message).toList

/-- In the summary of an error, before it is cut, every value that is assigned to a key word reads
`[REDACTED]`; redaction has nothing left to do; what is outside the assignments is there as it was; and
what is stored is no longer than allowed. -/
theorem redaction_complete (className message : String) :
    (∀ before tail word gap value rest,
      redact (errorText className message) = before ++ tail →
      Assignment word gap value rest tail → value = redacted) ∧
    redact (redact (errorText className message)) = redact (errorText className message) ∧
    Redacts (errorText className message) (redact (errorText className message)) ∧
    ∀ maxLength, 3 ≤ maxLength →
      (redactedErrorSummary className message maxLength).length ≤ maxLength := by
  have hredacts := redacts_redact (errorText className message)
  have hredacted := hredacts.redacted
  refine ⟨fun before tail word gap value rest heq hassignment => ?_,
    hredacted.redactFrom_eq _, hredacts, fun maxLength hmax => ?_⟩
  · have hmatch := matchSecretAssignment_eq_some_iff.mpr ⟨gap, value, hassignment⟩
    have hhidden := hredacted.hidden_of_match heq hmatch
    -- the gap is the equals sign alone, since the value that is hidden starts right after it
    rw [hassignment.text_eq] at hhidden
    have hgap : (gap ++ value) ++ rest = ('=' :: redacted) ++ rest := by
      rw [List.append_assoc]
      exact List.append_cancel_left hhidden
    have hgap := List.append_cancel_right hgap
    obtain ⟨spaces, others, rfl, hspaces, hothers⟩ := hassignment.gap
    cases spaces with
    | cons c spaces =>
        obtain ⟨rfl, -⟩ := List.cons.inj hgap
        exact absurd (hspaces '=' List.mem_cons_self) (by decide)
    | nil =>
        cases others with
        | nil => exact (List.cons.inj hgap).2
        | cons c others =>
            obtain ⟨rfl, -⟩ := List.cons.inj (List.cons.inj hgap).2
            exact absurd (hothers '[' List.mem_cons_self) (by decide)
  · unfold redactedErrorSummary
    dsimp only
    split
    next hlong =>
      rw [String.length_append, String.length_ofList, List.length_take]
      have hdots : "...".length = 3 := rfl
      omega
    next hshort =>
      rw [String.length_ofList]
      omega

example : redact "token = a, password=b;secret\t=\t c".toList =
    "token=[REDACTED], password=[REDACTED];secret=[REDACTED]".toList := by
  decide +kernel

end LaunchOS.Security
