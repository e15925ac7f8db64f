import Mathlib.Data.List.TakeWhile
import LaunchOS.Analytics.Contracts
import LaunchOS.Application.WorthMapping

/-!
# A violation within a longer text

What the directional detector finds in a text it finds in every longer text around it: the normalized
text is an infix of the longer one, positions move by the length of what comes before, and the window
that is searched for a negation starts at the business term.

The module introduces:

* `collapse_append_of_head`, `collapse_append_of_last`: where collapsing white space can be split;
* `Core`, `squeeze_infix`: what is left of a text between its white space, alone and in a longer one;
* `Mapped`, `Mapped.append`: what the detector looks for, and what follows of a longer text;
* `strings`, `Holds`: the texts of a payload, nested in dicts and lists;
* `violation_not_hidden`: a violation is not hidden by what is around it.
-/

namespace LaunchOS.WorthMapping

/-! ## Collapsing white space -/

/-- A text without the blank in front of it. -/
def dropBlank : List Char → List Char
  | [] => []
  | c :: rest => if c = ' ' then rest else c :: rest

theorem dropBlank_append {text : List Char} (h : text ≠ []) (after : List Char) :
    dropBlank (text ++ after) = dropBlank text ++ after := by
  cases text with
  | nil => exact absurd rfl h
  | cons c rest =>
      rw [List.cons_append, dropBlank, dropBlank]
      split <;> rfl

theorem collapse_cons (c : Char) (rest : List Char) :
    collapse (c :: rest) =
      if isSpace c then ' ' :: dropBlank (collapse rest) else c :: collapse rest := by
  rw [collapse]
  split
  · cases collapse rest with
    | nil => rfl
    | cons d rest' =>
        by_cases hd : d = ' '
        · subst hd
          rfl
        · rw [dropBlank, if_neg hd]
          split
          next heq => exact absurd (List.cons.inj heq).1 hd
          next => rfl
  · rfl

theorem collapse_ne_nil {text : List Char} (h : text ≠ []) : collapse text ≠ [] := by
  cases text with
  | nil => exact absurd rfl h
  | cons c rest =>
      rw [collapse_cons]
      split <;> exact List.cons_ne_nil _ _

theorem isSpace_of_mem_collapse {text : List Char} (h : ∀ c ∈ text, isSpace c = true) :
    ∀ c ∈ collapse text, isSpace c = true := by
  induction text with
  | nil => exact h
  | cons d rest ih =>
      obtain ⟨hd, hrest⟩ := List.forall_mem_cons.mp h
      rw [collapse_cons, if_pos hd]
      refine List.forall_mem_cons.mpr ⟨by decide, fun c hc => ih hrest c ?_⟩
      cases hcollapse : collapse rest with
      | nil =>
          rw [hcollapse] at hc
          exact hc
      | cons e rest' =>
          rw [hcollapse, dropBlank] at hc
          split at hc
          · exact List.mem_cons_of_mem e hc
          · exact hc

/-- White space in front of a text that does not start with white space stays apart from it. -/
theorem collapse_append_of_head (before : List Char) {c : Char} (hc : isSpace c = false)
    (rest : List Char) :
    collapse (before ++ c :: rest) = collapse before ++ collapse (c :: rest) := by
  induction before with
  | nil => rfl
  | cons d before ih =>
      rw [List.cons_append, collapse_cons, collapse_cons, ih]
      split
      next =>
        by_cases hbefore : before = []
        · -- the text starts with no blank that could be dropped
          have hblank : c ≠ ' ' := by
            rintro rfl
            cases hc
          subst hbefore
          rw [collapse_cons, hc]
          simp [collapse, dropBlank, hblank]
        · rw [dropBlank_append (collapse_ne_nil hbefore)]
          rfl
      next => rfl

/-- So does white space behind a text that does not end with white space. -/
theorem collapse_append_of_last (init : List Char) {c : Char} (hc : isSpace c = false)
    (after : List Char) :
    collapse ((init ++ [c]) ++ after) = collapse (init ++ [c]) ++ collapse after := by
  induction init with
  | nil =>
      rw [List.nil_append, List.cons_append, List.nil_append, collapse_cons, collapse_cons, hc]
      rfl
  | cons d init ih =>
      rw [List.cons_append, List.cons_append, collapse_cons, collapse_cons, ih]
      split
      next =>
        rw [dropBlank_append (collapse_ne_nil (List.append_ne_nil_of_right_ne_nil _ (by simp)))]
        rfl
      next => rfl

/-! ## The core of a text -/

/-- A text that neither starts nor ends with white space. -/
structure Core (text : List Char) : Prop where
  head : ∃ c rest, text = c :: rest ∧ isSpace c = false
  last : ∃ init c, text = init ++ [c] ∧ isSpace c = false

theorem Core.collapse {text : List Char} (h : Core text) : Core (collapse text) where
  head := by
    obtain ⟨c, rest, rfl, hc⟩ := h.head
    refine ⟨c, WorthMapping.collapse rest, ?_, hc⟩
    rw [collapse_cons, hc]
    rfl
  last := by
    obtain ⟨init, c, rfl, hc⟩ := h.last
    refine ⟨WorthMapping.collapse init, c, ?_, hc⟩
    rw [collapse_append_of_head init hc, collapse_cons, hc]
    rfl

theorem dropWhile_append_of_head (before : List Char) {c : Char} (hc : isSpace c = false)
    (rest : List Char) :
    (before ++ c :: rest).dropWhile isSpace = before.dropWhile isSpace ++ c :: rest := by
  rw [List.dropWhile_append]
  split
  next hempty => rw [List.isEmpty_iff.mp hempty, List.dropWhile_cons, hc]; rfl
  next => rfl

/-- Stripping takes away from what is around the core only. -/
theorem strip_append {core : List Char} (h : Core core) (before after : List Char) :
    strip (before ++ core ++ after) =
      before.dropWhile isSpace ++ core ++ (after.reverse.dropWhile isSpace).reverse := by
  obtain ⟨c, rest, hhead, hc⟩ := h.head
  obtain ⟨init, d, hlast, hd⟩ := h.last
  have hfront : (before ++ core ++ after).dropWhile isSpace =
      before.dropWhile isSpace ++ core ++ after := by
    rw [hhead, List.append_assoc, List.cons_append, dropWhile_append_of_head before hc,
      List.append_assoc, List.cons_append]
  have hback : (before.dropWhile isSpace ++ core ++ after).reverse.dropWhile isSpace =
      after.reverse.dropWhile isSpace ++ (before.dropWhile isSpace ++ core).reverse := by
    rw [List.reverse_append, hlast, ← List.append_assoc, List.reverse_append,
      List.reverse_singleton, List.singleton_append, dropWhile_append_of_head _ hd]
  rw [strip, hfront, hback, List.reverse_append, List.reverse_reverse]

/-- What comes first that is no white space. -/
theorem exists_first {text : List Char} (h : ∃ c ∈ text, isSpace c = false) :
    ∃ before c rest, text = before ++ c :: rest ∧ (∀ d ∈ before, isSpace d = true) ∧
      isSpace c = false := by
  induction text with
  | nil =>
      obtain ⟨c, hc, -⟩ := h
      cases hc
  | cons d text ih =>
      cases hd : isSpace d with
      | false => exact ⟨[], d, text, rfl, by simp, hd⟩
      | true =>
          obtain ⟨c, hc, hspace⟩ := h
          rcases List.mem_cons.mp hc with rfl | hmem
          · rw [hd] at hspace
            cases hspace
          · obtain ⟨before, e, rest, rfl, hbefore, he⟩ := ih ⟨c, hmem, hspace⟩
            exact ⟨d :: before, e, rest, rfl, List.forall_mem_cons.mpr ⟨hd, hbefore⟩, he⟩

/-- A text that is not all white space has a core. -/
theorem exists_core {text : List Char} (h : ∃ c ∈ text, isSpace c = false) :
    ∃ before core after, text = before ++ core ++ after ∧ Core core ∧
      (∀ c ∈ before, isSpace c = true) ∧ ∀ c ∈ after, isSpace c = true := by
  obtain ⟨before, c, rest, rfl, hbefore, hc⟩ := exists_first h
  have hreverse : ∃ d ∈ (c :: rest).reverse, isSpace d = false := ⟨c, by simp, hc⟩
  obtain ⟨after, d, init, hrest, hafter, hd⟩ := exists_first hreverse
  have hsplit : c :: rest = (init.reverse ++ [d]) ++ after.reverse := by
    rw [← List.reverse_reverse (c :: rest), hrest]
    simp
  refine ⟨before, init.reverse ++ [d], after.reverse, ?_, ⟨?_, init.reverse, d, rfl, hd⟩,
    hbefore, ?_⟩
  · simp [hsplit]
  · -- the core starts with what comes first
    cases hinit : init.reverse with
    | nil =>
        rw [hinit, List.nil_append, List.singleton_append] at hsplit
        exact ⟨d, [], rfl, hd⟩
    | cons e init' =>
        rw [hinit, List.cons_append, List.cons_append] at hsplit
        obtain ⟨rfl, -⟩ := List.cons.inj hsplit
        exact ⟨c, init' ++ [d], rfl, hc⟩
  · simpa using hafter

theorem collapse_append_core {core : List Char} (h : Core core) (before after : List Char) :
    collapse (before ++ core ++ after) = collapse before ++ collapse core ++ collapse after := by
  obtain ⟨c, rest, hhead, hc⟩ := h.head
  obtain ⟨init, d, hlast, hd⟩ := h.last
  have hafter : collapse (before ++ core ++ after) = collapse (before ++ core) ++ collapse after := by
    rw [hlast, ← List.append_assoc]
    exact collapse_append_of_last (before ++ init) hd after
  have hbefore : collapse (before ++ core) = collapse before ++ collapse core := by
    rw [hhead]
    exact collapse_append_of_head before hc rest
  rw [hafter, hbefore]

/-! ## Normalizing -/

/-- `normalize`, after the folding of upper case. -/
def squeeze (text : List Char) : List Char := strip (collapse text)

theorem squeeze_append {core : List Char} (h : Core core) (before after : List Char) :
    squeeze (before ++ core ++ after) =
      (collapse before).dropWhile isSpace ++ collapse core ++
        ((collapse after).reverse.dropWhile isSpace).reverse := by
  rw [squeeze, collapse_append_core h]
  exact strip_append h.collapse _ _

theorem dropWhile_of_space {text : List Char} (h : ∀ c ∈ text, isSpace c = true) :
    text.dropWhile isSpace = [] :=
  List.dropWhile_eq_nil_iff.mpr h

theorem squeeze_of_space {text : List Char} (h : ∀ c ∈ text, isSpace c = true) :
    squeeze text = [] := by
  rw [squeeze, strip, dropWhile_of_space (isSpace_of_mem_collapse h)]
  rfl

/-- What is around a text stays around it, up to white space. -/
theorem squeeze_infix {text : List Char} (h : squeeze text ≠ []) (before after : List Char) :
    squeeze text <:+: squeeze (before ++ text ++ after) := by
  by_cases hspace : ∀ c ∈ text, isSpace c = true
  · exact absurd (squeeze_of_space hspace) h
  · have hcore : ∃ c ∈ text, isSpace c = false := by
      push Not at hspace
      simpa using hspace
    obtain ⟨left, core, right, rfl, hcore, hleft, hright⟩ := exists_core hcore
    -- alone, the text is its core; within the longer one, so is the text between the others
    have halone : squeeze (left ++ core ++ right) = collapse core := by
      rw [squeeze_append hcore, dropWhile_of_space (isSpace_of_mem_collapse hleft),
        dropWhile_of_space fun c hc =>
          isSpace_of_mem_collapse hright c (List.mem_reverse.mp hc)]
      simp
    have hwithin : before ++ (left ++ core ++ right) ++ after =
        (before ++ left) ++ core ++ (right ++ after) := by
      simp only [List.append_assoc]
    rw [halone, hwithin, squeeze_append hcore]
    exact ⟨_, _, rfl⟩

theorem normalize_eq (value : String) :
    normalize value = squeeze (value.toList.map Char.toLower) := rfl

theorem normalize_infix {value : String} (h : normalize value ≠ []) (before after : String) :
    normalize value <:+: normalize (before ++ value ++ after) := by
  rw [normalize_eq] at h ⊢
  rw [normalize_eq, String.toList_append, String.toList_append, List.map_append, List.map_append]
  exact squeeze_infix h _ _

/-! ## Positions -/

theorem mem_termPositions_iff {text : List Char} {terms : List String} {start : ℕ} :
    start ∈ termPositions text terms ↔
      start < text.length ∧ ∃ term ∈ terms, term.toList <+: text.drop start := by
  simp [termPositions]

/-- What starts at a position still starts there, behind what comes before. -/
theorem termPositions_append {text : List Char} {terms : List String} {start : ℕ}
    (h : start ∈ termPositions text terms) (before after : List Char) :
    before.length + start ∈ termPositions (before ++ text ++ after) terms := by
  obtain ⟨hstart, term, hterm, hpre⟩ := mem_termPositions_iff.mp h
  refine mem_termPositions_iff.mpr ⟨?_, term, hterm, ?_⟩
  · rw [List.length_append, List.length_append]
    omega
  · rw [List.append_assoc, List.drop_length_add_append, List.drop_append_of_le_length hstart.le]
    exact hpre.trans (List.prefix_append _ _)

/-- The window before a mapping term starts at the business term, so nothing from further in front
is in it. -/
theorem negated_append {text : List Char} {businessStart mappingStart : ℕ}
    (hbefore : businessStart < mappingStart) (hwithin : mappingStart ≤ text.length)
    (before after : List Char) :
    negated (before ++ text ++ after) (before.length + businessStart)
        (before.length + mappingStart) =
      negated text businessStart mappingStart := by
  have hstart : max (before.length + businessStart) (before.length + mappingStart - 18) =
      before.length + max businessStart (mappingStart - 18) := by omega
  have hlength : before.length + mappingStart -
      (before.length + max businessStart (mappingStart - 18)) =
      mappingStart - max businessStart (mappingStart - 18) := by omega
  have hwindow : max businessStart (mappingStart - 18) ≤ text.length := by omega
  have htext : ((before ++ text ++ after).drop
        (before.length + max businessStart (mappingStart - 18))).take
        (mappingStart - max businessStart (mappingStart - 18)) =
      (text.drop (max businessStart (mappingStart - 18))).take
        (mappingStart - max businessStart (mappingStart - 18)) := by
    rw [List.append_assoc, List.drop_length_add_append, List.drop_append_of_le_length hwindow]
    -- nothing from behind the mapping term is in the window either
    refine List.take_append_of_le_length ?_
    rw [List.length_drop]
    omega
  rw [negated, hstart, hlength, htext]
  rfl

/-- What the detector looks for: a business term mapped, nearby and not negated, to a worth term. -/
structure Mapped (text : List Char) (businessStart mappingStart worthStart : ℕ) : Prop where
  business : businessStart ∈ termPositions text businessTerms
  mapping : mappingStart ∈ termPositions text mappingTerms
  worth : worthStart ∈ termPositions text worthTerms
  before : businessStart < mappingStart
  affirmed : negated text businessStart mappingStart = false
  after : mappingStart < worthStart
  nearby : worthStart ≤ businessStart + 180

theorem Mapped.append {text : List Char} {businessStart mappingStart worthStart : ℕ}
    (h : Mapped text businessStart mappingStart worthStart) (before after : List Char) :
    Mapped (before ++ text ++ after) (before.length + businessStart)
      (before.length + mappingStart) (before.length + worthStart) where
  business := termPositions_append h.business before after
  mapping := termPositions_append h.mapping before after
  worth := termPositions_append h.worth before after
  before := Nat.add_lt_add_left h.before _
  affirmed := by
    rw [negated_append h.before (mem_termPositions_iff.mp h.mapping).1.le]
    exact h.affirmed
  after := Nat.add_lt_add_left h.after _
  nearby := by
    have hnearby := h.nearby
    omega

theorem hasDirectionalWorthMapping_iff {value : String} :
    hasDirectionalWorthMapping value = true ↔
      ∃ businessStart mappingStart worthStart,
        Mapped (normalize value) businessStart mappingStart worthStart := by
  simp only [hasDirectionalWorthMapping, List.any_eq_true, Bool.and_eq_true, decide_eq_true_eq,
    Bool.not_eq_true']
  constructor
  · rintro ⟨b, hb, m, hm, ⟨hbm, haffirmed⟩, w, hw, hmw, hnear⟩
    exact ⟨b, m, w, hb, hm, hw, hbm, haffirmed, hmw, hnear⟩
  · rintro ⟨b, m, w, h⟩
    exact ⟨b, h.business, m, h.mapping, ⟨h.before, h.affirmed⟩, w, h.worth, h.after, h.nearby⟩

theorem hasDirectionalWorthMapping_append {value : String}
    (h : hasDirectionalWorthMapping value = true) (before after : String) :
    hasDirectionalWorthMapping (before ++ value ++ after) = true := by
  obtain ⟨b, m, w, hmapped⟩ := hasDirectionalWorthMapping_iff.mp h
  have hne : normalize value ≠ [] := by
    have hlength := (mem_termPositions_iff.mp hmapped.business).1
    exact List.ne_nil_of_length_pos (Nat.zero_lt_of_lt hlength)
  obtain ⟨left, right, hinfix⟩ := normalize_infix hne before after
  refine hasDirectionalWorthMapping_iff.mpr
    ⟨left.length + b, left.length + m, left.length + w, ?_⟩
  rw [← hinfix]
  exact hmapped.append left right

/-! ## Payloads -/

mutual

/-- `_strings`. -/
def strings : Analytics.Json → List String
  | .str value => [value]
  | .dict fields => fieldStrings fields
  | .list items => itemStrings items
  | .null | .bool _ | .int _ | .float _ => []

def itemStrings : List Analytics.Json → List String
  | [] => []
  | item :: items => strings item ++ itemStrings items

def fieldStrings : List (String × Analytics.Json) → List String
  | [] => []
  | field :: fields => fieldString field ++ fieldStrings fields

def fieldString : String × Analytics.Json → List String
  | (_, value) => strings value

end

/-- The text is nested in the value, in dicts and lists at any depth. -/
inductive Holds (text : String) : Analytics.Json → Prop
  | text : Holds text (.str text)
  | item {value : Analytics.Json} {items : List Analytics.Json} (h : Holds text value)
      (hitem : value ∈ items) :
      Holds text (.list items)
  | field {key : String} {value : Analytics.Json} {fields : List (String × Analytics.Json)}
      (h : Holds text value)
      (hfield : (key, value) ∈ fields) : Holds text (.dict fields)

theorem itemStrings_subset {value : Analytics.Json} {items : List Analytics.Json}
    (h : value ∈ items) :
    strings value ⊆ itemStrings items := by
  induction items with
  | nil => cases h
  | cons item items ih =>
      rw [itemStrings]
      rcases List.mem_cons.mp h with rfl | hmem
      · exact List.subset_append_left _ _
      · exact List.Subset.trans (ih hmem) (List.subset_append_right _ _)

theorem fieldStrings_subset {key : String} {value : Analytics.Json}
    {fields : List (String × Analytics.Json)}
    (h : (key, value) ∈ fields) : strings value ⊆ fieldStrings fields := by
  induction fields with
  | nil => cases h
  | cons field fields ih =>
      rw [fieldStrings]
      rcases List.mem_cons.mp h with rfl | hmem
      · exact List.subset_append_left _ _
      · exact List.Subset.trans (ih hmem) (List.subset_append_right _ _)

theorem Holds.mem_strings {text : String} {value : Analytics.Json} (h : Holds text value) :
    text ∈ strings value := by
  induction h with
  | text =>
      rw [strings]
      exact List.mem_singleton_self text
  | item _ hitem ih =>
      rw [strings]
      exact itemStrings_subset hitem ih
  | field _ hfield ih =>
      rw [strings]
      exact fieldStrings_subset hfield ih

/-- No text around a violation hides it, and no nesting does: what the detector finds in a text it
finds in every longer one, and so in every payload that holds the longer one. -/
theorem violation_not_hidden {value : String} (h : hasDirectionalWorthMapping value = true)
    (before after : String) :
    hasDirectionalWorthMapping (before ++ value ++ after) = true ∧
      ∀ payload : Analytics.Json, Holds (before ++ value ++ after) payload →
        containsHumanWorthViolation (strings payload) = true := by
  have hlonger := hasDirectionalWorthMapping_append h before after
  refine ⟨hlonger, fun payload hholds => ?_⟩
  rw [containsHumanWorthViolation, List.any_eq_true]
  exact ⟨_, hholds.mem_strings, hlonger⟩

theorem negation_around_not_hidden :
    hasDirectionalWorthMapping
        ("never: " ++ " Sales show  your real VALUE" ++ " (not rank, no discipline)") = true ∧
      ∀ payload : Analytics.Json,
        Holds ("never: " ++ " Sales show  your real VALUE" ++ " (not rank, no discipline)") payload →
          containsHumanWorthViolation (strings payload) = true :=
  violation_not_hidden (by decide +kernel) "never: " " (not rank, no discipline)"

end LaunchOS.WorthMapping
