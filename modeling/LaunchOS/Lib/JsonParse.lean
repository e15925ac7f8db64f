import LaunchOS.Lib.JsonText

/-!
# JSON read back

A parser for the texts that `Json.dumps` makes, and the round trip: a value is read back from its text,
so different values have different texts.

The module introduces:

* `Json.loads`, with one reader for each kind of value;
* `Json.Written`: every number of the value is written somehow;
* `Json.loads_dumps`: the round trip, and `Json.dumps_inj`;
* `Json.fields_eq_of_sortKeys_eq`: what is left of an object when its keys are sorted.
-/

namespace Json

/-! ## The readers -/

/-- What follows a prefix. -/
def after (front text : List Char) : Option (List Char) :=
  if front.isPrefixOf text then some (text.drop front.length) else none

/-- The value of a hexadecimal digit, as `hex4` writes them. -/
def unhex (c : Char) : Option ℕ := (List.range 16).find? fun digit => digit.digitChar = c

/-- Four hexadecimal digits. -/
def readHex4 : List Char → Option (ℕ × List Char)
  | a :: b :: c :: d :: text => do
      let a ← unhex a
      let b ← unhex b
      let c ← unhex c
      let d ← unhex d
      return (a * 4096 + b * 256 + c * 16 + d, text)
  | _ => none

/-- The code point after `\u`, which takes a second such escape where the first is a high surrogate. -/
def readUnicode (text : List Char) : Option (Char × List Char) := do
  let (high, text) ← readHex4 text
  if 0xd800 ≤ high ∧ high < 0xdc00 then
    let text ← after ['\\', 'u'] text
    let (low, text) ← readHex4 text
    return (Char.ofNat (0x10000 + (high - 0xd800) * 0x400 + (low - 0xdc00)), text)
  else return (Char.ofNat high, text)

/-- One code point of a string. -/
def readChar : List Char → Option (Char × List Char)
  | [] => none
  | c :: text =>
      if c ≠ '\\' then some (c, text)
      else
        match text with
        | [] => none
        | 'b' :: text => some (Char.ofNat 8, text)
        | 't' :: text => some (Char.ofNat 9, text)
        | 'n' :: text => some (Char.ofNat 10, text)
        | 'f' :: text => some (Char.ofNat 12, text)
        | 'r' :: text => some (Char.ofNat 13, text)
        | 'u' :: text => readUnicode text
        | c :: text => some (c, text)

/-- The code points up to the closing quote. -/
def readString : ℕ → List Char → Option (List Char × List Char)
  | 0, _ => none
  | fuel + 1, text =>
      if text.head? = some '"' then some ([], text.tail)
      else do
        let (c, text) ← readChar text
        let (rest, text) ← readString fuel text
        return (c :: rest, text)

/-- A code point that a number may be made of. -/
def isNumberChar (c : Char) : Bool := c.isDigit || numberChars.contains c

theorem all_isNumberChar_iff {word : List Char} :
    word.all isNumberChar = true ↔ ∀ c ∈ word, c.isDigit = true ∨ c ∈ numberChars := by
  simp [isNumberChar]

/-- A word or a number. -/
def ofWord (word : List Char) : Option Json :=
  if word = "null".toList then some .null
  else if word = "true".toList then some (.bool true)
  else if word = "false".toList then some (.bool false)
  else if h : word ≠ [] ∧ word.all isNumberChar = true then
    some (.number ⟨word, all_isNumberChar_iff.mp h.2⟩)
  else none

/-- What ends a word. -/
def isDelimiter (c : Char) : Bool := c = ',' || c = ']' || c = '\x7d'

/-- What a string, an array or an object begins with. -/
def opensValue (c : Char) : Bool := c = '"' || c = '[' || c = '\x7b'

/-- A code point of a word. -/
def isWordChar (c : Char) : Bool := !(isDelimiter c || opensValue c)

theorem isWordChar_iff {c : Char} :
    isWordChar c = true ↔ isDelimiter c = false ∧ opensValue c = false := by
  simp [isWordChar]

/-- A word up to the next delimiter. -/
def readWord (text : List Char) : Option (Json × List Char) := do
  let value ← ofWord (text.takeWhile fun c => !isDelimiter c)
  return (value, text.dropWhile fun c => !isDelimiter c)

section Parser

variable (sep : Separators)

mutual

/-- One value. -/
def readValue : ℕ → List Char → Option (Json × List Char)
  | 0, _ => none
  | fuel + 1, text =>
      match after ['"'] text, after ['['] text, after ['\x7b'] text with
      | some text, _, _ => do
          let (read, text) ← readString (text.length + 1) text
          return (.string read, text)
      | none, some text, _ =>
          match after [']'] text with
          | some text => some (.array [], text)
          | none => do
              let (items, text) ← readItems fuel text
              return (.array items, text)
      | none, none, some text =>
          match after ['\x7d'] text with
          | some text => some (.object [], text)
          | none => do
              let (fields, text) ← readFields fuel text
              return (.object fields, text)
      | none, none, none => readWord text

/-- The items of an array, of which there is at least one, and the bracket that closes it. -/
def readItems : ℕ → List Char → Option (List Json × List Char)
  | 0, _ => none
  | fuel + 1, text => do
      let (item, text) ← readValue fuel text
      match after sep.item text with
      | some text => do
          let (items, text) ← readItems fuel text
          return (item :: items, text)
      | none => do
          let text ← after [']'] text
          return ([item], text)

/-- The fields of an object, of which there is at least one, and the brace that closes it. -/
def readFields : ℕ → List Char → Option (List (List Char × Json) × List Char)
  | 0, _ => none
  | fuel + 1, text => do
      let (field, text) ← readField fuel text
      match after sep.item text with
      | some text => do
          let (fields, text) ← readFields fuel text
          return (field :: fields, text)
      | none => do
          let text ← after ['\x7d'] text
          return ([field], text)

/-- A key and its value. -/
def readField : ℕ → List Char → Option ((List Char × Json) × List Char)
  | 0, _ => none
  | fuel + 1, text => do
      let text ← after ['"'] text
      let (key, text) ← readString (text.length + 1) text
      let text ← after sep.key text
      let (value, text) ← readValue fuel text
      return ((key, value), text)

end

/-- The value that a text stands for, if nothing is left over. -/
def loads (text : List Char) : Option Json :=
  match readValue sep (text.length + 1) text with
  | some (value, []) => some value
  | _ => none

end Parser

/-! ## Strings -/

theorem after_append (front rest : List Char) : after front (front ++ rest) = some rest := by
  simp [after]

theorem after_cons_of_ne {c d : Char} (h : c ≠ d) (front text : List Char) :
    after (c :: front) (d :: text) = none := by
  simp [after, h]

theorem unhex_digitChar : ∀ digit < 16, unhex (Nat.digitChar digit) = some digit := by
  decide

theorem readHex4_hex4 {n : ℕ} (h : n < 0x10000) (rest : List Char) :
    readHex4 (hex4 n ++ rest) = some (n, rest) := by
  have hdigit : ∀ k, unhex (Nat.digitChar (k % 16)) = some (k % 16) := fun k =>
    unhex_digitChar _ (Nat.mod_lt k (by omega))
  have hsum : n / 4096 % 16 * 4096 + n / 256 % 16 * 256 + n / 16 % 16 * 16 + n % 16 = n := by omega
  simp [hex4, readHex4, hdigit, hsum]

/-- The code point of a character is no surrogate. -/
theorem toNat_cases (c : Char) : c.toNat < 0xd800 ∨ 0xdfff < c.toNat ∧ c.toNat < 0x110000 := c.valid

theorem readUnicode_hex4 {c : Char} (h : c.toNat < 0x10000) (rest : List Char) :
    readUnicode (hex4 c.toNat ++ rest) = some (c, rest) := by
  have hhigh : ¬(0xd800 ≤ c.toNat ∧ c.toNat < 0xdc00) := by
    have := toNat_cases c
    omega
  simp [readUnicode, readHex4_hex4 h, hhigh, Char.ofNat_toNat]

theorem readUnicode_surrogates {high low : ℕ} (hhigh : high < 0x400) (hlow : low < 0x400)
    (rest : List Char) :
    readUnicode (hex4 (0xd800 + high) ++ '\\' :: 'u' :: (hex4 (0xdc00 + low) ++ rest)) =
      some (Char.ofNat (0x10000 + high * 0x400 + low), rest) := by
  have hrange : 0xd800 ≤ 0xd800 + high ∧ 0xd800 + high < 0xdc00 := by omega
  have hescape : ∀ text, after ['\\', 'u'] ('\\' :: 'u' :: text) = some text := fun text =>
    after_append ['\\', 'u'] text
  have hfirst := readHex4_hex4 (n := 0xd800 + high) (by omega)
  have hsecond := readHex4_hex4 (n := 0xdc00 + low) (by omega)
  simp only [readUnicode, hfirst, hsecond, hescape, hrange, Option.bind_eq_bind, Option.bind_some,
    and_self, if_true, Nat.add_sub_cancel_left, Option.pure_def]

/-- What a code point is written as does not begin like the end of the string. -/
theorem exists_escapeChar_eq_cons (c : Char) : ∃ d text, escapeChar c = d :: text ∧ d ≠ '"' := by
  unfold escapeChar
  dsimp only
  split
  next => exact ⟨'\\', _, rfl, by decide⟩
  next hquote =>
    repeat' split
    all_goals first
      | exact ⟨'\\', _, rfl, by decide⟩
      | exact ⟨c, [], rfl, hquote⟩

theorem readChar_escapeChar (c : Char) (rest : List Char) :
    readChar (escapeChar c ++ rest) = some (c, rest) := by
  have hof : ∀ {n : ℕ}, c.toNat = n → Char.ofNat n = c := by
    rintro _ rfl
    exact Char.ofNat_toNat c
  unfold escapeChar
  dsimp only
  split
  next hquote => subst hquote; rfl
  split
  next hslash => subst hslash; rfl
  next hslash =>
    split
    next h => simpa [readChar] using hof h
    split
    next h => simpa [readChar] using hof h
    split
    next h => simpa [readChar] using hof h
    split
    next h => simpa [readChar] using hof h
    split
    next h => simpa [readChar] using hof h
    split
    next => simp [readChar, hslash]
    split
    next hsmall => exact readUnicode_hex4 hsmall rest
    next hlarge =>
      -- a pair of surrogates, each half of ten bits
      have hvalid := toNat_cases c
      have hhigh : (c.toNat - 0x10000) / 0x400 < 0x400 := by omega
      have hlow : (c.toNat - 0x10000) % 0x400 < 0x400 := by omega
      have hpair := readUnicode_surrogates hhigh hlow rest
      have hsum : 0x10000 + (c.toNat - 0x10000) / 0x400 * 0x400 +
          (c.toNat - 0x10000) % 0x400 = c.toNat := by omega
      rw [hsum, Char.ofNat_toNat] at hpair
      rw [← hpair]
      simp [readChar]

theorem readString_escape (text rest : List Char) {fuel : ℕ} (h : text.length < fuel) :
    readString fuel (escape text ++ '"' :: rest) = some (text, rest) := by
  induction text generalizing fuel with
  | nil =>
      obtain ⟨fuel, rfl⟩ := Nat.exists_eq_succ_of_ne_zero (Nat.ne_of_gt h)
      rfl
  | cons c text ih =>
      obtain ⟨fuel, rfl⟩ := Nat.exists_eq_succ_of_ne_zero (Nat.ne_of_gt (Nat.zero_lt_of_lt h))
      have hcons : escape (c :: text) ++ '"' :: rest =
          escapeChar c ++ (escape text ++ '"' :: rest) := by
        simp [escape]
      have hhead : (escapeChar c ++ (escape text ++ '"' :: rest)).head? ≠ some '"' := by
        obtain ⟨d, more, hd, hne⟩ := exists_escapeChar_eq_cons c
        simp [hd, hne]
      rw [hcons, readString, if_neg hhead, readChar_escapeChar]
      simp [ih (Nat.lt_of_succ_lt_succ h)]

theorem length_le_length_escape (text : List Char) : text.length ≤ (escape text).length := by
  induction text with
  | nil => rfl
  | cons c text ih =>
      have hone : 1 ≤ (escapeChar c).length := by
        obtain ⟨d, more, hd, -⟩ := exists_escapeChar_eq_cons c
        simp [hd]
      have hcons : escape (c :: text) = escapeChar c ++ escape text := rfl
      rw [hcons, List.length_append, List.length_cons]
      omega

/-- A string that is followed by anything. -/
theorem readString_quoted (text rest : List Char) :
    readString ((escape text ++ '"' :: rest).length + 1) (escape text ++ '"' :: rest) =
      some (text, rest) := by
  apply readString_escape
  have := length_le_length_escape text
  simp only [List.length_append]
  omega

/-! ## Words -/

/-- Nothing follows, or a delimiter. -/
def Ends (rest : List Char) : Prop := ∀ c ∈ rest.head?, isDelimiter c = true

theorem Ends.cons {c : Char} (h : isDelimiter c = true) (rest : List Char) : Ends (c :: rest) := by
  simp [Ends, h]

theorem ofWord_number (n : Number) (h : n.text ≠ []) : ofWord n.text = some (.number n) := by
  have hnot : ∀ c, c.isDigit = false → c ∉ numberChars → c ∉ n.text := by
    intro c hdigit hchar hmem
    rcases n.plain c hmem with hd | hc
    · exact Bool.false_ne_true (hdigit.symm.trans hd)
    · exact hchar hc
  -- each of the three words has a letter that no number has
  have hnull : n.text ≠ "null".toList := fun h => hnot 'u' rfl (by decide) (h ▸ by decide)
  have htrue : n.text ≠ "true".toList := fun h => hnot 'r' rfl (by decide) (h ▸ by decide)
  have hfalse : n.text ≠ "false".toList := fun h => hnot 'l' rfl (by decide) (h ▸ by decide)
  rw [ofWord, if_neg hnull, if_neg htrue, if_neg hfalse, dif_pos ⟨h, all_isNumberChar_iff.mpr n.plain⟩]

/-- No number has a delimiter, or what a string, an array or an object begins with. -/
theorem isWordChar_of_number (n : Number) : n.text.all isWordChar = true := by
  apply List.all_eq_true.mpr
  intro c hc
  rcases n.plain c hc with hdigit | hchar
  · by_contra hmark
    simp only [isWordChar, isDelimiter, opensValue, Bool.not_eq_true, Bool.not_eq_false',
      Bool.or_eq_true, decide_eq_true_eq] at hmark
    rcases hmark with ((rfl | rfl) | rfl) | ((rfl | rfl) | rfl) <;>
      exact absurd hdigit (by decide)
  · exact List.all_eq_true.mp (show numberChars.all isWordChar = true by decide) c hchar

theorem readWord_append {word rest : List Char} {value : Json} (hvalue : ofWord word = some value)
    (hword : ∀ c ∈ word, isDelimiter c = false) (hrest : Ends rest) :
    readWord (word ++ rest) = some (value, rest) := by
  have hin : ∀ c ∈ word, (!isDelimiter c) = true := fun c hc => by simp [hword c hc]
  have hstop : rest.takeWhile (fun c => !isDelimiter c) = [] ∧
      rest.dropWhile (fun c => !isDelimiter c) = rest := by
    cases rest with
    | nil => exact ⟨rfl, rfl⟩
    | cons c rest =>
        have hc : isDelimiter c = true := hrest c rfl
        simp [hc]
  have htake : (word ++ rest).takeWhile (fun c => !isDelimiter c) = word := by
    rw [List.takeWhile_append_of_pos hin, hstop.1, List.append_nil]
  have hdrop : (word ++ rest).dropWhile (fun c => !isDelimiter c) = rest := by
    rw [List.dropWhile_append_of_pos hin, hstop.2]
  simp [readWord, htake, hdrop, hvalue]

/-! ## The round trip -/

mutual

/-- Every number of the value is written somehow. -/
def Written : Json → Prop
  | .number n => n.text ≠ []
  | .array items => WrittenItems items
  | .object fields => WrittenFields fields
  | .null | .bool _ | .string _ => True

def WrittenItems : List Json → Prop
  | [] => True
  | item :: items => Written item ∧ WrittenItems items

def WrittenFields : List (List Char × Json) → Prop
  | [] => True
  | field :: fields => WrittenField field ∧ WrittenFields fields

def WrittenField : List Char × Json → Prop
  | (_, value) => Written value

end

/-- A separator that tells where an item ends. -/
def Separators.Readable (sep : Separators) : Prop := sep.item.head? = some ','

theorem Separators.Readable.ends {sep : Separators} (h : sep.Readable) (rest : List Char) :
    Ends (sep.item ++ rest) := by
  obtain ⟨more, hitem⟩ := List.head?_eq_some_iff.mp h
  rw [hitem]
  exact Ends.cons (by decide) _

theorem Separators.Readable.after_cons {sep : Separators} (h : sep.Readable) {c : Char} (hc : c ≠ ',')
    (rest : List Char) : after sep.item (c :: rest) = none := by
  obtain ⟨more, hitem⟩ := List.head?_eq_some_iff.mp h
  rw [hitem]
  exact after_cons_of_ne hc.symm more rest

theorem Separators.Readable.length_pos {sep : Separators} (h : sep.Readable) :
    0 < sep.item.length := by
  obtain ⟨more, hitem⟩ := List.head?_eq_some_iff.mp h
  simp [hitem]

theorem textOf_cons (tok : Token) (toks : List Token) :
    textOf (tok :: toks) = tok.text ++ textOf toks := rfl

theorem textOf_append (toks toks' : List Token) :
    textOf (toks ++ toks') = textOf toks ++ textOf toks' := by
  simp [textOf]

section RoundTrip

variable {sep : Separators}

/-- The text of a value begins with a code point that is no delimiter. -/
theorem exists_text_eq_cons (sep : Separators) {value : Json} (h : value.Written) :
    ∃ c text, textOf (value.tokens sep) = c :: text ∧ isDelimiter c = false := by
  cases value with
  | null => exact ⟨'n', _, rfl, by decide⟩
  | bool b => cases b <;> exact ⟨_, _, rfl, by decide⟩
  | string text => exact ⟨'"', _, rfl, by decide⟩
  | array items => exact ⟨'[', _, rfl, by decide⟩
  | object fields => exact ⟨'\x7b', _, rfl, by decide⟩
  | number n =>
      obtain ⟨c, text, htext⟩ := List.exists_cons_of_ne_nil (show n.text ≠ [] from h)
      have hc := List.all_eq_true.mp (isWordChar_of_number n) c (by simp [htext])
      refine ⟨c, text, ?_, (isWordChar_iff.mp hc).1⟩
      simp [tokens, textOf, Token.text, htext]

/-- A word does not begin like a string, an array or an object. -/
theorem readValue_word (word : List Char) {rest : List Char} {value : Json}
    (hvalue : ofWord word = some value) (hplain : word.all isWordChar = true) (hne : word ≠ [])
    (hrest : Ends rest) (fuel : ℕ) :
    readValue sep (fuel + 1) (word ++ rest) = some (value, rest) := by
  have hchars := fun c hc => isWordChar_iff.mp (List.all_eq_true.mp hplain c hc)
  have hword := readWord_append hvalue (fun c hc => (hchars c hc).1) hrest
  obtain ⟨c, text, rfl⟩ := List.exists_cons_of_ne_nil hne
  have hc := (hchars c List.mem_cons_self).2
  simp only [opensValue, Bool.or_eq_false_iff, decide_eq_false_iff_not] at hc
  obtain ⟨⟨hquote, hbracket⟩, hbrace⟩ := hc
  rw [readValue, List.cons_append, after_cons_of_ne (Ne.symm hquote),
    after_cons_of_ne (Ne.symm hbracket), after_cons_of_ne (Ne.symm hbrace)]
  exact hword

theorem readValue_number (n : Number) (h : n.text ≠ []) {rest : List Char} (hrest : Ends rest)
    (fuel : ℕ) : readValue sep (fuel + 1) (n.text ++ rest) = some (.number n, rest) :=
  readValue_word _ (ofWord_number n h) (isWordChar_of_number n) h hrest fuel

theorem itemTokens_cons_cons (item item' : Json) (items : List Json) :
    itemTokens sep (item :: item' :: items) =
      item.tokens sep ++ .mark sep.item :: itemTokens sep (item' :: items) := by
  simp [itemTokens]

theorem fieldTokens_cons_cons (field field' : List Char × Json)
    (fields : List (List Char × Json)) :
    fieldTokens sep (field :: field' :: fields) =
      fieldToken sep field ++ .mark sep.item :: fieldTokens sep (field' :: fields) := by
  simp [fieldTokens]

/-- The text of the items of an array begins with that of the first one. -/
theorem exists_items_eq_cons (sep : Separators) {item : Json} (h : item.Written) (items : List Json) :
    ∃ c text, textOf (itemTokens sep (item :: items)) = c :: text ∧ isDelimiter c = false := by
  obtain ⟨c, text, hc, hd⟩ := exists_text_eq_cons sep h
  cases items with
  | nil => exact ⟨c, text, hc, hd⟩
  | cons item' items =>
      refine ⟨c, text ++ textOf (.mark sep.item :: itemTokens sep (item' :: items)), ?_, hd⟩
      rw [itemTokens_cons_cons, textOf_append, hc, List.cons_append]

theorem exists_fields_eq_cons (sep : Separators) (field : List Char × Json)
    (fields : List (List Char × Json)) :
    ∃ text, textOf (fieldTokens sep (field :: fields)) = '"' :: text := by
  obtain ⟨key, value⟩ := field
  cases fields <;> exact ⟨_, by simp only [fieldTokens, fieldToken]; rfl⟩

section Steps

variable {fuel : ℕ} {text rest more : List Char}

theorem readItems_last (hsep : sep.Readable) {item : Json}
    (h : readValue sep fuel text = some (item, ']' :: rest)) :
    readItems sep (fuel + 1) text = some ([item], rest) := by
  have hclose : after [']'] (']' :: rest) = some rest := after_append [']'] rest
  rw [readItems, h]
  simp [hsep.after_cons (show ']' ≠ ',' by decide), hclose]

theorem readItems_more {item : Json} {items : List Json}
    (h : readValue sep fuel text = some (item, sep.item ++ more))
    (hmore : readItems sep fuel more = some (items, rest)) :
    readItems sep (fuel + 1) text = some (item :: items, rest) := by
  rw [readItems, h]
  simp [after_append, hmore]

theorem readFields_last (hsep : sep.Readable) {field : List Char × Json}
    (h : readField sep fuel text = some (field, '\x7d' :: rest)) :
    readFields sep (fuel + 1) text = some ([field], rest) := by
  have hclose : after ['\x7d'] ('\x7d' :: rest) = some rest := after_append ['\x7d'] rest
  rw [readFields, h]
  simp [hsep.after_cons (show '\x7d' ≠ ',' by decide), hclose]

theorem readFields_more {field : List Char × Json} {fields : List (List Char × Json)}
    (h : readField sep fuel text = some (field, sep.item ++ more))
    (hmore : readFields sep fuel more = some (fields, rest)) :
    readFields sep (fuel + 1) text = some (field :: fields, rest) := by
  rw [readFields, h]
  simp [after_append, hmore]

theorem readField_quoted {key : List Char} {value : Json}
    (h : readValue sep fuel text = some (value, rest)) :
    readField sep (fuel + 1) ('"' :: (escape key ++ '"' :: (sep.key ++ text))) =
      some ((key, value), rest) := by
  have hopen : ∀ more, after ['"'] ('"' :: more) = some more := after_append ['"']
  rw [readField, hopen]
  show (readString _ _ >>= fun _ => _) = _
  rw [readString_quoted]
  simp [after_append, h]

end Steps

-- one more step of fuel for each code point that is read is enough
mutual

theorem readValue_tokens (hsep : sep.Readable) {value : Json} (h : value.Written)
    {rest : List Char} (hrest : Ends rest) {fuel : ℕ}
    (hfuel : (textOf (value.tokens sep)).length < fuel) :
    readValue sep fuel (textOf (value.tokens sep) ++ rest) = some (value, rest) := by
  obtain ⟨fuel, rfl⟩ := Nat.exists_eq_succ_of_ne_zero (Nat.ne_of_gt (Nat.zero_lt_of_lt hfuel))
  cases value with
  | null => exact readValue_word "null".toList rfl (by decide) (by decide) hrest fuel
  | bool b =>
      cases b with
      | true => exact readValue_word "true".toList rfl (by decide) (by decide) hrest fuel
      | false =>
          exact readValue_word "false".toList rfl (by decide) (by decide) hrest fuel
  | number n =>
      have htext : textOf ((Json.number n).tokens sep) = n.text := by
        simp [tokens, textOf, Token.text]
      rw [htext]
      exact readValue_number n h hrest fuel
  | string text =>
      have htext : textOf ((Json.string text).tokens sep) ++ rest =
          '"' :: (escape text ++ '"' :: rest) := by
        simp [tokens, textOf, Token.text]
      have hopen : ∀ more, after ['"'] ('"' :: more) = some more := after_append ['"']
      rw [htext, readValue, hopen]
      show (readString _ _ >>= fun _ => _) = _
      rw [readString_quoted]
      rfl
  | array items =>
      have hopen : ∀ more, after ['['] ('[' :: more) = some more := after_append ['[']
      cases items with
      | nil =>
          have htext : textOf ((Json.array []).tokens sep) ++ rest = '[' :: ']' :: rest := rfl
          have hclose : after [']'] (']' :: rest) = some rest := after_append [']'] rest
          rw [htext, readValue, after_cons_of_ne (by decide), hopen]
          simp [hclose]
      | cons item items =>
          have htext : textOf ((Json.array (item :: items)).tokens sep) =
              '[' :: (textOf (itemTokens sep (item :: items)) ++ [']']) := by
            simp [tokens, textOf, Token.text]
          rw [htext] at hfuel ⊢
          have hroom : (textOf (itemTokens sep (item :: items))).length + 1 < fuel := by
            simp at hfuel
            omega
          have hitems := fun more => readItems_tokens hsep (List.cons_ne_nil item items) h more hroom
          have hfirst : after [']'] (textOf (itemTokens sep (item :: items)) ++ ']' :: rest) =
              none := by
            obtain ⟨c, text, hc, hd⟩ := exists_items_eq_cons sep h.1 items
            rw [hc, List.cons_append]
            exact after_cons_of_ne (by rintro rfl; cases hd) _ _
          rw [List.cons_append, List.append_assoc, List.singleton_append, readValue,
            after_cons_of_ne (by decide), hopen]
          simp [hfirst, hitems]
  | object fields =>
      have hopen : ∀ more, after ['\x7b'] ('\x7b' :: more) = some more := after_append ['\x7b']
      cases fields with
      | nil =>
          have htext : textOf ((Json.object []).tokens sep) ++ rest = '\x7b' :: '\x7d' :: rest := rfl
          have hclose : after ['\x7d'] ('\x7d' :: rest) = some rest := after_append ['\x7d'] rest
          rw [htext, readValue, after_cons_of_ne (by decide), after_cons_of_ne (by decide), hopen]
          simp [hclose]
      | cons field fields =>
          have htext : textOf ((Json.object (field :: fields)).tokens sep) =
              '\x7b' :: (textOf (fieldTokens sep (field :: fields)) ++ ['\x7d']) := by
            simp [tokens, textOf, Token.text]
          rw [htext] at hfuel ⊢
          have hroom : (textOf (fieldTokens sep (field :: fields))).length + 1 < fuel := by
            simp at hfuel
            omega
          have hfields := fun more => readFields_tokens hsep (List.cons_ne_nil field fields) h more hroom
          have hfirst : after ['\x7d'] (textOf (fieldTokens sep (field :: fields)) ++ '\x7d' :: rest) =
              none := by
            obtain ⟨text, hc⟩ := exists_fields_eq_cons sep field fields
            rw [hc, List.cons_append]
            exact after_cons_of_ne (by decide) _ _
          rw [List.cons_append, List.append_assoc, List.singleton_append, readValue,
            after_cons_of_ne (by decide), after_cons_of_ne (by decide), hopen]
          simp [hfirst, hfields]

theorem readItems_tokens (hsep : sep.Readable) {items : List Json} (hne : items ≠ [])
    (h : WrittenItems items) (rest : List Char) {fuel : ℕ}
    (hfuel : (textOf (itemTokens sep items)).length + 1 < fuel) :
    readItems sep fuel (textOf (itemTokens sep items) ++ ']' :: rest) = some (items, rest) := by
  obtain ⟨fuel, rfl⟩ := Nat.exists_eq_succ_of_ne_zero (Nat.ne_of_gt (Nat.zero_lt_of_lt hfuel))
  have hpos := hsep.length_pos
  match items with
  | [] => exact absurd rfl hne
  | [item] =>
      rw [itemTokens] at hfuel ⊢
      exact readItems_last hsep (readValue_tokens hsep h.1 (Ends.cons (by decide) rest) (by omega))
  | item :: item' :: items =>
      rw [itemTokens_cons_cons, textOf_append, textOf_cons, Token.text] at hfuel ⊢
      simp only [List.length_append] at hfuel
      rw [List.append_assoc, List.append_assoc]
      exact readItems_more (readValue_tokens hsep h.1 (hsep.ends _) (by omega))
        (readItems_tokens hsep (List.cons_ne_nil item' items) h.2 rest (by omega))

theorem readFields_tokens (hsep : sep.Readable) {fields : List (List Char × Json)} (hne : fields ≠ [])
    (h : WrittenFields fields) (rest : List Char) {fuel : ℕ}
    (hfuel : (textOf (fieldTokens sep fields)).length + 1 < fuel) :
    readFields sep fuel (textOf (fieldTokens sep fields) ++ '\x7d' :: rest) = some (fields, rest) := by
  obtain ⟨fuel, rfl⟩ := Nat.exists_eq_succ_of_ne_zero (Nat.ne_of_gt (Nat.zero_lt_of_lt hfuel))
  have hpos := hsep.length_pos
  match fields with
  | [] => exact absurd rfl hne
  | [field] =>
      rw [fieldTokens] at hfuel ⊢
      exact readFields_last hsep (readField_tokens hsep h.1 (Ends.cons (by decide) rest) (by omega))
  | field :: field' :: fields =>
      rw [fieldTokens_cons_cons, textOf_append, textOf_cons, Token.text] at hfuel ⊢
      simp only [List.length_append] at hfuel
      rw [List.append_assoc, List.append_assoc]
      exact readFields_more (readField_tokens hsep h.1 (hsep.ends _) (by omega))
        (readFields_tokens hsep (List.cons_ne_nil field' fields) h.2 rest (by omega))

theorem readField_tokens (hsep : sep.Readable) {field : List Char × Json} (h : WrittenField field)
    {rest : List Char} (hrest : Ends rest) {fuel : ℕ}
    (hfuel : (textOf (fieldToken sep field)).length < fuel) :
    readField sep fuel (textOf (fieldToken sep field) ++ rest) = some (field, rest) := by
  obtain ⟨fuel, rfl⟩ := Nat.exists_eq_succ_of_ne_zero (Nat.ne_of_gt (Nat.zero_lt_of_lt hfuel))
  match field with
  | (key, value) =>
      have htext : ∀ more, textOf (fieldToken sep (key, value)) ++ more =
          '"' :: (escape key ++ '"' :: (sep.key ++ (textOf (value.tokens sep) ++ more))) := by
        intro more
        simp [fieldToken, textOf_cons, Token.text]
      have hlength := congrArg List.length (htext [])
      simp only [List.length_append, List.length_cons, List.length_nil] at hlength
      rw [htext]
      exact readField_quoted (readValue_tokens hsep h hrest (by omega))

end

/-- A value is read back from its text. -/
theorem loads_dumps (hsep : sep.Readable) {value : Json} (h : value.Written) :
    loads sep (value.dumps sep) = some value := by
  have hends : Ends [] := by simp [Ends]
  have hread := readValue_tokens hsep h hends (Nat.lt_succ_self _)
  rw [List.append_nil] at hread
  rw [loads, Json.dumps, hread]

/-- Different values have different texts. -/
theorem dumps_inj (hsep : sep.Readable) {value value' : Json} (h : value.Written)
    (h' : value'.Written) : value.dumps sep = value'.dumps sep ↔ value = value' := by
  constructor
  · intro heq
    have hread := loads_dumps hsep h
    rw [heq, loads_dumps hsep h'] at hread
    exact (Option.some.inj hread).symm
  · rintro rfl
    rfl

end RoundTrip

/-! ## Sorted keys -/

theorem sortKeysFields_eq_map (fields : List (List Char × Json)) :
    sortKeysFields fields = fields.map fun field => (field.1, field.2.sortKeys) := by
  induction fields with
  | nil => rfl
  | cons field fields ih => rw [sortKeysFields, ih, List.map_cons, sortKeysField]

theorem sortKeysItems_eq_map (items : List Json) : sortKeysItems items = items.map sortKeys := by
  induction items with
  | nil => rfl
  | cons item items ih => rw [sortKeysItems, ih, List.map_cons]

theorem writtenItems_iff {items : List Json} :
    WrittenItems items ↔ ∀ item ∈ items, item.Written := by
  induction items with
  | nil => simp [WrittenItems]
  | cons item items ih => simp [WrittenItems, ih]

theorem writtenFields_iff {fields : List (List Char × Json)} :
    WrittenFields fields ↔ ∀ field ∈ fields, field.2.Written := by
  induction fields with
  | nil => simp [WrittenFields]
  | cons field fields ih =>
      obtain ⟨key, value⟩ := field
      simp [WrittenFields, WrittenField, ih]

mutual

theorem written_sortKeys {value : Json} (h : value.Written) : value.sortKeys.Written := by
  cases value with
  | null => trivial
  | bool b => trivial
  | number n => exact h
  | string text => trivial
  | array items => exact written_sortKeysItems h
  | object fields =>
      show WrittenFields (Sorting.sortByKey Prod.fst (sortKeysFields fields))
      have hfields := writtenFields_iff.mp (written_sortKeysFields h)
      exact writtenFields_iff.mpr fun field hfield => hfields field (Sorting.mem_sortByKey.mp hfield)

theorem written_sortKeysItems {items : List Json} (h : WrittenItems items) :
    WrittenItems (sortKeysItems items) := by
  match items with
  | [] => trivial
  | item :: items => exact ⟨written_sortKeys h.1, written_sortKeysItems h.2⟩

theorem written_sortKeysFields {fields : List (List Char × Json)} (h : WrittenFields fields) :
    WrittenFields (sortKeysFields fields) := by
  match fields with
  | [] => trivial
  | (key, value) :: fields => exact ⟨written_sortKeys h.1, written_sortKeysFields h.2⟩

end

/-- Two objects with the same distinct keys, in one order, have the same fields if they are the same
after their keys have been sorted. -/
theorem fields_eq_of_sortKeys_eq {fields fields' : List (List Char × Json)}
    (hkeys : fields.map Prod.fst = fields'.map Prod.fst) (hnodup : (fields.map Prod.fst).Nodup)
    (h : (object fields).sortKeys = (object fields').sortKeys) :
    fields.map (fun field => (field.1, field.2.sortKeys)) =
      fields'.map fun field => (field.1, field.2.sortKeys) := by
  rw [sortKeys, sortKeys, object.injEq, sortKeysFields_eq_map, sortKeysFields_eq_map] at h
  have hperm : (fields.map fun field => (field.1, field.2.sortKeys)).Perm
      (fields'.map fun field => (field.1, field.2.sortKeys)) :=
    (Sorting.perm_sortByKey Prod.fst _).symm.trans (h ▸ Sorting.perm_sortByKey Prod.fst _)
  have hkeys' : (fields.map fun field => (field.1, field.2.sortKeys)).map Prod.fst =
      (fields'.map fun field => (field.1, field.2.sortKeys)).map Prod.fst := by
    simpa [Function.comp_def] using hkeys
  apply Sorting.eq_of_perm_of_keys hperm hkeys'
  simpa [Function.comp_def] using hnodup

end Json
