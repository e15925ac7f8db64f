import Mathlib.Data.List.Basic
import Mathlib.Data.List.Lex
import Mathlib.Data.Char
import LaunchOS.Lib.SortByKey

/-!
# JSON as text

JSON values, and the text that `json.dumps` makes of them with `ensure_ascii`. Texts are lists of code
points.

The module introduces:

* `Json`, `Json.dumps`: values, and their text as the sequence of `Json.tokens`;
* `Json.written`: what the first `k` code points of a text hold of its strings;
* `Json.Scan`, `Json.Scan.take`: a scan that does not look past a quote finds in a text what it finds
  in one of its strings, wherever the text is cut.
-/

universe u

/-! ## Values -/

/-- The code points of a number that are no digits. -/
def Json.numberChars : List Char := "+-.INaefinty".toList

/-- A number, as it is written. -/
structure Json.Number where
  text : List Char
  plain : ∀ c ∈ text, c.isDigit = true ∨ c ∈ Json.numberChars

def Json.Number.ofNat (n : ℕ) : Json.Number where
  text := Nat.toDigits 10 n
  plain _ hc := .inl (Nat.isDigit_of_mem_toDigits (by decide) (by decide) hc)

/-- A JSON value. The fields of an object stand in the order in which they are written. -/
inductive Json
  | null
  | bool (b : Bool)
  | number (n : Json.Number)
  | string (text : List Char)
  | array (items : List Json)
  | object (fields : List (List Char × Json))

namespace Json

/-- The separators between the items, and between a key and its value. -/
structure Separators where
  item : List Char
  key : List Char

/-- The separators of `json.dumps`. -/
def Separators.spaced : Separators := ⟨", ".toList, ": ".toList⟩

/-- `separators=(",", ":")` -/
def Separators.compact : Separators := ⟨",".toList, ":".toList⟩

/-! ## Texts -/

/-- Four hexadecimal digits. -/
def hex4 (n : ℕ) : List Char :=
  [n / 4096 % 16, n / 256 % 16, n / 16 % 16, n % 16].map Nat.digitChar

/-- A code point within a string: printable ASCII stands for itself. -/
def escapeChar (c : Char) : List Char :=
  let n := c.toNat
  if c = '"' then ['\\', '"']
  else if c = '\\' then ['\\', '\\']
  else if n = 8 then ['\\', 'b']
  else if n = 9 then ['\\', 't']
  else if n = 10 then ['\\', 'n']
  else if n = 12 then ['\\', 'f']
  else if n = 13 then ['\\', 'r']
  else if 32 ≤ n ∧ n ≤ 126 then [c]
  else if n < 0x10000 then '\\' :: 'u' :: hex4 n
  else
    '\\' :: 'u' :: hex4 (0xd800 + (n - 0x10000) / 0x400) ++
      '\\' :: 'u' :: hex4 (0xdc00 + (n - 0x10000) % 0x400)

def escape (text : List Char) : List Char := text.flatMap escapeChar

/-- A string, or what stands between the strings. -/
inductive Token
  | mark (text : List Char)
  | quoted (text : List Char)
deriving DecidableEq

def Token.text : Token → List Char
  | .mark text => text
  | .quoted text => '"' :: escape text ++ ['"']

section Tokens

variable (sep : Separators)

mutual

/-- The tokens of a value. -/
def tokens : Json → List Token
  | .null => [.mark "null".toList]
  | .bool true => [.mark "true".toList]
  | .bool false => [.mark "false".toList]
  | .number n => [.mark n.text]
  | .string text => [.quoted text]
  | .array items => .mark ['['] :: itemTokens items ++ [.mark [']']]
  | .object fields => .mark ['\x7b'] :: fieldTokens fields ++ [.mark ['\x7d']]

def itemTokens : List Json → List Token
  | [] => []
  | [item] => tokens item
  | item :: items => tokens item ++ .mark sep.item :: itemTokens items

def fieldTokens : List (List Char × Json) → List Token
  | [] => []
  | [field] => fieldToken field
  | field :: fields => fieldToken field ++ .mark sep.item :: fieldTokens fields

def fieldToken : List Char × Json → List Token
  | (key, value) => .quoted key :: .mark sep.key :: tokens value

end

end Tokens

def textOf (tokens : List Token) : List Char := tokens.flatMap Token.text

mutual

/-- The value with the fields of its objects in the order of their keys. -/
def sortKeys : Json → Json
  | .array items => .array (sortKeysItems items)
  | .object fields => .object (Sorting.sortByKey Prod.fst (sortKeysFields fields))
  | .null => .null
  | .bool b => .bool b
  | .number n => .number n
  | .string text => .string text

def sortKeysItems : List Json → List Json
  | [] => []
  | item :: items => sortKeys item :: sortKeysItems items

def sortKeysFields : List (List Char × Json) → List (List Char × Json)
  | [] => []
  | field :: fields => sortKeysField field :: sortKeysFields fields

def sortKeysField : List Char × Json → List Char × Json
  | (key, value) => (key, sortKeys value)

end

/-- `json.dumps(value, sort_keys=True, ensure_ascii=True)`, of a value with sorted keys -/
def dumps (sep : Separators) (value : Json) : List Char := textOf (value.tokens sep)

/-- What the first `k` code points of the text hold of the strings: each as it is written, up to its
quote or up to `tail`, which stands in the place of what is cut off. -/
def written (tail : List Char) : ℕ → List Token → List (List Char)
  | _, [] => []
  | k, .mark text :: rest => written tail (k - text.length) rest
  | 0, .quoted _ :: _ => []
  | k + 1, .quoted text :: rest =>
      if k ≤ (escape text).length then [(escape text).take k ++ tail]
      else (escape text ++ ['"']) :: written tail (k - (escape text).length - 1) rest

/-! ## Scans -/

/-- A scan that does not look past a quote, for something that needs a `trigger`. -/
structure Scan (scan : List Char → Bool) (trigger : Char) : Prop where
  trigger_ne : trigger ≠ '"'
  quote : ∀ body more, scan (body ++ '"' :: more) = (scan (body ++ ['"']) || scan more)
  quiet : ∀ text, trigger ∉ text → scan text = false

/-- The token has the trigger in a string only. -/
def Token.Quiet (trigger : Char) : Token → Prop
  | .mark text => trigger ∉ text
  | .quoted _ => True

section Scan

variable {scan : List Char → Bool} {trigger : Char} (h : Scan scan trigger)
include h

/-- Nothing is found before the first quote. -/
theorem Scan.quoted {front : List Char} (hfront : trigger ∉ front)
    (more : List Char) : scan (front ++ '"' :: more) = scan more := by
  have hnone : scan (front ++ ['"']) = false := h.quiet _ (by simp [hfront, h.trigger_ne])
  rw [h.quote, hnone, Bool.false_or]

/-- What is found in the first `k` code points of a text, or in what stands for the rest, is found in
one of the strings. -/
theorem Scan.take {tail : List Char} (htail : trigger ∉ tail) {toks : List Token}
    (htoks : ∀ tok ∈ toks, tok.Quiet trigger) (k : ℕ) {front : List Char} (hfront : trigger ∉ front) :
    scan (front ++ (textOf toks).take k ++ tail) = (written tail k toks).any scan := by
  induction toks generalizing k front with
  | nil =>
      refine h.quiet _ ?_
      simp [textOf, hfront, htail]
  | cons tok toks ih =>
      have hrest : ∀ tok ∈ toks, tok.Quiet trigger := fun tok htok =>
        htoks tok (List.mem_cons_of_mem _ htok)
      have htok := htoks tok List.mem_cons_self
      have htext : textOf (tok :: toks) = tok.text ++ textOf toks := rfl
      cases tok with
      | mark text =>
          have hcut : trigger ∉ text.take k := fun hmem => htok (List.mem_of_mem_take hmem)
          have hih := ih hrest (k - text.length)
            (show trigger ∉ front ++ text.take k by simp [hfront, hcut])
          rw [htext, Token.text, List.take_append, written, ← hih]
          simp only [List.append_assoc]
      | quoted text =>
          cases k with
          | zero =>
              refine h.quiet _ ?_
              simp [hfront, htail]
          | succ k =>
              -- the string is cut, or it is whole and the rest follows
              have hcons : (textOf (.quoted text :: toks)).take (k + 1) =
                  '"' :: (escape text ++ '"' :: textOf toks).take k := by
                simp [htext, Token.text]
              rw [hcons, List.append_assoc, List.cons_append, h.quoted hfront, written]
              split
              next hle =>
                rw [List.take_append_of_le_length hle]
                simp
              next hlt =>
                obtain ⟨j, rfl⟩ := Nat.exists_eq_add_of_lt (Nat.lt_of_not_le hlt)
                have hih := ih hrest j (show trigger ∉ [] by simp)
                rw [List.nil_append] at hih
                have htake : (escape text ++ '"' :: textOf toks).take
                    ((escape text).length + j + 1) =
                    escape text ++ '"' :: (textOf toks).take j := by
                  rw [Nat.add_assoc, List.take_length_add_append, List.take_succ_cons]
                have hj : (escape text).length + j + 1 - (escape text).length - 1 = j := by omega
                rw [htake, List.append_assoc, List.cons_append, h.quote, hih, hj, List.any_cons]

end Scan

/-! ## The tokens of a value -/

/-- The code points between the strings, digits and separators aside. -/
def markChars : List Char := "[]\x7b\x7dfalsentrue".toList ++ numberChars

/-- Nothing between the strings is the trigger. -/
structure Separators.Quiet (trigger : Char) (sep : Separators) : Prop where
  digit : trigger.isDigit = false
  marks : trigger ∉ markChars
  item : trigger ∉ sep.item
  key : trigger ∉ sep.key

section Quiet

variable {trigger : Char} {sep : Separators}

/-- A token of such code points. -/
theorem Token.quiet_mark {text : List Char} (hmark : trigger ∉ markChars)
    (htext : text ⊆ markChars) : Token.Quiet trigger (.mark text) := fun hmem => hmark (htext hmem)

mutual

theorem quiet_tokens (h : sep.Quiet trigger) (value : Json) :
    ∀ tok ∈ value.tokens sep, tok.Quiet trigger := by
  cases value with
  | null =>
      simp only [tokens, List.forall_mem_singleton]
      exact Token.quiet_mark h.marks (by decide)
  | bool b =>
      cases b <;> simp only [tokens, List.forall_mem_singleton] <;>
        exact Token.quiet_mark h.marks (by decide)
  | number n =>
      simp only [tokens, List.forall_mem_singleton]
      intro hmem
      rcases n.plain trigger hmem with hdigit | hchar
      · exact Bool.false_ne_true (h.digit.symm.trans hdigit)
      · exact h.marks (List.mem_append_right _ hchar)
  | string text =>
      simp only [tokens, List.forall_mem_singleton]
      trivial
  | array items =>
      have hopen : Token.Quiet trigger (.mark ['[']) := Token.quiet_mark h.marks (by decide)
      have hclose : Token.Quiet trigger (.mark [']']) := Token.quiet_mark h.marks (by decide)
      simp only [tokens, List.cons_append, List.forall_mem_cons, List.forall_mem_append]
      exact ⟨hopen, quiet_itemTokens h items, hclose, List.forall_mem_nil _⟩
  | object fields =>
      have hopen : Token.Quiet trigger (.mark ['\x7b']) := Token.quiet_mark h.marks (by decide)
      have hclose : Token.Quiet trigger (.mark ['\x7d']) := Token.quiet_mark h.marks (by decide)
      simp only [tokens, List.cons_append, List.forall_mem_cons, List.forall_mem_append]
      exact ⟨hopen, quiet_fieldTokens h fields, hclose, List.forall_mem_nil _⟩

theorem quiet_itemTokens (h : sep.Quiet trigger) (items : List Json) :
    ∀ tok ∈ itemTokens sep items, tok.Quiet trigger := by
  match items with
  | [] => simp [itemTokens]
  | [item] => exact quiet_tokens h item
  | item :: item' :: items =>
      simp only [itemTokens, List.forall_mem_append, List.forall_mem_cons]
      exact ⟨quiet_tokens h item, h.item, quiet_itemTokens h (item' :: items)⟩

theorem quiet_fieldTokens (h : sep.Quiet trigger) (fields : List (List Char × Json)) :
    ∀ tok ∈ fieldTokens sep fields, tok.Quiet trigger := by
  match fields with
  | [] => simp [fieldTokens]
  | [field] => exact quiet_fieldToken h field
  | field :: field' :: fields =>
      simp only [fieldTokens, List.forall_mem_append, List.forall_mem_cons]
      exact ⟨quiet_fieldToken h field, h.item, quiet_fieldTokens h (field' :: fields)⟩

theorem quiet_fieldToken (h : sep.Quiet trigger) (field : List Char × Json) :
    ∀ tok ∈ fieldToken sep field, tok.Quiet trigger := by
  match field with
  | (key, value) =>
      simp only [fieldToken, List.forall_mem_cons]
      exact ⟨trivial, h.key, quiet_tokens h value⟩

end

end Quiet

/-- A scan of the beginning of a text, and of what stands for the rest. -/
theorem Scan.dumps {scan : List Char → Bool} {trigger : Char} (h : Scan scan trigger)
    {sep : Separators} (hsep : sep.Quiet trigger) {tail : List Char} (htail : trigger ∉ tail)
    (value : Json) (k : ℕ) :
    scan ((value.dumps sep).take k ++ tail) = (written tail k (value.tokens sep)).any scan :=
  h.take htail (quiet_tokens hsep value) k (show trigger ∉ [] by simp)

end Json
