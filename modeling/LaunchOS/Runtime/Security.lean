import Mathlib.Data.List.Basic

/-!
# Redaction of error texts

`runtime/security.py`, as far as the durable runtime uses it: the regular expression
`SECRET_ASSIGNMENT` and `redacted_error_summary`.

* `matchSecretAssignment`: the expression tried at one position;
* `redact`: `SECRET_ASSIGNMENT.sub`, which keeps the key word and hides the value;
* `redactedErrorSummary`: the text stored in `error_summary`.

Texts are lists of code points here. The expression never has to backtrack: its key words differ
in their first two letters, and a value neither starts nor goes on with white space.
-/

namespace LaunchOS.Security

/-- The white space of Python's `\s` on `str`. -/
def isSpace (c : Char) : Bool :=
  let n := c.toNat
  (9 ≤ n && n ≤ 13) || (28 ≤ n && n ≤ 32) || n = 0x85 || n = 0xa0 || n = 0x1680 ||
    (0x2000 ≤ n && n ≤ 0x200a) || n = 0x2028 || n = 0x2029 || n = 0x202f || n = 0x205f ||
    n = 0x3000

/-- `(?i)` on a code point: ASCII letters are lowered, and the four other code points that match
one of them under Python's simple case folding (`İ`, `ı`, `ſ` and the Kelvin sign) follow. -/
def foldCase (c : Char) : Char :=
  let n := c.toNat
  if n = 0x130 || n = 0x131 then 'i'
  else if n = 0x17f then 's'
  else if n = 0x212a then 'k'
  else c.toLower

/-- The text after the word `word`, if the text starts with it, letter case aside. -/
def dropWord : List Char → List Char → Option (List Char)
  | [], text => some text
  | _ :: _, [] => none
  | w :: word, c :: text => if foldCase c = w then dropWord word text else none

/-- `[_-]?` -/
def dropSeparator : List Char → List Char
  | '_' :: text => text
  | '-' :: text => text
  | text => text

/-- `api[_-]?key|credential|password|private[_-]?key|secret|token`: the text after the key word. -/
def dropKeyWord (text : List Char) : Option (List Char) :=
  let keyed (word : String) := (dropWord word.toList text).bind fun rest =>
    dropWord "key".toList (dropSeparator rest)
  keyed "api" <|> dropWord "credential".toList text <|> dropWord "password".toList text <|>
    keyed "private" <|> dropWord "secret".toList text <|> dropWord "token".toList text

/-- `[^,\s;]` -/
def isValueChar (c : Char) : Bool := !(c = ',' || c = ';' || isSpace c)

/-- `SECRET_ASSIGNMENT` at the start of `text`: the key word and the text after the value. -/
def matchSecretAssignment (text : List Char) : Option (List Char × List Char) :=
  match dropKeyWord text with
  | none => none
  | some rest =>
      match rest.dropWhile isSpace with
      | '=' :: afterEquals =>
          let value := afterEquals.dropWhile isSpace
          if (value.takeWhile isValueChar).isEmpty then none
          else some (text.take (text.length - rest.length), value.dropWhile isValueChar)
      | _ => none

/-- `SECRET_ASSIGNMENT.search(text) is not None`. -/
def hasSecretAssignment (text : List Char) : Bool :=
  text.tails.any fun rest => (matchSecretAssignment rest).isSome

/-- The loop of `SECRET_ASSIGNMENT.sub`. Every round consumes a code point, so as many rounds as
there are code points are enough. -/
def redactFrom : ℕ → List Char → List Char
  | 0, text => text
  | _ + 1, [] => []
  | rounds + 1, c :: text =>
      match matchSecretAssignment (c :: text) with
      | some (word, rest) => word ++ "=[REDACTED]".toList ++ redactFrom rounds rest
      | none => c :: redactFrom rounds text

/-- `SECRET_ASSIGNMENT.sub(lambda match: f"{match.group(1)}=[REDACTED]", text)`. -/
def redact (text : List Char) : List Char := redactFrom text.length text

/-- `redacted_error_summary`, from the class name and the message of the error. -/
def redactedErrorSummary (className message : String) (maxLength : ℕ := 500) : String :=
  let redacted := redact (className ++ ": " ++ message).toList
  if maxLength < redacted.length then
    String.ofList (redacted.take (maxLength - 3)) ++ "..."
  else String.ofList redacted

example : redactedErrorSummary "PermanentJobError" "provider returned token=placeholder-value" =
    "PermanentJobError: provider returned token=[REDACTED]" := by
  decide

end LaunchOS.Security
