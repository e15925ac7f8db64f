import Mathlib.Data.List.Basic

/-!
# The deterministic human-worth detector

`_contains_human_worth_violation` of `application/decision_governance.py`: a text violates human
worth when a business term is followed by a mapping term and that, nearby, by a worth term, unless
the mapping is negated. Texts are lists of characters; upper case is folded as in ASCII.
-/

namespace LaunchOS.WorthMapping

/-- `_BUSINESS_TERMS`. -/
def businessTerms : List String :=
  ["sales", "sale", "revenue", "conversion", "reach", "price", "performance", "result", "results",
    "rejection", "non-purchase", "non purchase", "discipline", "success", "failure"]

/-- `_MAPPING_TERMS`. -/
def mappingTerms : List String :=
  ["show", "shows", "prove", "proves", "mean", "means", "reflect", "reflects", "determine",
    "determines", "indicate", "indicates", "demonstrate", "demonstrates", "reveal", "reveals"]

/-- `_WORTH_TERMS`. -/
def worthTerms : List String :=
  ["human value", "real value", "personal value", "your value", "self-worth", "self worth", "worth",
    "rank", "not ready", "readiness", "personal correctness", "something wrong with you",
    "failure as a person"]

/-- The `_NEGATION_TERMS` that are looked up among the words before the mapping term. -/
def negationWords : List String := ["not", "never", "no"]

/-- `_NEGATION_TERMS[3:]`, which are looked up anywhere before the mapping term. -/
def negationPhrases : List String := ["doesn't", "does not", "do not", "cannot"]

/-- What `\s` and `str.strip` take for white space. -/
def isSpace (c : Char) : Bool :=
  c = ' ' || (9 ≤ c.toNat && c.toNat ≤ 13) || (28 ≤ c.toNat && c.toNat ≤ 31)

/-- `re.sub(r"\s+", " ", …)`. -/
def collapse : List Char → List Char
  | [] => []
  | c :: rest =>
      if isSpace c then
        match collapse rest with
        | ' ' :: rest' => ' ' :: rest'
        | rest' => ' ' :: rest'
      else c :: collapse rest

/-- `str.strip()`. -/
def strip (text : List Char) : List Char :=
  ((text.dropWhile isSpace).reverse.dropWhile isSpace).reverse

/-- `re.sub(r"\s+", " ", value.lower()).strip()`. -/
def normalize (value : String) : List Char :=
  strip (collapse (value.toList.map Char.toLower))

/-- `part in text`. -/
def contains (text : List Char) (part : String) : Bool :=
  text.tails.any part.toList.isPrefixOf

/-- `_term_positions`: where an occurrence of one of the terms starts. -/
def termPositions (text : List Char) (terms : List String) : List ℕ :=
  (List.range text.length).filter fun start =>
    terms.any fun term => term.toList.isPrefixOf (text.drop start)

/-- `text.split()`. -/
def words (text : List Char) : List (List Char) :=
  (text.splitOnP isSpace).filter (fun word => word ≠ [])

/-- Whether the mapping term at `mappingStart` is negated in the 18 characters before it. -/
def negated (text : List Char) (businessStart mappingStart : ℕ) : Bool :=
  let start := max businessStart (mappingStart - 18)
  let before := (text.drop start).take (mappingStart - start)
  negationWords.any (fun term => (words before).contains term.toList) ||
    negationPhrases.any (contains before)

/-- `_has_directional_worth_mapping`. -/
def hasDirectionalWorthMapping (value : String) : Bool :=
  let text := normalize value
  (termPositions text businessTerms).any fun businessStart =>
    (termPositions text mappingTerms).any fun mappingStart =>
      decide (businessStart < mappingStart) && !negated text businessStart mappingStart &&
        (termPositions text worthTerms).any fun worthStart =>
          decide (mappingStart < worthStart) && decide (worthStart ≤ businessStart + 180)

/-- `_contains_human_worth_violation`, on the texts of a payload. -/
def containsHumanWorthViolation (texts : List String) : Bool :=
  texts.any hasDirectionalWorthMapping

end LaunchOS.WorthMapping
