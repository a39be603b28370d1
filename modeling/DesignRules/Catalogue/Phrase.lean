import DesignRules.Connector

/-!
# Phrases

Every built-in criterion can stand in four places: as a predicate or as a condition, plain or
negated. Its phrase says how it reads in each of them, and how a failure of it reads.

## Implementation notes

English forms the negation of *to be* and of other verbs in different ways, and a list of
alternatives becomes a list of exclusions under negation (*are A or B*, *are not A and B*). A
phrase therefore has a verb and an object for either polarity.

## Main definitions

* `Verb`, `Phrase` — a verb with its object, plain and negated
* `Phrase.predicateTexts`, `Phrase.conditionWording` — the readings
* `Phrase.anyOf`, `Phrase.allOf` — lists of names as alternatives, and together
-/

namespace DesignRules

/-- The verb of a phrase. -/
inductive Verb where
  /-- The verb *to be*. -/
  | be
  /-- A verb that is negated with *do*. -/
  | regular (verb : String)
  deriving DecidableEq, Repr

/-- A verb with its object. -/
structure Phrase where
  /-- The verb. -/
  verb : Verb
  /-- The object of the plain verb. -/
  positive : String
  /-- The object of the negated verb. -/
  negative : String
  deriving DecidableEq, Repr

namespace Phrase

/-- A phrase with *to be* and one object. -/
def ofBe (object : String) : Phrase := ⟨.be, object, object⟩

/-- A phrase with another verb and one object. -/
def ofVerb (verb object : String) : Phrase := ⟨.regular verb, object, object⟩

/-- The same phrase with another object under negation. -/
def negatedAs (p : Phrase) (object : String) : Phrase := { p with negative := object }

/-- The description and the fail description of a predicate. -/
def predicateTexts (p : Phrase) (negated : Bool) : String × String :=
  match p.verb, negated with
  | .be, false => ("are " ++ p.positive, "is not " ++ p.positive)
  | .be, true => ("are not " ++ p.negative, "is " ++ p.negative)
  | .regular verb, false =>
    (verb ++ " " ++ p.positive, "does not " ++ verb ++ " " ++ p.positive)
  | .regular verb, true =>
    ("do not " ++ verb ++ " " ++ p.negative, "does " ++ verb ++ " " ++ p.negative)

/-- The wording of a condition. -/
def conditionWording (p : Phrase) (negated : Bool) : Wording :=
  match p.verb, negated with
  | .be, false => .plain ("be " ++ p.positive) ("is not " ++ p.positive)
  | .be, true => .plain ("not be " ++ p.negative) ("is " ++ p.negative)
  | .regular verb, false =>
    .plain (verb ++ " " ++ p.positive) ("does not " ++ verb ++ " " ++ p.positive)
  | .regular verb, true =>
    .plain ("not " ++ verb ++ " " ++ p.negative) ("does " ++ verb ++ " " ++ p.negative)

/-! ### Lists of names -/

/-- The reading of an empty list of names, in either polarity. -/
def noObjects : String := "one of no objects"

/-- Names in quotes as alternatives. -/
def anyOf (names : List String) : String :=
  if names.isEmpty then noObjects else " or ".intercalate (names.map Text.quoted)

/-- Names in quotes, all of them together. -/
def allOf (names : List String) : String :=
  if names.isEmpty then noObjects else " and ".intercalate (names.map Text.quoted)

end Phrase

end DesignRules
