import DesignRules.Catalogue.Phrase
import DesignRules.Condition.Object
import DesignRules.Predicate

/-!
# Criteria on elements

The built-in questions about a type or a member that need nothing but the object itself. Each of
them gives a predicate and a condition, plain or negated.

## Implementation notes

Predicate and condition of one criterion are written separately. The predicate is the truth value
alone. The condition says more where it forbids something: which targets offend, each once, in
the order in which the object first uses them.

## Main definitions

* `Criterion`, `Criterion.holds` — the questions, and their answers
* `Criterion.predicate`, `Criterion.condition` — the two forms
* `Offence.targetsWhere`, `Offence.verdict` — the offending targets, and the failure listing them
-/

namespace DesignRules

/-! ### Offending targets -/

namespace Offence

variable {α : Type} [Element α]

/-- Adds the targets that are picked and not yet listed to a list. -/
def collect (pick : String → Bool) (listed targets : List String) : List String :=
  targets.foldl
    (fun known target => if pick target && !known.contains target then known ++ [target] else known)
    listed

/-- The targets of an object that are picked, each once, in the order of their first use. -/
def targetsWhere (object : α) (pick : String → Bool) : List String :=
  collect pick [] (Element.targets object)

/-- The verdict that there must be no offender: a failure lists them all. -/
def verdict (offenders : List String) : Verdict :=
  if offenders.isEmpty then .pass
  else .fail (some (", ".intercalate (offenders.map Text.quoted)))

end Offence

/-! ### The questions -/

/-- A question about an object by itself. -/
inductive Criterion (α : Type) where
  /-- Is it one of these objects? -/
  | oneOf (objects : List α)
  /-- Does it use a type the pattern describes? -/
  | dependsOn (pattern : Pattern)
  /-- Does it use one of the types of these names? -/
  | dependsOnAny (names : List String)
  /-- Are all types it uses of these names? -/
  | dependsOnlyOn (names : List String)
  /-- Is this its simple name? -/
  | name (name : String)
  | nameStartingWith (text : String)
  | nameEndingWith (text : String)
  | nameContaining (text : String)
  /-- Is this its full name? -/
  | fullName (fullName : String)
  | fullNameContaining (text : String)
  | fullNameMatching (pattern : Pattern)
  /-- Is this its visibility? -/
  | visibility (visibility : Visibility)

namespace Criterion

variable {α : Type} [Element α]

/-- The answer for an object. -/
def holds : Criterion α → α → Bool
  | oneOf objects, object => objects.any (Element.same object)
  | dependsOn pattern, object => Element.dependsOn object pattern
  | dependsOnAny names, object => names.any (Element.dependsOnType object)
  | dependsOnlyOn names, object => (Element.targets object).all fun target => names.contains target
  | name text, object => Element.name object == text
  | nameStartingWith text, object => Text.startsWith (Element.name object) text
  | nameEndingWith text, object => Text.endsWith (Element.name object) text
  | nameContaining text, object => Text.contains (Element.name object) text
  | fullName text, object => Element.fullName object == text
  | fullNameContaining text, object => Text.contains (Element.fullName object) text
  | fullNameMatching pattern, object => pattern.accepts (Element.fullName object)
  | visibility v, object => Element.visibility object == v

/-- How the question reads. -/
def phrase : Criterion α → Phrase
  | oneOf objects =>
    let names := objects.map Element.fullName
    (Phrase.ofBe (Phrase.anyOf names)).negatedAs (Phrase.allOf names)
  | dependsOn pattern => .ofVerb "depend on" (Text.quoted pattern.text)
  | dependsOnAny names =>
    (Phrase.ofVerb "depend on" (Phrase.anyOf names)).negatedAs (Phrase.allOf names)
  | dependsOnlyOn names =>
    if names.isEmpty then .ofVerb "have" "no dependencies"
    else (Phrase.ofVerb "only depend on" (Phrase.anyOf names)).negatedAs (Phrase.allOf names)
  | name text => .ofVerb "have" ("name " ++ Text.quoted text)
  | nameStartingWith text => .ofVerb "have" ("name starting with " ++ Text.quoted text)
  | nameEndingWith text => .ofVerb "have" ("name ending with " ++ Text.quoted text)
  | nameContaining text => .ofVerb "have" ("name containing " ++ Text.quoted text)
  | fullName text => .ofVerb "have" ("full name " ++ Text.quoted text)
  | fullNameContaining text => .ofVerb "have" ("full name containing " ++ Text.quoted text)
  | fullNameMatching pattern => .ofVerb "have" ("full name matching " ++ Text.quoted pattern.text)
  | visibility v => .ofBe v.text

/-! ### The two forms -/

/-- The predicate that picks the objects for which the answer is yes, or no if negated. -/
def predicate (k : Criterion α) (negated : Bool) : Predicate α :=
  let (description, failDescription) := k.phrase.predicateTexts negated
  ⟨.object fun object => k.holds object != negated, description, failDescription⟩

/-- The wording of a condition that allows dependencies on certain types only. -/
def onlyWording (names : List String) (negated : Bool) : Wording :=
  match names.isEmpty, negated with
  | true, false => .plain "have no dependencies" "has dependencies"
  | true, true => .plain "have dependencies" "has no dependencies"
  | false, false =>
    .plain ("only depend on " ++ Phrase.anyOf names)
      ("does depend on types other than " ++ Phrase.allOf names)
  | false, true =>
    .plain ("not only depend on " ++ Phrase.allOf names)
      ("does only depend on " ++ Phrase.allOf names)

/-- How the condition reads. -/
def wording (k : Criterion α) (negated : Bool) : Wording :=
  match k with
  | dependsOnlyOn names => onlyWording names negated
  | other => other.phrase.conditionWording negated

/-- The verdict of the condition. Where dependencies are forbidden, a failure lists the targets
that offend. -/
def verdict (k : Criterion α) (negated : Bool) (object : α) : Verdict :=
  match k, negated with
  | dependsOn pattern, true => Offence.verdict (Offence.targetsWhere object pattern.accepts)
  | dependsOnAny names, true => Offence.verdict (Offence.targetsWhere object names.contains)
  | dependsOnlyOn names, false =>
    Offence.verdict (Offence.targetsWhere object fun target => !names.contains target)
  | dependsOnlyOn names, true =>
    .ofBool (!(Offence.targetsWhere object fun target => !names.contains target).isEmpty)
  | other, negated => .ofBool (other.holds object != negated)

/-- The condition that the answer is yes, or no if negated. -/
def condition (k : Criterion α) (negated : Bool) : ObjectCondition α :=
  ⟨k.verdict negated, k.wording negated⟩

end Criterion

end DesignRules
