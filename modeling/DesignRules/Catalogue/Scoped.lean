import DesignRules.Catalogue.Criterion
import DesignRules.Condition.Relation
import DesignRules.Model.Supertypes

/-!
# Criteria that need the codebase

The built-in questions that cannot be answered from the object alone: those about the types of a
provider, and those about the hierarchy above a type. At the end stand the four relations between
an object and the classes or attributes that some predicates describe.

## Implementation notes

A predicate asks its provider again for every object it is tested on, while a condition asks once
when it is bound. The answers are the same, but the log tells the difference.

## Main definitions

* `ProviderCriterion` — dependencies on the types of a provider
* `Assignability`, `TypeDecl.isAssignable` — the type itself or one of its supertypes
* `Relation.dependsOnClasses`, `Relation.hasAttributes` — relations, plain or negated
-/

namespace DesignRules

/-! ### Types of a provider -/

/-- A question about the types that an object uses and those that a provider names. -/
inductive ProviderCriterion where
  /-- Does it use one of the types? -/
  | dependsOnAnyIn (provider : Provider TypeDecl)
  /-- Are all types it uses among them? -/
  | dependsOnlyOnTypesIn (provider : Provider TypeDecl)

namespace ProviderCriterion

variable {α : Type} [Element α]

/-- The provider that the question is about. -/
def provider : ProviderCriterion → Provider TypeDecl
  | dependsOnAnyIn provider => provider
  | dependsOnlyOnTypesIn provider => provider

/-- Whether a list of types has one of that full name. -/
def hasName (types : List TypeDecl) (fullName : String) : Bool :=
  types.any fun t => t.fullName == fullName

/-- The answer for an object, given the types of the provider. -/
def holds (k : ProviderCriterion) (types : List TypeDecl) (object : α) : Bool :=
  match k with
  | dependsOnAnyIn _ => types.any fun t => Element.dependsOnType object t.fullName
  | dependsOnlyOnTypesIn _ => (Element.targets object).all (hasName types)

/-- How the question reads. -/
def phrase (k : ProviderCriterion) : Phrase :=
  let verb :=
    match k with
    | dependsOnAnyIn _ => "depend on"
    | dependsOnlyOnTypesIn _ => "only depend on"
  (Phrase.ofVerb verb k.provider.description).negatedAs k.provider.jointDescription

/-- The predicate that picks the objects for which the answer is yes, or no if negated. -/
def predicate (k : ProviderCriterion) (negated : Bool) : Predicate α :=
  let (description, failDescription) := k.phrase.predicateTexts negated
  ⟨.codebase fun object c => do
    let types ← k.provider.objects c
    pure (k.holds types object != negated), description, failDescription⟩

/-- How the condition reads. -/
def wording (k : ProviderCriterion) (negated : Bool) : Wording :=
  match k, negated with
  | dependsOnAnyIn _, negated => k.phrase.conditionWording negated
  | dependsOnlyOnTypesIn provider, false =>
    .plain ("only depend on " ++ provider.description)
      ("does depend on types other than " ++ provider.jointDescription)
  | dependsOnlyOnTypesIn provider, true =>
    .plain ("not only depend on " ++ provider.jointDescription)
      ("does only depend on " ++ provider.jointDescription)

/-- The verdict of the condition, given the types of the provider. Where dependencies are
forbidden, a failure lists the targets that offend. -/
def verdict (k : ProviderCriterion) (negated : Bool) (types : List TypeDecl) (object : α) :
    Verdict :=
  match k, negated with
  | dependsOnAnyIn _, false => .ofBool (types.any fun t => Element.dependsOnType object t.fullName)
  | dependsOnAnyIn _, true => Offence.verdict (Offence.targetsWhere object (hasName types))
  | dependsOnlyOnTypesIn _, false =>
    Offence.verdict (Offence.targetsWhere object fun target => !hasName types target)
  | dependsOnlyOnTypesIn _, true =>
    .ofBool ((Element.targets object).any fun target => !hasName types target)

/-- The condition that the answer is yes, or no if negated. -/
def condition (k : ProviderCriterion) (negated : Bool) : Condition α where
  bindTo c := do
    let types ← k.provider.objects c
    pure fun object => pure (k.verdict negated types object)
  wording := k.wording negated

end ProviderCriterion

/-! ### Assignability -/

/-- Whether the full name of a type or of one of its supertypes is picked. -/
def TypeDecl.isAssignable (t : TypeDecl) (c : Codebase) (pick : String → Bool) : Bool :=
  pick t.fullName || (c.supertypesOf t).any pick

/-- A question about the hierarchy above a type. -/
inductive Assignability where
  /-- Is it, or one of its supertypes, described by the pattern? -/
  | toMatching (pattern : Pattern)
  /-- Does its full name, or that of a supertype, contain the text? -/
  | toContaining (text : String)
  deriving DecidableEq, Repr

namespace Assignability

/-- The full names that the question looks for. -/
def pick : Assignability → String → Bool
  | toMatching pattern, fullName => pattern.accepts fullName
  | toContaining text, fullName => Text.contains fullName text

/-- The answer for a type of a codebase. -/
def holds (k : Assignability) (t : TypeDecl) (c : Codebase) : Bool := t.isAssignable c k.pick

/-- How the question reads. -/
def phrase : Assignability → Phrase
  | toMatching pattern => .ofBe ("assignable to " ++ Text.quoted pattern.text)
  | toContaining text =>
    .ofBe ("assignable to types with full name containing " ++ Text.quoted text)

/-- The predicate that picks the types for which the answer is yes, or no if negated. -/
def predicate (k : Assignability) (negated : Bool) : Predicate TypeDecl :=
  let (description, failDescription) := k.phrase.predicateTexts negated
  ⟨.codebase fun t c => pure (k.holds t c != negated), description, failDescription⟩

/-- The condition that the answer is yes, or no if negated. -/
def condition (k : Assignability) (negated : Bool) : Condition TypeDecl where
  bindTo c := pure fun t => pure (.ofBool (k.holds t c != negated))
  wording := k.phrase.conditionWording negated

end Assignability

/-! ### Relations -/

namespace Relation

variable {α : Type} [Element α]

/-- Some of the classes are used, or none of them if negated. -/
def dependsOnClasses (negated : Bool) : Relation α TypeDecl :=
  if negated then
    all (fun object t => !Element.dependsOnType object t.fullName)
      "not depend on classes that" "does depend on classes that"
  else
    any (fun object t => Element.dependsOnType object t.fullName)
      "depend on classes that" "does not depend on classes that"

/-- Some of the attributes are carried, or none of them if negated. -/
def hasAttributes (negated : Bool) : Relation α TypeDecl :=
  if negated then
    all (fun object t => !Element.hasAttribute object t.fullName)
      "not have attributes that" "does have attributes that"
  else
    any (fun object t => Element.hasAttribute object t.fullName)
      "have attributes that" "does not have attributes that"

end Relation

end DesignRules
