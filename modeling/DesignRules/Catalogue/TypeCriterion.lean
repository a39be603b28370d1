import DesignRules.Catalogue.Criterion

/-!
# Criteria on types

The built-in questions that make sense for types only: where a type resides, which interfaces it
declares, which members it has, and whether it is nested.

## Main definitions

* `TypeCriterion`, `TypeCriterion.holds` — the questions, and their answers
* `TypeCriterion.predicate`, `TypeCriterion.condition` — the two forms
-/

namespace DesignRules

/-- A question about a type by itself. -/
inductive TypeCriterion where
  | inNamespace (pattern : Pattern)
  | inNamespaceContaining (text : String)
  | inAssembly (pattern : Pattern)
  | inAssemblyContaining (text : String)
  /-- Does it declare an interface the pattern describes? Inherited ones do not count. -/
  | implements (pattern : Pattern)
  | implementsContaining (text : String)
  /-- Does it have a member of that simple name? -/
  | member (name : String)
  /-- Does it have a member of that form and simple name? -/
  | memberOf (form : MemberForm) (name : String)
  /-- Is it declared inside another type? -/
  | nested
  deriving DecidableEq, Repr

namespace TypeCriterion

/-- The answer for a type. -/
def holds : TypeCriterion → TypeDecl → Bool
  | inNamespace pattern, t => pattern.accepts t.inNamespace
  | inNamespaceContaining text, t => Text.contains t.inNamespace text
  | inAssembly pattern, t => pattern.accepts t.assembly
  | inAssemblyContaining text, t => Text.contains t.assembly text
  | implements pattern, t => t.interfaces.any pattern.accepts
  | implementsContaining text, t => t.interfaces.any fun name => Text.contains name text
  | member name, t => t.members.any fun m => m.name == name
  | memberOf form name, t => t.members.any fun m => m.form == form && m.name == name
  | nested, t => t.nested

/-- How the question reads. -/
def phrase : TypeCriterion → Phrase
  | inNamespace pattern => .ofVerb "reside in namespace" (Text.quoted pattern.text)
  | inNamespaceContaining text => .ofVerb "reside in namespace" ("containing " ++ Text.quoted text)
  | inAssembly pattern => .ofVerb "reside in assembly" (Text.quoted pattern.text)
  | inAssemblyContaining text => .ofVerb "reside in assembly" ("containing " ++ Text.quoted text)
  | implements pattern => .ofVerb "implement interface" (Text.quoted pattern.text)
  | implementsContaining text => .ofVerb "implement interface" ("containing " ++ Text.quoted text)
  | member name => .ofVerb "have member with name" (Text.quoted name)
  | memberOf form name => .ofVerb "have" (form.text ++ " member with name " ++ Text.quoted name)
  | nested => .ofBe "nested"

/-- The predicate that picks the types for which the answer is yes, or no if negated. -/
def predicate (k : TypeCriterion) (negated : Bool) : Predicate TypeDecl :=
  let (description, failDescription) := k.phrase.predicateTexts negated
  ⟨.object fun t => k.holds t != negated, description, failDescription⟩

/-- The condition that the answer is yes, or no if negated. -/
def condition (k : TypeCriterion) (negated : Bool) : ObjectCondition TypeDecl :=
  ⟨fun t => .ofBool (k.holds t != negated), k.phrase.conditionWording negated⟩

end TypeCriterion

end DesignRules
