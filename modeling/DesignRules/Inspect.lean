import DesignRules.Sentence
import DesignRules.Text.Escaped

/-!
# Inspection texts

The text in which each part of a rule shows itself to someone who looks for a mistake in it: the
name of the part and what can be told of it, on one line. Tests and checks cannot be shown, so
most parts end with two dots.

## Main definitions

* `Inspect.record`, `Inspect.openRecord` — a name with fields, all of them or some of them
* `Predicate.inspect`, `ObjectCondition.inspect`, `Condition.inspect`, `Relation.inspect`,
  `Existence.inspect`, `Assertion.inspect` — the parts of an assertion
* `Selection.inspect`, `Draft.inspect`, `Stage.inspect`, `Sentence.inspect` — rules in the making
-/

namespace DesignRules

namespace Inspect

/-- Fields with their values, separated by commas. -/
def fieldTexts (fields : List (String × String)) : List String :=
  fields.map fun (name, value) => name ++ ": " ++ value

/-- A name with all its fields. -/
def record (name : String) (fields : List (String × String)) : String :=
  name ++ " \x7b " ++ ", ".intercalate (fieldTexts fields) ++ " \x7d"

/-- A name with the fields that can be shown. -/
def openRecord (name : String) (fields : List (String × String)) : String :=
  name ++ " \x7b " ++ ", ".intercalate (fieldTexts fields ++ [".."]) ++ " \x7d"

/-- A name with the two texts of a condition or predicate. -/
def ofTexts (name description failDescription : String) : String :=
  openRecord name
    [("description", Text.escaped description), ("fail_description", Text.escaped failDescription)]

/-- A name with the texts of a wording. -/
def ofWording (name : String) (w : Wording) : String := ofTexts name w.description w.failDescription

end Inspect

variable {α β : Type}

/-- The inspection text of a predicate. -/
def Predicate.inspect (p : Predicate α) : String :=
  Inspect.ofTexts "Predicate" p.description p.failDescription

/-- The inspection text of a condition on an object alone. -/
def ObjectCondition.inspect (p : ObjectCondition α) : String :=
  Inspect.ofWording "SimpleCondition" p.wording

/-- The inspection text of a condition on an object in its codebase. -/
def Condition.inspect (p : Condition α) : String :=
  Inspect.ofWording "ArchitectureCondition" p.wording

/-- The inspection text of a relation. -/
def Relation.inspect (r : Relation α β) : String := Inspect.ofWording "RelationCondition" r.wording

/-- The inspection text of an existence condition. -/
def Existence.inspect (e : Existence) : String := Inspect.ofWording "ExistsCondition" e.wording

/-- The inspection text of an assertion. -/
def Assertion.inspect : Assertion α → String
  | .eachObject condition => "PerObject(" ++ condition.inspect ++ ")"
  | .existence condition => "Existence(" ++ condition.inspect ++ ")"

/-- The inspection text of a selection. -/
def Selection.inspect (s : Selection α) : String :=
  Inspect.record "RelatedObjects"
    [("kind", Text.escaped s.kind.label),
      ("predicates", "[" ++ ", ".intercalate (s.predicates.map Predicate.inspect) ++ "]")]

/-- The inspection text of a draft: its sentence, and the number of its predicates. -/
def Draft.inspect (d : Draft α) : String :=
  Inspect.openRecord "RuleBuilder"
    [("description", Text.escaped d.description), ("predicates", toString d.predicates.length)]

/-- The inspection text of two rules joined. -/
def Rule.inspectCombined (r : Rule) : String :=
  Inspect.record "CombinedRule" [("description", Text.escaped r.description)]

namespace Stage

/-- The name of a stage. -/
def name : Stage α → String
  | given _ => "GivenObjects"
  | that _ => "GivenObjectsThat"
  | filtered _ => "GivenObjectsConjunction"
  | should false _ => "Should<Fresh>"
  | should true _ => "Should<Chained>"
  | asserted _ => "ShouldConjunction"
  | existence _ => "ExistenceRule"
  | relatedThat _ _ _ => "RelatedThat"
  | related _ _ _ => "RelatedConjunction"

/-- The inspection text of a stage; where an assertion has to follow there is none. -/
def inspect (s : Stage α) : String :=
  match s with
  | given d => Inspect.record s.name [("builder", d.inspect)]
  | that d => Inspect.record s.name [("builder", d.inspect)]
  | filtered d => Inspect.record s.name [("builder", d.inspect)]
  | asserted d => Inspect.record s.name [("builder", d.inspect)]
  | existence d => Inspect.record s.name [("builder", d.inspect)]
  | should _ _ => ""
  | relatedThat d relation selection =>
    Inspect.record s.name
      [("builder", d.inspect), ("relation", relation.inspect), ("related", selection.inspect)]
  | related d relation selection =>
    Inspect.record s.name
      [("builder", d.inspect), ("relation", relation.inspect), ("related", selection.inspect)]

end Stage

namespace Sentence

/-- The name of the stage a sentence is at. -/
def stageName : Sentence → String
  | types stage => stage.name
  | members stage => stage.name
  | joining _ _ => "CombinedRuleDefinition"

/-- The inspection text of a sentence. -/
def inspect : Sentence → String
  | types stage => stage.inspect
  | members stage => stage.inspect
  | joining prior c =>
    Inspect.record "CombinedRuleDefinition"
      [("prior", Text.escaped prior.description),
        ("connector",
          match c with
          | .and => "And"
          | .or => "Or")]

end Sentence

end DesignRules
