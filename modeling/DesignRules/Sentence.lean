import DesignRules.Catalogue.Scoped
import DesignRules.Draft

/-!
# Sentences

The grammar in which rules are written, clause by clause:

> *Classes* **that** *reside in namespace "Domain"* **should** *not depend on "Web.**"*
> **because** *the domain stands alone*

A sentence is at some stage, and the stage says which clauses may follow. Some stages name
objects, some are finished rules, and some are neither because a clause is missing.

## Implementation notes

Apart from a relation whose related objects are still being described, a stage holds nothing but
a draft; the grammar only restricts the order in which a draft is built. A relation joins the
draft when its description ends. Until then a stage with a complete description already counts as
a finished rule: it is judged as if the relation had joined.

## Main definitions

* `Stage`, `Step`, `Stage.step` — the stages, the clauses, and which clause leads where
* `Stage.provider?`, `Stage.rule?`, `Stage.finished?` — what a stage can be used as
* `Sentence`, `Sentence.start`, `Sentence.also`, `Sentence.about` — stages about types or members,
  and the stage between two rules that are joined

## Main results

* `Stage.description_rule?_eq_finished?` — a relation that is still open reads as if it had joined
-/

namespace DesignRules

/-- How far a sentence about objects of sort `α` has come. -/
inductive Stage (α : Type) where
  /-- The kind of objects is named. -/
  | given (draft : Draft α)
  /-- A predicate has to follow. -/
  | that (draft : Draft α)
  /-- The last clause was a predicate. -/
  | filtered (draft : Draft α)
  /-- An assertion has to follow; `chained` says that it is not the first. -/
  | should (chained : Bool) (draft : Draft α)
  /-- The last clause was a condition. -/
  | asserted (draft : Draft α)
  /-- The assertion is an existence condition. -/
  | existence (draft : Draft α)
  /-- A relation is named, and a predicate on the related objects has to follow. -/
  | relatedThat (draft : Draft α) (relation : Relation α TypeDecl) (related : Selection TypeDecl)
  /-- The last clause was a predicate on the related objects. -/
  | related (draft : Draft α) (relation : Relation α TypeDecl) (selection : Selection TypeDecl)

/-- A clause of a sentence about objects of sort `α`. -/
inductive Step (α : Type) where
  | that
  | should
  | and
  | or
  | because (reason : String)
  | andShould
  | orShould
  | exist
  | notExist
  /-- A predicate on the objects. -/
  | filter (p : Predicate α)
  /-- A predicate on the related objects. -/
  | filterRelated (p : Predicate TypeDecl)
  /-- A condition. -/
  | require (condition : Condition α)
  /-- A relation to objects of a kind, which are still to be described. -/
  | relate (relation : Relation α TypeDecl) (κ : Kind TypeDecl)

namespace Stage

variable {α : Type}

/-- The condition that a relation and the description of its related objects make. -/
def relatedCondition (relation : Relation α TypeDecl) (selection : Selection TypeDecl) :
    Condition α :=
  relation.relatedTo selection.provider

/-- The stage after a clause, if the clause may follow. -/
def step : Stage α → Step α → Option (Stage α)
  | given d, .that => some (that d)
  | given d, .should => some (should false d)
  | that d, .filter p => some (filtered (d.that p))
  | filtered d, .and => some (that d)
  | filtered d, .should => some (should false d)
  | should false d, .exist => some (existence (d.requireExistence .exist))
  | should false d, .notExist => some (existence (d.requireExistence .notExist))
  | should _ d, .require condition => some (asserted (d.require condition))
  | should _ d, .relate relation κ => some (relatedThat d relation (.all κ))
  | asserted d, .and => some (should true (d.joinNext .and))
  | asserted d, .or => some (should true (d.joinNext .or))
  | asserted d, .because reason => some (asserted (d.because reason))
  | existence d, .because reason => some (existence (d.because reason))
  | relatedThat d relation selection, .filterRelated p =>
    some (related d relation (selection.narrow p))
  | related d relation selection, .and => some (relatedThat d relation selection)
  | related d relation selection, .andShould =>
    some (should true ((d.require (relatedCondition relation selection)).joinNext .and))
  | related d relation selection, .orShould =>
    some (should true ((d.require (relatedCondition relation selection)).joinNext .or))
  | related d relation selection, .because reason =>
    some (asserted ((d.require (relatedCondition relation selection)).because reason))
  | _, _ => none

/-- The draft of a finished rule, with a relation that was still open joined to it. -/
def finished? : Stage α → Option (Draft α)
  | asserted d => some d
  | existence d => some d
  | related d relation selection => some (d.require (relatedCondition relation selection))
  | _ => none

variable [Element α]

/-- The objects that a stage names, as a provider. -/
def provider? : Stage α → Option (Provider α)
  | given d => some d.provider
  | filtered d => some d.provider
  | _ => none

/-- A stage that says enough to be judged, as a rule. -/
def rule? : Stage α → Option Rule
  | asserted d => some d.rule
  | existence d => some d.rule
  | related d relation selection =>
    let assertion := d.preview (relatedCondition relation selection)
    some ⟨d.describe (some assertion), d.evaluateWith assertion⟩
  | _ => none

theorem description_rule?_eq_finished? (s : Stage α) :
    s.rule?.map Rule.description = s.finished?.map Draft.description := by
  cases s <;> rfl

end Stage

/-! ### Sentences about types and about members -/

/-- A kind of types or a kind of members. -/
inductive Topic where
  | types (κ : Kind TypeDecl)
  | members (κ : Kind Member)

/-- The topic of a word. -/
def Topic.ofWord? : String → Option Topic
  | "types" => some (.types .types)
  | "classes" => some (.types .classes)
  | "interfaces" => some (.types .interfaces)
  | "attributes" => some (.types .attributes)
  | "method_members" => some (.members .methodMembers)
  | _ => none

/-- A sentence that may be about types or about members. -/
inductive Sentence where
  /-- A sentence whose last rule is about types. -/
  | types (stage : Stage TypeDecl)
  /-- A sentence whose last rule is about members. -/
  | members (stage : Stage Member)
  /-- A finished rule to which another one is to be joined. -/
  | joining (prior : Rule) (c : Connector)

namespace Sentence

/-- The beginning of a sentence. -/
def start : Topic → Sentence
  | .types κ => types (.given (.start κ))
  | .members κ => members (.given (.start κ))

/-- Announces that another rule follows, which is joined to the one so far. -/
def also (c : Connector) : Sentence → Option Sentence
  | types stage => stage.finished?.map fun d => joining d.rule c
  | members stage => stage.finished?.map fun d => joining d.rule c
  | joining _ _ => none

/-- Names the kind of objects of the rule that follows. -/
def about : Topic → Sentence → Option Sentence
  | .types κ, joining prior c => some (types (.given (.continuing prior c κ)))
  | .members κ, joining prior c => some (members (.given (.continuing prior c κ)))
  | _, _ => none

/-- The sentence as a rule, if it is finished. -/
def rule? : Sentence → Option Rule
  | types stage => stage.rule?
  | members stage => stage.rule?
  | joining _ _ => none

end Sentence

end DesignRules
