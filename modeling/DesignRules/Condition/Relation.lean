import DesignRules.Condition.Basic
import DesignRules.Provider

/-!
# Conditions on an object and its related objects

A relation judges an object against a list of other objects, such as the classes that some
predicates describe. It becomes a condition once a provider says what the other objects are.

## Main definitions

* `Relation`, `Relation.any`, `Relation.all` — relations to some and to every related object
* `Relation.join` — two relations to the same objects joined
* `Relation.relatedTo` — the condition that a relation and a provider make
-/

namespace DesignRules

/-- A condition on an object of sort `α` and a list of objects of sort `β`. -/
structure Relation (α β : Type) where
  /-- Whether the object stands in the relation to the list. -/
  holds : α → List β → Bool
  /-- How the condition reads before the related objects are named. -/
  wording : Wording

namespace Relation

variable {α β : Type}

/-- The relation that holds if some related object satisfies `link`. -/
def any (link : α → β → Bool) (description failDescription : String) : Relation α β :=
  ⟨fun object related => related.any (link object), .plain description failDescription⟩

/-- The relation that holds if every related object satisfies `link`. -/
def all (link : α → β → Bool) (description failDescription : String) : Relation α β :=
  ⟨fun object related => related.all (link object), .plain description failDescription⟩

/-- Two relations joined; both are judged against the same objects. -/
def join (c : Connector) (a b : Relation α β) : Relation α β where
  holds object related :=
    match c with
    | .and => a.holds object related && b.holds object related
    | .or => a.holds object related || b.holds object related
  wording := .join c a.wording b.wording

instance : Join (Relation α β) := ⟨join⟩

/-- The condition that an object stands in the relation to the provided objects, which are looked
up once when the condition is bound. The provider follows the texts of the relation, and the
result reads as one piece in further joins. -/
def relatedTo (r : Relation α β) (provider : Provider β) : Condition α :=
  .prepared
    (fun c => do
      let related ← provider.objects c
      pure fun object => pure (.ofBool (r.holds object related)))
    (r.wording.description ++ " " ++ provider.description)
    (r.wording.failDescription ++ " " ++ provider.description)

end Relation

end DesignRules
