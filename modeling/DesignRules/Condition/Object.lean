import DesignRules.Connector
import DesignRules.Verdict

/-!
# Conditions on an object alone

The simplest conditions: they judge an object without looking at its codebase, so they never
fail to give a verdict.

## Main definitions

* `ObjectCondition` — a verdict for every object, with a wording
* `ObjectCondition.join` — two of them joined
-/

namespace DesignRules

/-- A condition that judges an object by itself. -/
structure ObjectCondition (α : Type) where
  /-- The verdict on an object. -/
  check : α → Verdict
  /-- How the condition reads. -/
  wording : Wording

namespace ObjectCondition

variable {α : Type}

/-- A condition that gives details. -/
def explained (check : α → Verdict) (description failDescription : String) : ObjectCondition α :=
  ⟨check, .plain description failDescription⟩

/-- A condition that only says whether it holds. -/
def ofTest (holds : α → Bool) (description failDescription : String) : ObjectCondition α :=
  explained (fun object => .ofBool (holds object)) description failDescription

/-- Two conditions joined. -/
def join (c : Connector) (a b : ObjectCondition α) : ObjectCondition α where
  check object :=
    match c with
    | .and => (a.check object).both (b.check object)
    | .or => (a.check object).either (b.check object)
  wording := .join c a.wording b.wording

instance : Join (ObjectCondition α) := ⟨join⟩

end ObjectCondition

end DesignRules
