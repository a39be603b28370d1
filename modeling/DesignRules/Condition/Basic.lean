import DesignRules.Condition.Object
import DesignRules.Model.Codebase

/-!
# Conditions on an object in its codebase

A condition of this sort is used in two steps. First it is bound to a codebase, which is where it
looks up what it needs; then it judges any number of objects. Either step may fail.

## Implementation notes

Binding a join binds both operands, whatever they will say later. Judging is lazy: where the
first operand decides, the second is not asked, so an error in it does not come up.

## Main definitions

* `Condition`, `Condition.check` — binding, and binding for one object only
* `Condition.ofTest`, `Condition.explained`, `Condition.prepared` — making conditions
* `Condition.join` — two conditions joined
* `ObjectCondition.lift` — a condition on the object alone, as one of these
-/

namespace DesignRules

/-- A condition that judges objects of a codebase. -/
structure Condition (α : Type) where
  /-- Looks up in a codebase what judging needs, and gives the judgement. -/
  bindTo : Codebase → Eval (α → Eval Verdict)
  /-- How the condition reads. -/
  wording : Wording

namespace Condition

variable {α : Type}

/-- The verdict on a single object of a codebase. -/
def check (p : Condition α) (object : α) (c : Codebase) : Eval Verdict := do
  let judge ← p.bindTo c
  judge object

/-- A condition that looks up something once for all objects. -/
def prepared (bindTo : Codebase → Eval (α → Eval Verdict)) (description failDescription : String) :
    Condition α :=
  ⟨bindTo, .plain description failDescription⟩

/-- A condition that gives details. -/
def explained (check : α → Codebase → Eval Verdict) (description failDescription : String) :
    Condition α :=
  prepared (fun c => pure fun object => check object c) description failDescription

/-- A condition that only says whether it holds. -/
def ofTest (holds : α → Codebase → Eval Bool) (description failDescription : String) :
    Condition α :=
  explained (fun object c => Verdict.ofBool <$> holds object c) description failDescription

/-- Two judgements joined; the second is asked only if the first leaves the matter open. -/
def joinJudgements (c : Connector) (first second : α → Eval Verdict) (object : α) :
    Eval Verdict := do
  let verdict ← first object
  match c, verdict with
  | .and, .pass => second object
  | .and, .fail detail => pure (.fail detail)
  | .or, .pass => pure .pass
  | .or, .fail detail => do
    let other ← second object
    pure ((Verdict.fail detail).either other)

/-- Two conditions joined. -/
def join (c : Connector) (a b : Condition α) : Condition α where
  bindTo codebase := do
    let first ← a.bindTo codebase
    let second ← b.bindTo codebase
    pure (joinJudgements c first second)
  wording := .join c a.wording b.wording

instance : Join (Condition α) := ⟨join⟩

end Condition

/-- A condition on the object alone as a condition on the object in its codebase, with the same
wording. -/
def ObjectCondition.lift {α : Type} (p : ObjectCondition α) : Condition α where
  bindTo _ := pure fun object => pure (p.check object)
  wording := p.wording

end DesignRules
