import DesignRules.Text.Basic

/-!
# Verdicts

The answer of a condition about one object: it passes, or it fails, with or without a detail
that says where.

## Main definitions

* `Verdict` — pass, or fail with an optional detail
* `Verdict.both`, `Verdict.either` — verdicts on two conditions that have to hold together, and
  of which one is enough

## Main results

* `Verdict.passed_both`, `Verdict.passed_either` — the truth values follow the connectives
-/

namespace DesignRules

/-- The answer of a condition about one object. -/
inductive Verdict where
  | pass
  /-- A failure, with a text that says more about it where there is one. -/
  | fail (detail : Option String)
  deriving DecidableEq, Repr

namespace Verdict

/-- The verdict that only says whether the condition holds. -/
def ofBool (holds : Bool) : Verdict := if holds then pass else fail none

/-- Whether the condition holds. -/
def passed : Verdict → Bool
  | pass => true
  | fail _ => false

/-- The detail of a failure, if it has one. -/
def detail : Verdict → Option String
  | pass => none
  | fail detail => detail

@[simp] theorem passed_ofBool (holds : Bool) : (ofBool holds).passed = holds := by
  cases holds <;> rfl

@[simp] theorem detail_ofBool (holds : Bool) : (ofBool holds).detail = none := by
  cases holds <;> rfl

/-- Two details as one text; a missing one is left out. -/
def mergeDetails : Option String → Option String → Option String
  | some first, some second => some (first ++ " and " ++ second)
  | some first, none => some first
  | none, second => second

/-- Both conditions have to hold: the first failure counts. -/
def both : Verdict → Verdict → Verdict
  | pass, next => next
  | fail detail, _ => fail detail

/-- One of the conditions is enough: if both fail, so do their details together. -/
def either : Verdict → Verdict → Verdict
  | pass, _ => pass
  | fail _, pass => pass
  | fail first, fail second => fail (mergeDetails first second)

@[simp] theorem passed_both (v w : Verdict) : (both v w).passed = (v.passed && w.passed) := by
  cases v <;> rfl

@[simp] theorem passed_either (v w : Verdict) : (either v w).passed = (v.passed || w.passed) := by
  cases v <;> cases w <;> rfl

end Verdict

end DesignRules
