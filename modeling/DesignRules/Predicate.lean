import DesignRules.Model.Element

/-!
# Predicates

A predicate picks the objects that a rule is about. Some predicates look at the object alone;
others need the codebase around it, and looking there may fail.

## Main definitions

* `Probe`, `Predicate` — a test of either sort, and a test with its two texts
* `Predicate.test` — the test on an object of a codebase
* `Predicate.passesAll`, `Predicate.filter` — the objects that pass every predicate of a list

## Main results

* `Predicate.passesAll_append` — predicates can be tested in stages
-/

namespace DesignRules

/-- How a predicate looks at an object. -/
inductive Probe (α : Type) where
  /-- A test of the object alone. -/
  | object (holds : α → Bool)
  /-- A test of the object in its codebase. -/
  | codebase (holds : α → Codebase → Eval Bool)

/-- A test that picks objects, with its texts. -/
structure Predicate (α : Type) where
  /-- The test. -/
  probe : Probe α
  /-- What the objects that pass have in common. -/
  description : String
  /-- What is wrong with an object that does not pass. -/
  failDescription : String

namespace Predicate

variable {α : Type}

/-- Whether an object of a codebase passes. -/
def test (p : Predicate α) (object : α) (c : Codebase) : Eval Bool :=
  match p.probe with
  | .object holds => pure (holds object)
  | .codebase holds => holds object c

/-- Whether the test looks at the codebase. -/
def needsCodebase (p : Predicate α) : Bool :=
  match p.probe with
  | .object _ => false
  | .codebase _ => true

/-- Whether an object passes all predicates of a list. They are tested in order, and the first
that the object does not pass decides. -/
def passesAll : List (Predicate α) → α → Codebase → Eval Bool
  | [], _, _ => pure true
  | p :: more, object, c => do
    if ← p.test object c then passesAll more object c else pure false

/-- The objects that pass all predicates, in order and as often as they occur. Testing goes object
by object. -/
def filter (predicates : List (Predicate α)) (c : Codebase) : List α → Eval (List α)
  | [] => pure []
  | object :: rest => do
    let kept ← passesAll predicates object c
    let others ← filter predicates c rest
    pure (if kept then object :: others else others)

theorem passesAll_append (ps qs : List (Predicate α)) (object : α) (c : Codebase) :
    passesAll (ps ++ qs) object c =
      passesAll ps object c >>= fun kept => if kept then passesAll qs object c else pure false := by
  induction ps with
  | nil => simp [passesAll]
  | cons p ps ih =>
    simp only [List.cons_append, passesAll, bind_assoc]
    congr 1
    funext kept
    cases kept <;> simp [ih]

end Predicate

end DesignRules
