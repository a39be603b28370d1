import DesignRules.Condition.Basic
import DesignRules.Condition.Existence
import DesignRules.Model.Element
import DesignRules.Report.Basic

/-!
# Rules

A rule is a sentence that can be judged against a codebase. What a sentence asserts about its
objects is either a condition on each of them or a condition on whether there are any. Rules can
be joined into larger ones.

## Implementation notes

Joining rules is not lazy: both are evaluated, and an error in either is an error of the whole.
A failed conjunction lists the findings of both sides, even if only one side failed; a passed
disjunction lists none, even if one side has some.

## Main definitions

* `Assertion`, `Assertion.evaluate` — what is asserted, and judging it on given candidates
* `Rule`, `Rule.hasNoViolations` — a sentence with its evaluation
* `Report.combine`, `Rule.combine` — reports and rules joined

## Main results

* `Report.passed_combine` — the truth values follow the connectives
-/

namespace DesignRules

/-! ### Assertions -/

/-- What a rule asserts about its objects. -/
inductive Assertion (α : Type) where
  /-- Every object meets the condition. -/
  | eachObject (condition : Condition α)
  /-- The number of objects meets the condition. -/
  | existence (condition : Existence)

namespace Assertion

variable {α : Type}

/-- How the assertion reads. -/
def wording : Assertion α → Wording
  | eachObject condition => condition.wording
  | existence condition => condition.wording

/-- What the assertion demands. -/
def description (a : Assertion α) : String := a.wording.description

/-- What is wrong where the assertion does not hold. -/
def failDescription (a : Assertion α) : String := a.wording.failDescription

variable [Element α]

/-- The findings about the candidates that do not meet a condition. -/
def judgeEach (rule failDescription : String) (judge : α → Eval Verdict) :
    List α → Eval (List Violation)
  | [] => pure []
  | object :: rest => do
    let verdict ← judge object
    let others ← judgeEach rule failDescription judge rest
    match verdict with
    | .pass => pure others
    | .fail none =>
      pure (.ofMessage rule (some (Element.fullName object)) failDescription :: others)
    | .fail (some detail) =>
      pure (.ofMessage rule (some (Element.fullName object)) (failDescription ++ ": " ++ detail) ::
        others)

/-- The findings about a number of candidates that does not meet a condition: one for each
candidate, or a single one if there is none. -/
def judgeNumber (rule : String) (condition : Existence) (candidates : List α) : List Violation :=
  if condition.holds candidates.length then []
  else
    match candidates with
    | [] => [.ofMessage rule none condition.wording.failDescription]
    | _ :: _ =>
      candidates.map fun object =>
        .ofMessage rule (some (Element.fullName object)) condition.wording.failDescription

/-- The findings about the candidates. A condition is not even bound if there is no candidate. -/
def findings (a : Assertion α) (rule : String) (candidates : List α) (c : Codebase) :
    Eval (List Violation) :=
  match a, candidates with
  | eachObject _, [] => pure []
  | eachObject condition, object :: rest => do
    let judge ← condition.bindTo c
    judgeEach rule condition.wording.failDescription judge (object :: rest)
  | existence condition, candidates => pure (judgeNumber rule condition candidates)

/-- The report about the candidates, with an event at the end. -/
def evaluate (a : Assertion α) (rule : String) (candidates : List α) (c : Codebase) :
    Eval Report := do
  let violations ← a.findings rule candidates c
  Eval.emit (.evaluated rule candidates.length violations.length)
  pure ⟨rule, violations⟩

end Assertion

/-! ### Rules -/

/-- A sentence that can be judged against a codebase. -/
structure Rule where
  /-- The sentence. -/
  description : String
  /-- The report on a codebase. -/
  evaluate : Codebase → Eval Report

/-- Whether a rule has nothing to report. -/
def Rule.hasNoViolations (r : Rule) (c : Codebase) : Eval Bool := Report.passed <$> r.evaluate c

/-- Two reports as one. A disjunction has no findings as soon as one side has none. -/
def Report.combine (description : String) (c : Connector) (first second : Report) : Report :=
  if c = .or ∧ (first.passed ∨ second.passed) then .empty description
  else ⟨description, first.violations ++ second.violations⟩

theorem Report.passed_combine (description : String) (c : Connector) (first second : Report) :
    (Report.combine description c first second).passed =
      match c with
      | .and => first.passed && second.passed
      | .or => first.passed || second.passed := by
  cases c with
  | and => cases h : first.violations <;> simp [combine, passed, h]
  | or =>
    cases hfirst : first.passed <;> cases hsecond : second.passed <;>
      simp_all [combine, passed, empty]

/-- Two rules as one. -/
def Rule.combine (first : Rule) (c : Connector) (second : Rule) : Rule where
  description := c.between first.description second.description
  evaluate codebase := do
    let firstReport ← first.evaluate codebase
    let secondReport ← second.evaluate codebase
    pure (.combine (c.between first.description second.description) c firstReport secondReport)

instance : Join Rule := ⟨fun c first second => first.combine c second⟩

end DesignRules
