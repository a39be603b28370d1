import DesignRules.Text.Basic

/-!
# Reports

The outcome of judging a rule: the sentence of the rule and its violations. A rule passes if it
has none.

## Main definitions

* `Severity`, `Severity.atLeast` — how serious a violation is
* `Violation`, `Violation.text` — one finding, and its line
* `Report`, `Report.passed`, `Report.text` — the findings of a rule, and their listing
-/

namespace DesignRules

/-- How serious a violation is. -/
inductive Severity where
  | info
  | warning
  | error
  deriving DecidableEq, Repr

namespace Severity

/-- All severities, the least serious first. -/
def all : List Severity := [info, warning, error]

/-- The severity as a word. -/
def text : Severity → String
  | info => "info"
  | warning => "warning"
  | error => "error"

/-- The position in the order of seriousness. -/
def rank : Severity → Nat
  | info => 0
  | warning => 1
  | error => 2

/-- Whether a severity reaches a threshold. -/
def atLeast (s threshold : Severity) : Bool := threshold.rank ≤ s.rank

end Severity

/-- One finding about one object, or about the lack of objects. -/
structure Violation where
  /-- The sentence of the rule that is violated. -/
  rule : String
  /-- The full name of the object, unless the violation is about there being none. -/
  object : Option String
  /-- What is wrong. -/
  message : String
  /-- How serious it is. -/
  severity : Severity
  deriving DecidableEq, Repr

namespace Violation

/-- A finding of the usual severity, an error. -/
def ofMessage (rule : String) (object : Option String) (message : String) : Violation :=
  ⟨rule, object, message, .error⟩

/-- The finding with another severity. -/
def withSeverity (v : Violation) (severity : Severity) : Violation :=
  { v with severity := severity }

/-- The finding as a clause: the object in quotes, if there is one, and the message. -/
def text (v : Violation) : String :=
  match v.object with
  | some object => Text.quoted object ++ " " ++ v.message
  | none => v.message

end Violation

/-- The findings of one rule. -/
structure Report where
  /-- The sentence of the rule. -/
  description : String
  /-- What was found, in order. -/
  violations : List Violation
  deriving DecidableEq, Repr

namespace Report

/-- The report without findings. -/
def empty (description : String) : Report := ⟨description, []⟩

/-- Whether nothing was found. -/
def passed (r : Report) : Bool := r.violations.isEmpty

/-- The full names of the objects found, in order, as often as they are found. -/
def violatingObjects (r : Report) : List String := r.violations.filterMap Violation.object

/-- The report with one severity for all findings. -/
def withSeverity (r : Report) (severity : Severity) : Report :=
  { r with violations := r.violations.map (·.withSeverity severity) }

/-- The report as text: one line that says how the rule fared and one for each finding. -/
def text (r : Report) : String :=
  if r.passed then Text.quoted r.description ++ " passed"
  else
    Text.quoted r.description ++ " failed:" ++
      String.join (r.violations.map fun v => "\n  " ++ v.severity.text ++ ": " ++ v.text)

end Report

end DesignRules
