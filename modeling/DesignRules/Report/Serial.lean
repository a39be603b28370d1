import DesignRules.Json.Basic
import DesignRules.Report.Summary

/-!
# Stored reports

Violations, reports and summaries as JSON values, and back. A violation without an object is
written without that field, and is read with the field missing or null. The two counts of a
summary are numbers of 64 bits.

## Main definitions

* `Severity.ofWord?` — the severity of a word, whose inverse is `Severity.text`
* `Violation.toJson`, `Report.toJson`, `Summary.toJson` — writing
* `Violation.ofJson?`, `Report.ofJson?`, `Summary.ofJson?` — reading

## Main results

* `Severity.ofWord?_text` — every word is read back
-/

namespace DesignRules

/-- The severity of a word. -/
def Severity.ofWord? : String → Option Severity
  | "info" => some info
  | "warning" => some warning
  | "error" => some error
  | _ => none

theorem Severity.ofWord?_text (s : Severity) : ofWord? s.text = some s := by
  cases s <;> rfl

namespace Violation

/-- The stored form of a violation. -/
def toJson (v : Violation) : Json :=
  .object
    ([("rule", .text v.rule)] ++ (v.object.toList.map fun name => ("object", .text name)) ++
      [("message", .text v.message), ("severity", .text v.severity.text)])

/-- The violation of a stored form. -/
def ofJson? (value : Json) : Option Violation := do
  let field ← value.fieldsOf? ["rule", "object", "message", "severity"]
  let rule ← (← field "rule").text?
  let object ← Json.optionalText? (field "object")
  let message ← (← field "message").text?
  let severity ← (← (← field "severity").word?) |> Severity.ofWord?
  pure ⟨rule, object, message, severity⟩

end Violation

namespace Report

/-- The stored form of a report. -/
def toJson (r : Report) : Json :=
  .object
    [("description", .text r.description),
      ("violations", .list (r.violations.map Violation.toJson))]

/-- The report of a stored form. -/
def ofJson? (value : Json) : Option Report := do
  let field ← value.fieldsOf? ["description", "violations"]
  let description ← (← field "description").text?
  let violations ← (← field "violations").listOf? Violation.ofJson?
  pure ⟨description, violations⟩

end Report

namespace Summary

/-- The least number that a count of a stored summary cannot hold. -/
def countBound : Nat := Nat.pow 2 64

/-- The stored form of a summary. -/
def toJson (s : Summary) : Json :=
  .object
    [("reports", .list (s.reports.map Report.toJson)), ("rules_checked", .nat s.checked),
      ("rules_skipped", .nat s.skipped)]

/-- The summary of a stored form. -/
def ofJson? (value : Json) : Option Summary := do
  let field ← value.fieldsOf? ["reports", "rules_checked", "rules_skipped"]
  let reports ← (← field "reports").listOf? Report.ofJson?
  let checked ← (← field "rules_checked").natBelow? countBound
  let skipped ← (← field "rules_skipped").natBelow? countBound
  pure ⟨reports, checked, skipped⟩

end Summary

end DesignRules
