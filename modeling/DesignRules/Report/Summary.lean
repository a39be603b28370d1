import DesignRules.Report.Basic

/-!
# Summaries

The outcome of checking a list of rules: their reports in order, and how many rules were checked
and how many left out. A summary can be counted up by severity and be listed from a severity on.

## Main definitions

* `Summary`, `Summary.violations` — the reports, and all their findings
* `Summary.count`, `Summary.hasViolationsAt`, `Summary.hasErrors` — questions about the findings
* `Summary.text`, `Summary.listing` — the line of totals, and the list of findings above it
-/

namespace DesignRules

/-- The reports of the rules that were checked. -/
structure Summary where
  /-- One report for each rule checked, in order. -/
  reports : List Report
  /-- The number of rules checked. -/
  checked : Nat
  /-- The number of rules left out. -/
  skipped : Nat
  deriving DecidableEq, Repr

namespace Summary

/-- The summary of a check without rules. -/
def empty : Summary := ⟨[], 0, 0⟩

/-- All findings, report by report. -/
def violations (s : Summary) : List Violation := s.reports.flatMap Report.violations

/-- The number of findings of one severity. -/
def count (s : Summary) (severity : Severity) : Nat :=
  s.violations.countP fun v => v.severity == severity

/-- The findings that reach a threshold, in order. -/
def violationsFrom (s : Summary) (threshold : Severity) : List Violation :=
  s.violations.filter fun v => v.severity.atLeast threshold

/-- Whether a finding reaches a threshold. -/
def hasViolationsAt (s : Summary) (threshold : Severity) : Bool :=
  s.violations.any fun v => v.severity.atLeast threshold

/-- Whether there is an error among the findings. -/
def hasErrors (s : Summary) : Bool := s.violations.any fun v => v.severity == .error

/-- The reports that have findings. -/
def failedReports (s : Summary) : List Report := s.reports.filter fun r => !r.passed

/-- The totals in one line. -/
def text (s : Summary) : String :=
  let errors := s.count .error
  let warnings := s.count .warning
  let infos := s.count .info
  let checked := s.checked
  let skipped := s.skipped
  s!"Total: {errors} error(s), {warnings} warning(s), {infos} info(s) in {checked} rule(s)" ++
    (if skipped = 0 then "" else s!", {skipped} skipped")

/-- A finding in a listing: the sentence of its rule, and the finding indented below it. -/
def block (v : Violation) : String :=
  v.rule ++ "\n  " ++ v.severity.text ++ ": " ++ v.text ++ "\n\n"

/-- The findings that reach a threshold between a header and the totals. -/
def listing (s : Summary) (threshold : Severity) : String :=
  let shown := s.violationsFrom threshold
  let size := shown.length
  s!"\n=== arch-rules: {size} violation(s) ===\n\n" ++ String.join (shown.map block) ++ s.text

end Summary

end DesignRules
