import DesignRules.Config
import DesignRules.Rule

/-!
# Suites

Rules with names, and a configuration for them. Checking a suite evaluates its enabled rules in
order and sums their reports up.

## Implementation notes

The first rule that cannot be evaluated ends a check without a summary. Names need not be
different: settings for a name apply to every rule of that name. Settings for a name that no rule
has are reported when the suite is put together, in the order of the names.

## Main definitions

* `Suite`, `Suite.build` — the rules with their configuration
* `Suite.checkRule`, `Suite.check` — one rule more in a summary, and the summary on a codebase
* `Suite.failed` — whether a summary counts as failed
-/

namespace DesignRules

/-- Rules with names, and a configuration. -/
structure Suite where
  /-- The rules in the order in which they are checked. -/
  rules : List (String × Rule)
  /-- The settings. -/
  config : Config

namespace Suite

/-- The names that the configuration has settings for, but no rule has, in order. -/
def unknownNames (s : Suite) : List String :=
  let known := s.rules.map Prod.fst
  let unknown := (s.config.rules.map Prod.fst).filter fun name => !known.contains name
  unknown.mergeSort fun a b => decide (a ≤ b)

/-- The suite of some rules and a configuration. Without a configuration nothing is set. -/
def build (rules : List (String × Rule)) (config : Option Config) : Eval Suite :=
  let suite : Suite := ⟨rules, config.getD .empty⟩
  ⟨.ok suite, suite.unknownNames.map Event.unknownRuleConfigured⟩

/-- The severity from which a check of the suite counts as failed. -/
def failThreshold (s : Suite) : Severity := s.config.failThreshold

/-- The report of a rule with the severity that is set for it. -/
def adjust (config : Config) (name : String) (r : Report) : Report :=
  match config.severity? name with
  | some severity => r.withSeverity severity
  | none => r

/-- The summary so far and one more rule. An enabled rule adds its report and is counted as checked,
any other is counted as skipped. -/
def checkRule (config : Config) (c : Codebase) (summary : Summary) (r : String × Rule) :
    Eval Summary :=
  if config.isEnabled r.1 then do
    Eval.emit (.ruleStarted r.1)
    let report ← r.2.evaluate c
    pure { summary with
      reports := summary.reports ++ [adjust config r.1 report]
      checked := summary.checked + 1 }
  else do
    Eval.emit (.ruleSkipped r.1)
    pure { summary with skipped := summary.skipped + 1 }

/-- The summary of all rules on a codebase. -/
def check (s : Suite) (c : Codebase) : Eval Summary := do
  Eval.emit (.checkStarted s.rules.length c.types.length)
  let summary ← s.rules.foldlM (checkRule s.config c) .empty
  Eval.emit (.checkFinished summary.violations.length summary.checked)
  pure summary

/-- Whether a summary has a finding that reaches the threshold of the suite. -/
def failed (s : Suite) (summary : Summary) : Bool := summary.hasViolationsAt s.failThreshold

end Suite

end DesignRules
