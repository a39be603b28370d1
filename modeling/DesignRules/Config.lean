import DesignRules.Config.FileError
import DesignRules.Report.Serial
import DesignRules.Toml.Reader

/-!
# Configuration

Which rules of a suite are checked, how serious their findings are, and from which severity on a
check counts as failed. A configuration is read from a TOML document:

```toml
fail_on = "warning"

[rules.domain-is-isolated]
severity = "error"

[rules.naming]
enabled = false
```

## Implementation notes

Keys that a configuration does not know are passed over. The settings of a rule may also be given
as a list of their values in the order *enabled*, *severity*, which may end early; a date is taken
for settings none of which is known.

## Main definitions

* `RuleConfig`, `Config` — the settings of a rule, and all settings
* `Config.isEnabled`, `Config.severity?`, `Config.failThreshold` — what a rule or a check asks
* `Config.parse?`, `Config.ofFile` — reading a document, and the content of a file
* `ConfigError` — why there is no configuration
-/

namespace DesignRules

/-- The settings of a rule; what is not set is decided elsewhere. -/
structure RuleConfig where
  /-- Whether the rule is checked. -/
  enabled : Option Bool
  /-- The severity of its findings. -/
  severity : Option Severity
  deriving DecidableEq, Repr

/-- Settings for a check. -/
structure Config where
  /-- The severity from which a check counts as failed. -/
  failOn : Option Severity
  /-- The settings of rules by name. -/
  rules : List (String × RuleConfig)
  deriving DecidableEq, Repr

namespace Config

/-- The configuration that sets nothing. -/
def empty : Config := ⟨none, []⟩

/-- The settings of the rule of that name. -/
def rule? (config : Config) (name : String) : Option RuleConfig := config.rules.lookup name

/-- Whether the rule of that name is checked: unless it is disabled, it is. -/
def isEnabled (config : Config) (name : String) : Bool :=
  ((config.rule? name).bind RuleConfig.enabled).getD true

/-- The severity set for the findings of the rule of that name. -/
def severity? (config : Config) (name : String) : Option Severity :=
  (config.rule? name).bind RuleConfig.severity

/-- The severity from which a check counts as failed; if none is set, errors alone count. -/
def failThreshold (config : Config) : Severity := config.failOn.getD .error

end Config

/-! ### Reading a configuration -/

namespace Config

/-- The settings that a value stands for, if `read?` can tell. -/
def optional? {α : Type} (read? : Toml → Option α) : Option Toml → Option (Option α)
  | none => some none
  | some value => (read? value).map some

/-- The truth value that a value is. -/
def boolOf? : Toml → Option Bool
  | .bool value => some value
  | _ => none

/-- Whether a value is a list or a table that holds nothing. -/
def isEmptyValue : Toml → Bool
  | .list [] => true
  | .table [] => true
  | _ => false

/-- The severity that a value is: its word, or a table with the word as its only key and nothing
below it. -/
def severityOf? : Toml → Option Severity
  | .text word => Severity.ofWord? word
  | .table [(word, value)] => if isEmptyValue value then Severity.ofWord? word else none
  | _ => none

/-- The settings of a rule that a value is. -/
def ruleOf? : Toml → Option RuleConfig
  | .table entries => do
    let enabled ← optional? boolOf? (entries.lookup "enabled")
    let severity ← optional? severityOf? (entries.lookup "severity")
    pure ⟨enabled, severity⟩
  | .list items => do
    let enabled ← optional? boolOf? items[0]?
    let severity ← optional? severityOf? items[1]?
    pure ⟨enabled, severity⟩
  | .datetime => some ⟨none, none⟩
  | _ => none

/-- The settings of all rules that a value is. -/
def rulesOf? : Toml → Option (List (String × RuleConfig))
  | .table entries => entries.mapM fun (name, value) => (ruleOf? value).map (name, ·)
  | _ => none

/-- The configuration that a document stands for. -/
def parse? (source : String) : Option Config := do
  let entries ← Toml.read? source
  let failOn ← optional? severityOf? (entries.lookup "fail_on")
  let rules ← optional? rulesOf? (entries.lookup "rules")
  pure ⟨failOn, rules.getD []⟩

end Config

/-- Why there is no configuration. -/
inductive ConfigError where
  /-- The file cannot be read. -/
  | unreadable (path : String) (reason : FileError)
  /-- The document is no configuration. -/
  | malformed
  deriving DecidableEq, Repr

namespace ConfigError

/-- The sentence shown for the error. -/
def message : ConfigError → String
  | unreadable path reason => s!"Failed to read config file {path}: {reason.message}"
  | malformed => "Failed to parse config"

end ConfigError

namespace Config

/-- The configuration of a document. -/
def parse (source : String) : Except ConfigError Config :=
  match parse? source with
  | some config => .ok config
  | none => .error .malformed

/-- The configuration of a file, given its bytes; there are none if the path leads to no file. -/
def ofFile (path : String) (content : Option ByteArray) : Except ConfigError Config :=
  match content with
  | none => .error (.unreadable path (.ofPath path))
  | some bytes =>
    match String.fromUTF8? bytes with
    | none => .error (.unreadable path .notText)
    | some source => parse source

/-- The stored form of a severity that may be unset. -/
def severityJson (severity : Option Severity) : Json := .ofOptionalText (severity.map Severity.text)

end Config

/-- The stored form of the settings of a rule. -/
def RuleConfig.toJson (r : RuleConfig) : Json :=
  .object
    [("enabled", (r.enabled.map Json.bool).getD .null),
      ("severity", Config.severityJson r.severity)]

/-- The stored form of a configuration. -/
def Config.toJson (config : Config) : Json :=
  .object
    [("fail_on", severityJson config.failOn),
      ("rules", .object (config.rules.map fun (name, rule) => (name, rule.toJson)))]

end DesignRules
