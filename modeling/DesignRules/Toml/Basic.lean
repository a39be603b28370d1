/-!
# TOML values

The values of a TOML document. A configuration looks at texts, truth values, lists and tables;
numbers and dates are told apart from them but not looked into.

## Main definitions

* `Toml` — the values
-/

namespace DesignRules

/-- A value of a TOML document. -/
inductive Toml where
  | text (value : String)
  | bool (value : Bool)
  | integer
  | float
  /-- A date, a time of day, or both. -/
  | datetime
  | list (items : List Toml)
  /-- Keys with their values in the order of the document, no key twice. -/
  | table (entries : List (String × Toml))
  deriving Repr

end DesignRules
