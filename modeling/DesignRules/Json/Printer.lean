import DesignRules.Json.Basic
import DesignRules.Text.Basic

/-!
# Writing JSON

A JSON value as text, on one line and without blanks. Characters beyond ASCII are written as they
are; of the others, quotes, backslashes and control characters are escaped.

## Main definitions

* `Json.escapedChar`, `Json.quoted` — texts
* `Json.render` — any value
-/

namespace DesignRules.Json

/-- One character as it stands inside a JSON text. -/
def escapedChar (c : Char) : List Char :=
  if c = '\"' then ['\\', '\"']
  else if c = '\\' then ['\\', '\\']
  else if c = '\n' then ['\\', 'n']
  else if c = '\r' then ['\\', 'r']
  else if c = '\t' then ['\\', 't']
  else if c = '\x08' then ['\\', 'b']
  else if c = '\x0c' then ['\\', 'f']
  else if c.toNat < 0x20 then
    ['\\', 'u', '0', '0'] ++ [Nat.digitChar (c.toNat / 16), Nat.digitChar (c.toNat % 16)]
  else [c]

/-- A text in quotes. -/
def quoted (value : String) : String :=
  String.ofList ('\"' :: (value.toList.flatMap escapedChar ++ ['\"']))

mutual

/-- A value as text. -/
def render : Json → String
  | null => "null"
  | bool value => if value then "true" else "false"
  | nat value => toString value
  | number literal => literal
  | text value => quoted value
  | list items => "[" ++ ",".intercalate (renderItems items) ++ "]"
  | object fields => "\x7b" ++ ",".intercalate (renderFields fields) ++ "\x7d"

/-- The items of a list as texts. -/
def renderItems : List Json → List String
  | [] => []
  | item :: rest => render item :: renderItems rest

/-- The fields of an object as texts. -/
def renderFields : List (String × Json) → List String
  | [] => []
  | (name, value) :: rest => (quoted name ++ ":" ++ render value) :: renderFields rest

end

end DesignRules.Json
