/-!
# The words of a JSON text

A JSON text is cut into tokens: the six marks, texts in quotes, and words, which are literals or
numbers. The text is read one character at a time by a machine whose state is what has been read
of the token at hand.

## Implementation notes

An escape names a sixteen-bit unit. Characters beyond those are written as two units, which are
put together when the text ends; a unit that lacks its partner makes the text invalid.

## Main definitions

* `Json.Token`, `Json.LexerState` — the tokens, and the machine between two characters
* `Json.LexerState.step` — reading one character
* `Json.tokens?` — the tokens of a text
-/

namespace DesignRules.Json

/-- A token of a JSON text. -/
inductive Token where
  | openList
  | closeList
  | openObject
  | closeObject
  | colon
  | comma
  | text (value : String)
  | word (value : List Char)
  deriving DecidableEq, Repr

/-- What has been read of the token at hand. Units and characters are kept in reverse. -/
inductive LexerState where
  /-- Nothing. -/
  | between
  /-- The beginning of a word. -/
  | word (read : List Char)
  /-- The beginning of a text. -/
  | text (units : List Nat)
  /-- The same, and a backslash. -/
  | escape (units : List Nat)
  /-- The same, a backslash, a `u` and some digits with the given value. -/
  | unit (units : List Nat) (digits : Nat) (value : Nat)
  deriving Repr

/-- The value of a hexadecimal digit. -/
def hexValue? (c : Char) : Option Nat :=
  if '0' ≤ c ∧ c ≤ '9' then some (c.toNat - '0'.toNat)
  else if 'a' ≤ c ∧ c ≤ 'f' then some (c.toNat - 'a'.toNat + 10)
  else if 'A' ≤ c ∧ c ≤ 'F' then some (c.toNat - 'A'.toNat + 10)
  else none

/-- The characters of a list of units and code points. -/
def chars? : List Nat → Option (List Char)
  | [] => some []
  | [unit] => if 0xd800 ≤ unit ∧ unit < 0xe000 then none else some [Char.ofNat unit]
  | unit :: next :: rest =>
    if 0xd800 ≤ unit ∧ unit < 0xdc00 then
      if 0xdc00 ≤ next ∧ next < 0xe000 then
        (chars? rest).map (Char.ofNat (0x10000 + (unit - 0xd800) * 0x400 + (next - 0xdc00)) :: ·)
      else none
    else if 0xdc00 ≤ unit ∧ unit < 0xe000 then none
    else (chars? (next :: rest)).map (Char.ofNat unit :: ·)

/-- The mark that a character is. -/
def mark? : Char → Option Token
  | '[' => some .openList
  | ']' => some .closeList
  | '\x7b' => some .openObject
  | '\x7d' => some .closeObject
  | ':' => some .colon
  | ',' => some .comma
  | _ => none

/-- Whether a character can be part of a word. -/
def isWordChar (c : Char) : Bool := c.isAlphanum || c == '+' || c == '-' || c == '.'

/-- Whether a character may stand between tokens. -/
def isBlank (c : Char) : Bool := c == ' ' || c == '\n' || c == '\r' || c == '\t'

/-- What a one-letter escape stands for. -/
def escapeValue? : Char → Option Nat
  | '\"' => some '\"'.toNat
  | '\\' => some '\\'.toNat
  | '/' => some '/'.toNat
  | 'b' => some 8
  | 'f' => some 12
  | 'n' => some 10
  | 'r' => some 13
  | 't' => some 9
  | _ => none

namespace LexerState

/-- Reads a character that is not part of a token at hand. -/
def begin (c : Char) : Option (List Token × LexerState) :=
  match mark? c with
  | some token => some ([token], between)
  | none =>
    if c = '\"' then some ([], text [])
    else if isBlank c then some ([], between)
    else if isWordChar c then some ([], word [c])
    else none

/-- Reads one character: the tokens that end with it or before it, and the state after it. -/
def step (s : LexerState) (c : Char) : Option (List Token × LexerState) :=
  match s with
  | between => begin c
  | word read =>
    if isWordChar c then some ([], word (c :: read))
    else (begin c).map fun (tokens, next) => (.word read.reverse :: tokens, next)
  | text units =>
    if c = '\"' then
      (chars? units.reverse).map fun chars => ([.text (String.ofList chars)], between)
    else if c = '\\' then some ([], escape units)
    else if c.toNat < 0x20 then none
    else some ([], text (c.toNat :: units))
  | escape units =>
    if c = 'u' then some ([], unit units 0 0)
    else (escapeValue? c).map fun value => ([], text (value :: units))
  | unit units digits value =>
    match hexValue? c with
    | none => none
    | some digit =>
      let value := value * 16 + digit
      if digits = 3 then some ([], text (value :: units))
      else some ([], unit units (digits + 1) value)

/-- The tokens of the characters that follow. -/
def run : LexerState → List Char → Option (List Token)
  | between, [] => some []
  | word read, [] => some [.word read.reverse]
  | _, [] => none
  | s, c :: rest =>
    match s.step c with
    | none => none
    | some (tokens, next) => (next.run rest).map (tokens ++ ·)

end LexerState

/-- The tokens of a text. -/
def tokens? (source : String) : Option (List Token) := LexerState.between.run source.toList

end DesignRules.Json
