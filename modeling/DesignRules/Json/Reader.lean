import DesignRules.Json.Basic
import DesignRules.Json.Lexer

/-!
# Reading JSON

The value that a JSON text stands for. Its tokens are read one at a time by a machine that keeps
the lists and objects it is inside of, the innermost first, and knows what may follow. In an
object with a name twice, the later value counts.

## Main definitions

* `Json.ofWord?` — literals and numbers
* `Json.Frame`, `Json.ReaderState`, `Json.ReaderState.step` — the machine, and reading one token
* `Json.read?` — the value of a text
-/

namespace DesignRules.Json

/-! ### Words -/

/-- Whether a list of characters is a fraction followed by an exponent, either of which may be
missing. -/
def isFractionOrExponent (chars : List Char) : Bool :=
  let afterFraction :=
    match chars with
    | '.' :: rest => if (rest.takeWhile Char.isDigit).isEmpty then none
        else some (rest.dropWhile Char.isDigit)
    | rest => some rest
  match afterFraction with
  | none => false
  | some [] => true
  | some (mark :: rest) =>
    if mark = 'e' ∨ mark = 'E' then
      let digits :=
        match rest with
        | '+' :: digits => digits
        | '-' :: digits => digits
        | digits => digits
      !digits.isEmpty && digits.all Char.isDigit
    else false

/-- Whether digits are a whole number without superfluous zeros at its front. -/
def isWhole : List Char → Bool
  | [] => false
  | ['0'] => true
  | '0' :: _ => false
  | digits => digits.all Char.isDigit

/-- The number that digits stand for. -/
def digitsValue (digits : List Char) : Nat :=
  digits.foldl (fun value c => value * 10 + (c.toNat - '0'.toNat)) 0

/-- The literal or number that a word stands for. -/
def ofWord? (chars : List Char) : Option Json :=
  if chars = ['n', 'u', 'l', 'l'] then some null
  else if chars = ['t', 'r', 'u', 'e'] then some (bool true)
  else if chars = ['f', 'a', 'l', 's', 'e'] then some (bool false)
  else
    let unsigned :=
      match chars with
      | '-' :: rest => rest
      | rest => rest
    let whole := unsigned.takeWhile Char.isDigit
    let rest := unsigned.dropWhile Char.isDigit
    if isWhole whole && isFractionOrExponent rest then
      if whole = chars then some (nat (digitsValue whole)) else some (number (String.ofList chars))
    else none

/-! ### Values -/

/-- A list or an object of which a part has been read. -/
inductive Frame where
  /-- A list with its items in reverse. -/
  | list (items : List Json)
  /-- An object with its fields so far, and the name whose value is read. -/
  | object (fields : List (String × Json)) (name : String)

/-- What has been read, and what may follow. -/
inductive ReaderState where
  /-- A value has to follow. -/
  | value (frames : List Frame)
  /-- The first item of a list or its end has to follow. -/
  | firstItem (frames : List Frame)
  /-- The first name of an object or its end has to follow. -/
  | firstName (frames : List Frame)
  /-- Another name of an object has to follow. -/
  | name (frames : List Frame) (fields : List (String × Json))
  /-- The colon after a name has to follow. -/
  | colon (frames : List Frame) (fields : List (String × Json)) (name : String)
  /-- A value has been read to its end. -/
  | done (frames : List Frame) (value : Json)

namespace ReaderState

/-- Reads the first token of a value. -/
def beginValue (frames : List Frame) : Token → Option ReaderState
  | .text content => some (done frames (.text content))
  | .word chars => (ofWord? chars).map (done frames)
  | .openList => some (firstItem frames)
  | .openObject => some (firstName frames)
  | _ => none

/-- Reads one token. -/
def step : ReaderState → Token → Option ReaderState
  | value frames, token => beginValue frames token
  | firstItem frames, .closeList => some (done frames (.list []))
  | firstItem frames, token => beginValue (.list [] :: frames) token
  | firstName frames, .closeObject => some (done frames (.object []))
  | firstName frames, .text key => some (colon frames [] key)
  | firstName _, _ => none
  | name frames fields, .text key => some (colon frames fields key)
  | name _ _, _ => none
  | colon frames fields key, .colon => some (value (.object fields key :: frames))
  | colon _ _ _, _ => none
  | done (.list items :: frames) v, .comma => some (value (.list (v :: items) :: frames))
  | done (.list items :: frames) v, .closeList =>
    some (done frames (.list (v :: items).reverse))
  | done (.object fields key :: frames) v, .comma => some (name frames (setField fields key v))
  | done (.object fields key :: frames) v, .closeObject =>
    some (done frames (.object (setField fields key v)))
  | done _ _, _ => none

/-- Reads the tokens that follow; a single value must be left. -/
def run : ReaderState → List Token → Option Json
  | done [] v, [] => some v
  | _, [] => none
  | s, token :: rest =>
    match s.step token with
    | none => none
    | some next => next.run rest

end ReaderState

/-- The value that a text stands for. -/
def read? (source : String) : Option Json := do
  let tokens ← tokens? source
  (ReaderState.value []).run tokens

end DesignRules.Json
