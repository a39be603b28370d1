import DesignRules.Toml.Basic

/-!
# Texts, numbers and dates of a TOML document

Reading a single value that holds no other value. Each function reads from the front of a list of
characters and gives back what is left of it.

## Implementation notes

There are four ways to write a text: with escapes or without, on one line or on several. A text
on several lines ends at the first three quotes in a row, except that up to two more quotes
directly before the end belong to the text.

Integers must fit 64 bits, and a float must not be so large that it has no finite value; the
value of a number is otherwise of no interest. A date must be a day of the calendar.

## Main definitions

* `Toml.lineText?`, `Toml.lineLiteral?`, `Toml.longText?`, `Toml.longLiteral?` — the four texts
  after their opening quotes
* `Toml.integer?`, `Toml.float?` — numbers
* `Toml.date?`, `Toml.time?`, `Toml.datetime?` — dates and times of day
* `Toml.number?` — what starts like a number
-/

namespace DesignRules.Toml

/-! ### Classes of characters -/

/-- Whether a character is a space or a tab. -/
def isBlank (c : Char) : Bool := c == ' ' || c == '\t'

/-- Whether a character may stand in a comment or a text: any but a control character. -/
def isPlain (c : Char) : Bool := c == '\t' || (0x20 ≤ c.toNat && c.toNat != 0x7f)

/-- Whether a character may stand for itself in a text with escapes. -/
def isTextChar (c : Char) : Bool := isPlain c && c != '\"' && c != '\\'

/-- Whether a character may stand in a text without escapes. -/
def isLiteralChar (c : Char) : Bool := isPlain c && c.toNat != 0x27

/-- Whether a character is a hexadecimal digit. -/
def isHexDigit (c : Char) : Bool :=
  c.isDigit || ('a' ≤ c && c ≤ 'f') || ('A' ≤ c && c ≤ 'F')

/-- The value of a hexadecimal digit. -/
def hexDigitValue (c : Char) : Nat :=
  if c.isDigit then c.toNat - '0'.toNat
  else if 'a' ≤ c then c.toNat - 'a'.toNat + 10
  else c.toNat - 'A'.toNat + 10

/-- What is left without the blanks at the front. -/
def skipBlanks (chars : List Char) : List Char := chars.dropWhile isBlank

/-- What follows an end of line. -/
def newline? : List Char → Option (List Char)
  | '\n' :: rest => some rest
  | '\r' :: '\n' :: rest => some rest
  | _ => none

/-! ### Texts -/

/-- The character of a number given by hexadecimal digits. -/
def charOfHex? (digits : List Char) : Option Char :=
  if digits.all isHexDigit then
    let value := digits.foldl (fun value d => value * 16 + hexDigitValue d) 0
    if h : value.isValidChar then some (Char.ofNatAux value h) else none
  else none

/-- The character that a one-letter escape stands for. -/
def escapeChar? : Char → Option Char
  | 'b' => some (Char.ofNat 8)
  | 't' => some '\t'
  | 'n' => some '\n'
  | 'f' => some (Char.ofNat 12)
  | 'r' => some '\r'
  | '\"' => some '\"'
  | '\\' => some '\\'
  | _ => none

/-- The text with escapes on one line, after its opening quote. -/
def lineText? : List Char → Option (List Char × List Char)
  | [] => none
  | '\"' :: rest => some ([], rest)
  | '\\' :: 'u' :: a :: b :: c :: d :: rest => do
    let char ← charOfHex? [a, b, c, d]
    let (more, left) ← lineText? rest
    pure (char :: more, left)
  | '\\' :: 'U' :: a :: b :: c :: d :: e :: f :: g :: h :: rest => do
    let char ← charOfHex? [a, b, c, d, e, f, g, h]
    let (more, left) ← lineText? rest
    pure (char :: more, left)
  | '\\' :: letter :: rest => do
    let char ← escapeChar? letter
    let (more, left) ← lineText? rest
    pure (char :: more, left)
  | char :: rest =>
    if isTextChar char then do
      let (more, left) ← lineText? rest
      pure (char :: more, left)
    else none

/-- The text without escapes on one line, after its opening quote. -/
def lineLiteral? (chars : List Char) : Option (List Char × List Char) :=
  match chars.dropWhile isLiteralChar with
  | '\x27' :: rest => some (chars.takeWhile isLiteralChar, rest)
  | _ => none

/-- The text with escapes on several lines, after its opening quotes. A backslash at the end of a
line joins what follows, without the blanks and ends of line before it; `joining` says that such
blanks are being passed over. -/
def longText? (joining : Bool) : List Char → Option (List Char × List Char)
  | [] => none
  | '\"' :: '\"' :: '\"' :: '\"' :: '\"' :: rest => some (['\"', '\"'], rest)
  | '\"' :: '\"' :: '\"' :: '\"' :: rest => some (['\"'], rest)
  | '\"' :: '\"' :: '\"' :: rest => some ([], rest)
  | '\"' :: rest => do
    let (more, left) ← longText? false rest
    pure ('\"' :: more, left)
  | '\r' :: '\n' :: rest => do
    let (more, left) ← longText? joining rest
    pure (if joining then more else '\n' :: more, left)
  | '\n' :: rest => do
    let (more, left) ← longText? joining rest
    pure (if joining then more else '\n' :: more, left)
  | '\\' :: 'u' :: a :: b :: c :: d :: rest => do
    let char ← charOfHex? [a, b, c, d]
    let (more, left) ← longText? false rest
    pure (char :: more, left)
  | '\\' :: 'U' :: a :: b :: c :: d :: e :: f :: g :: h :: rest => do
    let char ← charOfHex? [a, b, c, d, e, f, g, h]
    let (more, left) ← longText? false rest
    pure (char :: more, left)
  | '\\' :: letter :: rest =>
    match escapeChar? letter with
    | some char => do
      let (more, left) ← longText? false rest
      pure (char :: more, left)
    | none =>
      if (newline? (skipBlanks (letter :: rest))).isSome then longText? true (letter :: rest)
      else none
  | char :: rest =>
    if joining && isBlank char then longText? true rest
    else if isTextChar char then do
      let (more, left) ← longText? false rest
      pure (char :: more, left)
    else none

/-- The text without escapes on several lines, after its opening quotes. -/
def longLiteral? : List Char → Option (List Char × List Char)
  | [] => none
  | '\x27' :: '\x27' :: '\x27' :: '\x27' :: '\x27' :: rest => some (['\x27', '\x27'], rest)
  | '\x27' :: '\x27' :: '\x27' :: '\x27' :: rest => some (['\x27'], rest)
  | '\x27' :: '\x27' :: '\x27' :: rest => some ([], rest)
  | '\x27' :: rest => do
    let (more, left) ← longLiteral? rest
    pure ('\x27' :: more, left)
  | '\r' :: '\n' :: rest => do
    let (more, left) ← longLiteral? rest
    pure ('\n' :: more, left)
  | '\n' :: rest => do
    let (more, left) ← longLiteral? rest
    pure ('\n' :: more, left)
  | char :: rest =>
    if isLiteralChar char then do
      let (more, left) ← longLiteral? rest
      pure (char :: more, left)
    else none

/-- Without an end of line at the very front. -/
def dropNewline (chars : List Char) : List Char := (newline? chars).getD chars

/-! ### Numbers -/

/-- One or more digits; an underscore may stand between two of them. -/
def digits? (isDigit : Char → Bool) : List Char → Option (List Char × List Char)
  | [] => none
  | c :: rest =>
    if isDigit c then
      match rest with
      | [] => some ([c], [])
      | '_' :: more => do
        let (found, left) ← digits? isDigit more
        pure (c :: found, left)
      | next :: more =>
        if isDigit next then do
          let (found, left) ← digits? isDigit (next :: more)
          pure (c :: found, left)
        else some ([c], next :: more)
    else none

/-- The number that digits to a base stand for. -/
def digitsValue (base : Nat) (digits : List Char) : Nat :=
  digits.foldl (fun value d => value * base + hexDigitValue d) 0

/-- A sign, if there is one: whether it is a minus, and what is left. -/
def sign (chars : List Char) : Bool × List Char :=
  match chars with
  | '-' :: rest => (true, rest)
  | '+' :: rest => (false, rest)
  | rest => (false, rest)

/-- The whole part of a decimal number, without a zero in front of other digits. -/
def wholePart? : List Char → Option (List Char × List Char)
  | '0' :: rest => some (['0'], rest)
  | rest => digits? Char.isDigit rest

/-- Whether a decimal integer fits 64 bits with a sign. -/
def fits64 (negative : Bool) (value : Nat) : Bool :=
  if negative then value ≤ Nat.pow 2 63 else value < Nat.pow 2 63

/-- An integer to a base other than ten, after its mark. -/
def basedInteger? (base : Nat) (isDigit : Char → Bool) (chars : List Char) :
    Option (List Char) := do
  let (found, left) ← digits? isDigit chars
  if fits64 false (digitsValue base found) then some left else none

/-- What is left after an integer. -/
def integer? : List Char → Option (List Char)
  | '0' :: 'x' :: rest => basedInteger? 16 isHexDigit rest
  | '0' :: 'o' :: rest => basedInteger? 8 (fun c => '0' ≤ c && c ≤ '7') rest
  | '0' :: 'b' :: rest => basedInteger? 2 (fun c => c == '0' || c == '1') rest
  | chars => do
    let (negative, unsigned) := sign chars
    let (whole, left) ← wholePart? unsigned
    if fits64 negative (digitsValue 10 whole) then some left else none

/-- Whether `digits` times ten to the power `exponent` is too large for a finite double: it is
when it reaches the midpoint above the largest one. -/
def overflowsDouble (digits : List Char) (exponent : Int) : Bool :=
  let significant := digits.dropWhile (· == '0')
  let magnitude := Int.ofNat significant.length + exponent
  if significant.isEmpty || magnitude < 300 then false
  else if 320 < magnitude then true
  else
    let value := digitsValue 10 significant
    let limit := Nat.pow 2 1024 - Nat.pow 2 970
    if 0 ≤ exponent then decide (limit ≤ value * Nat.pow 10 exponent.toNat)
    else decide (limit * Nat.pow 10 (-exponent).toNat ≤ value)

/-- The exponent of a float, if there is one at the front. -/
def exponent? : List Char → Option (Option Int × List Char)
  | 'e' :: rest => readExponent rest
  | 'E' :: rest => readExponent rest
  | rest => some (none, rest)
where
  /-- The digits of an exponent with their sign. -/
  readExponent (chars : List Char) : Option (Option Int × List Char) := do
    let (negative, unsigned) := sign chars
    let (found, left) ← digits? Char.isDigit unsigned
    let value : Int := digitsValue 10 found
    pure (some (if negative then -value else value), left)

/-- What is left after a float: infinity, not a number, or a decimal number with a fraction or an
exponent. -/
def float? (chars : List Char) : Option (List Char) :=
  let (negative, unsigned) := sign chars
  match unsigned with
  | 'i' :: 'n' :: 'f' :: rest => some rest
  | 'n' :: 'a' :: 'n' :: rest => some rest
  | _ => do
    let (whole, afterWhole) ← wholePart? unsigned
    let (fraction, afterFraction) ←
      match afterWhole with
      | '.' :: rest => digits? Char.isDigit rest
      | rest => some ([], rest)
    let (exponent, left) ← exponent? afterFraction
    if fraction.isEmpty && exponent.isNone then none
    else if !negative &&
        overflowsDouble (whole ++ fraction) (exponent.getD 0 - Int.ofNat fraction.length) then none
    else some left

/-! ### Dates and times -/

/-- A number written with exactly `count` digits. -/
def fixedDigits? (count : Nat) (chars : List Char) : Option (Nat × List Char) :=
  let found := chars.take count
  if found.length = count ∧ found.all Char.isDigit then
    some (digitsValue 10 found, chars.drop count)
  else none

/-- What follows a given character. -/
def expect? (c : Char) : List Char → Option (List Char)
  | d :: rest => if c = d then some rest else none
  | [] => none

/-- The number of days of a month. -/
def daysOfMonth (year month : Nat) : Nat :=
  if month = 2 then
    if year % 4 = 0 ∧ (year % 100 ≠ 0 ∨ year % 400 = 0) then 29 else 28
  else if month = 4 ∨ month = 6 ∨ month = 9 ∨ month = 11 then 30
  else 31

/-- What is left after a date of the calendar. -/
def date? (chars : List Char) : Option (List Char) := do
  let (year, rest) ← fixedDigits? 4 chars
  let (month, rest) ← fixedDigits? 2 (← expect? '-' rest)
  let (day, rest) ← fixedDigits? 2 (← expect? '-' rest)
  if 1 ≤ month ∧ month ≤ 12 ∧ 1 ≤ day ∧ day ≤ daysOfMonth year month then some rest else none

/-- An hour and a minute. -/
def hourMinute? (chars : List Char) : Option (List Char) := do
  let (hour, rest) ← fixedDigits? 2 chars
  let (minute, rest) ← fixedDigits? 2 (← expect? ':' rest)
  if hour ≤ 23 ∧ minute ≤ 59 then some rest else none

/-- What is left after a time of day; its seconds may be 60, and have a fraction. -/
def time? (chars : List Char) : Option (List Char) := do
  let rest ← hourMinute? chars
  let (second, rest) ← fixedDigits? 2 (← expect? ':' rest)
  if second ≤ 60 then
    match rest with
    | '.' :: fraction =>
      if (fraction.takeWhile Char.isDigit).isEmpty then some rest
      else some (fraction.dropWhile Char.isDigit)
    | _ => some rest
  else none

/-- What is left after the distance from universal time, if there is one at the front. -/
def offset? : List Char → Option (List Char)
  | 'Z' :: rest => some rest
  | 'z' :: rest => some rest
  | '+' :: rest => hourMinute? rest
  | '-' :: rest => hourMinute? rest
  | rest => some rest

/-- What is left after a date, a time of day, or a date with a time of day and perhaps a distance
from universal time. -/
def datetime? (chars : List Char) : Option (List Char) :=
  match date? chars with
  | none => time? chars
  | some rest =>
    match rest with
    | [] => some []
    | mark :: more =>
      if mark = 'T' ∨ mark = 't' ∨ mark = ' ' then
        match time? more with
        | none => some rest
        | some afterTime => offset? afterTime
      else some rest

/-! ### What starts like a number -/

/-- A date, a float or an integer, whichever it is. -/
def number? (chars : List Char) : Option (Toml × List Char) :=
  match datetime? chars with
  | some rest => some (.datetime, rest)
  | none =>
    match float? chars with
    | some rest => some (.float, rest)
    | none => (integer? chars).map fun rest => (.integer, rest)

end DesignRules.Toml
