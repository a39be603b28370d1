import DesignRules.Text.Unprintable

/-!
# Escaped texts

The form in which inspection texts show a text: between double quotes, on one line, with every
character visible. A quote, a backslash and the four most common control characters have a short
escape; any other character without a shape of its own is written as its number.

## Main definitions

* `Text.hexDigits` — a number in lower-case hexadecimal, without leading zeros
* `Text.escapedChar`, `Text.escaped` — one character, and a whole text between its quotes

## Main results

* `Text.escapedChar_of_printable` — a character with a shape of its own stands for itself
-/

namespace DesignRules.Text

/-- The digits of `n` in lower-case hexadecimal; zero is `0`. -/
def hexDigits (n : Nat) : List Char := Nat.toDigits 16 n

/-- One character as it stands inside an escaped text. -/
def escapedChar (c : Char) : List Char :=
  if c = '\"' then ['\\', '\"']
  else if c = '\\' then ['\\', '\\']
  else if c = '\n' then ['\\', 'n']
  else if c = '\r' then ['\\', 'r']
  else if c = '\t' then ['\\', 't']
  else if c.toNat = 0 then ['\\', '0']
  else if isUnprintable c then
    ['\\', 'u', Char.ofNat 0x7b] ++ hexDigits c.toNat ++ [Char.ofNat 0x7d]
  else [c]

/-- The text in double quotes with every character visible. -/
def escaped (text : String) : String :=
  String.ofList ('\"' :: (text.toList.flatMap escapedChar ++ ['\"']))

theorem escapedChar_of_printable {c : Char} (hquote : c ≠ '\"') (hslash : c ≠ '\\')
    (hshape : isUnprintable c = false) : escapedChar c = [c] := by
  have small : ∀ d : Char, d.toNat < 0x20 → c ≠ d := by
    rintro d hd rfl
    simp [isUnprintable, hd] at hshape
  have hzero : c.toNat ≠ 0 := fun h => by simp [isUnprintable, h] at hshape
  simp [escapedChar, hquote, hslash, small '\n' (by decide), small '\r' (by decide),
    small '\t' (by decide), hzero, hshape]

end DesignRules.Text
