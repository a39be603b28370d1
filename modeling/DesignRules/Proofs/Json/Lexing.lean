import DesignRules.Json.Printer
import DesignRules.Json.Reader
import Mathlib.Data.List.Forall2
import Mathlib.Data.List.TakeWhile

/-!
# Cutting a written value into tokens

The first half of reading back a value that was written: its text is cut into the tokens that the
value consists of. The machine that cuts it goes through the text one character at a time, so what
it makes of one text after another is put together from what it makes of each.

## Where words end

Marks and texts in quotes end by themselves, and literals and numbers do not: they end where the
characters of words end. Hence what a text is cut into is asked in front of a text that begins with
no such character, and values are written so that a mark follows each of them or nothing does.

## Main definitions

* `Json.WellFormed` — no object has a name twice, and numbers are written as numbers are
* `Json.tokens` — the tokens that a value consists of
* `Json.EndsWord`, `Json.Spells` — where words end, and what a text is cut into

## Main results

* `Json.chars?_toNat`, `Json.LexerState.run_escapedChar` — characters are read back, escaped or not
* `Json.ofWord?_toDigits` — so are natural numbers
* `Json.spells_render`, `Json.tokens?_render` — a written value is cut into its tokens
-/

namespace DesignRules.Json

/-! ### The tokens of a value -/

/-- A word that stands for a number which is not a natural number. -/
structure IsNumeral (literal : String) : Prop where
  /-- Nothing inside it ends a word. -/
  isWordChar : ∀ c ∈ literal.toList, isWordChar c = true
  /-- It stands for itself. -/
  ofWord?_eq : ofWord? literal.toList = some (number literal)

/-- A value that is one a text can stand for. -/
inductive WellFormed : Json → Prop where
  | null : WellFormed null
  | bool (value : Bool) : WellFormed (bool value)
  | nat (value : Nat) : WellFormed (nat value)
  | number {literal : String} (numeral : IsNumeral literal) : WellFormed (number literal)
  | text (value : String) : WellFormed (text value)
  | list {items : List Json} (wellFormed : ∀ item ∈ items, WellFormed item) :
    WellFormed (list items)
  | object {fields : List (String × Json)} (nodup : (fields.map Prod.fst).Nodup)
    (wellFormed : ∀ field ∈ fields, WellFormed field.2) : WellFormed (object fields)

attribute [simp] WellFormed.null WellFormed.bool WellFormed.nat WellFormed.text

/-- A list of stored forms is well formed if each of them is. -/
theorem WellFormed.list_map {α : Type} {write : α → Json} (h : ∀ item, (write item).WellFormed)
    (items : List α) : (Json.list (items.map write)).WellFormed := by
  refine .list fun value hvalue => ?_
  obtain ⟨item, -, rfl⟩ := List.mem_map.mp hvalue
  exact h item

theorem WellFormed.ofOptionalText (value : Option String) : (ofOptionalText value).WellFormed := by
  cases value with
  | none => exact .null
  | some value => exact .text value

mutual

/-- The tokens that a value consists of. -/
def tokens : Json → List Token
  | null => [.word ['n', 'u', 'l', 'l']]
  | bool value => [.word (if value then ['t', 'r', 'u', 'e'] else ['f', 'a', 'l', 's', 'e'])]
  | nat value => [.word (Nat.toDigits 10 value)]
  | number literal => [.word literal.toList]
  | text value => [.text value]
  | list items => .openList :: ([Token.comma].intercalate (itemTokens items) ++ [.closeList])
  | object fields =>
    .openObject :: ([Token.comma].intercalate (fieldTokens fields) ++ [.closeObject])

/-- The tokens of each item of a list. -/
def itemTokens : List Json → List (List Token)
  | [] => []
  | item :: rest => tokens item :: itemTokens rest

/-- The tokens of each field of an object. -/
def fieldTokens : List (String × Json) → List (List Token)
  | [] => []
  | (name, value) :: rest => (.text name :: .colon :: tokens value) :: fieldTokens rest

end

/-! ### Characters -/

theorem not_surrogate (c : Char) : c.toNat < 0xd800 ∨ 0xe000 ≤ c.toNat := by
  have hv : c.toNat < 0xd800 ∨ 0xdfff < c.toNat ∧ c.toNat < 0x110000 := c.valid
  omega

/-- No unit of a text lacks its partner, because no character is half of a pair. -/
theorem chars?_toNat (chars : List Char) : chars? (chars.map Char.toNat) = some chars := by
  induction chars with
  | nil => rfl
  | cons c rest ih =>
    have hc := not_surrogate c
    cases rest with
    | nil =>
      have hsingle : ¬ (0xd800 ≤ c.toNat ∧ c.toNat < 0xe000) := by omega
      simp only [List.map_cons, List.map_nil, chars?, if_neg hsingle, Char.ofNat_toNat]
    | cons next rest =>
      have hfront : ¬ (0xd800 ≤ c.toNat ∧ c.toNat < 0xdc00) := by omega
      have hback : ¬ (0xdc00 ≤ c.toNat ∧ c.toNat < 0xe000) := by omega
      simp only [List.map_cons] at ih ⊢
      simp only [chars?, if_neg hfront, if_neg hback, ih, Option.map_some, Char.ofNat_toNat]

theorem hexValue?_digitChar : ∀ digit < 16, hexValue? (Nat.digitChar digit) = some digit := by
  decide

theorem mark?_eq_none {c : Char} (hc : isWordChar c = true) : mark? c = none := by
  unfold mark?
  split <;> first | rfl | exact absurd hc (by decide)

theorem isBlank_eq_false {c : Char} (hc : isWordChar c = true) : isBlank c = false := by
  by_contra hblank
  simp only [isBlank, Bool.not_eq_false, Bool.or_eq_true, beq_iff_eq] at hblank
  rcases hblank with ((rfl | rfl) | rfl) | rfl <;> exact absurd hc (by decide)

/-- A word at the end of a text does not go on with these characters. -/
def EndsWord (rest : List Char) : Prop := ∀ c ∈ rest.head?, isWordChar c = false

/-- A mark ends the word before it. -/
theorem EndsWord.mark {c : Char} {token : Token} (hmark : mark? c = some token)
    (rest : List Char) : EndsWord (c :: rest) := by
  rintro c ⟨⟩
  by_contra hword
  rw [Bool.not_eq_false] at hword
  rw [mark?_eq_none hword] at hmark
  exact Option.some_ne_none token hmark.symm

namespace LexerState

theorem run_cons {s next : LexerState} {c : Char} {tokens : List Token}
    (hstep : s.step c = some (tokens, next)) (rest : List Char) :
    s.run (c :: rest) = (next.run rest).map (tokens ++ ·) := by
  cases s <;> simp only [run, hstep]

/-- A step that completes no token. -/
theorem run_cons_of_silent {s next : LexerState} {c : Char} (hstep : s.step c = some ([], next))
    (rest : List Char) : s.run (c :: rest) = next.run rest := by
  simp [run_cons hstep]

/-- A backslash and a letter are read as what the letter stands for. -/
theorem run_letter {letter : Char} {value : Nat} (hu : letter ≠ 'u')
    (hvalue : escapeValue? letter = some value) (units : List Nat) (rest : List Char) :
    (text units).run ('\\' :: letter :: rest) = (text (value :: units)).run rest := by
  have hback : (text units).step '\\' = some ([], escape units) := by simp [step]
  have hletter : (escape units).step letter = some ([], text (value :: units)) := by
    simp [step, hu, hvalue]
  rw [run_cons_of_silent hback, run_cons_of_silent hletter]

/-- A unit below 32 is read from its four digits, of which the first two are zeros. -/
theorem run_control {unit : Nat} (hunit : unit < 0x20) (units : List Nat) (rest : List Char) :
    (text units).run (['\\', 'u', '0', '0'] ++
        [Nat.digitChar (unit / 16), Nat.digitChar (unit % 16)] ++ rest) =
      (text (unit :: units)).run rest := by
  have hback : (text units).step '\\' = some ([], escape units) := by simp [step]
  have hu : (escape units).step 'u' = some ([], .unit units 0 0) := by simp [step]
  have hzero (digits : Nat) (hdigits : digits < 3) :
      (LexerState.unit units digits 0).step '0' = some ([], .unit units (digits + 1) 0) := by
    simp [step, show hexValue? '0' = some 0 from rfl, show digits ≠ 3 by omega]
  have hhigh : (LexerState.unit units 2 0).step (Nat.digitChar (unit / 16)) =
      some ([], .unit units 3 (unit / 16)) := by
    simp [step, hexValue?_digitChar (unit / 16) (by omega)]
  have hlow : (LexerState.unit units 3 (unit / 16)).step (Nat.digitChar (unit % 16)) =
      some ([], text (unit :: units)) := by
    have hsum : unit / 16 * 16 + unit % 16 = unit := by omega
    simp [step, hexValue?_digitChar (unit % 16) (by omega), hsum]
  simp only [List.cons_append, List.nil_append]
  rw [run_cons_of_silent hback, run_cons_of_silent hu, run_cons_of_silent (hzero 0 (by decide)),
    run_cons_of_silent (hzero 1 (by decide)), run_cons_of_silent hhigh, run_cons_of_silent hlow]

/-- An escaped character is read as the character. -/
theorem run_escapedChar (units : List Nat) (c : Char) (rest : List Char) :
    (text units).run (escapedChar c ++ rest) = (text (c.toNat :: units)).run rest := by
  by_cases hletter : c ∈ ['\"', '\\', '\n', '\r', '\t', '\x08', '\x0c']
  · simp only [List.mem_cons, List.not_mem_nil, or_false] at hletter
    rcases hletter with rfl | rfl | rfl | rfl | rfl | rfl | rfl <;>
      exact run_letter (by decide) rfl units rest
  · simp only [List.mem_cons, List.not_mem_nil, or_false, not_or] at hletter
    obtain ⟨hquote, hback, hn, hr, ht, hb, hf⟩ := hletter
    simp only [escapedChar, if_neg hquote, if_neg hback, if_neg hn, if_neg hr, if_neg ht, if_neg hb,
      if_neg hf]
    by_cases hcontrol : c.toNat < 0x20
    · rw [if_pos hcontrol]
      exact run_control hcontrol units rest
    · rw [if_neg hcontrol]
      exact run_cons_of_silent (by simp [step, hquote, hback, hcontrol]) rest

/-- A word is read to its end. -/
theorem run_word {chars rest : List Char} (hrest : EndsWord rest)
    (hchars : ∀ c ∈ chars, isWordChar c = true) (read : List Char) :
    (word read).run (chars ++ rest) =
      (between.run rest).map (.word (read.reverse ++ chars) :: ·) := by
  induction chars generalizing read with
  | nil =>
    cases rest with
    | nil => simp [run]
    | cons c rest =>
      have hc : isWordChar c = false := hrest c rfl
      simp only [List.nil_append, run, step, hc, List.append_nil]
      cases begin c <;> simp [Function.comp_def]
  | cons c chars ih =>
    rw [List.forall_mem_cons] at hchars
    have hstep : (word read).step c = some ([], word (c :: read)) := by simp [step, hchars.1]
    rw [List.cons_append, run_cons_of_silent hstep, ih hchars.2, List.reverse_cons,
      List.append_assoc, List.singleton_append]

/-- A text is read to its closing quote. -/
theorem run_escaped (read chars rest : List Char) :
    (text (read.map Char.toNat).reverse).run (chars.flatMap escapedChar ++ '\"' :: rest) =
      (between.run rest).map ([.text (String.ofList (read ++ chars))] ++ ·) := by
  induction chars generalizing read with
  | nil =>
    have hstep : (text (read.map Char.toNat).reverse).step '\"' =
        some ([.text (String.ofList read)], between) := by
      simp [step, chars?_toNat]
    rw [List.flatMap_nil, List.nil_append, run_cons hstep, List.append_nil]
  | cons c chars ih =>
    have hread := ih (read ++ [c])
    simp only [List.map_append, List.map_cons, List.map_nil, List.reverse_append,
      List.reverse_cons, List.reverse_nil, List.nil_append, List.cons_append,
      List.append_assoc] at hread ⊢
    rw [List.flatMap_cons, List.append_assoc, run_escapedChar, hread]

end LexerState

/-! ### Texts and their tokens -/

/-- What a text is cut into, whatever follows, provided that a word at its end ends there. -/
def Spells (chars : List Char) (tokens : List Token) : Prop :=
  ∀ rest, EndsWord rest →
    LexerState.between.run (chars ++ rest) = (LexerState.between.run rest).map (tokens ++ ·)

namespace Spells

variable {front chars : List Char} {before tokens : List Token}

theorem nil : Spells [] [] := fun rest _ => by simp

/-- A mark in front, which ends by itself. -/
theorem mark {c : Char} {token : Token} (hmark : mark? c = some token)
    (hchars : Spells chars tokens) : Spells (c :: chars) (token :: tokens) := by
  intro rest hrest
  have hstep : LexerState.between.step c = some ([token], .between) := by
    simp [LexerState.step, LexerState.begin, hmark]
  rw [List.cons_append, LexerState.run_cons hstep, hchars rest hrest, Option.map_map]
  rfl

/-- Two texts with a mark between them. -/
theorem append_mark {c : Char} {token : Token} (hfront : Spells front before)
    (hmark : mark? c = some token) (hchars : Spells chars tokens) :
    Spells (front ++ c :: chars) (before ++ token :: tokens) := by
  intro rest hrest
  rw [List.append_assoc, hfront (c :: chars ++ rest) (.mark hmark _), hchars.mark hmark rest hrest,
    Option.map_map]
  simp [Function.comp_def]

/-- A word. -/
theorem word {chars : List Char} (hne : chars ≠ []) (hword : ∀ c ∈ chars, isWordChar c = true) :
    Spells chars [.word chars] := by
  intro rest hrest
  obtain ⟨c, more, rfl⟩ := List.exists_cons_of_ne_nil hne
  rw [List.forall_mem_cons] at hword
  obtain ⟨hc, hmore⟩ := hword
  have hquote : c ≠ '\"' := by
    rintro rfl
    exact absurd hc (by decide)
  have hstep : LexerState.between.step c = some ([], .word [c]) := by
    simp [LexerState.step, LexerState.begin, mark?_eq_none hc, hquote, isBlank_eq_false hc, hc]
  rw [List.cons_append, LexerState.run_cons_of_silent hstep, LexerState.run_word hrest hmore]
  rfl

/-- A text in quotes. -/
theorem quoted (value : String) : Spells (quoted value).toList [.text value] := by
  intro rest _
  have hstep : LexerState.between.step '\"' = some ([], .text []) := rfl
  have hrun := LexerState.run_escaped [] value.toList rest
  simp only [List.map_nil, List.reverse_nil, List.nil_append, String.ofList_toList] at hrun
  rw [Json.quoted, String.toList_ofList, List.cons_append, LexerState.run_cons_of_silent hstep,
    List.append_assoc, List.cons_append, List.nil_append, hrun]

/-- Texts with commas between them. -/
theorem intercalate {texts : List (List Char)} {tokens : List (List Token)}
    (h : List.Forall₂ Spells texts tokens) :
    Spells ([','].intercalate texts) ([Token.comma].intercalate tokens) := by
  induction h with
  | nil => exact .nil
  | cons hfirst hrest ih =>
    cases hrest with
    | nil => simpa using hfirst
    | cons hnext hmore =>
      rw [List.intercalate_cons_cons, List.intercalate_cons_cons, List.append_assoc,
        List.append_assoc]
      exact hfirst.append_mark rfl ih

end Spells

/-! ### Numbers -/

theorem isDigit_of_mem_toDigits {n : Nat} {c : Char} (hc : c ∈ Nat.toDigits 10 n) :
    c.isDigit = true :=
  Nat.isDigit_of_mem_toDigits (by decide) (by decide) hc

theorem digitsValue_toDigits (n : Nat) : digitsValue (Nat.toDigits 10 n) = n := by
  have hvalue : digitsValue (Nat.toDigits 10 n) = Nat.ofDigitChars 10 (Nat.toDigits 10 n) 0 := by
    simp only [digitsValue, Nat.ofDigitChars, Nat.mul_comm]
  rw [hvalue, Nat.ofDigitChars_toDigits (by decide) (by decide)]

/-- Only the number zero is written with a zero in front. -/
theorem head?_toDigits {n : Nat} (hn : 0 < n) : (Nat.toDigits 10 n).head? ≠ some '0' := by
  induction n using Nat.strongRecOn with
  | ind n ih =>
    by_cases hsmall : n < 10
    · rw [Nat.toDigits_of_lt_base hsmall]
      intro hzero
      have hdigit := Nat.toNat_digitChar_of_lt_ten hsmall
      rw [Option.some.inj hzero] at hdigit
      have : '0'.toNat = 48 := rfl
      omega
    · rw [Nat.toDigits_of_base_le (by decide) (by omega),
        List.head?_append_of_ne_nil _ Nat.toDigits_ne_nil]
      exact ih (n / 10) (by omega) (by omega)

theorem isWhole_toDigits (n : Nat) : isWhole (Nat.toDigits 10 n) = true := by
  have hdigits : (Nat.toDigits 10 n).all Char.isDigit = true :=
    List.all_eq_true.mpr fun c => isDigit_of_mem_toDigits
  rcases Nat.eq_zero_or_pos n with rfl | hn
  · rfl
  · have hzero := head?_toDigits hn
    unfold isWhole
    split
    · rename_i hnil; exact absurd hnil Nat.toDigits_ne_nil
    · rfl
    · rename_i hcons; rw [hcons] at hzero; exact absurd rfl hzero
    · exact hdigits

/-- Digits without a superfluous zero stand for a natural number. -/
theorem ofWord?_eq_nat {digits : List Char} (hwhole : isWhole digits = true)
    (hdigits : ∀ c ∈ digits, c.isDigit = true) :
    ofWord? digits = some (nat (digitsValue digits)) := by
  have hfirst_ne (c : Char) (rest : List Char) (hc : c.isDigit = false) : digits ≠ c :: rest := by
    rintro rfl
    rw [hdigits c (by simp)] at hc
    exact Bool.noConfusion hc
  have htake : digits.takeWhile Char.isDigit = digits := List.takeWhile_eq_self_iff.mpr hdigits
  have hdrop : digits.dropWhile Char.isDigit = [] := List.dropWhile_eq_nil_iff.mpr hdigits
  have hsign (rest : List Char) : digits ≠ '-' :: rest := hfirst_ne '-' rest rfl
  unfold ofWord?
  rw [if_neg (hfirst_ne 'n' _ rfl), if_neg (hfirst_ne 't' _ rfl), if_neg (hfirst_ne 'f' _ rfl)]
  split
  · rename_i rest
    exact absurd rfl (hsign rest)
  · simp only [htake, hdrop, hwhole, isFractionOrExponent, Bool.and_self, if_true]

/-- A natural number is read back from its digits. -/
theorem ofWord?_toDigits (n : Nat) : ofWord? (Nat.toDigits 10 n) = some (nat n) := by
  rw [ofWord?_eq_nat (isWhole_toDigits n) fun c => isDigit_of_mem_toDigits, digitsValue_toDigits]

/-! ### Written values -/

theorem itemTokens_eq_map (items : List Json) : itemTokens items = items.map tokens := by
  induction items with
  | nil => rfl
  | cons item rest ih => simp [itemTokens, ih]

theorem fieldTokens_eq_map (fields : List (String × Json)) :
    fieldTokens fields =
      fields.map fun field => .text field.1 :: .colon :: tokens field.2 := by
  induction fields with
  | nil => rfl
  | cons field rest ih => simp [fieldTokens, ih]

theorem renderItems_eq_map (items : List Json) : renderItems items = items.map render := by
  induction items with
  | nil => rfl
  | cons item rest ih => simp [renderItems, ih]

theorem renderFields_eq_map (fields : List (String × Json)) :
    renderFields fields = fields.map fun field => quoted field.1 ++ ":" ++ render field.2 := by
  induction fields with
  | nil => rfl
  | cons field rest ih => simp [renderFields, ih]

/-- A list or an object: its parts between brackets, and commas between them. -/
theorem Spells.brackets {α : Type} {opening closing : Char} {first last : Token}
    (hopening : mark? opening = some first) (hclosing : mark? closing = some last)
    {write : α → String} {cut : α → List Token} {parts : List α}
    (h : ∀ part ∈ parts, Spells (write part).toList (cut part)) :
    Spells (opening :: ((",".intercalate (parts.map write)).toList ++ [closing]))
      (first :: ([Token.comma].intercalate (parts.map cut) ++ [last])) := by
  have hparts : List.Forall₂ Spells ((parts.map write).map String.toList) (parts.map cut) := by
    rw [List.map_map, List.forall₂_map_left_iff, List.forall₂_map_right_iff, List.forall₂_same]
    exact h
  rw [String.toList_intercalate]
  exact .mark hopening (.append_mark (.intercalate hparts) hclosing .nil)

/-- A field: its name in quotes, a colon and its value. -/
theorem Spells.field {value : String} {tokens : List Token} (name : String)
    (hvalue : Spells value.toList tokens) :
    Spells (Json.quoted name ++ ":" ++ value).toList (.text name :: .colon :: tokens) := by
  rw [String.toList_append, String.toList_append, List.append_assoc]
  exact (Spells.quoted name).append_mark rfl hvalue

/-- A literal is a word. -/
theorem spells_literal {literal : String} {chars : List Char}
    (hword : chars ≠ [] ∧ chars.all isWordChar = true) (hliteral : literal.toList = chars) :
    Spells literal.toList [.word chars] := by
  rw [hliteral]
  exact .word hword.1 (List.all_eq_true.mp hword.2)

/-- A written value is cut into the tokens that it consists of. -/
theorem spells_render {v : Json} (hv : v.WellFormed) : Spells (render v).toList (tokens v) := by
  induction hv with
  | null => exact spells_literal (by decide) rfl
  | bool value =>
    cases value with
    | false => exact spells_literal (by decide) rfl
    | true => exact spells_literal (by decide) rfl
  | nat value =>
    have hdigits (c : Char) (hc : c ∈ Nat.toDigits 10 value) : isWordChar c = true := by
      simp [isWordChar, Char.isAlphanum, isDigit_of_mem_toDigits hc]
    rw [render, Nat.toString_eq_repr, Nat.toList_repr, tokens]
    exact .word Nat.toDigits_ne_nil hdigits
  | @number literal numeral =>
    have hne : literal.toList ≠ [] := by
      intro hnil
      have hread := numeral.ofWord?_eq
      rw [hnil, show ofWord? [] = none from rfl] at hread
      exact Option.some_ne_none _ hread.symm
    exact .word hne numeral.isWordChar
  | text value => exact .quoted value
  | list _ ih =>
    rw [render, tokens, renderItems_eq_map, itemTokens_eq_map, String.toList_append,
      String.toList_append, List.append_assoc]
    exact .brackets rfl rfl ih
  | object _ _ ih =>
    rw [render, tokens, renderFields_eq_map, fieldTokens_eq_map, String.toList_append,
      String.toList_append, List.append_assoc]
    exact .brackets rfl rfl fun field hfield => .field field.1 (ih field hfield)

/-- A written value is cut into the tokens that it consists of, and nothing else. -/
theorem tokens?_render {v : Json} (hv : v.WellFormed) : tokens? (render v) = some (tokens v) := by
  have hrun := spells_render hv [] (by simp [EndsWord])
  rw [List.append_nil] at hrun
  rw [tokens?, hrun]
  simp [LexerState.run]

end DesignRules.Json
