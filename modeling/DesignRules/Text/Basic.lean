/-!
# Texts

Operations on texts that every other module shares: quoting, searching, cutting at a separator, and
the comparisons that name tests use (starts with, ends with, contains).

## Implementation notes

The searches are defined on lists of characters, where they are plain structural recursions, and
are lifted to `String` at the end. Joining texts is `String.intercalate`, and cutting at every
separator is `List.splitOn`: a text has at least one part, so the empty text is cut into one empty
part. A front is taken off with `List.isPrefixOf?`.

## Main definitions

* `Text.quoted` — building sentences
* `Text.afterFirst` — searching for the leftmost occurrence
* `Text.splitLast` — cutting at the last separator
* `Text.startsWith`, `Text.endsWith`, `Text.contains` — the comparisons on `String`

## Main results

* `Text.splitLast_eq_some`, `Text.splitLast_append` — the cut is at the last separator
-/

namespace DesignRules.Text

/-! ### Building sentences -/

/-- The text between double quotes; quotes inside it stay as they are. -/
def quoted (text : String) : String := "\"" ++ text ++ "\""

/-! ### Searching in lists of characters -/

/-- What follows the leftmost occurrence of `part` in a text that contains it. -/
def afterFirst (part : List Char) : List Char → Option (List Char)
  | [] => part.isPrefixOf? []
  | c :: text =>
    match part.isPrefixOf? (c :: text) with
    | some rest => some rest
    | none => afterFirst part text

/-- The parts before and after the last `separator`, if there is one. -/
def splitLast (separator : Char) : List Char → Option (List Char × List Char)
  | [] => none
  | c :: text =>
    match splitLast separator text with
    | some (before, after) => some (c :: before, after)
    | none => if c = separator then some ([], text) else none

theorem splitLast_eq_none {separator : Char} {text : List Char} :
    splitLast separator text = none ↔ separator ∉ text := by
  induction text with
  | nil => simp [splitLast]
  | cons c text ih =>
    unfold splitLast
    split
    · next before after h =>
      have : ¬ separator ∉ text := fun hn => by simp [ih.2 hn] at h
      simp_all
    · next h =>
      have := ih.1 h
      by_cases hc : c = separator
      · simp [hc]
      · simp [hc, this, Ne.symm hc]

theorem splitLast_eq_some {separator : Char} {text before after : List Char}
    (h : splitLast separator text = some (before, after)) :
    text = before ++ separator :: after ∧ separator ∉ after := by
  induction text generalizing before with
  | nil => simp [splitLast] at h
  | cons c text ih =>
    unfold splitLast at h
    split at h
    · next b a hs =>
      simp only [Option.some.injEq, Prod.mk.injEq] at h
      obtain ⟨rfl, rfl⟩ := h
      obtain ⟨rfl, hn⟩ := ih hs
      exact ⟨rfl, hn⟩
    · next hs =>
      split at h
      · next hc =>
        simp only [Option.some.injEq, Prod.mk.injEq] at h
        obtain ⟨rfl, rfl⟩ := h
        exact ⟨by simp [hc], splitLast_eq_none.1 hs⟩
      · simp at h

theorem splitLast_append {separator : Char} (before : List Char) {after : List Char}
    (h : separator ∉ after) : splitLast separator (before ++ separator :: after) =
      some (before, after) := by
  induction before with
  | nil => simp [splitLast, splitLast_eq_none.2 h]
  | cons c before ih => simp [splitLast, ih]

/-! ### Comparisons on texts -/

/-- Whether `text` begins with `front`. -/
def startsWith (text front : String) : Bool := front.toList.isPrefixOf text.toList

/-- Whether `text` ends with `back`. -/
def endsWith (text back : String) : Bool := back.toList.isSuffixOf text.toList

/-- Whether `part` occurs somewhere in `text`; the empty part always does. -/
def contains (text part : String) : Bool := (afterFirst part.toList text.toList).isSome

end DesignRules.Text
