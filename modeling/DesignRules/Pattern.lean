import DesignRules.Text.Basic

/-!
# Name patterns

A pattern is a text that describes a set of full names. Both are read segment by segment, a
segment being what stands between two dots. In a pattern

* `**` stands for any number of segments, none included;
* `*` stands for exactly one segment;
* any other segment stands for one segment, in which each `*` stands for any text.

## Implementation notes

A segment is matched greedily: the first piece must be a front of it, the last piece an end of
what is left, and every piece between is taken at its leftmost occurrence. Taking the leftmost
occurrence never loses a match, because what it leaves over is longest. Runs of segments are
tried in every way.

## Main definitions

* `Pattern` and `Pattern.accepts` — a pattern, and the test on a full name
* `SegmentPattern.ofText` — how one segment of a pattern is read
* `fitsPieces`, `fitsSegments` — matching one segment, and a list of segments

## Main results

* `Pattern.fitsSegments_anyNumber` — what two stars take off
-/

namespace DesignRules

/-- What one segment of a pattern asks for. -/
inductive SegmentPattern where
  /-- Any number of segments. -/
  | anyNumber
  /-- Exactly one segment, whatever it holds. -/
  | anyOne
  /-- Exactly one segment that is these pieces in this order, with any text between two. -/
  | pieces (texts : List (List Char))
  deriving DecidableEq, Repr

/-- A description of a set of full names. -/
structure Pattern where
  /-- The text it was made from, which is also how it is shown. -/
  text : String
  deriving DecidableEq, Repr

namespace SegmentPattern

/-- Reads one segment of a pattern. -/
def ofText (segment : List Char) : SegmentPattern :=
  if segment = ['*', '*'] then anyNumber
  else if segment = ['*'] then anyOne
  else pieces (segment.splitOn '*')

end SegmentPattern

namespace Pattern

/-! ### Matching one segment -/

/-- Whether `text` holds the given pieces in order, the last of them at its end. -/
def fitsRest : List (List Char) → List Char → Bool
  | [], text => text.isEmpty
  | [last], text => last.isSuffixOf text
  | piece :: next :: more, text =>
    match Text.afterFirst piece text with
    | some rest => fitsRest (next :: more) rest
    | none => false

/-- Whether a segment is made of the given pieces, with any text between two of them. A single
piece leaves no room and has to be the whole segment. -/
def fitsPieces : List (List Char) → List Char → Bool
  | [], segment => segment.isEmpty
  | [whole], segment => segment == whole
  | first :: next :: more, segment =>
    match first.isPrefixOf? segment with
    | some rest => fitsRest (next :: more) rest
    | none => false

/-! ### Matching a list of segments -/

/-- Whether a list of segments can be cut into one block for each segment of a pattern. -/
def fitsSegments : List SegmentPattern → List (List Char) → Bool
  | [], names => names.isEmpty
  | .anyNumber :: more, names =>
    (List.range (names.length + 1)).any fun taken => fitsSegments more (names.drop taken)
  | .anyOne :: more, names =>
    match names with
    | [] => false
    | _ :: rest => fitsSegments more rest
  | .pieces texts :: more, names =>
    match names with
    | [] => false
    | name :: rest => fitsPieces texts name && fitsSegments more rest

/-- Two stars take any block off the front. -/
theorem fitsSegments_anyNumber {more : List SegmentPattern} {names : List (List Char)} :
    fitsSegments (.anyNumber :: more) names = true ↔
      ∃ block rest, names = block ++ rest ∧ fitsSegments more rest = true := by
  rw [fitsSegments, List.any_eq_true]
  constructor
  · rintro ⟨taken, -, hfits⟩
    exact ⟨names.take taken, names.drop taken, (List.take_append_drop taken names).symm, hfits⟩
  · rintro ⟨block, rest, rfl, hfits⟩
    have htaken : block.length < (block ++ rest).length + 1 := by
      rw [List.length_append]
      omega
    refine ⟨block.length, List.mem_range.2 htaken, ?_⟩
    rw [List.drop_left]
    exact hfits

/-! ### Patterns -/

/-- The segments of a pattern. -/
def segments (p : Pattern) : List SegmentPattern :=
  (p.text.toList.splitOn '.').map SegmentPattern.ofText

/-- Whether a full name is one of those the pattern describes. -/
def accepts (p : Pattern) (fullName : String) : Bool :=
  fitsSegments p.segments (fullName.toList.splitOn '.')

end Pattern

end DesignRules
