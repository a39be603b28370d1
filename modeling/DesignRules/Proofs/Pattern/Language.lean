import DesignRules.Pattern
import Mathlib.Data.List.Forall2

/-!
# The language of a pattern

Which full names a pattern describes, said without an algorithm: the segments of the name are cut
into blocks, one block for each segment of the pattern, and each block is of the sort that its
segment asks for. The matcher of `DesignRules.Pattern` finds such a cut whenever there is one.

## Why the greedy search is right

Inside a segment the matcher takes every piece at its leftmost occurrence and never comes back.
A cut that takes the piece further to the right leaves less text over, and what it leaves over is
an end of what the leftmost occurrence leaves over. So the rest of that cut still fits, with the
difference added to the next filler: `suffix_of_afterFirst_eq_some` is the whole argument.
Pieces never overlap because the search goes on after the piece it found.

## Main definitions

* `Text.Splits` — the parts of a text between its separators
* `Pattern.Woven` — a segment made of pieces with fillers between them
* `Pattern.Block`, `Pattern.Describes` — what a segment of a pattern asks for, and the language

## Main results

* `Text.splits_iff` — a text has exactly one list of parts, the one `List.splitOn` finds
* `Pattern.fitsPieces_iff_woven` — the greedy search inside a segment
* `Pattern.accepts_iff_describes` — a pattern accepts exactly its language
-/

namespace DesignRules

/-! ### Parts between separators -/

namespace Text

/-- `parts` are what stands between the separators of `text`: put together again they give the
text, and none of them holds a separator. -/
structure Splits (separator : Char) (text : List Char) (parts : List (List Char)) : Prop where
  /-- There is at least one part, which may be empty. -/
  ne_nil : parts ≠ []
  /-- No part holds a separator. -/
  notMem : ∀ part ∈ parts, separator ∉ part
  /-- Nothing is lost. -/
  joined : List.intercalate [separator] parts = text

theorem notMem_of_mem_splitOn {separator : Char} {text : List Char} :
    ∀ part ∈ text.splitOn separator, separator ∉ part := by
  induction text with
  | nil => simp
  | cons c text ih =>
    intro part hpart
    rw [List.splitOn_cons_eq_if_modifyHead] at hpart
    split at hpart
    · rcases List.mem_cons.1 hpart with rfl | hpart
      · exact List.not_mem_nil
      · exact ih part hpart
    · next hc =>
      obtain ⟨first, more, hcons⟩ := List.exists_cons_of_ne_nil (List.splitOn_ne_nil separator text)
      rw [hcons] at ih hpart
      rcases List.mem_cons.1 hpart with rfl | hpart
      · have hfirst : separator ∉ first := ih first (List.mem_cons_self ..)
        have hne : separator ≠ c := fun h => hc (beq_iff_eq.2 h.symm)
        simp [hne, hfirst]
      · exact ih part (List.mem_cons_of_mem _ hpart)

theorem splits_splitOn (separator : Char) (text : List Char) :
    Splits separator text (text.splitOn separator) :=
  ⟨List.splitOn_ne_nil separator text, notMem_of_mem_splitOn, List.intercalate_splitOn separator⟩

theorem subset_intercalate {separator word : List Char} {words : List (List Char)}
    (h : word ∈ words) : word ⊆ List.intercalate separator words := by
  induction words with
  | nil => exact absurd h List.not_mem_nil
  | cons first more ih =>
    cases more with
    | nil =>
      obtain rfl := List.mem_singleton.1 h
      rw [List.intercalate_singleton]
      exact List.Subset.refl word
    | cons next more =>
      rw [List.intercalate_cons_cons, List.append_assoc]
      rcases List.mem_cons.1 h with rfl | h
      · exact List.subset_append_left word _
      · exact fun c hc => List.mem_append_right _ (List.mem_append_right _ (ih h hc))

theorem subset_of_mem_splitOn {separator : Char} {text part : List Char}
    (h : part ∈ text.splitOn separator) : part ⊆ text := by
  have hjoined : List.intercalate [separator] (text.splitOn separator) = text :=
    List.intercalate_splitOn separator
  exact hjoined ▸ subset_intercalate h

/-- **The parts of a text are determined by it.** -/
theorem splits_iff {separator : Char} {text : List Char} {parts : List (List Char)} :
    Splits separator text parts ↔ parts = text.splitOn separator := by
  constructor
  · intro h
    rw [← h.joined, List.splitOn_intercalate separator h.notMem h.ne_nil]
  · rintro rfl
    exact splits_splitOn separator text

/-! ### The leftmost occurrence -/

theorem append_of_afterFirst_eq_some {part text rest : List Char}
    (h : afterFirst part text = some rest) : ∃ before, text = before ++ (part ++ rest) := by
  induction text with
  | nil =>
    have hpart : part ++ rest = [] := List.append_eq_of_isPrefixOf?_eq_some h
    exact ⟨[], hpart.symm⟩
  | cons c text ih =>
    unfold afterFirst at h
    split at h
    · next found hfound =>
      obtain rfl := Option.some.inj h
      have hpart : part ++ found = c :: text := List.append_eq_of_isPrefixOf?_eq_some hfound
      exact ⟨[], hpart.symm⟩
    · obtain ⟨before, rfl⟩ := ih h
      exact ⟨c :: before, rfl⟩

/-- **The exchange step.** Wherever a part occurs, what follows it there is an end of what follows
its leftmost occurrence. -/
theorem suffix_of_afterFirst_eq_some {part text before after : List Char}
    (h : text = before ++ (part ++ after)) :
    ∃ rest, afterFirst part text = some rest ∧ after <:+ rest := by
  induction text generalizing before with
  | nil =>
    have hafter : part.isPrefixOf? [] = some after := by
      obtain ⟨-, hparts⟩ := List.append_eq_nil_iff.1 h.symm
      exact List.isPrefixOf?_eq_some_iff_append_eq.2 hparts
    exact ⟨after, hafter, List.suffix_rfl⟩
  | cons c text ih =>
    unfold afterFirst
    split
    · next rest hrest =>
      refine ⟨rest, rfl, ?_⟩
      -- both are ends of one text, and the one after the leftmost occurrence is the longer
      have htext : part ++ rest = c :: text := List.append_eq_of_isPrefixOf?_eq_some hrest
      have hlen : after.length ≤ rest.length := by
        have := congrArg List.length (htext.trans h)
        simp only [List.length_append] at this
        omega
      have hafter : after <:+ c :: text := ⟨before ++ part, by rw [h, List.append_assoc]⟩
      exact List.suffix_of_suffix_length_le hafter ⟨part, htext⟩ hlen
    · next hnone =>
      cases before with
      | nil =>
        have hpart : part.isPrefixOf? (c :: text) = some after :=
          List.isPrefixOf?_eq_some_iff_append_eq.2 h.symm
        rw [hnone] at hpart
        exact absurd hpart (by simp)
      | cons b before =>
        obtain ⟨-, htail⟩ := List.cons.inj h
        exact ih htail

end Text

namespace Pattern

/-! ### One segment -/

/-- `text` is made of the pieces in their order with any filler between two of them. -/
inductive Woven : List (List Char) → List Char → Prop
  /-- A single piece leaves no room for a filler. -/
  | last (piece : List Char) : Woven [piece] piece
  /-- A piece, a filler, and what the other pieces make. -/
  | piece (piece filler : List Char) {pieces : List (List Char)} {text : List Char}
      (rest : Woven pieces text) : Woven (piece :: pieces) (piece ++ filler ++ text)

theorem Woven.ne_nil {pieces : List (List Char)} {text : List Char} (h : Woven pieces text) :
    pieces ≠ [] := by
  cases h <;> simp

theorem woven_singleton {piece text : List Char} : Woven [piece] text ↔ text = piece := by
  constructor
  · intro h
    cases h with
    | last => rfl
    | piece _ filler rest => exact absurd rfl rest.ne_nil
  · rintro rfl
    exact .last text

theorem woven_cons_cons {piece next text : List Char} {more : List (List Char)} :
    Woven (piece :: next :: more) text ↔
      ∃ filler rest, text = piece ++ filler ++ rest ∧ Woven (next :: more) rest := by
  constructor
  · intro h
    cases h with
    | piece _ filler rest => exact ⟨filler, _, rfl, rest⟩
  · rintro ⟨filler, rest, rfl, hrest⟩
    exact .piece piece filler hrest

/-- The search for the pieces after the first one may skip a filler before each of them. -/
theorem fitsRest_iff {pieces : List (List Char)} (hne : pieces ≠ []) {text : List Char} :
    fitsRest pieces text = true ↔ ∃ filler rest, text = filler ++ rest ∧ Woven pieces rest := by
  induction pieces generalizing text with
  | nil => exact absurd rfl hne
  | cons piece more ih =>
    cases more with
    | nil =>
      rw [fitsRest, List.isSuffixOf_iff_suffix]
      constructor
      · rintro ⟨filler, rfl⟩
        exact ⟨filler, piece, rfl, .last piece⟩
      · rintro ⟨filler, rest, rfl, hrest⟩
        obtain rfl := woven_singleton.1 hrest
        exact List.suffix_append filler rest
    | cons next more =>
      have ih' : ∀ {text : List Char}, fitsRest (next :: more) text = true ↔
          ∃ filler rest, text = filler ++ rest ∧ Woven (next :: more) rest := ih (by simp)
      rw [fitsRest]
      constructor
      · intro h
        split at h
        · next rest hrest =>
          obtain ⟨before, rfl⟩ := Text.append_of_afterFirst_eq_some hrest
          obtain ⟨filler, tail, rfl, htail⟩ := ih'.1 h
          refine ⟨before, piece ++ filler ++ tail, ?_, .piece piece filler htail⟩
          rw [List.append_assoc piece]
        · exact absurd h (by simp)
      · rintro ⟨before, rest, rfl, hrest⟩
        obtain ⟨filler, tail, rfl, htail⟩ := woven_cons_cons.1 hrest
        have htext : before ++ (piece ++ filler ++ tail)
            = before ++ (piece ++ (filler ++ tail)) := by rw [List.append_assoc piece]
        obtain ⟨found, hfound, front, rfl⟩ := Text.suffix_of_afterFirst_eq_some htext
        -- the filler grows by what the leftmost occurrence leaves over
        rw [hfound]
        exact ih'.2 ⟨front ++ filler, tail, by rw [List.append_assoc], htail⟩

/-- **The greedy search inside a segment is exact.** -/
theorem fitsPieces_iff_woven {pieces : List (List Char)} (hne : pieces ≠ [])
    {segment : List Char} : fitsPieces pieces segment = true ↔ Woven pieces segment := by
  match pieces, hne with
  | [whole], _ => rw [fitsPieces, beq_iff_eq, woven_singleton]
  | first :: next :: more, _ =>
    rw [fitsPieces, woven_cons_cons]
    constructor
    · intro h
      split at h
      · next rest hrest =>
        obtain rfl := List.append_eq_of_isPrefixOf?_eq_some hrest
        obtain ⟨filler, tail, rfl, htail⟩ := (fitsRest_iff (by simp)).1 h
        exact ⟨filler, tail, by rw [List.append_assoc], htail⟩
      · exact absurd h (by simp)
    · rintro ⟨filler, tail, rfl, htail⟩
      have hfirst : first.isPrefixOf? (first ++ filler ++ tail) = some (filler ++ tail) :=
        List.isPrefixOf?_eq_some_iff_append_eq.2 (List.append_assoc ..).symm
      rw [hfirst]
      exact (fitsRest_iff (by simp)).2 ⟨filler, tail, rfl, htail⟩

/-! ### A list of segments -/

/-- What one segment of a pattern asks of a block of segments. -/
inductive Block : (asked : List Char) → (block : List (List Char)) → Prop
  /-- Two stars ask for nothing. -/
  | anyNumber (block : List (List Char)) : Block ['*', '*'] block
  /-- One star asks for one segment. -/
  | anyOne (segment : List Char) : Block ['*'] [segment]
  /-- Anything else asks for one segment that is woven from what stands between its stars. -/
  | woven {asked segment : List Char} {pieces : List (List Char)} (hmany : asked ≠ ['*', '*'])
      (hone : asked ≠ ['*']) (hpieces : Text.Splits '*' asked pieces)
      (hsegment : Woven pieces segment) : Block asked [segment]

/-- The full names that a pattern describes. -/
def Describes (p : Pattern) (fullName : String) : Prop :=
  ∃ (asked names : List (List Char)) (blocks : List (List (List Char))),
    Text.Splits '.' p.text.toList asked ∧ Text.Splits '.' fullName.toList names ∧
      names = blocks.flatten ∧ List.Forall₂ Block asked blocks

theorem block_iff_of_ne {asked : List Char} (hmany : asked ≠ ['*', '*']) (hone : asked ≠ ['*'])
    {block : List (List Char)} :
    Block asked block ↔
      ∃ segment, block = [segment] ∧ fitsPieces (asked.splitOn '*') segment = true := by
  constructor
  · intro h
    cases h with
    | anyNumber => exact absurd rfl hmany
    | anyOne => exact absurd rfl hone
    | woven _ _ hpieces hsegment =>
      obtain rfl := Text.splits_iff.1 hpieces
      exact ⟨_, rfl, (fitsPieces_iff_woven (List.splitOn_ne_nil _ _)).2 hsegment⟩
  · rintro ⟨segment, rfl, hfits⟩
    exact .woven hmany hone (Text.splits_splitOn '*' asked)
      ((fitsPieces_iff_woven (List.splitOn_ne_nil _ _)).1 hfits)

/-- One segment of a pattern takes one block off the names. -/
theorem fitsSegments_ofText_cons {asked : List Char} {more : List SegmentPattern}
    {names : List (List Char)} :
    fitsSegments (SegmentPattern.ofText asked :: more) names = true ↔
      ∃ block rest, names = block ++ rest ∧ Block asked block ∧ fitsSegments more rest = true := by
  by_cases hmany : asked = ['*', '*']
  · subst hmany
    rw [SegmentPattern.ofText, if_pos rfl, fitsSegments_anyNumber]
    constructor
    · rintro ⟨block, rest, rfl, hfits⟩
      exact ⟨block, rest, rfl, .anyNumber block, hfits⟩
    · rintro ⟨block, rest, rfl, -, hfits⟩
      exact ⟨block, rest, rfl, hfits⟩
  · by_cases hone : asked = ['*']
    · subst hone
      rw [SegmentPattern.ofText, if_neg hmany, if_pos rfl]
      constructor
      · intro h
        cases names with
        | nil => exact absurd h (by simp [fitsSegments])
        | cons name rest => exact ⟨[name], rest, rfl, .anyOne name, h⟩
      · rintro ⟨block, rest, rfl, hblock, hfits⟩
        cases hblock with
        | anyOne name => exact hfits
        | woven _ hne _ _ => exact absurd rfl hne
    · rw [SegmentPattern.ofText, if_neg hmany, if_neg hone]
      constructor
      · intro h
        cases names with
        | nil => exact absurd h (by simp [fitsSegments])
        | cons name rest =>
          obtain ⟨hname, hfits⟩ := Bool.and_eq_true_iff.1 h
          exact ⟨[name], rest, rfl, (block_iff_of_ne hmany hone).2 ⟨name, rfl, hname⟩, hfits⟩
      · rintro ⟨block, rest, rfl, hblock, hfits⟩
        obtain ⟨name, rfl, hname⟩ := (block_iff_of_ne hmany hone).1 hblock
        exact Bool.and_eq_true_iff.2 ⟨hname, hfits⟩

theorem fitsSegments_map_ofText {asked names : List (List Char)} :
    fitsSegments (asked.map SegmentPattern.ofText) names = true ↔
      ∃ blocks, names = blocks.flatten ∧ List.Forall₂ Block asked blocks := by
  induction asked generalizing names with
  | nil =>
    rw [List.map_nil, fitsSegments, List.isEmpty_iff]
    constructor
    · rintro rfl
      exact ⟨[], rfl, .nil⟩
    · rintro ⟨blocks, rfl, hblocks⟩
      cases hblocks with
      | nil => rfl
  | cons a asked ih =>
    rw [List.map_cons, fitsSegments_ofText_cons]
    constructor
    · rintro ⟨block, rest, rfl, hblock, hfits⟩
      obtain ⟨blocks, rfl, hblocks⟩ := ih.1 hfits
      exact ⟨block :: blocks, rfl, .cons hblock hblocks⟩
    · rintro ⟨blocks, rfl, hblocks⟩
      cases hblocks with
      | cons hblock hblocks => exact ⟨_, _, rfl, hblock, ih.2 ⟨_, rfl, hblocks⟩⟩

/-- **A pattern accepts exactly the names it describes.** -/
theorem accepts_iff_describes (p : Pattern) (fullName : String) :
    p.accepts fullName = true ↔ p.Describes fullName := by
  rw [accepts, segments, fitsSegments_map_ofText]
  constructor
  · rintro ⟨blocks, hflatten, hblocks⟩
    exact ⟨_, _, blocks, Text.splits_splitOn .., Text.splits_splitOn .., hflatten, hblocks⟩
  · rintro ⟨asked, names, blocks, hasked, hnames, hflatten, hblocks⟩
    obtain rfl := Text.splits_iff.1 hasked
    obtain rfl := Text.splits_iff.1 hnames
    exact ⟨blocks, hflatten, hblocks⟩

-- two pieces never share a letter
example : (⟨"App.ab*ab"⟩ : Pattern).accepts "App.aba" = false := by decide

end Pattern

end DesignRules
