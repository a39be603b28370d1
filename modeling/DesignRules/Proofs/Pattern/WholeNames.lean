import DesignRules.Catalogue.Criterion
import DesignRules.Proofs.Pattern.Language

/-!
# Patterns on whole names

A pattern is matched segment by segment, but most patterns are written with whole names in mind: a
name itself, everything below it, everything that ends in it, or what is directly below it. This
module says what these four mean without segments.

## The dot counts

What is below `App` begins with `App.`, and not just with `App`; the same goes for ends. The dot is
what a cut between two segments comes to: a text has as many ways to be cut between its parts as it
has separators (`Text.splitOn_eq_append_iff`). Nothing is asked of what stands on either side of a
dot. A name may be empty, it may begin or end with a dot, and there may be two in a row.

## Main results

* `Text.splitOn_eq_append_iff` — a cut between two parts is a cut at a separator
* `Pattern.segments_dotted`, `Pattern.fitsSegments_literal_append` — patterns with a dot between
  them, and segments without stars, which stand for themselves
* `Pattern.accepts_iff_eq`, `Pattern.accepts_below_iff`, `Pattern.accepts_end_iff`,
  `Pattern.accepts_child_iff` — the four meanings
* `Pattern.idioms_on_whole_names` — all of them, and what follows for dependencies
-/

namespace DesignRules

/-! ### Cuts between parts -/

namespace Text

variable {separator : Char} {text front back : List Char} {parts others : List (List Char)}

theorem splitOn_injective (separator : Char) : Function.Injective (List.splitOn separator) :=
  Function.LeftInverse.injective fun _ => List.intercalate_splitOn separator

/-- **A cut between two parts is a cut at a separator.** -/
theorem splitOn_eq_append_iff (hparts : parts ≠ []) (hothers : others ≠ []) :
    text.splitOn separator = parts ++ others ↔
      ∃ before after, text = before ++ separator :: after ∧
        before.splitOn separator = parts ∧ after.splitOn separator = others := by
  constructor
  · intro h
    have hnone : ∀ part ∈ parts ++ others, separator ∉ part := h ▸ notMem_of_mem_splitOn
    have hbefore : List.splitOn separator (List.intercalate [separator] parts) = parts :=
      List.splitOn_intercalate separator
        (fun part hpart => hnone part (List.mem_append_left _ hpart)) hparts
    have hafter : List.splitOn separator (List.intercalate [separator] others) = others :=
      List.splitOn_intercalate separator
        (fun part hpart => hnone part (List.mem_append_right _ hpart)) hothers
    refine ⟨_, _, splitOn_injective separator ?_, hbefore, hafter⟩
    rw [List.splitOn_append_cons_self, hbefore, hafter, h]
  · rintro ⟨before, after, rfl, rfl, rfl⟩
    exact List.splitOn_append_cons_self before after

theorem splitOn_eq_singleton_iff {part : List Char} :
    text.splitOn separator = [part] ↔ separator ∉ part ∧ text = part := by
  constructor
  · intro h
    have hnone : separator ∉ part :=
      notMem_of_mem_splitOn part (h ▸ List.mem_singleton_self part)
    exact ⟨hnone, splitOn_injective separator (h.trans (List.splitOn_eq_singleton hnone).symm)⟩
  · rintro ⟨hnone, rfl⟩
    exact List.splitOn_eq_singleton hnone

/-- The parts begin with those of another text. -/
theorem exists_splitOn_eq_append_iff :
    (∃ rest, text.splitOn separator = front.splitOn separator ++ rest) ↔
      text = front ∨ ∃ after, text = front ++ separator :: after := by
  constructor
  · rintro ⟨rest, h⟩
    by_cases hrest : rest = []
    · rw [hrest, List.append_nil] at h
      exact Or.inl (splitOn_injective separator h)
    · obtain ⟨before, after, rfl, hbefore, -⟩ :=
        (splitOn_eq_append_iff (List.splitOn_ne_nil separator front) hrest).1 h
      exact Or.inr ⟨after, by rw [splitOn_injective separator hbefore]⟩
  · rintro (rfl | ⟨after, rfl⟩)
    · exact ⟨[], (List.append_nil _).symm⟩
    · exact ⟨after.splitOn separator, List.splitOn_append_cons_self front after⟩

/-- The parts end with those of another text. -/
theorem exists_splitOn_eq_append_splitOn_iff :
    (∃ first, text.splitOn separator = first ++ back.splitOn separator) ↔
      text = back ∨ ∃ before, text = before ++ separator :: back := by
  constructor
  · rintro ⟨first, h⟩
    by_cases hfirst : first = []
    · rw [hfirst, List.nil_append] at h
      exact Or.inl (splitOn_injective separator h)
    · obtain ⟨before, after, rfl, -, hafter⟩ :=
        (splitOn_eq_append_iff hfirst (List.splitOn_ne_nil separator back)).1 h
      exact Or.inr ⟨before, by rw [splitOn_injective separator hafter]⟩
  · rintro (rfl | ⟨before, rfl⟩)
    · exact ⟨[], rfl⟩
    · exact ⟨before.splitOn separator, List.splitOn_append_cons_self before back⟩

/-- The parts are those of another text and one more. -/
theorem splitOn_eq_concat_iff {part : List Char} :
    text.splitOn separator = front.splitOn separator ++ [part] ↔
      separator ∉ part ∧ text = front ++ separator :: part := by
  rw [splitOn_eq_append_iff (List.splitOn_ne_nil separator front) (List.cons_ne_nil part [])]
  constructor
  · rintro ⟨before, after, rfl, hbefore, hafter⟩
    obtain ⟨hnone, rfl⟩ := splitOn_eq_singleton_iff.1 hafter
    exact ⟨hnone, by rw [splitOn_injective separator hbefore]⟩
  · rintro ⟨hnone, rfl⟩
    exact ⟨front, part, rfl, rfl, List.splitOn_eq_singleton hnone⟩

theorem toList_surjective : Function.Surjective String.toList :=
  fun characters => ⟨String.ofList characters, String.toList_ofList⟩

/-- Two texts with a dot between them, as characters. -/
theorem eq_dotted_iff {whole before after : String} :
    whole = before ++ "." ++ after ↔ whole.toList = before.toList ++ '.' :: after.toList := by
  rw [← String.toList_inj, String.toList_append, String.toList_append, List.append_assoc]
  rfl

end Text

namespace Pattern

variable {literal names : List (List Char)} {name whole : String}

/-! ### Segments without stars -/

theorem ofText_of_notMem {segment : List Char} (h : '*' ∉ segment) :
    SegmentPattern.ofText segment = .pieces [segment] := by
  have hmany : segment ≠ ['*', '*'] := by rintro rfl; exact h (List.mem_cons_self ..)
  have hone : segment ≠ ['*'] := by rintro rfl; exact h (List.mem_cons_self ..)
  rw [SegmentPattern.ofText, if_neg hmany, if_neg hone, List.splitOn_eq_singleton h]

/-- **Segments without stars stand for themselves**, and the rest of the pattern is for what follows
them. -/
theorem fitsSegments_literal_append (h : ∀ segment ∈ literal, '*' ∉ segment)
    (more : List SegmentPattern) :
    fitsSegments (literal.map SegmentPattern.ofText ++ more) names = true ↔
      ∃ rest, names = literal ++ rest ∧ fitsSegments more rest = true := by
  induction literal generalizing names with
  | nil => simp
  | cons segment literal ih =>
    have hliteral : ∀ s ∈ literal, '*' ∉ s := fun s hs => h s (List.mem_cons_of_mem _ hs)
    rw [List.map_cons, List.cons_append, ofText_of_notMem (h segment (List.mem_cons_self ..))]
    cases names with
    | nil => simp [fitsSegments]
    | cons first names =>
      rw [fitsSegments, fitsPieces, Bool.and_eq_true, beq_iff_eq, ih hliteral]
      constructor
      · rintro ⟨rfl, rest, rfl, hfits⟩
        exact ⟨rest, rfl, hfits⟩
      · rintro ⟨rest, hnames, hfits⟩
        obtain ⟨rfl, rfl⟩ := List.cons.inj hnames
        exact ⟨rfl, rest, rfl, hfits⟩

theorem fitsSegments_literal (h : ∀ segment ∈ literal, '*' ∉ segment) :
    fitsSegments (literal.map SegmentPattern.ofText) names = true ↔ names = literal := by
  rw [← List.append_nil (literal.map _), fitsSegments_literal_append h]
  simp [fitsSegments]

/-- The segments of two patterns with a dot between them. -/
theorem segments_dotted (before after : String) :
    (⟨before ++ "." ++ after⟩ : Pattern).segments =
      (⟨before⟩ : Pattern).segments ++ (⟨after⟩ : Pattern).segments := by
  rw [segments, Text.eq_dotted_iff.1 rfl, List.splitOn_append_cons_self, List.map_append, segments,
    segments]

/-- The segments of a pattern with a dot and another pattern behind it. -/
theorem segments_below (p : Pattern) (last : String) :
    (⟨p.text ++ ("." ++ last)⟩ : Pattern).segments =
      p.segments ++ (⟨last⟩ : Pattern).segments := by
  rw [← String.append_assoc]
  exact segments_dotted p.text last

/-- A name without stars has no stars in its segments. -/
theorem notMem_of_mem_splitOn_dot (hstar : '*' ∉ name.toList) :
    ∀ segment ∈ name.toList.splitOn '.', '*' ∉ segment :=
  fun _ hsegment hmem => hstar (Text.subset_of_mem_splitOn hsegment hmem)

/-! ### The four meanings -/

/-- A pattern without stars describes itself. -/
theorem accepts_iff_eq (hstar : '*' ∉ name.toList) :
    (⟨name⟩ : Pattern).accepts whole = true ↔ whole = name := by
  rw [accepts, segments, fitsSegments_literal (notMem_of_mem_splitOn_dot hstar),
    (Text.splitOn_injective '.').eq_iff, String.toList_inj]

/-- With `.**` behind it, it also describes what begins with it and a dot. -/
theorem accepts_below_iff (hstar : '*' ∉ name.toList) :
    (⟨name ++ ".**"⟩ : Pattern).accepts whole = true ↔
      whole = name ∨ ∃ rest, whole = name ++ "." ++ rest := by
  have hsegments : (⟨name ++ ".**"⟩ : Pattern).segments =
      (name.toList.splitOn '.').map SegmentPattern.ofText ++ [.anyNumber] :=
    segments_below ⟨name⟩ "**"
  have hany : ∀ rest, fitsSegments [.anyNumber] rest = true := fun rest =>
    fitsSegments_anyNumber.2 ⟨rest, [], (List.append_nil rest).symm, rfl⟩
  rw [accepts, hsegments, fitsSegments_literal_append (notMem_of_mem_splitOn_dot hstar)]
  simp only [hany, and_true, Text.exists_splitOn_eq_append_iff, String.toList_inj,
    Text.toList_surjective.exists, Text.eq_dotted_iff]

/-- With `**.` before it, it also describes what ends with a dot and it. -/
theorem accepts_end_iff (hstar : '*' ∉ name.toList) :
    (⟨"**." ++ name⟩ : Pattern).accepts whole = true ↔
      whole = name ∨ ∃ first, whole = first ++ "." ++ name := by
  have hsegments : (⟨"**." ++ name⟩ : Pattern).segments =
      .anyNumber :: (name.toList.splitOn '.').map SegmentPattern.ofText :=
    segments_dotted "**" name
  rw [accepts, hsegments, fitsSegments_anyNumber]
  simp only [fitsSegments_literal (notMem_of_mem_splitOn_dot hstar), exists_eq_right,
    Text.exists_splitOn_eq_append_splitOn_iff, String.toList_inj,
    Text.toList_surjective.exists, Text.eq_dotted_iff]

/-- With `.*` behind it, it describes what goes on with a dot and then has none. -/
theorem accepts_child_iff (hstar : '*' ∉ name.toList) :
    (⟨name ++ ".*"⟩ : Pattern).accepts whole = true ↔
      ∃ child : String, '.' ∉ child.toList ∧ whole = name ++ "." ++ child := by
  have hsegments : (⟨name ++ ".*"⟩ : Pattern).segments =
      (name.toList.splitOn '.').map SegmentPattern.ofText ++ [.anyOne] :=
    segments_below ⟨name⟩ "*"
  rw [accepts, hsegments, fitsSegments_literal_append (notMem_of_mem_splitOn_dot hstar)]
  constructor
  · rintro ⟨rest, hwhole, hrest⟩
    obtain ⟨segment, rfl⟩ : ∃ segment, rest = [segment] := by
      cases rest with
      | nil => exact absurd hrest (by simp [fitsSegments])
      | cons segment more => exact ⟨segment, congrArg _ (List.isEmpty_iff.1 hrest)⟩
    obtain ⟨hnone, hcut⟩ := Text.splitOn_eq_concat_iff.1 hwhole
    obtain ⟨child, rfl⟩ := Text.toList_surjective segment
    exact ⟨child, hnone, Text.eq_dotted_iff.2 hcut⟩
  · rintro ⟨child, hnone, hwhole⟩
    exact ⟨_, Text.splitOn_eq_concat_iff.2 ⟨hnone, Text.eq_dotted_iff.1 hwhole⟩, rfl⟩

end Pattern

/-! ### Dependencies on one name -/

namespace Criterion

variable {α : Type} [Element α] {name : String}

theorem accepts_eq_contains (hstar : '*' ∉ name.toList) :
    (⟨name⟩ : Pattern).accepts = [name].contains := by
  funext target
  rw [Bool.eq_iff_iff, Pattern.accepts_iff_eq hstar, List.contains_iff_mem, List.mem_singleton]

theorem holds_dependsOn (hstar : '*' ∉ name.toList) (object : α) :
    (dependsOn ⟨name⟩).holds object = (dependsOnAny [name]).holds object := by
  have hnamed : (dependsOnAny [name]).holds object = (Element.targets object).contains name :=
    Bool.or_false _
  rw [hnamed, holds, Element.dependsOn, accepts_eq_contains hstar, Bool.eq_iff_iff,
    List.any_eq_true, List.contains_iff_mem]
  simp only [List.contains_iff_mem, List.mem_singleton, exists_eq_right]

theorem verdict_dependsOn (hstar : '*' ∉ name.toList) (negated : Bool) (object : α) :
    (dependsOn ⟨name⟩).verdict negated object = (dependsOnAny [name]).verdict negated object := by
  cases negated with
  | false =>
    exact congrArg (fun holds => Verdict.ofBool (holds != false)) (holds_dependsOn hstar object)
  | true =>
    exact congrArg (fun pick => Offence.verdict (Offence.targetsWhere object pick))
      (accepts_eq_contains hstar)

end Criterion

/-- **Four idioms on whole names.** Take a name without stars, which may have dots anywhere. As a
pattern it describes itself alone. With `.**` behind it, it also describes every name that begins
with it and a dot; with `**.` before it, every name that ends with a dot and it. With `.*` behind
it, it describes what consists of it, a dot, and a text without dots. And to depend on the name as a
pattern and on one of the names in a list of it alone is the same: the predicates are equal and so
are the conditions, plain and negated, with their verdicts, their details and their wording. -/
theorem Pattern.idioms_on_whole_names (name : String) (hstar : '*' ∉ name.toList) :
    (∀ whole : String,
      ((⟨name⟩ : Pattern).accepts whole = true ↔ whole = name) ∧
      ((⟨name ++ ".**"⟩ : Pattern).accepts whole = true ↔
        whole = name ∨ ∃ rest, whole = name ++ "." ++ rest) ∧
      ((⟨"**." ++ name⟩ : Pattern).accepts whole = true ↔
        whole = name ∨ ∃ first, whole = first ++ "." ++ name) ∧
      ((⟨name ++ ".*"⟩ : Pattern).accepts whole = true ↔
        ∃ child : String, '.' ∉ child.toList ∧ whole = name ++ "." ++ child)) ∧
    ∀ (α : Type) [Element α] (negated : Bool),
      (Criterion.dependsOn ⟨name⟩ : Criterion α).condition negated =
          (Criterion.dependsOnAny [name]).condition negated ∧
        (Criterion.dependsOn ⟨name⟩ : Criterion α).predicate negated =
          (Criterion.dependsOnAny [name]).predicate negated := by
  refine ⟨fun whole => ⟨accepts_iff_eq hstar, accepts_below_iff hstar, accepts_end_iff hstar,
    accepts_child_iff hstar⟩, fun α _ negated => ⟨?_, ?_⟩⟩
  · have hverdict : (Criterion.dependsOn ⟨name⟩ : Criterion α).verdict negated =
        (Criterion.dependsOnAny [name]).verdict negated :=
      funext (Criterion.verdict_dependsOn hstar negated)
    rw [Criterion.condition, Criterion.condition, hverdict]
    rfl
  · have hholds : (Criterion.dependsOn ⟨name⟩ : Criterion α).holds =
        (Criterion.dependsOnAny [name]).holds :=
      funext (Criterion.holds_dependsOn hstar)
    rw [Criterion.predicate, Criterion.predicate, hholds]
    rfl

theorem Pattern.idioms_on_whole_names_data :
    '*' ∉ "App.Data".toList ∧
    (⟨"App.Data.**"⟩ : Pattern).accepts "App.Data..Repo" = true ∧
    (⟨"**.App.Data"⟩ : Pattern).accepts ".App.Data" = true ∧
    (⟨"App.Data.*"⟩ : Pattern).accepts "App.Data." = true ∧
    (Criterion.dependsOn ⟨"App.Data"⟩ : Criterion Member).condition true =
      (Criterion.dependsOnAny ["App.Data"]).condition true := by
  have hstar : '*' ∉ "App.Data".toList := by decide
  obtain ⟨hwhole, hcriteria⟩ := idioms_on_whole_names "App.Data" hstar
  refine ⟨hstar, ?_, ?_, ?_, (hcriteria Member true).1⟩
  · exact (hwhole "App.Data..Repo").2.1.2 (Or.inr ⟨".Repo", by decide⟩)
  · exact (hwhole ".App.Data").2.2.1.2 (Or.inr ⟨"", by decide⟩)
  · exact (hwhole "App.Data.").2.2.2.2 ⟨"", by decide, by decide⟩

-- a beginning is not enough
example : (⟨"App.Data.**"⟩ : Pattern).accepts "App.Database" = false := by decide

end DesignRules
