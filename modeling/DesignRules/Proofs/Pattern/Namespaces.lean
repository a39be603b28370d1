import DesignRules.Catalogue.TypeCriterion
import DesignRules.Proofs.Model.Building
import DesignRules.Proofs.Pattern.WholeNames

/-!
# Patterns on namespaces

A type resides in a namespace that a pattern describes just if its full name is described by the
pattern with `.*` behind it. The two questions look at different names: one at the namespace that
was cut off when the type was made, and one at the full name.

## Why the last segment is left over

A pattern may hold any number of `**`, and each of them could take the last segment as well. But
what stands behind the last dot of the longer pattern takes exactly one segment, and it is the last
one that is asked. So in every cut of the full name into blocks the last block is the last segment,
and the other blocks are a cut of the namespace. Patterns with a dot between them are fitted one
after the other, whatever they are: that is `fitsSegments_append`.

## Main results

* `Pattern.fitsSegments_append` — two patterns in a row
* `Pattern.accepts_star_below` — one more segment on either side
* `TypeDecl.cut_at_last_dot` — the namespace, a dot and the name
* `TypeDecl.namespace_agrees_with_full_name` — the two questions, as predicates and as conditions
-/

namespace DesignRules

/-! ### Patterns in a row -/

namespace Pattern

/-- **Two patterns in a row** fit what can be cut in two, one half for each. -/
theorem fitsSegments_append {asked : List (List Char)} {more : List SegmentPattern}
    {names : List (List Char)} :
    fitsSegments (asked.map SegmentPattern.ofText ++ more) names = true ↔
      ∃ front back, names = front ++ back ∧
        fitsSegments (asked.map SegmentPattern.ofText) front = true ∧
        fitsSegments more back = true := by
  induction asked generalizing names with
  | nil => simp [fitsSegments]
  | cons segment asked ih =>
    simp only [List.map_cons, List.cons_append, fitsSegments_ofText_cons, ih]
    constructor
    · rintro ⟨block, _, rfl, hblock, front, back, rfl, hfront, hback⟩
      exact ⟨block ++ front, back, (List.append_assoc ..).symm, ⟨block, front, rfl, hblock, hfront⟩,
        hback⟩
    · rintro ⟨_, back, rfl, ⟨block, front, rfl, hblock, hfront⟩, hback⟩
      exact ⟨block, front ++ back, List.append_assoc .., hblock, front, back, rfl, hfront, hback⟩

theorem fitsSegments_anyOne {names : List (List Char)} :
    fitsSegments [.anyOne] names = true ↔ ∃ name, names = [name] := by
  cases names with
  | nil => simp [fitsSegments]
  | cons name rest => simp [fitsSegments]

/-- **One more segment on either side.** A pattern with `.*` behind it describes a name with one
more segment just if the pattern describes the name. -/
theorem accepts_star_below (p : Pattern) {front last : String} (hlast : '.' ∉ last.toList) :
    (⟨p.text ++ ".*"⟩ : Pattern).accepts (front ++ "." ++ last) = p.accepts front := by
  have hsegments : (⟨p.text ++ ".*"⟩ : Pattern).segments = p.segments ++ [.anyOne] :=
    p.segments_below "*"
  have hnames : (front ++ "." ++ last).toList.splitOn '.' =
      front.toList.splitOn '.' ++ [last.toList] := by
    rw [Text.eq_dotted_iff.1 rfl, List.splitOn_append_cons_self, List.splitOn_eq_singleton hlast]
  rw [accepts, accepts, hsegments, hnames, Bool.eq_iff_iff, segments, fitsSegments_append]
  constructor
  · rintro ⟨_, back, hcut, hfits, hback⟩
    obtain ⟨_, rfl⟩ := fitsSegments_anyOne.1 hback
    obtain ⟨rfl, -⟩ := List.append_inj' hcut rfl
    exact hfits
  · intro hfits
    exact ⟨_, _, rfl, hfits, fitsSegments_anyOne.2 ⟨_, rfl⟩⟩

end Pattern

/-! ### Namespaces of built types -/

namespace TypeDecl

variable {fullName : String}

/-- A full name with a dot is cut at its last dot. -/
theorem cut_at_last_dot (form : TypeForm) (hdot : '.' ∈ fullName.toList) :
    fullName = (ofName form fullName).inNamespace ++ "." ++ (ofName form fullName).name ∧
      '.' ∉ (ofName form fullName).name.toList := by
  cases hcut : Text.splitLast '.' fullName.toList with
  | none => exact absurd hdot (Text.splitLast_eq_none.1 hcut)
  | some parts =>
    obtain ⟨before, after⟩ := parts
    obtain ⟨hwhole, hafter⟩ := Text.splitLast_eq_some hcut
    have hnamespace : (ofName form fullName).inNamespace = String.ofList before := by
      simp only [ofName, hcut]
    have hname : (ofName form fullName).name = String.ofList after := by
      simp only [ofName, hcut]
    rw [hnamespace, hname, Text.eq_dotted_iff, String.toList_ofList, String.toList_ofList]
    exact ⟨hwhole, hafter⟩

/-- **Namespaces and full names agree.** Make a type from a full name with a dot, by any calls. Its
full name is still that one, and it is the namespace, a dot and the name, where the name has no dot.
And for every pattern, whether the type resides in a namespace of that pattern is whether its full
name matches the pattern with `.*` behind it. The predicates test the type alike and the conditions
judge it alike, plain and negated. -/
theorem namespace_agrees_with_full_name (form : TypeForm) (fullName : String)
    (hdot : '.' ∈ fullName.toList) (calls : List Call) :
    let t := (ofName form fullName).run calls
    (t.fullName = fullName ∧ fullName = t.inNamespace ++ "." ++ t.name ∧ '.' ∉ t.name.toList) ∧
    ∀ (p : Pattern) (negated : Bool),
      (∀ c, ((TypeCriterion.inNamespace p).predicate negated).test t c =
        ((Criterion.fullNameMatching ⟨p.text ++ ".*"⟩).predicate negated).test t c) ∧
      ((TypeCriterion.inNamespace p).condition negated).check t =
        ((Criterion.fullNameMatching ⟨p.text ++ ".*"⟩).condition negated).check t := by
  intro t
  obtain ⟨hfullName, hinNamespace, hname⟩ := names_run (ofName form fullName) calls
  obtain ⟨hcut, hnone⟩ := cut_at_last_dot form hdot
  rw [← hinNamespace, ← hname] at hcut
  rw [← hname] at hnone
  refine ⟨⟨hfullName, hcut, hnone⟩, fun p negated => ?_⟩
  have hholds : (Criterion.fullNameMatching ⟨p.text ++ ".*"⟩).holds t =
      (TypeCriterion.inNamespace p).holds t := by
    have hwhole : t.fullName = t.inNamespace ++ "." ++ t.name := hfullName.trans hcut
    show Pattern.accepts _ t.fullName = p.accepts t.inNamespace
    rw [hwhole, p.accepts_star_below hnone]
  refine ⟨fun c => ?_, ?_⟩
  · exact congrArg (fun holds => (pure (holds != negated) : Eval Bool)) hholds.symm
  · exact congrArg (fun holds => Verdict.ofBool (holds != negated)) hholds.symm

/-- A full name may end with two dots. Its name is empty then, and its namespace ends with a dot. -/
theorem namespace_agrees_with_full_name_dots :
    '.' ∈ "App.Data..".toList ∧
    "App.Data.." = ((ofName .classType "App.Data..").run [.asNested]).inNamespace ++ "." ++
      ((ofName .classType "App.Data..").run [.asNested]).name ∧
    ((Criterion.fullNameMatching ⟨"**.Data.**.*"⟩).condition false).check
      ((ofName .classType "App.Data..").run [.asNested]) = .pass := by
  have hdot : '.' ∈ "App.Data..".toList := by decide
  obtain ⟨⟨-, hcut, -⟩, hagree⟩ :=
    namespace_agrees_with_full_name .classType "App.Data.." hdot [.asNested]
  exact ⟨hdot, hcut, (hagree ⟨"**.Data.**"⟩ false).2.symm.trans (by decide)⟩

end TypeDecl

-- without a dot the namespace is empty, which is one segment for the one question and none for the
-- other
example : (⟨"*"⟩ : Pattern).accepts (TypeDecl.ofName .classType "App").inNamespace = true ∧
    (⟨"*.*"⟩ : Pattern).accepts "App" = false := by decide

end DesignRules
