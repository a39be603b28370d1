import DesignRules.Proofs.Codebase.Reordered
import DesignRules.Proofs.Hierarchy.Conformance

/-!
# Hierarchies grow with the codebase

More types can only add to what stands above a type. A name that resolved goes on resolving to the
same type, since of types with one name the first stays; so every chain of parents is still there.
A name that did not resolve may resolve now, and then there is more behind it.

## Why not along the search

The order of the names found is not kept. Where a parent that was missing turns up, the search goes
on behind it before it comes back to the others, and from there on the stack is another one. So two
searches are not compared round by round. What they find can be compared, by what can be reached.
Only where every name resolves alike do the searches run alike, and then the lists are equal, order
included.

## Main definitions

* `Codebase.ExtendedBy` — names that resolve go on resolving to the same types

## Main results

* `Codebase.extendedBy_append` — more types in the list
* `Hierarchy.Reaches.mono` — what can be reached stays within reach
* `Codebase.supertypes_grow` — supertypes and assignability in a larger codebase
-/

namespace DesignRules

/-- Every name that resolves in the first codebase resolves to the same type in the second. -/
def Codebase.ExtendedBy (c c' : Codebase) : Prop :=
  ∀ name t, c.typeOf? name = some t → c'.typeOf? name = some t

/-- **More types extend a codebase**, whatever their names are. -/
theorem Codebase.extendedBy_append (types more : List TypeDecl) :
    (ofTypes types).ExtendedBy (ofTypes (types ++ more)) := by
  intro name t h
  rw [typeOf?_ofTypes] at h ⊢
  rw [List.find?_append, h, Option.some_or]

variable {c c' : Codebase} {t : TypeDecl} {name : String}

theorem Codebase.Declares.mono (h : c.ExtendedBy c') {parent : String}
    (hdeclares : c.Declares name parent) : c'.Declares name parent := by
  obtain ⟨u, hu, hparent⟩ := hdeclares
  exact ⟨u, h name u hu, hparent⟩

/-- **What can be reached stays within reach.** -/
theorem Hierarchy.Reaches.mono (h : c.ExtendedBy c') (hreaches : Reaches c t name) :
    Reaches c' t name := by
  induction hreaches with
  | parent hparent hne => exact .parent hparent hne
  | step _ hdeclares hne ih => exact .step ih (hdeclares.mono h) hne

theorem Assignability.holds_mono {k : Assignability} (h : c.ExtendedBy c')
    (hholds : k.holds t c = true) : k.holds t c' = true := by
  obtain ⟨name, hname, hpick⟩ := k.holds_iff.1 hholds
  exact k.holds_iff.2 ⟨name, hname.imp_right fun hreaches => hreaches.mono h, hpick⟩

/-- **Supertypes grow with the codebase.** Let more types follow those that a codebase is made from,
of whatever names. Then every supertype that a type has in the smaller codebase is one in the larger
codebase, and whatever it is assignable to it stays assignable to, as far as the predicate goes and
as far as the condition goes. The type need not belong to either codebase. And if two codebases
resolve every name alike, every type has the same supertypes in both, in the same order. -/
theorem Codebase.supertypes_grow (t : TypeDecl) :
    (∀ types more : List TypeDecl,
      (∀ name ∈ (ofTypes types).supertypesOf t, name ∈ (ofTypes (types ++ more)).supertypesOf t) ∧
      ∀ k : Assignability,
        (((k.predicate false).test t (ofTypes types)).result = .ok true →
            ((k.predicate false).test t (ofTypes (types ++ more))).result = .ok true) ∧
          (((k.condition false).check t (ofTypes types)).result = .ok .pass →
            ((k.condition false).check t (ofTypes (types ++ more))).result = .ok .pass)) ∧
    ∀ c c' : Codebase, (∀ name, c.typeOf? name = c'.typeOf? name) →
      c.supertypesOf t = c'.supertypesOf t := by
  refine ⟨fun types more => ⟨fun name hname => ?_, fun k => ?_⟩, fun c c' halike => ?_⟩
  · rw [Hierarchy.mem_supertypesOf_iff_reaches] at hname ⊢
    exact hname.mono (extendedBy_append types more)
  · rw [Assignability.result_test_eq_true_iff, Assignability.result_test_eq_true_iff,
      Assignability.result_check_eq_pass_iff, Assignability.result_check_eq_pass_iff]
    have hholds := Assignability.holds_mono (k := k) (t := t) (extendedBy_append types more)
    exact ⟨hholds, hholds⟩
  · exact Hierarchy.search_congr halike _

/-- A page that extends a part. -/
def partedPage : TypeDecl := (TypeDecl.ofName .classType "Shop.Page").extending "Shop.Part"

/-- The part, which extends a widget, and a second page. -/
def partAndPage : List TypeDecl :=
  [(TypeDecl.ofName .classType "Shop.Part").extending "Shop.Widget",
    .ofName .classType "Shop.Page"]

theorem Codebase.supertypes_grow_partedPage :
    let before := ofTypes [partedPage]
    let after := ofTypes ([partedPage] ++ partAndPage)
    let toPart := Assignability.toContaining "Part"
    "Shop.Part" ∈ before.supertypesOf partedPage ∧ "Shop.Part" ∈ after.supertypesOf partedPage ∧
    ((toPart.predicate false).test partedPage before).result = .ok true ∧
    ((toPart.predicate false).test partedPage after).result = .ok true ∧
    ((toPart.condition false).check partedPage before).result = .ok .pass ∧
    ((toPart.condition false).check partedPage after).result = .ok .pass ∧
    (∀ name, (ofTypes partAndPage).typeOf? name = (ofTypes partAndPage.reverse).typeOf? name) ∧
    (ofTypes partAndPage).supertypesOf partedPage =
      (ofTypes partAndPage.reverse).supertypesOf partedPage := by
  intro before after toPart
  have hpart : Hierarchy.Reaches before partedPage "Shop.Part" := .parent (by decide) (by decide)
  have hmem := Hierarchy.mem_supertypesOf_iff_reaches.2 hpart
  have hholds : toPart.holds partedPage before = true :=
    toPart.holds_iff.2 ⟨"Shop.Part", Or.inr hpart, by decide⟩
  have htest := Assignability.result_test_eq_true_iff.2 hholds
  have hcheck := Assignability.result_check_eq_pass_iff.2 hholds
  have hreordered : (ofTypes partAndPage).Reordered (ofTypes partAndPage.reverse) :=
    Reordered.ofTypes (by decide) (List.reverse_perm partAndPage).symm
  obtain ⟨hgrow, hsame⟩ := supertypes_grow partedPage
  obtain ⟨hsupertypes, hassignable⟩ := hgrow [partedPage] partAndPage
  exact ⟨hmem, hsupertypes _ hmem, htest, (hassignable toPart).1 htest, hcheck,
    (hassignable toPart).2 hcheck, hreordered.typeOf?_eq, hsame _ _ hreordered.typeOf?_eq⟩

end DesignRules
