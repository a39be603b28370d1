import DesignRules.Catalogue.Scoped
import DesignRules.Proofs.Hierarchy.Reachable
import Mathlib.Logic.Relation

/-!
# Assignability goes up the hierarchy

A type can be assigned to whatever its own name or a name above it is picked by. This module says
that these names are closed: what is above one of them is among them. So a type is assignable to
everything that one of its supertypes is assignable to, and on a cycle all types are assignable to
the same.

## Two searches, two names left out

The supertypes of a type never have the type's own name among them, and the search for them does not
go on from it. Two searches leave out two different names, so the names above a supertype need not
be names above the type: one of them can be the type itself. What saves transitivity is that a
question looks at the type's own name as well (`Hierarchy.ConformsTo`), and that the parents behind
that name are the type's own parents. The second of these is why the type has to be the one that the
codebase has under its name, or the codebase must have none.

## Main definitions

* `Codebase.Admits` — under the name of a type there is that type, or nothing
* `Codebase.OnCycle` — chains of parents lead from one name to the other and back
* `Hierarchy.ConformsTo` — the names by which a type is picked: its own and those above it

## Main results

* `Hierarchy.ConformsTo.step` — they are closed under declared parents
* `Hierarchy.conformsTo_iff_reflTransGen` — for a type of the codebase, they are all that chains of
  parents lead to, cycles or not
* `Hierarchy.ConformsTo.trans` — what a supertype conforms to
* `Assignability.holds_iff` — the answer, in terms of these names
* `Assignability.supertypes_pass_on` — reflexivity, transitivity, and types on a cycle
-/

namespace DesignRules

/-- Under the name of the type, the codebase has that type or none. -/
def Codebase.Admits (c : Codebase) (t : TypeDecl) : Prop :=
  c.typeOf? t.fullName = some t ∨ c.typeOf? t.fullName = none

theorem Codebase.typeOf?_of_mem {c : Codebase} {t : TypeDecl} (h : t ∈ c.types) :
    c.typeOf? t.fullName = some t :=
  typeOf?_eq_some_iff.2 ⟨h, rfl⟩

theorem Codebase.Admits.eq_of_typeOf? {c : Codebase} {t u : TypeDecl} (h : c.Admits t)
    (hu : c.typeOf? t.fullName = some u) : u = t := by
  rcases h with hown | hnone
  · exact Option.some.inj (hu.symm.trans hown)
  · exact absurd (hu.symm.trans hnone) (Option.some_ne_none u)

/-- The names are on a common cycle: chains of parents lead from each of them to the other. -/
def Codebase.OnCycle (c : Codebase) (name other : String) : Prop :=
  Relation.TransGen c.Declares name other ∧ Relation.TransGen c.Declares other name

/-! ### The names a type conforms to -/

namespace Hierarchy

variable {c : Codebase} {s t : TypeDecl} {below name : String}

/-- The name is that of the type itself or of one of its supertypes. -/
def ConformsTo (c : Codebase) (t : TypeDecl) (name : String) : Prop :=
  name = t.fullName ∨ Reaches c t name

/-- **The names are closed under declared parents.** -/
theorem ConformsTo.step (hadmits : c.Admits t) (h : ConformsTo c t below)
    (hdeclares : c.Declares below name) : ConformsTo c t name := by
  by_cases hself : name = t.fullName
  · exact Or.inl hself
  · refine Or.inr ?_
    rcases h with rfl | hbelow
    · -- the search did not go on from the type's own name, and need not: it began there
      obtain ⟨u, hu, hparent⟩ := hdeclares
      obtain rfl := hadmits.eq_of_typeOf? hu
      exact .parent hparent hself
    · exact .step hbelow hdeclares hself

theorem ConformsTo.of_reflTransGen (hadmits : c.Admits t) (h : ConformsTo c t below)
    (hup : Relation.ReflTransGen c.Declares below name) : ConformsTo c t name := by
  induction hup with
  | refl => exact h
  | tail _ hdeclares ih => exact ih.step hadmits hdeclares

theorem Reaches.transGen (ht : c.typeOf? t.fullName = some t) (h : Reaches c t name) :
    Relation.TransGen c.Declares t.fullName name := by
  induction h with
  | parent hparent _ => exact .single ⟨t, ht, hparent⟩
  | step _ hdeclares _ ih => exact ih.tail hdeclares

/-- **For a type of the codebase** the names are all those that chains of parents lead to. -/
theorem conformsTo_iff_reflTransGen (ht : c.typeOf? t.fullName = some t) :
    ConformsTo c t name ↔ Relation.ReflTransGen c.Declares t.fullName name := by
  constructor
  · rintro (rfl | hreaches)
    · exact .refl
    · exact (hreaches.transGen ht).to_reflTransGen
  · exact ConformsTo.of_reflTransGen (Or.inl ht) (Or.inl rfl)

/-- **What a supertype conforms to**, the type conforms to as well. -/
theorem ConformsTo.trans (hadmits : c.Admits t) (hs : s ∈ c.types)
    (hts : ConformsTo c t s.fullName) (h : ConformsTo c s name) : ConformsTo c t name :=
  hts.of_reflTransGen hadmits ((conformsTo_iff_reflTransGen (c.typeOf?_of_mem hs)).1 h)

end Hierarchy

/-! ### Assignability -/

namespace Assignability

open Hierarchy

variable {c : Codebase} {s t : TypeDecl}

/-- **The answer** is yes just if the type conforms to a name that the question looks for. -/
theorem holds_iff (k : Assignability) :
    k.holds t c = true ↔ ∃ name, ConformsTo c t name ∧ k.pick name = true := by
  rw [holds, TypeDecl.isAssignable, Bool.or_eq_true, List.any_eq_true]
  simp only [mem_supertypesOf_iff_reaches, ConformsTo, or_and_right, exists_or, exists_eq_left]

theorem result_test (k : Assignability) (t : TypeDecl) (c : Codebase) :
    ((k.predicate false).test t c).result = .ok (k.holds t c) :=
  congrArg Except.ok (Bool.bne_false _)

theorem result_check (k : Assignability) (t : TypeDecl) (c : Codebase) :
    ((k.condition false).check t c).result = .ok (.ofBool (k.holds t c)) :=
  congrArg (fun holds => Except.ok (Verdict.ofBool holds)) (Bool.bne_false _)

theorem result_test_eq_true_iff {k : Assignability} :
    ((k.predicate false).test t c).result = .ok true ↔ k.holds t c = true := by
  rw [result_test, Except.ok.injEq]

theorem result_check_eq_pass_iff {k : Assignability} :
    ((k.condition false).check t c).result = .ok .pass ↔ k.holds t c = true := by
  rw [result_check, Except.ok.injEq]
  cases k.holds t c <;> simp [Verdict.ofBool]

theorem holds_of_conformsTo {k : Assignability} (hadmits : c.Admits t) (hs : s ∈ c.types)
    (hts : ConformsTo c t s.fullName) (h : k.holds s c = true) : k.holds t c = true := by
  obtain ⟨name, hname, hpick⟩ := k.holds_iff.1 h
  exact k.holds_iff.2 ⟨name, hts.trans hadmits hs hname, hpick⟩

/-- Two types of the codebase on a common cycle conform to each other. -/
theorem holds_of_onCycle {k : Assignability} (hs : s ∈ c.types) (ht : t ∈ c.types)
    (hcycle : c.OnCycle s.fullName t.fullName) (h : k.holds s c = true) : k.holds t c = true := by
  have hown : c.typeOf? t.fullName = some t := c.typeOf?_of_mem ht
  exact holds_of_conformsTo (Or.inl hown) hs
    ((conformsTo_iff_reflTransGen hown).2 hcycle.2.to_reflTransGen) h

/-- **Assignability is reflexive and transitive.** A type is assignable to what its own full name is
picked by, be it a pattern or a text. Take a type that the codebase has under its name, or whose
name the codebase does not have, and a type of the codebase that is among its supertypes. Whatever
the supertype is assignable to, the type is assignable to as well: as far as the predicate goes, and
as far as the condition goes. This asks nothing of the hierarchy, which may have cycles. Two types
of the codebase on a common cycle have the same answers to every such question. -/
theorem supertypes_pass_on (k : Assignability) (c : Codebase) :
    (∀ t : TypeDecl, k.pick t.fullName = true →
      ((k.predicate false).test t c).result = .ok true ∧
        ((k.condition false).check t c).result = .ok .pass) ∧
    (∀ s t : TypeDecl, c.Admits t → s ∈ c.types → s.fullName ∈ c.supertypesOf t →
      (((k.predicate false).test s c).result = .ok true →
          ((k.predicate false).test t c).result = .ok true) ∧
        (((k.condition false).check s c).result = .ok .pass →
          ((k.condition false).check t c).result = .ok .pass)) ∧
    ∀ s t : TypeDecl, s ∈ c.types → t ∈ c.types → c.OnCycle s.fullName t.fullName →
      ((k.predicate false).test s c).result = ((k.predicate false).test t c).result ∧
        ((k.condition false).check s c).result = ((k.condition false).check t c).result := by
  refine ⟨fun t hpick => ?_, fun s t hadmits hs hmem => ?_, fun s t hs ht hcycle => ?_⟩
  · have hholds : k.holds t c = true := k.holds_iff.2 ⟨t.fullName, Or.inl rfl, hpick⟩
    exact ⟨result_test_eq_true_iff.2 hholds, result_check_eq_pass_iff.2 hholds⟩
  · have hts : ConformsTo c t s.fullName := Or.inr (mem_supertypesOf_iff_reaches.1 hmem)
    rw [result_test_eq_true_iff, result_test_eq_true_iff, result_check_eq_pass_iff,
      result_check_eq_pass_iff]
    exact ⟨holds_of_conformsTo hadmits hs hts, holds_of_conformsTo hadmits hs hts⟩
  · have hholds : k.holds s c = k.holds t c := by
      rw [Bool.eq_iff_iff]
      exact ⟨holds_of_onCycle hs ht hcycle, holds_of_onCycle ht hs hcycle.symm⟩
    rw [result_test, result_test, result_check, result_check, hholds]
    exact ⟨rfl, rfl⟩

/-- A page that extends its part, and a part that extends the page and implements a view. -/
def knot : Codebase :=
  .ofTypes [(TypeDecl.ofName .classType "Shop.Page").extending "Shop.Part",
    ((TypeDecl.ofName .classType "Shop.Part").extending "Shop.Page").implementing "Shop.View"]

theorem supertypes_pass_on_knot :
    let page := (TypeDecl.ofName .classType "Shop.Page").extending "Shop.Part"
    let part :=
      ((TypeDecl.ofName .classType "Shop.Part").extending "Shop.Page").implementing "Shop.View"
    let toView := toMatching ⟨"**.View"⟩
    knot.Admits page ∧ part ∈ knot.types ∧ page ∈ knot.types ∧
    part.fullName ∈ knot.supertypesOf page ∧ knot.OnCycle part.fullName page.fullName ∧
    (toMatching ⟨"*.Page"⟩).pick page.fullName = true ∧
    (((toMatching ⟨"*.Page"⟩).condition false).check page knot).result = .ok .pass ∧
    ((toView.predicate false).test part knot).result = .ok true ∧
    ((toView.condition false).check part knot).result = .ok .pass ∧
    ((toView.predicate false).test page knot).result = .ok true ∧
    ((toView.condition false).check page knot).result = .ok .pass ∧
    ((toView.condition false).check part knot).result =
      ((toView.condition false).check page knot).result := by
  intro page part toView
  have hpage : page ∈ knot.types := by decide
  have hpart : part ∈ knot.types := by decide
  have hadmits : knot.Admits page := Or.inl (knot.typeOf?_of_mem hpage)
  have habove : part.fullName ∈ knot.supertypesOf page :=
    mem_supertypesOf_iff_reaches.2 (.parent (by decide) (by decide))
  have hcycle : knot.OnCycle part.fullName page.fullName :=
    ⟨.single ⟨part, knot.typeOf?_of_mem hpart, by decide⟩,
      .single ⟨page, knot.typeOf?_of_mem hpage, by decide⟩⟩
  have hview : toView.holds part knot = true :=
    toView.holds_iff.2 ⟨"Shop.View", Or.inr (.parent (by decide) (by decide)), by decide⟩
  have htest := result_test_eq_true_iff.2 hview
  have hcheck := result_check_eq_pass_iff.2 hview
  obtain ⟨hself, -, -⟩ := supertypes_pass_on (toMatching ⟨"*.Page"⟩) knot
  obtain ⟨-, hup, haround⟩ := supertypes_pass_on toView knot
  obtain ⟨htested, hchecked⟩ := hup part page hadmits hpart habove
  exact ⟨hadmits, hpart, hpage, habove, hcycle, by decide, (hself page (by decide)).2, htest,
    hcheck, htested htest, hchecked hcheck, (haround part page hpart hpage hcycle).2⟩

end Assignability

end DesignRules
