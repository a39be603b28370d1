import DesignRules.Proofs.Catalogue.BuiltIn
import DesignRules.Proofs.Formula.Regrouping

/-!
# Provided types count by their names

A provider names types in some order. A list of names gives them as it is written, and a name that
is written twice gives its type twice; a selection or a draft gives them in the order of the
codebase. For everything in the catalogue that asks a provider, none of this makes a difference, and
neither does anything else about the types but their full names.

## Details

This is as true of the details as it is of the truth values. A failure lists the targets that
offend, and it lists them in the order in which the object first uses them. The provider says which
targets are among them, and has no part in their order.

## Main result

* `provided_types_count_by_name` — two providers that name the same types
-/

namespace DesignRules

variable {α : Type} [Element α]

/-- **Provided types count by their names.** Let two providers have types in a codebase, with the
same full names: in any order, and with any repetitions. Then whatever the catalogue can ask about
the types of a provider comes to the same with both of them. Every predicate has the same truth
value on an object, every condition comes to the same verdict on it, with the same detail, and so
does every tree of relations of the catalogue, whether it is related to the provided types as a
whole or leaf by leaf. -/
theorem provided_types_count_by_name {provider provider' : Provider TypeDecl} {c : Codebase}
    {types types' : List TypeDecl} (h : (provider.objects c).result = .ok types)
    (h' : (provider'.objects c).result = .ok types')
    (hnames : ∀ name, name ∈ types.map TypeDecl.fullName ↔ name ∈ types'.map TypeDecl.fullName)
    (object : α) :
    (∀ (q : UseQuestion) (negated : Bool),
      (∃ holds,
        (((q.provided provider).predicate negated).test object c).result = .ok holds ∧
          (((q.provided provider').predicate negated).test object c).result = .ok holds) ∧
      ∃ verdict,
        (((q.provided provider).condition negated).check object c).result = .ok verdict ∧
          (((q.provided provider').condition negated).check object c).result = .ok verdict) ∧
    ∀ f : Formula (Relation α TypeDecl), (∀ r ∈ f.leaves, r.BuiltIn) →
      ∃ verdict,
        ((f.combine.relatedTo provider).check object c).result = .ok verdict ∧
          ((f.combine.relatedTo provider').check object c).result = .ok verdict ∧
        ((f.map fun r => Relation.relatedTo r provider).combine.check object c).result =
            .ok verdict ∧
          ((f.map fun r => Relation.relatedTo r provider').combine.check object c).result =
            .ok verdict := by
  have hsame : SameNames types types' := hnames
  refine ⟨fun q negated => ?_, fun f hf => ?_⟩
  · -- test and verdict come from the same types
    have hverdict : (q.provided provider).verdict negated types object =
        (q.provided provider').verdict negated types' object :=
      q.verdict_provided_eq_of_sameNames provider provider' negated hsame object
    simp only [ProviderCriterion.result_test, ProviderCriterion.result_check,
      UseQuestion.provider_provided, h, h', Except.map, hverdict]
    exact ⟨⟨_, rfl, rfl⟩, _, rfl, rfl⟩
  · have hholds : (f.map fun r => r.holds object types).holds =
        (f.map fun r => r.holds object types').holds := by
      rw [Formula.holds, Formula.fold_map, Formula.fold_map]
      exact Formula.fold_congr fun r hr => (hf r hr).holds_eq_of_sameNames object hsame
    simp only [Relation.result_check_relatedTo, Relation.result_check_combine_relatedTo,
      Relation.holds_combine, h, h', Except.map, hholds]
    exact ⟨_, rfl, rfl, rfl, rfl⟩

/-- A codebase in which the style comes before the store. -/
def shelf : Codebase :=
  .ofTypes [.ofName .classType "Shop.Style", .ofName .classType "Shop.Store", UseQuestion.page]

/-- The store and the style, by name: the store first, and twice. -/
def storeAndStyle : Provider TypeDecl :=
  (NamedTypes.mk ["Shop.Store", "Shop.Style", "Shop.Store"]).provider

/-- All classes whose names begin with an S, which are the same two. -/
def classesWithS : Provider TypeDecl :=
  (Selection.mk .classes [(Criterion.nameStartingWith "S").predicate false]).provider

/-- Uses some of the classes, and carries none of them as attributes. -/
def usesOnly : Formula (Relation TypeDecl TypeDecl) :=
  .join .and (.leaf (.dependsOnClasses false)) (.leaf (.hasAttributes true))

theorem provided_types_count_by_name_shelf :
    (((UseQuestion.dependsOnAny.provided storeAndStyle).condition true).check
        UseQuestion.page shelf).result =
      .ok (.fail (some "\"Shop.Store\", \"Shop.Style\"")) ∧
    (((UseQuestion.dependsOnAny.provided classesWithS).condition true).check
        UseQuestion.page shelf).result =
      .ok (.fail (some "\"Shop.Store\", \"Shop.Style\"")) ∧
    ((usesOnly.combine.relatedTo storeAndStyle).check UseQuestion.page shelf).result =
      ((usesOnly.combine.relatedTo classesWithS).check UseQuestion.page shelf).result := by
  have hnamed : (storeAndStyle.objects shelf).result = .ok [.ofName .classType "Shop.Store",
      .ofName .classType "Shop.Style", .ofName .classType "Shop.Store"] := rfl
  have hselected : (classesWithS.objects shelf).result = .ok [.ofName .classType "Shop.Style",
      .ofName .classType "Shop.Store"] := rfl
  have hsame : ∀ name,
      name ∈ ["Shop.Store", "Shop.Style", "Shop.Store"] ↔ name ∈ ["Shop.Style", "Shop.Store"] := by
    simp
  obtain ⟨hquestions, hrelations⟩ :=
    provided_types_count_by_name hnamed hselected hsame UseQuestion.page
  obtain ⟨-, verdict, hverdict, hverdict'⟩ := hquestions .dependsOnAny true
  have hfails : (((UseQuestion.dependsOnAny.provided storeAndStyle).condition true).check
      UseQuestion.page shelf).result =
        .ok (.fail (some "\"Shop.Store\", \"Shop.Style\"")) := rfl
  obtain ⟨both, hrelated, hrelated', -, -⟩ := hrelations usesOnly
    (by rintro r (_ | ⟨_, _ | ⟨_, ⟨⟩⟩⟩)
        · exact .dependsOnClasses false
        · exact .hasAttributes true)
  exact ⟨hfails, hverdict'.trans (hverdict.symm.trans hfails), hrelated.trans hrelated'.symm⟩

end DesignRules
