import DesignRules.Condition.Existence
import DesignRules.Proofs.Catalogue.Answers
import DesignRules.Proofs.Condition.Sharing

/-!
# Plain and negated forms

Whatever the catalogue can ask, it can also ask the other way round. For one object of one codebase
the two forms fail for the same reason, or exactly one of them holds.

## Where the two forms come from

For questions this is read off the answer behind them. For a relation there is no common answer:
the plain one looks for a related object with a link, and the negated one goes through all of them
to see that there is no link. With no related object at all, the first does not hold and the second
does.

## Main definitions

* `Complementary` — the error of what both need, or exactly one truth value

## Main results

* `Relation.holds_all_not` — that there is no link, as the negation of that there is some
* `negation_complements` — the negation law for the whole catalogue
-/

namespace DesignRules

/-- Two forms need the same thing. Where it cannot be had, both fail with that error; where it can,
exactly one of them holds. -/
inductive Complementary {γ : Type} (needed : Except RuleError γ) :
    Except RuleError Bool → Except RuleError Bool → Prop where
  | sameError {e : RuleError} (hfailed : needed = .error e) :
      Complementary needed (.error e) (.error e)
  | oneHolds {found : γ} (hok : needed = .ok found) (holds : Bool) :
      Complementary needed (.ok holds) (.ok !holds)

/-- Where one side has a truth value, the other side has the opposite one. -/
theorem Complementary.eq_ok_not {γ : Type} {needed : Except RuleError γ} {holds : Bool}
    {other : Except RuleError Bool} (h : Complementary needed (.ok holds) other) :
    other = .ok !holds := by
  cases h
  rfl

/-- Two forms are complementary if they are opposite truth values of what they need. -/
theorem complementary_map {γ : Type} (needed : Except RuleError γ) {plain negated : γ → Bool}
    (h : ∀ found, negated found = !plain found) :
    Complementary needed (needed.map plain) (needed.map negated) := by
  cases needed with
  | error e => exact .sameError rfl
  | ok found =>
    show Complementary _ (.ok (plain found)) (.ok (negated found))
    rw [h found]
    exact .oneHolds rfl (plain found)

/-- In particular, if both are read off the same answers. -/
theorem complementary_answer {γ : Type} (answer : Except RuleError γ) (holds : γ → Bool) :
    Complementary answer (answer.map fun a => holds a != false)
      (answer.map fun a => holds a != true) :=
  complementary_map answer fun a => by rw [Bool.bne_false, Bool.bne_true]

/-! ### Relations -/

namespace Relation

variable {α β : Type}

/-- A relation passes an object by what it says about the provided ones. -/
theorem passes_relatedTo (r : Relation α β) (provider : Provider β) (object : α) (c : Codebase) :
    (r.relatedTo provider).passes object c = (provider.objects c).result.map (r.holds object) := by
  rw [Condition.passes, result_check_relatedTo]
  cases (provider.objects c).result with
  | error e => rfl
  | ok related => exact congrArg Except.ok (Verdict.passed_ofBool _)

/-- **Some link, or no link.** To say that there is no link is to say of every related object that
it is not linked. -/
theorem holds_all_not (link : α → β → Bool) (description failDescription negatedDescription
    negatedFailDescription : String) (object : α) (related : List β) :
    (all (fun o b => !link o b) negatedDescription negatedFailDescription).holds object related =
      !(any link description failDescription).holds object related :=
  List.not_any_eq_all_not.symm

theorem complementary_relatedTo {plain negated : Relation α β} {object : α}
    (h : ∀ related, negated.holds object related = !plain.holds object related)
    (provider : Provider β) (c : Codebase) :
    Complementary (provider.objects c).result ((plain.relatedTo provider).passes object c)
      ((negated.relatedTo provider).passes object c) := by
  rw [passes_relatedTo, passes_relatedTo]
  exact complementary_map _ h

end Relation

/-! ### The negation law -/

/-- **The negation law.** Take an object of a codebase, and any pair of the catalogue with the same
arguments on both sides: the plain and the negated predicate of a question, its plain and its
negated condition, or a relation to the objects of a provider and its negated twin. Both sides fail
with the same error, which is that of the provider, or exactly one of them holds. The two conditions
on the number of objects complement each other as well. -/
theorem negation_complements {α : Type} [Element α] (object : α) (c : Codebase) :
    (∀ q : Question α,
      Complementary (q.answer c) ((q.predicate false).test object c).result
          ((q.predicate true).test object c).result ∧
        Complementary (q.answer c) ((q.condition false).passes object c)
          ((q.condition true).passes object c)) ∧
    (∀ provider : Provider TypeDecl,
      Complementary (provider.objects c).result
          (((Relation.dependsOnClasses false).relatedTo provider).passes object c)
          (((Relation.dependsOnClasses true).relatedTo provider).passes object c) ∧
        Complementary (provider.objects c).result
          (((Relation.hasAttributes false).relatedTo provider).passes object c)
          (((Relation.hasAttributes true).relatedTo provider).passes object c)) ∧
    ∀ count : Nat, Existence.notExist.holds count = !Existence.exist.holds count := by
  refine ⟨fun q => ⟨?_, ?_⟩, fun provider => ⟨?_, ?_⟩, fun count => ?_⟩
  · rw [q.result_test, q.result_test]
    exact complementary_answer _ _
  · rw [q.passes_condition, q.passes_condition]
    exact complementary_answer _ _
  · exact Relation.complementary_relatedTo (Relation.holds_all_not _ _ _ _ _ object) provider c
  · exact Relation.complementary_relatedTo (Relation.holds_all_not _ _ _ _ _ object) provider c
  · cases count <;> rfl

/-- A page that uses a part. -/
def usingPage : TypeDecl :=
  (TypeDecl.ofName .classType "Shop.Page").dependingOn .fieldType "Shop.Part"

/-- The page uses the part, so the plain forms hold of it and the negated ones do not. -/
theorem negation_complements_usingPage :
    let uses : Question TypeDecl := .element (.dependsOn ⟨"*.Part"⟩)
    let part := (NamedTypes.mk ["Shop.Part"]).provider
    let codebase := Codebase.ofTypes [.ofName .classType "Shop.Part"]
    ((uses.predicate false).test usingPage codebase).result = .ok true ∧
    ((uses.predicate true).test usingPage codebase).result = .ok false ∧
    (uses.condition false).passes usingPage codebase = .ok true ∧
    (uses.condition true).passes usingPage codebase = .ok false ∧
    ((Relation.dependsOnClasses false).relatedTo part).passes usingPage codebase = .ok true ∧
    ((Relation.dependsOnClasses true).relatedTo part).passes usingPage codebase = .ok false ∧
    Existence.exist.holds 2 = true ∧ Existence.notExist.holds 2 = false := by
  intro uses part codebase
  obtain ⟨hquestions, hrelations, hcounts⟩ := negation_complements usingPage codebase
  obtain ⟨htest, hpasses⟩ := hquestions uses
  obtain ⟨hrelated, -⟩ := hrelations part
  have htested : ((uses.predicate false).test usingPage codebase).result = .ok true := rfl
  have hpassed : (uses.condition false).passes usingPage codebase = .ok true := rfl
  have hlinked : ((Relation.dependsOnClasses false).relatedTo part).passes usingPage codebase =
      .ok true := rfl
  rw [htested] at htest
  rw [hpassed] at hpasses
  rw [hlinked] at hrelated
  exact ⟨htested, htest.eq_ok_not, hpassed, hpasses.eq_ok_not, hlinked, hrelated.eq_ok_not, rfl,
    hcounts 2⟩

end DesignRules
