import DesignRules.Proofs.Catalogue.Negation
import DesignRules.Proofs.Rule.Interchange
import DesignRules.Sentence

/-!
# Related objects and provided objects

There are two ways to say that classes of a certain description are to be used, or not to be used.
The description can follow a relation, *should depend on classes that* …, or the described classes
can be a provider, *should depend on any in* the classes *that* … . The first goes through the
stages of a relation, looks for a link to some related object or for its absence from all of them,
and says no more than whether it holds. The second asks a sentence of its own for the classes, and
where it forbids them it collects the offending targets. Both find the same objects.

## Where the two ways meet

The related objects are a `Selection`, which the clauses narrow down while the relation is open. The
provided ones are those of a draft, which has the same predicates. Both are filtered alike, so the
two conditions look at one list or fail with one error, and on one list they pass the same objects.
What they list as offenders is of no account to a rule (`Draft.alike_evaluateWith`), whatever else
it asserts, and whichever rules it continues.

## Main definitions

* `Stage.run` — the stage that some clauses lead to
* `Step.listed` — predicates with an *and* between them, as clauses

## Main results

* `Stage.run_filterRelated`, `Stage.run_filter` — described objects, by induction on the clauses
* `Relation.interchangeable_dependsOnAnyIn` — the two conditions
* `Stage.related_agrees_with_provided` — the two conditions, and the sentences with them
-/

namespace DesignRules

/-! ### Conditions -/

namespace Relation

variable {α : Type} [Element α]

/-- On given classes, the relation holds just if the question is answered yes, or no if negated. -/
theorem holds_dependsOnClasses (provider : Provider TypeDecl) (negated : Bool) (object : α)
    (classes : List TypeDecl) :
    (dependsOnClasses negated).holds object classes =
      ((ProviderCriterion.dependsOnAnyIn provider).holds classes object != negated) := by
  cases negated with
  | false => exact (Bool.bne_false _).symm
  | true =>
    rw [Bool.bne_true]
    exact holds_all_not _ "" "" _ _ object classes

/-- **The two conditions.** Providers that have the same objects, or none for the same reason, make
conditions that pass the same objects. -/
theorem interchangeable_dependsOnAnyIn (negated : Bool) {provider provider' : Provider TypeDecl}
    {c : Codebase} (h : (provider.objects c).result = (provider'.objects c).result) :
    ((dependsOnClasses negated : Relation α TypeDecl).relatedTo provider).Interchangeable c
      ((ProviderCriterion.dependsOnAnyIn provider').condition negated) := by
  refine Matched.bind (Alike.of_eq h) fun classes classes' hclasses => .ok fun object => ?_
  subst hclasses
  have hpassed :
      (Verdict.ofBool ((dependsOnClasses negated).holds object classes)).passed =
        ((ProviderCriterion.dependsOnAnyIn provider').verdict negated classes object).passed := by
    rw [Verdict.passed_ofBool, ProviderCriterion.passed_verdict]
    exact holds_dependsOnClasses provider' negated object classes
  exact .ok hpassed

end Relation

/-! ### Clauses -/

/-- Predicates as clauses, with an *and* between any two of them. -/
def Step.listed {α β : Type} (clause : Predicate β → Step α) (first : Predicate β) :
    List (Predicate β) → List (Step α)
  | [] => [clause first]
  | second :: more => clause first :: .and :: listed clause second more

namespace Stage

variable {α : Type}

/-- The stage that some clauses lead to, if they may follow each other. -/
def run (s : Stage α) : List (Step α) → Option (Stage α)
  | [] => some s
  | clause :: rest => (s.step clause).bind fun next => next.run rest

/-- The predicates on related objects narrow the selection down one by one. -/
theorem run_filterRelated (d : Draft α) (relation : Relation α TypeDecl)
    (selection : Selection TypeDecl) (first : Predicate TypeDecl)
    (more : List (Predicate TypeDecl)) :
    (relatedThat d relation selection).run (Step.listed .filterRelated first more) =
      some (related d relation ⟨selection.kind, selection.predicates ++ first :: more⟩) := by
  induction more generalizing selection first with
  | nil => rfl
  | cons second more ih =>
    have hstep : (relatedThat d relation selection).run
        (Step.listed .filterRelated first (second :: more)) =
          (relatedThat d relation (selection.narrow first)).run
            (Step.listed .filterRelated second more) := rfl
    rw [hstep, ih, Selection.narrow, List.append_assoc, List.singleton_append]

/-- The predicates on the objects of a rule narrow the draft down one by one. -/
theorem run_filter (d : Draft α) (first : Predicate α) (more : List (Predicate α)) :
    (that d).run (Step.listed .filter first more) =
      some (filtered { d with predicates := d.predicates ++ first :: more }) := by
  induction more generalizing d first with
  | nil => rfl
  | cons second more ih =>
    have hstep : (that d).run (Step.listed .filter first (second :: more)) =
        (that (d.that first)).run (Step.listed .filter second more) := rfl
    rw [hstep, ih, Draft.that, List.append_assoc, List.singleton_append]

/-- After a relation to the objects of a kind, the predicates say which of them are meant. -/
theorem run_relate (chained : Bool) (d : Draft α) (relation : Relation α TypeDecl)
    (κ : Kind TypeDecl) (first : Predicate TypeDecl) (more : List (Predicate TypeDecl)) :
    (should chained d).run (.relate relation κ :: Step.listed .filterRelated first more) =
      some (related d relation ⟨κ, first :: more⟩) := by
  -- the grammar tells a first assertion from a later one, though both may be relations
  cases chained <;> exact run_filterRelated d relation (.all κ) first more

theorem run_require (chained : Bool) (d : Draft α) (condition : Condition α) :
    (should chained d).run [.require condition] = some (asserted (d.require condition)) := by
  cases chained <;> rfl

end Stage

/-- The objects of a kind with some predicates, named by a sentence or beside a relation. -/
theorem Draft.objects_eq_selection {α : Type} [Element α] (κ : Kind α)
    (predicates : List (Predicate α)) (c : Codebase) :
    ({ start κ with predicates } : Draft α).provider.objects c =
      (Selection.mk κ predicates).provider.objects c := rfl

/-! ### Sentences -/

/-- **Related objects and provided objects.** Take a dependency on classes, plain or negated.

For every provider, the relation to its objects and the condition on its objects say the same about
every object of every codebase: they fail with the same error, or both pass it, or neither does.

Take any rule that has come to an assertion: its draft may have predicates, conditions and a rule
before it. And take one predicate on classes or more. The sentence that names the classes with these
predicates can be used as a provider. Both ways to go on, with the relation to the classes that have
the predicates, and with the condition on that provider, make a finished rule. On every codebase the
two rules fail with the same error, or they find the same objects in the same order, and both of
them pass or neither does. -/
theorem Stage.related_agrees_with_provided {α : Type} [Element α] (negated : Bool) :
    (∀ (provider : Provider TypeDecl) (object : α) (c : Codebase),
      ((Relation.dependsOnClasses negated).relatedTo provider).passes object c =
        ((ProviderCriterion.dependsOnAnyIn provider).condition negated).passes object c) ∧
    ∀ (chained : Bool) (d : Draft α) (first : Predicate TypeDecl)
      (more : List (Predicate TypeDecl)), ∃ provider relatedRule providedRule,
      ((given (Draft.start .classes)).run (.that :: Step.listed .filter first more)).bind
          provider? = some provider ∧
      ((should chained d).run (.relate (Relation.dependsOnClasses negated) .classes ::
          Step.listed .filterRelated first more)).bind rule? = some relatedRule ∧
      ((should chained d).run
          [.require ((ProviderCriterion.dependsOnAnyIn provider).condition negated)]).bind
          rule? = some providedRule ∧
      ∀ c : Codebase,
        (relatedRule.evaluate c).result.map Report.violatingObjects =
            (providedRule.evaluate c).result.map Report.violatingObjects ∧
          (relatedRule.evaluate c).result.map Report.passed =
            (providedRule.evaluate c).result.map Report.passed := by
  refine ⟨fun provider object c => ?_, fun chained d first more => ?_⟩
  · exact (Relation.interchangeable_dependsOnAnyIn negated rfl).passes_eq object
  have hclasses : (given (Draft.start .classes)).run (.that :: Step.listed .filter first more) =
      some (filtered { Draft.start .classes with predicates := first :: more }) :=
    run_filter (Draft.start .classes) first more
  rw [hclasses, run_relate]
  refine ⟨_, _, _, rfl, rfl, by rw [run_require]; rfl, fun c => ?_⟩
  -- the drafts are the same but for the condition, and the two conditions look at the same classes
  have hreports : Alike Report.SamePlaces _ _ :=
    d.alike_evaluateWith (Relation.interchangeable_dependsOnAnyIn negated
      (congrArg Eval.result (Draft.objects_eq_selection .classes (first :: more) c).symm))
  exact ⟨hreports.map_eq fun _ _ hplaces => hplaces.violatingObjects_eq,
    hreports.map_eq fun _ _ hplaces => hplaces.passed_eq⟩

/-- No class should depend on classes called Store. The classes are named in both ways. -/
theorem Stage.related_agrees_with_provided_shop :
    let stores : Predicate TypeDecl := (Criterion.name "Store").predicate false
    ∃ provider relatedRule providedRule,
      ((should false (Draft.start .classes)).run
          [.relate (Relation.dependsOnClasses true) .classes, .filterRelated stores]).bind rule? =
        some relatedRule ∧
      ((should false (Draft.start .classes)).run
          [.require ((ProviderCriterion.dependsOnAnyIn provider).condition true)]).bind rule? =
        some providedRule ∧
      (relatedRule.evaluate (.ofTypes Draft.shopTypes)).result.map Report.violatingObjects =
        .ok ["Shop.Web.Page"] ∧
      (providedRule.evaluate (.ofTypes Draft.shopTypes)).result.map Report.violatingObjects =
        .ok ["Shop.Web.Page"] := by
  intro stores
  obtain ⟨-, hsentences⟩ := @related_agrees_with_provided TypeDecl _ true
  obtain ⟨provider, relatedRule, providedRule, -, hrelated, hprovided, hagree⟩ :=
    hsentences false (Draft.start .classes) stores []
  obtain ⟨hobjects, -⟩ := hagree (.ofTypes Draft.shopTypes)
  have hfound : (relatedRule.evaluate (.ofTypes Draft.shopTypes)).result.map
      Report.violatingObjects = .ok ["Shop.Web.Page"] := by
    obtain rfl := Option.some.inj hrelated
    rfl
  exact ⟨provider, relatedRule, providedRule, hrelated, hprovided, hfound,
    hobjects.symm.trans hfound⟩

end DesignRules
