import DesignRules.Proofs.Catalogue.Answers
import DesignRules.Proofs.Condition.Joined

/-!
# Types by name, and types of a provider

Whether an object uses certain types can be asked in two ways. The types are given by their names,
and then no codebase is needed; or they are given by a provider, which looks them up in the codebase
under check. A list of names is a provider as well, so one list can be used in both ways. The
readings are the same, and so are the answers, apart from the names that the codebase does not have.

## Names that are not there

A provider leaves out a name that it cannot find, while a criterion on names keeps it. So the two
are compared over the names that are there (`NamedTypes.present`), in the order of the list and with
its repetitions. Both kinds of names can make a difference only through the targets of an object: a
name nobody uses counts neither as used nor as allowed. This is why the two agree on the list itself
where the missing names are no targets.

## Verdicts are enough

The test of a predicate is the truth value of the verdict, for criteria on names and on a provider
alike. So the predicates agree because the conditions do.

## Main definitions

* `UseQuestion` — the questions that can be asked in both ways
* `NamedTypes.present` — the names of a list that a codebase has

## Main results

* `NamedTypes.map_fullName_resolved` — what is found has the names that are present
* `ProviderCriterion.result_check`, `ProviderCriterion.result_test` — what a question about the
  types of a provider comes to
* `UseQuestion.verdict_provided` — the types of a provider count by their names alone
* `UseQuestion.verdict_named_congr` — names count by the targets among them alone
* `UseQuestion.provided_agrees_with_named` — one list of names, used in both ways
-/

namespace DesignRules

/-! ### Resolving names -/

theorem Codebase.mem_map_fullName_iff {c : Codebase} {name : String} :
    name ∈ c.types.map TypeDecl.fullName ↔ ∃ t, c.typeOf? name = some t := by
  simp only [List.mem_map, typeOf?_eq_some_iff]

namespace NamedTypes

/-- The names that the codebase has, in the order of the list and with its repetitions. -/
def present (n : NamedTypes) (c : Codebase) : List String :=
  n.names.filter fun name => name ∈ c.types.map TypeDecl.fullName

theorem result_resolve (c : Codebase) (names : List String) :
    (resolve c names).result = .ok (names.filterMap c.typeOf?) := by
  induction names with
  | nil => rfl
  | cons name rest ih =>
    rw [resolve]
    cases h : c.typeOf? name with
    | some t =>
      rw [List.filterMap_cons_some h]
      exact Eval.result_bind_ok ih _
    | none =>
      rw [List.filterMap_cons_none h, ← ih]
      exact Eval.result_bind_ok (Eval.result_emit _) _

/-- **What is found has the names that are present.** -/
theorem map_fullName_resolved (n : NamedTypes) (c : Codebase) :
    (n.names.filterMap c.typeOf?).map TypeDecl.fullName = n.present c := by
  rw [present]
  induction n.names with
  | nil => rfl
  | cons name rest ih =>
    cases h : c.typeOf? name with
    | some t =>
      have hmem : name ∈ c.types.map TypeDecl.fullName := Codebase.mem_map_fullName_iff.2 ⟨t, h⟩
      rw [List.filterMap_cons_some h, List.map_cons, Codebase.fullName_of_typeOf? h, ih,
        List.filter_cons_of_pos (by simpa using hmem)]
    | none =>
      have hmem : name ∉ c.types.map TypeDecl.fullName := by
        rw [Codebase.mem_map_fullName_iff, h]
        rintro ⟨t, ⟨⟩⟩
      rw [List.filterMap_cons_none h, ih, List.filter_cons_of_neg (by simpa using hmem)]

end NamedTypes

/-! ### Asking a provider -/

namespace ProviderCriterion

variable {α : Type} [Element α]

theorem result_check (k : ProviderCriterion) (negated : Bool) (object : α) (c : Codebase) :
    ((k.condition negated).check object c).result =
      (k.provider.objects c).result.map fun types => k.verdict negated types object := by
  have hbind : (k.condition negated : Condition α).bindTo c = k.provider.objects c >>= fun types =>
      pure fun object => pure (k.verdict negated types object) := rfl
  exact Condition.result_check_of_bindTo hbind object

/-- A test and a verdict come from one answer. -/
theorem result_test (k : ProviderCriterion) (negated : Bool) (object : α) (c : Codebase) :
    ((k.predicate negated).test object c).result =
      ((k.condition negated).check object c).result.map Verdict.passed :=
  ((Question.provided k).result_test negated object c).trans
    ((Question.provided k).passes_condition negated object c).symm

end ProviderCriterion

/-! ### The two ways -/

/-- Only what is picked of the targets counts. -/
theorem Offence.targetsWhere_congr {α : Type} [Element α] {object : α} {pick pick' : String → Bool}
    (h : ∀ target ∈ Element.targets object, pick target = pick' target) :
    targetsWhere object pick = targetsWhere object pick' := by
  rw [targetsWhere_eq, targetsWhere_eq, List.filter_congr h]

/-- A question about the types that an object uses, which can be asked of types given by name and of
the types of a provider. -/
inductive UseQuestion where
  /-- Does it use one of the types? -/
  | dependsOnAny
  /-- Are all types it uses among them? -/
  | dependsOnlyOn
  deriving DecidableEq, Repr

namespace UseQuestion

/-- The question about types given by name. -/
def named {α : Type} : UseQuestion → List String → Criterion α
  | dependsOnAny, names => .dependsOnAny names
  | dependsOnlyOn, names => .dependsOnlyOn names

/-- The question about the types of a provider. -/
def provided : UseQuestion → Provider TypeDecl → ProviderCriterion
  | dependsOnAny, provider => .dependsOnAnyIn provider
  | dependsOnlyOn, provider => .dependsOnlyOnTypesIn provider

@[simp] theorem provider_provided (q : UseQuestion) (provider : Provider TypeDecl) :
    (q.provided provider).provider = provider := by
  cases q <;> rfl

variable {α : Type} [Element α]

theorem hasName_eq_contains (types : List TypeDecl) :
    ProviderCriterion.hasName types = (types.map TypeDecl.fullName).contains := by
  funext target
  rw [ProviderCriterion.hasName, List.contains_eq_any_beq, List.any_map]
  congr 1
  funext t
  exact Bool.beq_comm

/-- **The types of a provider count by their names alone.** -/
theorem verdict_provided (q : UseQuestion) (provider : Provider TypeDecl) (negated : Bool)
    (types : List TypeDecl) (object : α) :
    (q.provided provider).verdict negated types object =
      (q.named (types.map TypeDecl.fullName)).verdict negated object := by
  cases q with
  | dependsOnAny =>
    cases negated with
    | false =>
      show Verdict.ofBool _ =
        Verdict.ofBool ((types.map TypeDecl.fullName).any (Element.dependsOnType object) != false)
      rw [Bool.bne_false, List.any_map]
      rfl
    | true =>
      show Offence.verdict (Offence.targetsWhere object (ProviderCriterion.hasName types)) = _
      rw [hasName_eq_contains]
      rfl
  | dependsOnlyOn =>
    cases negated with
    | false =>
      show Offence.verdict (Offence.targetsWhere object
        fun target => !ProviderCriterion.hasName types target) = _
      rw [hasName_eq_contains]
      rfl
    | true =>
      -- The one form looks through all targets, the other one at the list of the offending ones.
      show Verdict.ofBool ((Element.targets object).any
          fun target => !ProviderCriterion.hasName types target) =
        Verdict.ofBool (!(Offence.targetsWhere object
          fun target => !(types.map TypeDecl.fullName).contains target).isEmpty)
      rw [Offence.isEmpty_targetsWhere, Bool.not_not, hasName_eq_contains]

/-- Whether an object uses one of the names is whether there are targets among the names, as if
these were to be listed. -/
theorem holds_dependsOnAny (names : List String) (object : α) :
    (Criterion.dependsOnAny names).holds object =
      !(Offence.targetsWhere object names.contains).isEmpty := by
  show (names.any fun name => (Element.targets object).contains name) = _
  rw [any_contains_comm names fun name => name, Offence.isEmpty_targetsWhere, Bool.not_not]
  simp only [List.any_beq']

/-- **Names count by the targets among them alone.** -/
theorem verdict_named_congr (q : UseQuestion) (negated : Bool) {names names' : List String}
    {object : α} (h : ∀ target ∈ Element.targets object, target ∈ names ↔ target ∈ names') :
    (q.named names).verdict negated object = (q.named names').verdict negated object := by
  have hcontains : ∀ target ∈ Element.targets object,
      names.contains target = names'.contains target := by
    intro target htarget
    rw [Bool.eq_iff_iff, List.contains_iff_mem, List.contains_iff_mem]
    exact h target htarget
  -- every verdict is about the targets among the names, or about the other ones
  have hamong : Offence.targetsWhere object names.contains =
      Offence.targetsWhere object names'.contains := Offence.targetsWhere_congr hcontains
  have hothers : Offence.targetsWhere object (fun target => !names.contains target) =
      Offence.targetsWhere object fun target => !names'.contains target :=
    Offence.targetsWhere_congr fun target htarget => congrArg Bool.not (hcontains target htarget)
  cases q with
  | dependsOnAny =>
    cases negated with
    | false =>
      show Verdict.ofBool ((Criterion.dependsOnAny names).holds object != false) =
        Verdict.ofBool ((Criterion.dependsOnAny names').holds object != false)
      rw [holds_dependsOnAny, holds_dependsOnAny, hamong]
    | true => exact congrArg Offence.verdict hamong
  | dependsOnlyOn =>
    cases negated with
    | false => exact congrArg Offence.verdict hothers
    | true => exact congrArg (fun offenders => Verdict.ofBool (!offenders.isEmpty)) hothers

/-- A target that is a name of the list is present, if the codebase has the names that are
targets. -/
theorem verdict_named_present (q : UseQuestion) (negated : Bool) {n : NamedTypes} {c : Codebase}
    {object : α} (h : ∀ target ∈ Element.targets object,
      target ∈ n.names → target ∈ c.types.map TypeDecl.fullName) :
    (q.named (n.present c)).verdict negated object = (q.named n.names).verdict negated object := by
  refine verdict_named_congr q negated fun target htarget => ?_
  rw [NamedTypes.present, List.mem_filter, decide_eq_true_iff]
  exact ⟨And.left, fun hname => ⟨hname, h target htarget hname⟩⟩

/-! ### Readings -/

theorem phrase_provided (q : UseQuestion) {n : NamedTypes} (h : n.names ≠ []) :
    (q.provided n.provider).phrase = (q.named n.names : Criterion α).phrase := by
  obtain ⟨_ | ⟨first, rest⟩⟩ := n
  · exact absurd rfl h
  · cases q <;> rfl

/-- The condition that allows certain types only does not read like its phrase. -/
theorem wording_provided (q : UseQuestion) (negated : Bool) {n : NamedTypes} (h : n.names ≠ []) :
    (q.provided n.provider).wording negated = (q.named n.names : Criterion α).wording negated := by
  obtain ⟨_ | ⟨first, rest⟩⟩ := n
  · exact absurd rfl h
  · cases q <;> cases negated <;> rfl

/-! ### One list, used in both ways -/

theorem result_check_provided (q : UseQuestion) (negated : Bool) (n : NamedTypes) (c : Codebase)
    (object : α) :
    (((q.provided n.provider).condition negated).check object c).result =
      .ok ((q.named (n.present c)).verdict negated object) := by
  have hobjects : (n.provider.objects c).result = .ok (n.names.filterMap c.typeOf?) :=
    NamedTypes.result_resolve c n.names
  rw [ProviderCriterion.result_check, provider_provided, hobjects, Except.map, verdict_provided,
    n.map_fullName_resolved]

theorem result_test_provided (q : UseQuestion) (negated : Bool) (n : NamedTypes) (c : Codebase)
    (object : α) :
    (((q.provided n.provider).predicate negated).test object c).result =
      .ok ((q.named (n.present c)).verdict negated object).passed := by
  rw [ProviderCriterion.result_test, q.result_check_provided]
  rfl

theorem result_test_named (q : UseQuestion) (negated : Bool) (names : List String) (c : Codebase)
    (object : α) :
    (((q.named names).predicate negated).test object c).result =
      .ok ((q.named names).verdict negated object).passed := by
  rw [Criterion.passed_verdict]
  rfl

/-- **One list of names, used in both ways.** Given the names as a provider, a condition comes to
the verdict of its counterpart on the names that are present, with the same detail; and a predicate
tests as its counterpart on these names does. If all targets of the object that are names of the
list are present, the counterparts on the list itself can stand for those on the names present. Both
ways read the same, unless the list is empty. -/
theorem provided_agrees_with_named (q : UseQuestion) (negated : Bool) (n : NamedTypes)
    (c : Codebase) (object : α) :
    ((((q.provided n.provider).condition negated).check object c).result =
        .ok (((q.named (n.present c)).condition negated).check object) ∧
      (((q.provided n.provider).predicate negated).test object c).result =
        (((q.named (n.present c)).predicate negated).test object c).result) ∧
    ((∀ target ∈ Element.targets object,
        target ∈ n.names → target ∈ c.types.map TypeDecl.fullName) →
      (((q.provided n.provider).condition negated).check object c).result =
          .ok (((q.named n.names).condition negated).check object) ∧
        (((q.provided n.provider).predicate negated).test object c).result =
          (((q.named n.names).predicate negated).test object c).result) ∧
    (n.names ≠ [] →
      ((q.provided n.provider).condition negated : Condition α).wording =
          ((q.named n.names).condition negated : ObjectCondition α).wording ∧
        ((q.provided n.provider).predicate negated : Predicate α).description =
          ((q.named n.names).predicate negated : Predicate α).description ∧
        ((q.provided n.provider).predicate negated : Predicate α).failDescription =
          ((q.named n.names).predicate negated : Predicate α).failDescription) := by
  have hcheck := q.result_check_provided negated n c object
  have htest := q.result_test_provided negated n c object
  refine ⟨⟨hcheck, ?_⟩, fun hpresent => ?_, fun hne => ⟨q.wording_provided negated hne, ?_⟩⟩
  · rw [htest, result_test_named]
  · rw [q.verdict_named_present negated hpresent] at hcheck htest
    rw [htest, result_test_named]
    exact ⟨hcheck, rfl⟩
  · have hphrase : (q.provided n.provider).phrase = (q.named n.names : Criterion α).phrase :=
      q.phrase_provided hne
    exact ⟨congrArg (fun phrase => (phrase.predicateTexts negated).1) hphrase,
      congrArg (fun phrase => (phrase.predicateTexts negated).2) hphrase⟩

/-- A page that uses a store and a style. -/
def page : TypeDecl :=
  ((TypeDecl.ofName .classType "Shop.Page").dependingOn .fieldType "Shop.Store").dependingOn
    .methodCall "Shop.Style"

/-- The page and the store, without the style. -/
def shop : Codebase := .ofTypes [page, .ofName .classType "Shop.Store"]

/-- The store, named twice, and a type that is not there. -/
def stores : NamedTypes := ⟨["Shop.Store", "Shop.Attic", "Shop.Store"]⟩

theorem provided_agrees_with_named_shop :
    (((dependsOnlyOn.provided stores.provider).condition false).check page shop).result =
        .ok (.fail (some "\"Shop.Style\"")) ∧
      ((dependsOnlyOn.provided stores.provider).condition false : Condition TypeDecl).wording =
        .plain "only depend on \"Shop.Store\" or \"Shop.Attic\" or \"Shop.Store\""
          ("does depend on types other than " ++
            "\"Shop.Store\" and \"Shop.Attic\" and \"Shop.Store\"") := by
  obtain ⟨-, hpresent, hreads⟩ := provided_agrees_with_named dependsOnlyOn false stores shop page
  have htargets : ∀ target ∈ Element.targets page,
      target ∈ stores.names → target ∈ shop.types.map TypeDecl.fullName := by decide
  exact ⟨(hpresent htargets).1.trans (congrArg Except.ok (by decide)),
    (hreads (by decide)).1.trans (by decide)⟩

/-- A target that is missing makes a difference: by name the style is allowed, but there is no such
type to provide. -/
example :
    ((dependsOnlyOn.named ["Shop.Store", "Shop.Style"]).condition false).check page = .pass ∧
      (((dependsOnlyOn.provided (NamedTypes.mk ["Shop.Store", "Shop.Style"]).provider).condition
        false).check page shop).result = .ok (.fail (some "\"Shop.Style\"")) := ⟨rfl, rfl⟩

end UseQuestion

end DesignRules
