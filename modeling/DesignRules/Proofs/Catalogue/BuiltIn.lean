import DesignRules.Proofs.Catalogue.Answers
import DesignRules.Proofs.Catalogue.Named
import DesignRules.Proofs.Condition.Sharing
import DesignRules.Proofs.Rule.Steady

/-!
# What the catalogue makes

Predicates, conditions and relations can be made from arbitrary functions, and then nothing is known
about them. Those of the catalogue are made from questions, and where a question needs other types
it asks a provider: a list of names, a kind with some predicates, or the objects of a draft. The
predicates in there are of the catalogue again, so built-in providers are nested to any depth.

All of them are steady between codebases that have the same types. None of them looks at the list of
types as a list: names are looked up, and the types of a provider are asked only whether one of them
has a certain name.

## The one thing that can fail

A provider that is a draft has no objects if it continues another rule. Nothing else in the
catalogue fails. So the predicates `BuiltIn` carry along the drafts that are used as providers,
however deep, and the errors that may come up are those of the combined ones among them.

## Main definitions

* `SameNames` — two lists of types have the same full names
* `Question.provider?` — the provider that a question asks
* `Provider.BuiltIn`, `Predicate.BuiltIn` — what is made from questions and providers
* `Relation.BuiltIn`, `Condition.BuiltIn`, `Assertion.BuiltIn` — joins and bound relations included
* `RefusesCombined` — the error of a draft that is used as a provider and continues a rule

## Main results

* `ProviderCriterion.verdict_eq_of_sameNames`, `Relation.BuiltIn.holds_eq_of_sameNames` — the types
  of a provider, and related types, count by their names
* `Question.steady_predicate`, `Question.steady_condition` — questions about steady providers
* `Predicate.BuiltIn.steady`, `Provider.BuiltIn.steady`, `Condition.BuiltIn.steady` — what is built
  in is steady
-/

namespace DesignRules

variable {α : Type} {raised : RuleError → Prop} {c c' : Codebase}

/-! ### Types that count by their names -/

/-- Two lists of types have the same full names, in whatever order and however often. -/
def SameNames (types types' : List TypeDecl) : Prop :=
  ∀ name, name ∈ types.map TypeDecl.fullName ↔ name ∈ types'.map TypeDecl.fullName

namespace SameNames

variable {types types' : List TypeDecl}

theorem of_perm (hperm : types.Perm types') : SameNames types types' :=
  fun _ => (hperm.map TypeDecl.fullName).mem_iff

theorem any_eq (h : SameNames types types') (holds : String → Bool) :
    (types.any fun t => holds t.fullName) = types'.any fun t => holds t.fullName := by
  have hnames : (types.map TypeDecl.fullName).any holds =
      (types'.map TypeDecl.fullName).any holds := by
    rw [Bool.eq_iff_iff, List.any_eq_true, List.any_eq_true]
    exact exists_congr fun name => and_congr_left' (h name)
  rwa [List.any_map, List.any_map] at hnames

theorem all_eq (h : SameNames types types') (holds : String → Bool) :
    (types.all fun t => holds t.fullName) = types'.all fun t => holds t.fullName := by
  rw [List.all_eq_not_any_not, List.all_eq_not_any_not, h.any_eq fun name => !holds name]

end SameNames

/-- Which provider names the types is of no account, nor is anything about them but their names. -/
theorem UseQuestion.verdict_provided_eq_of_sameNames [Element α] (q : UseQuestion)
    (provider provider' : Provider TypeDecl) (negated : Bool) {types types' : List TypeDecl}
    (h : SameNames types types') (object : α) :
    (q.provided provider).verdict negated types object =
      (q.provided provider').verdict negated types' object := by
  rw [q.verdict_provided, q.verdict_provided]
  exact q.verdict_named_congr negated fun target _ => h target

namespace ProviderCriterion

variable [Element α] {types types' : List TypeDecl}

theorem verdict_eq_of_sameNames (k : ProviderCriterion) (negated : Bool)
    (h : SameNames types types') :
    (k.verdict negated types : α → Verdict) = k.verdict negated types' := by
  funext object
  cases k with
  | dependsOnAnyIn provider =>
    exact UseQuestion.dependsOnAny.verdict_provided_eq_of_sameNames provider provider negated h
      object
  | dependsOnlyOnTypesIn provider =>
    exact UseQuestion.dependsOnlyOn.verdict_provided_eq_of_sameNames provider provider negated h
      object

/-- The answer is the truth value of the verdict. -/
theorem holds_eq_of_sameNames (k : ProviderCriterion) (h : SameNames types types') :
    (k.holds types : α → Bool) = k.holds types' := by
  funext object
  have hpassed : (k.verdict false types object).passed = (k.verdict false types' object).passed :=
    congrArg Verdict.passed (congrFun (k.verdict_eq_of_sameNames false h) object)
  rwa [passed_verdict, passed_verdict, Bool.bne_false, Bool.bne_false] at hpassed

end ProviderCriterion

/-! ### Questions about steady providers -/

theorem Assignability.holds_eq_of_reordered (k : Assignability) (hcodebase : c.Reordered c')
    (t : TypeDecl) : k.holds t c = k.holds t c' := by
  rw [holds, holds, TypeDecl.isAssignable, TypeDecl.isAssignable, hcodebase.supertypesOf_eq]

namespace Question

/-- The provider that a question asks, if it asks one. -/
def provider? : {α : Type} → Question α → Option (Provider TypeDecl)
  | _, provided k => some k.provider
  | _, _ => none

variable [Element α]

/-- **The answers are the same** if the provider is steady. -/
theorem matched_answer (q : Question α)
    (h : ∀ provider ∈ q.provider?, provider.Steady raised c c') (hcodebase : c.Reordered c') :
    Matched raised Eq (q.answer c) (q.answer c') := by
  cases q with
  | element k => exact .ok rfl
  | type k => exact .ok rfl
  | assignable k => exact .ok (funext (k.holds_eq_of_reordered hcodebase))
  | provided k =>
    show Matched raised Eq ((k.provider.objects c).result.map _)
      ((k.provider.objects c').result.map _)
    obtain ⟨e, he, hc, hc'⟩ | ⟨types, types', hperm, hc, hc'⟩ :=
      Matched.error_or_ok (h k.provider rfl)
    · rw [hc, hc']
      exact .error he
    · rw [hc, hc']
      exact .ok (k.holds_eq_of_sameNames (.of_perm hperm))

theorem steady_predicate (q : Question α) (negated : Bool)
    (h : ∀ provider ∈ q.provider?, provider.Steady raised c c') (hcodebase : c.Reordered c') :
    (q.predicate negated).Steady raised c c' := by
  obtain ⟨e, he, hc, hc'⟩ | ⟨holds, _, rfl, hc, hc'⟩ := (q.matched_answer h hcodebase).error_or_ok
  · have hfails : ∀ {d : Codebase}, q.answer d = .error e → ∀ object,
        ((q.predicate negated).test object d).result = .error e := by
      intro d hd object
      rw [result_test, hd]
      rfl
    exact .fails he (hfails hc) (hfails hc')
  · have hanswers : ∀ {d : Codebase}, q.answer d = .ok holds → ∀ object,
        ((q.predicate negated).test object d).result = .ok (holds object != negated) := by
      intro d hd object
      rw [result_test, hd]
      rfl
    exact .answers (hanswers hc) (hanswers hc')

theorem steady_condition (q : Question α) (negated : Bool)
    (h : ∀ provider ∈ q.provider?, provider.Steady raised c c') (hcodebase : c.Reordered c') :
    (q.condition negated).Steady raised c c' := by
  cases q with
  | element k => exact (k.condition negated).steady_lift
  | type k => exact (k.condition negated).steady_lift
  | assignable k =>
    refine Matched.ok ?_
    simp only [fun t => k.holds_eq_of_reordered hcodebase t]
    exact .of_pure _
  | provided k =>
    refine Matched.bind (h k.provider rfl) fun types types' hperm => .ok ?_
    rw [k.verdict_eq_of_sameNames negated (.of_perm hperm)]
    exact .of_pure _

end Question

/-! ### Providers and predicates -/

mutual

/-- The predicate asks a question of the catalogue, plain or negated, and if the question needs a
provider, that one is built in. -/
inductive Predicate.BuiltIn (used : Draft TypeDecl → Prop) :
    {α : Type} → [Element α] → Predicate α → Prop
  | question {α : Type} [Element α] (q : Question α) (negated : Bool)
      (h : ∀ provider ∈ q.provider?, Provider.BuiltIn used provider) :
      Predicate.BuiltIn used (q.predicate negated)

/-- The provider is a list of names, or a selection or a draft whose predicates are built in. Drafts
have to be among those that are `used`. A stage of a sentence that names objects is such a draft. -/
inductive Provider.BuiltIn (used : Draft TypeDecl → Prop) : Provider TypeDecl → Prop
  | named (n : NamedTypes) : Provider.BuiltIn used n.provider
  | selection (s : Selection TypeDecl) (h : ∀ p ∈ s.predicates, Predicate.BuiltIn used p) :
      Provider.BuiltIn used s.provider
  | draft (d : Draft TypeDecl) (hused : used d)
      (h : ∀ p ∈ d.predicates, Predicate.BuiltIn used p) : Provider.BuiltIn used d.provider

end

/-- The error is that of a draft whose objects are asked for although it continues another rule. -/
def RefusesCombined (used : Draft TypeDecl → Prop) (e : RuleError) : Prop :=
  ∃ d, used d ∧ d.isCombined = true ∧ e = .objectsOfCombined d.description

variable {used : Draft TypeDecl → Prop}

theorem NamedTypes.steady_provider (n : NamedTypes) (hcodebase : c.Reordered c') :
    n.provider.Steady raised c c' := by
  show Matched raised List.Perm (resolve c n.names).result (resolve c' n.names).result
  rw [result_resolve, result_resolve, funext hcodebase.typeOf?_eq]
  exact .ok (List.Perm.refl _)

/-- The induction goes through providers and the predicates in them alike. -/
theorem Provider.BuiltIn.steady {provider : Provider TypeDecl} (h : provider.BuiltIn used)
    (hraised : ∀ e, RefusesCombined used e → raised e) (hcodebase : c.Reordered c') :
    provider.Steady raised c c' := by
  refine @Provider.BuiltIn.rec used (fun p _ => p.Steady raised c c')
    (fun provider _ => provider.Steady raised c c') ?question ?named ?selection ?draft provider h
  case question =>
    intro β _ q negated _ ih
    exact q.steady_predicate negated ih hcodebase
  case named =>
    intro n
    exact n.steady_provider hcodebase
  case selection =>
    intro s _ ih
    exact s.steady_provider ih hcodebase
  case draft =>
    intro d hused _ ih
    exact d.steady_provider ih (fun hcombined => hraised _ ⟨d, hused, hcombined, rfl⟩) hcodebase

theorem Predicate.BuiltIn.steady [Element α] {p : Predicate α} (h : p.BuiltIn used)
    (hraised : ∀ e, RefusesCombined used e → raised e) (hcodebase : c.Reordered c') :
    p.Steady raised c c' := by
  cases h with
  | question q negated hprovider =>
    exact q.steady_predicate negated
      (fun provider hmem => (hprovider provider hmem).steady hraised hcodebase) hcodebase

/-! ### Relations and conditions -/

/-- The relation is one of the catalogue, or a join of such relations. -/
inductive Relation.BuiltIn [Element α] : Relation α TypeDecl → Prop
  | dependsOnClasses (negated : Bool) : BuiltIn (.dependsOnClasses negated)
  | hasAttributes (negated : Bool) : BuiltIn (.hasAttributes negated)
  | join (k : Connector) {a b : Relation α TypeDecl} (ha : BuiltIn a) (hb : BuiltIn b) :
      BuiltIn (.join k a b)

/-- Relations of the catalogue ask for some of the related objects, or for all of them, and of each
of them for its name only. -/
theorem Relation.BuiltIn.holds_eq_of_sameNames [Element α] {r : Relation α TypeDecl}
    (h : r.BuiltIn) (object : α) {related related' : List TypeDecl}
    (hnames : SameNames related related') : r.holds object related = r.holds object related' := by
  induction h with
  | dependsOnClasses negated =>
    cases negated with
    | false => exact hnames.any_eq (Element.dependsOnType object)
    | true => exact hnames.all_eq fun name => !Element.dependsOnType object name
  | hasAttributes negated =>
    cases negated with
    | false => exact hnames.any_eq (Element.hasAttribute object)
    | true => exact hnames.all_eq fun name => !Element.hasAttribute object name
  | join k _ _ ihfirst ihsecond => rw [holds_join, holds_join, ihfirst, ihsecond]

theorem Relation.BuiltIn.steady_relatedTo [Element α] {r : Relation α TypeDecl} (h : r.BuiltIn)
    {provider : Provider TypeDecl} (hprovider : provider.Steady raised c c') :
    (r.relatedTo provider).Steady raised c c' :=
  Relation.steady_relatedTo
    (fun object _ _ hperm => h.holds_eq_of_sameNames object (.of_perm hperm)) hprovider

/-- The condition is one of the catalogue, one on the object alone, a bound relation, or a join of
such conditions. -/
inductive Condition.BuiltIn [Element α] (used : Draft TypeDecl → Prop) : Condition α → Prop
  | question (q : Question α) (negated : Bool)
      (h : ∀ provider ∈ q.provider?, Provider.BuiltIn used provider) :
      BuiltIn used (q.condition negated)
  | lift (p : ObjectCondition α) : BuiltIn used p.lift
  | relatedTo {r : Relation α TypeDecl} (hr : r.BuiltIn) {provider : Provider TypeDecl}
      (h : provider.BuiltIn used) : BuiltIn used (r.relatedTo provider)
  | join (k : Connector) {a b : Condition α} (ha : BuiltIn used a) (hb : BuiltIn used b) :
      BuiltIn used (.join k a b)

theorem Condition.BuiltIn.steady [Element α] {p : Condition α} (h : p.BuiltIn used)
    (hraised : ∀ e, RefusesCombined used e → raised e) (hcodebase : c.Reordered c') :
    p.Steady raised c c' := by
  induction h with
  | question q negated hprovider =>
    exact q.steady_condition negated
      (fun provider hmem => (hprovider provider hmem).steady hraised hcodebase) hcodebase
  | lift p => exact p.steady_lift
  | relatedTo hr hprovider =>
    exact hr.steady_relatedTo (hprovider.steady hraised hcodebase)
  | join k _ _ ihfirst ihsecond => exact ihfirst.join k ihsecond

/-- What is asserted about each object is built in. Any condition on their number counts as such. -/
def Assertion.BuiltIn [Element α] (used : Draft TypeDecl → Prop) : Assertion α → Prop
  | eachObject condition => condition.BuiltIn used
  | existence _ => True

theorem Assertion.BuiltIn.steady [Element α] {a : Assertion α} (h : a.BuiltIn used)
    (hraised : ∀ e, RefusesCombined used e → raised e) (hcodebase : c.Reordered c') :
    a.Steady raised c c' := by
  cases a with
  | eachObject condition => exact Condition.BuiltIn.steady h hraised hcodebase
  | existence condition => trivial

end DesignRules
