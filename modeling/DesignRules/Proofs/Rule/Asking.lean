import DesignRules.Proofs.Catalogue.BuiltIn
import DesignRules.Proofs.Condition.Lifting

/-!
# How often providers are asked

Asking a provider can be expensive, and it leaves its traces in the log. A rule judges many objects,
and its condition may be a large tree, but each provider in the tree is asked once for all of them.
It happens while the condition is bound; from then on there is nothing left to ask, nothing to
report and nothing that can fail.

## What the log shows

A provider is a function of the codebase, and how often a function is called cannot be seen in its
result. It can be seen in the log, since every call brings up the events of the provider again. So
the statements here are about whole evaluations, log included. They hold for arbitrary providers, in
particular for one whose only event says that it was asked.

Which provider is asked does not depend on what the operands of a join will say later: all of them
are asked, from left to right, before the first object is judged. Only the error of a provider ends
the asking early. Without an object to judge the condition is not bound, and then no provider is
asked and none can fail.

## Main definitions

* `Provider.Any` — a provider of objects of any sort
* `Condition.Asks` — a tree of built-in conditions, and its providers from left to right
* `Provider.askAll` — asking some providers one after another
* `Condition.BindsBy` — binding asks, and no more

## Main results

* `Condition.BindsBy.join`, `Condition.Asks.bindsBy` — binding a tree asks its providers, and what
  is bound asks no one
* `Condition.BindsBy.evaluate_eq` — what an evaluation adds to the log
* `Condition.providers_asked_once` — the log of an evaluation
-/

namespace DesignRules

variable {α β : Type}

/-! ### Trees and their providers -/

/-- A provider of objects of any sort. -/
abbrev Provider.Any : Type 1 := (β : Type) × Provider β

/-- The condition is a tree with these providers from left to right. Its leaves are conditions on
the object alone, questions of the catalogue, and relations to the objects of a provider. -/
inductive Condition.Asks [Element α] : Condition α → List Provider.Any → Prop
  | lift (p : ObjectCondition α) : Asks p.lift []
  | question (q : Question α) (negated : Bool) :
      Asks (q.condition negated) (q.provider?.toList.map fun provider => ⟨TypeDecl, provider⟩)
  | relatedTo {β : Type} (r : Relation α β) (provider : Provider β) :
      Asks (r.relatedTo provider) [⟨β, provider⟩]
  | join (k : Connector) {a b : Condition α} {first second : List Provider.Any}
      (ha : Asks a first) (hb : Asks b second) : Asks (.join k a b) (first ++ second)

/-! ### Asking one after another -/

namespace Provider

variable {c : Codebase}

/-- Asks some providers one after another, whatever their objects are. -/
def askAll (c : Codebase) : List Any → Eval Unit
  | [] => pure ()
  | provider :: rest => do
    let _ ← provider.2.objects c
    askAll c rest

theorem askAll_append (providers others : List Any) :
    askAll c (providers ++ others) = askAll c providers >>= fun _ => askAll c others := by
  induction providers with
  | nil => rfl
  | cons provider rest ih => simp only [List.cons_append, askAll, ih, bind_assoc]

/-- Providers that have objects bring up their events, each once and in order. -/
theorem askAll_of_ok {providers : List Any}
    (h : ∀ provider ∈ providers, ∃ objects, (provider.2.objects c).result = .ok objects) :
    askAll c providers =
      ⟨.ok (), providers.flatMap fun provider => (provider.2.objects c).events⟩ := by
  induction providers with
  | nil => rfl
  | cons provider rest ih =>
    obtain ⟨objects, hobjects⟩ := h provider List.mem_cons_self
    have hrest := ih fun other hother => h other (List.mem_cons_of_mem _ hother)
    rw [askAll, Eval.bind_of_ok hobjects, hrest]
    rfl

/-- The first provider that fails is the last one asked. -/
theorem askAll_of_error {before after : List Any} {provider : Any} {e : RuleError}
    (hbefore : ∀ earlier ∈ before, ∃ objects, (earlier.2.objects c).result = .ok objects)
    (h : (provider.2.objects c).result = .error e) :
    askAll c (before ++ provider :: after) =
      ⟨.error e, (before ++ [provider]).flatMap fun asked => (asked.2.objects c).events⟩ := by
  rw [askAll_append, askAll_of_ok hbefore, askAll, Eval.bind_of_error h, Eval.bind_of_ok rfl,
    List.flatMap_append, List.flatMap_singleton]

end Provider

/-! ### Binding and judging -/

namespace Condition

variable {c : Codebase}

/-- Binding the condition fails where the asking does, and comes with the same events. What is bound
gives a verdict on every object, without further events. -/
def BindsBy (p : Condition α) (c : Codebase) (asking : Eval Unit) : Prop :=
  (∃ e, asking.result = .error e ∧ p.bindTo c = ⟨.error e, asking.events⟩) ∨
    ∃ verdict : α → Verdict, asking.result = .ok () ∧
      p.bindTo c = ⟨.ok fun object => pure (verdict object), asking.events⟩

/-- A condition that looks its objects up, and judges by them from then on, asks one provider. -/
theorem bindsBy_of_lookup {p : Condition α} {provider : Provider β} {verdict : List β → α → Verdict}
    (h : p.bindTo c = provider.objects c >>= fun found =>
      pure fun object => pure (verdict found object)) :
    p.BindsBy c (Provider.askAll c [⟨β, provider⟩]) := by
  have hasking : Provider.askAll c [⟨β, provider⟩] = provider.objects c >>= fun _ => pure () := rfl
  cases hfound : (provider.objects c).result with
  | error e =>
    rw [Eval.bind_of_error hfound] at h hasking
    rw [hasking]
    exact Or.inl ⟨e, rfl, h⟩
  | ok found =>
    rw [Eval.bind_of_ok hfound] at h hasking
    rw [hasking]
    exact Or.inr ⟨verdict found, rfl, h⟩

/-- A join asks for its operands one after the other. Both are bound before there is a verdict. -/
theorem BindsBy.join (k : Connector) {a b : Condition α} {asking next : Eval Unit}
    (ha : a.BindsBy c asking) (hb : b.BindsBy c next) :
    (Condition.join k a b).BindsBy c (asking >>= fun _ => next) := by
  have hjoin : (Condition.join k a b).bindTo c = a.bindTo c >>= fun first =>
    b.bindTo c >>= fun second => pure (joinJudgements k first second) := rfl
  rw [BindsBy, hjoin]
  rcases ha with ⟨e, hasked, hbind⟩ | ⟨verdict, hasked, hbind⟩
  · rw [hbind, Eval.bind_of_error hasked]
    exact Or.inl ⟨e, rfl, rfl⟩
  · rw [hbind, Eval.bind_of_ok hasked, Eval.bind_of_ok rfl]
    rcases hb with ⟨e, hasked, hbind⟩ | ⟨other, hasked, hbind⟩
    · rw [hbind]
      exact Or.inl ⟨e, hasked, rfl⟩
    · rw [hbind, Eval.bind_of_ok rfl]
      refine Or.inr ⟨fun object => (verdict object).join k (other object), hasked, ?_⟩
      rw [← funext (joinJudgements_pure k verdict other), Eval.result_pure, Eval.events_pure,
        List.append_nil]

/-- **Binding a tree asks its providers from left to right.** The verdicts of the operands play no
part in it. -/
theorem Asks.bindsBy [Element α] {p : Condition α} {providers : List Provider.Any}
    (h : p.Asks providers) (c : Codebase) : p.BindsBy c (Provider.askAll c providers) := by
  induction h with
  | lift p => exact Or.inr ⟨p.check, rfl, rfl⟩
  | question q negated =>
    cases q with
    | element k => exact Or.inr ⟨(k.condition negated).check, rfl, rfl⟩
    | type k => exact Or.inr ⟨(k.condition negated).check, rfl, rfl⟩
    | assignable k => exact Or.inr ⟨fun t => .ofBool (k.holds t c != negated), rfl, rfl⟩
    | provided k => exact bindsBy_of_lookup rfl
  | relatedTo r provider => exact bindsBy_of_lookup rfl
  | join k _ _ ihfirst ihsecond =>
    rw [Provider.askAll_append]
    exact ihfirst.join k ihsecond

/-- Judgements without events leave none behind, however many objects they are about. -/
theorem exists_judgeEach_pure [Element α] (rule failDescription : String) (verdict : α → Verdict)
    (objects : List α) :
    ∃ violations, Assertion.judgeEach rule failDescription (fun object => pure (verdict object))
      objects = pure violations := by
  induction objects with
  | nil => exact ⟨[], rfl⟩
  | cons object rest ih =>
    obtain ⟨others, hothers⟩ := ih
    rw [Assertion.judgeEach, pure_bind, hothers, pure_bind]
    cases verdict object with
    | pass => exact ⟨_, rfl⟩
    | fail detail => cases detail <;> exact ⟨_, rfl⟩

/-- **An evaluation asks, and reports its end.** -/
theorem BindsBy.evaluate_eq [Element α] {p : Condition α} {asking : Eval Unit}
    (h : p.BindsBy c asking) (rule : String) {candidates : List α} (hne : candidates ≠ []) :
    ∃ violations, (Assertion.eachObject p).evaluate rule candidates c = asking >>= fun _ =>
      ⟨.ok ⟨rule, violations⟩, [.evaluated rule candidates.length violations.length]⟩ := by
  obtain ⟨object, rest, rfl⟩ := List.exists_cons_of_ne_nil hne
  rcases h with ⟨e, hasked, hbind⟩ | ⟨verdict, hasked, hbind⟩
  · refine ⟨[], ?_⟩
    rw [Eval.bind_of_error hasked, Assertion.evaluate, Assertion.findings, hbind,
      Eval.bind_of_error rfl, Eval.bind_of_error rfl]
  · obtain ⟨violations, hviolations⟩ :=
      exists_judgeEach_pure rule p.wording.failDescription verdict (object :: rest)
    have hfindings : (Assertion.eachObject p).findings rule (object :: rest) c =
        ⟨.ok violations, asking.events⟩ := by
      rw [Assertion.findings, hbind, Eval.bind_of_ok rfl, hviolations, Eval.events_pure,
        List.append_nil]
      rfl
    refine ⟨violations, ?_⟩
    rw [Eval.bind_of_ok hasked, Assertion.evaluate, hfindings]
    rfl

/-- **Providers are asked once.** Take any tree of built-in conditions. Without a candidate, judging
comes to an empty report and asks no provider, not even one that would fail. With candidates,
however many, all providers of the tree are asked, from left to right and each once. If all of them
have objects, there is a report, and the log holds the events of each provider for one call, one
provider after the other, and then the number of candidates and of violations. If one of them fails,
the evaluation fails with the error of the first one that does; the providers before it and this
one are in the log, and nothing else is. -/
theorem providers_asked_once [Element α] {p : Condition α} {providers : List Provider.Any}
    (h : p.Asks providers) (rule : String) (c : Codebase) :
    (Assertion.eachObject p).evaluate rule [] c = ⟨.ok ⟨rule, []⟩, [.evaluated rule 0 0]⟩ ∧
    ∀ candidates : List α, candidates ≠ [] →
      ((∀ provider ∈ providers, ∃ objects, (provider.2.objects c).result = .ok objects) →
        ∃ violations, (Assertion.eachObject p).evaluate rule candidates c =
          ⟨.ok ⟨rule, violations⟩,
            (providers.flatMap fun provider => (provider.2.objects c).events) ++
              [.evaluated rule candidates.length violations.length]⟩) ∧
      ∀ before provider after e, providers = before ++ provider :: after →
        (∀ earlier ∈ before, ∃ objects, (earlier.2.objects c).result = .ok objects) →
        (provider.2.objects c).result = .error e →
        (Assertion.eachObject p).evaluate rule candidates c =
          ⟨.error e, (before ++ [provider]).flatMap fun asked => (asked.2.objects c).events⟩ := by
  refine ⟨rfl, fun candidates hne => ?_⟩
  obtain ⟨violations, hevaluate⟩ := (h.bindsBy c).evaluate_eq rule hne
  constructor
  · intro hok
    refine ⟨violations, ?_⟩
    rw [hevaluate, Provider.askAll_of_ok hok, Eval.bind_of_ok rfl]
  · rintro before provider after e rfl hbefore hfails
    rw [hevaluate, Provider.askAll_of_error hbefore hfails, Eval.bind_of_error rfl]

/-- Objects should be public and use no class that is gone, or else use a till. -/
def tillTree (gone till : Provider TypeDecl) : Condition TypeDecl :=
  .join .or
    (.join .and ((Criterion.visibility .pub).condition false).lift
      ((Relation.dependsOnClasses true).relatedTo gone))
    ((ProviderCriterion.dependsOnAnyIn till).condition false)

theorem asks_tillTree (gone till : Provider TypeDecl) :
    (tillTree gone till).Asks [⟨TypeDecl, gone⟩, ⟨TypeDecl, till⟩] :=
  .join .or (.join .and (.lift _) (.relatedTo _ gone))
    (.question (.provided (.dependsOnAnyIn till)) false)

/-- Two classes that are gone. The codebase below still has the second. -/
def goneTypes : Provider TypeDecl := (NamedTypes.mk ["Shop.Gone", "Shop.Order"]).provider

/-- A till, and a class that no codebase has. -/
def tillTypes : Provider TypeDecl := (NamedTypes.mk ["Shop.Till", "Shop.Lost"]).provider

/-- A provider that fails, as one does that takes its objects from a combined rule. -/
def refusedTypes : Provider TypeDecl :=
  ⟨"refused types", "refused types", fun _ => .fail (.objectsOfCombined "Types should exist and")⟩

/-- An order, a till, and a cart with a field for an order. -/
def orderTypes : List TypeDecl :=
  [.ofName .classType "Shop.Order", .ofName .classType "Shop.Till",
    .dependingOn (.ofName .classType "Shop.Cart") .fieldType "Shop.Order"]

/-- There are three candidates, but each provider leaves one event. A provider that refuses ends the
asking, and one after it leaves none. -/
theorem providers_asked_once_orders :
    orderTypes ≠ [] ∧ (tillTree goneTypes tillTypes).Asks [⟨_, goneTypes⟩, ⟨_, tillTypes⟩] ∧
    (∃ report, (Assertion.eachObject (tillTree goneTypes tillTypes)).evaluate "Types should be sold"
        orderTypes (.ofTypes orderTypes) =
      ⟨.ok report, [.unresolvedType "Shop.Gone", .unresolvedType "Shop.Lost",
        .evaluated "Types should be sold" 3 report.violations.length]⟩) ∧
    (Assertion.eachObject (tillTree refusedTypes tillTypes)).evaluate "Types should be sold"
        orderTypes (.ofTypes orderTypes) =
      ⟨.error (.objectsOfCombined "Types should exist and"), []⟩ := by
  have hne : orderTypes ≠ [] := List.cons_ne_nil _ _
  obtain ⟨-, hasked⟩ := providers_asked_once (asks_tillTree goneTypes tillTypes)
    "Types should be sold" (.ofTypes orderTypes)
  obtain ⟨-, hrefused⟩ := providers_asked_once (asks_tillTree refusedTypes tillTypes)
    "Types should be sold" (.ofTypes orderTypes)
  have hok : ∀ provider ∈ ([⟨_, goneTypes⟩, ⟨_, tillTypes⟩] : List Provider.Any),
      ∃ objects, (provider.2.objects (.ofTypes orderTypes)).result = .ok objects := by
    simp only [List.forall_mem_cons, List.not_mem_nil, false_implies, implies_true, and_true]
    exact ⟨⟨_, rfl⟩, ⟨_, rfl⟩⟩
  obtain ⟨violations, hevaluate⟩ := (hasked orderTypes hne).1 hok
  refine ⟨hne, asks_tillTree goneTypes tillTypes, ⟨_, hevaluate⟩, ?_⟩
  exact (hrefused orderTypes hne).2 [] ⟨_, refusedTypes⟩ [⟨_, tillTypes⟩] _ rfl
    (fun _ hmem => absurd hmem List.not_mem_nil) rfl

end Condition

end DesignRules
