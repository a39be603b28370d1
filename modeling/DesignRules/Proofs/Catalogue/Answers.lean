import DesignRules.Catalogue.Scoped
import DesignRules.Catalogue.TypeCriterion
import Mathlib.Control.Monad.Basic

/-!
# The answer behind the forms of a question

Every question of the catalogue comes as a predicate and as a condition, plain and negated, and the
four are separate pieces of code: a predicate is a Boolean test that may ask a provider anew for
each object, and a condition collects offending targets against a provider that was asked once. What
they have in common is one answer, a Boolean for each object of a codebase, or an error where a
provider has none. All four forms are read off it here; how they compare with each other is then a
matter of Booleans.

## Why the answer is a function in an error, and not an error for each object

A provider does not know the object. So a codebase either has answers for all objects or for none,
and `Question.answer` says so by its type. Comparing a test on each object with a binding made once
needs no more than that.

## Main definitions

* `Question` — the questions of the catalogue, of whichever sort
* `Question.predicate`, `Question.condition` — the two forms, plain or negated
* `Question.answer` — what both of them come to
* `Condition.passes` — whether a condition passes an object, as a Boolean or an error

## Main results

* `Offence.targetsWhere_eq` — the offending targets are the picked ones without repetitions
* `Question.result_test`, `Question.result_bindTo_cases`, `Question.passes_condition` — the forms of
  a question, in terms of its answer
-/

namespace DesignRules

/-! ### Collecting offenders -/

namespace Offence

/-- What is listed already is left out of what is added. -/
theorem collect_eq (pick : String → Bool) (listed targets : List String) :
    collect pick listed targets =
      listed ++
        (targets.filter fun target => pick target && !listed.contains target).eraseDups := by
  induction targets generalizing listed with
  | nil => simp [collect]
  | cons target rest ih =>
    have hstep : collect pick listed (target :: rest) = collect pick
        (if pick target && !listed.contains target then listed ++ [target] else listed) rest := rfl
    rw [hstep, List.filter_cons]
    split
    · rw [ih, List.eraseDups_cons, List.filter_filter, List.append_assoc, List.singleton_append]
      congr 4
      funext other
      rw [List.contains_append, Bool.not_or, Bool.and_comm (!List.contains listed other)]
      by_cases h : other = target <;> simp [h]
    · exact ih listed

variable {α : Type} [Element α]

/-- **The offenders are the targets that are picked, each at its first place.** -/
theorem targetsWhere_eq (object : α) (pick : String → Bool) :
    targetsWhere object pick = ((Element.targets object).filter pick).eraseDups := by
  rw [targetsWhere, collect_eq]
  simp

theorem isEmpty_targetsWhere (object : α) (pick : String → Bool) :
    (targetsWhere object pick).isEmpty = !(Element.targets object).any pick := by
  rw [targetsWhere_eq]
  cases h : (Element.targets object).filter pick with
  | nil =>
    have hnone : ∀ target ∈ Element.targets object, ¬ pick target = true :=
      List.filter_eq_nil_iff.1 h
    rw [List.any_eq_false.2 hnone]
    rfl
  | cons target rest =>
    have htarget : target ∈ (Element.targets object).filter pick := h ▸ List.mem_cons_self ..
    rw [List.eraseDups_cons, List.any_eq_true.2 ⟨target, List.mem_filter.1 htarget⟩]
    rfl

theorem passed_verdict (offenders : List String) :
    (verdict offenders).passed = offenders.isEmpty := by
  unfold verdict
  split
  · next h => rw [h]; rfl
  · next h => rw [Bool.not_eq_true] at h; rw [h]; rfl

/-- A verdict on offenders passes an object none of whose targets is picked. -/
theorem passed_verdict_targetsWhere (object : α) (pick : String → Bool) :
    (verdict (targetsWhere object pick)).passed = !(Element.targets object).any pick := by
  rw [passed_verdict, isEmpty_targetsWhere]

/-- A verdict on what is not picked passes an object all of whose targets are. -/
theorem passed_verdict_targetsWhere_not (object : α) (pick : String → Bool) :
    (verdict (targetsWhere object fun target => !pick target)).passed =
      (Element.targets object).all pick := by
  rw [passed_verdict_targetsWhere, List.not_any_eq_all_not]
  simp only [Bool.not_not]

end Offence

/-! ### Verdicts and truth values -/

/-- A common name can be looked for among the names, as an answer does, or among the targets, as a
verdict on offenders does. -/
theorem any_contains_comm {β : Type} (bs : List β) (name : β → String) (targets : List String) :
    (bs.any fun b => targets.contains (name b)) =
      targets.any fun target => bs.any fun b => name b == target := by
  rw [Bool.eq_iff_iff, List.any_eq_true, List.any_eq_true]
  constructor
  · rintro ⟨b, hb, hname⟩
    exact ⟨name b, List.contains_iff_mem.1 hname, List.any_eq_true.2 ⟨b, hb, beq_self_eq_true _⟩⟩
  · rintro ⟨target, htarget, hany⟩
    obtain ⟨b, hb, hname⟩ := List.any_eq_true.1 hany
    obtain rfl := beq_iff_eq.1 hname
    exact ⟨b, hb, List.contains_iff_mem.2 htarget⟩

theorem Criterion.passed_verdict {α : Type} [Element α] (k : Criterion α) (negated : Bool)
    (object : α) : (k.verdict negated object).passed = (k.holds object != negated) := by
  cases k with
  | dependsOn pattern =>
    cases negated with
    | false => exact Verdict.passed_ofBool _
    | true =>
      show (Offence.verdict _).passed = _
      rw [Offence.passed_verdict_targetsWhere, Bool.bne_true]
      rfl
  | dependsOnAny names =>
    cases negated with
    | false => exact Verdict.passed_ofBool _
    | true =>
      have hcommon : (names.any fun name => (Element.targets object).contains name)
          = (Element.targets object).any names.contains := by
        rw [any_contains_comm names fun name => name]
        simp only [List.any_beq']
      show (Offence.verdict _).passed = _
      rw [Offence.passed_verdict_targetsWhere, Bool.bne_true, ← hcommon]
      rfl
  | dependsOnlyOn names =>
    cases negated with
    | false =>
      rw [Bool.bne_false]
      exact Offence.passed_verdict_targetsWhere_not object names.contains
    | true =>
      show (Verdict.ofBool _).passed = _
      rw [Verdict.passed_ofBool, Offence.isEmpty_targetsWhere, Bool.not_not, Bool.bne_true, holds,
        List.not_all_eq_any_not]
  | _ => cases negated <;> exact Verdict.passed_ofBool _

theorem ProviderCriterion.passed_verdict {α : Type} [Element α] (k : ProviderCriterion)
    (negated : Bool) (types : List TypeDecl) (object : α) :
    (k.verdict negated types object).passed = (k.holds types object != negated) := by
  cases k with
  | dependsOnAnyIn provider =>
    cases negated with
    | false =>
      rw [Bool.bne_false]
      exact Verdict.passed_ofBool _
    | true =>
      have hcommon : (types.any fun t => (Element.targets object).contains t.fullName)
          = (Element.targets object).any (hasName types) :=
        any_contains_comm types TypeDecl.fullName (Element.targets object)
      show (Offence.verdict _).passed = _
      rw [Offence.passed_verdict_targetsWhere, Bool.bne_true, ← hcommon]
      rfl
  | dependsOnlyOnTypesIn provider =>
    cases negated with
    | false =>
      rw [Bool.bne_false]
      exact Offence.passed_verdict_targetsWhere_not object (hasName types)
    | true =>
      show (Verdict.ofBool _).passed = _
      rw [Verdict.passed_ofBool, Bool.bne_true, holds, List.not_all_eq_any_not]

/-! ### Questions -/

/-- A question of the catalogue, about objects of the sort that the index names. -/
inductive Question : Type → Type 1 where
  /-- A question about an object by itself. -/
  | element {α : Type} (k : Criterion α) : Question α
  /-- A question about an object and the types of a provider. -/
  | provided {α : Type} (k : ProviderCriterion) : Question α
  /-- A question about a type by itself. -/
  | type (k : TypeCriterion) : Question TypeDecl
  /-- A question about the hierarchy above a type. -/
  | assignable (k : Assignability) : Question TypeDecl

namespace Question

/-- The question as a predicate. -/
def predicate : {α : Type} → [Element α] → Question α → (negated : Bool) → Predicate α
  | _, _, element k, negated => k.predicate negated
  | _, _, provided k, negated => k.predicate negated
  | _, _, type k, negated => k.predicate negated
  | _, _, assignable k, negated => k.predicate negated

/-- The question as a condition. -/
def condition : {α : Type} → [Element α] → Question α → (negated : Bool) → Condition α
  | _, _, element k, negated => (k.condition negated).lift
  | _, _, provided k, negated => k.condition negated
  | _, _, type k, negated => (k.condition negated).lift
  | _, _, assignable k, negated => k.condition negated

/-- The answers for the objects of a codebase, or the reason why a provider has none. -/
def answer : {α : Type} → [Element α] → Question α → Codebase → Except RuleError (α → Bool)
  | _, _, element k, _ => .ok k.holds
  | _, _, provided k, c => (k.provider.objects c).result.map k.holds
  | _, _, type k, _ => .ok k.holds
  | _, _, assignable k, c => .ok fun t => k.holds t c

variable {α : Type} [Element α]

/-- **A predicate tests for the answer.** -/
theorem result_test (q : Question α) (negated : Bool) (object : α) (c : Codebase) :
    ((q.predicate negated).test object c).result =
      (q.answer c).map fun holds => holds object != negated := by
  cases q with
  | element k => rfl
  | provided k =>
    show (k.provider.objects c >>= _).result = ((k.provider.objects c).result.map _).map _
    cases h : (k.provider.objects c).result with
    | error e => rw [Eval.result_bind_error h]; rfl
    | ok types => rw [Eval.result_bind_ok h]; rfl
  | type k => rfl
  | assignable k => rfl

/-- **A condition binds to the answer.** Binding fails where there is no answer. Else what is bound
is a verdict for each object that passes it just if the answer is yes, or no if negated. -/
theorem result_bindTo_cases (q : Question α) (negated : Bool) (c : Codebase) :
    (∃ e, q.answer c = .error e ∧ ((q.condition negated).bindTo c).result = .error e) ∨
      ∃ (holds : α → Bool) (verdict : α → Verdict), q.answer c = .ok holds ∧
        ((q.condition negated).bindTo c).result = .ok (fun object => pure (verdict object)) ∧
        ∀ object, (verdict object).passed = (holds object != negated) := by
  cases q with
  | element k => exact Or.inr ⟨_, _, rfl, rfl, k.passed_verdict negated⟩
  | provided k =>
    show (∃ e, (k.provider.objects c).result.map _ = _ ∧ (k.provider.objects c >>= _).result = _) ∨
      ∃ (holds : α → Bool) (verdict : α → Verdict), (k.provider.objects c).result.map _ = _ ∧
        (k.provider.objects c >>= _).result = _ ∧ _
    cases h : (k.provider.objects c).result with
    | error e => exact Or.inl ⟨e, rfl, Eval.result_bind_error h _⟩
    | ok types =>
      exact Or.inr ⟨_, _, rfl, Eval.result_bind_ok h _, k.passed_verdict negated types⟩
  | type k => exact Or.inr ⟨_, _, rfl, rfl, fun _ => Verdict.passed_ofBool _⟩
  | assignable k => exact Or.inr ⟨_, _, rfl, rfl, fun _ => Verdict.passed_ofBool _⟩

end Question

/-- Whether a condition passes an object of a codebase. -/
def Condition.passes {α : Type} (p : Condition α) (object : α) (c : Codebase) :
    Except RuleError Bool :=
  (p.check object c).result.map Verdict.passed

/-- **A condition passes by the answer.** -/
theorem Question.passes_condition {α : Type} [Element α] (q : Question α) (negated : Bool)
    (object : α) (c : Codebase) :
    (q.condition negated).passes object c =
      (q.answer c).map fun holds => holds object != negated := by
  rw [Condition.passes, Condition.check]
  rcases q.result_bindTo_cases negated c with ⟨e, hanswer, hbind⟩ |
    ⟨holds, verdict, hanswer, hbind, h⟩
  · rw [hanswer, Eval.result_bind_error hbind]
    rfl
  · rw [hanswer, Eval.result_bind_ok hbind, Eval.result_pure]
    exact congrArg Except.ok (h object)

end DesignRules
