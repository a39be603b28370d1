import DesignRules.Condition.Relation
import DesignRules.Draft
import DesignRules.Proofs.Codebase.Reordered
import DesignRules.Proofs.Condition.Joined
import DesignRules.Proofs.Rule.Findings

/-!
# Rules on two codebases

A rule is judged on two codebases that have the same types in different orders. Its parts are judged
on both along with it, and each of them is *steady* if it comes to the same on both: to the same
error, or to results that differ in their order at most. This module shows that a rule made of
steady parts is steady, whatever the parts are.

## Why a predicate that errs has to err on every object

A filter tests object by object and stops at the first error, so which error that is depends on the
object that comes first. A predicate that failed on one object with one error and on another object
with another would make the order of the codebase matter. Therefore a predicate counts as steady
only if it fails on all objects in the same way, or on none (`Predicate.Steady`). Of steady
predicates, the first to fail is the first that any object gets to, and whether there is such an
object is no matter of order.

## One relation for two questions

Everything here also keeps count of the errors: `raised` says which ones may come up, and no part is
steady that fails with another. On two equal codebases nothing else is left of the statements, so
what errors a rule can have is read off the same lemmas.

## Main definitions

* `Matched` — the same error, one of those that may come up, or related results
* `Predicate.Steady`, `Provider.Steady`, `Condition.Steady` — the parts of a rule
* `Draft.Steady`, `Rule.Steady` — a draft with steady parts, and a rule with matching reports
* `Report.SameFindings` — reports that differ in the order of their findings

## Main results

* `Predicate.matched_filter` — the filter
* `Assertion.Steady.matched_findings` — the findings about given candidates
* `Draft.Steady.that`, `Draft.Steady.require` and others — adding to a draft
* `Draft.Steady.rule`, `Rule.Steady.combine` — whole rules
-/

namespace DesignRules

/-! ### Matching results -/

/-- The results are the same error, one that may be raised, or they are values that are related. -/
inductive Matched (raised : RuleError → Prop) {β γ : Type} (R : β → γ → Prop) :
    Except RuleError β → Except RuleError γ → Prop
  | error {e : RuleError} (he : raised e) : Matched raised R (.error e) (.error e)
  | ok {b : β} {b' : γ} (h : R b b') : Matched raised R (.ok b) (.ok b')

namespace Matched

variable {raised : RuleError → Prop} {β γ δ ε : Type} {R : β → γ → Prop} {S : δ → ε → Prop}

theorem error_or_ok {r : Except RuleError β} {r' : Except RuleError γ} (h : Matched raised R r r') :
    (∃ e, raised e ∧ r = .error e ∧ r' = .error e) ∨ ∃ b b', R b b' ∧ r = .ok b ∧ r' = .ok b' := by
  cases h with
  | error he => exact Or.inl ⟨_, he, rfl, rfl⟩
  | ok h => exact Or.inr ⟨_, _, h, rfl, rfl⟩

/-- Computations go on from matching results to matching results. -/
theorem bind {x : Eval β} {y : Eval γ} {f : β → Eval δ} {g : γ → Eval ε}
    (h : Matched raised R x.result y.result)
    (hnext : ∀ b b', R b b' → Matched raised S (f b).result (g b').result) :
    Matched raised S (x >>= f).result (y >>= g).result := by
  obtain ⟨e, he, hx, hy⟩ | ⟨b, b', hb, hx, hy⟩ := h.error_or_ok
  · rw [Eval.result_bind_error hx, Eval.result_bind_error hy]
    exact .error he
  · rw [Eval.result_bind_ok hx, Eval.result_bind_ok hy]
    exact hnext b b' hb

end Matched

/-- A computation goes on from the same result in the same way. -/
theorem Eval.result_bind_congr {β γ : Type} {x y : Eval β} {f g : β → Eval γ}
    (h : x.result = y.result) (hnext : ∀ b, (f b).result = (g b).result) :
    (x >>= f).result = (y >>= g).result := by
  cases hy : y.result with
  | error e => rw [result_bind_error (h.trans hy), result_bind_error hy]
  | ok b => rw [result_bind_ok (h.trans hy), result_bind_ok hy, hnext b]

variable {α β : Type} {raised : RuleError → Prop} {c c' : Codebase}

/-- A list and another order of it are both empty, or both have a first element. -/
theorem nil_or_cons_of_perm {objects objects' : List α} (hperm : objects.Perm objects') :
    (objects = [] ∧ objects' = []) ∨
      ∃ object rest object' rest', objects = object :: rest ∧ objects' = object' :: rest' := by
  cases objects with
  | nil => exact Or.inl ⟨rfl, hperm.nil_eq.symm⟩
  | cons object rest =>
    cases objects' with
    | nil => exact absurd hperm.eq_nil (by simp)
    | cons object' rest' => exact Or.inr ⟨object, rest, object', rest', rfl, rfl⟩

/-! ### Predicates -/

namespace Predicate

/-- The predicate tests alike on both codebases: it fails on every object with the same error, or it
has an answer for each. -/
inductive Steady (raised : RuleError → Prop) (c c' : Codebase) (p : Predicate α) : Prop
  | fails {e : RuleError} (he : raised e) (h : ∀ object, (p.test object c).result = .error e)
      (h' : ∀ object, (p.test object c').result = .error e)
  | answers {holds : α → Bool} (h : ∀ object, (p.test object c).result = .ok (holds object))
      (h' : ∀ object, (p.test object c').result = .ok (holds object))

theorem result_filter_nil (c : Codebase) (objects : List α) :
    (filter [] c objects).result = .ok objects := by
  induction objects with
  | nil => rfl
  | cons object rest ih => exact Eval.result_bind_ok ih _

/-- A predicate that has an answer for every object can be tested on all of them first. -/
theorem result_filter_cons {p : Predicate α} {more : List (Predicate α)} {holds : α → Bool}
    (h : ∀ object, (p.test object c).result = .ok (holds object)) (objects : List α) :
    (filter (p :: more) c objects).result = (filter more c (objects.filter holds)).result := by
  induction objects with
  | nil => rfl
  | cons object rest ih =>
    rw [filter, List.filter_cons]
    cases hholds : holds object with
    | false =>
      have hpasses : (passesAll (p :: more) object c).result = .ok false :=
        Eval.result_bind_ok ((h object).trans (congrArg Except.ok hholds)) _
      rw [Eval.result_bind_ok hpasses, if_neg Bool.false_ne_true, ← ih]
      exact congrArg Eval.result (bind_pure _)
    | true =>
      have hpasses : (passesAll (p :: more) object c).result = (passesAll more object c).result :=
        Eval.result_bind_ok ((h object).trans (congrArg Except.ok hholds)) _
      rw [if_pos rfl, filter]
      exact Eval.result_bind_congr hpasses fun _ => Eval.result_bind_congr ih fun _ => rfl

/-- **Filters match.** The induction is on the predicates: one that fails does so as soon as there
is an object, and one that answers leaves objects that differ in their order only. -/
theorem matched_filter {predicates : List (Predicate α)}
    (h : ∀ p ∈ predicates, p.Steady raised c c') {objects objects' : List α}
    (hperm : objects.Perm objects') :
    Matched raised List.Perm (filter predicates c objects).result
      (filter predicates c' objects').result := by
  induction predicates generalizing objects objects' with
  | nil =>
    rw [result_filter_nil, result_filter_nil]
    exact .ok hperm
  | cons p more ih =>
    have hmore : ∀ q ∈ more, q.Steady raised c c' := fun q hq => h q (List.mem_cons_of_mem _ hq)
    cases h p (List.mem_cons_self ..) with
    | fails he herror herror' =>
      obtain ⟨rfl, rfl⟩ | ⟨object, rest, object', rest', rfl, rfl⟩ := nil_or_cons_of_perm hperm
      · exact .ok (List.Perm.refl _)
      · rw [result_filter_cons_error (herror object), result_filter_cons_error (herror' object')]
        exact .error he
    | answers hanswer hanswer' =>
      rw [result_filter_cons hanswer, result_filter_cons hanswer']
      exact ih hmore (hperm.filter _)

/-- Where every object has an error of its own, the first object decides. -/
example (c : Codebase) (first second : TypeDecl) :
    (filter [⟨.codebase fun t _ => .fail (.missingCondition t.fullName), "are bad", "is bad"⟩] c
      [first, second]).result = .error (.missingCondition first.fullName) := rfl

end Predicate

/-! ### Providers -/

/-- The provider names the same objects of both codebases. -/
def Provider.Steady (raised : RuleError → Prop) (c c' : Codebase) (p : Provider α) : Prop :=
  Matched raised List.Perm (p.objects c).result (p.objects c').result

theorem Selection.steady_provider [Element α] [LawfulElement α] {s : Selection α}
    (h : ∀ p ∈ s.predicates, p.Steady raised c c') (hcodebase : c.Reordered c') :
    s.provider.Steady raised c c' :=
  Predicate.matched_filter h (hcodebase.select_perm s.kind)

/-! ### Conditions -/

/-- Two judgements come to the same verdict on every object, and fail on none. -/
def SameVerdicts (judge judge' : α → Eval Verdict) : Prop :=
  ∃ verdict : α → Verdict, ∀ object,
    (judge object).result = .ok (verdict object) ∧ (judge' object).result = .ok (verdict object)

theorem SameVerdicts.of_pure (verdict : α → Verdict) :
    SameVerdicts (fun object => pure (verdict object)) fun object => pure (verdict object) :=
  ⟨verdict, fun _ => ⟨rfl, rfl⟩⟩

theorem SameVerdicts.joinJudgements (k : Connector) {first first' second second' : α → Eval Verdict}
    (hfirst : SameVerdicts first first') (hsecond : SameVerdicts second second') :
    SameVerdicts (Condition.joinJudgements k first second)
      (Condition.joinJudgements k first' second') := by
  obtain ⟨verdict, hverdict⟩ := hfirst
  obtain ⟨verdict', hverdict'⟩ := hsecond
  refine ⟨fun object => (verdict object).join k (verdict' object), fun object => ?_⟩
  obtain ⟨hv, hv'⟩ := hverdict object
  obtain ⟨hw, hw'⟩ := hverdict' object
  rw [Formula.result_joinJudgements, Formula.result_joinJudgements, hv, hv', hw, hw',
    Answer.join_ok]
  exact ⟨rfl, rfl⟩

/-- The condition is bound to the same verdicts on both codebases. -/
def Condition.Steady (raised : RuleError → Prop) (c c' : Codebase) (p : Condition α) : Prop :=
  Matched raised SameVerdicts (p.bindTo c).result (p.bindTo c').result

theorem Condition.Steady.join (k : Connector) {a b : Condition α} (ha : a.Steady raised c c')
    (hb : b.Steady raised c c') : (Condition.join k a b).Steady raised c c' :=
  ha.bind fun _ _ hfirst => hb.bind fun _ _ hsecond => .ok (hfirst.joinJudgements k hsecond)

theorem ObjectCondition.steady_lift (p : ObjectCondition α) : p.lift.Steady raised c c' :=
  .ok (.of_pure p.check)

/-- A relation may look at the related objects in any way that is blind to their order. -/
theorem Relation.steady_relatedTo {r : Relation α β}
    (hr : ∀ object {related related' : List β}, related.Perm related' →
      r.holds object related = r.holds object related')
    {provider : Provider β} (h : provider.Steady raised c c') :
    (r.relatedTo provider).Steady raised c c' := by
  refine h.bind fun related related' hperm => .ok ?_
  simp only [fun object => hr object hperm]
  exact .of_pure _

/-! ### Reports -/

/-- The reports are of the same rule and have the same findings, perhaps in different orders. -/
structure Report.SameFindings (report report' : Report) : Prop where
  /-- They are of the same rule. -/
  description_eq : report.description = report'.description
  /-- They have the same findings, each as often. -/
  violations_perm : report.violations.Perm report'.violations

namespace Report.SameFindings

variable {first first' second second' : Report}

theorem passed_eq (h : first.SameFindings first') : first.passed = first'.passed :=
  h.violations_perm.isEmpty_eq

theorem combine (description : String) (k : Connector) (hfirst : first.SameFindings first')
    (hsecond : second.SameFindings second') :
    (Report.combine description k first second).SameFindings
      (.combine description k first' second') := by
  rw [Report.combine, Report.combine, hfirst.passed_eq, hsecond.passed_eq]
  split
  · exact ⟨rfl, List.Perm.refl _⟩
  · exact ⟨rfl, hfirst.violations_perm.append hsecond.violations_perm⟩

end Report.SameFindings

/-- The rule reports the same on both codebases. -/
def Rule.Steady (raised : RuleError → Prop) (c c' : Codebase) (r : Rule) : Prop :=
  Matched raised Report.SameFindings (r.evaluate c).result (r.evaluate c').result

theorem Rule.Steady.combine (k : Connector) {first second : Rule}
    (hfirst : first.Steady raised c c') (hsecond : second.Steady raised c c') :
    (first.combine k second).Steady raised c c' :=
  hfirst.bind fun _ _ hreport => hsecond.bind fun _ _ hreport' => .ok (hreport.combine _ k hreport')

/-! ### Assertions -/

namespace Assertion

variable [Element α]

/-- What is reported about an object with a verdict. -/
def finding? (rule failDescription : String) (verdict : α → Verdict) (object : α) :
    Option Violation :=
  match verdict object with
  | .pass => none
  | .fail none => some (.ofMessage rule (some (Element.fullName object)) failDescription)
  | .fail (some detail) =>
    some (.ofMessage rule (some (Element.fullName object)) (failDescription ++ ": " ++ detail))

theorem result_judgeEach {rule failDescription : String} {judge : α → Eval Verdict}
    {verdict : α → Verdict} (h : ∀ object, (judge object).result = .ok (verdict object))
    (objects : List α) :
    (judgeEach rule failDescription judge objects).result =
      .ok (objects.filterMap (finding? rule failDescription verdict)) := by
  induction objects with
  | nil => rfl
  | cons object rest ih =>
    rw [judgeEach, Eval.result_bind_ok (h object), Eval.result_bind_ok ih, List.filterMap_cons,
      finding?]
    cases verdict object with
    | pass => rfl
    | fail detail => cases detail <;> rfl

theorem judgeNumber_perm (rule : String) (condition : Existence) {candidates candidates' : List α}
    (hperm : candidates.Perm candidates') :
    (judgeNumber rule condition candidates).Perm (judgeNumber rule condition candidates') := by
  obtain ⟨rfl, rfl⟩ | ⟨object, rest, object', rest', rfl, rfl⟩ := nil_or_cons_of_perm hperm
  · exact List.Perm.refl _
  · rw [judgeNumber, judgeNumber, hperm.length_eq]
    split
    · exact List.Perm.refl _
    · exact hperm.map _

/-- What is asserted about each object is steady; what is asserted about their number always is. -/
def Steady (raised : RuleError → Prop) (c c' : Codebase) : Assertion α → Prop
  | eachObject condition => condition.Steady raised c c'
  | existence _ => True

theorem Steady.matched_findings {a : Assertion α} (h : a.Steady raised c c') (rule : String)
    {candidates candidates' : List α} (hperm : candidates.Perm candidates') :
    Matched raised List.Perm (a.findings rule candidates c).result
      (a.findings rule candidates' c').result := by
  cases a with
  | existence condition => exact .ok (judgeNumber_perm rule condition hperm)
  | eachObject condition =>
    obtain ⟨e, he, hbind, hbind'⟩ | ⟨judge, judge', ⟨verdict, hverdict⟩, hbind, hbind'⟩ :=
      Matched.error_or_ok h
    · -- without a candidate the condition is not bound, so its error does not come up
      obtain ⟨rfl, rfl⟩ | ⟨object, rest, object', rest', rfl, rfl⟩ := nil_or_cons_of_perm hperm
      · exact .ok (List.Perm.refl _)
      · rw [findings, findings, Eval.result_bind_error hbind, Eval.result_bind_error hbind']
        exact .error he
    · rw [result_findings_eachObject hbind, result_findings_eachObject hbind',
        result_judgeEach fun object => (hverdict object).1,
        result_judgeEach fun object => (hverdict object).2]
      exact .ok (hperm.filterMap _)

theorem Steady.matched_evaluate {a : Assertion α} (h : a.Steady raised c c') (rule : String)
    {candidates candidates' : List α} (hperm : candidates.Perm candidates') :
    Matched raised Report.SameFindings (a.evaluate rule candidates c).result
      (a.evaluate rule candidates' c').result :=
  (h.matched_findings rule hperm).bind fun _ _ hviolations => .ok ⟨rfl, hviolations⟩

end Assertion

/-! ### Drafts -/

namespace Draft

/-- All parts of a draft are steady: its predicates, what it asserts so far, and the rule that it
continues. -/
structure Steady (raised : RuleError → Prop) (c c' : Codebase) (d : Draft α) : Prop where
  /-- The predicates are. -/
  predicates : ∀ p ∈ d.predicates, p.Steady raised c c'
  /-- What is asserted is. -/
  assertion : ∀ a ∈ d.assertion, a.Steady raised c c'
  /-- The rule before is. -/
  prior : ∀ prior ∈ d.prior, prior.1.Steady raised c c'

variable {d : Draft α}

theorem steady_start (κ : Kind α) : (start κ).Steady raised c c' where
  predicates _ hp := absurd hp List.not_mem_nil
  assertion a ha := absurd ha (Option.not_mem_none a)
  prior prior hprior := absurd hprior (Option.not_mem_none prior)

theorem steady_continuing {prior : Rule} (h : prior.Steady raised c c') (k : Connector)
    (κ : Kind α) : (continuing prior k κ).Steady raised c c' where
  predicates _ hp := absurd hp List.not_mem_nil
  assertion a ha := absurd ha (Option.not_mem_none a)
  prior p hp := by
    obtain rfl := Option.some.inj hp
    exact h

namespace Steady

theorem that (h : d.Steady raised c c') {p : Predicate α} (hp : p.Steady raised c c') :
    (d.that p).Steady raised c c' := by
  refine ⟨fun q hq => ?_, h.assertion, h.prior⟩
  rcases List.mem_append.1 hq with hq | hq
  · exact h.predicates q hq
  · obtain rfl := List.mem_singleton.1 hq
    exact hp

/-- A condition that replaces what was asserted is steady by itself, and one that is joined to it
makes a steady join. -/
theorem preview (h : d.Steady raised c c') {condition : Condition α}
    (hcondition : condition.Steady raised c c') :
    (d.preview condition).Steady raised c c' := by
  rw [Draft.preview]
  split
  · next current hcurrent => exact (h.assertion _ hcurrent).join _ hcondition
  · exact hcondition
  · exact hcondition

theorem require (h : d.Steady raised c c') {condition : Condition α}
    (hcondition : condition.Steady raised c c') : (d.require condition).Steady raised c c' := by
  refine ⟨h.predicates, fun a ha => ?_, h.prior⟩
  obtain rfl := Option.some.inj ha
  exact h.preview hcondition

theorem requireExistence (h : d.Steady raised c c') (condition : Existence) :
    (d.requireExistence condition).Steady raised c c' := by
  refine ⟨h.predicates, fun a ha => ?_, h.prior⟩
  obtain rfl := Option.some.inj ha
  trivial

theorem joinNext (h : d.Steady raised c c') (k : Connector) :
    (d.joinNext k).Steady raised c c' :=
  ⟨h.predicates, h.assertion, h.prior⟩

theorem because (h : d.Steady raised c c') (reason : String) :
    (d.because reason).Steady raised c c' :=
  ⟨h.predicates, h.assertion, h.prior⟩

end Steady

variable [Element α] [LawfulElement α]

theorem matched_candidates (h : ∀ p ∈ d.predicates, p.Steady raised c c')
    (hcodebase : c.Reordered c') :
    Matched raised List.Perm (d.candidates c).result (d.candidates c').result :=
  Predicate.matched_filter h (hcodebase.select_perm d.kind)

/-- The objects of a draft cannot be asked for if it continues another rule. -/
theorem steady_provider (h : ∀ p ∈ d.predicates, p.Steady raised c c')
    (hcombined : d.isCombined = true → raised (.objectsOfCombined d.description))
    (hcodebase : c.Reordered c') : d.provider.Steady raised c c' := by
  show Matched raised List.Perm (d.objects c).result (d.objects c').result
  rw [objects, objects]
  split
  · next hprior => exact .error (hcombined hprior)
  · exact matched_candidates h hcodebase

theorem Steady.matched_evaluateWith (h : d.Steady raised c c') {assertion : Assertion α}
    (hassertion : assertion.Steady raised c c') (hcodebase : c.Reordered c') :
    Matched raised Report.SameFindings (d.evaluateWith assertion c).result
      (d.evaluateWith assertion c').result := by
  refine (matched_candidates h.predicates hcodebase).bind fun candidates candidates' hperm => ?_
  refine (hassertion.matched_evaluate _ hperm).bind fun own own' hown => ?_
  cases hprior : d.prior with
  | none => exact .ok hown
  | some prior =>
    have hrule : prior.1.Steady raised c c' := h.prior prior hprior
    exact Matched.bind hrule fun _ _ hreport => .ok (hreport.combine _ prior.2 hown)

/-- **A draft with steady parts is a steady rule.** If it asserts nothing yet, it fails on both
codebases with the same error. -/
theorem Steady.rule (h : d.Steady raised c c')
    (hopen : d.hasAssertion = false → raised (.missingCondition d.description))
    (hcodebase : c.Reordered c') : d.rule.Steady raised c c' := by
  show Matched raised Report.SameFindings (d.evaluate c).result (d.evaluate c').result
  rw [evaluate, evaluate]
  cases hassertion : d.assertion with
  | none => exact .error (hopen (by rw [hasAssertion, hassertion]; rfl))
  | some assertion => exact h.matched_evaluateWith (h.assertion assertion hassertion) hcodebase

end Draft

end DesignRules
