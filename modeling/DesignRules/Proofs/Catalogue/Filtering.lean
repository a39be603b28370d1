import DesignRules.Proofs.Catalogue.Answers
import DesignRules.Proofs.Rule.Findings

/-!
# Filtering and asserting agree

Given a list of candidates, a question of the catalogue can be used in two ways: as a predicate, to
keep those for which the answer is yes, or as a condition, to report those for which it is no. The
two uses divide the candidates between them.

## What agreeing costs where there is no answer

The two forms ask a provider at different times. A predicate asks it for every candidate, and a
condition once, when it is bound. If the provider fails, the filter stops at the first candidate
and the assertion before it, with the same error. With no candidate at all neither of them asks,
and nothing is kept or reported.

## Main definitions

* `Divided` — the error of what both need, or the candidates divided into those kept and those
  reported

## Main results

* `divided_of_error`, `divided_of_verdict` — the two cases, for any predicate and condition
* `filter_agrees_with_evaluate` — the two uses of a question
-/

namespace DesignRules

variable {α : Type} [Element α]

/-- What a filter and an assertion come to on the same candidates, if both need the same thing.
Where it cannot be had and there are candidates, both fail with that error. Else each candidate is
either kept or reported, and both lists are in the order of the candidates. -/
inductive Divided {γ : Type} (needed : Except RuleError γ) (condition : Condition α) (c : Codebase)
    (rule : String) (candidates : List α) :
    Except RuleError (List α) → Except RuleError Report → Prop where
  | sameError {e : RuleError} (hfailed : needed = .error e) (hne : candidates ≠ []) :
      Divided needed condition c rule candidates (.error e) (.error e)
  | split (hok : candidates ≠ [] → ∃ found, needed = .ok found) (keep : α → Bool)
      {violations : List Violation}
      (hfindings : List.Forall₂
        (Assertion.Finding rule condition.wording.failDescription
          fun object => condition.check object c)
        (candidates.filter fun object => !keep object) violations) :
      Divided needed condition c rule candidates (.ok (candidates.filter keep))
        (.ok ⟨rule, violations⟩)

variable {p : Predicate α} {condition : Condition α} {c : Codebase}

/-- Where the tests and the binding fail alike, the candidates matter only if there are none. -/
theorem divided_of_error {γ : Type} {needed : Except RuleError γ} {e : RuleError}
    (hneeded : needed = .error e) (htest : ∀ object, (p.test object c).result = .error e)
    (hbind : (condition.bindTo c).result = .error e) (rule : String) (candidates : List α) :
    Divided needed condition c rule candidates (Predicate.filter [p] c candidates).result
      ((Assertion.eachObject condition).evaluate rule candidates c).result := by
  cases candidates with
  | nil => exact .split (fun hne => absurd rfl hne) (fun _ => true) .nil
  | cons object rest =>
    have hfindings : ((Assertion.eachObject condition).findings rule (object :: rest) c).result =
        .error e := Eval.result_bind_error hbind _
    rw [Predicate.result_filter_cons_error (htest object), Assertion.evaluate,
      Eval.result_bind_error hfindings]
    exact .sameError hneeded (List.cons_ne_nil object rest)

/-- Where the tests are the truth values of what the condition is bound to, the candidates that
pass are kept and the others are reported. -/
theorem divided_of_verdict {γ : Type} {needed : Except RuleError γ} {found : γ}
    (hneeded : needed = .ok found) {verdict : α → Verdict}
    (htest : ∀ object, (p.test object c).result = .ok (verdict object).passed)
    (hbind : (condition.bindTo c).result = .ok fun object => pure (verdict object))
    (rule : String) (candidates : List α) :
    Divided needed condition c rule candidates (Predicate.filter [p] c candidates).result
      ((Assertion.eachObject condition).evaluate rule candidates c).result := by
  obtain ⟨kept, hkept⟩ : ∃ kept, (Predicate.filter [p] c candidates).result = .ok kept := by
    refine Predicate.exists_result_filter fun q hq object _ => ?_
    obtain rfl := List.mem_singleton.1 hq
    exact ⟨_, htest object⟩
  have hkeep : kept = candidates.filter fun object => (verdict object).passed := by
    rw [Predicate.eq_filter_of_result_ok hkept]
    refine List.filter_congr fun object _ => ?_
    rw [Bool.eq_iff_iff, decide_eq_true_iff, Predicate.Satisfied, List.forall_mem_singleton, htest]
    exact ⟨fun h => Except.ok.inj h, fun h => congrArg Except.ok h⟩
  have hjudged : ∀ object ∈ candidates,
      ∃ v, (pure (verdict object) : Eval Verdict).result = .ok v :=
    fun object _ => ⟨verdict object, rfl⟩
  obtain ⟨violations, hviolations⟩ :=
    Assertion.exists_result_judgeEach rule condition.wording.failDescription hjudged
  have hreport : ((Assertion.eachObject condition).evaluate rule candidates c).result =
      .ok ⟨rule, violations⟩ :=
    Assertion.result_evaluate (by rw [Assertion.result_findings_eachObject hbind, hviolations])
  have hfailed : (candidates.filter fun object =>
      (pure (verdict object) : Eval Verdict).result ≠ .ok .pass) =
        candidates.filter fun object => !(verdict object).passed := by
    refine List.filter_congr fun object _ => ?_
    cases verdict object <;> rfl
  rw [hkept, hkeep, hreport]
  refine .split (fun _ => ⟨found, hneeded⟩) _ ?_
  rw [← hfailed]
  refine (Assertion.forall₂_of_result_judgeEach hviolations).imp fun object v hfinding => ?_
  -- a candidate is checked by the same verdict when the condition is bound for it alone
  have hcheck : (condition.check object c).result = .ok (verdict object) :=
    Eval.result_bind_ok hbind _
  obtain ⟨detail, hdetail, hmessage⟩ := hfinding.message_eq
  exact ⟨hfinding.rule_eq, hfinding.object_eq, hfinding.severity_eq, detail,
    hcheck.trans hdetail, hmessage⟩

/-- **Filtering and asserting agree.** Take a question of the catalogue, plain or negated, and any
list of candidates. Either keeping those that its predicate picks and judging all of them by its
condition fail with the same error, which is that of the provider; or both succeed, and the
candidates are divided, in order, into those that the filter keeps and those that the report
names. -/
theorem filter_agrees_with_evaluate (q : Question α) (negated : Bool) (c : Codebase)
    (rule : String) (candidates : List α) :
    Divided (q.answer c) (q.condition negated) c rule candidates
      (Predicate.filter [q.predicate negated] c candidates).result
      ((Assertion.eachObject (q.condition negated)).evaluate rule candidates c).result := by
  rcases q.result_bindTo_cases negated c with ⟨e, hanswer, hbind⟩ |
    ⟨holds, verdict, hanswer, hbind, hpassed⟩
  · refine divided_of_error hanswer (fun object => ?_) hbind rule candidates
    rw [q.result_test, hanswer]
    rfl
  · refine divided_of_verdict hanswer (fun object => ?_) hbind rule candidates
    rw [q.result_test, hanswer, hpassed]
    rfl

/-- Of three types the first one uses data. The filter keeps the others, and the report names it. -/
theorem filter_agrees_with_evaluate_shop :
    let uses : Question TypeDecl := .element (.dependsOn ⟨"Shop.Data.**"⟩)
    let codebase := Codebase.ofTypes Draft.shopTypes
    ∃ kept report, (Predicate.filter [uses.predicate true] codebase Draft.shopTypes).result =
        .ok kept ∧
      ((Assertion.eachObject (uses.condition true)).evaluate "No page should use data"
        Draft.shopTypes codebase).result = .ok report ∧
      Divided (uses.answer codebase) (uses.condition true) codebase "No page should use data"
        Draft.shopTypes (.ok kept) (.ok report) ∧
      kept = Draft.shopTypes.drop 1 ∧ report.violatingObjects = ["Shop.Web.Page"] :=
  ⟨_, _, rfl, rfl, filter_agrees_with_evaluate _ true _ _ _, rfl, rfl⟩

end DesignRules
