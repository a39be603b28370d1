import DesignRules.Proofs.Rule.Combined

/-!
# Which error an evaluation has

Evaluating a draft can go wrong in four places: a predicate may fail, the condition may not be
bound, judging a candidate may fail, and so may the rule that is continued. Each place is asked
differently often and differently early. There is one order to all of it, and an evaluation fails
with the first error in that order.

A sequence tries what its parts try (`Eval.Tries.bind`). So the attempts of a loop are found by
induction, and those of an evaluation come from those of its parts.

## What is not attempted

An object is not tested any further as soon as it fails a predicate. Whether a condition can be
bound matters only if there is a candidate to judge; without one it is not bound, and an error in it
does not come up. A number of candidates is judged without any attempt.

## Main definitions

* `Predicate.asked` — the predicates that an object is tested with
* `Condition.attempts`, `Assertion.attempts`, `Draft.attempts` — what is tried, in order

## Main results

* `Predicate.tries_filter`, `Assertion.tries_findings`, `Draft.tries_evaluate` — the order of errors
* `Draft.evaluateWith_of_candidates_eq_nil` — without candidates the condition is not bound
* `Draft.evaluate_fails_first` — the error of an evaluation
-/

namespace DesignRules

/-! ### The filter -/

namespace Predicate

variable {α : Type}

/-- The predicates that an object is tested with: all up to the first one that it does not pass. -/
def asked (predicates : List (Predicate α)) (c : Codebase) (object : α) : List (Predicate α) :=
  predicates.take (predicates.findIdx (fun p => (p.test object c).result ≠ .ok true) + 1)

theorem asked_cons (p : Predicate α) (more : List (Predicate α)) (c : Codebase) (object : α) :
    asked (p :: more) c object =
      p :: if (p.test object c).result = .ok true then asked more c object else [] := by
  rw [asked, List.take_succ_cons, List.findIdx_cons]
  by_cases h : (p.test object c).result = .ok true
  · simp [h, asked]
  · simp [h]

/-- The tests of an object, in order. -/
def attempts (predicates : List (Predicate α)) (c : Codebase) (object : α) :
    List (Except RuleError Unit) :=
  (asked predicates c object).map fun p => (p.test object c).attempt

theorem tries_passesAll (predicates : List (Predicate α)) (object : α) (c : Codebase) :
    (passesAll predicates object c).Tries (attempts predicates c object) := by
  induction predicates with
  | nil => exact .pure true
  | cons p more ih =>
    rw [attempts, asked_cons, List.map_cons, ← List.singleton_append]
    refine (Eval.Tries.attempt (p.test object c)).bind fun passed hpassed => ?_
    cases passed with
    | false =>
      rw [if_neg Bool.false_ne_true, if_neg (by simp [hpassed])]
      exact .pure false
    | true =>
      rw [if_pos rfl, if_pos hpassed]
      exact ih

/-- **A filter tries object by object.** -/
theorem tries_filter (predicates : List (Predicate α)) (c : Codebase) (objects : List α) :
    (filter predicates c objects).Tries (objects.flatMap (attempts predicates c)) := by
  induction objects with
  | nil => exact .pure []
  | cons object rest ih =>
    rw [List.flatMap_cons]
    exact (tries_passesAll predicates object c).bind fun _ _ =>
      ih.bind_of_no_attempt fun _ _ => .pure _

end Predicate

/-! ### The assertion -/

/-- What is tried to judge some objects: binding, and then the objects in order. -/
def Condition.attempts {α : Type} (p : Condition α) (c : Codebase) (objects : List α) :
    List (Except RuleError Unit) :=
  match (p.bindTo c).result with
  | .error e => [.error e]
  | .ok judge => objects.map fun object => (judge object).attempt

namespace Assertion

variable {α : Type}

/-- What is tried to judge the candidates. A condition is bound only if there are any, and to judge
their number nothing is tried. -/
def attempts (a : Assertion α) (c : Codebase) (candidates : List α) :
    List (Except RuleError Unit) :=
  match a with
  | eachObject condition => if candidates = [] then [] else condition.attempts c candidates
  | existence _ => []

variable [Element α]

theorem tries_judgeEach (rule failDescription : String) (judge : α → Eval Verdict)
    (objects : List α) :
    (judgeEach rule failDescription judge objects).Tries
      (objects.map fun object => (judge object).attempt) := by
  induction objects with
  | nil => exact .pure []
  | cons object rest ih =>
    rw [List.map_cons, ← List.singleton_append]
    refine (Eval.Tries.attempt (judge object)).bind fun verdict _ => ?_
    refine ih.bind_of_no_attempt fun others _ => ?_
    match verdict with
    | .pass => exact .pure _
    | .fail none => exact .pure _
    | .fail (some _) => exact .pure _

theorem tries_findings (a : Assertion α) (rule : String) (candidates : List α) (c : Codebase) :
    (a.findings rule candidates c).Tries (a.attempts c candidates) := by
  match a, candidates with
  | existence _, _ => exact .pure _
  | eachObject _, [] => exact .pure _
  | eachObject condition, object :: rest =>
    rw [attempts, if_neg (List.cons_ne_nil object rest), Condition.attempts, findings]
    cases hbind : (condition.bindTo c).result with
    | error e =>
      intro d
      rw [Eval.result_bind_error hbind, FirstError.cons_error_iff, Except.error.injEq]
    | ok judge =>
      rw [Eval.bind_of_ok hbind]
      exact tries_judgeEach rule condition.wording.failDescription judge (object :: rest)

theorem tries_evaluate (a : Assertion α) (rule : String) (candidates : List α) (c : Codebase) :
    (a.evaluate rule candidates c).Tries (a.attempts c candidates) :=
  (a.tries_findings rule candidates c).bind_of_no_attempt fun _ _ => .pure _

/-- Judging a number of candidates cannot fail. -/
theorem exists_result_evaluate_existence (condition : Existence) (rule : String)
    (candidates : List α) (c : Codebase) :
    ∃ report, ((existence condition).evaluate rule candidates c).result = .ok report :=
  (tries_evaluate (existence condition) rule candidates c).exists_result_ok_iff.2
    fun _ h => absurd h List.not_mem_nil

/-- Without candidates there is nothing to find, whatever the condition. -/
theorem evaluate_eachObject_nil (condition : Condition α) (rule : String) (c : Codebase) :
    (eachObject condition).evaluate rule [] c = ⟨.ok (.empty rule), [.evaluated rule 0 0]⟩ :=
  rfl

end Assertion

/-! ### The whole evaluation -/

namespace Draft

variable {α : Type}

/-- A draft reads the same with another assertion that does. -/
theorem describe_congr (d : Draft α) {a b : Assertion α} (h : a.wording = b.wording) :
    d.describeOwn (some a) = d.describeOwn (some b) ∧
      d.describe (some a) = d.describe (some b) := by
  have hdescription : a.description = b.description := congrArg Wording.description h
  have hown : d.describeOwn (some a) = d.describeOwn (some b) := by
    simp only [describeOwn, hdescription]
  exact ⟨hown, by rw [describe, describe, hown]⟩

variable [Element α]

/-- What is tried to evaluate a draft: testing the objects of its kind, one by one; judging those
that pass; and evaluating the rule that is continued. A draft that asserts nothing fails at once. -/
def attempts (d : Draft α) (c : Codebase) : List (Except RuleError Unit) :=
  match d.assertion with
  | none => [.error (.missingCondition d.description)]
  | some a =>
    (d.kind.select c).flatMap (Predicate.attempts d.predicates c) ++
      (a.attempts c ((d.kind.select c).filter fun object =>
        Predicate.Satisfied d.predicates c object) ++
      d.prior.toList.map fun prior => (prior.1.evaluate c).attempt)

/-- **An evaluation tries in a fixed order.** -/
theorem tries_evaluate (d : Draft α) (c : Codebase) : (d.evaluate c).Tries (d.attempts c) := by
  rw [evaluate, attempts]
  cases d.assertion with
  | none => exact .fail _
  | some a =>
    refine (Predicate.tries_filter d.predicates c (d.kind.select c)).bind fun candidates h => ?_
    rw [← Predicate.eq_filter_of_result_ok h]
    refine (a.tries_evaluate _ candidates c).bind fun own _ => ?_
    cases d.prior with
    | none => exact .pure own
    | some prior =>
      have hprior := Eval.Tries.attempt (prior.1.evaluate c)
      exact hprior.bind_of_no_attempt fun _ _ => .pure _

/-- With no candidates left, the condition is not bound. -/
theorem evaluateWith_of_candidates_eq_nil {d : Draft α} {c : Codebase}
    (hcandidates : (d.candidates c).result = .ok []) (condition : Condition α) :
    let a := Assertion.eachObject condition
    d.evaluateWith a c =
      d.candidates c >>= fun _ => Eval.emit (.evaluated (d.describeOwn (some a)) 0 0) >>= fun _ =>
        match d.prior with
        | none => pure (.empty (d.describeOwn (some a)))
        | some (rule, k) => rule.evaluate c >>= fun report =>
          pure (.combine (d.describe (some a)) k report (.empty (d.describeOwn (some a)))) := by
  intro a
  rw [evaluateWith, Eval.bind_of_ok hcandidates, Eval.bind_of_ok hcandidates,
    Assertion.evaluate_eachObject_nil]
  rfl

/-- A draft that asserts nothing quotes the rule that it continues as well. -/
theorem evaluate_of_assertion_eq_none {d : Draft α} (hassertion : d.assertion = none) {rule : Rule}
    {k : Connector} (hprior : d.prior = some (rule, k)) (c : Codebase) :
    d.evaluate c = .fail (.missingCondition (k.between rule.description (d.describeOwn none))) := by
  rw [evaluate, hassertion, description, describe, hprior, hassertion]

/-- **The error of an evaluation.** A draft fails with the first error of its attempts, and has a
report just if all of them succeed. If nothing is asserted, the error quotes the whole sentence. If
no candidate is left, the condition on each object is not bound: any other condition that reads the
same leads to the same evaluation, and there is nothing of the draft's own to report. A condition on
the number of objects does not fail at all. -/
theorem evaluate_fails_first (d : Draft α) (c : Codebase) :
    (∀ e, (d.evaluate c).result = .error e ↔ FirstError e (d.attempts c)) ∧
    ((∃ report, (d.evaluate c).result = .ok report) ↔ ∀ r ∈ d.attempts c, ∃ u, r = .ok u) ∧
    (∀ rule k, d.assertion = none → d.prior = some (rule, k) → d.evaluate c =
      .fail (.missingCondition (k.between rule.description (d.describeOwn none)))) ∧
    (∀ condition, d.assertion = some (.eachObject condition) → (d.candidates c).result = .ok [] →
      (∀ other : Condition α, other.wording = condition.wording →
        { d with assertion := some (.eachObject other) }.evaluate c = d.evaluate c) ∧
      (d.prior = none → (d.evaluate c).result = .ok (.empty d.description)) ∧
      ∀ rule k report, d.prior = some (rule, k) → (rule.evaluate c).result = .ok report →
        (d.evaluate c).result =
          .ok (.combine d.description k report (.empty (d.describeOwn d.assertion)))) ∧
    ∀ (condition : Existence) (rule : String) (candidates : List α), ∃ report,
      ((Assertion.existence condition).evaluate rule candidates c).result = .ok report := by
  have htries := d.tries_evaluate c
  refine ⟨htries, htries.exists_result_ok_iff,
    fun rule k hassertion hprior => evaluate_of_assertion_eq_none hassertion hprior c,
    fun condition hassertion hcandidates => ?_, fun condition rule candidates =>
      Assertion.exists_result_evaluate_existence condition rule candidates c⟩
  have hevaluate : d.evaluate c = d.evaluateWith (.eachObject condition) c := by
    rw [evaluate, hassertion]
  rw [hevaluate, evaluateWith_of_candidates_eq_nil hcandidates, description, hassertion]
  refine ⟨fun other hwording => ?_, fun hprior => ?_, fun rule k report hprior hreport => ?_⟩
  · have hreads : (Assertion.eachObject other).wording = (Assertion.eachObject condition).wording :=
      hwording
    obtain ⟨hown, hwhole⟩ := d.describe_congr hreads
    show d.evaluateWith (.eachObject other) c = _
    rw [evaluateWith_of_candidates_eq_nil hcandidates, hown, hwhole]
  · rw [hprior, Eval.result_bind_ok hcandidates, describe, hprior]
    rfl
  · rw [hprior, Eval.result_bind_ok hcandidates]
    exact Eval.result_bind_ok hreport _

/-- The demand to be cached, which cannot be bound. -/
def unbound : Condition TypeDecl :=
  .prepared (fun _ => .fail (.missingCondition "caches")) "be cached" "is not cached"

/-- Private classes should be cached. -/
def privateRule : Draft TypeDecl :=
  ((start Kind.classes).that ((Criterion.visibility .priv).predicate false)).require unbound

theorem evaluate_fails_first_shop :
    (privateRule.evaluate (.ofTypes shopTypes)).result =
      .ok (.empty "Classes that are private should be cached") ∧
    (((continuing openRule .and .classes).require unbound).evaluate (.ofTypes shopTypes)).result =
      .error (.missingCondition "caches") ∧
    ((privateRule.after openRule .and).evaluate (.ofTypes shopTypes)).result =
      .error (.missingCondition "Classes") ∧
    ((continuing openRule .and Kind.classes).evaluate (.ofTypes shopTypes)) =
      .fail (.missingCondition "Classes and Classes") := by
  obtain ⟨-, -, -, hprivate, -⟩ := evaluate_fails_first privateRule (.ofTypes shopTypes)
  obtain ⟨hbinding, -⟩ := evaluate_fails_first ((continuing openRule .and .classes).require unbound)
    (.ofTypes shopTypes)
  obtain ⟨hprior, -⟩ := evaluate_fails_first (privateRule.after openRule .and) (.ofTypes shopTypes)
  obtain ⟨-, -, hmissing, -⟩ :=
    evaluate_fails_first (continuing openRule .and Kind.classes) (.ofTypes shopTypes)
  -- the two classes are each tested once before the continued rule is evaluated
  exact ⟨(hprivate unbound rfl rfl).2.1 rfl, (hbinding _).2 (.here _),
    (hprior _).2 (.later _ (.later _ (.here _))), hmissing openRule .and rfl rfl⟩

end Draft

end DesignRules
