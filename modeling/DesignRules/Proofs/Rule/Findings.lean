import DesignRules.Catalogue.Criterion
import DesignRules.Draft
import Mathlib.Control.Monad.Basic
import Mathlib.Data.List.Forall2

/-!
# What a rule finds

A rule with a condition on each object reports the objects that it is about and that its condition
does not pass: each of them, in the order of the codebase, and no others. Between the codebase and
the report stand the choice of a kind, the filter with its short-circuiting predicates, the binding
of the condition and the loop over the candidates. Each of these gets one statement here.

## Sound and total, apart

Every step comes with two statements. The first says what the result is *if there is one*, and it
needs no hypothesis: a filter that comes to an end has asked every predicate it had to. The second
says that there is a result, given that nothing which is asked fails. Only the second kind speaks
of errors, so the first kind can be used wherever an evaluation is known to have succeeded.

## Main definitions

* `Predicate.Satisfied` — an object passes every predicate of a list
* `Report.places` — the objects that the findings of a report name, one by one
* `Assertion.Finding` — a violation is the one that belongs to an object
* `Draft.Offends` — an object the rule is about, and that its bound condition does not pass

## Main results

* `Predicate.eq_filter_of_result_ok`, `Predicate.exists_result_filter` — the filter
* `Assertion.forall₂_of_result_judgeEach`, `Assertion.exists_result_judgeEach` — the candidates
* `Draft.forall₂_of_result_evaluate`, `Draft.exists_result_evaluate` — the whole evaluation
* `Draft.evaluate_reports_offenders` — a report holds the offenders, each once
-/

namespace DesignRules

/-! ### The filter -/

namespace Predicate

variable {α : Type}

/-- The object passes every predicate of the list. -/
def Satisfied (predicates : List (Predicate α)) (c : Codebase) (object : α) : Prop :=
  ∀ p ∈ predicates, (p.test object c).result = .ok true

instance (predicates : List (Predicate α)) (c : Codebase) (object : α) :
    Decidable (Satisfied predicates c object) :=
  inferInstanceAs (Decidable (∀ p ∈ predicates, (p.test object c).result = .ok true))

theorem satisfied_nil (c : Codebase) (object : α) : Satisfied [] c object := by
  intro p hp
  exact absurd hp List.not_mem_nil

theorem satisfied_cons {p : Predicate α} {more : List (Predicate α)} {c : Codebase} {object : α} :
    Satisfied (p :: more) c object ↔
      (p.test object c).result = .ok true ∧ Satisfied more c object :=
  List.forall_mem_cons

/-- The predicates after the first one that an object does not pass are not asked, and they need
not be: one is enough. -/
theorem eq_decide_of_result_passesAll {predicates : List (Predicate α)} {c : Codebase} {object : α}
    {kept : Bool} (h : (passesAll predicates object c).result = .ok kept) :
    kept = decide (Satisfied predicates c object) := by
  induction predicates with
  | nil =>
    obtain rfl : true = kept := Except.ok.inj h
    exact (decide_eq_true (satisfied_nil c object)).symm
  | cons p more ih =>
    obtain ⟨passed, htest, hrest⟩ := Eval.exists_of_result_bind_ok h
    cases passed with
    | false =>
      obtain rfl : false = kept := Except.ok.inj hrest
      refine (decide_eq_false fun hall => ?_).symm
      rw [(satisfied_cons.1 hall).1] at htest
      exact absurd htest (by simp)
    | true =>
      rw [ih hrest]
      exact decide_eq_decide.2 ⟨fun hmore => satisfied_cons.2 ⟨htest, hmore⟩,
        fun hall => (satisfied_cons.1 hall).2⟩

theorem exists_result_passesAll {predicates : List (Predicate α)} {c : Codebase} {object : α}
    (h : ∀ p ∈ predicates, ∃ passed, (p.test object c).result = .ok passed) :
    ∃ kept, (passesAll predicates object c).result = .ok kept := by
  induction predicates with
  | nil => exact ⟨true, rfl⟩
  | cons p more ih =>
    obtain ⟨passed, htest⟩ := h p (List.mem_cons_self ..)
    rw [passesAll, Eval.result_bind_ok htest]
    cases passed with
    | false => exact ⟨false, rfl⟩
    | true => exact ih fun q hq => h q (List.mem_cons_of_mem _ hq)

/-- **A filter keeps the objects that pass every predicate**, in order and as often as they
occur. -/
theorem eq_filter_of_result_ok {predicates : List (Predicate α)} {c : Codebase}
    {objects kept : List α} (h : (filter predicates c objects).result = .ok kept) :
    kept = objects.filter fun object => Satisfied predicates c object := by
  induction objects generalizing kept with
  | nil => exact (Except.ok.inj h).symm
  | cons object rest ih =>
    obtain ⟨passed, hpassed, h⟩ := Eval.exists_of_result_bind_ok h
    obtain ⟨others, hothers, h⟩ := Eval.exists_of_result_bind_ok h
    obtain rfl : (if passed then object :: others else others) = kept := Except.ok.inj h
    rw [List.filter_cons, ← ih hothers, eq_decide_of_result_passesAll hpassed]

theorem exists_result_filter {predicates : List (Predicate α)} {c : Codebase} {objects : List α}
    (h : ∀ p ∈ predicates, ∀ object ∈ objects, ∃ passed, (p.test object c).result = .ok passed) :
    ∃ kept, (filter predicates c objects).result = .ok kept := by
  induction objects with
  | nil => exact ⟨[], rfl⟩
  | cons object rest ih =>
    obtain ⟨passed, hpassed⟩ := exists_result_passesAll fun p hp =>
      h p hp object (List.mem_cons_self ..)
    obtain ⟨others, hothers⟩ := ih fun p hp o ho => h p hp o (List.mem_cons_of_mem _ ho)
    refine ⟨if passed then object :: others else others, ?_⟩
    rw [filter, Eval.result_bind_ok hpassed, Eval.result_bind_ok hothers]
    rfl

/-- The first test of the first object has nothing before it that could decide. -/
theorem result_filter_cons_error {p : Predicate α} {more : List (Predicate α)} {object : α}
    {c : Codebase} {e : RuleError} (h : (p.test object c).result = .error e) (rest : List α) :
    (filter (p :: more) c (object :: rest)).result = .error e := by
  have hpasses : (passesAll (p :: more) object c).result = .error e := Eval.result_bind_error h _
  exact Eval.result_bind_error hpasses _

end Predicate

/-! ### The places of findings -/

namespace Report

/-- The objects that the findings name, one by one. A finding that is about there being no object
names none. -/
def places (report : Report) : List (Option String) := report.violations.map Violation.object

theorem violatingObjects_eq_filterMap_places (report : Report) :
    report.violatingObjects = report.places.filterMap id := by
  rw [places, List.filterMap_map]
  rfl

theorem passed_eq_isEmpty_places (report : Report) : report.passed = report.places.isEmpty :=
  List.isEmpty_map.symm

end Report

/-! ### The candidates -/

namespace Assertion

variable {α : Type} [Element α]

/-- The violation is what a rule reports about an object that its bound condition `judge` does not
pass. -/
structure Finding (rule failDescription : String) (judge : α → Eval Verdict) (object : α)
    (v : Violation) : Prop where
  /-- It names the rule. -/
  rule_eq : v.rule = rule
  /-- It names the object. -/
  object_eq : v.object = some (Element.fullName object)
  /-- It is an error. -/
  severity_eq : v.severity = .error
  /-- It says what is wrong, and where if the verdict says so. -/
  message_eq : ∃ detail, (judge object).result = .ok (.fail detail) ∧
    v.message =
      match detail with
      | none => failDescription
      | some text => failDescription ++ ": " ++ text

theorem forall₂_of_result_judgeEach {rule failDescription : String} {judge : α → Eval Verdict}
    {objects : List α} {violations : List Violation}
    (h : (judgeEach rule failDescription judge objects).result = .ok violations) :
    List.Forall₂ (Finding rule failDescription judge)
      (objects.filter fun object => (judge object).result ≠ .ok .pass) violations := by
  induction objects generalizing violations with
  | nil =>
    obtain rfl : [] = violations := Except.ok.inj h
    exact .nil
  | cons object rest ih =>
    obtain ⟨verdict, hverdict, h⟩ := Eval.exists_of_result_bind_ok h
    obtain ⟨others, hothers, h⟩ := Eval.exists_of_result_bind_ok h
    rw [List.filter_cons, hverdict]
    match verdict with
    | .pass =>
      obtain rfl : others = violations := Except.ok.inj h
      exact ih hothers
    | .fail none =>
      obtain rfl := Except.ok.inj h
      exact .cons ⟨rfl, rfl, rfl, none, hverdict, rfl⟩ (ih hothers)
    | .fail (some detail) =>
      obtain rfl := Except.ok.inj h
      exact .cons ⟨rfl, rfl, rfl, some detail, hverdict, rfl⟩ (ih hothers)

theorem exists_result_judgeEach (rule failDescription : String) {judge : α → Eval Verdict}
    {objects : List α} (h : ∀ object ∈ objects, ∃ verdict, (judge object).result = .ok verdict) :
    ∃ violations, (judgeEach rule failDescription judge objects).result = .ok violations := by
  induction objects with
  | nil => exact ⟨[], rfl⟩
  | cons object rest ih =>
    obtain ⟨verdict, hverdict⟩ := h object (List.mem_cons_self ..)
    obtain ⟨others, hothers⟩ := ih fun o ho => h o (List.mem_cons_of_mem _ ho)
    rw [judgeEach, Eval.result_bind_ok hverdict, Eval.result_bind_ok hothers]
    match verdict with
    | .pass => exact ⟨_, rfl⟩
    | .fail none => exact ⟨_, rfl⟩
    | .fail (some detail) => exact ⟨_, rfl⟩

/-- With no candidate the condition is not bound, but then there is nothing to judge either. -/
theorem result_findings_eachObject {condition : Condition α} {c : Codebase}
    {judge : α → Eval Verdict} (hbind : (condition.bindTo c).result = .ok judge) (rule : String)
    (candidates : List α) :
    ((eachObject condition).findings rule candidates c).result =
      (judgeEach rule condition.wording.failDescription judge candidates).result := by
  cases candidates with
  | nil => rfl
  | cons object rest => rw [findings, Eval.result_bind_ok hbind]

theorem exists_judge_of_result_findings {condition : Condition α} {c : Codebase} {rule : String}
    {candidates : List α} {violations : List Violation}
    (h : ((eachObject condition).findings rule candidates c).result = .ok violations) :
    ∃ judge, (judgeEach rule condition.wording.failDescription judge candidates).result =
      .ok violations := by
  cases candidates with
  | nil => exact ⟨fun _ => pure .pass, h⟩
  | cons object rest =>
    obtain ⟨judge, -, hjudge⟩ := Eval.exists_of_result_bind_ok h
    exact ⟨judge, hjudge⟩

theorem result_evaluate {a : Assertion α} {rule : String} {candidates : List α} {c : Codebase}
    {violations : List Violation} (h : (a.findings rule candidates c).result = .ok violations) :
    (a.evaluate rule candidates c).result = .ok ⟨rule, violations⟩ := by
  rw [evaluate, Eval.result_bind_ok h]
  rfl

theorem exists_of_result_evaluate {a : Assertion α} {rule : String} {candidates : List α}
    {c : Codebase} {report : Report} (h : (a.evaluate rule candidates c).result = .ok report) :
    ∃ violations, (a.findings rule candidates c).result = .ok violations ∧
      report = ⟨rule, violations⟩ := by
  obtain ⟨violations, hfindings, h⟩ := Eval.exists_of_result_bind_ok h
  exact ⟨violations, hfindings, (Except.ok.inj h).symm⟩

/-- The names in the findings are those of the objects found. -/
theorem violatingObjects_of_forall₂ {rule failDescription : String} {judge : α → Eval Verdict}
    {objects : List α} {violations : List Violation}
    (h : List.Forall₂ (Finding rule failDescription judge) objects violations) :
    (Report.mk rule violations).violatingObjects = objects.map Element.fullName := by
  induction h with
  | nil => rfl
  | cons hfinding _ ih =>
    rw [Report.violatingObjects, List.filterMap_cons, hfinding.object_eq, List.map_cons, ← ih]
    rfl

end Assertion

/-! ### The whole evaluation -/

namespace Draft

variable {α : Type}

/-- The rule is about the object, and its bound condition `judge` does not pass it. -/
def Offends (d : Draft α) (judge : α → Eval Verdict) (c : Codebase) (object : α) : Prop :=
  Predicate.Satisfied d.predicates c object ∧ (judge object).result ≠ .ok .pass

instance (d : Draft α) (judge : α → Eval Verdict) (c : Codebase) (object : α) :
    Decidable (d.Offends judge c object) :=
  inferInstanceAs (Decidable (_ ∧ _))

theorem filter_offends (d : Draft α) (judge : α → Eval Verdict) (c : Codebase)
    (objects : List α) :
    (objects.filter fun object => d.Offends judge c object) =
      (objects.filter fun object => Predicate.Satisfied d.predicates c object).filter
        fun object => (judge object).result ≠ .ok .pass := by
  rw [List.filter_filter]
  refine List.filter_congr fun object _ => ?_
  rw [← Bool.decide_and]
  exact decide_eq_decide.2 and_comm

variable [Element α]

/-- A draft that continues no other rule is judged on its candidates alone. -/
theorem evaluate_of_prior_eq_none {d : Draft α} (hprior : d.prior = none) {a : Assertion α}
    (hassertion : d.assertion = some a) (c : Codebase) :
    d.evaluate c = d.candidates c >>= fun candidates => a.evaluate d.description candidates c := by
  have hdescription : d.describeOwn (some a) = d.description := by
    rw [description, describe, hprior, hassertion]
  rw [evaluate, hassertion]
  show d.evaluateWith a c = _
  rw [evaluateWith, hprior, hdescription]
  simp only [bind_pure]

theorem exists_candidates_of_result_evaluate {d : Draft α} (hprior : d.prior = none)
    {a : Assertion α} (hassertion : d.assertion = some a) {c : Codebase} {report : Report}
    (h : (d.evaluate c).result = .ok report) :
    ∃ violations, (a.findings d.description
        ((d.kind.select c).filter fun object => Predicate.Satisfied d.predicates c object) c).result
          = .ok violations ∧ report = ⟨d.description, violations⟩ := by
  rw [evaluate_of_prior_eq_none hprior hassertion] at h
  obtain ⟨candidates, hcandidates, h⟩ := Eval.exists_of_result_bind_ok h
  obtain rfl := Predicate.eq_filter_of_result_ok hcandidates
  exact Assertion.exists_of_result_evaluate h

/-- What the report of a per-object rule holds, if there is a report. -/
theorem forall₂_of_result_evaluate {d : Draft α} (hprior : d.prior = none)
    {condition : Condition α} (hassertion : d.assertion = some (.eachObject condition))
    {c : Codebase} {judge : α → Eval Verdict} (hbind : (condition.bindTo c).result = .ok judge)
    {report : Report} (h : (d.evaluate c).result = .ok report) :
    report.description = d.description ∧
      List.Forall₂ (Assertion.Finding d.description condition.wording.failDescription judge)
        ((d.kind.select c).filter fun object => d.Offends judge c object) report.violations := by
  obtain ⟨violations, hfindings, rfl⟩ :=
    exists_candidates_of_result_evaluate hprior hassertion h
  rw [Assertion.result_findings_eachObject hbind] at hfindings
  refine ⟨rfl, ?_⟩
  rw [filter_offends]
  exact Assertion.forall₂_of_result_judgeEach hfindings

theorem exists_result_evaluate {d : Draft α} (hprior : d.prior = none) {condition : Condition α}
    (hassertion : d.assertion = some (.eachObject condition)) {c : Codebase}
    {judge : α → Eval Verdict} (hbind : (condition.bindTo c).result = .ok judge)
    (htests : ∀ p ∈ d.predicates, ∀ object ∈ d.kind.select c,
      ∃ passed, (p.test object c).result = .ok passed)
    (hchecks : ∀ object ∈ d.kind.select c, Predicate.Satisfied d.predicates c object →
      ∃ verdict, (judge object).result = .ok verdict) :
    ∃ report, (d.evaluate c).result = .ok report := by
  obtain ⟨candidates, hcandidates⟩ : ∃ candidates, (d.candidates c).result = .ok candidates :=
    Predicate.exists_result_filter htests
  have hjudged : ∀ object ∈ candidates, ∃ verdict, (judge object).result = .ok verdict := by
    intro object hobject
    rw [Predicate.eq_filter_of_result_ok hcandidates, List.mem_filter] at hobject
    exact hchecks object hobject.1 (of_decide_eq_true hobject.2)
  obtain ⟨violations, hviolations⟩ :=
    Assertion.exists_result_judgeEach d.description condition.wording.failDescription hjudged
  refine ⟨⟨d.description, violations⟩, ?_⟩
  rw [evaluate_of_prior_eq_none hprior hassertion, Eval.result_bind_ok hcandidates]
  refine Assertion.result_evaluate ?_
  rw [Assertion.result_findings_eachObject hbind, hviolations]

/-- Types of one codebase have different names, so no name is found twice. -/
theorem nodup_violatingObjects {d : Draft TypeDecl} (hprior : d.prior = none)
    {condition : Condition TypeDecl} (hassertion : d.assertion = some (.eachObject condition))
    {c : Codebase} {report : Report} (h : (d.evaluate c).result = .ok report) :
    report.violatingObjects.Nodup := by
  obtain ⟨violations, hfindings, rfl⟩ :=
    exists_candidates_of_result_evaluate hprior hassertion h
  obtain ⟨judge, hjudge⟩ := Assertion.exists_judge_of_result_findings hfindings
  rw [Assertion.violatingObjects_of_forall₂ (Assertion.forall₂_of_result_judgeEach hjudge)]
  refine c.nodup_fullName.sublist (List.Sublist.map _ ?_)
  -- the offenders are left of the candidates, and these of the types of the kind
  exact (List.filter_sublist.trans List.filter_sublist).trans List.filter_sublist

/-- **A report holds the offenders, each once.** A rule that continues no other one and has a
condition on each object reports those objects of its kind that pass all its predicates and that
the bound condition does not pass, one finding for each and in the same order, provided that
nothing it asks of them fails. A rule about types never names a type twice, whatever list of types
the codebase was made from. -/
theorem evaluate_reports_offenders :
    (∀ {α : Type} [Element α] (d : Draft α) (condition : Condition α) (c : Codebase)
        (judge : α → Eval Verdict), d.prior = none →
      d.assertion = some (.eachObject condition) →
      (∀ p ∈ d.predicates, ∀ object ∈ d.kind.select c,
        ∃ passed, (p.test object c).result = .ok passed) →
      (condition.bindTo c).result = .ok judge →
      (∀ object ∈ d.kind.select c, Predicate.Satisfied d.predicates c object →
        ∃ verdict, (judge object).result = .ok verdict) →
      ∃ report, (d.evaluate c).result = .ok report ∧ report.description = d.description ∧
        List.Forall₂ (Assertion.Finding d.description condition.wording.failDescription judge)
          ((d.kind.select c).filter fun object => d.Offends judge c object) report.violations) ∧
    ∀ (d : Draft TypeDecl) (condition : Condition TypeDecl) (types : List TypeDecl)
        (report : Report), d.prior = none → d.assertion = some (.eachObject condition) →
      (d.evaluate (.ofTypes types)).result = .ok report → report.violatingObjects.Nodup := by
  constructor
  · intro α _ d condition c judge hprior hassertion htests hbind hchecks
    obtain ⟨report, hreport⟩ := exists_result_evaluate hprior hassertion hbind htests hchecks
    exact ⟨report, hreport, forall₂_of_result_evaluate hprior hassertion hbind hreport⟩
  · intro d condition types report hprior hassertion hreport
    exact nodup_violatingObjects hprior hassertion hreport

/-- A page that uses the store twice, the store, and a second type of the page's name. -/
def shopTypes : List TypeDecl :=
  let page := TypeDecl.ofName .classType "Shop.Web.Page"
  [(page.dependingOn .fieldType "Shop.Data.Store").dependingOn .methodCall "Shop.Data.Store",
    TypeDecl.ofName .classType "Shop.Data.Store", page]

/-- Public classes should not depend on what is below `Shop.Data`. -/
def shopRule : Draft TypeDecl :=
  ((start Kind.classes).that ((Criterion.visibility .pub).predicate false)).require
    ((Criterion.dependsOn ⟨"Shop.Data.**"⟩).condition true).lift

theorem evaluate_reports_offenders_shop :
    ∃ report, (shopRule.evaluate (.ofTypes shopTypes)).result = .ok report ∧
      report.description = shopRule.description ∧
      List.Forall₂ (Assertion.Finding shopRule.description "does depend on \"Shop.Data.**\""
          fun t => pure (((Criterion.dependsOn ⟨"Shop.Data.**"⟩).condition true).check t))
        (shopTypes.take 1) report.violations ∧
      report.violatingObjects.Nodup := by
  have htests : ∀ p ∈ shopRule.predicates, ∀ t ∈ shopRule.kind.select (.ofTypes shopTypes),
      ∃ passed, (p.test t (.ofTypes shopTypes)).result = .ok passed := by
    intro p hp t _
    obtain rfl := List.mem_singleton.1 hp
    exact ⟨_, rfl⟩
  obtain ⟨report, hreport, hdescription, hfindings⟩ := evaluate_reports_offenders.1 shopRule
    ((Criterion.dependsOn ⟨"Shop.Data.**"⟩).condition true).lift (.ofTypes shopTypes) _ rfl rfl
    htests rfl fun _ _ _ => ⟨_, rfl⟩
  exact ⟨report, hreport, hdescription, hfindings,
    evaluate_reports_offenders.2 shopRule _ shopTypes report rfl rfl hreport⟩

end Draft

end DesignRules
