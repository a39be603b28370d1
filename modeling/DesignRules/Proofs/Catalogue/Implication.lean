import DesignRules.Proofs.Catalogue.Answers
import DesignRules.Proofs.Condition.Families
import DesignRules.Proofs.Rule.Steady
import DesignRules.Proofs.Sentence.Drafting

/-!
# Filters as part of the assertion

That the objects with a property should meet a condition can also be said of all objects: each of
them should lack the property, or meet the condition. And that there should be no object with a
property can be said in the same way, of each object, that it should lack it. With predicates from
the catalogue, whose negations can stand as conditions, a rule can therefore do without a filter.

## One clause at a time

What both rules report is a matter of the objects that are rejected, so the texts of findings are
left aside: `Condition.Rejects` relates a condition to the objects it is judged on and to those it
does not pass. A disjunction that begins with the negation of a question rejects what the rest of it
rejects among the objects that the question picks (`Question.rejects_of_join`). This is one step of
the filter, and the rest is induction.

## What may fail

Bringing the negations together costs something. A filter stops at the first predicate that an
object does not pass, and with no candidate left the condition is not bound; a disjunction binds all
of its parts as soon as there is an object. So a provider may fail in the disjunction that the
filter never asks. The converse does not happen: where the rule without a filter has a report, so
has the rule with the filter.

## Main definitions

* `joinAll`, `Formula.Uniform` — a chain of one connector, and any tree of it
* `Draft.Call.alternatives` — the calls that demand one of several conditions
* `Condition.Rejects` — the objects among others that a condition does not pass
* `Report.IsAbout` — a report has one finding about each of some objects, in order

## Main results

* `Formula.Uniform.combine_eq_joinAll` — a chain of one connector needs no grouping
* `Draft.run_alternatives` — the calls for alternatives make a disjunction
* `Question.rejects_of_join`, `Question.rejects_of_negation` — one clause of a filter
* `Draft.filter_moves_into_assertion` — whole rules
-/

namespace DesignRules

/-! ### Chains of one connector -/

section Chains

variable {κ : Type} [Join κ] {k : Connector}

/-- Things joined one after the other with the same connector. -/
def joinAll (k : Connector) (first : κ) (rest : List κ) : κ := rest.foldl (Join.join k) first

theorem joinAll_cons [LawfulJoin κ] (k : Connector) (first second : κ) (rest : List κ) :
    joinAll k first (second :: rest) = Join.join k first (joinAll k second rest) := by
  have hassoc : Std.Associative (Join.join k : κ → κ → κ) := ⟨LawfulJoin.join_assoc k⟩
  exact List.foldl_assoc

/-- All joins of the tree are with the same connector. -/
def Formula.Uniform {α : Type} (k : Connector) : Formula α → Prop
  | .leaf _ => True
  | .join c f g => c = k ∧ Uniform k f ∧ Uniform k g

/-- **A chain of one connector needs no grouping**: whatever the tree, it is its leaves joined one
after the other. -/
theorem Formula.Uniform.combine_eq_joinAll [LawfulJoin κ] {f : Formula κ} (h : f.Uniform k)
    {first : κ} {rest : List κ} (hleaves : f.leaves = first :: rest) :
    f.combine = joinAll k first rest := by
  induction f generalizing first rest with
  | leaf a =>
    obtain ⟨rfl, rfl⟩ := List.cons.inj hleaves
    rfl
  | join c f g ihfirst ihsecond =>
    obtain ⟨rfl, hf, hg⟩ := h
    obtain ⟨a, as, has⟩ := List.exists_cons_of_ne_nil f.leaves_ne_nil
    obtain ⟨b, bs, hbs⟩ := List.exists_cons_of_ne_nil g.leaves_ne_nil
    have hall : a :: (as ++ b :: bs) = first :: rest := by
      rw [← hleaves, leaves, has, hbs, List.cons_append]
    obtain ⟨rfl, rfl⟩ := List.cons.inj hall
    show Join.join c f.combine g.combine = _
    rw [ihfirst hf has, ihsecond hg hbs, ← joinAll_cons, joinAll, joinAll, joinAll,
      List.foldl_append]

theorem joinAll_eq_foldr [LawfulJoin κ] {init : List κ} {last first : κ} {rest : List κ}
    (h : init ++ [last] = first :: rest) :
    joinAll k first rest = init.foldr (Join.join k) last := by
  induction init generalizing first rest with
  | nil =>
    obtain ⟨rfl, rfl⟩ := List.cons.inj h
    rfl
  | cons a init ih =>
    obtain ⟨rfl, hrest⟩ : a = first ∧ init ++ [last] = rest := List.cons.inj h
    obtain ⟨b, bs, hb⟩ := List.exists_cons_of_ne_nil
      (List.append_ne_nil_of_right_ne_nil init (List.cons_ne_nil last []))
    rw [← hrest, hb, joinAll_cons, ih hb, List.foldr_cons]

end Chains

variable {α : Type}

namespace Draft

/-- The calls that demand one of several conditions. -/
def Call.alternatives : List (Condition α) → List (Call α)
  | [] => []
  | first :: rest => .require first :: rest.flatMap fun p => [.joinNext .or, .require p]

/-- One alternative after the other is joined to what is asserted already. -/
theorem run_further_alternatives {d : Draft α} {current : Condition α}
    (hassertion : d.assertion = some (.eachObject current)) (hpending : d.pending = none)
    (rest : List (Condition α)) :
    d.run (rest.flatMap fun p => [.joinNext .or, .require p]) =
      { d with assertion := some (.eachObject (joinAll .or current rest)) } := by
  induction rest generalizing d current with
  | nil =>
    show d = { d with assertion := some (.eachObject current) }
    rw [← hassertion]
  | cons p rest ih =>
    have hjoined : (d.joinNext .or).require p =
        { d with assertion := some (.eachObject (.join .or current p)) } := by
      rw [require, preview, joinNext, hassertion, ← hpending]
      rfl
    rw [List.flatMap_cons, List.cons_append, List.cons_append, List.nil_append, run_cons, run_cons,
      call, call, hjoined]
    exact ih rfl hpending

/-- **The calls for alternatives make a disjunction.** -/
theorem run_alternatives (κ : Kind α) (first : Condition α) (rest : List (Condition α)) :
    (start κ).run (Call.alternatives (first :: rest)) =
      (start κ).require (joinAll .or first rest) :=
  run_further_alternatives (d := (start κ).require first) rfl rfl rest

theorem run_alternatives_concat (κ : Kind α) (init : List (Condition α)) (last : Condition α) :
    (start κ).run (Call.alternatives (init ++ [last])) =
      (start κ).require (init.foldr (Join.join .or) last) := by
  obtain ⟨first, rest, h⟩ := List.exists_cons_of_ne_nil
    (List.append_ne_nil_of_right_ne_nil init (List.cons_ne_nil last []))
  rw [h, run_alternatives, joinAll_eq_foldr h]

theorem run_map_that (d : Draft α) (predicates : List (Predicate α)) :
    d.run (predicates.map .that) = { d with predicates := d.predicates ++ predicates } := by
  induction predicates generalizing d with
  | nil => rw [List.append_nil]; rfl
  | cons p rest ih =>
    rw [List.map_cons, run_cons, ih]
    show ({ d with predicates := (d.predicates ++ [p]) ++ rest } : Draft α) = _
    rw [List.append_assoc, List.singleton_append]

end Draft

/-! ### Rejected objects -/

variable {c : Codebase} {objects rejected : List α}

/-- Judging the objects by the condition succeeds, and these are the ones that it does not pass.
With no object the condition is not even bound. -/
inductive Condition.Rejects (p : Condition α) (c : Codebase) : List α → List α → Prop
  | none : Rejects p c [] []
  | judged {judge : α → Eval Verdict} (hbind : (p.bindTo c).result = .ok judge) {objects : List α}
      (hjudge : ∀ object ∈ objects, ∃ verdict, (judge object).result = .ok verdict) :
      Rejects p c objects (objects.filter fun object => (judge object).result ≠ .ok .pass)

/-- A disjunction whose first operand fails passes just if the second operand does. -/
theorem Verdict.map_either_eq_pass_iff {verdict : Verdict} (h : verdict.passed = false)
    (second : Answer) : second.map verdict.either = .ok .pass ↔ second = .ok .pass := by
  cases verdict with
  | pass => cases h
  | fail detail =>
    cases second with
    | error e => simp [Except.map]
    | ok other => cases other <;> simp [Except.map, either]

/-- The first operand of a disjunction decides if it passes, and otherwise the second one does. -/
theorem Condition.result_joinJudgements_or (verdict : α → Verdict) (second : α → Eval Verdict)
    (object : α) :
    (joinJudgements .or (fun object => pure (verdict object)) second object).result =
      if (verdict object).passed then .ok .pass
      else (second object).result.map (verdict object).either := by
  rw [Formula.result_joinJudgements, Eval.result_pure]
  cases verdict object with
  | pass => rfl
  | fail detail => rfl

namespace Question

variable [Element α]

/-- Where the negation of a question can be bound, the question picks objects, and what is bound
passes the others. -/
theorem exists_of_result_bindTo {q : Question α} {negated : Bool} {judge : α → Eval Verdict}
    (h : ((q.condition (!negated)).bindTo c).result = .ok judge) :
    ∃ (picks : α → Bool) (verdict : α → Verdict),
      (∀ object, ((q.predicate negated).test object c).result = .ok (picks object)) ∧
      judge = (fun object => pure (verdict object)) ∧
      ∀ object, (verdict object).passed = !picks object := by
  obtain ⟨e, -, hbind⟩ | ⟨holds, verdict, hanswer, hbind, hpassed⟩ :=
    q.result_bindTo_cases (!negated) c
  · rw [hbind] at h
    cases h
  · rw [hbind] at h
    refine ⟨fun object => holds object != negated, verdict, fun object => ?_,
      (Except.ok.inj h).symm, fun object => ?_⟩
    · rw [q.result_test, hanswer]
      rfl
    · rw [hpassed]
      cases negated <;> simp

/-- **One clause of a filter.** What a disjunction rejects that begins with the negation of a
question, the rest of it rejects among the objects that the question picks. -/
theorem rejects_of_join {q : Question α} {negated : Bool} {p : Condition α}
    (h : (Condition.join .or (q.condition (!negated)) p).Rejects c objects rejected) :
    ∃ picked, p.Rejects c picked rejected ∧ ∀ more,
      (Predicate.filter (q.predicate negated :: more) c objects).result =
        (Predicate.filter more c picked).result := by
  cases h with
  | none => exact ⟨[], .none, fun more => rfl⟩
  | @judged judge hbind _ hjudge =>
    obtain ⟨first, hfirst, hbind⟩ := Eval.exists_of_result_bind_ok hbind
    obtain ⟨second, hsecond, hbind⟩ := Eval.exists_of_result_bind_ok hbind
    obtain rfl : Condition.joinJudgements .or first second = judge := Except.ok.inj hbind
    obtain ⟨picks, verdict, htest, rfl, hpassed⟩ := exists_of_result_bindTo hfirst
    have hrejected : (objects.filter fun object => (Condition.joinJudgements .or
        (fun object => pure (verdict object)) second object).result ≠ .ok .pass) =
          (objects.filter picks).filter fun object => (second object).result ≠ .ok .pass := by
      rw [List.filter_filter]
      refine List.filter_congr fun object _ => ?_
      rw [Condition.result_joinJudgements_or, hpassed]
      cases hpicks : picks object with
      | false => simp
      | true =>
        have hfails : (verdict object).passed = false := by rw [hpassed, hpicks, Bool.not_true]
        simp [Verdict.map_either_eq_pass_iff hfails]
    rw [hrejected]
    refine ⟨objects.filter picks, .judged hsecond fun object hobject => ?_,
      fun more => Predicate.result_filter_cons htest objects⟩
    -- an object that is picked is left to the second operand, so that one has a verdict
    obtain ⟨hobject, hpicks⟩ := List.mem_filter.1 hobject
    obtain ⟨v, hv⟩ := hjudge object hobject
    rw [Condition.result_joinJudgements_or, hpassed, hpicks] at hv
    cases hother : (second object).result with
    | error e =>
      rw [hother] at hv
      cases hv
    | ok other => exact ⟨other, rfl⟩

/-- The last clause: the negation of a question rejects the objects that the question picks. -/
theorem rejects_of_negation {q : Question α} {negated : Bool}
    (h : (q.condition (!negated)).Rejects c objects rejected) :
    (Predicate.filter [q.predicate negated] c objects).result = .ok rejected := by
  cases h with
  | none => rfl
  | @judged judge hbind _ hjudge =>
    obtain ⟨picks, verdict, htest, rfl, hpassed⟩ := exists_of_result_bindTo hbind
    rw [Predicate.result_filter_cons htest, Predicate.result_filter_nil]
    refine congrArg Except.ok (List.filter_congr fun object _ => ?_)
    have hverdict := hpassed object
    cases hv : verdict object with
    | pass => simpa [hv, Verdict.passed] using hverdict
    | fail detail => simpa [hv, Verdict.passed] using hverdict

/-- The predicates of the clauses of a filter. A clause is a question, plain or negated. -/
def predicates (clauses : List (Question α × Bool)) : List (Predicate α) :=
  clauses.map fun clause => clause.1.predicate clause.2

/-- The negations of the clauses of a filter, as conditions. -/
def negations (clauses : List (Question α × Bool)) : List (Condition α) :=
  clauses.map fun clause => clause.1.condition !clause.2

theorem predicates_concat (init : List (Question α × Bool)) (last : Question α × Bool) :
    predicates (init ++ [last]) = predicates init ++ [last.1.predicate last.2] := by
  rw [predicates, List.map_append]
  rfl

theorem negations_concat (init : List (Question α × Bool)) (last : Question α × Bool) :
    negations (init ++ [last]) = negations init ++ [last.1.condition !last.2] := by
  rw [negations, List.map_append]
  rfl

/-- **The clauses of a filter.** What a disjunction rejects that begins with the negations of some
clauses, the rest of it rejects among the objects that these clauses keep. -/
theorem rejects_of_foldr_negations {clauses : List (Question α × Bool)} {p : Condition α}
    (h : ((negations clauses).foldr (Join.join .or) p).Rejects c objects rejected) :
    ∃ kept, p.Rejects c kept rejected ∧ ∀ more,
      (Predicate.filter (predicates clauses ++ more) c objects).result =
        (Predicate.filter more c kept).result := by
  induction clauses generalizing objects with
  | nil => exact ⟨objects, h, fun more => rfl⟩
  | cons clause rest ih =>
    obtain ⟨picked, hrest, hfilter⟩ := rejects_of_join h
    obtain ⟨kept, hkept, hmore⟩ := ih hrest
    exact ⟨kept, hkept, fun more => (hfilter _).trans (hmore more)⟩

end Question

/-! ### Reports by their objects -/

section Reports

variable [Element α] {p : Condition α}

/-- The report has one finding about each of the objects, in order, and no other. -/
def Report.IsAbout (report : Report) (objects : List α) : Prop :=
  report.places = objects.map fun object => some (Element.fullName object)

namespace Report.IsAbout

variable {report : Report}

theorem violatingObjects_eq (h : report.IsAbout objects) :
    report.violatingObjects = objects.map Element.fullName := by
  rw [Report.violatingObjects_eq_filterMap_places, h, List.filterMap_map]
  exact congrFun List.filterMap_eq_map' objects

theorem passed_eq (h : report.IsAbout objects) : report.passed = objects.isEmpty := by
  rw [Report.passed_eq_isEmpty_places, h, List.isEmpty_map]

end Report.IsAbout

namespace Assertion

theorem isAbout_of_forall₂ {rule failDescription : String} {judge : α → Eval Verdict}
    {violations : List Violation}
    (h : List.Forall₂ (Finding rule failDescription judge) objects violations) :
    (Report.mk rule violations).IsAbout objects := by
  induction h with
  | nil => rfl
  | cons hfinding _ ih => exact congrArg₂ List.cons hfinding.object_eq ih

theorem exists_verdict_of_result_judgeEach {rule failDescription : String}
    {judge : α → Eval Verdict} {violations : List Violation}
    (h : (judgeEach rule failDescription judge objects).result = .ok violations) :
    ∀ object ∈ objects, ∃ verdict, (judge object).result = .ok verdict := by
  induction objects generalizing violations with
  | nil => exact fun object hobject => absurd hobject List.not_mem_nil
  | cons object rest ih =>
    obtain ⟨verdict, hverdict, h⟩ := Eval.exists_of_result_bind_ok h
    obtain ⟨others, hothers, -⟩ := Eval.exists_of_result_bind_ok h
    exact List.forall_mem_cons.2 ⟨⟨verdict, hverdict⟩, ih hothers⟩

theorem exists_result_findings (h : p.Rejects c objects rejected) (rule : String) :
    ∃ violations, ((eachObject p).findings rule objects c).result = .ok violations ∧
      (Report.mk rule violations).IsAbout rejected := by
  cases h with
  | none => exact ⟨[], rfl, rfl⟩
  | judged hbind hjudge =>
    obtain ⟨violations, hviolations⟩ :=
      exists_result_judgeEach rule p.wording.failDescription hjudge
    exact ⟨violations, (result_findings_eachObject hbind rule objects).trans hviolations,
      isAbout_of_forall₂ (forall₂_of_result_judgeEach hviolations)⟩

theorem rejects_of_result_findings {rule : String} {violations : List Violation}
    (h : ((eachObject p).findings rule objects c).result = .ok violations) :
    ∃ rejected, p.Rejects c objects rejected ∧ (Report.mk rule violations).IsAbout rejected := by
  cases objects with
  | nil =>
    obtain rfl : [] = violations := Except.ok.inj h
    exact ⟨[], .none, rfl⟩
  | cons object rest =>
    obtain ⟨judge, hbind, hviolations⟩ := Eval.exists_of_result_bind_ok h
    exact ⟨_, .judged hbind (exists_verdict_of_result_judgeEach hviolations),
      isAbout_of_forall₂ (forall₂_of_result_judgeEach hviolations)⟩

end Assertion

namespace Draft

theorem exists_result_evaluate_of_rejects {d : Draft α} (hprior : d.prior = none)
    (hassertion : d.assertion = none) {kept : List α} (hkept : (d.candidates c).result = .ok kept)
    (h : p.Rejects c kept rejected) :
    ∃ report, ((d.require p).evaluate c).result = .ok report ∧ report.IsAbout rejected := by
  obtain ⟨violations, hviolations, habout⟩ :=
    Assertion.exists_result_findings h (d.require p).description
  have hdemand : (d.require p).assertion = some (.eachObject p) := by
    rw [require, preview, hassertion]
  have hcandidates : ((d.require p).candidates c).result = .ok kept := hkept
  refine ⟨⟨(d.require p).description, violations⟩, ?_, habout⟩
  rw [evaluate_of_prior_eq_none (d := d.require p) hprior hdemand, Eval.result_bind_ok hcandidates]
  exact Assertion.result_evaluate hviolations

theorem rejects_of_result_evaluate {d : Draft α} (hprior : d.prior = none)
    (hassertion : d.assertion = some (.eachObject p)) {report : Report}
    (h : (d.evaluate c).result = .ok report) :
    ∃ kept rejected, (d.candidates c).result = .ok kept ∧ p.Rejects c kept rejected ∧
      report.IsAbout rejected := by
  rw [evaluate_of_prior_eq_none hprior hassertion] at h
  obtain ⟨kept, hkept, h⟩ := Eval.exists_of_result_bind_ok h
  obtain ⟨violations, hviolations, rfl⟩ := Assertion.exists_of_result_evaluate h
  obtain ⟨rejected, hrejected, habout⟩ := Assertion.rejects_of_result_findings hviolations
  exact ⟨kept, rejected, hkept, hrejected, habout⟩

/-- Without predicates, a rule is about all objects of its kind. -/
theorem rejects_select_of_result_evaluate {κ : Kind α} {report : Report}
    (h : (((start κ).require p).evaluate c).result = .ok report) :
    ∃ rejected, p.Rejects c (κ.select c) rejected ∧ report.IsAbout rejected := by
  obtain ⟨kept, rejected, hkept, hrejected, habout⟩ := rejects_of_result_evaluate rfl rfl h
  obtain rfl : κ.select c = kept :=
    Except.ok.inj ((Predicate.result_filter_nil c (κ.select c)).symm.trans hkept)
  exact ⟨rejected, hrejected, habout⟩

/-- That there is none is reported about each object there is. -/
theorem exists_result_evaluate_notExist {d : Draft α} (hprior : d.prior = none) {kept : List α}
    (hkept : (d.candidates c).result = .ok kept) :
    ∃ report, ((d.requireExistence .notExist).evaluate c).result = .ok report ∧
      report.IsAbout kept := by
  have habout : (Report.mk (d.requireExistence .notExist).description (Assertion.judgeNumber
      (d.requireExistence .notExist).description .notExist kept)).IsAbout kept := by
    cases kept with
    | nil => rfl
    | cons object rest => exact congrArg (_ :: ·) (List.map_map ..)
  refine ⟨_, ?_, habout⟩
  have hcandidates : ((d.requireExistence .notExist).candidates c).result = .ok kept := hkept
  rw [evaluate_of_prior_eq_none (d := d.requireExistence .notExist) hprior rfl,
    Eval.result_bind_ok hcandidates]
  exact Assertion.result_evaluate rfl

/-! ### Whole rules -/

/-- **A filter can be moved into the assertion.** Take predicates from the catalogue that narrow a
kind down, and a codebase. First, demanding one of several conditions is the same rule whether they
are required one after the other or as a tree of disjunctions, however it is grouped. Second, if the
rule has a report that demands of all objects of the kind that they meet the negation of one of the
predicates or a condition, then the rule that demands the condition of the objects with the
predicates has a report as well, and both report the same objects in the same order. Third, the same
holds of the rule that demands of all objects the negation of one of the predicates, if there are
any, and of the rule that there is no object with the predicates. In both cases each rule passes
just if the other one does. -/
theorem filter_moves_into_assertion (κ : Kind α) (clauses : List (Question α × Bool))
    (condition : Condition α) (c : Codebase) :
    (∀ f : Formula (Condition α), f.Uniform .or →
      (start κ).require f.combine = (start κ).run (Call.alternatives f.leaves)) ∧
    (∀ moved, (((start κ).run (Call.alternatives
          (Question.negations clauses ++ [condition]))).evaluate c).result = .ok moved →
      ∃ own, ((((start κ).run ((Question.predicates clauses).map .that)).require
          condition).evaluate c).result = .ok own ∧
        own.violatingObjects = moved.violatingObjects ∧ own.passed = moved.passed) ∧
    (clauses ≠ [] →
      ∀ moved,
        (((start κ).run (Call.alternatives (Question.negations clauses))).evaluate c).result =
          .ok moved →
      ∃ own, ((((start κ).run ((Question.predicates clauses).map .that)).requireExistence
          .notExist).evaluate c).result = .ok own ∧
        own.violatingObjects = moved.violatingObjects ∧ own.passed = moved.passed) := by
  rw [run_map_that]
  refine ⟨fun f hf => ?_, fun moved hmoved => ?_, fun hne moved hmoved => ?_⟩
  · obtain ⟨first, rest, hleaves⟩ := List.exists_cons_of_ne_nil f.leaves_ne_nil
    rw [hf.combine_eq_joinAll hleaves, hleaves, run_alternatives]
  · rw [run_alternatives_concat] at hmoved
    obtain ⟨rejected, hrejected, habout⟩ := rejects_select_of_result_evaluate hmoved
    obtain ⟨kept, hkept, hfilter⟩ := Question.rejects_of_foldr_negations hrejected
    have hcandidates := (hfilter []).trans (Predicate.result_filter_nil c kept)
    rw [List.append_nil] at hcandidates
    obtain ⟨own, hown, hsame⟩ := exists_result_evaluate_of_rejects
      (d := { start κ with predicates := Question.predicates clauses }) rfl rfl hcandidates hkept
    exact ⟨own, hown, hsame.violatingObjects_eq.trans habout.violatingObjects_eq.symm,
      hsame.passed_eq.trans habout.passed_eq.symm⟩
  · -- the negation of the last clause is the rest of the disjunction
    obtain ⟨init, last, rfl⟩ := (List.eq_nil_or_concat' clauses).resolve_left hne
    rw [Question.negations_concat, run_alternatives_concat] at hmoved
    obtain ⟨rejected, hrejected, habout⟩ := rejects_select_of_result_evaluate hmoved
    obtain ⟨kept, hkept, hfilter⟩ := Question.rejects_of_foldr_negations hrejected
    have hcandidates := (hfilter [last.1.predicate last.2]).trans
      (Question.rejects_of_negation hkept)
    rw [← Question.predicates_concat] at hcandidates
    obtain ⟨own, hown, hsame⟩ := exists_result_evaluate_notExist
      (d := { start κ with predicates := Question.predicates (init ++ [last]) }) rfl hcandidates
    exact ⟨own, hown, hsame.violatingObjects_eq.trans habout.violatingObjects_eq.symm,
      hsame.passed_eq.trans habout.passed_eq.symm⟩

/-- What is public and uses the store. -/
def shopClauses : List (Question TypeDecl × Bool) :=
  [(.element (.visibility .pub), false),
    (.provided (.dependsOnAnyIn (NamedTypes.mk ["Shop.Data.Store"]).provider), false)]

/-- To have a name that ends as those of pages do. -/
def shopDemand : Condition TypeDecl := ((Criterion.nameEndingWith "View").condition false).lift

theorem filter_moves_into_assertion_shop :
    (∃ own, ((((start Kind.classes).run ((Question.predicates shopClauses).map .that)).require
          shopDemand).evaluate (.ofTypes shopTypes)).result = .ok own ∧
        own.violatingObjects = ["Shop.Web.Page"] ∧ own.passed = false) ∧
    (∃ own, ((((start Kind.classes).run
          ((Question.predicates shopClauses).map .that)).requireExistence .notExist).evaluate
            (.ofTypes shopTypes)).result = .ok own ∧
        own.violatingObjects = ["Shop.Web.Page"] ∧ own.passed = false) ∧
    (start Kind.classes).require (Formula.join .or (.leaf shopDemand)
        (.join .or (.leaf shopDemand) (.leaf shopDemand))).combine =
      (start Kind.classes).run (Call.alternatives [shopDemand, shopDemand, shopDemand]) := by
  obtain ⟨hgrouped, hrequired, hexistence⟩ := filter_moves_into_assertion Kind.classes shopClauses
    shopDemand (.ofTypes shopTypes)
  refine ⟨hrequired _ rfl, hexistence (by simp [shopClauses]) _ rfl, ?_⟩
  exact hgrouped (.join .or (.leaf shopDemand) (.join .or (.leaf shopDemand) (.leaf shopDemand)))
    ⟨rfl, trivial, rfl, trivial, trivial⟩

end Draft

end Reports

end DesignRules
