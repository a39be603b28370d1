import DesignRules.Proofs.Catalogue.Answers
import DesignRules.Proofs.Rule.Steady

/-!
# Conditions that pass alike

Two conditions may come to the same in different ways: one of them lists offenders in its failures
and the other one does not, or they read differently. If they are bound alike and then pass the same
objects, one can be put for the other in any rule, whatever the rule is made of besides. It reads
differently then, and its findings say so, but it finds the same objects in the same order, and it
fails where it failed before, with the same error.

## What a report is compared by

The place of a finding is the object that it names, if it names one. Reports are compared by the
places of their findings (`Report.places`). This keeps the order and the number of findings, so it
says which objects are found and whether a report passes; and joining reports asks for no more.

## Main definitions

* `Alike` — the same error, or related results
* `Condition.Interchangeable` — two conditions are bound alike and pass the same objects
* `Report.SamePlaces` — two reports have findings at the same places

## Main results

* `Answer.alike_join`, `Condition.Interchangeable.join` — joins of interchangeable operands
* `Condition.Interchangeable.passes_eq` — what they say about one object
* `Draft.alike_evaluateWith` — rules that differ in what they demand last
-/

namespace DesignRules

/-- The results are the same error, or values that are related. -/
abbrev Alike {β γ : Type} (R : β → γ → Prop) :
    Except RuleError β → Except RuleError γ → Prop :=
  Matched (fun _ => True) R

namespace Alike

variable {β γ δ : Type} {R : β → γ → Prop}

theorem refl {R : β → β → Prop} (hR : ∀ b, R b b) (r : Except RuleError β) : Alike R r r := by
  cases r with
  | error e => exact .error trivial
  | ok b => exact .ok (hR b)

theorem of_eq {r r' : Except RuleError β} (h : r = r') : Alike Eq r r' :=
  h ▸ refl Eq.refl r

theorem map_eq {r : Except RuleError β} {r' : Except RuleError γ} (h : Alike R r r') {f : β → δ}
    {g : γ → δ} (hfg : ∀ b b', R b b' → f b = g b') : r.map f = r'.map g := by
  cases h with
  | error _ => rfl
  | ok h => exact congrArg Except.ok (hfg _ _ h)

end Alike

variable {α : Type} {c : Codebase}

/-! ### Judgements -/

/-- Two verdicts pass, or two verdicts fail. -/
def Verdict.SamePassed (v v' : Verdict) : Prop := v.passed = v'.passed

/-- **Joined answers.** Whether the second answer is needed is a matter of truth values, so joins of
answers that pass alike pass alike. -/
theorem Answer.alike_join (k : Connector) {first first' second second' : Answer}
    (hfirst : Alike Verdict.SamePassed first first')
    (hsecond : Alike Verdict.SamePassed second second') :
    Alike Verdict.SamePassed (join k first second) (join k first' second') := by
  cases hfirst with
  | error he => exact .error he
  | @ok v v' hv =>
    cases hopen : k.leavesOpen v.passed with
    | false =>
      have hopen' : k.leavesOpen v'.passed = false := hv ▸ hopen
      rw [join_of_not_leavesOpen hopen, join_of_not_leavesOpen hopen']
      exact .ok hv
    | true =>
      have hopen' : k.leavesOpen v'.passed = true := hv ▸ hopen
      rw [join_of_leavesOpen hopen, join_of_leavesOpen hopen']
      cases hsecond with
      | error he => exact .error he
      | @ok w w' hw =>
        have hjoin : (v.join k w).passed = (v'.join k w').passed := by
          rw [Verdict.passed_join, Verdict.passed_join, hv, hw]
        exact .ok hjoin

/-- Two judgements fail on an object with the same error, or both pass it or both fail it. -/
def JudgeAlike (judge judge' : α → Eval Verdict) : Prop :=
  ∀ object, Alike Verdict.SamePassed (judge object).result (judge' object).result

namespace Condition

/-- The conditions cannot be bound, for the same reason, or they are bound to judgements that pass
the same objects. -/
def Interchangeable (c : Codebase) (p p' : Condition α) : Prop :=
  Alike JudgeAlike (p.bindTo c).result (p'.bindTo c).result

namespace Interchangeable

variable {p p' a a' b b' : Condition α}

theorem refl (c : Codebase) (p : Condition α) : p.Interchangeable c p := by
  refine Alike.refl (fun judge object => ?_) (p.bindTo c).result
  exact Alike.refl (fun verdict => Eq.refl verdict.passed) (judge object).result

theorem join (k : Connector) (ha : a.Interchangeable c a') (hb : b.Interchangeable c b') :
    (Condition.join k a b).Interchangeable c (.join k a' b') := by
  refine ha.bind fun first first' hfirst => hb.bind fun second second' hsecond => .ok ?_
  intro object
  rw [Formula.result_joinJudgements, Formula.result_joinJudgements]
  exact Answer.alike_join k (hfirst object) (hsecond object)

/-- What is said about one object is the same error or the same truth value. -/
theorem passes_eq (h : p.Interchangeable c p') (object : α) :
    p.passes object c = p'.passes object c := by
  have hcheck : Alike Verdict.SamePassed (p.check object c).result (p'.check object c).result :=
    Matched.bind h fun _ _ hjudge => hjudge object
  exact hcheck.map_eq fun _ _ hpassed => hpassed

end Interchangeable

end Condition

/-! ### Reports -/

namespace Report

/-- The findings of the reports are at the same places. -/
def SamePlaces (report report' : Report) : Prop := report.places = report'.places

namespace SamePlaces

variable {report report' first first' second second' : Report}

theorem violatingObjects_eq (h : report.SamePlaces report') :
    report.violatingObjects = report'.violatingObjects := by
  rw [violatingObjects_eq_filterMap_places, violatingObjects_eq_filterMap_places, h]

theorem passed_eq (h : report.SamePlaces report') : report.passed = report'.passed := by
  rw [passed_eq_isEmpty_places, passed_eq_isEmpty_places, h]

/-- Joining reports asks for the places of their findings only. -/
theorem combine (description description' : String) (k : Connector)
    (hfirst : first.SamePlaces first') (hsecond : second.SamePlaces second') :
    (Report.combine description k first second).SamePlaces
      (.combine description' k first' second') := by
  rw [Report.combine, Report.combine, hfirst.passed_eq, hsecond.passed_eq]
  split
  · exact rfl
  · show (first.violations ++ second.violations).map Violation.object =
      (first'.violations ++ second'.violations).map Violation.object
    rw [List.map_append, List.map_append]
    exact congrArg₂ _ hfirst hsecond

end SamePlaces

end Report

/-! ### Rules -/

variable [Element α]

namespace Assertion

variable {judge judge' : α → Eval Verdict}

/-- The findings about an object are at the object, whatever they say. -/
theorem alike_judgeEach (h : JudgeAlike judge judge') (rule rule' text text' : String)
    (objects : List α) :
    Alike (fun violations violations' => violations.map Violation.object =
        violations'.map Violation.object)
      (judgeEach rule text judge objects).result (judgeEach rule' text' judge' objects).result := by
  induction objects with
  | nil => exact .ok rfl
  | cons object rest ih =>
    refine Matched.bind (h object) fun v v' hv => Matched.bind ih fun others others' hothers => ?_
    match v, v', hv with
    | .pass, .pass, _ => exact .ok hothers
    | .fail none, .fail none, _ => exact .ok (congrArg (_ :: ·) hothers)
    | .fail none, .fail (some _), _ => exact .ok (congrArg (_ :: ·) hothers)
    | .fail (some _), .fail none, _ => exact .ok (congrArg (_ :: ·) hothers)
    | .fail (some _), .fail (some _), _ => exact .ok (congrArg (_ :: ·) hothers)

theorem alike_evaluate {p p' : Condition α} (h : p.Interchangeable c p') (rule rule' : String)
    (candidates : List α) :
    Alike Report.SamePlaces ((eachObject p).evaluate rule candidates c).result
      ((eachObject p').evaluate rule' candidates c).result := by
  have hfindings : Alike (fun violations violations' => violations.map Violation.object =
      violations'.map Violation.object) ((eachObject p).findings rule candidates c).result
        ((eachObject p').findings rule' candidates c).result := by
    cases candidates with
    | nil => exact .ok rfl
    | cons object rest =>
      exact Matched.bind h fun judge judge' hjudge => alike_judgeEach hjudge _ _ _ _ _
  exact hfindings.bind fun violations violations' hplaces => .ok hplaces

end Assertion

namespace Draft

/-- **One condition for another.** Rules that differ in the condition they demand last find the same
objects, if the two conditions are interchangeable. -/
theorem alike_evaluateWith (d : Draft α) {p p' : Condition α} (h : p.Interchangeable c p') :
    Alike Report.SamePlaces (d.evaluateWith (d.preview p) c).result
      (d.evaluateWith (d.preview p') c).result := by
  -- the condition is joined to what is asserted already, or stands alone
  obtain ⟨q, q', hq, hpreview, hpreview'⟩ : ∃ q q' : Condition α, q.Interchangeable c q' ∧
      d.preview p = .eachObject q ∧ d.preview p' = .eachObject q' := by
    rw [preview, preview]
    cases d.assertion with
    | none => exact ⟨p, p', h, rfl, rfl⟩
    | some a =>
      cases a with
      | eachObject current => exact ⟨_, _, .join _ (.refl c current) h, rfl, rfl⟩
      | existence condition => exact ⟨p, p', h, rfl, rfl⟩
  rw [hpreview, hpreview']
  refine Matched.bind (Alike.of_eq rfl) fun candidates candidates' hcandidates => ?_
  subst hcandidates
  refine (Assertion.alike_evaluate hq _ _ candidates).bind fun own own' hown => ?_
  cases d.prior with
  | none => exact .ok hown
  | some prior =>
    refine Matched.bind (Alike.of_eq rfl) fun report report' hreport => ?_
    subst hreport
    exact .ok (.combine _ _ prior.2 rfl hown)

end Draft

end DesignRules
