import DesignRules.Proofs.Formula.Regrouping
import DesignRules.Proofs.Rule.Findings

/-!
# Rules on whether there are objects

An existence condition is given a number of objects, but the two basic conditions only tell none
from some, and so do all trees that are made from them. A rule with such a condition is judged on
whether its list of candidates is empty.

## Failing aloud

Whether a rule passes is not stored in its report. A report passes if it has no findings, so a
condition that fails must find something. That is no matter of course here, since the findings are
listed by candidate, and the condition may fail for the very reason that there is no candidate. That
case has a finding of its own, which is about no object. `Assertion.missed` lists what the findings
are about; it is never empty (`Assertion.missed_ne_nil`), whatever the condition and the candidates.

## Main definitions

* `Existence.Basic` — one of the two basic conditions
* `Assertion.missed` — what is found where a condition on the number of candidates fails

## Main results

* `Existence.holds_combine` — the truth value of a tree
* `Existence.holds_combine_of_pos` — trees tell none from some, and nothing else
* `Assertion.judgeNumber_eq_ite` — the findings
* `Assertion.existence_judges_emptiness` — what a rule with an existence condition reports
-/

namespace DesignRules

/-! ### Numbers of objects -/

namespace Existence

/-- The condition is one of the two basic ones. -/
def Basic (p : Existence) : Prop := p = exist ∨ p = notExist

theorem Basic.holds_of_pos {p : Existence} (hp : p.Basic) {count : Nat} (hcount : 0 < count) :
    p.holds count = p.holds 1 := by
  rcases hp with rfl | rfl
  · exact decide_eq_true hcount
  · exact beq_false_of_ne hcount.ne'

theorem holds_join (k : Connector) (p q : Existence) (count : Nat) :
    (join k p q).holds count = k.holds (p.holds count) (q.holds count) := by
  cases k <;> rfl

/-- **The truth value of a tree** of existence conditions follows the connectors. -/
theorem holds_combine (f : Formula Existence) (count : Nat) :
    f.combine.holds count = (f.map fun p => p.holds count).holds :=
  Formula.value_combine (fun p => p.holds count) (fun k p q => holds_join k p q count) f

/-- **A tree tells none from some**, and nothing else. -/
theorem holds_combine_of_pos {f : Formula Existence} (hf : ∀ p ∈ f.leaves, p.Basic) {count : Nat}
    (hcount : 0 < count) : f.combine.holds count = f.combine.holds 1 := by
  rw [holds_combine, holds_combine, Formula.holds, Formula.fold_map, Formula.fold_map]
  exact Formula.fold_congr fun p hp => (hf p hp).holds_of_pos hcount

theorem holds_combine_length {f : Formula Existence} (hf : ∀ p ∈ f.leaves, p.Basic) {α β : Type}
    {objects : List α} {others : List β} (h : objects = [] ↔ others = []) :
    f.combine.holds objects.length = f.combine.holds others.length := by
  cases objects with
  | nil => rw [h.1 rfl]; rfl
  | cons object rest =>
    have hothers : 0 < others.length := by
      refine List.length_pos_iff.2 fun hnil => ?_
      exact List.cons_ne_nil object rest (h.2 hnil)
    rw [holds_combine_of_pos hf hothers]
    exact holds_combine_of_pos hf (Nat.succ_pos _)

end Existence

/-! ### Findings -/

namespace Assertion

variable {α : Type} [Element α]

/-- What the findings are about where a condition on the number of candidates fails: each candidate,
or no object if there is no candidate. -/
def missed : List α → List (Option String)
  | [] => [none]
  | object :: rest => (object :: rest).map fun o => some (Element.fullName o)

theorem missed_of_ne_nil {candidates : List α} (h : candidates ≠ []) :
    missed candidates = candidates.map fun o => some (Element.fullName o) := by
  cases candidates with
  | nil => exact absurd rfl h
  | cons object rest => rfl

theorem missed_ne_nil (candidates : List α) : missed candidates ≠ [] := by
  cases candidates with
  | nil => exact List.cons_ne_nil none []
  | cons object rest => exact List.cons_ne_nil _ _

theorem judgeNumber_eq_ite (rule : String) (condition : Existence) (candidates : List α) :
    judgeNumber rule condition candidates =
      if condition.holds candidates.length then []
      else (missed candidates).map fun object =>
        ⟨rule, object, condition.wording.failDescription, .error⟩ := by
  cases candidates with
  | nil => rfl
  | cons object rest =>
    rw [judgeNumber, missed_of_ne_nil (List.cons_ne_nil object rest), List.map_map]
    rfl

/-- A condition that fails has findings. -/
theorem isEmpty_judgeNumber (rule : String) (condition : Existence) (candidates : List α) :
    (judgeNumber rule condition candidates).isEmpty = condition.holds candidates.length := by
  rw [judgeNumber_eq_ite]
  cases condition.holds candidates.length with
  | true => rfl
  | false =>
    rw [if_neg Bool.false_ne_true, List.isEmpty_map, ← Bool.not_eq_true, List.isEmpty_iff]
    exact missed_ne_nil candidates

theorem result_evaluate_existence (condition : Existence) (rule : String) (candidates : List α)
    (c : Codebase) :
    ((existence condition).evaluate rule candidates c).result =
      .ok ⟨rule, judgeNumber rule condition candidates⟩ :=
  result_evaluate rfl

/-- **Existence conditions are judged on emptiness.** A tree of the two basic conditions holds of
all positive numbers or of none. A rule with an existence condition always has a report, and it
passes just if the condition holds of the number of candidates. Otherwise the report has findings.
They are errors that carry the sentence of the rule and what the condition says about failures: a
single one about no object if there is no candidate, and one for each candidate in order if there
are some. So two rules with the same tree agree on
whether they pass as soon as both have candidates or both have none. -/
theorem existence_judges_emptiness :
    (∀ f : Formula Existence, (∀ p ∈ f.leaves, p.Basic) →
      ∀ count, 1 ≤ count → f.combine.holds count = f.combine.holds 1) ∧
    (∀ {α : Type} [Element α] (condition : Existence) (rule : String) (candidates : List α)
        (c : Codebase),
      ∃ report, ((existence condition).evaluate rule candidates c).result = .ok report ∧
        report.description = rule ∧
        report.passed = condition.holds candidates.length ∧
        (condition.holds candidates.length = false →
          report.violations ≠ [] ∧
          (candidates = [] →
            report.violations = [⟨rule, none, condition.wording.failDescription, .error⟩]) ∧
          (candidates ≠ [] → report.violations = candidates.map fun object =>
            ⟨rule, some (Element.fullName object), condition.wording.failDescription,
              .error⟩))) ∧
    ∀ {α β : Type} [Element α] [Element β] (f : Formula Existence) (rule other : String)
        (candidates : List α) (others : List β) (c d : Codebase) (report second : Report),
      (∀ p ∈ f.leaves, p.Basic) →
      ((existence f.combine).evaluate rule candidates c).result = .ok report →
      ((existence f.combine).evaluate other others d).result = .ok second →
      (candidates = [] ↔ others = []) → report.passed = second.passed := by
  refine ⟨fun f hf count hcount => Existence.holds_combine_of_pos hf hcount, ?_, ?_⟩
  · intro α _ condition rule candidates c
    refine ⟨_, result_evaluate_existence condition rule candidates c, rfl,
      isEmpty_judgeNumber rule condition candidates, fun hfails => ?_⟩
    have hfindings : judgeNumber rule condition candidates =
        (missed candidates).map fun object =>
          ⟨rule, object, condition.wording.failDescription, .error⟩ := by
      rw [judgeNumber_eq_ite, hfails]
      rfl
    show judgeNumber rule condition candidates ≠ [] ∧ _
    rw [hfindings]
    refine ⟨fun h => missed_ne_nil candidates (List.map_eq_nil_iff.1 h), fun hnone => ?_,
      fun hsome => ?_⟩
    · rw [hnone]
      rfl
    · rw [missed_of_ne_nil hsome, List.map_map]
      rfl
  · intro α β _ _ f rule other candidates others c d report second hf hreport hsecond h
    rw [result_evaluate_existence] at hreport hsecond
    obtain rfl := Except.ok.inj hreport
    obtain rfl := Except.ok.inj hsecond
    show (judgeNumber ..).isEmpty = (judgeNumber ..).isEmpty
    rw [isEmpty_judgeNumber, isEmpty_judgeNumber, Existence.holds_combine_length hf h]

/-- There should be objects and there should be none, which never holds. -/
def someAndNone : Formula Existence := .join .and (.leaf .exist) (.leaf .notExist)

theorem existence_judges_emptiness_shop :
    someAndNone.combine.holds 2 = someAndNone.combine.holds 1 ∧
    ∃ report, ((existence someAndNone.combine).evaluate "Pages should be rare" Draft.shopTypes
        (.ofTypes [])).result = .ok report ∧
      report.passed = false ∧
      report.violatingObjects = ["Shop.Web.Page", "Shop.Data.Store", "Shop.Web.Page"] := by
  have hbasic : ∀ p ∈ someAndNone.leaves, p.Basic := by
    intro p hp
    obtain rfl | hp := List.mem_cons.1 hp
    · exact .inl rfl
    · exact .inr (List.mem_singleton.1 hp)
  obtain ⟨hcount, hreports, -⟩ := existence_judges_emptiness
  obtain ⟨report, hreport, -, hpassed, hfindings⟩ :=
    hreports someAndNone.combine "Pages should be rare" Draft.shopTypes (.ofTypes [])
  obtain ⟨-, -, hsome⟩ := hfindings rfl
  refine ⟨hcount someAndNone hbasic 2 (by decide), report, hreport, hpassed, ?_⟩
  rw [Report.violatingObjects, hsome (List.cons_ne_nil _ _)]
  rfl

end Assertion

end DesignRules
