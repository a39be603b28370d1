import DesignRules.Condition.Basic
import Mathlib.Data.List.Basic

/-!
# What joined conditions come to

A tree of conditions joined with *and* and *or* is bound as a whole and judges as a whole. What it
comes to can be said from its leaves: which error stops the binding, which leaves are asked about an
object, whether the object passes, and which details a failure gives.

## Two phases, two ways to fail

Binding asks every leaf, so its error is that of the leftmost leaf that cannot be bound, whatever
any judgement would have said. Judging asks leaf by leaf and leaves out the second operand of a join
that the first has settled. An error of a leaf that is left out never comes up, and so it has no
part in the truth value either: the tree passes by *any* reading of the leaves that are not asked.
This is why the theorem speaks of all trees of truth values that agree with the answers there are.

## Main definitions

* `Connector.leavesOpen` — whether the first operand leaves a join open
* `Formula.answers` — what the leaves of a tree of conditions say about an object
* `Formula.asked` — the answers that are asked for, from left to right
* `Formula.detail` — the detail of a failure, node by node
* `Formula.Sequenced` — the value of a join comes from those of its operands, one after the other

## Main results

* `Formula.Sequenced.result_eq_error_iff` — what is made in sequence fails with its first error
* `Formula.result_bindTo_eq_error_iff` — binding, by the leaves
* `Formula.result_judge_eq_outcome` — judging, by the answers of the leaves
* `Formula.outcome_eq_error_iff`, `Formula.passed_of_outcome_eq_ok`,
  `Formula.detail_of_outcome_eq_fail` — what the answers of a tree come to
* `Formula.combine_judges` — both phases together
-/

namespace DesignRules

/-- Whether the truth value of the first operand leaves it to the second what a join comes to. -/
def Connector.leavesOpen : Connector → Bool → Bool
  | and, first => first
  | or, first => !first

theorem Connector.holds_of_not_leavesOpen {c : Connector} {first : Bool}
    (h : c.leavesOpen first = false) (second : Bool) : c.holds first second = first := by
  cases c with
  | and =>
    obtain rfl : first = false := h
    rfl
  | or =>
    obtain rfl : first = true := by simpa [leavesOpen] using h
    rfl

/-- The verdict on a join, given those on both operands. -/
def Verdict.join : Connector → Verdict → Verdict → Verdict
  | .and => both
  | .or => either

theorem Verdict.passed_join (c : Connector) (first second : Verdict) :
    (join c first second).passed = c.holds first.passed second.passed := by
  cases c with
  | and => exact passed_both first second
  | or => exact passed_either first second

/-- What a condition says about one object, or why it cannot say it. -/
abbrev Answer := Except RuleError Verdict

namespace Answer

/-- How an answer counts as a truth value. An error has to count as something where its leaf is not
asked. -/
def passes : Answer → Bool
  | .ok verdict => verdict.passed
  | .error _ => false

/-- The detail that an answer gives. -/
def detail : Answer → Option String
  | .ok verdict => verdict.detail
  | .error _ => none

/-- The truth value is that of the answer, if there is an answer. -/
def AgreesWith (a : Answer) (value : Bool) : Prop :=
  ∀ verdict, a = .ok verdict → value = verdict.passed

/-- The answer of a join, given those of its operands. The second operand counts only where the
first has come to a verdict that leaves the join open. -/
def join (c : Connector) (first second : Answer) : Answer :=
  match first with
  | .error e => .error e
  | .ok verdict => if c.leavesOpen verdict.passed then second.map (verdict.join c) else .ok verdict

theorem join_of_not_leavesOpen {c : Connector} {verdict : Verdict}
    (h : c.leavesOpen verdict.passed = false) (second : Answer) :
    join c (.ok verdict) second = .ok verdict := by
  rw [join, h, if_neg Bool.false_ne_true]

theorem join_of_leavesOpen {c : Connector} {verdict : Verdict}
    (h : c.leavesOpen verdict.passed = true) (second : Answer) :
    join c (.ok verdict) second = second.map (verdict.join c) := by
  rw [join, h, if_pos rfl]

/-- Where both operands have a verdict, so has the join, whether the second operand was needed or
not. -/
theorem join_ok (c : Connector) (first second : Verdict) :
    join c (.ok first) (.ok second) = .ok (first.join c second) := by
  cases c <;> cases first <;> rfl

/-- Where both operands have a verdict, the truth value of the join is that of the connective,
whether the second operand was needed or not. -/
theorem map_passed_join (c : Connector) (first second : Verdict) :
    (join c (.ok first) (.ok second)).map Verdict.passed =
      .ok (c.holds first.passed second.passed) := by
  rw [join_ok, ← Verdict.passed_join]
  rfl

/-- A join that comes to a verdict has one on its first operand, and one on the second if the first
leaves the join open. -/
theorem exists_of_join_eq_ok {c : Connector} {first second : Answer} {verdict : Verdict}
    (h : join c first second = .ok verdict) :
    ∃ v, first = .ok v ∧
      (c.leavesOpen v.passed = false ∧ verdict = v ∨
        c.leavesOpen v.passed = true ∧ ∃ w, second = .ok w ∧ verdict = v.join c w) := by
  cases first with
  | error e => exact absurd h (by rintro ⟨⟩)
  | ok v =>
    refine ⟨v, rfl, ?_⟩
    cases hopen : c.leavesOpen v.passed with
    | false =>
      rw [join_of_not_leavesOpen hopen] at h
      exact Or.inl ⟨rfl, (Except.ok.inj h).symm⟩
    | true =>
      rw [join_of_leavesOpen hopen] at h
      cases second with
      | error e => exact absurd h (by rintro ⟨⟩)
      | ok w => exact Or.inr ⟨rfl, w, rfl, (Except.ok.inj h).symm⟩

end Answer

/-- The details that are there, as one text. -/
def joinedDetails (details : List (Option String)) : Option String :=
  match details.reduceOption with
  | [] => none
  | texts => some (" and ".intercalate texts)

theorem Verdict.mergeDetails_eq_joinedDetails (first second : Option String) :
    mergeDetails first second = joinedDetails [first, second] := by
  cases first <;> cases second <;> rfl

/-- A condition that looks something up, and cannot fail from then on, judges by what it finds. -/
theorem Condition.result_check_of_bindTo {α β : Type} {p : Condition α} {c : Codebase}
    {lookup : Eval β} {verdict : β → α → Verdict}
    (h : p.bindTo c = lookup >>= fun found => pure fun object => pure (verdict found object))
    (object : α) :
    (p.check object c).result = lookup.result.map fun found => verdict found object := by
  rw [check, h, bind_assoc]
  cases hfound : lookup.result with
  | error e =>
    rw [Eval.result_bind_error hfound]
    rfl
  | ok found =>
    rw [Eval.result_bind_ok hfound]
    rfl

/-- A join is bound where both of its operands are. -/
theorem Condition.result_bindTo_join {α : Type} (k : Connector) {a b : Condition α} {c : Codebase}
    {first second : α → Eval Verdict} (ha : (a.bindTo c).result = .ok first)
    (hb : (b.bindTo c).result = .ok second) :
    ((join k a b).bindTo c).result = .ok (joinJudgements k first second) := by
  show (a.bindTo c >>= fun _ => b.bindTo c >>= fun _ => _).result = _
  rw [Eval.result_bind_ok ha, Eval.result_bind_ok hb]
  rfl

/-! ### Trees of answers -/

namespace Formula

/-- The answers that are asked for, from left to right. A join asks for its second operand only if
nothing the first has asked for is an error, and the first leaves the join open. -/
def asked : Formula Answer → List Answer
  | .leaf a => [a]
  | .join c f g =>
    asked f ++
      if (asked f).all Except.isOk && c.leavesOpen (f.map Answer.passes).holds then asked g else []

/-- The detail of a tree that fails: at *and* that of the first operand that fails, and at *or*
those of both. -/
def detail : Formula Answer → Option String
  | .leaf a => a.detail
  | .join .and f g => if (f.map Answer.passes).holds then detail g else detail f
  | .join .or f g => joinedDetails [detail f, detail g]

/-- What the answers of a tree come to. -/
def outcome : Formula Answer → Answer := fold id Answer.join

theorem all_isOk_iff {β : Type} {results : List (Except RuleError β)} :
    results.all Except.isOk = true ↔ ∀ r ∈ results, ∃ b, r = .ok b := by
  rw [List.all_eq_true]
  refine forall₂_congr fun r _ => ?_
  cases r <;> simp [Except.isOk, Except.toBool]

/-- **Only what is asked counts.** Where no error is asked for, all readings of the answers give the
same truth value. -/
theorem holds_of_related {f : Formula Answer} (hok : ∀ a ∈ f.asked, ∃ v, a = .ok v)
    {values : Formula Bool} (h : f.Related id Answer.AgreesWith values) :
    values.holds = (f.map Answer.passes).holds := by
  induction h with
  | @leaf a value h =>
    obtain ⟨v, rfl⟩ := hok a (List.mem_singleton_self a)
    exact h v rfl
  | @join c f g values₁ values₂ _ _ ihfirst ihsecond =>
    rw [asked] at hok
    have hfirst : ∀ a ∈ f.asked, ∃ v, a = .ok v := fun a ha => hok a (List.mem_append_left _ ha)
    show c.holds values₁.holds values₂.holds =
      c.holds (f.map Answer.passes).holds (g.map Answer.passes).holds
    rw [ihfirst hfirst]
    cases hopen : c.leavesOpen (f.map Answer.passes).holds with
    | false => rw [c.holds_of_not_leavesOpen hopen, c.holds_of_not_leavesOpen hopen]
    | true =>
      rw [all_isOk_iff.2 hfirst, hopen, Bool.and_self, if_pos rfl] at hok
      rw [ihsecond fun a ha => hok a (List.mem_append_right _ ha)]

theorem passed_of_outcome_eq_ok {f : Formula Answer} {verdict : Verdict}
    (h : f.outcome = .ok verdict) : verdict.passed = (f.map Answer.passes).holds := by
  induction f generalizing verdict with
  | leaf a =>
    obtain rfl : a = .ok verdict := h
    rfl
  | join c f g ihfirst ihsecond =>
    show verdict.passed = c.holds (f.map Answer.passes).holds (g.map Answer.passes).holds
    obtain ⟨v, hfirst, ⟨hsettled, rfl⟩ | ⟨-, w, hsecond, rfl⟩⟩ := Answer.exists_of_join_eq_ok h
    · rw [← ihfirst hfirst, c.holds_of_not_leavesOpen hsettled]
    · rw [← ihfirst hfirst, ← ihsecond hsecond, Verdict.passed_join]

/-- **The error of a tree is the first one that is asked for.** -/
theorem outcome_eq_error_iff {f : Formula Answer} {e : RuleError} :
    f.outcome = .error e ↔ FirstError e f.asked := by
  induction f generalizing e with
  | leaf a => exact FirstError.singleton_iff.symm
  | join c f g ihfirst ihsecond =>
    show Answer.join c f.outcome g.outcome = .error e ↔ _
    rw [asked]
    cases hfirst : f.outcome with
    | error d =>
      -- an error of the first operand ends the asking, so it is the first of the whole list
      have hfails : (f.asked.all Except.isOk) = false := by
        rw [Bool.eq_false_iff, ne_eq, all_isOk_iff]
        exact (ihfirst.1 hfirst).not_all_ok
      rw [hfails, Bool.false_and, if_neg Bool.false_ne_true, List.append_nil, ← ihfirst, hfirst]
      rfl
    | ok v =>
      have hnone : ∀ d, ¬ FirstError d f.asked := by
        intro d hd
        rw [← ihfirst, hfirst] at hd
        exact absurd hd (by simp)
      have hok := FirstError.all_ok_of_forall_not hnone
      rw [all_isOk_iff.2 hok, Bool.true_and, ← passed_of_outcome_eq_ok hfirst,
        FirstError.append_iff, or_iff_right (hnone e), and_iff_right hok]
      cases hopen : c.leavesOpen v.passed with
      | false =>
        rw [Answer.join_of_not_leavesOpen hopen]
        simp
      | true =>
        rw [Answer.join_of_leavesOpen hopen, if_pos rfl, ← ihsecond]
        cases g.outcome <;> simp [Except.map]

theorem detail_of_outcome_eq_fail {f : Formula Answer} {detail : Option String}
    (h : f.outcome = .ok (.fail detail)) : detail = f.detail := by
  induction f generalizing detail with
  | leaf a =>
    obtain rfl : a = .ok (.fail detail) := h
    rfl
  | join c f g ihfirst ihsecond =>
    obtain ⟨v, hfirst, hverdict⟩ := Answer.exists_of_join_eq_ok h
    have hpasses := passed_of_outcome_eq_ok hfirst
    cases c with
    | and =>
      rw [Formula.detail, ← hpasses]
      obtain ⟨hsettled, rfl⟩ | ⟨hopen, w, hsecond, hjoin⟩ := hverdict
      · exact ihfirst hfirst
      · cases v with
        | pass =>
          obtain rfl : Verdict.fail detail = w := hjoin
          exact ihsecond hsecond
        | fail first => exact absurd hopen (by simp [Connector.leavesOpen, Verdict.passed])
    | or =>
      obtain ⟨hsettled, rfl⟩ | ⟨hopen, w, hsecond, hjoin⟩ := hverdict
      · exact absurd hsettled (by simp [Connector.leavesOpen, Verdict.passed])
      · cases v with
        | pass => exact absurd hopen (by simp [Connector.leavesOpen, Verdict.passed])
        | fail first =>
          cases w with
          | pass => exact absurd hjoin (by rintro ⟨⟩)
          | fail second =>
            obtain rfl : detail = Verdict.mergeDetails first second := Verdict.fail.inj hjoin
            rw [Verdict.mergeDetails_eq_joinedDetails, ihfirst hfirst, ihsecond hsecond]
            rfl

/-! ### Trees in sequence -/

variable {α : Type}

/-- A value of trees is made in sequence: that of a join comes from the values of its two operands,
one after the other. -/
def Sequenced {β : Type} (value : Formula α → Eval β) : Prop :=
  ∀ k f g, ∃ both : β → β → β,
    value (.join k f g) = value f >>= fun first => value g >>= fun second =>
      pure (both first second)

/-- **A tree in sequence asks every leaf**, from left to right, and fails where the first of them
does. -/
theorem Sequenced.result_eq_error_iff {β : Type} {value : Formula α → Eval β}
    (hvalue : Sequenced value) {f : Formula α} {e : RuleError} :
    (value f).result = .error e ↔
      FirstError e (f.leaves.map fun a => (value (.leaf a)).result) := by
  have htries : (value f).Tries (f.leaves.map fun a => (value (.leaf a)).result) := by
    induction f with
    | leaf a => exact .self _
    | join k f g ihfirst ihsecond =>
      obtain ⟨both, hboth⟩ := hvalue k f g
      rw [hboth, leaves, List.map_append]
      exact ihfirst.bind fun _ _ => ihsecond.bind_of_no_attempt fun _ _ => .pure _
  exact htries e

/-! ### Trees of conditions -/

/-- What the leaves of a tree of conditions say about an object of a codebase. -/
def answers (f : Formula (Condition α)) (object : α) (c : Codebase) : Formula Answer :=
  f.map fun p => (p.check object c).result

/-- Conditions are bound in sequence. -/
theorem result_bindTo_eq_error_iff {f : Formula (Condition α)} {c : Codebase} {e : RuleError} :
    (f.combine.bindTo c).result = .error e ↔
      FirstError e (f.leaves.map fun p => (p.bindTo c).result) := by
  have hvalue : Sequenced fun f : Formula (Condition α) => f.combine.bindTo c :=
    fun k _ _ => ⟨Condition.joinJudgements k, rfl⟩
  exact hvalue.result_eq_error_iff

theorem result_joinJudgements (k : Connector) (first second : α → Eval Verdict) (object : α) :
    (Condition.joinJudgements k first second object).result =
      Answer.join k (first object).result (second object).result := by
  rw [Condition.joinJudgements]
  cases hfirst : (first object).result with
  | error e => rw [Eval.result_bind_error hfirst]; rfl
  | ok v =>
    rw [Eval.result_bind_ok hfirst]
    match k, v with
    | .and, .pass =>
      show (second object).result = (second object).result.map id
      cases (second object).result <;> rfl
    | .and, .fail detail => rfl
    | .or, .pass => rfl
    | .or, .fail detail =>
      show (second object >>= _).result = (second object).result.map _
      cases hsecond : (second object).result with
      | error e => rw [Eval.result_bind_error hsecond]; rfl
      | ok w => rw [Eval.result_bind_ok hsecond]; rfl

/-- **Judging is a matter of the leaves' answers.** -/
theorem result_judge_eq_outcome {f : Formula (Condition α)} {c : Codebase}
    {judge : α → Eval Verdict} (h : (f.combine.bindTo c).result = .ok judge) (object : α) :
    (judge object).result = (f.answers object c).outcome := by
  induction f generalizing judge with
  | leaf p =>
    have hcheck : (p.check object c).result = (judge object).result := Eval.result_bind_ok h _
    exact hcheck.symm
  | join k f g ihfirst ihsecond =>
    obtain ⟨first, hfirst, h⟩ := Eval.exists_of_result_bind_ok h
    obtain ⟨second, hsecond, h⟩ := Eval.exists_of_result_bind_ok h
    obtain rfl : Condition.joinJudgements k first second = judge := Except.ok.inj h
    rw [result_joinJudgements, ihfirst hfirst, ihsecond hsecond]
    rfl

/-- **What joined conditions come to.** Binding a tree of conditions fails just if binding some leaf
does, and then with the error of the leftmost such leaf. A tree that is bound judges an object by
its leaves, from left to right and leaving out every second operand that the first has settled. It
fails with the first error it meets among the leaves it asks. Otherwise it comes to the truth value
of the tree, whatever the leaves it does not ask may count as. A failure has at *and* the detail of
the first operand that fails, and at *or* the details of both that are there, joined with *and*. An
object that passes gets no detail. -/
theorem combine_judges (f : Formula (Condition α)) (c : Codebase) :
    ((∃ e, (f.combine.bindTo c).result = .error e) ↔
      ∃ p ∈ f.leaves, ∃ e, (p.bindTo c).result = .error e) ∧
    (∀ e, (f.combine.bindTo c).result = .error e ↔
      FirstError e (f.leaves.map fun p => (p.bindTo c).result)) ∧
    ∀ judge, (f.combine.bindTo c).result = .ok judge → ∀ object : α,
      (∀ e, (judge object).result = .error e ↔ FirstError e (f.answers object c).asked) ∧
      ∀ verdict, (judge object).result = .ok verdict →
        (∀ values, (f.answers object c).Related id Answer.AgreesWith values →
          verdict.passed = values.holds) ∧
        verdict.detail = if verdict.passed then none else (f.answers object c).detail := by
  refine ⟨?_, fun e => result_bindTo_eq_error_iff, fun judge hjudge object => ?_⟩
  · rw [exists_congr fun e => result_bindTo_eq_error_iff, FirstError.exists_iff]
    simp only [List.mem_map, exists_exists_and_eq_and]
  · rw [result_judge_eq_outcome hjudge object]
    refine ⟨fun e => outcome_eq_error_iff, fun verdict hverdict => ⟨fun values hvalues => ?_, ?_⟩⟩
    · have hok : ∀ a ∈ (f.answers object c).asked, ∃ v, a = .ok v := by
        refine FirstError.all_ok_of_forall_not fun e he => ?_
        rw [← outcome_eq_error_iff, hverdict] at he
        exact absurd he (by simp)
      rw [passed_of_outcome_eq_ok hverdict, holds_of_related hok hvalues]
    · cases verdict with
      | pass => rfl
      | fail detail => exact detail_of_outcome_eq_fail hverdict

/-- A page should be small and cached, or be static. The second leaf cannot judge anything, but a
page that is not small is not asked about there. -/
def pageTree : Formula (Condition TypeDecl) :=
  .join .or
    (.join .and
      (.leaf (.explained (fun t _ => pure (.fail (some (t.name ++ " is large"))))
        "be small" "is not small"))
      (.leaf (.explained (fun _ _ => .fail (.missingCondition "cached pages"))
        "be cached" "is not cached")))
    (.leaf (.explained (fun t _ => pure (.fail (some (t.name ++ " has scripts"))))
      "be static" "is not static"))

theorem combine_judges_page :
    ∃ judge, (pageTree.combine.bindTo (.ofTypes [])).result = .ok judge ∧
      ∃ verdict, (judge (.ofName .classType "Page")).result = .ok verdict ∧
        verdict.passed = false ∧
        verdict.detail = some "Page is large and Page has scripts" := by
  obtain ⟨-, -, hjudges⟩ := combine_judges pageTree (.ofTypes [])
  obtain ⟨-, hverdict⟩ := hjudges _ rfl (.ofName .classType "Page")
  obtain ⟨hpassed, hdetail⟩ := hverdict _ rfl
  -- the leaf that is not asked is read as one that passes
  have hrelated : (pageTree.answers (.ofName .classType "Page") (.ofTypes [])).Related id
      Answer.AgreesWith (.join .or (.join .and (.leaf false) (.leaf true)) (.leaf false)) :=
    .join .or (.join .and (.leaf (by rintro _ ⟨⟩; rfl)) (.leaf (by rintro _ ⟨⟩)))
      (.leaf (by rintro _ ⟨⟩; rfl))
  exact ⟨_, rfl, _, rfl, hpassed _ hrelated, hdetail.trans (by decide)⟩

end Formula

end DesignRules
