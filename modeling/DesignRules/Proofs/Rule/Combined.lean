import DesignRules.Proofs.Condition.Joined
import DesignRules.Proofs.Formula.Regrouping
import DesignRules.Proofs.Rule.Findings
import DesignRules.Proofs.Sentence.Drafting

/-!
# Combined rules

A tree of rules joined with *and* and *or* is evaluated as a whole, and a rule can be combined with
another one in two ways: as a join of two finished rules, or as a draft that continues a finished
rule. What a tree reports can be said from the reports of its leaves, and the two ways of combining
rules come to the same report.

## What a disjunction drops

A disjunction with an operand that passes reports nothing, not even what was collected below its
other operand. So whether the findings of a leaf are reported is no matter of the leaf, nor of the
join next to it, but of all the joins it stands in. `Formula.leavesWithin` lists each leaf with
these joins, and `Formula.heard` keeps the leaves that none of them drops. Errors are not dropped:
every leaf is evaluated, whatever the joins make of its report.

That a report without findings counts as passed is right for joined reports as well. A disjunction
that fails has findings to show, since an operand without any would have made it pass.

## Two orders of evaluation

A join evaluates its first rule first, and a draft that continues a rule evaluates that rule last.
The events come in different orders then, and where both rules fail the errors are different ones.
The result is the same wherever one of the rules has a report.

## Main definitions

* `Formula.leavesWithin` — the leaves of a tree, each with the joins it stands in
* `Formula.heard` — the reports of a tree whose findings are reported
* `Draft.after` — a draft as the continuation of a rule

## Main results

* `Rule.combine_assoc` — a chain of rules needs no grouping
* `Formula.exists_result_evaluate` — the report of a tree, from the reports of its leaves
* `Formula.combine_evaluates` — what a tree of rules comes to
* `Draft.run_after`, `Draft.evaluate_after` — the calls on a continuation, and its evaluation
* `Draft.continuing_agrees_with_combine` — the two ways of combining rules
-/

namespace DesignRules

/-! ### Joined reports -/

namespace Report

theorem passed_combine_eq_holds (description : String) (k : Connector) (first second : Report) :
    (combine description k first second).passed = k.holds first.passed second.passed := by
  rw [passed_combine]
  cases k <;> rfl

theorem violations_combine (description : String) (k : Connector) (first second : Report) :
    (combine description k first second).violations =
      if k = .or ∧ (first.passed ∨ second.passed) then []
      else first.violations ++ second.violations := by
  rw [combine]
  split <;> rfl

theorem description_combine (description : String) (k : Connector) (first second : Report) :
    (combine description k first second).description = description := by
  rw [combine]
  split <;> rfl

/-- The sentence of an inner join is lost in the outer one. -/
theorem combine_assoc (description inner inner' : String) (k : Connector)
    (first second third : Report) :
    combine description k (combine inner k first second) third =
      combine description k first (combine inner' k second third) := by
  have hviolations : (combine description k (combine inner k first second) third).violations =
      (combine description k first (combine inner' k second third)).violations := by
    simp only [violations_combine, passed_combine_eq_holds]
    cases k with
    | and => simp
    | or =>
      cases hfirst : first.passed <;> cases hsecond : second.passed <;>
        cases hthird : third.passed <;> simp [Connector.holds]
  refine (mk.injEq ..).mpr ⟨?_, hviolations⟩
  exact (description_combine ..).trans (description_combine ..).symm

end Report

/-- **A chain of rules needs no grouping.** The rules are equal, so their sentences, reports, errors
and events are. -/
theorem Rule.combine_assoc (k : Connector) (first second third : Rule) :
    (first.combine k second).combine k third = first.combine k (second.combine k third) := by
  have hdescription : k.between (k.between first.description second.description)
        third.description =
      k.between first.description (k.between second.description third.description) := by
    simp [Connector.between, String.append_assoc]
  have hevaluate : ((first.combine k second).combine k third).evaluate =
      (first.combine k (second.combine k third)).evaluate := by
    funext c
    -- either way the three rules are evaluated in order, and only the inner sentences differ
    simp only [combine, bind_assoc, pure_bind, hdescription]
    refine congrArg _ (funext fun a => congrArg _ (funext fun b => congrArg _ (funext fun d => ?_)))
    exact congrArg pure (Report.combine_assoc _ _ _ k a b d)
  exact (mk.injEq ..).mpr ⟨hdescription, hevaluate⟩

instance : LawfulJoin Rule := ⟨Rule.combine_assoc⟩

/-- The rule that reports the same on every codebase. -/
def Rule.reporting (report : Report) : Rule := ⟨report.description, fun _ => pure report⟩

/-! ### What a tree reports -/

namespace Formula

/-- The leaves from left to right, each with the joins it stands in, from the outermost to the
innermost. -/
def leavesWithin {α : Type} : Formula α → List (α × List (Formula α))
  | .leaf a => [(a, [])]
  | .join k f g => (leavesWithin f ++ leavesWithin g).map fun l => (l.1, .join k f g :: l.2)

theorem map_fst_leavesWithin {α : Type} (f : Formula α) :
    f.leavesWithin.map Prod.fst = f.leaves := by
  induction f with
  | leaf a => rfl
  | join k f g ihfirst ihsecond =>
    rw [leavesWithin, leaves, ← ihfirst, ← ihsecond, List.map_map, ← List.map_append]
    rfl

/-- The truth value of a tree of reports, where a report counts as true if it has no findings. -/
def passes (reports : Formula Report) : Bool := (reports.map Report.passed).holds

/-- Whether the findings below a tree are dropped there: it is a disjunction, and one of its
operands passes. -/
def dropsFindings : Formula Report → Bool
  | .leaf _ => false
  | .join .and _ _ => false
  | .join .or f g => f.passes || g.passes

/-- The reports at the leaves that stand in no join where findings are dropped, from left to
right. -/
def heard (reports : Formula Report) : List Report :=
  (reports.leavesWithin.filter fun l => !l.2.any dropsFindings).map Prod.fst

/-- What is heard of a join is heard of its operands, unless the join itself drops it. -/
theorem heard_join (k : Connector) (f g : Formula Report) :
    (Formula.join k f g).heard =
      if (Formula.join k f g).dropsFindings then [] else f.heard ++ g.heard := by
  -- the join itself stands first among the joins of every leaf below it
  rw [heard, leavesWithin, List.filter_map, List.map_map]
  simp only [Function.comp_def, List.any_cons]
  cases (Formula.join k f g).dropsFindings with
  | true =>
    rw [if_pos rfl, List.filter_eq_nil_iff.2 fun l _ => by simp, List.map_nil]
  | false =>
    simp only [Bool.false_or]
    rw [if_neg Bool.false_ne_true, List.filter_append, List.map_append]
    rfl

theorem dropsFindings_join_iff (k : Connector) (f g : Formula Report) :
    (Formula.join k f g).dropsFindings = true ↔ k = .or ∧ (f.passes ∨ g.passes) := by
  cases k <;> simp [dropsFindings]

variable {α : Type}

theorem map_injective {β : Type} {name : α → β} (hname : Function.Injective name) :
    Function.Injective (map name) := by
  intro f g h
  induction f generalizing g with
  | leaf a =>
    cases g with
    | leaf b => exact congrArg leaf (hname (leaf.inj h))
    | join => cases h
  | join k f f' ihfirst ihsecond =>
    cases g with
    | leaf => cases h
    | join =>
      obtain ⟨rfl, hfirst, hsecond⟩ := join.inj h
      exact congrArg₂ (join k) (ihfirst hfirst) (ihsecond hsecond)

theorem exists_map_eq_map_ok {ε β : Type} {f : Formula α} {result : α → Except ε β}
    (h : ∀ a ∈ f.leaves, ∃ b, result a = .ok b) :
    ∃ values : Formula β, f.map result = values.map .ok := by
  induction f with
  | leaf a =>
    obtain ⟨b, hb⟩ := h a (List.mem_singleton_self a)
    exact ⟨.leaf b, congrArg leaf hb⟩
  | join k f g ihfirst ihsecond =>
    obtain ⟨values, hvalues⟩ := ihfirst fun a ha => h a (List.mem_append_left _ ha)
    obtain ⟨values', hvalues'⟩ := ihsecond fun a ha => h a (List.mem_append_right _ ha)
    exact ⟨.join k values values', congrArg₂ (join k) hvalues hvalues'⟩

/-- **The report of a tree.** If all leaves have a report, so has the tree. It passes by the truth
value of the tree, and otherwise its findings are those of the leaves that are heard. -/
theorem exists_result_evaluate {f : Formula Rule} {c : Codebase} {reports : Formula Report}
    (h : f.map (fun r => (r.evaluate c).result) = reports.map .ok) :
    ∃ report, (f.combine.evaluate c).result = .ok report ∧ report.passed = reports.passes ∧
      report.violations = reports.heard.flatMap Report.violations := by
  induction f generalizing reports with
  | leaf r =>
    cases reports with
    | leaf own => exact ⟨own, Formula.leaf.inj h, rfl, (List.append_nil _).symm⟩
    | join k f' g' => cases h
  | join k f g ihfirst ihsecond =>
    cases reports with
    | leaf own => cases h
    | join k' f' g' =>
      obtain ⟨rfl, hf, hg⟩ := Formula.join.inj h
      obtain ⟨first, hfirst, hpassed, hviolations⟩ := ihfirst hf
      obtain ⟨second, hsecond, hpassed', hviolations'⟩ := ihsecond hg
      refine ⟨.combine (k.between f.combine.description g.combine.description) k first second,
        ?_, ?_, ?_⟩
      · exact (Eval.result_bind_ok hfirst _).trans (Eval.result_bind_ok hsecond _)
      · rw [Report.passed_combine_eq_holds, hpassed, hpassed']
        rfl
      · rw [Report.violations_combine, hpassed, hpassed', hviolations, hviolations', heard_join]
        simp only [dropsFindings_join_iff]
        split
        · rfl
        · exact List.flatMap_append.symm

theorem heard_sublist (reports : Formula Report) : reports.heard.Sublist reports.leaves := by
  rw [heard, ← map_fst_leavesWithin]
  exact List.filter_sublist.map Prod.fst

/-- A tree of rules is evaluated in sequence, disjunctions that are already decided included. -/
theorem result_evaluate_eq_error_iff {f : Formula Rule} {c : Codebase} {e : RuleError} :
    (f.combine.evaluate c).result = .error e ↔
      FirstError e (f.leaves.map fun r => (r.evaluate c).result) := by
  have hvalue : Sequenced fun f : Formula Rule => f.combine.evaluate c := fun k f g =>
    ⟨.combine (k.between f.combine.description g.combine.description) k, rfl⟩
  exact hvalue.result_eq_error_iff

/-- **What a tree of rules comes to.** Evaluating it fails just if evaluating some leaf does, and
then with the error of the leftmost such leaf. If no leaf fails, there is a report. It passes if the
tree is true of the leaves whose reports have no findings. Its findings are those of some of the
leaves, from left to right and each with all it found; left out are the leaves that stand in a
disjunction with an operand that passes. Regrouping chains of one connector changes neither the
sentence nor the evaluation. -/
theorem combine_evaluates (f : Formula Rule) (c : Codebase) :
    ((∃ e, (f.combine.evaluate c).result = .error e) ↔
      ∃ r ∈ f.leaves, ∃ e, (r.evaluate c).result = .error e) ∧
    (∀ e, (f.combine.evaluate c).result = .error e ↔
      FirstError e (f.leaves.map fun r => (r.evaluate c).result)) ∧
    ((∀ r ∈ f.leaves, ∃ own, (r.evaluate c).result = .ok own) →
      ∃ (reports : Formula Report) (report : Report),
        f.map (fun r => (r.evaluate c).result) = reports.map .ok ∧
        (f.combine.evaluate c).result = .ok report ∧
        report.passed = (reports.map Report.passed).holds ∧
        report.violations = reports.heard.flatMap Report.violations ∧
        reports.heard.Sublist reports.leaves) ∧
    ∀ g, f.Regrouped g → f.combine.description = g.combine.description ∧
      f.combine.evaluate c = g.combine.evaluate c := by
  refine ⟨?_, fun e => result_evaluate_eq_error_iff, fun hok => ?_, fun g hregrouped => ?_⟩
  · rw [exists_congr fun e => result_evaluate_eq_error_iff, FirstError.exists_iff]
    simp only [List.mem_map, exists_exists_and_eq_and]
  · obtain ⟨reports, hreports⟩ := exists_map_eq_map_ok hok
    obtain ⟨report, hreport, hpassed, hviolations⟩ := exists_result_evaluate hreports
    exact ⟨reports, report, hreports, hreport, hpassed, hviolations, heard_sublist reports⟩
  · rw [hregrouped.combine_eq]
    exact ⟨rfl, rfl⟩

/-- What a rule about pages reports. -/
def pageReport (demand : String) (found : List String) : Report where
  description := "Pages should be " ++ demand
  violations := found.map fun page =>
    .ofMessage ("Pages should be " ++ demand) (some page) ("is not " ++ demand)

/-- Pages should be small and cached, or be static. All are static. -/
def staticReports : Formula Report :=
  .join .or
    (.join .and (.leaf (pageReport "small" ["Cart"])) (.leaf (pageReport "cached" ["Index"])))
    (.leaf (pageReport "static" []))

/-- Pages should be static as above, and cached, and small. -/
def pageReports : Formula Report :=
  .join .and (.join .and staticReports (.leaf (pageReport "cached" ["Index"])))
    (.leaf (pageReport "small" ["Cart"]))

/-- The rules that report this. -/
def pageRules : Formula Rule := pageReports.map Rule.reporting

theorem combine_evaluates_pages :
    (∃ report, (pageRules.combine.evaluate (.ofTypes [])).result = .ok report ∧
      report.passed = false ∧
      report.violations = (pageReport "cached" ["Index"]).violations ++
        (pageReport "small" ["Cart"]).violations) ∧
    pageRules.combine.description = (Formula.join .and (staticReports.map Rule.reporting)
      (.join .and (.leaf (.reporting (pageReport "cached" ["Index"])))
        (.leaf (.reporting (pageReport "small" ["Cart"]))))).combine.description := by
  obtain ⟨-, -, hreport, hregroup⟩ := combine_evaluates pageRules (.ofTypes [])
  have hok : ∀ r ∈ pageRules.leaves, ∃ own, (r.evaluate (.ofTypes [])).result = .ok own := by
    intro r hr
    rw [pageRules, leaves_map] at hr
    obtain ⟨report, -, rfl⟩ := List.mem_map.1 hr
    exact ⟨report, rfl⟩
  obtain ⟨reports, report, hreports, hresult, hpassed, hviolations, -⟩ := hreport hok
  rw [pageRules, map_map] at hreports
  obtain rfl : pageReports = reports := map_injective (fun _ _ => Except.ok.inj) hreports
  exact ⟨⟨report, hresult, hpassed.trans (by decide), hviolations.trans (by decide)⟩,
    (hregroup _ (.assoc .and _ _ _)).1⟩

end Formula

/-! ### Continuing a rule -/

/-- Where one of two computations succeeds, their order has no influence on the result. -/
theorem Eval.result_bind_comm {α β γ : Type} {x : Eval α} {y : Eval β}
    (h : (∃ a, x.result = .ok a) ∨ ∃ b, y.result = .ok b) (f : α → β → γ) :
    (x >>= fun a => y >>= fun b => pure (f a b)).result =
      (y >>= fun b => x >>= fun a => pure (f a b)).result := by
  obtain ⟨a, ha⟩ | ⟨b, hb⟩ := h
  · rw [result_bind_ok ha]
    cases hy : y.result with
    | error e => rw [result_bind_error hy, result_bind_error hy]
    | ok b => rw [result_bind_ok hy, result_bind_ok hy, result_bind_ok ha]
  · rw [result_bind_ok hb]
    cases hx : x.result with
    | error e => rw [result_bind_error hx, result_bind_error hx]
    | ok a => rw [result_bind_ok hx, result_bind_ok hx, result_bind_ok hb]

namespace Draft

variable {α : Type}

/-- The draft as the continuation of a finished rule. -/
def after (d : Draft α) (prior : Rule) (k : Connector) : Draft α :=
  { d with prior := some (prior, k) }

/-- No call asks which rule is continued. -/
theorem call_after (d : Draft α) (prior : Rule) (k : Connector) (next : Call α) :
    (d.after prior k).call next = (d.call next).after prior k := by
  cases next <;> rfl

theorem run_after (d : Draft α) (prior : Rule) (k : Connector) (calls : List (Call α)) :
    (d.after prior k).run calls = (d.run calls).after prior k := by
  induction calls generalizing d with
  | nil => rfl
  | cons next rest ih => rw [run_cons, run_cons, call_after, ih]

theorem prior_call (d : Draft α) (next : Call α) : (d.call next).prior = d.prior := by
  cases next <;> rfl

theorem prior_run (d : Draft α) (calls : List (Call α)) : (d.run calls).prior = d.prior := by
  induction calls generalizing d with
  | nil => rfl
  | cons next rest ih => rw [run_cons, ih, prior_call]

theorem description_after {d : Draft α} (hprior : d.prior = none) (prior : Rule) (k : Connector) :
    (d.after prior k).description = k.between prior.description d.description := by
  have hdescription : d.describeOwn d.assertion = d.description := by
    rw [description, describe, hprior]
  rw [← hdescription]
  rfl

variable [Element α]

theorem objects_after (d : Draft α) (prior : Rule) (k : Connector) (c : Codebase) :
    (d.after prior k).objects c = .fail (.objectsOfCombined (d.after prior k).description) :=
  if_pos rfl

/-- A continuation evaluates itself, and then the rule that it continues. -/
theorem evaluate_after {d : Draft α} (hprior : d.prior = none) (hassertion : d.hasAssertion = true)
    (prior : Rule) (k : Connector) (c : Codebase) :
    (d.after prior k).evaluate c = d.evaluate c >>= fun own => prior.evaluate c >>= fun report =>
      pure (.combine (k.between prior.description d.description) k report own) := by
  obtain ⟨a, ha⟩ := Option.isSome_iff_exists.1 hassertion
  have hdescription : d.describeOwn (some a) = d.description := by
    rw [description, describe, hprior, ha]
  have hafter : (d.after prior k).assertion = some a := ha
  rw [evaluate_of_prior_eq_none hprior ha, evaluate, hafter, ← hdescription]
  show (d.after prior k).evaluateWith a c = _
  rw [evaluateWith, bind_assoc]
  rfl

/-- **The two ways of combining rules agree.** A draft that continues a finished rule reads like the
join of that rule and of the draft that the same calls make alone. If it asserts something, it also
has the same result as the join wherever one of the two rules has a report; where neither has, the
draft fails with its own error and the join with that of the finished rule. The objects of a draft
that continues another rule cannot be asked for. -/
theorem continuing_agrees_with_combine (prior : Rule) (k : Connector) (κ : Kind α)
    (calls : List (Call α)) (c : Codebase) :
    let own := (start κ).run calls
    let both := (continuing prior k κ).run calls
    both.description = (prior.combine k own.rule).description ∧
    (own.hasAssertion = true →
      ((∃ report, (prior.evaluate c).result = .ok report) ∨
          (∃ report, (own.evaluate c).result = .ok report) →
        (both.evaluate c).result = ((prior.combine k own.rule).evaluate c).result) ∧
      ∀ e e', (prior.evaluate c).result = .error e → (own.evaluate c).result = .error e' →
        (both.evaluate c).result = .error e' ∧
          ((prior.combine k own.rule).evaluate c).result = .error e) ∧
    (both.objects c).result = .error (.objectsOfCombined both.description) := by
  intro own both
  have hboth : both = own.after prior k := run_after (start κ) prior k calls
  have hprior : own.prior = none := prior_run (start κ) calls
  rw [hboth]
  refine ⟨description_after hprior prior k, fun hassertion => ⟨fun hreport => ?_, ?_⟩, ?_⟩
  · rw [evaluate_after hprior hassertion]
    exact Eval.result_bind_comm hreport.symm _
  · intro e e' he he'
    rw [evaluate_after hprior hassertion]
    exact ⟨Eval.result_bind_error he' _, Eval.result_bind_error he _⟩
  · rw [objects_after]
    rfl

/-- The calls of the rule that public classes should not depend on what is below `Shop.Data`. -/
def shopCalls : List (Call TypeDecl) :=
  [.that ((Criterion.visibility .pub).predicate false),
    .require ((Criterion.dependsOn ⟨"Shop.Data.**"⟩).condition true).lift]

/-- A rule that finds a page which is not small. -/
def cartRule : Rule := .reporting (Formula.pageReport "small" ["Cart"])

/-- A rule that asserts nothing. -/
def openRule : Rule := (start Kind.classes).rule

/-- The call for a condition that cannot be judged. -/
def cachedCalls : List (Call TypeDecl) :=
  [.require (.explained (fun _ _ => .fail (.missingCondition "caches")) "be cached"
    "is not cached")]

theorem continuing_agrees_with_combine_shop :
    (((continuing cartRule .or .classes).run shopCalls).evaluate (.ofTypes shopTypes)).result =
      ((cartRule.combine .or ((start .classes).run shopCalls).rule).evaluate
        (.ofTypes shopTypes)).result ∧
    (((continuing openRule .and .classes).run cachedCalls).evaluate (.ofTypes shopTypes)).result =
      .error (.missingCondition "caches") ∧
    ((openRule.combine .and ((start .classes).run cachedCalls).rule).evaluate
        (.ofTypes shopTypes)).result = .error (.missingCondition "Classes") := by
  obtain ⟨-, hreport, -⟩ :=
    continuing_agrees_with_combine cartRule .or .classes shopCalls (.ofTypes shopTypes)
  obtain ⟨-, herrors, -⟩ :=
    continuing_agrees_with_combine openRule .and .classes cachedCalls (.ofTypes shopTypes)
  exact ⟨(hreport rfl).1 (Or.inl ⟨_, rfl⟩), (herrors rfl).2 _ _ rfl rfl⟩

end Draft

end DesignRules
