import DesignRules.Proofs.Catalogue.BuiltIn
import DesignRules.Proofs.Sentence.Drafting

/-!
# Why a sentence may fail to be judged

Of the two errors there are, a sentence whose clauses come from the catalogue knows only one. It is
never judged without a condition, because the grammar lets no sentence end before it has one. And it
fails for a combined rule only where such a rule is used as a provider, somewhere in its clauses.

## The invariant of a stage

What a stage holds is steady, and a stage that counts as finished asserts something
(`Stage.Steady`). The stages behind a relation need a third part. They hold the condition that their
rule will have, but not yet inside their draft, and as long as predicates may follow it is not even
known. So the invariant speaks of what the condition is going to be made of, the relation and the
predicates on its related objects.

Rules that are joined to one sentence are judged one inside the other. The rule before is finished
when the next one begins, so it is steady by then, and this is all that the next one has to know.

## Main definitions

* `Step.BuiltIn`, `Sentence.Clause.BuiltIn` — clauses from the catalogue
* `Stage.Steady`, `Sentence.Steady` — the invariant

## Main results

* `Stage.Steady.step`, `Sentence.Steady.step` — one clause, of a rule and of a sentence
* `Sentence.Steady.run` — a whole chain
* `Sentence.fails_for_combined_providers_only` — the errors of a sentence
-/

namespace DesignRules

/-! ### Clauses from the catalogue -/

/-- What a clause adds to a rule is built in. -/
def Step.BuiltIn {α : Type} [Element α] (used : Draft TypeDecl → Prop) : Step α → Prop
  | .filter p => p.BuiltIn used
  | .filterRelated p => p.BuiltIn used
  | .require condition => condition.BuiltIn used
  | .relate relation _ => relation.BuiltIn
  | _ => True

/-- What a clause adds to a sentence is built in. -/
def Sentence.Clause.BuiltIn (used : Draft TypeDecl → Prop) : Sentence.Clause → Prop
  | types step => step.BuiltIn used
  | members step => step.BuiltIn used
  | _ => True

variable {raised : RuleError → Prop} {c c' : Codebase} {used : Draft TypeDecl → Prop}

/-! ### Stages -/

namespace Stage

variable {α : Type} [Element α]

/-- The parts of a stage are steady, and if it is finished, it asserts something. -/
def Steady (raised : RuleError → Prop) (c c' : Codebase) : Stage α → Prop
  | given d | that d | filtered d | should _ d => d.Steady raised c c'
  | asserted d | existence d => d.Steady raised c c' ∧ d.hasAssertion = true
  | relatedThat d relation selection | related d relation selection =>
    d.Steady raised c c' ∧ relation.BuiltIn ∧ ∀ p ∈ selection.predicates, p.Steady raised c c'

theorem steady_relatedCondition {relation : Relation α TypeDecl} (hrelation : relation.BuiltIn)
    {selection : Selection TypeDecl} (hselection : ∀ p ∈ selection.predicates, p.Steady raised c c')
    (hcodebase : c.Reordered c') :
    (relatedCondition relation selection).Steady raised c c' :=
  hrelation.steady_relatedTo (selection.steady_provider hselection hcodebase)

/-- **One clause of a rule.** -/
theorem Steady.step {s next : Stage α} (hs : s.Steady raised c c') {step : Step α}
    (hstep : step.BuiltIn used) (hraised : ∀ e, RefusesCombined used e → raised e)
    (hcodebase : c.Reordered c') (h : s.step step = some next) : next.Steady raised c c' := by
  cases s with
  | given d =>
    cases step with
    | that | should => obtain rfl := Option.some.inj h; exact hs
    | _ => cases h
  | that d =>
    cases step with
    | filter p =>
      obtain rfl := Option.some.inj h
      exact Draft.Steady.that hs (Predicate.BuiltIn.steady hstep hraised hcodebase)
    | _ => cases h
  | filtered d =>
    cases step with
    | and | should => obtain rfl := Option.some.inj h; exact hs
    | _ => cases h
  | should chained d =>
    have hd : d.Steady raised c c' := hs
    cases step with
    | require condition =>
      have hcondition : condition.Steady raised c c' :=
        Condition.BuiltIn.steady hstep hraised hcodebase
      cases chained <;> cases h <;> exact ⟨hd.require hcondition, rfl⟩
    | relate relation κ =>
      cases chained <;> cases h <;> exact ⟨hd, hstep, fun p hp => absurd hp List.not_mem_nil⟩
    | exist => cases chained <;> cases h; exact ⟨hd.requireExistence _, rfl⟩
    | notExist => cases chained <;> cases h; exact ⟨hd.requireExistence _, rfl⟩
    | _ => cases chained <;> cases h
  | asserted d =>
    obtain ⟨hd, hassertion⟩ := hs
    cases step with
    | and | or => obtain rfl := Option.some.inj h; exact hd.joinNext _
    | because reason =>
      obtain rfl := Option.some.inj h
      exact ⟨hd.because reason, hassertion⟩
    | _ => cases h
  | existence d =>
    obtain ⟨hd, hassertion⟩ := hs
    cases step with
    | because reason =>
      obtain rfl := Option.some.inj h
      exact ⟨hd.because reason, hassertion⟩
    | _ => cases h
  | relatedThat d relation selection =>
    obtain ⟨hd, hrelation, hselection⟩ := hs
    cases step with
    | filterRelated p =>
      obtain rfl := Option.some.inj h
      refine ⟨hd, hrelation, fun q hq => ?_⟩
      rcases List.mem_append.1 hq with hq | hq
      · exact hselection q hq
      · obtain rfl := List.mem_singleton.1 hq
        exact Predicate.BuiltIn.steady hstep hraised hcodebase
    | _ => cases h
  | related d relation selection =>
    obtain ⟨hd, hrelation, hselection⟩ := hs
    have hrequired : (d.require (relatedCondition relation selection)).Steady raised c c' :=
      hd.require (steady_relatedCondition hrelation hselection hcodebase)
    cases step with
    | and => obtain rfl := Option.some.inj h; exact ⟨hd, hrelation, hselection⟩
    -- The ways out of an open relation all let its condition join.
    | andShould | orShould => obtain rfl := Option.some.inj h; exact hrequired.joinNext _
    | because reason => obtain rfl := Option.some.inj h; exact ⟨hrequired.because reason, rfl⟩
    | _ => cases h

/-- A finished stage holds a steady draft that asserts something. -/
theorem Steady.of_finished? {s : Stage α} (hs : s.Steady raised c c') (hcodebase : c.Reordered c')
    {d : Draft α} (h : s.finished? = some d) :
    d.Steady raised c c' ∧ d.hasAssertion = true := by
  cases s with
  | asserted | existence => obtain rfl := Option.some.inj h; exact hs
  | related d relation selection =>
    obtain rfl := Option.some.inj h
    obtain ⟨hd, hrelation, hselection⟩ := hs
    exact ⟨hd.require (steady_relatedCondition hrelation hselection hcodebase), rfl⟩
  | _ => cases h

/-- A stage is judged as the rule of its finished draft. -/
theorem rule?_eq_map_finished? (s : Stage α) : s.rule? = s.finished?.map Draft.rule := by
  cases s <;> rfl

variable [LawfulElement α]

theorem Steady.rule_of_finished? {s : Stage α} (hs : s.Steady raised c c')
    (hcodebase : c.Reordered c') {d : Draft α} (h : s.finished? = some d) :
    d.rule.Steady raised c c' := by
  obtain ⟨hd, hassertion⟩ := hs.of_finished? hcodebase h
  refine hd.rule (fun hopen => ?_) hcodebase
  rw [hassertion] at hopen
  exact absurd hopen (by simp)

theorem Steady.of_rule? {s : Stage α} (hs : s.Steady raised c c') (hcodebase : c.Reordered c')
    {rule : Rule} (h : s.rule? = some rule) : rule.Steady raised c c' := by
  rw [rule?_eq_map_finished?] at h
  obtain ⟨d, hd, rfl⟩ := Option.map_eq_some_iff.1 h
  exact hs.rule_of_finished? hcodebase hd

end Stage

/-! ### Sentences -/

namespace Sentence

/-- The last rule of a sentence is at a steady stage, or the rule to be joined is steady. -/
def Steady (raised : RuleError → Prop) (c c' : Codebase) : Sentence → Prop
  | types stage => stage.Steady raised c c'
  | members stage => stage.Steady raised c c'
  | joining prior _ => prior.Steady raised c c'

theorem steady_start (topic : Topic) : (start topic).Steady raised c c' := by
  cases topic with
  | types κ => exact Draft.steady_start κ
  | members κ => exact Draft.steady_start κ

/-- **One clause of a sentence.** -/
theorem Steady.step {s next : Sentence} (hs : s.Steady raised c c') {clause : Clause}
    (hclause : clause.BuiltIn used) (hraised : ∀ e, RefusesCombined used e → raised e)
    (hcodebase : c.Reordered c') (h : s.step clause = some next) : next.Steady raised c c' := by
  cases clause with
  | types step =>
    cases s with
    | types stage =>
      obtain ⟨stage', hstep, rfl⟩ := Option.map_eq_some_iff.1 h
      exact Stage.Steady.step hs hclause hraised hcodebase hstep
    | members | joining => cases h
  | members step =>
    cases s with
    | members stage =>
      obtain ⟨stage', hstep, rfl⟩ := Option.map_eq_some_iff.1 h
      exact Stage.Steady.step hs hclause hraised hcodebase hstep
    | types | joining => cases h
  | also k =>
    cases s with
    | types stage =>
      obtain ⟨d, hd, rfl⟩ := Option.map_eq_some_iff.1 h
      exact Stage.Steady.rule_of_finished? hs hcodebase hd
    | members stage =>
      obtain ⟨d, hd, rfl⟩ := Option.map_eq_some_iff.1 h
      exact Stage.Steady.rule_of_finished? hs hcodebase hd
    | joining => cases h
  | about topic =>
    cases s with
    | joining prior k =>
      cases topic <;> obtain rfl := Option.some.inj h <;> exact Draft.steady_continuing hs k _
    | types | members => cases topic <;> cases h

/-- **A chain of clauses.** -/
theorem Steady.run {s last : Sentence} (hs : s.Steady raised c c') {chain : List Clause}
    (hchain : ∀ clause ∈ chain, clause.BuiltIn used)
    (hraised : ∀ e, RefusesCombined used e → raised e) (hcodebase : c.Reordered c')
    (h : s.run chain = some last) : last.Steady raised c c' := by
  induction chain generalizing s with
  | nil =>
    obtain rfl := Option.some.inj h
    exact hs
  | cons clause rest ih =>
    obtain ⟨next, hstep, hrest⟩ := Option.bind_eq_some_iff.1 h
    have hnext : next.Steady raised c c' :=
      hs.step (hchain clause (List.mem_cons_self ..)) hraised hcodebase hstep
    exact ih hnext (fun clause hmem => hchain clause (List.mem_cons_of_mem _ hmem)) hrest

theorem Steady.of_rule? {s : Sentence} (hs : s.Steady raised c c') (hcodebase : c.Reordered c')
    {rule : Rule} (h : s.rule? = some rule) : rule.Steady raised c c' := by
  cases s with
  | types stage => exact Stage.Steady.of_rule? hs hcodebase h
  | members stage => exact Stage.Steady.of_rule? hs hcodebase h
  | joining => cases h

/-- A finished sentence with clauses from the catalogue is a steady rule. -/
theorem steady_of_run {topic : Topic} {chain : List Clause}
    (hchain : ∀ clause ∈ chain, clause.BuiltIn used) {s : Sentence}
    (hrun : (start topic).run chain = some s) {rule : Rule} (hrule : s.rule? = some rule)
    (hraised : ∀ e, RefusesCombined used e → raised e) (hcodebase : c.Reordered c') :
    rule.Steady raised c c' :=
  ((steady_start topic).run hchain hraised hcodebase hrun).of_rule? hcodebase hrule

/-- **A sentence fails for combined providers only.** Take a finished sentence with predicates,
conditions and relations from the catalogue and with built-in providers, of any length and with any
number of rules joined to it, and any codebase. Judging the sentence never fails for want of a
condition. If it fails because a rule is combined, then that rule is a draft which is used as a
provider, in the sentence or in a predicate of another provider, and the error describes it. So a
sentence that uses no combined draft as a provider has a report. -/
theorem fails_for_combined_providers_only (used : Draft TypeDecl → Prop) (topic : Topic)
    (chain : List Clause) (hchain : ∀ clause ∈ chain, clause.BuiltIn used) (s : Sentence)
    (hrun : (start topic).run chain = some s) (rule : Rule) (hrule : s.rule? = some rule)
    (c : Codebase) :
    (∀ description, (rule.evaluate c).result ≠ .error (.missingCondition description)) ∧
    (∀ description, (rule.evaluate c).result = .error (.objectsOfCombined description) →
      ∃ d, used d ∧ d.isCombined = true ∧ description = d.description) ∧
    ((∀ d, used d → d.isCombined = false) → ∃ report, (rule.evaluate c).result = .ok report) := by
  -- on one codebase, being steady says which errors there are
  have hsteady : rule.Steady (RefusesCombined used) c c :=
    steady_of_run hchain hrun hrule (fun _ he => he) (.refl c)
  obtain ⟨e, ⟨d, hused, hcombined, rfl⟩, herror, -⟩ | ⟨report, -, -, hreport, -⟩ :=
    Matched.error_or_ok hsteady
  · refine ⟨fun description h => ?_, fun description h => ?_, fun hnone => ?_⟩
    · rw [herror] at h
      cases h
    · rw [herror] at h
      cases h
      exact ⟨d, hused, hcombined, rfl⟩
    · rw [hnone d hused] at hcombined
      exact absurd hcombined (by simp)
  · refine ⟨fun description h => ?_, fun description h => ?_, fun _ => ⟨report, hreport⟩⟩
    · rw [hreport] at h
      cases h
    · rw [hreport] at h
      cases h

/-- Types should not depend on classes that depend on what the draft is about. -/
def secondHandChain (d : Draft TypeDecl) : List Clause :=
  [.types .should, .types (.require ((Question.provided (.dependsOnAnyIn (Selection.mk .classes
    [(Question.provided (.dependsOnAnyIn d.provider)).predicate false]).provider)).condition true))]

theorem builtIn_secondHandChain {d : Draft TypeDecl} (hd : d.predicates = []) :
    ∀ clause ∈ secondHandChain d, clause.BuiltIn (· = d) := by
  have hdraft : d.provider.BuiltIn (· = d) := .draft d rfl (by simp [hd])
  intro clause hclause
  obtain rfl | rfl : clause = _ ∨ clause = _ := by simpa [secondHandChain] using hclause
  · trivial
  · refine Condition.BuiltIn.question _ true fun provider hprovider => ?_
    obtain rfl := Option.some.inj hprovider
    refine .selection _ fun p hp => ?_
    obtain rfl := List.mem_singleton.1 hp
    refine .question _ false fun provider hprovider => ?_
    obtain rfl := Option.some.inj hprovider
    exact hdraft

/-- Classes, in a rule that continues another one. -/
def furtherClasses : Draft TypeDecl := .continuing Draft.shopRule.rule .and .classes

theorem fails_for_combined_providers_only_shop :
    (∃ s rule, (start (.types .types)).run (secondHandChain furtherClasses) = some s ∧
      s.rule? = some rule ∧
      (rule.evaluate (.ofTypes Draft.shopTypes)).result = .error (.objectsOfCombined
        "Classes that are public should not depend on \"Shop.Data.**\" and Classes") ∧
      ∃ d, d = furtherClasses ∧ d.isCombined = true ∧
        "Classes that are public should not depend on \"Shop.Data.**\" and Classes" =
          d.description) ∧
    ∃ s rule, (start (.types .types)).run (secondHandChain (.start .classes)) = some s ∧
      s.rule? = some rule ∧
      ∃ report, (rule.evaluate (.ofTypes Draft.shopTypes)).result = .ok report := by
  obtain ⟨-, hcombined, -⟩ := fails_for_combined_providers_only (· = furtherClasses) (.types .types)
    (secondHandChain furtherClasses) (builtIn_secondHandChain rfl) _ rfl _ rfl
    (.ofTypes Draft.shopTypes)
  obtain ⟨-, -, hreport⟩ := fails_for_combined_providers_only (· = .start .classes)
    (.types .types) (secondHandChain (.start .classes)) (builtIn_secondHandChain rfl) _ rfl _ rfl
    (.ofTypes Draft.shopTypes)
  refine ⟨⟨_, _, rfl, rfl, rfl, hcombined _ rfl⟩, _, _, rfl, rfl, hreport fun d hd => ?_⟩
  rw [hd]
  rfl

end Sentence

end DesignRules
