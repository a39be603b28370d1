import DesignRules.Proofs.Rule.Combined
import DesignRules.Proofs.Sentence.Refusals

/-!
# Where findings come from

A rule may be made of many drafts: one continues another, finished rules are joined, and a sentence
goes on after each of its rules. There is one report for all of them, and it has the sentence of the
whole rule. Its findings do not have that sentence. Each of them names the draft that found it, and
of that draft only what it says for itself: its subject, what it asserts and its reason, without the
rule that it continues.

## The drafts of a rule

A rule is a sentence with an evaluation, and neither shows how the rule was made. So the statement
is about rules together with the tree of the drafts that they are made of (`Rule.ComposedOf`). The
leaves of the tree are drafts that continue no other rule. A draft that continues a rule is such a
draft joined to the tree of that rule. A stage with a relation that is still open is made of the
draft which has the relation joined to it. Every finished sentence has such a tree.

## Main definitions

* `Report.IsBy` — a report with a sentence whose findings are errors against that sentence
* `Rule.ComposedOf` — a rule and the tree of the drafts that it is made of

## Main results

* `Draft.isBy_of_result_evaluate` — the report of a draft that continues no rule
* `Rule.ComposedOf.result_evaluate_combine` — a rule reports what its tree of drafts reports
* `Sentence.exists_composedOf_of_run` — finished sentences are made of drafts
* `Rule.findings_name_their_origin` — the sentence of a report, and of each finding in it
-/

namespace DesignRules

/-! ### The report of a single draft -/

/-- The report has the sentence, and its findings are errors against that very sentence. -/
structure Report.IsBy (report : Report) (sentence : String) : Prop where
  /-- It has the sentence. -/
  description_eq : report.description = sentence
  /-- Each finding names the sentence. -/
  rule_eq : ∀ v ∈ report.violations, v.rule = sentence
  /-- Each finding is an error. -/
  severity_eq : ∀ v ∈ report.violations, v.severity = .error

/-- The report is that of a draft which is the rule `part` and continues no other one. Its findings
are errors against the sentence that the draft has for itself. -/
def Report.IsOwn (report : Report) (c : Codebase) (part : Rule) : Prop :=
  ∃ (α : Type) (_ : Element α) (d : Draft α), d.prior = none ∧ part = d.rule ∧
    (d.evaluate c).result = .ok report ∧ report.IsBy (d.describeOwn d.assertion)

namespace Assertion

variable {α : Type} [Element α]

theorem rule_of_mem_of_forall₂ {rule failDescription : String} {judge : α → Eval Verdict}
    {objects : List α} {violations : List Violation}
    (h : List.Forall₂ (Finding rule failDescription judge) objects violations) :
    ∀ v ∈ violations, v.rule = rule ∧ v.severity = .error := by
  induction h with
  | nil => simp
  | cons hfinding _ ih =>
    intro v hv
    rcases List.mem_cons.1 hv with rfl | hv
    · exact ⟨hfinding.rule_eq, hfinding.severity_eq⟩
    · exact ih v hv

theorem rule_of_mem_judgeNumber {rule : String} {condition : Existence} {candidates : List α} :
    ∀ v ∈ judgeNumber rule condition candidates, v.rule = rule ∧ v.severity = .error := by
  intro v hv
  unfold judgeNumber at hv
  split at hv
  · exact absurd hv List.not_mem_nil
  · cases candidates with
    | nil =>
      obtain rfl := List.mem_singleton.1 hv
      exact ⟨rfl, rfl⟩
    | cons object rest =>
      obtain ⟨object', -, rfl⟩ := List.mem_map.1 hv
      exact ⟨rfl, rfl⟩

theorem rule_of_mem_findings {a : Assertion α} {rule : String} {candidates : List α} {c : Codebase}
    {violations : List Violation} (h : (a.findings rule candidates c).result = .ok violations) :
    ∀ v ∈ violations, v.rule = rule ∧ v.severity = .error := by
  cases a with
  | eachObject condition =>
    obtain ⟨judge, hjudge⟩ := exists_judge_of_result_findings h
    exact rule_of_mem_of_forall₂ (forall₂_of_result_judgeEach hjudge)
  | existence condition =>
    obtain rfl := Except.ok.inj h
    exact rule_of_mem_judgeNumber

end Assertion

namespace Draft

variable {α : Type}

/-- What a draft says for itself is all that it says, if it continues no rule. -/
theorem description_eq_describeOwn {d : Draft α} (hprior : d.prior = none) :
    d.description = d.describeOwn d.assertion := by
  rw [description, describe, hprior]

variable [Element α]

theorem hasAssertion_of_result_evaluate {d : Draft α} {c : Codebase} {report : Report}
    (h : (d.evaluate c).result = .ok report) : d.hasAssertion = true := by
  cases hassertion : d.assertion with
  | some a => rw [hasAssertion, hassertion, Option.isSome_some]
  | none =>
    rw [evaluate, hassertion] at h
    cases h

/-- **The report of a single draft.** -/
theorem isBy_of_result_evaluate {d : Draft α} (hprior : d.prior = none) {c : Codebase}
    {report : Report} (h : (d.evaluate c).result = .ok report) : report.IsBy d.description := by
  obtain ⟨a, hassertion⟩ := Option.isSome_iff_exists.1 (hasAssertion_of_result_evaluate h)
  obtain ⟨violations, hfindings, rfl⟩ :=
    exists_candidates_of_result_evaluate hprior hassertion h
  have hnamed := Assertion.rule_of_mem_findings hfindings
  exact ⟨rfl, fun v hv => (hnamed v hv).1, fun v hv => (hnamed v hv).2⟩

end Draft

/-! ### Rules made of drafts -/

/-- The rule is made of the drafts at the leaves of the tree. They continue no other rules; where a
draft of the rule does, it is joined to what comes before. -/
inductive Rule.ComposedOf : Rule → Formula Rule → Prop
  | draft {α : Type} [Element α] (d : Draft α) (hprior : d.prior = none) :
      ComposedOf d.rule (.leaf d.rule)
  | continuing {α : Type} [Element α] (d : Draft α) (hprior : d.prior = none) (k : Connector)
      {prior : Rule} {parts : Formula Rule} (h : ComposedOf prior parts) :
      ComposedOf (d.after prior k).rule (.join k parts (.leaf d.rule))
  | stage {α : Type} [Element α] (s : Stage α) {rule : Rule} (hrule : s.rule? = some rule)
      {d : Draft α} (hfinished : s.finished? = some d) {parts : Formula Rule}
      (h : ComposedOf d.rule parts) : ComposedOf rule parts
  | combine (k : Connector) {first second : Rule} {parts parts' : Formula Rule}
      (hfirst : ComposedOf first parts) (hsecond : ComposedOf second parts') :
      ComposedOf (first.combine k second) (.join k parts parts')

/-- The report of a tree of rules has the sentence of the tree. -/
theorem Formula.description_of_result_evaluate {f : Formula Rule} {c : Codebase}
    (hleaves : ∀ part ∈ f.leaves, ∀ report, (part.evaluate c).result = .ok report →
      report.description = part.description)
    {report : Report} (h : (f.combine.evaluate c).result = .ok report) :
    report.description = f.combine.description := by
  cases f with
  | leaf part => exact hleaves part (List.mem_singleton_self part) report h
  | join k f g =>
    obtain ⟨first, -, h⟩ := Eval.exists_of_result_bind_ok h
    obtain ⟨second, -, h⟩ := Eval.exists_of_result_bind_ok h
    obtain rfl := Except.ok.inj h
    exact Report.description_combine _ k first second

/-- If a tree of rules has a report, each of its leaves has one. -/
theorem Formula.exists_reports_of_result_evaluate {f : Formula Rule} {c : Codebase}
    {report : Report} (h : (f.combine.evaluate c).result = .ok report) :
    ∃ own : Formula Report, f.map (fun part => (part.evaluate c).result) = own.map .ok ∧
      report.violations = own.heard.flatMap Report.violations := by
  have hleaves : ∀ part ∈ f.leaves, ∃ own, (part.evaluate c).result = .ok own := by
    have hnone : ∀ e, ¬ FirstError e (f.leaves.map fun part => (part.evaluate c).result) := by
      intro e herror
      rw [result_evaluate_eq_error_iff.2 herror] at h
      cases h
    exact fun part hpart => FirstError.all_ok_of_forall_not hnone _ (List.mem_map_of_mem hpart)
  obtain ⟨own, hown⟩ := exists_map_eq_map_ok hleaves
  obtain ⟨report', hreport', -, hviolations⟩ := exists_result_evaluate hown
  obtain rfl := Except.ok.inj (h.symm.trans hreport')
  exact ⟨own, hown, hviolations⟩

/-- What holds of corresponding leaves holds of each leaf and its value. -/
theorem Formula.forall₂_leaves_of_map_eq {α β γ : Type} {f : Formula α} {g : Formula β}
    {value : α → γ} {value' : β → γ} (h : f.map value = g.map value') :
    List.Forall₂ (fun a b => value a = value' b) f.leaves g.leaves := by
  have hleaves : f.leaves.map value = g.leaves.map value' := by
    rw [← leaves_map, ← leaves_map, h]
  rwa [← List.forall₂_eq_eq_eq, List.forall₂_map_left_iff, List.forall₂_map_right_iff] at hleaves

namespace Rule.ComposedOf

variable {rule : Rule} {parts : Formula Rule}

/-- A finished stage is judged as the draft it holds. -/
theorem eq_rule_of_finished? {α : Type} [Element α] {s : Stage α} {d : Draft α}
    (hrule : s.rule? = some rule) (hfinished : s.finished? = some d) : rule = d.rule := by
  rw [Stage.rule?_eq_map_finished?, hfinished] at hrule
  exact (Option.some.inj hrule).symm

/-- A rule reads like the tree of its drafts. -/
theorem description_eq (h : rule.ComposedOf parts) :
    rule.description = parts.combine.description := by
  induction h with
  | draft d hprior => rfl
  | @continuing α _ d hprior k prior parts h ih =>
    have hafter := Draft.description_after hprior prior k
    rw [ih] at hafter
    exact hafter
  | stage s hrule hfinished h ih =>
    rw [eq_rule_of_finished? hrule hfinished]
    exact ih
  | combine k hfirst hsecond ihfirst ihsecond => exact congrArg₂ k.between ihfirst ihsecond

/-- **A rule reports what the tree of its drafts reports.** They differ in the order in which their
drafts are judged, but a rule with a report has judged all of them. -/
theorem result_evaluate_combine (h : rule.ComposedOf parts) {c : Codebase} {report : Report}
    (hreport : (rule.evaluate c).result = .ok report) :
    (parts.combine.evaluate c).result = .ok report := by
  induction h generalizing report with
  | draft d hprior => exact hreport
  | @continuing α _ d hprior k prior parts h ih =>
    change ((d.after prior k).evaluate c).result = .ok report at hreport
    have hassertion : (d.after prior k).hasAssertion = true :=
      Draft.hasAssertion_of_result_evaluate hreport
    rw [Draft.evaluate_after hprior hassertion] at hreport
    obtain ⟨own, hown, hreport⟩ := Eval.exists_of_result_bind_ok hreport
    obtain ⟨before, hbefore, hreport⟩ := Eval.exists_of_result_bind_ok hreport
    rw [← hreport, h.description_eq]
    exact (Eval.result_bind_ok (ih hbefore) _).trans (Eval.result_bind_ok hown _)
  | stage s hrule hfinished h ih =>
    rw [eq_rule_of_finished? hrule hfinished] at hreport
    exact ih hreport
  | @combine k first second parts parts' hfirst hsecond ihfirst ihsecond =>
    obtain ⟨before, hbefore, hreport⟩ := Eval.exists_of_result_bind_ok hreport
    obtain ⟨own, hown, hreport⟩ := Eval.exists_of_result_bind_ok hreport
    rw [← hreport, hfirst.description_eq, hsecond.description_eq]
    exact (Eval.result_bind_ok (ihfirst hbefore) _).trans (Eval.result_bind_ok (ihsecond hown) _)

/-- The leaves of the tree are drafts that speak for themselves. -/
theorem exists_draft_of_mem_leaves (h : rule.ComposedOf parts) : ∀ part ∈ parts.leaves,
    ∃ (α : Type) (_ : Element α) (d : Draft α), d.prior = none ∧ part = d.rule := by
  induction h with
  | draft d hprior =>
    intro part hpart
    exact ⟨_, _, d, hprior, List.mem_singleton.1 hpart⟩
  | continuing d hprior k h ih =>
    intro part hpart
    rcases List.mem_append.1 hpart with hpart | hpart
    · exact ih part hpart
    · exact ⟨_, _, d, hprior, List.mem_singleton.1 hpart⟩
  | stage s hrule hfinished h ih => exact ih
  | combine k hfirst hsecond ihfirst ihsecond =>
    intro part hpart
    rcases List.mem_append.1 hpart with hpart | hpart
    · exact ihfirst part hpart
    · exact ihsecond part hpart

theorem isOwn_of_mem_leaves (h : rule.ComposedOf parts) {part : Rule}
    (hpart : part ∈ parts.leaves) {c : Codebase} {report : Report}
    (hreport : (part.evaluate c).result = .ok report) : report.IsOwn c part := by
  obtain ⟨α, _, d, hprior, rfl⟩ := h.exists_draft_of_mem_leaves part hpart
  have hby : report.IsBy d.description := Draft.isBy_of_result_evaluate hprior hreport
  rw [Draft.description_eq_describeOwn hprior] at hby
  exact ⟨α, _, d, hprior, rfl, hreport, hby⟩

end Rule.ComposedOf

/-! ### Drafts and sentences have such trees -/

theorem Draft.exists_composedOf {α : Type} [Element α] {d : Draft α}
    (h : ∀ prior ∈ d.prior, ∃ parts, Rule.ComposedOf prior.1 parts) :
    ∃ parts, d.rule.ComposedOf parts := by
  cases hprior : d.prior with
  | none => exact ⟨_, .draft d hprior⟩
  | some prior =>
    obtain ⟨before, k⟩ := prior
    obtain ⟨parts, hparts⟩ := h _ hprior
    -- the draft is the continuation of what it says for itself
    have hafter : d = ({ d with prior := none } : Draft α).after before k := by
      rw [after, ← hprior]
    rw [hafter]
    exact ⟨_, .continuing _ rfl k hparts⟩

namespace Stage

variable {α : Type}

theorem prior_draftAfter (s : Stage α) (rest : List (Step α)) :
    (s.draftAfter rest).prior = s.draft.prior := by
  cases s <;> exact Draft.prior_run _ _

/-- No clause changes which rule is continued. -/
theorem prior_draft_of_step {s next : Stage α} {step : Step α} (h : s.step step = some next) :
    next.draft.prior = s.draft.prior := by
  rw [← prior_draftAfter next [], ← draftAfter_step h, prior_draftAfter]

theorem exists_composedOf_of_rule? [Element α] (s : Stage α)
    (hs : ∀ prior ∈ s.draft.prior, ∃ parts, Rule.ComposedOf prior.1 parts) {rule : Rule}
    (hrule : s.rule? = some rule) : ∃ parts, rule.ComposedOf parts := by
  have hjudged : s.finished?.map Draft.rule = some rule := by
    rw [← rule?_eq_map_finished?, hrule]
  obtain ⟨d, hfinished, -⟩ := Option.map_eq_some_iff.1 hjudged
  rw [← eq_draft_of_finished? hfinished] at hs
  obtain ⟨parts, hparts⟩ := Draft.exists_composedOf hs
  exact ⟨parts, .stage s hrule hfinished hparts⟩

end Stage

namespace Sentence

/-- The rule before the last one is made of drafts. -/
def FollowsComposed : Sentence → Prop
  | types stage => ∀ prior ∈ stage.draft.prior, ∃ parts, Rule.ComposedOf prior.1 parts
  | members stage => ∀ prior ∈ stage.draft.prior, ∃ parts, Rule.ComposedOf prior.1 parts
  | joining prior _ => ∃ parts, prior.ComposedOf parts

theorem followsComposed_start (topic : Topic) : (start topic).FollowsComposed := by
  cases topic with
  | types κ => exact fun prior hprior => by cases hprior
  | members κ => exact fun prior hprior => by cases hprior

/-- **One clause of a sentence.** -/
theorem FollowsComposed.step {s next : Sentence} (hs : s.FollowsComposed) {clause : Clause}
    (h : s.step clause = some next) : next.FollowsComposed := by
  cases clause with
  | types step =>
    cases s with
    | types stage =>
      obtain ⟨stage', hstep, rfl⟩ := Option.map_eq_some_iff.1 h
      change ∀ prior ∈ stage'.draft.prior, ∃ parts, Rule.ComposedOf prior.1 parts
      rw [Stage.prior_draft_of_step hstep]
      exact hs
    | members | joining => cases h
  | members step =>
    cases s with
    | members stage =>
      obtain ⟨stage', hstep, rfl⟩ := Option.map_eq_some_iff.1 h
      change ∀ prior ∈ stage'.draft.prior, ∃ parts, Rule.ComposedOf prior.1 parts
      rw [Stage.prior_draft_of_step hstep]
      exact hs
    | types | joining => cases h
  | also k =>
    -- the rule that ends here is the draft of its stage
    cases s with
    | types stage =>
      obtain ⟨d, hd, rfl⟩ := Option.map_eq_some_iff.1 h
      obtain rfl := Stage.eq_draft_of_finished? hd
      exact Draft.exists_composedOf hs
    | members stage =>
      obtain ⟨d, hd, rfl⟩ := Option.map_eq_some_iff.1 h
      obtain rfl := Stage.eq_draft_of_finished? hd
      exact Draft.exists_composedOf hs
    | joining => cases h
  | about topic =>
    cases s with
    | joining prior k =>
      cases topic <;> obtain rfl := Option.some.inj h <;>
        exact fun prior' hprior' => by cases hprior'; exact hs
    | types | members => cases topic <;> cases h

/-- **A chain of clauses.** -/
theorem FollowsComposed.run {s last : Sentence} (hs : s.FollowsComposed) {chain : List Clause}
    (h : s.run chain = some last) : last.FollowsComposed := by
  induction chain generalizing s with
  | nil =>
    obtain rfl := Option.some.inj h
    exact hs
  | cons clause rest ih =>
    obtain ⟨next, hstep, hrest⟩ := Option.bind_eq_some_iff.1 h
    exact ih (hs.step hstep) hrest

/-- **Finished sentences are made of drafts.** -/
theorem exists_composedOf_of_run {topic : Topic} {chain : List Clause} {s : Sentence}
    (hrun : (start topic).run chain = some s) {rule : Rule} (hrule : s.rule? = some rule) :
    ∃ parts, rule.ComposedOf parts := by
  have hs : s.FollowsComposed := (followsComposed_start topic).run hrun
  cases s with
  | types stage => exact stage.exists_composedOf_of_rule? hs hrule
  | members stage => exact stage.exists_composedOf_of_rule? hs hrule
  | joining => cases hrule

end Sentence

/-- **Findings name where they come from.** Take a rule that is made of drafts: of drafts alone, of
drafts that continue such rules, of finished stages of sentences, and of joins, in any nesting. If
the rule has a report on a codebase, that report has the sentence of the rule. All the drafts have
reports as well, and the findings are those of the reports that are heard, in the order of the
drafts. Each finding names the sentence that its draft has for itself, with subject, assertion and
reason, but without the rule before it, and is an error.

Every draft is such a rule unless it continues one that is not, and so is every finished sentence,
whatever its clauses are. -/
theorem Rule.findings_name_their_origin :
    (∀ {rule : Rule} {parts : Formula Rule}, rule.ComposedOf parts →
      ∀ (c : Codebase) (report : Report), (rule.evaluate c).result = .ok report →
        report.description = rule.description ∧
        ∃ own : Formula Report, parts.map (fun part => (part.evaluate c).result) = own.map .ok ∧
          List.Forall₂ (fun part report => report.IsOwn c part) parts.leaves own.leaves ∧
          own.heard.Sublist own.leaves ∧
          report.violations = own.heard.flatMap Report.violations) ∧
    (∀ {α : Type} [Element α] (d : Draft α),
      (∀ prior ∈ d.prior, ∃ parts, Rule.ComposedOf prior.1 parts) →
        ∃ parts, d.rule.ComposedOf parts) ∧
    ∀ (topic : Topic) (chain : List Sentence.Clause) (s : Sentence) (rule : Rule),
      (Sentence.start topic).run chain = some s → s.rule? = some rule →
        ∃ parts, rule.ComposedOf parts := by
  refine ⟨fun {rule parts} h c report hreport => ?_, fun d => Draft.exists_composedOf,
    fun topic chain s rule hrun hrule => Sentence.exists_composedOf_of_run hrun hrule⟩
  have htree : (parts.combine.evaluate c).result = .ok report := h.result_evaluate_combine hreport
  have hnames : ∀ part ∈ parts.leaves, ∀ own, (part.evaluate c).result = .ok own →
      own.description = part.description := by
    intro part hpart own hown
    obtain ⟨α, _, d, hprior, rfl⟩ := h.exists_draft_of_mem_leaves part hpart
    exact (Draft.isBy_of_result_evaluate hprior hown).description_eq
  obtain ⟨own, hown, hviolations⟩ := Formula.exists_reports_of_result_evaluate htree
  refine ⟨?_, own, hown, ?_, Formula.heard_sublist own, hviolations⟩
  · rw [h.description_eq]
    exact Formula.description_of_result_evaluate hnames htree
  · have hleaves := Formula.forall₂_leaves_of_map_eq hown
    refine List.forall₂_iff_get.2 ⟨hleaves.length_eq, fun i hi hi' => ?_⟩
    exact h.isOwn_of_mem_leaves (List.get_mem ..) (hleaves.get hi hi')

/-- Public classes should not depend on what is below `Shop.Data`, because pages are thin; and
classes should depend on the store, which ends with the relation still open. -/
def thinPagesChain : List Sentence.Clause :=
  [.types .that, .types (.filter ((Criterion.visibility .pub).predicate false)), .types .should,
    .types (.require ((Criterion.dependsOn ⟨"Shop.Data.**"⟩).condition true).lift),
    .types (.because "pages are thin"), .also .and, .about (.types .classes), .types .should,
    .types (.relate (Relation.dependsOnClasses false) .classes),
    .types (.filterRelated ((Criterion.name "Store").predicate false))]

/-- The first rule of the sentence. -/
def thinPages : Draft TypeDecl := Draft.shopRule.because "pages are thin"

/-- The second rule of the sentence, without the first. -/
def storeUsers : Draft TypeDecl :=
  (Draft.start .classes).require ((Relation.dependsOnClasses false).relatedTo
    (Selection.mk .classes [(Criterion.name "Store").predicate false]).provider)

theorem Rule.findings_name_their_origin_shop :
    ∃ (s : Sentence) (rule : Rule) (report : Report) (own : Formula Report),
      (Sentence.start (.types .classes)).run thinPagesChain = some s ∧
      s.rule? = some rule ∧ (∃ parts, rule.ComposedOf parts) ∧
      (∃ parts, (storeUsers.after thinPages.rule .and).rule.ComposedOf parts) ∧
      (rule.evaluate (.ofTypes Draft.shopTypes)).result = .ok report ∧
      report.description = "Classes that are public should not depend on \"Shop.Data.**\" " ++
        "because pages are thin and Classes should depend on classes that have name \"Store\"" ∧
      report.violations.map Violation.rule =
        ["Classes that are public should not depend on \"Shop.Data.**\" because pages are thin",
          "Classes should depend on classes that have name \"Store\""] ∧
      List.Forall₂ (fun part report => report.IsOwn (.ofTypes Draft.shopTypes) part)
        [thinPages.rule, storeUsers.rule] own.leaves ∧
      report.violations = own.heard.flatMap Report.violations := by
  obtain ⟨hfindings, hdraft, hsentence⟩ := findings_name_their_origin
  have hprior : ∀ prior ∈ (storeUsers.after thinPages.rule .and).prior,
      ∃ parts, prior.1.ComposedOf parts := by
    intro prior hprior
    obtain rfl := Option.some.inj hprior
    exact hdraft thinPages fun _ hnone => by cases hnone
  have hcomposed : ((storeUsers.after thinPages.rule .and).rule).ComposedOf
      (.join .and (.leaf thinPages.rule) (.leaf storeUsers.rule)) :=
    .continuing storeUsers rfl .and (.draft thinPages rfl)
  obtain ⟨hdescription, own, -, hown, -, hviolations⟩ :=
    hfindings hcomposed (.ofTypes Draft.shopTypes) _ rfl
  exact ⟨_, _, _, own, rfl, rfl, hsentence (.types .classes) thinPagesChain _ _ rfl rfl,
    hdraft _ hprior, rfl, hdescription, rfl, hown, hviolations⟩

end DesignRules
