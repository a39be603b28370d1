import DesignRules.Proofs.Rule.Combined
import DesignRules.Suite

/-!
# What checking a suite comes to

A suite is checked rule by rule. Rules that are disabled are passed over, the others are evaluated,
and the severity that is set for a name goes into every finding of its rules. The first rule that
cannot be evaluated ends the check.

## A check is a function of the enabled rules

What a disabled rule would have done has no influence, not even on which error a check fails with.
So everything is said here in terms of one list, the enabled rules in the order of the suite: their
results decide whether there is a summary (`Suite.result_check_eq_error_iff`), and if there is, it
holds one report for each of them (`Suite.result_check_eq_ok_iff`). The rules that are left out are
seen in one number alone, that of the rules skipped.

Names play no part in the order. Two rules of one name are two rules, with the same settings; and
settings whose name no rule has are never looked up.

## The invariant

A check goes through the rules with a summary in hand and adds to it. At every point the summary is
the one of the rules gone through so far: `Summary.Covers` holds of the suite that has only those.
One more rule keeps it up, whether it is enabled or not, and in the end the rules gone through are
all rules.

## Main definitions

* `Config.enabledRules` — the rules of a list that are checked
* `Report.overridden` — a report with its severities replaced, if a severity is given
* `Summary.Covers` — a summary reports on the enabled rules of a suite

## Main results

* `Suite.tries_checkRule`, `Suite.covers_of_result_checkRule` — one rule more
* `Suite.tries_foldlM`, `Suite.covers_of_result_foldlM` — all rules, one after another
* `Suite.result_check_eq_error_iff`, `Suite.result_check_eq_ok_iff` — a check, by its result
* `Suite.check_reports_enabled` — all about checking a suite
-/

namespace DesignRules

/-! ### Settings -/

namespace Config

/-- A rule is left out only where its settings say so. Without settings it is checked, and so it is
with settings that do not mention the matter. -/
theorem isEnabled_eq_false_iff {config : Config} {name : String} :
    config.isEnabled name = false ↔
      ∃ settings, config.rule? name = some settings ∧ settings.enabled = some false := by
  rw [isEnabled]
  cases config.rule? name with
  | none => simp
  | some settings => cases h : settings.enabled <;> simp [h]

/-- The rules of a list that are checked, in order. -/
def enabledRules (config : Config) (rules : List (String × Rule)) : List (String × Rule) :=
  rules.filter fun r => config.isEnabled r.1

theorem enabledRules_append (config : Config) (rules more : List (String × Rule)) :
    config.enabledRules (rules ++ more) = config.enabledRules rules ++ config.enabledRules more :=
  List.filter_append ..

theorem enabledRules_singleton (config : Config) (r : String × Rule) :
    config.enabledRules [r] = if config.isEnabled r.1 then [r] else [] :=
  List.filter_cons

theorem enabledRules_enabledRules (config : Config) (rules : List (String × Rule)) :
    config.enabledRules (config.enabledRules rules) = config.enabledRules rules :=
  List.filter_filter.trans (by simp only [Bool.and_self, enabledRules])

end Config

/-- The report with every severity replaced by the given one, if there is one. -/
def Report.overridden (own : Report) (severity : Option Severity) : Report :=
  { own with violations := own.violations.map fun v =>
      { v with severity := severity.getD v.severity } }

/-- The report is that of the rule itself, with the severity that is set for its name. -/
def Config.ReportedAs (config : Config) (c : Codebase) (r : String × Rule) (report : Report) :
    Prop :=
  ∃ own, (r.2.evaluate c).result = .ok own ∧ report = own.overridden (config.severity? r.1)

theorem Config.ReportedAs.rightUnique (config : Config) (c : Codebase) :
    Relator.RightUnique (config.ReportedAs c) := by
  rintro r report report' ⟨own, hown, rfl⟩ ⟨own', hown', rfl⟩
  rw [Except.ok.inj (hown.symm.trans hown')]

/-- The summary is about the enabled rules of the suite: it has one report for each of them, in
order, and counts the others as skipped. -/
structure Summary.Covers (s : Suite) (c : Codebase) (summary : Summary) : Prop where
  /-- The reports are those of the enabled rules. -/
  forall₂_reports :
    List.Forall₂ (s.config.ReportedAs c) (s.config.enabledRules s.rules) summary.reports
  /-- As many rules are checked as there are reports. -/
  checked_eq : summary.checked = summary.reports.length
  /-- Every rule is checked or skipped. -/
  checked_add_skipped : summary.checked + summary.skipped = s.rules.length

namespace Summary.Covers

variable {s : Suite} {c : Codebase} {summary summary' : Summary}

/-- Where a suite is covered, its enabled rules can be evaluated. -/
theorem exists_own (h : summary.Covers s c) :
    ∀ r ∈ s.config.enabledRules s.rules, ∃ own, (r.2.evaluate c).result = .ok own := by
  have hboth : List.Forall₂ (fun r report => (∃ own, (r.2.evaluate c).result = .ok own) ∧
      s.config.ReportedAs c r report) (s.config.enabledRules s.rules) summary.reports := by
    refine h.forall₂_reports.imp fun r report hreport => ⟨?_, hreport⟩
    obtain ⟨own, hown, -⟩ := hreport
    exact ⟨own, hown⟩
  exact ((List.forall₂_and_left _ _).1 hboth).1

/-- What a summary counts can be told from the number of its reports. -/
theorem counts_eq {s' : Suite} (h : summary.Covers s c) (h' : summary'.Covers s' c)
    (hrules : s.rules = s'.rules) (hlength : summary.reports.length = summary'.reports.length) :
    summary.checked = summary'.checked ∧ summary.skipped = summary'.skipped := by
  have hchecked : summary.checked = summary'.checked := by
    rw [h.checked_eq, h'.checked_eq, hlength]
  have hsum := h.checked_add_skipped
  rw [hrules, ← h'.checked_add_skipped, hchecked] at hsum
  exact ⟨hchecked, Nat.add_left_cancel hsum⟩

/-- There is one such summary at most. -/
theorem unique (h : summary.Covers s c) (h' : summary'.Covers s c) : summary = summary' := by
  have hreports : summary.reports = summary'.reports :=
    List.right_unique_forall₂' (Config.ReportedAs.rightUnique _ _) h.forall₂_reports
      h'.forall₂_reports
  obtain ⟨hchecked, hskipped⟩ := h.counts_eq h' rfl (congrArg List.length hreports)
  exact (mk.injEq ..).mpr ⟨hreports, hchecked, hskipped⟩

end Summary.Covers

namespace Suite

variable {config : Config} {c : Codebase} {name : String}

theorem adjust_eq_overridden (config : Config) (name : String) (own : Report) :
    adjust config name own = own.overridden (config.severity? name) := by
  rw [adjust]
  cases config.severity? name with
  | some severity => rfl
  | none =>
    show own = { own with violations := own.violations.map id }
    rw [List.map_id]

/-! ### One rule -/

theorem result_checkRule_of_enabled (h : config.isEnabled name = true) (summary : Summary)
    (rule : Rule) :
    (checkRule config c summary (name, rule)).result =
      (rule.evaluate c >>= fun own => pure { summary with
        reports := summary.reports ++ [own.overridden (config.severity? name)]
        checked := summary.checked + 1 }).result := by
  rw [checkRule, if_pos h, Eval.result_bind_ok (Eval.result_emit _)]
  simp only [adjust_eq_overridden]

theorem result_checkRule_of_disabled (h : config.isEnabled name = false) (summary : Summary)
    (rule : Rule) :
    (checkRule config c summary (name, rule)).result =
      .ok { summary with skipped := summary.skipped + 1 } := by
  rw [checkRule, if_neg (by simp [h]), Eval.result_bind_ok (Eval.result_emit _)]
  rfl

/-- One rule more can fail only by being evaluated, and it is evaluated only if it is enabled. -/
theorem tries_checkRule (summary : Summary) (r : String × Rule) :
    (checkRule config c summary r).Tries
      ((config.enabledRules [r]).map fun r => (r.2.evaluate c).result) := by
  obtain ⟨name, rule⟩ := r
  rw [Config.enabledRules_singleton]
  cases henabled : config.isEnabled name with
  | false =>
    exact (Eval.Tries.pure _).of_result_eq (result_checkRule_of_disabled henabled summary rule)
  | true =>
    have hrule := (Eval.Tries.self (rule.evaluate c)).bind_of_no_attempt fun own _ =>
      .pure { summary with
        reports := summary.reports ++ [own.overridden (config.severity? name)]
        checked := summary.checked + 1 }
    exact hrule.of_result_eq (result_checkRule_of_enabled henabled summary rule)

/-- **A summary of some rules becomes one of those rules and one more.** -/
theorem covers_of_result_checkRule {rules : List (String × Rule)} {summary summary' : Summary}
    (h : summary.Covers ⟨rules, config⟩ c) {r : String × Rule}
    (hresult : (checkRule config c summary r).result = .ok summary') :
    summary'.Covers ⟨rules ++ [r], config⟩ c := by
  obtain ⟨name, rule⟩ := r
  have hreports := h.forall₂_reports
  have hchecked := h.checked_eq
  have hcount : summary.checked + summary.skipped = rules.length := h.checked_add_skipped
  cases henabled : config.isEnabled name with
  | false =>
    rw [result_checkRule_of_disabled henabled] at hresult
    obtain rfl := Except.ok.inj hresult
    refine ⟨?_, hchecked, ?_⟩
    · rw [Config.enabledRules_append, Config.enabledRules_singleton, henabled,
        if_neg Bool.false_ne_true, List.append_nil]
      exact hreports
    · rw [List.length_append, List.length_singleton, ← hcount, Nat.add_assoc]
  | true =>
    rw [result_checkRule_of_enabled henabled] at hresult
    obtain ⟨own, hown, hresult⟩ := Eval.exists_of_result_bind_ok hresult
    obtain rfl := Except.ok.inj hresult
    refine ⟨?_, ?_, ?_⟩
    · rw [Config.enabledRules_append, Config.enabledRules_singleton, henabled, if_pos rfl]
      exact List.rel_append hreports (.cons ⟨own, hown, rfl⟩ .nil)
    · rw [List.length_append, List.length_singleton, hchecked]
    · rw [List.length_append, List.length_singleton, ← hcount, Nat.add_right_comm]

/-! ### All rules -/

/-- **The rules are tried in order**, as far as they are enabled. -/
theorem tries_foldlM (rules : List (String × Rule)) (summary : Summary) :
    (rules.foldlM (checkRule config c) summary).Tries
      ((config.enabledRules rules).map fun r => (r.2.evaluate c).result) := by
  induction rules generalizing summary with
  | nil => exact .pure summary
  | cons r rest ih =>
    rw [List.foldlM_cons, ← List.singleton_append, Config.enabledRules_append, List.map_append]
    exact (tries_checkRule summary r).bind fun summary' _ => ih summary'

/-- **The invariant along the rules.** -/
theorem covers_of_result_foldlM {earlier rules : List (String × Rule)}
    {summary summary' : Summary} (h : summary.Covers ⟨earlier, config⟩ c)
    (hresult : (rules.foldlM (checkRule config c) summary).result = .ok summary') :
    summary'.Covers ⟨earlier ++ rules, config⟩ c := by
  induction rules generalizing earlier summary with
  | nil =>
    obtain rfl := Except.ok.inj hresult
    rwa [List.append_nil]
  | cons r rest ih =>
    rw [List.foldlM_cons] at hresult
    obtain ⟨next, hnext, hrest⟩ := Eval.exists_of_result_bind_ok hresult
    have hcovers := ih (covers_of_result_checkRule h hnext) hrest
    rwa [List.append_assoc] at hcovers

/-! ### A check -/

theorem result_check (s : Suite) (c : Codebase) :
    (s.check c).result = (s.rules.foldlM (checkRule s.config c) .empty).result := by
  rw [check, Eval.result_bind_ok (Eval.result_emit _)]
  cases h : (s.rules.foldlM (checkRule s.config c) .empty).result with
  | error e => exact Eval.result_bind_error h _
  | ok summary =>
    rw [Eval.result_bind_ok h, Eval.result_bind_ok (Eval.result_emit _), Eval.result_pure]

variable {s : Suite}

theorem result_check_eq_error_iff {e : RuleError} :
    (s.check c).result = .error e ↔
      FirstError e ((s.config.enabledRules s.rules).map fun r => (r.2.evaluate c).result) := by
  rw [result_check]
  exact tries_foldlM s.rules .empty e

theorem covers_of_result_check {summary : Summary} (h : (s.check c).result = .ok summary) :
    summary.Covers s c := by
  have hnone : Summary.empty.Covers ⟨[], s.config⟩ c := ⟨.nil, rfl, rfl⟩
  rw [result_check] at h
  exact covers_of_result_foldlM hnone h

theorem exists_result_check
    (h : ∀ r ∈ s.config.enabledRules s.rules, ∃ own, (r.2.evaluate c).result = .ok own) :
    ∃ summary, (s.check c).result = .ok summary := by
  cases hresult : (s.check c).result with
  | ok summary => exact ⟨summary, rfl⟩
  | error e =>
    have hfirst := result_check_eq_error_iff.1 hresult
    exact (hfirst.not_all_ok (List.forall_mem_map.2 h)).elim

/-- **The result of a check is the summary that covers the suite.** -/
theorem result_check_eq_ok_iff {summary : Summary} :
    (s.check c).result = .ok summary ↔ summary.Covers s c := by
  refine ⟨covers_of_result_check, fun hcovers => ?_⟩
  obtain ⟨summary', hresult⟩ := exists_result_check hcovers.exists_own
  rw [hresult, (covers_of_result_check hresult).unique hcovers]

/-- The suite of the enabled rules alone. -/
def restricted (s : Suite) : Suite := { s with rules := s.config.enabledRules s.rules }

theorem covers_restricted {summary : Summary} (h : summary.Covers s c) :
    Summary.Covers s.restricted c { summary with skipped := 0 } where
  forall₂_reports := by
    rw [restricted, Config.enabledRules_enabledRules]
    exact h.forall₂_reports
  checked_eq := h.checked_eq
  checked_add_skipped := h.checked_eq.trans h.forall₂_reports.length_eq.symm

/-- Without the disabled rules, a check comes to the same and skips nothing. -/
theorem result_check_restricted (s : Suite) (c : Codebase) :
    (s.restricted.check c).result =
      (s.check c).result.map fun summary => { summary with skipped := 0 } := by
  cases h : (s.check c).result with
  | error e =>
    refine result_check_eq_error_iff.2 ?_
    rw [restricted, Config.enabledRules_enabledRules]
    exact result_check_eq_error_iff.1 h
  | ok summary => exact result_check_eq_ok_iff.2 (covers_restricted (covers_of_result_check h))

/-- **A check reports on the enabled rules.** A rule is enabled unless the settings of its name
disable it. Checking a suite fails just if evaluating some enabled rule does, and then with the
error of the first such rule. If no enabled rule fails, there is a summary. It has one report for
each enabled rule, in order: that of the rule itself, with every severity replaced by the one that
is set for its name, if one is set. It counts the rules with a report as checked and all others as
skipped. A suite of the enabled rules alone comes to the same, except that it skips no rule. -/
theorem check_reports_enabled (s : Suite) (c : Codebase) :
    (∀ name, s.config.isEnabled name = false ↔
      ∃ settings, s.config.rule? name = some settings ∧ settings.enabled = some false) ∧
    ((∃ e, (s.check c).result = .error e) ↔
      ∃ r ∈ s.config.enabledRules s.rules, ∃ e, (r.2.evaluate c).result = .error e) ∧
    (∀ e, (s.check c).result = .error e ↔
      FirstError e ((s.config.enabledRules s.rules).map fun r => (r.2.evaluate c).result)) ∧
    ((∀ r ∈ s.config.enabledRules s.rules, ∃ own, (r.2.evaluate c).result = .ok own) →
      ∃ summary, (s.check c).result = .ok summary ∧
        List.Forall₂ (fun r report => ∃ own, (r.2.evaluate c).result = .ok own ∧
            report = own.overridden (s.config.severity? r.1))
          (s.config.enabledRules s.rules) summary.reports ∧
        summary.checked = summary.reports.length ∧
        summary.checked + summary.skipped = s.rules.length) ∧
    (s.restricted.check c).result =
      (s.check c).result.map fun summary => { summary with skipped := 0 } := by
  refine ⟨fun name => Config.isEnabled_eq_false_iff, ?_, fun e => result_check_eq_error_iff,
    fun hok => ?_, result_check_restricted s c⟩
  · rw [exists_congr fun e => result_check_eq_error_iff, FirstError.exists_iff]
    simp only [List.mem_map, exists_exists_and_eq_and]
  · obtain ⟨summary, hresult⟩ := exists_result_check hok
    obtain ⟨hreports, hchecked, hskipped⟩ := covers_of_result_check hresult
    exact ⟨summary, hresult, hreports, hchecked, hskipped⟩

/-- Rules about pages. Two have the same name, and the one called `open` cannot be judged. -/
def pageRules : List (String × Rule) :=
  [("size", .reporting (Formula.pageReport "small" ["Cart"])), ("open", Draft.openRule),
    ("cache", .reporting (Formula.pageReport "cached" ["Index"])),
    ("size", .reporting (Formula.pageReport "short" ["Cart", "Index"]))]

/-- The rule that cannot be judged is left out, and the size of a page is worth a warning. No rule
is called `attic`. -/
def pageConfig : Config :=
  ⟨some .info, [("open", ⟨some false, some .info⟩), ("size", ⟨none, some .warning⟩),
    ("attic", ⟨some false, none⟩)]⟩

theorem check_reports_enabled_pages :
    (∃ summary, ((Suite.mk pageRules pageConfig).check (.ofTypes [])).result = .ok summary ∧
      summary.reports = [(Formula.pageReport "small" ["Cart"]).overridden (some .warning),
        Formula.pageReport "cached" ["Index"],
        (Formula.pageReport "short" ["Cart", "Index"]).overridden (some .warning)] ∧
      summary.checked = 3 ∧ summary.skipped = 1) ∧
    ((Suite.mk pageRules .empty).check (.ofTypes [])).result =
      .error (.missingCondition "Classes") := by
  obtain ⟨-, -, -, hsummary, -⟩ :=
    check_reports_enabled (Suite.mk pageRules pageConfig) (.ofTypes [])
  obtain ⟨-, -, herror, -, -⟩ := check_reports_enabled (Suite.mk pageRules .empty) (.ofTypes [])
  have henabled : pageConfig.enabledRules pageRules =
      [("size", .reporting (Formula.pageReport "small" ["Cart"])),
        ("cache", .reporting (Formula.pageReport "cached" ["Index"])),
        ("size", .reporting (Formula.pageReport "short" ["Cart", "Index"]))] := rfl
  rw [henabled] at hsummary
  obtain ⟨summary, hresult, hreports, hchecked, hskipped⟩ := hsummary fun r hr => by
    simp only [List.mem_cons, List.not_mem_nil, or_false] at hr
    rcases hr with rfl | rfl | rfl <;> exact ⟨_, rfl⟩
  have hfound : summary.reports = [(Formula.pageReport "small" ["Cart"]).overridden (some .warning),
      Formula.pageReport "cached" ["Index"],
      (Formula.pageReport "short" ["Cart", "Index"]).overridden (some .warning)] := by
    refine List.right_unique_forall₂' (Config.ReportedAs.rightUnique pageConfig _) hreports ?_
    exact .cons ⟨_, rfl, rfl⟩ (.cons ⟨_, rfl, rfl⟩ (.cons ⟨_, rfl, rfl⟩ .nil))
  rw [hfound] at hchecked
  rw [hchecked] at hskipped
  have hcount : summary.skipped = 1 := Nat.add_left_cancel hskipped
  exact ⟨⟨summary, hresult, hfound, hchecked, hcount⟩, (herror _).2 (.later _ (.here _))⟩

end Suite

end DesignRules
