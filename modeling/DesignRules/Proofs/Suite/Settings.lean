import DesignRules.Proofs.Suite.Checking

/-!
# What settings cannot do

Two checks of the same rules on the same codebase, under two configurations. Settings for one name
have no influence on the rules of another name, and apart from leaving rules out they have none on
what is found: they only say how serious it is.

## Which reports belong to a name

A summary is a list of reports that do not know their names. They belong to the enabled rules, one
by one and in order, so `Suite.reportsUnder` reads the names off those rules. If another name is
disabled, the reports of a name move up in the summary; they are the same reports all the same.

## What is left without severities

With the same rules enabled, two checks evaluate the same rules in the same order. Whatever is set
for their severities goes into the reports afterwards, so both come to the same once one severity is
put in the place of all (`Summary.withSeverity`). The threshold of a configuration is not even
looked at.

## Main definitions

* `Suite.reportsUnder` — the reports of a name in a summary
* `Summary.withSeverity` — a summary with one severity for all findings

## Main results

* `Suite.forall₂_reportsUnder` — the reports of a name belong to its enabled rules
* `Summary.Covers.withSeverity_eq` — severities apart, the enabled rules determine a summary
* `Suite.settings_do_not_interfere` — two configurations for the same rules
-/

namespace DesignRules

/-! ### Pairs of related lists -/

/-- Elements of two related lists can be chosen by those of the first. -/
theorem forall₂_filter_zip {α β : Type} {R : α → β → Prop} {as : List α} {bs : List β}
    (h : List.Forall₂ R as bs) (pick : α → Bool) :
    List.Forall₂ (fun a b => pick a = true ∧ R a b) (as.filter pick)
      (((as.zip bs).filter fun pair => pick pair.1).map Prod.snd) := by
  induction h with
  | nil => exact .nil
  | @cons a b as bs hab _ ih =>
    rw [List.zip_cons_cons, List.filter_cons, List.filter_cons]
    cases hpick : pick a with
    | false => exact ih
    | true => exact .cons ⟨hpick, hab⟩ ih

/-! ### Severities -/

namespace Report

theorem passed_overridden (own : Report) (given : Option Severity) :
    (own.overridden given).passed = own.passed :=
  List.isEmpty_map

/-- Of two severities for all findings, the later one counts. -/
theorem overridden_overridden_some (own : Report) (given : Option Severity)
    (severity : Severity) :
    (own.overridden given).overridden (some severity) = own.overridden (some severity) := by
  rw [overridden, overridden, List.map_map]
  rfl

end Report

/-- The summary with one severity for all findings. -/
def Summary.withSeverity (summary : Summary) (severity : Severity) : Summary :=
  { summary with reports := summary.reports.map (·.overridden (some severity)) }

theorem Summary.map_passed_withSeverity (summary : Summary) (severity : Severity) :
    (summary.withSeverity severity).reports.map Report.passed =
      summary.reports.map Report.passed := by
  rw [withSeverity, List.map_map]
  exact List.map_congr_left fun own _ => own.passed_overridden (some severity)

variable {rules : List (String × Rule)} {c : Codebase} {config config' : Config} {name : String}

/-! ### One name -/

namespace Config

theorem isEnabled_eq_of_rule?_eq (h : config.rule? name = config'.rule? name) :
    config.isEnabled name = config'.isEnabled name := by
  rw [isEnabled, isEnabled, h]

theorem severity?_eq_of_rule?_eq (h : config.rule? name = config'.rule? name) :
    config.severity? name = config'.severity? name := by
  rw [severity?, severity?, h]

theorem filter_name_enabledRules (h : config.rule? name = config'.rule? name)
    (rules : List (String × Rule)) :
    ((config.enabledRules rules).filter fun r => r.1 == name) =
      (config'.enabledRules rules).filter fun r => r.1 == name := by
  rw [enabledRules, enabledRules, List.filter_filter, List.filter_filter]
  refine List.filter_congr fun r _ => ?_
  by_cases hname : r.1 = name
  · rw [hname, isEnabled_eq_of_rule?_eq h]
  · rw [beq_eq_false_iff_ne.2 hname, Bool.false_and, Bool.false_and]

theorem enabledRules_congr (h : ∀ r ∈ rules, config.isEnabled r.1 = config'.isEnabled r.1) :
    config.enabledRules rules = config'.enabledRules rules :=
  List.filter_congr h

end Config

namespace Suite

/-- The reports of the rules of a name, in order. -/
def reportsUnder (s : Suite) (name : String) (summary : Summary) : List Report :=
  (((s.config.enabledRules s.rules).zip summary.reports).filter fun r => r.1.1 == name).map Prod.snd

/-- **The reports of a name belong to its enabled rules.** -/
theorem forall₂_reportsUnder {s : Suite} {summary : Summary} (h : summary.Covers s c)
    (name : String) :
    List.Forall₂ (fun r report => r.1 = name ∧ s.config.ReportedAs c r report)
      ((s.config.enabledRules s.rules).filter fun r => r.1 == name)
      (s.reportsUnder name summary) := by
  refine (forall₂_filter_zip h.forall₂_reports fun r => r.1 == name).imp fun r report hr => ?_
  exact ⟨beq_iff_eq.1 hr.1, hr.2⟩

theorem reportsUnder_eq_of_rule?_eq (h : config.rule? name = config'.rule? name)
    {summary summary' : Summary} (hcovers : summary.Covers ⟨rules, config⟩ c)
    (hcovers' : summary'.Covers ⟨rules, config'⟩ c) :
    (Suite.mk rules config).reportsUnder name summary =
      (Suite.mk rules config').reportsUnder name summary' := by
  have hreports := forall₂_reportsUnder hcovers name
  have hreports' := forall₂_reportsUnder hcovers' name
  rw [Config.filter_name_enabledRules h] at hreports
  refine List.right_unique_forall₂' (Config.ReportedAs.rightUnique config c)
    (hreports.imp fun r report hr => hr.2) (hreports'.imp fun r report hr => ?_)
  -- the other configuration gives the name the same severity
  obtain ⟨rfl, own, hown, rfl⟩ := hr
  exact ⟨own, hown, by rw [Config.severity?_eq_of_rule?_eq h]⟩

end Suite

/-! ### The same rules -/

namespace Summary.Covers

variable {summary summary' : Summary}

theorem forall₂_withSeverity {s : Suite} (h : summary.Covers s c) (severity : Severity) :
    List.Forall₂ (fun r report => ∃ own, (r.2.evaluate c).result = .ok own ∧
        report = own.overridden (some severity))
      (s.config.enabledRules s.rules) (summary.withSeverity severity).reports := by
  refine List.forall₂_map_right_iff.2 (h.forall₂_reports.imp fun r report hreport => ?_)
  obtain ⟨own, hown, rfl⟩ := hreport
  exact ⟨own, hown, own.overridden_overridden_some _ severity⟩

/-- **Severities apart, the enabled rules determine a summary.** -/
theorem withSeverity_eq (h : summary.Covers ⟨rules, config⟩ c)
    (h' : summary'.Covers ⟨rules, config'⟩ c)
    (henabled : config.enabledRules rules = config'.enabledRules rules) (severity : Severity) :
    summary.withSeverity severity = summary'.withSeverity severity := by
  have hown : Relator.RightUnique fun (r : String × Rule) report =>
      ∃ own, (r.2.evaluate c).result = .ok own ∧ report = own.overridden (some severity) := by
    rintro r report report' ⟨own, hown, rfl⟩ ⟨own', hown', rfl⟩
    rw [Except.ok.inj (hown.symm.trans hown')]
  have hreports : (summary.withSeverity severity).reports =
      (summary'.withSeverity severity).reports := by
    have hfound := h.forall₂_withSeverity severity
    rw [henabled] at hfound
    exact List.right_unique_forall₂' hown hfound (h'.forall₂_withSeverity severity)
  have hlength : summary.reports.length = summary'.reports.length := by
    simpa only [withSeverity, List.length_map] using congrArg List.length hreports
  obtain ⟨hchecked, hskipped⟩ := h.counts_eq h' rfl hlength
  exact (mk.injEq ..).mpr ⟨hreports, hchecked, hskipped⟩

end Summary.Covers

namespace Suite

/-- With the same rules enabled, two checks fail alike or come to the same, severities apart. -/
theorem map_withSeverity_result_check
    (henabled : config.enabledRules rules = config'.enabledRules rules) (severity : Severity) :
    ((Suite.mk rules config).check c).result.map (·.withSeverity severity) =
      ((Suite.mk rules config').check c).result.map (·.withSeverity severity) := by
  have herror : ∀ e, ((Suite.mk rules config).check c).result = .error e ↔
      ((Suite.mk rules config').check c).result = .error e := by
    intro e
    rw [result_check_eq_error_iff, result_check_eq_error_iff, henabled]
  cases h : ((Suite.mk rules config).check c).result with
  | error e => rw [(herror e).1 h]
  | ok summary =>
    cases h' : ((Suite.mk rules config').check c).result with
    | error e =>
      rw [(herror e).2 h'] at h
      cases h
    | ok summary' =>
      exact congrArg Except.ok
        ((covers_of_result_check h).withSeverity_eq (covers_of_result_check h') henabled severity)

/-- **Settings do not interfere.** Take two configurations for the same rules and a codebase. If
they have the same settings for a name, or both have none, and both checks have a summary, then the
reports of the rules of that name are the same in both, whatever else is set. If they enable the
same rules, both checks fail with the same error, or both have a summary, and the two summaries are
the same once every severity is the same. So a severity that is set never adds, removes or moves a
finding, and the same reports pass. -/
theorem settings_do_not_interfere (rules : List (String × Rule)) (c : Codebase)
    (config config' : Config) :
    (∀ name, config.rule? name = config'.rule? name →
      ∀ summary summary', ((Suite.mk rules config).check c).result = .ok summary →
        ((Suite.mk rules config').check c).result = .ok summary' →
        (Suite.mk rules config).reportsUnder name summary =
          (Suite.mk rules config').reportsUnder name summary') ∧
    ((∀ r ∈ rules, config.isEnabled r.1 = config'.isEnabled r.1) →
      (∀ severity, ((Suite.mk rules config).check c).result.map (·.withSeverity severity) =
        ((Suite.mk rules config').check c).result.map (·.withSeverity severity)) ∧
      ∀ summary summary', ((Suite.mk rules config).check c).result = .ok summary →
        ((Suite.mk rules config').check c).result = .ok summary' →
        summary.reports.map Report.passed = summary'.reports.map Report.passed) := by
  refine ⟨fun name hname summary summary' h h' => ?_, fun henabled => ?_⟩
  · exact reportsUnder_eq_of_rule?_eq hname (covers_of_result_check h) (covers_of_result_check h')
  · have hrules := Config.enabledRules_congr henabled
    refine ⟨map_withSeverity_result_check hrules, fun summary summary' h h' => ?_⟩
    have hsame := (covers_of_result_check h).withSeverity_eq (covers_of_result_check h') hrules
      .error
    rw [← summary.map_passed_withSeverity .error, hsame, summary'.map_passed_withSeverity]

/-- Caching is left out as well, and the size of a page is worth a warning as before. -/
def uncachedConfig : Config :=
  ⟨none, [("size", ⟨none, some .warning⟩), ("cache", ⟨some false, none⟩),
    ("open", ⟨some false, none⟩)]⟩

/-- The rule that cannot be judged is left out, and nothing is more than an information. -/
def mildConfig : Config :=
  ⟨some .error, [("cache", ⟨some true, some .info⟩), ("open", ⟨some false, none⟩),
    ("size", ⟨none, some .info⟩)]⟩

theorem settings_do_not_interfere_pages :
    (∃ summary summary',
      ((Suite.mk pageRules pageConfig).check (.ofTypes [])).result = .ok summary ∧
      ((Suite.mk pageRules uncachedConfig).check (.ofTypes [])).result = .ok summary' ∧
      summary.reports.length = 3 ∧ summary'.reports.length = 2 ∧
      (Suite.mk pageRules pageConfig).reportsUnder "size" summary =
        (Suite.mk pageRules uncachedConfig).reportsUnder "size" summary') ∧
    ((Suite.mk pageRules pageConfig).check (.ofTypes [])).result.map (·.withSeverity .error) =
      ((Suite.mk pageRules mildConfig).check (.ofTypes [])).result.map (·.withSeverity .error) := by
  obtain ⟨hname, -⟩ :=
    settings_do_not_interfere pageRules (.ofTypes []) pageConfig uncachedConfig
  obtain ⟨-, hrules⟩ := settings_do_not_interfere pageRules (.ofTypes []) pageConfig mildConfig
  have henabled : ∀ r ∈ pageRules, pageConfig.isEnabled r.1 = mildConfig.isEnabled r.1 := by
    intro r hr
    simp only [pageRules, List.mem_cons, List.not_mem_nil, or_false] at hr
    rcases hr with rfl | rfl | rfl | rfl <;> rfl
  exact ⟨⟨_, _, rfl, rfl, rfl, rfl, hname "size" (by decide) _ _ rfl rfl⟩, (hrules henabled).1 _⟩

end Suite

end DesignRules
