import DesignRules.Proofs.Json.ReadBack
import DesignRules.Report.Serial

/-!
# Stored reports are read back

A summary that is stored and read again is the same in every report, every finding and both
counts, as a value and as a text, as long as the stored form can hold the counts.

## The object of a finding

A finding about the number of candidates has no object. It is stored without that field, while a
reader takes the field as missing, as null or as a text. So writing and reading do not mirror each
other here: there are values that are read and never written. What has to be shown is that all ways
of having no object are read as the same finding.

## Main results

* `Violation.ofJson?_toJson`, `Report.ofJson?_toJson` — findings and reports are read back
* `Violation.ofJson?_null_object` — a null object is none
* `Summary.ofJson?_toJson`, `Summary.countsFit_of_ofJson?` — summaries are read back if their counts
  fit, and the counts of those that are read do
* `Summary.stored_results_lose_nothing` — all of this
-/

namespace DesignRules

/-! ### Findings -/

namespace Violation

theorem ofJson?_toJson (v : Violation) : ofJson? v.toJson = some v := by
  obtain ⟨rule, object, message, severity⟩ := v
  cases object with
  | none =>
    have hfields : ofJson? (toJson ⟨rule, none, message, severity⟩) = (do
        let severity ← Severity.ofWord? severity.text
        pure ⟨rule, none, message, severity⟩) := rfl
    rw [hfields, Severity.ofWord?_text]
    rfl
  | some name =>
    have hfields : ofJson? (toJson ⟨rule, some name, message, severity⟩) = (do
        let severity ← Severity.ofWord? severity.text
        pure ⟨rule, some name, message, severity⟩) := rfl
    rw [hfields, Severity.ofWord?_text]
    rfl

/-- The field for the object is written if and only if there is an object. -/
theorem toJson_object_iff (v : Violation) :
    ∃ fields, v.toJson = .object fields ∧
      ("object" ∈ fields.map Prod.fst ↔ v.object.isSome = true) := by
  refine ⟨_, rfl, ?_⟩
  cases v.object <;> simp

theorem wellFormed_toJson (v : Violation) : v.toJson.WellFormed := by
  obtain ⟨rule, object, message, severity⟩ := v
  cases object with
  | none =>
    have hnames : ["rule", "message", "severity"].Nodup := by decide
    exact .object hnames (by simp)
  | some name =>
    have hnames : ["rule", "object", "message", "severity"].Nodup := by decide
    exact .object hnames (by simp)

variable {before after : List (String × Json)}

/-- A null object counts as a missing one, wherever the field stands. -/
theorem ofJson?_null_object (h : "object" ∉ (before ++ after).map Prod.fst) :
    ofJson? (.object (before ++ ("object", .null) :: after)) =
      ofJson? (.object (before ++ after)) := by
  have hother (name : String) (hname : name ≠ "object") :
      Json.lookup name (before ++ ("object", .null) :: after) =
        Json.lookup name (before ++ after) := by
    have hfalse : (name == "object") = false := beq_eq_false_iff_ne.2 hname
    simp [List.lookup_append, List.lookup_cons, hfalse]
  have hnull : Json.lookup "object" (before ++ ("object", .null) :: after) = some .null := by
    rw [List.map_append, List.mem_append, not_or] at h
    simp [List.lookup_append, Json.lookup_eq_none h.1]
  have hmissing : Json.lookup "object" (before ++ after) = none := Json.lookup_eq_none h
  simp only [ofJson?, Json.fieldsOf?, Option.bind_eq_bind, Option.bind_some, hnull, hmissing,
    hother "rule" (by decide), hother "message" (by decide), hother "severity" (by decide),
    Json.optionalText?]

/-- What is read for the object is what its field holds. -/
theorem exists_field_of_ofJson? {value : Json} {v : Violation} (hv : ofJson? value = some v) :
    ∃ field, value.fieldsOf? ["rule", "object", "message", "severity"] = some field ∧
      Json.optionalText? (field "object") = some v.object := by
  simp only [ofJson?, Option.bind_eq_bind, Option.bind_eq_some_iff, Option.pure_def,
    Option.some.injEq] at hv
  obtain ⟨field, hfield, _, -, _, -, object, hobject, _, -, _, -, _, -, _, -, _, -, rfl⟩ := hv
  exact ⟨field, hfield, hobject⟩

/-- A finding that is read without the field has no object. -/
theorem object_of_ofJson? (h : "object" ∉ (before ++ after).map Prod.fst) {v : Violation}
    (hv : ofJson? (.object (before ++ after)) = some v) : v.object = none := by
  obtain ⟨field, hfield, hobject⟩ := exists_field_of_ofJson? hv
  cases hfield
  simpa [Json.lookup_eq_none h, Json.optionalText?] using hobject.symm

end Violation

/-! ### Reports -/

namespace Report

theorem ofJson?_toJson (r : Report) : ofJson? r.toJson = some r := by
  have hfields : ofJson? r.toJson = (do
      let violations ←
        Json.listOf? Violation.ofJson? (.list (r.violations.map Violation.toJson))
      pure ⟨r.description, violations⟩) := rfl
  rw [hfields, Json.listOf?_map Violation.ofJson?_toJson]
  rfl

theorem wellFormed_toJson (r : Report) : r.toJson.WellFormed := by
  have hnames : ["description", "violations"].Nodup := by decide
  have hviolations := Json.WellFormed.list_map Violation.wellFormed_toJson r.violations
  exact .object hnames (by simp [hviolations])

end Report

/-! ### Summaries -/

namespace Summary

/-- Both counts of a summary can be stored. -/
structure CountsFit (s : Summary) : Prop where
  /-- The number of rules checked. -/
  checked_lt : s.checked < countBound
  /-- The number of rules left out. -/
  skipped_lt : s.skipped < countBound

theorem ofJson?_toJson {s : Summary} (hs : s.CountsFit) : ofJson? s.toJson = some s := by
  have hfields : ofJson? s.toJson = (do
      let reports ← Json.listOf? Report.ofJson? (.list (s.reports.map Report.toJson))
      let checked ← Json.natBelow? countBound (.nat s.checked)
      let skipped ← Json.natBelow? countBound (.nat s.skipped)
      pure ⟨reports, checked, skipped⟩) := rfl
  have hchecked := Json.natBelow?_eq_some_iff.mpr ⟨rfl, hs.checked_lt⟩
  have hskipped := Json.natBelow?_eq_some_iff.mpr ⟨rfl, hs.skipped_lt⟩
  rw [hfields, Json.listOf?_map Report.ofJson?_toJson, hchecked, hskipped]
  rfl

theorem wellFormed_toJson (s : Summary) : s.toJson.WellFormed := by
  have hnames : ["reports", "rules_checked", "rules_skipped"].Nodup := by decide
  have hreports := Json.WellFormed.list_map Report.wellFormed_toJson s.reports
  exact .object hnames (by simp [hreports])

theorem read?_render_toJson {s : Summary} (hs : s.CountsFit) :
    (Json.read? s.toJson.render).bind ofJson? = some s := by
  rw [Json.read?_render s.wellFormed_toJson, Option.bind_some, ofJson?_toJson hs]

/-- The counts of a summary that was read fit. -/
theorem countsFit_of_ofJson? {value : Json} {s : Summary} (hs : ofJson? value = some s) :
    s.CountsFit := by
  simp only [ofJson?, Option.bind_eq_bind, Option.bind_eq_some_iff, Option.pure_def,
    Option.some.injEq, Json.natBelow?_eq_some_iff] at hs
  obtain ⟨_, -, _, -, _, -, _, -, _, ⟨-, hchecked⟩, _, -, _, ⟨-, hskipped⟩, rfl⟩ := hs
  exact ⟨hchecked, hskipped⟩

/-- A summary whose counts fit is read back from its stored form, be it a value or a text, with
every report and every finding. A finding without an object is stored without that field; whether
the field is missing or null, the same finding is read, and it has no object. And what was read from
any value is the same after it was stored and read once more. -/
theorem stored_results_lose_nothing :
    (∀ s : Summary, s.CountsFit →
      ofJson? s.toJson = some s ∧ (Json.read? s.toJson.render).bind ofJson? = some s) ∧
    (∀ v : Violation, ∃ fields, v.toJson = .object fields ∧
      ("object" ∈ fields.map Prod.fst ↔ v.object.isSome = true)) ∧
    (∀ before after : List (String × Json), "object" ∉ (before ++ after).map Prod.fst →
      Violation.ofJson? (.object (before ++ ("object", .null) :: after)) =
          Violation.ofJson? (.object (before ++ after)) ∧
        ∀ v, Violation.ofJson? (.object (before ++ after)) = some v → v.object = none) ∧
    (∀ value, (Violation.ofJson? value).bind (fun v => Violation.ofJson? v.toJson) =
      Violation.ofJson? value) ∧
    ∀ value,
      (ofJson? value).bind (fun s => ofJson? s.toJson) = ofJson? value ∧
        (ofJson? value).bind (fun s => (Json.read? s.toJson.render).bind ofJson?) =
          ofJson? value := by
  refine ⟨fun s hs => ⟨ofJson?_toJson hs, read?_render_toJson hs⟩, Violation.toJson_object_iff,
    fun before after h => ⟨Violation.ofJson?_null_object h, fun v => Violation.object_of_ofJson? h⟩,
    fun value => ?_, fun value => ?_⟩
  · simp [Violation.ofJson?_toJson]
  · cases hs : ofJson? value with
    | none => exact ⟨rfl, rfl⟩
    | some s =>
      have hfit := countsFit_of_ofJson? hs
      rw [Option.bind_some, Option.bind_some]
      exact ⟨ofJson?_toJson hfit, read?_render_toJson hfit⟩

/-- A report with two findings, one of which has no object, and that finding with a null. -/
theorem stored_results_lose_nothing_two_findings :
    let missing : Violation := ⟨"rule", none, "none found", .error⟩
    let s : Summary := ⟨[⟨"rule", [missing, ⟨"rule", some "A", "is public", .info⟩]⟩], 1, 2⟩
    (s.CountsFit ∧ ofJson? s.toJson = some s ∧
        (Json.read? s.toJson.render).bind ofJson? = some s) ∧
      Violation.ofJson? (.object [("rule", .text "rule"), ("object", .null),
        ("message", .text "none found"), ("severity", .text "error")]) = some missing := by
  intro missing s
  have hfit : s.CountsFit := ⟨by decide, by decide⟩
  have hstored := stored_results_lose_nothing.1 s hfit
  have hnull := stored_results_lose_nothing.2.2.1 [("rule", .text "rule")]
    [("message", .text "none found"), ("severity", .text "error")] (by decide)
  exact ⟨⟨hfit, hstored⟩, hnull.1.trans (Violation.ofJson?_toJson missing)⟩

end Summary

end DesignRules
