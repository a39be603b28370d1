import DesignRules.Model.Serial
import DesignRules.Proofs.Json.ReadBack

/-!
# Stored models are read back

A type that is stored and read again is the same in every fact about it, and so are its members and
the dependencies of both. This holds for the values and for the texts in which they are stored.

## Why equality of every field

Objects of a codebase count as the same if they have the same full name, so a comparison of that
kind would not notice a fact that the stored form leaves out or that is read from the place of
another. Equality `=` notices, and it goes down to the members and their dependencies.

## What a reader may be given

Stored values come from elsewhere as well: with fields in another order or fields that mean
nothing, with a record as a list of its fields, without a base type. Reading takes them to a type
which the stored form of that type gives back, though it need not be the value that was read.

## Main results

* `Dependency.ofJson?_toJson`, `Member.ofJson?_toJson`, `TypeDecl.ofJson?_toJson` — what was
  stored is read back
* `TypeDecl.wellFormed_toJson`, `TypeDecl.read?_render_toJson` — also from a text
* `TypeDecl.stored_form_loses_nothing` — for any type, and for any value that is read as a type
-/

namespace DesignRules

/-! ### Dependencies -/

namespace Dependency

theorem ofJson?_toJson (d : Dependency) : ofJson? d.toJson = some d := by
  have hfields : ofJson? d.toJson = (do
      let form ← DependencyForm.ofWord? d.form.word
      pure ⟨form, d.target⟩) := rfl
  rw [hfields, DependencyForm.ofWord?_word]
  rfl

theorem wellFormed_toJson (d : Dependency) : d.toJson.WellFormed := by
  have hnames : ["kind", "target"].Nodup := by decide
  exact .object hnames (by simp)

end Dependency

/-! ### Members -/

namespace Member

theorem ofJson?_toJson (m : Member) : ofJson? m.toJson = some m := by
  have hfields : ofJson? m.toJson = (do
      let form ← MemberForm.ofWord? m.form.word
      let visibility ← Visibility.ofWord? m.visibility.word
      let dependencies ←
        Json.listOf? Dependency.ofJson? (.list (m.dependencies.map Dependency.toJson))
      let attributes ← Json.listOf? Json.text? (.list (m.attributes.map Json.text))
      pure ⟨m.name, m.fullName, form, visibility, m.declaringType, dependencies, attributes⟩) :=
    rfl
  rw [hfields, MemberForm.ofWord?_word, Visibility.ofWord?_word,
    Json.listOf?_map Dependency.ofJson?_toJson, Json.listOf?_text]
  rfl

theorem wellFormed_toJson (m : Member) : m.toJson.WellFormed := by
  have hnames : fieldNames.Nodup := by decide
  have hdependencies := Json.WellFormed.list_map Dependency.wellFormed_toJson m.dependencies
  have hattributes := Json.WellFormed.list_map .text m.attributes
  exact .object hnames (by simp [hdependencies, hattributes])

end Member

/-! ### Types -/

namespace TypeDecl

theorem ofJson?_toJson (t : TypeDecl) : ofJson? t.toJson = some t := by
  have hfields : ofJson? t.toJson = (do
      let form ← TypeForm.ofWord? t.form.word
      let visibility ← Visibility.ofWord? t.visibility.word
      let baseType ← Json.optionalText? (some (.ofOptionalText t.baseType))
      let interfaces ← Json.listOf? Json.text? (.list (t.interfaces.map Json.text))
      let attributes ← Json.listOf? Json.text? (.list (t.attributes.map Json.text))
      let dependencies ←
        Json.listOf? Dependency.ofJson? (.list (t.dependencies.map Dependency.toJson))
      let members ← Json.listOf? Member.ofJson? (.list (t.members.map Member.toJson))
      pure ⟨t.name, t.fullName, t.inNamespace, t.assembly, form, visibility, baseType, interfaces,
        t.nested, attributes, dependencies, members⟩) := rfl
  rw [hfields, TypeForm.ofWord?_word, Visibility.ofWord?_word, Json.optionalText?_ofOptionalText,
    Json.listOf?_text, Json.listOf?_text, Json.listOf?_map Dependency.ofJson?_toJson,
    Json.listOf?_map Member.ofJson?_toJson]
  rfl

theorem wellFormed_toJson (t : TypeDecl) : t.toJson.WellFormed := by
  have hnames : fieldNames.Nodup := by decide
  have hbaseType := Json.WellFormed.ofOptionalText t.baseType
  have hinterfaces := Json.WellFormed.list_map .text t.interfaces
  have hattributes := Json.WellFormed.list_map .text t.attributes
  have hdependencies := Json.WellFormed.list_map Dependency.wellFormed_toJson t.dependencies
  have hmembers := Json.WellFormed.list_map Member.wellFormed_toJson t.members
  exact .object hnames
    (by simp [hbaseType, hinterfaces, hattributes, hdependencies, hmembers])

theorem read?_render_toJson (t : TypeDecl) :
    (Json.read? t.toJson.render).bind ofJson? = some t := by
  rw [Json.read?_render t.wellFormed_toJson, Option.bind_some, ofJson?_toJson]

/-- A type is read back from its stored form, be it a value or a text, with every fact about it and
about its members. And what was read from any value is the same after it was stored and read once
more. -/
theorem stored_form_loses_nothing :
    (∀ t : TypeDecl,
      ofJson? t.toJson = some t ∧ (Json.read? t.toJson.render).bind ofJson? = some t) ∧
    ∀ value,
      (ofJson? value).bind (fun t => ofJson? t.toJson) = ofJson? value ∧
        (ofJson? value).bind (fun t => (Json.read? t.toJson.render).bind ofJson?) =
          ofJson? value := by
  refine ⟨fun t => ⟨ofJson?_toJson t, read?_render_toJson t⟩, fun value => ⟨?_, ?_⟩⟩
  · simp [ofJson?_toJson]
  · simp [read?_render_toJson]

end TypeDecl

end DesignRules
