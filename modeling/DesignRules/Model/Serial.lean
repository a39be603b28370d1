import DesignRules.Json.Basic
import DesignRules.Model.Basic

/-!
# Stored models

Types, members and dependencies as JSON values, and back. Every classification has a word of its
own; every other fact is stored under a name of its own. Reading a model takes it as it is: names
are not computed again and nothing is checked for consistency.

## Main definitions

* `Visibility.word`, `TypeForm.word`, `MemberForm.word`, `DependencyForm.word` and their
  counterparts `ofWord?` — the classifications
* `Dependency.toJson`, `Member.toJson`, `TypeDecl.toJson` — writing
* `Dependency.ofJson?`, `Member.ofJson?`, `TypeDecl.ofJson?` — reading

## Main results

* `Visibility.ofWord?_word`, `TypeForm.ofWord?_word`, `MemberForm.ofWord?_word`,
  `DependencyForm.ofWord?_word` — every word is read back
-/

namespace DesignRules

/-! ### Words -/

namespace Visibility

/-- The word for a visibility. -/
def word : Visibility → String
  | priv => "private"
  | pub => "public"
  | prot => "protected"
  | internal => "internal"
  | protInternal => "protected-internal"
  | privProt => "private-protected"

/-- The visibility of a word. -/
def ofWord? : String → Option Visibility
  | "private" => some priv
  | "public" => some pub
  | "protected" => some prot
  | "internal" => some internal
  | "protected-internal" => some protInternal
  | "private-protected" => some privProt
  | _ => none

theorem ofWord?_word (v : Visibility) : ofWord? v.word = some v := by
  cases v <;> rfl

end Visibility

namespace TypeForm

/-- The word for a sort of types. -/
def word : TypeForm → String
  | classType => "class"
  | interfaceType => "interface"
  | structType => "struct"
  | enumType => "enum"
  | attributeType => "attribute"

/-- The sort of types of a word. -/
def ofWord? : String → Option TypeForm
  | "class" => some classType
  | "interface" => some interfaceType
  | "struct" => some structType
  | "enum" => some enumType
  | "attribute" => some attributeType
  | _ => none

theorem ofWord?_word (f : TypeForm) : ofWord? f.word = some f := by
  cases f <;> rfl

end TypeForm

namespace MemberForm

/-- The word for a sort of members. -/
def word : MemberForm → String
  | method => "method"
  | field => "field"
  | property => "property"

/-- The sort of members of a word. -/
def ofWord? : String → Option MemberForm
  | "method" => some method
  | "field" => some field
  | "property" => some property
  | _ => none

theorem ofWord?_word (f : MemberForm) : ofWord? f.word = some f := by
  cases f <;> rfl

end MemberForm

namespace DependencyForm

/-- The word for a way of using a type. -/
def word : DependencyForm → String
  | methodCall => "method-call"
  | inheritance => "inheritance"
  | interfaceImplementation => "interface-implementation"
  | fieldType => "field-type"
  | attributeUsage => "attribute-usage"
  | other => "other"

/-- The way of using a type of a word. -/
def ofWord? : String → Option DependencyForm
  | "method-call" => some methodCall
  | "inheritance" => some inheritance
  | "interface-implementation" => some interfaceImplementation
  | "field-type" => some fieldType
  | "attribute-usage" => some attributeUsage
  | "other" => some other
  | _ => none

theorem ofWord?_word (f : DependencyForm) : ofWord? f.word = some f := by
  cases f <;> rfl

end DependencyForm

/-! ### Dependencies -/

namespace Dependency

/-- The stored form of a dependency. -/
def toJson (d : Dependency) : Json :=
  .object [("kind", .text d.form.word), ("target", .text d.target)]

/-- The dependency of a stored form. -/
def ofJson? (value : Json) : Option Dependency := do
  let field ← value.fieldsOf? ["kind", "target"]
  let form ← (← (← field "kind").word?) |> DependencyForm.ofWord?
  let target ← (← field "target").text?
  pure ⟨form, target⟩

end Dependency

/-! ### Members -/

namespace Member

/-- The names of the facts about a member, in order. -/
def fieldNames : List String :=
  ["name", "full_name", "kind", "visibility", "declaring_type", "dependencies", "attributes"]

/-- The stored form of a member. -/
def toJson (m : Member) : Json :=
  .object
    [("name", .text m.name), ("full_name", .text m.fullName), ("kind", .text m.form.word),
      ("visibility", .text m.visibility.word), ("declaring_type", .text m.declaringType),
      ("dependencies", .list (m.dependencies.map Dependency.toJson)),
      ("attributes", .list (m.attributes.map Json.text))]

/-- The member of a stored form. -/
def ofJson? (value : Json) : Option Member := do
  let field ← value.fieldsOf? fieldNames
  let name ← (← field "name").text?
  let fullName ← (← field "full_name").text?
  let form ← (← (← field "kind").word?) |> MemberForm.ofWord?
  let visibility ← (← (← field "visibility").word?) |> Visibility.ofWord?
  let declaringType ← (← field "declaring_type").text?
  let dependencies ← (← field "dependencies").listOf? Dependency.ofJson?
  let attributes ← (← field "attributes").listOf? Json.text?
  pure ⟨name, fullName, form, visibility, declaringType, dependencies, attributes⟩

end Member

/-! ### Types -/

namespace TypeDecl

/-- The names of the facts about a type, in order. -/
def fieldNames : List String :=
  ["name", "full_name", "namespace", "assembly", "kind", "visibility", "base_type", "interfaces",
    "nested", "attributes", "dependencies", "members"]

/-- The stored form of a type. -/
def toJson (t : TypeDecl) : Json :=
  .object
    [("name", .text t.name), ("full_name", .text t.fullName), ("namespace", .text t.inNamespace),
      ("assembly", .text t.assembly), ("kind", .text t.form.word),
      ("visibility", .text t.visibility.word), ("base_type", .ofOptionalText t.baseType),
      ("interfaces", .list (t.interfaces.map Json.text)), ("nested", .bool t.nested),
      ("attributes", .list (t.attributes.map Json.text)),
      ("dependencies", .list (t.dependencies.map Dependency.toJson)),
      ("members", .list (t.members.map Member.toJson))]

/-- The type of a stored form. Only the base type may be missing. -/
def ofJson? (value : Json) : Option TypeDecl := do
  let field ← value.fieldsOf? fieldNames
  let name ← (← field "name").text?
  let fullName ← (← field "full_name").text?
  let inNamespace ← (← field "namespace").text?
  let assembly ← (← field "assembly").text?
  let form ← (← (← field "kind").word?) |> TypeForm.ofWord?
  let visibility ← (← (← field "visibility").word?) |> Visibility.ofWord?
  let baseType ← Json.optionalText? (field "base_type")
  let interfaces ← (← field "interfaces").listOf? Json.text?
  let nested ← (← field "nested").bool?
  let attributes ← (← field "attributes").listOf? Json.text?
  let dependencies ← (← field "dependencies").listOf? Dependency.ofJson?
  let members ← (← field "members").listOf? Member.ofJson?
  pure ⟨name, fullName, inNamespace, assembly, form, visibility, baseType, interfaces, nested,
    attributes, dependencies, members⟩

end TypeDecl

end DesignRules
