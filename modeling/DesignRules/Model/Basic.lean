import DesignRules.Text.Basic

/-!
# Types, members and dependencies

The facts that rules are about. A *type* is a class, an interface or one of their relatives; it
has *members*, and both have *dependencies*: edges to the full names of the types they use.

## Implementation notes

A full name is the namespace, a dot and the simple name. Types and members are built by starting
from a name and adding facts one at a time; the calls that add a base type, an interface or an
attribute add the matching dependency as well. Nothing forces a value to have been built that
way: a model that was read from a file is taken as it is.

Equality `=` compares every field. Which objects count as the same is another question, answered
by their full names, see `Element.same`.

## Main definitions

* `Visibility`, `TypeForm`, `MemberForm`, `DependencyForm` — the classifications
* `Dependency`, `Member`, `TypeDecl` — the facts
* `Member.ofName`, `TypeDecl.ofName` and the functions after them — building them
-/

namespace DesignRules

/-! ### Classifications -/

/-- Who may use a type or a member. -/
inductive Visibility where
  | priv
  | pub
  | prot
  | internal
  | protInternal
  | privProt
  deriving DecidableEq, Repr

namespace Visibility

/-- All visibilities in the order in which they are listed. -/
def all : List Visibility := [priv, pub, prot, internal, protInternal, privProt]

/-- The visibility as a word of a sentence. -/
def text : Visibility → String
  | priv => "private"
  | pub => "public"
  | prot => "protected"
  | internal => "internal"
  | protInternal => "protected internal"
  | privProt => "private protected"

theorem mem_all (v : Visibility) : v ∈ all := by
  cases v <;> decide

end Visibility

/-- What sort of type a type is. -/
inductive TypeForm where
  | classType
  | interfaceType
  | structType
  | enumType
  | attributeType
  deriving DecidableEq, Repr

/-- What sort of member a member is. -/
inductive MemberForm where
  | method
  | field
  | property
  deriving DecidableEq, Repr

namespace MemberForm

/-- The form as a word of a sentence. -/
def text : MemberForm → String
  | method => "method"
  | field => "field"
  | property => "property"

end MemberForm

/-- In which way one type uses another. -/
inductive DependencyForm where
  | methodCall
  | inheritance
  | interfaceImplementation
  | fieldType
  | attributeUsage
  | other
  deriving DecidableEq, Repr

/-! ### Facts -/

/-- An edge to the full name of a type. -/
structure Dependency where
  /-- In which way the target is used. -/
  form : DependencyForm
  /-- The full name of the type that is used. -/
  target : String
  deriving DecidableEq, Repr

/-- A method, a field or a property. -/
structure Member where
  /-- The simple name. -/
  name : String
  /-- The full name of the declaring type, a dot and the simple name. -/
  fullName : String
  /-- Method, field or property. -/
  form : MemberForm
  /-- Who may use it. -/
  visibility : Visibility
  /-- The full name of the type it belongs to; empty until it is attached to one. -/
  declaringType : String
  /-- The types it uses. -/
  dependencies : List Dependency
  /-- The full names of its attributes. -/
  attributes : List String
  deriving DecidableEq, Repr

/-- A type of a codebase. -/
structure TypeDecl where
  /-- The simple name. -/
  name : String
  /-- The namespace, a dot and the simple name. -/
  fullName : String
  /-- The part of the full name before its last dot. -/
  inNamespace : String
  /-- The assembly it is built into. -/
  assembly : String
  /-- Class, interface, struct, enum or attribute. -/
  form : TypeForm
  /-- Who may use it. -/
  visibility : Visibility
  /-- The full name of the type it extends. -/
  baseType : Option String
  /-- The full names of the interfaces it implements. -/
  interfaces : List String
  /-- Whether it is declared inside another type. -/
  nested : Bool
  /-- The full names of its attributes. -/
  attributes : List String
  /-- The types it uses. -/
  dependencies : List Dependency
  /-- Its members. -/
  members : List Member
  deriving DecidableEq, Repr

/-! ### Building members -/

namespace Member

/-- A public member that is not yet attached to a type. -/
def ofName (form : MemberForm) (name : String) : Member where
  name := name
  fullName := name
  form := form
  visibility := .pub
  declaringType := ""
  dependencies := []
  attributes := []

/-- The member with another visibility. -/
def withVisibility (m : Member) (visibility : Visibility) : Member :=
  { m with visibility := visibility }

/-- The member with one more dependency. -/
def dependingOn (m : Member) (form : DependencyForm) (target : String) : Member :=
  { m with dependencies := m.dependencies ++ [⟨form, target⟩] }

/-- The member with one more attribute, which it depends on as well. -/
def withAttribute (m : Member) (attributeName : String) : Member :=
  { m.dependingOn .attributeUsage attributeName with
    attributes := m.attributes ++ [attributeName] }

/-- The member as it is once it belongs to the type of that full name. -/
def attachedTo (m : Member) (typeName : String) : Member :=
  { m with fullName := typeName ++ "." ++ m.name, declaringType := typeName }

end Member

/-! ### Building types -/

namespace TypeDecl

/-- A public type without further facts; the full name is cut at its last dot. -/
def ofName (form : TypeForm) (fullName : String) : TypeDecl :=
  let (inNamespace, name) :=
    match Text.splitLast '.' fullName.toList with
    | some (before, after) => (String.ofList before, String.ofList after)
    | none => ("", fullName)
  { name := name
    fullName := fullName
    inNamespace := inNamespace
    assembly := ""
    form := form
    visibility := .pub
    baseType := none
    interfaces := []
    nested := false
    attributes := []
    dependencies := []
    members := [] }

/-- The type with another visibility. -/
def withVisibility (t : TypeDecl) (visibility : Visibility) : TypeDecl :=
  { t with visibility := visibility }

/-- The type in another assembly. -/
def inAssembly (t : TypeDecl) (assembly : String) : TypeDecl :=
  { t with assembly := assembly }

/-- The type as one that is declared inside another. -/
def asNested (t : TypeDecl) : TypeDecl :=
  { t with nested := true }

/-- The type with one more dependency. -/
def dependingOn (t : TypeDecl) (form : DependencyForm) (target : String) : TypeDecl :=
  { t with dependencies := t.dependencies ++ [⟨form, target⟩] }

/-- The type with another base type, which it depends on as well. -/
def extending (t : TypeDecl) (base : String) : TypeDecl :=
  { t.dependingOn .inheritance base with baseType := some base }

/-- The type with one more interface, which it depends on as well. -/
def implementing (t : TypeDecl) (interfaceName : String) : TypeDecl :=
  { t.dependingOn .interfaceImplementation interfaceName with
    interfaces := t.interfaces ++ [interfaceName] }

/-- The type with one more attribute, which it depends on as well. -/
def withAttribute (t : TypeDecl) (attributeName : String) : TypeDecl :=
  { t.dependingOn .attributeUsage attributeName with
    attributes := t.attributes ++ [attributeName] }

/-- The type with one more member, which is attached to it. -/
def withMember (t : TypeDecl) (m : Member) : TypeDecl :=
  { t with members := t.members ++ [m.attachedTo t.fullName] }

/-- The names that the type declares as its parents: the base type, then the interfaces. -/
def parents (t : TypeDecl) : List String := t.baseType.toList ++ t.interfaces

end TypeDecl

end DesignRules
