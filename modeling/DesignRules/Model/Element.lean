import DesignRules.Model.Codebase
import DesignRules.Pattern

/-!
# Elements

What types and members have in common, so that a rule can be about either: names, a visibility,
dependencies and attributes, and a place in the codebase.

## Main definitions

* `Element` — the class of types and members
* `Element.same` — whether two objects are one and the same, judged by full name
* `Element.dependsOn`, `Element.dependsOnType`, `Element.hasAttribute` — its basic questions
* `Kind` — which of the elements a rule is about, with the five kinds rules can be about
-/

namespace DesignRules

/-- An object that rules can be about. -/
class Element (α : Type) where
  /-- The simple name. -/
  name : α → String
  /-- The full name, which tells objects of a codebase apart. -/
  fullName : α → String
  /-- Who may use it. -/
  visibility : α → Visibility
  /-- The types it uses. -/
  dependencies : α → List Dependency
  /-- The full names of its attributes. -/
  attributes : α → List String
  /-- All objects of this sort in a codebase, in its order. -/
  listed : Codebase → List α

instance : Element TypeDecl where
  name := TypeDecl.name
  fullName := TypeDecl.fullName
  visibility := TypeDecl.visibility
  dependencies := TypeDecl.dependencies
  attributes := TypeDecl.attributes
  listed := Codebase.types

instance : Element Member where
  name := Member.name
  fullName := Member.fullName
  visibility := Member.visibility
  dependencies := Member.dependencies
  attributes := Member.attributes
  listed := Codebase.members

namespace Element

variable {α : Type} [Element α]

/-- Whether two objects are the same one: they have the same full name. -/
def same (a b : α) : Bool := fullName a == fullName b

/-- The number of different objects in a list. -/
def countDistinct (objects : List α) : Nat := (objects.map fullName).eraseDups.length

/-- The full names of the types an object uses, in order, as often as they are used. -/
def targets (a : α) : List String := (dependencies a).map Dependency.target

/-- Whether an object uses a type whose full name the pattern describes. -/
def dependsOn (a : α) (pattern : Pattern) : Bool := (targets a).any pattern.accepts

/-- Whether an object uses the type of that full name. -/
def dependsOnType (a : α) (typeName : String) : Bool := (targets a).contains typeName

/-- Whether an object carries the attribute of that full name. -/
def hasAttribute (a : α) (attributeName : String) : Bool := (attributes a).contains attributeName

end Element

/-! ### Kinds -/

/-- Which elements of a sort a rule is about, and what they are called. -/
structure Kind (α : Type) where
  /-- How the objects are called at the beginning of a sentence. -/
  label : String
  /-- Whether an object is one of them. -/
  admits : α → Bool

namespace Kind

variable {α : Type} [Element α]

/-- The objects of a kind, in the order of the codebase. -/
def select (κ : Kind α) (c : Codebase) : List α := (Element.listed c).filter κ.admits

/-- All types. -/
def types : Kind TypeDecl := ⟨"Types", fun _ => true⟩

/-- The types of one form. -/
def ofForm (label : String) (form : TypeForm) : Kind TypeDecl := ⟨label, fun t => t.form == form⟩

/-- All classes. -/
def classes : Kind TypeDecl := ofForm "Classes" .classType

/-- All interfaces. -/
def interfaces : Kind TypeDecl := ofForm "Interfaces" .interfaceType

/-- All attribute types. -/
def attributes : Kind TypeDecl := ofForm "Attributes" .attributeType

/-- All methods. -/
def methodMembers : Kind Member := ⟨"Method members", fun m => m.form == .method⟩

end Kind

end DesignRules
