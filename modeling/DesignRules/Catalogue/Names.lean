import DesignRules.Catalogue.Scoped
import DesignRules.Catalogue.TypeCriterion
import DesignRules.Condition.Existence
import DesignRules.Model.Serial

/-!
# Names of criteria

Rules that are written as data call the criteria of the catalogue by name. A name is the phrase of
the criterion in its plain form, such as `have_name_ending_with`, and a negation stands before it.

## Implementation notes

A predicate is called in the plural (`are_public`, `do_not_depend_on`) and a condition in the
infinitive (`be_public`, `not_depend_on`). A `Call` is what both have in common, so that every
criterion needs one name only. Which names there are depends on what they are called with: a
text, a list of names, a provider, or nothing.

## Main definitions

* `Call`, `Call.ofPredicate`, `Call.ofCondition` — a name in its plain form, and its negation
* `Criterion.ofText?`, `Criterion.ofNames?`, `Criterion.ofName?`, `TypeCriterion.ofText?`,
  `TypeCriterion.ofName?`, `ProviderCriterion.ofProvider?`, `Assignability.ofText?` — the criteria
* `Relation.ofName?`, `Existence.ofName?` — relations and existence conditions
-/

namespace DesignRules

/-! ### Calls -/

/-- A criterion called by name. -/
structure Call where
  /-- The name in its plain form. -/
  name : String
  /-- Whether it is negated. -/
  negated : Bool
  deriving DecidableEq, Repr

namespace Call

/-- The rest of a text after a beginning, if the text begins so. -/
def after? (beginning text : String) : Option String :=
  (beginning.toList.isPrefixOf? text.toList).map String.ofList

/-- The call that the name of a predicate stands for. -/
def ofPredicate (text : String) : Call :=
  if text = "are" then ⟨"be", false⟩
  else if text = "are_not" then ⟨"be", true⟩
  else
    match after? "do_not_" text, after? "are_not_" text, after? "are_" text with
    | some rest, _, _ => ⟨rest, true⟩
    | none, some rest, _ => ⟨"be_" ++ rest, true⟩
    | none, none, some rest => ⟨"be_" ++ rest, false⟩
    | none, none, none => ⟨text, false⟩

/-- The call that the name of a condition stands for. -/
def ofCondition (text : String) : Call :=
  if text = "visibility_is_not" then ⟨"visibility_is", true⟩
  else
    match after? "not_" text with
    | some rest => ⟨rest, true⟩
    | none => ⟨text, false⟩

end Call

/-! ### Criteria on elements -/

namespace Criterion

variable {α : Type}

/-- The criterion of a name that is called with a text. -/
def ofText? (name text : String) : Option (Criterion α) :=
  match name with
  | "depend_on" => some (dependsOn ⟨text⟩)
  | "have_name" => some (.name text)
  | "have_name_starting_with" => some (nameStartingWith text)
  | "have_name_ending_with" => some (nameEndingWith text)
  | "have_name_containing" => some (nameContaining text)
  | "have_full_name" => some (fullName text)
  | "have_full_name_containing" => some (fullNameContaining text)
  | "have_full_name_matching" => some (fullNameMatching ⟨text⟩)
  | _ => none

/-- The criterion of a name that is called with a list of names. -/
def ofNames? (name : String) (names : List String) : Option (Criterion α) :=
  match name with
  | "depend_on_any" => some (dependsOnAny names)
  | "only_depend_on" => some (dependsOnlyOn names)
  | _ => none

/-- The criterion of a name that is called with nothing. -/
def ofName? : String → Option (Criterion α)
  | "be_private" => some (visibility .priv)
  | "be_public" => some (visibility .pub)
  | "be_protected" => some (visibility .prot)
  | "be_internal" => some (visibility .internal)
  | "be_protected_internal" => some (visibility .protInternal)
  | "be_private_protected" => some (visibility .privProt)
  | _ => none

end Criterion

/-! ### Criteria on types -/

namespace TypeCriterion

/-- The criterion of a name that is called with a text. -/
def ofText? (name text : String) : Option TypeCriterion :=
  match name with
  | "reside_in_namespace" => some (inNamespace ⟨text⟩)
  | "reside_in_namespace_containing" => some (inNamespaceContaining text)
  | "reside_in_assembly" => some (inAssembly ⟨text⟩)
  | "reside_in_assembly_containing" => some (inAssemblyContaining text)
  | "implement_interface" => some (implements ⟨text⟩)
  | "implement_interface_containing" => some (implementsContaining text)
  | "have_member_with_name" => some (member text)
  | "have_method_member_with_name" => some (memberOf .method text)
  | "have_field_member_with_name" => some (memberOf .field text)
  | "have_property_member_with_name" => some (memberOf .property text)
  | _ => none

/-- The criterion of a name that is called with nothing. -/
def ofName? : String → Option TypeCriterion
  | "be_nested" => some nested
  | _ => none

end TypeCriterion

/-! ### Criteria that need the codebase -/

/-- The criterion of a name that is called with a provider. -/
def ProviderCriterion.ofProvider? (name : String) (provider : Provider TypeDecl) :
    Option ProviderCriterion :=
  match name with
  | "depend_on_any_in" => some (dependsOnAnyIn provider)
  | "only_depend_on_types_in" => some (dependsOnlyOnTypesIn provider)
  | _ => none

/-- The criterion of a name that is called with a text. -/
def Assignability.ofText? (name text : String) : Option Assignability :=
  match name with
  | "be_assignable_to" => some (toMatching ⟨text⟩)
  | "be_assignable_to_types_with_full_name_containing" => some (toContaining text)
  | _ => none

/-- The relation of a name, with the kind of objects it leads to. -/
def Relation.ofName? {α : Type} [Element α] : String → Option (Relation α TypeDecl × Kind TypeDecl)
  | "depend_on_classes_that" => some (dependsOnClasses false, .classes)
  | "not_depend_on_classes_that" => some (dependsOnClasses true, .classes)
  | "have_attributes_that" => some (hasAttributes false, .attributes)
  | "not_have_attributes_that" => some (hasAttributes true, .attributes)
  | _ => none

/-- The existence condition of a name. -/
def Existence.ofName? : String → Option Existence
  | "exist" => some exist
  | "not_exist" => some notExist
  | _ => none

end DesignRules
