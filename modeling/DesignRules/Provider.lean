import DesignRules.Predicate

/-!
# Providers

A provider names objects of a codebase inside a condition, such as the types that a rule forbids
to depend on. It can be a list of names, a kind narrowed down by predicates, or the subject of
another rule.

## Implementation notes

A provider has two texts because it stands in two kinds of sentence: *depends on A or B* needs
alternatives, *does not depend on A and B* needs them together.

## Main definitions

* `Provider` — its texts and its objects in a codebase
* `NamedTypes`, `NamedTypes.provider` — the types of given full names
* `Selection`, `Selection.provider` — the objects of a kind that pass some predicates
-/

namespace DesignRules

/-- Objects of a codebase, and how sentences call them. -/
structure Provider (α : Type) where
  /-- The text where one of the objects is enough. -/
  description : String
  /-- The text where all of the objects are meant together. -/
  jointDescription : String
  /-- The objects. -/
  objects : Codebase → Eval (List α)

/-! ### Types by name -/

/-- Types given by their full names, in any order and with repetitions. -/
structure NamedTypes where
  /-- The full names. -/
  names : List String
  deriving DecidableEq, Repr

namespace NamedTypes

/-- The names in quotes with a connector between them. -/
def text (n : NamedTypes) (separator : String) : String :=
  if n.names.isEmpty then "no types" else separator.intercalate (n.names.map Text.quoted)

/-- The types of the names in the order of the names. A name that the codebase does not have is
reported and left out. -/
def resolve (c : Codebase) : List String → Eval (List TypeDecl)
  | [] => pure []
  | name :: rest =>
    match c.typeOf? name with
    | some t => do
      let others ← resolve c rest
      pure (t :: others)
    | none => do
      Eval.emit (.unresolvedType name)
      resolve c rest

/-- The named types as a provider. -/
def provider (n : NamedTypes) : Provider TypeDecl where
  description := n.text " or "
  jointDescription := n.text " and "
  objects c := resolve c n.names

end NamedTypes

/-! ### Selections -/

/-- The objects of a kind that pass some predicates. -/
structure Selection (α : Type) where
  /-- The kind the objects are of. -/
  kind : Kind α
  /-- The predicates they have to pass. -/
  predicates : List (Predicate α)

namespace Selection

variable {α : Type} [Element α]

/-- All objects of a kind. -/
def all (κ : Kind α) : Selection α := ⟨κ, []⟩

/-- The selection narrowed down by one more predicate. -/
def narrow (s : Selection α) (p : Predicate α) : Selection α :=
  { s with predicates := s.predicates ++ [p] }

/-- The objects selected, in the order of the codebase. -/
def objects (s : Selection α) (c : Codebase) : Eval (List α) :=
  Predicate.filter s.predicates c (s.kind.select c)

/-- The selection as a provider. Its text holds the predicates alone, since the kind has been
named by the sentence it stands in. -/
def provider (s : Selection α) : Provider α :=
  let text := " and ".intercalate (s.predicates.map Predicate.description)
  ⟨text, text, s.objects⟩

end Selection

end DesignRules
