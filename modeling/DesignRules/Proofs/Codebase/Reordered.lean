import DesignRules.Model.Element
import DesignRules.Model.Supertypes
import DesignRules.Proofs.Codebase.FirstOccurrences

/-!
# Codebases in another order

The types of a codebase come in the order in which they were found, and that order is an accident of
the search for them. This module says what stays the same when the same types are found in another
order: every name resolves to the same type, every type has the same supertypes in the same order,
and the objects of a kind are the same up to their order.

## Why the supertypes do not move

The search for supertypes never goes through the list of types. It reads the codebase by name only,
and the order in which it finds names is the order in which types declare their parents. So it is
enough that names resolve to the same types (`Hierarchy.search_congr`), and this is where it counts
that no two types of a codebase share a name: of two that did, another order would find another.

## Main definitions

* `Codebase.Reordered` — two codebases have the same types
* `LawfulElement` — the objects of a sort are those of the types, one type after the other

## Main results

* `Codebase.Reordered.ofTypes` — lists of types without repeated names
* `Codebase.Reordered.typeOf?_eq`, `Codebase.Reordered.supertypesOf_eq` — what stays the same
* `Codebase.Reordered.select_perm` — what changes its order
-/

namespace DesignRules

namespace Codebase

/-- The codebases have the same types, perhaps in different orders. -/
def Reordered (c c' : Codebase) : Prop := c.types.Perm c'.types

namespace Reordered

theorem refl (c : Codebase) : c.Reordered c := List.Perm.refl _

/-- Types with different names make codebases that differ in their order only, if the lists do. -/
theorem ofTypes {types types' : List TypeDecl} (hnodup : (types.map TypeDecl.fullName).Nodup)
    (hperm : types.Perm types') : (ofTypes types).Reordered (.ofTypes types') := by
  have hnodup' : (types'.map TypeDecl.fullName).Nodup :=
    (hperm.map TypeDecl.fullName).nodup_iff.1 hnodup
  rw [Reordered, types_ofTypes hnodup, types_ofTypes hnodup']
  exact hperm

variable {c c' : Codebase}

/-- **A name resolves to the same type.** -/
theorem typeOf?_eq (h : c.Reordered c') (name : String) : c.typeOf? name = c'.typeOf? name := by
  refine Option.ext fun t => ?_
  rw [typeOf?_eq_some_iff, typeOf?_eq_some_iff, h.mem_iff]

end Reordered

end Codebase

/-! ### Supertypes -/

namespace Hierarchy

variable {c c' : Codebase} {start : String}

theorem visit_congr (h : ∀ name, c.typeOf? name = c'.typeOf? name) :
    visit c start = visit c' start := by
  funext s parent
  rw [visit, visit, h parent]

theorem round_congr (h : ∀ name, c.typeOf? name = c'.typeOf? name) (s : Search) :
    round c start s = round c' start s := by
  rw [round, round, visit_congr h]

/-- **The search reads the codebase by name only.** -/
theorem search_congr (h : ∀ name, c.typeOf? name = c'.typeOf? name) (s : Search) :
    search c start s = search c' start s := by
  induction s using search.induct c start with
  | case1 s hnone =>
    have hnone' : round c' start s = none := (round_congr h s).symm.trans hnone
    rw [search_of_round_eq_none hnone, search_of_round_eq_none hnone']
  | case2 s next hsome ih =>
    have hsome' : round c' start s = some next := (round_congr h s).symm.trans hsome
    rw [search_of_round_eq_some hsome, search_of_round_eq_some hsome', ih]

end Hierarchy

theorem Codebase.Reordered.supertypesOf_eq {c c' : Codebase} (h : c.Reordered c') (t : TypeDecl) :
    c.supertypesOf t = c'.supertypesOf t :=
  Hierarchy.search_congr h.typeOf?_eq _

/-! ### Objects -/

/-- The objects of a sort are found type by type: another order of the types gives another order of
the objects, and the same objects. -/
class LawfulElement (α : Type) [Element α] : Prop where
  /-- The objects are the same. -/
  listed_perm : ∀ {c c' : Codebase}, c.Reordered c' →
    (Element.listed c : List α).Perm (Element.listed c')

instance : LawfulElement TypeDecl := ⟨fun h => h⟩

instance : LawfulElement Member := ⟨fun h => h.flatMap_right _⟩

theorem Codebase.Reordered.select_perm {α : Type} [Element α] [LawfulElement α] {c c' : Codebase}
    (h : c.Reordered c') (κ : Kind α) : (κ.select c).Perm (κ.select c') :=
  (LawfulElement.listed_perm h).filter _

end DesignRules
