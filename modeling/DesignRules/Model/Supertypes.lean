import DesignRules.Model.Codebase

/-!
# Supertypes

The supertypes of a type are the names that can be reached from it through base types and
interfaces. Names that are declared as parents but belong to no type of the codebase are
supertypes as well; they just lead nowhere. The type itself is never one of its supertypes, even
where the hierarchy has a cycle through it.

## Implementation notes

The search keeps a stack of types whose parents are still to be read and the list of names found
so far. Every round takes one type from the stack, and a type gets onto the stack only when its
name is found, which happens once. So the number of types not found yet and the height of the
stack together shrink with every round, and this is why the search ends on every hierarchy.

## Main definitions

* `Hierarchy.Search` — the stack and the names found
* `Hierarchy.visit`, `Hierarchy.round` — reading one parent name, and one type
* `Hierarchy.search` — rounds until the stack is empty
* `Codebase.supertypesOf` — the names in the order in which they are found

## Main results

* `Hierarchy.work_visit_le`, `Hierarchy.work_round_lt` — the measure that bounds the search
* `Hierarchy.search_of_round_eq_none`, `Hierarchy.search_of_round_eq_some` — one round of it
-/

namespace DesignRules

namespace Hierarchy

/-- The state of a search for supertypes. -/
structure Search where
  /-- The types whose parents have not been read, the next one first. -/
  pending : List TypeDecl
  /-- The names found so far, in the order in which they were found. -/
  found : List String

/-- Reads one parent name. A new name is noted, and its type, if the codebase has one, waits to
be read next. The name the search started from is passed over. -/
def visit (c : Codebase) (start : String) (s : Search) (parent : String) : Search :=
  if parent = start ∨ parent ∈ s.found then s
  else ⟨(c.typeOf? parent).toList ++ s.pending, s.found ++ [parent]⟩

/-- Takes the next type from the stack and reads its parents, the base type first; there is no
next round when the stack is empty. -/
def round (c : Codebase) (start : String) (s : Search) : Option Search :=
  match s.pending with
  | [] => none
  | t :: rest => some (t.parents.foldl (visit c start) ⟨rest, s.found⟩)

/-! ### The search ends -/

/-- The number of types whose names are not found yet, and of those that wait to be read. -/
def work (c : Codebase) (s : Search) : Nat :=
  (c.types.filter fun t => !s.found.contains t.fullName).length + s.pending.length

theorem work_visit_le (c : Codebase) (start : String) (s : Search) (parent : String) :
    work c (visit c start s parent) ≤ work c s := by
  unfold visit
  split
  · exact Nat.le_refl _
  · next hnew =>
    have hfound : parent ∉ s.found := fun h => hnew (Or.inr h)
    have hfilter : (c.types.filter fun t => !(s.found ++ [parent]).contains t.fullName) =
        (c.types.filter fun t => !s.found.contains t.fullName).filter
          fun t => t.fullName != parent := by
      rw [List.filter_filter]
      congr 1
      funext t
      by_cases h : t.fullName = parent <;> simp [h]
    cases hres : c.typeOf? parent with
    | none =>
      show (c.types.filter _).length + s.pending.length ≤ _
      rw [hfilter]
      exact Nat.add_le_add_right (List.length_filter_le ..) _
    | some t =>
      obtain ⟨hmem, hname⟩ := Codebase.typeOf?_eq_some_iff.1 hres
      have hlt : ((c.types.filter fun t => !s.found.contains t.fullName).filter
          fun t => t.fullName != parent).length <
            (c.types.filter fun t => !s.found.contains t.fullName).length := by
        refine List.length_filter_lt_length_iff_exists.2 ⟨t, List.mem_filter.2 ⟨hmem, ?_⟩, ?_⟩
        · simp [hname, hfound]
        · simp [hname]
      show (c.types.filter _).length + (s.pending.length + 1) ≤ _
      rw [hfilter]
      unfold work
      omega

theorem work_foldl_visit_le (c : Codebase) (start : String) (parents : List String) (s : Search) :
    work c (parents.foldl (visit c start) s) ≤ work c s := by
  induction parents generalizing s with
  | nil => exact Nat.le_refl _
  | cons parent parents ih => exact Nat.le_trans (ih _) (work_visit_le c start s parent)

theorem work_round_lt {c : Codebase} {start : String} {s s' : Search}
    (h : round c start s = some s') : work c s' < work c s := by
  unfold round at h
  split at h
  · exact absurd h (by simp)
  · next t rest hpending =>
    obtain rfl := Option.some.inj h
    refine Nat.lt_of_le_of_lt (work_foldl_visit_le c start t.parents _) ?_
    simp only [work, hpending, List.length_cons]
    omega

/-! ### The search -/

/-- Rounds until no type waits to be read; the names found in the end. -/
def search (c : Codebase) (start : String) (s : Search) : List String :=
  match _hround : round c start s with
  | none => s.found
  | some s' => search c start s'
termination_by work c s
decreasing_by exact work_round_lt _hround

theorem search_of_round_eq_none {c : Codebase} {start : String} {s : Search}
    (h : round c start s = none) : search c start s = s.found := by
  rw [search]
  split
  · rfl
  · next s' hsome => exact absurd (h.symm.trans hsome) (by simp)

theorem search_of_round_eq_some {c : Codebase} {start : String} {s s' : Search}
    (h : round c start s = some s') : search c start s = search c start s' := by
  rw [search]
  split
  · next hnone => exact absurd (hnone.symm.trans h) (by simp)
  · next s'' hsome => rw [Option.some.inj (h.symm.trans hsome)]

end Hierarchy

/-- The names reachable from a type through base types and interfaces, without its own. The type
need not belong to the codebase. -/
def Codebase.supertypesOf (c : Codebase) (t : TypeDecl) : List String :=
  Hierarchy.search c t.fullName ⟨[t], []⟩

end DesignRules
