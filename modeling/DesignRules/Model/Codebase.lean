import DesignRules.Eval
import DesignRules.Model.Basic

/-!
# Codebases

A codebase is a list of types with pairwise different full names, and an index that says where in
the list each name is. It is made from any list of types by letting them in one by one. Of types
that share a full name the first one stays, and there is a warning for each of the others.

## Implementation notes

The index grows along with the list, and the position noted for a name is that in the list of the
types that stay. That the two keep in step is part of the type, and so is that names differ; whoever
holds a codebase may use both. Looking a name up in the index is therefore the same as finding the
one type that has it.

## Main definitions

* `Codebase`, `Codebase.insert` — the types with their index, and letting one more type in
* `Codebase.ofTypes`, `Codebase.build` — all types of a list, without and with warnings
* `Codebase.typeOf?`, `Codebase.members` — looking up and listing

## Main results

* `Codebase.lookup_index_eq_some_iff` — the index leads to the type of a name
* `Codebase.typeOf?_eq_some_iff` — a name resolves to the type that has it
-/

namespace DesignRules

/-- The types of a program, with pairwise different full names, and where each of them is. -/
structure Codebase where
  /-- The types in the order in which they were found. -/
  types : List TypeDecl
  /-- The position of each full name. -/
  index : List (String × Nat)
  /-- No full name occurs twice. -/
  nodup_fullName : (types.map TypeDecl.fullName).Nodup
  /-- The index names all types at their positions. -/
  index_eq : index = (types.map TypeDecl.fullName).zipIdx

namespace Codebase

/-- A codebase is determined by its types. -/
theorem eq_of_types_eq {c c' : Codebase} (h : c.types = c'.types) : c = c' := by
  obtain ⟨types, index, _, hindex⟩ := c
  obtain ⟨types', index', _, hindex'⟩ := c'
  obtain rfl : types = types' := h
  obtain rfl : index = index' := hindex.trans hindex'.symm
  rfl

/-! ### Looking up -/

/-- Whether there is a type of that full name. -/
def has (c : Codebase) (fullName : String) : Bool := (c.index.lookup fullName).isSome

/-- The type of that full name, if there is one. -/
def typeOf? (c : Codebase) (fullName : String) : Option TypeDecl :=
  (c.index.lookup fullName).bind fun i => c.types[i]?

/-- The members of all types, type by type. -/
def members (c : Codebase) : List Member := c.types.flatMap TypeDecl.members

theorem has_iff {c : Codebase} {name : String} :
    c.has name = true ↔ name ∈ c.types.map TypeDecl.fullName := by
  rw [has, c.index_eq, List.lookup_isSome_iff]
  constructor
  · rintro ⟨⟨key, i⟩, hmem, hkey⟩
    obtain rfl : name = key := beq_iff_eq.1 hkey
    exact List.mem_of_getElem? (List.mem_zipIdx_iff_getElem?.1 hmem)
  · intro hmem
    obtain ⟨i, hi⟩ := List.mem_iff_getElem?.1 hmem
    exact ⟨(name, i), List.mem_zipIdx_iff_getElem?.2 hi, beq_self_eq_true name⟩

/-- **The index leads to the type of a name.** A position noted for a name is one that the list has,
and the type there is the one with the name. -/
theorem lookup_index_eq_some_iff {c : Codebase} {name : String} {i : Nat} :
    c.index.lookup name = some i ↔ ∃ t, c.types[i]? = some t ∧ t.fullName = name := by
  have hnoted : ∀ {j}, c.index.lookup name = some j →
      (c.types.map TypeDecl.fullName)[j]? = some name := by
    intro j hj
    obtain ⟨before, after, hsplit, -⟩ := List.lookup_eq_some_iff.1 hj
    have hmem : (name, j) ∈ (c.types.map TypeDecl.fullName).zipIdx := by
      rw [← c.index_eq, hsplit]
      exact List.mem_append_right _ (List.mem_cons_self ..)
    exact List.mem_zipIdx_iff_getElem?.1 hmem
  rw [← Option.map_eq_some_iff, ← List.getElem?_map]
  refine ⟨hnoted, fun hi => ?_⟩
  -- some position is noted for the name, and no other position has the name
  obtain ⟨j, hj⟩ := Option.isSome_iff_exists.1 (has_iff.2 (List.mem_of_getElem? hi))
  have hlt : j < (c.types.map TypeDecl.fullName).length :=
    (List.getElem?_eq_some_iff.1 (hnoted hj)).1
  rw [hj, (List.getElem?_inj hlt c.nodup_fullName).1 ((hnoted hj).trans hi.symm)]

theorem typeOf?_eq_some_iff {c : Codebase} {name : String} {t : TypeDecl} :
    c.typeOf? name = some t ↔ t ∈ c.types ∧ t.fullName = name := by
  rw [typeOf?, Option.bind_eq_some_iff]
  constructor
  · rintro ⟨i, hi, ht⟩
    obtain ⟨s, hs, hname⟩ := lookup_index_eq_some_iff.1 hi
    obtain rfl : s = t := Option.some.inj (hs.symm.trans ht)
    exact ⟨List.mem_of_getElem? hs, hname⟩
  · rintro ⟨hmem, hname⟩
    obtain ⟨i, hi⟩ := List.mem_iff_getElem?.1 hmem
    exact ⟨i, lookup_index_eq_some_iff.2 ⟨t, hi, hname⟩, hi⟩

theorem mem_of_typeOf? {c : Codebase} {name : String} {t : TypeDecl}
    (h : c.typeOf? name = some t) : t ∈ c.types :=
  (typeOf?_eq_some_iff.1 h).1

theorem fullName_of_typeOf? {c : Codebase} {name : String} {t : TypeDecl}
    (h : c.typeOf? name = some t) : t.fullName = name :=
  (typeOf?_eq_some_iff.1 h).2

/-! ### Letting types in -/

/-- The codebase without any type. -/
def empty : Codebase := ⟨[], [], List.nodup_nil, rfl⟩

/-- The codebase with one more type at the end, unless its full name is taken. -/
def insert (c : Codebase) (t : TypeDecl) : Codebase :=
  if h : c.has t.fullName then c
  else
    { types := c.types ++ [t]
      index := c.index ++ [(t.fullName, c.types.length)]
      nodup_fullName := by
        rw [List.map_append, List.nodup_append]
        refine ⟨c.nodup_fullName, List.pairwise_singleton _ _, ?_⟩
        rintro name hname _ hmem rfl
        obtain rfl := List.mem_singleton.1 hmem
        exact h (has_iff.2 hname)
      index_eq := by
        rw [c.index_eq, List.map_append, List.zipIdx_append, List.length_map, Nat.zero_add]
        rfl }

theorem insert_of_has {c : Codebase} {t : TypeDecl} (h : c.has t.fullName = true) :
    c.insert t = c :=
  dif_pos h

theorem types_insert_of_not_has {c : Codebase} {t : TypeDecl} (h : c.has t.fullName = false) :
    (c.insert t).types = c.types ++ [t] := by
  rw [insert, dif_neg (by simp [h])]

/-- The codebase after one more type has come in, with a warning if it is dropped. -/
def receive (c : Codebase) (t : TypeDecl) : Eval Codebase := do
  if c.has t.fullName then
    Eval.emit (.duplicateDropped t.fullName)
  pure (c.insert t)

/-- The codebase of a list of types: of the types with the same full name, the first. -/
def ofTypes (types : List TypeDecl) : Codebase := types.foldl insert empty

/-- The codebase of a list of types, with a warning for each type that is dropped. -/
def build (types : List TypeDecl) : Eval Codebase := types.foldlM receive empty

end Codebase

end DesignRules
