import DesignRules.Model.Codebase
import DesignRules.Proofs.List.Earlier
import Mathlib.Data.List.Basic

/-!
# First occurrences

A codebase is made from a list in which names may occur more than once. The types that stay are the
first occurrences of their names, in the order of the list, and each of the others is reported by a
warning. This module says so of the whole list, and what the index of the codebase is worth.

## Where a name is

The index is filled while types are left out, so the position noted for a name is neither its
position in the list that came in nor the number of types read so far. It is the position among the
types that stay. What a name resolves to can still be told from the list that came in: it is the
first type there with that name (`Codebase.typeOf?_foldl_insert`). The step behind it is that a type
let in last resolves its own name, and only if nothing else does (`Codebase.typeOf?_insert`).

## Letting more types in

Types that come in later change nothing about those that are there. The list grows at its end, and a
name that resolves goes on resolving to the same type.

## Main definitions

* `Codebase.firsts`, `Codebase.repeats` — the types of a list whose names are new, and the others

## Main results

* `Codebase.typeOf?_insert`, `Codebase.types_prefix_insert` — one type
* `Codebase.typeOf?_foldl_insert`, `Codebase.types_prefix_foldl_insert` — a list of types
* `Codebase.types_ofTypes_eq_firsts`, `Codebase.build_eq` — which types stay, and the warnings
* `Codebase.build_keeps_firsts` — all about making a codebase from a list
-/

namespace DesignRules

namespace Codebase

/-! ### One type -/

theorem typeOf?_eq_none_iff {c : Codebase} {name : String} :
    c.typeOf? name = none ↔ name ∉ c.types.map TypeDecl.fullName := by
  rw [Option.eq_none_iff_forall_ne_some, List.mem_map, not_exists]
  exact forall_congr' fun t => not_congr typeOf?_eq_some_iff

theorem isSome_typeOf? (c : Codebase) (name : String) : (c.typeOf? name).isSome = c.has name := by
  rw [Bool.eq_iff_iff, has_iff, Option.isSome_iff_ne_none, ne_eq, typeOf?_eq_none_iff, not_not]

theorem types_prefix_insert (c : Codebase) (t : TypeDecl) : c.types <+: (c.insert t).types := by
  cases h : c.has t.fullName with
  | true => exact (insert_of_has h).symm ▸ List.prefix_rfl
  | false =>
    rw [types_insert_of_not_has h]
    exact List.prefix_append ..

/-- **One more type.** It resolves its own name, unless that name was taken, and no other. -/
theorem typeOf?_insert (c : Codebase) (t : TypeDecl) (name : String) :
    (c.insert t).typeOf? name =
      (c.typeOf? name).or (if t.fullName = name then some t else none) := by
  cases h : c.has t.fullName with
  | true =>
    rw [insert_of_has h]
    split
    · next hname =>
      rw [← hname, Option.or_of_isSome ((isSome_typeOf? c _).trans h)]
    · exact Option.or_none.symm
  | false =>
    have hnew : t.fullName ∉ c.types.map TypeDecl.fullName := by
      rw [← has_iff, h]
      exact Bool.false_ne_true
    refine Option.ext fun u => ?_
    rw [Option.or_eq_some_iff, typeOf?_eq_none_iff, typeOf?_eq_some_iff, typeOf?_eq_some_iff,
      types_insert_of_not_has h, List.mem_append, List.mem_singleton]
    constructor
    · rintro ⟨hmem | rfl, rfl⟩
      · exact Or.inl ⟨hmem, rfl⟩
      · exact Or.inr ⟨hnew, if_pos rfl⟩
    · rintro (⟨hmem, hname⟩ | ⟨-, hsome⟩)
      · exact ⟨Or.inl hmem, hname⟩
      · obtain ⟨hname, ht⟩ := Option.ite_none_right_eq_some.1 hsome
        exact ⟨Or.inr (Option.some.inj ht).symm, Option.some.inj ht ▸ hname⟩

/-! ### A list of types -/

theorem types_prefix_foldl_insert (c : Codebase) (types : List TypeDecl) :
    c.types <+: (types.foldl insert c).types := by
  induction types generalizing c with
  | nil => exact List.prefix_rfl
  | cons t rest ih => exact (types_prefix_insert c t).trans (ih (c.insert t))

/-- **A list of types.** What the codebase has already goes first, and then the first type of the
list with the name. -/
theorem typeOf?_foldl_insert (c : Codebase) (types : List TypeDecl) (name : String) :
    (types.foldl insert c).typeOf? name =
      (c.typeOf? name).or (types.find? fun t => t.fullName = name) := by
  induction types generalizing c with
  | nil => exact Option.or_none.symm
  | cons t rest ih =>
    rw [List.foldl_cons, ih, typeOf?_insert, Option.or_assoc, List.find?_cons]
    split <;> simp_all

theorem typeOf?_ofTypes (types : List TypeDecl) (name : String) :
    (ofTypes types).typeOf? name = types.find? fun t => t.fullName = name :=
  typeOf?_foldl_insert empty types name

theorem has_ofTypes_iff {types : List TypeDecl} {name : String} :
    (ofTypes types).has name = true ↔ name ∈ types.map TypeDecl.fullName := by
  rw [← isSome_typeOf?, typeOf?_ofTypes, List.find?_isSome, List.mem_map]
  simp only [decide_eq_true_eq]

/-! ### What stays and what is dropped -/

/-- Whether a type of a list has a name that occurs among those before it. -/
def isRepeat (place : List TypeDecl × TypeDecl) : Bool :=
  place.2.fullName ∈ place.1.map TypeDecl.fullName

/-- The types of a list whose names do not occur earlier in it. -/
def firsts (types : List TypeDecl) : List TypeDecl :=
  ((withEarlier types).filter fun place => !isRepeat place).map Prod.snd

/-- The types of a list whose names occur earlier in it. -/
def repeats (types : List TypeDecl) : List TypeDecl :=
  ((withEarlier types).filter isRepeat).map Prod.snd

theorem firsts_concat (types : List TypeDecl) (t : TypeDecl) :
    firsts (types ++ [t]) = firsts types ++ if isRepeat (types, t) then [] else [t] := by
  rw [firsts, withEarlier_concat, List.filter_append, List.map_append, List.filter_singleton]
  cases isRepeat (types, t) <;> rfl

theorem repeats_concat (types : List TypeDecl) (t : TypeDecl) :
    repeats (types ++ [t]) = repeats types ++ if isRepeat (types, t) then [t] else [] := by
  rw [repeats, withEarlier_concat, List.filter_append, List.map_append, List.filter_singleton]
  cases isRepeat (types, t) <;> rfl

theorem has_ofTypes (types : List TypeDecl) (t : TypeDecl) :
    (ofTypes types).has t.fullName = isRepeat (types, t) := by
  rw [Bool.eq_iff_iff, has_ofTypes_iff, isRepeat, decide_eq_true_eq]

/-- **The first occurrences stay.** -/
theorem types_ofTypes_eq_firsts (types : List TypeDecl) : (ofTypes types).types = firsts types := by
  induction types using List.reverseRecOn with
  | nil => rfl
  | append_singleton init last ih =>
    rw [ofTypes, List.foldl_concat, firsts_concat, ← ih, ← has_ofTypes]
    cases h : (ofTypes init).has last.fullName with
    | true => exact (congrArg types (insert_of_has h)).trans (List.append_nil _).symm
    | false => exact types_insert_of_not_has h

/-- Where no name occurs twice, no name has occurred before. -/
theorem isRepeat_of_nodup {types : List TypeDecl} (hnodup : (types.map TypeDecl.fullName).Nodup)
    {place : List TypeDecl × TypeDecl} (h : place ∈ withEarlier types) :
    isRepeat place = false := by
  obtain ⟨before, t⟩ := place
  obtain ⟨after, rfl⟩ := mem_withEarlier_iff.1 h
  rw [List.map_append, List.nodup_append] at hnodup
  exact decide_eq_false fun hmem => hnodup.2.2 _ hmem _ (List.mem_cons_self ..) rfl

theorem repeats_of_nodup {types : List TypeDecl} (hnodup : (types.map TypeDecl.fullName).Nodup) :
    repeats types = [] := by
  rw [repeats, List.map_eq_nil_iff, List.filter_eq_nil_iff]
  intro place hplace
  rw [isRepeat_of_nodup hnodup hplace]
  exact Bool.false_ne_true

/-- Of types with different names none is dropped. -/
theorem types_ofTypes {types : List TypeDecl} (hnodup : (types.map TypeDecl.fullName).Nodup) :
    (ofTypes types).types = types := by
  have hall : ∀ place ∈ withEarlier types, (!isRepeat place) = true := fun place hplace => by
    rw [isRepeat_of_nodup hnodup hplace, Bool.not_false]
  rw [types_ofTypes_eq_firsts, firsts, List.filter_eq_self.2 hall, map_snd_withEarlier]

/-- The types of a codebase make the same codebase again. -/
theorem ofTypes_types (c : Codebase) : ofTypes c.types = c :=
  eq_of_types_eq (types_ofTypes c.nodup_fullName)

/-! ### Making a codebase -/

theorem receive_eq (c : Codebase) (t : TypeDecl) :
    c.receive t =
      ⟨.ok (c.insert t), if c.has t.fullName then [.duplicateDropped t.fullName] else []⟩ := by
  rw [receive]
  cases c.has t.fullName <;> rfl

/-- **Each of the others gives a warning.** -/
theorem build_eq (types : List TypeDecl) :
    build types =
      ⟨.ok (ofTypes types), (repeats types).map fun t => .duplicateDropped t.fullName⟩ := by
  induction types using List.reverseRecOn with
  | nil => rfl
  | append_singleton init last ih =>
    have hinit : (build init).result = .ok (ofTypes init) := by rw [ih]
    have hlast : build (init ++ [last]) = build init >>= fun c => c.receive last := by
      rw [build, List.foldlM_append]
      simp only [List.foldlM_cons, List.foldlM_nil, bind_pure]
      rfl
    rw [hlast, Eval.bind_of_ok hinit, receive_eq, ih, repeats_concat, List.map_append, ofTypes,
      ofTypes, List.foldl_concat, ← ofTypes, has_ofTypes]
    cases isRepeat (init, last) <;> rfl

/-- **A codebase keeps the first occurrences.** Making it from a list always succeeds, with one
warning for each type whose name has occurred before, in the order of the list. The types that stay
are the others, in the same order. A name resolves to the first type of the list that has it, and to
nothing just if no type has it; the index notes for each name its position among the types that
stay. Made again from its types, the codebase is the same, without a warning. And if more types
follow in the list, those that stay come first, and their names resolve as before. -/
theorem build_keeps_firsts (types more : List TypeDecl) :
    let c := ofTypes types
    build types = ⟨.ok c, (repeats types).map fun t => .duplicateDropped t.fullName⟩ ∧
    c.types = firsts types ∧
    (∀ name, c.typeOf? name = types.find? fun t => t.fullName = name) ∧
    (∀ name, c.typeOf? name = none ↔ ∀ t ∈ types, t.fullName ≠ name) ∧
    (∀ name i, c.index.lookup name = some i ↔
      ∃ t, (firsts types)[i]? = some t ∧ t.fullName = name) ∧
    build c.types = pure c ∧
    c.types <+: (ofTypes (types ++ more)).types ∧
    ∀ name ∈ types.map TypeDecl.fullName,
      (ofTypes (types ++ more)).typeOf? name = c.typeOf? name := by
  intro c
  have hmore : ofTypes (types ++ more) = more.foldl insert c := List.foldl_append
  refine ⟨build_eq types, types_ofTypes_eq_firsts types, typeOf?_ofTypes types, fun name => ?_,
    fun name i => ?_, ?_, ?_, fun name hname => ?_⟩
  · rw [typeOf?_ofTypes, List.find?_eq_none]
    simp only [decide_eq_true_eq, ne_eq]
  · rw [← types_ofTypes_eq_firsts]
    exact lookup_index_eq_some_iff
  · rw [build_eq, ofTypes_types, repeats_of_nodup c.nodup_fullName]
    rfl
  · rw [hmore]
    exact types_prefix_foldl_insert c more
  · have hsome : (c.typeOf? name).isSome = true := by
      rw [isSome_typeOf?, has_ofTypes_iff]
      exact hname
    rw [hmore, typeOf?_foldl_insert, Option.or_of_isSome hsome]

/-- A page, the store, and a hidden type of the page's name. -/
def pageTwice : List TypeDecl :=
  let page := TypeDecl.ofName .classType "Shop.Page"
  [page, .ofName .classType "Shop.Store", page.withVisibility .priv]

theorem build_keeps_firsts_page :
    (build pageTwice).events = [.duplicateDropped "Shop.Page"] ∧
    (ofTypes pageTwice).types = pageTwice.take 2 ∧
    "Shop.Page" ∈ pageTwice.map TypeDecl.fullName ∧
    (ofTypes (pageTwice ++ pageTwice.reverse)).typeOf? "Shop.Page" = pageTwice[0]? := by
  obtain ⟨hbuild, htypes, hresolved, -, -, -, -, hlater⟩ :=
    build_keeps_firsts pageTwice pageTwice.reverse
  have hpage : "Shop.Page" ∈ pageTwice.map TypeDecl.fullName := by decide
  exact ⟨congrArg Eval.events hbuild, htypes, hpage,
    (hlater _ hpage).trans (hresolved "Shop.Page")⟩

end Codebase

end DesignRules
