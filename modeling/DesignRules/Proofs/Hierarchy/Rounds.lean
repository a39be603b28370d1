import DesignRules.Proofs.Hierarchy.Reachable
import Mathlib.Data.Finset.Card
import Mathlib.Data.List.Perm.Subperm

/-!
# The search for supertypes is bounded

A round of the search takes one type from the stack and may put any number of types onto it, and the
hierarchy may lead around in circles. So the height of the stack says nothing about how long the
search goes on. This module counts instead: the rounds, the types that are ever put onto the stack,
and the names that come out.

## Why no type comes back

A run of the search is recorded together with all types put onto the stack so far, whether they are
still there or not (`Hierarchy.Run`). What is recorded can be read off the names found: it is the
type asked about, and after it what these names resolve to, in the order in which they were found
(`Hierarchy.Run.pushed_eq`). No name is found twice and the start is never found, and a name
resolves to the one type that has it. So all types in the record differ in their names. A cycle
through the start does not bring the start back, even where the codebase has another type under its
name.

Every type taken from the stack was put there, so there are no more rounds than types in the record.
At the end the stack is empty and the two numbers are equal.

## Main definitions

* `Hierarchy.Run` — a number of rounds, the types put onto the stack in them, and the state after
  them
* `Codebase.parentNames` — the names that a type or the codebase declares as parents

## Main results

* `Hierarchy.Run.pushed_eq`, `Hierarchy.Run.length_pushed` — what the record holds
* `Hierarchy.Run.nodup_fullName_pushed` — no type is put onto the stack twice
* `Hierarchy.Run.rounds_le` — the number of rounds, however far the search has come
* `Hierarchy.exists_run_to_end` — the run that leads to the supertypes
* `Codebase.supertypesOf_bounded` — rounds, types put onto the stack, and names
-/

namespace DesignRules

/-- The types that names resolve to have these names, those left out that resolve to nothing. -/
theorem Codebase.map_fullName_filterMap_typeOf?_sublist (c : Codebase) (names : List String) :
    ((names.filterMap c.typeOf?).map TypeDecl.fullName).Sublist names := by
  induction names with
  | nil => exact .slnil
  | cons name rest ih =>
    cases hname : c.typeOf? name with
    | none =>
      rw [List.filterMap_cons_none hname]
      exact ih.cons name
    | some u =>
      rw [List.filterMap_cons_some hname, List.map_cons, fullName_of_typeOf? hname]
      exact ih.cons_cons name

/-- The names that are declared as parents, by the type or by a type of the codebase. -/
def Codebase.parentNames (c : Codebase) (t : TypeDecl) : Finset String :=
  ((t :: c.types).flatMap TypeDecl.parents).toFinset

namespace Hierarchy

/-- The search above a type, seen after some rounds: how many there were, which types have been put
onto the stack, the type itself first, and what the state is. The types that a round puts onto the
stack are those that stand there, in front of the rest, in place of the one that it took. -/
inductive Run (c : Codebase) (t : TypeDecl) : ℕ → List TypeDecl → Search → Prop
  | start : Run c t 0 [t] ⟨[t], []⟩
  | next {rounds : ℕ} {pushed new : List TypeDecl} {s s' : Search} {u : TypeDecl}
      {rest : List TypeDecl} (hrun : Run c t rounds pushed s) (htaken : s.pending = u :: rest)
      (hround : round c t.fullName s = some s') (hnew : s'.pending = new.reverse ++ rest) :
      Run c t (rounds + 1) (pushed ++ new) s'

variable {c : Codebase} {t u : TypeDecl} {s s' : Search} {rounds : ℕ}
  {pushed new rest : List TypeDecl}

/-- **One round** finds the names that are new among the parents it reads, and it puts the types of
these names onto the stack. -/
theorem found_of_round (htaken : s.pending = u :: rest)
    (hround : round c t.fullName s = some s') (hnew : s'.pending = new.reverse ++ rest) :
    s'.found = s.found ++ fresh t.fullName s.found u.parents ∧
      new = (fresh t.fullName s.found u.parents).filterMap c.typeOf? := by
  obtain ⟨v, rest', hpending, rfl⟩ := exists_of_round_eq_some hround
  obtain ⟨rfl, rfl⟩ := List.cons.inj (htaken.symm.trans hpending)
  have hreverse := List.append_cancel_right hnew
  exact ⟨rfl, (List.reverse_inj.1 hreverse).symm⟩

namespace Run

/-- **The record** is the type asked about, and then what the names found resolve to. -/
theorem pushed_eq (h : Run c t rounds pushed s) : pushed = t :: s.found.filterMap c.typeOf? := by
  induction h with
  | start => rfl
  | next _ htaken hround hnew ih =>
    obtain ⟨hfound, rfl⟩ := found_of_round htaken hround hnew
    rw [ih, hfound, List.filterMap_append, List.cons_append]

/-- Every round has taken one of the types put onto the stack, and the others are still there. -/
theorem length_pushed (h : Run c t rounds pushed s) :
    pushed.length = rounds + s.pending.length := by
  induction h with
  | start => rfl
  | next _ htaken _ hnew ih =>
    rw [htaken, List.length_cons] at ih
    rw [hnew, List.length_append, List.length_append, List.length_reverse, ih]
    omega

theorem nodup_found (h : Run c t rounds pushed s) : (t.fullName :: s.found).Nodup := by
  induction h with
  | start => exact List.nodup_singleton _
  | next _ htaken hround hnew ih =>
    obtain ⟨hfound, -⟩ := found_of_round htaken hround hnew
    obtain ⟨hstart, hnodup⟩ := List.nodup_cons.1 ih
    rw [hfound, List.nodup_cons, List.mem_append]
    refine ⟨?_, nodup_append_fresh hnodup _⟩
    rintro (hold | hfresh)
    · exact hstart hold
    · exact (mem_fresh.1 hfresh).2.1 rfl

/-- **No type is put onto the stack twice**, nor are two types of the same name. -/
theorem nodup_fullName_pushed (h : Run c t rounds pushed s) :
    (pushed.map TypeDecl.fullName).Nodup := by
  rw [h.pushed_eq, List.map_cons]
  exact h.nodup_found.sublist
    ((c.map_fullName_filterMap_typeOf?_sublist s.found).cons_cons t.fullName)

/-- **There are at most as many rounds** as types in the codebase, and one more: after the type
asked about, every type in the record is one of the codebase, and none is there twice. -/
theorem rounds_le (h : Run c t rounds pushed s) : rounds ≤ 1 + c.types.length := by
  have hnodup : (s.found.filterMap c.typeOf?).Nodup := by
    have hpushed := List.Nodup.of_map _ h.nodup_fullName_pushed
    rw [h.pushed_eq] at hpushed
    exact (List.nodup_cons.1 hpushed).2
  have hmem : s.found.filterMap c.typeOf? ⊆ c.types := by
    intro u hu
    obtain ⟨name, -, hname⟩ := List.mem_filterMap.1 hu
    exact Codebase.mem_of_typeOf? hname
  calc rounds ≤ pushed.length := by rw [h.length_pushed]; exact Nat.le_add_right ..
    _ = 1 + (s.found.filterMap c.typeOf?).length := by
      rw [h.pushed_eq, List.length_cons, Nat.add_comm]
    _ ≤ 1 + c.types.length := Nat.add_le_add_left (hnodup.subperm hmem).length_le 1

/-- The record goes on for as long as there are rounds. -/
theorem exists_next (h : Run c t rounds pushed s) (hround : round c t.fullName s = some s') :
    ∃ new, Run c t (rounds + 1) (pushed ++ new) s' := by
  obtain ⟨u, rest, htaken, hs'⟩ := exists_of_round_eq_some hround
  exact ⟨_, h.next htaken hround (congrArg Search.pending hs')⟩

end Run

/-- **The run that leads to the supertypes.** It comes to an empty stack. -/
theorem exists_run_to_end (c : Codebase) (t : TypeDecl) :
    ∃ rounds pushed s, Run c t rounds pushed s ∧ s.pending = [] ∧ c.supertypesOf t = s.found := by
  have hnext : ∀ {s s' : Search}, (∃ rounds pushed, Run c t rounds pushed s) →
      round c t.fullName s = some s' → ∃ rounds pushed, Run c t rounds pushed s' := by
    rintro s s' ⟨rounds, pushed, hrun⟩ hround
    obtain ⟨new, hrun'⟩ := hrun.exists_next hround
    exact ⟨rounds + 1, pushed ++ new, hrun'⟩
  obtain ⟨s, ⟨rounds, pushed, hrun⟩, hdone, hfound⟩ :=
    exists_search_eq c t.fullName hnext ⟨0, [t], .start⟩
  exact ⟨rounds, pushed, s, hrun, hdone, hfound⟩

theorem Reaches.mem_parentNames {name : String} (h : Reaches c t name) :
    name ∈ c.parentNames t := by
  rw [Codebase.parentNames, List.mem_toFinset, List.mem_flatMap]
  cases h with
  | parent hparent _ =>
    exact ⟨t, List.mem_cons_self .., TypeDecl.mem_parents_iff.2 hparent⟩
  | step _ hdeclares _ =>
    obtain ⟨u, hu, hparent⟩ := hdeclares
    exact ⟨u, List.mem_cons_of_mem t (Codebase.mem_of_typeOf? hu),
      TypeDecl.mem_parents_iff.2 hparent⟩

theorem length_supertypesOf_le (c : Codebase) (t : TypeDecl) :
    (c.supertypesOf t).length ≤ (c.parentNames t).card := by
  obtain ⟨s, hs, -, hfound⟩ := exists_explored_supertypesOf c t
  rw [hfound, ← List.toFinset_card_of_nodup hs.nodup]
  refine Finset.card_le_card fun name hname => ?_
  exact (hs.reaches name (List.mem_toFinset.1 hname)).mem_parentNames

end Hierarchy

/-- **The search for supertypes is bounded**, on every hierarchy, and ends. Its last round leaves an
empty stack behind and has found the supertypes; there has been one round for the type itself and
one for each supertype that the codebase has a type for. However far the search has come, there
have been at most as many rounds as the codebase has types, and one more; and the types that have
been put onto the stack, the type itself among them, all have different full names, so that none was
put there twice. The supertypes are no more than the names that are declared as parents, by the type
or by a type of the codebase, each counted once. -/
theorem Codebase.supertypesOf_bounded (c : Codebase) (t : TypeDecl) :
    (∃ rounds pushed s, Hierarchy.Run c t rounds pushed s ∧
      Hierarchy.round c t.fullName s = none ∧ c.supertypesOf t = s.found ∧
      rounds = 1 + ((c.supertypesOf t).filterMap c.typeOf?).length) ∧
    (∀ rounds pushed s, Hierarchy.Run c t rounds pushed s →
      rounds ≤ 1 + c.types.length ∧ (pushed.map TypeDecl.fullName).Nodup) ∧
    (c.supertypesOf t).length ≤ (c.parentNames t).card := by
  refine ⟨?_, fun rounds pushed s hrun => ⟨hrun.rounds_le, hrun.nodup_fullName_pushed⟩,
    Hierarchy.length_supertypesOf_le c t⟩
  obtain ⟨rounds, pushed, s, hrun, hdone, hfound⟩ := Hierarchy.exists_run_to_end c t
  refine ⟨rounds, pushed, s, hrun, ?_, hfound, ?_⟩
  · rw [Hierarchy.round, hdone]
  · -- with an empty stack, as many types were taken as were put there
    have hlength := hrun.length_pushed
    rw [hrun.pushed_eq, hdone, List.length_cons, List.length_nil] at hlength
    rw [hfound]
    omega

/-- A page that extends a part and names itself as an interface, and the part twice; and the part,
which extends the page and has a view that the codebase does not know. -/
def tangle : Codebase :=
  .ofTypes [(((TypeDecl.ofName .classType "Shop.Page").extending "Shop.Part").implementing
      "Shop.Page").implementing "Shop.Part",
    ((TypeDecl.ofName .classType "Shop.Part").extending "Shop.Page").implementing "Shop.View"]

theorem Codebase.supertypesOf_bounded_tangle :
    let page := (((TypeDecl.ofName .classType "Shop.Page").extending "Shop.Part").implementing
      "Shop.Page").implementing "Shop.Part"
    let part :=
      ((TypeDecl.ofName .classType "Shop.Part").extending "Shop.Page").implementing "Shop.View"
    Hierarchy.Run tangle page 2 [page, part] ⟨[], ["Shop.Part", "Shop.View"]⟩ ∧
    2 ≤ 1 + tangle.types.length ∧ ([page, part].map TypeDecl.fullName).Nodup ∧
    (tangle.supertypesOf page).length ≤ (tangle.parentNames page).card ∧
    tangle.parentNames page = {"Shop.Page", "Shop.Part", "Shop.View"} := by
  intro page part
  have hfirst : Hierarchy.Run tangle page 1 [page, part] ⟨[part], ["Shop.Part"]⟩ :=
    .next .start rfl rfl rfl
  have hrun : Hierarchy.Run tangle page 2 [page, part] ⟨[], ["Shop.Part", "Shop.View"]⟩ :=
    .next hfirst rfl rfl rfl
  obtain ⟨-, hevery, hnames⟩ := supertypesOf_bounded tangle page
  obtain ⟨hrounds, hnodup⟩ := hevery _ _ _ hrun
  exact ⟨hrun, hrounds, hnodup, hnames, by decide⟩

end DesignRules
