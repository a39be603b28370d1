import DesignRules.Model.Supertypes
import Mathlib.Data.List.Chain

/-!
# Supertypes are what can be reached

The search for supertypes keeps a stack and a list of names, and reads one type a round. What it
finds can be said without either: a name is found just if there is a chain of names up to it, each
declared as a parent by the type of the one before, that begins at a parent of the type asked about
and never comes back to that type.

## Why the start is treated apart

The type asked about need not be the one that the codebase has under its name; it need not be there
at all. So the first link of a chain is read from the type itself and all others from the codebase.
A hierarchy may well lead back to the start's own name. Chains stop there, and nothing is lost by
it for a type of the codebase: what lies behind can be reached from the start directly.

## The invariant

After the first round the names found begin with the parents of the start, and from then on every
round appends the unread parents of one type that some found name resolves to. `Hierarchy.Explored`
says what this keeps up. When the stack is empty, every found name has been read, so the list is
closed under declared parents, and a closed list holds every chain.

## Main definitions

* `TypeDecl.HasParent` — what it means to be a parent
* `Codebase.Declares`, `TypeDecl.Ascent` — one link of a hierarchy, and a chain above a type
* `TypeDecl.ownParents` — the parents of a type, each at its first place, without itself
* `Hierarchy.fresh` — what a round adds to the names found
* `Hierarchy.Explored` — the invariant of the search

## Main results

* `Hierarchy.foldl_visit`, `Hierarchy.exists_of_round_eq_some` — what one round does
* `Hierarchy.exists_search_eq` — what every round preserves holds when the search ends
* `Hierarchy.Explored.round` — the invariant is kept
* `Hierarchy.mem_supertypesOf_iff_reaches` — what is found is what can be reached
* `Codebase.supertypesOf_reaches` — the supertypes, and their order
-/

namespace DesignRules

/-! ### Chains of parents -/

/-- The type declares the name as a parent: it is its base type, or one of its interfaces. -/
def TypeDecl.HasParent (t : TypeDecl) (parent : String) : Prop :=
  t.baseType = some parent ∨ parent ∈ t.interfaces

instance (t : TypeDecl) (parent : String) : Decidable (t.HasParent parent) :=
  inferInstanceAs (Decidable (t.baseType = some parent ∨ parent ∈ t.interfaces))

/-- The codebase has a type of the name, and that type declares the parent. -/
def Codebase.Declares (c : Codebase) (name parent : String) : Prop :=
  ∃ t, c.typeOf? name = some t ∧ t.HasParent parent

/-- The names form a chain above a type: it declares the first as a parent, the type of each in the
codebase declares the next, and none of them is its own name. -/
structure TypeDecl.Ascent (t : TypeDecl) (c : Codebase) (first : String) (above : List String) :
    Prop where
  /-- The chain begins at a parent. -/
  hasParent : t.HasParent first
  /-- It goes on from parent to parent. -/
  chain : List.IsChain c.Declares (first :: above)
  /-- It does not come back. -/
  avoids : t.fullName ∉ first :: above

/-- The parents that a type declares, the base type before the interfaces, each at its first place
and without the type itself. -/
def TypeDecl.ownParents (t : TypeDecl) : List String :=
  ((t.baseType.toList ++ t.interfaces).filter fun parent => parent ≠ t.fullName).eraseDups

theorem TypeDecl.mem_parents_iff {t : TypeDecl} {parent : String} :
    parent ∈ t.parents ↔ t.HasParent parent := by
  rw [parents, List.mem_append, Option.mem_toList, HasParent]

namespace Hierarchy

variable {c : Codebase} {t : TypeDecl} {start : String}

/-- The name can be reached from the type. The relation is that of chains, built up at their upper
end, which is where the search extends them. -/
inductive Reaches (c : Codebase) (t : TypeDecl) : String → Prop
  | parent {name : String} (hparent : t.HasParent name) (hne : name ≠ t.fullName) : Reaches c t name
  | step {below name : String} (hbelow : Reaches c t below) (hdeclares : c.Declares below name)
      (hne : name ≠ t.fullName) : Reaches c t name

theorem reaches_iff_exists_ascent {name : String} :
    Reaches c t name ↔
      ∃ first above, t.Ascent c first above ∧ (first :: above).getLast? = some name := by
  constructor
  · intro h
    induction h with
    | @parent name hparent hne =>
      refine ⟨name, [], ⟨hparent, .singleton name, ?_⟩, rfl⟩
      exact fun hmem => hne (List.mem_singleton.1 hmem).symm
    | @step below name _ hdeclares hne ih =>
      obtain ⟨first, above, hascent, hlast⟩ := ih
      refine ⟨first, above ++ [name], ⟨hascent.hasParent, ?_, ?_⟩, ?_⟩
      · rw [← List.cons_append, List.isChain_append]
        refine ⟨hascent.chain, .singleton name, fun x hx y hy => ?_⟩
        rw [hlast, Option.mem_some_iff] at hx
        obtain rfl : name = y := by simpa using hy
        exact hx ▸ hdeclares
      · rw [← List.cons_append, List.mem_append, List.mem_singleton]
        rintro (hmem | heq)
        · exact hascent.avoids hmem
        · exact hne heq.symm
      · rw [← List.cons_append, List.getLast?_concat]
  · rintro ⟨first, above, hascent, hlast⟩
    -- the chain is taken off at its upper end
    induction above using List.reverseRecOn generalizing name with
    | nil =>
      obtain rfl : first = name := by simpa using hlast
      exact .parent hascent.hasParent fun heq => hascent.avoids (heq ▸ List.mem_cons_self ..)
    | append_singleton above top ih =>
      rw [← List.cons_append, List.getLast?_concat, Option.some.injEq] at hlast
      subst hlast
      obtain ⟨hfirst, hchain, havoids⟩ := hascent
      rw [← List.cons_append] at hchain havoids
      rw [List.isChain_append] at hchain
      obtain ⟨hbelow, -, hlink⟩ := hchain
      obtain ⟨below, hlast⟩ : ∃ below, (first :: above).getLast? = some below :=
        ⟨_, List.getLast?_eq_some_getLast (List.cons_ne_nil first above)⟩
      refine .step (ih ⟨hfirst, hbelow, fun hmem => ?_⟩ hlast) (hlink below hlast top rfl) ?_
      · exact havoids (List.mem_append_left _ hmem)
      · exact fun heq => havoids (heq ▸ List.mem_append_right _ (List.mem_singleton_self _))

/-! ### One round -/

theorem nodup_eraseDups (names : List String) : names.eraseDups.Nodup := by
  cases names with
  | nil => exact List.nodup_nil
  | cons name rest =>
    rw [List.eraseDups_cons, List.nodup_cons, List.mem_eraseDups]
    exact ⟨fun hmem => by simp at hmem, nodup_eraseDups _⟩
termination_by names.length
decreasing_by exact Nat.lt_succ_of_le (List.length_filter_le ..)

/-- The parents that are new: neither the start nor found already, each at its first place. -/
def fresh (start : String) (found parents : List String) : List String :=
  (parents.filter fun parent => parent ≠ start ∧ parent ∉ found).eraseDups

theorem mem_fresh {found parents : List String} {name : String} :
    name ∈ fresh start found parents ↔ name ∈ parents ∧ name ≠ start ∧ name ∉ found := by
  rw [fresh, List.mem_eraseDups, List.mem_filter, decide_eq_true_iff]

theorem nodup_append_fresh {found : List String} (h : found.Nodup) (parents : List String) :
    (found ++ fresh start found parents).Nodup := by
  refine List.nodup_append.2 ⟨h, nodup_eraseDups _, fun name hfound other hfresh heq => ?_⟩
  exact (mem_fresh.1 hfresh).2.2 (heq ▸ hfound)

theorem fresh_cons_of_old {found : List String} {parent : String}
    (h : parent = start ∨ parent ∈ found) (rest : List String) :
    fresh start found (parent :: rest) = fresh start found rest := by
  have hold : ¬ (parent ≠ start ∧ parent ∉ found) := by tauto
  rw [fresh, List.filter_cons_of_neg (by simpa using hold), fresh]

theorem fresh_cons_of_new {found : List String} {parent : String}
    (h : ¬ (parent = start ∨ parent ∈ found)) (rest : List String) :
    fresh start found (parent :: rest) = parent :: fresh start (found ++ [parent]) rest := by
  have hnew : parent ≠ start ∧ parent ∉ found := by tauto
  rw [fresh, List.filter_cons_of_pos (by simpa using hnew), List.eraseDups_cons,
    List.filter_filter, fresh]
  congr 3
  funext name
  by_cases hname : name = parent <;> simp [hname]

/-- **Reading the parents of a type** appends the new ones to the names found, and puts their types
on top of the stack, the last one first. -/
theorem foldl_visit (parents : List String) (s : Search) :
    parents.foldl (visit c start) s =
      ⟨((fresh start s.found parents).filterMap c.typeOf?).reverse ++ s.pending,
        s.found ++ fresh start s.found parents⟩ := by
  induction parents generalizing s with
  | nil =>
    show s = ⟨[] ++ s.pending, s.found ++ []⟩
    rw [List.append_nil, List.nil_append]
  | cons parent rest ih =>
    rw [List.foldl_cons, ih, visit]
    split
    · next hold => rw [fresh_cons_of_old hold]
    · next hnew =>
      rw [fresh_cons_of_new hnew, List.filterMap_cons, List.append_assoc, List.singleton_append]
      cases c.typeOf? parent with
      | none => rfl
      | some u => simp

theorem exists_of_round_eq_some {s s' : Search} (h : round c start s = some s') :
    ∃ u rest, s.pending = u :: rest ∧
      s' = ⟨((fresh start s.found u.parents).filterMap c.typeOf?).reverse ++ rest,
        s.found ++ fresh start s.found u.parents⟩ := by
  unfold round at h
  split at h
  · exact absurd h (by simp)
  · next u rest hpending =>
    refine ⟨u, rest, hpending, ?_⟩
    rw [← Option.some.inj h, foldl_visit]

theorem pending_eq_nil_of_round_eq_none {s : Search} (h : round c start s = none) :
    s.pending = [] := by
  unfold round at h
  split at h
  · next hpending => exact hpending
  · exact absurd h (by simp)

/-- **What every round preserves holds at the end**, and then no type waits to be read. -/
theorem exists_search_eq (c : Codebase) (start : String) {P : Search → Prop}
    (hround : ∀ {s s' : Search}, P s → round c start s = some s' → P s') {s : Search} (h : P s) :
    ∃ s', P s' ∧ s'.pending = [] ∧ search c start s = s'.found := by
  induction s using search.induct c start with
  | case1 s hnone =>
    exact ⟨s, h, pending_eq_nil_of_round_eq_none hnone, search_of_round_eq_none hnone⟩
  | case2 s s' hsome ih =>
    obtain ⟨last, hlast, hpending, hsearch⟩ := ih (hround h hsome)
    exact ⟨last, hlast, hpending, (search_of_round_eq_some hsome).trans hsearch⟩

/-! ### The invariant -/

/-- What holds of a search once the parents of the start have been read. -/
structure Explored (c : Codebase) (t : TypeDecl) (s : Search) : Prop where
  /-- The parents of the start come first. -/
  own : t.ownParents <+: s.found
  /-- Every name after them was declared by one before it. -/
  declared : ∀ before name after, s.found = before ++ name :: after →
    t.ownParents.length ≤ before.length → ∃ below ∈ before, c.Declares below name
  /-- No name is found twice. -/
  nodup : s.found.Nodup
  /-- Every name found can be reached. -/
  reaches : ∀ name ∈ s.found, Reaches c t name
  /-- A type that waits belongs to a name found. -/
  waiting : ∀ u ∈ s.pending, ∃ name ∈ s.found, c.typeOf? name = some u
  /-- The type of a name found waits, or all its parents are found. -/
  read : ∀ name ∈ s.found, ∀ u, c.typeOf? name = some u →
    u ∈ s.pending ∨ ∀ parent, u.HasParent parent → parent = t.fullName ∨ parent ∈ s.found

/-- What is found without ever coming back to the start is not the start. -/
theorem Reaches.ne {name : String} (h : Reaches c t name) : name ≠ t.fullName := by
  cases h with
  | parent _ hne => exact hne
  | step _ _ hne => exact hne

/-- Appended names that one earlier name declares keep the list in order. -/
theorem declared_append {found added : List String} {n : ℕ}
    (h : ∀ before name after, found = before ++ name :: after → n ≤ before.length →
      ∃ below ∈ before, c.Declares below name)
    {below : String} (hbelow : below ∈ found) (hadded : ∀ name ∈ added, c.Declares below name)
    {before : List String} {name : String} {after : List String}
    (heq : found ++ added = before ++ name :: after) (hn : n ≤ before.length) :
    ∃ m ∈ before, c.Declares m name := by
  obtain ⟨middle, rfl, rfl⟩ | ⟨middle, rfl, hmiddle⟩ := List.append_eq_append_iff.1 heq
  · exact ⟨below, List.mem_append_left _ hbelow, hadded name (by simp)⟩
  · cases middle with
    | nil =>
      refine ⟨below, by simpa using hbelow, hadded name ?_⟩
      rw [List.nil_append] at hmiddle
      exact hmiddle ▸ List.mem_cons_self ..
    | cons first middle =>
      obtain ⟨rfl, -⟩ := List.cons.inj hmiddle
      exact h before name middle rfl hn

theorem Explored.round {s s' : Search} (h : Explored c t s)
    (hround : round c t.fullName s = some s') : Explored c t s' := by
  obtain ⟨u, rest, hpending, rfl⟩ := exists_of_round_eq_some hround
  obtain ⟨below, hbelow, hu⟩ := h.waiting u (hpending ▸ List.mem_cons_self ..)
  have hdeclares : ∀ name ∈ fresh t.fullName s.found u.parents, c.Declares below name :=
    fun name hname => ⟨u, hu, TypeDecl.mem_parents_iff.1 (mem_fresh.1 hname).1⟩
  refine ⟨h.own.trans (List.prefix_append ..), fun before name after => ?_,
    nodup_append_fresh h.nodup _, fun name hname => ?_, fun v hv => ?_, fun name hname v hv => ?_⟩
  · exact declared_append h.declared hbelow hdeclares
  · rcases List.mem_append.1 hname with hold | hnew
    · exact h.reaches name hold
    · exact .step (h.reaches below hbelow) (hdeclares name hnew) (mem_fresh.1 hnew).2.1
  · rcases List.mem_append.1 hv with hnew | hold
    · obtain ⟨name, hname, hresolved⟩ := List.mem_filterMap.1 (List.mem_reverse.1 hnew)
      exact ⟨name, List.mem_append_right _ hname, hresolved⟩
    · obtain ⟨name, hname, hresolved⟩ := h.waiting v (hpending ▸ List.mem_cons_of_mem _ hold)
      exact ⟨name, List.mem_append_left _ hname, hresolved⟩
  · rcases List.mem_append.1 hname with hold | hnew
    · rcases h.read name hold v hv with hwaits | hread
      · rw [hpending] at hwaits
        rcases List.mem_cons.1 hwaits with rfl | hrest
        · -- the type read in this round: what was not found before is found now
          refine Or.inr fun parent hparent => ?_
          by_cases heq : parent = t.fullName
          · exact Or.inl heq
          · refine Or.inr (List.mem_append.2 ?_)
            by_cases hfound : parent ∈ s.found
            · exact Or.inl hfound
            · exact Or.inr (mem_fresh.2 ⟨TypeDecl.mem_parents_iff.2 hparent, heq, hfound⟩)
        · exact Or.inl (List.mem_append_right _ hrest)
      · exact Or.inr fun parent hparent =>
          (hread parent hparent).imp_right (List.mem_append_left _)
    · have hwaits := List.mem_filterMap.2 ⟨name, hnew, hv⟩
      exact Or.inl (List.mem_append_left _ (List.mem_reverse.2 hwaits))

/-- The state after the first round. -/
def opening (c : Codebase) (t : TypeDecl) : Search :=
  ⟨(t.ownParents.filterMap c.typeOf?).reverse, t.ownParents⟩

theorem fresh_nil_eq_ownParents (t : TypeDecl) :
    fresh t.fullName [] t.parents = t.ownParents := by
  simp [fresh, TypeDecl.ownParents, TypeDecl.parents]

theorem mem_ownParents {name : String} :
    name ∈ t.ownParents ↔ t.HasParent name ∧ name ≠ t.fullName := by
  rw [← fresh_nil_eq_ownParents, mem_fresh, TypeDecl.mem_parents_iff]
  simp

theorem supertypesOf_eq_search_opening (c : Codebase) (t : TypeDecl) :
    c.supertypesOf t = search c t.fullName (opening c t) := by
  have hround : round c t.fullName ⟨[t], []⟩ = some (opening c t) := by
    show some (t.parents.foldl (visit c t.fullName) ⟨[], []⟩) = _
    rw [foldl_visit, fresh_nil_eq_ownParents, List.append_nil, List.nil_append]
    rfl
  rw [Codebase.supertypesOf, search]
  split
  · next hnone => rw [hround] at hnone; exact absurd hnone (by simp)
  · next s hsome =>
    obtain rfl : opening c t = s := Option.some.inj (hround.symm.trans hsome)
    rfl

theorem explored_opening (c : Codebase) (t : TypeDecl) : Explored c t (opening c t) where
  own := List.prefix_rfl
  declared before name after heq hle := by
    have hlength := congrArg List.length heq
    simp only [opening, List.length_append, List.length_cons] at hlength
    omega
  nodup := nodup_eraseDups _
  reaches name hname := .parent (mem_ownParents.1 hname).1 (mem_ownParents.1 hname).2
  waiting u hu := List.mem_filterMap.1 (List.mem_reverse.1 hu)
  read name hname u hu :=
    Or.inl (List.mem_reverse.2 (List.mem_filterMap.2 ⟨name, hname, hu⟩))

/-- Where no type waits, whatever can be reached is found. -/
theorem Explored.mem_of_reaches {s : Search} (h : Explored c t s) (hdone : s.pending = [])
    {name : String} (hname : Reaches c t name) : name ∈ s.found := by
  induction hname with
  | parent hparent hne => exact h.own.subset (mem_ownParents.2 ⟨hparent, hne⟩)
  | @step below name _ hdeclares hne ih =>
    obtain ⟨u, hu, hparent⟩ := hdeclares
    rcases h.read below ih u hu with hwaits | hread
    · rw [hdone] at hwaits
      exact absurd hwaits List.not_mem_nil
    · exact (hread name hparent).resolve_left hne

/-- The supertypes are what a search has found that satisfies the invariant, with an empty stack. -/
theorem exists_explored_supertypesOf (c : Codebase) (t : TypeDecl) :
    ∃ s, Explored c t s ∧ s.pending = [] ∧ c.supertypesOf t = s.found := by
  rw [supertypesOf_eq_search_opening]
  exact exists_search_eq c t.fullName (fun hs hround => hs.round hround) (explored_opening c t)

theorem mem_supertypesOf_iff_reaches {name : String} :
    name ∈ c.supertypesOf t ↔ Reaches c t name := by
  obtain ⟨s, hs, hdone, hfound⟩ := exists_explored_supertypesOf c t
  rw [hfound]
  exact ⟨hs.reaches name, hs.mem_of_reaches hdone⟩

end Hierarchy

/-- **The supertypes of a type are the names above it.** They are the upper ends of the chains that
begin at a parent of the type, go on from each name to a parent that its type in the codebase
declares, and never come back to the type's own name. No name is listed twice, and the type's own
is not listed. First come its parents, each at its first place; every name after them is declared as
a parent by the type of a name listed before it. -/
theorem Codebase.supertypesOf_reaches (c : Codebase) (t : TypeDecl) :
    (∀ name, name ∈ c.supertypesOf t ↔
      ∃ first above, t.Ascent c first above ∧ (first :: above).getLast? = some name) ∧
    (c.supertypesOf t).Nodup ∧ t.fullName ∉ c.supertypesOf t ∧
    t.ownParents <+: c.supertypesOf t ∧
    ∀ before name after, c.supertypesOf t = before ++ name :: after →
      t.ownParents.length ≤ before.length → ∃ below ∈ before, c.Declares below name := by
  obtain ⟨s, hs, -, hfound⟩ := Hierarchy.exists_explored_supertypesOf c t
  refine ⟨fun name => ?_, ?_⟩
  · rw [← Hierarchy.reaches_iff_exists_ascent]
    exact Hierarchy.mem_supertypesOf_iff_reaches
  · rw [hfound]
    exact ⟨hs.nodup, fun hself => (hs.reaches _ hself).ne rfl, hs.own, hs.declared⟩

/-- A page that no codebase below has. It extends a frame, and it names the frame again among its
interfaces, and itself. -/
def framedPage : TypeDecl :=
  (((((TypeDecl.ofName .classType "Shop.Page").extending "Shop.Frame").implementing
    "Shop.View").implementing "Shop.Frame").implementing "Shop.Page").implementing "Lib.Closable"

/-- The frame, which leads back to the page and on to a box, and the view. The codebase has no type
for the box, nor for the interface that the view extends. -/
def frameAndView : Codebase :=
  .ofTypes [((TypeDecl.ofName .classType "Shop.Frame").extending "Shop.Page").implementing
      "Shop.Box",
    (TypeDecl.ofName .interfaceType "Shop.View").implementing "Lib.Visible"]

/-- First come the parents of the page, its base type before its interfaces, none of them twice and
not the page itself. Then comes what the view extends, and last what the frame leads to. -/
theorem Codebase.supertypesOf_reaches_framedPage :
    framedPage.baseType = some "Shop.Frame" ∧
    framedPage.interfaces = ["Shop.View", "Shop.Frame", "Shop.Page", "Lib.Closable"] ∧
    framedPage.ownParents = ["Shop.Frame", "Shop.View", "Lib.Closable"] ∧
    frameAndView.supertypesOf framedPage =
      ["Shop.Frame", "Shop.View", "Lib.Closable", "Lib.Visible", "Shop.Box"] ∧
    framedPage.Ascent frameAndView "Shop.Frame" ["Shop.Box"] ∧
    "Shop.Box" ∈ frameAndView.supertypesOf framedPage ∧
    "Shop.Page" ∉ frameAndView.supertypesOf framedPage ∧
    (∃ below ∈ ["Shop.Frame", "Shop.View", "Lib.Closable"],
      frameAndView.Declares below "Lib.Visible") := by
  have hfound : frameAndView.supertypesOf framedPage =
      ["Shop.Frame", "Shop.View", "Lib.Closable", "Lib.Visible", "Shop.Box"] :=
    -- the page is read first, then the view, which was found last, and then the frame
    (Hierarchy.search_of_round_eq_some rfl).trans <|
      (Hierarchy.search_of_round_eq_some rfl).trans <|
        (Hierarchy.search_of_round_eq_some rfl).trans <|
          Hierarchy.search_of_round_eq_none rfl
  have hchain : framedPage.Ascent frameAndView "Shop.Frame" ["Shop.Box"] := by
    refine ⟨by decide, ?_, by decide⟩
    exact .cons_cons ⟨_, rfl, by decide⟩ (.singleton _)
  obtain ⟨hreaches, -, hself, -, hdeclared⟩ := supertypesOf_reaches frameAndView framedPage
  refine ⟨rfl, rfl, by decide, hfound, hchain, (hreaches _).2 ⟨_, _, hchain, rfl⟩, hself, ?_⟩
  exact hdeclared ["Shop.Frame", "Shop.View", "Lib.Closable"] _ ["Shop.Box"] hfound (by decide)

end DesignRules
