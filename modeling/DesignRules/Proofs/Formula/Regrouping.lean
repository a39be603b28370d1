import DesignRules.Connector
import Mathlib.Data.Set.Function

/-!
# Regrouping

A chain such as *a and b and c* can be written as two trees of joins. Which of them was meant makes
no difference where joining is associative, and it is also all that a text without parentheses
leaves open. `Formula.Regrouped` says of two trees that they differ in nothing else: same leaves in
the same order, same connectors between them, and the same nesting wherever the connector changes.

## Leaves that are known by name

Sometimes a tree is known only by the names of its leaves. If different leaves have different names,
the leaves can be read back from the names, so regrouped trees of names come from trees that mean
the same. This does not go by induction on the regrouping: a tree in the middle of it is a tree of
names that nobody gave to leaves. Reading a whole tree back is a fold, and folds do not see how
their tree is grouped.

## Main definitions

* `Formula.Regrouped` — two trees are equal up to regrouping chains of one connector
* `LawfulJoin` — joining is associative

## Main results

* `Formula.Regrouped.fold_eq` — an associative value does not depend on the grouping
* `Formula.Regrouped.combine_eq` — regrouped trees combine to the same thing
* `Formula.exists_regrouped_join` — the first operand of a chain can be brought to the front
* `Formula.combine_eq_of_regrouped_map` — the same for trees known by the names of their leaves
-/

namespace DesignRules

/-- Joining with a connector is associative, so a chain of one connector needs no grouping. -/
class LawfulJoin (α : Type) [Join α] : Prop where
  /-- Either grouping of three things gives the same thing. -/
  join_assoc : ∀ (k : Connector) (a b c : α),
    Join.join k (Join.join k a b) c = Join.join k a (Join.join k b c)

instance : LawfulJoin Wording := ⟨Wording.join_assoc⟩

namespace Formula

variable {α β γ : Type}

/-- Two trees are equal up to regrouping chains of one connector. -/
inductive Regrouped : Formula α → Formula α → Prop
  | refl (f : Formula α) : Regrouped f f
  | symm {f g : Formula α} (h : Regrouped f g) : Regrouped g f
  | trans {f g h : Formula α} (hfg : Regrouped f g) (hgh : Regrouped g h) : Regrouped f h
  | join (k : Connector) {f f' g g' : Formula α} (hfirst : Regrouped f f')
      (hsecond : Regrouped g g') : Regrouped (.join k f g) (.join k f' g')
  | assoc (k : Connector) (f g h : Formula α) :
      Regrouped (.join k (.join k f g) h) (.join k f (.join k g h))

/-! ### Folds -/

/-- The value of a tree over other leaves. -/
theorem fold_map (name : α → β) (leaf : β → γ) (join : Connector → γ → γ → γ) (f : Formula α) :
    (f.map name).fold leaf join = f.fold (fun a => leaf (name a)) join := by
  induction f with
  | leaf a => rfl
  | join k f g ihfirst ihsecond =>
    show join k _ _ = join k _ _
    rw [ihfirst, ihsecond]

/-- Only the values of the leaves that are there count. -/
theorem fold_congr {leaf leaf' : α → γ} {join : Connector → γ → γ → γ} {f : Formula α}
    (h : ∀ a ∈ f.leaves, leaf a = leaf' a) : f.fold leaf join = f.fold leaf' join := by
  induction f with
  | leaf a => exact h a (List.mem_singleton_self a)
  | join k f g ihfirst ihsecond =>
    show join k _ _ = join k _ _
    rw [ihfirst fun a ha => h a (List.mem_append_left _ ha),
      ihsecond fun a ha => h a (List.mem_append_right _ ha)]

theorem map_map (inner : α → β) (outer : β → γ) (f : Formula α) :
    (f.map inner).map outer = f.map fun a => outer (inner a) := by
  induction f with
  | leaf a => rfl
  | join k f g ihfirst ihsecond =>
    show Formula.join k _ _ = Formula.join k _ _
    rw [ihfirst, ihsecond]

theorem leaves_map (name : α → β) (f : Formula α) : (f.map name).leaves = f.leaves.map name := by
  induction f with
  | leaf a => rfl
  | join k f g ihfirst ihsecond =>
    show (f.map name).leaves ++ (g.map name).leaves = (f.leaves ++ g.leaves).map name
    rw [ihfirst, ihsecond, List.map_append]

theorem leaves_ne_nil (f : Formula α) : f.leaves ≠ [] := by
  induction f with
  | leaf a => exact List.cons_ne_nil a []
  | join k f g ihfirst _ => exact List.append_ne_nil_of_left_ne_nil ihfirst _

/-! ### What regrouping keeps -/

namespace Regrouped

variable {f g : Formula α}

/-- **A value made with an associative join does not depend on the grouping.** -/
theorem fold_eq {leaf : α → γ} {join : Connector → γ → γ → γ}
    (hassoc : ∀ k a b c, join k (join k a b) c = join k a (join k b c)) (h : f.Regrouped g) :
    f.fold leaf join = g.fold leaf join := by
  induction h with
  | refl f => rfl
  | symm _ ih => exact ih.symm
  | trans _ _ ihfg ihgh => exact ihfg.trans ihgh
  | join k _ _ ihfirst ihsecond =>
    show join k _ _ = join k _ _
    rw [ihfirst, ihsecond]
  | assoc k f g h => exact hassoc k _ _ _

theorem leaves_eq (h : f.Regrouped g) : f.leaves = g.leaves := by
  have hleaves : ∀ t : Formula α, t.leaves = t.fold (fun a => [a]) fun _ xs ys => xs ++ ys := by
    intro t
    induction t with
    | leaf a => rfl
    | join k f g ihfirst ihsecond =>
      show f.leaves ++ g.leaves = _ ++ _
      rw [ihfirst, ihsecond]
  rw [hleaves f, hleaves g]
  exact h.fold_eq fun _ => List.append_assoc

theorem map (name : α → β) (h : f.Regrouped g) : (f.map name).Regrouped (g.map name) := by
  induction h with
  | refl f => exact .refl _
  | symm _ ih => exact ih.symm
  | trans _ _ ihfg ihgh => exact ihfg.trans ihgh
  | join k _ _ ihfirst ihsecond => exact .join k ihfirst ihsecond
  | assoc k f g h => exact .assoc k _ _ _

/-- **Regrouped trees combine to the same thing.** -/
theorem combine_eq [Join α] [LawfulJoin α] (h : f.Regrouped g) : f.combine = g.combine :=
  h.fold_eq LawfulJoin.join_assoc

end Regrouped

/-- Any join can be regrouped so that its first operand is not joined with the same connector. -/
theorem exists_regrouped_join (k : Connector) (f g : Formula α) :
    ∃ first rest, (Formula.join k f g).Regrouped (.join k first rest) ∧
      ∀ a b, first ≠ .join k a b := by
  induction f generalizing g with
  | leaf a => exact ⟨.leaf a, g, .refl _, fun _ _ h => by cases h⟩
  | join d a b iha _ =>
    by_cases hd : d = k
    · subst hd
      obtain ⟨first, rest, hregrouped, hne⟩ := iha (.join d b g)
      exact ⟨first, rest, (Regrouped.assoc d a b g).trans hregrouped, hne⟩
    · refine ⟨.join d a b, g, .refl _, fun _ _ h => ?_⟩
      injection h with hconnector
      exact hd hconnector

/-- **Leaves that are known by name.** If the leaves of two trees differ wherever their names do,
and the trees of names are equal up to regrouping, then the trees combine to the same thing. -/
theorem combine_eq_of_regrouped_map [Join α] [LawfulJoin α] {name : α → β} {f g : Formula α}
    (h : (f.map name).Regrouped (g.map name))
    (hname : ∀ a ∈ f.leaves ++ g.leaves, ∀ b ∈ f.leaves ++ g.leaves, name a = name b → a = b) :
    f.combine = g.combine := by
  obtain ⟨read, hread⟩ : ∃ read : β → α, ∀ a ∈ f.leaves ++ g.leaves, read (name a) = a := by
    obtain ⟨a, -⟩ := List.exists_mem_of_ne_nil _ f.leaves_ne_nil
    have : Nonempty α := ⟨a⟩
    have hinj : Set.InjOn name { a | a ∈ f.leaves ++ g.leaves } := fun a ha b hb => hname a ha b hb
    exact ⟨_, fun a ha => hinj.leftInvOn_invFunOn ha⟩
  have hback : ∀ t : Formula α, (∀ a ∈ t.leaves, a ∈ f.leaves ++ g.leaves) →
      t.combine = (t.map name).fold read Join.join := by
    intro t ht
    rw [fold_map]
    exact fold_congr fun a ha => (hread a (ht a ha)).symm
  rw [hback f fun a => List.mem_append_left _, hback g fun a => List.mem_append_right _]
  exact h.fold_eq LawfulJoin.join_assoc

end Formula

end DesignRules
