import Mathlib.Data.List.Induction

/-!
# Elements and what comes before them

Some loops treat an element of a list by what they have read before it: whether a name is new, or
what was announced for the next condition. To say what such a loop comes to, without a state that is
carried along, each element is put beside the part of the list that comes before it.

## Main definitions

* `withEarlier` — the elements of a list, each with those before it

## Main results

* `mem_withEarlier_iff` — the pairs are the ways to cut the list in front of an element
* `withEarlier_concat` — one more element at the end
-/

namespace DesignRules

variable {α : Type}

/-- The elements of a list in order, each with the elements before it. -/
def withEarlier (l : List α) : List (List α × α) := l.zipIdx.map fun p => (l.take p.2, p.1)

/-- An element more at the end is not before any other. -/
theorem withEarlier_concat (l : List α) (a : α) :
    withEarlier (l ++ [a]) = withEarlier l ++ [(l, a)] := by
  have hinit : (l.zipIdx.map fun p => ((l ++ [a]).take p.2, p.1)) = withEarlier l := by
    refine List.map_congr_left fun p hp => ?_
    have hlt : p.2 < 0 + l.length := (List.mem_zipIdx hp).2.1
    rw [List.take_append_of_le_length (by omega)]
  rw [withEarlier, List.zipIdx_append, List.map_append, hinit, Nat.zero_add, List.zipIdx_singleton,
    List.map_singleton, List.take_left]

theorem map_snd_withEarlier (l : List α) : (withEarlier l).map Prod.snd = l := by
  rw [withEarlier, List.map_map]
  exact List.zipIdx_map_fst 0 l

theorem mem_withEarlier_iff {l before : List α} {a : α} :
    (before, a) ∈ withEarlier l ↔ ∃ after, l = before ++ a :: after := by
  induction l using List.reverseRecOn generalizing before with
  | nil => simp [withEarlier]
  | append_singleton init last ih =>
    rw [withEarlier_concat, List.mem_append, ih, List.mem_singleton, Prod.mk.injEq]
    constructor
    · rintro (⟨after, rfl⟩ | ⟨rfl, rfl⟩)
      · exact ⟨after ++ [last], by simp⟩
      · exact ⟨[], rfl⟩
    · rintro ⟨after, hsplit⟩
      rcases List.eq_nil_or_concat after with rfl | ⟨after', b, rfl⟩
      · obtain ⟨rfl, hlast⟩ := List.append_inj' hsplit rfl
        exact Or.inr ⟨rfl, (List.cons.inj hlast).1.symm⟩
      · rw [List.concat_eq_append, ← List.cons_append, ← List.append_assoc] at hsplit
        exact Or.inl ⟨after', (List.append_inj' hsplit rfl).1⟩

example : withEarlier ["a", "b", "c"] = [([], "a"), (["a"], "b"), (["a", "b"], "c")] := rfl

end DesignRules
