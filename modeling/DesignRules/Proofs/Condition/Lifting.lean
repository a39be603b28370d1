import DesignRules.Proofs.Condition.Families
import DesignRules.Proofs.Condition.Joined

/-!
# Lifting conditions on an object alone

A condition on an object alone can be used where a condition on an object in its codebase is needed.
A tree of such conditions can therefore be lifted in two ways: it is joined first and lifted as a
whole, or its leaves are lifted and then joined. The result is the same condition.

## Two joins

The two families join in different ways. On an object alone both verdicts are there, and the join is
made of them. In a codebase a join is bound first, operand by operand, and judges later; the verdict
of its first operand decides whether the second is asked, and only where both are asked and both
fail are their details put together. What makes them agree is that a lifted condition has nothing to
look up and nothing to fail with, so it makes no difference when, and whether, an operand is asked.

A join also remembers the connector it was made with, and lifting keeps that. It does not show in
the texts of the lifted condition, but in those of further joins.

## Main results

* `Condition.joinJudgements_pure` — joined judgements that cannot fail
* `ObjectCondition.lift_join`, `ObjectCondition.lift_combine` — joins and trees, as conditions
* `ObjectCondition.lift_agrees_with_combine` — their texts, their parentheses and their verdicts
-/

namespace DesignRules

variable {α : Type}

/-- Judgements that cannot fail are joined verdict by verdict. -/
theorem Condition.joinJudgements_pure (k : Connector) (first second : α → Verdict) (object : α) :
    joinJudgements k (fun object => pure (first object)) (fun object => pure (second object))
      object = pure ((first object).join k (second object)) := by
  rw [joinJudgements, pure_bind]
  -- Where the second operand is left out, the verdict of the first is that of both together.
  cases k with
  | and => cases first object <;> rfl
  | or => cases first object <;> rfl

namespace ObjectCondition

theorem check_join (k : Connector) (a b : ObjectCondition α) (object : α) :
    (join k a b).check object = (a.check object).join k (b.check object) := by
  cases k <;> rfl

/-- **A join, lifted.** -/
theorem lift_join (k : Connector) (a b : ObjectCondition α) :
    (join k a b).lift = Condition.join k a.lift b.lift := by
  have hbind : (join k a b).lift.bindTo = (Condition.join k a.lift b.lift).bindTo := by
    funext c
    simp only [lift, Condition.join, pure_bind]
    refine congrArg pure (funext fun object => ?_)
    rw [Condition.joinJudgements_pure, check_join]
  exact (Condition.mk.injEq ..).mpr ⟨hbind, rfl⟩

/-- **A tree, lifted.** -/
theorem lift_combine (f : Formula (ObjectCondition α)) : f.combine.lift = (f.map lift).combine :=
  Formula.value_combine lift lift_join f

theorem check_lift (p : ObjectCondition α) (object : α) (c : Codebase) :
    p.lift.check object c = pure (p.check object) := rfl

/-- **Lifting and joining.** Take a tree of conditions on an object alone. It makes no difference
whether the tree is joined and then lifted or its leaves are lifted and then joined. Both read the
same, they are put into parentheses alike when they are joined with a further condition, on either
side, and on every object of every codebase both come to the verdict that the tree has on the object
alone, with its detail. No lookup fails and no event comes up. -/
theorem lift_agrees_with_combine (f : Formula (ObjectCondition α)) :
    (f.map lift).combine.wording.description = f.combine.lift.wording.description ∧
    (f.map lift).combine.wording.failDescription = f.combine.lift.wording.failDescription ∧
    (∀ (k : Connector) (p : Condition α),
      (Join.join k (f.map lift).combine p).wording = (Join.join k f.combine.lift p).wording ∧
      (Join.join k p (f.map lift).combine).wording = (Join.join k p f.combine.lift).wording) ∧
    ∀ (object : α) (c : Codebase),
      f.combine.lift.check object c = pure (f.combine.check object) ∧
      (f.map lift).combine.check object c = pure (f.combine.check object) := by
  rw [← lift_combine]
  exact ⟨rfl, rfl, fun _ _ => ⟨rfl, rfl⟩, fun object c => ⟨check_lift _ object c,
    check_lift _ object c⟩⟩

/-- A number should be small or even, or else it should be huge and even. -/
def sizedNumber : Formula (ObjectCondition Nat) :=
  .join .or (.join .or (.leaf isSmall) (.leaf isEven)) (.join .and (.leaf isHuge) (.leaf isEven))

/-- Thirteen is neither small nor even, and both details are still there after the lifting. -/
theorem lift_agrees_with_combine_numbers :
    (sizedNumber.map lift).combine.wording.description =
      "be small or be even or (be huge and be even)" ∧
    (sizedNumber.map lift).combine.check 13 (.ofTypes []) =
      ⟨.ok (.fail (some "too large and odd")), []⟩ ∧
    (sizedNumber.map lift).combine.check 14 (.ofTypes []) = ⟨.ok .pass, []⟩ := by
  obtain ⟨hdescription, -, -, hchecks⟩ := lift_agrees_with_combine sizedNumber
  exact ⟨hdescription.trans rfl, (hchecks 13 (.ofTypes [])).2, (hchecks 14 (.ofTypes [])).2⟩

end ObjectCondition

end DesignRules
