import DesignRules.Condition.Existence
import DesignRules.Condition.Relation
import DesignRules.Proofs.Formula.Regrouping

/-!
# The families of conditions

Conditions come in four families: on an object alone, on an object in its codebase, on an object and
its related objects, and on the number of objects. Each has a join of its own. What the four joins
have in common is stated here, so that it can be used of all of them at once: they join the wordings
in the same way, and they are associative.

## Associative, as conditions

The equations are between conditions and not between their truth values. Two groupings of one chain
give the same details, fail with the same errors, and report the same events; they read the same,
and they count as joined with the same connector in further joins.

For conditions on an object in its codebase this takes both phases. Binding binds all three operands
from left to right, whichever two are joined first. Judging leaves operands out; but an operand that
is left out under one grouping is left out under the other as well, by the outer join instead of the
inner one.

## Main definitions

* `Worded` — a family whose joins join the wordings

## Main results

* `Verdict.either_assoc`, `Condition.joinJudgements_assoc` — chains of judgements
* `ObjectCondition.join_assoc`, `Condition.join_assoc`, `Relation.join_assoc`,
  `Existence.join_assoc` — chains of conditions
* `Worded.wording_combine` — the wording of a tree
* `joins_associate` — all families at once
-/

namespace DesignRules

/-- Conditions of one family have a wording, and joining them joins the wordings. -/
class Worded (κ : Type) [Join κ] where
  /-- How a condition reads. -/
  wording : κ → Wording
  /-- How a join reads. -/
  wording_join : ∀ (k : Connector) (a b : κ),
    wording (Join.join k a b) = .join k (wording a) (wording b)

/-- The wording of a tree of conditions is made from those of its leaves. -/
theorem Worded.wording_combine {κ : Type} [Join κ] [Worded κ] (f : Formula κ) :
    wording f.combine = (f.map wording).combine :=
  Formula.value_combine wording wording_join f

variable {α β : Type}

/-! ### Conditions on an object alone -/

theorem Verdict.both_assoc (u v w : Verdict) : (u.both v).both w = u.both (v.both w) := by
  cases u <;> rfl

theorem Verdict.mergeDetails_assoc (a b c : Option String) :
    mergeDetails (mergeDetails a b) c = mergeDetails a (mergeDetails b c) := by
  cases a <;> cases b <;> cases c <;> simp [mergeDetails, String.append_assoc]

theorem Verdict.either_assoc (u v w : Verdict) : (u.either v).either w = u.either (v.either w) := by
  cases u with
  | pass => rfl
  | fail a =>
    cases v with
    | pass => rfl
    | fail b =>
      cases w with
      | pass => rfl
      | fail c => exact congrArg fail (mergeDetails_assoc a b c)

theorem ObjectCondition.join_assoc (k : Connector) (a b c : ObjectCondition α) :
    join k (join k a b) c = join k a (join k b c) := by
  have hcheck : (join k (join k a b) c).check = (join k a (join k b c)).check := by
    funext object
    cases k with
    | and => exact Verdict.both_assoc _ _ _
    | or => exact Verdict.either_assoc _ _ _
  have hwording : (join k (join k a b) c).wording = (join k a (join k b c)).wording :=
    Wording.join_assoc k a.wording b.wording c.wording
  exact (mk.injEq ..).mpr ⟨hcheck, hwording⟩

instance : LawfulJoin (ObjectCondition α) := ⟨ObjectCondition.join_assoc⟩

instance : Worded (ObjectCondition α) := ⟨ObjectCondition.wording, fun _ _ _ => rfl⟩

/-! ### Conditions on an object in its codebase -/

namespace Condition

/-- **A chain of judgements.** Under either grouping the same operands are asked, in the same
order. -/
theorem joinJudgements_assoc (k : Connector) (first second third : α → Eval Verdict) :
    joinJudgements k (joinJudgements k first second) third =
      joinJudgements k first (joinJudgements k second third) := by
  funext object
  show (first object >>= _) >>= _ = first object >>= _
  rw [bind_assoc]
  congr 1
  funext u
  cases k with
  | and =>
    cases u with
    | pass => rfl
    | fail a => exact pure_bind _ _
  | or =>
    cases u with
    | pass => exact pure_bind _ _
    | fail a =>
      show (second object >>= _) >>= _ = (second object >>= _) >>= _
      rw [bind_assoc, bind_assoc]
      congr 1
      funext v
      cases v with
      | pass => rfl
      | fail b =>
        show third object >>= _ = (third object >>= _) >>= _
        rw [bind_assoc]
        congr 1
        funext w
        exact congrArg pure (Verdict.either_assoc (.fail a) (.fail b) w)

theorem join_assoc (k : Connector) (a b c : Condition α) :
    join k (join k a b) c = join k a (join k b c) := by
  have hbind : (join k (join k a b) c).bindTo = (join k a (join k b c)).bindTo := by
    funext codebase
    simp only [join, bind_assoc, pure_bind, joinJudgements_assoc]
  have hwording : (join k (join k a b) c).wording = (join k a (join k b c)).wording :=
    Wording.join_assoc k a.wording b.wording c.wording
  exact (mk.injEq ..).mpr ⟨hbind, hwording⟩

instance : LawfulJoin (Condition α) := ⟨join_assoc⟩

instance : Worded (Condition α) := ⟨wording, fun _ _ _ => rfl⟩

end Condition

/-! ### Relations and existence conditions -/

theorem Relation.join_assoc (k : Connector) (a b c : Relation α β) :
    join k (join k a b) c = join k a (join k b c) := by
  have hholds : (join k (join k a b) c).holds = (join k a (join k b c)).holds := by
    funext object related
    cases k with
    | and => exact Bool.and_assoc _ _ _
    | or => exact Bool.or_assoc _ _ _
  have hwording : (join k (join k a b) c).wording = (join k a (join k b c)).wording :=
    Wording.join_assoc k a.wording b.wording c.wording
  exact (mk.injEq ..).mpr ⟨hholds, hwording⟩

instance : LawfulJoin (Relation α β) := ⟨Relation.join_assoc⟩

instance : Worded (Relation α β) := ⟨Relation.wording, fun _ _ _ => rfl⟩

theorem Existence.join_assoc (k : Connector) (a b c : Existence) :
    join k (join k a b) c = join k a (join k b c) := by
  have hholds : (join k (join k a b) c).holds = (join k a (join k b c)).holds := by
    funext count
    cases k with
    | and => exact Bool.and_assoc _ _ _
    | or => exact Bool.or_assoc _ _ _
  have hwording : (join k (join k a b) c).wording = (join k a (join k b c)).wording :=
    Wording.join_assoc k a.wording b.wording c.wording
  exact (mk.injEq ..).mpr ⟨hholds, hwording⟩

instance : LawfulJoin Existence := ⟨Existence.join_assoc⟩

instance : Worded Existence := ⟨Existence.wording, fun _ _ _ => rfl⟩

/-- **Joining is associative in every family.** With one connector, and whatever the three
conditions are joins of already, the first two can be joined first or the last two: the condition is
the same. So it reads the same in both texts, counts as joined in the same way, and comes to the
same: to the same verdict with the same detail, to the same error when it is bound or when it
judges, and to the same truth value on every object with its related ones and on every number. -/
theorem joins_associate (k : Connector) :
    (∀ a b c : ObjectCondition α,
      Join.join k (Join.join k a b) c = Join.join k a (Join.join k b c)) ∧
    (∀ a b c : Condition α,
      Join.join k (Join.join k a b) c = Join.join k a (Join.join k b c)) ∧
    (∀ a b c : Relation α β,
      Join.join k (Join.join k a b) c = Join.join k a (Join.join k b c)) ∧
    ∀ a b c : Existence,
      Join.join k (Join.join k a b) c = Join.join k a (Join.join k b c) :=
  ⟨ObjectCondition.join_assoc k, Condition.join_assoc k, Relation.join_assoc k,
    Existence.join_assoc k⟩

/-- A number should be small. -/
def isSmall : ObjectCondition Nat :=
  .explained (fun n => if n < 10 then .pass else .fail (some "too large")) "be small" "is large"

/-- A number should be even. -/
def isEven : ObjectCondition Nat :=
  .explained (fun n => if n % 2 = 0 then .pass else .fail (some "odd")) "be even" "is odd"

/-- A number should be a hundred or more. -/
def isHuge : ObjectCondition Nat := .ofTest (fun n => 100 ≤ n) "be huge" "is not huge"

/-- Associativity alone would hold of a join that drops an operand. None is dropped: the chain reads
as all three, and objects with the details of those that have any. -/
theorem joins_associate_numbers :
    let chain := Join.join .or isSmall (Join.join .or isEven isHuge)
    Join.join .or (Join.join .or isSmall isEven) isHuge = chain ∧
    chain.wording.description = "be small or be even or be huge" ∧
    chain.wording.failDescription = "is large and is odd and is not huge" ∧
    chain.wording.joined = some .or ∧
    chain.check 13 = .fail (some "too large and odd") ∧ chain.check 101 = .pass := by
  obtain ⟨hobjects, -, -, -⟩ := @joins_associate Nat Nat .or
  exact ⟨hobjects isSmall isEven isHuge, rfl, rfl, rfl, rfl, rfl⟩

end DesignRules
