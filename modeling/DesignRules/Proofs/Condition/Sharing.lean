import DesignRules.Condition.Relation
import DesignRules.Proofs.Condition.Joined

/-!
# Sharing related objects

Relations can be joined before or after a provider says what the related objects are. If they are
joined first, the provider is asked once, and all of them are judged against the objects it names.
If each of them is related to the provider by itself, the provider is asked for every leaf of the
tree. As a provider names the same objects of a codebase each time, both ways come to the same.

## Where the two ways differ

A tree that is joined first works on truth values, so it has one verdict to give. The other one
works on verdicts, in two phases: its leaves are looked up one after the other, and each of the
lookups can fail. But the first of them fails just if all of them do, and if it does not fail, no
leaf does. From then on every verdict is there, and a join of verdicts without a detail is the
verdict on the joined truth values.

Only what an object comes to is the same. The provider is mentioned once in the one condition and
after every leaf in the other, and what it reports comes up as often as it is asked.

## Main results

* `Relation.holds_combine` — the truth value of a tree of relations
* `Relation.result_check_relatedTo` — a relation and a provider, judged on an object
* `Relation.result_check_combine_relatedTo` — leaves that are related one by one
* `Relation.relatedTo_distributes` — the two ways
-/

namespace DesignRules

theorem Verdict.join_ofBool (k : Connector) (first second : Bool) :
    join k (ofBool first) (ofBool second) = ofBool (k.holds first second) := by
  cases k with
  | and => cases first <;> rfl
  | or => cases first <;> cases second <;> rfl

namespace Relation

variable {α β : Type} {provider : Provider β} {c : Codebase}

/-! ### Joined first -/

theorem holds_join (k : Connector) (r s : Relation α β) (object : α) (related : List β) :
    (join k r s).holds object related =
      k.holds (r.holds object related) (s.holds object related) := by
  cases k <;> rfl

/-- **The truth value of a tree** of relations to the same objects. -/
theorem holds_combine (f : Formula (Relation α β)) (object : α) (related : List β) :
    f.combine.holds object related = (f.map fun r => r.holds object related).holds :=
  Formula.value_combine (fun r => r.holds object related)
    (fun k r s => holds_join k r s object related) f

/-- A relation judges an object by the related objects, if they are there. -/
theorem result_check_relatedTo (r : Relation α β) (provider : Provider β) (object : α)
    (c : Codebase) :
    ((r.relatedTo provider).check object c).result =
      (provider.objects c).result.map fun related => .ofBool (r.holds object related) := by
  have hbind : (r.relatedTo provider).bindTo c = provider.objects c >>= fun related =>
      pure fun object => pure (.ofBool (r.holds object related)) := rfl
  exact Condition.result_check_of_bindTo hbind object

/-! ### Related one by one -/

/-- No leaf can be bound without the related objects, so the first leaf fails. -/
theorem result_bindTo_combine_relatedTo_error {e : RuleError}
    (h : (provider.objects c).result = .error e) (f : Formula (Relation α β)) :
    ((f.map fun r => relatedTo r provider).combine.bindTo c).result = .error e := by
  induction f with
  | leaf r => exact Eval.result_bind_error h _
  | join k f g ihfirst _ => exact Eval.result_bind_error ihfirst _

/-- Every leaf is bound to the same related objects. -/
theorem exists_result_bindTo_combine_relatedTo {related : List β}
    (h : (provider.objects c).result = .ok related) (f : Formula (Relation α β)) :
    ∃ judge, ((f.map fun r => relatedTo r provider).combine.bindTo c).result = .ok judge ∧
      ∀ object, (judge object).result =
        .ok (.ofBool (f.map fun r => r.holds object related).holds) := by
  induction f with
  | leaf r => exact ⟨_, Eval.result_bind_ok h _, fun _ => rfl⟩
  | join k f g ihfirst ihsecond =>
    obtain ⟨first, hfirst, hfirstHolds⟩ := ihfirst
    obtain ⟨second, hsecond, hsecondHolds⟩ := ihsecond
    -- Both operands have a verdict on every object, so it does not matter which of them are asked.
    refine ⟨Condition.joinJudgements k first second,
      Condition.result_bindTo_join k hfirst hsecond, fun object => ?_⟩
    rw [Formula.result_joinJudgements, hfirstHolds, hsecondHolds, Answer.join_ok,
      Verdict.join_ofBool]
    rfl

/-- **Leaves related one by one** judge an object as if the related objects had been looked up
once. -/
theorem result_check_combine_relatedTo (f : Formula (Relation α β)) (provider : Provider β)
    (object : α) (c : Codebase) :
    ((f.map fun r => relatedTo r provider).combine.check object c).result =
      (provider.objects c).result.map fun related =>
        .ofBool (f.map fun r => r.holds object related).holds := by
  cases h : (provider.objects c).result with
  | error e =>
    rw [Condition.check, Eval.result_bind_error (result_bindTo_combine_relatedTo_error h f)]
    rfl
  | ok related =>
    obtain ⟨judge, hjudge, hholds⟩ := exists_result_bindTo_combine_relatedTo h f
    rw [Condition.check, Eval.result_bind_ok hjudge, hholds object]
    rfl

/-- **Joining before or after relating.** Take a tree of relations, a provider, and an object of a
codebase. Relating the joined tree to the provided objects, and joining the leaves of which each is
related to them by itself, come to the same: to the error of the provider if it has no objects, and
otherwise to the truth value of the tree on the objects it names, without any detail. The objects
are the same ones for all leaves. -/
theorem relatedTo_distributes (f : Formula (Relation α β)) (provider : Provider β) (object : α)
    (c : Codebase) :
    ((f.map fun r => relatedTo r provider).combine.check object c).result =
      ((f.combine.relatedTo provider).check object c).result ∧
    ((f.combine.relatedTo provider).check object c).result =
      ((provider.objects c).result.map fun related =>
        .ofBool (f.map fun r => r.holds object related).holds) ∧
    ∀ verdict, ((f.combine.relatedTo provider).check object c).result = .ok verdict →
      verdict.detail = none := by
  have hjoined : ((f.combine.relatedTo provider).check object c).result =
      (provider.objects c).result.map fun related =>
        .ofBool (f.map fun r => r.holds object related).holds := by
    simp only [result_check_relatedTo, holds_combine]
  refine ⟨(result_check_combine_relatedTo f provider object c).trans hjoined.symm, hjoined,
    fun verdict hverdict => ?_⟩
  rw [hjoined] at hverdict
  cases h : (provider.objects c).result with
  | error e =>
    rw [h] at hverdict
    exact absurd hverdict (by rintro ⟨⟩)
  | ok related =>
    rw [h] at hverdict
    obtain rfl := Except.ok.inj hverdict
    exact Verdict.detail_ofBool _

end Relation

end DesignRules
