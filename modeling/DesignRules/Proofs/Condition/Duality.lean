import DesignRules.Proofs.Catalogue.Answers
import DesignRules.Proofs.Condition.Lifting
import DesignRules.Proofs.Condition.Sharing

/-!
# Duality

Take a tree of conditions, put *or* for every *and* and *and* for every *or*, and put for every leaf
one that says the opposite and reads with the two texts exchanged. The new tree reads as the failure
of the old one, its failure reads as the old one, and it passes what the old one does not.

## One decision about parentheses for two texts

A join writes its fail text with the opposite connector, but it decides about parentheses once, from
the connector it was made with. In the dual tree the decision is made from the opposite connector
about operands that were themselves joined with the opposite one. So it comes out the same, and this
is all that the texts need.

## Main definitions

* `Wording.dual` — the texts exchanged
* `ObjectCondition.Opposed`, `Condition.Opposed`, `Relation.Opposed` — conditions that say the
  opposite of each other, with dual wordings
* `Relation.Exchanged` — a link to some related object, and its absence from all of them

## Main results

* `Wording.dual_join` — the dual of a join is the join of the duals
* `ObjectCondition.Opposed.join`, `Relation.Opposed.join` — the same for what the conditions say
* `Condition.exists_passes_combine` — the same for conditions that may fail to judge
* `combine_dual` — the dual of a tree, in text and in truth value
-/

namespace DesignRules

/-! ### Texts -/

namespace Wording

/-- The wording with its texts exchanged. If it was joined, then as a join of duals. -/
def dual (w : Wording) : Wording := ⟨w.failDescription, w.description, w.joined.map .opposite⟩

/-- An operand needs parentheses in a join just if its dual does in the dual join. -/
theorem operand_opposite (c : Connector) (joined : Option Connector) (text : String) :
    operand c.opposite (joined.map .opposite) text = operand c joined text := by
  cases joined with
  | none => rfl
  | some inner => cases c <;> cases inner <;> rfl

/-- **The dual of a join is the join of the duals.** -/
theorem dual_join (c : Connector) (a b : Wording) :
    (join c a b).dual = join c.opposite a.dual b.dual := by
  simp only [join, dual, operand_opposite, Connector.opposite_opposite, Option.map_some]

theorem join_opposite_of_eq_dual (c : Connector) {a b a' b' : Wording} (ha : a' = a.dual)
    (hb : b' = b.dual) : join c.opposite a' b' = (join c a b).dual := by
  rw [ha, hb, dual_join]

end Wording

/-! ### Conditions on an object alone -/

variable {α β : Type}

/-- The second condition fails the objects that the first one passes, and no others. What details
the two give is up to them. -/
structure ObjectCondition.Opposed (p q : ObjectCondition α) : Prop where
  /-- The texts are exchanged. -/
  wording_eq : q.wording = p.wording.dual
  /-- The truth values are opposite. -/
  passed_eq : ∀ object, (q.check object).passed = !(p.check object).passed

theorem ObjectCondition.passed_join (c : Connector) (a b : ObjectCondition α) (object : α) :
    ((join c a b).check object).passed =
      c.holds (a.check object).passed (b.check object).passed := by
  rw [check_join, Verdict.passed_join]

theorem ObjectCondition.Opposed.join (c : Connector) {a b a' b' : ObjectCondition α}
    (ha : Opposed a a') (hb : Opposed b b') :
    Opposed (Join.join c a b) (Join.join c.opposite a' b') where
  wording_eq := Wording.join_opposite_of_eq_dual c ha.wording_eq hb.wording_eq
  passed_eq object := by
    show ((ObjectCondition.join c.opposite a' b').check object).passed =
      !((ObjectCondition.join c a b).check object).passed
    rw [passed_join, passed_join, ha.passed_eq, hb.passed_eq, Connector.holds_not]

/-! ### Conditions on an object in its codebase -/

/-- Wherever the first condition can judge, the second can as well, and fails what the first one
passes and passes what it fails. -/
structure Condition.Opposed (p q : Condition α) : Prop where
  /-- The texts are exchanged. -/
  wording_eq : q.wording = p.wording.dual
  /-- The truth values are opposite. -/
  passes_eq : ∀ {object : α} {c : Codebase} {holds : Bool}, p.passes object c = .ok holds →
    q.passes object c = .ok (!holds)

theorem Condition.exists_of_passes_eq_ok {p : Condition α} {object : α} {c : Codebase}
    {holds : Bool} (h : p.passes object c = .ok holds) :
    ∃ judge verdict, (p.bindTo c).result = .ok judge ∧ (judge object).result = .ok verdict ∧
      verdict.passed = holds := by
  rw [passes] at h
  cases hcheck : (p.check object c).result with
  | error e => rw [hcheck] at h; exact absurd h (by rintro ⟨⟩)
  | ok verdict =>
    rw [hcheck] at h
    obtain ⟨judge, hbind, hjudge⟩ := Eval.exists_of_result_bind_ok hcheck
    exact ⟨judge, verdict, hbind, hjudge, Except.ok.inj h⟩

theorem Condition.passes_join {k : Connector} {a b : Condition α} {object : α} {c : Codebase}
    {first second : Bool} (ha : a.passes object c = .ok first)
    (hb : b.passes object c = .ok second) :
    (join k a b).passes object c = .ok (k.holds first second) := by
  obtain ⟨judgeA, v, hbindA, hjudgeA, rfl⟩ := exists_of_passes_eq_ok ha
  obtain ⟨judgeB, w, hbindB, hjudgeB, rfl⟩ := exists_of_passes_eq_ok hb
  rw [passes, check, Eval.result_bind_ok (result_bindTo_join k hbindA hbindB),
    Formula.result_joinJudgements, hjudgeA, hjudgeB, Answer.map_passed_join]

theorem Condition.wording_combine_eq_dual {f g : Formula (Condition α)}
    (h : f.Related .opposite Condition.Opposed g) :
    g.combine.wording = f.combine.wording.dual := by
  induction h with
  | leaf h => exact h.wording_eq
  | join c _ _ ihfirst ihsecond => exact Wording.join_opposite_of_eq_dual c ihfirst ihsecond

/-- **Where all leaves can judge, the dual tree judges the opposite.** `Condition.Opposed` is not
kept by a join: it may come to a verdict although one operand cannot judge, and then nothing is
known of the dual operand. So this goes by induction on both trees, with the leaves in hand. -/
theorem Condition.exists_passes_combine {f g : Formula (Condition α)}
    (h : f.Related .opposite Condition.Opposed g) {object : α} {c : Codebase}
    (hleaves : ∀ p ∈ f.leaves, ∃ holds, p.passes object c = .ok holds) :
    ∃ holds, f.combine.passes object c = .ok holds ∧ g.combine.passes object c = .ok (!holds) := by
  induction h with
  | @leaf p q hopposed =>
    obtain ⟨holds, hpasses⟩ := hleaves p (List.mem_singleton_self p)
    exact ⟨holds, hpasses, hopposed.passes_eq hpasses⟩
  | join k _ _ ihfirst ihsecond =>
    obtain ⟨first, hfirst, hfirst'⟩ := ihfirst fun p hp => hleaves p (List.mem_append_left _ hp)
    obtain ⟨second, hsecond, hsecond'⟩ := ihsecond fun p hp =>
      hleaves p (List.mem_append_right _ hp)
    refine ⟨k.holds first second, passes_join hfirst hsecond, ?_⟩
    rw [← Connector.holds_not]
    exact passes_join hfirst' hsecond'

/-! ### Relations -/

/-- The second relation holds where the first one does not. -/
structure Relation.Opposed (r s : Relation α β) : Prop where
  /-- The texts are exchanged. -/
  wording_eq : s.wording = r.wording.dual
  /-- The truth values are opposite. -/
  holds_eq : ∀ object related, s.holds object related = !r.holds object related

/-- One relation asks for some related object with a link and the other for a link to none, with the
texts exchanged. -/
inductive Relation.Exchanged : Relation α β → Relation α β → Prop
  | anyAll (link : α → β → Bool) (description failDescription : String) :
      Exchanged (any link description failDescription)
        (all (fun a b => !link a b) failDescription description)
  | allAny (link : α → β → Bool) (description failDescription : String) :
      Exchanged (all link description failDescription)
        (any (fun a b => !link a b) failDescription description)

theorem Relation.Exchanged.opposed {r s : Relation α β} (h : Exchanged r s) : Opposed r s := by
  cases h with
  | anyAll link _ _ => exact ⟨rfl, fun object related => List.not_any_eq_all_not.symm⟩
  | allAny link _ _ => exact ⟨rfl, fun object related => List.not_all_eq_any_not.symm⟩

theorem Relation.Opposed.join (c : Connector) {a b a' b' : Relation α β} (ha : Opposed a a')
    (hb : Opposed b b') : Opposed (Join.join c a b) (Join.join c.opposite a' b') where
  wording_eq := Wording.join_opposite_of_eq_dual c ha.wording_eq hb.wording_eq
  holds_eq object related := by
    show (Relation.join c.opposite a' b').holds object related =
      !(Relation.join c a b).holds object related
    rw [holds_join, holds_join, ha.holds_eq, hb.holds_eq, Connector.holds_not]

/-! ### Trees -/

theorem Formula.Related.imp {σ : Connector → Connector} {R S : α → β → Prop}
    (himp : ∀ {a b}, R a b → S a b) {f : Formula α} {g : Formula β} (h : f.Related σ R g) :
    f.Related σ S g := by
  induction h with
  | leaf h => exact .leaf (himp h)
  | join c _ _ ihfirst ihsecond => exact .join c ihfirst ihsecond

/-- **Duality.** Let two trees of conditions of one family have the same shape, opposite connectors,
and leaves that say the opposite of each other with their texts exchanged. Then each tree reads as
the failure of the other, parentheses included, and of every object one of them passes and the other
fails. Of conditions that need the codebase this holds wherever the leaves can judge; relations to
some related object and to all of them are put for each other. -/
theorem combine_dual :
    (∀ f g : Formula (ObjectCondition α), f.Related .opposite ObjectCondition.Opposed g →
      g.combine.wording.description = f.combine.wording.failDescription ∧
      g.combine.wording.failDescription = f.combine.wording.description ∧
      ∀ object, (g.combine.check object).passed = !(f.combine.check object).passed) ∧
    (∀ f g : Formula (Condition α), f.Related .opposite Condition.Opposed g →
      g.combine.wording.description = f.combine.wording.failDescription ∧
      g.combine.wording.failDescription = f.combine.wording.description ∧
      ∀ object c, (∀ p ∈ f.leaves, ∃ holds, p.passes object c = .ok holds) →
        ∃ holds, f.combine.passes object c = .ok holds ∧
          g.combine.passes object c = .ok (!holds)) ∧
    ∀ f g : Formula (Relation α β), f.Related .opposite Relation.Exchanged g →
      g.combine.wording.description = f.combine.wording.failDescription ∧
      g.combine.wording.failDescription = f.combine.wording.description ∧
      ∀ object related, g.combine.holds object related = !f.combine.holds object related := by
  refine ⟨fun f g h => ?_, fun f g h => ?_, fun f g h => ?_⟩
  · have hopposed : ObjectCondition.Opposed f.combine g.combine :=
      h.combine fun c _ _ _ _ ha hb => ha.join c hb
    exact ⟨congrArg Wording.description hopposed.wording_eq,
      congrArg Wording.failDescription hopposed.wording_eq, hopposed.passed_eq⟩
  · have hwording := Condition.wording_combine_eq_dual h
    exact ⟨congrArg Wording.description hwording, congrArg Wording.failDescription hwording,
      fun object c hleaves => Condition.exists_passes_combine h hleaves⟩
  · have hopposed : Relation.Opposed f.combine g.combine :=
      (h.imp Relation.Exchanged.opposed).combine fun c _ _ _ _ ha hb => ha.join c hb
    exact ⟨congrArg Wording.description hopposed.wording_eq,
      congrArg Wording.failDescription hopposed.wording_eq, hopposed.holds_eq⟩

theorem ObjectCondition.Opposed.lift {p q : ObjectCondition α} (h : Opposed p q) :
    Condition.Opposed p.lift q.lift where
  wording_eq := h.wording_eq
  passes_eq {object _ _} hpasses := by
    obtain rfl : (p.check object).passed = _ := Except.ok.inj hpasses
    exact congrArg Except.ok (h.passed_eq object)

/-- A condition that reads as a form of *to be*. -/
def pageIs (word : String) (holds : TypeDecl → Bool) : ObjectCondition TypeDecl :=
  .ofTest holds ("be " ++ word) ("is not " ++ word)

/-- The objection against it, which also says which page it is about. -/
def pageIsNot (word : String) (holds : TypeDecl → Bool) : ObjectCondition TypeDecl :=
  .explained (fun t => if holds t then .fail (some t.name) else .pass) ("is not " ++ word)
    ("be " ++ word)

theorem opposed_pageIsNot (word : String) (holds : TypeDecl → Bool) :
    ObjectCondition.Opposed (pageIs word holds) (pageIsNot word holds) where
  wording_eq := rfl
  passed_eq t := by
    show (if holds t then Verdict.fail (some t.name) else .pass).passed =
      !(Verdict.ofBool (holds t)).passed
    cases holds t <;> rfl

/-- Two things together, or a third. -/
def bothOrThird {κ : Type} (first second third : κ) : Formula κ :=
  .join .or (.join .and (.leaf first) (.leaf second)) (.leaf third)

/-- The shape dual to it. -/
def eitherAndThird {κ : Type} (first second third : κ) : Formula κ :=
  .join .and (.join .or (.leaf first) (.leaf second)) (.leaf third)

theorem related_eitherAndThird {κ : Type} {R : κ → κ → Prop} {a b c a' b' c' : κ} (ha : R a a')
    (hb : R b b') (hc : R c c') :
    (bothOrThird a b c).Related .opposite R (eitherAndThird a' b' c') :=
  .join .or (.join .and (.leaf ha) (.leaf hb)) (.leaf hc)

/-- A page should be public and nested, or be called Index. -/
def pageRule : Formula (ObjectCondition TypeDecl) :=
  bothOrThird (pageIs "public" fun t => t.visibility == .pub) (pageIs "nested" TypeDecl.nested)
    (pageIs "Index" fun t => t.name == "Index")

/-- What is wrong with a page. -/
def pageObjection : Formula (ObjectCondition TypeDecl) :=
  eitherAndThird (pageIsNot "public" fun t => t.visibility == .pub)
    (pageIsNot "nested" TypeDecl.nested) (pageIsNot "Index" fun t => t.name == "Index")

/-- A page should use one of some types, or all of them. -/
def usesRule : Formula (Relation TypeDecl TypeDecl) :=
  .join .or (.leaf (.any (fun s t => Element.dependsOnType s t.fullName) "use some" "use none"))
    (.leaf (.all (fun s t => Element.dependsOnType s t.fullName) "use all" "miss some"))

/-- What is wrong with a page that does not. -/
def usesObjection : Formula (Relation TypeDecl TypeDecl) :=
  .join .and (.leaf (.all (fun s t => !Element.dependsOnType s t.fullName) "use none" "use some"))
    (.leaf (.any (fun s t => !Element.dependsOnType s t.fullName) "miss some" "use all"))

theorem combine_dual_page :
    pageObjection.combine.wording.description =
        "(is not public or is not nested) and is not Index" ∧
      pageObjection.combine.wording.failDescription = "(be public and be nested) or be Index" ∧
      (pageObjection.combine.check (.ofName .classType "Index")).passed = false ∧
      (∃ holds, (pageRule.map ObjectCondition.lift).combine.passes (.ofName .classType "Page")
          (.ofTypes []) = .ok holds ∧
        (pageObjection.map ObjectCondition.lift).combine.passes (.ofName .classType "Page")
          (.ofTypes []) = .ok (!holds)) ∧
      usesObjection.combine.wording.description = "use none and miss some" ∧
      usesObjection.combine.holds (.ofName .classType "Page") [.ofName .classType "Store"] =
        true := by
  obtain ⟨hobjects, hconditions, hrelations⟩ := @combine_dual TypeDecl TypeDecl
  obtain ⟨hdescription, hfailDescription, hpassed⟩ := hobjects pageRule pageObjection
    (related_eitherAndThird (opposed_pageIsNot ..) (opposed_pageIsNot ..) (opposed_pageIsNot ..))
  obtain ⟨-, -, hpasses⟩ := hconditions (pageRule.map ObjectCondition.lift)
    (pageObjection.map ObjectCondition.lift)
    (related_eitherAndThird (opposed_pageIsNot ..).lift (opposed_pageIsNot ..).lift
      (opposed_pageIsNot ..).lift)
  obtain ⟨husesDescription, -, hholds⟩ := hrelations usesRule usesObjection
    (.join .or (.leaf (.anyAll ..)) (.leaf (.allAny ..)))
  have hleaves : ∀ p ∈ (pageRule.map ObjectCondition.lift).leaves,
      ∃ holds, p.passes (.ofName .classType "Page") (.ofTypes []) = .ok holds := by
    rintro p (_ | ⟨_, _ | ⟨_, _ | ⟨_, ⟨⟩⟩⟩⟩) <;> exact ⟨_, rfl⟩
  exact ⟨hdescription.trans (by decide), hfailDescription.trans (by decide),
    (hpassed _).trans (by decide), hpasses _ _ hleaves, husesDescription.trans (by decide),
    (hholds _ _).trans (by decide)⟩

end DesignRules
