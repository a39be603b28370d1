import DesignRules.Proofs.Sentence.Refusals

/-!
# The order of discovery

The types of a codebase are found in some order, and a rule is judged along that order: objects are
filtered one by one, the filter stops at the first error, and findings are listed as they are met.
For rules that are made of what the catalogue has to offer, the verdict is the same for every order.
Findings may be listed in another order, but they are the same findings, and where a rule cannot be
judged, it fails with the same error.

## Which rules

Drafts, sentences and combinations of rules, in any nesting, where predicates, conditions and
relations are from the catalogue and providers are built in (`Rule.BuiltIn`). Drafts that assert
nothing are among them. Conditions and predicates that are made from functions of their own are not,
since a function gets the codebase as a whole and may do with its order what it likes.

## Main definitions

* `Rule.BuiltIn` — rules made of what the catalogue has to offer

## Main results

* `Rule.BuiltIn.steady` — a built-in rule on codebases with the same types
* `Rule.BuiltIn.agrees_on_any_order` — on lists of the same types
-/

namespace DesignRules

/-- The rule is a draft with built-in parts, a finished sentence with built-in clauses, or a
combination of such rules. Drafts that are used as providers have to be among those `used`. -/
inductive Rule.BuiltIn (used : Draft TypeDecl → Prop) : Rule → Prop
  | draft {α : Type} [Element α] [LawfulElement α] (d : Draft α)
      (hpredicates : ∀ p ∈ d.predicates, p.BuiltIn used)
      (hassertion : ∀ a ∈ d.assertion, a.BuiltIn used)
      (hprior : ∀ prior ∈ d.prior, BuiltIn used prior.1) : BuiltIn used d.rule
  | sentence (topic : Topic) (chain : List Sentence.Clause)
      (hchain : ∀ clause ∈ chain, clause.BuiltIn used) (s : Sentence)
      (hrun : (Sentence.start topic).run chain = some s) (rule : Rule)
      (hrule : s.rule? = some rule) : BuiltIn used rule
  | combine (k : Connector) {first second : Rule} (hfirst : BuiltIn used first)
      (hsecond : BuiltIn used second) : BuiltIn used (first.combine k second)

namespace Rule.BuiltIn

variable {used : Draft TypeDecl → Prop}

/-- Any error counts as one that may be raised, those of drafts without an assertion included. -/
theorem steady {rule : Rule} (h : rule.BuiltIn used) {c c' : Codebase}
    (hcodebase : c.Reordered c') : rule.Steady (fun _ => True) c c' := by
  have hraised : ∀ e, RefusesCombined used e → True := fun _ _ => trivial
  induction h with
  | draft d hpredicates hassertion hprior ih =>
    have hparts : d.Steady (fun _ => True) c c' :=
      ⟨fun p hp => (hpredicates p hp).steady hraised hcodebase,
        fun a ha => (hassertion a ha).steady hraised hcodebase, ih⟩
    exact hparts.rule (fun _ => trivial) hcodebase
  | sentence topic chain hchain s hrun rule hrule =>
    exact Sentence.steady_of_run hchain hrun hrule hraised hcodebase
  | combine k _ _ ihfirst ihsecond => exact ihfirst.combine k ihsecond

/-- **The verdict does not depend on the order of discovery.** Take types with pairwise different
full names in two orders, and a built-in rule. Judged on the codebases of the two lists, it fails
with the same error on both, or it has a report on both. The reports then have the same sentence and
the same findings, each as often, so one passes just if the other does. -/
theorem agrees_on_any_order {rule : Rule} (h : rule.BuiltIn used) {types types' : List TypeDecl}
    (hnodup : (types.map TypeDecl.fullName).Nodup) (hperm : types.Perm types') :
    (∃ e, (rule.evaluate (.ofTypes types)).result = .error e ∧
      (rule.evaluate (.ofTypes types')).result = .error e) ∨
    ∃ report report', (rule.evaluate (.ofTypes types)).result = .ok report ∧
      (rule.evaluate (.ofTypes types')).result = .ok report' ∧
      report.description = report'.description ∧
      report.violations.Perm report'.violations ∧ report.passed = report'.passed := by
  obtain ⟨e, -, herror, herror'⟩ | ⟨report, report', hsame, hreport, hreport'⟩ :=
    (h.steady (.ofTypes hnodup hperm)).error_or_ok
  · exact Or.inl ⟨e, herror, herror'⟩
  · exact Or.inr ⟨report, report', hreport, hreport', hsame.description_eq,
      hsame.violations_perm, hsame.passed_eq⟩

/-- A page, a cart, and the store that both of them use. -/
def webShop : List TypeDecl :=
  [(TypeDecl.ofName .classType "Shop.Web.Page").dependingOn .fieldType "Shop.Data.Store",
    (TypeDecl.ofName .classType "Shop.Web.Cart").dependingOn .methodCall "Shop.Data.Store",
    .ofName .classType "Shop.Data.Store"]

/-- Classes should not depend on what is stored, and there should be interfaces. -/
def webShopRule : Rule :=
  Draft.shopRule.rule.combine .and ((Draft.start Kind.interfaces).requireExistence .exist).rule

theorem builtIn_webShopRule : webShopRule.BuiltIn fun _ => False := by
  refine .combine .and (.draft _ (fun p hp => ?_) (fun a ha => ?_) fun prior hprior => ?_)
    (.draft _ (fun p hp => ?_) (fun a ha => ?_) fun prior hprior => ?_)
  · obtain rfl := List.mem_singleton.1 hp
    exact .question (.element (.visibility .pub)) false fun provider hprovider => by cases hprovider
  · obtain rfl := Option.some.inj ha
    exact Condition.BuiltIn.lift _
  · cases hprior
  · cases hp
  · obtain rfl := Option.some.inj ha
    trivial
  · cases hprior

theorem agrees_on_any_order_webShop :
    ∃ report report', (webShopRule.evaluate (.ofTypes webShop)).result = .ok report ∧
      (webShopRule.evaluate (.ofTypes webShop.reverse)).result = .ok report' ∧
      report.violations.filterMap Violation.object = ["Shop.Web.Page", "Shop.Web.Cart"] ∧
      report'.violations.filterMap Violation.object = ["Shop.Web.Cart", "Shop.Web.Page"] ∧
      report.violations.Perm report'.violations := by
  have hnodup : (webShop.map TypeDecl.fullName).Nodup := by decide
  obtain ⟨e, herror, -⟩ | ⟨report, report', hreport, hreport', -, hperm, -⟩ :=
    agrees_on_any_order builtIn_webShopRule hnodup (List.reverse_perm webShop).symm
  · cases herror
  · obtain rfl := Except.ok.inj hreport
    obtain rfl := Except.ok.inj hreport'
    exact ⟨_, _, rfl, rfl, rfl, rfl, hperm⟩

end Rule.BuiltIn

end DesignRules
