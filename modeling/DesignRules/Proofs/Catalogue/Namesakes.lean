import DesignRules.Proofs.Rule.Findings
import Mathlib.Data.List.Nodup

/-!
# Selecting by name

Objects count as the same if they have the same full name. So the question whether an object is one
of some given objects is answered by names, and a selection that is written down object by object
finds every object with one of the names.

## Where names are not enough

Types of a codebase have different full names, because the codebase keeps only the first type of a
name. Nothing of that kind is done for members. The full name of a member is made from its simple
name, so two methods of a type that differ in their parameters are namesakes, and rules can tell
them apart by everything but their name. A draft may select one of two namesakes, but as soon as the
selection is known by its objects, both belong to it.

## Main definitions

* `Draft.selected`, `Draft.passedOver` — the objects of a kind with the predicates, and the rest
* `Draft.oneOf` — the objects of a kind that are one of the given ones, or that are not
* `Draft.KeepsNamesakes` — of two objects with one full name, a draft selects both or neither

## Main results

* `Draft.result_objects_oneOf` — what is selected by name
* `Draft.keepsNamesakes_of_nodup` — with different names there is nothing to keep together
* `Draft.selects_by_name` — when a selection by name gives back what was selected
* `Draft.overloads_not_told_apart` — a selection that it does not give back
-/

namespace DesignRules

/-! ### Names of members -/

/-- The members of a type are attached to it, and their simple names differ and have no dots. -/
structure TypeDecl.NamesMembersApart (t : TypeDecl) : Prop where
  /-- A full name is made from that of the type. -/
  fullName_eq : ∀ m ∈ t.members, m.fullName = t.fullName ++ "." ++ m.name
  /-- A simple name has no dots. -/
  dotless : ∀ m ∈ t.members, '.' ∉ m.name.toList
  /-- Simple names differ. -/
  nodup_name : (t.members.map Member.name).Nodup

/-- The full name of a member tells its type and its simple name, if that has no dots. -/
theorem Member.eq_of_attached_eq {typeName typeName' name name' : String}
    (hname : '.' ∉ name.toList) (hname' : '.' ∉ name'.toList)
    (h : typeName ++ "." ++ name = typeName' ++ "." ++ name') :
    typeName = typeName' ∧ name = name' := by
  have hchars :
      typeName.toList ++ '.' :: name.toList = typeName'.toList ++ '.' :: name'.toList := by
    simpa using congrArg String.toList h
  have hsplit := Text.splitLast_append typeName.toList hname
  rw [hchars, Text.splitLast_append _ hname', Option.some.injEq, Prod.mk.injEq] at hsplit
  exact ⟨String.toList_inj.1 hsplit.1.symm, String.toList_inj.1 hsplit.2.symm⟩

theorem Codebase.nodup_fullName_members {c : Codebase} (h : ∀ t ∈ c.types, t.NamesMembersApart) :
    (c.members.map Member.fullName).Nodup := by
  rw [members, List.map_flatMap, List.nodup_flatMap]
  constructor
  · intro t ht
    refine List.Nodup.map_on ?_ (List.Nodup.of_map _ (h t ht).nodup_name)
    intro m hm m' hm' hfullName
    rw [(h t ht).fullName_eq m hm, (h t ht).fullName_eq m' hm'] at hfullName
    exact List.inj_on_of_nodup_map (h t ht).nodup_name hm hm'
      (Member.eq_of_attached_eq ((h t ht).dotless m hm) ((h t ht).dotless m' hm') hfullName).2
  · refine (List.pairwise_map.1 c.nodup_fullName).imp_of_mem fun {s t} hs ht hdiffer => ?_
    intro fullName hmem hmem'
    obtain ⟨m, hm, rfl⟩ := List.mem_map.1 hmem
    obtain ⟨m', hm', hfullName⟩ := List.mem_map.1 hmem'
    rw [(h s hs).fullName_eq m hm, (h t ht).fullName_eq m' hm'] at hfullName
    exact hdiffer (Member.eq_of_attached_eq ((h t ht).dotless m' hm') ((h s hs).dotless m hm)
      hfullName).1.symm

namespace Draft

variable {α : Type} [Element α]

/-! ### What is selected -/

/-- The objects that a draft is about, provided its predicates do not fail. -/
def selected (d : Draft α) (c : Codebase) : List α :=
  (d.kind.select c).filter fun object => Predicate.Satisfied d.predicates c object

/-- The objects of its kind that a draft is not about. -/
def passedOver (d : Draft α) (c : Codebase) : List α :=
  (d.kind.select c).filter fun object => ¬ Predicate.Satisfied d.predicates c object

theorem mem_selected {d : Draft α} {c : Codebase} {object : α} :
    object ∈ d.selected c ↔
      object ∈ d.kind.select c ∧ Predicate.Satisfied d.predicates c object := by
  rw [selected, List.mem_filter, decide_eq_true_iff]

theorem eq_selected_of_result_objects {d : Draft α} (hprior : d.prior = none) {c : Codebase}
    {objects : List α} (h : (d.objects c).result = .ok objects) : objects = d.selected c := by
  have hcombined : d.isCombined = false := by rw [isCombined, hprior, Option.isSome_none]
  rw [Draft.objects, hcombined] at h
  exact Predicate.eq_filter_of_result_ok h

/-! ### Selecting by name -/

/-- A draft about the objects of a kind that are one of the given ones, or about those that are
not. -/
def oneOf (κ : Kind α) (objects : List α) (negated : Bool) : Draft α :=
  (start κ).that ((Criterion.oneOf objects).predicate negated)

theorem holds_oneOf (objects : List α) (object : α) :
    (Criterion.oneOf objects).holds object =
      decide (Element.fullName object ∈ objects.map Element.fullName) := by
  rw [Bool.eq_iff_iff, decide_eq_true_iff, List.mem_map]
  refine List.any_eq_true.trans (exists_congr fun other => and_congr_right fun _ => ?_)
  rw [Element.same, beq_iff_eq, eq_comm]

/-- **What is selected by name.** -/
theorem result_objects_oneOf (κ : Kind α) (objects : List α) (negated : Bool) (c : Codebase) :
    ((oneOf κ objects negated).objects c).result =
      .ok ((κ.select c).filter fun object =>
        decide (Element.fullName object ∈ objects.map Element.fullName) != negated) := by
  obtain ⟨kept, hkept⟩ : ∃ kept, ((oneOf κ objects negated).objects c).result = .ok kept := by
    refine Predicate.exists_result_filter fun p hp object _ => ?_
    obtain rfl := List.mem_singleton.1 hp
    exact ⟨_, rfl⟩
  rw [hkept, eq_selected_of_result_objects rfl hkept]
  refine congrArg Except.ok (List.filter_congr fun object _ => ?_)
  rw [← holds_oneOf, Bool.eq_iff_iff, decide_eq_true_iff]
  -- the only predicate is the question about the object itself
  constructor
  · intro h
    exact Except.ok.inj (h _ (List.mem_singleton_self _))
  · intro h p hp
    obtain rfl := List.mem_singleton.1 hp
    exact congrArg Except.ok h

/-! ### Namesakes -/

/-- Of two objects of its kind with one full name, the draft selects both or neither. -/
def KeepsNamesakes (d : Draft α) (c : Codebase) : Prop :=
  ∀ object ∈ d.kind.select c, Element.fullName object ∈ (d.selected c).map Element.fullName →
    Predicate.Satisfied d.predicates c object

theorem keepsNamesakes_of_nodup (d : Draft α) {c : Codebase}
    (h : ((d.kind.select c).map Element.fullName).Nodup) : d.KeepsNamesakes c := by
  intro object hobject hnamed
  obtain ⟨namesake, hnamesake, hname⟩ := List.mem_map.1 hnamed
  obtain ⟨hnamesake, hsatisfied⟩ := mem_selected.1 hnamesake
  rwa [← List.inj_on_of_nodup_map h hnamesake hobject hname]

/-- Types of a codebase have different names. -/
theorem keepsNamesakes_types (d : Draft TypeDecl) (c : Codebase) : d.KeepsNamesakes c :=
  d.keepsNamesakes_of_nodup (c.nodup_fullName.sublist (List.filter_sublist.map _))

theorem KeepsNamesakes.mem_names_iff {d : Draft α} {c : Codebase} (h : d.KeepsNamesakes c)
    {object : α} (hobject : object ∈ d.kind.select c) :
    Element.fullName object ∈ (d.selected c).map Element.fullName ↔
      Predicate.Satisfied d.predicates c object :=
  ⟨h object hobject, fun hsatisfied =>
    List.mem_map_of_mem (mem_selected.2 ⟨hobject, hsatisfied⟩)⟩

/-- A selection comes back from its names just if namesakes were kept together. -/
theorem result_objects_oneOf_selected_iff (d : Draft α) (c : Codebase) :
    ((oneOf d.kind (d.selected c) false).objects c).result = .ok (d.selected c) ↔
      d.KeepsNamesakes c := by
  rw [result_objects_oneOf]
  constructor
  · intro h object hobject hnamed
    have hmem : object ∈ d.selected c := by
      rw [← Except.ok.inj h, List.mem_filter, Bool.bne_false]
      exact ⟨hobject, decide_eq_true hnamed⟩
    exact (mem_selected.1 hmem).2
  · intro h
    refine congrArg Except.ok (List.filter_congr fun object hobject => ?_)
    rw [Bool.bne_false]
    exact decide_eq_decide.2 (h.mem_names_iff hobject)

theorem result_objects_oneOf_passedOver_iff (d : Draft α) (c : Codebase) :
    ((oneOf d.kind (d.selected c) true).objects c).result = .ok (d.passedOver c) ↔
      d.KeepsNamesakes c := by
  rw [result_objects_oneOf]
  constructor
  · intro h object hobject hnamed
    by_contra hsatisfied
    have hmem : object ∈ d.passedOver c :=
      List.mem_filter.2 ⟨hobject, decide_eq_true hsatisfied⟩
    rw [← Except.ok.inj h, List.mem_filter, Bool.bne_true, decide_eq_true hnamed] at hmem
    exact absurd hmem.2 (by simp)
  · intro h
    refine congrArg Except.ok (List.filter_congr fun object hobject => ?_)
    rw [Bool.bne_true, decide_not]
    exact congrArg _ (decide_eq_decide.2 (h.mem_names_iff hobject))

theorem keepsNamesakes_members (d : Draft Member) {c : Codebase}
    (h : ∀ t ∈ c.types, t.NamesMembersApart) : d.KeepsNamesakes c :=
  d.keepsNamesakes_of_nodup ((Codebase.nodup_fullName_members h).sublist
    (List.filter_sublist.map _))

theorem result_objects_oneOf_of_keepsNamesakes (d : Draft α) {c : Codebase}
    (h : d.KeepsNamesakes c) :
    ((oneOf d.kind (d.selected c) false).objects c).result = .ok (d.selected c) ∧
      ((oneOf d.kind (d.selected c) true).objects c).result = .ok (d.passedOver c) :=
  ⟨(d.result_objects_oneOf_selected_iff c).2 h, (d.result_objects_oneOf_passedOver_iff c).2 h⟩

/-! ### Selections that come back -/

/-- **Selecting by name.** Take a draft that continues no other rule and can name its objects. The
objects of its kind that are one of those are all that have one of their full names, and the objects
that are not are those that have none. So what was selected comes back, and so does what was passed
over, in order and as often as it occurs, just if the draft keeps namesakes together. For types it
always does. For members it does if every type attaches its members and gives them different simple
names without dots. -/
theorem selects_by_name (c : Codebase) :
    (∀ {α : Type} [Element α] (d : Draft α) (objects : List α), d.prior = none →
      (d.objects c).result = .ok objects →
        ((oneOf d.kind objects false).objects c).result = .ok ((d.kind.select c).filter
          fun object => Element.fullName object ∈ objects.map Element.fullName) ∧
        ((oneOf d.kind objects true).objects c).result = .ok ((d.kind.select c).filter
          fun object => Element.fullName object ∉ objects.map Element.fullName) ∧
        (((oneOf d.kind objects false).objects c).result = .ok objects ↔ d.KeepsNamesakes c) ∧
        (((oneOf d.kind objects true).objects c).result = .ok (d.passedOver c) ↔
          d.KeepsNamesakes c)) ∧
    (∀ (d : Draft TypeDecl) (objects : List TypeDecl), d.prior = none →
      (d.objects c).result = .ok objects →
        ((oneOf d.kind objects false).objects c).result = .ok objects ∧
        ((oneOf d.kind objects true).objects c).result = .ok (d.passedOver c)) ∧
    ∀ (d : Draft Member) (objects : List Member), d.prior = none →
      (d.objects c).result = .ok objects → (∀ t ∈ c.types, t.NamesMembersApart) →
        ((oneOf d.kind objects false).objects c).result = .ok objects ∧
        ((oneOf d.kind objects true).objects c).result = .ok (d.passedOver c) := by
  refine ⟨fun d objects hprior hobjects => ?_, fun d objects hprior hobjects => ?_,
    fun d objects hprior hobjects hapart => ?_⟩
  · obtain rfl := eq_selected_of_result_objects hprior hobjects
    refine ⟨?_, ?_, d.result_objects_oneOf_selected_iff c, d.result_objects_oneOf_passedOver_iff c⟩
    · simp only [result_objects_oneOf, Bool.bne_false]
    · simp only [result_objects_oneOf, Bool.bne_true, decide_not]
  · obtain rfl := eq_selected_of_result_objects hprior hobjects
    exact d.result_objects_oneOf_of_keepsNamesakes (d.keepsNamesakes_types c)
  · obtain rfl := eq_selected_of_result_objects hprior hobjects
    exact d.result_objects_oneOf_of_keepsNamesakes (d.keepsNamesakes_members hapart)

/-- A method of some visibility. -/
def methodOf (name : String) (visibility : Visibility) : Member :=
  (Member.ofName .method name).withVisibility visibility

/-- A service that can be run and stopped, and a job that can be run. -/
def serviceTypes : List TypeDecl :=
  [((TypeDecl.ofName .classType "App.Service").withMember (methodOf "Run" .pub)).withMember
      (methodOf "Stop" .priv),
    (TypeDecl.ofName .classType "App.Job").withMember (methodOf "Run" .priv)]

/-- Methods that are public. -/
def publicMethods : Draft Member :=
  (start .methodMembers).that ((Criterion.visibility .pub).predicate false)

/-- Classes that are public. -/
def publicClasses : Draft TypeDecl :=
  (start .classes).that ((Criterion.visibility .pub).predicate false)

theorem selects_by_name_services :
    ((oneOf .methodMembers [(methodOf "Run" .pub).attachedTo "App.Service"] false).objects
        (.ofTypes serviceTypes)).result =
      .ok [(methodOf "Run" .pub).attachedTo "App.Service"] ∧
    ((oneOf .methodMembers [(methodOf "Run" .pub).attachedTo "App.Service"] true).objects
        (.ofTypes serviceTypes)).result =
      .ok [(methodOf "Stop" .priv).attachedTo "App.Service",
        (methodOf "Run" .priv).attachedTo "App.Job"] ∧
    publicMethods.KeepsNamesakes (.ofTypes serviceTypes) ∧
    ((oneOf .classes serviceTypes false).objects (.ofTypes serviceTypes)).result =
      .ok serviceTypes := by
  obtain ⟨hobjects, htypes, hmembers⟩ := selects_by_name (.ofTypes serviceTypes)
  have hapart : ∀ t ∈ (Codebase.ofTypes serviceTypes).types, t.NamesMembersApart := by
    intro t ht
    rcases List.mem_cons.1 ht with rfl | ht
    · exact ⟨by decide, by decide, by decide⟩
    · obtain rfl := List.mem_singleton.1 ht
      exact ⟨by decide, by decide, by decide⟩
  obtain ⟨hback, hrest⟩ := hmembers publicMethods _ rfl rfl hapart
  obtain ⟨-, -, hiff, -⟩ := hobjects publicMethods _ rfl rfl
  exact ⟨hback, hrest, hiff.1 hback, (htypes publicClasses _ rfl rfl).1⟩

/-- A service that can be run in two ways, one of them private. -/
def overloadedTypes : List TypeDecl :=
  [((TypeDecl.ofName .classType "App.Service").withMember (methodOf "Run" .pub)).withMember
    (methodOf "Run" .priv)]

/-- The public method is selected alone, but by its name the private one is selected with it. -/
theorem overloads_not_told_apart :
    (publicMethods.objects (.ofTypes overloadedTypes)).result =
      .ok [(methodOf "Run" .pub).attachedTo "App.Service"] ∧
    ((oneOf .methodMembers [(methodOf "Run" .pub).attachedTo "App.Service"] false).objects
        (.ofTypes overloadedTypes)).result =
      .ok [(methodOf "Run" .pub).attachedTo "App.Service",
        (methodOf "Run" .priv).attachedTo "App.Service"] ∧
    ((oneOf .methodMembers [(methodOf "Run" .pub).attachedTo "App.Service"] true).objects
        (.ofTypes overloadedTypes)).result = .ok [] ∧
    ¬ ∀ (d : Draft Member) (c : Codebase) (objects : List Member), d.prior = none →
      (d.objects c).result = .ok objects →
        ((oneOf d.kind objects false).objects c).result = .ok objects := by
  refine ⟨rfl, rfl, rfl, fun hclaim => ?_⟩
  have hback := hclaim publicMethods (.ofTypes overloadedTypes) _ rfl rfl
  exact absurd (Except.ok.inj hback) (by decide)

end Draft

end DesignRules
