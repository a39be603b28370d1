import DesignRules.Proofs.Rule.FirstErrors
import Mathlib.Data.List.Count

/-!
# Narrowing objects down in steps

The objects of a rule are narrowed down by a list of predicates at once. They can as well be
narrowed down by the first predicates and what is left by the others, and the predicates can be
given in another order or some of them twice. This module says what that changes.

## Errors

A filter goes object by object, and tests each of them with all predicates before it turns to the
next. Filtering in two steps tests all objects with the first predicates before any of them is
tested with the others. Both ways ask the same tests, since an object that is dropped in the first
step is one that a filter at once stops testing. So they succeed together; but where several tests
fail, which of them comes first is a matter of the way that is taken.

With a fixed list of objects, the order of the predicates decides which tests are asked at all. A
predicate that fails on an object comes up in one order and not in another, if a different predicate
drops the object. So nothing can be said about the order unless no test fails.

## Main definitions

* `Predicate.Decides` — testing an object comes to an end

## Main results

* `Predicate.decides_append` — the tests of two lists of predicates
* `Predicate.result_filter_eq_ok_iff` — when a filter succeeds, and with what
* `Predicate.result_filter_append_eq_ok_iff` — filtering at once and in two steps
* `Predicate.filter_in_steps` — steps, order and repetitions, and what is kept
-/

namespace DesignRules

namespace Predicate

variable {α : Type} {ps qs rs : List (Predicate α)} {c : Codebase} {object : α}
  {objects kept : List α}

/-! ### One object -/

/-- Testing the object with the predicates decides whether it is kept: none of the tests that are
asked fails. -/
def Decides (predicates : List (Predicate α)) (c : Codebase) (object : α) : Prop :=
  ∃ kept, (passesAll predicates object c).result = .ok kept

/-- Only an object that passes the first predicates is tested with the others. -/
theorem decides_append :
    Decides (ps ++ qs) c object ↔
      Decides ps c object ∧ (Satisfied ps c object → Decides qs c object) := by
  constructor
  · rintro ⟨kept, h⟩
    rw [passesAll_append] at h
    obtain ⟨passed, hfirst, hsecond⟩ := Eval.exists_of_result_bind_ok h
    refine ⟨⟨passed, hfirst⟩, fun hsatisfied => ?_⟩
    obtain rfl : passed = true :=
      (eq_decide_of_result_passesAll hfirst).trans (decide_eq_true hsatisfied)
    exact ⟨kept, hsecond⟩
  · rintro ⟨⟨passed, hfirst⟩, hsecond⟩
    have hpassed := eq_decide_of_result_passesAll hfirst
    rw [Decides, passesAll_append, Eval.result_bind_ok hfirst]
    -- An object that is dropped by the first predicates is never tested with the others.
    cases passed with
    | false => exact ⟨false, rfl⟩
    | true => exact hsecond (of_decide_eq_true hpassed.symm)

theorem satisfied_append :
    Satisfied (ps ++ qs) c object ↔ Satisfied ps c object ∧ Satisfied qs c object :=
  List.forall_mem_append

theorem satisfied_congr (h : ∀ p, p ∈ rs ↔ p ∈ ps) :
    Satisfied rs c object ↔ Satisfied ps c object :=
  forall_congr' fun p => imp_congr_left (h p)

/-! ### All objects -/

/-- **When a filter succeeds, and with what.** It succeeds if every object is decided on. -/
theorem result_filter_eq_ok_iff :
    (filter ps c objects).result = .ok kept ↔
      (∀ object ∈ objects, Decides ps c object) ∧
        kept = objects.filter fun object => Satisfied ps c object := by
  have hsucceeds : (∃ kept, (filter ps c objects).result = .ok kept) ↔
      ∀ object ∈ objects, Decides ps c object := by
    rw [(tries_filter ps c objects).exists_result_ok_iff, List.forall_mem_flatMap]
    exact forall₂_congr fun object _ => (tries_passesAll ps object c).exists_result_ok_iff.symm
  constructor
  · intro h
    exact ⟨hsucceeds.1 ⟨kept, h⟩, eq_filter_of_result_ok h⟩
  · rintro ⟨hdecides, rfl⟩
    obtain ⟨kept, h⟩ := hsucceeds.2 hdecides
    rw [h, eq_filter_of_result_ok h]

/-- **At once and in two steps.** What is left by the first predicates are the objects that the
others are asked about. -/
theorem result_filter_append_eq_ok_iff :
    (filter (ps ++ qs) c objects).result = .ok kept ↔
      ∃ between, (filter ps c objects).result = .ok between ∧
        (filter qs c between).result = .ok kept := by
  have hdecides : (∀ object ∈ objects, Decides (ps ++ qs) c object) ↔
      (∀ object ∈ objects, Decides ps c object) ∧
        ∀ object ∈ objects.filter (fun object => Satisfied ps c object), Decides qs c object := by
    simp only [decides_append, forall₂_and, List.mem_filter, decide_eq_true_eq, and_imp]
  have hkept : (objects.filter fun object => Satisfied (ps ++ qs) c object) =
      (objects.filter fun object => Satisfied ps c object).filter
        fun object => Satisfied qs c object := by
    simp only [List.filter_filter, satisfied_append, Bool.decide_and, Bool.and_comm]
  simp only [result_filter_eq_ok_iff, hdecides, hkept, and_assoc, exists_and_left,
    exists_eq_left]

/-- Where no test fails, only which predicates there are counts. -/
theorem result_filter_eq_of_mem_iff (hrs : ∀ p, p ∈ rs ↔ p ∈ ps)
    (h : ∀ p ∈ ps, ∀ object ∈ objects, ∃ passed, (p.test object c).result = .ok passed) :
    (filter rs c objects).result =
      .ok (objects.filter fun object => Satisfied ps c object) := by
  have hdecides : ∀ object ∈ objects, Decides rs c object := fun object hobject =>
    exists_result_passesAll fun p hp => h p ((hrs p).1 hp) object hobject
  refine result_filter_eq_ok_iff.2 ⟨hdecides, List.filter_congr fun object _ => ?_⟩
  exact decide_eq_decide.2 (satisfied_congr hrs).symm

/-- **Narrowing down in steps.** A list of objects can be filtered by two lists of predicates at
once, or by the first list and what is left by the second: one way succeeds just if the other one
does, with the same objects.

If no predicate fails on any of the objects, the filter succeeds, and every list of the same
predicates gives the same objects: in whatever order they are, and whether repetitions among them
are removed or added.

What is kept by a filter that succeeds are objects of the list, in its order. An object that is kept
is kept as often as it occurs there. -/
theorem filter_in_steps [DecidableEq α] (ps qs : List (Predicate α)) (c : Codebase)
    (objects : List α) :
    (∀ kept, (filter (ps ++ qs) c objects).result = .ok kept ↔
      ∃ between, (filter ps c objects).result = .ok between ∧
        (filter qs c between).result = .ok kept) ∧
    ((∀ p ∈ ps, ∀ object ∈ objects, ∃ passed, (p.test object c).result = .ok passed) →
      ∃ kept, (filter ps c objects).result = .ok kept ∧
        ∀ rs, (∀ p, p ∈ rs ↔ p ∈ ps) → (filter rs c objects).result = .ok kept) ∧
    ∀ kept, (filter ps c objects).result = .ok kept →
      kept.Sublist objects ∧ ∀ object ∈ kept, kept.count object = objects.count object := by
  refine ⟨fun kept => result_filter_append_eq_ok_iff, fun hanswers => ?_, fun kept hkept => ?_⟩
  · refine ⟨_, result_filter_eq_of_mem_iff (fun _ => Iff.rfl) hanswers, fun rs hrs => ?_⟩
    exact result_filter_eq_of_mem_iff hrs hanswers
  · obtain rfl := eq_filter_of_result_ok hkept
    refine ⟨List.filter_sublist, fun object hobject => ?_⟩
    exact List.count_filter (List.mem_filter.1 hobject).2

/-- Whether a page is linked cannot be said of a sketch. -/
def linked : Predicate TypeDecl where
  probe := .codebase fun t _ =>
    if t.name = "Sketch" then .fail (.missingCondition t.fullName) else pure true
  description := "are linked"
  failDescription := "is not linked"

/-- No sketches. -/
def finished : Predicate TypeDecl := (Criterion.name "Sketch").predicate true

/-- Nobody has measured any page. -/
def small : Predicate TypeDecl where
  probe := .codebase fun t _ => .fail (.missingCondition ("size of " ++ t.fullName))
  description := "are small"
  failDescription := "is not small"

/-- A page that is no sketch. -/
def home : TypeDecl := .ofName .classType "Site.Home"

/-- A sketch. -/
def sketch : TypeDecl := .ofName .classType "Site.Sketch"

theorem filter_in_steps_site :
    (∃ between, (filter [finished] (.ofTypes []) [home, sketch, home]).result = .ok between ∧
      (filter [linked] (.ofTypes []) between).result = .ok [home, home]) ∧
    (∃ kept, (filter [finished, linked] (.ofTypes []) [home, home]).result = .ok kept ∧
      (filter [linked, finished, linked] (.ofTypes []) [home, home]).result = .ok kept) ∧
    [home, home].count home = [home, sketch, home].count home := by
  have honce : (filter ([finished] ++ [linked]) (.ofTypes []) [home, sketch, home]).result =
      .ok [home, home] := rfl
  obtain ⟨hsteps, -, -⟩ :=
    filter_in_steps [finished] [linked] (.ofTypes []) [home, sketch, home]
  obtain ⟨-, horder, -⟩ :=
    filter_in_steps [finished, linked] [] (.ofTypes []) [home, home]
  obtain ⟨-, -, hkept⟩ :=
    filter_in_steps [finished, linked] [] (.ofTypes []) [home, sketch, home]
  have hanswers : ∀ p ∈ [finished, linked], ∀ object ∈ [home, home],
      ∃ passed, (p.test object (.ofTypes [])).result = .ok passed := by
    simp only [List.forall_mem_cons]
    exact ⟨⟨⟨_, rfl⟩, ⟨_, rfl⟩, by simp⟩, ⟨⟨_, rfl⟩, ⟨_, rfl⟩, by simp⟩, by simp⟩
  obtain ⟨kept, hfilter, hother⟩ := horder hanswers
  exact ⟨(hsteps _).1 honce, ⟨kept, hfilter, hother _ (by simp [or_comm])⟩,
    (hkept _ honce).2 home (List.mem_cons_self ..)⟩

/-- In the other order the sketch is asked whether it is linked. -/
example :
    (filter [linked, finished] (.ofTypes []) [home, sketch]).result =
      .error (.missingCondition "Site.Sketch") := rfl

/-- Two ways to fail: at once the home page comes first, and in two steps the sketch does. -/
example :
    (filter ([linked] ++ [small]) (.ofTypes []) [home, sketch]).result =
        .error (.missingCondition "size of Site.Home") ∧
      (filter [linked] (.ofTypes []) [home, sketch]).result =
        .error (.missingCondition "Site.Sketch") := ⟨rfl, rfl⟩

end Predicate

end DesignRules
