import DesignRules.Proofs.Catalogue.Named
import Mathlib.Data.List.Induction

/-!
# What a failure lists

Where a condition forbids dependencies, its failure says which targets offend. This module says what
is in such a list without reading the loop that fills it: every offending target and nothing else,
each once, in the order in which the object first uses them. There is only one list like that
(`Offence.Enumerates.unique`), so the detail of a failure is known to the letter.

## One loop, five conditions

The conditions differ in what offends, and in nothing else. Two of them forbid what is named and two
forbid what is not, by a list of names or by a provider; one forbids what a pattern describes. What
they do with the offenders is the same for all of them.

## The invariant

The loop goes along the targets and notes one if it offends and is not noted yet. What is noted
enumerates the offenders among the targets read so far (`Offence.Enumerates.step`). A target that is
new stands behind all others that were read, which is why the order needs no further argument.

## Main definitions

* `Offence.Enumerates` — a list of the offenders among some targets
* `Offence.Tells` — a verdict that passes where nothing offends and names the offenders elsewhere

## Main results

* `Offence.Enumerates.unique` — there is one enumeration
* `Offence.Enumerates.step`, `Offence.enumerates_targetsWhere` — one target, and all of them
* `Offence.tells_verdict` — the verdict made from an enumeration
* `failures_list_offenders` — the five conditions that list what offends
-/

namespace DesignRules

namespace Offence

/-! ### Enumerations -/

/-- The list has the offending targets, each once, in the order of their first occurrences. -/
structure Enumerates (offends : String → Prop) (targets listed : List String) : Prop where
  /-- What is listed are the targets that offend. -/
  mem_iff : ∀ target, target ∈ listed ↔ target ∈ targets ∧ offends target
  /-- None is listed twice. -/
  nodup : listed.Nodup
  /-- What occurs first is listed first. -/
  inOrder : listed.Pairwise fun earlier later => targets.idxOf earlier < targets.idxOf later

variable {offends : String → Prop} {targets listed : List String}

/-- **There is one enumeration.** -/
theorem Enumerates.unique {other : List String} (h : Enumerates offends targets listed)
    (hother : Enumerates offends targets other) : other = listed := by
  have hperm : other.Perm listed := (List.perm_ext_iff_of_nodup hother.nodup h.nodup).2
    fun target => (hother.mem_iff target).trans (h.mem_iff target).symm
  refine hperm.eq_of_pairwise (fun a b _ _ hab hba => ?_) hother.inOrder h.inOrder
  exact absurd hba (Nat.lt_asymm hab)

/-- A target that was read stands where it stood. -/
theorem Enumerates.idxOf_concat (h : Enumerates offends targets listed) (last : String) :
    ∀ target ∈ listed, (targets ++ [last]).idxOf target = targets.idxOf target :=
  fun target htarget => List.idxOf_append_of_mem ((h.mem_iff target).1 htarget).1

theorem Enumerates.inOrder_concat (h : Enumerates offends targets listed) (last : String) :
    listed.Pairwise fun earlier later =>
      (targets ++ [last]).idxOf earlier < (targets ++ [last]).idxOf later :=
  h.inOrder.imp_of_mem fun hearlier hlater hlt => by
    rwa [h.idxOf_concat last _ hearlier, h.idxOf_concat last _ hlater]

/-- One more target that does not offend, or is listed already. -/
theorem Enumerates.passOver {last : String} (h : Enumerates offends targets listed)
    (hold : offends last → last ∈ listed) : Enumerates offends (targets ++ [last]) listed := by
  refine ⟨fun target => ?_, h.nodup, h.inOrder_concat last⟩
  rw [List.mem_append, List.mem_singleton, or_and_right, ← h.mem_iff]
  refine ⟨Or.inl, ?_⟩
  rintro (htarget | ⟨rfl, hoffends⟩)
  · exact htarget
  · exact hold hoffends

/-- One more target that offends and is not listed yet. -/
theorem Enumerates.concat {last : String} (h : Enumerates offends targets listed)
    (hoffends : offends last) (hnew : last ∉ listed) :
    Enumerates offends (targets ++ [last]) (listed ++ [last]) := by
  have hunread : last ∉ targets := fun hmem => hnew ((h.mem_iff last).2 ⟨hmem, hoffends⟩)
  refine ⟨fun target => ?_, ?_, ?_⟩
  · rw [List.mem_append, List.mem_append, List.mem_singleton, h.mem_iff, or_and_right]
    refine or_congr_right ⟨?_, And.left⟩
    rintro rfl
    exact ⟨rfl, hoffends⟩
  · rw [List.nodup_append]
    refine ⟨h.nodup, List.pairwise_singleton _ _, fun target htarget other hother heq => ?_⟩
    obtain rfl := List.mem_singleton.1 hother
    exact hnew (heq ▸ htarget)
  · rw [List.pairwise_append]
    refine ⟨h.inOrder_concat last, List.pairwise_singleton _ _, fun earlier hearlier later h' => ?_⟩
    obtain rfl := List.mem_singleton.1 h'
    -- all that is listed was read, and what is read now stands behind it
    have hread : earlier ∈ targets := ((h.mem_iff earlier).1 hearlier).1
    rw [h.idxOf_concat later _ hearlier, List.idxOf_append_of_notMem hunread]
    exact Nat.lt_of_lt_of_le (List.idxOf_lt_length_of_mem hread) (Nat.le_add_right _ _)

/-- **One more target** is listed if it offends and is not listed yet. -/
theorem Enumerates.step {pick : String → Bool}
    (hpick : ∀ target, pick target = true ↔ offends target) (h : Enumerates offends targets listed)
    (last : String) :
    Enumerates offends (targets ++ [last])
      (if pick last && !listed.contains last then listed ++ [last] else listed) := by
  split
  · next hnew =>
    obtain ⟨hoffends, hunlisted⟩ : offends last ∧ last ∉ listed := by simpa [hpick] using hnew
    exact h.concat hoffends hunlisted
  · next hold =>
    refine h.passOver fun hoffends => ?_
    by_contra hunlisted
    exact hold (by simp [hpick, hoffends, hunlisted])

theorem enumerates_collect {pick : String → Bool}
    (hpick : ∀ target, pick target = true ↔ offends target) (targets : List String) :
    Enumerates offends targets (collect pick [] targets) := by
  induction targets using List.reverseRecOn with
  | nil => exact ⟨by simp [collect], List.nodup_nil, List.Pairwise.nil⟩
  | append_singleton init last ih =>
    rw [collect, List.foldl_concat]
    exact ih.step hpick last

variable {α : Type} [Element α]

theorem enumerates_targetsWhere {pick : String → Bool}
    (hpick : ∀ target, pick target = true ↔ offends target) (object : α) :
    Enumerates offends (Element.targets object) (targetsWhere object pick) :=
  enumerates_collect hpick (Element.targets object)

/-! ### Verdicts -/

/-- The verdict on an object with these targets passes, and has no detail, just if none of them
offends. Else it fails, and its detail is made of the one enumeration of those that do. -/
structure Tells (offends : String → Prop) (targets : List String) (verdict : Verdict) : Prop where
  /-- It passes just if nothing offends. -/
  pass_iff : verdict = .pass ↔ ∀ target ∈ targets, ¬ offends target
  /-- Its detail names the offenders. -/
  fail : verdict ≠ .pass → ∃ listed, (∀ other, Enumerates offends targets other ↔ other = listed) ∧
    verdict = .fail (some (", ".intercalate (listed.map Text.quoted)))

theorem tells_verdict (h : Enumerates offends targets listed) :
    Tells offends targets (verdict listed) := by
  have hpass : verdict listed = .pass ↔ listed = [] := by
    cases listed <;> simp [verdict]
  refine ⟨hpass.trans ?_, fun hfail => ⟨listed, fun other => ⟨h.unique, ?_⟩, ?_⟩⟩
  · rw [List.eq_nil_iff_forall_not_mem]
    simp only [h.mem_iff, not_and]
  · rintro rfl
    exact h
  · exact if_neg fun hempty => hfail (hpass.2 (List.isEmpty_iff.1 hempty))

theorem tells_verdict_targetsWhere {pick : String → Bool}
    (hpick : ∀ target, pick target = true ↔ offends target) (object : α) :
    Tells offends (Element.targets object) (verdict (targetsWhere object pick)) :=
  tells_verdict (enumerates_targetsWhere hpick object)

end Offence

/-! ### The conditions -/

/-- **A failure lists what offends.** Five conditions of the catalogue forbid some dependencies: on
what a pattern describes, on the types of some names or of a provider, and on all others than these.
Each of them passes an object without a detail just if none of its targets offends. Else its detail
has the offending targets in quotes, with a comma between two of them, each once, in the order in
which they first occur among the dependencies of the object, and no other target. With a provider
this is so in every codebase in which the provider succeeds. -/
theorem failures_list_offenders {α : Type} [Element α] (object : α) :
    (∀ pattern : Pattern, Offence.Tells (fun target => pattern.accepts target = true)
      (Element.targets object) (((Criterion.dependsOn pattern).condition true).check object)) ∧
    (∀ names : List String,
      Offence.Tells (fun target => target ∈ names) (Element.targets object)
          (((Criterion.dependsOnAny names).condition true).check object) ∧
        Offence.Tells (fun target => target ∉ names) (Element.targets object)
          (((Criterion.dependsOnlyOn names).condition false).check object)) ∧
    ∀ (provider : Provider TypeDecl) (c : Codebase) (types : List TypeDecl),
      (provider.objects c).result = .ok types →
        (∃ verdict,
          (((ProviderCriterion.dependsOnAnyIn provider).condition true).check object c).result =
              .ok verdict ∧
            Offence.Tells (fun target => target ∈ types.map TypeDecl.fullName)
              (Element.targets object) verdict) ∧
        ∃ verdict,
          (((ProviderCriterion.dependsOnlyOnTypesIn provider).condition false).check
              object c).result = .ok verdict ∧
            Offence.Tells (fun target => target ∉ types.map TypeDecl.fullName)
              (Element.targets object) verdict := by
  have hlisted : ∀ (names : List String) (target : String),
      names.contains target = true ↔ target ∈ names := fun names target => List.contains_iff_mem
  have hunlisted : ∀ (names : List String) (target : String),
      (!names.contains target) = true ↔ target ∉ names := by simp
  refine ⟨fun pattern => ?_, fun names => ⟨?_, ?_⟩, fun provider c types htypes => ⟨?_, ?_⟩⟩
  · exact Offence.tells_verdict_targetsWhere (fun _ => Iff.rfl) object
  · exact Offence.tells_verdict_targetsWhere (hlisted names) object
  · exact Offence.tells_verdict_targetsWhere (hunlisted names) object
  · refine ⟨_, (ProviderCriterion.result_check _ true object c).trans
      (congrArg (Except.map _) htypes), ?_⟩
    exact Offence.tells_verdict_targetsWhere
      (fun target => by rw [UseQuestion.hasName_eq_contains, hlisted]) object
  · refine ⟨_, (ProviderCriterion.result_check _ false object c).trans
      (congrArg (Except.map _) htypes), ?_⟩
    exact Offence.tells_verdict_targetsWhere
      (fun target => by rw [UseQuestion.hasName_eq_contains, hunlisted]) object

/-- A page that uses a style, the store, the style once more in another way, and an attic. -/
def furnishedPage : TypeDecl :=
  ((((TypeDecl.ofName .classType "Shop.Page").dependingOn .fieldType "Shop.Style").dependingOn
    .fieldType "Shop.Store").dependingOn .methodCall "Shop.Style").dependingOn .other "Shop.Attic"

theorem failures_list_offenders_shop :
    let store := TypeDecl.ofName .classType "Shop.Store"
    (UseQuestion.stores.provider.objects UseQuestion.shop).result = .ok [store, store] ∧
    (((ProviderCriterion.dependsOnlyOnTypesIn UseQuestion.stores.provider).condition false).check
        furnishedPage UseQuestion.shop).result =
      .ok (.fail (some "\"Shop.Style\", \"Shop.Attic\"")) ∧
    Offence.Tells (fun target => target ∉ [store, store].map TypeDecl.fullName)
      (Element.targets furnishedPage) (.fail (some "\"Shop.Style\", \"Shop.Attic\"")) := by
  intro store
  have htypes : (UseQuestion.stores.provider.objects UseQuestion.shop).result =
      .ok [store, store] := rfl
  obtain ⟨-, -, hprovided⟩ := failures_list_offenders furnishedPage
  obtain ⟨-, verdict, hverdict, htells⟩ := hprovided _ _ _ htypes
  have hfails : (((ProviderCriterion.dependsOnlyOnTypesIn UseQuestion.stores.provider).condition
      false).check furnishedPage UseQuestion.shop).result =
        .ok (.fail (some "\"Shop.Style\", \"Shop.Attic\"")) := rfl
  obtain rfl := Except.ok.inj (hverdict.symm.trans hfails)
  exact ⟨htypes, hfails, htells⟩

end DesignRules
