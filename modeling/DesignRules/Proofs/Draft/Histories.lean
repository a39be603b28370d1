import DesignRules.Proofs.List.Earlier
import DesignRules.Proofs.Rule.Combined
import Mathlib.Data.List.DropRight

/-!
# The histories of a draft

A draft is built by calls in any order. What it comes to depends on three histories only: the calls
that narrow down its subject, those that shape its assertion, and those that give a reason. How the
three are interleaved makes no difference, and each part of the draft can be read off its history.

## Why the histories are independent

Calls from different histories commute (`Draft.call_comm`), so the calls of a chain can be sorted by
history (`Draft.run_eq_run_histories`). The step is one call past another; everything about chains
is an induction on it.

## The connector that is pending

Within its history the assertion depends on the order of the calls, and on more than the draft
shows: a connector that was announced waits for the next condition. It is used up by a condition
even if there is nothing to join it to, but an existence condition leaves it waiting. What a
condition is joined with can still be told from the calls alone, since only those after the
condition before it count (`Draft.announced?`).

## Refused objects

A draft that continues another rule refuses to name its objects, whatever the calls. The refusal
quotes the description of the draft, and so it does change with every call.

## Main definitions

* `Draft.Call.Matter`, `Draft.history` — what a call is about, and the calls about it
* `Draft.since` — the calls after the last one of a sort
* `Draft.announced?`, `Draft.demanded`, `Draft.asserted` — the assertion, read off the calls

## Main results

* `Draft.call_comm`, `Draft.run_eq_run_histories` — calls from different histories
* `Draft.predicates_run`, `Draft.reason_run`, `Draft.pending_run`, `Draft.assertion_run` — the parts
  of a draft
* `Draft.run_by_histories` — all of a draft
-/

namespace DesignRules

namespace Draft

variable {α β : Type}

/-! ### What calls are about -/

namespace Call

/-- What a call is about. -/
inductive Matter where
  | subject
  | assertion
  | reason
  deriving DecidableEq, Repr

/-- The matter of a call. A connector is announced for the sake of the assertion. -/
def matter : Call α → Matter
  | that _ => .subject
  | require _ => .assertion
  | requireExistence _ => .assertion
  | joinNext _ => .assertion
  | because _ => .reason

/-- The predicate that a call adds. -/
def predicate? : Call α → Option (Predicate α)
  | that p => some p
  | _ => none

/-- The condition on each object that a call adds. -/
def condition? : Call α → Option (Condition α)
  | require condition => some condition
  | _ => none

/-- The existence condition that a call sets. -/
def existence? : Call α → Option Existence
  | requireExistence condition => some condition
  | _ => none

/-- The connector that a call announces. -/
def connector? : Call α → Option Connector
  | joinNext k => some k
  | _ => none

/-- The reason that a call gives. -/
def reason? : Call α → Option String
  | because reason => some reason
  | _ => none

end Call

/-- The calls about one matter, in order. -/
def history (m : Call.Matter) (calls : List (Call α)) : List (Call α) :=
  calls.filter fun x => x.matter = m

/-! ### Sorting calls by matter -/

/-- **Calls about different matters commute.** -/
theorem call_comm {x y : Call α} (h : x.matter ≠ y.matter) (d : Draft α) :
    (d.call x).call y = (d.call y).call x := by
  cases x <;> cases y <;> first | rfl | exact absurd rfl h

theorem call_run {x : Call α} {calls : List (Call α)} (h : ∀ y ∈ calls, x.matter ≠ y.matter)
    (d : Draft α) : (d.call x).run calls = (d.run calls).call x := by
  induction calls generalizing d with
  | nil => rfl
  | cons y rest ih =>
    obtain ⟨hy, hrest⟩ := List.forall_mem_cons.1 h
    rw [run_cons, run_cons, call_comm hy, ih hrest]

theorem call_run_history {x : Call α} {m : Call.Matter} (h : x.matter ≠ m) (calls : List (Call α))
    (d : Draft α) : (d.call x).run (history m calls) = (d.run (history m calls)).call x := by
  refine call_run (fun y hy => ?_) d
  rw [of_decide_eq_true (List.mem_filter.1 hy).2]
  exact h

theorem history_cons (m : Call.Matter) (x : Call α) (rest : List (Call α)) :
    history m (x :: rest) = if x.matter = m then x :: history m rest else history m rest := by
  rw [history, List.filter_cons]
  simp only [decide_eq_true_eq, history]

/-- **The calls of a chain can be sorted by matter.** The first call goes to the front of its
history as soon as it has passed the histories before that one. -/
theorem run_eq_run_histories (d : Draft α) (calls : List (Call α)) :
    d.run calls = ((d.run (history .subject calls)).run (history .assertion calls)).run
      (history .reason calls) := by
  induction calls generalizing d with
  | nil => rfl
  | cons x rest ih =>
    rw [run_cons, ih, history_cons, history_cons, history_cons]
    cases hmatter : x.matter with
    | subject => rfl
    | assertion =>
      have hsubject : x.matter ≠ .subject := by rw [hmatter]; decide
      rw [call_run_history hsubject]
      rfl
    | reason =>
      have hsubject : x.matter ≠ .subject := by rw [hmatter]; decide
      have hassertion : x.matter ≠ .assertion := by rw [hmatter]; decide
      rw [call_run_history hsubject, call_run_history hassertion]
      rfl

/-- The interleaving of the histories makes no difference. -/
theorem run_eq_of_history_eq {calls calls' : List (Call α)}
    (h : ∀ m, history m calls = history m calls') (d : Draft α) : d.run calls = d.run calls' := by
  rw [run_eq_run_histories d calls, run_eq_run_histories d calls', h, h, h]

/-! ### Predicates and reasons -/

theorem predicates_run (d : Draft α) (calls : List (Call α)) :
    (d.run calls).predicates = d.predicates ++ calls.filterMap Call.predicate? := by
  induction calls generalizing d with
  | nil => exact (List.append_nil _).symm
  | cons x rest ih =>
    rw [run_cons, ih]
    cases x with
    | that p => exact List.append_assoc ..
    | _ => rfl

/-- Of all reasons that are given, the last one counts. -/
theorem reason_run (d : Draft α) (calls : List (Call α)) :
    (d.run calls).reason = (calls.filterMap Call.reason?).getLast?.or d.reason := by
  induction calls generalizing d with
  | nil => rfl
  | cons x rest ih =>
    rw [run_cons, ih]
    cases x with
    | because reason =>
      show _ = ((reason :: rest.filterMap Call.reason?).getLast?).or d.reason
      rw [List.getLast?_cons]
      cases (rest.filterMap Call.reason?).getLast? <;> rfl
    | _ => rfl

/-! ### The pending connector -/

/-- The calls after the last one that has something of a sort. -/
def since (what? : Call α → Option β) (calls : List (Call α)) : List (Call α) :=
  calls.rtakeWhile fun x => (what? x).isNone

theorem since_concat (what? : Call α → Option β) (calls : List (Call α)) (x : Call α) :
    since what? (calls ++ [x]) = if (what? x).isNone then since what? calls ++ [x] else [] :=
  List.rtakeWhile_concat ..

/-- If the last calls have something of the sort, those before them do not matter. -/
theorem since_append {what? : Call α → Option β} {calls : List (Call α)}
    (h : ∃ x ∈ calls, (what? x).isSome = true) (before : List (Call α)) :
    since what? (before ++ calls) = since what? calls := by
  induction calls using List.reverseRecOn with
  | nil => simp at h
  | append_singleton init last ih =>
    rw [← List.append_assoc, since_concat, since_concat]
    cases hlast : what? last with
    | some b => rfl
    | none =>
      obtain ⟨x, hx, hsome⟩ := h
      rcases List.mem_append.1 hx with hx | hx
      · rw [ih ⟨x, hx, hsome⟩]
      · obtain rfl := List.mem_singleton.1 hx
        simp [hlast] at hsome

/-- The connector announced last after some calls, unless a condition has used it up. -/
def announced? (calls : List (Call α)) : Option Connector :=
  ((since Call.condition? calls).filterMap Call.connector?).getLast?

theorem announced?_concat (calls : List (Call α)) (x : Call α) :
    announced? (calls ++ [x]) =
      if x.condition?.isSome then none else x.connector?.or (announced? calls) := by
  rw [announced?, since_concat]
  cases x.condition? with
  | some p => rfl
  | none =>
    rw [if_pos Option.isNone_none, List.filterMap_append]
    cases hconnector : x.connector? with
    | none =>
      rw [List.filterMap_cons_none hconnector]
      exact congrArg List.getLast? (List.append_nil _)
    | some k =>
      rw [List.filterMap_cons_some hconnector]
      exact List.getLast?_concat

/-- **What is pending was announced after the last condition.** -/
theorem pending_run {d : Draft α} (hpending : d.pending = none) (calls : List (Call α)) :
    (d.run calls).pending = announced? calls := by
  induction calls using List.reverseRecOn with
  | nil => exact hpending
  | append_singleton init last ih =>
    rw [run, List.foldl_concat, announced?_concat, ← ih]
    cases last <;> rfl

/-! ### The assertion -/

/-- The conditions that the calls add, each with the connector announced for it. -/
def demanded (calls : List (Call α)) : List (Option Connector × Condition α) :=
  (withEarlier calls).filterMap fun place =>
    place.2.condition?.map fun condition => (announced? place.1, condition)

theorem demanded_concat (calls : List (Call α)) (x : Call α) :
    demanded (calls ++ [x]) = demanded calls ++
      (x.condition?.map fun condition => (announced? calls, condition)).toList := by
  rw [demanded, withEarlier_concat, List.filterMap_append, List.filterMap_cons]
  cases x.condition? <;> rfl

theorem exists_condition_of_demanded_ne_nil {calls : List (Call α)} (h : demanded calls ≠ []) :
    ∃ x ∈ calls, x.condition?.isSome = true := by
  obtain ⟨demand, hdemand⟩ := List.exists_mem_of_ne_nil _ h
  obtain ⟨⟨before, x⟩, hplace, hcondition⟩ := List.mem_filterMap.1 hdemand
  obtain ⟨after, rfl⟩ := mem_withEarlier_iff.1 hplace
  obtain ⟨condition, hx, -⟩ := Option.map_eq_some_iff.1 hcondition
  exact ⟨x, List.mem_append_right _ (List.mem_cons_self ..), Option.isSome_of_mem hx⟩

/-- Conditions joined from left to right, each with the connector that was announced for it, or with
*and* if none was. Nothing is joined to the first condition, so its connector does not count. -/
def chained (first : Condition α) (rest : List (Option Connector × Condition α)) : Condition α :=
  rest.foldl (fun current next => .join (next.1.getD .and) current next.2) first

/-- What a draft asserts after some calls: the conditions added after the last existence condition,
in a chain; or that existence condition, if no condition was added after it; or nothing, if there is
neither. -/
def asserted (calls : List (Call α)) : Option (Assertion α) :=
  match demanded (since Call.existence? calls) with
  | [] => (calls.filterMap Call.existence?).getLast?.map .existence
  | (_, first) :: rest => some (.eachObject (chained first rest))

/-- Calls of other sorts leave the assertion as it is. -/
theorem asserted_concat_of_none {x : Call α} (hcondition : x.condition? = none)
    (hexistence : x.existence? = none) (calls : List (Call α)) :
    asserted (calls ++ [x]) = asserted calls := by
  rw [asserted, asserted, since_concat, hexistence, if_pos Option.isNone_none, demanded_concat,
    hcondition, List.filterMap_append, List.filterMap_cons_none hexistence]
  simp only [Option.map_none, Option.toList_none, List.filterMap_nil, List.append_nil]

theorem asserted_concat_requireExistence (calls : List (Call α)) (condition : Existence) :
    asserted (calls ++ [.requireExistence condition]) = some (.existence condition) := by
  have hsince : since Call.existence? (calls ++ [.requireExistence condition]) = [] := by
    rw [since_concat]
    rfl
  rw [asserted, hsince, List.filterMap_append]
  exact congrArg (Option.map Assertion.existence) List.getLast?_concat

/-- The first condition after an existence condition takes its place, and any further condition is
joined to those before it. -/
theorem asserted_concat_require {d : Draft α} {calls : List (Call α)}
    (hassertion : d.assertion = asserted calls) (hpending : d.pending = announced? calls)
    (condition : Condition α) :
    asserted (calls ++ [.require condition]) = some (d.preview condition) := by
  have hsince : since Call.existence? (calls ++ [.require condition]) =
      since Call.existence? calls ++ [.require condition] := since_concat ..
  rw [asserted, hsince, demanded_concat, preview, hassertion, hpending, asserted]
  cases hdemanded : demanded (since Call.existence? calls) with
  | nil => cases (calls.filterMap Call.existence?).getLast? <;> rfl
  | cons demand rest =>
    -- the condition before is one of the last calls, so only these say what was announced since
    have hannounced : announced? (since Call.existence? calls) = announced? calls := by
      have hsome := exists_condition_of_demanded_ne_nil
        (hdemanded ▸ List.cons_ne_nil demand rest)
      have hsplit : calls.rdropWhile (fun x => x.existence?.isNone) ++
          since Call.existence? calls = calls := List.rdropWhile_append_rtakeWhile
      rw [announced?, ← since_append hsome, hsplit, ← announced?]
    rw [hannounced, List.cons_append]
    show some (Assertion.eachObject (chained demand.2 (rest ++ [_]))) = _
    rw [chained, List.foldl_concat]
    rfl

/-- **What a draft asserts.** -/
theorem assertion_run {d : Draft α} (hassertion : d.assertion = none) (hpending : d.pending = none)
    (calls : List (Call α)) : (d.run calls).assertion = asserted calls := by
  induction calls using List.reverseRecOn with
  | nil => exact hassertion
  | append_singleton init last ih =>
    rw [run, List.foldl_concat]
    show ((d.run init).call last).assertion = _
    cases last with
    | require condition =>
      exact (asserted_concat_require ih (pending_run hpending init) condition).symm
    | requireExistence condition => exact (asserted_concat_requireExistence init condition).symm
    | _ => exact ih.trans (asserted_concat_of_none rfl rfl init).symm

/-! ### Objects -/

variable [Element α]

/-- Calls about the assertion or the reason do not change which objects a draft is about. -/
theorem objects_call {d : Draft α} (hprior : d.prior = none) {x : Call α}
    (hmatter : x.matter ≠ .subject) (c : Codebase) : (d.call x).objects c = d.objects c := by
  have hcandidates : (d.call x).candidates c = d.candidates c := by
    cases x with
    | that p => exact absurd rfl hmatter
    | _ => rfl
  rw [objects, objects, isCombined, isCombined, prior_call, hprior, hcandidates]
  rfl

/-- Drafts that continue another rule refuse, and quote their description. -/
theorem objects_of_prior_ne_none {d : Draft α} (hprior : d.prior ≠ none) (c : Codebase) :
    d.objects c = .fail (.objectsOfCombined d.description) :=
  if_pos (Option.isSome_iff_ne_none.2 hprior)

/-- **A draft depends on three histories.** Take a draft that has just been started, alone or as the
continuation of another rule, and any calls on it. Its predicates are those of the calls, in order,
and its reason is the last one given. It asserts the conditions added after the last existence
condition, joined from left to right with the connector announced last since the condition before,
or with *and* if none was announced; if no condition follows, the existence condition; and nothing
if there is neither. Calls with the same three histories, however they are interleaved, make the
same draft, so it reads the same, names the same objects and evaluates to the same. The objects of a
draft that continues no other rule stay as they are under calls about other matters than its
subject; any other draft refuses to name objects. -/
theorem run_by_histories (κ : Kind α) (prior : Option (Rule × Connector)) (calls : List (Call α)) :
    let fresh : Draft α := { start κ with prior := prior }
    let d := fresh.run calls
    d.predicates = calls.filterMap Call.predicate? ∧
    d.reason = (calls.filterMap Call.reason?).getLast? ∧
    d.assertion = asserted calls ∧
    (∀ calls', (∀ m, history m calls = history m calls') → d = fresh.run calls') ∧
    (∀ (x : Call α) (c : Codebase), prior = none → x.matter ≠ .subject →
      (d.call x).objects c = d.objects c) ∧
    ∀ c, prior ≠ none → d.objects c = .fail (.objectsOfCombined d.description) := by
  intro fresh d
  have hprior : d.prior = prior := prior_run fresh calls
  refine ⟨predicates_run fresh calls, ?_, assertion_run rfl rfl calls,
    fun calls' h => run_eq_of_history_eq h fresh,
    fun x c hnone hmatter => objects_call (hprior.trans hnone) hmatter c,
    fun c hsome => objects_of_prior_ne_none (hprior ▸ hsome) c⟩
  rw [reason_run]
  exact Option.or_none

/-- The demand that an object should be of some sort. -/
def demand (sort : String) : Condition TypeDecl :=
  .ofTest (fun _ _ => pure true) ("be " ++ sort) ("is not " ++ sort)

/-- Calls about pages in no good order. The first connector is used up by a condition that is
dropped again, and the second one waits for a condition that is joined to nothing. -/
def pageCalls : List (Call TypeDecl) :=
  [.because "pages are old", .joinNext .or, .require (demand "small"), .joinNext .or,
    .requireExistence .exist, .require (demand "cached"),
    .that ((Criterion.visibility .pub).predicate false), .joinNext .and, .joinNext .or,
    .require (demand "static"), .because "pages are many"]

/-- The same calls, reasons first and the subject last. -/
def pageCallsSorted : List (Call TypeDecl) :=
  history .reason pageCalls ++ history .assertion pageCalls ++ history .subject pageCalls

theorem run_by_histories_pages :
    let d := (start Kind.classes).run pageCalls
    d.reason = some "pages are many" ∧
    d.assertion = some (.eachObject (.join .or (demand "cached") (demand "static"))) ∧
    d = (start Kind.classes).run pageCallsSorted ∧
    (d.call (.require (demand "public"))).objects (.ofTypes shopTypes) =
      d.objects (.ofTypes shopTypes) ∧
    ((continuing cartRule .and Kind.classes).run pageCalls).objects (.ofTypes shopTypes) =
      .fail (.objectsOfCombined ((continuing cartRule .and Kind.classes).run pageCalls).description)
    := by
  obtain ⟨-, hreason, hassertion, hsorted, hobjects, -⟩ :=
    run_by_histories Kind.classes none pageCalls
  obtain ⟨-, -, -, -, -, hrefused⟩ :=
    run_by_histories Kind.classes (some (cartRule, .and)) pageCalls
  have hhistories : ∀ m, history m pageCalls = history m pageCallsSorted := by
    intro m
    cases m <;> rfl
  exact ⟨hreason, hassertion, hsorted _ hhistories, hobjects _ _ rfl (by decide),
    hrefused _ (Option.some_ne_none _)⟩

/-- What a refusal quotes follows the calls. -/
theorem refusal_changes_with_condition :
    let d := continuing (Rule.reporting (.empty "Types should pass")) .and Kind.classes
    let bePublic := ((Criterion.visibility .pub).condition false).lift
    (d.objects (.ofTypes [])).result =
      .error (.objectsOfCombined "Types should pass and Classes") ∧
    ((d.call (.require bePublic)).objects (.ofTypes [])).result =
      .error (.objectsOfCombined "Types should pass and Classes should be public") ∧
    ¬ ∀ (d : Draft TypeDecl) (x : Call TypeDecl) (c : Codebase), x.matter ≠ .subject →
      (d.call x).objects c = d.objects c := by
  intro d bePublic
  have hbefore : (d.objects (.ofTypes [])).result =
      .error (.objectsOfCombined "Types should pass and Classes") := by decide
  have hafter : ((d.call (.require bePublic)).objects (.ofTypes [])).result =
      .error (.objectsOfCombined "Types should pass and Classes should be public") := by decide
  refine ⟨hbefore, hafter, fun hclaim => ?_⟩
  have hsame := hclaim d (.require bePublic) (.ofTypes []) (by decide)
  rw [hsame, hbefore] at hafter
  exact absurd hafter (by decide)

end Draft

end DesignRules
