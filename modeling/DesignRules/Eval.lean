import DesignRules.Text.Basic

/-!
# Evaluation

Evaluating a rule may fail, and it tells what it does while it runs. `Eval α` is a computation of
that kind: its result, and the events that came up on the way, in order. A computation that fails
keeps the events it had before, and nothing after the failure happens.

## Implementation notes

An `Eval` is plain data, not a function of a state: two computations with the same result and
the same events are equal, so a statement about an evaluation covers its log as well.

## Main definitions

* `RuleError` — why a rule cannot be evaluated, with its message, code and help text
* `Event` — what the library reports, with its level and message
* `Eval` — a result together with the events before it; `Eval.fail`, `Eval.emit`
* `FirstError` — the first error in a list of results
* `Eval.attempt`, `Eval.Tries` — whether a computation succeeds, and what that depends on

## Main results

* `Eval.result_bind_ok`, `Eval.result_bind_error`, `Eval.events_bind_ok`,
  `Eval.events_bind_error` — sequencing by cases on the first result
* `Eval.exists_of_result_bind_ok` — a sequence that succeeds, taken apart
* `LawfulMonad Eval`
* `FirstError.append_iff` — where the first error of two lists is
* `Eval.Tries.bind` — a sequence tries what its parts try
-/

namespace DesignRules

/-! ### Errors -/

/-- Why a rule cannot be evaluated. -/
inductive RuleError where
  /-- The objects of a rule were asked for, but the rule continues another one, whose objects
  may be of another type. -/
  | objectsOfCombined (description : String)
  /-- A rule was evaluated that says nothing about its objects. -/
  | missingCondition (description : String)
  deriving DecidableEq, Repr

namespace RuleError

/-- The sentence shown for the error. -/
def message : RuleError → String
  | objectsOfCombined description =>
    "objects() can't be used with combined rule " ++ Text.quoted description ++
      " because the analyzed objects might be of different type"
  | missingCondition description =>
    "rule " ++ Text.quoted description ++ " has no condition to evaluate"

/-- A stable code for the kind of error. -/
def code : RuleError → String
  | objectsOfCombined _ => "arch_rules::combined_rule_objects"
  | missingCondition _ => "arch_rules::missing_condition"

/-- What to do about the error. -/
def help : RuleError → String
  | objectsOfCombined _ => "use the individual rules as object providers instead"
  | missingCondition _ => "finish the rule with \x60should()\x60 and a condition"

end RuleError

/-! ### Events -/

/-- How important an event is. -/
inductive Level where
  | debug
  | info
  | warn
  deriving DecidableEq, Repr

/-- The level as it is written at the beginning of a line of a log. -/
def Level.text : Level → String
  | debug => "DEBUG"
  | info => "INFO"
  | warn => "WARN"

/-- Something the library reports while it works. -/
inductive Event where
  /-- A type was left out of a codebase because an earlier one has its name. -/
  | duplicateDropped (fullName : String)
  /-- A named type is not in the codebase. -/
  | unresolvedType (name : String)
  /-- A rule was judged against its candidates. -/
  | evaluated (description : String) (candidates violations : Nat)
  /-- A configuration names a rule that is not registered. -/
  | unknownRuleConfigured (name : String)
  /-- A check begins. -/
  | checkStarted (rules types : Nat)
  /-- A rule is left out because it is disabled. -/
  | ruleSkipped (name : String)
  /-- A rule of a check is about to be evaluated. -/
  | ruleStarted (name : String)
  /-- A check has come to its end. -/
  | checkFinished (violations rules : Nat)
  deriving DecidableEq, Repr

namespace Event

/-- The level at which an event is reported. -/
def level : Event → Level
  | duplicateDropped _ => .warn
  | unresolvedType _ => .debug
  | evaluated .. => .debug
  | unknownRuleConfigured _ => .debug
  | checkStarted .. => .info
  | ruleSkipped _ => .warn
  | ruleStarted _ => .debug
  | checkFinished .. => .info

/-- The sentence shown for an event. -/
def message : Event → String
  | duplicateDropped fullName => s!"Dropping duplicate type {fullName}"
  | unresolvedType name => s!"Type {name} is not part of the architecture"
  | evaluated description candidates violations =>
    s!"Evaluated \"{description}\": {candidates} candidate(s), {violations} violation(s)"
  | unknownRuleConfigured name => s!"Configuration for unknown rule: {name}"
  | checkStarted rules types => s!"Checking {rules} rule(s) against {types} type(s)"
  | ruleSkipped name => s!"Skipping disabled rule: {name}"
  | ruleStarted name => s!"Evaluating rule: {name}"
  | checkFinished violations rules =>
    s!"Check complete: {violations} violation(s) in {rules} rule(s)"

end Event

/-! ### Computations -/

/-- A result, or the reason why there is none, and the events before it. -/
@[ext]
structure Eval (α : Type) where
  /-- What the computation came to. -/
  result : Except RuleError α
  /-- What was reported until then, in order. -/
  events : List Event

namespace Eval

variable {α β : Type}

instance : Monad Eval where
  pure a := ⟨.ok a, []⟩
  bind x f :=
    match x.result with
    | .error e => ⟨.error e, x.events⟩
    | .ok a =>
      let y := f a
      ⟨y.result, x.events ++ y.events⟩

/-- The computation that fails at once. -/
def fail (e : RuleError) : Eval α := ⟨.error e, []⟩

/-- Reports one event. -/
def emit (event : Event) : Eval Unit := ⟨.ok (), [event]⟩

/-- A result that is already known, without any event. -/
def ofResult (result : Except RuleError α) : Eval α := ⟨result, []⟩

@[simp] theorem result_pure (a : α) : (pure a : Eval α).result = .ok a := rfl

@[simp] theorem events_pure (a : α) : (pure a : Eval α).events = [] := rfl

@[simp] theorem result_fail (e : RuleError) : (fail e : Eval α).result = .error e := rfl

@[simp] theorem events_fail (e : RuleError) : (fail e : Eval α).events = [] := rfl

@[simp] theorem result_emit (event : Event) : (emit event).result = .ok () := rfl

@[simp] theorem events_emit (event : Event) : (emit event).events = [event] := rfl

theorem bind_of_ok {x : Eval α} {a : α} (h : x.result = .ok a) (f : α → Eval β) :
    x >>= f = ⟨(f a).result, x.events ++ (f a).events⟩ := by
  cases x with
  | mk result events =>
    subst h
    rfl

theorem bind_of_error {x : Eval α} {e : RuleError} (h : x.result = .error e) (f : α → Eval β) :
    x >>= f = ⟨.error e, x.events⟩ := by
  cases x with
  | mk result events =>
    subst h
    rfl

theorem result_bind_ok {x : Eval α} {a : α} (h : x.result = .ok a) (f : α → Eval β) :
    (x >>= f).result = (f a).result := by
  rw [bind_of_ok h]

theorem result_bind_error {x : Eval α} {e : RuleError} (h : x.result = .error e)
    (f : α → Eval β) : (x >>= f).result = .error e := by
  rw [bind_of_error h]

theorem exists_of_result_bind_ok {x : Eval α} {f : α → Eval β} {b : β}
    (h : (x >>= f).result = .ok b) : ∃ a, x.result = .ok a ∧ (f a).result = .ok b := by
  cases hx : x.result with
  | error e =>
    rw [result_bind_error hx] at h
    exact absurd h (by simp)
  | ok a =>
    rw [result_bind_ok hx] at h
    exact ⟨a, rfl, h⟩

theorem events_bind_ok {x : Eval α} {a : α} (h : x.result = .ok a) (f : α → Eval β) :
    (x >>= f).events = x.events ++ (f a).events := by
  rw [bind_of_ok h]

theorem events_bind_error {x : Eval α} {e : RuleError} (h : x.result = .error e)
    (f : α → Eval β) : (x >>= f).events = x.events := by
  rw [bind_of_error h]

instance : LawfulMonad Eval := LawfulMonad.mk' _
  (fun x => by
    cases x with
    | mk result events =>
      cases result with
      | error e => rfl
      | ok a =>
        show (⟨.ok a, events ++ []⟩ : Eval _) = ⟨.ok a, events⟩
        rw [List.append_nil])
  (fun a f => by
    show (⟨(f a).result, [] ++ (f a).events⟩ : Eval _) = f a
    rfl)
  (fun x f g => by
    cases hx : x.result with
    | error e => rw [bind_of_error hx, bind_of_error rfl, bind_of_error hx]
    | ok a =>
      rw [bind_of_ok hx, bind_of_ok hx]
      cases hf : (f a).result with
      | error e =>
        rw [bind_of_error (e := e) rfl, bind_of_error hf]
      | ok b =>
        rw [bind_of_ok (a := b) rfl, bind_of_ok hf, List.append_assoc])

end Eval

/-! ### The first error -/

/-- The error is the first one in a list of results. -/
inductive FirstError {β : Type} (e : RuleError) : List (Except RuleError β) → Prop
  | here (rest : List (Except RuleError β)) : FirstError e (.error e :: rest)
  | later (b : β) {rest : List (Except RuleError β)} (h : FirstError e rest) :
      FirstError e (.ok b :: rest)

namespace FirstError

variable {β : Type} {e : RuleError} {results others : List (Except RuleError β)}

@[simp] theorem not_nil : ¬ FirstError e ([] : List (Except RuleError β)) := by
  rintro ⟨⟩

@[simp] theorem cons_error_iff {d : RuleError} :
    FirstError e (.error d :: results) ↔ d = e := by
  constructor
  · rintro ⟨⟩
    rfl
  · rintro rfl
    exact .here results

@[simp] theorem cons_ok_iff {b : β} : FirstError e (.ok b :: results) ↔ FirstError e results := by
  constructor
  · intro h
    cases h with
    | later _ h => exact h
  · exact .later b

theorem singleton_iff {r : Except RuleError β} : FirstError e [r] ↔ r = .error e := by
  cases r <;> simp

/-- There is a first error just if there is any. -/
theorem exists_iff : (∃ e, FirstError e results) ↔ ∃ r ∈ results, ∃ e, r = .error e := by
  induction results with
  | nil => simp
  | cons r rest ih => cases r <;> simp [ih]

/-- The first error of two lists is in the second only if there is none in the first. -/
theorem append_iff :
    FirstError e (results ++ others) ↔
      FirstError e results ∨ (∀ r ∈ results, ∃ b, r = .ok b) ∧ FirstError e others := by
  induction results with
  | nil => simp
  | cons r rest ih => cases r <;> simp [ih]

/-- With a first error, not all results are there. -/
theorem not_all_ok (h : FirstError e results) : ¬ ∀ r ∈ results, ∃ b, r = .ok b := by
  intro hok
  obtain ⟨r, hr, d, rfl⟩ := exists_iff.1 ⟨e, h⟩
  obtain ⟨b, hb⟩ := hok _ hr
  exact absurd hb (by simp)

/-- Without a first error there is none at all. -/
theorem all_ok_of_forall_not (h : ∀ e, ¬ FirstError e results) : ∀ r ∈ results, ∃ b, r = .ok b := by
  intro r hr
  cases r with
  | ok b => exact ⟨b, rfl⟩
  | error d =>
    obtain ⟨e, he⟩ := exists_iff.2 ⟨_, hr, d, rfl⟩
    exact absurd he (h e)

end FirstError

/-! ### Attempts -/

namespace Eval

variable {α β γ : Type}

/-- Whether a computation succeeds, or else its error. -/
def attempt (x : Eval α) : Except RuleError Unit := x.result.map fun _ => ()

theorem attempt_eq_error_iff {x : Eval α} {e : RuleError} :
    x.attempt = .error e ↔ x.result = .error e := by
  rw [attempt]
  cases x.result <;> simp [Except.map]

/-- The computation fails with the first error among the attempts, and does not fail otherwise. -/
def Tries (x : Eval α) (attempts : List (Except RuleError γ)) : Prop :=
  ∀ e, x.result = .error e ↔ FirstError e attempts

namespace Tries

variable {x : Eval α} {attempts later : List (Except RuleError γ)}

theorem pure (a : α) : (Pure.pure a : Eval α).Tries ([] : List (Except RuleError γ)) := by
  intro e
  simp

theorem fail (e : RuleError) : (Eval.fail e : Eval α).Tries [(.error e : Except RuleError γ)] := by
  intro d
  simp

theorem self (x : Eval α) : x.Tries [x.result] := fun _ => FirstError.singleton_iff.symm

theorem attempt (x : Eval α) : x.Tries [x.attempt] := by
  intro e
  rw [FirstError.singleton_iff, attempt_eq_error_iff]

theorem of_result_eq {y : Eval α} (hx : x.Tries attempts) (h : y.result = x.result) :
    y.Tries attempts := by
  intro e
  rw [h, hx e]

/-- Without an error, all attempts succeed. -/
theorem forall_ok (hx : x.Tries attempts) {a : α} (ha : x.result = .ok a) :
    ∀ r ∈ attempts, ∃ b, r = .ok b := by
  refine FirstError.all_ok_of_forall_not fun e he => ?_
  rw [← hx e, ha] at he
  exact absurd he (by simp)

/-- **A sequence tries what its parts try.** The second part has to be known only for the values
that the first one can have. -/
theorem bind {f : α → Eval β} (hx : x.Tries attempts)
    (hf : ∀ a, x.result = .ok a → (f a).Tries later) : (x >>= f).Tries (attempts ++ later) := by
  intro e
  rw [FirstError.append_iff, ← hx e]
  cases hresult : x.result with
  | error d =>
    have hfirst : FirstError d attempts := (hx d).1 hresult
    rw [result_bind_error hresult, or_iff_left fun h => hfirst.not_all_ok h.1, Except.error.injEq,
      Except.error.injEq]
  | ok a =>
    rw [result_bind_ok hresult, or_iff_right (by simp), and_iff_right (hx.forall_ok hresult),
      hf a hresult e]

/-- What cannot fail makes no attempt. -/
theorem bind_of_no_attempt {f : α → Eval β} (hx : x.Tries attempts)
    (hf : ∀ a, x.result = .ok a → (f a).Tries ([] : List (Except RuleError γ))) :
    (x >>= f).Tries attempts := by
  have h := hx.bind hf
  rwa [List.append_nil] at h

/-- A computation succeeds just if all attempts do. -/
theorem exists_result_ok_iff (hx : x.Tries attempts) :
    (∃ a, x.result = .ok a) ↔ ∀ r ∈ attempts, ∃ b, r = .ok b := by
  refine ⟨fun ⟨a, ha⟩ => hx.forall_ok ha, fun hok => ?_⟩
  cases hresult : x.result with
  | ok a => exact ⟨a, rfl⟩
  | error e => exact absurd hok ((hx e).1 hresult).not_all_ok

end Tries

end Eval

end DesignRules
