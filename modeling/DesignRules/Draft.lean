import DesignRules.Provider
import DesignRules.Rule

/-!
# Drafts

A rule in the making: which objects it is about, what it asserts about them so far, why, and
which finished rule it continues. A draft can be evaluated as soon as it asserts something, and
it names its objects as a provider as long as it does not continue another rule.

## Implementation notes

A condition added to another one is joined with the connector announced before it, or with *and*
if none was. An existence condition replaces whatever was asserted before, and it is itself
replaced by the next condition. The rule that a draft continues is evaluated last.

## Main definitions

* `Draft`, `Draft.start`, `Draft.continuing` — a draft, and the two ways to begin one
* `Draft.that`, `Draft.require`, `Draft.requireExistence`, `Draft.joinNext`, `Draft.because` —
  adding to a draft
* `Draft.preview` — what would be asserted with one more condition
* `Draft.subject`, `Draft.describe`, `Draft.description` — its sentences
* `Draft.objects`, `Draft.evaluateWith`, `Draft.evaluate` — its objects, and its report
* `Draft.rule`, `Draft.provider` — a draft as a rule, and as a provider
-/

namespace DesignRules

/-- A rule in the making. -/
structure Draft (α : Type) where
  /-- The kind of objects the rule is about. -/
  kind : Kind α
  /-- The predicates that narrow the kind down. -/
  predicates : List (Predicate α)
  /-- What is asserted so far. -/
  assertion : Option (Assertion α)
  /-- How the next condition will be joined, if that was said. -/
  pending : Option Connector
  /-- Why the rule holds. -/
  reason : Option String
  /-- The rule that this one continues, and how the two are joined. -/
  prior : Option (Rule × Connector)

namespace Draft

variable {α : Type}

/-- A draft about all objects of a kind. -/
def start (κ : Kind α) : Draft α := ⟨κ, [], none, none, none, none⟩

/-- A draft about all objects of a kind that continues a finished rule. -/
def continuing (prior : Rule) (c : Connector) (κ : Kind α) : Draft α :=
  { start κ with prior := some (prior, c) }

/-! ### Adding to a draft -/

/-- The draft with one more predicate. -/
def that (d : Draft α) (p : Predicate α) : Draft α := { d with predicates := d.predicates ++ [p] }

/-- What is asserted with one more condition. -/
def preview (d : Draft α) (condition : Condition α) : Assertion α :=
  match d.assertion with
  | some (.eachObject current) => .eachObject (.join (d.pending.getD .and) current condition)
  | some (.existence _) => .eachObject condition
  | none => .eachObject condition

/-- The draft with one more condition. -/
def require (d : Draft α) (condition : Condition α) : Draft α :=
  { d with assertion := some (d.preview condition), pending := none }

/-- The draft with an existence condition in place of what it asserted. -/
def requireExistence (d : Draft α) (condition : Existence) : Draft α :=
  { d with assertion := some (.existence condition) }

/-- The draft with an announcement of how the next condition is joined. -/
def joinNext (d : Draft α) (c : Connector) : Draft α := { d with pending := some c }

/-- The draft with a reason in place of the one it had. -/
def because (d : Draft α) (reason : String) : Draft α := { d with reason := some reason }

/-- Whether the draft asserts something. -/
def hasAssertion (d : Draft α) : Bool := d.assertion.isSome

/-- Whether the draft continues another rule. -/
def isCombined (d : Draft α) : Bool := d.prior.isSome

/-! ### Sentences -/

/-- What the rule is about. -/
def subject (d : Draft α) : String :=
  if d.predicates.isEmpty then d.kind.label
  else d.kind.label ++ " that " ++ " and ".intercalate (d.predicates.map Predicate.description)

/-- The sentence with the given assertion, without the rule that it continues. -/
def describeOwn (d : Draft α) (assertion : Option (Assertion α)) : String :=
  d.subject ++
    (match assertion with
      | some a => " should " ++ a.description
      | none => "") ++
    (match d.reason with
      | some reason => " because " ++ reason
      | none => "")

/-- The whole sentence with the given assertion. -/
def describe (d : Draft α) (assertion : Option (Assertion α)) : String :=
  match d.prior with
  | some (rule, c) => c.between rule.description (d.describeOwn assertion)
  | none => d.describeOwn assertion

/-- The whole sentence. -/
def description (d : Draft α) : String := d.describe d.assertion

/-! ### Evaluation -/

variable [Element α]

/-- The objects that the rule is about. -/
def candidates (d : Draft α) (c : Codebase) : Eval (List α) :=
  Predicate.filter d.predicates c (d.kind.select c)

/-- The objects that the rule is about, unless it continues another rule, which may be about
other ones. -/
def objects (d : Draft α) (c : Codebase) : Eval (List α) :=
  if d.isCombined then .fail (.objectsOfCombined d.description) else d.candidates c

/-- The report with the given assertion. -/
def evaluateWith (d : Draft α) (assertion : Assertion α) (c : Codebase) : Eval Report := do
  let candidates ← d.candidates c
  let own ← assertion.evaluate (d.describeOwn (some assertion)) candidates c
  match d.prior with
  | none => pure own
  | some (rule, connector) => do
    let priorReport ← rule.evaluate c
    pure (.combine (d.describe (some assertion)) connector priorReport own)

/-- The report; there is none as long as nothing is asserted. -/
def evaluate (d : Draft α) (c : Codebase) : Eval Report :=
  match d.assertion with
  | some assertion => d.evaluateWith assertion c
  | none => .fail (.missingCondition d.description)

/-- The draft as a rule. -/
def rule (d : Draft α) : Rule := ⟨d.description, d.evaluate⟩

/-- The objects of the draft as a provider. -/
def provider (d : Draft α) : Provider α := ⟨d.description, d.description, d.objects⟩

end Draft

end DesignRules
