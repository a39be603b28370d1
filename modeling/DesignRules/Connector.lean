import DesignRules.Text.Basic

/-!
# Connectors and wordings

Conditions and rules can be joined with *and* and *or*. Every condition carries two texts, one
that says what is demanded and one that says what is wrong where the demand is not met, and both
are joined along with the condition.

## Implementation notes

The negation of a conjunction is the disjunction of the negations, so the texts for failures are
joined with the opposite connector. A text that was joined with one connector goes into
parentheses when it is joined further with the other; a wording therefore remembers the connector
it was joined with last. Operands of the same connector are not put into parentheses, because the
connectors are associative.

## Main definitions

* `Connector`, `Connector.opposite`, `Connector.text`
* `Connector.holds`, `Formula.holds` — the truth value of a join, and of a tree of joins
* `Formula`, `Formula.fold` — a tree of joins over leaves, and its value
* `Formula.Related` — two trees that correspond node by node
* `Wording`, `Wording.join` — the two texts of a condition, and of a joined condition
* `Join`, `Formula.combine` — things that can be joined

## Main results

* `Formula.Related.combine` — what joining keeps, whole trees keep
* `Formula.value_combine` — a value that is known for joins is known for whole trees
* `Wording.join_assoc` — regrouping a chain of one connector changes no text
-/

namespace DesignRules

/-- How two conditions or two rules are joined. -/
inductive Connector where
  | and
  | or
  deriving DecidableEq, Repr

namespace Connector

/-- The connector as a word of a sentence. -/
def text : Connector → String
  | and => "and"
  | or => "or"

/-- The connector of a word. -/
def ofWord? : String → Option Connector
  | "and" => some and
  | "or" => some or
  | _ => none

theorem ofWord?_text (c : Connector) : ofWord? c.text = some c := by
  cases c <;> rfl

/-- The other connector. -/
def opposite : Connector → Connector
  | and => or
  | or => and

@[simp] theorem opposite_opposite (c : Connector) : c.opposite.opposite = c := by
  cases c <;> rfl

/-- What a connector makes of two truth values. -/
def holds : Connector → Bool → Bool → Bool
  | and, first, second => first && second
  | or, first, second => first || second

theorem holds_not (c : Connector) (first second : Bool) :
    c.opposite.holds (!first) (!second) = !c.holds first second := by
  cases c <;> cases first <;> rfl

/-- Two texts with the connector between them. -/
def between (c : Connector) (first second : String) : String :=
  first ++ " " ++ c.text ++ " " ++ second

end Connector

/-! ### Trees of joins -/

/-- A tree whose inner nodes are joins. -/
inductive Formula (α : Type) where
  | leaf (a : α)
  | join (c : Connector) (first second : Formula α)
  deriving DecidableEq, Repr

namespace Formula

variable {α β : Type}

/-- The value of a tree, given the values of its leaves and of a join. -/
def fold (leaf : α → β) (join : Connector → β → β → β) : Formula α → β
  | .leaf a => leaf a
  | .join c first second => join c (fold leaf join first) (fold leaf join second)

/-- The same tree over other leaves. -/
def map (f : α → β) : Formula α → Formula β
  | .leaf a => .leaf (f a)
  | .join c first second => .join c (map f first) (map f second)

/-- The leaves from left to right. -/
def leaves : Formula α → List α
  | .leaf a => [a]
  | .join _ first second => leaves first ++ leaves second

/-- The truth value of a tree over truth values. -/
def holds : Formula Bool → Bool := fold id Connector.holds

/-- Two trees have the same shape, with their connectors related by `σ` and their leaves by `R`. -/
inductive Related (σ : Connector → Connector) (R : α → β → Prop) : Formula α → Formula β → Prop
  | leaf {a : α} {b : β} (h : R a b) : Related σ R (.leaf a) (.leaf b)
  | join (c : Connector) {f g : Formula α} {f' g' : Formula β} (hfirst : Related σ R f f')
      (hsecond : Related σ R g g') : Related σ R (.join c f g) (.join (σ c) f' g')

end Formula

/-- Things that can be joined with a connector. -/
class Join (α : Type) where
  /-- The two things as one. -/
  join : Connector → α → α → α

/-- A tree of things that can be joined, as one thing. -/
def Formula.combine {α : Type} [Join α] (f : Formula α) : α := f.fold id Join.join

/-- What relates leaves and is kept by joining relates whole trees. -/
theorem Formula.Related.combine {α β : Type} [Join α] [Join β] {σ : Connector → Connector}
    {R : α → β → Prop}
    (hjoin : ∀ (c : Connector) {a b : α} {a' b' : β}, R a a' → R b b' →
      R (Join.join c a b) (Join.join (σ c) a' b'))
    {f : Formula α} {g : Formula β} (h : f.Related σ R g) : R f.combine g.combine := by
  induction h with
  | leaf h => exact h
  | join c _ _ ihfirst ihsecond => exact hjoin c ihfirst ihsecond

/-- Where the value of a join is made from those of its operands, the value of a tree is made from
those of its leaves. -/
theorem Formula.value_combine {α β : Type} [Join α] (value : α → β) {join : Connector → β → β → β}
    (hvalue : ∀ (c : Connector) (a b : α), value (Join.join c a b) = join c (value a) (value b))
    (f : Formula α) : value f.combine = (f.map value).fold id join := by
  induction f with
  | leaf a => rfl
  | join c f g ihfirst ihsecond =>
    show value (Join.join c f.combine g.combine) = join c _ _
    rw [hvalue, ihfirst, ihsecond]

/-! ### Wordings -/

/-- The texts of a condition. -/
structure Wording where
  /-- What the condition demands. -/
  description : String
  /-- What is wrong where the demand is not met. -/
  failDescription : String
  /-- The connector that the texts were joined with last, if they were joined at all. -/
  joined : Option Connector
  deriving DecidableEq, Repr

namespace Wording

/-- The wording of a condition that is not a join. -/
def plain (description failDescription : String) : Wording := ⟨description, failDescription, none⟩

/-- An operand of a join with connector `c`, in parentheses if it was joined with the other
connector. -/
def operand (c : Connector) (joined : Option Connector) (text : String) : String :=
  match joined with
  | none => text
  | some inner => if inner = c then text else "(" ++ text ++ ")"

/-- The wording of two conditions joined with a connector. -/
def join (c : Connector) (a b : Wording) : Wording where
  description := c.between (operand c a.joined a.description) (operand c b.joined b.description)
  failDescription :=
    c.opposite.between (operand c a.joined a.failDescription)
      (operand c b.joined b.failDescription)
  joined := some c

instance : Join Wording := ⟨join⟩

@[simp] theorem joined_join (c : Connector) (a b : Wording) : (join c a b).joined = some c := rfl

@[simp] theorem operand_none (c : Connector) (text : String) : operand c none text = text := rfl

@[simp] theorem operand_self (c : Connector) (text : String) : operand c (some c) text = text := by
  simp [operand]

theorem operand_of_ne {c d : Connector} (h : d ≠ c) (text : String) :
    operand c (some d) text = "(" ++ text ++ ")" := by
  simp [operand, h]

theorem join_assoc (c : Connector) (w₁ w₂ w₃ : Wording) :
    join c (join c w₁ w₂) w₃ = join c w₁ (join c w₂ w₃) := by
  simp [join, Connector.between, String.append_assoc]

end Wording

end DesignRules
