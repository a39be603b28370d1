import DesignRules.Connector

/-!
# Conditions on whether there are objects

An existence condition is not about single objects but about how many there are.

## Main definitions

* `Existence`, `Existence.exist`, `Existence.notExist` — the two basic ones
* `Existence.join` — two of them joined
-/

namespace DesignRules

/-- A condition on the number of objects. -/
structure Existence where
  /-- Whether the condition holds for that number of objects. -/
  holds : Nat → Bool
  /-- How the condition reads. -/
  wording : Wording

namespace Existence

/-- There is at least one object. -/
def exist : Existence := ⟨fun count => 0 < count, .plain "exist" "does not exist"⟩

/-- There is no object. -/
def notExist : Existence := ⟨fun count => count == 0, .plain "not exist" "does exist"⟩

/-- Two existence conditions joined. -/
def join (c : Connector) (a b : Existence) : Existence where
  holds count :=
    match c with
    | .and => a.holds count && b.holds count
    | .or => a.holds count || b.holds count
  wording := .join c a.wording b.wording

instance : Join Existence := ⟨join⟩

end Existence

end DesignRules
