/-!
# JSON values

The values of the data format in which models and results are stored, and the basic questions a
reader of such a value asks: is it a text, a list, a record with certain fields?

## Implementation notes

Two sorts of numbers are told apart: those written with digits only, which are kept as natural
numbers, and all others (with a sign, a fraction or an exponent), which are kept as they are
written. The stored forms use the first sort alone.

A record may be stored in two ways: as an object with the names of its fields, or as a list of
its fields in their declared order. A word may be stored as a text, or as an object with the word
as its only name and nothing below it.

## Main definitions

* `Json` — the values
* `Json.fieldsOf?` — the fields of a record, looked up by name
* `Json.text?`, `Json.natBelow?`, `Json.bool?`, `Json.listOf?`, `Json.word?`, `Json.optionalText?`
  — what a field holds

## Main results

* `Json.listOf?_map`, `Json.optionalText?_ofOptionalText` — reading what was stored
-/

namespace DesignRules

/-- A JSON value. -/
inductive Json where
  | null
  | bool (value : Bool)
  /-- A number written with digits alone. -/
  | nat (value : Nat)
  /-- Any other number, as it is written. -/
  | number (literal : String)
  | text (value : String)
  | list (items : List Json)
  /-- An object: names with their values, no name twice. -/
  | object (fields : List (String × Json))
  deriving Repr

namespace Json

instance : Inhabited Json := ⟨null⟩

/-- The value of a name in a list of fields. -/
abbrev lookup (name : String) (fields : List (String × Json)) : Option Json := fields.lookup name

theorem lookup_eq_none {name : String} {fields : List (String × Json)}
    (h : name ∉ fields.map Prod.fst) : lookup name fields = none := by
  refine List.lookup_eq_none_iff.2 fun field hfield => bne_iff_ne.2 fun heq => h ?_
  exact heq ▸ List.mem_map_of_mem hfield

/-- The fields with one more at the end; it takes the place of an earlier one of that name. -/
def setField (fields : List (String × Json)) (name : String) (value : Json) :
    List (String × Json) :=
  fields.filter (fun field => field.1 != name) ++ [(name, value)]

/-- The fields of a record with the given field names. What a name stands for is looked up in an
object, or is the item at the same place of a list; a list must not be longer than the names. -/
def fieldsOf? (names : List String) : Json → Option (String → Option Json)
  | object fields => some fun name => lookup name fields
  | list items =>
    if items.length ≤ names.length then some fun name => lookup name (names.zip items) else none
  | _ => none

/-- The text that a value is. -/
def text? : Json → Option String
  | text value => some value
  | _ => none

/-- The truth value that a value is. -/
def bool? : Json → Option Bool
  | bool value => some value
  | _ => none

/-- The natural number below a bound that a value is. -/
def natBelow? (bound : Nat) : Json → Option Nat
  | nat value => if value < bound then some value else none
  | _ => none

theorem natBelow?_eq_some_iff {bound n : Nat} {value : Json} :
    natBelow? bound value = some n ↔ value = nat n ∧ n < bound := by
  cases value with
  | nat m =>
    simp only [natBelow?, Option.ite_none_right_eq_some, Option.some.injEq, nat.injEq]
    constructor
    · rintro ⟨hlt, rfl⟩
      exact ⟨rfl, hlt⟩
    · rintro ⟨rfl, hlt⟩
      exact ⟨hlt, rfl⟩
  | _ => simp [natBelow?]

/-- The list that a value is, if every item can be read. -/
def listOf? {α : Type} (read? : Json → Option α) : Json → Option (List α)
  | list items => items.mapM read?
  | _ => none

/-- A list of stored forms is read item by item. -/
theorem listOf?_map {α : Type} {read? : Json → Option α} {write : α → Json}
    (h : ∀ item, read? (write item) = some item) (items : List α) :
    listOf? read? (list (items.map write)) = some items := by
  have hread (rest : List α) : (rest.map write).mapM read? = some rest := by
    induction rest with
    | nil => rfl
    | cons item rest ih => simp [h, ih]
  exact hread items

theorem listOf?_text (texts : List String) :
    listOf? text? (list (texts.map text)) = some texts :=
  @listOf?_map _ text? text (fun _ => rfl) texts

/-- The word that a value is. -/
def word? : Json → Option String
  | text value => some value
  | object [(name, null)] => some name
  | _ => none

/-- The text that a field holds, if it is there and not null. -/
def optionalText? : Option Json → Option (Option String)
  | none => some none
  | some null => some none
  | some value => value.text?.map some

/-- The value of a text that may be missing. -/
def ofOptionalText : Option String → Json
  | none => null
  | some value => text value

theorem optionalText?_ofOptionalText (value : Option String) :
    optionalText? (some (ofOptionalText value)) = some value := by
  cases value <;> rfl

end Json

end DesignRules
