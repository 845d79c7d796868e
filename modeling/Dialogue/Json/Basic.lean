import Dialogue.Decimal.Binary
import Dialogue.Table

/-!
# JSON trees and values

A `Json` is a tree as a text spells it: an object keeps the order and the repetitions of its keys,
and a place whose text is well formed but has no value is marked `unreadable`, so that a reader
that ignores the place can pass over it. A `Json.Value` is a tree in canonical form: keys are
strictly increasing and everything is readable. `Json.value?` gives the value of a tree.
-/

namespace Dialogue

/-- A JSON tree as a text spells it. -/
inductive Json where
  | null
  | bool (b : Bool)
  | integer (i : Int)
  | decimal (x : Float)
  | string (s : String)
  | array (items : List Json)
  | object (fields : List (String × Json))
  /-- Well-formed text without a value: a number too large, a string with half of a surrogate pair,
  an object with such a key, or a container that is nested too deep. -/
  | unreadable
  deriving Inhabited

namespace Json

/-! ### Parts of a tree -/

/-- The text of a string. -/
def string? : Json → Option String
  | .string s => some s
  | _ => none

/-- The number of an integer or decimal. -/
def number? : Json → Option Float
  | .integer i => some (Decimal.ofInteger i)
  | .decimal x => some x
  | _ => none

/-- A number or, where it is not finite, null. -/
def ofFloat (x : Float) : Json := if Decimal.isFinite x then .decimal x else .null

/-- A text or null. -/
def ofText? (s : Option String) : Json := s.elim .null .string

/-- The first field of an object under a key. -/
def field? (key : String) : Json → Option Json
  | .object fields => fields.lookup key
  | _ => none

mutual

/-- Whether every place of a tree has a value. -/
def isReadable : Json → Bool
  | .array items => allReadable items
  | .object fields => fieldsReadable fields
  | .unreadable => false
  | _ => true

/-- Whether all items are readable. -/
def allReadable : List Json → Bool
  | [] => true
  | j :: rest => j.isReadable && allReadable rest

/-- Whether the values of all fields are readable. -/
def fieldsReadable : List (String × Json) → Bool
  | [] => true
  | (_, j) :: rest => j.isReadable && fieldsReadable rest

end

/-! ### Canonical form -/

mutual

/-- The tree with the keys of every object in increasing order, the last of equal keys kept. -/
def sortKeys : Json → Json
  | .array items => .array (sortItems items)
  | .object fields => .object (Table.ofList (sortFields fields)).entries
  | j => j

/-- The items of an array with their keys sorted. -/
def sortItems : List Json → List Json
  | [] => []
  | j :: rest => j.sortKeys :: sortItems rest

/-- The fields of an object, in their order, with the keys inside them sorted. -/
def sortFields : List (String × Json) → List (String × Json)
  | [] => []
  | (k, j) :: rest => (k, j.sortKeys) :: sortFields rest

end

/-- Whether keys are strictly increasing. -/
def increasing : List (String × Json) → Bool
  | (k, _) :: (l, j) :: rest => k < l && increasing ((l, j) :: rest)
  | _ => true

mutual

/-- Whether every object has strictly increasing keys, every number is finite and every place is
readable. -/
def isCanonical : Json → Bool
  | .decimal x => Decimal.isFinite x
  | .array items => allCanonical items
  | .object fields => increasing fields && fieldsCanonical fields
  | .unreadable => false
  | _ => true

/-- Whether all items are canonical. -/
def allCanonical : List Json → Bool
  | [] => true
  | j :: rest => j.isCanonical && allCanonical rest

/-- Whether the values of all fields are canonical. -/
def fieldsCanonical : List (String × Json) → Bool
  | [] => true
  | (_, j) :: rest => j.isCanonical && fieldsCanonical rest

end

/-- A JSON value: a tree in canonical form. -/
structure Value where
  tree : Json
  canonical : tree.isCanonical

instance : Inhabited Value := ⟨⟨.null, rfl⟩⟩

/-- The value of a tree, if all of it is readable, the places of repeated keys included. -/
def value? (j : Json) : Option Value :=
  let sorted := j.sortKeys
  if !j.isReadable then none
  else if h : sorted.isCanonical then some ⟨sorted, h⟩
  else none

end Json

end Dialogue
