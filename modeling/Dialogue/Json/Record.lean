import Dialogue.Json.Basic

/-!
# Records and variants in JSON

A record of known fields is written as an object, in any order and among other fields, or as an
array of its parts in the order of the fields. A variant is a record with one more field, its tag,
which names it; as an array it has the tag as its first item.
-/

namespace Dialogue.Json

/-! ### Records -/

/-- A field of a record. -/
structure Field where
  name : String
  /-- Other names for it. -/
  aliases : List String := []
  /-- Whether an array may end before it. -/
  omissible : Bool := false

/-- Whether a key names a field. -/
def Field.matches (f : Field) (key : String) : Bool := key = f.name || f.aliases.contains key

/-- The part of an object under a field, `none` where it is missing. A field that stands twice
fails. -/
def Field.part? (f : Field) (given : List (String × Json)) : Option (Option Json) :=
  match given.filter fun p => f.matches p.1 with
  | [] => some none
  | [p] => some (some p.2)
  | _ => none

/-- The parts of an array. -/
def itemParts? : List Field → List Json → Option (List (Option Json))
  | [], [] => some []
  | [], _ :: _ => none
  | f :: fields, [] => if f.omissible then (itemParts? fields []).map (none :: ·) else none
  | _ :: fields, j :: items => (itemParts? fields items).map (some j :: ·)

/-- The parts of an object, in the order of the fields. Other fields of it are passed over. -/
def objectParts? (given : List (String × Json)) : List Field → Option (List (Option Json))
  | [] => some []
  | f :: fields => do return (← f.part? given) :: (← objectParts? given fields)

/-- The parts of a record, in the order of the fields. -/
def parts? (fields : List Field) : Json → Option (List (Option Json))
  | .object given => objectParts? given fields
  | .array items => itemParts? fields items
  | _ => none

/-- A part that may not be missing. -/
def required {α : Type} (read : Json → Option α) (part : Option Json) : Option α := part.bind read

/-- A part with a default where it is missing. -/
def withDefault {α : Type} (default : α) (read : Json → Option α) : Option Json → Option α
  | none => some default
  | some j => read j

/-- A part that may be missing or null. -/
def optional {α : Type} (read : Json → Option α) : Option Json → Option (Option α)
  | none => some none
  | some .null => some none
  | some j => (read j).map some

/-- The items of an array, each read in the same way. -/
def items? {α : Type} (read : Json → Option α) : Json → Option (List α)
  | .array items => items.mapM read
  | _ => none

/-- A field and its value. -/
abbrev Entry := String × Json

/-- A field that is left out where its value is missing. -/
def entry? (key : String) (value : Option Json) : List Entry := (value.map (key, ·)).toList

/-! ### Variants -/

/-- A variant by name or, where that is allowed, by its place among the names. -/
def tagName? (names : List String) (numbered : Bool) : Json → Option String
  | .string s => if names.contains s then some s else none
  | .integer i => if numbered ∧ 0 ≤ i then names[i.toNat]? else none
  | _ => none

/-- The name of a variant and the record of its other fields. -/
def variant? (tag : String) (names : List String) (numbered : Bool) (j : Json) :
    Option (String × Json) :=
  if !j.isReadable then none
  else
    match j with
    | .object fields =>
      match fields.filter fun p => p.1 = tag with
      | [p] => (tagName? names numbered p.2).map
          (·, .object (fields.filter fun p => p.1 ≠ tag))
      | _ => none
    | .array (head :: items) => (tagName? names numbered head).map (·, .array items)
    | _ => none

/-- The record of a variant without fields. An array has no further item. -/
def noFields? : Json → Option Unit
  | .object _ => some ()
  | .array [] => some ()
  | _ => none

/-- A name, alone or as the only field of an object with the value null. Inside a variant the value
may also be an object without fields. -/
def name? (nested : Bool) : Json → Option String
  | .string s => some s
  | .object [(s, .null)] => some s
  | .object [(s, .object [])] => if nested then some s else none
  | _ => none

end Dialogue.Json
