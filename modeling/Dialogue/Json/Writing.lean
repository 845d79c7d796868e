import Dialogue.Decimal.Shortest
import Dialogue.Json.Basic

/-!
# Writing JSON

The text of a tree, on one line without blanks or over several lines with an indent of two blanks.
-/

namespace Dialogue.Json

/-- Numbers are written in full from `0.00001` to below `1e+16`, a whole number with a point and a
zero, and of two equally near decimals the one with the even last digit. -/
def numberLayout : Decimal.Layout := ⟨some (-5), some 15, true, .toEven⟩

/-- The text of a number; null where it is not finite. -/
def numberText (x : Float) : String :=
  match Decimal.Binary.ofFloat x with
  | .finite negative mantissa exponent => numberLayout.write negative mantissa exponent
  | _ => "null"

/-- A control character by its code point, in four digits. -/
def controlEscape (c : Char) : List Char :=
  let digits := Nat.toDigits 16 c.toNat
  '\\' :: 'u' :: List.replicate (4 - digits.length) '0' ++ digits

/-- One character inside a string. -/
def escapeChar (c : Char) : List Char :=
  match c with
  | '"' => ['\\', '"']
  | '\\' => ['\\', '\\']
  | '\x08' => ['\\', 'b']
  | '\x0c' => ['\\', 'f']
  | '\n' => ['\\', 'n']
  | '\r' => ['\\', 'r']
  | '\t' => ['\\', 't']
  | c => if c.toNat < 0x20 then controlEscape c else [c]

/-- The text of a string. -/
def stringText (s : String) : String :=
  String.ofList ('"' :: s.toList.flatMap escapeChar ++ ['"'])

/-- The text of a tree that is neither an array nor an object. -/
def scalarText : Json → String
  | .bool b => if b then "true" else "false"
  | .integer i => toString i
  | .decimal x => numberText x
  | .string s => stringText s
  | _ => "null"

mutual

/-- The text of a tree on one line. -/
def compact : Json → String
  | .array items => "[" ++ ",".intercalate (compactItems items) ++ "]"
  | .object fields => "\x7b" ++ ",".intercalate (compactFields fields) ++ "\x7d"
  | j => j.scalarText

/-- The texts of the items of an array. -/
def compactItems : List Json → List String
  | [] => []
  | j :: rest => j.compact :: compactItems rest

/-- The texts of the fields of an object. -/
def compactFields : List (String × Json) → List String
  | [] => []
  | (k, j) :: rest => (stringText k ++ ":" ++ j.compact) :: compactFields rest

end

/-- Parts on lines of their own between brackets; nothing between them where there are no parts. -/
def block (indent : String) (opening closing : String) (parts : List String) : String :=
  if parts.isEmpty then opening ++ closing
  else
    let inner := indent ++ "  "
    opening ++ "\n" ++ inner ++ (",\n" ++ inner).intercalate parts ++ "\n" ++ indent ++ closing

mutual

/-- The text of a tree over several lines, all but the first behind an indent. -/
def prettyAt (indent : String) : Json → String
  | .array items => block indent "[" "]" (prettyItems (indent ++ "  ") items)
  | .object fields => block indent "\x7b" "\x7d" (prettyFields (indent ++ "  ") fields)
  | j => j.scalarText

/-- The texts of the items of an array. -/
def prettyItems (indent : String) : List Json → List String
  | [] => []
  | j :: rest => prettyAt indent j :: prettyItems indent rest

/-- The texts of the fields of an object. -/
def prettyFields (indent : String) : List (String × Json) → List String
  | [] => []
  | (k, j) :: rest => (stringText k ++ ": " ++ prettyAt indent j) :: prettyFields indent rest

end

/-- The text of a tree over several lines. -/
def pretty (j : Json) : String := prettyAt "" j

end Dialogue.Json
