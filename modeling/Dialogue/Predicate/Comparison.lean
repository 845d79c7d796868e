import Dialogue.Decimal.Reading
import Dialogue.Text.Blank

/-!
# Comparisons

A comparison is a text with an operator in it. The operator is the first in the text, and at that
place the longest; what stands before and behind it, trimmed, are the two sides.
-/

namespace Dialogue

/-- An operator of a comparison. -/
inductive Operator where
  | equal
  | notEqual
  | greaterOrEqual
  | lessOrEqual
  | greater
  | less
  deriving DecidableEq, Repr

namespace Operator

/-- The symbol of an operator. -/
def symbol : Operator → String
  | equal => "=="
  | notEqual => "!="
  | greaterOrEqual => ">="
  | lessOrEqual => "<="
  | greater => ">"
  | less => "<"

/-- All operators, those with two characters first. -/
def all : List Operator := [equal, notEqual, greaterOrEqual, lessOrEqual, greater, less]

/-- Whether an operator holds of two values in the given order. -/
def holdsOf : Operator → Ordering → Bool
  | equal, o => o.isEq
  | notEqual, o => o.isNe
  | greaterOrEqual, o => o.isGE
  | lessOrEqual, o => o.isLE
  | greater, o => o.isGT
  | less, o => o.isLT

/-- The order of two numbers, none if one of them is `NaN`. -/
def orderNumbers (x y : Float) : Option Ordering :=
  if x < y then some .lt else if x == y then some .eq else if y < x then some .gt else none

/-- The order of two operands: as numbers where both are numbers, as texts otherwise. -/
def order? (lhs rhs : String) : Option Ordering :=
  match Decimal.parse? lhs, Decimal.parse? rhs with
  | some x, some y => orderNumbers x y
  | _, _ => some (compare lhs rhs)

/-- Whether an operator holds of two operands. Numbers without an order are merely unequal. -/
def holds (op : Operator) (lhs rhs : String) : Bool :=
  match order? lhs rhs with
  | some o => op.holdsOf o
  | none => op = notEqual

/-- The operator at the start of a text, and what follows it. -/
def atStart? (cs : List Char) : Option (Operator × List Char) :=
  (all.find? fun op => op.symbol.toList.isPrefixOf cs).map fun op =>
    (op, cs.drop op.symbol.toList.length)

/-- The text before the first operator, the operator, and what follows it. -/
def split? : List Char → Option (List Char × Operator × List Char)
  | [] => none
  | c :: rest =>
    match atStart? (c :: rest) with
    | some (op, behind) => some ([], op, behind)
    | none => (split? rest).map fun (before, op, behind) => (c :: before, op, behind)

end Operator

/-- A comparison. An empty left side stands for the input. -/
structure Comparison where
  lhs : String
  op : Operator
  rhs : String
  deriving DecidableEq, Repr

/-- The comparison that a text spells, unless it has no operator or nothing behind the first. -/
def Comparison.parse? (s : String) : Option Comparison := do
  let (before, op, behind) ← Operator.split? s.toList
  let rhs := Text.trimChars behind
  if rhs = [] then none
  return ⟨String.ofList (Text.trimChars before), op, String.ofList rhs⟩

end Dialogue
