import Dialogue.Predicate.Comparison
import Dialogue.Template
import Dialogue.Text.Lowercase
import Dialogue.Text.Search

/-!
# Predicates

The test of a condition node on the latest input. A predicate with an operator in it is a
comparison; any other holds when it equals the input or one of the two contains the other. Blanks
at the ends and the case of letters do not matter. The operator is found in the predicate as it is
written, so that the value of a variable never becomes one.
-/

namespace Dialogue.Predicate

/-- A text in the form in which texts are compared. -/
def folded (s : String) : String := Text.lowercase (Text.trim s)

/-- A side of a comparison, unless it has a token of an unknown variable. -/
def operand? (vars : Table String) (side : String) : Option String :=
  (Template.fill? vars side).map folded

/-- The left side of a comparison: the input, where nothing is written. -/
def leftOperand? (vars : Table String) (input side : String) : Option String :=
  if side = "" then some (folded input) else operand? vars side

/-- Whether a comparison holds of an input. A side with an unknown variable makes it false. -/
def compares (c : Comparison) (input : String) (vars : Table String) : Bool :=
  match leftOperand? vars input c.lhs, operand? vars c.rhs with
  | some lhs, some rhs => c.op.holds lhs rhs
  | _, _ => false

/-- Whether a text matches an input: it equals the input, or one of the two contains the other. An
empty text matches no input, and an empty input no text. -/
def textsMatch (text input : String) : Bool :=
  if text = "" then false
  else if text = input then true
  else input ≠ "" && (Text.contains input text || Text.contains text input)

/-- Whether a predicate holds of the latest input. No input is the empty text. -/
def holds (predicate : String) (input : Option String) (vars : Table String) : Bool :=
  let input := input.getD ""
  if Text.trim predicate = "" then false
  else
    match Comparison.parse? (Text.trim predicate) with
    | some c => compares c input vars
    | none => textsMatch (folded (Template.fill vars predicate)) (folded input)

end Dialogue.Predicate
