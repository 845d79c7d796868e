import Dialogue.Text.Blank
import Dialogue.Text.Lowercase

/-!
# Edges

The ways from node to node. The handle of an edge, where it leaves its source, may label it for one
outcome of that source.
-/

namespace Dialogue

/-- The outcomes for which an edge can be labelled. -/
inductive Branch where
  | onTrue
  | onFalse
  | onError
  deriving DecidableEq, Repr

namespace Branch

/-- The label that a handle spells. Blanks at its ends and the case of letters do not matter. -/
def ofHandle? (handle : String) : Option Branch :=
  match Text.asciiLowercase (Text.trim handle) with
  | "true" => some onTrue
  | "false" => some onFalse
  | "error" => some onError
  | _ => none

/-- The handle that spells a label. -/
def handle : Branch → String
  | onTrue => "true"
  | onFalse => "false"
  | onError => "error"

/-- The label of the result of a test. -/
def ofBool (b : Bool) : Branch := if b then onTrue else onFalse

end Branch

/-- An edge of a flow. -/
structure Edge where
  id : String
  source : String
  target : String
  handle : Option String := none
  deriving DecidableEq, Inhabited, Repr

/-- The label of an edge. -/
def Edge.branch (e : Edge) : Option Branch := e.handle.bind Branch.ofHandle?

end Dialogue
