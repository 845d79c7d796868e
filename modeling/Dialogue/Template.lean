import Dialogue.Table
import Dialogue.Text.Alphanumeric

/-!
# Templates

Text with places for variables. A token is a name between braces, made of letters, digits, `_`, `-`
and `.`; braces in any other place are ordinary text. Filling a template goes over it once, so the
value of a variable is never read as a template itself.
-/

namespace Dialogue.Template

/-! ### Pieces -/

/-- A part of a template. -/
inductive Piece where
  | text (chars : List Char)
  | token (name : List Char)
  deriving DecidableEq, Repr

/-- Whether a character may stand in the name of a token. -/
def isNameChar (c : Char) : Bool := Text.isAlphanumeric c || c = '_' || c = '-' || c = '.'

/-- The pieces of the rest of a template. Behind an open brace, `name` holds the characters read
since then, latest first. -/
def piecesFrom : Option (List Char) → List Char → List Piece
  | none, [] => []
  | none, c :: rest =>
    if c = '\x7b' then piecesFrom (some []) rest else .text [c] :: piecesFrom none rest
  | some name, [] => [.text ('\x7b' :: name.reverse)]
  | some name, c :: rest =>
    if isNameChar c then piecesFrom (some (c :: name)) rest
    else if c = '\x7d' ∧ name ≠ [] then .token name.reverse :: piecesFrom none rest
    else if c = '\x7b' then .text ('\x7b' :: name.reverse) :: piecesFrom (some []) rest
    else .text ('\x7b' :: name.reverse) :: .text [c] :: piecesFrom none rest

/-- The pieces of a template. -/
def pieces (template : String) : List Piece := piecesFrom none template.toList

/-! ### Filling -/

/-- The characters of a piece as it is written. -/
def Piece.written : Piece → List Char
  | .text chars => chars
  | .token name => '\x7b' :: name ++ ['\x7d']

/-- The characters of a piece with the value of its variable, if there is one. -/
def Piece.value? (vars : Table String) : Piece → Option (List Char)
  | .text chars => some chars
  | .token name => (vars.get? (String.ofList name)).map String.toList

/-- The characters of a piece with the value of its variable, or as it is written. -/
def Piece.value (vars : Table String) (p : Piece) : List Char :=
  (p.value? vars).getD p.written

/-- The template with the values of its variables. Unknown variables stay as they are written. -/
def fill (vars : Table String) (template : String) : String :=
  String.ofList ((pieces template).flatMap (Piece.value vars))

/-- The template with the values of its variables, if all of them are known. -/
def fill? (vars : Table String) (template : String) : Option String :=
  ((pieces template).mapM (Piece.value? vars)).map fun parts => String.ofList parts.flatten

end Dialogue.Template
