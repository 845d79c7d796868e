import Dialogue.Json.Number

/-!
# Reading JSON

The tree of a text. The reader goes through the text once and keeps a stack of the containers that
are open; `step` takes one value, bracket or comma, and `parse?` repeats it to the end.
-/

namespace Dialogue.Json

/-! ### Blanks and strings -/

/-- The four characters that may stand between the parts of a text. -/
def isSpace (c : Char) : Bool := c = ' ' || c = '\n' || c = '\r' || c = '\t'

/-- The text behind the blanks at its start. -/
def skipSpace (cs : List Char) : List Char := cs.dropWhile isSpace

/-- The value of a hexadecimal digit. -/
def hexDigit? (c : Char) : Option Nat :=
  if '0' ≤ c ∧ c ≤ '9' then some (c.toNat - '0'.toNat)
  else if 'a' ≤ c ∧ c ≤ 'f' then some (c.toNat - 'a'.toNat + 10)
  else if 'A' ≤ c ∧ c ≤ 'F' then some (c.toNat - 'A'.toNat + 10)
  else none

/-- The value of four hexadecimal digits. -/
def hexQuad? (a b c d : Char) : Option Nat := do
  return (((← hexDigit? a) * 16 + (← hexDigit? b)) * 16 + (← hexDigit? c)) * 16 + (← hexDigit? d)

/-- The character of an escape of one letter. -/
def letterEscape? : Char → Option Char
  | '"' => some '"'
  | '\\' => some '\\'
  | '/' => some '/'
  | 'b' => some '\x08'
  | 'f' => some '\x0c'
  | 'n' => some '\n'
  | 'r' => some '\r'
  | 't' => some '\t'
  | _ => none

/-- The code points of a string behind its opening quote, in front of those read before, latest
first, and the rest behind the closing quote. -/
def takeCodes? (codes : List Nat) : List Char → Option (List Nat × List Char)
  | [] => none
  | '"' :: rest => some (codes.reverse, rest)
  | '\\' :: 'u' :: a :: b :: c :: d :: rest =>
    (hexQuad? a b c d).bind fun n => takeCodes? (n :: codes) rest
  | '\\' :: e :: rest => (letterEscape? e).bind fun c => takeCodes? (c.toNat :: codes) rest
  | c :: rest => if c.toNat < 0x20 then none else takeCodes? (c.toNat :: codes) rest

/-- The characters of code points, in front of those read before, latest first. Two halves of a
surrogate pair make one character; half of a pair alone makes none. -/
def joinCodes? (chars : List Char) : List Nat → Option (List Char)
  | [] => some chars.reverse
  | [n] => if 0xd800 ≤ n ∧ n < 0xe000 then none else some (Char.ofNat n :: chars).reverse
  | n :: m :: rest =>
    if 0xd800 ≤ n ∧ n < 0xdc00 ∧ 0xdc00 ≤ m ∧ m < 0xe000 then
      joinCodes? (Char.ofNat (0x10000 + (n - 0xd800) * 0x400 + (m - 0xdc00)) :: chars) rest
    else if 0xd800 ≤ n ∧ n < 0xe000 then none
    else joinCodes? (Char.ofNat n :: chars) (m :: rest)

/-- The string behind an opening quote, if it has a value, and the rest. -/
def takeString? (cs : List Char) : Option (Option String × List Char) :=
  (takeCodes? [] cs).map fun (codes, rest) => ((joinCodes? [] codes).map String.ofList, rest)

/-- The value at the start of a text, where it is no container, and the rest. -/
def takeScalar? : List Char → Option (Json × List Char)
  | '"' :: rest => (takeString? rest).map fun (s, rest) => (s.elim .unreadable .string, rest)
  | 'n' :: 'u' :: 'l' :: 'l' :: rest => some (.null, rest)
  | 't' :: 'r' :: 'u' :: 'e' :: rest => some (.bool true, rest)
  | 'f' :: 'a' :: 'l' :: 's' :: 'e' :: rest => some (.bool false, rest)
  | cs => takeNumber? cs

/-! ### Containers -/

/-- A container that is not closed yet, its latest part first. A key without a value is `none`. -/
inductive Container where
  | array (items : List Json)
  | object (fields : List (Option String × Json)) (key : Option String)

/-- How deep containers may be nested. -/
def depthLimit : Nat := 127

/-- The tree of a closed container inside others. -/
def closed (outer : List Container) (tree : Option Json) : Json :=
  if (outer.drop (depthLimit - 1)).isEmpty then tree.getD .unreadable else .unreadable

/-- The fields of a closed object, if all its keys have values. -/
def closedFields? (fields : List (Option String × Json)) : Option Json :=
  let readable : Option (List (String × Json)) :=
    fields.reverse.mapM fun f => f.1.map fun key => (key, f.2)
  readable.map .object

/-- Where a reader stands: in front of a value, or behind one. -/
structure Cursor where
  containers : List Container
  /-- The value just read. -/
  behind : Option Json
  rest : List Char

/-- The cursor behind a value. -/
def Cursor.after (containers : List Container) (j : Json) (rest : List Char) : Cursor :=
  ⟨containers, some j, rest⟩

/-- The cursor in front of a value. -/
def Cursor.before (containers : List Container) (rest : List Char) : Cursor :=
  ⟨containers, none, rest⟩

/-- Goes over a key and its colon. -/
def Cursor.key? (outer : List Container) (fields : List (Option String × Json)) (cs : List Char) :
    Option Cursor :=
  match skipSpace cs with
  | '"' :: rest => do
    let (key, rest) ← takeString? rest
    match skipSpace rest with
    | ':' :: rest => some (.before (.object fields key :: outer) rest)
    | _ => none
  | _ => none

/-- Reads the start of a value: all of a scalar, the first bracket of a container. -/
def Cursor.open? (outer : List Container) (cs : List Char) : Option Cursor :=
  match skipSpace cs with
  | '[' :: rest =>
    match skipSpace rest with
    | ']' :: rest => some (.after outer (closed outer (some (.array []))) rest)
    | rest => some (.before (.array [] :: outer) rest)
  | '\x7b' :: rest =>
    match skipSpace rest with
    | '\x7d' :: rest => some (.after outer (closed outer (some (.object []))) rest)
    | rest => Cursor.key? outer [] rest
  | cs => (takeScalar? cs).map fun (j, rest) => .after outer j rest

/-- Reads what follows a value inside a container: a comma, or the last bracket. -/
def Cursor.next? (container : Container) (outer : List Container) (j : Json) (cs : List Char) :
    Option Cursor :=
  match container, skipSpace cs with
  | .array items, ',' :: rest => some (.before (.array (j :: items) :: outer) rest)
  | .array items, ']' :: rest =>
    some (.after outer (closed outer (some (.array (j :: items).reverse))) rest)
  | .object fields key, ',' :: rest => Cursor.key? outer ((key, j) :: fields) rest
  | .object fields key, '\x7d' :: rest =>
    some (.after outer (closed outer (closedFields? ((key, j) :: fields))) rest)
  | _, _ => none

/-- One step of the reader: the next cursor, or the tree of the whole text. -/
def Cursor.step? (cursor : Cursor) : Option (Cursor ⊕ Json) :=
  match cursor.behind, cursor.containers with
  | none, outer => (Cursor.open? outer cursor.rest).map .inl
  | some j, [] => if skipSpace cursor.rest = [] then some (.inr j) else none
  | some j, container :: outer => (Cursor.next? container outer j cursor.rest).map .inl

/-- The tree behind a cursor, if it is reached in the given number of steps. -/
def Cursor.run? (cursor : Cursor) : Nat → Option Json
  | 0 => none
  | steps + 1 =>
    match cursor.step? with
    | none => none
    | some (.inl next) => next.run? steps
    | some (.inr j) => some j

/-- The tree of a text. Every step but the last takes at least one character. -/
def parse? (s : String) : Option Json :=
  let cs := s.toList
  (Cursor.before [] cs).run? (cs.length + 1)

end Dialogue.Json
