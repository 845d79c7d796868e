import Dialogue.Archive.Basic

/-!
# Archives as bytes

The layout of an archive as bytes: its fields in order, one after the other. Whole numbers take one
byte below 251; larger ones are a byte that tells their width and then 2, 4 or 8 bytes, the least
significant first. A text is its length and its bytes in UTF-8, a list its length and its items, an
option a byte 0, or a byte 1 and its value. A status or speaker is its number. Reading is as strict
as it can be, except that numbers may be wider than they need to be and that bytes behind the
archive do not matter.
-/

namespace Dialogue.Archive

/-- A list of bytes. -/
abbrev Bytes := List UInt8

/-- A way of reading a value from the start of bytes. -/
abbrev Reader (α : Type) := Bytes → Option (α × Bytes)

/-! ### Numbers -/

/-- A number in the given count of bytes, the least significant first. -/
def littleEndian : Nat → Nat → Bytes
  | 0, _ => []
  | count + 1, n => UInt8.ofNat n :: littleEndian count (n / 256)

/-- The number of bytes, the least significant first. -/
def ofLittleEndian : Bytes → Nat
  | [] => 0
  | b :: rest => b.toNat + 256 * ofLittleEndian rest

/-- A number below `2 ^ 64`. -/
def putNumber (n : Nat) : Bytes :=
  if n < 251 then [UInt8.ofNat n]
  else if n < 0x10000 then 0xfb :: littleEndian 2 n
  else if n < 0x100000000 then 0xfc :: littleEndian 4 n
  else 0xfd :: littleEndian 8 n

/-- So many bytes, and the rest. -/
def take? (count : Nat) : Reader Bytes := fun bytes =>
  let part := bytes.take count
  if part.length = count then some (part, bytes.drop count) else none

/-- A number of so many bytes. -/
def fixed? (count : Nat) : Reader Nat := fun bytes => do
  let (part, rest) ← take? count bytes
  return (ofLittleEndian part, rest)

/-- A number. One of eight bytes is read only where it is allowed. -/
def number? (long : Bool) : Reader Nat
  | [] => none
  | b :: rest =>
    if b < 0xfb then some (b.toNat, rest)
    else if b = 0xfb then fixed? 2 rest
    else if b = 0xfc then fixed? 4 rest
    else if b = 0xfd ∧ long then fixed? 8 rest
    else none

/-! ### Texts, options and lists -/

/-- A text. -/
def putText (s : String) : Bytes := putNumber s.toUTF8.size ++ s.toUTF8.data.toList

/-- A text. -/
def text? : Reader String := fun bytes => do
  let (count, rest) ← number? true bytes
  let (part, rest) ← take? count rest
  let s ← String.fromUTF8? ⟨part.toArray⟩
  return (s, rest)

/-- A text or nothing. -/
def putOption : Option String → Bytes
  | none => [0]
  | some s => 1 :: putText s

/-- A text or nothing. -/
def option? : Reader (Option String)
  | 0 :: rest => some (none, rest)
  | 1 :: rest => (text? rest).map fun (s, rest) => (some s, rest)
  | _ => none

/-- A list of items. -/
def putList {α : Type} (put : α → Bytes) (items : List α) : Bytes :=
  putNumber items.length ++ items.flatMap put

/-- So many items, behind those read before, latest first. -/
def items? {α : Type} (read : Reader α) (items : List α) : Nat → Reader (List α)
  | 0, bytes => some (items.reverse, bytes)
  | count + 1, bytes =>
    match read bytes with
    | none => none
    | some (x, rest) => items? read (x :: items) count rest

/-- A list of items. -/
def list? {α : Type} (read : Reader α) : Reader (List α) := fun bytes => do
  let (count, rest) ← number? true bytes
  items? read [] count rest

/-! ### Parts of an archive -/

/-- One of a list of values, by its place. -/
def putChoice {α : Type} [DecidableEq α] (all : List α) (x : α) : Bytes := putNumber (all.idxOf x)

/-- One of a list of values, by its place. -/
def choice? {α : Type} (all : List α) : Reader α := fun bytes => do
  let (i, rest) ← number? false bytes
  let x ← all[i]?
  return (x, rest)

/-- A variable and its value. -/
def putBinding (v : String × String) : Bytes := putText v.1 ++ putText v.2

/-- A variable and its value. -/
def binding? : Reader (String × String) := fun bytes => do
  let (name, rest) ← text? bytes
  let (value, rest) ← text? rest
  return ((name, value), rest)

/-- A line. -/
def putLine (l : Line) : Bytes := putChoice Speaker.all l.speaker ++ putText l.text

/-- A line. -/
def line? : Reader Line := fun bytes => do
  let (speaker, rest) ← choice? Speaker.all bytes
  let (text, rest) ← text? rest
  return (⟨speaker, text⟩, rest)

/-! ### Archives -/

/-- The bytes of an archive. -/
def toBytes (a : Archive) : Bytes :=
  putText a.session ++ putText a.flow ++ putOption a.node ++ putChoice Status.all a.status ++
    putList putBinding a.vars ++ putList putLine a.transcript

/-- The archive at the start of bytes, and the rest. -/
def read? : Reader Archive := fun bytes => do
  let (session, rest) ← text? bytes
  let (flow, rest) ← text? rest
  let (node, rest) ← option? rest
  let (status, rest) ← choice? Status.all rest
  let (vars, rest) ← list? binding? rest
  let (transcript, rest) ← list? line? rest
  return ({ session, flow, node, status, vars, transcript }, rest)

/-- The archive of bytes. -/
def ofBytes? (bytes : Bytes) : Option Archive := (read? bytes).map (·.1)

end Dialogue.Archive
