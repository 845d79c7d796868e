import Dialogue.Session.Edit

/-!
# Stores

The sessions that are alive, by name. A store changes through `Change`s alone, so that a log of
them is a journal: replaying it on an empty store gives the store again.
-/

namespace Dialogue

/-- The sessions that are alive, each under its name. -/
abbrev Store := Table Session

/-- A change of a store. -/
inductive Change where
  | create (session : String) (flow : Flow)
  | edit (session : String) (edit : Edit)
  | destroy (session : String)
  deriving DecidableEq

/-- A change of a store, on a line of a log. -/
def Change.describe : Change → String
  | create session _ => "create " ++ session
  | .edit session e => e.describe session
  | destroy session => "destroy " ++ session

namespace Store

/-- Adds a new session at no node. -/
def create (s : Store) (id : String) (flow : Flow) : Except Refusal Store :=
  match s.get? id with
  | some _ => .error (.sessionExists id)
  | none => .ok (s.insert id { id, flow })

/-- Edits a session. -/
def edit (s : Store) (id : String) (e : Edit) : Except Refusal Store :=
  match s.get? id with
  | none => .error (.unknownSession id)
  | some session =>
    match session.edit e with
    | .error refusal => .error refusal
    | .ok session => .ok (s.insert id session)

/-- Applies a change. -/
def change (s : Store) : Change → Except Refusal Store
  | .create id flow => s.create id flow
  | .edit id e => s.edit id e
  | .destroy id => .ok (s.erase id)

/-- Applies the changes of a journal in order. A change that is refused has no effect. -/
def replay (s : Store) (journal : List Change) : Store :=
  journal.foldl (fun s c => (s.change c).toOption.getD s) s

end Store

end Dialogue
