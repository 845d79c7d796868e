import Dialogue.Archive.Basic
import Dialogue.Config
import Dialogue.Event.Wire
import Dialogue.Session.Store
import Dialogue.Walk

/-!
# Engines

An engine keeps sessions and takes calls on them. A call that is accepted walks its session to the
next place where it waits or ends and answers with a turn; it touches no other session. With its
answer every call gives the changes that it made to the store, in order.
-/

namespace Dialogue

/-! ### Turns -/

/-- The answer to a call: the events sent, and how the session is left. -/
structure Turn where
  session : String
  status : Status
  events : List Event
  pending : Option ExternalRequest
  deriving DecidableEq

namespace Turn

/-- Whether the session has ended. -/
def isEnded (t : Turn) : Bool := t.status = .ended

/-- The names of the events. -/
def names (t : Turn) : List String := t.events.map Event.name

/-- The texts of the messages. -/
def messages (t : Turn) : List String := t.events.filterMap Event.text?

/-- The tree of a turn. -/
def toJson (t : Turn) : Json :=
  .object ([("sessionId", .string t.session), ("status", .string t.status.name),
    ("events", .array (t.events.map Event.toJson))] ++
    Json.entry? "pending" (t.pending.map ExternalRequest.toJson))

end Turn

/-! ### Calls -/

/-- The sessions that are alive, and the settings. -/
structure Engine where
  store : Store := ∅
  config : EngineConfig := {}
  deriving DecidableEq

/-- What comes of a call. -/
structure Answer (α : Type) where
  result : α
  engine : Engine
  /-- The changes that were made to the store, in order. -/
  journal : List Change

namespace Engine

/-- The answer of a call that changes nothing. -/
def refuse (e : Engine) {α : Type} (refusal : Refusal) : Answer (Except Refusal α) :=
  ⟨.error refusal, e, []⟩

/-- The turn of a walk. -/
def turnOf (id : String) (w : Walk) : Turn where
  session := id
  status := w.session.status
  events := w.events.toList
  pending := w.session.pending

/-- Keeps what a walk has made of a session, and drops the session if it has ended and is to be
dropped. -/
def settle (e : Engine) (id : String) (opening : List Change) (w : Walk) :
    Answer (Except Refusal Turn) :=
  let store := e.store.insert id w.session
  let journal := opening ++ w.edits.toList.map (.edit id)
  match w.refusal with
  | some refusal => ⟨.error refusal, { e with store }, journal⟩
  | none =>
    if w.session.status = .ended ∧ e.config.evictEnded then
      ⟨.ok (turnOf id w), { e with store := store.erase id }, journal ++ [.destroy id]⟩
    else ⟨.ok (turnOf id w), { e with store }, journal⟩

/-- Creates a session on a flow and walks from the start node. -/
def start (e : Engine) (id : String) (flow : Flow) : Answer (Except Refusal Turn) :=
  match e.store.get? id with
  | some _ => { e.refuse (.sessionExists id) with journal := [.create id flow] }
  | none =>
    let w : Walk := { session := { id, flow } }
    e.settle id [.create id flow]
      ((w.edit (.advanceTo flow.start.id)).run e.config.maxSteps none)

/-- Creates a session on the flow of nodes and edges, if they are valid. -/
def startNodes (e : Engine) (id : String) (nodes : List Node) (edges : List Edge) :
    Answer (Except Refusal Turn) :=
  match Flow.ofGraph Flow.defaultName nodes edges with
  | .error violation => e.refuse (.invalidGraph violation)
  | .ok flow => e.start id flow

/-- The session of a name, if it has the status that a call asks for. -/
def waiting (e : Engine) (id : String) (expected : Status) : Except Refusal Session :=
  match e.store.get? id with
  | none => .error (.unknownSession id)
  | some s => if s.status = expected then .ok s else .error (.wrongStatus id expected s.status)

/-- Gives the reply of the user to a session that waits for it. -/
def resume (e : Engine) (id input : String) : Answer (Except Refusal Turn) :=
  match e.waiting id .awaitingInput with
  | .error refusal => e.refuse refusal
  | .ok session =>
    let w : Walk := { session }
    e.settle id []
      ((w.edit (.record .user input)).run e.config.maxSteps (some (.userInput input)))

/-- Gives the result of external work to a session that waits for it. -/
def complete (e : Engine) (id : String) (result : ExternalResult) :
    Answer (Except Refusal Turn) :=
  match e.waiting id .awaitingExternal with
  | .error refusal => e.refuse refusal
  | .ok session =>
    let w : Walk := { session }
    e.settle id [] (w.run e.config.maxSteps (some (.external result)))

/-- Drops a session and gives it back. -/
def destroy (e : Engine) (id : String) : Answer (Option Session) :=
  ⟨e.store.get? id, { e with store := e.store.erase id }, [.destroy id]⟩

/-- Drops a session and gives a snapshot of it. -/
def archive (e : Engine) (id : String) : Answer (Except Refusal Archive) :=
  let dropped := e.destroy id
  { dropped with
    result := match dropped.result with
      | some s => .ok (.ofSession s)
      | none => .error (.unknownSession id) }

end Engine

end Dialogue
