import Dialogue.Engine.Basic

/-!
# Calls

The calls on an engine as values, so that a history of an engine is a list. Every call names one
session.
-/

namespace Dialogue

/-- A call on an engine. -/
inductive Call where
  | start (session : String) (flow : Flow)
  | startNodes (session : String) (nodes : List Node) (edges : List Edge)
  | resume (session input : String)
  | complete (session : String) (result : ExternalResult)
  | destroy (session : String)
  | archive (session : String)
  deriving DecidableEq

/-- The session that a call names. -/
def Call.session : Call → String
  | start session _ => session
  | startNodes session _ _ => session
  | resume session _ => session
  | complete session _ => session
  | destroy session => session
  | .archive session => session

/-- What a call gives back. -/
inductive Response where
  | turn (turn : Turn)
  | dropped (session : Option Session)
  | archived (archive : Archive)
  | refused (refusal : Refusal)
  deriving DecidableEq

namespace Response

/-- The response of a turn or refusal. -/
def ofTurn : Except Refusal Turn → Response
  | .ok t => turn t
  | .error r => refused r

/-- The response of an archive or refusal. -/
def ofArchive : Except Refusal Archive → Response
  | .ok a => archived a
  | .error r => refused r

/-- The turn of a response, if it is one. -/
def turn? : Response → Option Turn
  | turn t => some t
  | _ => none

/-- Whether a call was refused. -/
def isRefused : Response → Bool
  | refused _ => true
  | _ => false

end Response

/-- An answer with another result. -/
def Answer.map {α β : Type} (f : α → β) (a : Answer α) : Answer β :=
  ⟨f a.result, a.engine, a.journal⟩

namespace Engine

/-- Takes a call. -/
def take (e : Engine) : Call → Answer Response
  | .start session flow => (e.start session flow).map .ofTurn
  | .startNodes session nodes edges => (e.startNodes session nodes edges).map .ofTurn
  | .resume session input => (e.resume session input).map .ofTurn
  | .complete session result => (e.complete session result).map .ofTurn
  | .destroy session => (e.destroy session).map .dropped
  | .archive session => (e.archive session).map .ofArchive

/-- Takes calls one after the other: their responses, the engine after them, and all changes that
were made to the store. -/
def takeAll (e : Engine) : List Call → Answer (List Response)
  | [] => ⟨[], e, []⟩
  | c :: calls =>
    let first := e.take c
    let rest := first.engine.takeAll calls
    ⟨first.result :: rest.result, rest.engine, first.journal ++ rest.journal⟩

end Engine

end Dialogue
