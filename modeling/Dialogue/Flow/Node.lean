/-!
# Nodes

The steps of a conversation. A node has an identifier, a kind with its data and, for an editor, a
place on a canvas.
-/

namespace Dialogue

/-- A place on a canvas. -/
structure Position where
  x : Float
  y : Float
  deriving DecidableEq, Inhabited

/-- What a message node sends. -/
structure Message where
  text : String
  image : Option String := none
  link : Option String := none
  deriving DecidableEq, Inhabited

/-- What an api node asks for, and where it keeps the answer. -/
structure ApiCall where
  method : String
  url : String
  body : Option String := none
  /-- The variable for the answer. -/
  saveAs : Option String := none
  /-- The part of the answer to keep, as a dotted path. -/
  responseField : Option String := none
  deriving DecidableEq, Inhabited

/-- The variable for the answer of an api node, `api_response` if none is named. -/
def ApiCall.target (call : ApiCall) : String := call.saveAs.getD "api_response"

/-- The kinds of nodes. -/
inductive NodeKind where
  /-- Where a conversation begins. -/
  | start
  /-- Sends a message. -/
  | message (message : Message)
  /-- Waits for the user and keeps the reply in a variable. -/
  | input (saveAs : Option String)
  /-- Chooses between two edges by a predicate on the latest input. -/
  | condition (predicate : String)
  /-- Waits for a time. -/
  | delay (seconds : Float)
  /-- Waits for the answer to a request. -/
  | api (call : ApiCall)
  /-- Goes on at another node. -/
  | jump (target : String)
  /-- Ends the conversation. -/
  | finish
  deriving DecidableEq, Inhabited

namespace NodeKind

/-- The name of a kind in flow files. -/
def name : NodeKind → String
  | start => "start"
  | message _ => "message"
  | input _ => "input"
  | condition _ => "condition"
  | delay _ => "delay"
  | api _ => "api"
  | jump _ => "jump"
  | finish => "end"

/-- Whether a conversation begins at nodes of this kind. -/
def isStart : NodeKind → Bool
  | start => true
  | _ => false

end NodeKind

/-- A node of a flow. -/
structure Node where
  id : String
  kind : NodeKind
  position : Option Position := none
  deriving DecidableEq, Inhabited

end Dialogue
