import Dialogue.Predicate
import Dialogue.Session.Basic

/-!
# Steps

What one node does: the events that it sends, the variable that it sets, and where the conversation
goes from there. A node reads the session and changes nothing. A stimulus is there only for the node
on which the session was waiting.
-/

namespace Dialogue

/-- Where a conversation goes from a node. -/
inductive Outcome where
  | goOn (node : String)
  | awaitInput
  | awaitExternal (request : ExternalRequest)
  | stop
  deriving DecidableEq

/-- A variable and the value that it is given. -/
structure Binding where
  name : String
  value : String
  deriving DecidableEq, Repr

/-- What a node does. -/
structure Step where
  outcome : Outcome
  events : List Event := []
  binding : Option Binding := none
  deriving DecidableEq

namespace Step

/-- Follows the way on from a node, or stops where there is none. -/
def follow (flow : Flow) (id : String) (events : List Event := []) : Step :=
  match flow.next? id with
  | some target => { outcome := .goOn target, events }
  | none => { outcome := .stop, events }

/-- Stops with a failure. -/
def fail (kind : FlowErrorKind) (reason : String) : Step :=
  { outcome := .stop, events := [.flowError kind reason] }

/-- Stops because a node cannot make use of a stimulus. -/
def unexpected (n : Node) (stimulus : Stimulus) : Step :=
  fail .unexpectedStimulus
    (n.kind.name ++ " node '" ++ n.id ++ "' cannot handle " ++ stimulus.describe)

/-! ### Nodes that go on at once -/

/-- A start node goes on, and fails where it cannot. -/
def ofStart (n : Node) (s : Session) : Step :=
  match s.flow.next? n.id with
  | some target => { outcome := .goOn target }
  | none => fail .missingEdge ("start node '" ++ n.id ++ "' has no outgoing edge")

/-- The message with the values of the variables of a session. -/
def filledMessage (message : Message) (s : Session) : Message where
  text := Template.fill s.vars message.text
  image := message.image.map (Template.fill s.vars)
  link := message.link.map (Template.fill s.vars)

/-- A message node sends its message and goes on. -/
def ofMessage (n : Node) (message : Message) (s : Session) : Step :=
  follow s.flow n.id [.botMessage n.id (filledMessage message s)]

/-- A condition node takes the branch of the result of its test. -/
def ofCondition (n : Node) (predicate : String) (s : Session) : Step :=
  let branch := Branch.ofBool (Predicate.holds predicate s.lastInput s.vars)
  match s.flow.branchTarget? n.id branch with
  | some target => { outcome := .goOn target }
  | none =>
    fail .missingEdge ("condition node '" ++ n.id ++ "' has no '" ++ branch.handle ++ "' edge")

/-! ### Nodes that wait -/

/-- An input node waits for the user and keeps the reply. -/
def ofInput (n : Node) (saveAs : Option String) (s : Session) : Option Stimulus → Step
  | none => { outcome := .awaitInput }
  | some (.userInput text) =>
    { follow s.flow n.id with binding := saveAs.map fun name => ⟨name, text⟩ }
  | some other => unexpected n other

/-- A delay node tells that it waits, and goes on when the time has passed. -/
def ofDelay (n : Node) (seconds : Float) (s : Session) : Option Stimulus → Step
  | none => { outcome := .awaitExternal (.delay seconds), events := [.typingDelay seconds] }
  | some (.external .delayElapsed) => follow s.flow n.id
  | some other => unexpected n other

/-- The request of an api node, with the values of the variables of a session. -/
def filledRequest (call : ApiCall) (s : Session) : ApiRequest where
  method := call.method
  url := Template.fill s.vars call.url
  body := call.body.map (Template.fill s.vars)

/-- The value that an api node keeps of a response, or why the response is a failure. -/
def responseValue (call : ApiCall) (response : ApiResponse) : Except String String :=
  if response.isSuccess then
    match call.responseField with
    | none => .ok response.body
    | some path =>
      match response.field? path with
      | some value => .ok value
      | none => .error ("response has no field '" ++ path ++ "'")
  else .error ("request returned status " ++ toString response.status.toNat)

/-- A request that failed leads along the edge for errors, and fails where there is none. -/
def requestFailed (n : Node) (s : Session) (reason : String) : Step :=
  match s.flow.branchTarget? n.id .onError with
  | some target => { outcome := .goOn target }
  | none => fail .externalCallFailure ("api node '" ++ n.id ++ "': " ++ reason)

/-- An api node waits for the answer to its request and keeps it. -/
def ofApi (n : Node) (call : ApiCall) (s : Session) : Option Stimulus → Step
  | none => { outcome := .awaitExternal (.http (filledRequest call s)) }
  | some (.external (.httpSucceeded response)) =>
    match responseValue call response with
    | .ok value => { follow s.flow n.id with binding := some ⟨call.target, value⟩ }
    | .error reason => requestFailed n s reason
  | some (.external (.httpFailed reason)) => requestFailed n s reason
  | some other => unexpected n other

/-! ### All nodes -/

/-- What a node does in a session, with the stimulus for which the session was waiting. -/
def ofNode (n : Node) (s : Session) (stimulus : Option Stimulus) : Step :=
  match n.kind with
  | .start => ofStart n s
  | .message message => ofMessage n message s
  | .input saveAs => ofInput n saveAs s stimulus
  | .condition predicate => ofCondition n predicate s
  | .delay seconds => ofDelay n seconds s stimulus
  | .api call => ofApi n call s stimulus
  | .jump target => { outcome := .goOn target }
  | .finish => { outcome := .stop, events := [.endOfConversation] }

end Step

end Dialogue
