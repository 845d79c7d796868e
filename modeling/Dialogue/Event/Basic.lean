import Dialogue.Flow.Node
import Dialogue.Http
import Dialogue.Text.Quoted

/-!
# Events

What passes between a conversation and the world: the events that it sends, the work on which it
waits with its results, and the events that are sent to it.
-/

namespace Dialogue

/-! ### Work outside a conversation -/

/-- What a conversation waits for. -/
inductive ExternalRequest where
  | delay (seconds : Float)
  | http (request : ApiRequest)
  deriving DecidableEq

/-- What came of an external request. -/
inductive ExternalResult where
  | delayElapsed
  | httpSucceeded (response : ApiResponse)
  | httpFailed (reason : String)
  deriving DecidableEq

/-- What wakes a waiting conversation. -/
inductive Stimulus where
  | userInput (text : String)
  | external (result : ExternalResult)
  deriving DecidableEq

/-- A result as it is described in messages. -/
def ExternalResult.describe : ExternalResult → String
  | delayElapsed => "DelayElapsed"
  | httpSucceeded r =>
    "HttpSucceeded \x7b response: ApiResponse \x7b status: " ++ toString r.status.toNat ++
      ", body: " ++ Text.quoted r.body ++ " \x7d \x7d"
  | httpFailed reason => "HttpFailed \x7b reason: " ++ Text.quoted reason ++ " \x7d"

/-- A stimulus as it is described in messages. -/
def Stimulus.describe : Stimulus → String
  | userInput text => "UserInput(" ++ Text.quoted text ++ ")"
  | external result => "External(" ++ result.describe ++ ")"

/-! ### Events from a conversation -/

/-- Why a running conversation fails. -/
inductive FlowErrorKind where
  | infiniteLoop
  | missingEdge
  | externalCallFailure
  | unexpectedStimulus
  deriving DecidableEq, Repr

/-- A kind of failure in words. -/
def FlowErrorKind.message : FlowErrorKind → String
  | infiniteLoop => "infinite loop detected"
  | missingEdge => "missing edge"
  | externalCallFailure => "external call failure"
  | unexpectedStimulus => "unexpected stimulus"

/-- An event that a conversation sends. -/
inductive Event where
  | botMessage (node : String) (message : Message)
  | endOfConversation
  | typingDelay (seconds : Float)
  | flowError (kind : FlowErrorKind) (reason : String)
  deriving DecidableEq

namespace Event

/-- The name of an event. -/
def name : Event → String
  | botMessage .. => "bot_message"
  | endOfConversation => "end_of_conversation"
  | typingDelay _ => "typing_delay"
  | flowError .. => "flow_error"

/-- The text of a message. -/
def text? : Event → Option String
  | botMessage _ message => some message.text
  | _ => none

/-- Whether an event tells of a failure. -/
def isFlowError : Event → Bool
  | flowError .. => true
  | _ => false

end Event

/-! ### Events to a conversation -/

/-- An event that is sent to a conversation. -/
inductive Incoming where
  /-- Begins a conversation. A session without a name is given one. -/
  | startFlow (flow : String) (session : Option String)
  | userMessage (session text : String)
  | externalComplete (session : String) (result : ExternalResult)
  deriving DecidableEq

end Dialogue
