import Dialogue.Event.Basic
import Dialogue.Flow.Basic
import Dialogue.Table

/-!
# Sessions

A session is one conversation: the flow that it follows, the node that it has reached, its
variables, what it waits for, and the lines that have been said.
-/

namespace Dialogue

/-- What a session is doing. -/
inductive Status where
  | running
  | awaitingInput
  | awaitingExternal
  | ended
  deriving DecidableEq, Repr, Inhabited

namespace Status

/-- The name of a status. -/
def name : Status → String
  | running => "running"
  | awaitingInput => "awaiting_input"
  | awaitingExternal => "awaiting_external"
  | ended => "ended"

/-- All statuses, in the order of their numbers. -/
def all : List Status := [running, awaitingInput, awaitingExternal, ended]

end Status

/-- Who says a line. -/
inductive Speaker where
  | user
  | bot
  | system
  deriving DecidableEq, Repr, Inhabited

namespace Speaker

/-- The name of a speaker. -/
def name : Speaker → String
  | user => "User"
  | bot => "Bot"
  | system => "System"

/-- All speakers, in the order of their numbers. -/
def all : List Speaker := [user, bot, system]

end Speaker

/-- A line of a transcript. -/
structure Line where
  speaker : Speaker
  text : String
  deriving DecidableEq, Repr, Inhabited

/-- One conversation. -/
structure Session where
  id : String
  flow : Flow
  /-- The node that is reached, none before the first. -/
  node : Option String := none
  vars : Table String := ∅
  /-- The latest reply of the user. -/
  lastInput : Option String := none
  status : Status := .running
  /-- The external work that the session waits for. -/
  pending : Option ExternalRequest := none
  transcript : Array Line := #[]
  deriving DecidableEq

end Dialogue
