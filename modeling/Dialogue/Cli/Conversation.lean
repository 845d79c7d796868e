import Dialogue.Archive.Bytes
import Dialogue.Cli.Arguments
import Dialogue.Host

/-!
# Conversations on a command line

One session from its start until it ends or the replies are used up. Every event is printed on a
line of its own. What is needed of the world is given as a `Console` in some monad.
-/

namespace Dialogue.Cli

/-- What a run needs of the world. What can go wrong throws a reason. -/
structure Console (m : Type → Type) where
  services : Services m
  /-- Prints a line of output. -/
  print : String → m Unit
  /-- Writes a text beside the output. -/
  note : String → m Unit
  /-- The next typed line, with the characters that end it; none at the end of the input. -/
  typedLine : ExceptT String m (Option String)
  /-- The contents of a file. -/
  contents : String → ExceptT String m ByteArray
  /-- Writes a file. -/
  save : String → Archive.Bytes → ExceptT String m Unit
  /-- The ceiling that the environment sets. -/
  maxSteps : m (Option String)

/-! ### Conversations -/

/-- The name of the flow in the catalog of a run. -/
def flowName : String := "cli"

/-- A session and the latest turn in it. -/
structure Conversation where
  host : Host
  session : String
  turn : Turn

namespace Conversation

variable {m : Type → Type} [Monad m]

/-- Whether the session waits for a reply. -/
def awaitsReply (c : Conversation) : Bool := c.turn.status = .awaitingInput

/-- Prints the events of the latest turn. -/
def printEvents (console : Console m) (c : Conversation) : m Unit :=
  c.turn.events.forM fun event => console.print event.toJson.compact

/-- Sends an event to a host and prints the events of its turn. -/
def send (console : Console m) (host : Host) (event : Incoming) (failure : String) :
    ExceptT String m Conversation := do
  match ← ExceptT.lift (host.handleAndSettle console.services event) with
  | (.ok turn, host) => do
    let c : Conversation := { host, session := turn.session, turn }
    ExceptT.lift (c.printEvents console)
    return c
  | (.error e, _) => throw (failure ++ e.message)

/-- Begins a conversation. -/
def begin (console : Console m) (host : Host) (session : Option String) :
    ExceptT String m Conversation :=
  send console host (.startFlow flowName session) "Failed to start session: "

/-- Delivers a reply. -/
def deliver (console : Console m) (c : Conversation) (text : String) :
    ExceptT String m Conversation :=
  send console c.host (.userMessage c.session text) "Failed to deliver reply: "

/-- Leaves a session that waits for a reply that does not come. -/
def abandon (console : Console m) (c : Conversation) : m Unit :=
  console.note ("No more input; leaving session '" ++ c.session ++ "' waiting.\n")

/-- Delivers the replies of a script as long as the session waits for them, and shows each. -/
def playScript (console : Console m) (c : Conversation) :
    List String → ExceptT String m Conversation
  | [] => do
    if c.awaitsReply then ExceptT.lift (c.abandon console)
    return c
  | reply :: replies =>
    if c.awaitsReply then do
      console.note ("> " ++ reply ++ "\n")
      let c ← c.deliver console reply
      c.playScript console replies
    else return c

/-- A typed line without the characters that end it. -/
def typedReply (line : String) : String :=
  String.ofList (line.toList.reverse.dropWhile fun c => c = '\n' || c = '\r').reverse

/-- Asks for replies as long as the session waits for them, up to so many times. -/
def playTyped (console : Console m) (c : Conversation) : Nat → ExceptT String m Conversation
  | 0 => return c
  | left + 1 =>
    if c.awaitsReply then do
      console.note "> "
      match ← console.typedLine.adapt ("Failed to read input: " ++ ·) with
      | none => do
        ExceptT.lift (c.abandon console)
        return c
      | some line => do
        let c ← c.deliver console (typedReply line)
        c.playTyped console left
    else return c

/-- Drops the session and gives an archive of it, and the host after it. -/
def archive (c : Conversation) : Except String Archive × Host :=
  let answer := c.host.engine.archive c.session
  (answer.result.mapError fun refusal => "Failed to archive session: " ++ refusal.message,
    { c.host with engine := answer.engine })

end Conversation

end Dialogue.Cli
