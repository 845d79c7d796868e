import Dialogue.Cli.Conversation

/-!
# Runs

What a command line does from its arguments to its exit code: it loads a flow and the replies, holds
the conversation, keeps an archive of it where that is asked for, and drops its session.
-/

namespace Dialogue.Cli

variable {m : Type → Type} [Monad m]

/-! ### Loading -/

/-- The flow of a file. -/
def loadFlow (console : Console m) (path : String) : ExceptT String m Flow := do
  let failed (e : ImportError) : String := "Failed to load flow: " ++ e.message
  let bytes ← (console.contents path).adapt fun reason => failed (.unreadableFile path reason)
  ExceptT.mk (pure (((Document.parseFile path bytes).bind Document.toFlow).mapError failed))

/-- A line without the carriage return at its end. -/
def withoutReturn (line : List Char) : List Char :=
  match line.reverse with
  | '\r' :: rest => rest.reverse
  | _ => line

/-- The lines of a script. A line ends with a line feed, or with a carriage return and a line feed;
the last may end with the script. -/
def scriptLines (script : String) : List String :=
  let parts := Text.splitChars '\n' script.toList
  let ended := parts.dropLast.map withoutReturn
  let last := parts.getLast?.getD []
  (if last = [] then ended else ended ++ [last]).map String.ofList

/-- The replies of a file. -/
def loadScript (console : Console m) (path : String) : ExceptT String m (List String) := do
  let failed (reason : String) : String :=
    "Failed to read inputs file '" ++ path ++ "': " ++ reason
  let bytes ← (console.contents path).adapt failed
  match String.fromUTF8? bytes with
  | some script => return scriptLines script
  | none => throw (failed "stream did not contain valid UTF-8")

/-- The host of a run on a flow. The arguments go before the environment. -/
def hostOf (o : Options) (maxSteps : Option String) (flow : Flow) : Host where
  engine := {
    config :=
      let config := EngineConfig.ofVariable maxSteps
      o.maxSteps.elim config config.withMaxSteps }
  catalog := Table.insert ∅ flowName flow
  config := { delayMode := if o.wait = some true then .sleep 1 else .immediate }

/-! ### Runs -/

/-- How many lines a run reads at most: more than can be typed. -/
def typedLimit : Nat := 0x10000000000000000

/-- Why an archive is not kept, in words. -/
def unsaved (path reason : String) : String :=
  "Failed to write archive: Could not access archive file '" ++ path ++ "': " ++ reason

/-- Drops a session and writes the archive of it to a file. Gives the host after it. -/
def keep (console : Console m) (c : Conversation) (path : String) : ExceptT String m Host := do
  let (archived, host) := c.archive
  let archive ← ExceptT.mk (pure archived)
  (console.save path archive.toBytes).adapt (unsaved path)
  console.note ("Session archived to '" ++ path ++ "'.\n")
  return host

/-- Holds a conversation on the flow of a run, from its start until it ends or the replies are used
up. -/
def converse (console : Console m) (o : Options) : ExceptT String m Conversation := do
  let flow ← loadFlow console (o.flow.getD "")
  let script ← match o.inputs with
    | some path => some <$> loadScript console path
    | none => pure none
  let host := hostOf o (← console.maxSteps) flow
  let c ← Conversation.begin console host o.session
  match script with
  | some replies => c.playScript console replies
  | none => c.playTyped console typedLimit

/-- Runs a conversation and drops its session, which is kept as an archive where that is asked for.
Gives the host after it. -/
def run (console : Console m) (o : Options) : ExceptT String m Host := do
  let c ← converse console o
  match o.archive with
  | some path => keep console c path
  | none => return (c.host.disconnect c.session).2

/-! ### Exit codes -/

/-- What the arguments may be. -/
def usage : String :=
  "Usage: dialogue [OPTIONS] <FLOW_PATH>\n\n" ++
  "Options:\n" ++
  "  -i, --inputs <INPUTS>          File with one user reply per line\n" ++
  "  -s, --session-id <SESSION_ID>  Session id to use instead of a generated one\n" ++
  "      --max-steps <MAX_STEPS>    Maximum nodes executed per reply\n" ++
  "      --delay <DELAY>            How delays are handled: skip or wait\n" ++
  "      --timeout-ms <TIMEOUT_MS>  Timeout for requests, in milliseconds\n" ++
  "      --archive <ARCHIVE>        Write an archive of the finished session to this path\n" ++
  "  -h, --help                     Print help\n" ++
  "  -V, --version                  Print version\n"

/-- A message about a failure. -/
def failure (message : String) : String := "\nError: " ++ message ++ "\n"

/-- Does what the arguments ask for and gives the exit code: 1 after a failure, 2 where the
arguments are not understood. -/
def execute (console : Console m) (args : List String) : m Nat := do
  match Options.parse args with
  | .error .misuse =>
    console.note usage
    return 2
  | .error .help =>
    console.print usage
    return 0
  | .error .version =>
    console.print "dialogue 0.1.0"
    return 0
  | .ok o =>
    match ← (run console o).run with
    | .ok _ => return 0
    | .error message =>
      console.note (failure message)
      return 1

end Dialogue.Cli
