import Dialogue.Cli.Run
import Dialogue.Uuid

/-!
# The program

Runs a flow in a terminal.
-/

namespace Dialogue.Terminal

/-- An action that throws why it failed. -/
def attempt {α : Type} (action : IO α) : ExceptT String IO α := ExceptT.mk do
  try return .ok (← action)
  catch e => return .error (toString e)

/-- Writes a text to the standard error stream. -/
def note (text : String) : IO Unit := do
  let stream ← IO.getStderr
  stream.putStr text
  stream.flush

/-- Prints a line on the standard output stream. -/
def print (line : String) : IO Unit := do
  let stream ← IO.getStdout
  stream.putStrLn line
  stream.flush

/-- The next line of the standard input stream. -/
def typedLine : ExceptT String IO (Option String) := attempt do
  let line ← (← IO.getStdin).getLine
  return if line.isEmpty then none else some line

/-- Waits for a length of time, in whole milliseconds. A long one is cut into days. -/
def sleep (d : Duration) : IO Unit := do
  let day := 86400000
  let length := d.seconds * 1000 + (d.nanoseconds + 999999) / 1000000
  for _ in [0 : length / day] do
    IO.sleep (UInt32.ofNat day)
  IO.sleep (UInt32.ofNat (length % day))

/-- A random identifier. -/
def freshId : IO String := do
  return Uuid.ofBytes (← IO.getRandomBytes 16).data.toList

/-- This program has no connection to make requests over. -/
def connect (_ : HttpMethod) (r : ApiRequest) : IO (Except HttpError ApiResponse) :=
  return .error (.transport r.url "no connection")

/-- The terminal and the files. -/
def console : Cli.Console IO where
  services := { call := ApiRequest.send connect, sleep, freshId }
  print
  note
  typedLine
  contents path := attempt (IO.FS.readBinFile path)
  save path bytes := attempt (IO.FS.writeBinFile path ⟨bytes.toArray⟩)
  maxSteps := IO.getEnv "CHATFLOW_MAX_STEPS"

end Dialogue.Terminal

/-- Runs the program. -/
def main (args : List String) : IO UInt32 := do
  return UInt32.ofNat (← Dialogue.Cli.execute Dialogue.Terminal.console args)
