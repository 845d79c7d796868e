import Dialogue.Session.Basic

/-!
# Refusals

Why a call on a session is refused. A conversation that fails while it runs is not refused: it sends
an event and ends.
-/

namespace Dialogue

/-- Why a call is refused. -/
inductive Refusal where
  | wrongStatus (session : String) (expected actual : Status)
  | unknownSession (session : String)
  | sessionExists (session : String)
  | unknownNode (session node : String)
  | invalidGraph (error : GraphError)
  deriving DecidableEq

/-- Why a call is refused, in words. -/
def Refusal.message : Refusal → String
  | wrongStatus session expected actual =>
    "Session '" ++ session ++ "' cannot accept this call: expected status " ++ expected.name ++
      ", but it is " ++ actual.name
  | unknownSession session => "Session '" ++ session ++ "' not found"
  | sessionExists session => "Session '" ++ session ++ "' already exists"
  | unknownNode session node =>
    "Session '" ++ session ++ "' points at node '" ++ node ++ "', which is not in its flow"
  | invalidGraph error => error.message

end Dialogue
