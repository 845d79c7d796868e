import Dialogue.Refusal

/-!
# Edits

The ways in which a session changes. Each edit changes the one thing that it is named for; a line of
the user is also the latest input.
-/

namespace Dialogue

/-- A change of one session. -/
inductive Edit where
  | setVariable (name value : String)
  | advanceTo (node : String)
  | setStatus (status : Status)
  | setPending (pending : Option ExternalRequest)
  | record (speaker : Speaker) (text : String)
  deriving DecidableEq

/-- The session with one more line. -/
def Session.say (s : Session) (speaker : Speaker) (text : String) : Session :=
  { s with
    transcript := s.transcript.push ⟨speaker, text⟩
    lastInput := if speaker = .user then some text else s.lastInput }

/-- The session after an edit. It cannot advance to a node that its flow does not have. -/
def Session.edit (s : Session) : Edit → Except Refusal Session
  | .setVariable name value => .ok { s with vars := s.vars.insert name value }
  | .advanceTo node =>
    if (s.flow.node? node).isSome then .ok { s with node := some node }
    else .error (.unknownNode s.id node)
  | .setStatus status => .ok { s with status := status }
  | .setPending pending => .ok { s with pending := pending }
  | .record speaker text => .ok (s.say speaker text)

/-- An edit of a session, on a line of a log. -/
def Edit.describe (session : String) : Edit → String
  | setVariable name value => "set_variable " ++ session ++ " " ++ name ++ "=" ++ value
  | advanceTo node => "advance_to " ++ session ++ " " ++ node
  | setStatus status => "set_status " ++ session ++ " " ++ status.name
  | setPending pending => "set_pending " ++ session ++ " " ++ toString pending.isSome
  | record speaker text => "record " ++ session ++ " " ++ speaker.name ++ " " ++ text

end Dialogue
