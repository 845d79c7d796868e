import Dialogue.Json.Record
import Dialogue.Session.Basic

/-!
# Archives

An archive is a snapshot of a session that can be kept after the session is gone. Its variables are
listed by increasing name, so that it does not depend on how the session came to be as it is.
-/

namespace Dialogue

/-- A snapshot of a session. -/
structure Archive where
  session : String
  flow : String
  node : Option String
  status : Status
  vars : List (String × String)
  transcript : List Line
  deriving DecidableEq

namespace Archive

/-- The snapshot of a session. -/
def ofSession (s : Session) : Archive where
  session := s.id
  flow := s.flow.name
  node := s.node
  status := s.status
  vars := s.vars.entries
  transcript := s.transcript.toList

end Archive

/-! ### JSON -/

open Json (required optional)

/-- The tree of a line. -/
def Line.toJson (l : Line) : Json :=
  .object [("speaker", .string l.speaker.name), ("text", .string l.text)]

/-- The speaker that a tree names. -/
def Speaker.ofJson? (j : Json) : Option Speaker :=
  (j.name? false).bind fun name => Speaker.all.find? (·.name = name)

/-- The status that a tree names. -/
def Status.ofJson? (j : Json) : Option Status :=
  (j.name? false).bind fun name => Status.all.find? (·.name = name)

/-- The line of a tree. -/
def Line.ofJson? (j : Json) : Option Line :=
  match j.parts? [{ name := "speaker" }, { name := "text" }] with
  | some [speaker, text] => do
    return { speaker := ← required Speaker.ofJson? speaker, text := ← required Json.string? text }
  | _ => none

/-- The pair of texts of an array. -/
def Json.pair? : Json → Option (String × String)
  | .array [.string k, .string v] => some (k, v)
  | _ => none

namespace Archive

/-- The tree of an archive. -/
def toJson (a : Archive) : Json :=
  .object [("session_id", .string a.session), ("flow_name", .string a.flow),
    ("final_node", .ofText? a.node), ("status", .string a.status.name),
    ("variables", .array (a.vars.map fun v => .array [.string v.1, .string v.2])),
    ("transcript", .array (a.transcript.map Line.toJson))]

/-- The archive of a tree. -/
def ofJson? (j : Json) : Option Archive :=
  match j.parts? [{ name := "session_id" }, { name := "flow_name" }, { name := "final_node" },
    { name := "status" }, { name := "variables" }, { name := "transcript" }] with
  | some [session, flow, node, status, vars, transcript] => do
    return {
      session := ← required Json.string? session
      flow := ← required Json.string? flow
      node := ← optional Json.string? node
      status := ← required Status.ofJson? status
      vars := ← required (Json.items? Json.pair?) vars
      transcript := ← required (Json.items? Line.ofJson?) transcript }
  | _ => none

end Archive

end Dialogue
