import Dialogue.Document.Basic

/-!
# Importing documents

From a document to a flow. The names of kinds and methods are normalised, optional texts that are
blank are dropped, a delay may be written as a number or as text, and edges without an identifier
are given one. The first node that cannot be imported, or else the first rule of validation that is
violated, is what is wrong with a document.
-/

namespace Dialogue

open Json (Field withDefault optional)

/-- Why a document is no flow. -/
inductive ImportError where
  /-- The text is not the JSON of a document. Why it is not, the reader does not tell. -/
  | malformed
  | unreadableFile (path reason : String)
  | unknownType (node type : String)
  /-- The data of a node do not fit its kind. Why they do not, the reader does not tell. -/
  | misfit (node : String)
  | jumpWithoutTarget (node : String)
  | badDelay (node : String)
  | invalidGraph (error : GraphError)
  deriving DecidableEq

namespace ImportError

/-- Why the data of a node are wrong. -/
private def invalidData (node reason : String) : String :=
  "Node '" ++ node ++ "' has invalid data: " ++ reason

/-- What is wrong, in words. The readers of texts and of data give a value or none, but no reason.
So `malformed` and `misfit` end in fixed words, where a reader with messages of its own would have
its message passed on. -/
def message : ImportError → String
  | malformed => "Failed to parse flow JSON: this is not a flow"
  | unreadableFile path reason => "Could not access flow file '" ++ path ++ "': " ++ reason
  | unknownType node type => "Node '" ++ node ++ "' has an unknown type: '" ++ type ++ "'"
  | misfit node => invalidData node "the fields do not fit the type"
  | jumpWithoutTarget node => invalidData node "jump node has no targetNodeId"
  | badDelay node => invalidData node "delay seconds must be a non-negative number"
  | invalidGraph error => error.message

end ImportError

/-! ### Data of nodes -/

namespace EditorNode

/-- The data of a message node. -/
def message? (data : Json) : Option Message :=
  match data.parts? [{ name := "message", aliases := ["text"], omissible := true },
    { name := "imageUrl", omissible := true }, { name := "linkUrl", omissible := true }] with
  | some [text, image, link] => do
    return {
      text := ← withDefault "" Json.string? text
      image := Text.nonBlank (← optional Json.string? image)
      link := Text.nonBlank (← optional Json.string? link) }
  | _ => none

/-- The data of an input node: the variable for the reply. -/
def saveAs? (data : Json) : Option (Option String) :=
  match data.parts? [{ name := "variable", omissible := true }] with
  | some [saveAs] => (optional Json.string? saveAs).map Text.nonBlank
  | _ => none

/-- The data of a condition node: the predicate. -/
def predicate? (data : Json) : Option String :=
  match data.parts? [{ name := "condition", aliases := ["predicate"], omissible := true }] with
  | some [predicate] => withDefault "" Json.string? predicate
  | _ => none

/-- The data of a delay node: the seconds as they are written. -/
def secondsTree? (data : Json) : Option (Option Json) :=
  match data.parts? [{ name := "seconds", aliases := ["delay"], omissible := true }] with
  | some [seconds] => optional some seconds
  | _ => none

/-- The seconds of a delay; one where nothing is written. -/
def seconds? : Option Json → Option Float
  | none => some 1
  | some (.string s) =>
    if Text.trim s = "" then some 1
    else (Decimal.parse? (Text.trim s)).filter Graph.isDuration
  | some j => j.number?.filter Graph.isDuration

/-- The method of a request; `GET` where nothing is written. -/
def method (written : Option String) : String :=
  match written.map fun s => Text.asciiUppercase (Text.trim s) with
  | none => "GET"
  | some name => if name = "" then "GET" else name

/-- The body of a request: a text as it is, any other tree as its text. -/
def body? : Json → Option String
  | .null => none
  | .string s => Text.nonBlank (some s)
  | j => some j.compact

/-- The fields of the data of an api node. -/
def apiFields : List Field :=
  [{ name := "method", omissible := true }, { name := "url", omissible := true },
    { name := "body", omissible := true }, { name := "variable", omissible := true },
    { name := "responseField", omissible := true }]

/-- The data of an api node. -/
def apiCall? (data : Json) : Option ApiCall :=
  match data.parts? apiFields with
  | some [written, url, body, saveAs, responseField] => do
    return {
      method := method (← optional Json.string? written)
      url := ← withDefault "" Json.string? url
      body := (← optional some body).bind body?
      saveAs := Text.nonBlank (← optional Json.string? saveAs)
      responseField := Text.nonBlank (← optional Json.string? responseField) }
  | _ => none

/-- The data of a jump node: the target. -/
def target? (data : Json) : Option (Option String) :=
  match data.parts? [{ name := "targetNodeId", aliases := ["target"], omissible := true }] with
  | some [target] => (optional Json.string? target).map Text.nonBlank
  | _ => none

/-! ### Nodes -/

/-- The data of a node. No data are data without fields. -/
def fieldData (n : EditorNode) : Json :=
  match n.data.tree with
  | .null => .object []
  | data => data

/-- The kind of a node. Blanks around its name and the case of letters do not matter. -/
def kind (n : EditorNode) : Except ImportError NodeKind :=
  let fit {α : Type} (data : Option α) : Except ImportError α :=
    data.elim (.error (.misfit n.id)) .ok
  match Text.asciiLowercase (Text.trim n.type) with
  | "start" => .ok .start
  | "end" => .ok .finish
  | "message" => (fit (message? n.fieldData)).map .message
  | "input" => (fit (saveAs? n.fieldData)).map .input
  | "condition" => (fit (predicate? n.fieldData)).map .condition
  | "delay" => do
    match seconds? (← fit (secondsTree? n.fieldData)) with
    | some seconds => .ok (.delay seconds)
    | none => .error (.badDelay n.id)
  | "api" => (fit (apiCall? n.fieldData)).map .api
  | "jump" => do
    match ← fit (target? n.fieldData) with
    | some target => .ok (.jump target)
    | none => .error (.jumpWithoutTarget n.id)
  | _ => .error (.unknownType n.id n.type)

/-- The node of a flow. -/
def toNode (n : EditorNode) : Except ImportError Node :=
  n.kind.map fun kind => { id := n.id, kind, position := n.position }

end EditorNode

/-! ### Graphs -/

/-- The edge of a flow, by its place among the edges. -/
def EditorEdge.toEdge (place : Nat) (e : EditorEdge) : Edge where
  id := if e.id = "" then "edge-" ++ toString place else e.id
  source := e.source
  target := e.target
  handle := e.handle.filter (· ≠ "")

/-- The flow of nodes and edges, under a name. -/
def EditorGraph.toFlow (g : EditorGraph) (name : String) : Except ImportError Flow := do
  let nodes ← g.nodes.mapM EditorNode.toNode
  let edges := g.edges.mapIdx EditorEdge.toEdge
  match Flow.ofGraph name nodes edges with
  | .ok flow => .ok flow
  | .error violation => .error (.invalidGraph violation)

/-- The nodes and edges that a text holds. -/
def EditorGraph.parse (s : String) : Except ImportError EditorGraph :=
  ((Json.parse? s).bind EditorGraph.ofJson?).elim (.error .malformed) .ok

/-- The flow of a document. -/
def Document.toFlow (d : Document) : Except ImportError Flow := d.graph.toFlow d.name

/-- The document that a text holds. -/
def Document.parse (s : String) : Except ImportError Document :=
  ((Json.parse? s).bind Document.ofJson?).elim (.error .malformed) .ok

/-- The document that the bytes of a file hold. -/
def Document.parseFile (path : String) (bytes : ByteArray) : Except ImportError Document :=
  match String.fromUTF8? bytes with
  | some s => Document.parse s
  | none => .error (.unreadableFile path "stream did not contain valid UTF-8")

end Dialogue
