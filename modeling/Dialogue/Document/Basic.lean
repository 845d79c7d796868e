import Dialogue.Flow.Basic
import Dialogue.Json.Reading
import Dialogue.Json.Record
import Dialogue.Json.Writing

/-!
# Documents

Flows as an editor keeps them: nodes with the name of their kind and data in JSON, edges, and a name
for the whole. A document need not be a valid flow.
-/

namespace Dialogue

open Json (Field required withDefault optional)

/-- A node as an editor keeps it. -/
structure EditorNode where
  id : String
  /-- The name of the kind. -/
  type : String
  position : Option Position
  data : Json.Value

/-- An edge as an editor keeps it. -/
structure EditorEdge where
  id : String
  source : String
  target : String
  handle : Option String
  deriving DecidableEq

/-- The nodes and edges of an editor. -/
structure EditorGraph where
  nodes : List EditorNode
  edges : List EditorEdge

/-- A graph with a name, as it is kept in a file. -/
structure Document where
  name : String
  graph : EditorGraph

/-! ### Writing -/

/-- The tree of a place. -/
def Position.toJson (p : Position) : Json := .object [("x", .ofFloat p.x), ("y", .ofFloat p.y)]

/-- The tree of a node. -/
def EditorNode.toJson (n : EditorNode) : Json :=
  .object ([("id", .string n.id), ("type", .string n.type)] ++
    Json.entry? "position" (n.position.map Position.toJson) ++ [("data", n.data.tree)])

/-- The tree of an edge. -/
def EditorEdge.toJson (e : EditorEdge) : Json :=
  .object ([("id", .string e.id), ("source", .string e.source), ("target", .string e.target)] ++
    Json.entry? "sourceHandle" (e.handle.map .string))

/-- The fields of nodes and edges. -/
def EditorGraph.entries (g : EditorGraph) : List Json.Entry :=
  [("nodes", .array (g.nodes.map EditorNode.toJson)),
    ("edges", .array (g.edges.map EditorEdge.toJson))]

/-- The tree of nodes and edges. -/
def EditorGraph.toJson (g : EditorGraph) : Json := .object g.entries

/-- The tree of a document. -/
def Document.toJson (d : Document) : Json := .object (("name", .string d.name) :: d.graph.entries)

/-- The text of a document, over several lines. -/
def Document.render (d : Document) : String := d.toJson.pretty

/-! ### Reading -/

/-- The place of a tree. -/
def Position.ofJson? (j : Json) : Option Position :=
  match j.parts? [{ name := "x" }, { name := "y" }] with
  | some [x, y] => do return { x := ← required Json.number? x, y := ← required Json.number? y }
  | _ => none

/-- The fields of a node. -/
def EditorNode.fields : List Field :=
  [{ name := "id" }, { name := "type" }, { name := "position", omissible := true },
    { name := "data", omissible := true }]

/-- The node of a tree. -/
def EditorNode.ofJson? (j : Json) : Option EditorNode :=
  match j.parts? fields with
  | some [id, type, position, data] => do
    return {
      id := ← required Json.string? id
      type := ← required Json.string? type
      position := ← optional Position.ofJson? position
      data := ← withDefault default Json.value? data }
  | _ => none

/-- The fields of an edge. -/
def EditorEdge.fields : List Field :=
  [{ name := "id", omissible := true }, { name := "source" }, { name := "target" },
    { name := "sourceHandle", aliases := ["source_handle"], omissible := true }]

/-- The edge of a tree. -/
def EditorEdge.ofJson? (j : Json) : Option EditorEdge :=
  match j.parts? fields with
  | some [id, source, target, handle] => do
    return {
      id := ← withDefault "" Json.string? id
      source := ← required Json.string? source
      target := ← required Json.string? target
      handle := ← optional Json.string? handle }
  | _ => none

/-- The nodes and edges of two parts. -/
def EditorGraph.ofParts? (nodes edges : Option Json) : Option EditorGraph := do
  return {
    nodes := ← required (Json.items? EditorNode.ofJson?) nodes
    edges := ← required (Json.items? EditorEdge.ofJson?) edges }

/-- The nodes and edges of a tree. -/
def EditorGraph.ofJson? (j : Json) : Option EditorGraph :=
  match j.parts? [{ name := "nodes" }, { name := "edges" }] with
  | some [nodes, edges] => ofParts? nodes edges
  | _ => none

/-- The fields of a document. -/
def Document.fields : List Field :=
  [{ name := "name", omissible := true }, { name := "nodes" }, { name := "edges" }]

/-- The document of a tree. -/
def Document.ofJson? (j : Json) : Option Document :=
  match j.parts? fields with
  | some [name, nodes, edges] => do
    return {
      name := ← withDefault Flow.defaultName Json.string? name
      graph := ← EditorGraph.ofParts? nodes edges }
  | _ => none

end Dialogue
