import Dialogue.Document.Basic

/-!
# Exporting flows

From a flow to a document. The data of a node are the fields of its kind by increasing name; a field
without a value is left out.
-/

namespace Dialogue

namespace Json.Value

private theorem increasing_texts {entries : List (String × String)}
    (h : entries.Pairwise fun a b => a.1 < b.1) :
    increasing (entries.map fun e => (e.1, .string e.2)) := by
  induction entries with
  | nil => rfl
  | cons a rest ih =>
    have ⟨ha, hr⟩ := List.pairwise_cons.1 h
    cases rest with
    | nil => rfl
    | cons b rest => simpa [increasing, ha b List.mem_cons_self] using ih hr

private theorem canonical_texts (entries : List (String × String)) :
    fieldsCanonical (entries.map fun e => (e.1, .string e.2)) := by
  induction entries with
  | nil => rfl
  | cons a rest ih => simpa [fieldsCanonical, isCanonical] using ih

/-- The object whose fields are the texts of a table. -/
def ofTexts (texts : Table String) : Json.Value where
  tree := .object (texts.entries.map fun e => (e.1, .string e.2))
  canonical := by simp [isCanonical, increasing_texts texts.sorted, canonical_texts]

/-- The object with one field, a number. -/
def ofNumber (key : String) (x : Float) : Json.Value where
  tree := .object [(key, .ofFloat x)]
  canonical := by
    unfold Json.ofFloat
    split <;> simp_all [isCanonical, increasing, fieldsCanonical]

end Json.Value

/-- A text under a key, if there is one. -/
def textEntry (key : String) (text : Option String) : List (String × String) :=
  (text.map (key, ·)).toList

/-- The data of a kind of node. -/
def NodeKind.data : NodeKind → Json.Value
  | start => .ofTexts ∅
  | message m =>
    .ofTexts (.ofList (("message", m.text) :: textEntry "imageUrl" m.image ++
      textEntry "linkUrl" m.link))
  | input saveAs => .ofTexts (.ofList (textEntry "variable" saveAs))
  | condition predicate => .ofTexts (.ofList [("condition", predicate)])
  | delay seconds => .ofNumber "seconds" seconds
  | api call =>
    .ofTexts (.ofList ([("method", call.method), ("url", call.url)] ++ textEntry "body" call.body ++
      textEntry "variable" call.saveAs ++ textEntry "responseField" call.responseField))
  | jump target => .ofTexts (.ofList [("targetNodeId", target)])
  | finish => .ofTexts ∅

/-- The node for an editor. -/
def Node.toEditor (n : Node) : EditorNode where
  id := n.id
  type := n.kind.name
  position := n.position
  data := n.kind.data

/-- The edge for an editor. -/
def Edge.toEditor (e : Edge) : EditorEdge where
  id := e.id
  source := e.source
  target := e.target
  handle := e.handle

/-- The document of a flow. -/
def Flow.toDocument (f : Flow) : Document where
  name := f.name
  graph := { nodes := f.nodes.map Node.toEditor, edges := f.edges.map Edge.toEditor }

end Dialogue
