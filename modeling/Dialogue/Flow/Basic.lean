import Dialogue.Flow.Validation

/-!
# Flows

A flow is a graph of nodes and edges that keeps the rules of validation, with a name. Conversations
follow its edges: the first in the list that the outcome of a node allows.
-/

namespace Dialogue

/-- A valid graph with a name. -/
structure Flow where
  name : String
  nodes : List Node
  edges : List Edge
  valid : Graph.violation? nodes edges = none
  deriving DecidableEq

namespace Flow

/-- The name of a flow that has no other. -/
def defaultName : String := "untitled"

/-- The flow of nodes and edges, or the rule that they violate. -/
def ofGraph (name : String) (nodes : List Node) (edges : List Edge) : Except GraphError Flow :=
  match h : Graph.violation? nodes edges with
  | some e => .error e
  | none => .ok ⟨name, nodes, edges, h⟩

/-- The node of an identifier. -/
def node? (f : Flow) (id : String) : Option Node := f.nodes.find? (·.id = id)

/-- The start node. -/
def start (f : Flow) : Node :=
  (f.nodes.find? (·.kind.isStart)).get (Graph.start_of_violation?_eq_none f.valid)

/-- The edges that leave a node, in their order. -/
def edgesFrom (f : Flow) (id : String) : List Edge := f.edges.filter (·.source = id)

/-- Whether an edge is one for a branch at its source: a condition takes the edges with that very
label, any other node the edges labelled for errors, or those without label. -/
def allows (kind : NodeKind) (branch : Branch) (e : Edge) : Bool :=
  match kind, branch with
  | .condition _, b => e.branch = some b
  | _, .onError => e.branch = some .onError
  | _, _ => e.branch = none

/-- The edges that leave a node, all of them or those of a branch. -/
def outgoing (f : Flow) (id : String) (branch : Option Branch) : List Edge :=
  match f.node? id, branch with
  | none, _ => []
  | some _, none => f.edgesFrom id
  | some n, some b => (f.edgesFrom id).filter (allows n.kind b)

/-- Whether an edge can be the way on from a node that has done its work. At an api node those for
errors cannot. -/
def leadsOn (kind : NodeKind) (e : Edge) : Bool :=
  match kind with
  | .api _ => e.branch ≠ some .onError
  | _ => true

/-- The node that follows a node. -/
def next? (f : Flow) (id : String) : Option String :=
  (f.node? id).bind fun n => ((f.edgesFrom id).find? (leadsOn n.kind)).map (·.target)

/-- The node that follows a node on a branch. -/
def branchTarget? (f : Flow) (id : String) (branch : Branch) : Option String :=
  ((f.outgoing id (some branch)).head?).map (·.target)

end Flow

end Dialogue
