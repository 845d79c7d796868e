import Dialogue.Decimal.Shortest
import Dialogue.Flow.Edge
import Dialogue.Flow.Node

/-!
# Validation of graphs

The rules that nodes and edges must keep to be a flow. `violation?` goes through the rules in order
and gives the first violation.
-/

namespace Dialogue

/-- A violated rule. -/
inductive GraphError where
  | noStart
  /-- The identifiers of all start nodes. How many there are is the length of the list. -/
  | severalStarts (ids : List String)
  | repeatedId (id : String)
  | danglingEdge (edge missing : String)
  | danglingJump (node target : String)
  | invalidDelay (node : String) (seconds : Float)
  deriving DecidableEq

/-- What is wrong, in words. -/
def GraphError.message : GraphError → String
  | noStart => "Flow has no start node"
  | severalStarts ids =>
    "Flow has " ++ toString ids.length ++ " start nodes (" ++ ", ".intercalate ids ++
      "), exactly one is required"
  | repeatedId id => "Node id '" ++ id ++ "' is used by more than one node"
  | danglingEdge edge missing =>
    "Edge '" ++ edge ++ "' references node '" ++ missing ++ "', which does not exist"
  | danglingJump node target =>
    "Jump node '" ++ node ++ "' targets node '" ++ target ++ "', which does not exist"
  | invalidDelay node seconds =>
    "Delay node '" ++ node ++ "' waits " ++ Decimal.plain seconds ++
      " seconds; a finite, non-negative value is required"

namespace Graph

/-- The first identifier that stands earlier in the list or among those seen before. -/
def repeatedId? (seen : List String) : List Node → Option String
  | [] => none
  | n :: rest => if n.id ∈ seen then some n.id else repeatedId? (n.id :: seen) rest

/-- A number of start nodes other than one. -/
def startViolation? (nodes : List Node) : Option GraphError :=
  match (nodes.filter (·.kind.isStart)).map (·.id) with
  | [] => some .noStart
  | [_] => none
  | ids => some (.severalStarts ids)

/-- An end of an edge that is no node, the source first. -/
def edgeViolation? (ids : List String) (e : Edge) : Option GraphError :=
  if e.source ∉ ids then some (.danglingEdge e.id e.source)
  else if e.target ∉ ids then some (.danglingEdge e.id e.target)
  else none

/-- Whether a time can be waited for. -/
def isDuration (seconds : Float) : Bool := Decimal.isFinite seconds && 0 ≤ seconds

/-- A jump to no node, or a delay that cannot be waited for. -/
def nodeViolation? (ids : List String) (n : Node) : Option GraphError :=
  match n.kind with
  | .jump target => if target ∈ ids then none else some (.danglingJump n.id target)
  | .delay seconds => if isDuration seconds then none else some (.invalidDelay n.id seconds)
  | _ => none

/-- The first violated rule: identifiers are distinct, there is one start node, edges lead from
nodes to nodes, jumps lead to nodes and delays are finite and not negative. -/
def violation? (nodes : List Node) (edges : List Edge) : Option GraphError :=
  let ids := nodes.map (·.id)
  ((repeatedId? [] nodes).map GraphError.repeatedId).or <|
    (startViolation? nodes).or <|
      (edges.findSome? (edgeViolation? ids)).or <|
        nodes.findSome? (nodeViolation? ids)

/-- Valid graphs have exactly one start node. -/
theorem start_of_violation?_eq_none {nodes : List Node} {edges : List Edge}
    (h : violation? nodes edges = none) : (nodes.find? (·.kind.isStart)).isSome := by
  simp only [violation?, Option.or_eq_none_iff] at h
  obtain ⟨_, hs, _⟩ := h
  rw [List.find?_isSome]
  unfold startViolation? at hs
  split at hs
  · simp at hs
  next id hid =>
    have : id ∈ (nodes.filter (·.kind.isStart)).map (·.id) := by simp [hid]
    obtain ⟨n, hn, _⟩ := List.mem_map.1 this
    exact ⟨n, (List.mem_filter.1 hn).1, by simpa using (List.mem_filter.1 hn).2⟩
  · simp at hs

end Graph

end Dialogue
