import Dialogue.Flow.Basic
import Mathlib.Tactic.Common

/-!
# What validity gives

A valid graph passes each of its rules, so that every way of a flow leads to one of its nodes: the
start node, the target of an edge and the target of a jump are all found by their identifiers. A
conversation that goes on never leaves its flow.
-/

namespace Dialogue

/-- The label of the edges of a branch at a node of this kind. A condition has edges for each
branch, every other node one label for errors, and no label for what follows otherwise. -/
def NodeKind.label : NodeKind → Branch → Option Branch
  | condition _, branch => some branch
  | _, .onError => some .onError
  | _, _ => none

lemma NodeKind.isStart_iff {kind : NodeKind} : kind.isStart ↔ kind = .start := by
  cases kind <;> simp [isStart]

/-! ### The rules one by one -/

namespace Graph

variable {nodes : List Node} {edges : List Edge}

/-- A graph is valid when it passes each rule. -/
lemma violation?_eq_none_iff :
    violation? nodes edges = none ↔
      repeatedId? [] nodes = none ∧ startViolation? nodes = none ∧
        (∀ e ∈ edges, edgeViolation? (nodes.map (·.id)) e = none) ∧
          ∀ n ∈ nodes, nodeViolation? (nodes.map (·.id)) n = none := by
  simp only [violation?, Option.or_eq_none_iff, Option.map_eq_none_iff, List.findSome?_eq_none_iff]

lemma edgeViolation?_eq_none_iff {ids : List String} {e : Edge} :
    edgeViolation? ids e = none ↔ e.source ∈ ids ∧ e.target ∈ ids := by
  simp only [edgeViolation?]
  by_cases hs : e.source ∈ ids
  · by_cases ht : e.target ∈ ids <;> simp [hs, ht]
  · simp [hs]

/-- No identifier is repeated when all are distinct, and none of them was seen before. -/
lemma repeatedId?_eq_none_iff {seen : List String} :
    repeatedId? seen nodes = none ↔
      (nodes.map (·.id)).Nodup ∧ ∀ n ∈ nodes, n.id ∉ seen := by
  induction nodes generalizing seen with
  | nil => simp [repeatedId?]
  | cons n rest ih =>
    simp only [repeatedId?, List.map_cons, List.nodup_cons, List.mem_cons, forall_eq_or_imp]
    by_cases hseen : n.id ∈ seen
    · simp [hseen]
    · rw [if_neg hseen, ih]
      simp only [List.mem_map, List.mem_cons, not_or]
      constructor
      · rintro ⟨hnodup, hrest⟩
        refine ⟨⟨?_, hnodup⟩, hseen, fun m hm => (hrest m hm).2⟩
        rintro ⟨m, hm, hid⟩
        exact (hrest m hm).1 hid
      · rintro ⟨⟨hfresh, hnodup⟩, _, hrest⟩
        exact ⟨hnodup, fun m hm => ⟨fun hid => hfresh ⟨m, hm, hid⟩, hrest m hm⟩⟩

lemma repeatedId?_nil_eq_none_iff : repeatedId? [] nodes = none ↔ (nodes.map (·.id)).Nodup := by
  simp [repeatedId?_eq_none_iff]

/-- Where identifiers are distinct, every node is the first with its own. -/
lemma find?_id_eq_some {n : Node} (hnodup : (nodes.map (·.id)).Nodup) (hn : n ∈ nodes) :
    nodes.find? (·.id = n.id) = some n := by
  induction nodes with
  | nil => cases hn
  | cons m rest ih =>
    obtain ⟨hfresh, hnodup⟩ := List.nodup_cons.mp hnodup
    rcases List.mem_cons.mp hn with rfl | hn
    · simp
    · have hne : m.id ≠ n.id := fun hid => hfresh (List.mem_map.mpr ⟨n, hn, hid.symm⟩)
      simpa [hne] using ih hnodup hn

end Graph

namespace Flow

variable {f : Flow} {id target : String} {n : Node}

/-! ### Flows of graphs -/

lemma ofGraph_of_violation (name : String) {nodes : List Node} {edges : List Edge}
    {violation : GraphError} (h : Graph.violation? nodes edges = some violation) :
    ofGraph name nodes edges = .error violation := by
  simp only [ofGraph]
  split
  · next h' => rw [Option.some.inj (h'.symm.trans h)]
  · next h' => exact absurd (h'.symm.trans h) (Option.some_ne_none _).symm

lemma ofGraph_of_valid (name : String) {nodes : List Node} {edges : List Edge}
    (h : Graph.violation? nodes edges = none) :
    ofGraph name nodes edges = .ok ⟨name, nodes, edges, h⟩ := by
  simp only [ofGraph]
  split
  · next h' => exact absurd (h'.symm.trans h) (Option.some_ne_none _)
  · rfl

/-- A flow is made of its own nodes and edges, and of no others. -/
lemma ofGraph_eq_ok_iff {name : String} {nodes : List Node} {edges : List Edge} :
    ofGraph name nodes edges = .ok f ↔ f.name = name ∧ f.nodes = nodes ∧ f.edges = edges := by
  constructor
  · intro h
    cases hviolation : Graph.violation? nodes edges with
    | none =>
      rw [ofGraph_of_valid name hviolation] at h
      cases h
      exact ⟨rfl, rfl, rfl⟩
    | some violation =>
      rw [ofGraph_of_violation name hviolation] at h
      cases h
  · rintro ⟨rfl, rfl, rfl⟩
    exact ofGraph_of_valid f.name f.valid

lemma ofGraph_eq_error_iff {name : String} {nodes : List Node} {edges : List Edge}
    {violation : GraphError} :
    ofGraph name nodes edges = .error violation ↔
      Graph.violation? nodes edges = some violation := by
  cases h : Graph.violation? nodes edges with
  | none => simp [ofGraph_of_valid name h]
  | some violation' => simp [ofGraph_of_violation name h]

/-! ### Nodes by their identifiers -/

lemma isSome_node?_iff : (f.node? id).isSome ↔ id ∈ f.nodes.map (·.id) := by
  simp only [node?]
  rw [List.find?_isSome, List.mem_map]
  simp only [decide_eq_true_eq]

lemma mem_of_node? (h : f.node? id = some n) : n ∈ f.nodes :=
  List.mem_of_find?_eq_some h

lemma id_of_node? (h : f.node? id = some n) : n.id = id := by
  simpa using List.find?_some h

lemma nodup_ids (f : Flow) : (f.nodes.map (·.id)).Nodup :=
  Graph.repeatedId?_nil_eq_none_iff.mp (Graph.violation?_eq_none_iff.mp f.valid).1

/-- A node is found by its identifier. -/
lemma node?_of_mem (h : n ∈ f.nodes) : f.node? n.id = some n :=
  Graph.find?_id_eq_some f.nodup_ids h

/-! ### Where the ways lead -/

lemma isSome_node?_of_mem (h : n ∈ f.nodes) : (f.node? n.id).isSome :=
  isSome_node?_iff.mpr (List.mem_map.mpr ⟨n, h, rfl⟩)

lemma find?_isStart (f : Flow) : f.nodes.find? (·.kind.isStart) = some f.start :=
  (Option.some_get _).symm

lemma start_mem (f : Flow) : f.start ∈ f.nodes :=
  List.mem_of_find?_eq_some f.find?_isStart

lemma isStart_start (f : Flow) : f.start.kind.isStart := by
  have hstart := List.find?_some f.find?_isStart
  exact hstart

/-- The start node is the only one of its kind. -/
lemma filter_isStart (f : Flow) : f.nodes.filter (·.kind.isStart) = [f.start] := by
  obtain ⟨_, hone, _⟩ := Graph.violation?_eq_none_iff.mp f.valid
  have hmem : f.start ∈ f.nodes.filter (·.kind.isStart) :=
    List.mem_filter.mpr ⟨f.start_mem, f.isStart_start⟩
  unfold Graph.startViolation? at hone
  match hstarts : f.nodes.filter (·.kind.isStart) with
  | [] => rw [hstarts] at hmem; cases hmem
  | [m] =>
    rw [hstarts, List.mem_singleton] at hmem
    rw [hmem, hstarts]
  | _ :: _ :: _ => rw [hstarts] at hone; cases hone

lemma isSome_node?_start : (f.node? f.start.id).isSome :=
  isSome_node?_of_mem f.start_mem

lemma isSome_node?_of_mem_edges {e : Edge} (h : e ∈ f.edges) : (f.node? e.target).isSome := by
  obtain ⟨_, _, hedges, _⟩ := Graph.violation?_eq_none_iff.mp f.valid
  obtain ⟨_, ht⟩ := Graph.edgeViolation?_eq_none_iff.mp (hedges e h)
  exact isSome_node?_iff.mpr ht

lemma mem_edges_of_mem_edgesFrom {e : Edge} (h : e ∈ f.edgesFrom id) : e ∈ f.edges :=
  (List.mem_filter.mp h).1

/-- The node that follows a node is a node of the flow. -/
lemma isSome_node?_of_next? (h : f.next? id = some target) : (f.node? target).isSome := by
  unfold next? at h
  obtain ⟨n, _, h⟩ := Option.bind_eq_some_iff.mp h
  obtain ⟨e, he, rfl⟩ := Option.map_eq_some_iff.mp h
  exact isSome_node?_of_mem_edges (mem_edges_of_mem_edgesFrom (List.mem_of_find?_eq_some he))

lemma mem_edges_of_mem_outgoing {e : Edge} {branch : Option Branch}
    (h : e ∈ f.outgoing id branch) : e ∈ f.edges := by
  unfold outgoing at h
  split at h
  · exact absurd h List.not_mem_nil
  · exact mem_edges_of_mem_edgesFrom h
  · exact mem_edges_of_mem_edgesFrom (List.mem_filter.mp h).1

/-- The node that follows a node on a branch is a node of the flow. -/
lemma isSome_node?_of_branchTarget? {branch : Branch}
    (h : f.branchTarget? id branch = some target) : (f.node? target).isSome := by
  unfold branchTarget? at h
  obtain ⟨e, he, rfl⟩ := Option.map_eq_some_iff.mp h
  exact isSome_node?_of_mem_edges (mem_edges_of_mem_outgoing (List.mem_of_head? he))

/-- The edges of a branch are those with its label. -/
lemma allows_iff_label {kind : NodeKind} {branch : Branch} {e : Edge} :
    allows kind branch e ↔ e.branch = kind.label branch := by
  cases kind <;> cases branch <;> simp [allows, NodeKind.label]

/-- On a branch a conversation goes along the first edge with its label. -/
lemma branchTarget?_eq_find? (hn : f.node? n.id = some n) (branch : Branch) :
    f.branchTarget? n.id branch =
      ((f.edgesFrom n.id).find? (·.branch = n.kind.label branch)).map (·.target) := by
  have hallows : allows n.kind branch = fun e => decide (e.branch = n.kind.label branch) := by
    funext e
    rw [Bool.eq_iff_iff, decide_eq_true_iff, allows_iff_label]
  simp only [branchTarget?, outgoing, hn, hallows, List.head?_filter]

/-- A jump leads to a node of the flow. -/
lemma isSome_node?_of_jump (hn : n ∈ f.nodes) (h : n.kind = .jump target) :
    (f.node? target).isSome := by
  obtain ⟨_, _, _, hnodes⟩ := Graph.violation?_eq_none_iff.mp f.valid
  have hjump := hnodes n hn
  simp only [Graph.nodeViolation?, h] at hjump
  rw [isSome_node?_iff]
  by_contra hmem
  rw [if_neg hmem] at hjump
  exact absurd hjump (Option.some_ne_none _)

end Flow

end Dialogue
