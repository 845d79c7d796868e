import Dialogue.Proofs.Document.Reread
import Dialogue.Proofs.Engine.Alike
import Dialogue.Proofs.Engine.Calls
import Mathlib.Data.List.Forall2

/-!
# Flows exported and imported

The import of an exported flow succeeds unless a node jumps to a blank identifier. It has the nodes
of the flow as they are reread, and edges that lead on alike. A conversation on it goes as on the
flow itself where no node holds a text that import normalises: `Flow.import_export`.
-/

namespace Dialogue

/-! ### Nodes that are reread -/

namespace Node

variable {n m : Node} {nodes nodes' : List Node}

/-- What validation looks at is left as it was. -/
lemma keeps_of_reread (h : n.reread = some m) :
    m.id = n.id ∧ m.kind.isStart = n.kind.isStart ∧
      ∀ ids, Graph.nodeViolation? ids m = Graph.nodeViolation? ids n := by
  obtain ⟨id, kind, position⟩ := n
  obtain ⟨kind', hkind, rfl⟩ := Option.map_eq_some_iff.mp h
  cases kind with
  | jump target =>
    obtain ⟨target', htarget, rfl⟩ := Option.map_eq_some_iff.mp hkind
    obtain ⟨heq, _⟩ := Option.filter_eq_some_iff.mp htarget
    cases heq
    exact ⟨rfl, rfl, fun _ => rfl⟩
  | _ =>
    cases hkind
    refine ⟨rfl, ?_, fun ids => ?_⟩
    · simp only [NodeKind.isStart]
    · simp only [Graph.nodeViolation?]

/-- A node is refused for a blank jump only. -/
lemma isSome_reread_iff :
    n.reread.isSome ↔ ∀ target, n.kind = .jump target → Text.trim target ≠ "" := by
  obtain ⟨id, kind, position⟩ := n
  cases kind with
  | jump target => simp [reread, NodeKind.reread, Text.nonBlank, Option.filter_some]
  | _ => simp [reread, NodeKind.reread]

/-- The nodes are those that import makes of others. -/
def Reread (nodes nodes' : List Node) : Prop := nodes.Forall₂ (fun n m => n.reread = some m) nodes'

lemma Reread.map_id (h : Reread nodes nodes') : nodes'.map (·.id) = nodes.map (·.id) := by
  induction h with
  | nil => rfl
  | cons hn _ ih => simp only [List.map_cons, (keeps_of_reread hn).1, ih]

lemma Reread.startViolation? (h : Reread nodes nodes') :
    Graph.startViolation? nodes' = Graph.startViolation? nodes := by
  have hstarts : (nodes'.filter (·.kind.isStart)).map (·.id) =
      (nodes.filter (·.kind.isStart)).map (·.id) := by
    induction h with
    | nil => rfl
    | @cons n m nodes nodes' hn _ ih =>
      obtain ⟨hid, hstart, _⟩ := keeps_of_reread hn
      simp only [List.filter_cons, hstart]
      split
      · simp only [List.map_cons, hid, ih]
      · exact ih
  simp only [Graph.startViolation?, hstarts]

lemma Reread.nodeViolation? {ids : List String} (h : Reread nodes nodes')
    (hvalid : ∀ n ∈ nodes, Graph.nodeViolation? ids n = none) :
    ∀ m ∈ nodes', Graph.nodeViolation? ids m = none := by
  induction h with
  | nil => exact fun m hm => nomatch hm
  | @cons n m nodes nodes' hn _ ih =>
    obtain ⟨hhead, hrest⟩ := List.forall_mem_cons.mp hvalid
    refine List.forall_mem_cons.mpr ⟨?_, ih hrest⟩
    rw [(keeps_of_reread hn).2.2, hhead]

lemma exists_reread (h : ∀ n ∈ nodes, n.reread.isSome) : ∃ nodes', Reread nodes nodes' := by
  induction nodes with
  | nil => exact ⟨[], .nil⟩
  | cons n nodes ih =>
    obtain ⟨hhead, hrest⟩ := List.forall_mem_cons.mp h
    obtain ⟨m, hm⟩ := Option.isSome_iff_exists.mp hhead
    obtain ⟨nodes', hnodes⟩ := ih hrest
    exact ⟨m :: nodes', .cons hm hnodes⟩

lemma Reread.isSome (h : Reread nodes nodes') : ∀ n ∈ nodes, n.reread.isSome := by
  induction h with
  | nil => exact fun n hn => nomatch hn
  | cons hn _ ih => exact List.forall_mem_cons.mpr ⟨Option.isSome_iff_exists.mpr ⟨_, hn⟩, ih⟩

/-- Nodes that import leaves as they are. -/
lemma reread_self (h : ∀ n ∈ nodes, n.kind.reread = some n.kind) : Reread nodes nodes := by
  refine List.forall₂_same.mpr fun n hn => ?_
  rw [reread, h n hn]
  rfl

lemma toNode_toEditor_eq_ok_iff
    (h : ∀ seconds, n.kind = .delay seconds → Graph.isDuration seconds) :
    n.toEditor.toNode = .ok m ↔ n.reread = some m := by
  rw [toNode_toEditor h]
  cases n.reread <;> simp

end Node

lemma mapM_eq_ok_iff {ε α β : Type} {f : α → Except ε β} {as : List α} {bs : List β} :
    as.mapM f = .ok bs ↔ as.Forall₂ (fun a b => f a = .ok b) bs := by
  induction as generalizing bs with
  | nil => simp [pure, Except.pure, eq_comm]
  | cons a as ih =>
    rw [List.mapM_cons]
    cases ha : f a with
    | error r => cases bs <;> simp [bind, Except.bind, ha]
    | ok b =>
      cases has : as.mapM f with
      | error r => cases bs <;> simp [bind, Except.bind, ← ih, has, ha]
      | ok bs' => cases bs <;> simp [bind, Except.bind, pure, Except.pure, ← ih, has, ha]

/-! ### Edges -/

namespace Edge

/-- The edge that import makes of an exported edge, by its place among the edges. -/
def reread (place : Nat) (e : Edge) : Edge := e.toEditor.toEdge place

lemma branch_reread (place : Nat) (e : Edge) : (e.reread place).branch = e.branch := by
  have hempty : Branch.ofHandle? "" = none := by decide +kernel
  obtain ⟨id, source, target, handle⟩ := e
  cases handle with
  | none => rfl
  | some handle =>
    show ((some handle).filter (· ≠ "")).bind _ = _
    by_cases hblank : handle = ""
    · rw [hblank]
      exact hempty.symm
    · rw [Option.filter_some, if_pos (decide_eq_true hblank)]
      rfl

lemma map_filter_mapIdx {F : Nat → Edge → Edge} {edges : List Edge} (id : String)
    (h : ∀ i e, (F i e).source = e.source ∧ (F i e).target = e.target ∧ (F i e).branch = e.branch) :
    ((edges.mapIdx F).filter (·.source = id)).map (fun e => (e.target, e.branch)) =
      (edges.filter (·.source = id)).map fun e => (e.target, e.branch) := by
  -- `F` varies, since in the rest of the edges every place is one less.
  induction edges generalizing F with
  | nil => rfl
  | cons e edges ih =>
    obtain ⟨hsource, htarget, hbranch⟩ := h 0 e
    simp only [List.mapIdx_cons, List.filter_cons, hsource]
    split
    · simp only [List.map_cons, htarget, hbranch, ih fun i => h (i + 1)]
    · exact ih fun i => h (i + 1)

end Edge

/-! ### Graphs -/

/-- What is imported is a flow with a node for each node and an edge for each edge. -/
lemma EditorGraph.toFlow_eq_ok_iff {graph : EditorGraph} {name : String} {f : Flow} :
    graph.toFlow name = .ok f ↔
      f.name = name ∧ graph.nodes.Forall₂ (fun n m => n.toNode = .ok m) f.nodes ∧
        f.edges = graph.edges.mapIdx EditorEdge.toEdge := by
  rw [← mapM_eq_ok_iff]
  constructor
  · intro hok
    simp only [toFlow] at hok
    cases hnodes : graph.nodes.mapM EditorNode.toNode with
    | error r =>
      rw [hnodes] at hok
      cases hok
    | ok nodes =>
      simp only [hnodes, bind, Except.bind] at hok
      cases hvalid : Graph.violation? nodes (graph.edges.mapIdx EditorEdge.toEdge) with
      | some violation =>
        rw [Flow.ofGraph_of_violation name hvalid] at hok
        cases hok
      | none =>
        rw [Flow.ofGraph_of_valid name hvalid] at hok
        cases hok
        exact ⟨rfl, rfl, rfl⟩
  · rintro ⟨rfl, hnodes, hedges⟩
    simp only [toFlow, hnodes, ← hedges, bind, Except.bind, Flow.ofGraph_of_valid f.name f.valid]

/-! ### Flows -/

namespace Flow

variable {f g h : Flow}

/-- The rules of validation that the nodes and edges of a flow keep are kept by what import makes
of them. -/
lemma violation?_reread {nodes : List Node} (hnodes : Node.Reread f.nodes nodes) :
    Graph.violation? nodes (f.edges.mapIdx Edge.reread) = none := by
  obtain ⟨hids, hstart, hedges, hkinds⟩ := Graph.violation?_eq_none_iff.mp f.valid
  refine Graph.violation?_eq_none_iff.mpr ⟨?_, ?_, ?_, ?_⟩
  · rw [Graph.repeatedId?_nil_eq_none_iff, hnodes.map_id]
    exact Graph.repeatedId?_nil_eq_none_iff.mp hids
  · rw [hnodes.startViolation?, hstart]
  · -- An edge may have got another identifier, but no rule hangs on that.
    intro e he
    obtain ⟨i, hi, rfl⟩ := List.mem_mapIdx.mp he
    rw [hnodes.map_id]
    have hedge := Graph.edgeViolation?_eq_none_iff.mp (hedges _ (List.getElem_mem hi))
    exact Graph.edgeViolation?_eq_none_iff.mpr hedge
  · rw [hnodes.map_id]
    exact hnodes.nodeViolation? hkinds

lemma isDuration_of_mem {n : Node} (hn : n ∈ f.nodes) {seconds : Float}
    (hkind : n.kind = .delay seconds) : Graph.isDuration seconds := by
  obtain ⟨_, _, _, hkinds⟩ := Graph.violation?_eq_none_iff.mp f.valid
  have hdelay := hkinds n hn
  simp only [Graph.nodeViolation?, hkind] at hdelay
  by_contra hnot
  rw [if_neg hnot] at hdelay
  cases hdelay

/-- The exported nodes of a flow are imported as they are reread. -/
lemma forall₂_toNode_iff {nodes : List Node} :
    (f.nodes.map Node.toEditor).Forall₂ (fun n m => n.toNode = .ok m) nodes ↔
      Node.Reread f.nodes nodes := by
  have hnode : ∀ {n m}, (n, m) ∈ f.nodes.zip nodes →
      (n.toEditor.toNode = .ok m ↔ n.reread = some m) := by
    intro n m hmem
    apply Node.toNode_toEditor_eq_ok_iff
    intro seconds
    exact isDuration_of_mem (List.of_mem_zip hmem).1
  rw [List.forall₂_map_left_iff, Node.Reread, List.forall₂_iff_zip, List.forall₂_iff_zip]
  refine and_congr_right fun _ => ⟨?_, ?_⟩
  · intro hall n m hmem
    exact (hnode hmem).mp (hall hmem)
  · intro hall n m hmem
    exact (hnode hmem).mpr (hall hmem)

/-- What import makes of an exported flow. -/
lemma toFlow_toDocument_eq_ok_iff : f.toDocument.toFlow = .ok g ↔
    g.name = f.name ∧ Node.Reread f.nodes g.nodes ∧ g.edges = f.edges.mapIdx Edge.reread := by
  have hedges : (f.edges.map Edge.toEditor).mapIdx EditorEdge.toEdge =
      f.edges.mapIdx Edge.reread := by
    refine List.mapIdx_eq_iff.mpr fun i => ?_
    rw [List.getElem?_mapIdx, List.getElem?_map, Option.map_map]
    rfl
  rw [← forall₂_toNode_iff, ← hedges]
  exact EditorGraph.toFlow_eq_ok_iff

/-- An exported flow is imported unless it jumps to a blank identifier. -/
lemma exists_toFlow_toDocument_iff : (∃ g, f.toDocument.toFlow = .ok g) ↔
    ∀ n ∈ f.nodes, ∀ target, n.kind = .jump target → Text.trim target ≠ "" := by
  constructor
  · rintro ⟨g, hg⟩ n hn
    obtain ⟨_, hreread, _⟩ := toFlow_toDocument_eq_ok_iff.mp hg
    exact Node.isSome_reread_iff.mp (hreread.isSome n hn)
  · intro hjumps
    obtain ⟨nodes, hnodes⟩ := Node.exists_reread fun n hn =>
      Node.isSome_reread_iff.mpr (hjumps n hn)
    exact ⟨⟨f.name, nodes, f.edges.mapIdx Edge.reread, violation?_reread hnodes⟩,
      toFlow_toDocument_eq_ok_iff.mpr ⟨rfl, hnodes, rfl⟩⟩

/-- Where the nodes are the same, the edges that import makes of exported edges lead on alike. -/
lemma alike_of_reread_edges (hnodes : g.nodes = f.nodes)
    (hedges : g.edges = f.edges.mapIdx Edge.reread) : f.Alike g where
  kind? id := by simp only [kind?, node?, hnodes]
  ways id := by
    simp only [ways, edgesFrom, hedges]
    exact (@Edge.map_filter_mapIdx Edge.reread f.edges id fun i e =>
      ⟨rfl, rfl, Edge.branch_reread i e⟩).symm

/-- An exported flow is imported unless it jumps to a blank identifier. What is imported has the
name of the flow and its nodes as they are reread, and conversations go on it as on any flow with
these nodes and the edges of the flow: so they go as on the flow itself where import leaves every
node as it is. -/
theorem import_export (f : Flow) :
    ((∃ g, f.toDocument.toFlow = .ok g) ↔
      ∀ n ∈ f.nodes, ∀ target, n.kind = .jump target → Text.trim target ≠ "") ∧
    (∀ g, f.toDocument.toFlow = .ok g →
      g.name = f.name ∧ Node.Reread f.nodes g.nodes ∧
        ∀ h : Flow, h.nodes = g.nodes → h.edges = f.edges → ∀ (e : Engine) (calls : List Call),
          e.turns (calls.map (·.inPlace h g)) = e.turns calls) ∧
    ((∀ n ∈ f.nodes, n.kind.reread = some n.kind) →
      ∃ g, f.toDocument.toFlow = .ok g ∧ g.name = f.name ∧ g.nodes = f.nodes ∧
        ∀ (e : Engine) (calls : List Call),
          e.turns (calls.map (·.inPlace f g)) = e.turns calls) := by
  refine ⟨exists_toFlow_toDocument_iff, ?_, ?_⟩
  · intro g hg
    obtain ⟨hname, hreread, hedges⟩ := toFlow_toDocument_eq_ok_iff.mp hg
    refine ⟨hname, hreread, fun h hnodes hfrom => ?_⟩
    rw [← hfrom] at hedges
    exact Engine.turns_inPlace (alike_of_reread_edges hnodes.symm hedges)
  · intro hself
    have hreread : Node.Reread f.nodes f.nodes := Node.reread_self hself
    let g : Flow := ⟨f.name, f.nodes, f.edges.mapIdx Edge.reread, violation?_reread hreread⟩
    have hok : f.toDocument.toFlow = .ok g :=
      toFlow_toDocument_eq_ok_iff.mpr ⟨rfl, hreread, rfl⟩
    exact ⟨g, hok, rfl, rfl, Engine.turns_inPlace (alike_of_reread_edges rfl rfl)⟩

/-- No text of `Flow.sample` is normalised, so conversations on its import go as on itself. -/
theorem import_export_sample :
    (∀ n ∈ Flow.sample.nodes, n.kind.reread = some n.kind) ∧
      ∃ g, Flow.sample.toDocument.toFlow = .ok g ∧ g.name = "sample" ∧
        g.nodes = Flow.sample.nodes ∧ ∀ (e : Engine) (calls : List Call),
          e.turns (calls.map (·.inPlace .sample g)) = e.turns calls := by
  have hself : ∀ n ∈ Flow.sample.nodes, n.kind.reread = some n.kind := by
    decide +kernel
  obtain ⟨_, _, hround⟩ := import_export Flow.sample
  exact ⟨hself, hround hself⟩

/-- A flow that jumps to a node with an empty identifier. -/
def blankJump : Flow where
  name := "blank"
  nodes := [⟨"start", .start, none⟩, ⟨"back", .jump "", none⟩, ⟨"", .finish, none⟩]
  edges := [⟨"1", "start", "back", none⟩]
  valid := by decide

/-- A flow with a request whose method is in small letters. -/
def smallMethod : Flow where
  name := "small"
  nodes := [⟨"start", .start, none⟩, ⟨"call", .api { method := "get", url := "/names" }, none⟩]
  edges := [⟨"1", "start", "call", none⟩]
  valid := by decide

/-- Not every flow comes back from its export, and not every one that does goes as before. -/
theorem import_export_unfaithful :
    (∀ g, blankJump.toDocument.toFlow ≠ .ok g) ∧
      ∃ g, smallMethod.toDocument.toFlow = .ok g ∧
        (⟨∅, {}⟩ : Engine).turns [.start "a" g] ≠
          (⟨∅, {}⟩ : Engine).turns [.start "a" smallMethod] := by
  constructor
  · intro g hg
    have herror : blankJump.toDocument.toFlow = .error (.jumpWithoutTarget "back") := by
      decide +kernel
    rw [herror] at hg
    cases hg
  · let g : Flow := { smallMethod with
      nodes := [⟨"start", .start, none⟩, ⟨"call", .api { method := "GET", url := "/names" }, none⟩]
      valid := by decide }
    have hok : smallMethod.toDocument.toFlow = .ok g := by
      decide +kernel
    refine ⟨g, hok, ?_⟩
    decide +kernel

end Flow

end Dialogue
