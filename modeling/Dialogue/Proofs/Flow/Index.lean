import Dialogue.Proofs.Flow.Validity
import Dialogue.Table
import Mathlib.Data.List.Perm.Basic

/-!
# Looking up by an index

An index of a graph holds the places of the nodes and edges in their lists, noted in one pass over
each. On the graph of a flow it finds what going through the lists finds, and both find what the
lists say: `ofGraph_lookups`. Distinct identifiers are what this hangs on, since a place that is
noted under an identifier replaces the one noted before.
-/

namespace Dialogue

/-- Where the nodes and edges of a graph stand in their lists. -/
structure Index where
  /-- The place of each node, under its identifier. -/
  nodes : Table Nat
  /-- The places of the edges, under their source. -/
  edges : Table (List Nat)
  /-- The place of the start node. -/
  start : Option Nat

namespace Index

/-- Notes the place of a node. -/
def noteNode (places : Table Nat) (n : Node × Nat) : Table Nat := places.insert n.1.id n.2

/-- Notes the place of an edge, behind those that were noted under its source before. -/
def noteEdge (places : Table (List Nat)) (e : Edge × Nat) : Table (List Nat) :=
  places.insert e.1.source ((places.get? e.1.source).getD [] ++ [e.2])

/-- The index of a graph. -/
def ofGraph (nodes : List Node) (edges : List Edge) : Index where
  nodes := nodes.zipIdx.foldl noteNode ∅
  edges := edges.zipIdx.foldl noteEdge ∅
  start := nodes.findIdx? (·.kind.isStart)

/-- The places that are noted for the edges of a source. -/
def placesFrom (ix : Index) (id : String) : List Nat := (ix.edges.get? id).getD []

end Index

/-! ### Lists by keys -/

/-- What a pass that puts values into a table leaves under a key is the work of the entries of that
key alone. -/
lemma Table.get?_foldl_insert {α β : Type} (key : β → String) (value : Option α → β → α)
    (l : List β) (t : Table α) (k : String) :
    (l.foldl (fun t b => t.insert (key b) (value (t.get? (key b)) b)) t).get? k =
      (l.filter (key · = k)).foldl (fun v b => some (value v b)) (t.get? k) := by
  induction l generalizing t with
  | nil => rfl
  | cons b l ih =>
    rw [List.foldl_cons, ih, Table.get?_insert]
    by_cases hk : key b = k
    · simp [hk]
    · simp [hk, Ne.symm hk]

/-- Sorted by distinct keys, a list keeps its entries, each as often as it was there. -/
lemma flatMap_filter_perm {α κ : Type} [DecidableEq κ] (key : α → κ) {keys : List κ}
    (hkeys : keys.Nodup) {l : List α} (hl : ∀ a ∈ l, key a ∈ keys) :
    (keys.flatMap fun k => l.filter (key · = k)).Perm l := by
  induction keys generalizing l with
  | nil =>
    have hnil : l = [] := List.eq_nil_iff_forall_not_mem.mpr fun a ha => List.not_mem_nil (hl a ha)
    rw [hnil]
    exact .nil
  | cons k keys ih =>
    obtain ⟨hk, hkeys⟩ := List.nodup_cons.mp hkeys
    -- The other keys do not see the entries of the first.
    have hothers : ∀ k' ∈ keys,
        l.filter (key · = k') = (l.filter fun a => !decide (key a = k)).filter (key · = k') := by
      intro k' hk'
      rw [List.filter_filter]
      refine List.filter_congr fun a _ => ?_
      have hne : k' ≠ k := fun heq => hk (heq ▸ hk')
      by_cases ha : key a = k' <;> simp [ha, hne]
    have hrest : ∀ a ∈ l.filter (fun a => !decide (key a = k)), key a ∈ keys := by
      intro a ha
      obtain ⟨ha, hne⟩ := List.mem_filter.mp ha
      exact (List.mem_cons.mp (hl a ha)).resolve_left (by simpa using hne)
    rw [List.flatMap_cons, List.flatMap_congr hothers]
    exact ((ih hkeys hrest).append_left _).trans (List.filter_append_perm _ l)

/-- Entries chosen from a list with their places are the entries chosen from the list. -/
lemma map_fst_filter_zipIdx {α : Type} (p : α → Bool) (l : List α) :
    (l.zipIdx.filter (p ·.1)).map Prod.fst = l.filter p := by
  conv_rhs => rw [← List.zipIdx_map_fst 0 l, List.filter_map]
  rfl

/-- At the place with which an entry was chosen stands that entry. -/
lemma map_getElem?_filter_zipIdx {α : Type} (p : α → Bool) (l : List α) :
    ((l.zipIdx.filter (p ·.1)).map Prod.snd).map (l[·]?) = (l.filter p).map some := by
  rw [← map_fst_filter_zipIdx p l, List.map_map, List.map_map]
  refine List.map_congr_left fun a ha => ?_
  exact List.mem_zipIdx_iff_getElem?.mp (List.mem_filter.mp ha).1

/-- Values that are appended one by one stand in their order. -/
lemma getD_foldl_append {α β : Type} (value : α → β) (l : List α) (values : Option (List β)) :
    (l.foldl (fun v a => some (v.getD [] ++ [value a])) values).getD [] =
      values.getD [] ++ l.map value := by
  induction l generalizing values with
  | nil => simp
  | cons a l ih => simp [ih]

/-- Where identifiers are distinct, the first node of an identifier is the only one. -/
lemma Graph.filter_id_eq_toList {nodes : List Node} (hnodup : (nodes.map (·.id)).Nodup)
    (id : String) : nodes.filter (·.id = id) = (nodes.find? (·.id = id)).toList := by
  induction nodes with
  | nil => rfl
  | cons n rest ih =>
    obtain ⟨hfresh, hnodup⟩ := List.nodup_cons.mp hnodup
    by_cases hid : n.id = id
    · have hrest : rest.filter (·.id = id) = [] := by
        apply List.filter_eq_nil_iff.mpr
        intro m hm hmid
        apply hfresh
        exact List.mem_map.mpr ⟨m, hm, (of_decide_eq_true hmid).trans hid.symm⟩
      simp [hid, hrest]
    · simpa [hid] using ih hnodup

namespace Flow

variable {f : Flow} {id : String} {n : Node}

/-! ### Going through the lists -/

/-- The nodes of an identifier are the one that is found, or none. -/
lemma filter_id_eq (f : Flow) (id : String) :
    f.nodes.filter (·.id = id) = (f.node? id).toList :=
  Graph.filter_id_eq_toList f.nodup_ids id

lemma filter_start (f : Flow) : f.nodes.filter (·.kind = .start) = [f.start] := by
  rw [← f.filter_isStart]
  refine List.filter_congr fun n _ => ?_
  rw [Bool.eq_iff_iff, decide_eq_true_iff, NodeKind.isStart_iff]

lemma outgoing_none (hn : n ∈ f.nodes) :
    f.outgoing n.id none = f.edges.filter (·.source = n.id) := by
  simp only [outgoing, node?_of_mem hn, edgesFrom]

lemma outgoing_some (hn : n ∈ f.nodes) (branch : Branch) :
    f.outgoing n.id (some branch) =
      f.edges.filter fun e => e.source = n.id ∧ e.branch = n.kind.label branch := by
  simp only [outgoing, node?_of_mem hn, edgesFrom, List.filter_filter]
  refine List.filter_congr fun e _ => ?_
  rw [Bool.decide_and, Bool.and_comm, Bool.eq_iff_iff]
  simp [allows_iff_label]

lemma outgoing_of_not_mem (hid : id ∉ f.nodes.map (·.id)) (branch : Option Branch) :
    f.outgoing id branch = [] := by
  have hnone : f.node? id = none := by
    rw [← Option.not_isSome_iff_eq_none, isSome_node?_iff]
    exact hid
  simp only [outgoing, hnone]

/-- The sources of the edges are identifiers of nodes. -/
lemma source_mem_ids (f : Flow) : ∀ e ∈ f.edges, e.source ∈ f.nodes.map (·.id) := by
  obtain ⟨_, _, hedges, _⟩ := Graph.violation?_eq_none_iff.mp f.valid
  intro e he
  exact (Graph.edgeViolation?_eq_none_iff.mp (hedges e he)).1

lemma flatMap_outgoing_perm (f : Flow) :
    (f.nodes.flatMap fun n => f.outgoing n.id none).Perm f.edges := by
  have hperm := flatMap_filter_perm Edge.source f.nodup_ids f.source_mem_ids
  rw [List.flatMap_map] at hperm
  rwa [List.flatMap_congr fun n hn => outgoing_none hn]

/-! ### Going by the index -/

/-- The index of the graph of a flow. -/
def index (f : Flow) : Index := .ofGraph f.nodes f.edges

/-- A node stands at the place that is noted for its identifier. -/
lemma index_nodes (f : Flow) (id : String) :
    (f.index.nodes.get? id).map (f.nodes[·]?) = (f.node? id).map some := by
  have hget : f.index.nodes.get? id =
      (f.nodes.zipIdx.filter (·.1.id = id)).foldl (fun _ n => some n.2) none :=
    Table.get?_foldl_insert (fun n : Node × Nat => n.1.id) (fun _ n => n.2) _ ∅ id
  have hplaces := map_getElem?_filter_zipIdx (fun n : Node => decide (n.id = id)) f.nodes
  rw [filter_id_eq] at hplaces
  rw [hget]
  cases hn : f.node? id with
  | none =>
    rw [hn] at hplaces
    simp only [Option.toList_none, List.map_nil, List.map_eq_nil_iff] at hplaces
    rw [hplaces]
    rfl
  | some n =>
    rw [hn] at hplaces
    simp only [Option.toList_some, List.map_cons, List.map_nil, List.map_map,
      List.map_eq_singleton_iff] at hplaces
    obtain ⟨place, hplace, hget⟩ := hplaces
    rw [hplace]
    exact congrArg some hget

/-- The start node stands at the place that is noted for it. -/
lemma index_start (f : Flow) : f.index.start.map (f.nodes[·]?) = some (some f.start) := by
  have hfind := f.find?_isStart
  rw [List.find?_eq_bind_findIdx?_getElem?, Option.bind_eq_some_iff] at hfind
  obtain ⟨place, hplace, hget⟩ := hfind
  have hstart : f.index.start = some place := hplace
  rw [hstart, Option.map_some, hget]

/-- The places that are noted for a source are those of its edges, in the order of the edges. -/
lemma placesFrom_index (f : Flow) (id : String) :
    f.index.placesFrom id = (f.edges.zipIdx.filter (·.1.source = id)).map Prod.snd := by
  have hget : f.index.edges.get? id = (f.edges.zipIdx.filter (·.1.source = id)).foldl
      (fun v e => some (v.getD [] ++ [e.2])) none :=
    Table.get?_foldl_insert (fun e : Edge × Nat => e.1.source)
      (fun v e => v.getD [] ++ [e.2]) _ ∅ id
  rw [Index.placesFrom, hget, getD_foldl_append]
  rfl

lemma map_placesFrom (f : Flow) (id : String) :
    (f.index.placesFrom id).map (f.edges[·]?) = (f.edgesFrom id).map some := by
  rw [placesFrom_index]
  exact map_getElem?_filter_zipIdx (fun e : Edge => decide (e.source = id)) f.edges

lemma flatMap_placesFrom_perm (f : Flow) :
    (f.nodes.flatMap fun n => f.index.placesFrom n.id).Perm (List.range f.edges.length) := by
  have hsources : ∀ e ∈ f.edges.zipIdx, e.1.source ∈ f.nodes.map (·.id) := by
    intro e he
    exact f.source_mem_ids e.1 (List.mem_of_getElem? (List.mem_zipIdx_iff_getElem?.mp he))
  have hperm := (flatMap_filter_perm (fun e : Edge × Nat => e.1.source) f.nodup_ids hsources).map
    Prod.snd
  rw [List.zipIdx_map_snd, ← List.range_eq_range', List.map_flatMap, List.flatMap_map] at hperm
  simpa only [placesFrom_index] using hperm

/-- What is looked up in the flow of a graph is what its lists say, and what the index finds. The
nodes of an identifier are the one that is found, or none; the start node is the only one of its
kind; the edges that leave a node on a branch are, in their order, those with its label, and none
leave what is no node; and of all edges each leaves one node once. -/
theorem ofGraph_lookups {name : String} {nodes : List Node} {edges : List Edge} {f : Flow}
    (h : ofGraph name nodes edges = .ok f) :
    (∀ id, nodes.filter (·.id = id) = (f.node? id).toList ∧
      (f.index.nodes.get? id).map (nodes[·]?) = (f.node? id).map some) ∧
    (nodes.filter (·.kind = .start) = [f.start] ∧
      f.index.start.map (nodes[·]?) = some (some f.start)) ∧
    (∀ n ∈ nodes, f.outgoing n.id none = edges.filter (·.source = n.id) ∧
      ∀ branch, f.outgoing n.id (some branch) =
        edges.filter fun e => e.source = n.id ∧ e.branch = n.kind.label branch) ∧
    (∀ id, id ∉ nodes.map (·.id) → ∀ branch, f.outgoing id branch = []) ∧
    (∀ id, (f.index.placesFrom id).map (edges[·]?) = (f.edgesFrom id).map some) ∧
    (nodes.flatMap fun n => f.outgoing n.id none).Perm edges ∧
    (nodes.flatMap fun n => f.index.placesFrom n.id).Perm (List.range edges.length) := by
  obtain ⟨-, rfl, rfl⟩ := ofGraph_eq_ok_iff.mp h
  refine ⟨?_, ⟨f.filter_start, f.index_start⟩, ?_, ?_, f.map_placesFrom,
    f.flatMap_outgoing_perm, f.flatMap_placesFrom_perm⟩
  · intro id
    exact ⟨f.filter_id_eq id, f.index_nodes id⟩
  · intro n hn
    exact ⟨outgoing_none hn, outgoing_some hn⟩
  · intro id hid branch
    exact outgoing_of_not_mem hid branch

/-- A flow whose edges of one node lie between those of others. The handles of some of them are
oddly spelled, or mean nothing where they leave. -/
def tangled : Flow where
  name := "tangled"
  nodes := [⟨"start", .start, none⟩, ⟨"choose", .condition "yes", none⟩,
    ⟨"call", .api { method := "GET", url := "/names" }, none⟩, ⟨"end", .finish, none⟩]
  edges := [⟨"1", "choose", "end", some " False"⟩, ⟨"2", "call", "choose", some "true"⟩,
    ⟨"3", "start", "choose", none⟩, ⟨"4", "call", "end", some "ERROR"⟩,
    ⟨"5", "choose", "call", some "true"⟩, ⟨"6", "call", "end", some "other"⟩]
  valid := by decide

/-- The edges of `tangled` are found by the labels that count at their nodes. -/
theorem ofGraph_lookups_tangled :
    ofGraph "tangled" tangled.nodes tangled.edges = .ok tangled ∧
      tangled.outgoing "choose" (some .onTrue) = [⟨"5", "choose", "call", some "true"⟩] ∧
      tangled.outgoing "call" (some .onTrue) = [⟨"6", "call", "end", some "other"⟩] ∧
      tangled.outgoing "call" (some .onError) = [⟨"4", "call", "end", some "ERROR"⟩] ∧
      tangled.outgoing "nobody" none = [] ∧ tangled.index.placesFrom "call" = [1, 3, 5] ∧
      (tangled.nodes.flatMap fun n => tangled.outgoing n.id none).Perm tangled.edges := by
  have h : ofGraph "tangled" tangled.nodes tangled.edges = .ok tangled :=
    ofGraph_of_valid "tangled" tangled.valid
  obtain ⟨_, _, houtgoing, habsent, _, hperm, _⟩ := ofGraph_lookups h
  obtain ⟨_, hchoose⟩ := houtgoing ⟨"choose", .condition "yes", none⟩ (by decide)
  obtain ⟨_, hcall⟩ := houtgoing
    ⟨"call", .api { method := "GET", url := "/names" }, none⟩ (by decide)
  refine ⟨h, ?_, ?_, ?_, habsent "nobody" (by decide) none, ?_, hperm⟩
  · rw [hchoose .onTrue]
    decide
  · rw [hcall .onTrue]
    decide
  · rw [hcall .onError]
    decide
  · decide +kernel

end Flow

end Dialogue
