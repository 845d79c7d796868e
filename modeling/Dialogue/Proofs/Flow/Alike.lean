import Dialogue.Proofs.Flow.Validity

/-!
# Flows that are alike

A conversation sees of its flow the kinds of the nodes and, from each node, the targets and labels
of the edges in their order. Flows that have these in common lead on from every node alike and begin
at the same one, whatever else they differ in.
-/

namespace Dialogue

namespace Flow

/-- The kind of the node of an identifier. -/
def kind? (f : Flow) (id : String) : Option NodeKind := (f.node? id).map (·.kind)

/-- The targets and labels of the edges that leave a node, in their order. -/
def ways (f : Flow) (id : String) : List (String × Option Branch) :=
  (f.edgesFrom id).map fun e => (e.target, e.branch)

/-- The flows have nodes of the same kinds, with the same ways from each. -/
structure Alike (f g : Flow) : Prop where
  kind? : ∀ id, f.kind? id = g.kind? id
  ways : ∀ id, f.ways id = g.ways id

variable {f g : Flow}

lemma Alike.refl (f : Flow) : f.Alike f := ⟨fun _ => rfl, fun _ => rfl⟩

/-! ### Nodes -/

/-- Where the kinds are the same, what one flow has under an identifier the other has too, up to its
place on the canvas. -/
lemma node?_of_kind? {id : String} (hkind : f.kind? id = g.kind? id) :
    (f.node? id = none ∧ g.node? id = none) ∨
      ∃ n m, f.node? id = some n ∧ g.node? id = some m ∧ n.id = m.id ∧ n.kind = m.kind := by
  simp only [kind?] at hkind
  cases hn : f.node? id with
  | none =>
    rw [hn, Option.map_none, eq_comm, Option.map_eq_none_iff] at hkind
    exact .inl ⟨rfl, hkind⟩
  | some n =>
    rw [hn, Option.map_some, eq_comm, Option.map_eq_some_iff] at hkind
    obtain ⟨m, hm, heq⟩ := hkind
    exact .inr ⟨n, m, rfl, hm, (id_of_node? hn).trans (id_of_node? hm).symm, heq.symm⟩

lemma Alike.isSome_node? (h : f.Alike g) (id : String) :
    (f.node? id).isSome = (g.node? id).isSome := by
  rcases node?_of_kind? (h.kind? id) with ⟨hn, hm⟩ | ⟨n, m, hn, hm, _, _⟩
  · rw [hn, hm]
  · rw [hn, hm, Option.isSome_some, Option.isSome_some]

lemma eq_start {n : Node} (hn : n ∈ f.nodes) (hstart : n.kind.isStart) : n = f.start := by
  have hmem : n ∈ f.nodes.filter (·.kind.isStart) := List.mem_filter.mpr ⟨hn, hstart⟩
  rw [f.filter_isStart] at hmem
  exact List.mem_singleton.mp hmem

lemma Alike.start_id (h : f.Alike g) : f.start.id = g.start.id := by
  rcases node?_of_kind? (h.kind? f.start.id) with ⟨hn, _⟩ | ⟨n, m, hn, hm, hid, hkind⟩
  · rw [node?_of_mem f.start_mem] at hn
    cases hn
  · rw [node?_of_mem f.start_mem] at hn
    cases hn
    have hstart : m.kind.isStart := hkind ▸ f.isStart_start
    rw [hid, eq_start (mem_of_node? hm) hstart]

/-! ### Edges -/

lemma map_find?_of_map_eq {p : Edge → Bool} {edges edges' : List Edge}
    (hp : ∀ e e' : Edge, e.branch = e'.branch → p e = p e')
    (h : edges.map (fun e => (e.target, e.branch)) = edges'.map fun e => (e.target, e.branch)) :
    (edges.find? p).map (·.target) = (edges'.find? p).map (·.target) := by
  induction edges generalizing edges' with
  | nil =>
    rw [List.map_nil, eq_comm, List.map_eq_nil_iff] at h
    rw [h]
  | cons e edges ih =>
    cases edges' with
    | nil => cases h
    | cons e' edges' =>
      obtain ⟨hhead, hrest⟩ := List.cons.inj h
      obtain ⟨htarget, hbranch⟩ := Prod.mk.inj hhead
      simp only [List.find?_cons, hp e e' hbranch]
      split
      · exact congrArg some htarget
      · exact ih hrest

/-- The same ways lead on from nodes of the same kind to the same nodes. -/
lemma next?_of_ways {id : String} (hkind : f.kind? id = g.kind? id)
    (hways : f.ways id = g.ways id) : f.next? id = g.next? id := by
  have hp : ∀ (kind : NodeKind) (e e' : Edge), e.branch = e'.branch →
      leadsOn kind e = leadsOn kind e' := by
    intro kind e e' hbranch
    cases kind <;> simp only [leadsOn, hbranch]
  rcases node?_of_kind? hkind with ⟨hn, hm⟩ | ⟨n, m, hn, hm, _, hkind⟩
  · simp only [next?, hn, hm, Option.bind_none]
  · simp only [next?, hn, hm, Option.bind_some, hkind]
    exact map_find?_of_map_eq (hp m.kind) hways

lemma branchTarget?_of_ways {id : String} (hkind : f.kind? id = g.kind? id)
    (hways : f.ways id = g.ways id) (branch : Branch) :
    f.branchTarget? id branch = g.branchTarget? id branch := by
  have hp : ∀ (kind : NodeKind) (e e' : Edge), e.branch = e'.branch →
      allows kind branch e = allows kind branch e' := by
    intro kind e e' hbranch
    cases kind <;> cases branch <;> simp only [allows, hbranch]
  rcases node?_of_kind? hkind with ⟨hn, hm⟩ | ⟨n, m, hn, hm, _, hkind⟩
  · simp only [branchTarget?, outgoing, hn, hm, List.head?_nil, Option.map_none]
  · simp only [branchTarget?, outgoing, hn, hm, hkind, List.head?_filter]
    exact map_find?_of_map_eq (hp m.kind) hways

lemma Alike.next? (h : f.Alike g) (id : String) : f.next? id = g.next? id :=
  next?_of_ways (h.kind? id) (h.ways id)

lemma Alike.branchTarget? (h : f.Alike g) (id : String) (branch : Branch) :
    f.branchTarget? id branch = g.branchTarget? id branch :=
  branchTarget?_of_ways (h.kind? id) (h.ways id) branch

/-! ### Graphs in another order -/

/-- An identifier has the kind with which it stands among the nodes. -/
lemma kind?_eq_some_iff {id : String} {kind : NodeKind} :
    f.kind? id = some kind ↔ (id, kind) ∈ f.nodes.map fun n => (n.id, n.kind) := by
  simp only [Flow.kind?, Option.map_eq_some_iff, List.mem_map, Prod.mk.injEq]
  constructor
  · rintro ⟨n, hn, hkind⟩
    exact ⟨n, mem_of_node? hn, id_of_node? hn, hkind⟩
  · rintro ⟨n, hn, rfl, hkind⟩
    exact ⟨n, node?_of_mem hn, hkind⟩

/-- Edges leave nodes only. -/
lemma mem_ids_of_mem_edgesFrom {id : String} {e : Edge} (h : e ∈ f.edgesFrom id) :
    ∃ n ∈ f.nodes, n.id = id := by
  obtain ⟨he, hsource⟩ := List.mem_filter.mp h
  obtain ⟨_, _, hedges, _⟩ := Graph.violation?_eq_none_iff.mp f.valid
  obtain ⟨hmem, _⟩ := Graph.edgeViolation?_eq_none_iff.mp (hedges e he)
  rw [of_decide_eq_true hsource] at hmem
  exact List.mem_map.mp hmem

/-- Flows are alike that have the same nodes in any order, up to their places on the canvas, and
from each of them the same ways. -/
lemma alike_of_perm
    (hnodes : (f.nodes.map fun n => (n.id, n.kind)).Perm (g.nodes.map fun n => (n.id, n.kind)))
    (hways : ∀ n ∈ f.nodes, f.ways n.id = g.ways n.id) : f.Alike g where
  kind? id := by
    apply Option.ext
    intro kind
    rw [kind?_eq_some_iff, kind?_eq_some_iff]
    exact hnodes.mem_iff
  ways id := by
    by_cases hid : ∃ n ∈ f.nodes, n.id = id
    · obtain ⟨n, hn, rfl⟩ := hid
      exact hways n hn
    · have hid' : ¬ ∃ m ∈ g.nodes, m.id = id := by
        rintro ⟨m, hm, rfl⟩
        have hmem := hnodes.mem_iff.mpr (List.mem_map.mpr ⟨m, hm, rfl⟩)
        obtain ⟨n, hn, hpair⟩ := List.mem_map.mp hmem
        exact hid ⟨n, hn, (Prod.mk.inj hpair).1⟩
      have hnone : ∀ {h : Flow}, (¬ ∃ n ∈ h.nodes, n.id = id) → h.ways id = [] := by
        intro h hno
        refine List.map_eq_nil_iff.mpr (List.eq_nil_iff_forall_not_mem.mpr fun e he => ?_)
        exact hno (mem_ids_of_mem_edgesFrom he)
      rw [hnone hid, hnone hid']

end Flow

end Dialogue
