import Dialogue.Proofs.Flow.Validity

/-!
# What validation finds

A graph keeps the rules, or there is one violation that comes first: repeated identifiers come
before start nodes, these before edges, and edges before jumps and delays, and among violations of
one rule the order of the lists decides. `FirstViolation` says this of the lists alone, and
`violation?_first` that validation finds it.
-/

namespace Dialogue.Graph

/-! ### The rules -/

/-- Both ends of an edge are among the identifiers. -/
def Joins (ids : List String) (e : Edge) : Prop := e.source ∈ ids ∧ e.target ∈ ids

/-- A jump leads to one of the identifiers, and a delay takes a finite time that is not negative. -/
def Founded (ids : List String) (n : Node) : Prop :=
  (∀ target, n.kind = .jump target → target ∈ ids) ∧
    ∀ seconds, n.kind = .delay seconds → Decimal.isFinite seconds ∧ 0 ≤ seconds

/-- The identifiers of the start nodes, in their order. -/
def starts (nodes : List Node) : List String := (nodes.filter (·.kind = .start)).map (·.id)

/-- The graph keeps all the rules. -/
structure WellFormed (nodes : List Node) (edges : List Edge) : Prop where
  distinct : (nodes.map (·.id)).Nodup
  single : nodes.countP (·.kind = .start) = 1
  joined : ∀ e ∈ edges, Joins (nodes.map (·.id)) e
  founded : ∀ n ∈ nodes, Founded (nodes.map (·.id)) n

/-- What is wrong with an edge. Its source comes before its target. -/
inductive Astray (ids : List String) (e : Edge) : GraphError → Prop where
  | source (missing : e.source ∉ ids) : Astray ids e (.danglingEdge e.id e.source)
  | target (found : e.source ∈ ids) (missing : e.target ∉ ids) :
      Astray ids e (.danglingEdge e.id e.target)

/-- What is wrong with a node. -/
inductive Unfounded (ids : List String) (n : Node) : GraphError → Prop where
  | jump {target : String} (kind : n.kind = .jump target) (missing : target ∉ ids) :
      Unfounded ids n (.danglingJump n.id target)
  | delay {seconds : Float} (kind : n.kind = .delay seconds)
      (invalid : ¬ (Decimal.isFinite seconds ∧ 0 ≤ seconds)) :
      Unfounded ids n (.invalidDelay n.id seconds)

/-- The first violation of a graph: no rule before it is violated, and the rule itself by nothing
that stands before in its list. -/
inductive FirstViolation (nodes : List Node) (edges : List Edge) : GraphError → Prop where
  /-- The first node whose identifier stands earlier in the list. -/
  | repeatedId {before after : List Node} {n : Node} (place : nodes = before ++ n :: after)
      (first : (before.map (·.id)).Nodup) (repeated : n.id ∈ before.map (·.id)) :
      FirstViolation nodes edges (.repeatedId n.id)
  | noStart (distinct : (nodes.map (·.id)).Nodup) (none : nodes.countP (·.kind = .start) = 0) :
      FirstViolation nodes edges .noStart
  | severalStarts (distinct : (nodes.map (·.id)).Nodup)
      (several : 1 < nodes.countP (·.kind = .start)) :
      FirstViolation nodes edges (.severalStarts (starts nodes))
  /-- The first edge with an end that is no node. -/
  | edge {before after : List Edge} {e : Edge} {error : GraphError}
      (distinct : (nodes.map (·.id)).Nodup) (single : nodes.countP (·.kind = .start) = 1)
      (place : edges = before ++ e :: after)
      (first : ∀ e' ∈ before, Joins (nodes.map (·.id)) e')
      (astray : Astray (nodes.map (·.id)) e error) :
      FirstViolation nodes edges error
  /-- The first node that jumps to no node, or delays for a time that cannot be waited for. -/
  | node {before after : List Node} {n : Node} {error : GraphError}
      (distinct : (nodes.map (·.id)).Nodup) (single : nodes.countP (·.kind = .start) = 1)
      (joined : ∀ e ∈ edges, Joins (nodes.map (·.id)) e)
      (place : nodes = before ++ n :: after)
      (first : ∀ m ∈ before, Founded (nodes.map (·.id)) m)
      (unfounded : Unfounded (nodes.map (·.id)) n error) :
      FirstViolation nodes edges error

variable {nodes : List Node} {edges : List Edge} {ids seen : List String} {error : GraphError}

/-! ### Each rule by itself -/

/-- The identifier that is found repeated belongs to the first node that repeats one. -/
lemma repeatedId?_eq_some_iff {id : String} :
    repeatedId? seen nodes = some id ↔
      ∃ before n after, nodes = before ++ n :: after ∧ repeatedId? seen before = none ∧
        (n.id ∈ seen ∨ n.id ∈ before.map (·.id)) ∧ n.id = id := by
  induction nodes generalizing seen with
  | nil => simp [repeatedId?]
  | cons m rest ih =>
    by_cases hseen : m.id ∈ seen
    · rw [repeatedId?, if_pos hseen, Option.some.injEq]
      constructor
      · intro hid
        exact ⟨[], m, rest, rfl, rfl, .inl hseen, hid⟩
      · rintro ⟨before, n, after, hplace, hfirst, _, hid⟩
        cases before with
        | nil =>
          obtain ⟨rfl, _⟩ := List.cons.inj hplace
          exact hid
        | cons m' before =>
          obtain ⟨rfl, _⟩ := List.cons.inj hplace
          rw [repeatedId?, if_pos hseen] at hfirst
          cases hfirst
    · rw [repeatedId?, if_neg hseen, ih]
      constructor
      · rintro ⟨before, n, after, rfl, hfirst, hrepeated, hid⟩
        refine ⟨m :: before, n, after, rfl, ?_, ?_, hid⟩
        · rw [repeatedId?, if_neg hseen, hfirst]
        · simpa [or_left_comm, or_assoc] using hrepeated
      · rintro ⟨before, n, after, hplace, hfirst, hrepeated, hid⟩
        cases before with
        | nil =>
          obtain ⟨rfl, _⟩ := List.cons.inj hplace
          simp [hseen] at hrepeated
        | cons m' before =>
          obtain ⟨rfl, rfl⟩ := List.cons.inj hplace
          rw [repeatedId?, if_neg hseen] at hfirst
          refine ⟨before, n, after, rfl, hfirst, ?_, hid⟩
          simpa [or_left_comm, or_assoc] using hrepeated

lemma map_filter_isStart : (nodes.filter (·.kind.isStart)).map (·.id) = starts nodes := by
  refine congrArg (List.map _) (List.filter_congr fun n _ => ?_)
  rw [Bool.eq_iff_iff, decide_eq_true_iff, NodeKind.isStart_iff]

lemma length_starts : (starts nodes).length = nodes.countP (·.kind = .start) := by
  rw [starts, List.length_map, List.countP_eq_length_filter]

lemma startViolation?_eq_none_iff :
    startViolation? nodes = none ↔ nodes.countP (·.kind = .start) = 1 := by
  rw [startViolation?, map_filter_isStart, ← length_starts]
  match starts nodes with
  | [] | [_] | _ :: _ :: _ => simp

lemma startViolation?_eq_some_iff :
    startViolation? nodes = some error ↔
      nodes.countP (·.kind = .start) = 0 ∧ error = .noStart ∨
        1 < nodes.countP (·.kind = .start) ∧ error = .severalStarts (starts nodes) := by
  rw [startViolation?, map_filter_isStart, ← length_starts]
  match starts nodes with
  | [] | [_] | _ :: _ :: _ => simp [eq_comm]

lemma edgeViolation?_eq_some_iff {e : Edge} :
    edgeViolation? ids e = some error ↔ Astray ids e error := by
  simp only [edgeViolation?]
  constructor
  · intro h
    split at h
    · next missing =>
      cases h
      exact .source missing
    · next found =>
      split at h
      · next missing =>
        cases h
        exact .target (not_not.mp found) missing
      · cases h
  · intro h
    cases h with
    | source missing => rw [if_pos missing]
    | target found missing => rw [if_neg (not_not.mpr found), if_pos missing]

lemma isDuration_iff {seconds : Float} :
    isDuration seconds ↔ Decimal.isFinite seconds ∧ 0 ≤ seconds := by
  simp [isDuration]

lemma nodeViolation?_eq_none_iff {n : Node} : nodeViolation? ids n = none ↔ Founded ids n := by
  obtain ⟨id, kind, position⟩ := n
  cases kind <;> simp [nodeViolation?, Founded, ← isDuration_iff]

lemma nodeViolation?_eq_some_iff {n : Node} :
    nodeViolation? ids n = some error ↔ Unfounded ids n error := by
  constructor
  · intro h
    simp only [nodeViolation?] at h
    split at h
    · next target kind =>
      split_ifs at h with hmem
      cases h
      exact .jump kind hmem
    · next seconds kind =>
      split_ifs at h with hduration
      cases h
      exact .delay kind (mt isDuration_iff.mpr hduration)
    · cases h
  · intro h
    cases h with
    | jump kind missing => simp only [nodeViolation?, kind, if_neg missing]
    | delay kind invalid =>
      simp only [nodeViolation?, kind, if_neg (mt isDuration_iff.mp invalid)]

/-! ### All rules in their order -/

lemma violation?_eq_none_iff_wellFormed :
    violation? nodes edges = none ↔ WellFormed nodes edges := by
  rw [violation?_eq_none_iff, repeatedId?_nil_eq_none_iff, startViolation?_eq_none_iff]
  simp only [edgeViolation?_eq_none_iff, nodeViolation?_eq_none_iff]
  constructor
  · rintro ⟨distinct, single, joined, founded⟩
    exact ⟨distinct, single, joined, founded⟩
  · rintro ⟨distinct, single, joined, founded⟩
    exact ⟨distinct, single, joined, founded⟩

/-- A violation is found where the rules before it find none. -/
lemma violation?_eq_some_iff :
    violation? nodes edges = some error ↔
      (∃ id, repeatedId? [] nodes = some id ∧ .repeatedId id = error) ∨
      repeatedId? [] nodes = none ∧ (startViolation? nodes = some error ∨
      startViolation? nodes = none ∧
        (edges.findSome? (edgeViolation? (nodes.map (·.id))) = some error ∨
      edges.findSome? (edgeViolation? (nodes.map (·.id))) = none ∧
        nodes.findSome? (nodeViolation? (nodes.map (·.id))) = some error)) := by
  simp only [violation?, Option.or_eq_some_iff, Option.map_eq_some_iff, Option.map_eq_none_iff]

lemma FirstViolation.of_violation? (h : violation? nodes edges = some error) :
    FirstViolation nodes edges error := by
  rcases violation?_eq_some_iff.mp h with ⟨id, hid, rfl⟩ | ⟨hnone, h⟩
  · obtain ⟨before, n, after, place, first, repeated, rfl⟩ := repeatedId?_eq_some_iff.mp hid
    exact .repeatedId place (repeatedId?_nil_eq_none_iff.mp first) (by simpa using repeated)
  have distinct : (nodes.map (·.id)).Nodup := repeatedId?_nil_eq_none_iff.mp hnone
  rcases h with h | ⟨hsingle, h⟩
  · rcases startViolation?_eq_some_iff.mp h with ⟨hzero, rfl⟩ | ⟨hseveral, rfl⟩
    · exact .noStart distinct hzero
    · exact .severalStarts distinct hseveral
  rcases h with h | ⟨hjoined, h⟩
  · obtain ⟨before, e, after, place, hastray, first⟩ := List.findSome?_eq_some_iff.mp h
    exact .edge distinct (startViolation?_eq_none_iff.mp hsingle) place
      (fun e' he' => edgeViolation?_eq_none_iff.mp (first e' he'))
      (edgeViolation?_eq_some_iff.mp hastray)
  · obtain ⟨before, n, after, place, hunfounded, first⟩ := List.findSome?_eq_some_iff.mp h
    exact .node distinct (startViolation?_eq_none_iff.mp hsingle)
      (fun e he => edgeViolation?_eq_none_iff.mp (List.findSome?_eq_none_iff.mp hjoined e he))
      place (fun m hm => nodeViolation?_eq_none_iff.mp (first m hm))
      (nodeViolation?_eq_some_iff.mp hunfounded)

lemma FirstViolation.violation? (h : FirstViolation nodes edges error) :
    violation? nodes edges = some error := by
  rw [violation?_eq_some_iff]
  have hnone : (nodes.map (·.id)).Nodup → repeatedId? [] nodes = none :=
    repeatedId?_nil_eq_none_iff.mpr
  cases h with
  | @repeatedId before after n place first repeated =>
    have hfirst : repeatedId? [] before = none := repeatedId?_nil_eq_none_iff.mpr first
    exact .inl ⟨n.id,
      repeatedId?_eq_some_iff.mpr ⟨before, n, after, place, hfirst, .inr repeated, rfl⟩, rfl⟩
  | noStart distinct none =>
    exact .inr ⟨hnone distinct, .inl (startViolation?_eq_some_iff.mpr (.inl ⟨none, rfl⟩))⟩
  | severalStarts distinct several =>
    exact .inr ⟨hnone distinct, .inl (startViolation?_eq_some_iff.mpr (.inr ⟨several, rfl⟩))⟩
  | @edge before after e _ distinct single place first astray =>
    refine .inr ⟨hnone distinct, .inr ⟨startViolation?_eq_none_iff.mpr single, .inl ?_⟩⟩
    exact List.findSome?_eq_some_iff.mpr ⟨before, e, after, place,
      edgeViolation?_eq_some_iff.mpr astray,
      fun e' he' => edgeViolation?_eq_none_iff.mpr (first e' he')⟩
  | @node before after n _ distinct single joined place first unfounded =>
    refine .inr ⟨hnone distinct, .inr ⟨startViolation?_eq_none_iff.mpr single, .inr ⟨?_, ?_⟩⟩⟩
    · exact List.findSome?_eq_none_iff.mpr fun e he => edgeViolation?_eq_none_iff.mpr (joined e he)
    · exact List.findSome?_eq_some_iff.mpr ⟨before, n, after, place,
        nodeViolation?_eq_some_iff.mpr unfounded,
        fun m hm => nodeViolation?_eq_none_iff.mpr (first m hm)⟩

lemma violation?_eq_some_iff_first :
    violation? nodes edges = some error ↔ FirstViolation nodes edges error :=
  ⟨.of_violation?, FirstViolation.violation?⟩

/-- Validation accepts the well-formed graphs and no others, and of any other graph finds the first
violation; several start nodes are told of with their number and their identifiers. A graph becomes
a flow, with its own nodes and edges, exactly where validation accepts it, and is refused for the
violation found. -/
theorem violation?_first (nodes : List Node) (edges : List Edge) :
    (violation? nodes edges = none ↔ WellFormed nodes edges) ∧
    (∀ error, violation? nodes edges = some error ↔ FirstViolation nodes edges error) ∧
    (GraphError.severalStarts (starts nodes)).message =
      "Flow has " ++ toString (nodes.countP (·.kind = .start)) ++ " start nodes (" ++
        ", ".intercalate (starts nodes) ++ "), exactly one is required" ∧
    ∀ name, (∀ f, Flow.ofGraph name nodes edges = .ok f ↔
        WellFormed nodes edges ∧ f.name = name ∧ f.nodes = nodes ∧ f.edges = edges) ∧
      ∀ error, Flow.ofGraph name nodes edges = .error error ↔ FirstViolation nodes edges error := by
  refine ⟨violation?_eq_none_iff_wellFormed, fun error => violation?_eq_some_iff_first, ?_, ?_⟩
  · rw [← length_starts]
    rfl
  intro name
  constructor
  · intro f
    rw [Flow.ofGraph_eq_ok_iff]
    constructor
    · rintro ⟨rfl, rfl, rfl⟩
      exact ⟨violation?_eq_none_iff_wellFormed.mp f.valid, rfl, rfl, rfl⟩
    · exact And.right
  · intro error
    rw [Flow.ofGraph_eq_error_iff, violation?_eq_some_iff_first]

/-- Of several violations the repeated identifier comes first, though a jump stands before it. -/
example : violation? [⟨"a", .jump "c", none⟩, ⟨"b", .start, none⟩, ⟨"a", .finish, none⟩]
    [⟨"1", "b", "d", none⟩] = some (.repeatedId "a") := by
  decide

end Dialogue.Graph
