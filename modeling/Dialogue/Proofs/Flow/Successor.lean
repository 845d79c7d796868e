import Dialogue.Proofs.Flow.Index

/-!
# The node that follows

From a node that is no condition a conversation goes on along the first of its edges, whatever the
label; only the edges for errors of an api node are passed over. The branches of such a node have
the edges without label. The two ways on are the same where labels stand only on edges for errors
of api nodes, and `next?_successor` says exactly when else.
-/

namespace Dialogue

/-- Whether nodes of this kind choose between branches. -/
def NodeKind.isCondition : NodeKind → Bool
  | condition _ => true
  | _ => false

/-- Whether nodes of this kind have edges for errors. -/
def NodeKind.isApi : NodeKind → Bool
  | api _ => true
  | _ => false

namespace Flow

/-- The first edge without label that leaves a node. -/
def firstUnlabelled? (f : Flow) (n : Node) : Option Edge :=
  f.edges.find? fun e => e.source = n.id ∧ e.branch = none

/-- The first edge that leaves a node, and is not for errors where that is an api node. -/
def firstOnward? (f : Flow) (n : Node) : Option Edge :=
  f.edges.find? fun e => e.source = n.id ∧ (n.kind.isApi → e.branch ≠ some .onError)

variable {f : Flow} {n : Node} {e : Edge}

lemma leadsOn_iff {kind : NodeKind} : leadsOn kind e ↔ (kind.isApi → e.branch ≠ some .onError) := by
  cases kind <;> simp [leadsOn, NodeKind.isApi]

lemma next?_eq_firstOnward? (hn : n ∈ f.nodes) :
    f.next? n.id = (f.firstOnward? n).map (·.target) := by
  simp only [next?, node?_of_mem hn, Option.bind_some, edgesFrom, List.find?_filter, firstOnward?]
  congr 2
  funext e
  rw [Bool.eq_iff_iff]
  simp [leadsOn_iff]

lemma branchTarget?_eq_firstUnlabelled? (hn : n ∈ f.nodes) (hkind : ¬ n.kind.isCondition)
    {branch : Branch} (hbranch : branch ≠ .onError) :
    f.branchTarget? n.id branch = (f.firstUnlabelled? n).map (·.target) := by
  have hlabel : n.kind.label branch = none := by
    cases hn : n.kind <;> cases branch <;> simp_all [NodeKind.label, NodeKind.isCondition]
  simp only [branchTarget?_eq_find? (node?_of_mem hn), hlabel, edgesFrom, List.find?_filter,
    firstUnlabelled?, Bool.decide_and, decide_eq_true_eq]

/-- An edge without label can be taken from any node. -/
lemma firstUnlabelled?_of_branch_eq_none (h : f.firstOnward? n = some e)
    (hbranch : e.branch = none) : f.firstUnlabelled? n = some e := by
  rw [firstOnward?, List.find?_eq_some_iff_append] at h
  obtain ⟨honward, before, after, hplace, hfirst⟩ := h
  rw [firstUnlabelled?, List.find?_eq_some_iff_append]
  refine ⟨by simp_all, before, after, hplace, fun e' he' => ?_⟩
  have hpassed := hfirst e' he'
  simp only [Bool.not_eq_true', decide_eq_false_iff_not, not_and] at hpassed ⊢
  intro hsource hnone
  exact hpassed hsource fun _ => by simp [hnone]

lemma firstUnlabelled?_eq_none (h : f.firstOnward? n = none) : f.firstUnlabelled? n = none := by
  rw [firstOnward?, List.find?_eq_none] at h
  rw [firstUnlabelled?, List.find?_eq_none]
  intro e he hunlabelled
  simp only [decide_eq_true_eq] at hunlabelled
  exact h e he (by simp [hunlabelled])

/-- The first edge on which a conversation goes on leads where the first edge without label leads,
unless it has a label itself. -/
lemma next?_eq_firstUnlabelled?_iff (hn : n ∈ f.nodes) :
    f.next? n.id = (f.firstUnlabelled? n).map (·.target) ↔
      ∀ e, f.firstOnward? n = some e → e.branch ≠ none →
        ∃ e', f.firstUnlabelled? n = some e' ∧ e'.target = e.target := by
  rw [next?_eq_firstOnward? hn]
  cases honward : f.firstOnward? n with
  | none => simp [firstUnlabelled?_eq_none honward]
  | some e =>
    simp only [Option.map_some, Option.some.injEq, forall_eq']
    rw [eq_comm, Option.map_eq_some_iff]
    constructor
    · intro h _
      exact h
    · intro h
      by_cases hbranch : e.branch = none
      · exact ⟨e, firstUnlabelled?_of_branch_eq_none honward hbranch, rfl⟩
      · exact h hbranch

/-- A node that is no condition has, for either result of a test, the first edge without label. A
conversation goes on from it along its first edge, but for the edges for errors of an api node. That
is the way of the first edge without label unless the edge that is taken has a label, and the first
without label leads elsewhere or is missing; so it is where no label stands but for errors at an api
node. -/
theorem next?_successor (f : Flow) (n : Node) (hn : n ∈ f.nodes) (hkind : ¬ n.kind.isCondition) :
    (∀ branch, branch ≠ .onError →
      f.branchTarget? n.id branch = (f.firstUnlabelled? n).map (·.target)) ∧
    f.next? n.id = (f.firstOnward? n).map (·.target) ∧
    (f.next? n.id = (f.firstUnlabelled? n).map (·.target) ↔
      ∀ e, f.firstOnward? n = some e → e.branch ≠ none →
        ∃ e', f.firstUnlabelled? n = some e' ∧ e'.target = e.target) ∧
    ((∀ e ∈ f.edges, e.source = n.id → e.branch ≠ none →
        n.kind.isApi ∧ e.branch = some .onError) →
      f.next? n.id = (f.firstUnlabelled? n).map (·.target)) := by
  refine ⟨fun _ => branchTarget?_eq_firstUnlabelled? hn hkind, next?_eq_firstOnward? hn,
    next?_eq_firstUnlabelled?_iff hn, fun hlabels => ?_⟩
  rw [next?_eq_firstUnlabelled?_iff hn]
  intro e honward hbranch
  rw [firstOnward?] at honward
  have hpasses := List.find?_some honward
  rw [decide_eq_true_iff] at hpasses
  obtain ⟨hsource, hleads⟩ := hpasses
  obtain ⟨hapi, herror⟩ := hlabels e (List.mem_of_find?_eq_some honward) hsource hbranch
  exact absurd herror (hleads hapi)

/-- A flow with an edge for errors, and with a label where nothing is tested. -/
def mislabelled : Flow where
  name := "mislabelled"
  nodes := [⟨"start", .start, none⟩, ⟨"call", .api { method := "GET", url := "/names" }, none⟩,
    ⟨"greet", .message ⟨"Hello", none, none⟩, none⟩, ⟨"left", .finish, none⟩,
    ⟨"right", .finish, none⟩]
  edges := [⟨"1", "start", "call", none⟩, ⟨"2", "call", "right", some "error"⟩,
    ⟨"3", "call", "greet", none⟩, ⟨"4", "greet", "left", some "true"⟩,
    ⟨"5", "greet", "right", none⟩]
  valid := by decide

/-- From the api node of `mislabelled` the edge for errors is passed over. -/
theorem next?_successor_mislabelled :
    let call : Node := ⟨"call", .api { method := "GET", url := "/names" }, none⟩
    call ∈ mislabelled.nodes ∧ ¬ call.kind.isCondition ∧
      (∀ e ∈ mislabelled.edges, e.source = "call" → e.branch ≠ none →
        call.kind.isApi ∧ e.branch = some .onError) ∧
      mislabelled.next? "call" = some "greet" ∧
      mislabelled.branchTarget? "call" .onTrue = some "greet" := by
  intro call
  have hmem : call ∈ mislabelled.nodes := by decide
  have hlabels : ∀ e ∈ mislabelled.edges, e.source = "call" → e.branch ≠ none →
      call.kind.isApi ∧ e.branch = some .onError := by
    decide
  obtain ⟨hbranches, _, _, hnext⟩ := next?_successor mislabelled call hmem (by decide)
  have hfirst : mislabelled.firstUnlabelled? call = some ⟨"3", "call", "greet", none⟩ := by decide
  refine ⟨hmem, by decide, hlabels, ?_, ?_⟩
  · rw [hnext hlabels, hfirst]
    rfl
  · rw [hbranches .onTrue (by decide), hfirst]
    rfl

/-- From a message a conversation goes along a labelled edge, past the one without label. -/
theorem next?_follows_label :
    let greet : Node := ⟨"greet", .message ⟨"Hello", none, none⟩, none⟩
    greet ∈ mislabelled.nodes ∧ ¬ greet.kind.isCondition ∧
      mislabelled.next? "greet" = some "left" ∧
      (mislabelled.firstUnlabelled? greet).map (·.target) = some "right" ∧
      mislabelled.branchTarget? "greet" .onTrue = some "right" := by
  decide

end Flow

end Dialogue
