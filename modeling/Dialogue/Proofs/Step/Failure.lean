import Dialogue.Proofs.Step.Way

/-!
# Why nodes fail

A node fails in one of four ways: a start node from which nothing follows, a condition without an
edge for its result, a request that has failed where no edge for errors leaves, and a stimulus of
which the node can make no use. `Step.flowError_mem_iff` says that a step tells of a failure in
these cases and in no others, and what it tells.
-/

namespace Dialogue

/-- A node of this kind waits for something else than the stimulus. -/
inductive NodeKind.Rejects : NodeKind → Stimulus → Prop where
  | input {saveAs : Option String} {result : ExternalResult} :
      Rejects (.input saveAs) (.external result)
  | delay {seconds : Float} {stimulus : Stimulus} (other : stimulus ≠ .external .delayElapsed) :
      Rejects (.delay seconds) stimulus
  | reply {call : ApiCall} {text : String} : Rejects (.api call) (.userInput text)
  | elapsed {call : ApiCall} : Rejects (.api call) (.external .delayElapsed)

namespace Outlook

/-- Why a node fails, with the kind of the failure and its reason in words. -/
inductive Fails (o : Outlook) (n : Node) : Option Stimulus → FlowErrorKind → String → Prop where
  | start {stimulus : Option Stimulus} (kind : n.kind = .start)
      (ends : o.flow.next? n.id = none) :
      Fails o n stimulus .missingEdge ("start node '" ++ n.id ++ "' has no outgoing edge")
  /-- No edge has the label of the result. -/
  | condition {stimulus : Option Stimulus} {predicate : String} {branch : Branch}
      (kind : n.kind = .condition predicate)
      (result : branch = .ofBool (Predicate.holds predicate o.lastInput o.vars))
      (unlabelled : ∀ e ∈ o.flow.edgesFrom n.id, e.branch ≠ some branch) :
      Fails o n stimulus .missingEdge
        ("condition node '" ++ n.id ++ "' has no '" ++ branch.handle ++ "' edge")
  /-- The response is none that can be used. -/
  | unusable {call : ApiCall} {response : ApiResponse} {reason : String} (kind : n.kind = .api call)
      (unanswered : Step.responseValue call response = .error reason)
      (unlabelled : ∀ e ∈ o.flow.edgesFrom n.id, e.branch ≠ some .onError) :
      Fails o n (some (.external (.httpSucceeded response))) .externalCallFailure
        ("api node '" ++ n.id ++ "': " ++ reason)
  /-- There is no response. -/
  | failed {call : ApiCall} {reason : String} (kind : n.kind = .api call)
      (unlabelled : ∀ e ∈ o.flow.edgesFrom n.id, e.branch ≠ some .onError) :
      Fails o n (some (.external (.httpFailed reason))) .externalCallFailure
        ("api node '" ++ n.id ++ "': " ++ reason)
  | rejected {stimulus : Stimulus} (rejects : n.kind.Rejects stimulus) :
      Fails o n (some stimulus) .unexpectedStimulus
        (n.kind.name ++ " node '" ++ n.id ++ "' cannot handle " ++ stimulus.describe)

variable {o : Outlook} {n : Node} {stimulus : Option Stimulus} {kind : FlowErrorKind}
  {reason : String}

/-- A node that fails sets no variable. -/
lemma Fails.binding?_eq_none (h : o.Fails n stimulus kind reason) :
    n.kind.binding? stimulus = none := by
  cases h with
  | start hkind | condition hkind | failed hkind =>
    rw [hkind]
    rfl
  | unusable hkind unanswered =>
    rw [hkind]
    simp only [NodeKind.binding?, unanswered]
    rfl
  | rejected rejects =>
    generalize n.kind = nodeKind at rejects
    cases rejects <;> rfl

/-- A node that nothing has woken fails for a missing edge only. -/
lemma Fails.exists_woken (h : o.Fails n stimulus kind reason) (hkind : kind ≠ .missingEdge) :
    ∃ woken, stimulus = some woken := by
  cases h with
  | start | condition => exact absurd rfl hkind
  | unusable | failed | rejected => exact ⟨_, rfl⟩

/-- No node fails for the variable that it sets itself. -/
lemma fails_bind_iff : (o.bind (n.kind.binding? stimulus)).Fails n stimulus kind reason ↔
    o.Fails n stimulus kind reason := by
  constructor
  · intro h
    rw [h.binding?_eq_none] at h
    exact h
  · intro h
    rw [h.binding?_eq_none]
    exact h

end Outlook

/-! ### Steps -/

namespace Step

variable {n : Node} {s : Session} {stimulus : Option Stimulus} {kind : FlowErrorKind}
  {reason : String}

lemma branchTarget?_eq_none_iff {f : Flow} {branch : Branch} (hn : f.node? n.id = some n)
    (hlabel : n.kind.label branch = some branch) :
    f.branchTarget? n.id branch = none ↔ ∀ e ∈ f.edgesFrom n.id, e.branch ≠ some branch := by
  rw [Flow.branchTarget?_eq_find? hn, hlabel, Option.map_eq_none_iff, List.find?_eq_none]
  simp only [decide_eq_true_eq, ne_eq]

/-- A failed request is told of exactly where no edge for errors leaves its node. -/
lemma requestFailed_mem_iff {call : ApiCall} {why : String} (hn : s.flow.node? n.id = some n)
    (hkind : n.kind = .api call) :
    .flowError kind reason ∈ (requestFailed n s why).events ↔
      (∀ e ∈ s.flow.edgesFrom n.id, e.branch ≠ some .onError) ∧
        kind = .externalCallFailure ∧ reason = "api node '" ++ n.id ++ "': " ++ why := by
  rw [← branchTarget?_eq_none_iff hn (by rw [hkind]; rfl)]
  simp only [requestFailed]
  cases s.flow.branchTarget? n.id .onError <;> simp [fail]

lemma unexpected_mem_iff {other : Stimulus} :
    .flowError kind reason ∈ (unexpected n other).events ↔
      kind = .unexpectedStimulus ∧
        reason = n.kind.name ++ " node '" ++ n.id ++ "' cannot handle " ++ other.describe := by
  simp [unexpected, fail]

lemma follow_not_mem : .flowError kind reason ∉ (follow s.flow n.id).events := by
  simp [follow_events]

lemma flowError_mem_of_fails (hn : s.flow.node? n.id = some n)
    (h : s.outlook.Fails n stimulus kind reason) :
    .flowError kind reason ∈ (ofNode n s stimulus).events := by
  cases h with
  | start hkind ends =>
    have hnext : s.flow.next? n.id = none := ends
    simp only [ofNode, hkind, ofStart, hnext]
    exact List.mem_singleton_self _
  | condition hkind result unlabelled =>
    have hnone := (branchTarget?_eq_none_iff hn (by rw [hkind]; rfl)).mpr unlabelled
    subst result
    simp only [Session.outlook] at hnone ⊢
    simp only [ofNode, hkind, ofCondition, hnone]
    exact List.mem_singleton_self _
  | unusable hkind unanswered unlabelled =>
    simp only [ofNode, hkind, ofApi, unanswered]
    exact (requestFailed_mem_iff hn hkind).mpr ⟨unlabelled, rfl, rfl⟩
  | failed hkind unlabelled =>
    simp only [ofNode, hkind, ofApi]
    exact (requestFailed_mem_iff hn hkind).mpr ⟨unlabelled, rfl, rfl⟩
  | @rejected stimulus rejects =>
    have hunexpected : .flowError .unexpectedStimulus
        (n.kind.name ++ " node '" ++ n.id ++ "' cannot handle " ++ stimulus.describe) ∈
          (unexpected n stimulus).events := unexpected_mem_iff.mpr ⟨rfl, rfl⟩
    generalize hkind : n.kind = nodeKind at rejects hunexpected ⊢
    cases rejects with
    | input | reply | elapsed =>
      simp only [ofNode, hkind]
      exact hunexpected
    | delay other =>
      simp only [ofNode, hkind]
      rcases stimulus with text | (_ | response | why)
      · exact hunexpected
      · exact absurd rfl other
      · exact hunexpected
      · exact hunexpected

lemma fails_of_flowError_mem (hn : s.flow.node? n.id = some n)
    (h : .flowError kind reason ∈ (ofNode n s stimulus).events) :
    s.outlook.Fails n stimulus kind reason := by
  have hrejected : ∀ {other : Stimulus}, n.kind.Rejects other →
      .flowError kind reason ∈ (unexpected n other).events →
        s.outlook.Fails n (some other) kind reason := by
    intro other rejects hmem
    obtain ⟨rfl, rfl⟩ := unexpected_mem_iff.mp hmem
    exact .rejected rejects
  cases hkind : n.kind with
  | start =>
    simp only [ofNode, hkind, ofStart] at h
    cases hnext : s.flow.next? n.id with
    | none =>
      rw [hnext] at h
      obtain ⟨rfl, rfl⟩ := Event.flowError.inj (List.mem_singleton.mp h)
      exact .start hkind hnext
    | some target =>
      rw [hnext] at h
      cases h
  | message message =>
    simp only [ofNode, hkind, ofMessage, follow_events] at h
    cases List.mem_singleton.mp h
  | input saveAs =>
    rcases stimulus with _ | text | result
    · simp only [ofNode, hkind, ofInput] at h
      cases h
    · simp only [ofNode, hkind, ofInput] at h
      exact absurd h follow_not_mem
    · simp only [ofNode, hkind, ofInput] at h
      exact hrejected (hkind ▸ .input) h
  | condition predicate =>
    simp only [ofNode, hkind, ofCondition] at h
    cases hbranch : s.flow.branchTarget? n.id
        (.ofBool (Predicate.holds predicate s.lastInput s.vars)) with
    | none =>
      rw [hbranch] at h
      obtain ⟨rfl, rfl⟩ := Event.flowError.inj (List.mem_singleton.mp h)
      have hlabel : ∀ branch, n.kind.label branch = some branch := fun _ => by rw [hkind]; rfl
      exact .condition hkind rfl ((branchTarget?_eq_none_iff hn (hlabel _)).mp hbranch)
    | some target =>
      rw [hbranch] at h
      cases h
  | delay seconds =>
    simp only [ofNode, hkind] at h
    rcases stimulus with _ | text | (_ | response | why)
    · simp [ofDelay] at h
    · exact hrejected (hkind ▸ .delay (by simp)) h
    · exact absurd h follow_not_mem
    · exact hrejected (hkind ▸ .delay (by simp)) h
    · exact hrejected (hkind ▸ .delay (by simp)) h
  | api call =>
    simp only [ofNode, hkind] at h
    rcases stimulus with _ | text | (_ | response | why)
    · cases h
    · exact hrejected (hkind ▸ .reply) h
    · exact hrejected (hkind ▸ .elapsed) h
    · cases hanswer : responseValue call response with
      | ok value =>
        simp only [ofApi, hanswer] at h
        exact absurd h follow_not_mem
      | error why =>
        simp only [ofApi, hanswer] at h
        obtain ⟨unlabelled, rfl, rfl⟩ := (requestFailed_mem_iff hn hkind).mp h
        exact .unusable hkind hanswer unlabelled
    · obtain ⟨unlabelled, rfl, rfl⟩ := (requestFailed_mem_iff hn hkind).mp h
      exact .failed hkind unlabelled
  | jump target =>
    simp only [ofNode, hkind] at h
    cases h
  | finish =>
    simp only [ofNode, hkind] at h
    cases List.mem_singleton.mp h

/-- A step tells of a failure exactly if its node fails. -/
theorem flowError_mem_iff (hn : s.flow.node? n.id = some n) :
    .flowError kind reason ∈ (ofNode n s stimulus).events ↔
      s.outlook.Fails n stimulus kind reason :=
  ⟨fails_of_flowError_mem hn, flowError_mem_of_fails hn⟩

end Step

end Dialogue
