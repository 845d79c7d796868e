import Dialogue.Proofs.Engine.Path
import Dialogue.Proofs.Engine.Variables
import Dialogue.Proofs.Walk.Failure

/-!
# Why turns fail

A turn tells of a failure exactly if the node at which it comes to its end fails, the ceiling aside.
A stimulus is of no use only where the result of external work is not what the session waits for,
never where it is a reply; a request fails a turn only at the node that the result has woken; and an
edge is missed by start nodes and conditions alone. No session ever points at no node.
-/

namespace Dialogue

/-! ### Failures one by one -/

/-- An edge is missed at a start node from which nothing follows, and at a condition without an edge
for its result. -/
lemma Outlook.fails_missingEdge_iff {o : Outlook} {n : Node} {stimulus : Option Stimulus}
    {reason : String} :
    o.Fails n stimulus .missingEdge reason ↔
      (n.kind = .start ∧ o.flow.next? n.id = none ∧
        reason = "start node '" ++ n.id ++ "' has no outgoing edge") ∨
      ∃ predicate branch, n.kind = .condition predicate ∧
        branch = .ofBool (Predicate.holds predicate o.lastInput o.vars) ∧
        (∀ edge ∈ o.flow.edgesFrom n.id, edge.branch ≠ some branch) ∧
        reason = "condition node '" ++ n.id ++ "' has no '" ++ branch.handle ++ "' edge" := by
  constructor
  · intro h
    cases h with
    | start kind ends => exact .inl ⟨kind, ends, rfl⟩
    | condition kind result unlabelled => exact .inr ⟨_, _, kind, result, unlabelled, rfl⟩
  · rintro (⟨kind, ends, rfl⟩ | ⟨_, _, kind, result, unlabelled, rfl⟩)
    · exact .start kind ends
    · exact .condition kind result unlabelled

/-- No node fails as a session without a node would. -/
lemma Outlook.Fails.ne_lostReason {o : Outlook} {n : Node} {stimulus : Option Stimulus}
    {reason : String} (h : o.Fails n stimulus .missingEdge reason) (s : Session) :
    reason ≠ Walk.lostReason s := by
  intro heq
  have hchars := congrArg String.toList heq
  cases h with
  | start | condition => simp [Walk.lostReason, String.toList_append] at hchars

/-- The request is for something else than this result. -/
inductive ExternalRequest.Rejects : ExternalRequest → ExternalResult → Prop where
  | delay {seconds : Float} {result : ExternalResult} (other : result ≠ .delayElapsed) :
      Rejects (.delay seconds) result
  | http {request : ApiRequest} : Rejects (.http request) .delayElapsed

/-! ### Sessions at rest -/

namespace Session.AtRest

variable {s : Session} {n : Node}

/-- A node that waits for a reply can make use of any. -/
lemma not_rejects (h : s.AtRest) (waits : s.status = .awaitingInput) (place : s.place? = some n)
    (text : String) : ¬ n.kind.Rejects (.userInput text) := by
  obtain ⟨_, m, saveAs, place', kind⟩ := h.awaitingInput waits
  obtain rfl : n = m := Option.some.inj (place.symm.trans place')
  rw [kind]
  intro hrejects
  cases hrejects

/-- A node can make use of a result exactly if its pending request can. -/
lemma rejects_iff (h : s.AtRest) (waits : s.status = .awaitingExternal)
    (place : s.place? = some n) (result : ExternalResult) :
    n.kind.Rejects (.external result) ↔
      ∃ request, s.pending = some request ∧ request.Rejects result := by
  obtain ⟨m, place', hwaits⟩ := h.awaitingExternal waits
  obtain rfl : n = m := Option.some.inj (place.symm.trans place')
  rcases hwaits with ⟨seconds, kind, pending⟩ | ⟨call, kind, pending⟩
  · rw [kind, pending]
    constructor
    · intro hrejects
      cases hrejects with
      | delay other => exact ⟨_, rfl, .delay fun heq => other (heq ▸ rfl)⟩
    · rintro ⟨_, hrequest, hrejects⟩
      cases hrequest
      cases hrejects with
      | delay other => exact .delay fun heq => other (Stimulus.external.inj heq)
  · rw [kind, pending]
    constructor
    · intro hrejects
      cases hrejects
      exact ⟨_, rfl, .http⟩
    · rintro ⟨_, hrequest, hrejects⟩
      cases hrequest
      cases hrejects
      exact .elapsed

end Session.AtRest

/-! ### Calls -/

namespace Engine

open Walk

variable {e : Engine} {c : Call} {o : Opening} {n n' : Node} {look look' : Outlook}
  {stimulus stimulus' : Option Stimulus} {kind : FlowErrorKind} {reason : String}

/-- The call brings a result that is not what its session waits for. -/
inductive Misfits (e : Engine) : Call → Prop where
  | complete {id : String} {result : ExternalResult} {s : Session} {request : ExternalRequest}
      (stored : e.store.get? id = some s) (pending : s.pending = some request)
      (rejects : request.Rejects result) : Misfits e (.complete id result)

/-- The call brings the failure of a request to an api node from which no edge for errors leaves. -/
inductive Unrecovered (e : Engine) : Call → Prop where
  | complete {id : String} {result : ExternalResult} {s : Session} {n : Node} {call : ApiCall}
      (stored : e.store.get? id = some s) (place : s.place? = some n) (kind : n.kind = .api call)
      (fails : call.Fails (some (.external result)))
      (unlabelled : ∀ edge ∈ s.flow.edgesFrom n.id, edge.branch ≠ some .onError) :
      Unrecovered e (.complete id result)

/-- Where a call comes to its end: the last node that it goes through, what this node sees and what
wakes it. -/
inductive EndsAt (e : Engine) (c : Call) : Node → Outlook → Option Stimulus → Prop where
  | intro {first n : Node} {look : Outlook} {woken stimulus : Option Stimulus}
      {nodes : List Node} {last : String} (setsOut : e.SetsOut c woken first look)
      (route : Route (look.bind (first.kind.binding? woken)) e.config.maxSteps woken first.id
        nodes last)
      (final : nodes.getLast? = some n)
      (wakes : stimulus = if nodes.length = 1 then woken else none) :
      EndsAt e c n (look.bind (first.kind.binding? woken)) stimulus

/-- The node that a stimulus wakes is the one from which the call has set out. -/
lemma EndsAt.woken {woken : Stimulus} (h : e.EndsAt c n look (some woken)) :
    ∃ look', e.SetsOut c (some woken) n look' ∧
      look = look'.bind (n.kind.binding? (some woken)) := by
  cases h with
  | @intro first _ look' _ _ nodes last setsOut route final wakes =>
    split at wakes
    · next hlength =>
      subst wakes
      obtain ⟨m, rfl⟩ := List.length_eq_one_iff.mp hlength
      obtain rfl : m = n := Option.some.inj final
      have hfirst : (look'.bind (first.kind.binding? (some woken))).flow.node? first.id =
          some first := by
        rw [Outlook.bind_flow]
        exact setsOut.node?
      rcases route.head?_eq hfirst with hhead | ⟨hnil, _⟩
      · obtain rfl : m = first := Option.some.inj hhead
        exact ⟨look', setsOut, rfl⟩
      · cases hnil
    · cases wakes

/-- A turn tells of a failure exactly if the node at which it comes to its end fails. -/
lemma Orderly.flowError_mem_iff (h : e.Orderly) (ho : e.Opens c o) (hkind : kind ≠ .infiniteLoop) :
    .flowError kind reason ∈ (o.run e.config.maxSteps).events.toList ↔
      ∃ n look stimulus, e.EndsAt c n look stimulus ∧ look.Fails n stimulus kind reason := by
  obtain ⟨s, first, hreached, hplace, hout⟩ := h.setsOut ho
  obtain ⟨nodes, last, hroute, _⟩ := hreached.run_route hplace e.config.maxSteps o.stimulus
  apply (hreached.flowError_mem_run_iff hplace hroute hkind).trans
  constructor
  · rintro ⟨n, hfinal, hfails⟩
    exact ⟨n, _, _, .intro hout hroute hfinal rfl, hfails⟩
  · rintro ⟨n, _, _, hends, hfails⟩
    cases hends with
    | intro hout' hroute' hfinal' hwakes =>
      obtain ⟨rfl, rfl, rfl⟩ := hout.unique hout'
      obtain ⟨rfl, _⟩ := hroute.unique hroute'
      subst hwakes
      exact ⟨n, hfinal', hfails⟩

/-- A turn whose first node fails tells of nothing else. -/
lemma Orderly.events_of_fails (h : e.Orderly) (ho : e.Opens c o) (hpos : 1 ≤ e.config.maxSteps)
    (hout : e.SetsOut c stimulus n look) (hfails : look.Fails n stimulus kind reason) :
    (o.run e.config.maxSteps).events.toList = [.flowError kind reason, .endOfConversation] := by
  obtain ⟨s, first, hreached, hplace, hout'⟩ := h.setsOut ho
  obtain ⟨rfl, rfl, rfl⟩ := hout'.unique hout
  exact hreached.run_of_fails hplace hpos hfails

/-- A failure that is no missing edge is that of the first node. -/
lemma Orderly.flowError_mem_iff_fails (h : e.Orderly) (ho : e.Opens c o)
    (hpos : 1 ≤ e.config.maxSteps) (hout : e.SetsOut c stimulus n look)
    (hloop : kind ≠ .infiniteLoop) (hedge : kind ≠ .missingEdge) :
    .flowError kind reason ∈ (o.run e.config.maxSteps).events.toList ↔
      look.Fails n stimulus kind reason := by
  constructor
  · intro hmem
    obtain ⟨m, _, _, hends, hfails⟩ := (h.flowError_mem_iff ho hloop).mp hmem
    obtain ⟨woken, rfl⟩ := hfails.exists_woken hedge
    obtain ⟨look', hout', rfl⟩ := hends.woken
    obtain ⟨rfl, rfl, rfl⟩ := hout.unique hout'
    exact Outlook.fails_bind_iff.mp hfails
  · intro hfails
    rw [h.events_of_fails ho hpos hout hfails]
    exact List.mem_cons_self

/-- The first node of a call can make no use of its stimulus exactly if the call misfits. -/
lemma Orderly.misfits_iff (h : e.Orderly) (hout : e.SetsOut c stimulus n look) :
    e.Misfits c ↔ ∃ reason, look.Fails n stimulus .unexpectedStimulus reason := by
  constructor
  · intro hmisfits
    cases hmisfits with
    | @complete id result s request stored pending rejects =>
      cases hout with
      | complete stored' waits place =>
        obtain rfl := Option.some.inj (stored.symm.trans stored')
        have hrejects := ((h.atRest _ _ stored).rejects_iff waits place result).mpr
          ⟨_, pending, rejects⟩
        exact ⟨_, .rejected hrejects⟩
  · rintro ⟨reason, hfails⟩
    cases hfails with
    | rejected hrejects =>
      cases hout with
      | resume stored waits place =>
        exact absurd hrejects ((h.atRest _ _ stored).not_rejects waits place _)
      | complete stored waits place =>
        obtain ⟨request, pending, rejects⟩ :=
          ((h.atRest _ _ stored).rejects_iff waits place _).mp hrejects
        exact .complete stored pending rejects

/-- The first node of a call lets the request fail exactly if the call is one of those that do not
recover. -/
lemma unrecovered_iff (hout : e.SetsOut c stimulus n look) :
    e.Unrecovered c ↔ ∃ reason, look.Fails n stimulus .externalCallFailure reason := by
  constructor
  · intro hunrecovered
    cases hunrecovered with
    | @complete id result s m call stored place kind fails unlabelled =>
      cases hout with
      | complete stored' waits place' =>
        obtain rfl := Option.some.inj (stored.symm.trans stored')
        obtain rfl := Option.some.inj (place.symm.trans place')
        cases fails with
        | unusable unanswered => exact ⟨_, .unusable kind unanswered unlabelled⟩
        | failed => exact ⟨_, .failed kind unlabelled⟩
  · rintro ⟨reason, hfails⟩
    cases hfails with
    | unusable kind unanswered unlabelled =>
      cases hout with
      | complete stored waits place =>
        exact .complete stored place kind (.unusable unanswered) unlabelled
    | failed kind unlabelled =>
      cases hout with
      | complete stored waits place => exact .complete stored place kind .failed unlabelled

/-- A call on a session that is there begins with it. -/
lemma Opens.origin_eq {s : Session} (h : e.Opens c o)
    (stored : e.store.get? c.session = some s) : o.origin = s := by
  cases h with
  | start absent | startNodes _ absent => cases absent.symm.trans stored
  | resume stored' | complete stored' => exact Option.some.inj (stored'.symm.trans stored)

/-- A call whose first node fails sets no variable. -/
lemma Orderly.vars_of_fails (h : e.Orderly) (ho : e.Opens c o) (hpos : 1 ≤ e.config.maxSteps)
    (hout : e.SetsOut c stimulus n look) (hfails : look.Fails n stimulus kind reason) :
    (e.take c).journal.filterMap Change.binding? = [] ∧
      ∀ s s', e.store.get? c.session = some s →
        (e.take c).engine.store.get? c.session = some s' → s'.vars = s.vars := by
  obtain ⟨_, _, hreached, hplace, hout'⟩ := h.setsOut ho
  obtain ⟨rfl, rfl, rfl⟩ := hout'.unique hout
  have hassigned : (o.run e.config.maxSteps).assigned = [] := by
    have hrun := hreached.assigned_run hplace hpos o.stimulus
    rw [ho.assigned_eq, hfails.binding?_eq_none] at hrun
    exact hrun
  refine ⟨ho.binding?_journal.trans hassigned, ?_⟩
  intro s s' stored kept
  have hvars := ho.vars_run e.config.maxSteps
  rw [hassigned, ho.origin_eq stored] at hvars
  rw [ho.take.2] at kept
  rcases stored_of_keep kept with ⟨_, rfl, _⟩ | ⟨hne, _⟩
  · exact hvars
  · exact absurd rfl hne

/-- A turn fails for a cause. It tells of an unexpected stimulus exactly if the call brings a result
that is not what its session waits for, so never after a reply, and then it tells of nothing else
and leaves the variables as they are. It never tells that a session points at no node. It tells of a
missing edge exactly if it comes to its end at a start node from which nothing follows or at a
condition without an edge for its result, and of a failed request exactly if this is what the call
brings and no edge for errors leaves the api node. -/
theorem turn_failures (config : EngineConfig) (calls : List Call) (c : Call) (t : Turn)
    (hceiling : 1 ≤ config.maxSteps)
    (h : (((⟨∅, config⟩ : Engine).takeAll calls).engine.take c).result = .turn t) :
    let e := ((⟨∅, config⟩ : Engine).takeAll calls).engine
    ((∃ reason, .flowError .unexpectedStimulus reason ∈ t.events) ↔ e.Misfits c) ∧
      (e.Misfits c →
        (∃ reason, t.events = [.flowError .unexpectedStimulus reason, .endOfConversation]) ∧
          (e.take c).journal.filterMap Change.binding? = [] ∧
          ∀ s s', e.store.get? c.session = some s →
            (e.take c).engine.store.get? c.session = some s' → s'.vars = s.vars) ∧
      (∀ s, .flowError .missingEdge (Walk.lostReason s) ∉ t.events) ∧
      (∀ reason, .flowError .missingEdge reason ∈ t.events ↔
        ∃ n look stimulus, e.EndsAt c n look stimulus ∧
          ((n.kind = .start ∧ look.flow.next? n.id = none ∧
            reason = "start node '" ++ n.id ++ "' has no outgoing edge") ∨
          ∃ predicate branch, n.kind = .condition predicate ∧
            branch = .ofBool (Predicate.holds predicate look.lastInput look.vars) ∧
            (∀ edge ∈ look.flow.edgesFrom n.id, edge.branch ≠ some branch) ∧
            reason = "condition node '" ++ n.id ++ "' has no '" ++ branch.handle ++ "' edge")) ∧
      ((∃ reason, .flowError .externalCallFailure reason ∈ t.events) ↔ e.Unrecovered c) := by
  intro e
  have horderly : e.Orderly := (orderly_empty config).takeAll calls
  have hconfig : e.config = config := takeAll_config _ calls
  rw [← hconfig] at hceiling
  obtain ⟨o, ho, rfl⟩ := opens_of_turn h
  obtain ⟨s, n, _, _, hout⟩ := horderly.setsOut ho
  have hfirst : ∀ {kind : FlowErrorKind}, kind ≠ .infiniteLoop → kind ≠ .missingEdge →
      ((∃ reason, .flowError kind reason ∈ (o.run e.config.maxSteps).events.toList) ↔
        ∃ reason, s.outlook.Fails n o.stimulus kind reason) := by
    intro kind hloop hedge
    exact exists_congr fun _ => horderly.flowError_mem_iff_fails ho hceiling hout hloop hedge
  refine ⟨?_, ?_, ?_, ?_, ?_⟩
  · exact (hfirst (by simp) (by simp)).trans (horderly.misfits_iff hout).symm
  · intro hmisfits
    obtain ⟨reason, hfails⟩ := (horderly.misfits_iff hout).mp hmisfits
    exact ⟨⟨reason, horderly.events_of_fails ho hceiling hout hfails⟩,
      horderly.vars_of_fails ho hceiling hout hfails⟩
  · intro s hmem
    obtain ⟨_, _, _, _, hfails⟩ := (horderly.flowError_mem_iff ho (by simp)).mp hmem
    exact hfails.ne_lostReason s rfl
  · intro reason
    have hmem : .flowError .missingEdge reason ∈ (o.run e.config.maxSteps).events.toList ↔ _ :=
      horderly.flowError_mem_iff ho (by simp)
    simp only [Outlook.fails_missingEdge_iff] at hmem
    exact hmem
  · exact (hfirst (by simp) (by simp)).trans (unrecovered_iff hout).symm

/-- The session of `Flow.sample` has paused when it is told of a request that failed. -/
theorem turn_failures_sample :
    let e := ((⟨∅, { maxSteps := 4 }⟩ : Engine).takeAll
      [.start "a" .sample, .resume "a" "Ada"]).engine
    ∃ t, (e.take (.complete "a" (.httpFailed "gone"))).result = .turn t ∧ t.status = .ended ∧
      e.Misfits (.complete "a" (.httpFailed "gone")) ∧
      (∃ reason, t.events = [.flowError .unexpectedStimulus reason, .endOfConversation]) ∧
      (e.take (.complete "a" (.httpFailed "gone"))).journal.filterMap Change.binding? = [] ∧
      (∀ s s', e.store.get? "a" = some s →
        (e.take (.complete "a" (.httpFailed "gone"))).engine.store.get? "a" = some s' →
          s'.vars = s.vars) ∧
      (∀ s, .flowError .missingEdge (Walk.lostReason s) ∉ t.events) ∧
      ¬ e.Unrecovered (.complete "a" (.httpFailed "gone")) := by
  intro e
  have h : (e.take (.complete "a" (.httpFailed "gone"))).result =
      .turn ⟨"a", .ended, [.flowError .unexpectedStimulus
          "delay node 'pause' cannot handle External(HttpFailed \x7b reason: \"gone\" \x7d)",
        .endOfConversation], none⟩ := by
    decide +kernel
  obtain ⟨hunexpected, hmisfits, hlost, _, hfailed⟩ :=
    turn_failures { maxSteps := 4 } [.start "a" .sample, .resume "a" "Ada"] _ _ (by decide) h
  have hcall := hunexpected.mp ⟨_, List.mem_cons_self⟩
  obtain ⟨hevents, hjournal, hvars⟩ := hmisfits hcall
  refine ⟨_, h, rfl, hcall, hevents, hjournal, hvars, hlost, fun hunrecovered => ?_⟩
  obtain ⟨reason, hmem⟩ := hfailed.mpr hunrecovered
  simp at hmem

end Engine

end Dialogue
