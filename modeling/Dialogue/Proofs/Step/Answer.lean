import Dialogue.Proofs.Flow.Successor
import Dialogue.Proofs.Step.Way
import Dialogue.Proofs.Text.Casing

/-!
# Answers to requests

Where a conversation goes from an api node hangs on what comes of its request. A response that can
be used is kept and leads along the first edge that is not for errors; anything else that comes of
the request leads along the first edge for errors, or is told as a failure; a result of something
else than a request is rejected. No edge can be taken both ways, in whatever order the edges stand
and however their handles are spelled.
-/

namespace Dialogue

/-- What an api node asks for of a response: the body, or the part that its path selects. -/
def ApiCall.part? (call : ApiCall) (response : ApiResponse) : Option String :=
  match call.responseField with
  | none => some response.body
  | some path => response.field? path

/-- An api node keeps what it asks for of a response that tells of success. -/
lemma Step.responseValue_eq_ok_iff {call : ApiCall} {response : ApiResponse} {value : String} :
    responseValue call response = .ok value ↔
      (200 ≤ response.status ∧ response.status ≤ 299) ∧ call.part? response = some value := by
  simp only [responseValue, ApiResponse.isSuccess, ApiCall.part?, Bool.and_eq_true,
    decide_eq_true_eq]
  by_cases hsuccess : 200 ≤ response.status ∧ response.status ≤ 299
  · rw [if_pos hsuccess]
    cases call.responseField with
    | none => simp [hsuccess]
    | some path => cases hfield : response.field? path <;> simp [hfield, hsuccess]
  · simp [hsuccess]

/-- What a result is to an api node. -/
inductive Verdict where
  /-- The value is kept. -/
  | kept (value : String)
  | refused
  /-- No request has this result. -/
  | foreign
  deriving DecidableEq

/-- What a result is to an api node: a response is kept that tells of success and has what is asked
for. -/
def ApiCall.verdict (call : ApiCall) : ExternalResult → Verdict
  | .httpSucceeded response =>
    if 200 ≤ response.status ∧ response.status ≤ 299 then
      (call.part? response).elim .refused .kept
    else .refused
  | .httpFailed _ => .refused
  | .delayElapsed => .foreign

lemma ApiCall.verdict_of_ok {call : ApiCall} {response : ApiResponse} {value : String}
    (h : Step.responseValue call response = .ok value) :
    call.verdict (.httpSucceeded response) = .kept value := by
  obtain ⟨hsuccess, hpart⟩ := Step.responseValue_eq_ok_iff.mp h
  rw [verdict, if_pos hsuccess, hpart]
  rfl

lemma ApiCall.verdict_of_error {call : ApiCall} {response : ApiResponse} {reason : String}
    (h : Step.responseValue call response = .error reason) :
    call.verdict (.httpSucceeded response) = .refused := by
  have hother : ∀ value, ¬ ((200 ≤ response.status ∧ response.status ≤ 299) ∧
      call.part? response = some value) := by
    intro value hkept
    rw [Step.responseValue_eq_ok_iff.mpr hkept] at h
    cases h
  rw [verdict]
  split_ifs with hsuccess
  · cases hpart : call.part? response with
    | none => rfl
    | some value => exact absurd ⟨hsuccess, hpart⟩ (hother value)
  · rfl

/-! ### Edges of api nodes -/

/-- The edge with its handle trimmed and in small letters. -/
def Edge.tidied (e : Edge) : Edge :=
  { e with handle := e.handle.map fun handle => Text.asciiLowercase (Text.trim handle) }

/-- The spelling of a handle does not matter to the label of its edge. -/
@[simp] lemma Edge.branch_tidied (e : Edge) : e.tidied.branch = e.branch := by
  simp only [Edge.branch, Edge.tidied]
  cases e.handle with
  | none => rfl
  | some handle =>
    simp only [Option.map_some, Option.bind_some, Branch.ofHandle?, Text.trim_asciiLowercase,
      Text.trim_trim, Text.asciiLowercase_asciiLowercase]

namespace Flow

variable {f g : Flow} {n : Node}

/-- The first edge of an api node that is not for errors. -/
def firstUsual? (f : Flow) (n : Node) : Option Edge :=
  f.edges.find? fun e => e.source = n.id ∧ e.branch ≠ some .onError

/-- The first edge of a node for errors. -/
def firstForErrors? (f : Flow) (n : Node) : Option Edge :=
  f.edges.find? fun e => e.source = n.id ∧ e.branch = some .onError

lemma next?_of_isApi (hn : n ∈ f.nodes) (hkind : n.kind.isApi) :
    f.next? n.id = (f.firstUsual? n).map (·.target) := by
  rw [next?_eq_firstOnward? hn, firstOnward?, firstUsual?]
  simp only [hkind, forall_const]

lemma branchTarget?_onError (hn : n ∈ f.nodes) (hkind : n.kind.isApi) :
    f.branchTarget? n.id .onError = (f.firstForErrors? n).map (·.target) := by
  have hlabel : n.kind.label .onError = some .onError := by
    cases hn : n.kind <;> simp_all [NodeKind.label, NodeKind.isApi]
  simp only [branchTarget?_eq_find? (node?_of_mem hn), hlabel, edgesFrom, List.find?_filter,
    firstForErrors?, Bool.decide_and, decide_eq_true_eq]

/-- Flows whose edges differ in the spelling of their handles have the same ways. -/
lemma ways_of_tidied (h : f.edges.map Edge.tidied = g.edges.map Edge.tidied) (id : String) :
    f.ways id = g.ways id := by
  have hways : ∀ f : Flow, f.ways id = ((f.edges.map Edge.tidied).filter (·.source = id)).map
      fun e => (e.target, e.branch) := by
    intro f
    simp only [ways, edgesFrom, List.filter_map, List.map_map, Function.comp_def,
      Edge.branch_tidied]
    rfl
  rw [hways f, h, ← hways g]

end Flow

namespace Step

variable {n : Node} {call : ApiCall} {s s' : Session}

/-! ### Steps of api nodes -/

/-- What an api node does with a result of this verdict, told by the first of its edges for errors
and the first of the others. -/
inductive Answer (f : Flow) (n : Node) (call : ApiCall) : Verdict → Step → Prop
  | keeps {value : String} {e : Edge} (first : f.firstUsual? n = some e) :
    Answer f n call (.kept value) ⟨.goOn e.target, [], some ⟨call.target, value⟩⟩
  | ends {value : String} (last : f.firstUsual? n = none) :
    Answer f n call (.kept value) ⟨.stop, [], some ⟨call.target, value⟩⟩
  | turns {e : Edge} (first : f.firstForErrors? n = some e) :
    Answer f n call .refused ⟨.goOn e.target, [], none⟩
  | fails (reason : String) (last : f.firstForErrors? n = none) :
    Answer f n call .refused ⟨.stop, [.flowError .externalCallFailure reason], none⟩
  | rejects (reason : String) :
    Answer f n call .foreign ⟨.stop, [.flowError .unexpectedStimulus reason], none⟩

lemma answer_kept (hn : n ∈ s.flow.nodes) (hkind : n.kind = .api call) (value : String) :
    Answer s.flow n call (.kept value)
      { follow s.flow n.id with binding := some ⟨call.target, value⟩ } := by
  rw [follow, Flow.next?_of_isApi hn (by rw [hkind]; rfl)]
  cases hfirst : s.flow.firstUsual? n with
  | none => exact .ends hfirst
  | some e => exact .keeps hfirst

lemma answer_refused (hn : n ∈ s.flow.nodes) (hkind : n.kind = .api call) (reason : String) :
    Answer s.flow n call .refused (requestFailed n s reason) := by
  rw [requestFailed, Flow.branchTarget?_onError hn (by rw [hkind]; rfl)]
  cases hfirst : s.flow.firstForErrors? n with
  | none => exact .fails _ hfirst
  | some e => exact .turns hfirst

lemma answer_ofNode (hn : n ∈ s.flow.nodes) (hkind : n.kind = .api call)
    (result : ExternalResult) :
    Answer s.flow n call (call.verdict result) (ofNode n s (some (.external result))) := by
  simp only [ofNode, hkind]
  cases result with
  | delayElapsed => exact .rejects _
  | httpFailed reason => exact answer_refused hn hkind reason
  | httpSucceeded response =>
    simp only [ofApi]
    cases hvalue : responseValue call response with
    | ok value =>
      rw [ApiCall.verdict_of_ok hvalue]
      exact answer_kept hn hkind value
    | error reason =>
      rw [ApiCall.verdict_of_error hvalue]
      exact answer_refused hn hkind reason

/-- An answer leads along an edge of its node, and for errors exactly when it is a refusal. -/
lemma Answer.edge {f : Flow} {verdict : Verdict} {step : Step} {target : String}
    (h : Answer f n call verdict step) (hgo : step.outcome = .goOn target) :
    ∃ e ∈ f.edges, e.source = n.id ∧ e.target = target ∧
      (e.branch = some .onError ↔ verdict = .refused) := by
  cases h with
  | @keeps value e first =>
    cases hgo
    have hpasses := List.find?_some first
    rw [decide_eq_true_iff] at hpasses
    exact ⟨e, List.mem_of_find?_eq_some first, hpasses.1, rfl, by simp [hpasses.2]⟩
  | @turns e first =>
    cases hgo
    have hpasses := List.find?_some first
    rw [decide_eq_true_iff] at hpasses
    exact ⟨e, List.mem_of_find?_eq_some first, hpasses.1, rfl, by simp [hpasses.2]⟩
  | ends last => cases hgo
  | fails reason last => cases hgo
  | rejects reason => cases hgo

/-- Only the ways that lead on from an api node count for what it does with a result. -/
lemma ofNode_external_of_ways (hn : n ∈ s.flow.nodes) (hn' : n ∈ s'.flow.nodes)
    (hkind : n.kind = .api call) (hways : s'.flow.ways n.id = s.flow.ways n.id)
    (result : ExternalResult) :
    ofNode n s' (some (.external result)) = ofNode n s (some (.external result)) := by
  have hsame : s'.flow.kind? n.id = s.flow.kind? n.id := by
    rw [Flow.kind?, Flow.kind?, Flow.node?_of_mem hn, Flow.node?_of_mem hn']
  have hfollow : follow s'.flow n.id = follow s.flow n.id := by
    rw [follow, follow, Flow.next?_of_ways hsame hways]
  have hfailed : ∀ reason, requestFailed n s' reason = requestFailed n s reason := by
    intro reason
    rw [requestFailed, requestFailed, Flow.branchTarget?_of_ways hsame hways]
  simp only [ofNode, hkind]
  cases result with
  | delayElapsed => rfl
  | httpFailed reason => exact hfailed reason
  | httpSucceeded response => simp only [ofApi, hfollow, hfailed]

/-- With a response that tells of success and has what is asked for, an api node keeps that and goes
along its first edge that is not for errors; with any other response, and with a failure, it keeps
nothing and goes along its first edge for errors. Where that edge is missing the conversation stops,
with an error if the call failed; the end of a delay it rejects. So no edge for errors is taken with
a response that is kept, and no other with one that is refused, and the spelling of the handles does
not count. -/
theorem ofNode_answer (s : Session) (n : Node) (call : ApiCall) (result : ExternalResult)
    (hn : n ∈ s.flow.nodes) (hkind : n.kind = .api call) :
    let step := ofNode n s (some (.external result))
    Answer s.flow n call (call.verdict result) step ∧
    (∀ target, step.outcome = .goOn target →
      ∃ e ∈ s.flow.edges, e.source = n.id ∧ e.target = target ∧
        (e.branch = some .onError ↔ call.verdict result = .refused)) ∧
    ∀ s' : Session, n ∈ s'.flow.nodes →
      s'.flow.edges.map Edge.tidied = s.flow.edges.map Edge.tidied →
      ofNode n s' (some (.external result)) = step := by
  intro step
  have hanswer : Answer s.flow n call (call.verdict result) step := answer_ofNode hn hkind result
  refine ⟨hanswer, fun target => hanswer.edge, fun s' hn' htidied => ?_⟩
  exact ofNode_external_of_ways hn hn' hkind (Flow.ways_of_tidied htidied n.id) result

/-- A flow whose edge for errors stands before the others, and is oddly spelled. -/
def spelled : Flow where
  name := "spelled"
  nodes := [⟨"start", .start, none⟩, ⟨"call", .api { method := "GET", url := "/names" }, none⟩,
    ⟨"greet", .finish, none⟩, ⟨"excuse", .finish, none⟩]
  edges := [⟨"1", "start", "call", none⟩, ⟨"2", "call", "excuse", some " Error\t"⟩,
    ⟨"3", "call", "greet", some "tRue"⟩, ⟨"4", "call", "excuse", none⟩]
  valid := by decide

/-- The flow `spelled` in another spelling. -/
def respelled : Flow :=
  { spelled with
    edges := [⟨"1", "start", "call", none⟩, ⟨"2", "call", "excuse", some "ERROR"⟩,
      ⟨"3", "call", "greet", some " true"⟩, ⟨"4", "call", "excuse", none⟩]
    valid := by decide }

/-- A refused answer passes over the label of a test, and an answer that is kept passes over the
edge for errors. -/
theorem ofNode_answer_spelled :
    let call : ApiCall := { method := "GET", url := "/names" }
    let n : Node := ⟨"call", .api call, none⟩
    let s : Session := { id := "first", flow := spelled }
    let s' : Session := { id := "second", flow := respelled }
    let usable : ExternalResult := .httpSucceeded ⟨299, "Ada"⟩
    let unusable : ExternalResult := .httpSucceeded ⟨300, "Ada"⟩
    n ∈ spelled.nodes ∧ n.kind = .api call ∧ n ∈ respelled.nodes ∧
      respelled.edges.map Edge.tidied = spelled.edges.map Edge.tidied ∧
      ofNode n s (some (.external usable)) =
        ⟨.goOn "greet", [], some ⟨"api_response", "Ada"⟩⟩ ∧
      ofNode n s (some (.external unusable)) = ⟨.goOn "excuse", [], none⟩ ∧
      ofNode n s' (some (.external unusable)) = ofNode n s (some (.external unusable)) := by
  intro call n s s' usable unusable
  have hn : n ∈ spelled.nodes := by decide
  have hn' : n ∈ respelled.nodes := by decide
  have htidied : respelled.edges.map Edge.tidied = spelled.edges.map Edge.tidied := by
    decide +kernel
  have husual : spelled.firstUsual? n = some ⟨"3", "call", "greet", some "tRue"⟩ := by decide
  have hforErrors : spelled.firstForErrors? n =
      some ⟨"2", "call", "excuse", some " Error\t"⟩ := by decide
  obtain ⟨hkept, -, -⟩ := ofNode_answer s n call usable hn rfl
  obtain ⟨hrefused, -, hspelling⟩ := ofNode_answer s n call unusable hn rfl
  refine ⟨hn, rfl, hn', htidied, ?_, ?_, hspelling s' hn' htidied⟩
  · rw [show call.verdict usable = .kept "Ada" by decide] at hkept
    generalize ofNode n s (some (.external usable)) = step at hkept
    cases hkept with
    | keeps first =>
      cases husual.symm.trans first
      rfl
    | ends last => cases husual.symm.trans last
  · rw [show call.verdict unusable = .refused by decide] at hrefused
    generalize ofNode n s (some (.external unusable)) = step at hrefused
    cases hrefused with
    | turns first =>
      cases hforErrors.symm.trans first
      rfl
    | fails reason last => cases hforErrors.symm.trans last

end Step

end Dialogue
