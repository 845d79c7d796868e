import Dialogue.Proofs.Step.Shape

/-!
# Ways

Where a conversation goes from a node, said by the edges of its flow alone: a condition and a
failed request choose among the edges with a label, a jump needs no edge, and every other node that
is through with its work takes the edge to the node that follows. `Step.goOn_iff_way` says that
steps go on along these ways and no others.
-/

namespace Dialogue

/-- The message that an event sends, and the node that sends it. -/
def Event.message? : Event → Option (String × Message)
  | botMessage node message => some (node, message)
  | _ => none

/-! ### What wakes nodes -/

/-- A node of this kind is through with its work: at once, or woken by what it waits for. -/
inductive NodeKind.Passes : NodeKind → Option Stimulus → Prop where
  | start {stimulus : Option Stimulus} : Passes .start stimulus
  | message {message : Message} {stimulus : Option Stimulus} : Passes (.message message) stimulus
  | input {saveAs : Option String} {text : String} :
      Passes (.input saveAs) (some (.userInput text))
  | delay {seconds : Float} : Passes (.delay seconds) (some (.external .delayElapsed))
  | api {call : ApiCall} {response : ApiResponse} {value : String}
      (answered : Step.responseValue call response = .ok value) :
      Passes (.api call) (some (.external (.httpSucceeded response)))

/-- The request of an api node has failed: there is no response, or not one that can be used. -/
inductive ApiCall.Fails (call : ApiCall) : Option Stimulus → Prop where
  | unusable {response : ApiResponse} {reason : String}
      (unanswered : Step.responseValue call response = .error reason) :
      Fails call (some (.external (.httpSucceeded response)))
  | failed {reason : String} : Fails call (some (.external (.httpFailed reason)))

/-- The variable that a node sets when it is woken: an input node keeps the reply, an api node what
it asked for. -/
def NodeKind.binding? : NodeKind → Option Stimulus → Option Binding
  | input saveAs, some (.userInput text) => saveAs.map fun name => ⟨name, text⟩
  | api call, some (.external (.httpSucceeded response)) =>
    (Step.responseValue call response).toOption.map fun value => ⟨call.target, value⟩
  | _, _ => none

/-- A node that is not woken sets no variable. -/
@[simp] lemma NodeKind.binding?_none (kind : NodeKind) : kind.binding? none = none := by
  cases kind <;> rfl

namespace Outlook

/-- The ways on from a node. -/
inductive Way (o : Outlook) (n : Node) (stimulus : Option Stimulus) : String → Prop where
  | next {target : String} (passes : n.kind.Passes stimulus)
      (follows : o.flow.next? n.id = some target) : Way o n stimulus target
  /-- A condition takes its first edge with the label of the result. -/
  | branch {predicate : String} {e : Edge} (kind : n.kind = .condition predicate)
      (first : (o.flow.edgesFrom n.id).find?
        (·.branch = some (.ofBool (Predicate.holds predicate o.lastInput o.vars))) = some e) :
      Way o n stimulus e.target
  /-- A failed request takes the first edge for errors. -/
  | failure {call : ApiCall} {e : Edge} (kind : n.kind = .api call) (fails : call.Fails stimulus)
      (first : (o.flow.edgesFrom n.id).find? (·.branch = some .onError) = some e) :
      Way o n stimulus e.target
  | jump {target : String} (kind : n.kind = .jump target) : Way o n stimulus target

/-- What a node says: the message of a message node, filled with the variables. -/
def said? (o : Outlook) (n : Node) : Option (String × Message) :=
  match n.kind with
  | .message m => some (n.id, {
      text := Template.fill o.vars m.text
      image := m.image.map (Template.fill o.vars)
      link := m.link.map (Template.fill o.vars) })
  | _ => none

variable {o : Outlook} {n : Node} {stimulus : Option Stimulus} {target : String}

lemma said?_bind (o : Outlook) (n : Node) (stimulus : Option Stimulus) :
    (o.bind (n.kind.binding? stimulus)).said? n = o.said? n := by
  obtain ⟨id, kind, position⟩ := n
  cases kind <;> rfl

/-- No node goes another way for the variable that it sets itself. -/
lemma way_bind_iff : (o.bind (n.kind.binding? stimulus)).Way n stimulus target ↔
    o.Way n stimulus target := by
  have hcondition : ∀ predicate, n.kind = .condition predicate →
      o.bind (n.kind.binding? stimulus) = o := by
    intro predicate hkind
    rw [hkind]
    rfl
  constructor
  · intro h
    cases h with
    | next passes follows => exact .next passes (o.bind_flow _ ▸ follows)
    | branch kind first => exact .branch kind (hcondition _ kind ▸ first)
    | failure kind fails first => exact .failure kind fails (o.bind_flow _ ▸ first)
    | jump kind => exact .jump kind
  · intro h
    cases h with
    | next passes follows => exact .next passes ((o.bind_flow _).symm ▸ follows)
    | branch kind first => exact .branch kind ((hcondition _ kind).symm ▸ first)
    | failure kind fails first => exact .failure kind fails ((o.bind_flow _).symm ▸ first)
    | jump kind => exact .jump kind

end Outlook

/-! ### Steps -/

namespace Step

variable {n : Node} {s : Session} {stimulus : Option Stimulus} {target : String}

lemma follow_goOn_iff {flow : Flow} {id : String} {events : List Event} :
    (follow flow id events).outcome = .goOn target ↔ flow.next? id = some target := by
  simp only [follow]
  cases flow.next? id <;> simp

lemma ofStart_goOn_iff :
    (ofStart n s).outcome = .goOn target ↔ s.flow.next? n.id = some target := by
  simp only [ofStart, fail]
  cases s.flow.next? n.id <;> simp

lemma ofCondition_goOn_iff {predicate : String} (hn : s.flow.node? n.id = some n)
    (hkind : n.kind = .condition predicate) :
    (ofCondition n predicate s).outcome = .goOn target ↔
      ∃ e, (s.flow.edgesFrom n.id).find?
        (·.branch = some (.ofBool (Predicate.holds predicate s.lastInput s.vars))) = some e ∧
          e.target = target := by
  simp only [ofCondition, Flow.branchTarget?_eq_find? hn, hkind, NodeKind.label, fail]
  cases (s.flow.edgesFrom n.id).find? _ <;> simp

lemma requestFailed_goOn_iff {call : ApiCall} {reason : String}
    (hn : s.flow.node? n.id = some n) (hkind : n.kind = .api call) :
    (requestFailed n s reason).outcome = .goOn target ↔
      ∃ e, (s.flow.edgesFrom n.id).find? (·.branch = some .onError) = some e ∧
        e.target = target := by
  simp only [requestFailed, Flow.branchTarget?_eq_find? hn, hkind, NodeKind.label, fail]
  cases (s.flow.edgesFrom n.id).find? _ <;> simp

lemma goOn_of_way (hn : s.flow.node? n.id = some n) (h : s.outlook.Way n stimulus target) :
    (ofNode n s stimulus).outcome = .goOn target := by
  cases h with
  | next passes follows =>
    generalize hkind : n.kind = kind at passes
    cases passes with
    | start =>
      simp only [ofNode, hkind]
      exact ofStart_goOn_iff.mpr follows
    | message | input | delay =>
      simp only [ofNode, hkind]
      exact follow_goOn_iff.mpr follows
    | api answered =>
      simp only [ofNode, hkind, ofApi, answered]
      exact follow_goOn_iff.mpr follows
  | branch kind first =>
    simp only [ofNode, kind]
    exact (ofCondition_goOn_iff hn kind).mpr ⟨_, first, rfl⟩
  | failure kind fails first =>
    cases fails with
    | unusable unanswered =>
      simp only [ofNode, kind, ofApi, unanswered]
      exact (requestFailed_goOn_iff hn kind).mpr ⟨_, first, rfl⟩
    | failed =>
      simp only [ofNode, kind, ofApi]
      exact (requestFailed_goOn_iff hn kind).mpr ⟨_, first, rfl⟩
  | jump kind => simp only [ofNode, kind]

lemma way_of_goOn (hn : s.flow.node? n.id = some n)
    (h : (ofNode n s stimulus).outcome = .goOn target) : s.outlook.Way n stimulus target := by
  have hnext : n.kind.Passes stimulus → s.flow.next? n.id = some target →
      s.outlook.Way n stimulus target := fun passes follows => .next passes follows
  cases hkind : n.kind with
  | start =>
    simp only [ofNode, hkind] at h
    exact hnext (hkind ▸ .start) (ofStart_goOn_iff.mp h)
  | message message =>
    simp only [ofNode, hkind] at h
    exact hnext (hkind ▸ .message) (follow_goOn_iff.mp h)
  | input saveAs =>
    simp only [ofNode, hkind, ofInput] at h
    split at h
    · cases h
    · exact hnext (hkind ▸ .input) (follow_goOn_iff.mp h)
    · cases h
  | condition predicate =>
    simp only [ofNode, hkind] at h
    obtain ⟨e, first, rfl⟩ := (ofCondition_goOn_iff hn hkind).mp h
    exact .branch hkind first
  | delay seconds =>
    simp only [ofNode, hkind, ofDelay] at h
    split at h
    · cases h
    · exact hnext (hkind ▸ .delay) (follow_goOn_iff.mp h)
    · cases h
  | api call =>
    simp only [ofNode, hkind, ofApi] at h
    split at h
    · cases h
    · next response =>
      cases hanswer : responseValue call response with
      | ok value =>
        rw [hanswer] at h
        exact hnext (hkind ▸ .api hanswer) (follow_goOn_iff.mp h)
      | error reason =>
        rw [hanswer] at h
        obtain ⟨e, first, rfl⟩ := (requestFailed_goOn_iff hn hkind).mp h
        exact .failure hkind (.unusable hanswer) first
    · obtain ⟨e, first, rfl⟩ := (requestFailed_goOn_iff hn hkind).mp h
      exact .failure hkind .failed first
    · cases h
  | jump destination =>
    simp only [ofNode, hkind] at h
    cases h
    exact .jump hkind
  | finish =>
    simp only [ofNode, hkind] at h
    cases h

/-- Steps go on along the ways of their node. -/
theorem goOn_iff_way (hn : s.flow.node? n.id = some n) :
    (ofNode n s stimulus).outcome = .goOn target ↔ s.outlook.Way n stimulus target :=
  ⟨way_of_goOn hn, goOn_of_way hn⟩

/-! ### Variables and messages -/

lemma follow_events (flow : Flow) (id : String) (events : List Event) :
    (follow flow id events).events = events := by
  simp only [follow]
  split <;> rfl

/-- A step sets the variable of its node. -/
lemma binding_ofNode (n : Node) (s : Session) (stimulus : Option Stimulus) :
    (ofNode n s stimulus).binding = n.kind.binding? stimulus := by
  have hfailed : ∀ reason, (requestFailed n s reason).binding = none := by
    intro reason
    simp only [requestFailed]
    split <;> rfl
  simp only [ofNode]
  cases n.kind with
  | start =>
    simp only [ofStart]
    split <;> rfl
  | message message => exact follow_binding _ _ _
  | input saveAs => rcases stimulus with _ | text | result <;> rfl
  | condition predicate =>
    simp only [ofCondition]
    split <;> rfl
  | delay seconds =>
    rcases stimulus with _ | text | (_ | response | reason)
    case some.external.delayElapsed => exact follow_binding _ _ _
    all_goals rfl
  | api call =>
    rcases stimulus with _ | text | (_ | response | reason)
    case some.external.httpSucceeded =>
      simp only [ofApi, NodeKind.binding?]
      cases responseValue call response with
      | ok value => rfl
      | error reason => exact hfailed reason
    case some.external.httpFailed => exact hfailed _
    all_goals rfl
  | jump destination => rfl
  | finish => rfl

/-- A step sends the message of its node, if it has one, and no other. -/
lemma filterMap_message?_ofNode (n : Node) (s : Session) (stimulus : Option Stimulus) :
    (ofNode n s stimulus).events.filterMap Event.message? = (s.outlook.said? n).toList := by
  have hfailed : ∀ reason,
      (requestFailed n s reason).events.filterMap Event.message? = [] := by
    intro reason
    simp only [requestFailed]
    split <;> rfl
  have hfollow : (follow s.flow n.id).events.filterMap Event.message? = [] := by
    rw [follow_events]
    rfl
  simp only [ofNode, Outlook.said?]
  cases n.kind with
  | start =>
    simp only [ofStart]
    split <;> rfl
  | message message =>
    simp only [ofMessage, follow_events]
    rfl
  | input saveAs =>
    simp only [ofInput]
    split
    · rfl
    · exact hfollow
    · rfl
  | condition predicate =>
    simp only [ofCondition]
    split <;> rfl
  | delay seconds =>
    simp only [ofDelay]
    split
    · rfl
    · exact hfollow
    · rfl
  | api call =>
    simp only [ofApi]
    split
    · rfl
    · split
      · exact hfollow
      · exact hfailed _
    · exact hfailed _
    · rfl
  | jump destination => rfl
  | finish => rfl

end Step

end Dialogue
