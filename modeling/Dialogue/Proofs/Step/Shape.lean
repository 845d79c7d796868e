import Dialogue.Proofs.Flow.Alike
import Dialogue.Step

/-!
# The shapes of steps

What a node can do at all. It goes on to a node of its flow, waits for what its kind waits for, or
stops with at most one event. Only a node that is woken sets a variable, and no node ever tells of
an endless loop. What a node does hangs on the outlook of the session alone: on its flow, its
variables and the latest input.
-/

namespace Dialogue

/-! ### Outlook -/

/-- What a node sees of a session. -/
structure Outlook where
  flow : Flow
  vars : Table String
  lastInput : Option String

/-- What a node sees of this session. -/
def Session.outlook (s : Session) : Outlook := ⟨s.flow, s.vars, s.lastInput⟩

namespace Outlook

/-- Some session looks so. -/
lemma exists_outlook_eq (o : Outlook) : ∃ s : Session, s.outlook = o :=
  ⟨{ id := "", flow := o.flow, vars := o.vars, lastInput := o.lastInput }, rfl⟩

/-- The outlook when a variable has been set. -/
def bind (o : Outlook) : Option Binding → Outlook
  | some b => { o with vars := o.vars.insert b.name b.value }
  | none => o

/-- The outlooks are the same, but for flows that are alike. -/
structure Alike (o o' : Outlook) : Prop where
  flow : o.flow.Alike o'.flow
  vars : o.vars = o'.vars
  lastInput : o.lastInput = o'.lastInput

lemma Alike.refl (o : Outlook) : o.Alike o := ⟨.refl _, rfl, rfl⟩

@[simp] lemma bind_none (o : Outlook) : o.bind none = o := rfl

@[simp] lemma bind_flow (o : Outlook) (binding : Option Binding) :
    (o.bind binding).flow = o.flow := by
  cases binding <;> rfl

end Outlook

namespace Step

variable {n m : Node} {s s' : Session} {stimulus : Option Stimulus}

lemma follow_alike {f g : Flow} (h : f.Alike g) (id : String) (events : List Event) :
    follow f id events = follow g id events := by
  simp only [follow, h.next?]

/-- A node does the same, wherever it is drawn, in all sessions that look alike to it. -/
lemma ofNode_alike (h : s.outlook.Alike s'.outlook) (hid : n.id = m.id) (hkind : n.kind = m.kind)
    (stimulus : Option Stimulus) : ofNode n s stimulus = ofNode m s' stimulus := by
  obtain ⟨id, kind, position⟩ := n
  obtain ⟨id', kind', position'⟩ := m
  obtain rfl : id = id' := hid
  obtain rfl : kind = kind' := hkind
  obtain ⟨hflow, hvars, hinput⟩ := h
  simp only [Session.outlook] at hflow hvars hinput
  have hfollow := fun events => follow_alike hflow id events
  cases kind with
  | start => simp only [ofNode, ofStart, hflow.next?]
  | message message => simp only [ofNode, ofMessage, filledMessage, hvars, hfollow]
  | input saveAs => cases stimulus with
    | none => rfl
    | some stimulus => cases stimulus <;> simp only [ofNode, ofInput, hfollow, unexpected]
  | condition predicate => simp only [ofNode, ofCondition, hflow.branchTarget?, hinput, hvars]
  | delay seconds => simp only [ofNode, ofDelay, hfollow, unexpected]
  | api call =>
    simp only [ofNode, ofApi, filledRequest, requestFailed, hflow.branchTarget?, hvars, hfollow,
      unexpected]
  | jump target => rfl
  | finish => rfl

lemma ofNode_congr (h : s.outlook = s'.outlook) : ofNode n s stimulus = ofNode n s' stimulus :=
  ofNode_alike (h ▸ .refl _) rfl rfl stimulus

/-! ### Shapes -/

/-- The shapes of the steps that a node can take in a session. -/
inductive Shape (n : Node) (s : Session) (stimulus : Option Stimulus) : Step → Prop where
  /-- Goes on without a word. -/
  | goOn {target : String} {binding : Option Binding} (found : (s.flow.node? target).isSome)
      (asleep : stimulus = none → binding = none) : Shape n s stimulus ⟨.goOn target, [], binding⟩
  /-- Sends its message and goes on. -/
  | tell {message : Message} {target : String} (kind : n.kind = .message message)
      (found : (s.flow.node? target).isSome) :
      Shape n s stimulus ⟨.goOn target, [.botMessage n.id (filledMessage message s)], none⟩
  /-- Sends its message, and there is no way on. -/
  | tellLast {message : Message} (kind : n.kind = .message message) :
      Shape n s stimulus ⟨.stop, [.botMessage n.id (filledMessage message s)], none⟩
  | awaitInput {saveAs : Option String} (kind : n.kind = .input saveAs) :
      Shape n s stimulus ⟨.awaitInput, [], none⟩
  | awaitDelay {seconds : Float} (kind : n.kind = .delay seconds) :
      Shape n s stimulus ⟨.awaitExternal (.delay seconds), [.typingDelay seconds], none⟩
  | awaitAnswer {call : ApiCall} (kind : n.kind = .api call) :
      Shape n s stimulus ⟨.awaitExternal (.http (filledRequest call s)), [], none⟩
  /-- Stops without a word, since there is no way on. -/
  | deadEnd {binding : Option Binding} : Shape n s stimulus ⟨.stop, [], binding⟩
  | failed {kind : FlowErrorKind} {reason : String} (kind_ne : kind ≠ .infiniteLoop) :
      Shape n s stimulus ⟨.stop, [.flowError kind reason], none⟩
  | finished (kind : n.kind = .finish) : Shape n s stimulus ⟨.stop, [.endOfConversation], none⟩

lemma Shape.unexpected (stimulus' : Stimulus) :
    Shape n s stimulus (Step.unexpected n stimulus') :=
  .failed (by decide)

lemma follow_binding (flow : Flow) (id : String) (events : List Event) :
    (Step.follow flow id events).binding = none := by
  simp only [Step.follow]
  split <;> rfl

/-- Following the way on, a woken node may have set a variable. -/
lemma Shape.follow {binding : Option Binding} (asleep : stimulus = none → binding = none) :
    Shape n s stimulus { Step.follow s.flow n.id with binding } := by
  simp only [Step.follow]
  cases h : s.flow.next? n.id with
  | none => exact .deadEnd
  | some target => exact .goOn (Flow.isSome_node?_of_next? h) asleep

lemma Shape.ofStart : Shape n s stimulus (Step.ofStart n s) := by
  simp only [Step.ofStart]
  cases h : s.flow.next? n.id with
  | none => exact .failed (by decide)
  | some target => exact .goOn (Flow.isSome_node?_of_next? h) fun _ => rfl

lemma Shape.ofMessage {message : Message} (kind : n.kind = .message message) :
    Shape n s stimulus (Step.ofMessage n message s) := by
  simp only [Step.ofMessage, Step.follow]
  cases h : s.flow.next? n.id with
  | none => exact .tellLast kind
  | some target => exact .tell kind (Flow.isSome_node?_of_next? h)

lemma Shape.ofCondition (predicate : String) :
    Shape n s stimulus (Step.ofCondition n predicate s) := by
  unfold Step.ofCondition
  dsimp only
  cases h : s.flow.branchTarget? n.id _ with
  | none => exact .failed (by decide)
  | some target => exact .goOn (Flow.isSome_node?_of_branchTarget? h) fun _ => rfl

lemma Shape.ofInput {saveAs : Option String} (kind : n.kind = .input saveAs) :
    Shape n s stimulus (Step.ofInput n saveAs s stimulus) := by
  simp only [Step.ofInput]
  split
  · exact .awaitInput kind
  · exact .follow (by simp)
  · exact .unexpected _

lemma Shape.ofDelay {seconds : Float} (kind : n.kind = .delay seconds) :
    Shape n s stimulus (Step.ofDelay n seconds s stimulus) := by
  simp only [Step.ofDelay]
  split
  · exact .awaitDelay kind
  · rw [show Step.follow s.flow n.id = { Step.follow s.flow n.id with binding := none } by
      rw [← follow_binding]]
    exact .follow fun _ => rfl
  · exact .unexpected _

lemma Shape.requestFailed (reason : String) :
    Shape n s stimulus (Step.requestFailed n s reason) := by
  simp only [Step.requestFailed]
  cases h : s.flow.branchTarget? n.id .onError with
  | none => exact .failed (by decide)
  | some target => exact .goOn (Flow.isSome_node?_of_branchTarget? h) fun _ => rfl

lemma Shape.ofApi {call : ApiCall} (kind : n.kind = .api call) :
    Shape n s stimulus (Step.ofApi n call s stimulus) := by
  simp only [Step.ofApi]
  split
  · exact .awaitAnswer kind
  · split
    · exact .follow (by simp)
    · exact .requestFailed _
  · exact .requestFailed _
  · exact .unexpected _

/-- A node of a flow takes a step of one of the shapes. -/
lemma shape_ofNode (hn : n ∈ s.flow.nodes) : Shape n s stimulus (ofNode n s stimulus) := by
  simp only [ofNode]
  split
  case h_1 => exact .ofStart
  case h_2 kind => exact .ofMessage kind
  case h_3 kind => exact .ofInput kind
  case h_4 => exact .ofCondition _
  case h_5 kind => exact .ofDelay kind
  case h_6 kind => exact .ofApi kind
  case h_7 kind => exact .goOn (Flow.isSome_node?_of_jump hn kind) fun _ => rfl
  case h_8 kind => exact .finished kind

/-- A step leads to a node of the flow, if it goes on at all. -/
lemma Shape.found {step : Step} (h : Shape n s stimulus step) {target : String}
    (hgo : step.outcome = .goOn target) : (s.flow.node? target).isSome := by
  cases h with
  | goOn found => exact Outcome.goOn.inj hgo ▸ found
  | tell kind found => exact Outcome.goOn.inj hgo ▸ found
  | _ => cases hgo

/-- A node that is not woken sets no variable on its way on. -/
lemma Shape.binding_eq_none {step : Step} (h : Shape n s none step) {target : String}
    (hgo : step.outcome = .goOn target) : step.binding = none := by
  cases h with
  | goOn found asleep => exact asleep rfl
  | tell => rfl
  | _ => cases hgo

end Step

end Dialogue
