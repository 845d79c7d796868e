import Dialogue.Proofs.Session.Edits
import Dialogue.Proofs.Step.Shape
import Dialogue.Walk

/-!
# What a walk has reached

The journal of a walk, its session and its events go together: made one after the other on the
session with which the walk began, the edits lead to the session that it has reached, and none was
refused. `Walk.Reached` says so, and every change on the way has one lemma that says what is reached
after it.
-/

namespace Dialogue

/-! ### What steps make of sessions -/

namespace Session

/-- The session with the lines of events in its transcript. -/
def hear (s : Session) (events : List Event) : Session :=
  { s with transcript := s.transcript ++ (events.filterMap Event.line?).toArray }

lemma hear_nil (s : Session) : s.hear [] = s := by
  simp [hear]

lemma hear_hear (s : Session) (events events' : List Event) :
    (s.hear events).hear events' = s.hear (events ++ events') := by
  simp [hear]

/-- An event with a line is recorded, and its speaker is not the user. -/
lemma edit_record_of_line? {s : Session} {event : Event} {line : Line}
    (h : event.line? = some line) :
    s.edit (.record line.speaker line.text) = .ok (s.hear [event]) := by
  have hspeaker : line.speaker ≠ .user := by
    cases event <;> cases h <;> simp
  simp [Session.edit, say, hear, h, hspeaker]

lemma hear_of_line?_eq_none {s : Session} {event : Event} (h : event.line? = none) :
    s.hear [event] = s := by
  simp [hear, h]

/-- The session with the variable of a step. -/
def assign (s : Session) : Option Binding → Session
  | some b => { s with vars := s.vars.insert b.name b.value }
  | none => s

/-- The session at its end. -/
def close (s : Session) : Session := { s with status := .ended, pending := none }

/-- What a step makes of a session. -/
def perform (s : Session) (step : Step) : Session :=
  let heard := (s.assign step.binding).hear step.events
  match step.outcome with
  | .goOn target => { heard with node := some target }
  | .awaitInput => { heard with status := .awaitingInput }
  | .awaitExternal request =>
    { heard with pending := some request, status := .awaitingExternal }
  | .stop => heard.close

/-- The node that a session has reached. -/
def place? (s : Session) : Option Node := s.node.bind s.flow.node?

lemma perform_flow (s : Session) (step : Step) : (s.perform step).flow = s.flow := by
  obtain ⟨outcome, _, binding⟩ := step
  cases outcome <;> cases binding <;> rfl

lemma perform_node {s : Session} {step : Step} {target : String}
    (hgo : step.outcome = .goOn target) : (s.perform step).node = some target := by
  simp only [perform, hgo]

lemma perform_node_of_stay {s : Session} {step : Step}
    (hstay : ∀ target, step.outcome ≠ .goOn target) : (s.perform step).node = s.node := by
  obtain ⟨outcome, _, binding⟩ := step
  cases outcome with
  | goOn target => exact absurd rfl (hstay target)
  | _ => cases binding <;> rfl

/-- A step changes the outlook of a session by the variable that it sets. -/
lemma perform_outlook (s : Session) (step : Step) :
    (s.perform step).outlook = s.outlook.bind step.binding := by
  obtain ⟨outcome, _, binding⟩ := step
  cases outcome <;> cases binding <;> rfl

lemma shape_of_place? {s : Session} {n : Node} (h : s.place? = some n)
    (stimulus : Option Stimulus) : Step.Shape n s stimulus (Step.ofNode n s stimulus) := by
  obtain ⟨id, _, hid⟩ := Option.bind_eq_some_iff.mp h
  exact Step.shape_ofNode (Flow.mem_of_node? hid)

end Session

/-- Events that close with the end of the conversation. -/
def closing (events : List Event) : List Event :=
  if events.getLast? = some .endOfConversation then events else events ++ [.endOfConversation]

/-- The events of a walk after a step. -/
def Step.sent (step : Step) (events : List Event) : List Event :=
  match step.outcome with
  | .stop => closing (events ++ step.events)
  | _ => events ++ step.events

/-- What does not count the end of the conversation counts the same events in a closed turn. -/
lemma filterMap_closing {α : Type} {f : Event → Option α} (hf : f .endOfConversation = none)
    (events : List Event) : (closing events).filterMap f = events.filterMap f := by
  simp only [closing]
  split
  · rfl
  · simp [hf]

lemma Step.filterMap_sent {α : Type} {f : Event → Option α} (hf : f .endOfConversation = none)
    (step : Step) (events : List Event) :
    (step.sent events).filterMap f = events.filterMap f ++ step.events.filterMap f := by
  simp only [Step.sent]
  split
  · rw [filterMap_closing hf, List.filterMap_append]
  · rw [List.filterMap_append]

lemma mem_closing_iff {event : Event} {events : List Event} (h : event ≠ .endOfConversation) :
    event ∈ closing events ↔ event ∈ events := by
  simp only [closing]
  split
  · rfl
  · simp [h]

/-- What has been sent after a step was sent before, or by the step. -/
lemma Step.mem_sent_iff {step : Step} {event : Event} {events : List Event}
    (h : event ≠ .endOfConversation) :
    event ∈ step.sent events ↔ event ∈ events ∨ event ∈ step.events := by
  simp only [sent]
  split
  · rw [mem_closing_iff h, List.mem_append]
  · rw [List.mem_append]

/-! ### What walks reach -/

namespace Walk

/-- The walk, whether it is over or not. -/
def Progress.walk : Progress → Walk
  | moving w => w
  | settled w => w

/-- The walk began with a session `origin` and has reached `s`, with these events on the way. -/
structure Reached (origin s : Session) (events : List Event) (w : Walk) : Prop where
  accepted : w.refusal = none
  session : w.session = s
  events : w.events.toList = events
  edits : origin.editAll w.edits.toList = .ok s

namespace Reached

variable {origin s s' : Session} {events : List Event} {w : Walk}

lemma begin : Reached s s [] { session := s } where
  accepted := rfl
  session := rfl
  events := rfl
  edits := rfl

lemma here (h : Reached origin s events w) : Reached origin w.session events w := by
  rw [h.session]
  exact h

/-- The session that is reached has the name and the flow of the one at the beginning. -/
lemma keeps (h : Reached origin s events w) : s.id = origin.id ∧ s.flow = origin.flow :=
  Session.editAll_keeps h.edits

lemma edit (h : Reached origin s events w) {e : Edit} (he : s.edit e = .ok s') :
    Reached origin s' events (w.edit e) := by
  have heq : w.edit e = { w with session := s', edits := w.edits.push e } := by
    simp only [Walk.edit]
    rw [h.accepted, h.session, he]
    rfl
  rw [heq]
  refine ⟨h.accepted, rfl, h.events, ?_⟩
  rw [Array.toList_push]
  exact Session.editAll_append_singleton h.edits he

lemma setStatus (h : Reached origin s events w) (status : Status) :
    Reached origin { s with status } events (w.edit (.setStatus status)) :=
  h.edit rfl

lemma setPending (h : Reached origin s events w) (pending : Option ExternalRequest) :
    Reached origin { s with pending } events (w.edit (.setPending pending)) :=
  h.edit rfl

lemma advanceTo (h : Reached origin s events w) {node : String}
    (found : (s.flow.node? node).isSome) :
    Reached origin { s with node := some node } events (w.edit (.advanceTo node)) :=
  h.edit (if_pos found)

lemma record (h : Reached origin s events w) (speaker : Speaker) (text : String) :
    Reached origin (s.say speaker text) events (w.edit (.record speaker text)) :=
  h.edit rfl

lemma send (h : Reached origin s events w) (event : Event) :
    Reached origin (s.hear [event]) (events ++ [event]) (w.send event) := by
  have hpush : ∀ {v : Walk}, Reached origin (s.hear [event]) events v →
      Reached origin (s.hear [event]) (events ++ [event])
        { v with events := v.events.push event } := by
    intro v hv
    refine ⟨hv.accepted, hv.session, ?_, hv.edits⟩
    rw [Array.toList_push, hv.events]
  simp only [Walk.send]
  cases hline : event.line? with
  | some line => exact hpush (h.edit (Session.edit_record_of_line? hline))
  | none =>
    rw [Session.hear_of_line?_eq_none hline] at hpush ⊢
    exact hpush h

lemma sendAll (h : Reached origin s events w) (sent : List Event) :
    Reached origin (s.hear sent) (events ++ sent) (sent.foldl Walk.send w) := by
  induction sent generalizing s events w with
  | nil =>
    rw [Session.hear_nil, List.append_nil]
    exact h
  | cons event sent ih =>
    have hsent := ih (h.send event)
    rw [Session.hear_hear, List.append_assoc] at hsent
    exact hsent

lemma assign (h : Reached origin s events w) (binding : Option Binding) :
    Reached origin (s.assign binding) events (w.assign binding) := by
  cases binding with
  | none => exact h
  | some b => exact h.edit (show s.edit (.setVariable b.name b.value) = .ok _ from rfl)

lemma finish (h : Reached origin s events w) :
    Reached origin s.close (closing events) w.finish := by
  simp only [Walk.finish, closing]
  rw [← Array.getLast?_toList, h.events]
  by_cases hlast : events.getLast? = some .endOfConversation
  · rw [if_pos hlast, if_pos hlast]
    exact (h.setStatus .ended).setPending none
  · rw [if_neg hlast, if_neg hlast]
    have hsent := h.send .endOfConversation
    rw [Session.hear_of_line?_eq_none rfl] at hsent
    exact (hsent.setStatus .ended).setPending none

lemma fail (h : Reached origin s events w) (kind : FlowErrorKind) (reason : String) :
    Reached origin (s.hear [.flowError kind reason]).close
      (events ++ [.flowError kind reason, .endOfConversation]) (w.fail kind reason) := by
  have hfinish := (h.send (.flowError kind reason)).finish
  have hclosing : closing (events ++ [.flowError kind reason]) =
      events ++ [.flowError kind reason, .endOfConversation] := by
    simp [closing]
  rw [hclosing] at hfinish
  exact hfinish

/-- What is reached by a step that does not leave the flow. -/
lemma perform (h : Reached origin s events w) (step : Step)
    (found : ∀ target, step.outcome = .goOn target → (s.flow.node? target).isSome) :
    Reached origin (s.perform step) (step.sent events) (w.perform step).walk := by
  have hsent := (h.assign step.binding).sendAll step.events
  simp only [Walk.perform, Session.perform, Step.sent]
  have hflow : (s.assign step.binding).flow = s.flow := by
    cases step.binding <;> rfl
  cases houtcome : step.outcome with
  | goOn target =>
    have hfound := found target houtcome
    rw [← hflow] at hfound
    exact hsent.advanceTo hfound
  | awaitInput => exact hsent.setStatus .awaitingInput
  | awaitExternal request =>
    exact (hsent.setPending (some request)).setStatus .awaitingExternal
  | stop => exact hsent.finish

end Reached

end Walk

end Dialogue
