import Dialogue.Proofs.Walk.After

/-!
# How walks end

On its way a walk has sent messages only, at most one for each step, and its session runs and waits
for nothing. When it is over, what it waits for fits its status, and behind the messages stand the
few events with which that status closes a turn.
-/

namespace Dialogue

/-! ### Messages and endings -/

/-- The events that send messages, each under the name of its node. -/
def Event.ofMessages (messages : List (String × Message)) : List Event :=
  messages.map fun m => .botMessage m.1 m.2

/-- The events that close a turn, by how it leaves the session. -/
inductive Turn.Ending : Status → Option ExternalRequest → List Event → Prop where
  | awaitingInput : Ending .awaitingInput none []
  | delay (seconds : Float) :
      Ending .awaitingExternal (some (.delay seconds)) [.typingDelay seconds]
  | request (request : ApiRequest) : Ending .awaitingExternal (some (.http request)) []
  | ended : Ending .ended none [.endOfConversation]
  | failed (kind : FlowErrorKind) (reason : String) :
      Ending .ended none [.flowError kind reason, .endOfConversation]

lemma Turn.Ending.status_ne_running {status : Status} {pending : Option ExternalRequest}
    {tail : List Event} (h : Ending status pending tail) : status ≠ .running := by
  cases h <;> simp

lemma Turn.Ending.pending_eq_none {pending : Option ExternalRequest} {tail : List Event}
    (h : Ending .ended pending tail) : pending = none := by
  cases h <;> rfl

namespace Event

lemma ofMessages_append_singleton (messages : List (String × Message)) (node : String)
    (message : Message) :
    ofMessages messages ++ [.botMessage node message] = ofMessages (messages ++ [(node, message)]) := by
  simp [ofMessages]

lemma mem_ofMessages {messages : List (String × Message)} {event : Event} :
    event ∈ ofMessages messages ↔ ∃ m ∈ messages, .botMessage m.1 m.2 = event :=
  List.mem_map

lemma closing_ofMessages (messages : List (String × Message)) :
    closing (ofMessages messages) = ofMessages messages ++ [.endOfConversation] := by
  apply if_neg
  intro hlast
  obtain ⟨m, _, hm⟩ := mem_ofMessages.mp (List.mem_of_getLast? hlast)
  cases hm

lemma closing_append_singleton {event : Event} (events : List Event)
    (h : event ≠ .endOfConversation) :
    closing (events ++ [event]) = events ++ [event, .endOfConversation] := by
  simp [closing, h]

lemma closing_append_endOfConversation (events : List Event) :
    closing (events ++ [.endOfConversation]) = events ++ [.endOfConversation] := by
  simp [closing]

end Event

/-! ### The events of steps -/

namespace Step.Shape

variable {n : Node} {s : Session} {stimulus : Option Stimulus} {step : Step}

/-- A step that goes on sends a message or nothing, and leaves the session running. -/
lemma goes_on (h : Shape n s stimulus step) {target : String} (hgo : step.outcome = .goOn target)
    (messages : List (String × Message)) :
    (s.perform step).status = s.status ∧ (s.perform step).pending = s.pending ∧
      ∃ messages' : List (String × Message), messages'.length ≤ messages.length + 1 ∧
        step.sent (Event.ofMessages messages) = Event.ofMessages messages' := by
  cases h with
  | @goOn target binding found asleep =>
    refine ⟨by cases binding <;> rfl, by cases binding <;> rfl, messages, by omega, ?_⟩
    exact List.append_nil _
  | @tell message target kind found =>
    refine ⟨rfl, rfl, messages ++ [(n.id, filledMessage message s)], by simp, ?_⟩
    exact Event.ofMessages_append_singleton _ _ _
  | _ => cases hgo

/-- A step that does not go on closes the turn, with a last message before or not. -/
lemma stays (h : Shape n s stimulus step) (hstay : ∀ target, step.outcome ≠ .goOn target)
    (hpending : s.pending = none) (messages : List (String × Message)) :
    ∃ (messages' : List (String × Message)) (tail : List Event),
      messages'.length ≤ messages.length + 1 ∧
        Turn.Ending (s.perform step).status (s.perform step).pending tail ∧
          step.sent (Event.ofMessages messages) = Event.ofMessages messages' ++ tail := by
  cases h with
  | goOn | tell => exact absurd rfl (hstay _)
  | @tellLast message kind =>
    refine ⟨messages ++ [(n.id, filledMessage message s)], _, by simp, .ended, ?_⟩
    rw [← Event.ofMessages_append_singleton]
    simp only [sent, List.append_assoc]
    exact Event.closing_append_singleton _ (by simp)
  | awaitInput kind =>
    refine ⟨messages, [], by omega, ?_, rfl⟩
    have hpending' : (s.perform ⟨.awaitInput, [], none⟩).pending = none := hpending
    rw [hpending']
    exact .awaitingInput
  | awaitDelay kind => exact ⟨messages, _, by omega, .delay _, rfl⟩
  | awaitAnswer kind => exact ⟨messages, _, by omega, .request _, rfl⟩
  | deadEnd =>
    refine ⟨messages, _, by omega, .ended, ?_⟩
    simp only [sent, List.append_nil]
    exact Event.closing_ofMessages messages
  | @failed kind reason kind_ne =>
    refine ⟨messages, _, by omega, .failed kind reason, ?_⟩
    exact Event.closing_append_singleton _ (by simp)
  | finished kind =>
    refine ⟨messages, _, by omega, .ended, ?_⟩
    exact Event.closing_append_endOfConversation _

end Step.Shape

/-! ### Walks on their way and walks that are over -/

namespace Walk

/-- The walk is on its way and has sent messages only, not more than `k`. -/
structure Underway (origin : Session) (k : Nat) (w : Walk) : Prop where
  running : w.session.status = .running
  pending : w.session.pending = none
  reached : ∃ messages : List (String × Message), messages.length ≤ k ∧
    Reached origin w.session (Event.ofMessages messages) w

/-- The walk is over. It has sent messages, not more than `k`, and events that close a turn. -/
def Over (origin : Session) (k : Nat) (w : Walk) : Prop :=
  ∃ (messages : List (String × Message)) (tail : List Event), messages.length ≤ k ∧
    Turn.Ending w.session.status w.session.pending tail ∧
      Reached origin w.session (Event.ofMessages messages ++ tail) w

variable {origin s : Session} {w : Walk} {k m : Nat}

lemma Over.mono (h : Over origin m w) (hle : m ≤ k) : Over origin k w := by
  obtain ⟨messages, tail, hlength, hending, hreached⟩ := h
  exact ⟨messages, tail, by omega, hending, hreached⟩

/-- What a step makes of a walk on its way. -/
lemma Underway.step (h : Underway origin k w) (stimulus : Option Stimulus) :
    (w.step stimulus).Meets (Underway origin (k + 1)) (Over origin (k + 1)) := by
  obtain ⟨hrunning, hpending, messages, hlength, hreached⟩ := h
  apply hreached.step_meets
  · intro n target v hplace hgo hv
    obtain ⟨hstatus, hpending', messages', hlength', hsent⟩ :=
      (Session.shape_of_place? hplace stimulus).goes_on hgo messages
    rw [hsent] at hv
    rw [← hv.session] at hstatus hpending'
    exact ⟨hstatus.trans hrunning, hpending'.trans hpending, messages', by omega, hv.here⟩
  · intro n v hplace hstay hv
    obtain ⟨messages', tail, hlength', hending, hsent⟩ :=
      (Session.shape_of_place? hplace stimulus).stays hstay hpending messages
    rw [hsent] at hv
    rw [← hv.session] at hending
    exact ⟨messages', tail, by omega, hending, hv.here⟩
  · intro reason v _ hv
    refine ⟨messages, _, by omega, ?_, hv.here⟩
    rw [hv.session]
    exact .failed .missingEdge reason

/-- A walk on its way may fail at any time. -/
lemma Underway.fail (h : Underway origin k w) (kind : FlowErrorKind) (reason : String) :
    Over origin k (w.fail kind reason) := by
  obtain ⟨_, _, messages, hlength, hreached⟩ := h
  have hfail := hreached.fail kind reason
  refine ⟨messages, _, hlength, ?_, hfail.here⟩
  rw [hfail.session]
  exact .failed kind reason

/-- A walk with nothing sent is on its way once it has been opened. -/
lemma Reached.underway (h : Reached origin s [] w) : Underway origin 0 w.opened := by
  have hopened := h.opened
  refine ⟨?_, ?_, [], by simp, hopened.here⟩
  · rw [hopened.session]
  · rw [hopened.session]

/-- A run that begins with nothing sent ends the walk. -/
theorem Reached.over_run (h : Reached origin s [] w) (ceiling : Nat)
    (stimulus : Option Stimulus) : Over origin ceiling (w.run ceiling stimulus) := by
  apply h.run_meets ceiling stimulus (fun _ _ stimulus hv => hv.step stimulus) h.underway
  · intro v hv
    exact hv.fail .infiniteLoop _
  · intro m v hle hv
    exact hv.mono hle

end Walk

end Dialogue
