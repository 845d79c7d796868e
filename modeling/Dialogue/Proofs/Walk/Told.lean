import Dialogue.Proofs.Walk.After

/-!
# Transcripts of walks

Events are sent in one place and lines recorded in another, yet a walk tells exactly what it sends:
behind the lines with which it began, the transcript has one line for each event that has one, in
the order of the events.
-/

namespace Dialogue

/-! ### Lines and events -/

namespace Session

lemma transcript_hear (s : Session) (events : List Event) :
    (s.hear events).transcript.toList = s.transcript.toList ++ events.filterMap Event.line? := by
  simp [hear]

lemma transcript_assign (s : Session) (binding : Option Binding) :
    (s.assign binding).transcript = s.transcript := by
  cases binding <;> rfl

lemma transcript_perform (s : Session) (step : Step) :
    (s.perform step).transcript.toList =
      s.transcript.toList ++ step.events.filterMap Event.line? := by
  have hheard := transcript_hear (s.assign step.binding) step.events
  rw [transcript_assign] at hheard
  simp only [perform]
  cases step.outcome <;> exact hheard

end Session

/-! ### Walks -/

namespace Walk

variable {origin s : Session} {w : Walk} {base : List Line}

/-- Behind the lines `base`, the transcript tells the events of the walk. -/
def Told (base : List Line) (origin : Session) (w : Walk) : Prop :=
  ∃ s events, Reached origin s events w ∧
    s.transcript.toList = base ++ events.filterMap Event.line?

lemma Told.transcript (h : Told base origin w) :
    w.session.transcript.toList = base ++ w.events.toList.filterMap Event.line? := by
  obtain ⟨s, events, hreached, htold⟩ := h
  rw [hreached.session, hreached.events]
  exact htold

/-- A failure is recorded as it is sent. -/
lemma told_failed {events : List Event} {kind : FlowErrorKind} {reason : String}
    (htold : s.transcript.toList = base ++ events.filterMap Event.line?)
    (h : Reached origin (s.hear [.flowError kind reason]).close
      (events ++ [.flowError kind reason, .endOfConversation]) w) : Told base origin w := by
  refine ⟨_, _, h, ?_⟩
  have hheard := s.transcript_hear [.flowError kind reason]
  rw [htold] at hheard
  rw [List.filterMap_append, ← List.append_assoc]
  exact hheard

lemma Told.step (h : Told base origin w) (stimulus : Option Stimulus) :
    (w.step stimulus).Meets (Told base origin) (Told base origin) := by
  obtain ⟨s, events, hreached, htold⟩ := h
  have hperformed : ∀ (step : Step) (v : Walk),
      Reached origin (s.perform step) (step.sent events) v → Told base origin v := by
    intro step v hv
    refine ⟨_, _, hv, ?_⟩
    rw [Session.transcript_perform, Step.filterMap_sent rfl, htold, List.append_assoc]
  apply hreached.step_meets
  · intro n target v _ _ hv
    exact hperformed _ v hv
  · intro n v _ _ hv
    exact hperformed _ v hv
  · intro reason v _ hv
    exact told_failed htold hv

/-- A run adds the lines of its events to the transcript, and no others. -/
theorem Reached.transcript_run (h : Reached origin s [] w) (ceiling : Nat)
    (stimulus : Option Stimulus) :
    (w.run ceiling stimulus).session.transcript.toList =
      s.transcript.toList ++ (w.run ceiling stimulus).events.toList.filterMap Event.line? := by
  have hopened : Told s.transcript.toList origin w.opened :=
    ⟨_, _, h.opened, (List.append_nil _).symm⟩
  have htold : Told s.transcript.toList origin (w.run ceiling stimulus) := by
    apply h.run_meets (I := fun _ => Told s.transcript.toList origin)
      (R := fun _ => Told s.transcript.toList origin) ceiling stimulus
      (fun _ _ stimulus hv => hv.step stimulus) hopened
    · rintro v ⟨s', events, hreached, htold⟩
      exact told_failed htold (hreached.fail .infiniteLoop _)
    · intro m v _ hv
      exact hv
  exact htold.transcript

end Walk

end Dialogue
