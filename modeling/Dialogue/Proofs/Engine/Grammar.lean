import Dialogue.Proofs.Engine.Calls

/-!
# The grammar of turns

A turn says in its events first what the bot has to say, at most one message for each node that was
gone through, and then how the session is left. Status and request of a turn are those that the
session in the store has after the call.
-/

namespace Dialogue

namespace Engine

variable {e : Engine} {c : Call}

/-- A turn sends messages, at most as many as the ceiling allows nodes, then closes by the status in
which it leaves the session. It has status and request of the session in the store, unless the
session has ended and is dropped. -/
theorem turn_grammar {t : Turn} (h : (e.take c).result = .turn t) :
    t.session = c.session ∧ t.status ≠ .running ∧
      (∃ messages tail, messages.length ≤ e.config.maxSteps ∧
        t.events = Event.ofMessages messages ++ tail ∧ Turn.Ending t.status t.pending tail) ∧
      match (e.take c).engine.store.get? c.session with
      | some s => s.status = t.status ∧ s.pending = t.pending
      | none => e.config.evictEnded ∧ t.status = .ended ∧ t.pending = none := by
  obtain ⟨o, ho, rfl⟩ := opens_of_turn h
  obtain ⟨messages, tail, hlength, hending, hreached⟩ := ho.over e.config.maxSteps
  refine ⟨rfl, hending.status_ne_running, ⟨messages, tail, hlength, hreached.events, hending⟩, ?_⟩
  rw [ho.take.2, get?_keep, if_pos rfl]
  by_cases hdrop : (o.run e.config.maxSteps).session.status = .ended ∧ e.config.evictEnded
  · rw [if_pos hdrop]
    obtain ⟨hended, hevict⟩ := hdrop
    rw [hended] at hending
    exact ⟨hevict, hended, hending.pending_eq_none⟩
  · rw [if_neg hdrop]
    exact ⟨rfl, rfl⟩

/-- Given a name, `Flow.sample` greets and pauses. -/
theorem turn_grammar_sample :
    ∃ t, ((sample {}).take (.resume "a" "Ada")).result = .turn t ∧
      t.events = [.botMessage "greet" ⟨"Hello Ada", none, none⟩, .typingDelay 2] ∧
      ∃ messages tail, messages.length ≤ 1000 ∧
        t.events = Event.ofMessages messages ++ tail ∧ Turn.Ending t.status t.pending tail := by
  have hturn : ((sample {}).take (.resume "a" "Ada")).result =
      .turn ⟨"a", .awaitingExternal,
        [.botMessage "greet" ⟨"Hello Ada", none, none⟩, .typingDelay 2],
        some (.delay 2)⟩ := by
    decide +kernel
  obtain ⟨_, _, hgrammar, _⟩ := turn_grammar hturn
  exact ⟨_, hturn, rfl, hgrammar⟩

end Engine

end Dialogue
