import Dialogue.Proofs.Engine.Calls
import Dialogue.Proofs.Walk.Round

/-!
# The ceiling of an engine

A ceiling above the number of nodes of a flow never cuts a conversation off that would have come to
a place where it waits or ends. Where a turn tells of a round without an end, the same call does so
under every other ceiling.
-/

namespace Dialogue

namespace Engine

open Walk

variable {e : Engine} {c : Call} {o : Opening} {flow : Flow}

/-- The engine with another ceiling. -/
def withCeiling (e : Engine) (n : Nat) : Engine :=
  { e with config := { e.config with maxSteps := n } }

/-- The flow on which a call walks: the flow that it brings, or that of its session. -/
def flow? (e : Engine) : Call → Option Flow
  | .start _ flow => some flow
  | .startNodes _ nodes edges => (Flow.ofGraph Flow.defaultName nodes edges).toOption
  | .resume id _ | .complete id _ => (e.store.get? id).map (·.flow)
  | .destroy _ | .archive _ => none

lemma Opens.flow? (h : e.Opens c o) : e.flow? c = some o.origin.flow := by
  cases h with
  | start => rfl
  | startNodes valid =>
    simp only [Engine.flow?, Flow.ofGraph_of_valid Flow.defaultName valid]
    rfl
  | resume stored | complete stored =>
    simp only [Engine.flow?, stored]
    rfl

/-- Whether a call is accepted does not hang on the ceiling. -/
lemma Opens.withCeiling (h : e.Opens c o) (n : Nat) : (e.withCeiling n).Opens c o :=
  h.of_stored rfl

/-- Under a ceiling above the number of nodes, the turn of a call tells of a round without an end
exactly if it does so under every ceiling. -/
theorem looped_iff_forall_ceiling {t : Turn} (hflow : e.flow? c = some flow)
    (hsize : flow.nodes.length < e.config.maxSteps) (h : (e.take c).result = .turn t) :
    Looped t.events ↔
      ∀ n, ∃ t', ((e.withCeiling n).take c).result = .turn t' ∧ Looped t'.events := by
  obtain ⟨o, ho, rfl⟩ := opens_of_turn h
  obtain ⟨s, hs⟩ := ho.reached
  constructor
  · intro hlooped n
    rw [ho.flow?] at hflow
    have hsflow : s.flow = flow := hs.keeps.2.trans (Option.some.inj hflow)
    rw [← hsflow] at hsize
    exact ⟨_, (ho.withCeiling n).take.1, hs.looped_run hsize hlooped n⟩
  · intro hall
    obtain ⟨t', ht', hlooped⟩ := hall e.config.maxSteps
    have heq : t' = turnOf c.session (o.run e.config.maxSteps) :=
      Response.turn.inj (ht'.symm.trans h)
    rw [heq] at hlooped
    exact hlooped

/-- The reply `again` leads into the round of `Flow.sample`, whatever the ceiling. -/
theorem looped_iff_forall_ceiling_sample :
    Flow.sample.nodes.length < 10 ∧
      ∀ n, ∃ t,
        (((sample { maxSteps := 10 }).withCeiling n).take (.resume "a" "again")).result = .turn t ∧
          Looped t.events := by
  have hsize : Flow.sample.nodes.length < 10 := by decide
  have hturn : ((sample { maxSteps := 10 }).take (.resume "a" "again")).result =
      .turn ⟨"a", .ended,
        [.botMessage "tell" ⟨"Once more, again", none, none⟩,
          .botMessage "tell" ⟨"Once more, again", none, none⟩,
          .botMessage "tell" ⟨"Once more, again", none, none⟩,
          .flowError .infiniteLoop
            "executed 10 nodes without waiting for input; last node 'check'",
          .endOfConversation], none⟩ := by
    decide +kernel
  have hflow : (sample { maxSteps := 10 }).flow? (.resume "a" "again") = some .sample := by
    decide +kernel
  have hlooped := (looped_iff_forall_ceiling hflow hsize hturn).mp
  exact ⟨hsize, hlooped ⟨_, .tail _ (.tail _ (.tail _ (.head _)))⟩⟩

end Engine

end Dialogue
