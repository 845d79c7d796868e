import Dialogue.Proofs.Engine.Ceiling
import Dialogue.Proofs.Walk.Cut

/-!
# Turns under two ceilings

The ceiling of an engine only truncates. Where a turn does not tell of a round without an end, a
higher ceiling changes neither the turn nor the store. Where it does, the turn says, but for this
failure, the beginning of what it would say under the higher ceiling.
-/

namespace Dialogue

namespace Engine

open Walk

variable {e : Engine} {c : Call} {m n : Nat}

/-- Under a higher ceiling, a call that gets a turn gets one as well: the same turn, with the same
store after it, unless the turn was cut off. A turn that was cut off ends with this failure, and
what it says before that is the beginning of the longer turn. If at least one node did its work,
both calls leave the session with the same variables. -/
theorem turn_truncates {t : Turn} (hle : m ≤ n)
    (h : ((e.withCeiling m).take c).result = .turn t) :
    ∃ t', ((e.withCeiling n).take c).result = .turn t' ∧
      (¬ Looped t.events →
        t' = t ∧ ((e.withCeiling n).take c).engine.store = ((e.withCeiling m).take c).engine.store) ∧
      (Looped t.events →
        (∃ said reason, t.events = said ++ [.flowError .infiniteLoop reason, .endOfConversation] ∧
          said <+: t'.events) ∧
        (1 ≤ m → ∀ s s', ((e.withCeiling m).take c).engine.store.get? c.session = some s →
          ((e.withCeiling n).take c).engine.store.get? c.session = some s' → s'.vars = s.vars)) := by
  obtain ⟨o, ho, rfl⟩ := opens_of_turn h
  have ho' : (e.withCeiling n).Opens c o := ho.withCeiling n
  obtain ⟨s, hs⟩ := ho.reached
  refine ⟨_, ho'.take.1, ?_, ?_⟩
  · intro hquiet
    have hrun : o.run n = o.run m := hs.run_of_not_looped hle hquiet
    refine ⟨congrArg (turnOf c.session) hrun, ?_⟩
    rw [ho.take.2, ho'.take.2]
    show ((e.withCeiling n).keep c.session (o.run n).session).store = _
    rw [hrun]
    rfl
  · intro hlooped
    obtain ⟨said, reason, hevents, hprefix, hvars⟩ := hs.run_of_looped hle hlooped
    refine ⟨⟨said, reason, hevents, hprefix⟩, ?_⟩
    intro hpos s₁ s₂ hs₁ hs₂
    rw [ho.take.2] at hs₁
    rw [ho'.take.2] at hs₂
    rcases stored_of_keep hs₁ with ⟨_, rfl, _⟩ | ⟨hne, _⟩
    · rcases stored_of_keep hs₂ with ⟨_, rfl, _⟩ | ⟨hne, _⟩
      · exact hvars hpos
      · exact absurd rfl hne
    · exact absurd rfl hne

/-- The reply `Ada` leads `Flow.sample` through four nodes. A ceiling of three cuts the turn off
after the greeting, which is what the whole turn begins with. -/
theorem turn_truncates_sample :
    let e := sample {}
    3 ≤ 4 ∧ ∃ t t', ((e.withCeiling 3).take (.resume "a" "Ada")).result = .turn t ∧
      ((e.withCeiling 4).take (.resume "a" "Ada")).result = .turn t' ∧
      t.status = .ended ∧ t'.status = .awaitingExternal ∧
      (∃ said reason, t.events = said ++ [.flowError .infiniteLoop reason, .endOfConversation] ∧
        said <+: t'.events) ∧
      ∃ s s', ((e.withCeiling 3).take (.resume "a" "Ada")).engine.store.get? "a" = some s ∧
        ((e.withCeiling 4).take (.resume "a" "Ada")).engine.store.get? "a" = some s' ∧
          s'.vars = s.vars := by
  intro e
  have hshort : ((e.withCeiling 3).take (.resume "a" "Ada")).result =
      .turn ⟨"a", .ended, [.botMessage "greet" ⟨"Hello Ada", none, none⟩,
        .flowError .infiniteLoop "executed 3 nodes without waiting for input; last node 'pause'",
        .endOfConversation], none⟩ := by
    decide +kernel
  have hlong : ((e.withCeiling 4).take (.resume "a" "Ada")).result =
      .turn ⟨"a", .awaitingExternal,
        [.botMessage "greet" ⟨"Hello Ada", none, none⟩, .typingDelay 2], some (.delay 2)⟩ := by
    decide +kernel
  have hkept : (((e.withCeiling 3).take (.resume "a" "Ada")).engine.store.get? "a").isSome ∧
      (((e.withCeiling 4).take (.resume "a" "Ada")).engine.store.get? "a").isSome := by
    decide +kernel
  obtain ⟨s, hs⟩ := Option.isSome_iff_exists.mp hkept.1
  obtain ⟨s', hs'⟩ := Option.isSome_iff_exists.mp hkept.2
  obtain ⟨t', ht', _, hcut⟩ := turn_truncates (n := 4) (by decide) hshort
  obtain rfl := Response.turn.inj (ht'.symm.trans hlong)
  obtain ⟨hbegins, hvars⟩ := hcut ⟨_, .tail _ (.head _)⟩
  exact ⟨by decide, _, _, hshort, hlong, rfl, rfl, hbegins, s, s', hs, hs',
    hvars (by decide) s s' hs hs'⟩

end Engine

end Dialogue
