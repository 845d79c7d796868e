import Dialogue.Proofs.Walk.Assigned
import Dialogue.Proofs.Walk.Round

/-!
# Walks that are cut off

A lower ceiling cuts a walk off and does nothing else to it. A run that comes to its end below the
lower ceiling is the same run under the higher one. A run that does not has sent what the longer run
sends first, and past its first step no variable changes any more.
-/

namespace Dialogue

lemma prefix_closing (events : List Event) : events <+: closing events := by
  simp only [closing]
  split
  · exact List.prefix_rfl
  · exact List.prefix_append _ _

lemma Step.prefix_sent (step : Step) (events : List Event) : events <+: step.sent events := by
  simp only [Step.sent]
  split
  · exact (List.prefix_append _ _).trans (prefix_closing _)
  · exact List.prefix_append _ _

namespace Walk

variable {origin s : Session} {events base : List Event} {w v : Walk} {stimulus : Option Stimulus}

/-! ### Steps after steps -/

/-- What becomes of a walk that goes further if it is still on its way. -/
def Progress.further (go : Walk → Progress) : Progress → Progress
  | moving w => go w
  | settled w => .settled w

lemma after_add (w : Walk) (stimulus : Option Stimulus) (m k : Nat) :
    w.after stimulus (m + k) =
      (w.after stimulus m).further (·.after (if m = 0 then stimulus else none) k) := by
  induction m generalizing w stimulus with
  | zero =>
    rw [Nat.zero_add]
    rfl
  | succ m ih =>
    rw [Nat.succ_add]
    simp only [after]
    cases w.step stimulus with
    | settled v => rfl
    | moving v =>
      simp only [ih, ite_self]
      rfl

/-! ### What is sent first -/

/-- The walk has sent these events, and perhaps others behind them. -/
def Extends (origin : Session) (base : List Event) (w : Walk) : Prop :=
  ∃ s events, Reached origin s events w ∧ base <+: events

lemma Extends.step (h : Extends origin base w) (stimulus : Option Stimulus) :
    (w.step stimulus).Meets (Extends origin base) (Extends origin base) := by
  obtain ⟨s, events, hreached, hprefix⟩ := h
  apply hreached.step_meets
  · intro n target v _ _ hv
    exact ⟨_, _, hv, hprefix.trans (Step.prefix_sent _ _)⟩
  · intro n v _ _ hv
    exact ⟨_, _, hv, hprefix.trans (Step.prefix_sent _ _)⟩
  · intro reason v _ hv
    exact ⟨_, _, hv, hprefix.trans (List.prefix_append _ _)⟩

lemma Extends.close (h : Extends origin base w) (stimulus : Option Stimulus) (ceiling k : Nat) :
    base <+: ((w.after stimulus k).close ceiling).events.toList := by
  have hafter := after_keeps (fun _ stimulus hv => hv.step stimulus) h stimulus k
  apply hafter.close (P := fun v => base <+: v.events.toList)
  · rintro v ⟨s, events, hv, hprefix⟩
    rw [(hv.fail .infiniteLoop _).events]
    exact hprefix.trans (List.prefix_append _ _)
  · rintro v ⟨s, events, hv, hprefix⟩
    rw [hv.events]
    exact hprefix

/-! ### Variables -/

/-- A walk that nothing wakes leaves the variables as they are. -/
lemma Reached.vars_close (h : Reached origin s events w) (ceiling k : Nat) :
    ((w.after none k).close ceiling).session.vars = s.vars := by
  obtain ⟨s', events', hclosed⟩ := h.close none ceiling k
  rw [hclosed.session, hclosed.vars_eq, assigned_close, h.assigned_after, h.vars_eq]

/-! ### Runs under two ceilings -/

variable {m n : Nat}

/-- A run that comes to its end is not changed by a higher ceiling. -/
lemma Reached.run_of_not_looped (h : Reached origin s [] w) (hle : m ≤ n)
    (hquiet : ¬ Looped (w.run m stimulus).events.toList) :
    w.run n stimulus = w.run m stimulus := by
  obtain ⟨k, rfl⟩ := Nat.exists_eq_add_of_le hle
  rw [h.looped_run_iff] at hquiet
  rw [h.run_eq, h.run_eq, after_add]
  cases hw : w.opened.after stimulus m with
  | moving v => exact absurd ⟨v, hw⟩ hquiet
  | settled v => rfl

/-- A run that is cut off has sent what the run under a higher ceiling sends first, and unless it
was cut off before its first step it leaves the same variables. -/
lemma Reached.run_of_looped (h : Reached origin s [] w) (hle : m ≤ n)
    (hlooped : Looped (w.run m stimulus).events.toList) :
    ∃ said reason, (w.run m stimulus).events.toList =
        said ++ [.flowError .infiniteLoop reason, .endOfConversation] ∧
      said <+: (w.run n stimulus).events.toList ∧
      (1 ≤ m → (w.run n stimulus).session.vars = (w.run m stimulus).session.vars) := by
  obtain ⟨k, rfl⟩ := Nat.exists_eq_add_of_le hle
  rw [h.looped_run_iff] at hlooped
  obtain ⟨v, hv⟩ := hlooped
  have hreached := h.opened.reached_after stimulus m
  rw [hv] at hreached
  obtain ⟨s', said, hreached⟩ := hreached
  have hfail := hreached.fail .infiniteLoop (ceilingReason m v.session)
  rw [h.run_eq, h.run_eq, after_add, hv]
  simp only [Progress.further]
  refine ⟨said, _, hfail.events, ?_, fun hpos => ?_⟩
  · exact Extends.close ⟨s', said, hreached, List.prefix_rfl⟩ _ _ _
  · rw [if_neg (Nat.ne_of_gt hpos), hreached.vars_close]
    simp only [Progress.close, hfail.session]
    rfl

end Walk

end Dialogue
