import Dialogue.Proofs.Step.Failure
import Dialogue.Proofs.Walk.Route

/-!
# Why walks fail

A node that fails has no way on, so a walk can only fail at the last node of its route: it tells of
a failure exactly if that node fails, the ceiling aside. A walk whose first node fails tells of
nothing else.
-/

namespace Dialogue

variable {kind : FlowErrorKind} {reason : String}

namespace Step

variable {n : Node} {s : Session} {stimulus : Option Stimulus} {step : Step}

/-- A step that tells of a failure does nothing else. -/
lemma Shape.eq_fail (h : Shape n s stimulus step) (hfail : .flowError kind reason ∈ step.events) :
    step = fail kind reason := by
  cases h with
  | failed =>
    obtain ⟨rfl, rfl⟩ := Event.flowError.inj (List.mem_singleton.mp hfail)
    rfl
  | goOn | awaitInput | awaitAnswer | deadEnd => cases hfail
  | tell | tellLast | awaitDelay | finished => cases List.mem_singleton.mp hfail

end Step

/-- From a node that fails there is no way on. -/
lemma Outlook.Fails.not_way {o : Outlook} {n : Node} {stimulus : Option Stimulus} {target : String}
    (hn : o.flow.node? n.id = some n) (h : o.Fails n stimulus kind reason) :
    ¬ o.Way n stimulus target := by
  intro hway
  obtain ⟨s, rfl⟩ := o.exists_outlook_eq
  have hmem : .flowError kind reason ∈ (Step.ofNode n s stimulus).events :=
    (Step.flowError_mem_iff hn).mpr h
  have hgo : (Step.ofNode n s stimulus).outcome = .goOn target :=
    (Step.goOn_iff_way hn).mpr hway
  rw [(Step.shape_ofNode (Flow.mem_of_node? hn)).eq_fail hmem] at hgo
  cases hgo

/-- The events after a step tell of a failure exactly if those before did or the node fails. -/
lemma Step.flowError_mem_sent_iff {s : Session} {o : Outlook} {n : Node} {id : String}
    {stimulus : Option Stimulus} {events : List Event} (hn : s.flow.node? id = some n)
    (ho : s.outlook.bind (n.kind.binding? stimulus) = o) :
    .flowError kind reason ∈ (ofNode n s stimulus).sent events ↔
      .flowError kind reason ∈ events ∨ o.Fails n stimulus kind reason := by
  obtain rfl := Flow.id_of_node? hn
  rw [mem_sent_iff (by simp), flowError_mem_iff hn, ← ho, Outlook.fails_bind_iff]

namespace Walk

open Outlook

variable {origin s : Session} {events : List Event} {w : Walk} {stimulus : Option Stimulus}
  {o : Outlook} {id last : String} {n : Node} {nodes : List Node} {k : Nat}

/-- The last node of a route fails, woken only if it is the first one as well. -/
def FailsAtEnd (o : Outlook) (stimulus : Option Stimulus) (nodes : List Node)
    (kind : FlowErrorKind) (reason : String) : Prop :=
  ∃ n, nodes.getLast? = some n ∧
    o.Fails n (if nodes.length = 1 then stimulus else none) kind reason

lemma failsAtEnd_nil : ¬ FailsAtEnd o stimulus [] kind reason := by
  rintro ⟨n, hn, _⟩
  cases hn

lemma failsAtEnd_singleton :
    FailsAtEnd o stimulus [n] kind reason ↔ o.Fails n stimulus kind reason := by
  simp [FailsAtEnd]

/-- Past a node that goes on, nothing is woken. -/
lemma failsAtEnd_cons_cons {m : Node} :
    FailsAtEnd o stimulus (n :: m :: nodes) kind reason ↔
      FailsAtEnd o none (m :: nodes) kind reason := by
  simp [FailsAtEnd, List.getLast?_cons_cons]

/-- Behind the events so far, a walk tells of a failure exactly if its route ends at a node that
fails so. -/
lemma Reached.flowError_mem_iff (h : Reached origin s events w)
    (hroute : Route o k stimulus id nodes last) (hnode : s.node = some id)
    (hn : s.flow.node? id = some n) (ho : s.outlook.bind (n.kind.binding? stimulus) = o)
    (hkind : kind ≠ .infiniteLoop) (ceiling : Nat) :
    .flowError kind reason ∈ ((w.after stimulus k).close ceiling).events.toList ↔
      .flowError kind reason ∈ events ∨ FailsAtEnd o stimulus nodes kind reason := by
  induction hroute generalizing s events w n with
  | ceiling =>
    have hfail := h.fail .infiniteLoop (ceilingReason ceiling w.session)
    simp only [after, Progress.close, hfail.events]
    simp [hkind, failsAtEnd_nil]
  | @halt k stimulus id m place stays =>
    obtain rfl := Option.some.inj ((Session.node?_outlook hn ho).symm.trans place)
    have hnext := h.step_route hnode hn ho
    simp only [after]
    cases hw : w.step stimulus with
    | moving v =>
      rw [hw] at hnext
      obtain ⟨_, target, hway, _⟩ := hnext
      exact absurd hway (stays target)
    | settled v =>
      rw [hw] at hnext
      obtain ⟨_, _, hevents⟩ := hnext
      simp only [Progress.close]
      rw [hevents, Step.flowError_mem_sent_iff hn ho, failsAtEnd_singleton]
  | @step k stimulus id target last m nodes place way rest ih =>
    obtain rfl := Option.some.inj ((Session.node?_outlook hn ho).symm.trans place)
    obtain rfl := Flow.id_of_node? place
    have hnot : ¬ o.Fails n stimulus kind reason := fun hfails => hfails.not_way place way
    have hnext := h.step_route hnode hn ho
    simp only [after]
    cases hw : w.step stimulus with
    | moving v =>
      rw [hw] at hnext
      obtain ⟨s', target', hway', hv, hnode', hfound, houtlook⟩ := hnext
      obtain rfl : target' = target := way.unique place hway'
      obtain ⟨m, hm⟩ := Option.isSome_iff_exists.mp hfound
      have ho' : s'.outlook.bind (m.kind.binding? none) = o := by
        rw [NodeKind.binding?_none, Outlook.bind_none, houtlook]
      rw [ih hv hnode' hm ho', Step.flowError_mem_sent_iff hn ho]
      -- A node that went on is no end of the route at which the walk could fail.
      cases nodes with
      | nil => simp [failsAtEnd_nil, failsAtEnd_singleton]
      | cons next nodes => simp [failsAtEnd_cons_cons, hnot]
    | settled v =>
      rw [hw] at hnext
      exact absurd way (hnext.1 target)

/-- A run tells of a failure exactly if the last node of its route fails so. -/
theorem Reached.flowError_mem_run_iff (h : Reached origin s [] w) (hplace : s.place? = some n)
    {ceiling : Nat}
    (hroute : Route (s.outlook.bind (n.kind.binding? stimulus)) ceiling stimulus n.id nodes last)
    (hkind : kind ≠ .infiniteLoop) :
    .flowError kind reason ∈ (w.run ceiling stimulus).events.toList ↔
      FailsAtEnd (s.outlook.bind (n.kind.binding? stimulus)) stimulus nodes kind reason := by
  obtain ⟨id, hnode, hn⟩ := Option.bind_eq_some_iff.mp hplace
  obtain rfl := Flow.id_of_node? hn
  rw [h.run_eq]
  exact (h.opened.flowError_mem_iff hroute hnode hn rfl hkind ceiling).trans (by simp)

/-- If the first node of a run fails, this is all that there is to tell. -/
theorem Reached.run_of_fails (h : Reached origin s [] w) (hplace : s.place? = some n)
    {ceiling : Nat} (hpos : 1 ≤ ceiling) (hfails : s.outlook.Fails n stimulus kind reason) :
    (w.run ceiling stimulus).events.toList = [.flowError kind reason, .endOfConversation] := by
  obtain ⟨k, rfl⟩ := Nat.exists_eq_add_of_le' hpos
  obtain ⟨id, hnode, hn⟩ := Option.bind_eq_some_iff.mp hplace
  obtain rfl := Flow.id_of_node? hn
  let s' : Session := { s with status := .running, pending := none }
  have hstep : Step.ofNode n s' stimulus = Step.fail kind reason := by
    have hmem : .flowError kind reason ∈ (Step.ofNode n s' stimulus).events :=
      (Step.flowError_mem_iff hn).mpr hfails
    exact (Session.shape_of_place? (s := s') hplace stimulus).eq_fail hmem
  have hnext : (w.opened.step stimulus).Meets _ _ := h.opened.step_route hnode hn rfl
  rw [h.run_eq]
  simp only [after]
  cases hw : w.opened.step stimulus with
  | moving v =>
    rw [hw] at hnext
    obtain ⟨_, _, hway, _⟩ := hnext
    exact absurd (Outlook.way_bind_iff.mp hway) (hfails.not_way hn)
  | settled v =>
    rw [hw] at hnext
    obtain ⟨_, _, hevents⟩ := hnext
    simp only [Progress.close]
    rw [hevents, hstep]
    rfl

end Walk

end Dialogue
