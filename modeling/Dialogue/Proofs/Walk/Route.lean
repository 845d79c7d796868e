import Mathlib.Data.List.Basic
import Dialogue.Proofs.Step.Way
import Dialogue.Proofs.Walk.After

/-!
# Routes

A run is a walk of the graph: it goes through nodes that are each a way on from the one before,
until a node has no way on or the ceiling is reached, and only its first node sees the stimulus.
The messages that it sends are those of the nodes that it has gone through, in order.
-/

namespace Dialogue

/-! ### Routes on a graph -/

/-- There is at most one way on from a node. -/
lemma Outlook.Way.unique {o : Outlook} {n : Node} {stimulus : Option Stimulus}
    {target target' : String} (hn : o.flow.node? n.id = some n) (h : o.Way n stimulus target)
    (h' : o.Way n stimulus target') : target' = target := by
  obtain ⟨s, rfl⟩ := o.exists_outlook_eq
  have hgo : (Step.ofNode n s stimulus).outcome = .goOn target :=
    (Step.goOn_iff_way hn).mpr h
  have hgo' : (Step.ofNode n s stimulus).outcome = .goOn target' :=
    (Step.goOn_iff_way hn).mpr h'
  exact Outcome.goOn.inj (hgo'.symm.trans hgo)

/-- The nodes that are gone through from a node on, as many as the ceiling allows, and the node
where that ends. -/
inductive Route (o : Outlook) : Nat → Option Stimulus → String → List Node → String → Prop where
  /-- The ceiling is reached before the node does its work. -/
  | ceiling {stimulus : Option Stimulus} {id : String} : Route o 0 stimulus id [] id
  | halt {k : Nat} {stimulus : Option Stimulus} {id : String} {n : Node}
      (place : o.flow.node? id = some n) (stays : ∀ target, ¬ o.Way n stimulus target) :
      Route o (k + 1) stimulus id [n] id
  | step {k : Nat} {stimulus : Option Stimulus} {id target last : String} {n : Node}
      {nodes : List Node} (place : o.flow.node? id = some n) (way : o.Way n stimulus target)
      (rest : Route o k none target nodes last) : Route o (k + 1) stimulus id (n :: nodes) last

namespace Route

variable {o : Outlook} {k : Nat} {stimulus : Option Stimulus} {id last last' : String} {n : Node}
  {nodes nodes' : List Node}

/-- A route sets out from the node where it begins, unless the ceiling allows no node at all. -/
lemma head?_eq (h : Route o k stimulus id nodes last) (hn : o.flow.node? id = some n) :
    nodes.head? = some n ∨ nodes = [] ∧ k = 0 := by
  cases h with
  | ceiling => exact .inr ⟨rfl, rfl⟩
  | halt place | step place =>
    obtain rfl := Option.some.inj (hn.symm.trans place)
    exact .inl rfl

/-- There is only one route from a node. -/
theorem unique (h : Route o k stimulus id nodes last) (h' : Route o k stimulus id nodes' last') :
    nodes' = nodes ∧ last' = last := by
  induction h generalizing nodes' with
  | ceiling =>
    cases h'
    exact ⟨rfl, rfl⟩
  | halt place stays =>
    cases h' with
    | halt place' =>
      obtain rfl := Option.some.inj (place.symm.trans place')
      exact ⟨rfl, rfl⟩
    | step place' way' =>
      obtain rfl := Option.some.inj (place.symm.trans place')
      exact absurd way' (stays _)
  | step place way rest ih =>
    cases h' with
    | halt place' stays' =>
      obtain rfl := Option.some.inj (place.symm.trans place')
      exact absurd way (stays' _)
    | step place' way' rest' =>
      obtain rfl := Option.some.inj (place.symm.trans place')
      obtain rfl := way.unique ((Flow.id_of_node? place).symm ▸ place) way'
      obtain ⟨rfl, rfl⟩ := ih rest'
      exact ⟨rfl, rfl⟩

end Route

/-! ### Routes of walks -/

/-- The outlook has the nodes of the flow of its session. -/
lemma Session.node?_outlook {s : Session} {o : Outlook} {binding : Option Binding} {id : String}
    {n : Node} (hn : s.flow.node? id = some n) (ho : s.outlook.bind binding = o) :
    o.flow.node? id = some n := by
  rw [← ho, Outlook.bind_flow]
  exact hn

namespace Walk

variable {origin s : Session} {events : List Event} {w : Walk} {stimulus : Option Stimulus}
  {o : Outlook} {id : String} {n : Node}

/-- A step that goes on takes a way of its node; one that does not leaves the session at a node
without a way on. -/
lemma Reached.step_route (h : Reached origin s events w) (hnode : s.node = some id)
    (hn : s.flow.node? id = some n) (ho : s.outlook.bind (n.kind.binding? stimulus) = o) :
    (w.step stimulus).Meets
      (fun v => ∃ s' target, o.Way n stimulus target ∧
        Reached origin s' ((Step.ofNode n s stimulus).sent events) v ∧ s'.node = some target ∧
        (s'.flow.node? target).isSome ∧ s'.outlook = o)
      fun v => (∀ target, ¬ o.Way n stimulus target) ∧ v.session.node = some id ∧
        v.events.toList = (Step.ofNode n s stimulus).sent events := by
  have hid : n.id = id := Flow.id_of_node? hn
  have hplace : s.place? = some n := by
    simp only [Session.place?, hnode, Option.bind_some, hn]
  have hway : ∀ target, (Step.ofNode n s stimulus).outcome = .goOn target ↔
      o.Way n stimulus target := by
    intro target
    rw [← ho, Outlook.way_bind_iff]
    exact Step.goOn_iff_way (hid ▸ hn)
  apply h.step_meets
  · intro m target v hm hgo hv
    obtain rfl : n = m := Option.some.inj (hplace.symm.trans hm)
    refine ⟨_, target, (hway target).mp hgo, hv, Session.perform_node hgo, ?_, ?_⟩
    · rw [Session.perform_flow]
      exact (Session.shape_of_place? hplace stimulus).found hgo
    · rw [Session.perform_outlook, Step.binding_ofNode, ho]
  · intro m v hm hstay hv
    obtain rfl : n = m := Option.some.inj (hplace.symm.trans hm)
    refine ⟨fun target htarget => hstay target ((hway target).mpr htarget), ?_, hv.events⟩
    rw [hv.session, Session.perform_node_of_stay hstay, hnode]
  · intro reason v hlost _
    rw [hplace] at hlost
    cases hlost

/-- A walk follows a route, and sends the messages of the nodes on it. -/
lemma Reached.route (h : Reached origin s events w) (hnode : s.node = some id)
    (hn : s.flow.node? id = some n) (ho : s.outlook.bind (n.kind.binding? stimulus) = o)
    (ceiling k : Nat) :
    ∃ nodes last, Route o k stimulus id nodes last ∧
      ((w.after stimulus k).close ceiling).session.node = some last ∧
      ((w.after stimulus k).close ceiling).events.toList.filterMap Event.message? =
        events.filterMap Event.message? ++ nodes.filterMap o.said? := by
  induction k generalizing s events w id n stimulus with
  | zero =>
    have hfail := h.fail .infiniteLoop (ceilingReason ceiling w.session)
    refine ⟨[], id, .ceiling, ?_, ?_⟩
    · simp only [after, Progress.close, hfail.session]
      exact hnode
    · simp only [after, Progress.close, hfail.events]
      simp [Event.message?]
  | succ k ih =>
    have hplace : o.flow.node? id = some n := Session.node?_outlook hn ho
    have hsent : ((Step.ofNode n s stimulus).sent events).filterMap Event.message? =
        events.filterMap Event.message? ++ (o.said? n).toList := by
      rw [Step.filterMap_sent rfl, Step.filterMap_message?_ofNode, ← ho, Outlook.said?_bind]
    have hnext := h.step_route hnode hn ho
    simp only [after]
    cases hw : w.step stimulus with
    | settled v =>
      rw [hw] at hnext
      obtain ⟨hstays, hlast, hevents⟩ := hnext
      refine ⟨[n], id, .halt hplace hstays, hlast, ?_⟩
      rw [List.filterMap_eq_flatMap_toList o.said?, List.flatMap_singleton, ← hsent, ← hevents]
      rfl
    | moving v =>
      rw [hw] at hnext
      obtain ⟨s', target, hway, hv, hnode', hfound, houtlook⟩ := hnext
      obtain ⟨m, hm⟩ := Option.isSome_iff_exists.mp hfound
      -- Past the first node nothing is bound any more.
      have ho' : s'.outlook.bind (m.kind.binding? none) = o := by
        rw [NodeKind.binding?_none, Outlook.bind_none, houtlook]
      obtain ⟨nodes, last, hroute, hlast, hrest⟩ := ih hv hnode' hm ho'
      refine ⟨n :: nodes, last, .step hplace hway hroute, hlast, ?_⟩
      rw [List.filterMap_eq_flatMap_toList o.said?] at hrest ⊢
      rw [List.flatMap_cons, ← List.append_assoc, ← hsent]
      exact hrest

/-- A run follows a route from the node where it begins. The variable that this node sets is there
on the whole route. -/
theorem Reached.run_route (h : Reached origin s [] w) (hplace : s.place? = some n)
    (ceiling : Nat) (stimulus : Option Stimulus) :
    ∃ nodes last,
      Route (s.outlook.bind (n.kind.binding? stimulus)) ceiling stimulus n.id nodes last ∧
        (w.run ceiling stimulus).session.node = some last ∧
        (w.run ceiling stimulus).events.toList.filterMap Event.message? =
          nodes.filterMap (s.outlook.bind (n.kind.binding? stimulus)).said? := by
  obtain ⟨id, hnode, hn⟩ := Option.bind_eq_some_iff.mp hplace
  obtain rfl := Flow.id_of_node? hn
  rw [h.run_eq]
  exact h.opened.route hnode hn rfl ceiling ceiling

end Walk

end Dialogue
