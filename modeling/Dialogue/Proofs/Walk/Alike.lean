import Dialogue.Proofs.Step.Shape
import Dialogue.Walk

/-!
# Walks that are alike

Two sessions are alike when they have all but their flows in common and their flows are alike. A
node then does the same in both, every edit keeps them alike, and so does every step of a walk: on
alike flows walks send the same events and come to the same end.
-/

namespace Dialogue

/-! ### Sessions -/

/-- The sessions agree in everything but their flows, and these are alike. -/
structure Session.Alike (s s' : Session) : Prop where
  flow : s.flow.Alike s'.flow
  id : s.id = s'.id
  node : s.node = s'.node
  vars : s.vars = s'.vars
  lastInput : s.lastInput = s'.lastInput
  status : s.status = s'.status
  pending : s.pending = s'.pending
  transcript : s.transcript = s'.transcript

namespace Session

variable {s s' : Session}

lemma Alike.refl (s : Session) : s.Alike s :=
  ⟨.refl _, rfl, rfl, rfl, rfl, rfl, rfl, rfl⟩

lemma Alike.outlook (h : s.Alike s') : s.outlook.Alike s'.outlook :=
  ⟨h.flow, h.vars, h.lastInput⟩

lemma alike_new (id : String) {f g : Flow} (h : f.Alike g) :
    Alike { id, flow := f } { id, flow := g } :=
  ⟨h, rfl, rfl, rfl, rfl, rfl, rfl, rfl⟩

/-- An edit succeeds on both of them, or is refused for the same reason. -/
lemma Alike.edit (h : s.Alike s') (e : Edit) :
    (∃ t t', s.edit e = .ok t ∧ s'.edit e = .ok t' ∧ t.Alike t') ∨
      ∃ r, s.edit e = .error r ∧ s'.edit e = .error r := by
  cases e with
  | setVariable name value =>
    exact .inl ⟨_, _, rfl, rfl, { h with vars := congrArg (·.insert name value) h.vars }⟩
  | advanceTo node =>
    simp only [Session.edit, h.flow.isSome_node?]
    by_cases hfound : (s'.flow.node? node).isSome
    · simp only [if_pos hfound]
      exact .inl ⟨_, _, rfl, rfl, { h with node := rfl }⟩
    · simp only [if_neg hfound, h.id]
      exact .inr ⟨_, rfl, rfl⟩
  | setStatus status => exact .inl ⟨_, _, rfl, rfl, { h with status := rfl }⟩
  | setPending pending => exact .inl ⟨_, _, rfl, rfl, { h with pending := rfl }⟩
  | record speaker text =>
    refine .inl ⟨_, _, rfl, rfl, { h with lastInput := ?_, transcript := ?_ }⟩
    · simp only [Session.say, h.lastInput]
    · simp only [Session.say, h.transcript]

end Session

/-! ### Walks -/

/-- The walks have alike sessions, the same edits and events, and the same refusal if any. -/
structure Walk.Alike (w w' : Walk) : Prop where
  session : w.session.Alike w'.session
  edits : w.edits = w'.edits
  events : w.events = w'.events
  refusal : w.refusal = w'.refusal

namespace Walk

variable {w w' : Walk}

/-- Both walks go on, or both are over. -/
inductive Progress.Alike : Progress → Progress → Prop where
  | moving {w w' : Walk} (h : w.Alike w') : Alike (.moving w) (.moving w')
  | settled {w w' : Walk} (h : w.Alike w') : Alike (.settled w) (.settled w')

namespace Alike

lemma edit (h : w.Alike w') (e : Edit) : (w.edit e).Alike (w'.edit e) := by
  have hedits : w.edits.push e = w'.edits.push e := congrArg (·.push e) h.edits
  simp only [Walk.edit]
  by_cases hrefused : w.refusal.isSome
  · rw [if_pos hrefused, if_pos (h.refusal ▸ hrefused)]
    exact h
  · rw [if_neg hrefused, if_neg (h.refusal ▸ hrefused)]
    rcases h.session.edit e with ⟨t, t', ht, ht', halike⟩ | ⟨r, hr, hr'⟩
    · rw [ht, ht']
      exact ⟨halike, hedits, h.events, h.refusal⟩
    · rw [hr, hr']
      exact ⟨h.session, hedits, h.events, rfl⟩

lemma send (h : w.Alike w') (event : Event) : (w.send event).Alike (w'.send event) := by
  have hpush : ∀ {v v' : Walk}, v.Alike v' →
      Walk.Alike { v with events := v.events.push event }
        { v' with events := v'.events.push event } := by
    intro v v' hv
    exact { hv with events := congrArg (·.push event) hv.events }
  simp only [Walk.send]
  cases event.line? with
  | none => exact hpush h
  | some line => exact hpush (h.edit _)

lemma sendAll (h : w.Alike w') (events : List Event) :
    (events.foldl Walk.send w).Alike (events.foldl Walk.send w') := by
  induction events generalizing w w' with
  | nil => exact h
  | cons event events ih => exact ih (h.send event)

lemma assign (h : w.Alike w') (binding : Option Binding) :
    (w.assign binding).Alike (w'.assign binding) := by
  cases binding with
  | none => exact h
  | some b => exact h.edit (.setVariable b.name b.value)

lemma finish (h : w.Alike w') : w.finish.Alike w'.finish := by
  simp only [Walk.finish, h.events]
  split
  · exact (h.edit _).edit _
  · exact ((h.send _).edit _).edit _

lemma fail (h : w.Alike w') (kind : FlowErrorKind) (reason : String) :
    (w.fail kind reason).Alike (w'.fail kind reason) :=
  (h.send _).finish

lemma perform (h : w.Alike w') (step : Step) :
    Progress.Alike (w.perform step) (w'.perform step) := by
  have hsent := (h.assign step.binding).sendAll step.events
  simp only [Walk.perform]
  cases step.outcome with
  | goOn node => exact .moving (hsent.edit _)
  | awaitInput => exact .settled (hsent.edit _)
  | awaitExternal request => exact .settled ((hsent.edit _).edit _)
  | stop => exact .settled hsent.finish

lemma step (h : w.Alike w') (stimulus : Option Stimulus) :
    Progress.Alike (w.step stimulus) (w'.step stimulus) := by
  have hnodes : (w.node? = none ∧ w'.node? = none) ∨
      ∃ n m, w.node? = some n ∧ w'.node? = some m ∧ n.id = m.id ∧ n.kind = m.kind := by
    simp only [Walk.node?, h.session.node]
    cases w'.session.node with
    | none => exact .inl ⟨rfl, rfl⟩
    | some id =>
      -- The nodes need not be equal: they may be drawn at different places.
      exact Flow.node?_of_kind? (h.session.flow.kind? id)
  simp only [Walk.step]
  rcases hnodes with ⟨hn, hm⟩ | ⟨n, m, hn, hm, hid, hkind⟩
  · have hreason : lostReason w.session = lostReason w'.session := by
      simp only [lostReason, h.session.id, h.session.node]
    rw [hn, hm, hreason]
    exact .settled (h.fail _ _)
  · have hstep := Step.ofNode_alike h.session.outlook hid hkind stimulus
    rw [hn, hm]
    show Progress.Alike (w.perform (Step.ofNode n w.session stimulus)) _
    rw [hstep]
    exact h.perform _

lemma steps (h : w.Alike w') (ceiling : Nat) (stimulus : Option Stimulus) (left : Nat) :
    (w.steps ceiling stimulus left).Alike (w'.steps ceiling stimulus left) := by
  induction left generalizing w w' stimulus with
  | zero =>
    have hreason : ceilingReason ceiling w.session = ceilingReason ceiling w'.session := by
      simp only [ceilingReason, h.session.node]
    simp only [Walk.steps, hreason]
    exact h.fail _ _
  | succ left ih =>
    have hstep := h.step stimulus
    simp only [Walk.steps]
    generalize w.step stimulus = p, w'.step stimulus = p' at hstep
    cases hstep with
    | settled hv => exact hv
    | moving hv =>
      simp only [hv.refusal]
      split
      · exact hv
      · exact ih hv none

/-- Walks that are alike run alike. -/
theorem run (h : w.Alike w') (ceiling : Nat) (stimulus : Option Stimulus) :
    (w.run ceiling stimulus).Alike (w'.run ceiling stimulus) :=
  ((h.edit _).edit _).steps ceiling stimulus ceiling

end Alike

end Walk

end Dialogue
