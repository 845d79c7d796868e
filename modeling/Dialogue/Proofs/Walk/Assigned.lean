import Dialogue.Proofs.Step.Way
import Dialogue.Proofs.Walk.After

/-!
# Variables on the way

The variables of a session change by the edits that set them and by nothing else, so the journal of
a walk tells what becomes of them. However far a run goes, this journal sets one variable at most:
that of its first node, which alone can have been woken.
-/

namespace Dialogue

/-! ### Edits that set variables -/

/-- The variable that an edit sets. -/
def Edit.binding? : Edit → Option Binding
  | setVariable name value => some ⟨name, value⟩
  | _ => none

/-- The variables when others have been set, one after the other. -/
def bindAll (vars : Table String) (bindings : List Binding) : Table String :=
  bindings.foldl (fun vars b => vars.insert b.name b.value) vars

lemma bindAll_append (vars : Table String) (bindings bindings' : List Binding) :
    bindAll vars (bindings ++ bindings') = bindAll (bindAll vars bindings) bindings' :=
  List.foldl_append

namespace Session

variable {s s' : Session} {edits : List Edit} {e : Edit}

lemma Edited.vars_eq (h : s.Edited e s') : s'.vars = bindAll s.vars e.binding?.toList := by
  cases h <;> rfl

/-- After edits, the variables are those before them with the ones that they set. -/
lemma vars_editAll (h : s.editAll edits = .ok s') :
    s'.vars = bindAll s.vars (edits.filterMap Edit.binding?) := by
  induction edits generalizing s with
  | nil =>
    cases h
    rfl
  | cons e edits ih =>
    obtain ⟨s₁, hedited, hrest⟩ := edited_of_editAll_cons h
    rw [ih hrest, hedited.vars_eq, ← bindAll_append, List.filterMap_cons]
    cases e.binding? <;> rfl

end Session

/-! ### Walks -/

namespace Walk

/-- The variables that a walk has set, in order. -/
def assigned (w : Walk) : List Binding := w.edits.toList.filterMap Edit.binding?

variable {origin s : Session} {events : List Event} {w : Walk} {n : Node}
  {stimulus : Option Stimulus}

/-- A session that is reached has the variables of the beginning with the ones set since. -/
lemma Reached.vars_eq (h : Reached origin s events w) : s.vars = bindAll origin.vars w.assigned :=
  Session.vars_editAll h.edits

lemma assigned_edit (w : Walk) (e : Edit) (h : e.binding? = none) :
    (w.edit e).assigned = w.assigned := by
  simp only [Walk.edit, assigned]
  split
  · rfl
  · split <;> simp [h]

lemma assigned_send (w : Walk) (event : Event) : (w.send event).assigned = w.assigned := by
  simp only [Walk.send]
  cases event.line? with
  | none => rfl
  | some line => exact w.assigned_edit (.record line.speaker line.text) rfl

lemma assigned_sendAll (w : Walk) (events : List Event) :
    (events.foldl Walk.send w).assigned = w.assigned := by
  induction events generalizing w with
  | nil => rfl
  | cons event events ih => rw [List.foldl_cons, ih, assigned_send]

lemma assigned_finish (w : Walk) : w.finish.assigned = w.assigned := by
  simp only [Walk.finish]
  rw [assigned_edit _ (.setPending none) rfl, assigned_edit _ (.setStatus .ended) rfl]
  split
  · rfl
  · exact w.assigned_send _

lemma assigned_fail (w : Walk) (kind : FlowErrorKind) (reason : String) :
    (w.fail kind reason).assigned = w.assigned := by
  simp only [Walk.fail, assigned_finish, assigned_send]

lemma assigned_lead (w : Walk) (outcome : Outcome) :
    (w.lead outcome).walk.assigned = w.assigned := by
  cases outcome with
  | goOn target => exact w.assigned_edit (.advanceTo target) rfl
  | awaitInput => exact w.assigned_edit (.setStatus .awaitingInput) rfl
  | awaitExternal request =>
    exact (assigned_edit _ (.setStatus .awaitingExternal) rfl).trans
      (w.assigned_edit (.setPending (some request)) rfl)
  | stop => exact w.assigned_finish

lemma Reached.assigned_assign (h : Reached origin s events w) (binding : Option Binding) :
    (w.assign binding).assigned = w.assigned ++ binding.toList := by
  cases binding with
  | none => exact (List.append_nil _).symm
  | some b =>
    simp only [Walk.assign, Walk.edit, assigned, h.accepted]
    simp [Session.edit, Edit.binding?]

/-- A step sets the variable of its node, if it is woken by what it waits for. -/
lemma Reached.assigned_step (h : Reached origin s events w) (hplace : s.place? = some n)
    (stimulus : Option Stimulus) :
    (w.step stimulus).walk.assigned = w.assigned ++ (n.kind.binding? stimulus).toList := by
  have hnode : w.node? = some n := by
    rw [← hplace, ← h.session]
    rfl
  simp only [Walk.step, hnode]
  simp only [Walk.perform, assigned_lead, assigned_sendAll, h.assigned_assign,
    Step.binding_ofNode]

lemma Reached.assigned_step_asleep (h : Reached origin s events w) :
    (w.step none).walk.assigned = w.assigned := by
  cases hplace : s.place? with
  | none =>
    have hnode : w.node? = none := by
      rw [← hplace, ← h.session]
      rfl
    simp only [Walk.step, hnode]
    exact w.assigned_fail _ _
  | some n =>
    rw [h.assigned_step hplace, NodeKind.binding?_none, Option.toList_none, List.append_nil]

lemma assigned_close (p : Progress) (ceiling : Nat) :
    (p.close ceiling).assigned = p.walk.assigned := by
  cases p with
  | moving w => exact w.assigned_fail _ _
  | settled w => rfl

/-- Steps that nothing wakes set no variables, however many there are. -/
lemma Reached.assigned_after (h : Reached origin s events w) (k : Nat) :
    (w.after none k).walk.assigned = w.assigned := by
  induction k generalizing s events w with
  | zero => rfl
  | succ k ih =>
    have hnext := h.step none
    have hassigned := h.assigned_step_asleep
    simp only [after]
    cases hw : w.step none with
    | settled v =>
      rw [hw] at hassigned
      exact hassigned
    | moving v =>
      rw [hw] at hnext hassigned
      obtain ⟨_, _, hv⟩ := hnext
      exact (ih hv).trans hassigned

/-- A run sets the variable of its first node, if the stimulus is what this node waits for, and no
other. -/
theorem Reached.assigned_run (h : Reached origin s events w) (hplace : s.place? = some n)
    {ceiling : Nat} (hpos : 1 ≤ ceiling) (stimulus : Option Stimulus) :
    (w.run ceiling stimulus).assigned = w.assigned ++ (n.kind.binding? stimulus).toList := by
  obtain ⟨k, rfl⟩ := Nat.exists_eq_add_of_le' hpos
  have hopened : w.opened.assigned = w.assigned :=
    (assigned_edit _ (.setPending none) rfl).trans (w.assigned_edit (.setStatus .running) rfl)
  have hnext := h.opened.step stimulus
  have hassigned := h.opened.assigned_step hplace stimulus
  rw [hopened] at hassigned
  rw [h.run_eq, assigned_close, ← hassigned]
  simp only [after]
  cases hw : w.opened.step stimulus with
  | settled v => rfl
  | moving v =>
    rw [hw] at hnext
    obtain ⟨_, _, hv⟩ := hnext
    exact hv.assigned_after k

end Walk

end Dialogue
