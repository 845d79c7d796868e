import Dialogue.Session.Edit
import Mathlib.Tactic.Common

/-!
# What edits keep

An edit sets the field that it is named for and leaves the others as they were: `Session.Edited`. So
whatever edits a session has had, it has its name and its flow, the node that it has reached is one
of that flow, and its latest input is the last line of the user.
-/

namespace Dialogue

namespace Session

variable {s s' s'' : Session} {e : Edit} {edits : List Edit} {id : String}

/-! ### Single edits -/

/-- What an edit makes of a session. A line of the user is also the latest input. -/
inductive Edited (s : Session) : Edit → Session → Prop where
  | setVariable {name value : String} :
      Edited s (.setVariable name value) { s with vars := s.vars.insert name value }
  | advanceTo {node : String} (found : (s.flow.node? node).isSome) :
      Edited s (.advanceTo node) { s with node := some node }
  | setStatus {status : Status} : Edited s (.setStatus status) { s with status }
  | setPending {pending : Option ExternalRequest} :
      Edited s (.setPending pending) { s with pending }
  | recordReply {text : String} :
      Edited s (.record .user text)
        { s with transcript := s.transcript.push ⟨.user, text⟩, lastInput := some text }
  | record {speaker : Speaker} {text : String} (other : speaker ≠ .user) :
      Edited s (.record speaker text)
        { s with transcript := s.transcript.push ⟨speaker, text⟩ }

lemma edited_of_edit (h : s.edit e = .ok s') : s.Edited e s' := by
  cases e with
  | setVariable name value =>
    cases h
    exact .setVariable
  | advanceTo node =>
    simp only [edit] at h
    split at h
    · next found =>
      cases h
      exact .advanceTo found
    · cases h
  | setStatus status =>
    cases h
    exact .setStatus
  | setPending pending =>
    cases h
    exact .setPending
  | record speaker text =>
    cases h
    by_cases huser : speaker = .user
    · subst huser
      exact .recordReply
    · simp only [say, if_neg huser]
      exact .record huser

lemma Edited.edit (h : s.Edited e s') : s.edit e = .ok s' := by
  cases h with
  | advanceTo found => exact if_pos found
  | record other => simp only [Session.edit, say, if_neg other]
  | _ => rfl

/-- The only edit that is refused is an advance to a node that the flow does not have. -/
lemma edit_eq_error_iff {r : Refusal} :
    s.edit e = .error r ↔
      ∃ node, e = .advanceTo node ∧ s.flow.node? node = none ∧ r = .unknownNode s.id node := by
  cases e with
  | advanceTo node =>
    cases hnode : s.flow.node? node with
    | none => simp [edit, hnode, eq_comm]
    | some n => simp [edit, hnode]
  | _ => simp [edit]

/-- An edit leaves a session its name and its flow. -/
lemma Edited.keeps (h : s.Edited e s') : s'.id = s.id ∧ s'.flow = s.flow := by
  cases h <;> exact ⟨rfl, rfl⟩

/-! ### Edits one after the other -/

/-- The session at the end of edits that are made one after the other. -/
def editAll (s : Session) (edits : List Edit) : Except Refusal Session :=
  edits.foldlM Session.edit s

lemma editAll_append_singleton (h : s.editAll edits = .ok s') (he : s'.edit e = .ok s'') :
    s.editAll (edits ++ [e]) = .ok s'' := by
  simp only [editAll] at h ⊢
  rw [List.foldlM_append, h]
  show List.foldlM Session.edit s' [e] = Except.ok s''
  rw [List.foldlM_cons, he]
  rfl

/-- The first of edits that are all made is made. -/
lemma edited_of_editAll_cons (h : s.editAll (e :: edits) = .ok s') :
    ∃ s₁, s.Edited e s₁ ∧ s₁.editAll edits = .ok s' := by
  simp only [editAll, List.foldlM_cons] at h
  cases he : s.edit e with
  | error r =>
    rw [he] at h
    cases h
  | ok s₁ =>
    rw [he] at h
    exact ⟨s₁, edited_of_edit he, h⟩

/-- What every edit keeps is kept by edits one after the other. -/
lemma editAll_induction {p : Session → Prop}
    (hedit : ∀ {s s' : Session} {e : Edit}, s.Edited e s' → p s → p s') (hs : p s)
    (h : s.editAll edits = .ok s') : p s' := by
  induction edits generalizing s with
  | nil =>
    cases h
    exact hs
  | cons e edits ih =>
    obtain ⟨s₁, hedited, hrest⟩ := edited_of_editAll_cons h
    exact ih (hedit hedited hs) hrest

lemma editAll_keeps (h : s.editAll edits = .ok s') : s'.id = s.id ∧ s'.flow = s.flow := by
  refine editAll_induction (p := fun s₁ => s₁.id = s.id ∧ s₁.flow = s.flow) ?_ ⟨rfl, rfl⟩ h
  intro s₁ s₂ e hedited hkept
  exact ⟨hedited.keeps.1.trans hkept.1, hedited.keeps.2.trans hkept.2⟩

/-! ### The latest input -/

/-- The latest input is the last line of the user. -/
def RemembersInput (s : Session) : Prop :=
  s.lastInput = ((s.transcript.toList.filter (·.speaker = .user)).getLast?).map (·.text)

lemma remembersInput_new (id : String) (flow : Flow) : RemembersInput { id, flow } := rfl

lemma Edited.remembersInput (h : s.Edited e s') (hs : s.RemembersInput) : s'.RemembersInput := by
  simp only [RemembersInput] at hs ⊢
  cases h with
  | recordReply => simp
  | record other => simp [other, hs]
  | _ => exact hs

lemma RemembersInput.editAll (hs : s.RemembersInput) (h : s.editAll edits = .ok s') :
    s'.RemembersInput :=
  editAll_induction Edited.remembersInput hs h

/-! ### Sessions in order -/

/-- The session has the name `id`, is at a node of its flow or at none yet, and knows the latest
input. -/
structure InOrder (id : String) (s : Session) : Prop where
  name : s.id = id
  placed : ∀ node, s.node = some node → (s.flow.node? node).isSome
  remembersInput : s.RemembersInput

lemma inOrder_new (id : String) (flow : Flow) : InOrder id { id, flow } where
  name := rfl
  placed _ h := nomatch h
  remembersInput := remembersInput_new id flow

lemma Edited.placed (h : s.Edited e s')
    (hs : ∀ node, s.node = some node → (s.flow.node? node).isSome) :
    ∀ node, s'.node = some node → (s'.flow.node? node).isSome := by
  cases h with
  | advanceTo found =>
    rintro node ⟨⟩
    exact found
  | _ => exact hs

lemma InOrder.edited (hs : s.InOrder id) (h : s.Edited e s') : s'.InOrder id where
  name := h.keeps.1.trans hs.name
  placed := h.placed hs.placed
  remembersInput := h.remembersInput hs.remembersInput

end Session

end Dialogue
