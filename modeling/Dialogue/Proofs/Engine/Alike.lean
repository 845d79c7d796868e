import Dialogue.Engine.Call
import Dialogue.Proofs.Walk.Alike
import Mathlib.Data.List.Forall2

/-!
# Engines that are alike

Engines are alike when under every name they keep alike sessions, or none. Calls that differ only in
flows that are alike get the same turns and refusals from them, and leave them alike again.
-/

namespace Dialogue

/-! ### Calls and responses -/

/-- The calls are the same, but that they may start a session on flows that are alike. -/
inductive Call.Alike : Call → Call → Prop where
  | start {id : String} {f g : Flow} (h : f.Alike g) : Alike (.start id f) (.start id g)
  | startNodes {id : String} {nodes nodes' : List Node} {edges edges' : List Edge} {f g : Flow}
      (valid : Flow.ofGraph Flow.defaultName nodes edges = .ok f)
      (valid' : Flow.ofGraph Flow.defaultName nodes' edges' = .ok g) (h : f.Alike g) :
      Alike (.startNodes id nodes edges) (.startNodes id nodes' edges')
  | same (c : Call) : Alike c c

/-- The call with one flow in place of another. -/
def Call.inPlace (f g : Flow) : Call → Call
  | start session flow => .start session (if flow = f then g else flow)
  | c => c

lemma Call.alike_inPlace {f g : Flow} (h : f.Alike g) (c : Call) : c.Alike (c.inPlace f g) := by
  cases c with
  | start session flow =>
    simp only [inPlace]
    split
    · next heq => exact .start (heq ▸ h)
    · exact .same _
  | _ => exact .same _

/-- The responses are the same, but for what a dropped session tells of its flow. -/
inductive Response.Alike : Response → Response → Prop where
  | turn (t : Turn) : Alike (.turn t) (.turn t)
  | refused (r : Refusal) : Alike (.refused r) (.refused r)
  | dropped {s s' : Option Session} (h : s.Rel Session.Alike s') : Alike (.dropped s) (.dropped s')
  | archived {s s' : Session} (h : s.Alike s') :
      Alike (.archived (.ofSession s)) (.archived (.ofSession s'))

lemma Response.Alike.turn?_eq {r r' : Response} (h : r.Alike r') : r.turn? = r'.turn? := by
  cases h <;> rfl

lemma Response.alike_ofTurn (r : Except Refusal Turn) : (ofTurn r).Alike (ofTurn r) := by
  cases r with
  | ok t => exact .turn t
  | error r => exact .refused r

namespace Engine

/-! ### Engines -/

/-- The engines have the same settings, and alike sessions under the same names. -/
structure Alike (e e' : Engine) : Prop where
  config : e.config = e'.config
  stored : ∀ id, (e.store.get? id).Rel Session.Alike (e'.store.get? id)

/-- The engines after the answers are alike, and the results stand in a relation. -/
structure AlikeAfter {α : Type} (R : α → α → Prop) (a a' : Answer α) : Prop where
  result : R a.result a'.result
  engine : a.engine.Alike a'.engine

variable {e e' : Engine} {id : String}

lemma AlikeAfter.map {α β : Type} {R : α → α → Prop} {S : β → β → Prop} {a a' : Answer α}
    (h : AlikeAfter R a a') {f : α → β} (hf : ∀ x y, R x y → S (f x) (f y)) :
    AlikeAfter S (a.map f) (a'.map f) where
  result := hf _ _ h.result
  engine := h.engine

lemma Alike.refl (e : Engine) : e.Alike e where
  config := rfl
  stored id := by
    cases e.store.get? id with
    | none => exact .none
    | some s => exact .some (.refl s)

namespace Alike

lemma insert (h : e.Alike e') {s s' : Session} (hs : s.Alike s') (id : String) :
    Alike { e with store := e.store.insert id s } { e' with store := e'.store.insert id s' } where
  config := h.config
  stored id' := by
    show ((e.store.insert id s).get? id').Rel _ ((e'.store.insert id s').get? id')
    rw [Table.get?_insert, Table.get?_insert]
    split
    · exact .some hs
    · exact h.stored id'

lemma erase (h : e.Alike e') (id : String) :
    Alike { e with store := e.store.erase id } { e' with store := e'.store.erase id } where
  config := h.config
  stored id' := by
    show ((e.store.erase id).get? id').Rel _ ((e'.store.erase id).get? id')
    rw [Table.get?_erase, Table.get?_erase]
    split
    · exact .none
    · exact h.stored id'

lemma settle (h : e.Alike e') {w w' : Walk} (hw : w.Alike w') (id : String)
    (opening opening' : List Change) :
    AlikeAfter (· = ·) (e.settle id opening w) (e'.settle id opening' w') := by
  have hinserted := h.insert hw.session id
  have hturn : turnOf id w = turnOf id w' := by
    simp only [turnOf, hw.session.status, hw.session.pending, hw.events]
  have hdrops : (w.session.status = .ended ∧ e.config.evictEnded) ↔
      w'.session.status = .ended ∧ e'.config.evictEnded := by
    rw [hw.session.status, h.config]
  simp only [Engine.settle]
  rw [hw.refusal]
  cases w'.refusal with
  | some r => exact ⟨rfl, hinserted⟩
  | none =>
    by_cases hdrop : w.session.status = .ended ∧ e.config.evictEnded
    · simp only [if_pos hdrop, if_pos (hdrops.mp hdrop)]
      exact ⟨congrArg Except.ok hturn, hinserted.erase id⟩
    · simp only [if_neg hdrop, if_neg (mt hdrops.mpr hdrop)]
      exact ⟨congrArg Except.ok hturn, hinserted⟩

lemma start (h : e.Alike e') (id : String) {f g : Flow} (hflow : f.Alike g) :
    AlikeAfter (· = ·) (e.start id f) (e'.start id g) := by
  have hstored := h.stored id
  simp only [Engine.start, h.config]
  generalize e.store.get? id = found, e'.store.get? id = found' at hstored
  cases hstored with
  | some hs => exact ⟨rfl, h⟩
  | none =>
    have hw : Walk.Alike { session := { id, flow := f } } { session := { id, flow := g } } :=
      ⟨Session.alike_new id hflow, rfl, rfl, rfl⟩
    simp only [hflow.start_id]
    exact h.settle ((hw.edit _).run _ none) id _ _

/-- A session that waits in one engine waits in the other. -/
lemma waiting (h : e.Alike e') (id : String) (expected : Status) :
    (∃ s s', e.waiting id expected = .ok s ∧ e'.waiting id expected = .ok s' ∧ s.Alike s') ∨
      ∃ r, e.waiting id expected = .error r ∧ e'.waiting id expected = .error r := by
  have hstored := h.stored id
  simp only [Engine.waiting]
  generalize e.store.get? id = found, e'.store.get? id = found' at hstored
  cases hstored with
  | none => exact .inr ⟨_, rfl, rfl⟩
  | @some s s' hs =>
    simp only [hs.status]
    split
    · exact .inl ⟨s, s', rfl, rfl, hs⟩
    · exact .inr ⟨_, rfl, rfl⟩

lemma resume (h : e.Alike e') (id input : String) :
    AlikeAfter (· = ·) (e.resume id input) (e'.resume id input) := by
  simp only [Engine.resume, h.config]
  rcases h.waiting id .awaitingInput with ⟨s, s', hs, hs', halike⟩ | ⟨r, hr, hr'⟩
  · have hw : Walk.Alike { session := s } { session := s' } := ⟨halike, rfl, rfl, rfl⟩
    rw [hs, hs']
    exact h.settle ((hw.edit _).run _ _) id _ _
  · rw [hr, hr']
    exact ⟨rfl, h⟩

lemma complete (h : e.Alike e') (id : String) (result : ExternalResult) :
    AlikeAfter (· = ·) (e.complete id result) (e'.complete id result) := by
  simp only [Engine.complete, h.config]
  rcases h.waiting id .awaitingExternal with ⟨s, s', hs, hs', halike⟩ | ⟨r, hr, hr'⟩
  · have hw : Walk.Alike { session := s } { session := s' } := ⟨halike, rfl, rfl, rfl⟩
    rw [hs, hs']
    exact h.settle (hw.run _ _) id _ _
  · rw [hr, hr']
    exact ⟨rfl, h⟩

lemma destroy (h : e.Alike e') (id : String) :
    AlikeAfter (Option.Rel Session.Alike) (e.destroy id) (e'.destroy id) :=
  ⟨h.stored id, h.erase id⟩

lemma archive (h : e.Alike e') (id : String) :
    AlikeAfter Response.Alike ((e.archive id).map .ofArchive) ((e'.archive id).map .ofArchive) := by
  obtain ⟨hresult, hengine⟩ := h.destroy id
  refine ⟨?_, hengine⟩
  simp only [Engine.archive, Answer.map]
  generalize (e.destroy id).result = found, (e'.destroy id).result = found' at hresult
  cases hresult with
  | none => exact .refused _
  | some hs => exact .archived hs

/-! ### Runs -/

lemma take (h : e.Alike e') {c c' : Call} (hc : c.Alike c') :
    AlikeAfter Response.Alike (e.take c) (e'.take c') := by
  have hturn : ∀ x y : Except Refusal Turn, x = y → (Response.ofTurn x).Alike (.ofTurn y) := by
    rintro x _ rfl
    exact Response.alike_ofTurn x
  cases hc with
  | start hflow => exact (h.start _ hflow).map hturn
  | startNodes valid valid' hflow =>
    simp only [Engine.take, Engine.startNodes, valid, valid']
    exact (h.start _ hflow).map hturn
  | same c => cases c with
    | start id flow => exact (h.start id (.refl flow)).map hturn
    | startNodes id nodes edges =>
      simp only [Engine.take, Engine.startNodes]
      cases Flow.ofGraph Flow.defaultName nodes edges with
      | error violation => exact ⟨.refused _, h⟩
      | ok flow => exact (h.start id (.refl flow)).map hturn
    | resume id input => exact (h.resume id input).map hturn
    | complete id result => exact (h.complete id result).map hturn
    | destroy id => exact (h.destroy id).map fun _ _ hs => .dropped hs
    | archive id => exact h.archive id

/-- Engines that are alike answer calls that are alike in the same way, however many there are. -/
theorem takeAll (h : e.Alike e') {calls calls' : List Call}
    (hcalls : calls.Forall₂ Call.Alike calls') :
    AlikeAfter (List.Forall₂ Response.Alike) (e.takeAll calls) (e'.takeAll calls') := by
  induction hcalls generalizing e e' with
  | nil => exact ⟨.nil, h⟩
  | cons hc _ ih =>
    have hfirst := h.take hc
    have hrest := ih hfirst.engine
    exact ⟨.cons hfirst.result hrest.result, hrest.engine⟩

end Alike

/-- The turns that calls get, none where a call gets something else. -/
def turns (e : Engine) (calls : List Call) : List (Option Turn) :=
  (e.takeAll calls).result.map Response.turn?

/-- Conversations go on a flow as they go on one that is alike. -/
theorem turns_inPlace {f g : Flow} (h : f.Alike g) (e : Engine) (calls : List Call) :
    e.turns (calls.map (·.inPlace f g)) = e.turns calls := by
  have hcalls : calls.Forall₂ Call.Alike (calls.map (·.inPlace f g)) :=
    List.forall₂_map_right_iff.mpr (List.forall₂_same.mpr fun c _ => Call.alike_inPlace h c)
  have hturns := ((Alike.refl e).takeAll hcalls).result.imp fun _ _ hr => hr.turn?_eq
  rw [← List.forall₂_map_right_iff, ← List.forall₂_map_left_iff, List.forall₂_eq_eq_eq] at hturns
  exact hturns.symm

end Engine

end Dialogue
