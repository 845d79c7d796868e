import Dialogue.Proofs.Engine.Rest
import Dialogue.Proofs.Step.Answer
import Dialogue.Proofs.Walk.Assigned

/-!
# Variables

A call sets one variable at most. Which one hangs on the node at which the session has waited and on
what the call brings, not on how far the walk goes from there or on how it ends: an input node keeps
the reply, an api node what it asks for of a response that tells of success. All other variables
stay as they were.
-/

namespace Dialogue

/-- The variable that a change of a store sets. -/
def Change.binding? : Change → Option Binding
  | .edit _ e => e.binding?
  | _ => none

namespace Engine

variable {e : Engine} {c : Call} {o : Opening} {binding binding' : Option Binding}
  {vars vars' : Table String}

/-- The variables with which a call finds its session, and the one that it sets. -/
inductive Assigns (e : Engine) : Call → Table String → Option Binding → Prop where
  | start {id : String} {flow : Flow} : Assigns e (.start id flow) ∅ none
  | startNodes {id : String} {nodes : List Node} {edges : List Edge} :
      Assigns e (.startNodes id nodes edges) ∅ none
  /-- An input node keeps the reply as it is, if it has a variable for it. -/
  | reply {id input : String} {s : Session} {n : Node} {saveAs : Option String}
      (stored : e.store.get? id = some s) (place : s.place? = some n)
      (kind : n.kind = .input saveAs) :
      Assigns e (.resume id input) s.vars (saveAs.map fun name => ⟨name, input⟩)
  /-- An api node keeps what it asks for. -/
  | answer {id value : String} {response : ApiResponse} {s : Session} {n : Node} {call : ApiCall}
      (stored : e.store.get? id = some s) (place : s.place? = some n) (kind : n.kind = .api call)
      (success : 200 ≤ response.status ∧ response.status ≤ 299)
      (part : call.part? response = some value) :
      Assigns e (.complete id (.httpSucceeded response)) s.vars
        (some ⟨call.saveAs.getD "api_response", value⟩)
  /-- In every other case nothing is kept. -/
  | nothing {id : String} {result : ExternalResult} {s : Session} {n : Node}
      (stored : e.store.get? id = some s) (place : s.place? = some n)
      (unanswered : ∀ call response value, n.kind = .api call → result = .httpSucceeded response →
        200 ≤ response.status ∧ response.status ≤ 299 → call.part? response ≠ some value) :
      Assigns e (.complete id result) s.vars none

/-- What a call sets is determined. -/
lemma Assigns.unique (h : e.Assigns c vars binding) (h' : e.Assigns c vars' binding') :
    vars' = vars ∧ binding' = binding := by
  cases h with
  | start | startNodes =>
    cases h'
    exact ⟨rfl, rfl⟩
  | reply stored place kind =>
    cases h' with
    | reply stored' place' kind' =>
      obtain rfl := Option.some.inj (stored.symm.trans stored')
      obtain rfl := Option.some.inj (place.symm.trans place')
      obtain rfl := NodeKind.input.inj (kind.symm.trans kind')
      exact ⟨rfl, rfl⟩
  | answer stored place kind success part =>
    cases h' with
    | answer stored' place' kind' success' part' =>
      obtain rfl := Option.some.inj (stored.symm.trans stored')
      obtain rfl := Option.some.inj (place.symm.trans place')
      obtain rfl := NodeKind.api.inj (kind.symm.trans kind')
      obtain rfl := Option.some.inj (part.symm.trans part')
      exact ⟨rfl, rfl⟩
    | nothing stored' place' unanswered' =>
      obtain rfl := Option.some.inj (stored.symm.trans stored')
      obtain rfl := Option.some.inj (place.symm.trans place')
      exact absurd part (unanswered' _ _ _ kind rfl success)
  | nothing stored place unanswered =>
    cases h' with
    | answer stored' place' kind' success' part' =>
      obtain rfl := Option.some.inj (stored.symm.trans stored')
      obtain rfl := Option.some.inj (place.symm.trans place')
      exact absurd part' (unanswered _ _ _ kind' rfl success')
    | nothing stored' place' unanswered' =>
      obtain rfl := Option.some.inj (stored.symm.trans stored')
      exact ⟨rfl, rfl⟩

/-! ### Accepted calls -/

lemma Opens.assigned_eq (h : e.Opens c o) : o.walk.assigned = [] := by
  cases h with
  | @start id flow | @startNodes id nodes edges valid =>
    exact Walk.assigned_edit _ (.advanceTo _) rfl
  | @resume id input s => exact Walk.assigned_edit _ (.record .user input) rfl
  | complete => rfl

/-- The node from which the walk of a call sets out has the variable that the call sets. -/
lemma Orderly.assigns (h : e.Orderly) (ho : e.Opens c o) :
    ∃ s n, Walk.Reached o.origin s [] o.walk ∧ s.place? = some n ∧
      e.Assigns c o.origin.vars (n.kind.binding? o.stimulus) := by
  cases ho with
  | @start id flow absent =>
    refine ⟨_, flow.start, .advanceTo .begin Flow.isSome_node?_start,
      Flow.node?_of_mem flow.start_mem, ?_⟩
    rw [show (Opening.ofFlow id flow).stimulus = none from rfl, NodeKind.binding?_none]
    exact .start
  | @startNodes id nodes edges valid absent =>
    refine ⟨_, _, .advanceTo .begin Flow.isSome_node?_start,
      Flow.node?_of_mem (Flow.start_mem _), ?_⟩
    rw [show (Opening.ofFlow id ⟨_, nodes, edges, valid⟩).stimulus = none from rfl,
      NodeKind.binding?_none]
    exact .startNodes
  | @resume id input s stored waits =>
    obtain ⟨_, n, saveAs, place, kind⟩ := (h.atRest _ _ stored).awaitingInput waits
    refine ⟨_, n, .record .begin .user input, place, ?_⟩
    rw [kind]
    exact .reply stored place kind
  | @complete id result s stored waits =>
    obtain ⟨n, place, hwaits⟩ := (h.atRest _ _ stored).awaitingExternal waits
    refine ⟨_, n, .begin, place, ?_⟩
    have hnothing : (∀ call response value, n.kind = .api call →
        result = .httpSucceeded response → Step.responseValue call response ≠ .ok value) →
          e.Assigns (.complete id result) s.vars none := by
      intro hunanswered
      refine .nothing stored place fun call response value kind hresult hsuccess hpart => ?_
      exact hunanswered call response value kind hresult
        (Step.responseValue_eq_ok_iff.mpr ⟨hsuccess, hpart⟩)
    rcases hwaits with ⟨seconds, kind, _⟩ | ⟨call, kind, _⟩
    · rw [kind]
      exact hnothing fun call response value kind' => by simp [kind] at kind'
    · rw [kind]
      cases result with
      | delayElapsed | httpFailed => exact hnothing fun _ _ _ _ hresult => by cases hresult
      | httpSucceeded response =>
        cases hanswer : Step.responseValue call response with
        | ok value =>
          obtain ⟨success, part⟩ := Step.responseValue_eq_ok_iff.mp hanswer
          simp only [Opening.ofResult, NodeKind.binding?, hanswer]
          exact .answer stored place kind success part
        | error reason =>
          simp only [Opening.ofResult, NodeKind.binding?, hanswer]
          refine hnothing fun call' response' value kind' hresult hvalue => ?_
          obtain rfl := NodeKind.api.inj (kind.symm.trans kind')
          obtain rfl := ExternalResult.httpSucceeded.inj hresult
          rw [hanswer] at hvalue
          cases hvalue

/-- The journal of an accepted call sets the variables that its walk sets. -/
lemma Opens.binding?_journal (h : e.Opens c o) :
    (e.take c).journal.filterMap Change.binding? = (o.run e.config.maxSteps).assigned := by
  have hchanges : o.changes.filterMap Change.binding? = [] := by
    cases h <;> rfl
  have hedits : ∀ edits : List Edit,
      (edits.map (Change.edit c.session)).filterMap Change.binding? =
        edits.filterMap Edit.binding? := fun edits => List.filterMap_map
  rw [h.journal_take, List.filterMap_append, List.filterMap_append, hchanges, hedits]
  split
  · exact List.append_nil _
  · exact List.append_nil _

/-- A call leaves its session with the variables of the beginning and the ones that its walk sets. -/
lemma Opens.vars_run (h : e.Opens c o) (ceiling : Nat) :
    (o.run ceiling).session.vars = bindAll o.origin.vars (o.run ceiling).assigned := by
  obtain ⟨_, _, _, _, hover⟩ := h.over ceiling
  exact hover.vars_eq

/-- Whatever the walk of a call comes to, it sets the variable of the answered node and no other. -/
lemma Orderly.assigned_run (h : e.Orderly) (ho : e.Opens c o) (hpos : 1 ≤ e.config.maxSteps) :
    ∃ binding, e.Assigns c o.origin.vars binding ∧
      (o.run e.config.maxSteps).assigned = binding.toList := by
  obtain ⟨s, n, hreached, hplace, hassigns⟩ := h.assigns ho
  refine ⟨_, hassigns, ?_⟩
  have hrun := hreached.assigned_run hplace hpos o.stimulus
  rw [ho.assigned_eq] at hrun
  exact hrun

/-- After any calls on an engine that began empty, a call that gets a turn changes the variables of
its session by the one that the answered node sets, whatever the walk comes to: this variable, or
none, is set in the journal, and the session that is kept has it. -/
theorem turn_assigns (config : EngineConfig) (hceiling : 1 ≤ config.maxSteps) (calls : List Call)
    (c : Call) (t : Turn)
    (h : (((⟨∅, config⟩ : Engine).takeAll calls).engine.take c).result = .turn t) :
    let e := ((⟨∅, config⟩ : Engine).takeAll calls).engine
    ∃ vars binding, e.Assigns c vars binding ∧
      (∀ vars' binding', e.Assigns c vars' binding' → vars' = vars ∧ binding' = binding) ∧
      (e.take c).journal.filterMap Change.binding? = binding.toList ∧
      match (e.take c).engine.store.get? c.session with
      | some s => s.vars = binding.elim vars fun b => vars.insert b.name b.value
      | none => config.evictEnded ∧ t.status = .ended := by
  intro e
  have horderly : e.Orderly := (orderly_empty config).takeAll calls
  have hconfig : e.config = config := takeAll_config _ calls
  obtain ⟨o, ho, rfl⟩ := opens_of_turn h
  rw [← hconfig] at hceiling
  obtain ⟨binding, hassigns, hassigned⟩ := horderly.assigned_run ho hceiling
  have hvars := ho.vars_run e.config.maxSteps
  rw [hassigned] at hvars
  refine ⟨o.origin.vars, binding, hassigns, fun _ _ => hassigns.unique, ?_, ?_⟩
  · rw [← hassigned]
    exact ho.binding?_journal
  · rw [ho.get?_take]
    split
    · next s' hs' =>
      split at hs'
      · cases hs'
      · cases hs'
        rw [hvars]
        cases binding <;> rfl
    · next hs' =>
      split at hs'
      · next hdrop =>
        have hevict : e.config.evictEnded := hdrop.2
        rw [hconfig] at hevict
        exact ⟨hevict, hdrop.1⟩
      · cases hs'

/-- The reply `Ada` is kept, in a turn that ends the session at the ceiling. -/
theorem turn_assigns_sample :
    let e := ((⟨∅, { maxSteps := 2 }⟩ : Engine).takeAll [.start "a" .sample]).engine
    ∃ t, (e.take (.resume "a" "Ada")).result = .turn t ∧ t.status = .ended ∧
      e.Assigns (.resume "a" "Ada") ∅ (some ⟨"name", "Ada"⟩) ∧
      (e.take (.resume "a" "Ada")).journal.filterMap Change.binding? = [⟨"name", "Ada"⟩] ∧
      ∃ s, (e.take (.resume "a" "Ada")).engine.store.get? "a" = some s ∧
        s.vars = (∅ : Table String).insert "name" "Ada" := by
  intro e
  have hturn : (e.take (.resume "a" "Ada")).result =
      .turn ⟨"a", .ended, [.flowError .infiniteLoop
          "executed 2 nodes without waiting for input; last node 'greet'",
        .endOfConversation], none⟩ := by
    decide +kernel
  have hstored : e.store.get? "a" =
      some ⟨"a", .sample, some "ask", ∅, none, .awaitingInput, none, #[]⟩ := by
    decide +kernel
  have hkept : ((e.take (.resume "a" "Ada")).engine.store.get? "a").isSome := by
    decide +kernel
  have hreply : e.Assigns (.resume "a" "Ada") ∅ (some ⟨"name", "Ada"⟩) :=
    .reply hstored rfl rfl
  obtain ⟨vars, binding, _, hunique, hjournal, hvars⟩ :=
    turn_assigns { maxSteps := 2 } (by decide) [.start "a" .sample] _ _ hturn
  obtain ⟨rfl, rfl⟩ := hunique _ _ hreply
  obtain ⟨s, hs⟩ := Option.isSome_iff_exists.mp hkept
  rw [show (Call.resume "a" "Ada").session = "a" from rfl, hs] at hvars
  exact ⟨_, hturn, rfl, hreply, hjournal, s, hs, hvars⟩

end Engine

end Dialogue
