import Dialogue.Proofs.Engine.Calls

/-!
# Which calls are accepted

Whether a call is accepted hangs on the name and the status of the session alone, and for raw nodes
and edges on their validity. After that nothing is refused any more: the changes that the walk asks
of the store are all carried out there, one after the other, and lead to the store of the engine
after the call. A refused call leaves the engine as it was.
-/

namespace Dialogue

/-! ### Journals -/

/-- The store after changes that are made one after the other. -/
def Store.changeAll (store : Store) (journal : List Change) : Except Refusal Store :=
  journal.foldlM Store.change store

namespace Store

lemma changeAll_append {store store' : Store} {journal : List Change} (journal' : List Change)
    (h : store.changeAll journal = .ok store') :
    store.changeAll (journal ++ journal') = store'.changeAll journal' := by
  simp only [changeAll] at h ⊢
  rw [List.foldlM_append, h]
  rfl

/-- Edits that a session takes are taken by a store that has the session. -/
lemma changeAll_edits (store : Store) (id : String) {s s' : Session} {edits : List Edit}
    (h : s.editAll edits = .ok s') :
    changeAll (store.insert id s) (edits.map (.edit id)) = .ok (store.insert id s') := by
  induction edits generalizing s with
  | nil =>
    cases h
    rfl
  | cons e edits ih =>
    obtain ⟨s₁, hedited, hrest⟩ := Session.edited_of_editAll_cons h
    have hchange : change (store.insert id s) (.edit id e) = .ok (store.insert id s₁) := by
      simp only [change, edit, Table.get?_insert_self, hedited.edit, Table.insert_insert_self]
    simp only [changeAll, List.map_cons, List.foldlM_cons, hchange]
    exact ih hrest

end Store

namespace Engine

variable {e : Engine} {c : Call} {o : Opening} {id : String}

/-- The changes before a walk put its session into the store, if it is not there already. -/
lemma Opens.changeAll_changes (h : e.Opens c o) :
    e.store.changeAll o.changes = .ok (e.store.insert c.session o.origin) := by
  have hcreate : ∀ {id flow}, e.store.get? id = none →
      e.store.changeAll [.create id flow] = .ok (e.store.insert id { id, flow }) := by
    intro id flow absent
    simp only [Store.changeAll, List.foldlM_cons, Store.change, Store.create, absent]
    rfl
  cases h with
  | start absent => exact hcreate absent
  | startNodes valid absent => exact hcreate absent
  | resume stored waits => exact congrArg _ (Table.insert_of_get? _ stored).symm
  | complete stored waits => exact congrArg _ (Table.insert_of_get? _ stored).symm

/-- The store carries out every change of an accepted walk. -/
lemma Opens.changeAll_journal (h : e.Opens c o) :
    e.store.changeAll (e.take c).journal = .ok (e.take c).engine.store := by
  obtain ⟨_, _, _, _, hreached⟩ := h.over e.config.maxSteps
  have hedits := Store.changeAll_edits e.store c.session hreached.edits
  have hjournal : e.store.changeAll
      (o.changes ++ (o.run e.config.maxSteps).edits.toList.map (.edit c.session)) =
        .ok (e.store.insert c.session (o.run e.config.maxSteps).session) := by
    rw [Store.changeAll_append _ h.changeAll_changes]
    exact hedits
  rw [h.journal_take, h.take.2, Store.changeAll_append _ hjournal]
  simp only [keep]
  split
  · show Except.ok ((e.store.insert c.session _).erase c.session) = _
    rw [Table.erase_insert_self]
  · rfl

/-! ### Calls one by one -/

lemma start_ok_iff (flow : Flow) :
    (∃ t, (e.start id flow).result = .ok t) ↔ e.store.get? id = none := by
  cases hget : e.store.get? id with
  | none =>
    have hopens : e.Opens (.start id flow) (.ofFlow id flow) := .start hget
    have hturn := (settle_of_accepted e id (Opening.ofFlow id flow).changes
      (hopens.accepted e.config.maxSteps)).1
    rw [← start_of_absent flow hget] at hturn
    exact ⟨fun _ => rfl, fun _ => ⟨_, hturn⟩⟩
  | some s =>
    rw [(start_of_stored flow hget).1]
    simp

lemma start_error_iff (flow : Flow) {r : Refusal} :
    (e.start id flow).result = .error r ↔
      (∃ s, e.store.get? id = some s) ∧ r = .sessionExists id := by
  cases hget : e.store.get? id with
  | none =>
    obtain ⟨t, ht⟩ := (start_ok_iff flow).mpr hget
    rw [ht]
    simp
  | some s =>
    rw [(start_of_stored flow hget).1]
    simp [eq_comm]

lemma startNodes_invalid_iff {nodes : List Node} {edges : List Edge} {violation : GraphError} :
    (e.startNodes id nodes edges).result = .error (.invalidGraph violation) ↔
      Graph.violation? nodes edges = some violation := by
  cases hvalid : Graph.violation? nodes edges with
  | none =>
    rw [startNodes_of_valid hvalid, start_error_iff]
    simp
  | some violation' =>
    rw [startNodes_of_violation hvalid]
    simp [refuse]

/-- A call that asks for a status is accepted where the session waits in it. -/
lemma result_of_waiting {a : Answer (Except Refusal Turn)} {expected : Status}
    (herror : ∀ r, e.waiting id expected = .error r → a = e.refuse r)
    (hok : ∀ s, e.waiting id expected = .ok s → ∃ t, a.result = .ok t) :
    ((∃ t, a.result = .ok t) ↔ ∃ s, e.store.get? id = some s ∧ s.status = expected) ∧
      ∀ r, a.result = .error r ↔ e.Withholds id expected r := by
  simp only [← waiting_eq_ok_iff, ← waiting_eq_error_iff]
  cases hwaiting : e.waiting id expected with
  | error r =>
    rw [herror r hwaiting]
    simp [refuse]
  | ok s =>
    obtain ⟨t, ht⟩ := hok s hwaiting
    rw [ht]
    simp

lemma resume_result (e : Engine) (id input : String) :
    ((∃ t, (e.resume id input).result = .ok t) ↔
      ∃ s, e.store.get? id = some s ∧ s.status = .awaitingInput) ∧
        ∀ r, (e.resume id input).result = .error r ↔ e.Withholds id .awaitingInput r := by
  refine result_of_waiting (fun r hr => resume_of_error input hr) fun s hs => ?_
  obtain ⟨stored, waits⟩ := waiting_eq_ok_iff.mp hs
  have hopens : e.Opens (.resume id input) (.ofReply s input) := .resume stored waits
  rw [resume_of_ok input hs]
  exact ⟨_, (settle_of_accepted e id _ (hopens.accepted _)).1⟩

lemma complete_result (e : Engine) (id : String) (result : ExternalResult) :
    ((∃ t, (e.complete id result).result = .ok t) ↔
      ∃ s, e.store.get? id = some s ∧ s.status = .awaitingExternal) ∧
        ∀ r, (e.complete id result).result = .error r ↔
          e.Withholds id .awaitingExternal r := by
  refine result_of_waiting (fun r hr => complete_of_error result hr) fun s hs => ?_
  obtain ⟨stored, waits⟩ := waiting_eq_ok_iff.mp hs
  have hopens : e.Opens (.complete id result) (.ofResult s result) := .complete stored waits
  rw [complete_of_ok result hs]
  exact ⟨_, (settle_of_accepted e id _ (hopens.accepted _)).1⟩

lemma archive_result (e : Engine) (id : String) :
    ((∃ a, (e.archive id).result = .ok a) ↔ ∃ s, e.store.get? id = some s) ∧
      ∀ r, (e.archive id).result = .error r ↔
        e.store.get? id = none ∧ r = .unknownSession id := by
  simp only [archive, destroy]
  cases e.store.get? id with
  | none => simp [eq_comm]
  | some s => simp

/-! ### All calls -/

/-- A refused call changes nothing. -/
lemma take_of_refused {r : Refusal} (h : (e.take c).result = .refused r) :
    (e.take c).engine = e := by
  have htakes := takes_take e c
  rw [h] at htakes
  generalize (e.take c).engine = e' at htakes ⊢
  cases htakes
  rfl

/-- The store carries out every change of a call that is not refused. -/
lemma changeAll_journal (h : (e.take c).result.isRefused = false) :
    e.store.changeAll (e.take c).journal = .ok (e.take c).engine.store := by
  have htakes := takes_take e c
  generalize (e.take c).result = response, hengine : (e.take c).engine = e' at h htakes ⊢
  cases htakes with
  | refused => cases h
  | turned o opens =>
    rw [← hengine]
    exact opens.changeAll_journal
  | destroyed => rfl
  | archived stored => rfl

/-- Which calls are accepted, what refuses the others, and that a call is carried out as a whole or
not at all. -/
theorem accepted_iff_and_atomic (e : Engine) (id : String) :
    (∀ flow,
      ((∃ t, (e.start id flow).result = .ok t) ↔ e.store.get? id = none) ∧
        ∀ r, (e.start id flow).result = .error r ↔
          (∃ s, e.store.get? id = some s) ∧ r = .sessionExists id) ∧
    (∀ nodes edges,
      (∀ violation, (e.startNodes id nodes edges).result = .error (.invalidGraph violation) ↔
        Graph.violation? nodes edges = some violation) ∧
        ∀ valid : Graph.violation? nodes edges = none,
          e.startNodes id nodes edges = e.start id ⟨Flow.defaultName, nodes, edges, valid⟩) ∧
    (∀ input,
      ((∃ t, (e.resume id input).result = .ok t) ↔
        ∃ s, e.store.get? id = some s ∧ s.status = .awaitingInput) ∧
        ∀ r, (e.resume id input).result = .error r ↔ e.Withholds id .awaitingInput r) ∧
    (∀ result,
      ((∃ t, (e.complete id result).result = .ok t) ↔
        ∃ s, e.store.get? id = some s ∧ s.status = .awaitingExternal) ∧
        ∀ r, (e.complete id result).result = .error r ↔ e.Withholds id .awaitingExternal r) ∧
    (((∃ a, (e.archive id).result = .ok a) ↔ ∃ s, e.store.get? id = some s) ∧
      ∀ r, (e.archive id).result = .error r ↔
        e.store.get? id = none ∧ r = .unknownSession id) ∧
    (∀ c r, (e.take c).result = .refused r → (e.take c).engine = e) ∧
    ∀ c, (e.take c).result.isRefused = false →
      e.store.changeAll (e.take c).journal = .ok (e.take c).engine.store := by
  refine ⟨?_, ?_, resume_result e id, complete_result e id, archive_result e id, ?_, ?_⟩
  · intro flow
    exact ⟨start_ok_iff flow, fun r => start_error_iff flow⟩
  · intro nodes edges
    exact ⟨fun violation => startNodes_invalid_iff, startNodes_of_valid⟩
  · intro c r h
    exact take_of_refused h
  · intro c h
    exact changeAll_journal h

/-- The session of `Engine.sample` takes a reply and refuses the result of a delay. -/
theorem accepted_iff_and_atomic_sample :
    (∃ t, ((sample {}).resume "a" "Ada").result = .ok t) ∧
      ((sample {}).complete "a" .delayElapsed).result =
        .error (.wrongStatus "a" .awaitingExternal .awaitingInput) ∧
      ((sample {}).take (.complete "a" .delayElapsed)).engine = sample {} ∧
      (sample {}).store.changeAll ((sample {}).take (.resume "a" "Ada")).journal =
        .ok ((sample {}).take (.resume "a" "Ada")).engine.store := by
  obtain ⟨_, _, hresume, hcomplete, _, hrefused, hcarried⟩ :=
    accepted_iff_and_atomic (sample {}) "a"
  have hstored : (sample {}).store.get? "a" =
      some ⟨"a", .sample, some "ask", ∅, none, .awaitingInput, none, #[]⟩ := by
    decide +kernel
  have hwrong : ((sample {}).complete "a" .delayElapsed).result =
      .error (.wrongStatus "a" .awaitingExternal .awaitingInput) := by
    rw [(hcomplete .delayElapsed).2]
    exact .inr ⟨_, hstored, by decide, rfl⟩
  refine ⟨?_, hwrong, ?_, ?_⟩
  · exact (hresume "Ada").1.mpr ⟨_, hstored, rfl⟩
  · apply hrefused _ (.wrongStatus "a" .awaitingExternal .awaitingInput)
    simp only [take, Answer.map, hwrong]
    rfl
  · apply hcarried
    decide +kernel

end Engine

end Dialogue
