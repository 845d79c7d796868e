import Dialogue.Proofs.Engine.Acceptance
import Dialogue.Proofs.Session.Changes

/-!
# Journals

An engine gives the changes that it asks of its store along with its answers. They are all that
happens to the store: who makes them again in their order, on a store like the one at the beginning,
has the store of the engine. This holds of calls that are refused as well. Some of them ask for a
change that comes to nothing; a reply or a result that is refused asks for none.
-/

namespace Dialogue

/-- Changes that are all accepted have the same effect where a refusal is passed over. -/
lemma Store.replay_of_changeAll {store store' : Store} {journal : List Change}
    (h : store.changeAll journal = .ok store') : store.replay journal = store' := by
  induction journal generalizing store with
  | nil =>
    cases h
    rfl
  | cons c journal ih =>
    simp only [changeAll, List.foldlM_cons] at h
    cases hchange : store.change c with
    | error r =>
      rw [hchange] at h
      cases h
    | ok store₁ =>
      rw [hchange] at h
      rw [← List.singleton_append, replay_append, replay_of_ok hchange]
      exact ih h

namespace Engine

variable {e : Engine} {c : Call} {id : String} {r : Refusal}

/-! ### Calls one by one -/

lemma Opens.replay_take {o : Opening} (h : e.Opens c o) :
    e.store.replay (e.take c).journal = (e.take c).engine.store :=
  Store.replay_of_changeAll h.changeAll_journal

/-- A session that is there already is not created again. -/
lemma replay_start (e : Engine) (id : String) (flow : Flow) :
    e.store.replay (e.start id flow).journal = (e.start id flow).engine.store := by
  cases hget : e.store.get? id with
  | none =>
    have hopens : e.Opens (.start id flow) (.ofFlow id flow) := .start hget
    exact hopens.replay_take
  | some s =>
    have hjournal : (e.start id flow).journal = [.create id flow] := by
      simp only [start, hget]
    rw [hjournal, (start_of_stored flow hget).2]
    apply Store.replay_of_error (r := .sessionExists id)
    simp only [Store.change, Store.create, hget]

/-- The store after a call is the one before it with the changes that the call has asked for. -/
lemma replay_take (e : Engine) (c : Call) :
    e.store.replay (e.take c).journal = (e.take c).engine.store := by
  cases c with
  | start id flow => exact replay_start e id flow
  | startNodes id nodes edges =>
    show e.store.replay (e.startNodes id nodes edges).journal = _
    cases hvalid : Graph.violation? nodes edges with
    | none =>
      simp only [take, startNodes_of_valid hvalid]
      exact replay_start e id _
    | some violation =>
      simp only [take, startNodes_of_violation hvalid]
      rfl
  | resume id input =>
    cases hwaiting : e.waiting id .awaitingInput with
    | error r =>
      simp only [take, resume_of_error input hwaiting]
      rfl
    | ok s =>
      obtain ⟨stored, waits⟩ := waiting_eq_ok_iff.mp hwaiting
      exact (Opens.resume stored waits).replay_take
  | complete id result =>
    cases hwaiting : e.waiting id .awaitingExternal with
    | error r =>
      simp only [take, complete_of_error result hwaiting]
      rfl
    | ok s =>
      obtain ⟨stored, waits⟩ := waiting_eq_ok_iff.mp hwaiting
      exact (Opens.complete stored waits).replay_take
  | destroy | archive => rfl

lemma journal_resume_of_error {input : String} (h : (e.resume id input).result = .error r) :
    (e.resume id input).journal = [] := by
  have hwaiting := waiting_eq_error_iff.mpr (((resume_result e id input).2 r).mp h)
  rw [resume_of_error input hwaiting]
  rfl

lemma journal_complete_of_error {result : ExternalResult}
    (h : (e.complete id result).result = .error r) : (e.complete id result).journal = [] := by
  have hwaiting := waiting_eq_error_iff.mpr (((complete_result e id result).2 r).mp h)
  rw [complete_of_error result hwaiting]
  rfl

/-! ### Runs -/

/-- The changes that an engine has asked of its store, made again in their order on the store with
which it began, give the store with which it ends. A reply or a result that is refused asks for no
change. -/
theorem replay_journal (e : Engine) (calls : List Call) :
    e.store.replay (e.takeAll calls).journal = (e.takeAll calls).engine.store ∧
    (∀ id input r, (e.resume id input).result = .error r → (e.resume id input).journal = []) ∧
    ∀ id result r, (e.complete id result).result = .error r →
      (e.complete id result).journal = [] := by
  refine ⟨?_, fun _ _ _ h => journal_resume_of_error h, fun _ _ _ h => journal_complete_of_error h⟩
  induction calls generalizing e with
  | nil => rfl
  | cons c calls ih =>
    simp only [takeAll]
    rw [Store.replay_append, replay_take]
    exact ih _

/-- A session is started, started again in vain, and runs to an end at which it is dropped. The
changes of all this leave nothing, and a result for which `Engine.sample` does not wait asks for no
change. -/
theorem replay_journal_sample :
    let e : Engine := ⟨∅, { evictEnded := true }⟩
    let calls : List Call := [.start "a" .sample, .start "a" .sample, .resume "a" "Ada",
      .complete "a" .delayElapsed, .complete "a" (.httpFailed "gone")]
    ((e.takeAll calls).journal.count (.create "a" .sample) = 2 ∧
      .destroy "a" ∈ (e.takeAll calls).journal ∧ Store.replay ∅ (e.takeAll calls).journal = ∅) ∧
    ((sample {}).complete "a" .delayElapsed).result =
        .error (.wrongStatus "a" .awaitingExternal .awaitingInput) ∧
      ((sample {}).complete "a" .delayElapsed).journal = [] := by
  intro e calls
  have hempty : (e.takeAll calls).engine.store = ∅ := by decide +kernel
  have hwrong : ((sample {}).complete "a" .delayElapsed).result =
      .error (.wrongStatus "a" .awaitingExternal .awaitingInput) := by
    decide +kernel
  refine ⟨⟨by decide +kernel, by decide +kernel, ?_⟩, hwrong, ?_⟩
  · exact (replay_journal e calls).1.trans hempty
  · exact (replay_journal (sample {}) []).2.2 "a" .delayElapsed _ hwrong

end Engine

end Dialogue
