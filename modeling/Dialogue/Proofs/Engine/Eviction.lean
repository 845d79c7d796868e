import Dialogue.Proofs.Engine.Acceptance
import Dialogue.Proofs.Engine.Isolation

/-!
# Engines that drop ended sessions

An engine that drops the sessions that have ended answers like one that keeps them, as long as no
call names such a session any more. A turn is made up before its session is dropped, and only
sessions that have ended are dropped, in whatever way they have ended: the store is at all times
that of the other engine without them.
-/

namespace Dialogue

/-- Whether a response is a turn that leaves its session ended. -/
def Response.ends (r : Response) : Bool := r.turn?.any Turn.isEnded

namespace Engine

variable {e e' : Engine} {c : Call}

/-! ### What responses hang on -/

lemma result_settle (id : String) (opening : List Change) (w : Walk) :
    (e.settle id opening w).result = (e'.settle id opening w).result := by
  simp only [settle]
  split
  · rfl
  · by_cases hended : w.session.status = .ended
    · cases e.config.evictEnded <;> cases e'.config.evictEnded <;> simp [hended]
    · simp [hended]

/-- A response hangs on the ceiling and the stored session that the call names, not on what becomes
of sessions that have ended. -/
lemma result_take_congr (hceiling : e.config.maxSteps = e'.config.maxSteps)
    (hstored : e.store.get? c.session = e'.store.get? c.session) :
    (e.take c).result = (e'.take c).result := by
  have hstart : ∀ flow, (e.start c.session flow).result = (e'.start c.session flow).result := by
    intro flow
    simp only [start, hstored, hceiling]
    cases e'.store.get? c.session with
    | some s => rfl
    | none => exact result_settle _ _ _
  have hwaiting : ∀ expected, e.waiting c.session expected = e'.waiting c.session expected := by
    intro expected
    simp only [waiting, hstored]
  cases c with
  | start id flow => exact congrArg Response.ofTurn (hstart flow)
  | startNodes id nodes edges =>
    simp only [take, Answer.map, startNodes]
    cases Flow.ofGraph Flow.defaultName nodes edges with
    | error violation => rfl
    | ok flow => exact congrArg Response.ofTurn (hstart flow)
  | resume id input =>
    have hsame := hwaiting .awaitingInput
    simp only [Call.session] at hsame
    simp only [take, Answer.map, resume, hsame, hceiling]
    cases e'.waiting id .awaitingInput with
    | error r => rfl
    | ok s => exact congrArg Response.ofTurn (result_settle _ _ _)
  | complete id result =>
    have hsame := hwaiting .awaitingExternal
    simp only [Call.session] at hsame
    simp only [take, Answer.map, complete, hsame, hceiling]
    cases e'.waiting id .awaitingExternal with
    | error r => rfl
    | ok s => exact congrArg Response.ofTurn (result_settle _ _ _)
  | destroy id => exact congrArg Response.dropped hstored
  | archive id =>
    have hsame : e.store.get? id = e'.store.get? id := hstored
    simp only [take, Answer.map, archive, destroy, hsame]

/-! ### Two engines side by side -/

/-- The second engine has dropped the sessions of the first that have ended. -/
structure Mirrors (e e' : Engine) : Prop where
  ceiling : e.config.maxSteps = e'.config.maxSteps
  keeps : e.config.evictEnded = false
  drops : e'.config.evictEnded = true
  stored : ∀ id, e'.store.get? id = (e.store.get? id).filter (·.status ≠ .ended)

/-- The session that a call names has not ended. -/
def Alive (e : Engine) (c : Call) : Prop :=
  ∀ s, e.store.get? c.session = some s → s.status ≠ .ended

lemma Mirrors.stored_of_alive (h : e.Mirrors e') (halive : e.Alive c) :
    e'.store.get? c.session = e.store.get? c.session := by
  rw [h.stored]
  cases hs : e.store.get? c.session with
  | none => rfl
  | some s => exact Option.filter_some_pos (decide_eq_true (halive s hs))

/-- A call on a session that has not ended gets the same response from both engines, and leaves them
side by side. -/
lemma Mirrors.take (h : e.Mirrors e') (halive : e.Alive c) :
    (e.take c).result = (e'.take c).result ∧ (e.take c).engine.Mirrors (e'.take c).engine := by
  have hsame := h.stored_of_alive halive
  have hresult : (e.take c).result = (e'.take c).result := result_take_congr h.ceiling hsame.symm
  refine ⟨hresult, ?_, ?_, ?_, ?_⟩
  · rw [take_config, take_config]
    exact h.ceiling
  · rw [take_config]
    exact h.keeps
  · rw [take_config]
    exact h.drops
  intro id
  by_cases hc : c.session = id
  · subst hc
    have htakes := takes_take e c
    generalize hresponse : (e.take c).result = response, hengine : (e.take c).engine = e₁ at htakes
    cases htakes with
    | refused r =>
      rw [take_of_refused (hresult.symm.trans hresponse)]
      exact h.stored _
    | turned o opens =>
      rw [← hengine, opens.get?_take, (opens.of_stored hsame).get?_take, h.keeps, h.drops,
        h.ceiling]
      by_cases hended : (o.run e'.config.maxSteps).session.status = .ended
      · simp [hended, Option.filter_some]
      · simp [hended, Option.filter_some]
    | @destroyed id | @archived id =>
      show (e'.store.erase id).get? id = ((e.store.erase id).get? id).filter _
      rw [Table.get?_erase_self, Table.get?_erase_self]
      rfl
  · rw [get?_take_of_ne e hc, get?_take_of_ne e' hc]
    exact h.stored id

/-! ### Runs -/

lemma exists_mem_history {calls : List Call} (h : c ∈ calls) (e : Engine) :
    ∃ r, (c, r) ∈ e.history calls := by
  induction calls generalizing e with
  | nil => cases h
  | cons c' calls ih =>
    rw [history_cons]
    rcases List.mem_cons.mp h with rfl | h
    · exact ⟨_, List.mem_cons_self⟩
    · obtain ⟨r, hr⟩ := ih h (e.take c').engine
      exact ⟨r, List.mem_cons_of_mem _ hr⟩

/-- After a call, a session has ended only if it had ended before or the turn of the call says so. -/
lemma Alive.take {c' : Call} (halive : e.Alive c) (halive' : e.Alive c')
    (hends : (e.take c).result.ends → c'.session ≠ c.session) : (e.take c).engine.Alive c' := by
  intro s hs
  by_cases hc : c.session = c'.session
  · rw [← hc] at hs
    have htakes := takes_take e c
    generalize hresponse : (e.take c).result = response, hengine : (e.take c).engine = e₁ at htakes
    cases htakes with
    | refused r =>
      rw [take_of_refused hresponse] at hs
      exact halive s hs
    | turned o opens =>
      rw [hresponse] at hends
      rw [opens.get?_take] at hs
      intro hended
      split at hs
      · cases hs
      · cases hs
        exact hends (decide_eq_true hended) hc.symm
    | destroyed | archived =>
      rw [hengine] at hs
      exact absurd hs (by simp [Call.session])
  · rw [get?_take_of_ne e hc] at hs
    exact halive' s hs

/-- No call names a session after a turn that has left it ended. -/
def LeavesEnded (history : List (Call × Response)) : Prop :=
  history.Pairwise fun x y => x.2.ends → y.1.session ≠ x.1.session

lemma Mirrors.takeAll {calls : List Call} (h : e.Mirrors e') (halive : ∀ c ∈ calls, e.Alive c)
    (hleaves : LeavesEnded (e.history calls)) :
    (e.takeAll calls).result = (e'.takeAll calls).result ∧
      ∀ k, (e.takeAll (calls.take k)).engine.Mirrors (e'.takeAll (calls.take k)).engine := by
  induction calls generalizing e e' with
  | nil =>
    refine ⟨rfl, fun k => ?_⟩
    rw [List.take_nil]
    exact h
  | cons c calls ih =>
    obtain ⟨hfirst, hrest⟩ := List.pairwise_cons.mp hleaves
    have hc : e.Alive c := halive c List.mem_cons_self
    obtain ⟨hresult, hmirrors⟩ := h.take hc
    have halive' : ∀ c' ∈ calls, (e.take c).engine.Alive c' := by
      intro c' hmem
      obtain ⟨r, hr⟩ := exists_mem_history hmem (e.take c).engine
      exact hc.take (halive c' (List.mem_cons_of_mem _ hmem)) fun hends => hfirst _ hr hends
    obtain ⟨hresults, hprefixes⟩ := ih hmirrors halive' hrest
    refine ⟨congrArg₂ List.cons hresult hresults, fun k => ?_⟩
    cases k with
    | zero => exact h
    | succ k => exact hprefixes k

/-- From an empty store, calls that name no session after a turn that has left it ended get the same
responses whether or not ended sessions are dropped. After each of the calls, the engine that drops
them stores what the other one stores, without the sessions that have ended. -/
theorem takeAll_evicting (maxSteps : Nat) (calls : List Call)
    (hleaves : ((⟨∅, { maxSteps, evictEnded := false }⟩ : Engine).history calls).Pairwise
      fun x y => x.2.ends → y.1.session ≠ x.1.session) :
    let keeping : Engine := ⟨∅, { maxSteps, evictEnded := false }⟩
    let dropping : Engine := ⟨∅, { maxSteps, evictEnded := true }⟩
    (keeping.takeAll calls).result = (dropping.takeAll calls).result ∧
      ∀ k id, (dropping.takeAll (calls.take k)).engine.store.get? id =
        ((keeping.takeAll (calls.take k)).engine.store.get? id).filter (·.status ≠ .ended) := by
  intro keeping dropping
  have hempty : keeping.Mirrors dropping := ⟨rfl, rfl, rfl, fun _ => rfl⟩
  have halive : ∀ c ∈ calls, keeping.Alive c := by
    intro c _ s hs
    cases hs
  obtain ⟨hresult, hmirrors⟩ := hempty.takeAll halive hleaves
  exact ⟨hresult, fun k => (hmirrors k).stored⟩

/-- Two sessions on `Flow.sample` end, one with the failure of its request and one at the ceiling; a
third waits for a name. -/
theorem takeAll_evicting_sample :
    let calls : List Call := [.start "a" .sample, .start "b" .sample, .resume "a" "Ada",
      .complete "a" .delayElapsed, .complete "a" (.httpFailed "gone"), .resume "b" "again",
      .start "c" .sample]
    (((⟨∅, ⟨10, false⟩⟩ : Engine).history calls).Pairwise
      fun x y => x.2.ends → y.1.session ≠ x.1.session) ∧
      ((⟨∅, ⟨10, false⟩⟩ : Engine).takeAll calls).engine.store.keys = ["a", "b", "c"] ∧
      ((⟨∅, ⟨10, false⟩⟩ : Engine).takeAll calls).result =
        ((⟨∅, ⟨10, true⟩⟩ : Engine).takeAll calls).result ∧
      ∀ id, ((⟨∅, ⟨10, true⟩⟩ : Engine).takeAll calls).engine.store.get? id =
        (((⟨∅, ⟨10, false⟩⟩ : Engine).takeAll calls).engine.store.get? id).filter
          (·.status ≠ .ended) := by
  intro calls
  have hleaves : ((⟨∅, ⟨10, false⟩⟩ : Engine).history calls).Pairwise
      fun x y => x.2.ends → y.1.session ≠ x.1.session := by
    decide +kernel
  have hkeys : ((⟨∅, ⟨10, false⟩⟩ : Engine).takeAll calls).engine.store.keys =
      ["a", "b", "c"] := by
    decide +kernel
  obtain ⟨hresult, hstored⟩ := takeAll_evicting 10 calls hleaves
  have hafter := hstored calls.length
  rw [List.take_length] at hafter
  exact ⟨hleaves, hkeys, hresult, hafter⟩

end Engine

end Dialogue
