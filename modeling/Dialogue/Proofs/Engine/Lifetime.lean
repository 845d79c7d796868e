import Dialogue.Proofs.Engine.Isolation
import Dialogue.Proofs.Engine.Transcript

/-!
# Lives of sessions

A session lives from the call that starts it up to the call that removes it, be it that the session
has ended and is dropped. As long as it has not ended, its turns neither fail nor end the
conversation; the turn that ends it says so with its last event, and after that it gets no turn and
is not changed any more.
-/

namespace Dialogue

/-! ### Events of a conversation -/

namespace Event

/-- The events neither fail a conversation nor end it. -/
def Calm (events : List Event) : Prop :=
  ∀ event ∈ events, event ≠ .endOfConversation ∧ event.isFlowError = false

/-- The events of a conversation that has ended, with a failure or without one. -/
inductive Closed : List Event → Prop where
  | ended {said : List Event} (calm : Calm said) : Closed (said ++ [.endOfConversation])
  | failed {said : List Event} {kind : FlowErrorKind} {reason : String} (calm : Calm said) :
      Closed (said ++ [.flowError kind reason, .endOfConversation])

variable {events said tail : List Event}

lemma calm_nil : Calm [] := by
  intro event hmem
  cases hmem

lemma Calm.append (h : Calm events) (h' : Calm said) : Calm (events ++ said) := by
  intro event hmem
  rcases List.mem_append.mp hmem with hmem | hmem
  · exact h event hmem
  · exact h' event hmem

lemma Calm.append_closed (h : Calm events) (h' : Closed said) : Closed (events ++ said) := by
  cases h' with
  | ended calm =>
    rw [← List.append_assoc]
    exact .ended (h.append calm)
  | failed calm =>
    rw [← List.append_assoc]
    exact .failed (h.append calm)

lemma calm_ofMessages (messages : List (String × Message)) : Calm (ofMessages messages) := by
  intro event hmem
  obtain ⟨m, _, rfl⟩ := mem_ofMessages.mp hmem
  exact ⟨by simp, rfl⟩

lemma calm_of_ending {status : Status} {pending : Option ExternalRequest}
    (h : Turn.Ending status pending tail) (hne : status ≠ .ended) : Calm tail := by
  cases h with
  | awaitingInput | request => exact calm_nil
  | delay seconds => simp [Calm, isFlowError]
  | ended | failed => exact absurd rfl hne

lemma closed_of_ending {pending : Option ExternalRequest} (h : Turn.Ending .ended pending tail) :
    Closed tail := by
  cases h with
  | ended => exact .ended calm_nil
  | failed kind reason => exact .failed calm_nil

lemma Calm.count_eq_zero (h : Calm events) :
    events.count .endOfConversation = 0 ∧ events.countP isFlowError = 0 := by
  constructor
  · exact List.count_eq_zero.mpr fun hmem => (h _ hmem).1 rfl
  · refine List.countP_eq_zero.mpr fun event hmem => ?_
    rw [(h event hmem).2]
    exact Bool.false_ne_true

lemma Calm.not_mem (h : Calm events) : .endOfConversation ∉ events :=
  fun hmem => (h _ hmem).1 rfl

lemma Closed.count_le_one (h : Closed events) :
    events.count .endOfConversation ≤ 1 ∧ events.countP isFlowError ≤ 1 := by
  cases h with
  | ended calm | failed calm =>
    obtain ⟨hcount, hfailures⟩ := calm.count_eq_zero
    simp [hcount, hfailures, isFlowError, List.countP_cons]

lemma Closed.getLast?_eq (h : Closed events) : events.getLast? = some .endOfConversation := by
  cases h <;> simp

lemma Closed.mem (h : Closed events) : .endOfConversation ∈ events :=
  List.mem_of_getLast? h.getLast?_eq

end Event

/-! ### Calls on a session -/

namespace Call

/-- Whether a call wakes a session that waits. -/
def wakes : Call → Bool
  | resume .. => true
  | complete .. => true
  | _ => false

end Call

namespace Engine

variable {e : Engine} {c : Call} {o : Opening} {id : String} {turns : List Turn} {calls : List Call}

/-- The turns of the calls on a session, in their order. -/
def turnsOn (id : String) (history : List (Call × Response)) : List Turn :=
  (responsesOn id history).filterMap Response.turn?

/-- The session of a name after calls. -/
def sessionAfter (e : Engine) (calls : List Call) (id : String) : Option Session :=
  (e.takeAll calls).engine.store.get? id

lemma turnsOn_cons (e : Engine) (c : Call) (calls : List Call) (id : String) :
    turnsOn id (e.history (c :: calls)) =
      (if c.session = id then (e.take c).result.turn?.toList else []) ++
        turnsOn id ((e.take c).engine.history calls) := by
  simp only [turnsOn, responsesOn, history_cons, List.filter_cons]
  by_cases hc : c.session = id
  · simp only [hc, decide_true, if_true, List.map_cons, List.filterMap_cons]
    cases (e.take c).result.turn? <;> rfl
  · simp only [hc, decide_false, if_false, Bool.false_eq_true, List.nil_append]

/-! ### A life -/

/-- The first call starts a session, and every further one finds it in the store. The last one may
remove it. -/
structure Life (e : Engine) (first : Call) (calls : List Call) : Prop where
  begins : first.begins (e.take first).result
  alive : ∀ k < calls.length, (e.sessionAfter (first :: calls.take k) first.session).isSome

/-- How the turns of a session stand to what is stored of it. -/
inductive Stands (e : Engine) (id : String) (turns : List Turn) : Prop where
  | ongoing (calm : Event.Calm (turns.flatMap (·.events)))
      (statuses : ∀ t ∈ turns, t.status ≠ .ended)
      (stored : ∀ s, e.store.get? id = some s → s.status ≠ .ended)
  | finished (closed : Event.Closed (turns.flatMap (·.events)))
      (last : ∃ t ∈ turns, t.status = .ended)
      (stored : ∀ s, e.store.get? id = some s → s.status = .ended)

/-- No walk is opened on a session that has ended. -/
lemma Opens.not_ended {s : Session} (h : e.Opens c o) (hs : e.store.get? c.session = some s) :
    s.status ≠ .ended := by
  cases h with
  | start absent | startNodes _ absent =>
    simp only [Call.session, absent] at hs
    cases hs
  | resume stored waits | complete stored waits =>
    obtain rfl := Option.some.inj (hs.symm.trans stored)
    simp [waits]

/-- A turn behind turns that have not ended the session. -/
lemma Opens.stands (h : e.Opens c o) (calm : Event.Calm (turns.flatMap (·.events)))
    (statuses : ∀ t ∈ turns, t.status ≠ .ended) :
    (e.take c).engine.Stands c.session
      (turns ++ [turnOf c.session (o.run e.config.maxSteps)]) := by
  obtain ⟨messages, tail, hevents, hending⟩ := h.ending e.config.maxSteps
  have hstored : ∀ s, (e.take c).engine.store.get? c.session = some s →
      s.status = (turnOf c.session (o.run e.config.maxSteps)).status := by
    intro s hs
    rw [h.get?_take] at hs
    split at hs
    · cases hs
    · cases hs
      rfl
  have hsaid : ∀ turn : Turn, (turns ++ [turn]).flatMap (·.events) =
      turns.flatMap (·.events) ++ turn.events := by
    intro turn
    rw [List.flatMap_append, List.flatMap_singleton]
  have hmessages := calm.append (Event.calm_ofMessages messages)
  generalize turnOf c.session (o.run e.config.maxSteps) = turn at hevents hending hstored
  by_cases hended : turn.status = .ended
  · refine .finished ?_ ⟨turn, by simp, hended⟩ fun s hs => (hstored s hs).trans hended
    rw [hended] at hending
    rw [hsaid, hevents, ← List.append_assoc]
    exact hmessages.append_closed (Event.closed_of_ending hending)
  · refine .ongoing ?_ ?_ fun s hs => (hstored s hs).symm ▸ hended
    · rw [hsaid, hevents, ← List.append_assoc]
      exact hmessages.append (Event.calm_of_ending hending hended)
    · intro t ht
      rcases List.mem_append.mp ht with ht | ht
      · exact statuses t ht
      · rw [List.mem_singleton.mp ht]
        exact hended

/-- A call on a session that is there leaves its turns as they should stand. -/
lemma Stands.take (h : e.Stands id turns) (halive : (e.store.get? id).isSome) (c : Call) :
    (e.take c).engine.Stands id
      (turns ++ if c.session = id then (e.take c).result.turn?.toList else []) := by
  by_cases hc : c.session = id
  · subst hc
    rw [if_pos rfl]
    have hremoved : ∀ e' : Engine, e'.store.get? c.session = none →
        e'.Stands c.session (turns ++ []) := by
      intro e' hnone
      rw [List.append_nil]
      have hno : ∀ s, e'.store.get? c.session ≠ some s := fun s hs => by simp [hnone] at hs
      cases h with
      | ongoing calm statuses => exact .ongoing calm statuses fun s hs => absurd hs (hno s)
      | finished closed last => exact .finished closed last fun s hs => absurd hs (hno s)
    have htakes := takes_take e c
    generalize hresult : (e.take c).result = response, hengine : (e.take c).engine = e' at htakes ⊢
    cases htakes with
    | refused r =>
      rw [show (Response.refused r).turn?.toList = [] from rfl, List.append_nil]
      exact h
    | destroyed => exact hremoved _ (Table.get?_erase_self _ _)
    | archived stored => exact hremoved _ (Table.get?_erase_self _ _)
    | turned o opens =>
      rw [← hengine]
      cases h with
      | ongoing calm statuses stored => exact opens.stands calm statuses
      | finished closed last stored =>
        obtain ⟨s, hs⟩ := Option.isSome_iff_exists.mp halive
        exact absurd (stored s hs) (opens.not_ended hs)
  · rw [if_neg hc, List.append_nil]
    have hsame := get?_take_of_ne e hc
    cases h with
    | ongoing calm statuses stored => exact .ongoing calm statuses (hsame ▸ stored)
    | finished closed last stored => exact .finished closed last (hsame ▸ stored)

lemma Stands.takeAll (h : e.Stands id turns)
    (halive : ∀ k < calls.length, (e.sessionAfter (calls.take k) id).isSome) :
    (e.takeAll calls).engine.Stands id (turns ++ turnsOn id (e.history calls)) := by
  induction calls generalizing e turns with
  | nil =>
    rw [show turnsOn id (e.history []) = [] from rfl, List.append_nil]
    exact h
  | cons c calls ih =>
    have hfirst := h.take (halive 0 (Nat.zero_lt_succ _)) c
    rw [turnsOn_cons, ← List.append_assoc]
    exact ih hfirst fun k hk => halive (k + 1) (Nat.succ_lt_succ hk)

lemma Life.stands {first : Call} (h : e.Life first calls) :
    (e.takeAll (first :: calls)).engine.Stands first.session
      (turnsOn first.session (e.history (first :: calls))) := by
  have hfirst : (e.take first).engine.Stands first.session (e.take first).result.turn?.toList := by
    have hbegins := h.begins
    cases hresult : (e.take first).result with
    | turn t =>
      obtain ⟨o, ho, rfl⟩ := opens_of_turn hresult
      exact @Opens.stands _ _ _ [] ho Event.calm_nil fun t ht => nomatch ht
    | _ =>
      rw [hresult] at hbegins
      cases first <;> cases hbegins
  rw [turnsOn_cons, if_pos rfl]
  exact hfirst.takeAll h.alive

/-! ### After the end -/

lemma waiting_of_ended {s : Session} {expected : Status} (hs : e.store.get? id = some s)
    (hended : s.status = .ended) (hne : expected ≠ .ended) :
    e.waiting id expected = .error (.wrongStatus id expected .ended) := by
  refine waiting_eq_error_iff.mpr (.inr ⟨s, hs, ?_, ?_⟩)
  · rw [hended]
    exact hne.symm
  · rw [hended]

/-- A session that has ended is not woken. -/
lemma refused_of_ended {s : Session} (hs : e.store.get? c.session = some s)
    (hended : s.status = .ended) (hwakes : c.wakes) :
    ∃ expected, (e.take c).result = .refused (.wrongStatus c.session expected .ended) := by
  cases c with
  | resume id input =>
    have hwaiting : e.waiting id .awaitingInput = .error (.wrongStatus id .awaitingInput .ended) :=
      waiting_of_ended hs hended (by decide)
    refine ⟨.awaitingInput, ?_⟩
    show Response.ofTurn (e.resume id input).result = _
    rw [resume_of_error input hwaiting]
    rfl
  | complete id result =>
    have hwaiting : e.waiting id .awaitingExternal =
        .error (.wrongStatus id .awaitingExternal .ended) :=
      waiting_of_ended hs hended (by decide)
    refine ⟨.awaitingExternal, ?_⟩
    show Response.ofTurn (e.complete id result).result = _
    rw [complete_of_error result hwaiting]
    rfl
  | _ => cases hwakes

/-- A session that has ended is left alone or removed. -/
lemma get?_take_of_ended {s : Session} (hs : e.store.get? id = some s)
    (hended : s.status = .ended) (c : Call) :
    (e.take c).engine.store.get? id = some s ∨ (e.take c).engine.store.get? id = none := by
  by_cases hc : c.session = id
  · subst hc
    have htakes := takes_take e c
    generalize (e.take c).result = response, (e.take c).engine = e' at htakes
    cases htakes with
    | refused r => exact .inl hs
    | destroyed | archived => exact .inr (Table.get?_erase_self _ _)
    | turned o opens => exact absurd hended (opens.not_ended hs)
  · rw [get?_take_of_ne e hc]
    exact .inl hs

/-- As long as it is there, a session that has ended stays as it is, and no call wakes it. -/
lemma takeAll_of_ended {s : Session} (hs : e.store.get? id = some s) (hended : s.status = .ended)
    (halive : ∀ k < calls.length, (e.sessionAfter (calls.take k) id).isSome) :
    (∀ s', e.sessionAfter calls id = some s' → s' = s) ∧
      ∀ x ∈ e.history calls, x.1.session = id → x.1.wakes →
        ∃ expected, x.2 = .refused (.wrongStatus id expected .ended) := by
  induction calls generalizing e with
  | nil =>
    refine ⟨fun s' hs' => Option.some.inj (hs'.symm.trans hs), fun x hx => ?_⟩
    cases hx
  | cons c calls ih =>
    have hfirst : c.session = id → c.wakes →
        ∃ expected, (e.take c).result = .refused (.wrongStatus id expected .ended) := by
      rintro rfl hwakes
      exact refused_of_ended hs hended hwakes
    rw [history_cons]
    rcases get?_take_of_ended hs hended c with hkept | hremoved
    · obtain ⟨hstored, hrest⟩ := ih hkept fun k hk => halive (k + 1) (Nat.succ_lt_succ hk)
      exact ⟨hstored, List.forall_mem_cons.mpr ⟨hfirst, hrest⟩⟩
    · -- The call that removes the session is the last one.
      cases calls with
      | nil =>
        refine ⟨fun s' hs' => ?_, List.forall_mem_cons.mpr ⟨hfirst, fun x hx => by cases hx⟩⟩
        have hnone : e.sessionAfter [c] id = none := hremoved
        rw [hnone] at hs'
        cases hs'
      | cons c' calls =>
        have hsome := halive 1 (by simp)
        have hnone : e.sessionAfter ((c :: c' :: calls).take 1) id = none := hremoved
        rw [hnone] at hsome
        cases hsome

lemma Life.after {first : Call} (h : e.Life first calls) (k : Nat) :
    ∀ j < (calls.drop k).length,
      ((e.takeAll (first :: calls.take k)).engine.sessionAfter ((calls.drop k).take j)
        first.session).isSome := by
  intro j hj
  rw [List.length_drop] at hj
  have halive := h.alive (k + j) (by omega)
  rw [List.take_add, ← List.cons_append] at halive
  simp only [sessionAfter, takeAll_append] at halive ⊢
  exact halive

/-- In the life of a session, at most one event ends the conversation and at most one tells of a
failure. The event that ends it is the last of all, and is there exactly if a turn has left the
session ended. From then on the session stays as it is until it is removed, and is not woken any
more. -/
theorem ended_for_good {first : Call} (h : e.Life first calls) :
    let id := first.session
    let turns := turnsOn id (e.history (first :: calls))
    let events := turns.flatMap (·.events)
    events.count .endOfConversation ≤ 1 ∧ events.countP Event.isFlowError ≤ 1 ∧
      (.endOfConversation ∈ events → events.getLast? = some .endOfConversation) ∧
      (.endOfConversation ∈ events ↔ ∃ t ∈ turns, t.status = .ended) ∧
      (∀ s, e.sessionAfter (first :: calls) id = some s →
        (.endOfConversation ∈ events ↔ s.status = .ended)) ∧
      ∀ k s, e.sessionAfter (first :: calls.take k) id = some s → s.status = .ended →
        (∀ j, k ≤ j → ∀ s', e.sessionAfter (first :: calls.take j) id = some s' → s' = s) ∧
        ∀ x ∈ (e.takeAll (first :: calls.take k)).engine.history (calls.drop k),
          x.1.session = id → x.1.wakes →
            ∃ expected, x.2 = .refused (.wrongStatus id expected .ended) := by
  intro id turns events
  have hafter : ∀ k s, e.sessionAfter (first :: calls.take k) id = some s → s.status = .ended →
      (∀ j, k ≤ j → ∀ s', e.sessionAfter (first :: calls.take j) id = some s' → s' = s) ∧
      ∀ x ∈ (e.takeAll (first :: calls.take k)).engine.history (calls.drop k),
        x.1.session = id → x.1.wakes →
          ∃ expected, x.2 = .refused (.wrongStatus id expected .ended) := by
    intro k s hs hended
    refine ⟨?_, (takeAll_of_ended hs hended (h.after k)).2⟩
    intro j hj s' hs'
    obtain ⟨i, rfl⟩ := Nat.exists_eq_add_of_le hj
    rw [List.take_add, ← List.cons_append] at hs'
    simp only [sessionAfter, takeAll_append] at hs'
    refine (takeAll_of_ended hs hended ?_).1 s' hs'
    intro m hm
    rw [List.length_take] at hm
    rw [List.take_take, Nat.min_eq_left (by omega)]
    exact h.after k m (by omega)
  have hstands : (e.takeAll (first :: calls)).engine.Stands id turns := h.stands
  cases hstands with
  | ongoing calm statuses stored =>
    obtain ⟨hcount, hfailures⟩ := calm.count_eq_zero
    refine ⟨Nat.le_succ_of_le (Nat.le_of_eq hcount), Nat.le_succ_of_le (Nat.le_of_eq hfailures),
      fun hmem => absurd hmem calm.not_mem, ?_, ?_, hafter⟩
    · apply iff_of_false calm.not_mem
      rintro ⟨t, ht, hended⟩
      exact statuses t ht hended
    · intro s hs
      exact iff_of_false calm.not_mem (stored s hs)
  | finished closed last stored =>
    obtain ⟨hcount, hfailures⟩ := closed.count_le_one
    exact ⟨hcount, hfailures, fun _ => closed.getLast?_eq, iff_of_true closed.mem last,
      fun s hs => iff_of_true closed.mem (stored s hs), hafter⟩

/-- The session `a` on `Flow.sample` ends with the answer to its request, and no reply wakes it
before it is removed. -/
theorem ended_for_good_sample :
    let e : Engine := ⟨∅, {}⟩
    let calls : List Call := [.resume "a" "Ada", .start "b" .sample, .complete "a" .delayElapsed,
      .complete "a" (.httpFailed "gone"), .resume "a" "again", .destroy "a"]
    e.Life (.start "a" .sample) calls ∧
      ∃ s, e.sessionAfter (.start "a" .sample :: calls.take 4) "a" = some s ∧ s.status = .ended ∧
        ∀ s', e.sessionAfter (.start "a" .sample :: calls.take 5) "a" = some s' → s' = s := by
  intro e calls
  have hlife : e.Life (.start "a" .sample) calls := by
    constructor
    · decide +kernel
    · decide +kernel
  have hended : ((e.sessionAfter (.start "a" .sample :: calls.take 4) "a").map (·.status)) =
      some .ended := by
    decide +kernel
  obtain ⟨s, hs, hstatus⟩ := Option.map_eq_some_iff.mp hended
  obtain ⟨_, _, _, _, _, hafter⟩ := ended_for_good hlife
  exact ⟨hlife, s, hs, hstatus, (hafter 4 s hs hstatus).1 5 (by decide)⟩

end Engine

end Dialogue
