import Dialogue.Engine.Call
import Dialogue.Proofs.Walk.Over

/-!
# What calls do

A call that is accepted opens a walk: with a new session at its start node, with a session that has
its reply, or with a session that waits for external work. The turn is that of the walk at its end,
and the store keeps the session as it has become or drops it. Any other call is refused and changes
nothing, or drops a session.
-/

namespace Dialogue

open Walk

/-! ### Openings -/

/-- How a call begins its walk. -/
structure Opening where
  /-- The session as it is in the store when the walk begins. -/
  origin : Session
  /-- The changes of the store before that. -/
  changes : List Change := []
  walk : Walk
  stimulus : Option Stimulus

namespace Opening

/-- A new session, at the start node of its flow. -/
def ofFlow (id : String) (flow : Flow) : Opening where
  origin := { id, flow }
  changes := [.create id flow]
  walk := ({ session := { id, flow } } : Walk).edit (.advanceTo flow.start.id)
  stimulus := none

/-- A session with the reply of the user. -/
def ofReply (s : Session) (input : String) : Opening where
  origin := s
  walk := ({ session := s } : Walk).edit (.record .user input)
  stimulus := some (.userInput input)

/-- A session with the result of external work. -/
def ofResult (s : Session) (result : ExternalResult) : Opening where
  origin := s
  walk := { session := s }
  stimulus := some (.external result)

/-- The walk at its end. -/
def run (o : Opening) (ceiling : Nat) : Walk := o.walk.run ceiling o.stimulus

end Opening

namespace Engine

variable {e : Engine} {c : Call} {o : Opening} {id : String}

/-- The call is accepted, and this is how it begins its walk. -/
inductive Opens (e : Engine) : Call → Opening → Prop where
  | start {id : String} {flow : Flow} (absent : e.store.get? id = none) :
      Opens e (.start id flow) (.ofFlow id flow)
  | startNodes {id : String} {nodes : List Node} {edges : List Edge}
      (valid : Graph.violation? nodes edges = none) (absent : e.store.get? id = none) :
      Opens e (.startNodes id nodes edges) (.ofFlow id ⟨Flow.defaultName, nodes, edges, valid⟩)
  | resume {id input : String} {s : Session} (stored : e.store.get? id = some s)
      (waits : s.status = .awaitingInput) : Opens e (.resume id input) (.ofReply s input)
  | complete {id : String} {result : ExternalResult} {s : Session}
      (stored : e.store.get? id = some s) (waits : s.status = .awaitingExternal) :
      Opens e (.complete id result) (.ofResult s result)

/-- Whether a call is accepted, and how it begins, hangs on the stored session that it names. -/
lemma Opens.of_stored {e' : Engine} (h : e.Opens c o)
    (hstored : e'.store.get? c.session = e.store.get? c.session) : e'.Opens c o := by
  cases h with
  | start absent => exact .start (hstored.trans absent)
  | startNodes valid absent => exact .startNodes valid (hstored.trans absent)
  | resume stored waits => exact .resume (hstored.trans stored) waits
  | complete stored waits => exact .complete (hstored.trans stored) waits

lemma Opens.reached (h : e.Opens c o) : ∃ s, Reached o.origin s [] o.walk := by
  cases h with
  | start | startNodes => exact ⟨_, Reached.begin.advanceTo Flow.isSome_node?_start⟩
  | resume => exact ⟨_, Reached.begin.record .user _⟩
  | complete => exact ⟨_, Reached.begin⟩

/-- The walk of an accepted call comes to its end. -/
lemma Opens.over (h : e.Opens c o) (ceiling : Nat) : Over o.origin ceiling (o.run ceiling) := by
  obtain ⟨s, hs⟩ := h.reached
  exact hs.over_run ceiling o.stimulus

lemma Opens.accepted (h : e.Opens c o) (ceiling : Nat) : (o.run ceiling).refusal = none := by
  obtain ⟨_, _, _, _, hreached⟩ := h.over ceiling
  exact hreached.accepted

/-! ### Settling -/

/-- The engine that keeps a session as a walk has left it. -/
def keep (e : Engine) (id : String) (s : Session) : Engine :=
  { e with
    store := if s.status = .ended ∧ e.config.evictEnded then e.store.erase id
      else e.store.insert id s }

lemma get?_keep (e : Engine) (id id' : String) (s : Session) :
    (e.keep id s).store.get? id' =
      if id' = id then if s.status = .ended ∧ e.config.evictEnded then none else some s
      else e.store.get? id' := by
  simp only [keep]
  split
  · exact Table.get?_erase _ _ _
  · exact Table.get?_insert _ _ _ _

/-- What is stored after a session was kept is that session, or was stored before. -/
lemma stored_of_keep {id' : String} {s s' : Session}
    (h : (e.keep id s).store.get? id' = some s') :
    (id' = id ∧ s' = s ∧ ¬ (s.status = .ended ∧ e.config.evictEnded)) ∨
      (id' ≠ id ∧ e.store.get? id' = some s') := by
  rw [get?_keep] at h
  split at h
  · next hid =>
    split at h
    · cases h
    · next hkept => exact .inl ⟨hid, (Option.some.inj h).symm, hkept⟩
  · next hid => exact .inr ⟨hid, h⟩

/-- What is stored after a session was dropped was stored before, and is another session. -/
lemma stored_of_erase {id' : String} {s' : Session}
    (h : (e.store.erase id).get? id' = some s') : id' ≠ id ∧ e.store.get? id' = some s' := by
  rw [Table.get?_erase] at h
  split at h
  · cases h
  · next hid => exact ⟨hid, h⟩

lemma settle_of_accepted {w : Walk} (e : Engine) (id : String) (changes : List Change)
    (h : w.refusal = none) :
    (e.settle id changes w).result = .ok (turnOf id w) ∧
      (e.settle id changes w).engine = e.keep id w.session := by
  simp only [settle, keep]
  rw [h]
  by_cases hdrop : w.session.status = .ended ∧ e.config.evictEnded
  · simp only [if_pos hdrop, Table.erase_insert_self, and_self]
  · simp only [if_neg hdrop, and_self]

/-! ### Calls one by one -/

lemma start_of_absent (flow : Flow) (h : e.store.get? id = none) :
    e.start id flow =
      e.settle id (Opening.ofFlow id flow).changes ((Opening.ofFlow id flow).run e.config.maxSteps) := by
  simp only [start]
  rw [h]
  rfl

lemma start_of_stored {s : Session} (flow : Flow) (h : e.store.get? id = some s) :
    (e.start id flow).result = .error (.sessionExists id) ∧ (e.start id flow).engine = e := by
  simp only [start]
  rw [h]
  exact ⟨rfl, rfl⟩

lemma startNodes_of_violation {nodes : List Node} {edges : List Edge} {violation : GraphError}
    (h : Graph.violation? nodes edges = some violation) :
    e.startNodes id nodes edges = e.refuse (.invalidGraph violation) := by
  simp only [startNodes, Flow.ofGraph_of_violation Flow.defaultName h]

lemma startNodes_of_valid {nodes : List Node} {edges : List Edge}
    (h : Graph.violation? nodes edges = none) :
    e.startNodes id nodes edges = e.start id ⟨Flow.defaultName, nodes, edges, h⟩ := by
  simp only [startNodes, Flow.ofGraph_of_valid Flow.defaultName h]

lemma waiting_eq_ok_iff {expected : Status} {s : Session} :
    e.waiting id expected = .ok s ↔ e.store.get? id = some s ∧ s.status = expected := by
  simp only [waiting]
  cases e.store.get? id with
  | none => simp
  | some s' =>
    by_cases hstatus : s'.status = expected
    · simp only [hstatus, if_true, Except.ok.injEq, Option.some.injEq]
      exact ⟨fun h => ⟨h, h ▸ hstatus⟩, fun h => h.1⟩
    · simp only [hstatus, if_false, Option.some.injEq, reduceCtorEq, false_iff]
      rintro ⟨rfl, hs⟩
      exact hstatus hs

/-- The session is not there, or not in the status that a call asks for. -/
def Withholds (e : Engine) (id : String) (expected : Status) (r : Refusal) : Prop :=
  (e.store.get? id = none ∧ r = .unknownSession id) ∨
    ∃ s, e.store.get? id = some s ∧ s.status ≠ expected ∧ r = .wrongStatus id expected s.status

lemma waiting_eq_error_iff {expected : Status} {r : Refusal} :
    e.waiting id expected = .error r ↔ e.Withholds id expected r := by
  simp only [waiting, Withholds]
  cases e.store.get? id with
  | none => simp [eq_comm]
  | some s =>
    by_cases hstatus : s.status = expected
    · simp [hstatus]
    · simp only [hstatus, if_false, Except.error.injEq, reduceCtorEq, false_and, false_or,
        Option.some.injEq]
      constructor
      · rintro rfl
        exact ⟨s, rfl, hstatus, rfl⟩
      · rintro ⟨s', rfl, _, rfl⟩
        rfl

lemma resume_of_ok {s : Session} (input : String) (h : e.waiting id .awaitingInput = .ok s) :
    e.resume id input =
      e.settle id (Opening.ofReply s input).changes
        ((Opening.ofReply s input).run e.config.maxSteps) := by
  simp only [resume]
  rw [h]
  rfl

lemma resume_of_error {r : Refusal} (input : String)
    (h : e.waiting id .awaitingInput = .error r) : e.resume id input = e.refuse r := by
  simp only [resume]
  rw [h]

lemma complete_of_ok {s : Session} (result : ExternalResult)
    (h : e.waiting id .awaitingExternal = .ok s) :
    e.complete id result =
      e.settle id (Opening.ofResult s result).changes
        ((Opening.ofResult s result).run e.config.maxSteps) := by
  simp only [complete]
  rw [h]
  rfl

lemma complete_of_error {r : Refusal} (result : ExternalResult)
    (h : e.waiting id .awaitingExternal = .error r) : e.complete id result = e.refuse r := by
  simp only [complete]
  rw [h]

/-! ### All calls -/

/-- An accepted call settles the walk that it opens. -/
lemma Opens.take_eq (h : e.Opens c o) :
    e.take c = (e.settle c.session o.changes (o.run e.config.maxSteps)).map .ofTurn := by
  cases h with
  | @start id flow absent =>
    show (e.start id flow).map _ = _
    rw [start_of_absent flow absent]
    rfl
  | @startNodes id nodes edges valid absent =>
    show (e.startNodes id nodes edges).map _ = _
    rw [startNodes_of_valid valid, start_of_absent _ absent]
    rfl
  | @resume id input s stored waits =>
    show (e.resume id input).map _ = _
    rw [resume_of_ok input (waiting_eq_ok_iff.mpr ⟨stored, waits⟩)]
    rfl
  | @complete id result s stored waits =>
    show (e.complete id result).map _ = _
    rw [complete_of_ok result (waiting_eq_ok_iff.mpr ⟨stored, waits⟩)]
    rfl

/-- The turn of an accepted call, and the engine after it. -/
lemma Opens.take (h : e.Opens c o) :
    (e.take c).result = .turn (turnOf c.session (o.run e.config.maxSteps)) ∧
      (e.take c).engine = e.keep c.session (o.run e.config.maxSteps).session := by
  obtain ⟨hresult, hengine⟩ :=
    settle_of_accepted e c.session o.changes (h.accepted e.config.maxSteps)
  rw [h.take_eq]
  simp only [Answer.map]
  rw [hresult, hengine]
  exact ⟨rfl, rfl⟩

/-- The journal of an accepted call: the changes before its walk, the edits on the way, and the end of
a session that is dropped. -/
lemma Opens.journal_take (h : e.Opens c o) :
    (e.take c).journal =
      o.changes ++ (o.run e.config.maxSteps).edits.toList.map (.edit c.session) ++
        if (o.run e.config.maxSteps).session.status = .ended ∧ e.config.evictEnded then
          [.destroy c.session]
        else [] := by
  rw [h.take_eq]
  simp only [Answer.map, settle]
  rw [h.accepted]
  by_cases hdrop : (o.run e.config.maxSteps).session.status = .ended ∧ e.config.evictEnded
  · simp only [if_pos hdrop]
  · simp only [if_neg hdrop, List.append_nil]

/-- What the store keeps of the session of an accepted call. -/
lemma Opens.get?_take (h : e.Opens c o) :
    (e.take c).engine.store.get? c.session =
      if (o.run e.config.maxSteps).session.status = .ended ∧ e.config.evictEnded then none
      else some (o.run e.config.maxSteps).session := by
  rw [h.take.2, get?_keep, if_pos rfl]

/-- The turn of an accepted call sends messages and closes by the status in which it leaves the
session. -/
lemma Opens.ending (h : e.Opens c o) (ceiling : Nat) :
    ∃ messages tail, (turnOf c.session (o.run ceiling)).events = Event.ofMessages messages ++ tail ∧
      Turn.Ending (turnOf c.session (o.run ceiling)).status
        (turnOf c.session (o.run ceiling)).pending tail := by
  obtain ⟨messages, tail, _, hending, hreached⟩ := h.over ceiling
  exact ⟨messages, tail, hreached.events, hending⟩

/-- What a call can give back, and what it makes of the engine. -/
inductive Takes (e : Engine) : Call → Response → Engine → Prop where
  | refused {c : Call} (r : Refusal) : Takes e c (.refused r) e
  | turned {c : Call} (o : Opening) (opens : e.Opens c o) :
      Takes e c (.turn (turnOf c.session (o.run e.config.maxSteps)))
        (e.keep c.session (o.run e.config.maxSteps).session)
  | destroyed {id : String} :
      Takes e (.destroy id) (.dropped (e.store.get? id)) { e with store := e.store.erase id }
  | archived {id : String} {s : Session} (stored : e.store.get? id = some s) :
      Takes e (.archive id) (.archived (.ofSession s)) { e with store := e.store.erase id }

lemma Opens.takes (h : e.Opens c o) : e.Takes c (e.take c).result (e.take c).engine := by
  rw [h.take.1, h.take.2]
  exact .turned o h

/-- Every call is refused, gives a turn or drops a session. -/
theorem takes_take (e : Engine) (c : Call) : e.Takes c (e.take c).result (e.take c).engine := by
  cases c with
  | start id flow =>
    cases hget : e.store.get? id with
    | none => exact (Opens.start hget).takes
    | some s =>
      obtain ⟨hresult, hengine⟩ := start_of_stored flow hget
      simp only [take, Answer.map, hresult, hengine]
      exact .refused _
  | startNodes id nodes edges =>
    cases hvalid : Graph.violation? nodes edges with
    | some violation =>
      simp only [take, startNodes_of_violation hvalid]
      exact .refused _
    | none =>
      cases hget : e.store.get? id with
      | none => exact (Opens.startNodes hvalid hget).takes
      | some s =>
        obtain ⟨hresult, hengine⟩ :=
          start_of_stored ⟨Flow.defaultName, nodes, edges, hvalid⟩ hget
        simp only [take, startNodes_of_valid hvalid, Answer.map]
        rw [hresult, hengine]
        exact .refused _
  | resume id input =>
    cases hwaiting : e.waiting id .awaitingInput with
    | error r =>
      simp only [take, resume_of_error input hwaiting]
      exact .refused _
    | ok s =>
      obtain ⟨stored, waits⟩ := waiting_eq_ok_iff.mp hwaiting
      exact (Opens.resume stored waits).takes
  | complete id result =>
    cases hwaiting : e.waiting id .awaitingExternal with
    | error r =>
      simp only [take, complete_of_error result hwaiting]
      exact .refused _
    | ok s =>
      obtain ⟨stored, waits⟩ := waiting_eq_ok_iff.mp hwaiting
      exact (Opens.complete stored waits).takes
  | destroy id => exact .destroyed
  | archive id =>
    cases hget : e.store.get? id with
    | none =>
      simp only [take, archive, destroy, Answer.map, hget, Table.erase_of_get?_eq_none _ hget]
      exact .refused _
    | some s =>
      simp only [take, archive, destroy, Answer.map, hget]
      exact .archived hget

/-- A turn is that of the walk which the call has opened. -/
lemma opens_of_turn {t : Turn} (h : (e.take c).result = .turn t) :
    ∃ o, e.Opens c o ∧ t = turnOf c.session (o.run e.config.maxSteps) := by
  have htakes := takes_take e c
  rw [h] at htakes
  generalize (e.take c).engine = e' at htakes
  cases htakes with
  | turned o opens => exact ⟨o, opens, rfl⟩

/-- Calls leave the settings as they are. -/
lemma take_config (e : Engine) (c : Call) : (e.take c).engine.config = e.config := by
  have htakes := takes_take e c
  generalize (e.take c).result = response, (e.take c).engine = e' at htakes
  cases htakes <;> rfl

lemma takeAll_config (e : Engine) (calls : List Call) :
    (e.takeAll calls).engine.config = e.config := by
  induction calls generalizing e with
  | nil => rfl
  | cons c calls ih => exact (ih _).trans (take_config e c)

lemma takeAll_append (e : Engine) (calls calls' : List Call) :
    (e.takeAll (calls ++ calls')).engine = ((e.takeAll calls).engine.takeAll calls').engine := by
  induction calls generalizing e with
  | nil => rfl
  | cons c calls ih => exact ih _

/-! ### Histories -/

/-- Calls, each with what it gives back when they are taken one after the other. -/
def history (e : Engine) (calls : List Call) : List (Call × Response) :=
  calls.zip (e.takeAll calls).result

lemma history_cons (e : Engine) (c : Call) (calls : List Call) :
    e.history (c :: calls) = (c, (e.take c).result) :: (e.take c).engine.history calls := rfl

end Engine

/-! ### A sample -/

/-- A flow that asks for a name, greets, pauses and looks the name up. The reply `again` leads into
a round without an end. -/
def Flow.sample : Flow where
  name := "sample"
  nodes := [
    ⟨"start", .start, none⟩,
    ⟨"ask", .input (some "name"), none⟩,
    ⟨"check", .condition "again", none⟩,
    ⟨"tell", .message ⟨"Once more, \x7bname\x7d", none, none⟩, none⟩,
    ⟨"back", .jump "check", none⟩,
    ⟨"greet", .message ⟨"Hello \x7bname\x7d", none, none⟩, none⟩,
    ⟨"pause", .delay 2, none⟩,
    ⟨"call", .api { method := "GET", url := "/names/\x7bname\x7d" }, none⟩,
    ⟨"end", .finish, none⟩]
  edges := [
    ⟨"1", "start", "ask", none⟩,
    ⟨"2", "ask", "check", none⟩,
    ⟨"3", "check", "tell", some "true"⟩,
    ⟨"4", "check", "greet", some "false"⟩,
    ⟨"5", "tell", "back", none⟩,
    ⟨"6", "greet", "pause", none⟩,
    ⟨"7", "pause", "call", none⟩,
    ⟨"8", "call", "end", none⟩]
  valid := by decide

/-- An engine with a session `a` on `Flow.sample`, which waits for a name. -/
def Engine.sample (config : EngineConfig) : Engine :=
  ((⟨∅, config⟩ : Engine).take (.start "a" .sample)).engine

end Dialogue
