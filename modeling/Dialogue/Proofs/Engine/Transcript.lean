import Dialogue.Proofs.Engine.Calls
import Dialogue.Proofs.Walk.Told

/-!
# Transcripts

The transcript of a session is the conversation as its callers have had it since the session was
last started: the replies that they gave and the events that they got, one line each, in order.
Refused calls leave no trace in it.
-/

namespace Dialogue

/-! ### Exchanges -/

namespace Call

/-- The lines that a call with its response adds to a transcript. -/
def lines : Call → Response → List Line
  | resume _ input, .turn t => ⟨.user, input⟩ :: t.events.filterMap Event.line?
  | _, .turn t => t.events.filterMap Event.line?
  | _, _ => []

/-- Whether a call with its response starts a session. -/
def begins : Call → Response → Bool
  | start .., .turn _ => true
  | startNodes .., .turn _ => true
  | _, _ => false

lemma lines_refused (c : Call) (r : Refusal) : c.lines (.refused r) = [] := by
  cases c <;> rfl

lemma begins_refused (c : Call) (r : Refusal) : c.begins (.refused r) = false := by
  cases c <;> rfl

end Call

namespace Session

/-- The transcript has the lines of the exchanges since the last that started the session. -/
def ToldBy (s : Session) (exchanges : List (Call × Response)) : Prop :=
  ∃ before first after, exchanges = before ++ first :: after ∧
    first.1.begins first.2 ∧ (∀ x ∈ after, x.1.begins x.2 = false) ∧
    s.transcript.toList = (first :: after).flatMap fun x => x.1.lines x.2

variable {s s' : Session} {exchanges : List (Call × Response)} {c : Call} {r : Response}

lemma toldBy_of_begins (exchanges : List (Call × Response)) (hbegins : c.begins r)
    (hlines : s.transcript.toList = c.lines r) : s.ToldBy (exchanges ++ [(c, r)]) := by
  refine ⟨exchanges, (c, r), [], rfl, hbegins, ?_, ?_⟩
  · intro x hx
    cases hx
  · rw [hlines]
    exact (List.append_nil _).symm

lemma ToldBy.append (h : s.ToldBy exchanges) (hbegins : c.begins r = false)
    (hlines : s'.transcript.toList = s.transcript.toList ++ c.lines r) :
    s'.ToldBy (exchanges ++ [(c, r)]) := by
  obtain ⟨before, first, after, rfl, hfirst, hafter, htold⟩ := h
  refine ⟨before, first, after ++ [(c, r)], by simp, hfirst, ?_, ?_⟩
  · intro x hx
    rcases List.mem_append.mp hx with hx | hx
    · exact hafter x hx
    · rw [List.mem_singleton.mp hx]
      exact hbegins
  · rw [hlines, htold, ← List.cons_append, List.flatMap_append]
    simp

end Session

namespace Engine

variable {e : Engine} {c : Call} {o : Opening} {history : List (Call × Response)}

/-! ### One call -/

/-- The turn of a call has the lines that its walk adds to the transcript: of a new session, or of
the one that is stored. -/
lemma Opens.transcript (h : e.Opens c o) (ceiling : Nat) :
    let response := Response.turn (turnOf c.session (o.run ceiling))
    let lines := (o.run ceiling).session.transcript.toList
    (c.begins response ∧ lines = c.lines response) ∨
      ∃ s, e.store.get? c.session = some s ∧ c.begins response = false ∧
        lines = s.transcript.toList ++ c.lines response := by
  cases h with
  | start | startNodes =>
    refine .inl ⟨rfl, ?_⟩
    exact (Walk.Reached.begin.advanceTo Flow.isSome_node?_start).transcript_run _ _
  | @resume id input s stored waits =>
    refine .inr ⟨s, stored, rfl, ?_⟩
    have hrun := ((@Walk.Reached.begin s).record .user input).transcript_run ceiling
      (some (.userInput input))
    simp only [Session.say, Array.toList_push, List.append_assoc] at hrun
    exact hrun
  | @complete id result s stored waits =>
    exact .inr ⟨s, stored, rfl, Walk.Reached.begin.transcript_run _ _⟩

lemma Opens.remembersInput (h : e.Opens c o)
    (hstored : ∀ id s, e.store.get? id = some s → s.RemembersInput) (ceiling : Nat) :
    (o.run ceiling).session.RemembersInput := by
  obtain ⟨_, _, _, _, hreached⟩ := h.over ceiling
  have horigin : o.origin.RemembersInput := by
    cases h with
    | start | startNodes => exact Session.remembersInput_new _ _
    | resume stored | complete stored => exact hstored _ _ stored
  exact horigin.editAll hreached.edits

/-! ### Runs -/

/-- The sessions of the engine tell what was said on them in a history. -/
structure Tells (history : List (Call × Response)) (e : Engine) : Prop where
  told : ∀ id s, e.store.get? id = some s → s.ToldBy (history.filter (·.1.session = id))
  remembers : ∀ id s, e.store.get? id = some s → s.RemembersInput

lemma filter_append_of_ne {id : String} (hc : c.session ≠ id) (r : Response) :
    (history ++ [(c, r)]).filter (·.1.session = id) = history.filter (·.1.session = id) := by
  simp [hc]

lemma filter_append_self (r : Response) :
    (history ++ [(c, r)]).filter (·.1.session = c.session) =
      history.filter (·.1.session = c.session) ++ [(c, r)] := by
  simp

/-- A call that drops its session leaves the others as they were told. -/
lemma Tells.erase (h : Tells history e) (r : Response) :
    Tells (history ++ [(c, r)]) { e with store := e.store.erase c.session } := by
  constructor
  · intro id s hs
    obtain ⟨hne, hs⟩ := stored_of_erase hs
    rw [filter_append_of_ne hne.symm]
    exact h.told id s hs
  · intro id s hs
    exact h.remembers id s (stored_of_erase hs).2

/-- What is kept of a walk tells the exchange with the others before it. -/
lemma Tells.keep (h : Tells history e) (ho : e.Opens c o) (ceiling : Nat) :
    Tells (history ++ [(c, .turn (turnOf c.session (o.run ceiling)))])
      (e.keep c.session (o.run ceiling).session) := by
  constructor
  · intro id s hs
    rcases stored_of_keep hs with ⟨rfl, rfl, _⟩ | ⟨hne, hs⟩
    · rw [filter_append_self]
      rcases ho.transcript ceiling with ⟨hbegins, hlines⟩ | ⟨s, hs, hbegins, hlines⟩
      · exact Session.toldBy_of_begins _ hbegins hlines
      · exact (h.told _ s hs).append hbegins hlines
    · rw [filter_append_of_ne hne.symm]
      exact h.told id s hs
  · intro id s hs
    rcases stored_of_keep hs with ⟨rfl, rfl, _⟩ | ⟨_, hs⟩
    · exact ho.remembersInput h.remembers ceiling
    · exact h.remembers id s hs

lemma Tells.refused (h : Tells history e) (r : Refusal) :
    Tells (history ++ [(c, .refused r)]) e := by
  refine ⟨?_, h.remembers⟩
  intro id s hs
  by_cases hc : c.session = id
  · subst hc
    rw [filter_append_self]
    refine (h.told _ s hs).append (c.begins_refused r) ?_
    rw [c.lines_refused, List.append_nil]
  · rw [filter_append_of_ne hc]
    exact h.told id s hs

/-- After a call the sessions tell the history with that call. -/
lemma Tells.take (h : Tells history e) (c : Call) :
    Tells (history ++ [(c, (e.take c).result)]) (e.take c).engine := by
  have htakes := takes_take e c
  generalize (e.take c).result = response, (e.take c).engine = e' at htakes ⊢
  cases htakes with
  | refused r => exact h.refused r
  | turned o opens => exact h.keep opens _
  | destroyed | archived => exact h.erase _

lemma Tells.takeAll (h : Tells history e) (calls : List Call) :
    Tells (history ++ e.history calls) (e.takeAll calls).engine := by
  induction calls generalizing e history with
  | nil =>
    rw [show e.history [] = [] from rfl, List.append_nil]
    exact h
  | cons c calls ih =>
    have hrest := ih (h.take c)
    rw [List.append_assoc] at hrest
    exact hrest

end Engine

end Dialogue
