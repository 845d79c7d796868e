import Dialogue.Host
import Dialogue.Proofs.Engine.Acceptance

/-!
# Settling and completing by hand

A host that settles an event does what its caller could do by hand: it takes the event and, as long
as the session waits for something and rounds are left, gives the session the answer to what it
waits for. No round fails, since a turn waits for something exactly if its session does.
-/

namespace Dialogue

/-! ### What turns leave pending -/

namespace Engine

variable {e : Engine} {c : Call} {t : Turn}

/-- What the session of a name waits for, if it is there. -/
def pending? (e : Engine) (id : String) : Option ExternalRequest :=
  (e.store.get? id).bind (·.pending)

/-- The turn tells what its session waits for, and the session takes an answer to that. -/
structure Leaves (e : Engine) (t : Turn) : Prop where
  pending : e.pending? t.session = t.pending
  waits : t.pending ≠ none →
    ∃ s, e.store.get? t.session = some s ∧ s.status = .awaitingExternal

lemma awaitingExternal_of_ending {status : Status} {pending : Option ExternalRequest}
    {tail : List Event} (h : Turn.Ending status pending tail) (hne : pending ≠ none) :
    status = .awaitingExternal := by
  cases h with
  | delay | request => rfl
  | _ => exact absurd rfl hne

lemma leaves_of_turn (h : (e.take c).result = .turn t) :
    t.session = c.session ∧ (e.take c).engine.Leaves t := by
  obtain ⟨o, ho, rfl⟩ := opens_of_turn h
  obtain ⟨_, tail, _, hending⟩ := ho.ending e.config.maxSteps
  refine ⟨rfl, ?_⟩
  have hstored := ho.get?_take
  by_cases hdrop : (o.run e.config.maxSteps).session.status = .ended ∧ e.config.evictEnded
  · rw [if_pos hdrop] at hstored
    have hended : (turnOf c.session (o.run e.config.maxSteps)).status = .ended := hdrop.1
    rw [hended] at hending
    refine ⟨?_, fun hne => absurd hending.pending_eq_none hne⟩
    rw [hending.pending_eq_none]
    simp only [pending?, turnOf, hstored, Option.bind_none]
  · rw [if_neg hdrop] at hstored
    refine ⟨?_, fun hne => ⟨_, hstored, awaitingExternal_of_ending hending hne⟩⟩
    simp only [pending?, turnOf, hstored, Option.bind_some]

end Engine

/-! ### Events by hand -/

/-- The session that an event is for. One without a name gets a fresh one. -/
def Incoming.session (fresh : String) : Incoming → String
  | startFlow _ session => session.getD fresh
  | userMessage session _ => session
  | externalComplete session _ => session

namespace Host

variable {services : Services Id} {h h₁ h₂ : Host} {mode : DelayMode} {id : String} {n : Nat}
  {turns turns' : List Turn} {t : Turn}

/-- The answers to what a session waits for. There is none to a delay that is left to the caller. -/
inductive Answers (services : Services Id) (mode : DelayMode) :
    ExternalRequest → ExternalResult → Prop where
  | elapsed {seconds : Float} (awaited : mode ≠ .manual) :
      Answers services mode (.delay seconds) .delayElapsed
  | succeeded {request : ApiRequest} {response : ApiResponse}
      (called : services.call request = .ok response) :
      Answers services mode (.http request) (.httpSucceeded response)
  | failed {request : ApiRequest} {e : HttpError} (called : services.call request = .error e) :
      Answers services mode (.http request) (.httpFailed e.message)

lemma Answers.unique {request : ExternalRequest} {result result' : ExternalResult}
    (ha : Answers services mode request result) (ha' : Answers services mode request result') :
    result' = result := by
  cases ha with
  | elapsed =>
    cases ha'
    rfl
  | succeeded called =>
    cases ha' with
    | succeeded called' =>
      cases called.symm.trans called'
      rfl
    | failed called' => cases called.symm.trans called'
  | failed called =>
    cases ha' with
    | succeeded called' => cases called.symm.trans called'
    | failed called' =>
      cases called.symm.trans called'
      rfl

/-- A session is given the answers to what it waits for, each as an event of its own: up to so many
of them, as long as there are any. -/
inductive Completed (services : Services Id) (mode : DelayMode) (id : String) :
    Host → Nat → List Turn → Host → Prop where
  | capped {h : Host} : Completed services mode id h 0 [] h
  | idle {h : Host} {n : Nat} (nothing : h.engine.pending? id = none) :
      Completed services mode id h n [] h
  | left {h : Host} {n : Nat} {seconds : Float}
      (waits : h.engine.pending? id = some (.delay seconds)) (manual : mode = .manual) :
      Completed services mode id h n [] h
  | round {h h₁ h₂ : Host} {n : Nat} {request : ExternalRequest} {result : ExternalResult}
      {t : Turn} {turns : List Turn} (waits : h.engine.pending? id = some request)
      (answers : Answers services mode request result)
      (completed : (h.handle services (.externalComplete id result)).run = (.ok t, h₁))
      (rest : Completed services mode id h₁ n turns h₂) :
      Completed services mode id h (n + 1) (t :: turns) h₂

namespace Completed

/-- Where a request can be answered, one of the two ends. -/
lemma stops (hc : Completed services mode id h n turns h₁) :
    h₁.engine.pending? id = none ∨
      (∃ seconds, h₁.engine.pending? id = some (.delay seconds) ∧ mode = .manual) ∨
        turns.length = n := by
  induction hc with
  | capped => exact .inr (.inr rfl)
  | idle nothing => exact .inl nothing
  | left waits manual => exact .inr (.inl ⟨_, waits, manual⟩)
  | round waits answers completed rest ih => exact ih.imp_right (.imp_right (congrArg Nat.succ))

lemma turns_eq_nil (hc : Completed services mode id h n turns h₁)
    (hnone : ∀ request result, h.engine.pending? id = some request →
      ¬ Answers services mode request result) : turns = [] ∧ h₁ = h := by
  cases hc with
  | capped | idle | left => exact ⟨rfl, rfl⟩
  | round waits answers => exact absurd answers (hnone _ _ waits)

/-- There is only one way to complete what a session waits for. -/
lemma unique (hc : Completed services mode id h n turns h₁)
    (hc' : Completed services mode id h n turns' h₂) : turns' = turns ∧ h₂ = h₁ := by
  induction hc generalizing turns' with
  | capped =>
    cases hc' with
    | capped | idle | left => exact ⟨rfl, rfl⟩
  | idle nothing =>
    refine hc'.turns_eq_nil fun request result hwaits => ?_
    rw [nothing] at hwaits
    cases hwaits
  | left waits manual =>
    refine hc'.turns_eq_nil fun request result hwaits hanswers => ?_
    rw [waits] at hwaits
    cases hwaits
    cases hanswers with
    | elapsed awaited => exact awaited manual
  | round waits answers completed rest ih =>
    cases hc' with
    | idle nothing =>
      rw [waits] at nothing
      cases nothing
    | left waits' manual =>
      rw [waits] at waits'
      cases waits'
      cases answers with
      | elapsed awaited => exact absurd manual awaited
    | round waits' answers' completed' rest' =>
      obtain rfl := Option.some.inj (waits.symm.trans waits')
      obtain rfl := answers.unique answers'
      cases completed.symm.trans completed'
      obtain ⟨rfl, rfl⟩ := ih rest'
      exact ⟨rfl, rfl⟩

end Completed

/-! ### What hosts do -/

/-- Where a call gets a turn, the host replies with it. -/
lemma reply_of_turn {c : Call} {a : Answer (Except Refusal Turn)}
    (hc : h.engine.take c = a.map .ofTurn) (ht : (h.engine.take c).result = .turn t) :
    h.reply a = (.ok t, { h with engine := (h.engine.take c).engine }) := by
  rw [hc] at ht ⊢
  have hresult : a.result = .ok t := by
    simp only [Answer.map] at ht
    cases hresult : a.result with
    | ok t' =>
      rw [hresult] at ht
      cases ht
      rfl
    | error r =>
      rw [hresult] at ht
      cases ht
  simp only [reply, hresult]
  rfl

/-- What a host replies to a call is a turn of the engine, or an error that leaves it as it was. -/
lemma reply_take {c : Call} {a : Answer (Except Refusal Turn)}
    (hc : h.engine.take c = a.map .ofTurn) :
    (∃ e, h.reply a = (.error e, h)) ∨
      ∃ t, (h.engine.take c).result = .turn t ∧
        h.reply a = (.ok t, { h with engine := (h.engine.take c).engine }) := by
  cases hresult : a.result with
  | ok t =>
    have ht : (h.engine.take c).result = .turn t := by
      rw [hc]
      simp only [Answer.map, hresult]
      rfl
    exact .inr ⟨t, ht, reply_of_turn hc ht⟩
  | error r =>
    have hrefused : (h.engine.take c).result = .refused r := by
      rw [hc]
      simp only [Answer.map, hresult]
      rfl
    have hengine := Engine.take_of_refused hrefused
    rw [hc] at hengine
    refine .inl ⟨.refused r, ?_⟩
    simp only [reply, hresult]
    rw [show a.engine = h.engine from hengine]
    rfl

lemma handle_startFlow_of_none (services : Services Id) {flow : String} (session : Option String)
    (hflow : h.catalog.get? flow = none) :
    (h.handle services (.startFlow flow session)).run = (.error (.unknownFlow flow), h) := by
  simp only [handle, hflow]
  rfl

lemma handle_startFlow_of_some (services : Services Id) {flow : String} (session : Option String)
    {f : Flow} (hflow : h.catalog.get? flow = some f) :
    (h.handle services (.startFlow flow session)).run =
      h.reply (h.engine.start (session.getD services.freshId) f) := by
  simp only [handle, hflow]
  cases session <;> rfl

/-- An event is refused and changes nothing, or gets the turn of a call on its session. -/
lemma handle_cases (services : Services Id) (h : Host) (event : Incoming) :
    (∃ e, (h.handle services event).run = (.error e, h)) ∨
      ∃ c t, c.session = event.session services.freshId ∧ (h.engine.take c).result = .turn t ∧
        (h.handle services event).run = (.ok t, { h with engine := (h.engine.take c).engine }) := by
  have hcall : ∀ (c : Call) (a : Answer (Except Refusal Turn)),
      c.session = event.session services.freshId → h.engine.take c = a.map .ofTurn →
      (∃ e, h.reply a = (.error e, h)) ∨
        ∃ c t, c.session = event.session services.freshId ∧ (h.engine.take c).result = .turn t ∧
          h.reply a = (.ok t, { h with engine := (h.engine.take c).engine }) := by
    intro c a hsession hc
    exact (reply_take hc).imp_right fun ⟨t, hturn, heq⟩ => ⟨c, t, hsession, hturn, heq⟩
  cases event with
  | startFlow flow session =>
    cases hflow : h.catalog.get? flow with
    | none => exact .inl ⟨_, handle_startFlow_of_none services session hflow⟩
    | some f =>
      rw [handle_startFlow_of_some services session hflow]
      exact hcall (.start (session.getD services.freshId) f) _ rfl rfl
  | userMessage id text => exact hcall (.resume id text) _ rfl rfl
  | externalComplete id result => exact hcall (.complete id result) _ rfl rfl

lemma wait?_eq_none_iff {seconds : Float} : mode.wait? seconds = none ↔ mode = .manual := by
  cases mode <;> simp [DelayMode.wait?]

/-- A host answers every request, but for a delay that is left to the caller. -/
lemma perform_cases (services : Services Id) (h : Host) (request : ExternalRequest) :
    ((h.perform services request).run = none ∧
        ∃ seconds, request = .delay seconds ∧ h.config.delayMode = .manual) ∨
      ∃ result, (h.perform services request).run = some result ∧
        Answers services h.config.delayMode request result := by
  cases request with
  | delay seconds =>
    cases hwait : h.config.delayMode.wait? seconds with
    | none =>
      refine .inl ⟨?_, seconds, rfl, wait?_eq_none_iff.mp hwait⟩
      simp only [perform, hwait]
      rfl
    | some wait =>
      refine .inr ⟨.delayElapsed, ?_, .elapsed fun hmanual => ?_⟩
      · simp only [perform, hwait]
        by_cases hzero : wait = {}
        · rw [if_neg (not_not_intro hzero)]
          rfl
        · rw [if_pos hzero]
          rfl
      · rw [wait?_eq_none_iff.mpr hmanual] at hwait
        cases hwait
  | http request =>
    refine .inr ?_
    cases hcall : services.call request with
    | ok response =>
      refine ⟨.httpSucceeded response, ?_, .succeeded hcall⟩
      simp only [perform]
      rw [hcall]
      rfl
    | error e =>
      refine ⟨.httpFailed e.message, ?_, .failed hcall⟩
      simp only [perform]
      rw [hcall]
      rfl

/-! ### Settling -/

lemma joinTurns_foldl (first : Turn) (turns : List Turn) :
    ∃ last, (first :: turns).getLast? = some last ∧
      turns.foldl joinTurns first =
        { session := first.session
          status := last.status
          events := (first :: turns).flatMap (·.events)
          pending := last.pending } := by
  induction turns generalizing first with
  | nil =>
    refine ⟨first, rfl, ?_⟩
    rw [List.flatMap_singleton]
    rfl
  | cons t turns ih =>
    obtain ⟨last, hlast, hturn⟩ := ih (joinTurns first t)
    cases turns with
    | nil =>
      cases hlast
      refine ⟨t, rfl, hturn.trans ?_⟩
      simp [joinTurns]
    | cons t' turns =>
      refine ⟨last, ?_, hturn.trans ?_⟩
      · simpa using hlast
      · simp [joinTurns]

section Rounds

variable {turn : Turn} {request : ExternalRequest} {result : ExternalResult}

lemma settleRounds_of_none (hpending : turn.pending = none) :
    (h.settleRounds services turn n).run = (.ok turn, h) := by
  cases n with
  | zero => rfl
  | succ n =>
    simp only [settleRounds, hpending]
    rfl

lemma settleRounds_of_left (hpending : turn.pending = some request)
    (hleft : (h.perform services request).run = none) :
    (h.settleRounds services turn n).run = (.ok turn, h) := by
  cases n with
  | zero => rfl
  | succ n =>
    have hperform : h.perform services request = pure none := hleft
    simp only [settleRounds, hpending, hperform, pure_bind]
    rfl

lemma settleRounds_of_answer (hpending : turn.pending = some request)
    (hanswer : (h.perform services request).run = some result)
    (hcompleted : (h.handle services (.externalComplete turn.session result)).run = (.ok t, h₁)) :
    (h.settleRounds services turn (n + 1)).run =
      (h₁.settleRounds services (joinTurns turn t) n).run := by
  have hreply : h.reply (h.engine.complete turn.session result) = (.ok t, h₁) := hcompleted
  have hperform : h.perform services request = pure (some result) := hanswer
  simp only [settleRounds, hpending, hperform, pure_bind, hreply]

/-- A session that a turn leaves waiting takes the result that it is given. -/
lemma handle_complete (services : Services Id) (hleaves : h.engine.Leaves turn)
    (hpending : turn.pending = some request) (result : ExternalResult) :
    ∃ t h₁, (h.handle services (.externalComplete turn.session result)).run = (.ok t, h₁) ∧
      h₁.config = h.config ∧ h₁.engine.Leaves (joinTurns turn t) := by
  obtain ⟨s, hs, hstatus⟩ := hleaves.waits (by simp [hpending])
  have hopens : h.engine.Opens (.complete turn.session result) (.ofResult s result) :=
    .complete hs hstatus
  obtain ⟨hsession, hpending', hwaits'⟩ := Engine.leaves_of_turn hopens.take.1
  exact ⟨_, _, reply_of_turn rfl hopens.take.1, rfl, hpending', hwaits'⟩

/-- The rounds of a host are answers given by hand, as many as there can be. -/
lemma settleRounds_completed (services : Services Id) (hleaves : h.engine.Leaves turn) (n : Nat) :
    ∃ turns h₁, Completed services h.config.delayMode turn.session h n turns h₁ ∧
      (h.settleRounds services turn n).run = (.ok (turns.foldl joinTurns turn), h₁) ∧
      h₁.engine.Leaves (turns.foldl joinTurns turn) := by
  induction n generalizing h turn with
  | zero => exact ⟨[], h, .capped, rfl, hleaves⟩
  | succ n ih =>
    cases hpending : turn.pending with
    | none =>
      have hnothing : h.engine.pending? turn.session = none := hleaves.pending.trans hpending
      exact ⟨[], h, .idle hnothing, settleRounds_of_none hpending, hleaves⟩
    | some request =>
      have hwaits : h.engine.pending? turn.session = some request := hleaves.pending.trans hpending
      rcases perform_cases services h request with
        ⟨hleft, seconds, rfl, hmanual⟩ | ⟨result, hanswer, hanswers⟩
      · exact ⟨[], h, .left hwaits hmanual, settleRounds_of_left hpending hleft, hleaves⟩
      · obtain ⟨t, h₁, hcompleted, hconfig, hnext⟩ :=
          handle_complete services hleaves hpending result
        obtain ⟨turns, h₂, hrest, hrounds, hlast⟩ := ih hnext
        rw [hconfig] at hrest
        refine ⟨t :: turns, h₂, .round hwaits hanswers hcompleted hrest, ?_, hlast⟩
        rw [settleRounds_of_answer hpending hanswer hcompleted, hrounds]
        rfl

end Rounds

lemma handleAndSettle_of_error {event : Incoming} {e : HostError}
    (herror : (h.handle services event).run = (.error e, h₁)) :
    (h.handleAndSettle services event).run = (.error e, h₁) := by
  have hhandle : h.handle services event = pure (.error e, h₁) := herror
  rw [handleAndSettle, hhandle, pure_bind]
  rfl

lemma handleAndSettle_of_ok {event : Incoming}
    (hok : (h.handle services event).run = (.ok t, h₁)) :
    (h.handleAndSettle services event).run =
      (h₁.settleRounds services t h₁.config.settleRounds).run := by
  have hhandle : h.handle services event = pure (.ok t, h₁) := hok
  rw [handleAndSettle, hhandle, pure_bind]
  rfl

/-- An event is refused, or its session is given the answers to what it waits for. -/
lemma handleAndSettle_cases (services : Services Id) (h : Host) (event : Incoming) :
    (∃ e, (h.handle services event).run = (.error e, h) ∧
        (h.handleAndSettle services event).run = (.error e, h)) ∨
      ∃ first h₁ turns h₂, (h.handle services event).run = (.ok first, h₁) ∧
        first.session = event.session services.freshId ∧
        Completed services h.config.delayMode first.session h₁ h.config.settleRounds turns h₂ ∧
        (h.handleAndSettle services event).run = (.ok (turns.foldl joinTurns first), h₂) := by
  rcases handle_cases services h event with ⟨e, herror⟩ | ⟨c, t, hsession, hturn, hok⟩
  · exact .inl ⟨e, herror, handleAndSettle_of_error herror⟩
  · obtain ⟨hid, hleaves⟩ := Engine.leaves_of_turn hturn
    obtain ⟨turns, h₂, hcompleted, hrounds, _⟩ :=
      settleRounds_completed (h := { h with engine := (h.engine.take c).engine }) services hleaves
        h.config.settleRounds
    exact .inr ⟨t, _, turns, h₂, hok, hid.trans hsession, hcompleted,
      (handleAndSettle_of_ok hok).trans hrounds⟩

/-- A host settles an event as its caller could by hand. It fails exactly where taking the event
fails, with the same error and without a change. Otherwise it takes the event and gives its session
the answers to what the session waits for, one after the other, as long as there is something that
it does not leave to the caller and the settings allow a round. It replies with the events of all
these turns, and with status and request of the last. -/
theorem handleAndSettle_completes (services : Services Id) (h : Host) (event : Incoming) :
    (∀ e, (h.handleAndSettle services event).run.1 = .error e ↔
      (h.handle services event).run.1 = .error e) ∧
    (∀ e, (h.handle services event).run.1 = .error e →
      (h.handle services event).run.2 = h ∧ (h.handleAndSettle services event).run.2 = h) ∧
    ∀ first h₁, (h.handle services event).run = (.ok first, h₁) →
      first.session = event.session services.freshId ∧
      ∃ turns h₂ last,
        Completed services h.config.delayMode first.session h₁ h.config.settleRounds turns h₂ ∧
        (∀ turns' h', Completed services h.config.delayMode first.session h₁ h.config.settleRounds
          turns' h' → turns' = turns ∧ h' = h₂) ∧
        (first :: turns).getLast? = some last ∧
        (h.handleAndSettle services event).run =
          (.ok {
            session := first.session
            status := last.status
            events := (first :: turns).flatMap (·.events)
            pending := last.pending }, h₂) ∧
        h₂.engine.pending? first.session = last.pending ∧
        (last.pending = none ∨
          (∃ seconds, last.pending = some (.delay seconds) ∧ h.config.delayMode = .manual) ∨
            turns.length = h.config.settleRounds) := by
  rcases handle_cases services h event with ⟨e, herror⟩ | ⟨c, t, hsession, hturn, hok⟩
  · rw [herror, handleAndSettle_of_error herror]
    exact ⟨fun _ => Iff.rfl, fun _ _ => ⟨rfl, rfl⟩, fun first h₁ hfirst => nomatch hfirst⟩
  · obtain ⟨hid, hleaves⟩ := Engine.leaves_of_turn hturn
    obtain ⟨turns, h₂, hcompleted, hrounds, hlast⟩ :=
      settleRounds_completed (h := { h with engine := (h.engine.take c).engine }) services hleaves
        h.config.settleRounds
    have hsettle := (handleAndSettle_of_ok hok).trans hrounds
    obtain ⟨last, hgetLast, hjoined⟩ := joinTurns_foldl t turns
    rw [hjoined] at hsettle hlast
    rw [hok, hsettle]
    refine ⟨fun e => ⟨nofun, nofun⟩, nofun, ?_⟩
    rintro first h₁ ⟨⟩
    refine ⟨hid.trans hsession, turns, h₂, last, hcompleted, fun _ _ => hcompleted.unique, hgetLast,
      rfl, hlast.pending, ?_⟩
    have hstops := hcompleted.stops
    rwa [hlast.pending] at hstops

end Host

end Dialogue
