import Dialogue.Proofs.Engine.Lifetime
import Dialogue.Proofs.Host.Rounds

/-!
# Hosts that attend to a session

A host that lets delays pass at once and does not drop sessions attends to the session of its latest
turn: it has an answer to whatever the session waits for, and the session takes it. So settling
never fails, and it stops short only where its rounds are used up. Services act on a world of any
kind.
-/

namespace Dialogue

/-! ### Events told so far -/

/-- The events of a conversation by the status in which they leave it. -/
inductive Event.Told : Status → List Event → Prop where
  | awaitingInput {events : List Event} (calm : Calm events) : Told .awaitingInput events
  | awaitingExternal {events : List Event} (calm : Calm events) : Told .awaitingExternal events
  | ended {events : List Event} (closed : Closed events) : Told .ended events

namespace Event

variable {status : Status} {events said : List Event}

lemma Calm.told (h : Calm said) (h' : Told status events) : Told status (said ++ events) := by
  cases h' with
  | awaitingInput calm => exact .awaitingInput (h.append calm)
  | awaitingExternal calm => exact .awaitingExternal (h.append calm)
  | ended closed => exact .ended (h.append_closed closed)

lemma Told.calm (h : Told status events) (hne : status ≠ .ended) : Calm events := by
  cases h with
  | awaitingInput calm | awaitingExternal calm => exact calm
  | ended => exact absurd rfl hne

lemma told_of_ending {pending : Option ExternalRequest} {tail : List Event}
    (h : Turn.Ending status pending tail) : Told status tail := by
  have hcalm := calm_of_ending h
  cases h with
  | awaitingInput => exact .awaitingInput (hcalm nofun)
  | delay | request => exact .awaitingExternal (hcalm nofun)
  | ended => exact .ended (.ended calm_nil)
  | failed kind reason => exact .ended (.failed calm_nil)

end Event

lemma Turn.Ending.pending_ne_none_iff {status : Status} {pending : Option ExternalRequest}
    {tail : List Event} (h : Ending status pending tail) :
    pending ≠ none ↔ status = .awaitingExternal := by
  cases h <;> simp

namespace Host

variable {W : Type} {services : Services (StateM W)} {h : Host} {turn : Turn} {w : W}

/-! ### Turns that are attended to -/

/-- The host keeps the session as the turn says and can answer what it waits for. -/
structure Attends (h : Host) (turn : Turn) : Prop where
  lasting : h.engine.config.evictEnded = false
  immediate : h.config.delayMode = .immediate
  stored : ∃ s, h.engine.store.get? turn.session = some s ∧ s.status = turn.status
  pending : turn.pending ≠ none ↔ turn.status = .awaitingExternal
  told : Event.Told turn.status turn.events

/-- A host gets a turn for a call that the engine accepts, and attends to it. -/
lemma reply_of_opens {c : Call} {o : Opening} {a : Answer (Except Refusal Turn)}
    (lasting : h.engine.config.evictEnded = false) (immediate : h.config.delayMode = .immediate)
    (ho : h.engine.Opens c o) (hc : h.engine.take c = a.map .ofTurn) :
    ∃ t h', h.reply a = (.ok t, h') ∧ t.session = c.session ∧ h'.config = h.config ∧
      h'.Attends t := by
  have hstored := ho.get?_take
  rw [lasting, if_neg fun hdrop => Bool.false_ne_true hdrop.2] at hstored
  obtain ⟨messages, tail, hevents, hending⟩ := ho.ending h.engine.config.maxSteps
  refine ⟨_, _, reply_of_turn hc ho.take.1, rfl, rfl, ?_, immediate, ⟨_, hstored, rfl⟩,
    hending.pending_ne_none_iff, ?_⟩
  · rw [Engine.take_config, lasting]
  · rw [hevents]
    exact (Event.calm_ofMessages messages).told (Event.told_of_ending hending)

/-- The answer to a request leads to a turn that goes on with the events so far. -/
lemma Attends.complete (hturn : h.Attends turn) {request : ExternalRequest}
    (hpending : turn.pending = some request) (result : ExternalResult) :
    ∃ t h', h.reply (h.engine.complete turn.session result) = (.ok t, h') ∧
      h'.config = h.config ∧ h'.Attends (joinTurns turn t) := by
  have hwaits : turn.status = .awaitingExternal := hturn.pending.mp (by simp [hpending])
  obtain ⟨s, hs, hstatus⟩ := hturn.stored
  have ho : h.engine.Opens (.complete turn.session result) (.ofResult s result) :=
    .complete hs (hstatus.trans hwaits)
  obtain ⟨t, h', hreply, hsession, hconfig, ht⟩ :=
    reply_of_opens hturn.lasting hturn.immediate ho rfl
  obtain ⟨s', hs', hstatus'⟩ := ht.stored
  rw [hsession] at hs'
  have hcalm : Event.Calm turn.events := hturn.told.calm (by simp [hwaits])
  exact ⟨t, h', hreply, hconfig, ht.lasting, ht.immediate, ⟨s', hs', hstatus'⟩, ht.pending,
    hcalm.told ht.told⟩

/-! ### Settling -/

lemma exists_answer (services : Services (StateM W)) (request : ExternalRequest) :
    ∃ answer, services.answer? .immediate request = some answer := by
  cases request with
  | delay seconds => exact ⟨_, rfl⟩
  | http request => exact ⟨_, rfl⟩

/-- Settling never fails: in each round the session takes the answer. -/
lemma Attends.settleRounds (hturn : h.Attends turn) (services : Services (StateM W)) (n : Nat)
    (w : W) :
    ∃ t h' w', (h.settleRounds services turn n).run w = ((.ok t, h'), w') ∧
      t.session = turn.session ∧ h'.config = h.config ∧ h'.Attends t := by
  induction n generalizing h turn w with
  | zero => exact ⟨turn, h, w, rfl, rfl, rfl, hturn⟩
  | succ n ih =>
    cases hpending : turn.pending with
    | none =>
      have hidle : ∀ request, turn.pending = some request →
          services.answer? h.config.delayMode request = none := by simp [hpending]
      rw [settleRounds_of_idle (n + 1) hidle]
      exact ⟨turn, h, w, rfl, rfl, rfl, hturn⟩
    | some request =>
      obtain ⟨answer, ha⟩ := exists_answer services request
      rw [← hturn.immediate] at ha
      rw [settleRounds_succ hpending ha]
      obtain ⟨t, h₁, hreply, hconfig, ht⟩ := hturn.complete hpending (answer.run w).1
      obtain ⟨t', h', w', hrun, hsession, hconfig', ht'⟩ := ih ht (answer.run w).2
      refine ⟨t', h', w', ?_, hsession, hconfig'.trans hconfig, ht'⟩
      show (Reply.settleRounds services n
        ((h.reply (h.engine.complete turn.session (answer.run w).1)).1.map (joinTurns turn),
          (h.reply (h.engine.complete turn.session (answer.run w).1)).2)).run (answer.run w).2 = _
      rw [hreply]
      exact hrun

/-! ### Events -/

lemma exists_handle_startFlow {flow : String} {f : Flow} (services : Services (StateM W))
    (hflow : h.catalog.get? flow = some f) (hempty : h.engine.store = ∅)
    (lasting : h.engine.config.evictEnded = false) (immediate : h.config.delayMode = .immediate)
    (session : Option String) (w : W) :
    ∃ t h' w', (h.handle services (.startFlow flow session)).run w = ((.ok t, h'), w') ∧
      h'.config = h.config ∧ h'.Attends t := by
  have hopens (id : String) : h.engine.Opens (.start id f) (.ofFlow id f) :=
    .start (by rw [hempty]; rfl)
  cases session with
  | some id =>
    obtain ⟨t, h', hreply, -, hconfig, ht⟩ := reply_of_opens lasting immediate (hopens id) rfl
    refine ⟨t, h', w, ?_, hconfig, ht⟩
    simp only [handle, hflow, pure_bind]
    rw [hreply]
    rfl
  | none =>
    obtain ⟨t, h', hreply, -, hconfig, ht⟩ :=
      reply_of_opens lasting immediate (hopens (services.freshId.run w).1) rfl
    refine ⟨t, h', (services.freshId.run w).2, ?_, hconfig, ht⟩
    simp only [handle, hflow]
    show (pure (h.reply (h.engine.start (services.freshId.run w).1 f)) : StateM W _).run _ = _
    rw [hreply]
    rfl

lemma Attends.handle_userMessage (hturn : h.Attends turn) (hwaits : turn.status = .awaitingInput)
    (services : Services (StateM W)) (text : String) (w : W) :
    ∃ t h', (h.handle services (.userMessage turn.session text)).run w = ((.ok t, h'), w) ∧
      h'.config = h.config ∧ h'.Attends t := by
  obtain ⟨s, hs, hstatus⟩ := hturn.stored
  have ho : h.engine.Opens (.resume turn.session text) (.ofReply s text) :=
    .resume hs (hstatus.trans hwaits)
  obtain ⟨t, h', hreply, -, hconfig, ht⟩ := reply_of_opens hturn.lasting hturn.immediate ho rfl
  refine ⟨t, h', ?_, hconfig, ht⟩
  simp only [handle]
  rw [hreply]
  rfl

/-! ### Rest -/

/-- Answering what the session of a turn waits for leads, in so many answers, to a turn that awaits
input or has ended. -/
def RestsWithin (services : Services (StateM W)) (n : Nat) (h : Host) (turn : Turn) (w : W) :
    Prop :=
  ∃ t h' w', (h.settleRounds services turn n).run w = ((.ok t, h'), w') ∧
    (t.status = .awaitingInput ∨ t.status = .ended)

/-- The property holds of the turn that an event gets, and of those that the replies of a script get
one after the other, each delivered where the turn before it awaits input once it is settled. -/
def EachTurn (services : Services (StateM W)) (p : Host → Turn → W → Prop) (h : Host)
    (event : Incoming) (w : W) : List String → Prop
  | [] => ∀ turn h₁ w₁, (h.handle services event).run w = ((.ok turn, h₁), w₁) → p h₁ turn w₁
  | reply :: replies =>
    ∀ turn h₁ w₁, (h.handle services event).run w = ((.ok turn, h₁), w₁) →
      p h₁ turn w₁ ∧ ∀ t h₂ w₂, (h₁.settle services turn).run w₁ = ((.ok t, h₂), w₂) →
        t.status = .awaitingInput →
          EachTurn services p h₂ (.userMessage t.session reply) w₂ replies

section EachTurn

variable {p : Host → Turn → W → Prop} {event : Incoming} {h₁ h₂ : Host} {t : Turn} {w₁ w₂ : W}

lemma eachTurn_nil_iff (handled : (h.handle services event).run w = ((.ok turn, h₁), w₁)) :
    EachTurn services p h event w [] ↔ p h₁ turn w₁ := by
  constructor
  · exact fun heach => heach turn h₁ w₁ handled
  · intro hp turn' h' w' handled'
    cases handled.symm.trans handled'
    exact hp

lemma eachTurn_cons_iff (handled : (h.handle services event).run w = ((.ok turn, h₁), w₁))
    (settled : (h₁.settle services turn).run w₁ = ((.ok t, h₂), w₂)) (reply : String)
    (replies : List String) :
    EachTurn services p h event w (reply :: replies) ↔
      p h₁ turn w₁ ∧ (t.status = .awaitingInput →
        EachTurn services p h₂ (.userMessage t.session reply) w₂ replies) := by
  constructor
  · intro heach
    obtain ⟨hp, hrest⟩ := heach turn h₁ w₁ handled
    exact ⟨hp, hrest t h₂ w₂ settled⟩
  · rintro ⟨hp, hrest⟩ turn' h' w' handled'
    cases handled.symm.trans handled'
    refine ⟨hp, fun t' h'' w'' settled' => ?_⟩
    cases settled.symm.trans settled'
    exact hrest

end EachTurn

lemma Attends.rests_iff (hturn : h.Attends turn) :
    turn.status = .awaitingInput ∨ turn.status = .ended ↔ turn.status ≠ .awaitingExternal := by
  have htold := hturn.told
  cases hstatus : turn.status with
  | running =>
    rw [hstatus] at htold
    cases htold
  | _ => simp

lemma restsWithin_iff {n : Nat} {t : Turn} {h' : Host} {w' : W}
    (hrun : (h.settleRounds services turn n).run w = ((.ok t, h'), w')) :
    RestsWithin services n h turn w ↔ t.status = .awaitingInput ∨ t.status = .ended := by
  constructor
  · rintro ⟨t', h'', w'', hrun', hrests⟩
    cases hrun.symm.trans hrun'
    exact hrests
  · exact fun hrests => ⟨t, h', w', hrun, hrests⟩

/-- The status of the turn that an event gets once it is settled in so many rounds. -/
def statusWithin (services : Services (StateM W)) (n : Nat) (h : Host) (event : Incoming) (w : W) :
    Option Status :=
  match (h.handle services event).run w with
  | ((.ok turn, h₁), w₁) =>
    (((h₁.settleRounds services turn n).run w₁).1.1.toOption).map Turn.status
  | ((.error _, _), _) => none

lemma eachTurn_restsWithin_nil_iff {n : Nat} {event : Incoming} {status : Status}
    (h' : h.statusWithin services n event w = some status) :
    EachTurn services (RestsWithin services n) h event w [] ↔
      status = .awaitingInput ∨ status = .ended := by
  rcases handled : (h.handle services event).run w with ⟨⟨e | turn, h₁⟩, w₁⟩ <;>
    simp only [statusWithin, handled] at h'
  · cases h'
  rcases settled : (h₁.settleRounds services turn n).run w₁ with ⟨⟨e | t, h₂⟩, w₂⟩ <;>
    rw [settled] at h' <;> cases h'
  rw [eachTurn_nil_iff handled]
  exact restsWithin_iff settled

lemma EachTurn.mono {p q : Host → Turn → W → Prop} (hpq : ∀ h turn w, p h turn w → q h turn w)
    {event : Incoming} {replies : List String} (heach : EachTurn services p h event w replies) :
    EachTurn services q h event w replies := by
  induction replies generalizing h event w with
  | nil => exact fun turn h₁ w₁ handled => hpq h₁ turn w₁ (heach turn h₁ w₁ handled)
  | cons reply replies ih =>
    intro turn h₁ w₁ handled
    obtain ⟨hp, hrest⟩ := heach turn h₁ w₁ handled
    exact ⟨hpq h₁ turn w₁ hp, fun t h₂ w₂ settled hwaits => ih (hrest t h₂ w₂ settled hwaits)⟩

lemma run_handleAndSettle {event : Incoming} {h₁ : Host} {w₁ : W}
    (handled : (h.handle services event).run w = ((.ok turn, h₁), w₁)) :
    (h.handleAndSettle services event).run w = (h₁.settle services turn).run w₁ := by
  rw [handleAndSettle, StateT.run_bind, handled]
  rfl

end Host

end Dialogue
