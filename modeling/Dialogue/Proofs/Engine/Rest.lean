import Dialogue.Proofs.Engine.Calls

/-!
# Sessions at rest

Between calls no session runs. What a session waits for is what the node that it has reached asks
for, filled with the variables that the session has: `Session.AtRest`. A step that goes on keeps the
session at a node of its flow, a step that does not puts it to rest, and so does every way in which a
walk fails. Hence every session of an engine that began empty is at rest, whatever the calls were.
-/

namespace Dialogue

/-- The session waits for what its node asks for, or has ended. -/
structure Session.AtRest (s : Session) : Prop where
  /-- It has reached a node of its own flow. -/
  placed : s.place?.isSome
  status_ne_running : s.status ≠ .running
  awaitingInput : s.status = .awaitingInput →
    s.pending = none ∧ ∃ n saveAs, s.place? = some n ∧ n.kind = .input saveAs
  awaitingExternal : s.status = .awaitingExternal →
    ∃ n, s.place? = some n ∧
      ((∃ seconds, n.kind = .delay seconds ∧ s.pending = some (.delay seconds)) ∨
        ∃ call, n.kind = .api call ∧
          s.pending = some (.http {
            method := call.method
            url := Template.fill s.vars call.url
            body := call.body.map (Template.fill s.vars) }))
  ended : s.status = .ended → s.pending = none

/-! ### Steps -/

namespace Session

lemma AtRest.of_ended {s : Session} (hplace : s.place?.isSome) (hstatus : s.status = .ended)
    (hpending : s.pending = none) : s.AtRest where
  placed := hplace
  status_ne_running := by simp [hstatus]
  awaitingInput h := by simp [hstatus] at h
  awaitingExternal h := by simp [hstatus] at h
  ended _ := hpending

/-- A session that is closed rests where it is. -/
lemma atRest_close {s : Session} (hplace : s.place?.isSome) : s.close.AtRest :=
  .of_ended hplace rfl rfl

end Session

namespace Step.Shape

variable {n : Node} {s : Session} {stimulus : Option Stimulus} {step : Step}

/-- A step that goes on keeps the session in its flow. -/
lemma placed (h : Shape n s stimulus step) {target : String} (hgo : step.outcome = .goOn target) :
    (s.perform step).place?.isSome := by
  simp only [Session.place?, Session.perform_node hgo, Session.perform_flow]
  exact h.found hgo

/-- A step that does not go on puts the session to rest. -/
lemma atRest (h : Shape n s stimulus step) (hplace : s.place? = some n)
    (hpending : s.pending = none) (hstay : ∀ target, step.outcome ≠ .goOn target) :
    (s.perform step).AtRest := by
  have hplaced : s.place?.isSome := Option.isSome_iff_exists.mpr ⟨n, hplace⟩
  cases h with
  | goOn | tell => exact absurd rfl (hstay _)
  | @awaitInput saveAs kind =>
    exact {
      placed := hplaced
      status_ne_running := by simp [Session.perform]
      awaitingInput := fun _ => ⟨hpending, n, saveAs, hplace, kind⟩
      awaitingExternal := fun h => by simp [Session.perform] at h
      ended := fun h => by simp [Session.perform] at h }
  | @awaitDelay seconds kind =>
    exact {
      placed := hplaced
      status_ne_running := by simp [Session.perform]
      awaitingInput := fun h => by simp [Session.perform] at h
      awaitingExternal := fun _ => ⟨n, hplace, .inl ⟨seconds, kind, rfl⟩⟩
      ended := fun h => by simp [Session.perform] at h }
  | @awaitAnswer call kind =>
    exact {
      placed := hplaced
      status_ne_running := by simp [Session.perform]
      awaitingInput := fun h => by simp [Session.perform] at h
      awaitingExternal := fun _ => ⟨n, hplace, .inr ⟨call, kind, rfl⟩⟩
      ended := fun h => by simp [Session.perform] at h }
  | @deadEnd binding =>
    refine Session.atRest_close ?_
    cases binding <;> exact hplaced
  | tellLast | failed | finished => exact Session.atRest_close hplaced

end Step.Shape

/-! ### Walks -/

namespace Walk

variable {origin s : Session} {w : Walk} {k : Nat}

/-- The walk is on its way and stands at a node of the flow. -/
structure Placed (origin : Session) (k : Nat) (w : Walk) : Prop extends Underway origin k w where
  placed : w.session.place?.isSome

/-- From a node of the flow a step leads to another, or puts the session to rest. -/
lemma Placed.step (h : Placed origin k w) (stimulus : Option Stimulus) :
    (w.step stimulus).Meets (Placed origin (k + 1)) fun v => v.session.AtRest := by
  obtain ⟨_, hpending, _, _, hreached⟩ := h.toUnderway
  have hrests : (w.step stimulus).Meets (fun v => v.session.place?.isSome)
      fun v => v.session.AtRest := by
    apply hreached.step_meets
    · intro n target v hplace hgo hv
      rw [hv.session]
      exact (Session.shape_of_place? hplace stimulus).placed hgo
    · intro n v hplace hstay hv
      rw [hv.session]
      exact (Session.shape_of_place? hplace stimulus).atRest hplace hpending hstay
    · intro reason v hlost hv
      have hplaced := h.placed
      rw [hlost] at hplaced
      exact absurd hplaced (by simp)
  refine ((h.toUnderway.step stimulus).and hrests).imp ?_ ?_
  · rintro v ⟨hunderway, hplaced⟩
    exact ⟨hunderway, hplaced⟩
  · rintro v ⟨_, hrest⟩
    exact hrest

/-- A run from a node of the flow puts the session to rest. -/
lemma Reached.atRest_run (h : Reached origin s [] w) (hplaced : s.place?.isSome) (ceiling : Nat)
    (stimulus : Option Stimulus) : (w.run ceiling stimulus).session.AtRest := by
  have hopened : Placed origin 0 w.opened := by
    refine ⟨h.underway, ?_⟩
    rw [h.opened.session]
    exact hplaced
  apply h.run_meets (R := fun _ v => v.session.AtRest) (P := fun v => v.session.AtRest) ceiling
    stimulus (fun _ _ stimulus hv => hv.step stimulus) hopened
  · intro v hv
    obtain ⟨⟨_, _, _, _, hreached⟩, hplaced⟩ := hv
    rw [(hreached.fail .infiniteLoop _).session]
    exact Session.atRest_close hplaced
  · intro m v _ hrest
    exact hrest

end Walk

/-! ### Engines -/

namespace Engine

/-- Every session is kept under its own name and at rest, and none that has ended is kept where
such sessions are dropped. -/
structure Orderly (e : Engine) : Prop where
  name : ∀ id s, e.store.get? id = some s → s.id = id
  atRest : ∀ id s, e.store.get? id = some s → s.AtRest
  dropped : e.config.evictEnded → ∀ id s, e.store.get? id = some s → s.status ≠ .ended

variable {e : Engine} {c : Call} {o : Opening} {id : String}

lemma orderly_empty (config : EngineConfig) : Orderly ⟨∅, config⟩ where
  name _ _ h := nomatch h
  atRest _ _ h := nomatch h
  dropped _ _ _ h := nomatch h

lemma Orderly.erase (h : e.Orderly) (id : String) :
    Orderly { e with store := e.store.erase id } where
  name _ _ hs := h.name _ _ (stored_of_erase hs).2
  atRest _ _ hs := h.atRest _ _ (stored_of_erase hs).2
  dropped hevict _ _ hs := h.dropped hevict _ _ (stored_of_erase hs).2

/-- What is kept of a walk is a session at rest. -/
lemma Orderly.keep (h : e.Orderly) {s : Session} (hid : s.id = id) (hrest : s.AtRest) :
    (e.keep id s).Orderly := by
  constructor
  · intro id' s' hs
    rcases stored_of_keep hs with ⟨rfl, rfl, _⟩ | ⟨_, hs⟩
    · exact hid
    · exact h.name _ _ hs
  · intro id' s' hs
    rcases stored_of_keep hs with ⟨rfl, rfl, _⟩ | ⟨_, hs⟩
    · exact hrest
    · exact h.atRest _ _ hs
  · intro hevict id' s' hs
    rcases stored_of_keep hs with ⟨rfl, rfl, hkept⟩ | ⟨_, hs⟩
    · exact fun hended => hkept ⟨hended, hevict⟩
    · exact h.dropped hevict _ _ hs

/-- The walk of an accepted call begins under the name that the call gives, at a node of the flow. -/
lemma Orderly.opens (h : e.Orderly) (ho : e.Opens c o) :
    o.origin.id = c.session ∧ ∃ s, Walk.Reached o.origin s [] o.walk ∧ s.place?.isSome := by
  cases ho with
  | start | startNodes =>
    exact ⟨rfl, _, Walk.Reached.begin.advanceTo Flow.isSome_node?_start,
      Flow.isSome_node?_start⟩
  | resume stored waits =>
    exact ⟨h.name _ _ stored, _, Walk.Reached.begin.record .user _, (h.atRest _ _ stored).placed⟩
  | complete stored waits =>
    exact ⟨h.name _ _ stored, _, Walk.Reached.begin, (h.atRest _ _ stored).placed⟩

/-- Every call leaves the engine in order. -/
lemma Orderly.take (h : e.Orderly) (c : Call) : (e.take c).engine.Orderly := by
  have htakes := takes_take e c
  generalize (e.take c).result = response, (e.take c).engine = e' at htakes
  cases htakes with
  | refused r => exact h
  | destroyed | archived => exact h.erase _
  | turned o opens =>
    obtain ⟨hid, s, hreached, hplaced⟩ := h.opens opens
    obtain ⟨_, _, _, _, hover⟩ := opens.over e.config.maxSteps
    refine h.keep ?_ (hreached.atRest_run hplaced _ _)
    exact hover.keeps.1.trans hid

lemma Orderly.takeAll (h : e.Orderly) (calls : List Call) : (e.takeAll calls).engine.Orderly := by
  induction calls generalizing e with
  | nil => exact h
  | cons c calls ih => exact ih (h.take c)

/-- After any calls on an engine that began empty, every session is kept under its own name and at
rest, and where ended sessions are dropped none has ended. -/
theorem takeAll_atRest (config : EngineConfig) (calls : List Call) (id : String) (s : Session)
    (h : ((⟨∅, config⟩ : Engine).takeAll calls).engine.store.get? id = some s) :
    s.id = id ∧ s.AtRest ∧ (config.evictEnded → s.status ≠ .ended) := by
  have horderly := (orderly_empty config).takeAll calls
  refine ⟨horderly.name id s h, horderly.atRest id s h, fun hevict => ?_⟩
  refine horderly.dropped ?_ id s h
  rw [takeAll_config]
  exact hevict

/-- The session of `Flow.sample` rests at its request, which has the name that was given. -/
theorem takeAll_atRest_sample :
    ∃ s : Session,
      ((⟨∅, { evictEnded := true }⟩ : Engine).takeAll
        [.start "a" .sample, .resume "a" "Ada", .complete "a" .delayElapsed]).engine.store.get? "a" =
          some s ∧
      s.pending = some (.http ⟨"GET", "/names/Ada", none⟩) ∧
      s.id = "a" ∧ s.AtRest ∧ (true → s.status ≠ .ended) := by
  have h : ((⟨∅, { evictEnded := true }⟩ : Engine).takeAll
      [.start "a" .sample, .resume "a" "Ada", .complete "a" .delayElapsed]).engine.store.get? "a" =
        some ⟨"a", .sample, some "call", .ofList [("name", "Ada")], some "Ada", .awaitingExternal,
          some (.http ⟨"GET", "/names/Ada", none⟩),
          #[⟨.user, "Ada"⟩, ⟨.bot, "Hello Ada"⟩]⟩ := by
    decide +kernel
  exact ⟨_, h, rfl, takeAll_atRest { evictEnded := true } _ "a" _ h⟩

end Engine

end Dialogue
