import Dialogue.Proofs.Host.Settling
import Mathlib.Control.Basic

/-!
# Settling in several goes

Rounds add up. A host that settles a turn in some rounds, and then what it got in some more, does
what it would do in all these rounds at once, in whatever monad its services are. So nothing is lost
where the rounds are used up: the turn can be settled further.
-/

namespace Dialogue

variable {m : Type → Type} [Monad m]

/-- What a host does for the answer to a request, none where it leaves that to the caller. -/
def Services.answer? (services : Services m) (mode : DelayMode) :
    ExternalRequest → Option (m ExternalResult)
  | .delay seconds =>
    (mode.wait? seconds).map fun wait => do
      if wait ≠ {} then services.sleep wait
      return .delayElapsed
  | .http request => some do
    match ← services.call request with
    | .ok response => return .httpSucceeded response
    | .error e => return .httpFailed e.message

namespace Host

/-- The host with another number of rounds. -/
def withRounds (h : Host) (rounds : Nat) : Host :=
  { h with config := { h.config with settleRounds := rounds } }

/-- Settles the turn of a reply in further rounds. An error stays. -/
def Reply.settleRounds (services : Services m) (rounds : Nat) : Reply → m Reply
  | (.ok turn, h) => h.settleRounds services turn rounds
  | (.error e, h) => pure (.error e, h)

variable {services : Services m} {h : Host} {turn : Turn} {request : ExternalRequest}

/-! ### One round -/

lemma perform_of_none (ha : services.answer? h.config.delayMode request = none) :
    h.perform services request = pure none := by
  cases request with
  | delay seconds => simp only [perform, Option.map_eq_none_iff.mp ha]
  | http request => cases ha

/-- There is nothing to do for a turn, or a request of it to answer. -/
lemma idle_or_answer (services : Services m) (h : Host) (turn : Turn) :
    (∀ request, turn.pending = some request →
      services.answer? h.config.delayMode request = none) ∨
    ∃ request answer, turn.pending = some request ∧
      services.answer? h.config.delayMode request = some answer := by
  by_contra! hnot
  obtain ⟨⟨request, hpending, hsome⟩, hnone⟩ := hnot
  obtain ⟨answer, ha⟩ := Option.ne_none_iff_exists'.mp hsome
  exact hnone request answer hpending ha

variable [LawfulMonad m]

lemma perform_of_answer {answer : m ExternalResult}
    (ha : services.answer? h.config.delayMode request = some answer) :
    h.perform services request = some <$> answer := by
  cases request with
  | delay seconds =>
    obtain ⟨wait, hwait, rfl⟩ := Option.map_eq_some_iff.mp ha
    simp only [perform, hwait]
    split <;> simp
  | http request =>
    cases ha
    simp only [perform, map_bind]
    congr 1
    funext result
    cases result <;> simp

/-- Nothing is done where a turn waits for nothing, or for a delay that is left to the caller. -/
lemma settleRounds_of_idle (n : Nat)
    (hidle : ∀ request, turn.pending = some request →
      services.answer? h.config.delayMode request = none) :
    h.settleRounds services turn n = pure (.ok turn, h) := by
  cases n with
  | zero => rfl
  | succ n =>
    cases hpending : turn.pending with
    | none => simp only [settleRounds, hpending]
    | some request =>
      simp only [settleRounds, hpending, perform_of_none (hidle request hpending), pure_bind]

/-- A round gives the session the answer, and the rounds that are left go on from there. -/
lemma settleRounds_succ {answer : m ExternalResult} (hpending : turn.pending = some request)
    (ha : services.answer? h.config.delayMode request = some answer) (n : Nat) :
    h.settleRounds services turn (n + 1) = (do
      let result ← answer
      let r := h.reply (h.engine.complete turn.session result)
      Reply.settleRounds services n (r.1.map (joinTurns turn), r.2)) := by
  simp only [settleRounds, hpending, perform_of_answer ha, bind_map_left]
  congr 1
  funext result
  split <;> next heq => simp only [heq, Except.map, Reply.settleRounds]

/-! ### Rounds one after the other -/

/-- Rounds add up: those of the second go begin where those of the first have ended. -/
lemma settleRounds_add (services : Services m) (h : Host) (turn : Turn) (a b : Nat) :
    h.settleRounds services turn (a + b) =
      h.settleRounds services turn a >>= Reply.settleRounds services b := by
  induction a generalizing h turn with
  | zero =>
    rw [Nat.zero_add, settleRounds, pure_bind]
    rfl
  | succ a ih =>
    have hreply : ∀ r : Reply, Reply.settleRounds services (a + b) r =
        Reply.settleRounds services a r >>= Reply.settleRounds services b := by
      rintro ⟨e | turn, h⟩
      · simp only [Reply.settleRounds, pure_bind]
      · exact ih h turn
    rcases idle_or_answer services h turn with hidle | ⟨request, answer, hpending, ha⟩
    · rw [settleRounds_of_idle _ hidle, settleRounds_of_idle _ hidle, pure_bind]
      exact (settleRounds_of_idle b hidle).symm
    · rw [Nat.succ_add_eq_add_succ, Nat.add_succ, settleRounds_succ hpending ha,
        settleRounds_succ hpending ha, bind_assoc]
      simp only [hreply]

/-- A round does not look at how many of them the settings allow. -/
lemma settleRounds_withRounds (services : Services m) (h : Host) (turn : Turn) (rounds n : Nat) :
    (h.withRounds rounds).settleRounds services turn n =
      (fun r => (r.1, r.2.withRounds rounds)) <$> h.settleRounds services turn n := by
  induction n generalizing h turn with
  | zero => simp only [settleRounds, map_pure]
  | succ n ih =>
    rcases idle_or_answer services h turn with hidle | ⟨request, answer, hpending, ha⟩
    · rw [settleRounds_of_idle _ hidle, map_pure]
      exact settleRounds_of_idle _ hidle
    · rw [settleRounds_succ hpending ha, map_bind]
      refine (settleRounds_succ (h := h.withRounds rounds) hpending ha n).trans ?_
      congr 1
      funext result
      have hreply : (h.withRounds rounds).reply (h.engine.complete turn.session result) =
          ((h.reply (h.engine.complete turn.session result)).1,
            (h.reply (h.engine.complete turn.session result)).2.withRounds rounds) := rfl
      show Reply.settleRounds services n _ = _
      simp only [withRounds] at hreply ⊢
      rw [hreply]
      rcases h.reply (h.engine.complete turn.session result) with ⟨e | next, h'⟩
      · simp only [Except.map, Reply.settleRounds, map_pure]
      · exact ih h' (joinTurns turn next)

/-! ### Turns of events -/

section Replies

variable {services : Services Id} {h h₁ h₂ : Host} {turn first second : Turn} {a b : Nat}

lemma run_settle_withRounds (hrun : (h.settleRounds services turn a).run = (.ok first, h₁)) :
    ((h.withRounds a).settle services turn).run = (.ok first, h₁.withRounds a) := by
  have hrounds : h.settleRounds services turn a = pure (.ok first, h₁) := hrun
  refine (settleRounds_withRounds services h turn a a).trans ?_
  rw [hrounds]
  rfl

lemma run_settleRounds_add (hfirst : (h.settleRounds services turn a).run = (.ok first, h₁))
    (hsecond : (h₁.settleRounds services first b).run = (.ok second, h₂)) :
    (h.settleRounds services turn (a + b)).run = (.ok second, h₂) := by
  have hrounds : h.settleRounds services turn a = pure (.ok first, h₁) := hfirst
  rw [settleRounds_add, hrounds, pure_bind]
  exact hsecond

end Replies

/-- Settling is additive in its rounds. Where a turn that an event has got is settled, and the turn
that comes of it is settled again, turn and host are those of settling once with the rounds of
both. -/
theorem settle_add (services : Services Id) {h h₁ : Host} {event : Incoming} {turn : Turn}
    (hok : (h.handle services event).run = (.ok turn, h₁)) (a b : Nat) :
    ∃ first h₂ second h₃,
      ((h₁.withRounds a).settle services turn).run = (.ok first, h₂) ∧
      ((h₂.withRounds b).settle services first).run = (.ok second, h₃) ∧
      ((h₁.withRounds (a + b)).settle services turn).run =
        (.ok second, h₃.withRounds (a + b)) := by
  have hleaves : h₁.engine.Leaves turn := by
    rcases handle_cases services h event with ⟨e, herror⟩ | ⟨c, t, _, hturn, hok'⟩
    · cases hok.symm.trans herror
    · cases hok.symm.trans hok'
      exact (Engine.leaves_of_turn hturn).2
  obtain ⟨turns, h₂, _, hfirst, hleft⟩ := settleRounds_completed services hleaves a
  obtain ⟨turns', h₃, _, hsecond, _⟩ := settleRounds_completed services hleft b
  have honce := run_settle_withRounds hfirst
  have hagain := run_settle_withRounds hsecond
  have hboth := run_settle_withRounds (run_settleRounds_add hfirst hsecond)
  exact ⟨_, h₂.withRounds a, _, h₃.withRounds b, honce, hagain, hboth⟩

/-- The session of `Engine.sample` has been given a name and waits for a pause. Settled in one round
it waits for its request; settled in another it has ended, as after two rounds at once. -/
theorem settle_add_sample :
    let services : Services Id :=
      { call := fun _ => .ok ⟨200, "found"⟩, sleep := fun _ => (), freshId := "b" }
    let h : Host := { engine := .sample {} }
    let greeted : List Event := [.botMessage "greet" ⟨"Hello Ada", none, none⟩, .typingDelay 2]
    let turn : Turn := ⟨"a", .awaitingExternal, greeted, some (.delay 2)⟩
    let first : Turn :=
      ⟨"a", .awaitingExternal, greeted, some (.http ⟨"GET", "/names/Ada", none⟩)⟩
    let second : Turn := ⟨"a", .ended, greeted ++ [.endOfConversation], none⟩
    ∃ h₁ h₂ h₃,
      (h.handle services (.userMessage "a" "Ada")).run = (.ok turn, h₁) ∧
      ((h₁.withRounds 1).settle services turn).run = (.ok first, h₂) ∧
      ((h₂.withRounds 1).settle services first).run = (.ok second, h₃) ∧
      ((h₁.withRounds 2).settle services turn).run = (.ok second, h₃.withRounds 2) := by
  intro services h greeted turn first second
  let h₁ := (h.handle services (.userMessage "a" "Ada")).run.2
  have hreply : (h.handle services (.userMessage "a" "Ada")).run.1 = .ok turn := by
    decide +kernel
  have honce : ((h₁.withRounds 1).settle services turn).run.1 = .ok first := by
    decide +kernel
  have htwice : ((h₁.withRounds 2).settle services turn).run.1 = .ok second := by
    decide +kernel
  have hok : (h.handle services (.userMessage "a" "Ada")).run = (.ok turn, h₁) :=
    Prod.ext hreply rfl
  obtain ⟨first', h₂, second', h₃, hfirst, hsecond, hboth⟩ := settle_add services hok 1 1
  obtain rfl : first' = first := by
    rw [hfirst] at honce
    exact Except.ok.inj honce
  obtain rfl : second' = second := by
    rw [hboth] at htwice
    exact Except.ok.inj htwice
  exact ⟨h₁, h₂, h₃, hok, hfirst, hsecond, hboth⟩

end Host

end Dialogue
