import Dialogue.Host
import Mathlib.Control.Basic

/-!
# Hosts in larger monads

A host does not know more of its monad than its services. So with the services of a monad that is
lifted to a larger one, it does there what it does in the smaller one.
-/

namespace Dialogue

variable {m n : Type → Type} [Monad m] [Monad n] [MonadLiftT m n]

/-- The services in a larger monad. -/
def Services.lift (services : Services m) : Services n where
  call request := liftM (services.call request)
  sleep d := liftM (services.sleep d)
  freshId := liftM services.freshId

namespace Host

variable [LawfulMonadLiftT m n]

lemma perform_lift (services : Services m) (h : Host) (request : ExternalRequest) :
    h.perform (services.lift : Services n) request = liftM (h.perform services request) := by
  cases request with
  | delay seconds =>
    simp only [perform, Services.lift]
    split
    · rw [liftM_pure]
    · split
      · rw [liftM_bind]
        simp only [liftM_pure]
      · rw [liftM_pure]
  | http request =>
    simp only [perform, Services.lift, liftM_bind]
    congr 1
    funext result
    cases result <;> simp only [liftM_pure]

lemma settleRounds_lift (services : Services m) (h : Host) (turn : Turn) (k : Nat) :
    h.settleRounds (services.lift : Services n) turn k =
      liftM (h.settleRounds services turn k) := by
  induction k generalizing h turn with
  | zero => simp only [settleRounds, liftM_pure]
  | succ k ih =>
    simp only [settleRounds, perform_lift]
    split
    · rw [liftM_pure]
    · rw [liftM_bind]
      congr 1
      funext result
      split
      · rw [liftM_pure]
      · split
        · exact ih _ _
        · rw [liftM_pure]

lemma handle_lift (services : Services m) (h : Host) (event : Incoming) :
    h.handle (services.lift : Services n) event = liftM (h.handle services event) := by
  cases event with
  | startFlow flow session =>
    simp only [handle]
    split
    · rw [liftM_pure]
    · cases session <;> simp [Services.lift, liftM_bind, liftM_pure]
  | _ => simp only [handle, liftM_pure]

lemma handleAndSettle_lift (services : Services m) (h : Host) (event : Incoming) :
    h.handleAndSettle (services.lift : Services n) event =
      liftM (h.handleAndSettle services event) := by
  simp only [handleAndSettle, handle_lift, liftM_bind]
  congr 1
  funext r
  rcases r with ⟨e | turn, h⟩
  · simp only [liftM_pure]
  · exact settleRounds_lift services h turn _

end Host

end Dialogue
