import Dialogue.Catalog
import Dialogue.Engine.Basic

/-!
# Hosts

A host takes the events that are sent to conversations, calls the engine, and does the work for
which sessions wait: delays and requests. What it needs of the world, it is given as `Services` in
some monad.
-/

namespace Dialogue

/-- What a host needs of the world. -/
structure Services (m : Type → Type) where
  /-- Makes a request. -/
  call : ApiRequest → m (Except HttpError ApiResponse)
  /-- Lets a time pass. -/
  sleep : Duration → m Unit
  /-- A name for a session, never the same twice. -/
  freshId : m String

/-- Why an event is refused. -/
inductive HostError where
  | unknownFlow (flow : String)
  | refused (refusal : Refusal)
  deriving DecidableEq

/-- Why an event is refused, in words. -/
def HostError.message : HostError → String
  | unknownFlow flow => "Flow '" ++ flow ++ "' not found"
  | refused refusal => refusal.message

/-- An engine, the flows that can be started on it, and how external work is done. -/
structure Host where
  engine : Engine := {}
  catalog : Catalog := ∅
  config : HostConfig := {}

/-- What comes of an event: a turn or an error, and the host after it. -/
abbrev Host.Reply := Except HostError Turn × Host

namespace Host

variable {m : Type → Type} [Monad m]

/-- The reply of an answer of the engine. -/
def reply (h : Host) (answer : Answer (Except Refusal Turn)) : Reply :=
  (answer.result.mapError .refused, { h with engine := answer.engine })

/-- Takes one event. -/
def handle (services : Services m) (h : Host) : Incoming → m Reply
  | .startFlow flow session =>
    match h.catalog.get? flow with
    | none => pure (.error (.unknownFlow flow), h)
    | some f => do
      let id ← match session with
        | some id => pure id
        | none => services.freshId
      return h.reply (h.engine.start id f)
  | .userMessage session text => return h.reply (h.engine.resume session text)
  | .externalComplete session result => return h.reply (h.engine.complete session result)

/-- Does the work that a session waits for. A delay may be left to the caller. -/
def perform (services : Services m) (h : Host) : ExternalRequest → m (Option ExternalResult)
  | .delay seconds =>
    match h.config.delayMode.wait? seconds with
    | none => pure none
    | some wait => do
      if wait ≠ {} then services.sleep wait
      return some .delayElapsed
  | .http request => do
    match ← services.call request with
    | .ok response => return some (.httpSucceeded response)
    | .error e => return some (.httpFailed e.message)

/-- The turn of two calls, one after the other. -/
def joinTurns (earlier later : Turn) : Turn :=
  { later with session := earlier.session, events := earlier.events ++ later.events }

/-- Does the work that the session of a turn waits for, and what it waits for then, up to so many
times. -/
def settleRounds (services : Services m) (h : Host) (turn : Turn) : Nat → m Reply
  | 0 => pure (.ok turn, h)
  | rounds + 1 =>
    match turn.pending with
    | none => pure (.ok turn, h)
    | some request => do
      match ← h.perform services request with
      | none => return (.ok turn, h)
      | some result =>
        match h.reply (h.engine.complete turn.session result) with
        | (.ok next, h) => h.settleRounds services (joinTurns turn next) rounds
        | (.error e, h) => return (.error e, h)

/-- Does the work that the session of a turn waits for, as often as the settings allow. The turn has
the events of all rounds. -/
def settle (services : Services m) (h : Host) (turn : Turn) : m Reply :=
  h.settleRounds services turn h.config.settleRounds

/-- Takes one event and does the work for which its session then waits. -/
def handleAndSettle (services : Services m) (h : Host) (event : Incoming) : m Reply := do
  match ← h.handle services event with
  | (.ok turn, h) => h.settle services turn
  | (.error e, h) => return (.error e, h)

/-- Drops a session whose user has gone, and tells whether there was one. -/
def disconnect (h : Host) (session : String) : Bool × Host :=
  let answer := h.engine.destroy session
  (answer.result.isSome, { h with engine := answer.engine })

end Host

end Dialogue
