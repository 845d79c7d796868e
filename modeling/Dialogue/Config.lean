import Dialogue.Decimal.Reading
import Dialogue.Text.Blank

/-!
# Settings

How far one call may walk, when ended sessions are dropped, and how delays are waited for.
-/

namespace Dialogue

/-! ### Engines -/

/-- The settings of an engine. -/
structure EngineConfig where
  /-- How many nodes one call may go through before the session is ended. -/
  maxSteps : Nat := 1000
  /-- Whether sessions are dropped when they end. -/
  evictEnded : Bool := false
  deriving DecidableEq, Repr

namespace EngineConfig

/-- The settings with a ceiling; zero stands for the default. -/
def ofMaxSteps (n : Nat) : EngineConfig := if n = 0 then {} else { maxSteps := n }

/-- The settings with another ceiling, at least one. -/
def withMaxSteps (config : EngineConfig) (n : Nat) : EngineConfig :=
  { config with maxSteps := max n 1 }

/-- The settings by the text of an environment variable. A text that is no positive number does not
count. -/
def ofVariable (value : Option String) : EngineConfig :=
  ofMaxSteps ((value.bind fun s => Decimal.natural? (Text.trim s)).getD 0)

end EngineConfig

/-! ### Hosts -/

/-- A length of time. -/
structure Duration where
  seconds : Nat := 0
  nanoseconds : Nat := 0
  deriving DecidableEq, Repr

/-- A number of seconds in whole nanoseconds, of two equally near the even one. Times that cannot be
held count as none. -/
def Duration.ofSeconds (seconds : Float) : Duration :=
  match Decimal.Binary.ofFloat seconds with
  | .finite false mantissa exponent =>
    let nanos := 1000000000
    let (num, den) := Decimal.scaled (mantissa * nanos) 1 exponent
    let total := Decimal.roundToEven num den
    if total < Decimal.twoTo 64 * nanos then ⟨total / nanos, total % nanos⟩ else {}
  | _ => {}

/-- How delays are waited for. -/
inductive DelayMode where
  /-- A delay passes at once. -/
  | immediate
  /-- A delay takes its time, multiplied by a factor. -/
  | sleep (scale : Float)
  /-- A delay is left to the caller. -/
  | manual
  deriving DecidableEq

/-- How long a delay of a number of seconds takes, none where it is left to the caller. -/
def DelayMode.wait? : DelayMode → Float → Option Duration
  | immediate, _ => some {}
  | sleep scale, seconds => some (.ofSeconds (if 0 < seconds * scale then seconds * scale else 0))
  | manual, _ => none

/-- The settings of a host. -/
structure HostConfig where
  delayMode : DelayMode := .immediate
  /-- How many external requests are settled in one go. -/
  settleRounds : Nat := 64
  deriving DecidableEq

/-- The settings with another number of rounds, at least one. -/
def HostConfig.withSettleRounds (config : HostConfig) (n : Nat) : HostConfig :=
  { config with settleRounds := max n 1 }

end Dialogue
