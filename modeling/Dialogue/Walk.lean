import Dialogue.Session.Edit
import Dialogue.Step

/-!
# Walks

A walk takes a session from node to node until one waits or stops, or until as many nodes have been
gone through as the ceiling allows. It carries the session as it has become, the edits that made it
so and the events that were sent. Only the first node sees the stimulus.
-/

namespace Dialogue

/-- A session on its way. -/
structure Walk where
  session : Session
  edits : Array Edit := #[]
  events : Array Event := #[]
  /-- Why an edit was refused. Nothing changes after that. -/
  refusal : Option Refusal := none

/-- The line of a transcript for an event. -/
def Event.line? : Event → Option Line
  | botMessage _ message => some ⟨.bot, message.text⟩
  | flowError kind reason => some ⟨.system, kind.message ++ ": " ++ reason⟩
  | endOfConversation => none
  | typingDelay _ => none

namespace Walk

/-! ### Changes on the way -/

/-- Edits the session. -/
def edit (w : Walk) (e : Edit) : Walk :=
  if w.refusal.isSome then w
  else
    match w.session.edit e with
    | .ok session => { w with session, edits := w.edits.push e }
    | .error refusal => { w with edits := w.edits.push e, refusal := some refusal }

/-- Sends an event, and records its line in the transcript. -/
def send (w : Walk) (event : Event) : Walk :=
  let w := match event.line? with
    | some line => w.edit (.record line.speaker line.text)
    | none => w
  { w with events := w.events.push event }

/-- Ends the session. The last event is the end of the conversation, sent once. -/
def finish (w : Walk) : Walk :=
  let w := if w.events.back? = some .endOfConversation then w else w.send .endOfConversation
  (w.edit (.setStatus .ended)).edit (.setPending none)

/-- Ends the session with a failure. -/
def fail (w : Walk) (kind : FlowErrorKind) (reason : String) : Walk :=
  (w.send (.flowError kind reason)).finish

/-! ### Steps on the way -/

/-- What a step makes of a walk. -/
inductive Progress where
  /-- The walk goes on. -/
  | moving (walk : Walk)
  /-- The walk is over. -/
  | settled (walk : Walk)

/-- Sets the variable of a step. -/
def assign (w : Walk) (binding : Option Binding) : Walk :=
  match binding with
  | some b => w.edit (.setVariable b.name b.value)
  | none => w

/-- Goes where a step leads. -/
def lead (w : Walk) : Outcome → Progress
  | .goOn node => .moving (w.edit (.advanceTo node))
  | .awaitInput => .settled (w.edit (.setStatus .awaitingInput))
  | .awaitExternal request =>
    .settled ((w.edit (.setPending (some request))).edit (.setStatus .awaitingExternal))
  | .stop => .settled w.finish

/-- Does what a step says: sets its variable, sends its events and goes where it leads. -/
def perform (w : Walk) (step : Step) : Progress :=
  (step.events.foldl send (w.assign step.binding)).lead step.outcome

/-- The node that the session has reached. -/
def node? (w : Walk) : Option Node := w.session.node.bind w.session.flow.node?

/-- Why a session without a node fails. -/
def lostReason (s : Session) : String :=
  "session '" ++ s.id ++ "' points at no node (" ++
    s.node.elim "None" (fun id => "Some(" ++ Text.quoted id ++ ")") ++ ")"

/-- One step: the node that the session has reached does its work. -/
def step (w : Walk) (stimulus : Option Stimulus) : Progress :=
  match w.node? with
  | some n => w.perform (Step.ofNode n w.session stimulus)
  | none => .settled (w.fail .missingEdge (lostReason w.session))

/-- Why a walk that reaches the ceiling fails. -/
def ceilingReason (ceiling : Nat) (s : Session) : String :=
  "executed " ++ toString ceiling ++ " nodes without waiting for input; last node '" ++
    s.node.getD "" ++ "'"

/-- Up to so many steps. Without steps left the walk fails for the ceiling. -/
def steps (ceiling : Nat) (w : Walk) (stimulus : Option Stimulus) : Nat → Walk
  | 0 => w.fail .infiniteLoop (ceilingReason ceiling w.session)
  | left + 1 =>
    match w.step stimulus with
    | .settled w => w
    | .moving w => if w.refusal.isSome then w else w.steps ceiling none left

/-- The walk to its end, from the node that the session has reached. -/
def run (w : Walk) (ceiling : Nat) (stimulus : Option Stimulus) : Walk :=
  ((w.edit (.setStatus .running)).edit (.setPending none)).steps ceiling stimulus ceiling

end Walk

end Dialogue
