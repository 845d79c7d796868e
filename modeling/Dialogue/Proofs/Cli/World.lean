import Dialogue.Cli.Run
import Dialogue.Proofs.Host.Lifted

/-!
# Runs in a world

A world answers requests, holds files and lets time pass, and has a state of its own. A run in it
leaves a record of what it printed, noted and saved. `exec` executes a run; the lemmas say what the
steps of a run do to record and world.
-/

namespace Dialogue.Cli

variable {W α β : Type}

/-- What a run leaves behind. -/
structure Record where
  /-- The lines of output. -/
  printed : List String := []
  /-- The texts beside the output. -/
  notes : List String := []
  /-- The archives, each with the path of its file. -/
  saved : List (String × Archive.Bytes) := []

/-- What is outside of a run. -/
structure World (W : Type) where
  services : Services (StateM W)
  typedLine : StateM W (Except String (Option String))
  contents : String → Except String ByteArray
  save : String → Archive.Bytes → Except String Unit
  maxSteps : Option String

/-- Actions in a world that are recorded. -/
abbrev Recorded (W : Type) := StateT Record (StateM W)

/-- The console of a world. -/
def World.console (world : World W) : Console (Recorded W) where
  services := world.services.lift
  print line := modify fun r => { r with printed := r.printed ++ [line] }
  note text := modify fun r => { r with notes := r.notes ++ [text] }
  typedLine := ExceptT.mk (liftM world.typedLine)
  contents path := ExceptT.mk (pure (world.contents path))
  save path bytes := ExceptT.mk do
    modify fun r => { r with saved := r.saved ++ [(path, bytes)] }
    return world.save path bytes
  maxSteps := pure world.maxSteps

/-- The result of a run, its record and the world after it. -/
def exec (x : ExceptT String (Recorded W) α) (record : Record) (w : W) :
    (Except String α × Record) × W :=
  (x.run.run record).run w

variable {world : World W} {x : ExceptT String (Recorded W) α} {record record' : Record} {w w' : W}

/-! ### Steps -/

lemma exec_bind {a : α} (h : exec x record w = ((.ok a, record'), w'))
    (next : α → ExceptT String (Recorded W) β) :
    exec (x >>= next) record w = exec (next a) record' w' := by
  have hrun : (x.run.run record).run w = ((.ok a, record'), w') := h
  simp only [exec, ExceptT.run_bind, StateT.run_bind]
  rw [hrun]
  rfl

/-- A failure ends a run. -/
lemma exec_bind_of_error {e : String} (h : exec x record w = ((.error e, record'), w'))
    (next : α → ExceptT String (Recorded W) β) :
    exec (x >>= next) record w = ((.error e, record'), w') := by
  have hrun : (x.run.run record).run w = ((.error e, record'), w') := h
  simp only [exec, ExceptT.run_bind, StateT.run_bind]
  rw [hrun]
  rfl

lemma exec_pure (a : α) (record : Record) (w : W) :
    exec (pure a) record w = ((.ok a, record), w) := rfl

lemma exec_lift {y : Recorded W α} {a : α} (h : (y.run record).run w = ((a, record'), w')) :
    exec (ExceptT.lift y) record w = ((.ok a, record'), w') := by
  simp only [exec, ExceptT.run_lift, StateT.run_map]
  rw [h]
  rfl

/-- What the world does is not recorded. -/
lemma run_liftM {y : StateM W α} {a : α} (h : y.run w = (a, w')) (record : Record) :
    ((liftM y : Recorded W α).run record).run w = ((a, record), w') := by
  have hlift : (liftM y : Recorded W α).run record = y >>= fun a => pure (a, record) := rfl
  rw [hlift, StateT.run_bind, h]
  rfl

lemma run_note (text : String) (record : Record) (w : W) :
    ((world.console.note text).run record).run w =
      (((), { record with notes := record.notes ++ [text] }), w) := rfl

/-! ### Events -/

/-- The line of output for an event. -/
def line (event : Event) : String := event.toJson.compact

namespace Conversation

lemma run_printEvents (world : World W) (c : Conversation) (record : Record) (w : W) :
    ((c.printEvents world.console).run record).run w =
      (((), { record with printed := record.printed ++ c.turn.events.map line }), w) := by
  simp only [printEvents]
  generalize c.turn.events = events
  induction events generalizing record with
  | nil =>
    rw [List.map_nil, List.append_nil]
    rfl
  | cons event events ih =>
    refine (ih { record with printed := record.printed ++ [line event] }).trans ?_
    rw [List.append_assoc, List.map_cons, List.singleton_append]

/-- An event that is accepted is settled, and the events of its turn are printed. -/
lemma exec_send {host h : Host} {event : Incoming} {turn : Turn} (failure : String)
    (hok : (host.handleAndSettle world.services event).run w = ((.ok turn, h), w'))
    (record : Record) :
    exec (send world.console host event failure) record w =
      ((.ok ⟨h, turn.session, turn⟩,
        { record with printed := record.printed ++ turn.events.map line }), w') := by
  have hlift : host.handleAndSettle world.console.services event =
      (liftM (host.handleAndSettle world.services event) : Recorded W Host.Reply) :=
    Host.handleAndSettle_lift world.services host event
  have hsettle : exec (ExceptT.lift (host.handleAndSettle world.console.services event)) record w =
      ((.ok (.ok turn, h), record), w') := by
    rw [hlift]
    exact exec_lift (run_liftM hok record)
  have hprint := exec_lift (run_printEvents world ⟨h, turn.session, turn⟩ record w')
  rw [send, exec_bind hsettle]
  exact (exec_bind hprint _).trans (exec_pure _ _ _)

end Conversation

/-! ### Files -/

/-- The flow that a file of the world holds. -/
def World.flow? (world : World W) (path : String) : Option Flow :=
  (world.contents path).toOption.bind fun bytes =>
    ((Document.parseFile path bytes).bind Document.toFlow).toOption

/-- The replies that a file of the world holds, one on each line. -/
def World.script? (world : World W) (path : String) : Option (List String) :=
  (world.contents path).toOption.bind fun bytes => (String.fromUTF8? bytes).map scriptLines

section Files

variable {path : String} {bytes : ByteArray}

lemma eq_ok_of_toOption {ε α : Type} {x : Except ε α} {a : α} (h : x.toOption = some a) :
    x = .ok a := by
  cases x with
  | ok b => exact congrArg Except.ok (Option.some.inj h)
  | error e => cases h

lemma exec_contents (h : world.contents path = .ok bytes) (f : String → String) :
    exec ((world.console.contents path).adapt f) record w = ((.ok bytes, record), w) := by
  have hcontents : world.console.contents path = ExceptT.mk (pure (.ok bytes)) := by
    rw [← h]
    rfl
  rw [hcontents]
  rfl

lemma exec_loadFlow {flow : Flow} (h : world.flow? path = some flow) :
    exec (loadFlow world.console path) record w = ((.ok flow, record), w) := by
  obtain ⟨bytes, hbytes, hflow⟩ := Option.bind_eq_some_iff.mp h
  rw [loadFlow, exec_bind (exec_contents (eq_ok_of_toOption hbytes) _), eq_ok_of_toOption hflow]
  rfl

lemma exec_loadScript {replies : List String} (h : world.script? path = some replies) :
    exec (loadScript world.console path) record w = ((.ok replies, record), w) := by
  obtain ⟨bytes, hbytes, hreplies⟩ := Option.bind_eq_some_iff.mp h
  obtain ⟨script, hscript, rfl⟩ := Option.map_eq_some_iff.mp hreplies
  rw [loadScript, exec_bind (exec_contents (eq_ok_of_toOption hbytes) _), hscript]
  rfl

lemma exec_save (world : World W) (record : Record) (w : W) (path : String)
    (bytes : Archive.Bytes) (f : String → String) :
    exec ((world.console.save path bytes).adapt f) record w =
      (((world.save path bytes).mapError f,
        { record with saved := record.saved ++ [(path, bytes)] }), w) := by
  have hsave : world.console.save path bytes = ExceptT.mk do
      modify fun r => { r with saved := r.saved ++ [(path, bytes)] }
      return world.save path bytes := rfl
  rw [hsave]
  cases world.save path bytes <;> rfl

end Files

end Dialogue.Cli
