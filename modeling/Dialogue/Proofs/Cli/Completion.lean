import Dialogue.Proofs.Cli.World
import Dialogue.Proofs.Host.Attending

/-!
# How conversations on a command line stop

A run on a script of replies starts a conversation, delivers the replies while the session awaits
input, and stops. What it leaves behind depends on how the session rests then. That a session may be
left waiting for a delay or an answer is due to the rounds of settling, of which a host has 64 by
default: a run does not settle a turn twice. At its end it drops the session, with an archive of it
or without.
-/

namespace Dialogue.Cli

variable {W : Type} {world : World W}

/-- The note with which a reply is shown. -/
def shown (reply : String) : String := "> " ++ reply ++ "\n"

/-- The note with which a session is left that waits for a reply. -/
def leaving (session : String) : String :=
  "No more input; leaving session '" ++ session ++ "' waiting.\n"

namespace Conversation

/-- The conversation has had the events and, unless it stopped before, all replies; this is what a
run has recorded of it. -/
structure Held (c : Conversation) (replies : List String) (events : List Event)
    (record record' : Record) : Prop where
  attends : c.host.Attends c.turn
  session : c.session = c.turn.session
  told : Event.Told c.turn.status events
  printed : record'.printed = record.printed ++ events.map line
  saved : record'.saved = record.saved
  noted : ∃ delivered unread, replies = delivered ++ unread ∧
    (c.turn.status = .awaitingInput → unread = []) ∧
    record'.notes = record.notes ++ delivered.map shown ++
      if c.turn.status = .awaitingInput then [leaving c.session] else []

variable {c : Conversation} {record : Record} {w : W}

lemma exec_playScript_of_ne (hwaits : c.turn.status ≠ .awaitingInput) (replies : List String) :
    exec (c.playScript world.console replies) record w = ((.ok c, record), w) := by
  have hawaits : c.awaitsReply = false := decide_eq_false hwaits
  cases replies with
  | nil =>
    rw [playScript, hawaits]
    rfl
  | cons reply replies =>
    rw [playScript, hawaits]
    rfl

lemma exec_playScript_nil (hwaits : c.turn.status = .awaitingInput) :
    exec (c.playScript world.console []) record w =
      ((.ok c, { record with notes := record.notes ++ [leaving c.session] }), w) := by
  have hawaits : c.awaitsReply = true := decide_eq_true hwaits
  rw [playScript, hawaits]
  rfl

lemma exec_playScript_cons (hwaits : c.turn.status = .awaitingInput) (reply : String)
    (replies : List String) :
    exec (c.playScript world.console (reply :: replies)) record w =
      exec (send world.console c.host (.userMessage c.session reply) "Failed to deliver reply: " >>=
        fun c => c.playScript world.console replies)
        { record with notes := record.notes ++ [shown reply] } w := by
  have hawaits : c.awaitsReply = true := decide_eq_true hwaits
  rw [playScript, hawaits]
  rfl

/-- An event whose turn is attended to is settled, and its events are printed. -/
lemma exec_send_of_attends {n : Nat} {host h₁ : Host} {event : Incoming} {turn : Turn} {w₁ : W}
    (handled : (host.handle world.services event).run w = ((.ok turn, h₁), w₁))
    (hturn : h₁.Attends turn) (rounds : h₁.config.settleRounds = n) (failure : String)
    (record : Record) :
    ∃ t h₂ w₂, (h₁.settle world.services turn).run w₁ = ((.ok t, h₂), w₂) ∧
      h₂.config = h₁.config ∧ h₂.Attends t ∧
      (h₁.RestsWithin world.services n turn w₁ ↔ t.status ≠ .awaitingExternal) ∧
      exec (send world.console host event failure) record w =
        ((.ok ⟨h₂, t.session, t⟩, { record with printed := record.printed ++ t.events.map line }),
          w₂) := by
  obtain ⟨t, h₂, w₂, hsettle, -, hconfig, ht⟩ := hturn.settleRounds world.services n w₁
  have hsettled : (h₁.settle world.services turn).run w₁ = ((.ok t, h₂), w₂) := by
    rw [Host.settle, rounds]
    exact hsettle
  exact ⟨t, h₂, w₂, hsettled, hconfig, ht, (Host.restsWithin_iff hsettle).trans ht.rests_iff,
    exec_send failure ((Host.run_handleAndSettle handled).trans hsettled) record⟩

/-- Every reply is an event of its own, which is sent as the first one is. -/
lemma exec_send_playScript {n : Nat} (replies : List String) {host h₁ : Host} {event : Incoming}
    {turn : Turn} {w w₁ : W}
    (handled : (host.handle world.services event).run w = ((.ok turn, h₁), w₁))
    (hturn : h₁.Attends turn) (rounds : h₁.config.settleRounds = n) (failure : String)
    (record : Record) :
    ∃ c events record' w',
      exec (send world.console host event failure >>= fun c => c.playScript world.console replies)
        record w = ((.ok c, record'), w') ∧
      c.Held replies events record record' ∧
      (c.turn.status ≠ .awaitingExternal ↔
        host.EachTurn world.services (Host.RestsWithin world.services n) event w replies) := by
  -- The host of the next reply is another one, but its settings are those of the first.
  induction replies generalizing host h₁ event turn w w₁ failure record with
  | nil =>
    obtain ⟨t, h₂, w₂, -, -, ht, hrests, hsent⟩ :=
      exec_send_of_attends handled hturn rounds failure record
    rw [exec_bind hsent, Host.eachTurn_nil_iff handled, hrests]
    by_cases hwaits : t.status = .awaitingInput
    · refine ⟨_, t.events, _, w₂, exec_playScript_nil hwaits, ?_, Iff.rfl⟩
      exact ⟨ht, rfl, ht.told, rfl, rfl, [], [], rfl, fun _ => rfl, by simp [hwaits]⟩
    · refine ⟨_, t.events, _, w₂, exec_playScript_of_ne hwaits [], ?_, Iff.rfl⟩
      exact ⟨ht, rfl, ht.told, rfl, rfl, [], [], rfl, fun _ => rfl, by simp [hwaits]⟩
  | cons reply replies ih =>
    obtain ⟨t, h₂, w₂, hsettled, hconfig, ht, hrests, hsent⟩ :=
      exec_send_of_attends handled hturn rounds failure record
    rw [exec_bind hsent, Host.eachTurn_cons_iff handled hsettled, hrests]
    by_cases hwaits : t.status = .awaitingInput
    · obtain ⟨t₁, h₃, handled', hconfig', ht₁⟩ :=
        ht.handle_userMessage hwaits world.services reply w₂
      have hrounds : h₃.config.settleRounds = n := by rw [hconfig', hconfig, rounds]
      rw [exec_playScript_cons hwaits]
      obtain ⟨c, events, record', w', hexec, hheld, heach⟩ := ih handled' ht₁ hrounds _ _
      refine ⟨c, t.events ++ events, record', w', hexec, ?_, ?_⟩
      · obtain ⟨delivered, unread, hreplies, hunread, hnotes⟩ := hheld.noted
        refine ⟨hheld.attends, hheld.session, ?_, ?_, hheld.saved, reply :: delivered, unread, ?_,
          hunread, ?_⟩
        · exact (ht.told.calm (by simp [hwaits])).told hheld.told
        · rw [hheld.printed, List.map_append, List.append_assoc]
        · rw [hreplies, List.cons_append]
        · simp only [hnotes, List.map_cons, List.append_assoc, List.cons_append, List.nil_append]
      · rw [heach]
        simp [hwaits]
    · refine ⟨_, t.events, _, w₂, exec_playScript_of_ne hwaits _, ?_, by simp [hwaits]⟩
      refine ⟨ht, rfl, ht.told, rfl, rfl, [], reply :: replies, rfl, ?_, by simp [hwaits]⟩
      exact fun hwaits' => absurd hwaits' hwaits

end Conversation

/-! ### Runs -/

lemma hostOf_engine (o : Options) (maxSteps : Option String) (flow : Flow) :
    (hostOf o maxSteps flow).engine.store = ∅ ∧
      (hostOf o maxSteps flow).engine.config.evictEnded = false := by
  have hvariable : (EngineConfig.ofVariable maxSteps).evictEnded = false := by
    simp only [EngineConfig.ofVariable, EngineConfig.ofMaxSteps]
    split <;> rfl
  refine ⟨rfl, ?_⟩
  simp only [hostOf]
  cases o.maxSteps with
  | none => exact hvariable
  | some n => exact hvariable

/-- What is left of a conversation whose session is dropped: an archive, and the host after it. The
host is the same whether the session is archived or its user is taken to have gone. -/
structure Conversation.Drops (c : Conversation) (a : Archive) (h : Host) : Prop where
  archived : c.archive = (.ok a, h)
  disconnected : c.host.disconnect c.session = (true, h)
  gone : h.engine.store.get? c.session = none

/-- What a run gives at its end: the host without the session, unless an archive is to be written
and cannot be. -/
def World.outcome (world : World W) (o : Options) (a : Archive) (h : Host) : Except String Host :=
  match o.archive with
  | some path => ((world.save path a.toBytes).mapError (unsaved path)).map fun _ => h
  | none => .ok h

section Runs

variable {c : Conversation} {a : Archive} {h : Host} {record : Record} {w : W}
  {replies : List String} {events : List Event}

/-- A conversation leaves a session to be dropped, and what is kept of it has the status of its
latest turn. -/
lemma Conversation.Held.exists_drops {record' : Record}
    (hheld : c.Held replies events record record') :
    ∃ a h, c.Drops a h ∧ a.status = c.turn.status := by
  obtain ⟨s, hs, hstatus⟩ := hheld.attends.stored
  rw [← hheld.session] at hs
  refine ⟨.ofSession s, (c.host.disconnect c.session).2, ⟨?_, ?_, ?_⟩, hstatus⟩
  · simp only [Conversation.archive, Engine.archive, Engine.destroy, hs, Except.mapError,
      Host.disconnect]
  · simp only [Host.disconnect, Engine.destroy, hs, Option.isSome_some]
  · exact Table.get?_erase_self _ _

/-- The archive is given to its file; that it was written is noted afterwards. -/
lemma exec_keep (hdrops : c.Drops a h) (path : String) :
    ∃ notes, exec (keep world.console c path) record w =
      ((((world.save path a.toBytes).mapError (unsaved path)).map fun _ => h, { record with
        notes := record.notes ++ notes, saved := record.saved ++ [(path, a.toBytes)] }), w) := by
  have hgiven : exec (ExceptT.mk (pure (.ok a))) record w = ((.ok a, record), w) := rfl
  have hsave := exec_save world record w path a.toBytes (unsaved path)
  rw [keep, hdrops.archived]
  simp only
  rw [exec_bind hgiven]
  cases hresult : world.save path a.toBytes with
  | ok _ =>
    rw [hresult] at hsave
    rw [exec_bind hsave]
    exact ⟨_, (exec_bind (exec_lift (run_note _ _ w)) _).trans (exec_pure _ _ _)⟩
  | error reason =>
    rw [hresult] at hsave
    rw [exec_bind_of_error hsave]
    refine ⟨[], ?_⟩
    rw [List.append_nil]
    rfl

/-- After the conversation its session is dropped, and its archive is written where the run is to
keep one. -/
lemma exec_run {o : Options} {w' : W}
    (held : exec (converse world.console o) {} w = ((.ok c, record), w')) (hdrops : c.Drops a h) :
    ∃ notes, exec (run world.console o) {} w =
      ((world.outcome o a h, { record with
        notes := record.notes ++ notes
        saved := record.saved ++ (o.archive.map (·, a.toBytes)).toList }), w') := by
  rw [run, exec_bind held, World.outcome]
  cases o.archive with
  | none =>
    refine ⟨[], ?_⟩
    simp only [hdrops.disconnected]
    rw [Option.map_none, Option.toList_none, List.append_nil, List.append_nil]
    exact exec_pure h record w'
  | some path => exact exec_keep hdrops path

end Runs

/-- A run on a script holds a conversation. Its last turn awaits no delay and no answer exactly if
each turn comes to rest within the rounds of settling. -/
theorem converse_stops (world : World W) (o : Options) {flow : Flow} {path : String}
    {replies : List String} (skips : o.wait ≠ some true)
    (hflow : world.flow? (o.flow.getD "") = some flow) (hinputs : o.inputs = some path)
    (hscript : world.script? path = some replies) (w : W) :
    ∃ c events record w',
      exec (converse world.console o) {} w = ((.ok c, record), w') ∧
      c.Held replies events {} record ∧
      (c.turn.status ≠ .awaitingExternal ↔
        (hostOf o world.maxSteps flow).EachTurn world.services
          (Host.RestsWithin world.services 64) (.startFlow flowName o.session) w replies) := by
  have hloaded : exec (some <$> loadScript world.console path) {} w =
      ((.ok (some replies), {}), w) := by
    rw [map_eq_pure_bind, exec_bind (exec_loadScript hscript)]
    rfl
  have hmax : exec (ExceptT.lift world.console.maxSteps) {} w = ((.ok world.maxSteps, {}), w) :=
    rfl
  obtain ⟨hempty, hlasting⟩ := hostOf_engine o world.maxSteps flow
  have himmediate : (hostOf o world.maxSteps flow).config.delayMode = .immediate := if_neg skips
  have hcatalog : (hostOf o world.maxSteps flow).catalog.get? flowName = some flow :=
    Table.get?_insert_self _ _ _
  obtain ⟨turn, h₁, w₁, handled, hconfig, hturn⟩ :=
    Host.exists_handle_startFlow world.services hcatalog hempty hlasting himmediate o.session w
  obtain ⟨c, events, record, w', hexec, hheld, heach⟩ :=
    Conversation.exec_send_playScript replies handled hturn (by rw [hconfig])
      "Failed to start session: " {}
  refine ⟨c, events, record, w', ?_, hheld, heach⟩
  rw [converse, exec_bind (exec_loadFlow hflow), hinputs]
  simp only
  rw [exec_bind hloaded]
  refine (exec_bind hmax _).trans ?_
  exact hexec

/-- The way in which a session was left, by the status of its last turn: it has ended, and the end
is the last event and the only one of its kind; or it awaits input after all replies; or it still
waits for a delay or an answer. -/
inductive Left (replies : List String) (session : String) (events : List Event)
    (notes : List String) : Status → Prop where
  | ended (last : events.getLast? = some .endOfConversation)
      (once : events.count .endOfConversation = 1) : Left replies session events notes .ended
  | replied (calm : .endOfConversation ∉ events)
      (noted : replies.map shown ++ [leaving session] <+: notes) :
      Left replies session events notes .awaitingInput
  | pending (calm : .endOfConversation ∉ events) :
      Left replies session events notes .awaitingExternal

lemma Conversation.Held.left {c : Conversation} {replies : List String} {events : List Event}
    {record : Record} (h : c.Held replies events {} record) (more : List String) :
    Left replies c.session events (record.notes ++ more) c.turn.status := by
  have htold := h.told
  obtain ⟨delivered, unread, hreplies, hunread, hnotes⟩ := h.noted
  cases hstatus : c.turn.status with
  | running =>
    rw [hstatus] at htold
    cases htold
  | awaitingInput =>
    rw [hstatus] at htold
    have hall : replies = delivered := by rw [hreplies, hunread hstatus, List.append_nil]
    refine .replied (htold.calm (by simp)).not_mem ⟨more, ?_⟩
    rw [hnotes, if_pos hstatus, hall]
    rfl
  | awaitingExternal =>
    rw [hstatus] at htold
    exact .pending (htold.calm (by simp)).not_mem
  | ended =>
    rw [hstatus] at htold
    cases htold with
    | ended closed =>
      exact .ended closed.getLast?_eq
        (Nat.le_antisymm closed.count_le_one.1 (List.count_pos_iff.mpr closed.mem))

/-- A run on a script leaves its session ended, with one end of conversation as its last line of
output; or awaiting input once the replies are used up; or else waiting for a delay or an answer.
The last it does only where a turn does not come to rest within the 64 answers of one settling. What
it prints are the events of the conversation. However it leaves the session, it drops it at the end,
and the archive it writes is that of the session. -/
theorem run_stops (world : World W) (o : Options) {flow : Flow} {path : String}
    {replies : List String} (skips : o.wait ≠ some true)
    (hflow : world.flow? (o.flow.getD "") = some flow) (hinputs : o.inputs = some path)
    (hscript : world.script? path = some replies) (w : W) :
    ∃ c events a h record w', exec (converse world.console o) {} w = ((.ok c, record), w') ∧
      c.Drops a h ∧
      ∃ ran, exec (run world.console o) {} w = ((world.outcome o a h, ran), w') ∧
        ran.printed = events.map line ∧
        ran.saved = (o.archive.map (·, a.toBytes)).toList ∧
        Left replies c.session events ran.notes a.status ∧
        (a.status ≠ .awaitingExternal ↔
          (hostOf o world.maxSteps flow).EachTurn world.services
            (Host.RestsWithin world.services 64) (.startFlow flowName o.session) w replies) := by
  obtain ⟨c, events, record, w', hexec, hheld, heach⟩ :=
    converse_stops world o skips hflow hinputs hscript w
  obtain ⟨a, h, hdrops, hstatus⟩ := hheld.exists_drops
  obtain ⟨notes, hrun⟩ := exec_run hexec hdrops
  refine ⟨c, events, a, h, record, w', hexec, hdrops, _, hrun, ?_, ?_, ?_, ?_⟩
  · rw [hheld.printed, List.nil_append]
  · rw [hheld.saved, List.nil_append]
  · rw [hstatus]
    exact hheld.left notes
  · rw [hstatus]
    exact heach

/-! ### A request that is made again -/

/-- A flow that makes a request until it is answered. -/
def retrying : Flow where
  name := ""
  nodes := [⟨"0", .start, none⟩, ⟨"1", .api { method := "GET", url := "/" }, none⟩,
    ⟨"2", .finish, none⟩]
  edges := [⟨"edge-0", "0", "1", none⟩, ⟨"edge-1", "1", "2", none⟩,
    ⟨"edge-2", "1", "1", some "error"⟩]
  valid := by decide

/-- A file of the flow. -/
def retryingFile : String :=
  "[\"\",[[\"0\",\"start\"],[\"1\",\"api\",null,\x7b\"url\":\"/\"\x7d],[\"2\",\"end\"]]," ++
    "[[\"\",\"0\",\"1\"],[\"\",\"1\",\"2\"],[\"\",\"1\",\"1\",\"error\"]]]"

/-- A world in which so many requests fail before the first is answered. It counts the requests, and
holds a flow and an empty script. -/
def World.failing (n : Nat) : World Nat where
  services := {
    call := fun _ => do
      let k ← get
      set (k + 1)
      return if k < n then .error (.transport "/" "refused") else .ok ⟨200, ""⟩
    sleep := fun _ => pure ()
    freshId := pure "s" }
  typedLine := pure (.ok none)
  contents path := .ok (if path = "flow.json" then retryingFile.toUTF8 else .empty)
  save _ _ := .ok ()
  maxSteps := none

/-- A run of the flow that keeps an archive. -/
def retryOptions : Options :=
  { flow := some "flow.json", inputs := some "replies.txt", archive := some "out.bin" }

lemma World.failing_flow? (n : Nat) : (World.failing n).flow? "flow.json" = some retrying := by
  have hcontents : (World.failing n).contents "flow.json" = .ok retryingFile.toUTF8 :=
    congrArg Except.ok (if_pos rfl)
  have hread : ((Document.parseFile "flow.json" retryingFile.toUTF8).bind
      Document.toFlow).toOption = some retrying := by
    decide +kernel
  refine Option.bind_eq_some_iff.mpr ⟨retryingFile.toUTF8, ?_, hread⟩
  rw [hcontents]
  rfl

lemma World.failing_script? (n : Nat) : (World.failing n).script? "replies.txt" = some [] := by
  have hcontents : (World.failing n).contents "replies.txt" = .ok .empty :=
    congrArg Except.ok (if_neg (by decide))
  have hread : (String.fromUTF8? .empty).map scriptLines = some [] := by
    decide +kernel
  refine Option.bind_eq_some_iff.mpr ⟨.empty, ?_, hread⟩
  rw [hcontents]
  rfl

/-- Where only the first request fails, the run does not leave its session waiting for an answer. It
drops the session and keeps an archive of it. -/
theorem run_stops_retrying :
    retryOptions.wait ≠ some true ∧
      (World.failing 1).flow? (retryOptions.flow.getD "") = some retrying ∧
      retryOptions.inputs = some "replies.txt" ∧
      (World.failing 1).script? "replies.txt" = some [] ∧
      ∃ (c : Conversation) (events : List Event) (a : Archive) (h : Host) (record : Record)
          (w' : Nat),
        exec (converse (World.failing 1).console retryOptions) {} 0 = ((.ok c, record), w') ∧
        c.Drops a h ∧
        ∃ ran, exec (run (World.failing 1).console retryOptions) {} 0 = ((.ok h, ran), w') ∧
          ran.printed = events.map line ∧ ran.saved = [("out.bin", a.toBytes)] ∧
          Left [] c.session events ran.notes a.status ∧ a.status ≠ .awaitingExternal := by
  have hskips : retryOptions.wait ≠ some true := nofun
  have hflow : (World.failing 1).flow? (retryOptions.flow.getD "") = some retrying :=
    World.failing_flow? 1
  have hscript := World.failing_script? 1
  have hsettled : (hostOf retryOptions none retrying).statusWithin (World.failing 1).services 64
      (.startFlow flowName none) 0 = some .ended := by
    decide +kernel
  obtain ⟨c, events, a, h, record, w', hexec, hdrops, ran, hrun, hprinted, hsaved, hleft,
    hrests⟩ := run_stops (World.failing 1) retryOptions hskips hflow rfl hscript 0
  refine ⟨hskips, hflow, rfl, hscript, c, events, a, h, record, w', hexec, hdrops, ran, hrun,
    hprinted, hsaved, hleft, hrests.mpr ?_⟩
  exact (Host.eachTurn_restsWithin_nil_iff hsettled).mpr (.inr rfl)

/-- Where the first 64 requests fail, answering one after the other leads to the end of the
conversation, and yet a run stops before it and archives a session that waits for an answer. -/
theorem run_leaves_waiting :
    retryOptions.wait ≠ some true ∧
      (World.failing 64).flow? (retryOptions.flow.getD "") = some retrying ∧
      retryOptions.inputs = some "replies.txt" ∧
      (World.failing 64).script? "replies.txt" = some [] ∧
      (hostOf retryOptions (World.failing 64).maxSteps retrying).EachTurn
        (World.failing 64).services
        (fun h turn w => ∃ n, Host.RestsWithin (World.failing 64).services n h turn w)
        (.startFlow flowName retryOptions.session) 0 [] ∧
      ∃ (c : Conversation) (a : Archive) (h : Host) (record ran : Record) (w' : Nat),
        exec (converse (World.failing 64).console retryOptions) {} 0 = ((.ok c, record), w') ∧
        c.Drops a h ∧
        exec (run (World.failing 64).console retryOptions) {} 0 = ((.ok h, ran), w') ∧
        ran.saved = [("out.bin", a.toBytes)] ∧ a.status = .awaitingExternal := by
  have hskips : retryOptions.wait ≠ some true := nofun
  have hflow : (World.failing 64).flow? (retryOptions.flow.getD "") = some retrying :=
    World.failing_flow? 64
  have hscript := World.failing_script? 64
  have hwaits : (hostOf retryOptions none retrying).statusWithin (World.failing 64).services 64
      (.startFlow flowName none) 0 = some .awaitingExternal := by
    decide +kernel
  have hends : (hostOf retryOptions none retrying).statusWithin (World.failing 64).services 65
      (.startFlow flowName none) 0 = some .ended := by
    decide +kernel
  -- What stops the run is the number of rounds: with one more the session would have ended.
  obtain ⟨c, events, record, w', hexec, hheld, heach⟩ :=
    converse_stops (World.failing 64) retryOptions hskips hflow rfl hscript 0
  obtain ⟨a, h, hdrops, hstatus⟩ := hheld.exists_drops
  obtain ⟨notes, hrun⟩ := exec_run hexec hdrops
  refine ⟨hskips, hflow, rfl, hscript, ?_, c, a, h, record, _, w', hexec, hdrops, hrun, ?_, ?_⟩
  · exact ((Host.eachTurn_restsWithin_nil_iff hends).mpr (.inr rfl)).mono
      fun _ _ _ hrests => ⟨65, hrests⟩
  · rw [hheld.saved]
    rfl
  · rw [hstatus]
    by_contra hne
    rcases (Host.eachTurn_restsWithin_nil_iff hwaits).mp (heach.mp hne) with h | h <;> cases h

end Dialogue.Cli
