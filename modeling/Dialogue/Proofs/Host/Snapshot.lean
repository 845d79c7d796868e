import Dialogue.Proofs.Engine.Isolation
import Dialogue.Proofs.Host.Settling

/-!
# Sessions keep their flow

A session goes on with the flow with which it was started, whatever becomes of the catalog in the
meantime. The catalog is read where a session begins and nowhere else, so a host whose catalog is
changed and one whose catalog is left alone say the same to a session that has begun on both:
`session_keeps_flow`.
-/

namespace Dialogue

namespace Engine

variable {e : Engine} {id : String}

/-- A call leaves a session that is there its flow. -/
lemma flow_take {s s' : Session} (c : Call) (hs : e.store.get? id = some s)
    (hs' : (e.take c).engine.store.get? id = some s') : s'.flow = s.flow := by
  by_cases hc : c.session = id
  · subst hc
    have htakes := takes_take e c
    generalize (e.take c).result = response, (e.take c).engine = e' at htakes hs'
    cases htakes with
    | refused r => rw [Option.some.inj (hs'.symm.trans hs)]
    | turned o opens =>
      rcases stored_of_keep hs' with ⟨_, rfl, _⟩ | ⟨hne, _⟩
      · obtain ⟨_, _, _, _, hreached⟩ := opens.over e.config.maxSteps
        rw [hreached.keeps.2]
        cases opens with
        | start absent | startNodes _ absent => cases absent.symm.trans hs
        | resume stored | complete stored =>
          obtain rfl := Option.some.inj (stored.symm.trans hs)
          rfl
      · exact absurd rfl hne
    | destroyed | archived => exact absurd rfl (stored_of_erase hs').1
  · rw [get?_take_of_ne e hc] at hs'
    rw [Option.some.inj (hs'.symm.trans hs)]

/-- A session that has been started follows the flow that the call has brought. -/
lemma flow_of_start {flow : Flow} {t : Turn} {s : Session}
    (hturn : (e.take (.start id flow)).result = .turn t)
    (hs : (e.take (.start id flow)).engine.store.get? id = some s) : s.flow = flow := by
  obtain ⟨o, hopens, _⟩ := opens_of_turn hturn
  have hkept := hopens.get?_take
  simp only [Call.session, hs] at hkept
  split at hkept
  · cases hkept
  · rw [Option.some.inj hkept]
    obtain ⟨_, _, _, _, hreached⟩ := hopens.over e.config.maxSteps
    rw [hreached.keeps.2]
    cases hopens
    rfl

end Engine

namespace Host

/-! ### What happens to hosts -/

/-- What can happen to a host. -/
inductive Action where
  /-- An event is sent, and the work for which its session then waits is done at once or not. -/
  | event (event : Incoming) (settled : Bool)
  /-- A user goes. -/
  | disconnect (session : String)
  /-- A flow is put into the catalog, in place of an earlier one of its name. -/
  | insertFlow (name : String) (flow : Flow)
  | removeFlow (name : String)

namespace Action

/-- Whether an action changes the catalog. -/
def editsCatalog : Action → Bool
  | insertFlow .. => true
  | removeFlow .. => true
  | _ => false

/-- Whether an action goes on with a session that has begun. -/
def continues (id : String) : Action → Bool
  | event (.userMessage session _) _ => session = id
  | event (.externalComplete session _) _ => session = id
  | _ => false

end Action

/-- The reply to an event that is settled or not. -/
def takeEvent (services : Services Id) (h : Host) (event : Incoming) (settled : Bool) : Reply :=
  if settled then (h.handleAndSettle services event).run else (h.handle services event).run

/-- What comes of an action: the reply to an event, and the host after it. -/
def act (services : Services Id) (h : Host) : Action → Option (Except HostError Turn) × Host
  | .event event settled => ((h.takeEvent services event settled).map some id)
  | .disconnect session => (none, (h.disconnect session).2)
  | .insertFlow name flow => (none, { h with catalog := h.catalog.insert name flow })
  | .removeFlow name => (none, { h with catalog := h.catalog.erase name })

/-- The host after actions. -/
def after (services : Services Id) (h : Host) (actions : List Action) : Host :=
  actions.foldl (fun h a => (h.act services a).2) h

/-- The replies to the actions that go on with a session. -/
def repliesTo (services : Services Id) (id : String) (h : Host) :
    List Action → List (Except HostError Turn)
  | [] => []
  | a :: actions =>
    let rest := repliesTo services id (h.act services a).2 actions
    if a.continues id then (h.act services a).1.toList ++ rest else rest

/-- The session is there whenever one of the actions comes. The last of them may remove it. -/
def Present (services : Services Id) (id : String) (h : Host) : List Action → Prop
  | [] => True
  | a :: actions =>
    (h.engine.store.get? id).isSome ∧ Present services id (h.act services a).2 actions

variable {services : Services Id} {h h' h₁ : Host} {mode : DelayMode} {id id' : String} {n : Nat}
  {turns : List Turn} {event : Incoming}

/-- An event is refused, or its session is given the answers to what it waits for. There is no round
of these where the event is not settled. -/
lemma takeEvent_cases (services : Services Id) (h : Host) (event : Incoming) (settled : Bool) :
    (∃ e, (h.handle services event).run = (.error e, h) ∧
        h.takeEvent services event settled = (.error e, h)) ∨
      ∃ first h₁ turns h₂, (h.handle services event).run = (.ok first, h₁) ∧
        first.session = event.session services.freshId ∧
        Completed services h.config.delayMode first.session h₁
          (if settled then h.config.settleRounds else 0) turns h₂ ∧
        h.takeEvent services event settled = (.ok (turns.foldl joinTurns first), h₂) := by
  rcases handleAndSettle_cases services h event with
    ⟨e, herror, hsettled⟩ | ⟨first, h₁, turns, h₂, hok, hsession, hcompleted, hsettled⟩
  · refine .inl ⟨e, herror, ?_⟩
    cases settled with
    | false => exact herror
    | true => exact hsettled
  · cases settled with
    | false => exact .inr ⟨first, h₁, [], h₁, hok, hsession, .capped, hok⟩
    | true => exact .inr ⟨first, h₁, turns, h₂, hok, hsession, hcompleted, hsettled⟩

/-! ### Hosts that agree on a session -/

/-- The hosts have the same settings, and the same session or none under a name. Their catalogs may
differ. -/
structure AgreeOn (id : String) (h h' : Host) : Prop where
  config : h.config = h'.config
  engine : Engine.AgreeOn id h.engine h'.engine

lemma AgreeOn.refl (id : String) (h : Host) : AgreeOn id h h := ⟨rfl, rfl, rfl⟩

lemma AgreeOn.symm (hagree : AgreeOn id h h') : AgreeOn id h' h :=
  ⟨hagree.config.symm, hagree.engine.config.symm, hagree.engine.stored.symm⟩

lemma AgreeOn.trans (hagree : AgreeOn id h h') (hagree' : AgreeOn id h' h₁) : AgreeOn id h h₁ :=
  ⟨hagree.config.trans hagree'.config, hagree.engine.config.trans hagree'.engine.config,
    hagree.engine.stored.trans hagree'.engine.stored⟩

/-! ### Events of other sessions -/

lemma agreeOn_handle_of_ne (hne : event.session services.freshId ≠ id) :
    AgreeOn id (h.handle services event).run.2 h := by
  rcases handle_cases services h event with ⟨e, herror⟩ | ⟨c, t, hsession, _, hok⟩
  · rw [herror]
    exact .refl id h
  · rw [hok]
    rw [← hsession] at hne
    exact ⟨rfl, Engine.take_config _ _, Engine.get?_take_of_ne _ hne⟩

lemma Completed.agreeOn_of_ne (hc : Completed services mode id' h n turns h₁) (hne : id' ≠ id) :
    AgreeOn id h₁ h := by
  induction hc with
  | capped | idle | left => exact .refl id _
  | @round h h₁ h₂ n request result t turns waits answers completed rest ih =>
    have hround : AgreeOn id (h.handle services (.externalComplete id' result)).run.2 h :=
      agreeOn_handle_of_ne hne
    rw [completed] at hround
    exact ih.trans hround

/-- An event leaves every session alone that it is not for. -/
lemma agreeOn_takeEvent_of_ne (settled : Bool) (hne : event.session services.freshId ≠ id) :
    AgreeOn id (h.takeEvent services event settled).2 h := by
  have hhandle : AgreeOn id (h.handle services event).run.2 h := agreeOn_handle_of_ne hne
  rcases takeEvent_cases services h event settled with
    ⟨e, _, htake⟩ | ⟨first, h₁, turns, h₂, hok, hsession, hcompleted, htake⟩
  · rw [htake]
    exact .refl id h
  · rw [hok] at hhandle
    rw [htake]
    rw [← hsession] at hne
    exact (hcompleted.agreeOn_of_ne hne).trans hhandle

/-! ### Events of the session -/

lemma AgreeOn.reply (hagree : AgreeOn id h h') {a a' : Answer (Except Refusal Turn)}
    (ha : Engine.AgreeAfter id a a') :
    (h.reply a).1 = (h'.reply a').1 ∧ AgreeOn id (h.reply a).2 (h'.reply a').2 := by
  refine ⟨?_, hagree.config, ha.engine⟩
  simp only [Host.reply, ha.result]

/-- Hosts that agree on a session give its events the same reply. -/
lemma AgreeOn.handle (services : Services Id) (hagree : AgreeOn id h h') {settled : Bool}
    (hevent : (Action.event event settled).continues id) :
    (h.handle services event).run.1 = (h'.handle services event).run.1 ∧
      AgreeOn id (h.handle services event).run.2 (h'.handle services event).run.2 := by
  cases event with
  | startFlow => cases hevent
  | userMessage session text =>
    obtain rfl : session = id := of_decide_eq_true hevent
    exact hagree.reply (hagree.engine.resume text)
  | externalComplete session result =>
    obtain rfl : session = id := of_decide_eq_true hevent
    exact hagree.reply (hagree.engine.complete result)

/-- Where hosts agree on a session, the same answers are given to what it waits for. -/
lemma Completed.agreeOn (hc : Completed services mode id h n turns h₁) (hagree : AgreeOn id h h') :
    ∃ h₂, Completed services mode id h' n turns h₂ ∧ AgreeOn id h₁ h₂ := by
  have hpending : ∀ {h h' : Host}, AgreeOn id h h' → h'.engine.pending? id = h.engine.pending? id := by
    intro h h' hagree
    simp only [Engine.pending?, hagree.engine.stored]
  induction hc generalizing h' with
  | capped => exact ⟨h', .capped, hagree⟩
  | idle nothing => exact ⟨h', .idle ((hpending hagree).trans nothing), hagree⟩
  | left waits manual => exact ⟨h', .left ((hpending hagree).trans waits) manual, hagree⟩
  | @round h h₁ h₂ n request result t turns waits answers completed rest ih =>
    have hevent : (Action.event (.externalComplete id result) false).continues id :=
      decide_eq_true rfl
    obtain ⟨hreply, hnext⟩ := hagree.handle services hevent
    rw [completed] at hreply hnext
    obtain ⟨h₂', hrest, hlast⟩ := ih hnext
    have hcompleted : (h'.handle services (.externalComplete id result)).run =
        (.ok t, (h'.handle services (.externalComplete id result)).run.2) :=
      Prod.ext hreply.symm rfl
    exact ⟨h₂', .round ((hpending hagree).trans waits) answers hcompleted hrest, hlast⟩

lemma AgreeOn.takeEvent (services : Services Id) (hagree : AgreeOn id h h') {settled : Bool}
    (hevent : (Action.event event settled).continues id) :
    (h.takeEvent services event settled).1 = (h'.takeEvent services event settled).1 ∧
      AgreeOn id (h.takeEvent services event settled).2
        (h'.takeEvent services event settled).2 := by
  have hhandle := hagree.handle services hevent
  have hid : event.session services.freshId = id := by
    cases event with
    | startFlow => cases hevent
    | userMessage | externalComplete => exact of_decide_eq_true hevent
  rcases takeEvent_cases services h event settled with
    ⟨e, herror, htake⟩ | ⟨first, h₁, turns, h₂, hok, hsession, hcompleted, htake⟩
  · rcases takeEvent_cases services h' event settled with
      ⟨e', herror', htake'⟩ | ⟨first', h₁', turns', h₂', hok', _⟩
    · rw [herror, herror'] at hhandle
      rw [htake, htake']
      exact hhandle
    · rw [herror, hok'] at hhandle
      cases hhandle.1
  · rcases takeEvent_cases services h' event settled with
      ⟨e', herror', _⟩ | ⟨first', h₁', turns', h₂', hok', hsession', hcompleted', htake'⟩
    · rw [hok, herror'] at hhandle
      cases hhandle.1
    · rw [hok, hok'] at hhandle
      obtain ⟨⟨⟩, hnext⟩ := hhandle
      rw [hsession, hid, hagree.config] at hcompleted
      rw [hsession, hid] at hcompleted'
      obtain ⟨h₃, hcompleted₃, hlast⟩ := hcompleted.agreeOn hnext
      obtain ⟨rfl, rfl⟩ := hcompleted₃.unique hcompleted'
      rw [htake, htake']
      exact ⟨rfl, hlast⟩

/-- A session that is there is not started again. -/
lemma takeEvent_startFlow_of_stored {flow : String} {session : Option String} (settled : Bool)
    (hsession : session.getD services.freshId = id) (hstored : (h.engine.store.get? id).isSome) :
    (h.takeEvent services (.startFlow flow session) settled).2 = h := by
  obtain ⟨e, herror⟩ : ∃ e, (h.handle services (.startFlow flow session)).run = (.error e, h) := by
    cases hflow : h.catalog.get? flow with
    | none => exact ⟨_, handle_startFlow_of_none services session hflow⟩
    | some f =>
      obtain ⟨s, hs⟩ := Option.isSome_iff_exists.mp hstored
      obtain ⟨hresult, hengine⟩ := Engine.start_of_stored f hs
      refine ⟨.refused (.sessionExists id), ?_⟩
      rw [handle_startFlow_of_some services session hflow, hsession]
      simp only [reply, hresult, hengine]
      rfl
  rcases takeEvent_cases services h (.startFlow flow session) settled with
    ⟨_, _, htake⟩ | ⟨_, _, _, _, hok, _⟩
  · rw [htake]
  · cases herror.symm.trans hok

/-! ### Actions -/

lemma agreeOn_act_of_editsCatalog {a : Action} (ha : a.editsCatalog) :
    AgreeOn id (h.act services a).2 h := by
  cases a with
  | event | disconnect => cases ha
  | insertFlow | removeFlow => exact ⟨rfl, rfl, rfl⟩

/-- Where both hosts have a session, an action that does not touch the catalogs makes the same of it,
and gets the same reply if it goes on with the session. -/
lemma AgreeOn.act (hagree : AgreeOn id h h') (hstored : (h.engine.store.get? id).isSome)
    {a : Action} (ha : a.editsCatalog = false) :
    (a.continues id → (h.act services a).1 = (h'.act services a).1) ∧
      AgreeOn id (h.act services a).2 (h'.act services a).2 := by
  cases a with
  | insertFlow | removeFlow => cases ha
  | disconnect session =>
    refine ⟨nofun, ?_⟩
    by_cases hid : session = id
    · subst hid
      exact ⟨hagree.config, hagree.engine.destroy.engine⟩
    · exact ⟨hagree.config, hagree.engine.config,
        (Table.get?_erase_of_ne _ (Ne.symm hid)).trans
          (hagree.engine.stored.trans (Table.get?_erase_of_ne _ (Ne.symm hid)).symm)⟩
  | event event settled =>
    by_cases hcontinues : (Action.event event settled).continues id
    · obtain ⟨hreply, hnext⟩ := hagree.takeEvent services hcontinues
      exact ⟨fun _ => congrArg some hreply, hnext⟩
    · refine ⟨fun h => absurd h hcontinues, ?_⟩
      show AgreeOn id (h.takeEvent services event settled).2 (h'.takeEvent services event settled).2
      by_cases hid : event.session services.freshId = id
      · cases event with
        | startFlow flow session =>
          have hstored' : (h'.engine.store.get? id).isSome := by
            rw [← hagree.engine.stored]
            exact hstored
          rw [takeEvent_startFlow_of_stored settled hid hstored,
            takeEvent_startFlow_of_stored settled hid hstored']
          exact hagree
        | userMessage | externalComplete => exact absurd (decide_eq_true hid) hcontinues
      · exact (agreeOn_takeEvent_of_ne settled hid).trans
          (hagree.trans (agreeOn_takeEvent_of_ne settled hid).symm)

/-- As long as a session is there, changes of the catalog make no difference to it. -/
lemma AgreeOn.after (hagree : AgreeOn id h h') {actions : List Action}
    (hpresent : Present services id h actions) :
    h.repliesTo services id actions =
        h'.repliesTo services id (actions.filter (!·.editsCatalog)) ∧
      AgreeOn id (h.after services actions)
        (h'.after services (actions.filter (!·.editsCatalog))) := by
  induction actions generalizing h h' with
  | nil => exact ⟨rfl, hagree⟩
  | cons a actions ih =>
    obtain ⟨hstored, hpresent⟩ := hpresent
    cases ha : a.editsCatalog with
    | true =>
      have hcontinues : a.continues id = false := by
        cases a with
        | event | disconnect => cases ha
        | insertFlow | removeFlow => rfl
      obtain ⟨hreplies, hlast⟩ := ih ((agreeOn_act_of_editsCatalog ha).trans hagree) hpresent
      simp only [repliesTo, hcontinues, List.filter_cons, ha, Bool.not_true, Bool.false_eq_true,
        if_false]
      exact ⟨hreplies, hlast⟩
    | false =>
      obtain ⟨hreply, hnext⟩ := hagree.act hstored ha
      obtain ⟨hreplies, hlast⟩ := ih hnext hpresent
      simp only [List.filter_cons, ha, Bool.not_false, if_true]
      refine ⟨?_, hlast⟩
      simp only [repliesTo, hreplies]
      by_cases hcontinues : a.continues id
      · simp only [if_pos hcontinues, hreply hcontinues]
      · simp only [if_neg hcontinues]

/-! ### The flow of a session -/

/-- The session, if it is there, follows this flow. -/
def Follows (id : String) (f : Flow) (h : Host) : Prop :=
  ∀ s, h.engine.store.get? id = some s → s.flow = f

variable {f : Flow}

lemma Follows.of_agreeOn (hf : Follows id f h) (hagree : AgreeOn id h' h) : Follows id f h' := by
  intro s hs
  exact hf s (hagree.engine.stored.symm.trans hs)

lemma Follows.handle (hf : Follows id f h) (hstored : (h.engine.store.get? id).isSome) :
    Follows id f (h.handle services event).run.2 := by
  obtain ⟨s, hs⟩ := Option.isSome_iff_exists.mp hstored
  rcases handle_cases services h event with ⟨e, herror⟩ | ⟨c, t, _, _, hok⟩
  · rw [herror]
    exact hf
  · rw [hok]
    intro s' hs'
    exact (Engine.flow_take c hs hs').trans (hf s hs)

lemma Follows.completed (hf : Follows id f h) (hc : Completed services mode id' h n turns h₁) :
    Follows id f h₁ := by
  by_cases hid : id' = id
  · subst hid
    induction hc with
    | capped | idle | left => exact hf
    | @round h h₁ h₂ n request result t turns waits answers completed rest ih =>
      obtain ⟨s, hs, _⟩ := Option.bind_eq_some_iff.mp waits
      have hnext : Follows id' f (h.handle services (.externalComplete id' result)).run.2 :=
        hf.handle (Option.isSome_iff_exists.mpr ⟨s, hs⟩)
      rw [completed] at hnext
      exact ih hnext
  · exact hf.of_agreeOn (hc.agreeOn_of_ne hid)

lemma Follows.takeEvent (hf : Follows id f h) (hstored : (h.engine.store.get? id).isSome)
    (settled : Bool) : Follows id f (h.takeEvent services event settled).2 := by
  have hhandle : Follows id f (h.handle services event).run.2 := hf.handle hstored
  rcases takeEvent_cases services h event settled with
    ⟨e, _, htake⟩ | ⟨first, h₁, turns, h₂, hok, _, hcompleted, htake⟩
  · rw [htake]
    exact hf
  · rw [hok] at hhandle
    rw [htake]
    exact hhandle.completed hcompleted

lemma Follows.act (hf : Follows id f h) (hstored : (h.engine.store.get? id).isSome) (a : Action) :
    Follows id f (h.act services a).2 := by
  cases a with
  | event event settled => exact hf.takeEvent hstored settled
  | insertFlow | removeFlow => exact hf
  | disconnect session =>
    intro s hs
    exact hf s (Engine.stored_of_erase hs).2

lemma Follows.after (hf : Follows id f h) {actions : List Action}
    (hpresent : Present services id h actions) : Follows id f (h.after services actions) := by
  induction actions generalizing h with
  | nil => exact hf
  | cons a actions ih =>
    obtain ⟨hstored, hpresent⟩ := hpresent
    exact ih (hf.act hstored a) hpresent

/-- A session that has been started follows the flow that the catalog had then. -/
lemma follows_of_start {flow : String} {settled : Bool} {first : Turn}
    (hstart : h.takeEvent services (.startFlow flow (some id)) settled = (.ok first, h₁)) :
    ∃ f, h.catalog.get? flow = some f ∧ Follows id f h₁ := by
  rcases takeEvent_cases services h (.startFlow flow (some id)) settled with
    ⟨_, _, htake⟩ | ⟨t, h₂, turns, h₃, hok, _, hcompleted, htake⟩
  · cases hstart.symm.trans htake
  · cases hstart.symm.trans htake
    cases hflow : h.catalog.get? flow with
    | none => cases (handle_startFlow_of_none services (some id) hflow).symm.trans hok
    | some f =>
      refine ⟨f, rfl, Follows.completed ?_ hcompleted⟩
      rw [handle_startFlow_of_some services (some id) hflow] at hok
      rcases reply_take (c := .start id f) (h := h) rfl with ⟨_, herror⟩ | ⟨t', hturn, hreply⟩
      · cases hok.symm.trans herror
      · cases hok.symm.trans hreply
        intro s hs
        exact Engine.flow_of_start hturn hs

/-- From the moment at which a session is started and as long as it is there, its events get the
same replies, and it is in the same state, as if the catalog were never changed. It follows the flow
that the catalog had when it was started. -/
theorem session_keeps_flow (services : Services Id) (h h₁ : Host) (flow id : String)
    (settled : Bool) (first : Turn)
    (hstart : h.takeEvent services (.startFlow flow (some id)) settled = (.ok first, h₁))
    (actions : List Action) (hpresent : Present services id h₁ actions) :
    h₁.repliesTo services id actions =
        h₁.repliesTo services id (actions.filter (!·.editsCatalog)) ∧
      (h₁.after services actions).engine.store.get? id =
        (h₁.after services (actions.filter (!·.editsCatalog))).engine.store.get? id ∧
      ∃ f, h.catalog.get? flow = some f ∧ Follows id f (h₁.after services actions) := by
  obtain ⟨hreplies, hlast⟩ := (AgreeOn.refl id h₁).after hpresent
  obtain ⟨f, hflow, hf⟩ := follows_of_start hstart
  exact ⟨hreplies, hlast.engine.stored, f, hflow, hf.after hpresent⟩

/-- While the session `a` is on it, a flow is replaced in the catalog and then taken from it. The
session has its greeting as if it were still there. -/
theorem session_keeps_flow_sample :
    let services : Services Id :=
      { call := fun _ => .ok ⟨404, ""⟩, sleep := fun _ => (), freshId := "b" }
    let h : Host := { catalog := (∅ : Catalog).insert "greeting" .sample }
    let actions : List Action := [.insertFlow "greeting" Store.brief,
      .event (.startFlow "greeting" none) true, .event (.userMessage "a" "Ada") false,
      .removeFlow "greeting"]
    ∃ first h₁ t, h.takeEvent services (.startFlow "greeting" (some "a")) true = (.ok first, h₁) ∧
      Present services "a" h₁ actions ∧
      h₁.repliesTo services "a" actions = [.ok t] ∧ t.messages = ["Hello Ada"] ∧
      Follows "a" .sample (h₁.after services actions) := by
  intro services h actions
  let h₁ := (h.takeEvent services (.startFlow "greeting" (some "a")) true).2
  have hreply : (h.takeEvent services (.startFlow "greeting" (some "a")) true).1 =
      .ok ⟨"a", .awaitingInput, [], none⟩ := by
    decide +kernel
  have hstart : h.takeEvent services (.startFlow "greeting" (some "a")) true =
      (.ok ⟨"a", .awaitingInput, [], none⟩, h₁) :=
    Prod.ext hreply rfl
  have hpresent : Present services "a" h₁ actions := by
    simp only [Present, actions]
    decide +kernel
  have halone : h₁.repliesTo services "a" (actions.filter (!·.editsCatalog)) =
      [.ok ⟨"a", .awaitingExternal,
        [.botMessage "greet" ⟨"Hello Ada", none, none⟩, .typingDelay 2], some (.delay 2)⟩] := by
    decide +kernel
  obtain ⟨hreplies, _, f, hflow, hf⟩ :=
    session_keeps_flow services h h₁ "greeting" "a" true _ hstart actions hpresent
  obtain rfl : f = .sample :=
    Option.some.inj (hflow.symm.trans (Table.get?_insert_self _ _ _))
  exact ⟨_, h₁, _, hstart, hpresent, hreplies.trans halone, rfl, hf⟩

end Host

end Dialogue
