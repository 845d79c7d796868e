import Dialogue.Proofs.Engine.Calls
import Dialogue.Proofs.Session.Changes

/-!
# Sessions apart

A call works on the session that it names. It reads no other one, and the changes that it asks of
the store all bear its name; so two engines that agree on a session answer the calls on it alike,
whatever else they keep. In any order of calls, each session therefore goes its own way:
`takeAll_isolated`.
-/

namespace Dialogue

namespace Engine

variable {e e' : Engine} {c : Call} {id : String}

/-! ### Engines that agree on a session -/

/-- The engines have the same settings, and the same session or none under a name. -/
structure AgreeOn (id : String) (e e' : Engine) : Prop where
  config : e.config = e'.config
  stored : e.store.get? id = e'.store.get? id

/-- The answers are the same, and leave engines that agree on a session. -/
structure AgreeAfter {α : Type} (id : String) (a a' : Answer α) : Prop where
  result : a.result = a'.result
  journal : a.journal = a'.journal
  engine : AgreeOn id a.engine a'.engine

lemma AgreeAfter.map {α β : Type} {a a' : Answer α} (h : AgreeAfter id a a') (f : α → β) :
    AgreeAfter id (a.map f) (a'.map f) where
  result := congrArg f h.result
  journal := h.journal
  engine := h.engine

lemma AgreeOn.refuse (h : AgreeOn id e e') {α : Type} (r : Refusal) :
    AgreeAfter id (e.refuse (α := α) r) (e'.refuse r) :=
  ⟨rfl, rfl, h⟩

lemma AgreeOn.settle (h : AgreeOn id e e') (opening : List Change) (w : Walk) :
    AgreeAfter id (e.settle id opening w) (e'.settle id opening w) := by
  have hinsert : ∀ s, (e.store.insert id s).get? id = (e'.store.insert id s).get? id := by
    intro s
    rw [Table.get?_insert_self, Table.get?_insert_self]
  have herase : ∀ s, ((e.store.insert id s).erase id).get? id =
      ((e'.store.insert id s).erase id).get? id := by
    intro s
    rw [Table.get?_erase_self, Table.get?_erase_self]
  simp only [Engine.settle, h.config]
  split
  · exact ⟨rfl, rfl, rfl, hinsert _⟩
  · by_cases hdrop : w.session.status = .ended ∧ e'.config.evictEnded
    · simp only [if_pos hdrop]
      exact ⟨rfl, rfl, rfl, herase _⟩
    · simp only [if_neg hdrop]
      exact ⟨rfl, rfl, rfl, hinsert _⟩

lemma AgreeOn.start (h : AgreeOn id e e') (flow : Flow) :
    AgreeAfter id (e.start id flow) (e'.start id flow) := by
  simp only [Engine.start, h.stored, h.config]
  cases e'.store.get? id with
  | some s => exact ⟨rfl, rfl, h⟩
  | none => exact h.settle _ _

lemma AgreeOn.startNodes (h : AgreeOn id e e') (nodes : List Node) (edges : List Edge) :
    AgreeAfter id (e.startNodes id nodes edges) (e'.startNodes id nodes edges) := by
  simp only [Engine.startNodes]
  cases Flow.ofGraph Flow.defaultName nodes edges with
  | error violation => exact h.refuse _
  | ok flow => exact h.start flow

lemma AgreeOn.waiting (h : AgreeOn id e e') (expected : Status) :
    e.waiting id expected = e'.waiting id expected := by
  simp only [Engine.waiting, h.stored]

lemma AgreeOn.resume (h : AgreeOn id e e') (input : String) :
    AgreeAfter id (e.resume id input) (e'.resume id input) := by
  simp only [Engine.resume, h.waiting, h.config]
  cases e'.waiting id .awaitingInput with
  | error r => exact h.refuse r
  | ok s => exact h.settle _ _

lemma AgreeOn.complete (h : AgreeOn id e e') (result : ExternalResult) :
    AgreeAfter id (e.complete id result) (e'.complete id result) := by
  simp only [Engine.complete, h.waiting, h.config]
  cases e'.waiting id .awaitingExternal with
  | error r => exact h.refuse r
  | ok s => exact h.settle _ _

lemma AgreeOn.destroy (h : AgreeOn id e e') : AgreeAfter id (e.destroy id) (e'.destroy id) := by
  refine ⟨h.stored, rfl, h.config, ?_⟩
  simp only [Engine.destroy, Table.get?_erase_self]

lemma AgreeOn.archive (h : AgreeOn id e e') : AgreeAfter id (e.archive id) (e'.archive id) := by
  obtain ⟨hresult, hjournal, hengine⟩ := h.destroy
  refine ⟨?_, hjournal, hengine⟩
  simp only [Engine.archive, hresult]

/-- Engines that agree on the session of a call answer it alike and still agree on it. -/
theorem AgreeOn.take (h : AgreeOn c.session e e') : AgreeAfter c.session (e.take c) (e'.take c) := by
  cases c with
  | start id flow => exact (AgreeOn.start h flow).map _
  | startNodes id nodes edges => exact (AgreeOn.startNodes h nodes edges).map _
  | resume id input => exact (AgreeOn.resume h input).map _
  | complete id result => exact (AgreeOn.complete h result).map _
  | destroy id => exact (AgreeOn.destroy h).map _
  | archive id => exact (AgreeOn.archive h).map _

/-! ### Calls on other sessions -/

/-- A call leaves every session alone that it does not name. -/
lemma get?_take_of_ne (e : Engine) (h : c.session ≠ id) :
    (e.take c).engine.store.get? id = e.store.get? id := by
  have htakes := takes_take e c
  generalize (e.take c).result = response, (e.take c).engine = e₁ at htakes
  cases htakes with
  | refused r => rfl
  | turned o opens => rw [get?_keep, if_neg h.symm]
  | destroyed => exact Table.get?_erase_of_ne _ h.symm
  | archived stored => exact Table.get?_erase_of_ne _ h.symm

lemma AgreeOn.take_of_ne (h : AgreeOn id e e') (hne : c.session ≠ id) :
    AgreeOn id (e.take c).engine e' where
  config := (take_config e c).trans h.config
  stored := (get?_take_of_ne e hne).trans h.stored

/-! ### Journals -/

/-- The changes are all about one session. -/
def KeepsTo (id : String) (journal : List Change) : Prop :=
  ∀ change ∈ journal, change.session = id

lemma keepsTo_nil (id : String) : KeepsTo id [] := by
  intro change hmem
  cases hmem

lemma KeepsTo.append {journal journal' : List Change} (h : KeepsTo id journal)
    (h' : KeepsTo id journal') : KeepsTo id (journal ++ journal') := by
  intro change hmem
  rcases List.mem_append.mp hmem with hmem | hmem
  · exact h change hmem
  · exact h' change hmem

lemma keepsTo_singleton {change : Change} (h : change.session = id) : KeepsTo id [change] := by
  intro change' hmem
  rw [List.mem_singleton.mp hmem]
  exact h

lemma keepsTo_edits (id : String) (edits : List Edit) : KeepsTo id (edits.map (.edit id)) := by
  intro change hmem
  obtain ⟨edit, _, rfl⟩ := List.mem_map.mp hmem
  rfl

lemma keepsTo_settle {opening : List Change} (h : KeepsTo id opening) (w : Walk) :
    KeepsTo id (e.settle id opening w).journal := by
  have hwalk := h.append (keepsTo_edits id w.edits.toList)
  simp only [settle]
  split
  · exact hwalk
  · split
    · exact hwalk.append (keepsTo_singleton rfl)
    · exact hwalk

lemma keepsTo_start (flow : Flow) : KeepsTo id (e.start id flow).journal := by
  have hcreate : KeepsTo id [.create id flow] := keepsTo_singleton rfl
  simp only [start]
  split
  · exact hcreate
  · exact keepsTo_settle hcreate _

/-- Every change that a call asks of the store is about the session that it names. -/
lemma keepsTo_take (e : Engine) (c : Call) : KeepsTo c.session (e.take c).journal := by
  cases c with
  | start id flow => exact keepsTo_start flow
  | startNodes id nodes edges =>
    simp only [take, startNodes, Answer.map]
    split
    · exact keepsTo_nil id
    · exact keepsTo_start _
  | resume id input =>
    simp only [take, resume, Answer.map]
    split
    · exact keepsTo_nil id
    · exact keepsTo_settle (keepsTo_nil id) _
  | complete id result =>
    simp only [take, complete, Answer.map]
    split
    · exact keepsTo_nil id
    · exact keepsTo_settle (keepsTo_nil id) _
  | destroy id => exact keepsTo_singleton rfl
  | archive id => exact keepsTo_singleton rfl

/-! ### Runs -/

/-- The responses to the calls on a session, in their order. -/
def responsesOn (id : String) (history : List (Call × Response)) : List Response :=
  (history.filter (·.1.session = id)).map (·.2)

/-- The calls on a session, taken alone by an engine that agrees on it, get the same responses and
lead to the same session. -/
lemma AgreeOn.takeAll (h : AgreeOn id e e') (calls : List Call) :
    responsesOn id (e.history calls) = (e'.takeAll (calls.filter (·.session = id))).result ∧
      AgreeOn id (e.takeAll calls).engine
        (e'.takeAll (calls.filter (·.session = id))).engine := by
  induction calls generalizing e e' with
  | nil => exact ⟨rfl, h⟩
  | cons c calls ih =>
    by_cases hc : c.session = id
    · subst hc
      obtain ⟨hresult, _, hengine⟩ := h.take
      obtain ⟨hresponses, hagree⟩ := ih hengine
      simp only [history_cons, responsesOn, List.filter_cons, decide_true, if_true, List.map_cons]
        at hresponses ⊢
      simp only [Engine.takeAll]
      exact ⟨congrArg₂ List.cons hresult hresponses, hagree⟩
    · obtain ⟨hresponses, hagree⟩ := ih (h.take_of_ne hc)
      simp only [history_cons, responsesOn, List.filter_cons, hc, decide_false, Bool.false_eq_true,
        if_false] at hresponses hagree ⊢
      exact ⟨hresponses, hagree⟩

/-- Whatever calls come between, the calls on a session get the responses and lead to the session
that they would get and lead to alone. A call on another session asks for no change of this one,
leaves it as it is, and does not hang on it. -/
theorem takeAll_isolated (e : Engine) (id : String) :
    (∀ calls : List Call,
      responsesOn id (e.history calls) = (e.takeAll (calls.filter (·.session = id))).result ∧
        (e.takeAll calls).engine.store.get? id =
          (e.takeAll (calls.filter (·.session = id))).engine.store.get? id) ∧
    ∀ c : Call, c.session ≠ id →
      (∀ change ∈ (e.take c).journal, change.session ≠ id) ∧
      (e.take c).engine.store.get? id = e.store.get? id ∧
      ∀ store : Store, (∀ other, other ≠ id → store.get? other = e.store.get? other) →
        (({ e with store } : Engine).take c).result = (e.take c).result ∧
        ∀ other, other ≠ id →
          (({ e with store } : Engine).take c).engine.store.get? other =
            (e.take c).engine.store.get? other := by
  constructor
  · intro calls
    have hself : AgreeOn id e e := ⟨rfl, rfl⟩
    obtain ⟨hresponses, hagree⟩ := hself.takeAll calls
    exact ⟨hresponses, hagree.stored⟩
  · intro c hne
    refine ⟨?_, get?_take_of_ne e hne, ?_⟩
    · intro change hmem
      rw [keepsTo_take e c change hmem]
      exact hne
    · intro store hstore
      have hagree : AgreeOn c.session { e with store } e := ⟨rfl, hstore _ hne⟩
      refine ⟨hagree.take.result, ?_⟩
      intro other hother
      by_cases hc : c.session = other
      · subst hc
        exact hagree.take.engine.stored
      · rw [get?_take_of_ne _ hc, get?_take_of_ne _ hc]
        exact hstore other hother

/-- The session `a` of `Engine.sample` greets by name, whether or not `b` comes and goes. -/
theorem takeAll_isolated_sample :
    (∃ t, responsesOn "a"
        ((sample {}).history [.start "b" .sample, .resume "a" "Ada", .destroy "b"]) = [.turn t] ∧
      t.messages = ["Hello Ada"]) ∧
    "b" ≠ "a" ∧
      ((sample {}).take (.destroy "b")).engine.store.get? "a" = (sample {}).store.get? "a" := by
  obtain ⟨hruns, hothers⟩ := takeAll_isolated (sample {}) "a"
  have halone : ((sample {}).takeAll [.resume "a" "Ada"]).result =
      [.turn ⟨"a", .awaitingExternal,
        [.botMessage "greet" ⟨"Hello Ada", none, none⟩, .typingDelay 2], some (.delay 2)⟩] := by
    decide +kernel
  have hboth := (hruns [.start "b" .sample, .resume "a" "Ada", .destroy "b"]).1
  have hne : "b" ≠ "a" := by decide
  exact ⟨⟨_, hboth.trans halone, rfl⟩, hne, (hothers (.destroy "b") hne).2.1⟩

end Engine

end Dialogue
