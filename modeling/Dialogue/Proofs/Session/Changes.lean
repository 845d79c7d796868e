import Dialogue.Proofs.Session.Edits
import Dialogue.Session.Store

/-!
# What changes of a store keep

A change of a store is about one session: it reads what is stored under that name and nothing else,
and leaves what is stored under other names. So the sessions of a store that began empty are in
order, whatever was asked of it: `replay_inOrder_and_framed`.
-/

namespace Dialogue

/-! ### Single changes -/

namespace Change

/-- The session that a change of a store is about. -/
def session : Change → String
  | create session _ => session
  | edit session _ => session
  | destroy session => session

/-- What a change makes of what is stored under its name. -/
inductive Makes : Change → Option Session → Option Session → Prop where
  | created {id : String} {flow : Flow} : Makes (.create id flow) none (some { id, flow })
  | edited {id : String} {e : Edit} {s s' : Session} (edited : s.Edited e s') :
      Makes (.edit id e) (some s) (some s')
  | destroyed {id : String} {stored : Option Session} : Makes (.destroy id) stored none

/-- Why a change is refused, by what is stored under its name. -/
inductive Fails : Change → Option Session → Refusal → Prop where
  | taken {id : String} {flow : Flow} {s : Session} :
      Fails (.create id flow) (some s) (.sessionExists id)
  | absent {id : String} {e : Edit} : Fails (.edit id e) none (.unknownSession id)
  | astray {id node : String} {s : Session} (absent : s.flow.node? node = none) :
      Fails (.edit id (.advanceTo node)) (some s) (.unknownNode id node)

/-- What a change makes of a session in order is in order. -/
lemma Makes.inOrder {c : Change} {stored : Option Session} {s : Session}
    (h : c.Makes stored (some s)) (hstored : ∀ s', stored = some s' → s'.InOrder c.session) :
    s.InOrder c.session := by
  cases h with
  | created => exact Session.inOrder_new _ _
  | edited edited => exact (hstored _ rfl).edited edited

end Change

namespace Store

variable {store store' : Store} {c : Change} {id : String} {r : Refusal}

/-- A change that is accepted makes something of what is stored under its name, and of nothing
else. -/
lemma makes_of_change (h : store.change c = .ok store') :
    c.Makes (store.get? c.session) (store'.get? c.session) ∧
      ∀ other, other ≠ c.session → store'.get? other = store.get? other := by
  cases c with
  | create id flow =>
    simp only [change, create] at h
    split at h
    · cases h
    · next absent =>
      cases h
      refine ⟨?_, fun other hne => Table.get?_insert_of_ne _ _ hne⟩
      simp only [Change.session, absent, Table.get?_insert_self]
      exact .created
  | edit id e =>
    simp only [change, edit] at h
    split at h
    · cases h
    · next s stored =>
      split at h
      · cases h
      · next s' hedit =>
        cases h
        refine ⟨?_, fun other hne => Table.get?_insert_of_ne _ _ hne⟩
        simp only [Change.session, stored, Table.get?_insert_self]
        exact .edited (Session.edited_of_edit hedit)
  | destroy id =>
    cases h
    refine ⟨?_, fun other hne => Table.get?_erase_of_ne _ hne⟩
    simp only [Change.session, Table.get?_erase_self]
    exact .destroyed

/-- The sessions of a store are in order, each under its own name. -/
def InOrder (store : Store) : Prop :=
  ∀ id s, store.get? id = some s → s.InOrder id

lemma inOrder_empty : InOrder ∅ := by
  intro id s h
  cases h

lemma InOrder.change (h : store.InOrder) (hchange : store.change c = .ok store') :
    store'.InOrder := by
  intro id s hs
  obtain ⟨hmakes, hothers⟩ := makes_of_change hchange
  by_cases hid : id = c.session
  · subst hid
    rw [hs] at hmakes
    exact hmakes.inOrder (h c.session)
  · rw [hothers id hid] at hs
    exact h id s hs

lemma InOrder.fails_of_change (h : store.InOrder) (hchange : store.change c = .error r) :
    c.Fails (store.get? c.session) r := by
  cases c with
  | create id flow =>
    simp only [Store.change, create] at hchange
    split at hchange
    · next s stored =>
      cases hchange
      simp only [Change.session, stored]
      exact .taken
    · cases hchange
  | edit id e =>
    simp only [Store.change, edit] at hchange
    split at hchange
    · next absent =>
      cases hchange
      simp only [Change.session, absent]
      exact .absent
    · next s stored =>
      split at hchange
      · next r' hedit =>
        cases hchange
        obtain ⟨node, rfl, absent, rfl⟩ := Session.edit_eq_error_iff.mp hedit
        simp only [Change.session, stored, (h id s stored).name]
        exact .astray absent
      · cases hchange
  | destroy id => cases hchange

lemma InOrder.change_of_fails (h : store.InOrder) (hfails : c.Fails (store.get? c.session) r) :
    store.change c = .error r := by
  generalize hstored : store.get? c.session = stored at hfails
  cases hfails with
  | taken =>
    simp only [Change.session] at hstored
    simp only [Store.change, create, hstored]
  | absent =>
    simp only [Change.session] at hstored
    simp only [Store.change, edit, hstored]
  | @astray id node s absent =>
    simp only [Change.session] at hstored
    have hedit : s.edit (.advanceTo node) = .error (.unknownNode s.id node) :=
      Session.edit_eq_error_iff.mpr ⟨node, rfl, absent, rfl⟩
    simp only [Store.change, edit, hstored, hedit, (h id s hstored).name]

/-! ### Runs -/

lemma replay_append (store : Store) (journal journal' : List Change) :
    store.replay (journal ++ journal') = (store.replay journal).replay journal' :=
  List.foldl_append

lemma replay_of_ok (h : store.change c = .ok store') : store.replay [c] = store' := by
  simp only [replay, List.foldl_cons, List.foldl_nil, h]
  rfl

lemma replay_of_error (h : store.change c = .error r) : store.replay [c] = store := by
  simp only [replay, List.foldl_cons, List.foldl_nil, h]
  rfl

lemma InOrder.replay (h : store.InOrder) (journal : List Change) : (store.replay journal).InOrder := by
  induction journal generalizing store with
  | nil => exact h
  | cons c journal ih =>
    rw [← List.singleton_append, replay_append]
    cases hchange : store.change c with
    | ok store' =>
      rw [replay_of_ok hchange]
      exact ih (h.change hchange)
    | error r =>
      rw [replay_of_error hchange]
      exact ih h

/-- After any changes of a store that began empty, each session is kept under its own name, is at a
node of its own flow or at none yet, and has the last line of the user as its latest input. A
further change is refused for the reasons in `Change.Fails` alone, and then leaves the store as it
was. Otherwise it makes of its own session what `Change.Makes` says, and leaves the others. -/
theorem replay_inOrder_and_framed (journal : List Change) (c : Change) :
    (∀ id s, (replay ∅ journal).get? id = some s →
      s.id = id ∧ (∀ node, s.node = some node → (s.flow.node? node).isSome) ∧
        s.lastInput =
          ((s.transcript.toList.filter (·.speaker = .user)).getLast?).map (·.text)) ∧
    (∀ r, (replay ∅ journal).change c = .error r ↔
      c.Fails ((replay ∅ journal).get? c.session) r) ∧
    (∀ r, (replay ∅ journal).change c = .error r →
      replay ∅ (journal ++ [c]) = replay ∅ journal) ∧
    ∀ store, (replay ∅ journal).change c = .ok store →
      replay ∅ (journal ++ [c]) = store ∧
      c.Makes ((replay ∅ journal).get? c.session) (store.get? c.session) ∧
      ∀ other, other ≠ c.session → store.get? other = (replay ∅ journal).get? other := by
  have horder : (replay ∅ journal).InOrder := inOrder_empty.replay journal
  refine ⟨?_, fun r => ⟨horder.fails_of_change, horder.change_of_fails⟩, ?_, ?_⟩
  · intro id s hs
    obtain ⟨hname, hplaced, hremembers⟩ := horder id s hs
    exact ⟨hname, hplaced, hremembers⟩
  · intro r hr
    rw [replay_append, replay_of_error hr]
  · intro store hstore
    rw [replay_append, replay_of_ok hstore]
    exact ⟨rfl, makes_of_change hstore⟩

/-- A flow that asks one question. -/
def brief : Flow where
  name := "brief"
  nodes := [⟨"start", .start, none⟩, ⟨"ask", .input none, none⟩]
  edges := [⟨"1", "start", "ask", none⟩]
  valid := by decide

/-- The session `a` is at the question and knows the reply. It cannot advance to a node that its flow
does not have, and can be given a variable. -/
theorem replay_inOrder_and_framed_sample :
    let journal : List Change :=
      [.create "a" brief, .edit "a" (.advanceTo "ask"), .edit "a" (.record .user "Ada")]
    let s : Session := ⟨"a", brief, some "ask", ∅, some "Ada", .running, none, #[⟨.user, "Ada"⟩]⟩
    let stray : Change := .edit "a" (.advanceTo "bye")
    let named : Change := .edit "a" (.setVariable "name" "Ada")
    ((replay ∅ journal).get? "a" = some s ∧ s.id = "a" ∧ (brief.node? "ask").isSome) ∧
    ((replay ∅ journal).change stray = .error (.unknownNode "a" "bye") ∧
      replay ∅ (journal ++ [stray]) = replay ∅ journal) ∧
    ∃ store, (replay ∅ journal).change named = .ok store ∧
      replay ∅ (journal ++ [named]) = store ∧ named.Makes (some s) (store.get? "a") ∧
      store.get? "b" = none := by
  intro journal s stray named
  have hstored : (replay ∅ journal).get? "a" = some s := by decide +kernel
  obtain ⟨hall, hrefused, hkept, _⟩ := replay_inOrder_and_framed journal stray
  obtain ⟨hname, hplaced, _⟩ := hall "a" s hstored
  have herror : (replay ∅ journal).change stray = .error (.unknownNode "a" "bye") := by
    rw [hrefused]
    simp only [stray, Change.session, hstored]
    exact .astray (by decide)
  refine ⟨⟨hstored, hname, hplaced "ask" rfl⟩, ⟨herror, hkept _ herror⟩, ?_⟩
  obtain ⟨_, _, _, hmade⟩ := replay_inOrder_and_framed journal named
  have hok : (replay ∅ journal).change named =
      .ok ((replay ∅ journal).insert "a" { s with vars := s.vars.insert "name" "Ada" }) := by
    simp only [named, change, edit, hstored, Session.edit]
  obtain ⟨hreplayed, hmakes, hothers⟩ := hmade _ hok
  refine ⟨_, hok, hreplayed, ?_, ?_⟩
  · simp only [named, Change.session, hstored] at hmakes
    exact hmakes
  · rw [hothers "b" (by decide)]
    decide +kernel

end Store

end Dialogue
