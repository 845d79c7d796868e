import Dialogue.Archive.Bytes
import Dialogue.Proofs.Session.Changes
import Dialogue.Proofs.Text.ByteOrder
import Mathlib.Data.List.Induction
import Mathlib.Logic.Function.Basic

/-!
# Archives do not tell how a session came about

The archive of a session lists its variables by the bytes of their names. So it is the same however
the variables are held: sorting them from any order gives the list (`mergeSort_enumeration`). And it
is the same however they were set: a variable has the value that was set last, so that two journals
which agree on the last values lead to one archive, and to one string of bytes.
-/

namespace Dialogue

open Text (bytes bytes_lt_bytes bytes_le_bytes)

/-! ### The last values -/

/-- The values of variables, by name. -/
abbrev Valuation := String → Option String

/-- What a change makes of the variables of a session, which are there while it is alive. A new
session has no values; setting one replaces the value of that name. -/
def Change.assign (id : String) (values : Option Valuation) : Change → Option Valuation
  | .create id' _ => if id' = id then some (values.getD fun _ => none) else values
  | .destroy id' => if id' = id then none else values
  | .edit id' (.setVariable name value) =>
    if id' = id then values.map (Function.update · name (some value)) else values
  | .edit _ _ => values

namespace Store

variable {store store' : Store} {c : Change} {r : Refusal}

/-- The variables of a session, if it is alive. -/
def values (store : Store) (id : String) : Option Valuation := (store.get? id).map (·.vars.get?)

/-- The variables of a session after the changes of a journal. -/
def valuesAfter (store : Store) (id : String) (journal : List Change) : Option Valuation :=
  journal.foldl (Change.assign id) (store.values id)

lemma values_of_get? {id : String} {s : Session} (h : store.get? id = some s) :
    store.values id = some s.vars.get? := by
  rw [values, h, Option.map_some]

lemma get?_insert_eq_update (vars : Table String) (name value : String) :
    (vars.insert name value).get? = Function.update vars.get? name (some value) := by
  funext name'
  rw [Table.get?_insert, Function.update_apply]

/-- An edit of a session leaves its variables, unless it sets one of them. -/
lemma assign_of_edited {id : String} {e : Edit} {s s' : Session} (h : s.Edited e s') :
    (Change.edit id e).assign id (some s.vars.get?) = some s'.vars.get? := by
  cases h with
  | setVariable =>
    simp only [Change.assign, if_true, Option.map_some, get?_insert_eq_update]
  | _ => rfl

/-- A change that is about another session leaves the variables of this one. -/
lemma assign_of_ne {id : String} (hid : c.session ≠ id) (values : Option Valuation) :
    c.assign id values = values := by
  cases c with
  | create => exact if_neg hid
  | destroy => exact if_neg hid
  | edit id' e =>
    cases e with
    | setVariable => exact if_neg hid
    | _ => rfl

lemma values_of_change (h : store.change c = .ok store') (id : String) :
    store'.values id = c.assign id (store.values id) := by
  obtain ⟨hmakes, hothers⟩ := makes_of_change h
  by_cases hid : c.session = id
  · subst hid
    simp only [values]
    generalize store.get? c.session = stored at hmakes
    generalize store'.get? c.session = stored' at hmakes
    cases hmakes with
    | created => simp only [Change.assign, Change.session, if_true]; rfl
    | edited edited => exact (assign_of_edited edited).symm
    | destroyed => simp only [Change.assign, Change.session, if_true]; rfl
  · rw [assign_of_ne hid, values, values, hothers id (Ne.symm hid)]

/-- A refused change is one that would leave the variables as they are, or would set one of a
session that is not alive. -/
lemma values_of_refused (h : store.change c = .error r) (id : String) :
    c.assign id (store.values id) = store.values id := by
  by_cases hid : c.session = id
  · subst hid
    cases c with
    | create id flow =>
      simp only [change, create] at h
      split at h
      · next s stored =>
        simp only [Change.assign, Change.session, values_of_get? stored, if_true, Option.getD_some]
      · cases h
    | destroy => cases h
    | edit id e =>
      simp only [change, edit] at h
      split at h
      · next absent =>
        cases e <;>
          simp only [Change.assign, Change.session, values, absent, Option.map_none, ite_self]
      · next s stored =>
        split at h
        · next refused =>
          obtain ⟨node, rfl, -, -⟩ := Session.edit_eq_error_iff.mp refused
          rfl
        · cases h
  · exact assign_of_ne hid _

/-- By the journal alone, it is known what the variables of a session are in the end. -/
lemma values_replay (store : Store) (id : String) (journal : List Change) :
    (store.replay journal).values id = store.valuesAfter id journal := by
  induction journal generalizing store with
  | nil => rfl
  | cons c journal ih =>
    rw [← List.singleton_append, replay_append, ih]
    simp only [valuesAfter, List.singleton_append, List.foldl_cons]
    cases hchange : store.change c with
    | ok store' => rw [replay_of_ok hchange, values_of_change hchange]
    | error r => rw [replay_of_error hchange, values_of_refused hchange]

lemma valuesAfter_append_singleton (store : Store) (id : String) (journal : List Change)
    (c : Change) :
    store.valuesAfter id (journal ++ [c]) = c.assign id (store.valuesAfter id journal) :=
  List.foldl_append

/-- The last of the values that are set under a name is the one that stays. -/
lemma valuesAfter_sets {id : String} {journal : List Change} {before : Valuation}
    (h : store.valuesAfter id journal = some before) (sets : List (String × String)) :
    store.valuesAfter id (journal ++ sets.map fun v => .edit id (.setVariable v.1 v.2)) =
      some fun name => (sets.reverse.lookup name).or (before name) := by
  induction sets using List.reverseRecOn with
  | nil => simpa using h
  | append_singleton sets v ih =>
    obtain ⟨name', value⟩ := v
    rw [List.map_append, ← List.append_assoc, List.map_singleton, valuesAfter_append_singleton, ih]
    simp only [Change.assign, if_true, Option.map_some, List.reverse_append, List.reverse_singleton,
      List.singleton_append, Option.some.injEq]
    funext name
    rw [Function.update_apply]
    split
    · next heq => rw [heq, List.lookup_cons_self, Option.some_or]
    · next hne => simp only [List.lookup_cons, beq_false_of_ne hne]

end Store

/-! ### What an archive has of its session -/

namespace Archive

variable {a : Archive} {s s' : Session}

/-- The archive has the fields of the session, and its variables by the bytes of their names. -/
structure Snapshots (a : Archive) (s : Session) : Prop where
  session : a.session = s.id
  flow : a.flow = s.flow.name
  node : a.node = s.node
  status : a.status = s.status
  increasing : a.vars.Pairwise fun v w => bytes v.1 < bytes w.1
  listed : ∀ name value, (name, value) ∈ a.vars ↔ s.vars.get? name = some value
  transcript : a.transcript = s.transcript.toList

/-- A list of entries that increases by the bytes of the keys is known by its look-ups. -/
lemma eq_entries {pairs : List (String × String)} {vars : Table String}
    (increasing : pairs.Pairwise fun v w => bytes v.1 < bytes w.1)
    (listed : ∀ name value, (name, value) ∈ pairs ↔ vars.get? name = some value) :
    pairs = vars.entries := by
  have hsorted : pairs.Pairwise fun v w => v.1 < w.1 := increasing.imp bytes_lt_bytes.mp
  have heq : (⟨pairs, hsorted⟩ : Table String) = vars := by
    refine Table.ext_get? fun name => Option.ext fun value => ?_
    rw [Table.get?_eq_some_iff_mem]
    exact listed name value
  rw [← heq]

lemma snapshots_ofSession (s : Session) : (ofSession s).Snapshots s where
  session := rfl
  flow := rfl
  node := rfl
  status := rfl
  increasing := s.vars.sorted.imp bytes_lt_bytes.mpr
  listed name value := (s.vars.get?_eq_some_iff_mem name value).symm
  transcript := rfl

/-- A session has one snapshot. -/
lemma Snapshots.eq_ofSession (h : a.Snapshots s) : a = ofSession s := by
  obtain ⟨hsession, hflow, hnode, hstatus, hincreasing, hlisted, htranscript⟩ := h
  have hvars : a.vars = s.vars.entries := eq_entries hincreasing hlisted
  cases a
  simp only at hsession hflow hnode hstatus hvars htranscript
  rw [hsession, hflow, hnode, hstatus, hvars, htranscript]
  rfl

lemma snapshots_iff : a.Snapshots s ↔ a = ofSession s := by
  constructor
  · exact Snapshots.eq_ofSession
  · rintro rfl
    exact snapshots_ofSession s

lemma ofSession_eq_iff :
    ofSession s = ofSession s' ↔ s.id = s'.id ∧ s.flow.name = s'.flow.name ∧ s.node = s'.node ∧
      s.status = s'.status ∧ s.transcript = s'.transcript ∧ s.vars.get? = s'.vars.get? := by
  have hvars : s.vars.entries = s'.vars.entries ↔ s.vars.get? = s'.vars.get? := by
    constructor
    · intro h
      funext name
      rw [Table.get?, Table.get?, h]
    · intro h
      rw [Table.ext_get? (congrFun h)]
  simp only [ofSession, mk.injEq, Array.toList_inj, hvars]
  tauto

/-! ### Sorting -/

/-- The pairs are the variables of a table, each once, in whatever order. -/
structure Enumerates (pairs : List (String × String)) (vars : Table String) : Prop where
  once : (pairs.map Prod.fst).Nodup
  listed : ∀ name value, (name, value) ∈ pairs ↔ vars.get? name = some value

/-- Pairs are ordered by their first texts, and where these are one by their second. -/
def sortsBefore (v w : String × String) : Bool :=
  bytes v.1 < bytes w.1 ∨ v.1 = w.1 ∧ bytes v.2 ≤ bytes w.2

lemma sortsBefore_iff {v w : String × String} :
    sortsBefore v w ↔ v.1 < w.1 ∨ v.1 = w.1 ∧ v.2 ≤ w.2 := by
  rw [sortsBefore, decide_eq_true_eq, bytes_lt_bytes, bytes_le_bytes]

lemma sortsBefore_trans (u v w : String × String) (huv : sortsBefore u v) (hvw : sortsBefore v w) :
    sortsBefore u w := by
  rw [sortsBefore_iff] at *
  rcases huv with huv | ⟨huv, huv'⟩
  · rcases hvw with hvw | ⟨hvw, -⟩
    · exact .inl (huv.trans hvw)
    · exact .inl (hvw ▸ huv)
  · rcases hvw with hvw | ⟨hvw, hvw'⟩
    · exact .inl (huv ▸ hvw)
    · exact .inr ⟨huv.trans hvw, huv'.trans hvw'⟩

lemma sortsBefore_total (v w : String × String) : (sortsBefore v w || sortsBefore w v) = true := by
  rw [Bool.or_eq_true, sortsBefore_iff, sortsBefore_iff]
  rcases lt_trichotomy v.1 w.1 with hlt | heq | hgt
  · exact .inl (.inl hlt)
  · rcases le_total v.2 w.2 with hle | hge
    · exact .inl (.inr ⟨heq, hle⟩)
    · exact .inr (.inr ⟨heq.symm, hge⟩)
  · exact .inr (.inl hgt)

/-- Since no name comes twice, the values do not matter to the order, and sorting gives the list of
an archive. -/
lemma mergeSort_enumeration {pairs : List (String × String)} {vars : Table String}
    (h : Enumerates pairs vars) : pairs.mergeSort sortsBefore = vars.entries := by
  have hsorted := List.pairwise_mergeSort sortsBefore_trans sortsBefore_total pairs
  have hperm := List.mergeSort_perm pairs sortsBefore
  have honce : (pairs.mergeSort sortsBefore).Pairwise fun v w => v.1 ≠ w.1 :=
    List.pairwise_map.mp ((hperm.map Prod.fst).nodup_iff.mpr h.once)
  refine eq_entries ?_ fun name value => hperm.mem_iff.trans (h.listed name value)
  refine (hsorted.and honce).imp ?_
  rintro v w ⟨hle, hne⟩
  rw [sortsBefore_iff] at hle
  exact bytes_lt_bytes.mpr (hle.resolve_right fun h => hne h.1)

/-! ### Archives of two histories -/

/-- The archive of a session is its one snapshot, with the variables by the bytes of their names.
Sorting the variables from any order in which they may be held gives its list. What variables a
session has after the changes of a journal is known from the last value set under each name; so two
sessions, whatever their histories, have one archive if and only if they agree on these and on what
else an archive has, and then their archives are one string of bytes. -/
theorem ofSession_canonical :
    (∀ (a : Archive) (s : Session), a.Snapshots s ↔ a = ofSession s) ∧
    (∀ (s : Session) (pairs : List (String × String)), Enumerates pairs s.vars →
      pairs.mergeSort sortsBefore = (ofSession s).vars) ∧
    (∀ (store : Store) (id : String) (journal : List Change) (before : Valuation)
      (sets : List (String × String)), store.valuesAfter id journal = some before →
      store.valuesAfter id (journal ++ sets.map fun v => .edit id (.setVariable v.1 v.2)) =
        some fun name => (sets.reverse.lookup name).or (before name)) ∧
    ∀ (store store' : Store) (journal journal' : List Change) (id id' : String) (s s' : Session),
      (store.replay journal).get? id = some s → (store'.replay journal').get? id' = some s' →
      some s.vars.get? = store.valuesAfter id journal ∧
      (ofSession s = ofSession s' ↔ s.id = s'.id ∧ s.flow.name = s'.flow.name ∧ s.node = s'.node ∧
        s.status = s'.status ∧ s.transcript = s'.transcript ∧
        store.valuesAfter id journal = store'.valuesAfter id' journal') ∧
      (ofSession s = ofSession s' → (ofSession s).toBytes = (ofSession s').toBytes) := by
  refine ⟨fun _ _ => snapshots_iff, fun _ _ h => mergeSort_enumeration h,
    fun _ _ _ _ sets h => Store.valuesAfter_sets h sets, ?_⟩
  intro store store' journal journal' id id' s s' hs hs'
  have hvalues : store.valuesAfter id journal = some s.vars.get? := by
    rw [← Store.values_replay, Store.values_of_get? hs]
  have hvalues' : store'.valuesAfter id' journal' = some s'.vars.get? := by
    rw [← Store.values_replay, Store.values_of_get? hs']
  refine ⟨hvalues.symm, ?_, congrArg toBytes⟩
  rw [ofSession_eq_iff, hvalues, hvalues', Option.some.injEq]

/-- A name that is given twice and a second variable, set in another order while another session is
alive: the sessions differ in what they wait for, and their archives are one. -/
theorem ofSession_canonical_sample :
    let journal : List Change :=
      [.create "a" Store.brief, .edit "a" (.setVariable "name" "Bob"),
        .edit "a" (.setVariable "übung" "1"), .edit "a" (.setVariable "name" "Ada")]
    let journal' : List Change :=
      [.create "b" Store.brief, .create "a" Store.brief, .edit "a" (.setVariable "name" "Ada"),
        .edit "b" (.setVariable "name" "Bob"), .edit "a" (.setPending (some (.delay 1))),
        .edit "a" (.setVariable "übung" "1")]
    let vars : List (String × String) := [("name", "Ada"), ("übung", "1")]
    let s : Session := { id := "a", flow := Store.brief, vars := .ofList vars }
    let s' : Session := { s with pending := some (.delay 1) }
    ((Store.replay ∅ journal).get? "a" = some s ∧ (Store.replay ∅ journal').get? "a" = some s') ∧
      ((ofSession s).vars = vars ∧ vars.reverse.mergeSort sortsBefore = vars) ∧
      ofSession s = ofSession s' ∧ (ofSession s).toBytes = (ofSession s').toBytes := by
  intro journal journal' vars s s'
  obtain ⟨-, hsorting, -, htwo⟩ := ofSession_canonical
  have hs : (Store.replay ∅ journal).get? "a" = some s := by decide +kernel
  have hs' : (Store.replay ∅ journal').get? "a" = some s' := by decide +kernel
  have hvars : (ofSession s).vars = vars := by decide +kernel
  have henumerates : Enumerates vars.reverse s.vars := by
    refine ⟨by decide, fun name value => ?_⟩
    rw [List.mem_reverse, s.vars.get?_eq_some_iff_mem, ← hvars]
    rfl
  obtain ⟨hvalues, hiff, hbytes⟩ := htwo ∅ ∅ journal journal' "a" "a" s s' hs hs'
  obtain ⟨hvalues', -⟩ := htwo ∅ ∅ journal' journal "a" "a" s' s hs' hs
  have hsame : ofSession s = ofSession s' :=
    hiff.mpr ⟨rfl, rfl, rfl, rfl, rfl, hvalues.symm.trans hvalues'⟩
  exact ⟨⟨hs, hs'⟩, ⟨hvars, (hsorting s _ henumerates).trans hvars⟩, hsame, hbytes hsame⟩

end Archive

end Dialogue
