import Dialogue.Proofs.Walk.After
import Mathlib.Data.Finset.Card
import Mathlib.Data.Finset.Image

/-!
# Walks without an end

Past its first step nothing wakes a walk any more, and what its nodes see of the session no longer
changes: every node has one successor or none. A walk that has then gone on as often as its flow has
nodes has come back to a node, so that it goes on for ever. `Reached.moves_for_ever` says so.
-/

namespace Dialogue

/-! ### Partial functions on finite sets -/

section LeadsIn

variable {α : Type} {f : α → Option α} {a b : α}

/-- Where a partial function leads in so many steps. -/
def leadsIn (f : α → Option α) : Nat → α → Option α
  | 0, a => some a
  | n + 1, a => (f a).bind (leadsIn f n)

lemma leadsIn_add (m n : Nat) (a : α) :
    leadsIn f (m + n) a = (leadsIn f m a).bind (leadsIn f n) := by
  induction m generalizing a with
  | zero => rw [Nat.zero_add]; rfl
  | succ m ih =>
    rw [Nat.succ_add]
    simp only [leadsIn, Option.bind_assoc]
    exact congrArg _ (funext ih)

lemma isSome_leadsIn_of_le {m n : Nat} (h : (leadsIn f n a).isSome) (hle : m ≤ n) :
    (leadsIn f m a).isSome := by
  obtain ⟨k, rfl⟩ := Nat.exists_eq_add_of_le hle
  rw [leadsIn_add] at h
  exact Option.isSome_of_isSome_bind h

lemma mem_of_leadsIn {nodes : Finset α} (hf : ∀ a b, f a = some b → b ∈ nodes) (ha : a ∈ nodes)
    {n : Nat} (h : leadsIn f n a = some b) : b ∈ nodes := by
  induction n generalizing a with
  | zero => cases h; exact ha
  | succ n ih =>
    obtain ⟨c, hc, hrest⟩ := Option.bind_eq_some_iff.mp h
    exact ih (hf a c hc) hrest

/-- In a finite set, as many steps as it has members come back to a member. -/
lemma exists_leadsIn_eq [DecidableEq α] {nodes : Finset α} (hf : ∀ a b, f a = some b → b ∈ nodes)
    (ha : a ∈ nodes) (h : (leadsIn f nodes.card a).isSome) :
    ∃ i j, i < j ∧ j ≤ nodes.card ∧ leadsIn f i a = leadsIn f j a := by
  have hmaps : Set.MapsTo (leadsIn f · a) (Finset.range (nodes.card + 1)) (nodes.image some) := by
    intro k hk
    have hle : k ≤ nodes.card := Nat.lt_succ_iff.mp (Finset.mem_range.mp hk)
    obtain ⟨b, hb⟩ := Option.isSome_iff_exists.mp (isSome_leadsIn_of_le h hle)
    exact Finset.mem_image.mpr ⟨b, mem_of_leadsIn hf ha hb, hb.symm⟩
  have hcard : (nodes.image some).card < (Finset.range (nodes.card + 1)).card := by
    rw [Finset.card_range]
    exact Nat.lt_succ_of_le Finset.card_image_le
  obtain ⟨i, hi, j, hj, hne, heq⟩ := Finset.exists_ne_map_eq_of_card_lt_of_maps_to hcard hmaps
  have hi' : i ≤ nodes.card := Nat.lt_succ_iff.mp (Finset.mem_range.mp hi)
  have hj' : j ≤ nodes.card := Nat.lt_succ_iff.mp (Finset.mem_range.mp hj)
  rcases Nat.lt_or_gt_of_ne hne with hlt | hlt
  · exact ⟨i, j, hlt, hj', heq⟩
  · exact ⟨j, i, hlt, hi', heq.symm⟩

/-- In a finite set, a way that can be followed for as many steps as there are members can be
followed for ever. -/
lemma isSome_leadsIn [DecidableEq α] {nodes : Finset α} (hf : ∀ a b, f a = some b → b ∈ nodes)
    (ha : a ∈ nodes) (h : (leadsIn f nodes.card a).isSome) (n : Nat) :
    (leadsIn f n a).isSome := by
  obtain ⟨i, j, hlt, hle, heq⟩ := exists_leadsIn_eq hf ha h
  induction n using Nat.strong_induction_on with
  | _ n ih =>
    rcases Nat.le_total n nodes.card with hn | hn
    · exact isSome_leadsIn_of_le h hn
    · -- Past the round, the way is the same as before it.
      obtain ⟨r, rfl⟩ := Nat.exists_eq_add_of_le (hle.trans hn)
      rw [leadsIn_add, ← heq, ← leadsIn_add]
      exact ih (i + r) (by omega)

end LeadsIn

/-! ### Successors -/

namespace Flow

/-- The identifiers of the nodes. -/
def ids (f : Flow) : Finset String := (f.nodes.map (·.id)).toFinset

lemma mem_ids_iff {f : Flow} {id : String} : id ∈ f.ids ↔ (f.node? id).isSome := by
  rw [isSome_node?_iff]
  exact List.mem_toFinset

lemma card_ids_le (f : Flow) : f.ids.card ≤ f.nodes.length := by
  have hle : f.ids.card ≤ (f.nodes.map (·.id)).length := List.toFinset_card_le _
  rw [List.length_map] at hle
  exact hle

end Flow

/-- The node to which an outcome leads. -/
def Outcome.target? : Outcome → Option String
  | goOn target => some target
  | _ => none

namespace Session

/-- The node to which a node goes on that nothing has woken. -/
def successor? (s : Session) (id : String) : Option String :=
  (s.flow.node? id).bind fun n => (Step.ofNode n s none).outcome.target?

lemma successor?_congr {s s' : Session} (h : s.outlook = s'.outlook) :
    s.successor? = s'.successor? := by
  funext id
  have hflow : s.flow = s'.flow := congrArg Outlook.flow h
  simp only [successor?, hflow, Step.ofNode_congr h]

lemma isSome_node?_of_successor? {s : Session} {id target : String}
    (h : s.successor? id = some target) : (s.flow.node? target).isSome := by
  obtain ⟨n, hn, htarget⟩ := Option.bind_eq_some_iff.mp h
  have hshape : Step.Shape n s none (Step.ofNode n s none) :=
    Step.shape_ofNode (Flow.mem_of_node? hn)
  refine hshape.found ?_
  cases houtcome : (Step.ofNode n s none).outcome with
  | goOn target' =>
    rw [houtcome] at htarget
    exact congrArg _ (Option.some.inj htarget)
  | _ =>
    rw [houtcome] at htarget
    cases htarget

end Session

/-! ### Walks -/

namespace Walk

variable {origin s : Session} {events : List Event} {w : Walk} {stimulus : Option Stimulus}

/-- The walk is on its way. -/
def Progress.Moves (p : Progress) : Prop := ∃ w, p = .moving w

lemma Progress.not_moves_settled : ¬ (settled w).Moves := by
  rintro ⟨v, h⟩
  cases h

/-- A step that goes on reaches a node of the same flow. -/
lemma Reached.step_found (h : Reached origin s events w) (stimulus : Option Stimulus) :
    (w.step stimulus).Meets
      (fun v => ∃ s' events' target, Reached origin s' events' v ∧ s'.flow = s.flow ∧
        s'.node = some target ∧ (s'.flow.node? target).isSome)
      fun _ => True := by
  apply h.step_meets
  · intro n target v hplace hgo hv
    have hfound := (Session.shape_of_place? hplace stimulus).found hgo
    refine ⟨_, _, target, hv, Session.perform_flow _ _, Session.perform_node hgo, ?_⟩
    rw [Session.perform_flow]
    exact hfound
  · intro n v _ _ _
    trivial
  · intro reason v _ _
    trivial

/-- A step that nothing wakes follows the successor of its node. -/
lemma Reached.step_successor (h : Reached origin s events w) {id : String}
    (hnode : s.node = some id) :
    (w.step none).Meets
      (fun v => ∃ s' events' target, Reached origin s' events' v ∧ s'.outlook = s.outlook ∧
        s'.node = some target ∧ s.successor? id = some target)
      fun _ => s.successor? id = none := by
  have hsuccessor : s.successor? id =
      s.place?.bind fun n => (Step.ofNode n s none).outcome.target? := by
    simp only [Session.place?, hnode]
    rfl
  rw [hsuccessor]
  apply h.step_meets
  · intro n target v hplace hgo hv
    have hbinding := (Session.shape_of_place? hplace none).binding_eq_none hgo
    have houtlook := s.perform_outlook (Step.ofNode n s none)
    rw [hbinding, Outlook.bind_none] at houtlook
    refine ⟨_, _, target, hv, houtlook, Session.perform_node hgo, ?_⟩
    simp only [hplace, Option.bind_some, hgo]
    rfl
  · intro n v hplace hstay _
    simp only [hplace, Option.bind_some]
    cases houtcome : (Step.ofNode n s none).outcome with
    | goOn target => exact absurd houtcome (hstay target)
    | _ => rfl
  · intro reason v hlost _
    simp only [hlost]
    rfl

/-- A walk that nothing wakes is on its way as long as there are successors. -/
lemma Reached.after_moves_iff (h : Reached origin s events w) {id : String}
    (hnode : s.node = some id) (n : Nat) :
    (w.after none n).Moves ↔ (leadsIn s.successor? n id).isSome := by
  induction n generalizing s events w id with
  | zero => exact ⟨fun _ => rfl, fun _ => ⟨w, rfl⟩⟩
  | succ n ih =>
    have hnext := h.step_successor hnode
    simp only [after, leadsIn]
    cases hw : w.step none with
    | moving v =>
      rw [hw] at hnext
      obtain ⟨s', events', target, hv, houtlook, hnode', htarget⟩ := hnext
      simp only [htarget, Option.bind_some]
      rw [← Session.successor?_congr houtlook]
      exact ih hv hnode'
    | settled v =>
      rw [hw] at hnext
      have hsuccessor : s.successor? id = none := hnext
      simp only [hsuccessor, Option.bind_none, Option.isSome_none, Bool.false_eq_true, iff_false]
      exact Progress.not_moves_settled

/-- A walk that nothing wakes and that goes on as often as its flow has nodes goes on for ever. -/
lemma Reached.moves_of_length_le (h : Reached origin s events w) {id : String}
    (hnode : s.node = some id) (hfound : (s.flow.node? id).isSome) {k : Nat}
    (hk : s.flow.nodes.length ≤ k) (hmoves : (w.after none k).Moves) (n : Nat) :
    (w.after none n).Moves := by
  rw [h.after_moves_iff hnode] at hmoves ⊢
  have hsuccessor : ∀ a b, s.successor? a = some b → b ∈ s.flow.ids := fun a b hb =>
    Flow.mem_ids_iff.mpr (Session.isSome_node?_of_successor? hb)
  have hround : (leadsIn s.successor? s.flow.ids.card id).isSome :=
    isSome_leadsIn_of_le hmoves (s.flow.card_ids_le.trans hk)
  exact isSome_leadsIn hsuccessor (Flow.mem_ids_iff.mpr hfound) hround n

/-- A walk that is on its way after more steps than its flow has nodes is on its way for ever. -/
theorem Reached.moves_for_ever (h : Reached origin s events w) {k : Nat}
    (hk : s.flow.nodes.length < k) (hmoves : (w.after stimulus k).Moves) (n : Nat) :
    (w.after stimulus n).Moves := by
  cases n with
  | zero => exact ⟨w, rfl⟩
  | succ n =>
    obtain ⟨k, rfl⟩ := Nat.exists_eq_succ_of_ne_zero (Nat.ne_of_gt (Nat.zero_lt_of_lt hk))
    have hnext := h.step_found stimulus
    simp only [after] at hmoves ⊢
    cases hw : w.step stimulus with
    | settled v =>
      rw [hw] at hmoves
      exact absurd hmoves Progress.not_moves_settled
    | moving v =>
      rw [hw] at hmoves hnext
      obtain ⟨s', events', target, hv, hflow, hnode, hfound⟩ := hnext
      -- The first step may have woken its node, no later one does.
      rw [← hflow] at hk
      exact hv.moves_of_length_le hnode hfound (Nat.le_of_lt_succ hk) hmoves n

/-! ### Runs into the ceiling -/

/-- The events tell of a round without an end. -/
def Looped (events : List Event) : Prop := ∃ reason, .flowError .infiniteLoop reason ∈ events

lemma not_looped_append {events' : List Event} (h : ¬ Looped events) (h' : ¬ Looped events') :
    ¬ Looped (events ++ events') := by
  rintro ⟨reason, hmem⟩
  rcases List.mem_append.mp hmem with hmem | hmem
  · exact h ⟨reason, hmem⟩
  · exact h' ⟨reason, hmem⟩

/-- Only the ceiling makes a walk tell of a round without an end. -/
lemma not_looped_sent {n : Node} {step : Step} (hshape : Step.Shape n s stimulus step)
    (h : ¬ Looped events) : ¬ Looped (step.sent events) := by
  rintro ⟨reason, hmem⟩
  rcases (Step.mem_sent_iff (by simp)).mp hmem with hmem | hmem
  · exact h ⟨reason, hmem⟩
  · cases hshape with
    | failed kind_ne =>
      simp only [List.mem_singleton, Event.flowError.injEq] at hmem
      exact kind_ne hmem.1.symm
    | _ => simp at hmem

/-- The walk has not told of a round without an end. -/
def Quiet (origin : Session) (w : Walk) : Prop :=
  ∃ s events, Reached origin s events w ∧ ¬ Looped events

lemma Quiet.step (h : Quiet origin w) (stimulus : Option Stimulus) :
    (w.step stimulus).Meets (Quiet origin) (Quiet origin) := by
  obtain ⟨s, events, hreached, hquiet⟩ := h
  apply hreached.step_meets
  · intro n target v hplace hgo hv
    exact ⟨_, _, hv, not_looped_sent (Session.shape_of_place? hplace stimulus) hquiet⟩
  · intro n v hplace hstay hv
    exact ⟨_, _, hv, not_looped_sent (Session.shape_of_place? hplace stimulus) hquiet⟩
  · intro reason v hlost hv
    exact ⟨_, _, hv, not_looped_append hquiet (by simp [Looped])⟩

/-- A run tells of a round without an end when it is still on its way at the ceiling. -/
lemma Reached.looped_run_iff (h : Reached origin s [] w) (ceiling : Nat) :
    Looped (w.run ceiling stimulus).events.toList ↔ (w.opened.after stimulus ceiling).Moves := by
  have hopened : Quiet origin w.opened := ⟨_, _, h.opened, by simp [Looped]⟩
  have hafter := after_keeps (fun _ stimulus hv => hv.step stimulus) hopened stimulus ceiling
  rw [h.run_eq]
  cases hw : w.opened.after stimulus ceiling with
  | moving v =>
    rw [hw] at hafter
    obtain ⟨_, events, hv, _⟩ := hafter
    have hfail := hv.fail .infiniteLoop (ceilingReason ceiling v.session)
    have hlooped : Looped (v.fail .infiniteLoop (ceilingReason ceiling v.session)).events.toList := by
      rw [hfail.events]
      exact ⟨_, List.mem_append_right events List.mem_cons_self⟩
    exact ⟨fun _ => ⟨v, rfl⟩, fun _ => hlooped⟩
  | settled v =>
    rw [hw] at hafter
    obtain ⟨_, events, hv, hquiet⟩ := hafter
    refine iff_of_false ?_ Progress.not_moves_settled
    show ¬ Looped v.events.toList
    rw [hv.events]
    exact hquiet

/-- Under a ceiling above the number of nodes, a run that tells of a round without an end would go
on for ever: it does so under every ceiling. -/
theorem Reached.looped_run (h : Reached origin s [] w) {ceiling : Nat}
    (hsize : s.flow.nodes.length < ceiling)
    (hlooped : Looped (w.run ceiling stimulus).events.toList) (n : Nat) :
    Looped (w.run n stimulus).events.toList := by
  rw [h.looped_run_iff] at hlooped ⊢
  exact h.opened.moves_for_ever hsize hlooped n

end Walk

end Dialogue
