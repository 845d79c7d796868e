import Dialogue.Proofs.Engine.Rest
import Dialogue.Proofs.Walk.Route

/-!
# Turns as walks of the graph

A turn goes a route of the flow: from the start node, or from the node where its session has waited,
along the ways of the nodes, with no more nodes than the ceiling allows. What it says is what these
nodes say, and its session is left where the route ends.
-/

namespace Dialogue

namespace Engine

open Walk

variable {e : Engine} {c : Call} {o : Opening} {stimulus stimulus' : Option Stimulus}
  {n n' : Node} {look look' : Outlook}

/-- Where a call sets out: the node, what it sees there, and what wakes it. -/
inductive SetsOut (e : Engine) : Call → Option Stimulus → Node → Outlook → Prop where
  | start {id : String} {flow : Flow} (absent : e.store.get? id = none) :
      SetsOut e (.start id flow) none flow.start ⟨flow, ∅, none⟩
  | startNodes {id : String} {nodes : List Node} {edges : List Edge} {flow : Flow}
      (valid : Flow.ofGraph Flow.defaultName nodes edges = .ok flow)
      (absent : e.store.get? id = none) :
      SetsOut e (.startNodes id nodes edges) none flow.start ⟨flow, ∅, none⟩
  | resume {id input : String} {s : Session} {n : Node} (stored : e.store.get? id = some s)
      (waits : s.status = .awaitingInput) (place : s.place? = some n) :
      SetsOut e (.resume id input) (some (.userInput input)) n ⟨s.flow, s.vars, some input⟩
  | complete {id : String} {result : ExternalResult} {s : Session} {n : Node}
      (stored : e.store.get? id = some s) (waits : s.status = .awaitingExternal)
      (place : s.place? = some n) :
      SetsOut e (.complete id result) (some (.external result)) n s.outlook

/-- An accepted call sets out from the node where its walk begins. -/
lemma Orderly.setsOut (h : e.Orderly) (ho : e.Opens c o) :
    ∃ s n, Reached o.origin s [] o.walk ∧ s.place? = some n ∧
      e.SetsOut c o.stimulus n s.outlook := by
  cases ho with
  | @start id flow absent =>
    exact ⟨_, flow.start, Reached.begin.advanceTo Flow.isSome_node?_start,
      Flow.node?_of_mem flow.start_mem, .start absent⟩
  | @startNodes id nodes edges valid absent =>
    exact ⟨_, _, Reached.begin.advanceTo Flow.isSome_node?_start,
      Flow.node?_of_mem (Flow.start_mem _),
      .startNodes (Flow.ofGraph_of_valid Flow.defaultName valid) absent⟩
  | @resume id input s stored waits =>
    obtain ⟨n, hn⟩ := Option.isSome_iff_exists.mp (h.atRest _ _ stored).placed
    have hout : e.SetsOut (.resume id input) _ n _ := .resume stored waits hn
    exact ⟨_, n, Reached.begin.record .user input, hn, hout⟩
  | @complete id result s stored waits =>
    obtain ⟨n, hn⟩ := Option.isSome_iff_exists.mp (h.atRest _ _ stored).placed
    exact ⟨_, n, Reached.begin, hn, .complete stored waits hn⟩

/-- A call sets out from one node only. -/
lemma SetsOut.unique (h : e.SetsOut c stimulus n look) (h' : e.SetsOut c stimulus' n' look') :
    stimulus' = stimulus ∧ n' = n ∧ look' = look := by
  cases h with
  | start =>
    cases h'
    exact ⟨rfl, rfl, rfl⟩
  | startNodes valid =>
    cases h' with
    | startNodes valid' =>
      obtain rfl := Except.ok.inj (valid.symm.trans valid')
      exact ⟨rfl, rfl, rfl⟩
  | resume stored waits place =>
    cases h' with
    | resume stored' waits' place' =>
      obtain rfl := Option.some.inj (stored.symm.trans stored')
      obtain rfl := Option.some.inj (place.symm.trans place')
      exact ⟨rfl, rfl, rfl⟩
  | complete stored waits place =>
    cases h' with
    | complete stored' waits' place' =>
      obtain rfl := Option.some.inj (stored.symm.trans stored')
      obtain rfl := Option.some.inj (place.symm.trans place')
      exact ⟨rfl, rfl, rfl⟩

/-- A call sets out from a node of its flow. -/
lemma SetsOut.node? (h : e.SetsOut c stimulus n look) : look.flow.node? n.id = some n := by
  cases h with
  | start | startNodes => exact Flow.node?_of_mem (Flow.start_mem _)
  | resume stored waits place | complete stored waits place =>
    obtain ⟨id, _, hid⟩ := Option.bind_eq_some_iff.mp place
    exact Flow.node?_of_mem (Flow.mem_of_node? hid)

end Engine

end Dialogue
