import Dialogue.Proofs.Engine.Alike
import Dialogue.Proofs.Engine.Calls

/-!
# Flows that are drawn otherwise

An editor may give a flow another name, list its nodes and edges in another order, move the nodes on
the canvas, number the edges anew and spell their handles in another way. As long as the edges that
leave one node keep their order, their targets and their labels, no conversation can tell.
-/

namespace Dialogue

/-- The calls are the same, but that one may start a session on the first flow and the other on the
second. -/
inductive Call.OnEither (f g : Flow) : Call → Call → Prop where
  | start (id : String) : OnEither f g (.start id f) (.start id g)
  | startNodes (id : String) :
      OnEither f g (.startNodes id f.nodes f.edges) (.startNodes id g.nodes g.edges)
  | same (c : Call) : OnEither f g c c

lemma Call.OnEither.alike {f g : Flow} {c c' : Call} (h : OnEither f g c c') (hflow : f.Alike g) :
    c.Alike c' := by
  cases h with
  | start id => exact .start hflow
  | startNodes id =>
    -- Under the default name the flows are still alike.
    exact .startNodes (Flow.ofGraph_of_valid _ f.valid) (Flow.ofGraph_of_valid _ g.valid)
      ⟨hflow.kind?, hflow.ways⟩
  | same c => exact .same c

namespace Engine

/-- Two flows have the same nodes in any order, up to their places on the canvas, and from each node
edges to the same targets with the same labels in the same order. Then calls that start sessions on
the one get the responses that they get on the other, and the sessions that are kept agree in
everything but their flows. -/
theorem takeAll_redrawn {f g : Flow}
    (hnodes : (f.nodes.map fun n => (n.id, n.kind)).Perm (g.nodes.map fun n => (n.id, n.kind)))
    (hways : ∀ n ∈ f.nodes, f.ways n.id = g.ways n.id) (e : Engine) {calls calls' : List Call}
    (hcalls : calls.Forall₂ (Call.OnEither f g) calls') :
    (e.takeAll calls).result.Forall₂ Response.Alike (e.takeAll calls').result ∧
      ∀ id, ((e.takeAll calls).engine.store.get? id).Rel Session.Alike
        ((e.takeAll calls').engine.store.get? id) := by
  have hflow : f.Alike g := Flow.alike_of_perm hnodes hways
  have halike := (Alike.refl e).takeAll (hcalls.imp fun _ _ hc => hc.alike hflow)
  exact ⟨halike.result, halike.engine.stored⟩

end Engine

/-! ### A sample -/

/-- `Flow.sample`, drawn otherwise. -/
def Flow.redrawn : Flow where
  name := "redrawn"
  nodes := [
    ⟨"end", .finish, some ⟨8, 0⟩⟩,
    ⟨"call", .api { method := "GET", url := "/names/\x7bname\x7d" }, some ⟨7, 0⟩⟩,
    ⟨"pause", .delay 2, some ⟨6, 0⟩⟩,
    ⟨"greet", .message ⟨"Hello \x7bname\x7d", none, none⟩, some ⟨5, 1⟩⟩,
    ⟨"tell", .message ⟨"Once more, \x7bname\x7d", none, none⟩, some ⟨4, 2⟩⟩,
    ⟨"back", .jump "check", some ⟨3, 2⟩⟩,
    ⟨"check", .condition "again", some ⟨2, 0⟩⟩,
    ⟨"ask", .input (some "name"), some ⟨1, 0⟩⟩,
    ⟨"start", .start, some ⟨0, 0⟩⟩]
  edges := [
    ⟨"i", "call", "end", none⟩,
    ⟨"ii", "check", "tell", some " TRUE"⟩,
    ⟨"iii", "start", "ask", some "right"⟩,
    ⟨"iv", "pause", "call", none⟩,
    ⟨"v", "check", "greet", some "False "⟩,
    ⟨"vi", "greet", "pause", some ""⟩,
    ⟨"vii", "tell", "back", none⟩,
    ⟨"viii", "ask", "check", none⟩]
  valid := by decide

namespace Engine

/-- A conversation on `Flow.sample`, from raw nodes and edges, goes on `Flow.redrawn` as well. -/
theorem takeAll_redrawn_sample :
    let turns : List Call := [.resume "a" "Ada", .complete "a" .delayElapsed]
    let calls : List Call := .startNodes "a" Flow.sample.nodes Flow.sample.edges :: turns
    let calls' : List Call := .startNodes "a" Flow.redrawn.nodes Flow.redrawn.edges :: turns
    (Flow.sample.nodes.map fun n => (n.id, n.kind)).Perm
        (Flow.redrawn.nodes.map fun n => (n.id, n.kind)) ∧
      (∀ n ∈ Flow.sample.nodes, Flow.sample.ways n.id = Flow.redrawn.ways n.id) ∧
      calls.Forall₂ (Call.OnEither .sample .redrawn) calls' ∧
      ((⟨∅, {}⟩ : Engine).takeAll calls).result.Forall₂ Response.Alike
        ((⟨∅, {}⟩ : Engine).takeAll calls').result ∧
      ((⟨∅, {}⟩ : Engine).takeAll calls').result.getLast? =
        some (.turn ⟨"a", .awaitingExternal, [], some (.http ⟨"GET", "/names/Ada", none⟩)⟩) := by
  intro turns calls calls'
  have hnodes : (Flow.sample.nodes.map fun n => (n.id, n.kind)).Perm
      (Flow.redrawn.nodes.map fun n => (n.id, n.kind)) := by
    decide +kernel
  have hways : ∀ n ∈ Flow.sample.nodes, Flow.sample.ways n.id = Flow.redrawn.ways n.id := by
    decide +kernel
  have hcalls : calls.Forall₂ (Call.OnEither .sample .redrawn) calls' :=
    .cons (.startNodes "a") (List.forall₂_same.mpr fun c _ => .same c)
  have hlast : ((⟨∅, {}⟩ : Engine).takeAll calls').result.getLast? =
      some (.turn ⟨"a", .awaitingExternal, [], some (.http ⟨"GET", "/names/Ada", none⟩)⟩) := by
    decide +kernel
  exact ⟨hnodes, hways, hcalls, (takeAll_redrawn hnodes hways _ hcalls).1, hlast⟩

end Engine

end Dialogue
