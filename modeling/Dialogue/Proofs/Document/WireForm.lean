import Dialogue.Document.Basic
import Dialogue.Proofs.Event.WireForm

/-!
# Wire forms

Documents and graphs are read as they were written, whatever data their nodes hold; and so is all
that passes between a conversation and the world: `wireForms_lossless`. Optional fields are left out
or null where they have no value.
-/

namespace Dialogue

open Json (IgnoresOrder Lossless lossless required_sortKeys optional_sortKeys withDefault_sortKeys
  ignoresOrder_string? ignoresOrder_number? ignoresOrder_value? ignoresOrder_items?)

/-! ### Parts of a graph -/

namespace Json

variable {α : Type} {read : Json → Option α} {write : α → Json}

lemma items?_map {xs : List α} (h : ∀ x ∈ xs, read (write x) = some x) :
    items? read (.array (xs.map write)) = some xs := by
  show (xs.map write).mapM read = some xs
  induction xs with
  | nil => rfl
  | cons x xs ih =>
    obtain ⟨hx, hxs⟩ := List.forall_mem_cons.mp h
    rw [List.map_cons, List.mapM_cons, hx, ih hxs]
    rfl

lemma plain_map {xs : List α} (h : ∀ x ∈ xs, (write x).Plain) : (array (xs.map write)).Plain :=
  .array (List.forall_mem_map.mpr h)

end Json

namespace Position

/-- Both numbers of the place are finite. -/
def IsFinite (p : Position) : Prop := Decimal.isFinite p.x ∧ Decimal.isFinite p.y

lemma plain_toJson (p : Position) : p.toJson.Plain :=
  Json.plain_object (by simp) ⟨Json.plain_ofFloat _, Json.plain_ofFloat _⟩

lemma ofJson?_toJson {p : Position} (h : p.IsFinite) : ofJson? p.toJson = some p := by
  rw [toJson, Json.ofFloat_of_isFinite h.1, Json.ofFloat_of_isFinite h.2]
  rfl

lemma ignoresOrder_ofJson? : IgnoresOrder ofJson? := by
  intro j hj
  refine hj.read_two _ fun x y hx hy => ?_
  rw [required_sortKeys ignoresOrder_number? hx, required_sortKeys ignoresOrder_number? hy]

end Position

namespace EditorNode

/-- The place of the node, if it has one, is finite. -/
def IsFinite (n : EditorNode) : Prop := ∀ p, n.position = some p → p.IsFinite

lemma plain_toJson (n : EditorNode) : n.toJson.Plain := by
  obtain ⟨id, type, position, data⟩ := n
  cases position with
  | none =>
    refine .object (by simp [Json.entry?]) ?_
    simp [Json.entry?, Json.Plain.string, data.plain]
  | some position =>
    refine .object (by simp [Json.entry?]) ?_
    simp [Json.entry?, Json.Plain.string, data.plain, position.plain_toJson]

lemma ofJson?_toJson {n : EditorNode} (h : n.IsFinite) : ofJson? n.toJson = some n := by
  obtain ⟨id, type, position, data⟩ := n
  cases position with
  | none =>
    show (Json.value? data.tree).bind _ = _
    rw [data.value?_tree]
    rfl
  | some position =>
    show ((Position.ofJson? position.toJson).map some).bind
      (fun place => (Json.value? data.tree).bind fun data =>
        some (EditorNode.mk id type place data)) = _
    rw [Position.ofJson?_toJson (h position rfl), data.value?_tree]
    rfl

lemma ignoresOrder_ofJson? : IgnoresOrder ofJson? := by
  intro j hj
  refine hj.read_four _ fun id type position data hid htype hposition hdata => ?_
  rw [required_sortKeys ignoresOrder_string? hid, required_sortKeys ignoresOrder_string? htype,
    optional_sortKeys Position.ignoresOrder_ofJson? hposition,
    withDefault_sortKeys default ignoresOrder_value? hdata]

end EditorNode

namespace EditorEdge

lemma plain_toJson (e : EditorEdge) : e.toJson.Plain := by
  obtain ⟨id, source, target, handle⟩ := e
  cases handle <;>
  · refine .object (by simp [Json.entry?]) ?_
    simp [Json.entry?, Json.Plain.string]

lemma ofJson?_toJson (e : EditorEdge) : ofJson? e.toJson = some e := by
  obtain ⟨id, source, target, handle⟩ := e
  cases handle <;> rfl

lemma ignoresOrder_ofJson? : IgnoresOrder ofJson? := by
  intro j hj
  refine hj.read_four _ fun id source target handle hid hsource htarget hhandle => ?_
  rw [withDefault_sortKeys "" ignoresOrder_string? hid,
    required_sortKeys ignoresOrder_string? hsource, required_sortKeys ignoresOrder_string? htarget,
    optional_sortKeys ignoresOrder_string? hhandle]

end EditorEdge

/-! ### Graphs and documents -/

namespace EditorGraph

/-- The places of the nodes are finite. -/
def IsFinite (g : EditorGraph) : Prop := ∀ n ∈ g.nodes, n.IsFinite

lemma plain_nodes (g : EditorGraph) : (Json.array (g.nodes.map EditorNode.toJson)).Plain :=
  Json.plain_map fun n _ => n.plain_toJson

lemma plain_edges (g : EditorGraph) : (Json.array (g.edges.map EditorEdge.toJson)).Plain :=
  Json.plain_map fun e _ => e.plain_toJson

lemma plain_toJson (g : EditorGraph) : g.toJson.Plain :=
  Json.plain_object (by simp [entries]) ⟨g.plain_nodes, g.plain_edges⟩

lemma ofParts?_entries {g : EditorGraph} (h : g.IsFinite) :
    ofParts? (some (.array (g.nodes.map EditorNode.toJson)))
      (some (.array (g.edges.map EditorEdge.toJson))) = some g := by
  rw [ofParts?, Json.required_some, Json.required_some,
    Json.items?_map fun n hn => EditorNode.ofJson?_toJson (h n hn),
    Json.items?_map fun e _ => e.ofJson?_toJson]
  rfl

lemma ofParts?_sortKeys {nodes edges : Option Json} (hnodes : Json.PlainPart nodes)
    (hedges : Json.PlainPart edges) :
    ofParts? (nodes.map Json.sortKeys) (edges.map Json.sortKeys) = ofParts? nodes edges := by
  rw [ofParts?, required_sortKeys (ignoresOrder_items? EditorNode.ignoresOrder_ofJson?) hnodes,
    required_sortKeys (ignoresOrder_items? EditorEdge.ignoresOrder_ofJson?) hedges]
  rfl

lemma ofJson?_toJson {g : EditorGraph} (h : g.IsFinite) : ofJson? g.toJson = some g :=
  ofParts?_entries h

lemma ignoresOrder_ofJson? : IgnoresOrder ofJson? := by
  intro j hj
  exact hj.read_two _ fun _ _ hnodes hedges => ofParts?_sortKeys hnodes hedges

end EditorGraph

namespace Document

/-- The places of the nodes are finite. -/
def IsFinite (d : Document) : Prop := d.graph.IsFinite

lemma plain_toJson (d : Document) : d.toJson.Plain :=
  Json.plain_object (by simp [EditorGraph.entries])
    ⟨.string _, d.graph.plain_nodes, d.graph.plain_edges⟩

lemma ofJson?_toJson {d : Document} (h : d.IsFinite) : ofJson? d.toJson = some d := by
  show (EditorGraph.ofParts? _ _).bind _ = _
  rw [EditorGraph.ofParts?_entries h]
  rfl

lemma ignoresOrder_ofJson? : IgnoresOrder ofJson? := by
  intro j hj
  refine hj.read_three _ fun name nodes edges hname hnodes hedges => ?_
  rw [withDefault_sortKeys _ ignoresOrder_string? hname,
    EditorGraph.ofParts?_sortKeys hnodes hedges]

end Document

/-! ### All wire forms -/

/-- What is sent and kept is read as it was, and told apart from all else, if its numbers are
finite. Of the optional fields, some are left out where they have no value, and some are null. -/
theorem wireForms_lossless :
    Lossless Event.IsFinite Event.toJson Event.ofJson? ∧
    Lossless (fun _ => True) Incoming.toJson Incoming.ofJson? ∧
    Lossless ExternalRequest.IsFinite ExternalRequest.toJson ExternalRequest.ofJson? ∧
    (∀ numbered, Lossless (fun _ => True) ExternalResult.toJson (ExternalResult.ofJson? numbered)) ∧
    Lossless Document.IsFinite Document.toJson Document.ofJson? ∧
    Lossless EditorGraph.IsFinite EditorGraph.toJson EditorGraph.ofJson? ∧
    (∀ node message, (Event.botMessage node message).toJson.field? "imageUrl" =
        message.image.map .string ∧
      (Event.botMessage node message).toJson.field? "linkUrl" = message.link.map .string) ∧
    (∀ n : EditorNode, n.toJson.field? "position" = n.position.map Position.toJson) ∧
    (∀ e : EditorEdge, e.toJson.field? "sourceHandle" = e.handle.map .string) ∧
    (∀ flow session, (Incoming.startFlow flow session).toJson.field? "sessionId" =
      some (session.elim .null .string)) ∧
    ∀ r : ApiRequest, r.toJson.field? "body" = some (r.body.elim .null .string) := by
  refine ⟨lossless (fun e _ => e.plain_toJson) (fun _ => Event.ofJson?_toJson)
      Event.ignoresOrder_ofJson?,
    lossless (fun e _ => e.plain_toJson) (fun e _ => e.ofJson?_toJson)
      Incoming.ignoresOrder_ofJson?,
    lossless (fun r _ => r.plain_toJson) (fun _ => ExternalRequest.ofJson?_toJson)
      ExternalRequest.ignoresOrder_ofJson?,
    fun numbered => lossless (fun r _ => r.plain_toJson) (fun r _ => r.ofJson?_toJson numbered)
      (ExternalResult.ignoresOrder_ofJson? numbered),
    lossless (fun d _ => d.plain_toJson) (fun _ => Document.ofJson?_toJson)
      Document.ignoresOrder_ofJson?,
    lossless (fun g _ => g.plain_toJson) (fun _ => EditorGraph.ofJson?_toJson)
      EditorGraph.ignoresOrder_ofJson?, ?_, ?_, ?_, ?_, ?_⟩
  · rintro node ⟨text, image, link⟩
    cases image <;> cases link <;> exact ⟨rfl, rfl⟩
  · rintro ⟨id, type, position, data⟩
    cases position <;> rfl
  · rintro ⟨id, source, target, handle⟩
    cases handle <;> rfl
  · exact fun flow session => rfl
  · exact fun r => rfl

/-- A node with a place and one without, a delay, and two ways to begin of which one names no
session. -/
theorem wireForms_lossless_sample :
    let said : Json.Value := ⟨.object [("imageUrl", .null), ("message", .string "\"é\"")], rfl⟩
    let d : Document := {
      name := "sample"
      graph := {
        nodes := [⟨"1", "message", some ⟨1.5, -2⟩, said⟩, ⟨"", "end", none, default⟩]
        edges := [⟨"e", "1", "", some "true"⟩, ⟨"", "", "1", none⟩] } }
    (d.IsFinite ∧ ∃ v, d.toJson.value? = some v ∧ Document.ofJson? v.tree = some d) ∧
    Event.ofJson? (Event.typingDelay 0.1).toJson = some (.typingDelay 0.1) ∧
    (Incoming.startFlow "f" none).toJson.value? ≠
      (Incoming.startFlow "f" (some "")).toJson.value? := by
  intro said d
  obtain ⟨hevent, hincoming, -, -, hdocument, -⟩ := wireForms_lossless
  have hfinite : d.IsFinite := by
    intro n hn p hp
    simp only [d, List.mem_cons, List.not_mem_nil, or_false] at hn
    rcases hn with rfl | rfl
    · cases hp
      exact ⟨by decide +kernel, by decide +kernel⟩
    · cases hp
  have hdelay : (Event.typingDelay 0.1).IsFinite := by
    show Decimal.isFinite 0.1 = true
    decide +kernel
  refine ⟨⟨hfinite, hdocument.value d hfinite⟩, hevent.text _ hdelay, fun heq => ?_⟩
  cases hincoming.distinct _ _ trivial trivial heq

end Dialogue
