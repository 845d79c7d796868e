import Dialogue.Proofs.Document.RoundTrip
import Dialogue.Proofs.Json.Shown

/-!
# Flows that were imported

What import has normalised it leaves as it is when it meets it again: a method in capitals, an
optional text that is not blank, an edge with an identifier. So an imported flow is the import of its
own export.
-/

namespace Dialogue

/-! ### Data of nodes -/

namespace EditorNode

variable {data : Json}

/-- The method of an imported request is in capitals, without blanks around it, and not empty. -/
lemma method_normal (written : Option String) :
    Text.trim (method written) = method written ∧
      Text.asciiUppercase (method written) = method written ∧ method written ≠ "" := by
  have hget : Text.trim "GET" = "GET" ∧ Text.asciiUppercase "GET" = "GET" ∧ "GET" ≠ "" := by
    decide +kernel
  cases written with
  | none => exact hget
  | some s =>
    simp only [method, Option.map_some]
    split
    · exact hget
    · next hne =>
      refine ⟨?_, Text.asciiUppercase_asciiUppercase _, hne⟩
      rw [Text.trim_asciiUppercase, Text.trim_trim]

lemma method_method (written : Option String) :
    method (some (method written)) = method written := by
  obtain ⟨htrim, hupper, hne⟩ := method_normal written
  generalize method written = m at htrim hupper hne
  simp only [method, Option.map_some, htrim, hupper, if_neg hne]

/-- The body of an imported request is not blank. -/
lemma nonBlank_body? (j : Json) : Text.nonBlank (body? j) = body? j := by
  cases j with
  | null => rfl
  | string s => exact Text.nonBlank_nonBlank (some s)
  | _ =>
    simp only [body?, Text.nonBlank, Option.filter_some, ne_eq, Json.trim_compact_ne,
      not_false_eq_true, decide_true, if_true]

lemma reread_message {m : Message} (h : message? data = some m) :
    (NodeKind.message m).reread = some (.message m) := by
  simp only [message?] at h
  split at h
  · obtain ⟨text, _, h⟩ := Option.bind_eq_some_iff.mp h
    obtain ⟨image, _, h⟩ := Option.bind_eq_some_iff.mp h
    obtain ⟨link, _, h⟩ := Option.bind_eq_some_iff.mp h
    cases h
    simp only [NodeKind.reread, Text.nonBlank_nonBlank]
  · cases h

lemma reread_input {saveAs : Option String} (h : saveAs? data = some saveAs) :
    (NodeKind.input saveAs).reread = some (.input saveAs) := by
  simp only [saveAs?] at h
  split at h
  · obtain ⟨text, _, rfl⟩ := Option.map_eq_some_iff.mp h
    simp only [NodeKind.reread, Text.nonBlank_nonBlank]
  · cases h

lemma reread_api {call : ApiCall} (h : apiCall? data = some call) :
    (NodeKind.api call).reread = some (.api call) := by
  simp only [apiCall?] at h
  split at h
  · obtain ⟨written, _, h⟩ := Option.bind_eq_some_iff.mp h
    obtain ⟨url, _, h⟩ := Option.bind_eq_some_iff.mp h
    obtain ⟨body, _, h⟩ := Option.bind_eq_some_iff.mp h
    obtain ⟨saveAs, _, h⟩ := Option.bind_eq_some_iff.mp h
    obtain ⟨responseField, _, h⟩ := Option.bind_eq_some_iff.mp h
    cases h
    have hbody : Text.nonBlank (body.bind body?) = body.bind body? := by
      cases body with
      | none => rfl
      | some j => exact nonBlank_body? j
    simp only [NodeKind.reread, method_method, hbody, Text.nonBlank_nonBlank]
  · cases h

lemma reread_jump {target : String} (h : target? data = some (some target)) :
    (NodeKind.jump target).reread = some (.jump target) := by
  simp only [target?] at h
  split at h
  · obtain ⟨text, _, htarget⟩ := Option.map_eq_some_iff.mp h
    have hagain := Text.nonBlank_nonBlank text
    rw [htarget] at hagain
    simp only [NodeKind.reread, hagain, Option.map_some]
  · cases h

lemma elim_bind_eq_ok_iff {ε α β : Type} {e : ε} {x : Option α} {f : α → Except ε β} {b : β} :
    (x.elim (.error e) .ok >>= f) = .ok b ↔ ∃ a, x = some a ∧ f a = .ok b := by
  cases x <;> simp [bind, Except.bind]

lemma map_elim_eq_ok_iff {ε α β : Type} {e : ε} {x : Option α} {f : α → β} {b : β} :
    (x.elim (Except.error e) .ok).map f = .ok b ↔ ∃ a, x = some a ∧ f a = b := by
  cases x <;> simp [Except.map]

/-- The kind of an imported node is left as it is. -/
lemma reread_kind {n : EditorNode} {kind : NodeKind} (h : n.kind = .ok kind) :
    kind.reread = some kind := by
  simp only [EditorNode.kind] at h
  split at h
  case h_1 | h_2 =>
    cases h
    rfl
  case h_3 =>
    obtain ⟨m, hm, rfl⟩ := map_elim_eq_ok_iff.mp h
    exact reread_message hm
  case h_4 =>
    obtain ⟨saveAs, hsaveAs, rfl⟩ := map_elim_eq_ok_iff.mp h
    exact reread_input hsaveAs
  case h_5 =>
    obtain ⟨predicate, _, rfl⟩ := map_elim_eq_ok_iff.mp h
    rfl
  case h_6 =>
    obtain ⟨seconds, _, h⟩ := elim_bind_eq_ok_iff.mp h
    split at h
    · cases h
      rfl
    · cases h
  case h_7 =>
    obtain ⟨call, hcall, rfl⟩ := map_elim_eq_ok_iff.mp h
    exact reread_api hcall
  case h_8 =>
    obtain ⟨target, htarget, h⟩ := elim_bind_eq_ok_iff.mp h
    split at h
    · cases h
      exact reread_jump htarget
    · cases h
  case h_9 => cases h

end EditorNode

/-! ### Nodes -/

lemma EditorNode.eq_of_toNode {n : EditorNode} {m : Node} (h : n.toNode = .ok m) :
    m.id = n.id ∧ n.kind = .ok m.kind := by
  simp only [toNode] at h
  cases hkind : n.kind with
  | error r =>
    rw [hkind] at h
    cases h
  | ok kind =>
    rw [hkind] at h
    cases h
    exact ⟨rfl, rfl⟩

/-- Imported nodes have the identifiers of those that they come from, and are reread as they are. -/
lemma Node.reread_of_forall₂ {editor : List EditorNode} {nodes : List Node}
    (h : editor.Forall₂ (fun n m => n.toNode = .ok m) nodes) :
    nodes.map (·.id) = editor.map (·.id) ∧ Reread nodes nodes := by
  induction h with
  | nil => exact ⟨rfl, .nil⟩
  | @cons n m editor nodes hm _ ih =>
    obtain ⟨hid, hkind⟩ := EditorNode.eq_of_toNode hm
    obtain ⟨hids, hnodes⟩ := ih
    have hself : m.reread = some m := by
      rw [reread, EditorNode.reread_kind hkind]
      rfl
    refine ⟨?_, .cons hself hnodes⟩
    rw [List.map_cons, List.map_cons, hid, hids]

/-! ### Edges -/

/-- An imported edge has an identifier, and no empty handle. -/
lemma EditorEdge.reread_toEdge (place : Nat) (e : EditorEdge) :
    (e.toEdge place).reread place = e.toEdge place := by
  have hplace : "edge-" ++ toString place ≠ "" := by simp
  simp only [Edge.reread, Edge.toEditor, EditorEdge.toEdge, Option.filter_filter, Bool.and_self]
  by_cases hid : e.id = ""
  · simp only [if_pos hid, if_neg hplace]
  · simp only [if_neg hid]

/-! ### Documents -/

namespace Document

variable {d : Document} {f : Flow}

/-- Import normalises, once: it keeps the name of a document, and in their order the identifiers of
its nodes and the ends of its edges; and the export of what is imported is imported as it is. -/
theorem import_normalises (h : d.toFlow = .ok f) :
    f.name = d.name ∧
    f.nodes.map (·.id) = d.graph.nodes.map (·.id) ∧
    f.edges.map (fun e => (e.source, e.target)) =
      d.graph.edges.map (fun e => (e.source, e.target)) ∧
    f.toDocument.toFlow = .ok f := by
  obtain ⟨hname, hnodes, hedges⟩ := EditorGraph.toFlow_eq_ok_iff.mp h
  obtain ⟨hids, hreread⟩ := Node.reread_of_forall₂ hnodes
  refine ⟨hname, hids, ?_, Flow.toFlow_toDocument_eq_ok_iff.mpr ⟨rfl, hreread, ?_⟩⟩
  · rw [hedges]
    refine List.ext_getElem? fun i => ?_
    simp only [List.getElem?_map, List.getElem?_mapIdx, Option.map_map]
    rfl
  · rw [hedges, List.mapIdx_mapIdx]
    congr 1
    funext i e
    exact (EditorEdge.reread_toEdge i e).symm

/-- A document with texts that import normalises. -/
def untidy : Document where
  name := "names"
  graph := {
    nodes := [
      ⟨"start", " Start ", none, default⟩,
      ⟨"greet", "MESSAGE", none,
        ⟨.object [("imageUrl", .string " "), ("text", .string "Hello")], by decide⟩⟩,
      ⟨"pause", "delay", none, ⟨.object [("delay", .string " 2.5 ")], by decide⟩⟩,
      ⟨"call", "api", none,
        ⟨.object [("body", .object [("first", .array [.integer 1, .bool true])]),
          ("method", .string " post "), ("url", .string "/names"), ("variable", .string "")],
          by decide⟩⟩,
      ⟨"back", "jump", none, ⟨.object [("target", .string "greet")], by decide⟩⟩]
    edges := [
      ⟨"", "start", "greet", some ""⟩,
      ⟨"1", "greet", "pause", none⟩,
      ⟨"", "pause", "call", none⟩,
      ⟨"", "call", "back", some "success"⟩] }

/-- The import of `untidy`. -/
def tidied : Flow where
  name := "names"
  nodes := [
    ⟨"start", .start, none⟩,
    ⟨"greet", .message ⟨"Hello", none, none⟩, none⟩,
    ⟨"pause", .delay 2.5, none⟩,
    ⟨"call", .api {
      method := "POST", url := "/names", body := some "\x7b\"first\":[1,true]\x7d" }, none⟩,
    ⟨"back", .jump "greet", none⟩]
  edges := [
    ⟨"edge-0", "start", "greet", none⟩,
    ⟨"1", "greet", "pause", none⟩,
    ⟨"edge-2", "pause", "call", none⟩,
    ⟨"edge-3", "call", "back", some "success"⟩]
  valid := by decide

theorem import_normalises_untidy :
    untidy.toFlow = .ok tidied ∧ tidied.name = untidy.name ∧
      tidied.nodes.map (·.id) = ["start", "greet", "pause", "call", "back"] ∧
      tidied.toDocument.toFlow = .ok tidied := by
  have hok : untidy.toFlow = .ok tidied := by
    decide +kernel
  obtain ⟨hname, hids, _, hagain⟩ := import_normalises hok
  exact ⟨hok, hname, hids, hagain⟩

end Document

end Dialogue
