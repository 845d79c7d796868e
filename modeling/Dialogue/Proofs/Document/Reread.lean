import Dialogue.Document.Export
import Dialogue.Document.Import
import Mathlib.Tactic.Common

/-!
# Nodes exported and imported

Import gives the texts of an exported node back, but for those that it normalises: an optional text
that is blank is dropped, the method of a request is trimmed and written in capitals, and a jump to a
blank identifier is refused. `NodeKind.reread` says what is left of a kind.
-/

namespace Dialogue

open Json (Field withDefault optional)

/-! ### Fields of exported data -/

/-- A field with one name has the text that the table has under this name. -/
lemma Json.Field.part?_texts {f : Field} {t : Table String}
    (h : ∀ key ∈ f.aliases, t.get? key = none) :
    f.part? (t.entries.map fun e => (e.1, .string e.2)) =
      some ((t.get? f.name).map Json.string) := by
  have hmatches : ∀ e ∈ t.entries, f.matches e.1 = decide (e.1 = f.name) := by
    intro e he
    have hstored : t.get? e.1 = some e.2 := (t.get?_eq_some_iff_mem e.1 e.2).mpr he
    have halias : e.1 ∉ f.aliases := by
      intro hmem
      rw [h _ hmem] at hstored
      cases hstored
    simp [Field.matches, halias]
  have hgiven : (t.entries.map fun e => (e.1, Json.string e.2)).filter (fun p => f.matches p.1) =
      ((t.get? f.name).map fun s => (f.name, Json.string s)).toList := by
    rw [List.filter_map]
    have hfilter : t.entries.filter ((fun p : String × Json => f.matches p.1) ∘
        fun e => (e.1, Json.string e.2)) = t.entries.filter (·.1 = f.name) :=
      List.filter_congr hmatches
    rw [hfilter, t.filter_entries]
    cases t.get? f.name <;> rfl
  simp only [Field.part?, hgiven]
  cases t.get? f.name <;> rfl

/-- Read as a record, a table of texts has the texts under the names of the fields. -/
lemma Json.parts?_ofTexts {fields : List Field} {t : Table String}
    (h : ∀ f ∈ fields, ∀ key ∈ f.aliases, t.get? key = none) :
    (Value.ofTexts t).tree.parts? fields =
      some (fields.map fun f => (t.get? f.name).map Json.string) := by
  show objectParts? _ fields = _
  induction fields with
  | nil => rfl
  | cons f fields ih =>
    simp only [objectParts?, Field.part?_texts (h f List.mem_cons_self),
      ih fun f' hf' => h f' (List.mem_cons_of_mem f hf')]
    rfl

lemma Table.get?_ofList_append (pairs : List (String × String)) (key : String)
    (text : Option String) (k : String) :
    (ofList (pairs ++ textEntry key text)).get? k =
      if k = key then text.or ((ofList pairs).get? k) else (ofList pairs).get? k := by
  simp only [ofList, List.foldl_append]
  cases text with
  | none => simp [textEntry]
  | some s => simp [textEntry, get?_insert]

lemma Table.get?_ofList_singleton (key text k : String) :
    (ofList [(key, text)]).get? k = if k = key then some text else none := by
  simp [ofList, get?_insert, get?_empty]

lemma Json.optional_string? (text : Option String) :
    optional Json.string? (text.map Json.string) = some text := by
  cases text <;> rfl

lemma Json.optional_string (s : String) :
    optional Json.string? (some (.string s)) = some (some s) := rfl

lemma Json.optional_some (text : Option String) :
    optional some (text.map Json.string) = some (text.map Json.string) := by
  cases text <;> rfl

/-! ### Data of exported nodes -/

/-- The kind that import makes of an exported kind, none where it refuses it. -/
def NodeKind.reread : NodeKind → Option NodeKind
  | message m =>
    some (.message { m with image := Text.nonBlank m.image, link := Text.nonBlank m.link })
  | input saveAs => some (.input (Text.nonBlank saveAs))
  | api call =>
    some (.api {
      method := EditorNode.method (some call.method)
      url := call.url
      body := Text.nonBlank call.body
      saveAs := Text.nonBlank call.saveAs
      responseField := Text.nonBlank call.responseField })
  | jump target => (Text.nonBlank (some target)).map .jump
  | kind => some kind

namespace EditorNode

lemma message?_data (m : Message) :
    message? (NodeKind.message m).data.tree =
      some { m with image := Text.nonBlank m.image, link := Text.nonBlank m.link } := by
  simp only [NodeKind.data]
  rw [← List.singleton_append]
  generalize ht : Table.ofList _ = t
  have hget : t.get? "message" = some m.text ∧ t.get? "imageUrl" = m.image ∧
      t.get? "linkUrl" = m.link ∧ t.get? "text" = none := by
    simp only [← ht, Table.get?_ofList_append, Table.get?_ofList_singleton, String.reduceEq,
      if_true, if_false, Option.or_none, and_self]
  simp only [message?]
  rw [Json.parts?_ofTexts (by simp [hget])]
  simp only [List.map_cons, List.map_nil, hget, Option.map_some, Json.optional_string?]
  rfl

lemma saveAs?_data (saveAs : Option String) :
    saveAs? (NodeKind.input saveAs).data.tree = some (Text.nonBlank saveAs) := by
  simp only [NodeKind.data]
  rw [← List.nil_append (textEntry "variable" saveAs)]
  generalize ht : Table.ofList _ = t
  have hget : t.get? "variable" = saveAs := by
    rw [← ht, Table.get?_ofList_append, if_pos rfl]
    exact Option.or_none
  simp only [saveAs?]
  rw [Json.parts?_ofTexts (by simp)]
  simp only [List.map_cons, List.map_nil, hget, Json.optional_string?]
  rfl

lemma predicate?_data (predicate : String) :
    predicate? (NodeKind.condition predicate).data.tree = some predicate := by
  simp only [NodeKind.data]
  generalize ht : Table.ofList _ = t
  have hget : t.get? "condition" = some predicate ∧ t.get? "predicate" = none := by
    simp only [← ht, Table.get?_ofList_singleton, String.reduceEq, if_true, if_false, and_self]
  simp only [predicate?]
  rw [Json.parts?_ofTexts (by simp [hget])]
  simp only [List.map_cons, List.map_nil, hget, Option.map_some, withDefault, Json.string?]

lemma target?_data (target : String) :
    target? (NodeKind.jump target).data.tree = some (Text.nonBlank (some target)) := by
  simp only [NodeKind.data]
  generalize ht : Table.ofList _ = t
  have hget : t.get? "targetNodeId" = some target ∧ t.get? "target" = none := by
    simp only [← ht, Table.get?_ofList_singleton, String.reduceEq, if_true, if_false, and_self]
  simp only [target?]
  rw [Json.parts?_ofTexts (by simp [hget])]
  simp only [List.map_cons, List.map_nil, hget, Option.map_some, Json.optional_string]

lemma secondsTree?_data {seconds : Float} (h : Graph.isDuration seconds) :
    secondsTree? (NodeKind.delay seconds).data.tree = some (some (.decimal seconds)) := by
  have hfinite : Decimal.isFinite seconds := (Bool.and_eq_true_iff.mp h).1
  have hdata : (NodeKind.delay seconds).data.tree = .object [("seconds", .decimal seconds)] := by
    show Json.object [("seconds", .ofFloat seconds)] = _
    rw [Json.ofFloat, if_pos hfinite]
  rw [hdata]
  rfl

lemma seconds?_decimal {seconds : Float} (h : Graph.isDuration seconds) :
    seconds? (some (.decimal seconds)) = some seconds := by
  simp only [seconds?, Json.number?, Option.filter_some, h, if_true]

lemma body?_string (text : Option String) :
    (text.map Json.string).bind body? = Text.nonBlank text := by
  cases text with
  | none => rfl
  | some s => simp only [Option.map_some, Option.bind_some, body?]

lemma apiCall?_data (call : ApiCall) :
    apiCall? (NodeKind.api call).data.tree = some {
      method := EditorNode.method (some call.method)
      url := call.url
      body := Text.nonBlank call.body
      saveAs := Text.nonBlank call.saveAs
      responseField := Text.nonBlank call.responseField } := by
  have hpairs : [("method", call.method), ("url", call.url)] =
      [("method", call.method)] ++ textEntry "url" (some call.url) := rfl
  simp only [NodeKind.data, hpairs]
  generalize ht : Table.ofList _ = t
  have hget : t.get? "method" = some call.method ∧ t.get? "url" = some call.url ∧
      t.get? "body" = call.body ∧ t.get? "variable" = call.saveAs ∧
      t.get? "responseField" = call.responseField := by
    simp only [← ht, Table.get?_ofList_append, Table.get?_ofList_singleton, String.reduceEq,
      if_true, if_false, Option.or_none, Option.some_or, and_self]
  simp only [apiCall?]
  rw [Json.parts?_ofTexts (by simp [apiFields])]
  simp only [apiFields, List.map_cons, List.map_nil, hget, Option.map_some, Json.optional_string?,
    Json.optional_string, Json.optional_some, withDefault, Json.string?, bind, Option.bind_some,
    body?_string, pure]

end EditorNode

/-! ### Exported nodes -/

/-- The names of kinds are not changed by what import does to them. -/
lemma NodeKind.asciiLowercase_trim_name (kind : NodeKind) :
    Text.asciiLowercase (Text.trim kind.name) = kind.name := by
  have hnames : ∀ name ∈ ["start", "message", "input", "condition", "delay", "api", "jump", "end"],
      Text.asciiLowercase (Text.trim name) = name := by
    decide +kernel
  apply hnames
  cases kind <;> simp [NodeKind.name]

namespace Node

variable {n : Node}

lemma fieldData_toEditor (n : Node) : n.toEditor.fieldData = n.kind.data.tree := by
  obtain ⟨id, kind, position⟩ := n
  cases kind <;> rfl

/-- The node that import makes of an exported node, none where it refuses it. -/
def reread (n : Node) : Option Node := n.kind.reread.map fun kind => { n with kind }

/-- An exported node whose delay is a duration, if it has one, is imported as it is reread. -/
lemma toNode_toEditor (h : ∀ seconds, n.kind = .delay seconds → Graph.isDuration seconds) :
    n.toEditor.toNode = match n.reread with
      | some m => .ok m
      | none => .error (.jumpWithoutTarget n.id) := by
  obtain ⟨id, kind, position⟩ := n
  simp only [EditorNode.toNode, EditorNode.kind, fieldData_toEditor]
  simp only [toEditor, NodeKind.asciiLowercase_trim_name]
  cases kind with
  | start =>
    simp only [NodeKind.name]
    rfl
  | message m =>
    simp only [NodeKind.name, EditorNode.message?_data]
    rfl
  | input saveAs =>
    simp only [NodeKind.name, EditorNode.saveAs?_data]
    rfl
  | condition predicate =>
    simp only [NodeKind.name, EditorNode.predicate?_data]
    rfl
  | delay seconds =>
    have hduration := h seconds rfl
    simp only [NodeKind.name, EditorNode.secondsTree?_data hduration, Option.elim_some, bind,
      Except.bind, EditorNode.seconds?_decimal hduration]
    rfl
  | api call =>
    simp only [NodeKind.name, EditorNode.apiCall?_data, Option.elim_some, Except.map, reread,
      NodeKind.reread, Option.map_some]
  | jump target =>
    simp only [NodeKind.name, EditorNode.target?_data, reread, NodeKind.reread]
    cases Text.nonBlank (some target) <;> rfl
  | finish =>
    simp only [NodeKind.name]
    rfl

end Node

end Dialogue
