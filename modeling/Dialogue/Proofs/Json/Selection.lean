import Dialogue.Http
import Dialogue.Proofs.Json.Plain

/-!
# Parts of values

A dotted path selects a part of a value: each segment names a field of an object or an item of an
array, inside what the segments before it have selected. So a path of two paths selects with the
second in what the first has selected, and segments without a name do not count.
-/

namespace Dialogue

/-! ### Segments of paths -/

lemma Text.splitChars_eq_splitOn (separator : Char) (cs : List Char) :
    splitChars separator cs = cs.splitOn separator := by
  induction cs with
  | nil => simp [splitChars]
  | cons c rest ih =>
    obtain ⟨part, parts, hparts⟩ :=
      List.exists_cons_of_ne_nil (List.splitOn_ne_nil separator rest)
    rw [splitChars, ih, List.splitOn_cons_eq_if_modifyHead, hparts]
    by_cases hc : c = separator <;> simp [hc]

lemma pathSegments_join (p q : String) :
    pathSegments (p ++ "." ++ q) = pathSegments p ++ pathSegments q := by
  simp [pathSegments, Text.split, Text.splitChars_eq_splitOn, List.splitOn_append_cons_self]

lemma pathSegments_empty : pathSegments "" = [] := by
  decide

lemma pathSegments_intercalate (parts : List String) :
    pathSegments (".".intercalate parts) = parts.flatMap pathSegments := by
  induction parts with
  | nil => simp [pathSegments_empty]
  | cons p parts ih =>
    by_cases hnil : parts = []
    · simp [hnil]
    · rw [String.intercalate_cons_of_ne_nil hnil, pathSegments_join, ih, List.flatMap_cons]

/-- Parts without a name can be left out of a path. -/
lemma pathSegments_intercalate_filter (parts : List String) :
    pathSegments (".".intercalate (parts.filter (· ≠ ""))) =
      pathSegments (".".intercalate parts) := by
  rw [pathSegments_intercalate, pathSegments_intercalate]
  induction parts with
  | nil => rfl
  | cons p parts ih => by_cases hp : p = "" <;> simp_all [pathSegments_empty]

lemma pathSegments_of_not_mem {segment : String} (hne : segment ≠ "")
    (hdot : '.' ∉ segment.toList) : pathSegments segment = [segment] := by
  simp [pathSegments, Text.split, Text.splitChars_eq_splitOn, List.splitOn_eq_singleton hdot, hne]

namespace Json

variable {j part : Json} {segment : String}

/-! ### What a segment names -/

/-- A segment of a path names a field of an object by its key and an item of an array by its
place. -/
inductive Names (segment : String) : Json → Json → Prop
  | field {fields : List (String × Json)} {part : Json} (mem : (segment, part) ∈ fields) :
    Names segment (.object fields) part
  | item {items : List Json} {place : Nat} {part : Json}
    (index : Decimal.natural? segment = some place) (item : items[place]? = some part) :
    Names segment (.array items) part

/-- In canonical form an object has one field under a key. -/
lemma child?_eq_some_iff (hj : j.isCanonical) : j.child? segment = some part ↔
    Names segment j part := by
  cases j with
  | object fields =>
    rw [isCanonical, Bool.and_eq_true, increasing_iff] at hj
    rw [child?, Table.lookup_eq_some_iff_mem hj.1]
    constructor
    · exact .field
    · rintro ⟨mem⟩
      exact mem
  | array items =>
    rw [child?, Option.bind_eq_some_iff]
    constructor
    · rintro ⟨place, index, item⟩
      exact .item index item
    · rintro (_ | ⟨index, item⟩)
      exact ⟨_, index, item⟩
  | _ =>
    constructor
    · rintro ⟨⟩
    · rintro ⟨⟩

/-- What is named in a canonical tree is canonical. -/
lemma Names.isCanonical (h : Names segment j part) (hj : j.isCanonical) : part.isCanonical := by
  cases h with
  | field mem =>
    rw [Json.isCanonical, Bool.and_eq_true, fieldsCanonical_iff] at hj
    exact hj.2 _ mem
  | item index item =>
    rw [Json.isCanonical, allCanonical_iff] at hj
    exact hj _ (List.mem_of_getElem? item)

/-! ### What a path selects -/

lemma descend?_append (first second : List String) (j : Json) :
    j.descend? (first ++ second) = (j.descend? first).bind (descend? second) := by
  induction first generalizing j with
  | nil => rfl
  | cons segment first ih =>
    simp only [List.cons_append, descend?, Option.bind_assoc]
    exact congrArg _ (funext ih)

lemma isCanonical_of_descend? {segments : List String} (hj : j.isCanonical)
    (h : j.descend? segments = some part) : part.isCanonical := by
  induction segments generalizing j with
  | nil =>
    cases h
    exact hj
  | cons segment segments ih =>
    obtain ⟨child, hchild, hpart⟩ := Option.bind_eq_some_iff.mp h
    have hnames := (child?_eq_some_iff hj).mp hchild
    exact ih (hnames.isCanonical hj) hpart

namespace Value

variable {v part : Value} {p q path : String}

/-- The part of a value that a dotted path selects. -/
def select? (v : Value) (path : String) : Option Value :=
  (v.tree.descend? (pathSegments path)).pmap mk fun _ => isCanonical_of_descend? v.canonical

lemma select?_eq_some_iff :
    v.select? path = some part ↔ v.tree.descend? (pathSegments path) = some part.tree := by
  rw [select?, Option.pmap_eq_some_iff]
  constructor
  · rintro ⟨tree, canonical, htree, rfl⟩
    exact htree
  · intro htree
    exact ⟨part.tree, part.canonical, htree, rfl⟩

lemma map_tree_select? (v : Value) (path : String) :
    (v.select? path).map tree = v.tree.descend? (pathSegments path) := by
  rw [select?, Option.map_pmap, Option.pmap_eq_map, Option.map_id']

/-- Paths of the same segments select the same. -/
lemma select?_congr (h : pathSegments p = pathSegments q) : v.select? p = v.select? q := by
  apply Option.ext
  intro part
  rw [select?_eq_some_iff, select?_eq_some_iff, h]

/-- A path of two paths selects with the second in what the first selects. -/
lemma select?_join (v : Value) (p q : String) :
    v.select? (p ++ "." ++ q) = (v.select? p).bind fun whole => whole.select? q := by
  apply Option.ext
  intro part
  rw [select?_eq_some_iff, pathSegments_join, descend?_append, Option.bind_eq_some_iff,
    Option.bind_eq_some_iff]
  constructor
  · rintro ⟨tree, htree, hpart⟩
    refine ⟨⟨tree, isCanonical_of_descend? v.canonical htree⟩, ?_, ?_⟩
    · exact select?_eq_some_iff.mpr htree
    · exact select?_eq_some_iff.mpr hpart
  · rintro ⟨whole, hwhole, hpart⟩
    exact ⟨whole.tree, select?_eq_some_iff.mp hwhole, select?_eq_some_iff.mp hpart⟩

lemma select?_empty (v : Value) : v.select? "" = some v := by
  rw [select?_eq_some_iff, pathSegments_empty]
  rfl

lemma select?_eq_some_iff_names (hne : segment ≠ "") (hdot : '.' ∉ segment.toList) :
    v.select? segment = some part ↔ Names segment v.tree part.tree := by
  have hone : v.tree.descend? [segment] = v.tree.child? segment := Option.bind_fun_some _
  rw [select?_eq_some_iff, pathSegments_of_not_mem hne hdot, hone, child?_eq_some_iff v.canonical]

end Value

/-- A string is shown as it is, anything else by its text. -/
lemma plainText_eq (j : Json) : j.plainText = j.string?.getD j.compact := by
  cases j <;> rfl

end Json

namespace ApiResponse

variable {r : ApiResponse} {body : Json.Value}

lemma field?_of_not_json (h : Json.valueOf? r.body = none) (path : String) :
    r.field? path = none := by
  rw [field?, h]
  rfl

lemma field?_eq (h : Json.valueOf? r.body = some body) (path : String) :
    r.field? path = (body.select? path).map fun part => part.tree.plainText := by
  have hparts := body.map_tree_select? path
  simp only [field?, h, ← hparts, Option.bind_eq_bind, Option.bind_some, Option.bind_map]
  cases body.select? path <;> rfl

/-- In a body that is JSON a path selects a value, of which a string is given as it is and anything
else as its text. A path of two paths selects with the second in what the first selects, and nothing
if one of the two selects nothing; parts of a path without a name, wherever dots stand at its ends
or next to each other, do not count; the empty path selects the whole body, and a segment what it
names. In a body that is no JSON no path selects anything. -/
theorem field?_composes (r : ApiResponse) :
    (∀ body, Json.valueOf? r.body = some body →
      (∀ path, r.field? path =
        (body.select? path).map fun part => part.tree.string?.getD part.tree.compact) ∧
      (∀ p q, body.select? (p ++ "." ++ q) = (body.select? p).bind fun whole => whole.select? q) ∧
      (∀ p q, body.select? (p ++ "." ++ q) = none ↔
        body.select? p = none ∨ ∃ whole, body.select? p = some whole ∧ whole.select? q = none) ∧
      (∀ parts : List String, body.select? (".".intercalate parts) =
        body.select? (".".intercalate (parts.filter (· ≠ "")))) ∧
      body.select? "" = some body ∧
      ∀ segment, segment ≠ "" → '.' ∉ segment.toList → ∀ part,
        body.select? segment = some part ↔ Json.Names segment body.tree part.tree) ∧
    (Json.valueOf? r.body = none → ∀ path, r.field? path = none) := by
  constructor
  · intro body hbody
    refine ⟨?_, body.select?_join, ?_, ?_, body.select?_empty, ?_⟩
    · intro path
      simp only [field?_eq hbody, Json.plainText_eq]
    · intro p q
      rw [body.select?_join, Option.bind_eq_none_iff]
      cases body.select? p <;> simp
    · intro parts
      exact Json.Value.select?_congr (pathSegments_intercalate_filter parts).symm
    · intro segment hne hdot part
      exact Json.Value.select?_eq_some_iff_names hne hdot
  · intro h path
    exact field?_of_not_json h path

/-- A body with an item of an array inside an object, and one that is no JSON. -/
theorem field?_composes_nested :
    let r : ApiResponse := ⟨200, "\x7b\"data\": \x7b\"names\": [\"Ada\", 36]\x7d\x7d"⟩
    let plain : ApiResponse := ⟨200, "plain text"⟩
    (∃ body, Json.valueOf? r.body = some body ∧
      body.select? ("data.names" ++ "." ++ "+0") =
        (body.select? "data.names").bind (fun whole => whole.select? "+0") ∧
      (body.select? "data..names.+0.").map (fun part => part.tree.string?.getD part.tree.compact) =
        some "Ada" ∧
      ("data" ≠ "" ∧ '.' ∉ "data".toList) ∧
      ∃ part, body.select? "data" = some part ∧ Json.Names "data" body.tree part.tree) ∧
    Json.valueOf? plain.body = none ∧ plain.field? "data" = none := by
  intro r plain
  obtain ⟨body, hbody⟩ : ∃ body, Json.valueOf? r.body = some body :=
    Option.isSome_iff_exists.mp (by decide +kernel)
  have hplain : Json.valueOf? plain.body = none := by
    rw [← Option.isNone_iff_eq_none]
    decide +kernel
  have hdot : '.' ∉ "data".toList := by decide
  have hname : r.field? "data..names.+0." = some "Ada" := by decide +kernel
  have hdata : (r.field? "data").isSome := by decide +kernel
  obtain ⟨hselects, -⟩ := field?_composes r
  obtain ⟨htext, hjoin, -, -, -, hsegment⟩ := hselects body hbody
  obtain ⟨-, hnothing⟩ := field?_composes plain
  rw [htext] at hname hdata
  rw [Option.isSome_map] at hdata
  obtain ⟨part, hpart⟩ := Option.isSome_iff_exists.mp hdata
  have hnames := (hsegment "data" (by decide) hdot part).mp hpart
  exact ⟨⟨body, hbody, hjoin _ _, hname, ⟨by decide, hdot⟩, part, hpart, hnames⟩,
    hplain, hnothing hplain "data"⟩

end ApiResponse

end Dialogue
