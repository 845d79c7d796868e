import Dialogue.Json.Record
import Dialogue.Proofs.Json.Plain

/-!
# The order of fields

The value of a tree has the fields of every object by increasing name. None of the ways of reading a
record or a variant can tell this from the order in which the fields of a plain tree were written:
they have `IgnoresOrder`, which goes from the parts of a record to the whole.
-/

namespace Dialogue

namespace Json

variable {α : Type} {j : Json} {items : List Json} {fields : List (String × Json)}

/-! ### Readers -/

/-- A part of a record that is missing or plain. -/
def PlainPart (part : Option Json) : Prop := ∀ j, part = some j → j.Plain

/-- The reader finds the same in a plain tree when its names are sorted. -/
def IgnoresOrder (read : Json → Option α) : Prop := ∀ j, j.Plain → read j.sortKeys = read j

variable {read : Json → Option α} {part : Option Json}

lemma ignoresOrder_string? : IgnoresOrder string? := by
  intro j _
  cases j <;> rfl

lemma ignoresOrder_number? : IgnoresOrder number? := by
  intro j _
  cases j <;> rfl

lemma ignoresOrder_value? : IgnoresOrder value? := by
  intro j hj
  rw [hj.value?_eq]
  exact Value.value?_tree ⟨j.sortKeys, hj.isCanonical_sortKeys⟩

lemma ignoresOrder_noFields? : IgnoresOrder noFields? := by
  intro j _
  match j with
  | .array [] | .array (_ :: _) => rfl
  | .object _ | .null | .bool _ | .integer _ | .decimal _ | .string _ | .unreadable => rfl

lemma mapM_sortKeys (hread : IgnoresOrder read) (h : ∀ j ∈ items, j.Plain) :
    (items.map sortKeys).mapM read = items.mapM read := by
  induction items with
  | nil => rfl
  | cons j items ih =>
    obtain ⟨hj, hitems⟩ := List.forall_mem_cons.mp h
    rw [List.map_cons, List.mapM_cons, List.mapM_cons, hread j hj, ih hitems]

lemma ignoresOrder_items? (hread : IgnoresOrder read) : IgnoresOrder (items? read) := by
  intro j hj
  cases hj with
  | array plain =>
    rw [sortKeys, sortItems_eq]
    exact mapM_sortKeys hread plain
  | _ => rfl

lemma required_some (read : Json → Option α) (j : Json) : required read (some j) = read j := rfl

lemma required_sortKeys (hread : IgnoresOrder read) (h : PlainPart part) :
    required read (part.map sortKeys) = required read part := by
  cases part with
  | none => rfl
  | some j => exact hread j (h j rfl)

lemma withDefault_sortKeys (default : α) (hread : IgnoresOrder read) (h : PlainPart part) :
    withDefault default read (part.map sortKeys) = withDefault default read part := by
  cases part with
  | none => rfl
  | some j => exact hread j (h j rfl)

lemma optional_sortKeys (hread : IgnoresOrder read) (h : PlainPart part) :
    optional read (part.map sortKeys) = optional read part := by
  cases part with
  | none => rfl
  | some j =>
    have hj := hread j (h j rfl)
    cases j with
    | null => rfl
    | _ => exact congrArg (Option.map some) hj

/-! ### Parts of a record -/

lemma Field.part?_perm {f : Field} {given given' : List (String × Json)} (h : given.Perm given') :
    f.part? given = f.part? given' := by
  have hfilter := h.filter fun p => f.matches p.1
  simp only [part?]
  generalize given.filter _ = found at hfilter
  generalize given'.filter _ = found' at hfilter
  match found, found' with
  | [], _ => rw [List.nil_perm.mp hfilter]
  | [_], _ => rw [List.singleton_perm.mp hfilter]
  | _ :: _ :: _, [] | _ :: _ :: _, [_] => exact absurd hfilter.length_eq (by simp)
  | _ :: _ :: _, _ :: _ :: _ => rfl

lemma Field.part?_sortFields {f : Field} {given : List (String × Json)} :
    f.part? (sortFields given) = (f.part? given).map (Option.map sortKeys) := by
  rw [sortFields_eq, part?, part?, List.filter_map]
  simp only [Function.comp_def]
  generalize given.filter _ = found
  match found with
  | [] | [_] | _ :: _ :: _ => rfl

lemma objectParts?_eq {given given' : List (String × Json)} (h : given'.Perm (sortFields given))
    (fields : List Field) :
    objectParts? given' fields =
      (objectParts? given fields).map (List.map (Option.map sortKeys)) := by
  induction fields with
  | nil => rfl
  | cons f fields ih =>
    simp only [objectParts?, Field.part?_perm h, Field.part?_sortFields, ih]
    cases f.part? given <;> cases objectParts? given fields <;> rfl

lemma itemParts?_map (fields : List Field) (items : List Json) :
    itemParts? fields (items.map sortKeys) =
      (itemParts? fields items).map (List.map (Option.map sortKeys)) := by
  induction fields generalizing items with
  | nil => cases items <;> rfl
  | cons f fields ih =>
    cases items with
    | nil =>
      have hnil := ih []
      rw [List.map_nil] at hnil
      simp only [List.map_nil, itemParts?]
      split
      · conv_lhs => rw [hnil]
        cases itemParts? fields [] <;> rfl
      · rfl
    | cons j items =>
      simp only [List.map_cons, itemParts?, ih items]
      cases itemParts? fields items <;> rfl

/-- Sorting the names of a record sorts them in its parts. -/
lemma Plain.parts?_sortKeys (h : j.Plain) (fields : List Field) :
    j.sortKeys.parts? fields = (j.parts? fields).map (List.map (Option.map sortKeys)) := by
  cases h with
  | array _ =>
    rw [sortKeys, sortItems_eq]
    exact itemParts?_map fields _
  | object once _ =>
    obtain ⟨sorted, heq, hperm, -⟩ := sortKeys_object once
    rw [heq]
    exact objectParts?_eq hperm fields
  | _ => rfl

lemma plainPart_of_part? {f : Field} {given : List (String × Json)}
    (plain : ∀ p ∈ given, p.2.Plain) (h : f.part? given = some part) : PlainPart part := by
  rw [Field.part?] at h
  split at h
  · cases h
    exact fun j hj => nomatch hj
  · next p heq =>
    cases h
    rintro _ ⟨⟩
    exact plain p (List.mem_filter.mp (heq ▸ List.mem_singleton.mpr rfl)).1
  · cases h

lemma plainPart_of_itemParts? {fields : List Field} {parts : List (Option Json)}
    (plain : ∀ j ∈ items, j.Plain) (h : itemParts? fields items = some parts) :
    ∀ p ∈ parts, PlainPart p := by
  induction fields generalizing items parts with
  | nil =>
    cases items with
    | nil =>
      cases h
      exact fun p hp => nomatch hp
    | cons => cases h
  | cons f fields ih =>
    cases items with
    | nil =>
      rw [itemParts?] at h
      split at h
      · obtain ⟨rest, hrest, rfl⟩ := Option.map_eq_some_iff.mp h
        exact List.forall_mem_cons.mpr ⟨(fun j hj => nomatch hj), ih plain hrest⟩
      · cases h
    | cons j items =>
      obtain ⟨hj, hitems⟩ := List.forall_mem_cons.mp plain
      obtain ⟨rest, hrest, rfl⟩ := Option.map_eq_some_iff.mp h
      refine List.forall_mem_cons.mpr ⟨?_, ih hitems hrest⟩
      rintro _ ⟨⟩
      exact hj

lemma plainPart_of_objectParts? {given : List (String × Json)} {fields : List Field}
    {parts : List (Option Json)} (plain : ∀ p ∈ given, p.2.Plain)
    (h : objectParts? given fields = some parts) : ∀ p ∈ parts, PlainPart p := by
  induction fields generalizing parts with
  | nil =>
    cases h
    exact fun p hp => nomatch hp
  | cons f fields ih =>
    obtain ⟨part, hpart, h⟩ := Option.bind_eq_some_iff.mp h
    obtain ⟨rest, hrest, h⟩ := Option.bind_eq_some_iff.mp h
    cases h
    exact List.forall_mem_cons.mpr ⟨plainPart_of_part? plain hpart, ih hrest⟩

/-- The parts of a plain record are plain, and sorting its names sorts the names in them. -/
lemma Plain.parts?_cases (h : j.Plain) (fields : List Field) :
    j.parts? fields = none ∧ j.sortKeys.parts? fields = none ∨
      ∃ parts, j.parts? fields = some parts ∧
        j.sortKeys.parts? fields = some (parts.map (Option.map sortKeys)) ∧
        ∀ p ∈ parts, PlainPart p := by
  have hsorted := h.parts?_sortKeys fields
  cases hparts : j.parts? fields with
  | none =>
    rw [hparts] at hsorted
    exact .inl ⟨rfl, hsorted⟩
  | some parts =>
    rw [hparts] at hsorted
    refine .inr ⟨parts, rfl, hsorted, ?_⟩
    cases h with
    | array plain => exact plainPart_of_itemParts? plain hparts
    | object _ plain => exact plainPart_of_objectParts? plain hparts
    | _ => cases hparts

/-- A record of one part is read alike if its part is. -/
lemma Plain.read_one (h : j.Plain) (fields : List Field)
    {make : Option Json → Option α}
    (hmake : ∀ a, PlainPart a → make (a.map sortKeys) = make a) :
    (match j.sortKeys.parts? fields with
      | some [a] => make a
      | _ => none) =
      match j.parts? fields with
      | some [a] => make a
      | _ => none := by
  rcases h.parts?_cases fields with ⟨h, hs⟩ | ⟨parts, h, hs, hplain⟩
  · rw [h, hs]
  · rw [h, hs]
    match parts with
    | [a] =>
      simp only [List.forall_mem_cons] at hplain
      exact hmake a hplain.1
    | [] | _ :: _ :: _ => rfl

/-- A record of two parts is read alike if its parts are. -/
lemma Plain.read_two (h : j.Plain) (fields : List Field)
    {make : Option Json → Option Json → Option α}
    (hmake : ∀ a b, PlainPart a → PlainPart b →
      make (a.map sortKeys) (b.map sortKeys) = make a b) :
    (match j.sortKeys.parts? fields with
      | some [a, b] => make a b
      | _ => none) =
      match j.parts? fields with
      | some [a, b] => make a b
      | _ => none := by
  rcases h.parts?_cases fields with ⟨h, hs⟩ | ⟨parts, h, hs, hplain⟩
  · rw [h, hs]
  · rw [h, hs]
    match parts with
    | [a, b] =>
      simp only [List.forall_mem_cons] at hplain
      exact hmake a b hplain.1 hplain.2.1
    | [] | [_] | _ :: _ :: _ :: _ => rfl

/-- A record of three parts is read alike if its parts are. -/
lemma Plain.read_three (h : j.Plain) (fields : List Field)
    {make : Option Json → Option Json → Option Json → Option α}
    (hmake : ∀ a b c, PlainPart a → PlainPart b → PlainPart c →
      make (a.map sortKeys) (b.map sortKeys) (c.map sortKeys) = make a b c) :
    (match j.sortKeys.parts? fields with
      | some [a, b, c] => make a b c
      | _ => none) =
      match j.parts? fields with
      | some [a, b, c] => make a b c
      | _ => none := by
  rcases h.parts?_cases fields with ⟨h, hs⟩ | ⟨parts, h, hs, hplain⟩
  · rw [h, hs]
  · rw [h, hs]
    match parts with
    | [a, b, c] =>
      simp only [List.forall_mem_cons] at hplain
      exact hmake a b c hplain.1 hplain.2.1 hplain.2.2.1
    | [] | [_] | [_, _] | _ :: _ :: _ :: _ :: _ => rfl

/-- A record of four parts is read alike if its parts are. -/
lemma Plain.read_four (h : j.Plain) (fields : List Field)
    {make : Option Json → Option Json → Option Json → Option Json → Option α}
    (hmake : ∀ a b c d, PlainPart a → PlainPart b → PlainPart c → PlainPart d →
      make (a.map sortKeys) (b.map sortKeys) (c.map sortKeys) (d.map sortKeys) = make a b c d) :
    (match j.sortKeys.parts? fields with
      | some [a, b, c, d] => make a b c d
      | _ => none) =
      match j.parts? fields with
      | some [a, b, c, d] => make a b c d
      | _ => none := by
  rcases h.parts?_cases fields with ⟨h, hs⟩ | ⟨parts, h, hs, hplain⟩
  · rw [h, hs]
  · rw [h, hs]
    match parts with
    | [a, b, c, d] =>
      simp only [List.forall_mem_cons] at hplain
      exact hmake a b c d hplain.1 hplain.2.1 hplain.2.2.1 hplain.2.2.2.1
    | [] | [_] | [_, _] | [_, _, _] | _ :: _ :: _ :: _ :: _ :: _ => rfl

/-! ### Variants -/

lemma tagName?_sortKeys (names : List String) (numbered : Bool) (j : Json) :
    j.sortKeys.tagName? names numbered = j.tagName? names numbered := by
  cases j <;> rfl

/-- A field is left out before or after its object is sorted. -/
lemma sortKeys_filter (once : (fields.map Prod.fst).Nodup) (p : String → Bool)
    {sorted : List (String × Json)} (hperm : sorted.Perm (sortFields fields))
    (hsorted : sorted.Pairwise fun a b => a.1 < b.1) :
    (Json.object (fields.filter fun f => p f.1)).sortKeys =
      .object (sorted.filter fun f => p f.1) := by
  have honce : ((fields.filter fun f => p f.1).map Prod.fst).Nodup :=
    once.sublist (List.filter_sublist.map Prod.fst)
  obtain ⟨sorted', heq, hperm', hsorted'⟩ := sortKeys_object honce
  have hfilter : (sorted.filter fun f => p f.1).Perm sorted' := by
    refine (hperm.filter _).trans (.trans (.of_eq ?_) hperm'.symm)
    rw [sortFields_eq, sortFields_eq, List.filter_map]
    rfl
  rw [heq, Table.eq_entries_of_perm (t := ⟨sorted', hsorted'⟩) (hsorted.filter _) hfilter]

lemma mem_of_tagName? {names : List String} {numbered : Bool} {name : String}
    (h : j.tagName? names numbered = some name) : name ∈ names := by
  cases j with
  | string s =>
    rw [tagName?, Option.ite_none_right_eq_some] at h
    obtain ⟨hmem, ⟨⟩⟩ := h
    exact List.contains_iff_mem.mp hmem
  | integer i =>
    rw [tagName?, Option.ite_none_right_eq_some] at h
    exact List.mem_of_getElem? h.2
  | _ => cases h

lemma filter_tag_sorted (tag : String) {sorted : List (String × Json)}
    (hperm : sorted.Perm (sortFields fields)) :
    (sorted.filter (·.1 = tag)).Perm
      ((fields.filter (·.1 = tag)).map fun f => (f.1, f.2.sortKeys)) := by
  refine (hperm.filter _).trans (.of_eq ?_)
  rw [sortFields_eq, List.filter_map]
  rfl

/-- The record of a plain variant is plain, and sorting the names of the variant sorts those of the
record. -/
lemma Plain.variant?_cases (h : j.Plain) (tag : String) (names : List String) (numbered : Bool) :
    j.variant? tag names numbered = none ∧ j.sortKeys.variant? tag names numbered = none ∨
      ∃ name ∈ names, ∃ record, record.Plain ∧
        j.variant? tag names numbered = some (name, record) ∧
        j.sortKeys.variant? tag names numbered = some (name, record.sortKeys) := by
  have hsorted : j.sortKeys.Plain := plain_of_isCanonical _ h.isCanonical_sortKeys
  simp only [variant?, h.isReadable, hsorted.isReadable, Bool.not_true, Bool.false_eq_true,
    if_false]
  cases h with
  | @array items plain =>
    rw [sortKeys, sortItems_eq]
    cases items with
    | nil => exact .inl ⟨rfl, rfl⟩
    | cons head rest =>
      simp only [List.map_cons, tagName?_sortKeys]
      cases htag : head.tagName? names numbered with
      | none => exact .inl ⟨rfl, rfl⟩
      | some name =>
        refine .inr ⟨name, mem_of_tagName? htag, .array rest, .array ?_, rfl, ?_⟩
        · exact fun j hj => plain j (List.mem_cons_of_mem head hj)
        · rw [sortKeys, sortItems_eq]
          rfl
  | @object fields once plain =>
    obtain ⟨sorted, heq, hperm, hincreasing⟩ := sortKeys_object once
    rw [heq]
    have htags := filter_tag_sorted tag hperm
    simp only
    generalize fields.filter (·.1 = tag) = found at htags ⊢
    generalize sorted.filter (·.1 = tag) = found' at htags ⊢
    rcases found with _ | ⟨p, _ | ⟨q, others⟩⟩
    · rw [List.perm_nil.mp htags]
      exact .inl ⟨rfl, rfl⟩
    · rw [List.perm_singleton.mp htags]
      simp only [tagName?_sortKeys]
      cases htag : p.2.tagName? names numbered with
      | none => exact .inl ⟨rfl, rfl⟩
      | some name =>
        refine .inr ⟨name, mem_of_tagName? htag, _, .object ?_ ?_, rfl, ?_⟩
        · exact once.sublist (List.filter_sublist.map Prod.fst)
        · exact fun f hf => plain f (List.mem_filter.mp hf).1
        · rw [sortKeys_filter once (fun key => key ≠ tag) hperm hincreasing]
          rfl
    · rcases found' with _ | ⟨p', _ | ⟨q', others'⟩⟩
      · exact absurd htags.length_eq (by simp)
      · exact absurd htags.length_eq (by simp)
      · exact .inl ⟨rfl, rfl⟩
  | _ => exact .inl ⟨rfl, rfl⟩

/-- A variant that is written with its tag is told by it, and its other fields are its record. -/
lemma Plain.variant?_eq {tag name : String}
    (h : (Json.object ((tag, .string name) :: fields)).Plain) (names : List String)
    (numbered : Bool) (hname : name ∈ names) :
    (Json.object ((tag, .string name) :: fields)).variant? tag names numbered =
      some (name, .object fields) := by
  have hreadable := h.isReadable
  cases h with
  | object once _ =>
    rw [List.map_cons, List.nodup_cons] at once
    have hother : ∀ f ∈ fields, f.1 ≠ tag := by
      intro f hf heq
      exact once.1 (List.mem_map.mpr ⟨f, hf, heq⟩)
    have hnone : fields.filter (·.1 = tag) = [] :=
      List.filter_eq_nil_iff.mpr fun f hf => by simp [hother f hf]
    have hall : fields.filter (·.1 ≠ tag) = fields :=
      List.filter_eq_self.mpr fun f hf => decide_eq_true (hother f hf)
    simp only [variant?, hreadable, Bool.not_true, Bool.false_eq_true, if_false, List.filter_cons,
      decide_true, if_true, hnone, ne_eq, not_true, decide_false, tagName?,
      List.contains_iff_mem.mpr hname, Option.map_some]
    rw [hall]

lemma name?_object_cons_cons (nested : Bool) (f g : String × Json) (rest : List (String × Json)) :
    name? nested (.object (f :: g :: rest)) = none := by
  simp only [name?]

/-- An object that is no name is none after it is sorted: it has as many fields. -/
lemma ignoresOrder_name? (nested : Bool) : IgnoresOrder (name? nested) := by
  intro j hj
  cases hj with
  | @object fields once plain =>
    obtain ⟨sorted, heq, hperm, -⟩ := sortKeys_object once
    rw [heq]
    match fields, plain with
    | [], _ => rw [List.perm_nil.mp hperm]
    | [(s, j)], plain =>
      rw [List.perm_singleton.mp hperm]
      cases plain (s, j) (List.mem_singleton.mpr rfl) with
      | @object inner once' _ =>
        obtain ⟨sorted', heq', hperm', -⟩ := sortKeys_object once'
        rw [heq']
        match inner, sorted' with
        | [], _ => rw [List.perm_nil.mp hperm']
        | _ :: _, [] => exact absurd hperm'.length_eq (by simp [sortFields_eq])
        | _ :: _, _ :: _ => rfl
      | _ => rfl
    | _ :: _ :: _, _ =>
      match sorted with
      | [] | [_] => exact absurd hperm.length_eq (by simp [sortFields_eq])
      | _ :: _ :: _ => rw [name?_object_cons_cons, name?_object_cons_cons]
  | _ => rfl

/-! ### Writing and reading -/

/-- What is written is read again, from a text, in which fields stand as they were written, and from
a value, in which they stand by name; and each value is written for one thing only. -/
structure Lossless (fine : α → Prop) (write : α → Json) (read : Json → Option α) : Prop where
  text : ∀ x, fine x → read (write x) = some x
  value : ∀ x, fine x → ∃ v, (write x).value? = some v ∧ read v.tree = some x
  distinct : ∀ x y, fine x → fine y → (write x).value? = (write y).value? → x = y

/-- Plain trees that are read again are read from their values as well. -/
lemma lossless {fine : α → Prop} {write : α → Json} (hplain : ∀ x, fine x → (write x).Plain)
    (hreads : ∀ x, fine x → read (write x) = some x) (hread : IgnoresOrder read) :
    Lossless fine write read := by
  have hvalue : ∀ x, fine x → ∃ v, (write x).value? = some v ∧ read v.tree = some x := by
    intro x hx
    exact ⟨_, (hplain x hx).value?_eq, (hread _ (hplain x hx)).trans (hreads x hx)⟩
  refine ⟨hreads, hvalue, fun x y hx hy heq => ?_⟩
  obtain ⟨v, hv, hxv⟩ := hvalue x hx
  obtain ⟨w, hw, hyw⟩ := hvalue y hy
  rw [hv, hw, Option.some.injEq] at heq
  rw [heq, hyw, Option.some.injEq] at hxv
  exact hxv.symm

end Json

end Dialogue
