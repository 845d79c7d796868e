import Dialogue.Json.Basic
import Mathlib.Data.List.Basic
import Mathlib.Data.List.Induction
import Mathlib.Tactic.Common

/-!
# Plain trees

A tree is plain if no name stands twice in an object of it, its numbers are finite, and all of it is
readable. To sort the names of a plain tree moves its fields about and does nothing else; and what
is sorted stays as it is. So a plain tree has a value, and a value is a plain tree.
-/

namespace Dialogue

/-! ### Tables of pairs -/

namespace Table

variable {α : Type} {pairs : List (String × α)} {t : Table α}

lemma insertEntry_perm {k : String} {v : α} {entries : List (String × α)}
    (h : k ∉ entries.map Prod.fst) : (insertEntry k v entries).Perm ((k, v) :: entries) := by
  induction entries with
  | nil => exact .refl _
  | cons e entries ih =>
    rw [List.map_cons, List.mem_cons, not_or] at h
    simp only [insertEntry]
    split
    · exact .refl _
    · rw [if_neg h.1]
      exact ((ih h.2).cons e).trans (.swap _ _ _)

/-- Where no key comes twice, a table has the pairs that it is made of. -/
lemma entries_ofList_perm (h : (pairs.map Prod.fst).Nodup) : (ofList pairs).entries.Perm pairs := by
  induction pairs using List.reverseRecOn with
  | nil => exact .refl _
  | append_singleton pairs p ih =>
    rw [List.map_append, List.nodup_append] at h
    have hperm := ih h.1
    have hkey : p.1 ∉ (ofList pairs).entries.map Prod.fst := by
      rw [(hperm.map Prod.fst).mem_iff]
      exact fun hmem => h.2.2 p.1 hmem p.1 (List.mem_singleton.mpr rfl) rfl
    have hinsert : (ofList (pairs ++ [p])).entries =
        insertEntry p.1 p.2 (ofList pairs).entries := by
      rw [ofList, List.foldl_append]
      rfl
    rw [hinsert]
    exact (insertEntry_perm hkey).trans
      ((hperm.cons p).trans (List.perm_append_singleton p pairs).symm)

/-- The entries of a table have one increasing order. -/
lemma eq_entries_of_perm (hsorted : pairs.Pairwise fun a b => a.1 < b.1)
    (hperm : pairs.Perm t.entries) : pairs = t.entries := by
  refine hperm.eq_of_pairwise (fun a b _ _ hab hba => ?_) hsorted t.sorted
  exact absurd (String.lt_trans hab hba) (String.lt_irrefl _)

end Table

namespace Json

variable {j : Json} {items : List Json} {fields : List (String × Json)}

/-! ### Plain trees -/

/-- Every name in an object stands once, every number is finite and every place is readable. -/
inductive Plain : Json → Prop where
  | null : Plain .null
  | bool (b : Bool) : Plain (.bool b)
  | integer (i : Int) : Plain (.integer i)
  | decimal {x : Float} (finite : Decimal.isFinite x) : Plain (.decimal x)
  | string (s : String) : Plain (.string s)
  | array {items : List Json} (plain : ∀ j ∈ items, Plain j) : Plain (.array items)
  | object {fields : List (String × Json)} (once : (fields.map Prod.fst).Nodup)
      (plain : ∀ f ∈ fields, Plain f.2) : Plain (.object fields)

lemma plain_object (once : (fields.map Prod.fst).Nodup) (h : fields.Forall fun f => f.2.Plain) :
    (object fields).Plain :=
  .object once (List.forall_iff_forall_mem.mp h)

lemma sortItems_eq (items : List Json) : sortItems items = items.map sortKeys := by
  induction items with
  | nil => rfl
  | cons j items ih => rw [sortItems, List.map_cons, ih]

lemma sortFields_eq (fields : List (String × Json)) :
    sortFields fields = fields.map fun f => (f.1, f.2.sortKeys) := by
  induction fields with
  | nil => rfl
  | cons f fields ih => rw [sortFields, List.map_cons, ih]

lemma allReadable_iff : allReadable items ↔ ∀ j ∈ items, j.isReadable := by
  induction items with
  | nil => simp [allReadable]
  | cons j items ih => simp [allReadable, ih]

lemma fieldsReadable_iff : fieldsReadable fields ↔ ∀ f ∈ fields, f.2.isReadable := by
  induction fields with
  | nil => simp [fieldsReadable]
  | cons f fields ih => simp only [fieldsReadable, Bool.and_eq_true, ih, List.forall_mem_cons]

lemma allCanonical_iff : allCanonical items ↔ ∀ j ∈ items, j.isCanonical := by
  induction items with
  | nil => simp [allCanonical]
  | cons j items ih => simp [allCanonical, ih]

lemma fieldsCanonical_iff : fieldsCanonical fields ↔ ∀ f ∈ fields, f.2.isCanonical := by
  induction fields with
  | nil => simp [fieldsCanonical]
  | cons f fields ih => simp only [fieldsCanonical, Bool.and_eq_true, ih, List.forall_mem_cons]

lemma increasing_iff : increasing fields ↔ fields.Pairwise fun a b => a.1 < b.1 := by
  induction fields with
  | nil => simp [increasing]
  | cons a fields ih =>
    cases fields with
    | nil => simp [increasing]
    | cons b fields =>
      rw [increasing, Bool.and_eq_true, decide_eq_true_eq, ih, List.pairwise_cons (a := a)]
      refine ⟨fun ⟨hab, hsorted⟩ => ⟨fun c hc => ?_, hsorted⟩,
        fun ⟨hall, hsorted⟩ => ⟨hall b List.mem_cons_self, hsorted⟩⟩
      rcases List.mem_cons.mp hc with rfl | hc
      · exact hab
      · exact String.lt_trans hab ((List.pairwise_cons.mp hsorted).1 c hc)

lemma Plain.isReadable (h : j.Plain) : j.isReadable := by
  induction h with
  | array _ ih => exact allReadable_iff.mpr ih
  | object _ _ ih => exact fieldsReadable_iff.mpr ih
  | _ => rfl

lemma Plain.nodup_sortFields (once : (fields.map Prod.fst).Nodup) :
    ((sortFields fields).map Prod.fst).Nodup := by
  rw [sortFields_eq, List.map_map]
  exact once

/-- Sorting moves the fields of an object about. -/
lemma sortKeys_object (once : (fields.map Prod.fst).Nodup) :
    ∃ sorted, (Json.object fields).sortKeys = .object sorted ∧
      sorted.Perm (sortFields fields) ∧ sorted.Pairwise fun a b => a.1 < b.1 :=
  ⟨_, rfl, Table.entries_ofList_perm (Plain.nodup_sortFields once), (Table.ofList _).sorted⟩

lemma Plain.isCanonical_sortKeys (h : j.Plain) : j.sortKeys.isCanonical := by
  induction h with
  | decimal finite => exact finite
  | array _ ih =>
    rw [sortKeys, sortItems_eq]
    exact allCanonical_iff.mpr (List.forall_mem_map.mpr ih)
  | object once _ ih =>
    obtain ⟨sorted, heq, hperm, hsorted⟩ := sortKeys_object once
    rw [heq, isCanonical, Bool.and_eq_true, increasing_iff, fieldsCanonical_iff]
    refine ⟨hsorted, fun f hf => ?_⟩
    rw [hperm.mem_iff, sortFields_eq] at hf
    obtain ⟨f', hf', rfl⟩ := List.mem_map.mp hf
    exact ih f' hf'
  | _ => rfl

/-- A plain tree has a value: itself, its names sorted. -/
lemma Plain.value?_eq (h : j.Plain) : j.value? = some ⟨j.sortKeys, h.isCanonical_sortKeys⟩ := by
  simp only [value?, h.isReadable, h.isCanonical_sortKeys, Bool.not_true, Bool.false_eq_true,
    if_false, dif_pos]

lemma nodup_of_sorted (h : fields.Pairwise fun a b => a.1 < b.1) :
    (fields.map Prod.fst).Nodup := by
  rw [List.Nodup, List.pairwise_map]
  refine h.imp fun hlt heq => ?_
  rw [heq] at hlt
  exact String.lt_irrefl _ hlt

lemma plain_of_isCanonical : (j : Json) → j.isCanonical → j.Plain
  | .null, _ => .null
  | .bool b, _ => .bool b
  | .integer i, _ => .integer i
  | .decimal _, h => .decimal h
  | .string s, _ => .string s
  | .array items, h =>
    .array fun j hj => plain_of_isCanonical j (allCanonical_iff.mp h j hj)
  | .object fields, h => by
    rw [isCanonical, Bool.and_eq_true, increasing_iff, fieldsCanonical_iff] at h
    exact .object (nodup_of_sorted h.1) fun f hf => plain_of_isCanonical f.2 (h.2 f hf)
termination_by j => sizeOf j
decreasing_by
  · simp only [array.sizeOf_spec]
    have hsize := List.sizeOf_lt_of_mem hj
    omega
  · obtain ⟨k, j⟩ := f
    simp only [object.sizeOf_spec]
    have hsize := List.sizeOf_lt_of_mem hf
    simp only [Prod.mk.sizeOf_spec] at hsize
    omega

/-- What is sorted stays as it is. -/
lemma sortKeys_of_isCanonical (h : j.isCanonical) : j.sortKeys = j := by
  induction plain_of_isCanonical j h with
  | array _ ih =>
    have hitems := allCanonical_iff.mp h
    rw [sortKeys, sortItems_eq, List.map_congr_left (g := id) fun j hj => ih j hj (hitems j hj),
      List.map_id]
  | @object fields once _ ih =>
    rw [isCanonical, Bool.and_eq_true, increasing_iff, fieldsCanonical_iff] at h
    have hfields : sortFields fields = fields := by
      rw [sortFields_eq, List.map_congr_left (g := id) fun f hf => ?_, List.map_id]
      rw [ih f hf (h.2 f hf), id]
    rw [sortKeys, hfields]
    exact congrArg _ (Table.eq_entries_of_perm h.1 (Table.entries_ofList_perm once).symm).symm
  | _ => rfl

lemma Value.plain (v : Value) : v.tree.Plain := plain_of_isCanonical v.tree v.canonical

lemma Value.value?_tree (v : Value) : v.tree.value? = some v := by
  rw [v.plain.value?_eq]
  exact congrArg some (by cases v; simp only [sortKeys_of_isCanonical ‹_›])

end Json

end Dialogue
