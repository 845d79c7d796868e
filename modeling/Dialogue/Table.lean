/-!
# Tables

A finite map from text to values, held as the list of its entries in strictly increasing order
of their keys. Two tables with the same look-ups are therefore equal (`Table.ext_get?`), and the
entries of a table can be listed without a choice of order.
-/

namespace Dialogue

/-- A finite map from text to values. Its entries are strictly increasing by key. -/
structure Table (α : Type) where
  /-- The entries, by increasing key. -/
  entries : List (String × α)
  sorted : entries.Pairwise (fun a b => a.1 < b.1)
  deriving DecidableEq

namespace Table

variable {α : Type}

/-! ### Entry lists -/

/-- Puts an entry into an increasing list, in place of one with the same key. -/
def insertEntry (k : String) (v : α) : List (String × α) → List (String × α)
  | [] => [(k, v)]
  | e :: rest =>
    if k < e.1 then (k, v) :: e :: rest
    else if k = e.1 then (k, v) :: rest
    else e :: insertEntry k v rest

/-- Removes the entries under a key. -/
def eraseEntry (k : String) (entries : List (String × α)) : List (String × α) :=
  entries.filter (fun e => e.1 ≠ k)

theorem mem_insertEntry {k : String} {v : α} {l : List (String × α)} {e : String × α}
    (h : e ∈ insertEntry k v l) : e = (k, v) ∨ e ∈ l := by
  induction l with
  | nil => simpa [insertEntry] using h
  | cons d rest ih =>
    simp only [insertEntry] at h
    split at h
    · simpa using h
    · split at h
      · rcases List.mem_cons.1 h with h | h
        · exact .inl h
        · exact .inr (List.mem_cons_of_mem _ h)
      · rcases List.mem_cons.1 h with h | h
        · exact .inr (h ▸ List.mem_cons_self)
        · exact (ih h).imp_right (List.mem_cons_of_mem _)

theorem insertEntry_sorted (k : String) (v : α) {l : List (String × α)}
    (h : l.Pairwise (fun a b => a.1 < b.1)) :
    (insertEntry k v l).Pairwise (fun a b => a.1 < b.1) := by
  induction l with
  | nil => simp [insertEntry]
  | cons d rest ih =>
    have ⟨hd, hr⟩ := List.pairwise_cons.1 h
    simp only [insertEntry]
    split
    next lt =>
      refine List.pairwise_cons.2 ⟨fun e he => ?_, h⟩
      rcases List.mem_cons.1 he with rfl | he
      · exact lt
      · exact String.lt_trans lt (hd e he)
    next nlt =>
      split
      next eq => exact List.pairwise_cons.2 ⟨fun e he => eq ▸ hd e he, hr⟩
      next ne =>
        refine List.pairwise_cons.2 ⟨fun e he => ?_, ih hr⟩
        rcases mem_insertEntry he with rfl | he
        · refine Decidable.byContradiction fun nlt' => ne ?_
          exact String.le_antisymm (String.not_lt.1 nlt') (String.not_lt.1 nlt)
        · exact hd e he

/-! ### Operations -/

/-- The table without entries. -/
def empty : Table α := ⟨[], .nil⟩

instance : EmptyCollection (Table α) := ⟨empty⟩

instance : Inhabited (Table α) := ⟨empty⟩

/-- The value under a key. -/
def get? (t : Table α) (k : String) : Option α := t.entries.lookup k

/-- Whether the table has a value under a key. -/
def contains (t : Table α) (k : String) : Bool := (t.get? k).isSome

/-- Puts a value under a key, in place of an earlier one. -/
def insert (t : Table α) (k : String) (v : α) : Table α :=
  ⟨insertEntry k v t.entries, insertEntry_sorted k v t.sorted⟩

/-- Removes the value under a key, if there is one. -/
def erase (t : Table α) (k : String) : Table α :=
  ⟨eraseEntry k t.entries, t.sorted.filter _⟩

/-- The keys, in increasing order. -/
def keys (t : Table α) : List String := t.entries.map Prod.fst

/-- The number of entries. -/
def size (t : Table α) : Nat := t.entries.length

/-- Whether there is no entry. -/
def isEmpty (t : Table α) : Bool := t.entries.isEmpty

/-- The table of a list of pairs, in which a later pair replaces an earlier one of its key. -/
def ofList (pairs : List (String × α)) : Table α :=
  pairs.foldl (fun t p => t.insert p.1 p.2) empty

/-! ### Look-ups -/

private theorem lookup_cons_ite (k : String) (e : String × α) (l : List (String × α)) :
    (e :: l).lookup k = if k = e.1 then some e.2 else l.lookup k := by
  obtain ⟨k', v⟩ := e
  by_cases h : k = k'
  · simp [h]
  · simp [List.lookup_cons, h, beq_false_of_ne h]

theorem lookup_insertEntry (k k' : String) (v : α) {l : List (String × α)}
    (h : l.Pairwise (fun a b => a.1 < b.1)) :
    (insertEntry k v l).lookup k' = if k' = k then some v else l.lookup k' := by
  induction l with
  | nil => simp [insertEntry, lookup_cons_ite]
  | cons d rest ih =>
    have ⟨hd, hr⟩ := List.pairwise_cons.1 h
    simp only [insertEntry]
    split
    · rw [lookup_cons_ite]
    · split
      next eq =>
        by_cases hk : k' = k
        · simp [hk]
        · have : ¬ k' = d.1 := fun h => hk (h.trans eq.symm)
          simp [lookup_cons_ite, hk, this]
      next ne =>
        by_cases hk : k' = d.1
        · simp [lookup_cons_ite, hk, Ne.symm ne]
        · simp [lookup_cons_ite, hk, ih hr]

theorem lookup_eraseEntry (k k' : String) (l : List (String × α)) :
    (eraseEntry k l).lookup k' = if k' = k then none else l.lookup k' := by
  induction l with
  | nil => simp [eraseEntry]
  | cons d rest ih =>
    unfold eraseEntry at ih ⊢
    by_cases hd : d.1 = k
    · simp only [List.filter_cons, hd, ne_eq, not_true, decide_false, Bool.false_eq_true,
        if_false, ih]
      by_cases hk : k' = k <;> simp [lookup_cons_ite, hk, hd]
    · simp only [List.filter_cons, hd, ne_eq, not_false_iff, decide_true, if_true,
        lookup_cons_ite, ih]
      by_cases hk : k' = d.1 <;> simp [hk, hd]

@[simp] theorem get?_empty (k : String) : (empty : Table α).get? k = none := rfl

theorem get?_insert (t : Table α) (k k' : String) (v : α) :
    (t.insert k v).get? k' = if k' = k then some v else t.get? k' :=
  lookup_insertEntry k k' v t.sorted

@[simp] theorem get?_insert_self (t : Table α) (k : String) (v : α) :
    (t.insert k v).get? k = some v := by simp [get?_insert]

theorem get?_insert_of_ne (t : Table α) {k k' : String} (v : α) (h : k' ≠ k) :
    (t.insert k v).get? k' = t.get? k' := by simp [get?_insert, h]

theorem get?_erase (t : Table α) (k k' : String) :
    (t.erase k).get? k' = if k' = k then none else t.get? k' :=
  lookup_eraseEntry k k' t.entries

@[simp] theorem get?_erase_self (t : Table α) (k : String) : (t.erase k).get? k = none := by
  simp [get?_erase]

theorem get?_erase_of_ne (t : Table α) {k k' : String} (h : k' ≠ k) :
    (t.erase k).get? k' = t.get? k' := by simp [get?_erase, h]

/-- An entry is found under its own key. -/
theorem lookup_eq_some_iff_mem {l : List (String × α)} (h : l.Pairwise (fun a b => a.1 < b.1))
    (k : String) (v : α) : l.lookup k = some v ↔ (k, v) ∈ l := by
  induction l with
  | nil => simp
  | cons d rest ih =>
    have ⟨hd, hr⟩ := List.pairwise_cons.1 h
    by_cases hk : k = d.1
    · subst hk
      simp only [lookup_cons_ite, if_true, Option.some.injEq, List.mem_cons]
      refine ⟨fun e => .inl (e ▸ rfl), fun e => e.elim (fun e => (Prod.ext_iff.1 e).2.symm) ?_⟩
      exact fun m => absurd (hd _ m) (String.lt_irrefl _)
    · have : ¬ (k, v) = d := fun e => hk (Prod.ext_iff.1 e).1
      simp [lookup_cons_ite, hk, ih hr, this]

theorem get?_eq_some_iff_mem (t : Table α) (k : String) (v : α) :
    t.get? k = some v ↔ (k, v) ∈ t.entries :=
  lookup_eq_some_iff_mem t.sorted k v

/-- The entries under a key are the one that is looked up, or none. -/
theorem filter_key_eq {l : List (String × α)} (h : l.Pairwise (fun a b => a.1 < b.1)) (k : String) :
    l.filter (·.1 = k) = ((l.lookup k).map (k, ·)).toList := by
  induction l with
  | nil => rfl
  | cons d rest ih =>
    have ⟨hd, hr⟩ := List.pairwise_cons.1 h
    by_cases hk : d.1 = k
    · have hrest : rest.filter (·.1 = k) = [] := by
        refine List.filter_eq_nil_iff.2 fun e he => ?_
        have hlt := hd e he
        rw [hk] at hlt
        exact fun heq => String.lt_irrefl k (of_decide_eq_true heq ▸ hlt)
      obtain ⟨k', v⟩ := d
      obtain rfl : k' = k := hk
      simp [hrest]
    · simp [lookup_cons_ite, hk, Ne.symm hk, ih hr]

theorem filter_entries (t : Table α) (k : String) :
    t.entries.filter (·.1 = k) = ((t.get? k).map (k, ·)).toList :=
  filter_key_eq t.sorted k

private theorem eq_of_mem_iff {l m : List (String × α)}
    (hl : l.Pairwise (fun a b => a.1 < b.1)) (hm : m.Pairwise (fun a b => a.1 < b.1))
    (h : ∀ e, e ∈ l ↔ e ∈ m) : l = m := by
  induction l generalizing m with
  | nil =>
    cases m with
    | nil => rfl
    | cons e m => exact absurd ((h e).2 List.mem_cons_self) (by simp)
  | cons d l ih =>
    cases m with
    | nil => exact absurd ((h d).1 List.mem_cons_self) (by simp)
    | cons e m =>
      have ⟨hd, hl⟩ := List.pairwise_cons.1 hl
      have ⟨he, hm'⟩ := List.pairwise_cons.1 hm
      have hde : d = e := by
        rcases List.mem_cons.1 ((h d).1 List.mem_cons_self) with hde | hdm
        · exact hde
        · rcases List.mem_cons.1 ((h e).2 List.mem_cons_self) with hed | hel
          · exact hed.symm
          · exact absurd (String.lt_trans (hd e hel) (he d hdm)) (String.lt_irrefl _)
      subst hde
      refine congrArg _ (ih hl hm' fun x => ⟨fun hx => ?_, fun hx => ?_⟩)
      · rcases List.mem_cons.1 ((h x).1 (List.mem_cons_of_mem _ hx)) with rfl | hx'
        · exact absurd (hd x hx) (String.lt_irrefl _)
        · exact hx'
      · rcases List.mem_cons.1 ((h x).2 (List.mem_cons_of_mem _ hx)) with rfl | hx'
        · exact absurd (he x hx) (String.lt_irrefl _)
        · exact hx'

/-- A table is determined by its look-ups. -/
theorem ext_get? {s t : Table α} (h : ∀ k, s.get? k = t.get? k) : s = t := by
  have : s.entries = t.entries := eq_of_mem_iff s.sorted t.sorted fun e => by
    rw [← get?_eq_some_iff_mem s e.1 e.2, ← get?_eq_some_iff_mem t e.1 e.2, h]
  cases s; cases t; simpa using this

/-! ### Operations on one key -/

theorem insert_insert_self (t : Table α) (k : String) (v v' : α) :
    (t.insert k v).insert k v' = t.insert k v' := by
  apply ext_get?
  intro k'
  by_cases h : k' = k <;> simp [get?_insert, h]

theorem erase_insert_self (t : Table α) (k : String) (v : α) :
    (t.insert k v).erase k = t.erase k := by
  apply ext_get?
  intro k'
  by_cases h : k' = k <;> simp [get?_erase, get?_insert, h]

/-- Putting the value under a key that it has already changes nothing. -/
theorem insert_of_get? (t : Table α) {k : String} {v : α} (h : t.get? k = some v) :
    t.insert k v = t := by
  apply ext_get?
  intro k'
  by_cases hk : k' = k
  · rw [hk, get?_insert_self, h]
  · exact get?_insert_of_ne t v hk

/-- Removing a key without a value changes nothing. -/
theorem erase_of_get?_eq_none (t : Table α) {k : String} (h : t.get? k = none) : t.erase k = t := by
  apply ext_get?
  intro k'
  by_cases hk : k' = k
  · rw [hk, get?_erase_self, h]
  · exact get?_erase_of_ne t hk

end Table

end Dialogue
