import Dialogue.Predicate.Comparison
import Dialogue.Proofs.Text.Casing

/-!
# Comparisons as they are written

A text has no first operator if the symbol of none is written in it. Where two sides are written
with blanks around the symbol between them, and none stands in the left one, that symbol is the
first: neither a character of the left side nor one of the right can make another of it. The case
of letters does not matter to any of this.
-/

namespace Dialogue

namespace Operator

variable {cs : List Char} {op : Operator}

/-- The symbol of an operator is written somewhere in the text. -/
def Within (s : String) : Prop :=
  ∃ (op : Operator) (before after : String), s = before ++ op.symbol ++ after

lemma mem_all (op : Operator) : op ∈ all := by
  cases op <;> decide

/-- A character of which symbols are made. -/
def isSign (c : Char) : Bool := c = '=' || c = '!' || c = '<' || c = '>'

lemma isSign_of_mem {c : Char} (hc : c ∈ op.symbol.toList) : isSign c := by
  have hsigns : op.symbol.toList.all isSign := by
    cases op <;> decide
  exact List.all_eq_true.mp hsigns c hc

/-! ### The first operator -/

lemma atStart?_eq_none_iff : atStart? cs = none ↔ ∀ op : Operator, ¬ op.symbol.toList <+: cs := by
  rw [atStart?, Option.map_eq_none_iff, List.find?_eq_none]
  simp [mem_all]

lemma split?_eq_none_iff : split? cs = none ↔ ∀ op : Operator, ¬ op.symbol.toList <:+: cs := by
  induction cs with
  | nil =>
    have hsymbol : ∀ op : Operator, op.symbol.toList ≠ [] := by
      intro op
      cases op <;> decide
    simp [split?, hsymbol]
  | cons c rest ih =>
    simp only [List.infix_cons_iff, not_or, forall_and, ← atStart?_eq_none_iff, ← ih, split?]
    cases atStart? (c :: rest) <;> simp

lemma within_iff {s : String} : Within s ↔ ∃ op : Operator, op.symbol.toList <:+: s.toList := by
  constructor
  · rintro ⟨op, before, after, rfl⟩
    exact ⟨op, before.toList, after.toList, by simp⟩
  · rintro ⟨op, before, after, h⟩
    refine ⟨op, .ofList before, .ofList after, ?_⟩
    rw [← String.toList_inj, ← h]
    simp

lemma not_within_iff {s : String} : ¬ Within s ↔ split? s.toList = none := by
  rw [within_iff, split?_eq_none_iff, not_exists]

instance (s : String) : Decidable (Within s) :=
  decidable_of_iff (split? s.toList ≠ none) (by rw [ne_eq, ← not_within_iff, not_not])

/-- No operator is found where there are no signs. -/
lemma split?_of_not_isSign (h : ∀ c ∈ cs, isSign c = false) : split? cs = none := by
  rw [split?_eq_none_iff]
  intro op hwithin
  obtain ⟨c, hc⟩ : ∃ c, c ∈ op.symbol.toList := by
    cases op <;> exact ⟨_, List.mem_cons_self⟩
  have hsign := isSign_of_mem hc
  rw [h c (hwithin.subset hc)] at hsign
  cases hsign

lemma eq_append_of_atStart? {behind : List Char} (h : atStart? cs = some (op, behind)) :
    cs = op.symbol.toList ++ behind := by
  obtain ⟨found, hfound, heq⟩ := Option.map_eq_some_iff.mp h
  cases heq
  have hstart : op.symbol.toList.isPrefixOf cs :=
    List.find?_some (p := fun op : Operator => op.symbol.toList.isPrefixOf cs) hfound
  obtain ⟨behind, rfl⟩ := List.isPrefixOf_iff_prefix.mp hstart
  rw [List.drop_left]

/-- The first operator is at the start of what is left of the text at its place. -/
lemma atStart?_of_split? {before behind : List Char}
    (h : split? cs = some (before, op, behind)) :
    ∃ tail, cs = before ++ tail ∧ atStart? tail = some (op, behind) := by
  induction cs generalizing before with
  | nil => cases h
  | cons c rest ih =>
    rw [split?] at h
    cases hstart : atStart? (c :: rest) with
    | some found =>
      rw [hstart] at h
      cases h
      exact ⟨c :: rest, rfl, hstart⟩
    | none =>
      rw [hstart] at h
      obtain ⟨found, hrest, heq⟩ := Option.map_eq_some_iff.mp h
      cases heq
      obtain ⟨tail, rfl, htail⟩ := ih hrest
      exact ⟨tail, rfl, htail⟩

/-- What stands before the first operator, its symbol and what stands behind are the text. -/
lemma eq_append_of_split? {before behind : List Char}
    (h : split? cs = some (before, op, behind)) : cs = before ++ (op.symbol.toList ++ behind) := by
  obtain ⟨tail, rfl, htail⟩ := atStart?_of_split? h
  rw [eq_append_of_atStart? htail]

/-! ### Symbols between blanks -/

/-- What begins before a blank and has none in it ends before the blank. -/
lemma prefix_of_prefix_append_cons {part l t : List Char} {x : Char} (hx : x ∉ part)
    (h : part <+: l ++ x :: t) : part <+: l := by
  rcases List.prefix_or_prefix_of_prefix h (List.prefix_append l (x :: t)) with hpart | ⟨m, rfl⟩
  · exact hpart
  · rw [List.prefix_append_right_inj, List.prefix_cons_iff] at h
    rcases h with rfl | ⟨m', rfl, -⟩
    · exact ⟨[], by simp⟩
    · exact absurd (List.mem_append_right _ List.mem_cons_self) hx

lemma split?_symbol (op : Operator) (rest : List Char) :
    split? (op.symbol.toList ++ ' ' :: rest) = some ([], op, ' ' :: rest) := by
  cases op <;> rfl

lemma blank_not_mem (op : Operator) : ' ' ∉ op.symbol.toList := by
  cases op <;> decide

/-- A symbol between blanks is the first if there is none before it. -/
lemma split?_written {before : List Char} (hbefore : split? before = none) (op : Operator)
    (rest : List Char) :
    split? (before ++ ' ' :: (op.symbol.toList ++ ' ' :: rest)) =
      some (before ++ [' '], op, ' ' :: rest) := by
  induction before with
  | nil =>
    have hblank : ∀ rest, atStart? (' ' :: rest) = none := fun _ => rfl
    simp only [List.nil_append, split?, hblank, split?_symbol, Option.map_some]
  | cons c before ih =>
    rw [split?_eq_none_iff] at hbefore
    simp only [List.infix_cons_iff, not_or, forall_and, ← split?_eq_none_iff] at hbefore
    obtain ⟨hstart, hrest⟩ := hbefore
    have hnone : atStart? (c :: (before ++ ' ' :: (op.symbol.toList ++ ' ' :: rest))) = none := by
      rw [atStart?_eq_none_iff]
      intro other hprefix
      exact hstart other (prefix_of_prefix_append_cons (blank_not_mem other) hprefix)
    simp only [List.cons_append, split?, hnone, ih hrest, Option.map_some]

/-! ### Letters -/

/-- A sign is no letter. -/
lemma toLower_eq_iff_of_isSign {c : Char} (hc : isSign c) (d : Char) : d.toLower = c ↔ d = c := by
  have hletters : ∀ n : Fin 26, decide ((Char.ofNat (65 + n)).toLower = c) =
      decide (Char.ofNat (65 + n) = c) := by
    simp only [isSign, Bool.or_eq_true, decide_eq_true_eq] at hc
    rcases hc with ((rfl | rfl) | rfl) | rfl <;> decide
  simpa using Text.apply_toLower (f := fun d => decide (d = c)) hletters d

lemma isPrefixOf_map_toLower {part : List Char} (hpart : ∀ c ∈ part, isSign c) (cs : List Char) :
    part.isPrefixOf (cs.map Char.toLower) = part.isPrefixOf cs := by
  induction part generalizing cs with
  | nil => simp
  | cons c part ih =>
    obtain ⟨hc, hpart⟩ := List.forall_mem_cons.mp hpart
    cases cs with
    | nil => rfl
    | cons d cs =>
      have hsign : (c == d.toLower) = (c == d) := by
        rw [Bool.eq_iff_iff, beq_iff_eq, beq_iff_eq, eq_comm, toLower_eq_iff_of_isSign hc, eq_comm]
      simp only [List.map_cons, List.isPrefixOf, hsign, ih hpart]

lemma atStart?_map_toLower (cs : List Char) :
    atStart? (cs.map Char.toLower) =
      (atStart? cs).map fun (op, behind) => (op, behind.map Char.toLower) := by
  have hsymbol : ∀ op : Operator, op.symbol.toList.isPrefixOf (cs.map Char.toLower) =
      op.symbol.toList.isPrefixOf cs :=
    fun op => isPrefixOf_map_toLower (fun _ => isSign_of_mem) cs
  simp only [atStart?, hsymbol, Option.map_map, ← List.map_drop]
  rfl

lemma split?_map_toLower (cs : List Char) :
    split? (cs.map Char.toLower) = (split? cs).map fun (before, op, behind) =>
      (before.map Char.toLower, op, behind.map Char.toLower) := by
  induction cs with
  | nil => rfl
  | cons c rest ih =>
    have hstart := atStart?_map_toLower (c :: rest)
    rw [List.map_cons] at hstart
    simp only [List.map_cons, split?, hstart, ih]
    cases atStart? (c :: rest) with
    | none => cases split? rest <;> rfl
    | some found => rfl

end Operator

namespace Comparison

/-! ### Two sides -/

lemma parse?_eq_none_of_not_within {s : String} (h : ¬ Operator.Within s) : parse? s = none := by
  rw [Operator.not_within_iff] at h
  rw [parse?, h]
  rfl

/-- The characters of the sides are characters of the text. -/
lemma mem_of_parse? {s : String} {c : Comparison} (h : parse? s = some c) {x : Char}
    (hx : x ∈ c.lhs.toList ∨ x ∈ c.rhs.toList) : x ∈ s.toList := by
  obtain ⟨⟨before, op, behind⟩, hsplit, hsides⟩ := Option.bind_eq_some_iff.mp h
  have hkept : (⟨.ofList (Text.trimChars before), op, .ofList (Text.trimChars behind)⟩ :
      Comparison) = c := by
    by_cases hnil : Text.trimChars behind = []
    · simp [hnil] at hsides
    · simpa [hnil] using hsides
  subst hkept
  simp only [String.toList_ofList] at hx
  rw [Operator.eq_append_of_split? hsplit]
  rcases hx with hx | hx
  · exact List.mem_append_left _ (Text.mem_of_mem_trimChars hx)
  · exact List.mem_append_right _ (List.mem_append_right _ (Text.mem_of_mem_trimChars hx))

variable {l r : String}

lemma trim_symbol (op : Operator) : Text.trim op.symbol = op.symbol := by
  cases op <;> decide

lemma parse?_of_split? {s : String} {before behind : List Char} {op : Operator}
    (h : Operator.split? s.toList = some (before, op, behind))
    (hbehind : Text.trimChars behind ≠ []) :
    parse? s = some ⟨.ofList (Text.trimChars before), op, .ofList (Text.trimChars behind)⟩ := by
  simp [parse?, h, hbehind]

/-- The text of two sides, when it is trimmed, is cut at the symbol between them. Without a left
side it begins with the symbol. -/
lemma split?_trim_written (hl : Text.trim l = l) (hplain : ¬ Operator.Within l)
    (hr : Text.trim r = r) (hne : r ≠ "") (op : Operator) :
    ∃ before,
      Operator.split? (Text.trim (l ++ " " ++ op.symbol ++ " " ++ r)).toList =
        some (before, op, ' ' :: r.toList) ∧ String.ofList (Text.trimChars before) = l := by
  by_cases hempty : l = ""
  · subst hempty
    have hsymbol : op.symbol ≠ "" := by
      cases op <;> decide
    have htrim : Text.trim (op.symbol ++ " " ++ r) = op.symbol ++ " " ++ r :=
      Text.trim_append_append (trim_symbol op) hsymbol hr hne " "
    rw [String.empty_append, String.append_assoc, String.append_assoc, Text.trim_space_append,
      ← String.append_assoc, htrim]
    refine ⟨[], ?_, rfl⟩
    simpa using Operator.split?_symbol op r.toList
  · have htrim : Text.trim (l ++ " " ++ op.symbol ++ " " ++ r) =
        l ++ " " ++ op.symbol ++ " " ++ r := by
      have hkept := Text.trim_append_append hl hempty hr hne (" " ++ op.symbol ++ " ")
      simpa [String.append_assoc] using hkept
    have hleft : Text.trim (l ++ " ") = l := (Text.trim_append_space l).trans hl
    rw [htrim]
    refine ⟨l.toList ++ [' '], ?_, by simpa [Text.trim] using hleft⟩
    simpa using Operator.split?_written (Operator.not_within_iff.mp hplain) op r.toList

/-- Two trimmed sides with a symbol between blanks are the comparison of the two. -/
lemma parse?_trim_written (hl : Text.trim l = l) (hplain : ¬ Operator.Within l)
    (hr : Text.trim r = r) (hne : r ≠ "") (op : Operator) :
    parse? (Text.trim (l ++ " " ++ op.symbol ++ " " ++ r)) = some ⟨l, op, r⟩ := by
  obtain ⟨before, hsplit, hleft⟩ := split?_trim_written hl hplain hr hne op
  have hright : String.ofList (Text.trimChars (' ' :: r.toList)) = r := by
    have htrim : Text.trim (" " ++ r) = r := (Text.trim_space_append r).trans hr
    simpa [Text.trim] using htrim
  have hbehind : Text.trimChars (' ' :: r.toList) ≠ [] := by
    intro hnil
    rw [hnil] at hright
    exact hne hright.symm
  rw [parse?_of_split? hsplit hbehind, hleft, hright]

/-- The comparison with both sides in small letters. -/
def lowered (c : Comparison) : Comparison where
  lhs := Text.asciiLowercase c.lhs
  op := c.op
  rhs := Text.asciiLowercase c.rhs

lemma parse?_asciiLowercase (s : String) :
    parse? (Text.asciiLowercase s) = (parse? s).map lowered := by
  have hsplit := Operator.split?_map_toLower s.toList
  simp only [parse?, Text.asciiLowercase, String.toList_ofList, hsplit]
  cases Operator.split? s.toList with
  | none => rfl
  | some found =>
    obtain ⟨before, op, behind⟩ := found
    simp only [Option.map_some, Option.bind_eq_bind, Option.bind_some,
      Text.trimChars_map Text.isBlank_toLower, List.map_eq_nil_iff]
    split
    · rfl
    · simp [lowered, Text.asciiLowercase]

end Comparison

end Dialogue
