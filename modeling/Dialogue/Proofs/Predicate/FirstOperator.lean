import Dialogue.Proofs.Predicate.Comparison

/-!
# The first operator of a text

A comparison is divided at the leftmost of its symbols, and at the longest that begins there. A text
with any symbol in it is divided in one way only, and what stands before the operator has no symbol
in it, so that a comparison written anew from its two sides is divided at the same operator.
-/

namespace Dialogue

namespace Operator

variable {s before behind : String} {op : Operator}

/-- An operator divides a text where its symbol stands, if no symbol begins further left and none at
the same place is longer. -/
structure Divides (op : Operator) (s before behind : String) : Prop where
  text : s = before ++ op.symbol ++ behind
  leftmost : ∀ (other : Operator) (a b : String),
    s = a ++ other.symbol ++ b → before.length ≤ a.length
  longest : ∀ (other : Operator) (b : String),
    s = before ++ other.symbol ++ b → other.symbol.length ≤ op.symbol.length

/-! ### Leftmost and longest -/

lemma symbol_injective : Function.Injective symbol := by
  intro op other
  cases op <;> cases other <;> decide

/-- Longer symbols are tried first. -/
lemma all_pairwise : all.Pairwise fun op other => other.symbol.length ≤ op.symbol.length := by
  decide

/-- What is found at the start of a text is the longest of the symbols there. -/
lemma length_symbol_le_of_atStart? {cs rest : List Char} {other : Operator}
    (h : atStart? cs = some (op, rest)) (hother : other.symbol.toList <+: cs) :
    other.symbol.length ≤ op.symbol.length := by
  obtain ⟨found, hfound, heq⟩ := Option.map_eq_some_iff.mp h
  cases heq
  obtain ⟨-, passed, left, hall, hpassed⟩ := List.find?_eq_some_iff_append.mp hfound
  have hordered := all_pairwise
  rw [hall, List.pairwise_append, List.pairwise_cons] at hordered
  obtain ⟨-, ⟨hlonger, -⟩, -⟩ := hordered
  have hmem := mem_all other
  rw [hall, List.mem_append, List.mem_cons] at hmem
  rcases hmem with hmem | rfl | hmem
  · -- An operator whose symbol is there is not passed over.
    have habsent := hpassed other hmem
    rw [List.isPrefixOf_iff_prefix.mpr hother] at habsent
    cases habsent
  · exact le_rfl
  · exact hlonger other hmem

/-- No symbol begins before the first operator. -/
lemma length_le_of_split? {cs before behind a b : List Char} {other : Operator}
    (h : split? cs = some (before, op, behind)) (ha : cs = a ++ (other.symbol.toList ++ b)) :
    before.length ≤ a.length := by
  induction cs generalizing before a with
  | nil => cases h
  | cons c rest ih =>
    rw [split?] at h
    cases hstart : atStart? (c :: rest) with
    | some found =>
      rw [hstart] at h
      cases h
      exact Nat.zero_le _
    | none =>
      rw [hstart] at h
      obtain ⟨found, hrest, heq⟩ := Option.map_eq_some_iff.mp h
      cases heq
      cases a with
      | nil =>
        have hnone := atStart?_eq_none_iff.mp hstart other
        rw [ha] at hnone
        exact absurd (List.prefix_append _ _) hnone
      | cons d a =>
        rw [List.cons_append, List.cons.injEq] at ha
        exact Nat.succ_le_succ (ih hrest ha.2)

/-- The first operator that is found divides the text. -/
lemma divides_of_split? (h : split? s.toList = some (before.toList, op, behind.toList)) :
    op.Divides s before behind where
  text := by
    rw [← String.toList_inj, eq_append_of_split? h]
    simp
  leftmost := by
    intro other a b hab
    have hchars : s.toList = a.toList ++ (other.symbol.toList ++ b.toList) := by
      simp [hab]
    have hle := length_le_of_split? h hchars
    rwa [String.length_toList, String.length_toList] at hle
  longest := by
    intro other b hb
    obtain ⟨tail, htail, hstart⟩ := atStart?_of_split? h
    apply length_symbol_le_of_atStart? hstart
    have hchars : s.toList = before.toList ++ (other.symbol.toList ++ b.toList) := by
      simp [hb]
    rw [htail, List.append_cancel_left_eq] at hchars
    exact ⟨b.toList, hchars.symm⟩

/-! ### One way to divide -/

/-- A text is divided in one way only. -/
lemma Divides.unique {other : Operator} {a b : String} (h : op.Divides s before behind)
    (h' : other.Divides s a b) : before = a ∧ op = other ∧ behind = b := by
  have hplace : before.toList.length = a.toList.length := by
    have hle := h.leftmost other a b h'.text
    have hge := h'.leftmost op before behind h.text
    rw [String.length_toList, String.length_toList]
    exact le_antisymm hle hge
  have htexts : before.toList ++ (op.symbol.toList ++ behind.toList) =
      a.toList ++ (other.symbol.toList ++ b.toList) := by
    have htext := congrArg String.toList (h.text.symm.trans h'.text)
    simpa using htext
  obtain ⟨hbefore, hrest⟩ := List.append_inj htexts hplace
  obtain rfl : before = a := String.toList_inj.mp hbefore
  have hlength : op.symbol.toList.length = other.symbol.toList.length := by
    have hle := h'.longest op behind h.text
    have hge := h.longest other b h'.text
    rw [String.length_toList, String.length_toList]
    exact le_antisymm hle hge
  obtain ⟨hsymbol, hbehind⟩ := List.append_inj hrest hlength
  exact ⟨rfl, symbol_injective (String.toList_inj.mp hsymbol), String.toList_inj.mp hbehind⟩

lemma exists_divides (h : Within s) : ∃ op before behind, Divides op s before behind := by
  obtain ⟨⟨before, op, behind⟩, hsplit⟩ : ∃ found, split? s.toList = some found := by
    rw [← Option.ne_none_iff_exists']
    exact fun hnone => not_within_iff.mpr hnone h
  refine ⟨op, .ofList before, .ofList behind, divides_of_split? ?_⟩
  simpa using hsplit

lemma Divides.within (h : op.Divides s before behind) : Within s :=
  ⟨op, before, behind, h.text⟩

lemma Divides.split?_eq (h : op.Divides s before behind) :
    split? s.toList = some (before.toList, op, behind.toList) := by
  cases hsplit : split? s.toList with
  | none => exact absurd h.within (not_within_iff.mpr hsplit)
  | some found =>
    obtain ⟨a, other, b⟩ := found
    have hfound : other.Divides s (.ofList a) (.ofList b) :=
      divides_of_split? (by simpa using hsplit)
    obtain ⟨rfl, rfl, rfl⟩ := h.unique hfound
    simp

/-- No operator is written before the one that divides the text. -/
lemma Divides.not_within (h : op.Divides s before behind) : ¬ Within before := by
  rintro ⟨other, a, b, rfl⟩
  have hle := h.leftmost other a (b ++ op.symbol ++ behind) (by simp [h.text, String.append_assoc])
  have hsymbol : 0 < other.symbol.length := by
    cases other <;> decide
  simp only [String.length_append] at hle
  omega

lemma Within.of_trim (h : Within (Text.trim s)) : Within s := by
  rw [within_iff] at h ⊢
  obtain ⟨op, hop⟩ := h
  rw [Text.trim, String.toList_ofList] at hop
  exact ⟨op, hop.trans (Text.isInfix_trimChars _)⟩

end Operator

namespace Comparison

variable {s before behind : String} {op : Operator} {c : Comparison}

/-! ### The two sides -/

/-- The sides of a divided text are its parts, trimmed, if there is something on the right. -/
lemma parse?_of_divides (h : op.Divides s before behind) :
    parse? s =
      if Text.trim behind = "" then none else some ⟨Text.trim before, op, Text.trim behind⟩ := by
  have hblank : Text.trim behind = "" ↔ Text.trimChars behind.toList = [] := by
    simp [Text.trim]
  by_cases hempty : Text.trim behind = ""
  · simp [parse?, h.split?_eq, hempty, hblank.mp hempty]
  · rw [if_neg hempty]
    exact parse?_of_split? h.split?_eq (mt hblank.mpr hempty)

lemma parse?_eq_none_iff :
    parse? s = none ↔ ¬ Operator.Within s ∨
      ∃ op before behind, Operator.Divides op s before behind ∧ Text.trim behind = "" := by
  constructor
  · intro h
    by_cases hwithin : Operator.Within s
    · obtain ⟨op, before, behind, hdivides⟩ := Operator.exists_divides hwithin
      rw [parse?_of_divides hdivides] at h
      refine .inr ⟨op, before, behind, hdivides, ?_⟩
      by_contra hne
      simp [hne] at h
    · exact .inl hwithin
  · rintro (hplain | ⟨op, before, behind, hdivides, hempty⟩)
    · exact parse?_eq_none_of_not_within hplain
    · rw [parse?_of_divides hdivides, if_pos hempty]

lemma parse?_eq_some_iff :
    parse? s = some c ↔ ∃ before behind, c.op.Divides s before behind ∧
      c.lhs = Text.trim before ∧ c.rhs = Text.trim behind ∧ c.rhs ≠ "" := by
  constructor
  · intro h
    have hwithin : Operator.Within s := by
      by_contra hplain
      rw [parse?_eq_none_of_not_within hplain] at h
      cases h
    obtain ⟨op, before, behind, hdivides⟩ := Operator.exists_divides hwithin
    rw [parse?_of_divides hdivides] at h
    split_ifs at h with hempty
    cases h
    exact ⟨before, behind, hdivides, rfl, rfl, hempty⟩
  · rintro ⟨before, behind, hdivides, hlhs, hrhs, hne⟩
    rw [parse?_of_divides hdivides, if_neg (hrhs ▸ hne), ← hlhs, ← hrhs]

/-- Two trimmed sides with a symbol between blanks are read as they are. -/
lemma parse?_written {l r : String} (hl : Text.trim l = l) (hplain : ¬ Operator.Within l)
    (hr : Text.trim r = r) (hne : r ≠ "") (op : Operator) :
    parse? (l ++ " " ++ op.symbol ++ " " ++ r) = some ⟨l, op, r⟩ := by
  have hdivides : op.Divides (l ++ " " ++ op.symbol ++ " " ++ r) (l ++ " ") (" " ++ r) := by
    apply Operator.divides_of_split?
    simpa using Operator.split?_written (Operator.not_within_iff.mp hplain) op r.toList
  rw [parse?_of_divides hdivides, Text.trim_append_space, Text.trim_space_append, hl, hr,
    if_neg hne]

/-- A text is no comparison if no symbol is written in it, or if nothing but blanks stands behind
the one that divides it, the longest of the leftmost. Otherwise it is divided there, its sides are
the trimmed parts, there is something on the right and no symbol on the left, and the two sides with
the symbol between blanks are the same comparison. -/
theorem parse?_leftmostLongest (s : String) :
    (parse? s = none ↔ ¬ Operator.Within s ∨
      ∃ op a b, Operator.Divides op s a b ∧ ∀ c ∈ b.toList, Text.isBlank c) ∧
    ∀ c, parse? s = some c →
      ¬ Operator.Within c.lhs ∧
      (∃ a b, c.op.Divides s a b ∧ c.lhs = Text.trim a ∧ c.rhs = Text.trim b ∧ c.rhs ≠ "") ∧
      parse? (c.lhs ++ " " ++ c.op.symbol ++ " " ++ c.rhs) = some c := by
  constructor
  · simp only [parse?_eq_none_iff, Text.trim_eq_empty_iff]
  · intro c h
    obtain ⟨a, b, hdivides, hlhs, hrhs, hne⟩ := parse?_eq_some_iff.mp h
    have hplain : ¬ Operator.Within c.lhs := by
      rw [hlhs]
      exact fun hwithin => hdivides.not_within hwithin.of_trim
    have hleft : Text.trim c.lhs = c.lhs := by
      rw [hlhs, Text.trim_trim]
    have hright : Text.trim c.rhs = c.rhs := by
      rw [hrhs, Text.trim_trim]
    exact ⟨hplain, ⟨a, b, hdivides, hlhs, hrhs, hne⟩, parse?_written hleft hplain hright hne c.op⟩

/-- Signs that make no symbol on the left, and a symbol on the right that becomes no part of the
first. -/
theorem parse?_leftmostLongest_signs :
    let s := " a=!b\u2003>== c < d\n"
    let c : Comparison := ⟨"a=!b", .greaterOrEqual, "= c < d"⟩
    parse? s = some c ∧ ¬ Operator.Within c.lhs ∧
      (∃ a b, c.op.Divides s a b ∧ c.lhs = Text.trim a ∧ c.rhs = Text.trim b ∧ c.rhs ≠ "") ∧
      parse? "a=!b >= = c < d" = some c := by
  intro s c
  have hparse : parse? s = some c := by decide
  obtain ⟨-, hread⟩ := parse?_leftmostLongest s
  exact ⟨hparse, hread c hparse⟩

end Comparison

end Dialogue
