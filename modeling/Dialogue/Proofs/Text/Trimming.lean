import Dialogue.Text.Blank
import Dialogue.Text.Lowercase
import Mathlib.Data.List.DropRight

/-!
# Trimmed texts

What trimming leaves has no blanks to trim, and writing a text in capitals neither makes nor loses a
blank. So the order of the two does not matter, and doing either twice is doing it once.
-/

namespace Dialogue.Text

variable {c : Char} {s : String}

/-! ### Blanks -/

/-- What holds at all code points of a set holds of its characters. -/
lemma CodePoints.forall_of_has {ranges : CodePoints} {P : Char → Prop}
    (h : ∀ r ∈ ranges, ∀ n < r.2 + 1 - r.1, P (Char.ofNat (r.1 + n))) (hc : ranges.has c) :
    P c := by
  rw [CodePoints.has, List.any_eq_true] at hc
  obtain ⟨r, hr, hbetween⟩ := hc
  rw [Bool.and_eq_true, decide_eq_true_eq, decide_eq_true_eq] at hbetween
  have hpoint := h r hr (c.toNat - r.1) (by omega)
  rwa [Nat.add_sub_cancel' hbetween.1, Char.ofNat_toNat] at hpoint

lemma trimChars_eq (cs : List Char) : trimChars cs = (cs.dropWhile isBlank).rdropWhile isBlank :=
  rfl

lemma trim_eq_empty_iff : trim s = "" ↔ ∀ c ∈ s.toList, isBlank c := by
  rw [trim, String.ofList_eq_empty_iff, trimChars_eq, List.rdropWhile_eq_nil_iff]
  constructor
  · intro h c hc
    rw [← List.takeWhile_append_dropWhile (p := isBlank) (l := s.toList)] at hc
    rcases List.mem_append.mp hc with hc | hc
    · exact List.mem_takeWhile_imp hc
    · exact h c hc
  · intro h c hc
    exact h c ((List.dropWhile_suffix isBlank).mem hc)

lemma isInfix_trimChars (cs : List Char) : trimChars cs <:+: cs := by
  rw [trimChars_eq]
  have hback := (List.rdropWhile_prefix isBlank (cs.dropWhile isBlank)).isInfix
  exact hback.trans (List.dropWhile_suffix isBlank).isInfix

lemma mem_of_mem_trimChars {cs : List Char} (h : c ∈ trimChars cs) : c ∈ cs :=
  (isInfix_trimChars cs).subset h

/-- A text with a character that is not blank is not blank. -/
lemma trim_ne_empty (hmem : c ∈ s.toList) (hc : isBlank c = false) : trim s ≠ "" := by
  intro hempty
  rw [trim_eq_empty_iff.mp hempty c hmem] at hc
  cases hc

/-- The characters of ASCII from `!` to `~` are not blank. -/
lemma isBlank_of_graphic (h : 33 ≤ c.toNat ∧ c.toNat ≤ 126) : isBlank c = false := by
  simp only [isBlank, CodePoints.has, List.any_eq_false, Bool.and_eq_true, decide_eq_true_eq]
  have hranges : ∀ r ∈ blankRanges, r.2 < 33 ∨ 126 < r.1 := by decide
  intro r hr hbetween
  rcases hranges r hr with hbelow | habove
  · omega
  · omega

lemma trim_trim (s : String) : trim (trim s) = trim s := by
  simp only [trim, String.toList_ofList, trimChars_eq]
  congr 1
  set cs := s.toList.dropWhile isBlank with hcs
  -- No blank is left at the front: what the end loses leaves a prefix of `cs`.
  have hfront : (cs.rdropWhile isBlank).dropWhile isBlank = cs.rdropWhile isBlank := by
    have hfirst := List.dropWhile_eq_self_iff.mp (List.dropWhile_idempotent isBlank s.toList)
    apply List.dropWhile_eq_self_iff.mpr
    intro hpos
    rw [List.IsPrefix.getElem (List.rdropWhile_prefix isBlank cs) hpos]
    exact hfirst _
  rw [hfront, List.rdropWhile_idempotent]

/-- Blanks around a text do not matter to what trimming leaves. -/
lemma trim_padded {w₁ w₂ : String} (h₁ : ∀ c ∈ w₁.toList, isBlank c)
    (h₂ : ∀ c ∈ w₂.toList, isBlank c) (s : String) : trim (w₁ ++ s ++ w₂) = trim s := by
  have h₂' : ∀ c ∈ w₂.toList.reverse, isBlank c := by simpa using h₂
  simp only [trim, trimChars, String.toList_append, List.append_assoc,
    List.dropWhile_append_of_pos h₁]
  rw [List.dropWhile_append]
  split
  next hall =>
    -- All of `s` is blank, so that nothing is left on either side.
    rw [List.isEmpty_iff.mp hall, ← List.append_nil w₂.toList, List.dropWhile_append_of_pos h₂]
    rfl
  next => rw [List.reverse_append, List.dropWhile_append_of_pos h₂']

lemma isBlank_of_mem_space : ∀ c ∈ " ".toList, isBlank c := List.all_eq_true.mp (by decide)

lemma trim_space_append (s : String) : trim (" " ++ s) = trim s := by
  have hpadded : trim (" " ++ s ++ "") = trim s := trim_padded isBlank_of_mem_space (by simp) s
  rwa [String.append_empty] at hpadded

lemma trim_append_space (s : String) : trim (s ++ " ") = trim s := by
  have hpadded : trim ("" ++ s ++ " ") = trim s := trim_padded (by simp) isBlank_of_mem_space s
  rwa [String.empty_append] at hpadded

/-- Trimming leaves a text as it is that has no blank to drop at either end. -/
lemma trimChars_eq_self_iff {cs : List Char} :
    trimChars cs = cs ↔
      cs.dropWhile isBlank = cs ∧ cs.reverse.dropWhile isBlank = cs.reverse := by
  constructor
  · intro h
    have hkept : cs.Sublist (cs.dropWhile isBlank) := by
      have hprefix := (List.rdropWhile_prefix isBlank (cs.dropWhile isBlank)).sublist
      rwa [← trimChars_eq, h] at hprefix
    have hfront : cs.dropWhile isBlank = cs :=
      (List.dropWhile_suffix isBlank).sublist.antisymm hkept
    rw [trimChars, hfront] at h
    exact ⟨hfront, List.reverse_eq_iff.mp h⟩
  · rintro ⟨hfront, hback⟩
    rw [trimChars, hfront, hback, List.reverse_reverse]

/-- Characters that become others are trimmed in the same places if blanks stay and no other
character becomes one. -/
lemma trimChars_map {f : Char → Char} (hf : ∀ c, isBlank (f c) = isBlank c) (cs : List Char) :
    trimChars (cs.map f) = (trimChars cs).map f := by
  have hblank : isBlank ∘ f = isBlank := funext hf
  simp only [trimChars, List.dropWhile_map, ← List.map_reverse, hblank]

/-- What stands between two trimmed texts is not trimmed. -/
lemma trim_append_append {a b : String} (ha : trim a = a) (hane : a ≠ "") (hb : trim b = b)
    (hbne : b ≠ "") (m : String) : trim (a ++ m ++ b) = a ++ m ++ b := by
  have hchars : ∀ {s : String}, trim s = s → trimChars s.toList = s.toList := by
    intro s hs
    simpa [trim] using congrArg String.toList hs
  have hane' : a.toList ≠ [] := by simpa using hane
  have hbne' : b.toList ≠ [] := by simpa using hbne
  obtain ⟨hfront, -⟩ := trimChars_eq_self_iff.mp (hchars ha)
  obtain ⟨-, hback⟩ := trimChars_eq_self_iff.mp (hchars hb)
  rw [← String.toList_inj, trim, String.toList_ofList, trimChars_eq_self_iff]
  simp [List.dropWhile_append, hfront, hback, hane', hbne']

lemma nonBlank_nonBlank (text : Option String) : nonBlank (nonBlank text) = nonBlank text := by
  simp only [nonBlank, Option.filter_filter, Bool.and_self]

/-! ### Capitals -/

lemma toUpper_of_small (h : 97 ≤ c.toNat ∧ c.toNat ≤ 122) : c.toUpper.toNat = c.toNat - 32 := by
  have hsmall : 'a'.val ≤ c.val ∧ c.val ≤ 'z'.val := h
  have hupper : c.toUpper.val = c.val + ('A'.val - 'a'.val) := by
    delta Char.toUpper
    rw [dif_pos hsmall]
  have hshift : ('A'.val - 'a'.val).toNat = 2 ^ 32 - 32 := rfl
  have hcode : 97 ≤ c.val.toNat ∧ c.val.toNat ≤ 122 := h
  show c.toUpper.val.toNat = c.val.toNat - 32
  rw [hupper, UInt32.toNat_add, hshift]
  omega

lemma toUpper_of_not_small (h : ¬ (97 ≤ c.toNat ∧ c.toNat ≤ 122)) : c.toUpper = c := by
  have hnot : ¬ ('a'.val ≤ c.val ∧ c.val ≤ 'z'.val) := h
  exact dif_neg hnot

lemma toUpper_toUpper (c : Char) : c.toUpper.toUpper = c.toUpper := by
  by_cases hc : 97 ≤ c.toNat ∧ c.toNat ≤ 122
  · apply toUpper_of_not_small
    rw [toUpper_of_small hc]
    omega
  · rw [toUpper_of_not_small hc, toUpper_of_not_small hc]

lemma isBlank_toUpper (c : Char) : isBlank c.toUpper = isBlank c := by
  by_cases hc : 97 ≤ c.toNat ∧ c.toNat ≤ 122
  · have hupper : c.toUpper.toNat = c.toNat - 32 := toUpper_of_small hc
    rw [isBlank_of_graphic (by omega), isBlank_of_graphic (by omega)]
  · rw [toUpper_of_not_small hc]

lemma asciiUppercase_asciiUppercase (s : String) :
    asciiUppercase (asciiUppercase s) = asciiUppercase s := by
  simp only [asciiUppercase, String.toList_ofList, List.map_map]
  congr 1
  exact List.map_congr_left fun c _ => toUpper_toUpper c

lemma trim_asciiUppercase (s : String) : trim (asciiUppercase s) = asciiUppercase (trim s) := by
  simp only [trim, asciiUppercase, String.toList_ofList, trimChars_map isBlank_toUpper]

end Dialogue.Text
