import Dialogue.Proofs.Text.Trimming

/-!
# Texts in small letters

What is blank, what ends a word and what a character is in lower case do not depend on the case of
the letters of ASCII. So a text with its capitals made small has the same lower-case form, and is
trimmed in the same places.
-/

namespace Dialogue.Text

/-- What holds of the capitals of ASCII and of their small letters alike does not depend on the
case of a letter. -/
lemma apply_toLower {α : Type*} {f : Char → α}
    (hf : ∀ n : Fin 26, f (Char.ofNat (65 + n)).toLower = f (Char.ofNat (65 + n))) (c : Char) :
    f c.toLower = f c := by
  by_cases hc : 65 ≤ c.toNat ∧ c.toNat ≤ 90
  · have hcapital : Char.ofNat (65 + (c.toNat - 65)) = c := by
      rw [Nat.add_sub_cancel' hc.1, Char.ofNat_toNat]
    have hletter := hf ⟨c.toNat - 65, by omega⟩
    rwa [hcapital] at hletter
  · have hnot : ¬ ('A'.val ≤ c.val ∧ c.val ≤ 'Z'.val) := hc
    have hkept : c.toLower = c := dif_neg hnot
    rw [hkept]

lemma toLower_toLower (c : Char) : c.toLower.toLower = c.toLower :=
  apply_toLower (by decide) c

lemma isBlank_toLower (c : Char) : isBlank c.toLower = isBlank c :=
  apply_toLower (by decide) c

lemma isCased_toLower (c : Char) : isCased c.toLower = isCased c :=
  apply_toLower (by decide) c

lemma isCaseIgnorable_toLower (c : Char) : isCaseIgnorable c.toLower = isCaseIgnorable c :=
  apply_toLower (by decide +kernel) c

lemma lowerChar_toLower (c : Char) : lowerChar c.toLower = lowerChar c :=
  apply_toLower (by decide) c

/-! ### Texts -/

lemma meetsCased_map_toLower (cs : List Char) :
    meetsCased (cs.map Char.toLower) = meetsCased cs := by
  have hignorable : isCaseIgnorable ∘ Char.toLower = isCaseIgnorable :=
    funext isCaseIgnorable_toLower
  rw [meetsCased, meetsCased, List.dropWhile_map, hignorable]
  cases cs.dropWhile isCaseIgnorable with
  | nil => rfl
  | cons c rest => exact isCased_toLower c

/-- The form of a sigma hangs on the letters around it, not on their case. -/
lemma lowerBehind_map_toLower (before cs : List Char) :
    lowerBehind (before.map Char.toLower) (cs.map Char.toLower) = lowerBehind before cs := by
  induction cs generalizing before with
  | nil => rfl
  | cons c rest ih =>
    have hsigma : (c.toLower = '\u03a3') = (c = '\u03a3') := by
      simpa using apply_toLower (f := fun c => decide (c = '\u03a3')) (by decide) c
    have hrest := ih (c :: before)
    rw [List.map_cons] at hrest
    simp only [List.map_cons, lowerBehind, hsigma, lowerChar_toLower, sigma,
      meetsCased_map_toLower, hrest]

lemma lowercase_asciiLowercase (s : String) : lowercase (asciiLowercase s) = lowercase s := by
  have hbehind := lowerBehind_map_toLower [] s.toList
  rw [List.map_nil] at hbehind
  rw [lowercase, asciiLowercase, String.toList_ofList, hbehind, lowercase]

lemma asciiLowercase_asciiLowercase (s : String) :
    asciiLowercase (asciiLowercase s) = asciiLowercase s := by
  simp only [asciiLowercase, String.toList_ofList, List.map_map]
  congr 1
  exact List.map_congr_left fun c _ => toLower_toLower c

lemma trim_asciiLowercase (s : String) : trim (asciiLowercase s) = asciiLowercase (trim s) := by
  simp only [trim, asciiLowercase, String.toList_ofList, trimChars_map isBlank_toLower]

end Dialogue.Text
