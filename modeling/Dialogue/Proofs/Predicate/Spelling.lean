import Dialogue.Proofs.Predicate.Matching

/-!
# Predicates and inputs spelled otherwise

Blanks around a predicate or around an input do not matter, and neither does the case of the letters
of ASCII where no token can be written. Both are so for comparisons and for texts, though the two
are trimmed and made small in different places: the sides of a comparison after they are cut out and
filled, a text when it has been filled as a whole.
-/

namespace Dialogue.Predicate

variable {predicate text : String} {input : Option String} {vars : Table String}

/-! ### Inputs -/

lemma folded_padded {w₁ w₂ : String} (h₁ : ∀ c ∈ w₁.toList, Text.isBlank c)
    (h₂ : ∀ c ∈ w₂.toList, Text.isBlank c) (s : String) : folded (w₁ ++ s ++ w₂) = folded s := by
  rw [folded, Text.trim_padded h₁ h₂, folded]

lemma folded_asciiLowercase (s : String) : folded (Text.asciiLowercase s) = folded s := by
  rw [folded, Text.trim_asciiLowercase, Text.lowercase_asciiLowercase, folded]

/-- Of an input a test sees the trimmed text in lower case only. -/
lemma holds_congr {other : Option String}
    (h : folded (input.getD "") = folded (other.getD "")) :
    holds predicate input vars = holds predicate other vars := by
  cases hparse : Comparison.parse? (Text.trim predicate) with
  | none => rw [holds_of_text hparse, holds_of_text hparse, h]
  | some c =>
    rw [holds_of_comparison hparse, holds_of_comparison hparse]
    simp only [compares, leftOperand?, h]

/-! ### Predicates -/

lemma holds_padded {w₁ w₂ : String} (h₁ : ∀ c ∈ w₁.toList, Text.isBlank c)
    (h₂ : ∀ c ∈ w₂.toList, Text.isBlank c) :
    holds (w₁ ++ predicate ++ w₂) input vars = holds predicate input vars := by
  have htrim := Text.trim_padded h₁ h₂ predicate
  cases hparse : Comparison.parse? (Text.trim predicate) with
  | none =>
    rw [holds_of_text (htrim ▸ hparse), holds_of_text hparse, Template.fill_padded h₁ h₂,
      folded_padded h₁ h₂]
  | some c => rw [holds_of_comparison (htrim ▸ hparse), holds_of_comparison hparse]

/-- A brace is no letter. -/
lemma mem_asciiLowercase_iff {s : String} :
    '\x7b' ∈ (Text.asciiLowercase s).toList ↔ '\x7b' ∈ s.toList := by
  have hbrace : ∀ c : Char, c.toLower = '\x7b' ↔ c = '\x7b' := by
    intro c
    simpa using Text.apply_toLower (f := fun c => decide (c = '\x7b')) (by decide) c
  simp [Text.asciiLowercase, hbrace]

lemma operand?_of_not_mem {side : String} (h : '\x7b' ∉ side.toList) :
    operand? vars side = some (folded side) := by
  rw [operand?, Template.fill?_of_not_mem h, Option.map_some]

lemma operand?_asciiLowercase {side : String} (h : '\x7b' ∉ side.toList) :
    operand? vars (Text.asciiLowercase side) = operand? vars side := by
  have hlowered : '\x7b' ∉ (Text.asciiLowercase side).toList := by
    rwa [mem_asciiLowercase_iff]
  rw [operand?_of_not_mem hlowered, operand?_of_not_mem h, folded_asciiLowercase]

lemma compares_lowered {c : Comparison} (hlhs : '\x7b' ∉ c.lhs.toList)
    (hrhs : '\x7b' ∉ c.rhs.toList) : compares c.lowered text vars = compares c text vars := by
  have hempty : Text.asciiLowercase c.lhs = "" ↔ c.lhs = "" := by
    simp [Text.asciiLowercase]
  simp only [compares, leftOperand?, Comparison.lowered, hempty, operand?_asciiLowercase hlhs,
    operand?_asciiLowercase hrhs]

lemma holds_asciiLowercase (h : '\x7b' ∉ predicate.toList) :
    holds (Text.asciiLowercase predicate) input vars = holds predicate input vars := by
  have hlowered := Comparison.parse?_asciiLowercase (Text.trim predicate)
  rw [← Text.trim_asciiLowercase] at hlowered
  cases hparse : Comparison.parse? (Text.trim predicate) with
  | none =>
    rw [hparse, Option.map_none] at hlowered
    have hbrace : '\x7b' ∉ (Text.asciiLowercase predicate).toList := by
      rwa [mem_asciiLowercase_iff]
    rw [holds_of_text hlowered, holds_of_text hparse, Template.fill_of_not_mem h,
      Template.fill_of_not_mem hbrace, folded_asciiLowercase]
  | some c =>
    rw [hparse, Option.map_some] at hlowered
    have hsides : ∀ x, x ∈ c.lhs.toList ∨ x ∈ c.rhs.toList → x ∈ predicate.toList := by
      intro x hx
      have hmem := Comparison.mem_of_parse? hparse hx
      rw [Text.trim, String.toList_ofList] at hmem
      exact Text.mem_of_mem_trimChars hmem
    have hlhs : '\x7b' ∉ c.lhs.toList := fun hmem => h (hsides _ (.inl hmem))
    have hrhs : '\x7b' ∉ c.rhs.toList := fun hmem => h (hsides _ (.inr hmem))
    rw [holds_of_comparison hlowered, holds_of_comparison hparse, compares_lowered hlhs hrhs]

/-- Blanks around a predicate and around an input do not matter, nor, where the predicate has no
brace, the case of the letters of ASCII in either. -/
theorem holds_insensitive :
    (∀ (predicate w₁ w₂ w₃ w₄ : String) (input : Option String) (vars : Table String),
      (∀ c ∈ w₁.toList, Text.isBlank c) → (∀ c ∈ w₂.toList, Text.isBlank c) →
      (∀ c ∈ w₃.toList, Text.isBlank c) → (∀ c ∈ w₄.toList, Text.isBlank c) →
      holds (w₁ ++ predicate ++ w₂) (input.map fun text => w₃ ++ text ++ w₄) vars =
        holds predicate input vars) ∧
    ∀ (predicate predicate' : String) (input input' : Option String) (vars : Table String),
      '\x7b' ∉ predicate.toList →
      Text.asciiLowercase predicate' = Text.asciiLowercase predicate →
      input'.map Text.asciiLowercase = input.map Text.asciiLowercase →
      holds predicate' input' vars = holds predicate input vars := by
  constructor
  · intro predicate w₁ w₂ w₃ w₄ input vars h₁ h₂ h₃ h₄
    have hinput : folded ((input.map fun text => w₃ ++ text ++ w₄).getD "") =
        folded (input.getD "") := by
      cases input with
      | none => rfl
      | some text => exact folded_padded h₃ h₄ text
    rw [holds_padded h₁ h₂, holds_congr hinput]
  · intro predicate predicate' input input' vars hbrace hpredicate hinput
    have hbrace' : '\x7b' ∉ predicate'.toList := by
      rwa [← mem_asciiLowercase_iff, hpredicate, mem_asciiLowercase_iff]
    have hfolded : ∀ input : Option String,
        folded (input.getD "") = folded ((input.map Text.asciiLowercase).getD "") := by
      intro input
      cases input with
      | none => rfl
      | some text => exact (folded_asciiLowercase text).symm
    calc holds predicate' input' vars
        = holds (Text.asciiLowercase predicate) input' vars := by
          rw [← hpredicate, holds_asciiLowercase hbrace']
      _ = holds predicate input' vars := holds_asciiLowercase hbrace
      _ = holds predicate input vars := by
          apply holds_congr
          rw [hfolded input', hinput, ← hfolded input]

/-- A comparison with blanks around it, and one with its letters in another case. -/
theorem holds_insensitive_sample :
    let vars : Table String := (∅ : Table String).insert "Plan" " Gold"
    let plan := "\x7bPlan\x7d == gold"
    ((∀ c ∈ "\t ".toList, Text.isBlank c) ∧ (∀ c ∈ "\u2003\n".toList, Text.isBlank c) ∧
      holds ("\t " ++ plan ++ "\u2003\n") (some ("\u2003\n" ++ "hi" ++ "\t ")) vars =
        holds plan (some "hi") vars) ∧
    '\x7b' ∉ "> ABC".toList ∧
      Text.asciiLowercase "> aBc" = Text.asciiLowercase "> ABC" ∧
      (some "aBd").map Text.asciiLowercase = (some "AbD").map Text.asciiLowercase ∧
      holds "> aBc" (some "aBd") vars = holds "> ABC" (some "AbD") vars := by
  intro vars plan
  obtain ⟨hblanks, hletters⟩ := holds_insensitive
  have hfront : ∀ c ∈ "\t ".toList, Text.isBlank c := List.all_eq_true.mp (by decide)
  have hback : ∀ c ∈ "\u2003\n".toList, Text.isBlank c := List.all_eq_true.mp (by decide)
  have hbrace : '\x7b' ∉ "> ABC".toList := by decide
  have hpredicate : Text.asciiLowercase "> aBc" = Text.asciiLowercase "> ABC" := by decide
  have hinput : (some "aBd").map Text.asciiLowercase = (some "AbD").map Text.asciiLowercase := by
    decide
  exact ⟨⟨hfront, hback, hblanks plan _ _ _ _ (some "hi") vars hfront hback hback hfront⟩,
    hbrace, hpredicate, hinput, hletters _ _ _ _ vars hbrace hpredicate hinput⟩

end Dialogue.Predicate
