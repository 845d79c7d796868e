import Dialogue.Predicate
import Dialogue.Proofs.Predicate.Comparison
import Dialogue.Proofs.Template.Padding

/-!
# Predicates that match texts

A predicate in which no comparison is written, filled with the values of the variables, is held
against the input as one text against another. Neither goes before the other: the test is that one
contains the other and none is empty, whatever the value of a variable looks like.
-/

namespace Dialogue.Predicate

variable {predicate : String} {input : Option String} {vars : Table String}

/-! ### The two ways of a test -/

lemma folded_of_trim_eq_empty {s : String} (h : Text.trim s = "") : folded s = "" := by
  rw [folded, h]
  rfl

/-- A text matches an input if one contains the other and none is empty. -/
lemma textsMatch_iff {a b : String} :
    textsMatch a b ↔ a ≠ "" ∧ b ≠ "" ∧ (a.toList <:+: b.toList ∨ b.toList <:+: a.toList) := by
  simp only [textsMatch, Text.contains]
  split_ifs with hempty hequal
  · simp [hempty]
  · subst hequal
    simp [hempty]
  · simp [hempty, Text.occursIn_iff_isInfix]

lemma textsMatch_comm (a b : String) : textsMatch a b = textsMatch b a := by
  rw [Bool.eq_iff_iff, textsMatch_iff, textsMatch_iff]
  constructor
  · rintro ⟨ha, hb, hcontains⟩
    exact ⟨hb, ha, hcontains.symm⟩
  · rintro ⟨hb, ha, hcontains⟩
    exact ⟨ha, hb, hcontains.symm⟩

lemma holds_of_comparison {c : Comparison}
    (h : Comparison.parse? (Text.trim predicate) = some c) :
    holds predicate input vars = compares c (input.getD "") vars := by
  have hne : Text.trim predicate ≠ "" := by
    intro hempty
    rw [hempty] at h
    cases h
  simp only [holds, hne, h, if_false]

/-- A blank predicate is filled with nothing, so that the test for it decides nothing that the match
would not. -/
lemma holds_of_text (h : Comparison.parse? (Text.trim predicate) = none) :
    holds predicate input vars =
      textsMatch (folded (Template.fill vars predicate)) (folded (input.getD "")) := by
  simp only [holds, h]
  split_ifs with hempty
  · have hbrace : '\x7b' ∉ predicate.toList := by
      intro hmem
      have hblank := Text.trim_eq_empty_iff.mp hempty _ hmem
      revert hblank
      decide
    rw [Template.fill_of_not_mem hbrace, folded_of_trim_eq_empty hempty]
    rfl
  · rfl

/-! ### Tokens as predicates -/

lemma isNameChar_of_isSign {c : Char} (hc : Operator.isSign c) : Template.isNameChar c = false := by
  simp only [Operator.isSign, Bool.or_eq_true, decide_eq_true_eq] at hc
  rcases hc with ((rfl | rfl) | rfl) | rfl <;> decide

/-- No operator is written in a token. -/
lemma parse?_trim_token {name : String} (hname : Template.IsName name) :
    Comparison.parse? (Text.trim (Template.token name)) = none := by
  have hchars : ∀ c ∈ (Template.token name).toList, Operator.isSign c = false := by
    intro c hc
    rw [Template.toList_token] at hc
    simp only [List.cons_append, List.mem_cons, List.mem_append, List.not_mem_nil, or_false] at hc
    rcases hc with rfl | hc | rfl
    · decide
    · by_contra hsign
      have hother := isNameChar_of_isSign ((Bool.not_eq_false _).mp hsign)
      rw [(Template.isName_iff.mp hname).2 c hc] at hother
      cases hother
    · decide
  apply Comparison.parse?_eq_none_of_not_within
  rw [Operator.not_within_iff, Text.trim, String.toList_ofList]
  exact Operator.split?_of_not_isSign fun c hc => hchars c (Text.mem_of_mem_trimChars hc)

lemma fill_token_insert {name : String} (hname : Template.IsName name) (vars : Table String)
    (value : String) :
    Template.fill (vars.insert name value) (Template.token name) = value := by
  have hfill : Template.fill (vars.insert name value) ("" ++ Template.token name ++ "") =
      "" ++ ((vars.insert name value).get? name).getD (Template.token name) ++ "" :=
    Template.fill_token hname "" ""
  simpa using hfill

/-- A predicate in which no comparison is written, whatever the values of its variables, holds of an
input if the two, filled, trimmed and in lower case, are texts of which one contains the other and
none is empty. So a variable alone holds of an input as the input, as its value, holds of what was
its value. -/
theorem holds_symmetric :
    (∀ (predicate : String) (input : Option String) (vars : Table String),
      Comparison.parse? (Text.trim predicate) = none →
        let said := Text.lowercase (Text.trim (input.getD ""))
        let meant := Text.lowercase (Text.trim (Template.fill vars predicate))
        holds predicate input vars ↔
          said ≠ "" ∧ meant ≠ "" ∧
            (said.toList <:+: meant.toList ∨ meant.toList <:+: said.toList)) ∧
    ∀ (name a b : String) (vars : Table String), Template.IsName name →
      holds (Template.token name) (some a) (vars.insert name b) =
        holds (Template.token name) (some b) (vars.insert name a) := by
  constructor
  · intro predicate input vars h said meant
    rw [holds_of_text h, textsMatch_comm]
    exact textsMatch_iff
  · intro name a b vars hname
    have hparse := parse?_trim_token hname
    rw [holds_of_text hparse, holds_of_text hparse, fill_token_insert hname,
      fill_token_insert hname]
    exact textsMatch_comm _ _

/-- The value of a variable may look like a comparison or hold a token. -/
theorem holds_symmetric_sample :
    let vars : Table String := (∅ : Table String).insert "who" "== Ada"
    let odd := "I <3 \x7bwho\x7d"
    (Comparison.parse? (Text.trim "yes \x7bwho\x7d") = none ∧
      holds "yes \x7bwho\x7d" (some " YES == ADA, please ") vars = true) ∧
    Template.IsName "who" ∧
      holds (Template.token "who") (some "<3") (vars.insert "who" odd) =
        holds (Template.token "who") (some odd) (vars.insert "who" "<3") := by
  intro vars odd
  obtain ⟨hmatch, hswap⟩ := holds_symmetric
  have hparse : Comparison.parse? (Text.trim "yes \x7bwho\x7d") = none := by decide
  have hname : Template.IsName "who" := by decide
  have hsaid : Text.lowercase (Text.trim " YES == ADA, please ") = "yes == ada, please" := by
    decide
  have hmeant : Text.lowercase (Text.trim (Template.fill vars "yes \x7bwho\x7d")) =
      "yes == ada" := by
    decide
  have hcontains : "yes == ada".toList <:+: "yes == ada, please".toList :=
    Text.occursIn_iff_isInfix.mp (by decide)
  refine ⟨⟨hparse, ?_⟩, hname, hswap "who" "<3" odd vars hname⟩
  apply (hmatch _ (some " YES == ADA, please ") vars hparse).mpr
  simp only [Option.getD_some, hsaid, hmeant]
  exact ⟨by decide, by decide, .inr hcontains⟩

end Dialogue.Predicate
