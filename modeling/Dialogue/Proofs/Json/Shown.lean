import Dialogue.Json.Writing
import Dialogue.Proofs.Text.Trimming

/-!
# The texts of trees

No tree is written as a blank text: brackets, quotes, digits and letters all have a shape.
-/

namespace Dialogue

open Text (trim_ne_empty isBlank_of_graphic)

/-! ### Numbers -/

namespace Decimal

variable {digits : List Char}

lemma isBlank_of_isDigit {c : Char} (h : c.isDigit) : Text.isBlank c = false := by
  have hcode : 48 ≤ c.toNat ∧ c.toNat ≤ 57 := by
    simpa [Char.isDigit, UInt32.le_iff_toNat_le] using h
  exact isBlank_of_graphic (by omega)

lemma exists_mem_positionalDigits (place : Int) (pointZero : Bool) (hne : digits ≠ [])
    (hdigits : ∀ c ∈ digits, c.isDigit) :
    ∃ c ∈ positionalDigits digits place pointZero, Text.isBlank c = false := by
  obtain ⟨d, rest, rfl⟩ := List.exists_cons_of_ne_nil hne
  simp only [positionalDigits]
  by_cases hplace : place ≤ 0
  · rw [if_pos hplace]
    exact ⟨'0', List.mem_cons_self, rfl⟩
  · -- The first digit stands before the point.
    obtain ⟨k, hk⟩ : ∃ k, place.toNat = k + 1 := ⟨place.toNat - 1, by omega⟩
    refine ⟨d, ?_, isBlank_of_isDigit (hdigits d List.mem_cons_self)⟩
    rw [if_neg hplace, hk, List.take_succ_cons]
    split
    · split
      · simp
      · simp
    · simp

lemma exists_mem_exponentialDigits (digits : List Char) (exponent : Int) :
    ∃ c ∈ exponentialDigits digits exponent, Text.isBlank c = false := by
  have hmark : 'e' ∈ if exponent < 0 then ['e', '-'] else ['e', '+'] := by
    split
    · exact List.mem_cons_self
    · exact List.mem_cons_self
  refine ⟨'e', ?_, rfl⟩
  simp only [exponentialDigits]
  exact List.mem_append_left _ (List.mem_append_right _ hmark)

lemma trim_signed_ne {body : List Char} (negative : Bool)
    (h : ∃ c ∈ body, Text.isBlank c = false) :
    Text.trim (String.ofList (if negative then '-' :: body else body)) ≠ "" := by
  obtain ⟨c, hc, hshown⟩ := h
  refine trim_ne_empty (c := c) ?_ hshown
  rw [String.toList_ofList]
  split
  · exact List.mem_cons_of_mem _ hc
  · exact hc

lemma exists_mem_laidOut (l : Layout) (n : Nat) (power : Int) :
    ∃ c ∈ (if l.positional power then positionalDigits (Nat.toDigits 10 n) (power + 1) l.pointZero
      else exponentialDigits (Nat.toDigits 10 n) power), Text.isBlank c = false := by
  split
  · refine exists_mem_positionalDigits _ _ Nat.toDigits_ne_nil fun c hc => ?_
    exact Nat.isDigit_of_mem_toDigits (by decide) (by decide) hc
  · exact exists_mem_exponentialDigits _ _

lemma trim_write_ne (l : Layout) (negative : Bool) (mantissa : Nat) (exponent : Int) :
    Text.trim (l.write negative mantissa exponent) ≠ "" :=
  trim_signed_ne negative (exists_mem_laidOut l _ _)

end Decimal

/-! ### Trees -/

namespace Json

lemma trim_numberText_ne (x : Float) : Text.trim (numberText x) ≠ "" := by
  simp only [numberText]
  split
  · exact Decimal.trim_write_ne _ _ _ _
  · decide +kernel

lemma trim_repr_ne (i : Int) : Text.trim (toString i) ≠ "" := by
  obtain ⟨d, hd⟩ := List.exists_mem_of_ne_nil _ (Nat.toDigits_ne_nil (b := 10) (n := i.natAbs))
  have hdigit : d.isDigit := Nat.isDigit_of_mem_toDigits (by decide) (by decide) hd
  refine trim_ne_empty (c := d) ?_ (Decimal.isBlank_of_isDigit hdigit)
  show d ∈ i.repr.toList
  cases i with
  | ofNat n => simpa [Int.repr, Nat.repr] using hd
  | negSucc n => simpa [Int.repr, Nat.repr] using Or.inr hd

lemma trim_scalarText_ne (j : Json) : Text.trim j.scalarText ≠ "" := by
  cases j with
  | bool b => cases b <;> decide +kernel
  | integer i => exact trim_repr_ne i
  | decimal x => exact trim_numberText_ne x
  | string s =>
    refine trim_ne_empty (c := '"') ?_ rfl
    simp [scalarText, stringText]
  | null | array | object | unreadable =>
    have hnull : Text.trim "null" ≠ "" := by decide +kernel
    exact hnull

/-- No tree is written as a blank text. -/
lemma trim_compact_ne (j : Json) : Text.trim j.compact ≠ "" := by
  cases j with
  | array items =>
    refine trim_ne_empty (c := '[') ?_ rfl
    simp [compact]
  | object fields =>
    refine trim_ne_empty (c := '\x7b') ?_ rfl
    simp [compact]
  | _ =>
    simp only [compact]
    exact trim_scalarText_ne _

end Json

end Dialogue
