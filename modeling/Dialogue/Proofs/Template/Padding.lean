import Dialogue.Proofs.Template.Substitution
import Dialogue.Proofs.Text.Trimming

/-!
# Blanks around templates

No blank stands in a token. So the blanks around a template are around what it is filled to, and
where no brace opens there is nothing to fill.
-/

namespace Dialogue.Template

variable {vars : Table String}

/-! ### Blanks -/

/-- A blank is no part of a token. -/
lemma not_token_of_isBlank {c : Char} (hc : Text.isBlank c) :
    isNameChar c = false ∧ c ≠ '\x7b' ∧ c ≠ '\x7d' :=
  Text.CodePoints.forall_of_has
    (P := fun c => isNameChar c = false ∧ c ≠ '\x7b' ∧ c ≠ '\x7d') (by decide +kernel) hc

/-- A character that is no part of a token parts a template in two. -/
lemma flatMap_value_append_cons {c : Char} (hc : isNameChar c = false) (hopen : c ≠ '\x7b')
    (hclose : c ≠ '\x7d') (state : Option (List Char)) (before after : List Char) :
    (piecesFrom state (before ++ c :: after)).flatMap (Piece.value vars) =
      (piecesFrom state before).flatMap (Piece.value vars) ++
        c :: (piecesFrom none after).flatMap (Piece.value vars) := by
  induction before generalizing state with
  | nil =>
    cases state <;> simp [piecesFrom, hc, hopen, hclose, Piece.value, Piece.value?]
  | cons b before ih =>
    cases state with
    | none =>
      simp only [List.cons_append, piecesFrom]
      split_ifs <;> simp [ih]
    | some name =>
      simp only [List.cons_append, piecesFrom]
      split_ifs <;> simp [ih]

lemma flatMap_value_blanks_append (vars : Table String) {w : List Char}
    (hw : ∀ c ∈ w, Text.isBlank c) (cs : List Char) :
    (piecesFrom none (w ++ cs)).flatMap (Piece.value vars) =
      w ++ (piecesFrom none cs).flatMap (Piece.value vars) := by
  induction w with
  | nil => rfl
  | cons c w ih =>
    obtain ⟨hc, hw⟩ := List.forall_mem_cons.mp hw
    obtain ⟨-, hopen, -⟩ := not_token_of_isBlank hc
    simp [piecesFrom, hopen, Piece.value, Piece.value?, ih hw]

lemma flatMap_value_append_blanks {w : List Char} (hw : ∀ c ∈ w, Text.isBlank c)
    (cs : List Char) :
    (piecesFrom none (cs ++ w)).flatMap (Piece.value vars) =
      (piecesFrom none cs).flatMap (Piece.value vars) ++ w := by
  cases w with
  | nil => rw [List.append_nil, List.append_nil]
  | cons c w =>
    obtain ⟨hc, hw⟩ := List.forall_mem_cons.mp hw
    obtain ⟨hname, hopen, hclose⟩ := not_token_of_isBlank hc
    have hrest := flatMap_value_blanks_append vars hw []
    rw [List.append_nil, piecesFrom, List.flatMap_nil, List.append_nil] at hrest
    rw [flatMap_value_append_cons hname hopen hclose, hrest]

/-- The blanks around a template are around what it is filled to. -/
lemma fill_padded {w₁ w₂ : String} (h₁ : ∀ c ∈ w₁.toList, Text.isBlank c)
    (h₂ : ∀ c ∈ w₂.toList, Text.isBlank c) (template : String) :
    fill vars (w₁ ++ template ++ w₂) = w₁ ++ fill vars template ++ w₂ := by
  simp only [fill, pieces, String.toList_append, flatMap_value_append_blanks h₂,
    flatMap_value_blanks_append vars h₁, String.ofList_append, String.ofList_toList]

/-! ### Templates without braces -/

lemma not_occurs_of_not_mem {name template : String} (h : '\x7b' ∉ template.toList) :
    ¬ Occurs name template := by
  rintro ⟨-, before, after, rfl⟩
  simp [token] at h

lemma fill_of_not_mem {template : String} (h : '\x7b' ∉ template.toList) :
    fill vars template = template :=
  fill_of_not_occurs fun _ => not_occurs_of_not_mem h

lemma fill?_of_not_mem {template : String} (h : '\x7b' ∉ template.toList) :
    fill? vars template = some template := by
  rw [fill?_of_known fun _ hoccurs => absurd hoccurs (not_occurs_of_not_mem h), fill_of_not_mem h]

end Dialogue.Template
