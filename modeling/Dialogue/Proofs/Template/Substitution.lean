import Dialogue.Template
import Mathlib.Data.List.Basic

/-!
# Tokens and their values

Filling a template replaces its tokens and nothing else, each by itself: whatever stands before or
behind a token, be it braces, is filled as if it stood alone. So the pieces of a template are known
from any token in it (`pieces_token`), and the tokens among the pieces are those that are written in
the template (`token_mem_pieces_iff`).
-/

namespace Dialogue.Template

/-! ### Tokens -/

/-- A name that a token can have. -/
def IsName (name : String) : Prop :=
  name ≠ "" ∧ ∀ c ∈ name.toList, Text.isAlphanumeric c ∨ c = '_' ∨ c = '-' ∨ c = '.'

/-- The token of a name, as it is written. -/
def token (name : String) : String := "\x7b" ++ name ++ "\x7d"

/-- A token of this name is written somewhere in the template. -/
def Occurs (name template : String) : Prop :=
  IsName name ∧ ∃ before after, template = before ++ token name ++ after

lemma toList_token (name : String) : (token name).toList = '\x7b' :: name.toList ++ ['\x7d'] := by
  simp [token]

lemma isName_iff {name : String} :
    IsName name ↔ name.toList ≠ [] ∧ ∀ c ∈ name.toList, isNameChar c := by
  simp [IsName, isNameChar, or_assoc]

/-! ### Pieces -/

lemma isNameChar_open : isNameChar '\x7b' = false := by decide

lemma isNameChar_close : isNameChar '\x7d' = false := by decide

/-- An open brace begins anew, whatever was read before it. -/
lemma piecesFrom_append_open (state : Option (List Char)) (before rest : List Char) :
    piecesFrom state (before ++ '\x7b' :: rest) =
      piecesFrom state before ++ piecesFrom (some []) rest := by
  -- For every state, since a token that is begun before the brace can only end as text there.
  induction before generalizing state with
  | nil => cases state <;> simp [piecesFrom, isNameChar_open]
  | cons c before ih =>
    cases state with
    | none =>
      simp only [List.cons_append, piecesFrom, ih]
      split <;> rfl
    | some name =>
      simp only [List.cons_append, piecesFrom, ih]
      split_ifs <;> rfl

/-- Behind an open brace the characters of a name are gathered. -/
lemma piecesFrom_append_name {name : List Char} (hname : ∀ c ∈ name, isNameChar c)
    (gathered rest : List Char) :
    piecesFrom (some gathered) (name ++ rest) =
      piecesFrom (some (name.reverse ++ gathered)) rest := by
  induction name generalizing gathered with
  | nil => rfl
  | cons c name ih =>
    obtain ⟨hc, hname⟩ := List.forall_mem_cons.mp hname
    rw [List.cons_append, piecesFrom, if_pos hc, ih hname]
    simp

lemma piecesFrom_close {gathered : List Char} (hgathered : gathered ≠ []) (rest : List Char) :
    piecesFrom (some gathered) ('\x7d' :: rest) =
      .token gathered.reverse :: piecesFrom none rest := by
  simp [piecesFrom, isNameChar_close, hgathered]

/-- A token is a piece, and what stands before and behind it has its own pieces. -/
lemma pieces_token {name : String} (hname : IsName name) (before after : String) :
    pieces (before ++ token name ++ after) =
      pieces before ++ .token name.toList :: pieces after := by
  obtain ⟨hne, hchars⟩ := isName_iff.mp hname
  have hreverse : name.toList.reverse ++ [] ≠ [] := by simpa using hne
  have hlist : (before ++ token name ++ after).toList =
      before.toList ++ '\x7b' :: (name.toList ++ '\x7d' :: after.toList) := by
    simp [toList_token]
  rw [pieces, hlist, piecesFrom_append_open, piecesFrom_append_name hchars,
    piecesFrom_close hreverse]
  simp [pieces]

/-- The characters that were read since the latest piece. -/
def unfinished : Option (List Char) → List Char
  | none => []
  | some gathered => '\x7b' :: gathered.reverse

/-- The pieces have all the characters of the template, in their order. -/
lemma flatMap_written_piecesFrom (state : Option (List Char)) (cs : List Char) :
    (piecesFrom state cs).flatMap Piece.written = unfinished state ++ cs := by
  fun_induction piecesFrom state cs <;> simp_all [unfinished, Piece.written]

lemma flatMap_written_pieces (template : String) :
    (pieces template).flatMap Piece.written = template.toList :=
  flatMap_written_piecesFrom none template.toList

/-- Only names are gathered into tokens. -/
lemma isNameChar_of_token_mem {state : Option (List Char)} {cs name : List Char}
    (hstate : ∀ gathered, state = some gathered → ∀ c ∈ gathered, isNameChar c)
    (h : .token name ∈ piecesFrom state cs) : name ≠ [] ∧ ∀ c ∈ name, isNameChar c := by
  fun_induction piecesFrom state cs with
  | case1 => cases h
  | case2 rest ih => exact ih (by simp) h
  | case3 c rest hc ih => exact ih (by simp) (by simpa using h)
  | case4 gathered => simp at h
  | case5 gathered c rest hc ih =>
    refine ih ?_ h
    rintro _ ⟨⟩
    exact List.forall_mem_cons.mpr ⟨hc, hstate gathered rfl⟩
  | case6 gathered c rest hc hclose ih =>
    rcases List.mem_cons.mp h with heq | h
    · cases heq
      simpa [hclose.2] using hstate gathered rfl
    · exact ih (by simp) h
  | case7 gathered rest hc hclose ih => exact ih (by simp) (by simpa using h)
  | case8 gathered c rest hc hclose hopen ih => exact ih (by simp) (by simpa using h)

/-- The tokens among the pieces are those that are written in the template. -/
lemma token_mem_pieces_iff {name template : String} :
    .token name.toList ∈ pieces template ↔ Occurs name template := by
  constructor
  · intro h
    have hname : IsName name := isName_iff.mpr (isNameChar_of_token_mem (by simp) h)
    obtain ⟨before, after, hpieces⟩ := List.append_of_mem h
    refine ⟨hname, .ofList (before.flatMap Piece.written),
      .ofList (after.flatMap Piece.written), ?_⟩
    rw [← String.toList_inj, ← flatMap_written_pieces, hpieces]
    simp [toList_token, Piece.written]
  · rintro ⟨hname, before, after, rfl⟩
    simp [pieces_token hname]

instance (name : String) : Decidable (IsName name) :=
  decidable_of_iff (name ≠ "" ∧ name.toList.all isNameChar) (by simp [isName_iff])

instance (name template : String) : Decidable (Occurs name template) :=
  decidable_of_iff _ token_mem_pieces_iff

/-! ### Values -/

variable {vars : Table String}

lemma value_token (vars : Table String) (name : String) :
    Piece.value vars (.token name.toList) = ((vars.get? name).getD (token name)).toList := by
  simp only [Piece.value, Piece.value?, String.ofList_toList, Piece.written, ← toList_token]
  cases vars.get? name <;> rfl

/-- Only a token can be without a value. -/
lemma value?_eq_none_iff {p : Piece} :
    p.value? vars = none ↔ ∃ name : String, p = .token name.toList ∧ vars.get? name = none := by
  constructor
  · intro h
    cases p with
    | text chars => cases h
    | token name =>
      refine ⟨.ofList name, by rw [String.toList_ofList], ?_⟩
      simpa [Piece.value?] using h
  · rintro ⟨name, rfl, hget⟩
    simp [Piece.value?, hget]

lemma fill_token {name : String} (hname : IsName name) (before after : String) :
    fill vars (before ++ token name ++ after) =
      fill vars before ++ (vars.get? name).getD (token name) ++ fill vars after := by
  rw [fill, pieces_token hname, List.flatMap_append, List.flatMap_cons, value_token,
    String.ofList_append, String.ofList_append, String.ofList_toList, String.append_assoc]
  rfl

lemma fill_of_not_occurs {template : String} (h : ∀ name, ¬ Occurs name template) :
    fill vars template = template := by
  have hwritten : ∀ p ∈ pieces template, p.value vars = p.written := by
    intro p hp
    cases p with
    | text chars => rfl
    | token name =>
      rw [← @String.toList_ofList name] at hp
      exact absurd (token_mem_pieces_iff.mp hp) (h _)
  rw [fill, List.flatMap_congr hwritten, flatMap_written_pieces, String.ofList_toList]

lemma mapM_value?_of_isSome {ps : List Piece} (h : ∀ p ∈ ps, (p.value? vars).isSome) :
    ps.mapM (Piece.value? vars) = some (ps.map (Piece.value vars)) := by
  induction ps with
  | nil => rfl
  | cons p ps ih =>
    obtain ⟨hp, hps⟩ := List.forall_mem_cons.mp h
    obtain ⟨value, hvalue⟩ := Option.isSome_iff_exists.mp hp
    simp [List.mapM_cons, ih hps, hvalue, Piece.value]

lemma mapM_value?_of_eq_none {ps : List Piece} {p : Piece} (hp : p ∈ ps)
    (hnone : p.value? vars = none) : ps.mapM (Piece.value? vars) = none := by
  induction ps with
  | nil => cases hp
  | cons p' ps ih =>
    rw [List.mapM_cons]
    rcases List.mem_cons.mp hp with rfl | hp
    · rw [hnone]
      rfl
    · rw [ih hp]
      cases p'.value? vars <;> rfl

lemma fill?_of_known {template : String}
    (h : ∀ name, Occurs name template → (vars.get? name).isSome) :
    fill? vars template = some (fill vars template) := by
  have hsome : ∀ p ∈ pieces template, (p.value? vars).isSome := by
    intro p hp
    rw [← Option.ne_none_iff_isSome]
    intro hnone
    obtain ⟨name, rfl, hget⟩ := value?_eq_none_iff.mp hnone
    have hknown := h _ (token_mem_pieces_iff.mp hp)
    rw [hget] at hknown
    cases hknown
  simp only [fill?, fill, mapM_value?_of_isSome hsome, Option.map_some, List.flatMap_def]

lemma fill?_of_unknown {template name : String} (hname : Occurs name template)
    (hget : vars.get? name = none) : fill? vars template = none := by
  have hmem : .token name.toList ∈ pieces template := token_mem_pieces_iff.mpr hname
  have hnone : Piece.value? vars (.token name.toList) = none :=
    value?_eq_none_iff.mpr ⟨name, rfl, hget⟩
  rw [fill?, mapM_value?_of_eq_none hmem hnone, Option.map_none]

/-- Filling puts, in one pass, for each token the value of its variable as it is, or leaves the
token where there is none, and changes no other character: a template without tokens stays as it
is. The strict form gives the same template where all its tokens name variables, and none
otherwise. -/
theorem fill_onePass (vars : Table String) :
    (∀ before name after, IsName name →
      fill vars (before ++ token name ++ after) =
        fill vars before ++ (vars.get? name).getD (token name) ++ fill vars after) ∧
    (∀ template, (∀ name, ¬ Occurs name template) → fill vars template = template) ∧
    (∀ template, (∀ name, Occurs name template → (vars.get? name).isSome) →
      fill? vars template = some (fill vars template)) ∧
    ∀ template name, Occurs name template → vars.get? name = none →
      fill? vars template = none := by
  refine ⟨?_, ?_, ?_, ?_⟩
  · intro before name after hname
    exact fill_token hname before after
  · intro template hnone
    exact fill_of_not_occurs hnone
  · intro template hknown
    exact fill?_of_known hknown
  · intro template name hoccurs hget
    exact fill?_of_unknown hoccurs hget

/-- A value with braces between braces is not filled again; blanks and a missing brace make no
token. -/
theorem fill_onePass_braces :
    let vars : Table String := (∅ : Table String).insert "name" "\x7bplan\x7d"
    (IsName "name" ∧ fill vars ("\x7b" ++ token "name" ++ "\x7d") = "\x7b\x7bplan\x7d\x7d") ∧
    ((∀ name, ¬ Occurs name "\x7b \x7d\x7bname") ∧
      fill vars "\x7b \x7d\x7bname" = "\x7b \x7d\x7bname") ∧
    ((∀ name, Occurs name "Hi \x7bname\x7d" → (vars.get? name).isSome) ∧
      fill? vars "Hi \x7bname\x7d" = some "Hi \x7bplan\x7d") ∧
    Occurs "plan" "\x7bplan\x7d" ∧ vars.get? "plan" = none ∧ fill? vars "\x7bplan\x7d" = none := by
  intro vars
  obtain ⟨htoken, hplain, hknown, hunknown⟩ := fill_onePass vars
  have hname : IsName "name" := by decide
  have hnone : ∀ name, ¬ Occurs name "\x7b \x7d\x7bname" := by
    intro name hoccurs
    have hpieces : pieces "\x7b \x7d\x7bname" =
        [.text ['\x7b'], .text [' '], .text ['\x7d'], .text "\x7bname".toList] := by
      decide
    have hmem := token_mem_pieces_iff.mpr hoccurs
    simp [hpieces] at hmem
  have hall : ∀ name, Occurs name "Hi \x7bname\x7d" → (vars.get? name).isSome := by
    intro name hoccurs
    have hpieces : pieces "Hi \x7bname\x7d" =
        [.text ['H'], .text ['i'], .text [' '], .token "name".toList] := by
      decide
    have hmem := token_mem_pieces_iff.mpr hoccurs
    simp only [hpieces, List.mem_cons, reduceCtorEq, false_or, Piece.token.injEq,
      String.toList_inj, List.not_mem_nil, or_false] at hmem
    rw [hmem]
    decide
  have hplan : Occurs "plan" "\x7bplan\x7d" := by decide
  refine ⟨⟨hname, ?_⟩, ⟨hnone, hplain _ hnone⟩, ⟨hall, ?_⟩, hplan, by decide, ?_⟩
  · rw [htoken _ _ _ hname]
    decide
  · rw [hknown _ hall]
    decide
  · exact hunknown _ _ hplan (by decide)

end Dialogue.Template
