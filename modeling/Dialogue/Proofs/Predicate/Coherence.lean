import Dialogue.Proofs.Predicate.Matching

/-!
# Comparisons that agree with each other

The six operators between the same two sides are six readings of one order. They agree with each
other where there is an order, and without one, which is where a side is no number among numbers,
the sides are merely unequal. A side with an unknown variable has no order either, and there not
even the test for inequality holds.
-/

namespace Dialogue

namespace Operator

open Float.Model (UnpackedFloat)

variable {E : Operator → Bool} {lhs rhs : String}

/-! ### The order of two numbers -/

lemma compare_swap (x y : UnpackedFloat) : y.compare x = (x.compare y).map Ordering.swap := by
  have hswap : ∀ (e e' : Int) (m m' : Nat),
      (compare e' e).then (compare m' m) = ((compare e e').then (compare m m')).swap := by
    intro e e' m m'
    rw [Ordering.swap_then, ← Std.OrientedOrd.eq_swap, ← Std.OrientedOrd.eq_swap]
  -- Only between numbers of one sign is there something to compare.
  rcases x with (_ | _) | _ | (_ | _) | ⟨_ | _, m, e, hm⟩ <;>
    rcases y with (_ | _) | _ | (_ | _) | ⟨_ | _, m', e', hm'⟩ <;>
    first
    | rfl
    | exact congrArg some (hswap e e' m m')
    | exact congrArg (fun o : Ordering => some o.swap) (hswap e e' m m')

lemma compare_eq_none_iff {x y : UnpackedFloat} : x.compare y = none ↔ x.isNaN ∨ y.isNaN := by
  have hnumber : ∀ o : Ordering, some o = none ↔ false = true ∨ false = true := by
    simp
  rcases x with (_ | _) | _ | (_ | _) | ⟨_ | _, m, e, hm⟩ <;>
    rcases y with (_ | _) | _ | (_ | _) | ⟨_ | _, m', e', hm'⟩ <;>
    first
    | exact hnumber _
    | exact iff_of_true rfl (.inl rfl)
    | exact iff_of_true rfl (.inr rfl)

/-- Asking first for less, then for equal and last for greater finds the order that there is. -/
lemma orderNumbers_eq_compare (x y : Float) :
    orderNumbers x y = x.toModel.unpack.compare y.toModel.unpack := by
  have hlt : ∀ x y : Float, x < y ↔ x.toModel.unpack.compare y.toModel.unpack = some .lt := by
    intro x y
    show Float.lt x y = true ↔ _
    rw [Float.lt, decide_eq_true_eq]
    show Float.Model.lt x.toModel y.toModel = true ↔ _
    rw [Float.Model.lt, UnpackedFloat.lt, beq_iff_eq]
  have heq : (x == y) = (x.toModel.unpack.compare y.toModel.unpack == some .eq) := rfl
  simp only [orderNumbers, hlt, heq, beq_iff_eq, compare_swap x.toModel.unpack]
  rcases x.toModel.unpack.compare y.toModel.unpack with _ | o
  · rfl
  · cases o <;> rfl

lemma orderNumbers_eq_none_iff {x y : Float} : orderNumbers x y = none ↔ x.isNaN ∨ y.isNaN := by
  rw [orderNumbers_eq_compare, compare_eq_none_iff]
  rfl

lemma order?_eq_none_iff : order? lhs rhs = none ↔
    ∃ x y, Decimal.parse? lhs = some x ∧ Decimal.parse? rhs = some y ∧ (x.isNaN ∨ y.isNaN) := by
  cases hlhs : Decimal.parse? lhs with
  | none => simp [order?, hlhs]
  | some x =>
    cases hrhs : Decimal.parse? rhs with
    | none => simp [order?, hlhs, hrhs]
    | some y => simp [order?, hlhs, hrhs, orderNumbers_eq_none_iff]

lemma holds_of_order {o : Ordering} (h : order? lhs rhs = some o) (op : Operator) :
    op.holds lhs rhs = op.holdsOf o := by
  simp only [holds, h]

lemma holds_of_unordered (h : order? lhs rhs = none) (op : Operator) :
    op.holds lhs rhs = decide (op = notEqual) := by
  simp only [holds, h]

/-! ### Six readings of an order -/

/-- The operators read one order: one of the three strict ones holds, and the others say which. -/
lemma coherent_of_order {o : Ordering} (h : ∀ op, E op = op.holdsOf o) :
    [less, equal, greater].countP E = 1 ∧ E greaterOrEqual = (E greater || E equal) ∧
      E lessOrEqual = (E less || E equal) ∧ E notEqual = !E equal := by
  obtain rfl : E = fun op => op.holdsOf o := funext h
  cases o <;> decide

lemma coherent_of_unordered (h : ∀ op, E op = decide (op = notEqual)) :
    [less, equal, greater].countP E = 0 ∧ E notEqual = !E equal := by
  obtain rfl : E = fun op => decide (op = notEqual) := funext h
  decide

end Operator

namespace Predicate

variable {l r : String} {input : Option String} {vars : Table String}

/-! ### Two sides -/

lemma operand?_of_unknown {side name : String} (hname : Template.Occurs name side)
    (hget : vars.get? name = none) : operand? vars side = none := by
  rw [operand?, Template.fill?_of_unknown hname hget, Option.map_none]

lemma operand?_of_known {side : String}
    (h : ∀ name, Template.Occurs name side → (vars.get? name).isSome) :
    operand? vars side = some (folded (Template.fill vars side)) := by
  rw [operand?, Template.fill?_of_known h, Option.map_some]

/-- A comparison does not hold if one of its sides has an unknown variable. -/
lemma compares_of_unknown {c : Comparison} {name text : String}
    (hname : Template.Occurs name c.lhs ∨ Template.Occurs name c.rhs)
    (hget : vars.get? name = none) : compares c text vars = false := by
  rw [compares]
  rcases hname with hname | hname
  · have hne : c.lhs ≠ "" := by
      intro hempty
      rw [hempty] at hname
      exact Template.not_occurs_of_not_mem (by simp) hname
    rw [leftOperand?, if_neg hne, operand?_of_unknown hname hget]
  · rw [operand?_of_unknown hname hget]
    cases leftOperand? vars text c.lhs <;> rfl

/-- With all variables known the operator decides on the two sides. -/
lemma compares_of_known {c : Comparison} {text : String}
    (h : ∀ name, Template.Occurs name c.lhs ∨ Template.Occurs name c.rhs →
      (vars.get? name).isSome) :
    compares c text vars =
      c.op.holds (folded (if c.lhs = "" then text else Template.fill vars c.lhs))
        (folded (Template.fill vars c.rhs)) := by
  have hleft : leftOperand? vars text c.lhs =
      some (folded (if c.lhs = "" then text else Template.fill vars c.lhs)) := by
    rw [leftOperand?, operand?_of_known fun name hname => h name (.inl hname)]
    split_ifs <;> rfl
  have hright := operand?_of_known fun name hname => h name (.inr hname)
  simp only [compares, hleft, hright]

/-- Written between the same two sides, all operators fail where a variable is unknown. Otherwise
inequality is the negation of equality, at most one of less, equal and greater holds, and either
exactly one of them does, and the two others are read off, or both sides are numbers, one of them is
none among numbers, and they are merely unequal. -/
theorem holds_coherent (l r : String) (hl : Text.trim l = l) (hplain : ¬ Operator.Within l)
    (hr : Text.trim r = r) (hne : r ≠ "") (input : Option String) (vars : Table String) :
    let E (op : Operator) : Bool := holds (l ++ " " ++ op.symbol ++ " " ++ r) input vars
    let left := Text.lowercase
      (Text.trim (if l = "" then input.getD "" else Template.fill vars l))
    let right := Text.lowercase (Text.trim (Template.fill vars r))
    (∀ name, Template.Occurs name l ∨ Template.Occurs name r → vars.get? name = none →
      ∀ op, E op = false) ∧
    ((∀ name, Template.Occurs name l ∨ Template.Occurs name r → (vars.get? name).isSome) →
      E .notEqual = !E .equal ∧
      [Operator.less, .equal, .greater].countP E ≤ 1 ∧
      ([Operator.less, .equal, .greater].countP E = 1 ∧
          E .greaterOrEqual = (E .greater || E .equal) ∧
          E .lessOrEqual = (E .less || E .equal) ∨
        (∃ x y, Decimal.parse? left = some x ∧ Decimal.parse? right = some y ∧
          (x.isNaN ∨ y.isNaN)) ∧ ∀ op, E op ↔ op = .notEqual)) := by
  intro E left right
  have hE : ∀ op, E op = compares ⟨l, op, r⟩ (input.getD "") vars := fun op =>
    holds_of_comparison (Comparison.parse?_trim_written hl hplain hr hne op)
  constructor
  · intro name hname hget op
    rw [hE]
    exact compares_of_unknown hname hget
  · intro hknown
    have hholds : ∀ op, E op = op.holds left right := fun op =>
      (hE op).trans (compares_of_known hknown)
    cases horder : Operator.order? left right with
    | some o =>
      have hread : ∀ op, E op = op.holdsOf o := fun op =>
        (hholds op).trans (Operator.holds_of_order horder op)
      obtain ⟨hone, hgreater, hless, hnot⟩ := Operator.coherent_of_order hread
      exact ⟨hnot, hone.le, .inl ⟨hone, hgreater, hless⟩⟩
    | none =>
      have hread : ∀ op, E op = decide (op = .notEqual) := fun op =>
        (hholds op).trans (Operator.holds_of_unordered horder op)
      obtain ⟨hnone, hnot⟩ := Operator.coherent_of_unordered hread
      refine ⟨hnot, hnone.le.trans (Nat.zero_le 1), .inr ⟨?_, ?_⟩⟩
      · exact Operator.order?_eq_none_iff.mp horder
      · intro op
        rw [hread, decide_eq_true_eq]

/-- Two variables on the two sides, first with one of them unknown, then with a number in each. -/
theorem holds_coherent_sample :
    let l := Template.token "age"
    let r := Template.token "limit"
    let one : Table String := (∅ : Table String).insert "age" "21"
    let both := one.insert "limit" "9.5"
    (Text.trim l = l ∧ ¬ Operator.Within l ∧ Text.trim r = r ∧ r ≠ "") ∧
    (Template.Occurs "limit" r ∧ one.get? "limit" = none ∧
      holds (l ++ " " ++ "!=" ++ " " ++ r) none one = false) ∧
    (∀ name, Template.Occurs name l ∨ Template.Occurs name r → (both.get? name).isSome) ∧
      holds (l ++ " " ++ "!=" ++ " " ++ r) none both =
        !holds (l ++ " " ++ "==" ++ " " ++ r) none both := by
  intro l r one both
  have hl : Text.trim l = l := by decide
  have hplain : ¬ Operator.Within l := by decide
  have hr : Text.trim r = r := by decide
  have hne : r ≠ "" := by decide
  have hlimit : Template.Occurs "limit" r := by decide
  have hunknown : one.get? "limit" = none := by decide
  have hknown : ∀ name, Template.Occurs name l ∨ Template.Occurs name r →
      (both.get? name).isSome := by
    intro name hname
    have hpieces : Template.pieces l = [.token "age".toList] ∧
        Template.pieces r = [.token "limit".toList] := by
      decide
    simp only [← Template.token_mem_pieces_iff, hpieces, List.mem_singleton,
      Template.Piece.token.injEq, String.toList_inj] at hname
    rcases hname with rfl | rfl <;> decide
  obtain ⟨hfails, -⟩ := holds_coherent l r hl hplain hr hne none one
  obtain ⟨-, hagrees⟩ := holds_coherent l r hl hplain hr hne none both
  obtain ⟨hnot, -, -⟩ := hagrees hknown
  exact ⟨⟨hl, hplain, hr, hne⟩, ⟨hlimit, hunknown, hfails "limit" (.inr hlimit) hunknown .notEqual⟩,
    hknown, hnot⟩

/-- Not a number is not equal to itself. -/
example : holds "nan == NaN" none ∅ = false ∧ holds "nan != NaN" none ∅ = true := by decide

end Predicate

end Dialogue
