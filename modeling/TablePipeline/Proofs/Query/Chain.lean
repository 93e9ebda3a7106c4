import Mathlib.Data.List.Induction
import Mathlib.Logic.ExistsUnique
import TablePipeline.Expr

/-!
# Chains of operands

Between operands without parentheses stand operators of different levels, and the levels decide
which tree is meant.  A chain is a first operand and pairs of an operator and an operand.  Many
trees have the same chain as their leaves from left to right; one of them is ordered: an operator
that is the right child of another binds tighter, and one that is the left child binds at least as
tight.

Operands are whole expressions here and are never looked into, so that an expression between
parentheses keeps its place whatever its operators are.

## Main definitions

* `BinaryOp.levels`, `BinaryOp.level` — how tightly operators bind
* `Tree`, `Tree.first`, `Tree.pairs` — trees over operands, and the chain of a tree
* `Tree.Ordered` — operators stand where their levels put them
* `Tree.append` — one more operator and operand at the end of a chain

## Main statements

* `Tree.exists_eq_append` — an ordered tree with an operator is a smaller one with a pair appended
* `Tree.existsUnique` — a chain has exactly one ordered tree
-/

namespace TablePipeline

namespace BinaryOp

/-- The operators, those that bind least first. -/
def levels : List (List BinaryOp) :=
  [[or], [and], [equal, notEqual, less, greater, lessEqual, greaterEqual], [add, subtract],
    [multiply, divide]]

/-- The level of an operator; a greater one binds tighter. -/
def level (op : BinaryOp) : Nat :=
  levels.findIdx fun operators => op ∈ operators

/-- Precedences are levels, counted from one. -/
theorem precedence_eq (op : BinaryOp) : op.precedence = op.level + 1 := by
  cases op <;> rfl

theorem precedence_le_iff {a b : BinaryOp} : a.precedence ≤ b.precedence ↔ a.level ≤ b.level := by
  rw [precedence_eq, precedence_eq, Nat.add_le_add_iff_right]

theorem precedence_lt_iff {a b : BinaryOp} : a.precedence < b.precedence ↔ a.level < b.level := by
  rw [precedence_eq, precedence_eq, Nat.add_lt_add_iff_right]

end BinaryOp

/-- A tree of operators over operands. -/
inductive Tree
  | leaf (operand : Expr)
  | node (op : BinaryOp) (left right : Tree)

namespace Tree

/-- The leftmost operand. -/
def first : Tree → Expr
  | leaf operand => operand
  | node _ left _ => left.first

/-- The operators from left to right, each with the operand behind it. -/
def pairs : Tree → List (BinaryOp × Expr)
  | leaf _ => []
  | node op left right => left.pairs ++ (op, right.first) :: right.pairs

/-- The expression of a tree. -/
def toExpr : Tree → Expr
  | leaf operand => operand
  | node op left right => .binary op left.toExpr right.toExpr

/-- The operator at the root. -/
def root? : Tree → Option BinaryOp
  | leaf _ => none
  | node op _ _ => some op

/-- Every right child binds tighter than its parent and every left child at least as tight. -/
def Ordered : Tree → Prop
  | leaf _ => True
  | node op left right =>
    (left.Ordered ∧ ∀ o, left.root? = some o → op.level ≤ o.level) ∧
      right.Ordered ∧ ∀ o, right.root? = some o → op.level < o.level

/-- One more operator and operand behind the chain of a tree.  The operator goes up the right spine
as far as it binds no tighter than what it passes. -/
def append : Tree → BinaryOp → Expr → Tree
  | leaf operand, op, e => node op (leaf operand) (leaf e)
  | node o left right, op, e =>
    if op.level ≤ o.level then node op (node o left right) (leaf e)
    else node o left (right.append op e)

@[simp] theorem first_append (t : Tree) (op : BinaryOp) (e : Expr) :
    (t.append op e).first = t.first := by
  cases t with
  | leaf operand => rfl
  | node o left right =>
    rw [append]
    split <;> rfl

@[simp] theorem pairs_append (t : Tree) (op : BinaryOp) (e : Expr) :
    (t.append op e).pairs = t.pairs ++ [(op, e)] := by
  induction t with
  | leaf operand => rfl
  | node o left right _ ih =>
    rw [append]
    split
    · rfl
    · rw [pairs, ih, first_append, pairs, List.append_assoc, List.cons_append]

/-- The root stays where it is or is the new operator. -/
theorem root?_append (t : Tree) (op : BinaryOp) (e : Expr) :
    (t.append op e).root? = some op ∨
      ∃ o, t.root? = some o ∧ o.level < op.level ∧ (t.append op e).root? = some o := by
  cases t with
  | leaf operand => exact Or.inl rfl
  | node o left right =>
    by_cases h : op.level ≤ o.level
    · rw [append, if_pos h]
      exact Or.inl rfl
    · rw [append, if_neg h]
      exact Or.inr ⟨o, rfl, Nat.lt_of_not_le h, rfl⟩

theorem Ordered.append {t : Tree} (ht : t.Ordered) (op : BinaryOp) (e : Expr) :
    (t.append op e).Ordered := by
  induction t with
  | leaf operand => exact ⟨⟨trivial, nofun⟩, trivial, nofun⟩
  | node o left right _ ih =>
    obtain ⟨hleft, hright, hroot⟩ := ht
    by_cases h : op.level ≤ o.level
    · rw [Tree.append, if_pos h]
      refine ⟨⟨⟨hleft, hright, hroot⟩, fun o' ho' => ?_⟩, trivial, nofun⟩
      rw [← Option.some.inj ho']
      exact h
    -- what comes up in the right child is its old root or the new operator, both tighter
    · rw [Tree.append, if_neg h]
      refine ⟨hleft, ih hright, fun o' ho' => ?_⟩
      rcases root?_append right op e with hop | ⟨o'', ho'', -, hsame⟩
      · rw [hop] at ho'
        rw [← Option.some.inj ho']
        exact Nat.lt_of_not_le h
      · rw [hsame] at ho'
        rw [← Option.some.inj ho']
        exact hroot o'' ho''

/-- An ordered tree with an operator comes from a smaller ordered tree by appending the last
operator and operand of its chain. -/
theorem exists_eq_append {op : BinaryOp} {left right : Tree} (h : (node op left right).Ordered) :
    ∃ (t : Tree) (o : BinaryOp) (e : Expr), t.Ordered ∧ node op left right = t.append o e := by
  induction right generalizing op left with
  | leaf e =>
    obtain ⟨⟨hleft, hroot⟩, -⟩ := h
    refine ⟨left, op, e, hleft, ?_⟩
    cases left with
    | leaf operand => rfl
    | node o l r => rw [append, if_pos (hroot o rfl)]
  | node op' l r _ ih =>
    obtain ⟨hleft, hright, hroot⟩ := h
    obtain ⟨t, o, e, ht, heq⟩ := ih hright
    rw [heq] at hroot ⊢
    -- what is appended to the right child binds tighter than the parent, so that it goes there
    have ho : op.level < o.level := by
      rcases root?_append t o e with hnew | ⟨o', -, hlt, hsame⟩
      · exact hroot o hnew
      · exact Nat.lt_trans (hroot o' hsame) hlt
    refine ⟨node op left t, o, e, ⟨hleft, ht, fun o' ho' => ?_⟩, ?_⟩
    · rcases root?_append t o e with hnew | ⟨o'', ho'', -, hsame⟩
      · by_cases hle : o.level ≤ o'.level
        · exact Nat.lt_of_lt_of_le ho hle
        · cases t with
          | leaf operand => cases ho'
          | node o₁ l₁ r₁ =>
            cases ho'
            rw [append, if_neg hle] at hroot
            exact hroot o' rfl
      · rw [ho''] at ho'
        rw [← Option.some.inj ho']
        exact hroot o'' hsame
    · rw [append, if_neg (Nat.not_le_of_lt ho)]

theorem eq_leaf_of_pairs_eq_nil {t : Tree} (h : t.pairs = []) : t = leaf t.first := by
  cases t with
  | leaf operand => rfl
  | node op left right => exact absurd h (by simp [pairs])

/-- Ordered trees with the same chain are the same. -/
theorem Ordered.eq_of_pairs_eq {t u : Tree} (ht : t.Ordered) (hu : u.Ordered)
    (hfirst : t.first = u.first) (hpairs : t.pairs = u.pairs) : t = u := by
  -- from the last pair of the chain to the first, since both trees end in an appended pair
  induction hp : t.pairs using List.reverseRecOn generalizing t u with
  | nil =>
    calc t = leaf t.first := eq_leaf_of_pairs_eq_nil hp
      _ = leaf u.first := by rw [hfirst]
      _ = u := (eq_leaf_of_pairs_eq_nil (hpairs.symm.trans hp)).symm
  | append_singleton ps p ih =>
    cases t with
    | leaf operand => exact absurd hp.symm (by simp [pairs])
    | node op left right =>
      cases u with
      | leaf operand => exact absurd (hpairs.symm.trans hp).symm (by simp [pairs])
      | node op' left' right' =>
        obtain ⟨t, o, e, ht, heq⟩ := exists_eq_append ht
        obtain ⟨u, o', e', hu, heq'⟩ := exists_eq_append hu
        rw [heq, heq', first_append, first_append] at hfirst
        rw [heq, heq', pairs_append, pairs_append] at hpairs
        rw [heq, pairs_append] at hp
        obtain ⟨hps, hlast⟩ := List.append_inj' hpairs rfl
        obtain ⟨hp, -⟩ := List.append_inj' hp rfl
        simp only [List.cons.injEq, Prod.mk.injEq, and_true] at hlast
        rw [heq, heq', hlast.1, hlast.2, ih ht hu hfirst hps hp]

/-- **The tree of a chain**: there is exactly one ordered tree with a given chain. -/
theorem existsUnique (e : Expr) (ps : List (BinaryOp × Expr)) :
    ∃! t : Tree, t.Ordered ∧ t.first = e ∧ t.pairs = ps := by
  have hexists : ∃ t : Tree, t.Ordered ∧ t.first = e ∧ t.pairs = ps := by
    induction ps using List.reverseRecOn with
    | nil => exact ⟨leaf e, trivial, rfl, rfl⟩
    | append_singleton ps p ih =>
      obtain ⟨t, ht, hfirst, hpairs⟩ := ih
      refine ⟨t.append p.1 p.2, ht.append p.1 p.2, ?_, ?_⟩
      · rw [first_append, hfirst]
      · rw [pairs_append, hpairs]
  obtain ⟨t, ht, hfirst, hpairs⟩ := hexists
  refine ⟨t, ⟨ht, hfirst, hpairs⟩, ?_⟩
  rintro u ⟨hu, hufirst, hupairs⟩
  exact hu.eq_of_pairs_eq ht (hufirst.trans hfirst.symm) (hupairs.trans hpairs.symm)

end Tree

end TablePipeline
