import TablePipeline.Expr.Aggregate
import TablePipeline.Proofs.Outcome
import TablePipeline.Proofs.Value.Order

/-!
# Three ways of comparing

Values are compared in three places: by the operators of an expression, by a sort, and by the least
and the greatest value of a column.  Each of them has its own rule for values that do not fit
together.  An operator refuses them, a sort goes by their texts, and the extremes, which are given
numbers only, count everything else as equal.

Where an operator does not refuse its operands all three are one order.  It is the order of a sort
(`comparableOrder_eq_ok_iff`), so what an operator says is read off it, and the laws between the
operators are those of an order with three outcomes.  NaN is no exception: it counts as equal with
every number, for the operators as for a sort.

## Main definitions

* `Value.Comparable` — the operator does not refuse the values
* `BinaryOp.Says` — what an operator says of an order

## Main statements

* `comparableOrder_eq_ok_iff`, `compareValues_eq_ok_iff` — when an operator compares, and what it
  finds
* `Value.compareNumbers_eq_compare` — the order of the extremes
* `comparisons_agree` — the three ways, and the laws between the operators
-/

namespace TablePipeline

variable {op : BinaryOp} {a b r : Value} {o : Ordering}

/-- The operator compares the values: two numbers, two texts, or, for equality only, two
booleans. -/
def Value.Comparable (op : BinaryOp) (a b : Value) : Prop :=
  (a.isNumeric = true ∧ b.isNumeric = true) ∨ (a.kind = .string ∧ b.kind = .string) ∨
    (a.kind = .boolean ∧ b.kind = .boolean ∧ (op = .equal ∨ op = .notEqual))

instance Value.decidableComparable (op : BinaryOp) (a b : Value) :
    Decidable (Value.Comparable op a b) :=
  inferInstanceAs (Decidable (_ ∨ _ ∨ _))

/-- What a comparison operator says of the order of its operands. -/
def BinaryOp.Says : BinaryOp → Ordering → Prop
  | .equal, o => o = .eq
  | .notEqual, o => o ≠ .eq
  | .less, o => o = .lt
  | .greater, o => o = .gt
  | .lessEqual, o => o ≠ .gt
  | .greaterEqual, o => o ≠ .lt
  | _, _ => False

theorem BinaryOp.holdsOf_iff (hop : op.family = .comparison) (o : Ordering) :
    op.holdsOf o = true ↔ op.Says o := by
  cases op <;> cases hop <;> cases o <;> simp [holdsOf, Says]

/-- The order of two numbers is that of a sort, in which no number is compared by its text. -/
theorem Value.compareNumbers_eq_compare (ha : a.isNumeric = true) (hb : b.isNumeric = true) :
    compareNumbers a b = compare a b := by
  cases a <;> cases ha <;> cases b <;> cases hb <;> rfl

/-- The texts of the truth values are in the order of the truth values. -/
theorem Value.compare_boolean (p q : Bool) :
    Value.compare (.boolean p) (.boolean q) = Ord.compare p q := by
  revert p q
  decide

/-- **What an operator compares** it finds in the order of a sort. -/
theorem comparableOrder_eq_ok_iff :
    comparableOrder op a b = .ok o ↔ Value.Comparable op a b ∧ Value.compare a b = o := by
  cases a <;> cases b
  case boolean.boolean p q =>
    by_cases hop : op = .equal ∨ op = .notEqual <;>
      simp [comparableOrder, Value.Comparable, Value.isNumeric, Value.kind, hop,
        Value.compare_boolean]
  case string.string s t =>
    have horder : Value.compare (.string s) (.string t) = compareTexts s t := by
      simp [Value.compare, Value.toFloat?, Value.text]
    simp [comparableOrder, Value.Comparable, Value.kind, horder]
  case integer.integer | integer.float | float.integer | float.float =>
    simp [comparableOrder, Value.Comparable, Value.isNumeric, Value.compare, Value.toFloat?]
  -- any other two values are refused
  all_goals
    simp [comparableOrder, Value.Comparable, Value.isNumeric, Value.kind, Value.toFloat?]

example : Value.Comparable .equal (.boolean true) (.boolean false) ∧
    ¬Value.Comparable .less (.boolean true) (.boolean false) := by
  decide

/-- What an operator finds on values that are not null is read off the order of a sort. -/
theorem compareValues_eq_ok_iff (ha : a.isNull = false) (hb : b.isNull = false) :
    compareValues op a b = .ok r ↔
      Value.Comparable op a b ∧ r = .boolean (op.holdsOf (Value.compare a b)) := by
  have hcompare : compareValues op a b =
      (comparableOrder op a b >>= fun o => pure (.boolean (op.holdsOf o))) :=
    if_neg (by rw [ha, hb]; decide)
  rw [hcompare, bind_eq_ok_iff]
  constructor
  · rintro ⟨o, ho, hr⟩
    obtain ⟨hcomparable, rfl⟩ := comparableOrder_eq_ok_iff.1 ho
    exact ⟨hcomparable, (Except.ok.inj hr).symm⟩
  · rintro ⟨hcomparable, rfl⟩
    exact ⟨_, comparableOrder_eq_ok_iff.2 ⟨hcomparable, rfl⟩, rfl⟩

/-- **The three ways of comparing agree** on values that are not null.  An operator succeeds on two
numbers, two texts and, for equality, two booleans; it then says what it says of the order of a
sort.  On two numbers this is the order of the extremes.  So of less, equal and greater exactly one
holds, and each of the other three operators is the negation of one of them. -/
theorem comparisons_agree (ha : a.isNull = false) (hb : b.isNull = false) :
    (∀ op, op.family = .comparison →
      ((∃ r, compareValues op a b = .ok r) ↔ Value.Comparable op a b) ∧
      ∀ r, compareValues op a b = .ok r →
        ∃ holds : Bool, r = .boolean holds ∧ (holds = true ↔ op.Says (Value.compare a b))) ∧
    (a.isNumeric = true → b.isNumeric = true →
      Value.compareNumbers a b = Value.compare a b) ∧
    (∀ less equal greater : Bool, compareValues .less a b = .ok (.boolean less) →
      compareValues .equal a b = .ok (.boolean equal) →
      compareValues .greater a b = .ok (.boolean greater) →
        [less, equal, greater].count true = 1) ∧
    (∀ equal unequal : Bool, compareValues .equal a b = .ok (.boolean equal) →
      compareValues .notEqual a b = .ok (.boolean unequal) → unequal = !equal) ∧
    (∀ greater atMost : Bool, compareValues .greater a b = .ok (.boolean greater) →
      compareValues .lessEqual a b = .ok (.boolean atMost) → atMost = !greater) ∧
    ∀ less atLeast : Bool, compareValues .less a b = .ok (.boolean less) →
      compareValues .greaterEqual a b = .ok (.boolean atLeast) → atLeast = !less := by
  -- a truth value that an operator gives is the one that the order has
  have hholds : ∀ {op : BinaryOp} {p : Bool}, compareValues op a b = .ok (.boolean p) →
      p = op.holdsOf (Value.compare a b) :=
    fun h => Value.boolean.inj ((compareValues_eq_ok_iff ha hb).1 h).2
  refine ⟨fun op hop => ⟨?_, fun r hr => ?_⟩, Value.compareNumbers_eq_compare, ?_, ?_, ?_, ?_⟩
  · simp only [compareValues_eq_ok_iff ha hb, exists_and_left, exists_eq, and_true]
  · exact ⟨_, ((compareValues_eq_ok_iff ha hb).1 hr).2, BinaryOp.holdsOf_iff hop _⟩
  · intro less equal greater hless hequal hgreater
    rw [hholds hless, hholds hequal, hholds hgreater]
    cases Value.compare a b <;> rfl
  · intro equal unequal hequal hunequal
    rw [hholds hequal, hholds hunequal]
    rfl
  · intro greater atMost hgreater hatMost
    rw [hholds hgreater, hholds hatMost]
    rfl
  · intro less atLeast hless hatLeast
    rw [hholds hless, hholds hatLeast]
    rfl

/-- An integer and the double that it rounds to are equal in all three ways, and not unequal. -/
theorem comparisons_agree_rounded :
    let a : Value := .integer 9007199254740993
    let b : Value := .float 9007199254740992
    a.isNull = false ∧ b.isNull = false ∧ Value.compare a b = .eq ∧
      Value.compareNumbers a b = .eq ∧ compareValues .equal a b = .ok (.boolean true) ∧
      ∃ unequal, compareValues .notEqual a b = .ok (.boolean unequal) ∧ unequal = !true := by
  intro a b
  obtain ⟨hoperators, hnumbers, -, hunequal, -⟩ := comparisons_agree (a := a) (b := b) rfl rfl
  have heq : Value.compare a b = .eq := by decide
  have hsucceeds : ∀ op : BinaryOp, op.family = .comparison →
      ∃ holds : Bool, compareValues op a b = .ok (.boolean holds) ∧
        (holds = true ↔ op.Says (Value.compare a b)) := by
    intro op hop
    obtain ⟨r, hr⟩ := (hoperators op hop).1.2 (.inl ⟨rfl, rfl⟩)
    obtain ⟨holds, rfl, hsays⟩ := (hoperators op hop).2 r hr
    exact ⟨holds, hr, hsays⟩
  obtain ⟨equal, hequal, hsays⟩ := hsucceeds .equal rfl
  obtain ⟨unequal, hnotEqual, -⟩ := hsucceeds .notEqual rfl
  obtain rfl : equal = true := hsays.2 heq
  exact ⟨rfl, rfl, heq, (hnumbers rfl rfl).trans heq, hequal, unequal, hnotEqual,
    hunequal _ _ hequal hnotEqual⟩

end TablePipeline
