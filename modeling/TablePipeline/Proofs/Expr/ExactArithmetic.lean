import Mathlib.Tactic.NormNum
import TablePipeline.Proofs.Expr.IntegerSums

/-!
# Arithmetic on integers is exact

An expression of integers, columns that hold integers, `+`, `-`, `*`, `/` and minus has an exact
rational value, unless something is divided by zero.  If it evaluates to an integer, this is the
exact value, and nothing has wrapped on the way: it evaluates to an integer exactly when every part
of it has an exact value that is an integer in range.  One part that is no integer is enough to
leave the integers for good, for a double or a null never becomes an integer again; so `7 / 2 * 2`
is a double although its exact value is an integer.

The only errors are overflows.  Parts are evaluated from left to right, and the first one that takes
integers out of the range is the error of the whole, an exact division of the least integer by `-1`
among them.

## Main definitions

* `Expr.OverIntegers` — expressions of integers
* `Expr.exactValue?` — the exact value of such an expression
* `Expr.parts` — the expression and everything in it
* `Expr.Reaches` — evaluation gets as far as a part
* `Expr.Overflows` — an operation on integers the exact result of which is out of range

## Main statements

* `arithmetic_of_exact`, `arithmetic_of_not_exact` — one operation
* `Expr.OverIntegers.exact_of_evalIn`, `Expr.OverIntegers.overflows_of_evalIn` — results and errors
* `eval_integers_exact` — both at once
-/

namespace TablePipeline

/-- The exact result of an arithmetic operator; there is none for a division by zero. -/
def BinaryOp.exactResult? (op : BinaryOp) (a b : ℚ) : Option ℚ :=
  match op with
  | .add => some (a + b)
  | .subtract => some (a - b)
  | .multiply => some (a * b)
  | .divide => if b = 0 then none else some (a / b)
  | _ => none

namespace Expr

/-- Integers and columns that hold integers, joined by arithmetic and minus. -/
inductive OverIntegers (cell : String → Option Value) : Expr → Prop
  | integer (n : Int64) : OverIntegers cell (.literal (.integer n))
  | column {name : String} {n : Int64} (holds : cell name = some (.integer n)) :
      OverIntegers cell (.column name)
  | binary {op : BinaryOp} {left right : Expr} (family : op.family = .arithmetic)
      (hleft : OverIntegers cell left) (hright : OverIntegers cell right) :
      OverIntegers cell (.binary op left right)
  | negate {operand : Expr} (hoperand : OverIntegers cell operand) :
      OverIntegers cell (.unary .negate operand)

/-- The exact value of an expression of integers. -/
def exactValue? (cell : String → Option Value) : Expr → Option ℚ
  | .literal l => l.value.toInt?.map Int.cast
  | .column name => ((cell name).bind Value.toInt?).map Int.cast
  | .binary op left right =>
    (left.exactValue? cell).bind fun a => (right.exactValue? cell).bind fun b => op.exactResult? a b
  | .unary .negate operand => (operand.exactValue? cell).map (-·)
  | _ => none

/-- The expression and everything in it that operators are applied to. -/
def parts : Expr → List Expr
  | .binary op left right => left.parts ++ right.parts ++ [.binary op left right]
  | .unary op operand => operand.parts ++ [.unary op operand]
  | e => [e]

/-- The exact value is an integer in range. -/
def FitsExactly (cell : String → Option Value) (e : Expr) : Prop :=
  ∃ z : ℤ, Fits z ∧ e.exactValue? cell = some (z : ℚ)

/-- Evaluation gets as far as a part: whatever is evaluated before it has a value. -/
inductive Reaches (cell : String → Option Value) : Expr → Expr → Prop
  | self (e : Expr) : Reaches cell e e
  | left {op : BinaryOp} {left right part : Expr} (h : Reaches cell left part) :
      Reaches cell (.binary op left right) part
  | right {op : BinaryOp} {left right part : Expr} (before : ∃ v, left.evalIn cell = .ok v)
      (h : Reaches cell right part) : Reaches cell (.binary op left right) part
  | operand {op : UnaryOp} {operand part : Expr} (h : Reaches cell operand part) :
      Reaches cell (.unary op operand) part

/-- An operation on integers the exact result of which is an integer out of range. -/
inductive Overflows (cell : String → Option Value) : Expr → OverflowFault → Prop
  | arithmetic {op : BinaryOp} {left right : Expr} {m n : Int64} {z : ℤ}
      (hleft : left.evalIn cell = .ok (.integer m)) (hright : right.evalIn cell = .ok (.integer n))
      (exact : op.exactResult? m.toInt n.toInt = some (z : ℚ)) (out : ¬Fits z) :
      Overflows cell (.binary op left right) (.arithmetic op m n)
  | negation {operand : Expr} {n : Int64} (hoperand : operand.evalIn cell = .ok (.integer n))
      (out : ¬Fits (-n.toInt)) : Overflows cell (.unary .negate operand) (.negation n)

end Expr

/-! ### One operation -/

/-- What arithmetic gives in place of an integer: null or a double. -/
inductive Value.IsInexact : Value → Prop
  | null : IsInexact .null
  | float (x : Float) : IsInexact (.float x)

/-- The integer of that value, or an overflow. -/
def narrowed (fault : OverflowFault) (z : ℤ) : Outcome :=
  match narrow? z with
  | some n => .ok (.integer n)
  | none => .error (.overflow fault)

section Operations

variable {op : BinaryOp} {fault : OverflowFault} {m n : Int64} {z : ℤ} {a b v : Value}
  {e : EvalError}

theorem narrowed_of_fits (h : Fits z) : narrowed fault z = .ok (.integer (Int64.ofInt z)) := by
  rw [narrowed, narrow?, if_pos h]

theorem narrowed_of_not_fits (h : ¬Fits z) : narrowed fault z = .error (.overflow fault) := by
  rw [narrowed, narrow?, if_neg h]

theorem exists_of_narrowed_eq_ok (h : narrowed fault z = .ok v) :
    ∃ n : Int64, n.toInt = z ∧ v = .integer n := by
  by_cases hz : Fits z
  · rw [narrowed_of_fits hz] at h
    exact ⟨_, toInt_ofInt_of_fits hz, (Except.ok.inj h).symm⟩
  · rw [narrowed_of_not_fits hz] at h
    cases h

theorem not_fits_of_narrowed_eq_error (h : narrowed fault z = .error e) :
    ¬Fits z ∧ e = .overflow fault := by
  by_cases hz : Fits z
  · rw [narrowed_of_fits hz] at h
    cases h
  · rw [narrowed_of_not_fits hz] at h
    exact ⟨hz, (Except.error.inj h).symm⟩

theorem floatArithmetic_isInexact (op : BinaryOp) (x y : Float) :
    (floatArithmetic op x y).IsInexact := by
  unfold floatArithmetic
  split
  · exact .null
  · exact .float _

/-- Where an exact result is an integer, it is the result, as far as it is in range. -/
theorem arithmetic_of_exact (h : op.exactResult? m.toInt n.toInt = some (z : ℚ)) :
    arithmetic op (.integer m) (.integer n) = narrowed (.arithmetic op m n) z := by
  cases op with
  | add | subtract | multiply =>
    have hz := Option.some.inj h
    norm_cast at hz
    rw [← hz]
    rfl
  | divide =>
    rw [BinaryOp.exactResult?] at h
    split_ifs at h with hn
    have hz := Option.some.inj h
    rw [div_eq_iff hn] at hz
    norm_cast at hz hn
    show (if n.toInt = 0 then _ else if m.toInt % n.toInt = 0 then _ else _) = _
    rw [if_neg hn, hz, if_pos (Int.mul_emod_left _ _), Int.mul_ediv_cancel _ hn]
    rfl
  | _ => cases h

/-- Otherwise the result is no integer at all. -/
theorem arithmetic_of_not_exact (family : op.family = .arithmetic)
    (h : ∀ z : ℤ, op.exactResult? m.toInt n.toInt ≠ some (z : ℚ)) :
    ∃ v, v.IsInexact ∧ arithmetic op (.integer m) (.integer n) = .ok v := by
  cases op with
  | add => exact absurd (congrArg some (by push_cast; rfl)) (h (m.toInt + n.toInt))
  | subtract => exact absurd (congrArg some (by push_cast; rfl)) (h (m.toInt - n.toInt))
  | multiply => exact absurd (congrArg some (by push_cast; rfl)) (h (m.toInt * n.toInt))
  | divide =>
    show ∃ v : Value, v.IsInexact ∧
      (if n.toInt = 0 then _ else if m.toInt % n.toInt = 0 then _ else _) = Except.ok v
    by_cases hn : n.toInt = 0
    · rw [if_pos hn]
      exact ⟨.null, .null, rfl⟩
    · have hmod : m.toInt % n.toInt ≠ 0 := by
        intro hmod
        refine h (m.toInt / n.toInt) ?_
        rw [BinaryOp.exactResult?, if_neg (Int.cast_ne_zero.2 hn),
          Int.cast_div (Int.dvd_of_emod_eq_zero hmod) (Int.cast_ne_zero.2 hn)]
      rw [if_neg hn, if_neg hmod]
      exact ⟨_, floatArithmetic_isInexact _ _ _, rfl⟩
  | _ => cases family

/-- What has left the integers does not come back. -/
theorem arithmetic_of_isInexact (ha : (∃ m, a = .integer m) ∨ a.IsInexact)
    (hb : (∃ n, b = .integer n) ∨ b.IsInexact) (h : a.IsInexact ∨ b.IsInexact) :
    ∃ v, v.IsInexact ∧ arithmetic op a b = .ok v := by
  rcases ha with ⟨m, rfl⟩ | ha
  · rcases h with hm | hb
    · cases hm
    · cases hb with
      | null => exact ⟨.null, .null, rfl⟩
      | float y => exact ⟨_, floatArithmetic_isInexact op _ y, rfl⟩
  · cases ha with
    | null => exact ⟨.null, .null, rfl⟩
    | float x =>
      rcases hb with ⟨n, rfl⟩ | hb
      · exact ⟨_, floatArithmetic_isInexact op x _, rfl⟩
      · cases hb with
        | null => exact ⟨.null, .null, rfl⟩
        | float y => exact ⟨_, floatArithmetic_isInexact op x y, rfl⟩

/-- **One operation**: on two integers with an exact result that is an integer, this one if it is in
range; and otherwise no integer and no error. -/
theorem arithmetic_cases (family : op.family = .arithmetic)
    (ha : (∃ m, a = .integer m) ∨ a.IsInexact) (hb : (∃ n, b = .integer n) ∨ b.IsInexact) :
    (∃ (m n : Int64) (z : ℤ), a = .integer m ∧ b = .integer n ∧
      op.exactResult? m.toInt n.toInt = some (z : ℚ) ∧
      arithmetic op a b = narrowed (.arithmetic op m n) z) ∨
    ∃ v, v.IsInexact ∧ arithmetic op a b = .ok v := by
  by_cases h : a.IsInexact ∨ b.IsInexact
  · exact .inr (arithmetic_of_isInexact ha hb h)
  · rw [not_or] at h
    obtain ⟨m, rfl⟩ := ha.resolve_right h.1
    obtain ⟨n, rfl⟩ := hb.resolve_right h.2
    by_cases hexact : ∃ z : ℤ, op.exactResult? m.toInt n.toInt = some (z : ℚ)
    · obtain ⟨z, hz⟩ := hexact
      exact .inl ⟨m, n, z, rfl, rfl, hz, arithmetic_of_exact hz⟩
    · exact .inr (arithmetic_of_not_exact family fun z hz => hexact ⟨z, hz⟩)

/-- A minus on an integer is the negative integer if it is in range, and otherwise no integer and no
error. -/
theorem negate_cases (h : (∃ n, v = .integer n) ∨ v.IsInexact) :
    (∃ n : Int64, v = .integer n ∧ negate v = narrowed (.negation n) (-n.toInt)) ∨
    ∃ w, w.IsInexact ∧ negate v = .ok w := by
  rcases h with ⟨n, rfl⟩ | h
  · exact .inl ⟨n, rfl, rfl⟩
  · cases h with
    | null => exact .inr ⟨.null, .null, rfl⟩
    | float x => exact .inr ⟨.float (-x), .float _, rfl⟩

end Operations

/-! ### Expressions -/

namespace Expr

variable {cell : String → Option Value} {e part operand left right : Expr} {op : BinaryOp}
  {v : Value} {n : Int64} {err : EvalError} {fault : OverflowFault}

theorem evalIn_arithmetic (family : op.family = .arithmetic) (cell : String → Option Value) :
    (Expr.binary op left right).evalIn cell = left.evalIn cell >>= fun a =>
      right.evalIn cell >>= fun b => arithmetic op a b := by
  have happly : ∀ a b, applyBinary op a b = arithmetic op a b := fun a b => by
    rw [applyBinary, family]
  rw [evalIn]
  simp only [happly]

theorem evalIn_negate (cell : String → Option Value) :
    (Expr.unary .negate operand).evalIn cell = operand.evalIn cell >>= negate := by
  rw [evalIn]
  rfl

section Parts

variable {P : Expr → Prop}

theorem forall_mem_parts_binary : (∀ part ∈ (Expr.binary op left right).parts, P part) ↔
    (∀ part ∈ left.parts, P part) ∧ (∀ part ∈ right.parts, P part) ∧ P (.binary op left right) := by
  rw [parts, List.forall_mem_append, List.forall_mem_append, List.forall_mem_singleton, and_assoc]

theorem forall_mem_parts_unary {op : UnaryOp} :
    (∀ part ∈ (Expr.unary op operand).parts, P part) ↔
      (∀ part ∈ operand.parts, P part) ∧ P (.unary op operand) := by
  rw [parts, List.forall_mem_append, List.forall_mem_singleton]

end Parts

theorem fitsExactly_of_exactValue? (h : e.exactValue? cell = some (n.toInt : ℚ)) :
    e.FitsExactly cell :=
  ⟨n.toInt, fits_toInt n, h⟩

theorem exactValue?_column {name : String} (holds : cell name = some (.integer n)) :
    (Expr.column name).exactValue? cell = some (n.toInt : ℚ) := by
  rw [exactValue?, holds]
  rfl

/-- There is no other value than an integer, a double or null. -/
theorem OverIntegers.value_cases (he : e.OverIntegers cell) (h : e.evalIn cell = .ok v) :
    (∃ n, v = .integer n) ∨ v.IsInexact := by
  induction he generalizing v with
  | integer n =>
    cases h
    exact .inl ⟨n, rfl⟩
  | @column name n holds =>
    rw [evalIn, holds] at h
    cases h
    exact .inl ⟨n, rfl⟩
  | binary family _ _ ihl ihr =>
    rw [evalIn_arithmetic family] at h
    obtain ⟨a, ha, h⟩ := bind_eq_ok_iff.1 h
    obtain ⟨b, hb, h⟩ := bind_eq_ok_iff.1 h
    rcases arithmetic_cases family (ihl ha) (ihr hb) with ⟨m, n, z, -, -, -, hr⟩ | ⟨w, hw, hr⟩
    · obtain ⟨k, -, rfl⟩ := exists_of_narrowed_eq_ok (hr.symm.trans h)
      exact .inl ⟨k, rfl⟩
    · rw [← Except.ok.inj (hr.symm.trans h)]
      exact .inr hw
  | negate _ ih =>
    rw [evalIn_negate] at h
    obtain ⟨a, ha, h⟩ := bind_eq_ok_iff.1 h
    rcases negate_cases (ih ha) with ⟨n, -, hr⟩ | ⟨w, hw, hr⟩
    · obtain ⟨k, -, rfl⟩ := exists_of_narrowed_eq_ok (hr.symm.trans h)
      exact .inl ⟨k, rfl⟩
    · rw [← Except.ok.inj (hr.symm.trans h)]
      exact .inr hw

/-- **Results**: an integer is the exact value, and every part has been an integer in range. -/
theorem OverIntegers.exact_of_evalIn (he : e.OverIntegers cell)
    (h : e.evalIn cell = .ok (.integer n)) :
    e.exactValue? cell = some (n.toInt : ℚ) ∧ ∀ part ∈ e.parts, part.FitsExactly cell := by
  induction he generalizing n with
  | integer m =>
    cases h
    exact ⟨rfl, List.forall_mem_singleton.2 (fitsExactly_of_exactValue? rfl)⟩
  | @column name m holds =>
    rw [evalIn, holds] at h
    cases h
    have hexact := exactValue?_column holds
    exact ⟨hexact, List.forall_mem_singleton.2 (fitsExactly_of_exactValue? hexact)⟩
  | @binary op left right family hleft hright ihl ihr =>
    rw [evalIn_arithmetic family] at h
    obtain ⟨a, ha, h⟩ := bind_eq_ok_iff.1 h
    obtain ⟨b, hb, h⟩ := bind_eq_ok_iff.1 h
    rcases arithmetic_cases family (hleft.value_cases ha) (hright.value_cases hb) with
      ⟨m, k, z, rfl, rfl, hz, hr⟩ | ⟨w, hw, hr⟩
    · obtain ⟨hl, hlparts⟩ := ihl ha
      obtain ⟨hr', hrparts⟩ := ihr hb
      obtain ⟨n', rfl, hn⟩ := exists_of_narrowed_eq_ok (hr.symm.trans h)
      cases hn
      have hexact : (Expr.binary op left right).exactValue? cell = some (n.toInt : ℚ) := by
        rw [exactValue?, hl, hr']
        exact hz
      exact ⟨hexact, forall_mem_parts_binary.2
        ⟨hlparts, hrparts, fitsExactly_of_exactValue? hexact⟩⟩
    · rw [Except.ok.inj (hr.symm.trans h)] at hw
      cases hw
  | @negate operand hoperand ih =>
    rw [evalIn_negate] at h
    obtain ⟨a, ha, h⟩ := bind_eq_ok_iff.1 h
    rcases negate_cases (hoperand.value_cases ha) with ⟨m, rfl, hr⟩ | ⟨w, hw, hr⟩
    · obtain ⟨hm, hparts⟩ := ih ha
      obtain ⟨n', hn', hn⟩ := exists_of_narrowed_eq_ok (hr.symm.trans h)
      cases hn
      have hexact : (Expr.unary .negate operand).exactValue? cell = some (n.toInt : ℚ) := by
        rw [exactValue?, hm, hn', Option.map_some, Int.cast_neg]
      exact ⟨hexact, forall_mem_parts_unary.2 ⟨hparts, fitsExactly_of_exactValue? hexact⟩⟩
    · rw [Except.ok.inj (hr.symm.trans h)] at hw
      cases hw

/-- If every part is an integer in range, so is the result. -/
theorem OverIntegers.evalIn_of_fitsExactly (he : e.OverIntegers cell)
    (h : ∀ part ∈ e.parts, part.FitsExactly cell) : ∃ n, e.evalIn cell = .ok (.integer n) := by
  induction he with
  | integer n => exact ⟨n, rfl⟩
  | @column name n holds =>
    refine ⟨n, ?_⟩
    rw [evalIn, holds]
  | @binary op left right family hleft hright ihl ihr =>
    obtain ⟨hlparts, hrparts, z, hz, hexact⟩ := forall_mem_parts_binary.1 h
    obtain ⟨m, hm⟩ := ihl hlparts
    obtain ⟨n, hn⟩ := ihr hrparts
    rw [exactValue?, (hleft.exact_of_evalIn hm).1, (hright.exact_of_evalIn hn).1] at hexact
    refine ⟨Int64.ofInt z, ?_⟩
    rw [evalIn_arithmetic family, hm, hn]
    exact (arithmetic_of_exact hexact).trans (narrowed_of_fits hz)
  | @negate operand hoperand ih =>
    obtain ⟨hparts, z, hz, hexact⟩ := forall_mem_parts_unary.1 h
    obtain ⟨m, hm⟩ := ih hparts
    rw [exactValue?, (hoperand.exact_of_evalIn hm).1, Option.map_some, Option.some_inj] at hexact
    have hneg : -m.toInt = z := by exact_mod_cast hexact
    refine ⟨Int64.ofInt z, ?_⟩
    rw [evalIn_negate, hm, ← hneg]
    exact narrowed_of_fits (hneg ▸ hz)

/-- **Errors**: there is none without an overflow that evaluation reaches. -/
theorem OverIntegers.overflows_of_evalIn (he : e.OverIntegers cell)
    (h : e.evalIn cell = .error err) :
    ∃ part fault, e.Reaches cell part ∧ part.Overflows cell fault ∧ err = .overflow fault := by
  induction he with
  | integer n => cases h
  | column holds =>
    rw [evalIn, holds] at h
    cases h
  | binary family hleft hright ihl ihr =>
    rw [evalIn_arithmetic family, bind_eq_error_iff] at h
    rcases h with h | ⟨a, ha, h⟩
    · obtain ⟨part, fault, hpart, hfault⟩ := ihl h
      exact ⟨part, fault, .left hpart, hfault⟩
    rcases bind_eq_error_iff.1 h with h | ⟨b, hb, h⟩
    · obtain ⟨part, fault, hpart, hfault⟩ := ihr h
      exact ⟨part, fault, .right ⟨a, ha⟩ hpart, hfault⟩
    -- both operands have values, so it is the operation itself that fails
    rcases arithmetic_cases family (hleft.value_cases ha) (hright.value_cases hb) with
      ⟨m, n, z, rfl, rfl, hz, hr⟩ | ⟨w, -, hr⟩
    · obtain ⟨hout, rfl⟩ := not_fits_of_narrowed_eq_error (hr.symm.trans h)
      exact ⟨_, _, .self _, .arithmetic ha hb hz hout, rfl⟩
    · cases hr.symm.trans h
  | negate hoperand ih =>
    rw [evalIn_negate, bind_eq_error_iff] at h
    rcases h with h | ⟨a, ha, h⟩
    · obtain ⟨part, fault, hpart, hfault⟩ := ih h
      exact ⟨part, fault, .operand hpart, hfault⟩
    rcases negate_cases (hoperand.value_cases ha) with ⟨n, rfl, hr⟩ | ⟨w, -, hr⟩
    · obtain ⟨hout, rfl⟩ := not_fits_of_narrowed_eq_error (hr.symm.trans h)
      exact ⟨_, _, .self _, .negation ha hout, rfl⟩
    · cases hr.symm.trans h

/-- The error of a part that evaluation reaches is the error of the whole. -/
theorem Reaches.evalIn_eq_error (hpart : e.Reaches cell part) (h : part.evalIn cell = .error err) :
    e.evalIn cell = .error err := by
  induction hpart with
  | self => exact h
  | left _ ih =>
    rw [evalIn, ih h]
    rfl
  | right before _ ih =>
    obtain ⟨a, ha⟩ := before
    rw [evalIn, ha, ih h]
    rfl
  | operand _ ih =>
    rw [evalIn, ih h]
    rfl

theorem Overflows.evalIn_eq_error (h : e.Overflows cell fault) :
    e.evalIn cell = .error (.overflow fault) := by
  cases h with
  | @arithmetic op left right m n z hleft hright exact out =>
    have family : op.family = .arithmetic := by
      cases op <;> first | rfl | cases exact
    rw [evalIn_arithmetic family, hleft, hright]
    exact (arithmetic_of_exact exact).trans (narrowed_of_not_fits out)
  | negation hoperand out =>
    rw [evalIn_negate, hoperand]
    exact narrowed_of_not_fits out

end Expr

/-- **Arithmetic on integers is exact.**  If an expression of integers evaluates to an integer, this
is its exact value; it does so exactly when every part of it is an integer in range.  The errors are
the overflows that evaluation reaches. -/
theorem eval_integers_exact {columns : List String} {row : Row} {e : Expr}
    (he : e.OverIntegers (cellNamed? columns row)) :
    (∀ n, e.eval columns row = .ok (.integer n) →
      e.exactValue? (cellNamed? columns row) = some (n.toInt : ℚ)) ∧
    ((∀ part ∈ e.parts, part.FitsExactly (cellNamed? columns row)) ↔
      ∃ n : Int64, e.exactValue? (cellNamed? columns row) = some (n.toInt : ℚ) ∧
        e.eval columns row = .ok (.integer n)) ∧
    ∀ err, e.eval columns row = .error err ↔ ∃ part fault,
      e.Reaches (cellNamed? columns row) part ∧ part.Overflows (cellNamed? columns row) fault ∧
        err = .overflow fault := by
  refine ⟨fun n h => (he.exact_of_evalIn h).1, ⟨fun h => ?_, ?_⟩, fun err => ⟨?_, ?_⟩⟩
  · obtain ⟨n, hn⟩ := he.evalIn_of_fitsExactly h
    exact ⟨n, (he.exact_of_evalIn hn).1, hn⟩
  · rintro ⟨n, -, hn⟩
    exact (he.exact_of_evalIn hn).2
  · exact he.overflows_of_evalIn
  · rintro ⟨part, fault, hpart, hfault, rfl⟩
    exact hpart.evalIn_eq_error hfault.evalIn_eq_error

/-- With `7` in one column and the least integer in the other: an integer and its exact value; an
exact value that is an integer but is not reached without a fraction; and an exact division that
overflows before there is a division by zero. -/
theorem eval_integers_exact_limits :
    let columns := ["a", "least"]
    let row : Row := [.integer 7, .integer (-9223372036854775808)]
    let divided (e : Expr) (n : Int64) : Expr := .binary .divide e (.literal (.integer n))
    let exact : Expr := .unary .negate (.binary .add (divided (.column "a") 7) (.column "a"))
    let halved : Expr := .binary .multiply (divided (.column "a") 2) (.literal (.integer 2))
    let overflowing : Expr := divided (divided (.column "least") (-1)) 0
    (exact.OverIntegers (cellNamed? columns row) ∧ halved.OverIntegers (cellNamed? columns row) ∧
      overflowing.OverIntegers (cellNamed? columns row)) ∧
    exact.eval columns row = .ok (.integer (-8)) ∧
    exact.exactValue? (cellNamed? columns row) = some (-8) ∧
    halved.exactValue? (cellNamed? columns row) = some 7 ∧
    (∀ n, halved.eval columns row ≠ .ok (.integer n)) ∧
    overflowing.eval columns row =
      .error (.overflow (.arithmetic .divide (-9223372036854775808) (-1))) := by
  intro columns row divided exact halved overflowing
  have ha : (Expr.column "a").OverIntegers (cellNamed? columns row) := .column rfl
  have hleast : (Expr.column "least").OverIntegers (cellNamed? columns row) := .column rfl
  have hexact : exact.OverIntegers (cellNamed? columns row) :=
    .negate (.binary rfl (.binary rfl ha (.integer 7)) ha)
  have hhalved : halved.OverIntegers (cellNamed? columns row) :=
    .binary rfl (.binary rfl ha (.integer 2)) (.integer 2)
  have hoverflowing : overflowing.OverIntegers (cellNamed? columns row) :=
    .binary rfl (.binary rfl hleast (.integer (-1))) (.integer 0)
  have hvalue : exact.eval columns row = .ok (.integer (-8)) := by rfl
  refine ⟨⟨hexact, hhalved, hoverflowing⟩, hvalue, ?_, ?_, ?_, ?_⟩
  · exact (eval_integers_exact hexact).1 _ hvalue
  · show some ((7 : ℚ) / 2 * 2) = some 7
    norm_num
  · intro n hn
    have hfits := (eval_integers_exact hhalved).2.1.2 ⟨n, (eval_integers_exact hhalved).1 n hn, hn⟩
    obtain ⟨z, -, hz⟩ := hfits (divided (.column "a") 2) (by simp [halved, divided, Expr.parts])
    have hhalf : (divided (.column "a") 2).exactValue? (cellNamed? columns row) =
        some (7 / 2) := by rfl
    rw [hhalf, Option.some_inj, div_eq_iff (by norm_num)] at hz
    norm_cast at hz
    omega
  · refine ((eval_integers_exact hoverflowing).2.2 _).2 ⟨_, _, .left (.self _), ?_, rfl⟩
    refine .arithmetic (z := 9223372036854775808) rfl rfl ?_ (by decide)
    show (if ((-1 : ℤ) : ℚ) = 0 then none
      else some (((-9223372036854775808 : ℤ) : ℚ) / (-1 : ℤ))) = _
    norm_num

end TablePipeline
