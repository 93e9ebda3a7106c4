import Mathlib.Data.List.Forall2
import TablePipeline.Expr.Aggregate

/-!
# Expressions with the same meaning

Two expressions are alike if nothing can tell them apart: they have the same value, or the same
error, whatever the cells are and over every table.  A call over a table looks at whether its
argument is a column, so alike expressions are the same column or no columns.

Being alike is kept by everything that expressions are made of.  The one pair of different
expressions in this file is a minus in front of a number and the negative number.

## Main definitions

* `Expr.Alike` — the same meaning
* `Literal.negative?` — the negative of a number

## Main statements

* `Expr.Alike.binary`, `Expr.Alike.unary`, `Expr.Alike.call`, `Expr.Alike.nullTest` — congruence
* `Expr.alike_negative` — a minus and a negative number
-/

namespace TablePipeline

/-- The two expressions have the same meaning, wherever they stand. -/
structure Expr.Alike (e e' : Expr) : Prop where
  evalIn_eq : ∀ cell, e.evalIn cell = e'.evalIn cell
  aggregate_eq : ∀ t, e.aggregate t = e'.aggregate t
  column_iff : ∀ name, e = .column name ↔ e' = .column name

/-- The negative of a number, if it is in range. -/
def Literal.negative? : Literal → Option Literal
  | .integer n => (narrow? (-n.toInt)).map .integer
  | .float x => some (.float (-x))
  | _ => none

namespace Expr

variable {e e' l l' r r' : Expr} {arguments arguments' : List Expr}

theorem Alike.refl (e : Expr) : e.Alike e :=
  ⟨fun _ => rfl, fun _ => rfl, fun _ => Iff.rfl⟩

theorem Alike.binary (op : BinaryOp) (hl : l.Alike l') (hr : r.Alike r') :
    (Expr.binary op l r).Alike (.binary op l' r') where
  evalIn_eq cell := by rw [evalIn, evalIn, hl.evalIn_eq, hr.evalIn_eq]
  aggregate_eq t := by rw [aggregate, aggregate, hl.aggregate_eq, hr.aggregate_eq]
  column_iff name := iff_of_false nofun nofun

theorem Alike.unary (op : UnaryOp) (h : e.Alike e') : (Expr.unary op e).Alike (.unary op e') where
  evalIn_eq cell := by rw [evalIn, evalIn, h.evalIn_eq]
  aggregate_eq t := by
    cases op with
    | not => rfl
    | negate => rw [aggregate, aggregate, h.aggregate_eq]
  column_iff name := iff_of_false nofun nofun

theorem Alike.nullTest (negated : Bool) (h : e.Alike e') :
    (Expr.nullTest e negated).Alike (.nullTest e' negated) where
  evalIn_eq cell := by rw [evalIn, evalIn, h.evalIn_eq]
  aggregate_eq t := rfl
  column_iff name := iff_of_false nofun nofun

theorem gather_of_not_column (f : AggregateFunction) (t : Table) (h : ¬∃ name, e = .column name) :
    gather f [e] t = .error (.typeFault (.aggregateArgument f.name)) := by
  cases e with
  | column name => exact absurd ⟨name, rfl⟩ h
  | _ => rfl

/-- What a call gathers depends on its arguments only if there is one and it is a column. -/
theorem gather_alike (f : AggregateFunction) (t : Table)
    (h : List.Forall₂ Alike arguments arguments') :
    gather f arguments t = gather f arguments' t := by
  cases h with
  | nil => rfl
  | @cons e e' _ _ he hrest =>
    cases hrest with
    | cons _ hrest =>
      have hlength := hrest.length_eq
      simp only [gather, List.length_cons, hlength]
    | nil =>
      by_cases hcolumn : ∃ name, e = .column name
      · obtain ⟨name, rfl⟩ := hcolumn
        rw [(he.column_iff name).1 rfl]
      · have hcolumn' : ¬∃ name, e' = .column name := fun ⟨name, hname⟩ =>
          hcolumn ⟨name, (he.column_iff name).2 hname⟩
        rw [gather_of_not_column f t hcolumn, gather_of_not_column f t hcolumn']

theorem Alike.call (function : String) (h : List.Forall₂ Alike arguments arguments') :
    (Expr.call function arguments).Alike (.call function arguments') where
  evalIn_eq cell := by
    have hmap : arguments.map (·.evalIn cell) = arguments'.map (·.evalIn cell) :=
      List.forall₂_eq_eq_eq ▸ List.forall₂_map_left_iff.2
        (List.forall₂_map_right_iff.2 (h.imp fun _ _ he => he.evalIn_eq cell))
    rw [evalIn, evalIn, evalArguments_eq_map, evalArguments_eq_map, hmap]
  aggregate_eq t := by
    rw [aggregate, aggregate, applyAggregateCall, applyAggregateCall]
    cases AggregateFunction.ofName? function with
    | none => rfl
    | some f =>
      have hgather := gather_alike f t h
      cases f with
      | count => rfl
      | _ => simp only [applyAggregate, hgather]
  column_iff name := iff_of_false nofun nofun

/-- **A minus in front of a number** is the negative number. -/
theorem alike_negative {number negative : Literal} (h : number.negative? = some negative) :
    (Expr.unary .negate (.literal number)).Alike (.literal negative) := by
  have hnegate : negate number.value = .ok negative.value := by
    cases number with
    | integer n =>
      obtain ⟨m, hm, rfl⟩ := Option.map_eq_some_iff.1 h
      simp only [Literal.value, negate, hm]
    | float x =>
      cases h
      rfl
    | _ => cases h
  exact ⟨fun _ => hnegate, fun _ => hnegate, fun _ => iff_of_false nofun nofun⟩

end Expr

end TablePipeline
