import Mathlib.Algebra.BigOperators.Group.List.Lemmas
import Mathlib.Algebra.Order.BigOperators.Group.List
import Mathlib.Algebra.Order.Ring.Int
import TablePipeline.Expr.Aggregate
import TablePipeline.Proofs.Table.Positions

/-!
# Sums of integers

A sum of integers is exact, and it is checked at every step: what has to be in range is not only the
sum of all integers but the sum of each first part of them, in the order of the rows
(`PartialSumsFit`).  So a sum may overflow on its way although it comes back into range, and then it
does not overflow if the rows come in another order.

What the order may change can be said exactly.  The sum itself never changes.  Whatever the order,
a partial sum lies between the sum of the negative integers and that of the positive ones, and both
are partial sums in some order; so no order overflows exactly when these two are in range
(`forall_perm_partialSumsFit_iff`).  And if the sum of all is in range there always is an order that
does not overflow: from below zero one goes on with a positive integer and otherwise with a negative
one (`exists_perm_partialSumsFit`).

## Main definitions

* `PartialSumsFit` — the sums of all first parts are in range
* `Table.integers`, `Table.present` — the integers of a column, and its cells that are not null
* `Table.sumOf` — the sum over a column

## Main statements

* `Table.sumOf_of_partialSumsFit`, `Table.sumOf_of_not_partialSumsFit` — the outcome of a sum
* `sum_integers` — the outcome in every order of the rows
-/

namespace TablePipeline

/-- The sum of each first part of the integers is in range. -/
def PartialSumsFit (ints : List Int) : Prop :=
  ∀ part, part <+: ints → Fits part.sum

instance decidablePartialSumsFit (ints : List Int) : Decidable (PartialSumsFit ints) :=
  decidable_of_iff (∀ part ∈ ints.inits, Fits part.sum) (by simp only [List.mem_inits]; rfl)

/-- The exact value of an integer. -/
def Value.toInt? : Value → Option Int
  | .integer n => some n.toInt
  | _ => none

namespace Table

/-- The integers of a column, from top to bottom. -/
def integers (t : Table) (name : String) : List Int :=
  t.rows.filterMap fun row => (t.cell row name).toInt?

/-- The cells of a column are integers or null. -/
def HoldsIntegers (t : Table) (name : String) : Prop :=
  ∀ row ∈ t.rows, (t.cell row name).isNull = false → (t.cell row name).isInteger = true

instance decidableHoldsIntegers (t : Table) (name : String) : Decidable (t.HoldsIntegers name) :=
  inferInstanceAs (Decidable (∀ row ∈ t.rows, _ → _))

/-- The cells of a column that are not null, from top to bottom. -/
def present (t : Table) (name : String) : List Value :=
  (t.rows.map fun row => t.cell row name).filter fun v => !v.isNull

/-- The outcome of the sum over a column. -/
def sumOf (t : Table) (name : String) : Outcome :=
  (Expr.call "sum" [.column name]).aggregate t

end Table

/-! ### Orders of integers -/

section Orders

variable {ints l : List Int} {start : Int}

/-- The sum of the positive integers. -/
def positiveSum (ints : List Int) : Int :=
  (ints.filter (0 < ·)).sum

/-- The sum of the negative integers. -/
def negativeSum (ints : List Int) : Int :=
  (ints.filter (· < 0)).sum

theorem positiveSum_cons (n : Int) (ints : List Int) :
    positiveSum (n :: ints) = max n 0 + positiveSum ints := by
  by_cases h : 0 < n
  · simp [positiveSum, h, max_eq_left h.le]
  · simp [positiveSum, h, max_eq_right (not_lt.1 h)]

theorem negativeSum_cons (n : Int) (ints : List Int) :
    negativeSum (n :: ints) = min n 0 + negativeSum ints := by
  by_cases h : n < 0
  · simp [negativeSum, h, min_eq_left h.le]
  · simp [negativeSum, h, min_eq_right (not_lt.1 h)]

/-- A sum of some of the integers lies between that of the negative and that of the positive
ones. -/
theorem sum_between_of_sublist (h : l.Sublist ints) :
    negativeSum ints ≤ l.sum ∧ l.sum ≤ positiveSum ints := by
  induction h with
  | slnil => exact ⟨le_rfl, le_rfl⟩
  | cons n _ ih | cons_cons n _ ih =>
    simp only [negativeSum_cons, positiveSum_cons, List.sum_cons]
    omega

/-- No order overflows exactly when the positive integers alone and the negative ones alone are in
range. -/
theorem forall_perm_partialSumsFit_iff :
    (∀ l, l.Perm ints → PartialSumsFit l) ↔ Fits (positiveSum ints) ∧ Fits (negativeSum ints) := by
  constructor
  -- the integers of one sign may come first
  · intro h
    have hfirst : ∀ p : Int → Bool, Fits (ints.filter p).sum := by
      intro p
      exact h _ (List.filter_append_perm p ints) _ (List.prefix_append _ _)
    exact ⟨hfirst _, hfirst _⟩
  · intro h l hl part hpart
    have hbetween := sum_between_of_sublist hpart.sublist
    have hpositive : positiveSum l = positiveSum ints := (hl.filter _).sum_eq
    have hnegative : negativeSum l = negativeSum ints := (hl.filter _).sum_eq
    rw [hpositive, hnegative] at hbetween
    exact ⟨le_trans h.2.1 hbetween.1, le_trans hbetween.2 h.1.2⟩

/-- Where all that is to be added has one sign, the partial sums lie between the start and the
end. -/
theorem fits_of_prefix_of_sign (hsign : (∀ n ∈ ints, 0 ≤ n) ∨ ∀ n ∈ ints, n ≤ 0)
    (hstart : Fits start) (htotal : Fits (start + ints.sum)) :
    ∀ part, part <+: ints → Fits (start + part.sum) := by
  rintro part ⟨rest, rfl⟩
  have hnonpos : ∀ l : List Int, (∀ n ∈ l, n ≤ 0) → l.sum ≤ 0 := by
    intro l hl
    simpa using List.sum_le_card_nsmul l 0 hl
  have hboth : (0 ≤ part.sum ∧ 0 ≤ rest.sum) ∨ (part.sum ≤ 0 ∧ rest.sum ≤ 0) := by
    rcases hsign with h | h <;> rw [List.forall_mem_append] at h
    · exact .inl ⟨List.sum_nonneg h.1, List.sum_nonneg h.2⟩
    · exact .inr ⟨hnonpos part h.1, hnonpos rest h.2⟩
  rw [List.sum_append] at htotal
  unfold Fits at *
  omega

/-- One may begin with any of the integers. -/
theorem fits_of_prefix_cons {n : Int} (hstart : Fits start)
    (h : ∀ part, part <+: l → Fits (start + n + part.sum)) :
    ∀ part, part <+: n :: l → Fits (start + part.sum) := by
  intro part hpart
  rcases List.prefix_cons_iff.1 hpart with rfl | ⟨later, rfl, hlater⟩
  · simpa using hstart
  · rw [List.sum_cons, ← add_assoc]
    exact h later hlater

/-- If the sum of all is in range, there is an order in which all partial sums are. -/
theorem exists_perm_partialSumsFit (hints : ∀ n ∈ ints, Fits n) (hstart : Fits start)
    (htotal : Fits (start + ints.sum)) :
    ∃ l, l.Perm ints ∧ ∀ part, part <+: l → Fits (start + part.sum) := by
  induction hlength : ints.length generalizing ints start with
  | zero =>
    rw [List.length_eq_zero_iff.1 hlength]
    refine ⟨[], List.Perm.nil, fun part hpart => ?_⟩
    simpa [List.prefix_nil.1 hpart] using hstart
  | succ k ih =>
    -- an integer of the sign opposite to that of the start cannot lead out of the range
    by_cases hback : ∃ n ∈ ints, (0 ≤ start ∧ n < 0) ∨ (start < 0 ∧ 0 < n)
    · obtain ⟨n, hn, hsign⟩ := hback
      obtain ⟨before, after, rfl⟩ := List.append_of_mem hn
      have hmiddle : (before ++ n :: after).Perm (n :: (before ++ after)) := List.perm_middle
      have hnext : Fits (start + n) := by
        have := hints n hn
        unfold Fits leastInteger greatestInteger at *
        omega
      rw [hmiddle.sum_eq, List.sum_cons, ← add_assoc] at htotal
      rw [hmiddle.length_eq, List.length_cons, Nat.add_right_cancel_iff] at hlength
      obtain ⟨l, hl, hfits⟩ := ih
        (fun m hm => hints m (hmiddle.mem_iff.2 (List.mem_cons_of_mem n hm))) hnext htotal hlength
      exact ⟨n :: l, (hl.cons n).trans hmiddle.symm, fits_of_prefix_cons hstart hfits⟩
    · refine ⟨ints, List.Perm.refl ints, fits_of_prefix_of_sign ?_ hstart htotal⟩
      rcases lt_or_ge start 0 with h | h
      · exact .inr fun n hn => not_lt.1 fun hlt => hback ⟨n, hn, .inr ⟨h, hlt⟩⟩
      · exact .inl fun n hn => not_lt.1 fun hlt => hback ⟨n, hn, .inl ⟨h, hlt⟩⟩

/-- Every order of what a list gives is given by an order of the list. -/
theorem exists_perm_filterMap {α β : Type} {f : α → Option β} {l : List β} {xs : List α}
    (h : l.Perm (xs.filterMap f)) : ∃ ys : List α, ys.Perm xs ∧ ys.filterMap f = l := by
  induction l generalizing xs with
  | nil => exact ⟨xs, List.Perm.refl xs, h.nil_eq.symm⟩
  | cons b l ih =>
    obtain ⟨x, hx, hb⟩ := List.mem_filterMap.1 (h.mem_iff.1 List.mem_cons_self)
    obtain ⟨before, after, rfl⟩ := List.append_of_mem hx
    have hmiddle : (before ++ x :: after).Perm (x :: (before ++ after)) := List.perm_middle
    have hrest := h.trans (hmiddle.filterMap f)
    rw [List.filterMap_cons_some hb] at hrest
    obtain ⟨ys, hys, rfl⟩ := ih hrest.cons_inv
    exact ⟨x :: ys, (hys.cons x).trans hmiddle.symm, List.filterMap_cons_some hb⟩

end Orders

/-! ### The loop -/

section Loop

variable {values : List Value}

/-- One integer after the other is added, and each partial sum has to be in range. -/
theorem sumIntegers_cons (total n : Int64) (values : List Value) :
    sumIntegers total (.integer n :: values) =
      if Fits (total.toInt + n.toInt) then
        sumIntegers (Int64.ofInt (total.toInt + n.toInt)) values
      else .error (.overflow .sum) := by
  rw [sumIntegers, narrow?]
  by_cases h : Fits (total.toInt + n.toInt)
  · rw [if_pos h, if_pos h]
  · rw [if_neg h, if_neg h]

theorem sumIntegers_of_fits (total : Int64) (hvalues : ∀ v ∈ values, v.isInteger = true)
    (h : ∀ part, part <+: values.filterMap Value.toInt? → Fits (total.toInt + part.sum)) :
    ∃ n : Int64, n.toInt = total.toInt + (values.filterMap Value.toInt?).sum ∧
      sumIntegers total values = .ok n := by
  induction values generalizing total with
  | nil => exact ⟨total, by simp, rfl⟩
  | cons v rest ih =>
    rw [List.forall_mem_cons] at hvalues
    cases v with
    | integer m =>
      have hnext : Fits (total.toInt + m.toInt) := by
        simpa using h [m.toInt] (List.prefix_cons_iff.2 (.inr ⟨[], rfl, List.nil_prefix⟩))
      have htotal := toInt_ofInt_of_fits hnext
      obtain ⟨n, hn, hsum⟩ := ih (Int64.ofInt (total.toInt + m.toInt)) hvalues.2 (by
        intro part hpart
        have hlonger := h (m.toInt :: part) (List.prefix_cons_iff.2 (.inr ⟨part, rfl, hpart⟩))
        rwa [htotal, add_assoc, ← List.sum_cons])
      refine ⟨n, ?_, ?_⟩
      · rw [hn, htotal, add_assoc]
        rfl
      · rw [sumIntegers_cons, if_pos hnext, hsum]
    | null | boolean | float | string | nested => exact absurd hvalues.1 (by simp [Value.isInteger])

theorem sumIntegers_of_not_fits (total : Int64) (hvalues : ∀ v ∈ values, v.isInteger = true)
    (h : ∃ part, part <+: values.filterMap Value.toInt? ∧ ¬Fits (total.toInt + part.sum)) :
    sumIntegers total values = .error (.overflow .sum) := by
  induction values generalizing total with
  | nil =>
    obtain ⟨part, hpart, hfits⟩ := h
    have hnil : part = [] := List.prefix_nil.1 hpart
    exact absurd (fits_toInt total) (by simpa [hnil] using hfits)
  | cons v rest ih =>
    rw [List.forall_mem_cons] at hvalues
    cases v with
    | integer m =>
      rw [sumIntegers_cons]
      by_cases hnext : Fits (total.toInt + m.toInt)
      · rw [if_pos hnext]
        refine ih _ hvalues.2 ?_
        obtain ⟨part, hpart, hfits⟩ := h
        rcases List.prefix_cons_iff.1 hpart with rfl | ⟨later, rfl, hlater⟩
        · exact absurd (fits_toInt total) (by simpa using hfits)
        · refine ⟨later, hlater, ?_⟩
          rwa [toInt_ofInt_of_fits hnext, add_assoc, ← List.sum_cons]
      · rw [if_neg hnext]
    | null | boolean | float | string | nested => exact absurd hvalues.1 (by simp [Value.isInteger])

/-- Integers are numbers. -/
theorem requireNumbers_of_isInteger (f : AggregateFunction)
    (hvalues : ∀ v ∈ values, v.isInteger = true) : requireNumbers f values = .ok () := by
  have hnone : values.find? (fun v => !v.isNumeric) = none := by
    rw [List.find?_eq_none]
    intro v hv
    have := hvalues v hv
    cases v <;> simp_all [Value.isInteger, Value.isNumeric]
  rw [requireNumbers, hnone]

end Loop

/-! ### The sum over a column -/

namespace Table

variable {t : Table} {name : String}

/-- What is gathered from a column that exists. -/
theorem gather_of_mem (f : AggregateFunction) (hname : name ∈ t.columns) :
    gather f [.column name] t = .ok (t.present name) := by
  rw [gather, columnIndex?_of_mem hname]
  rfl

theorem HoldsIntegers.isInteger (hcells : t.HoldsIntegers name) :
    ∀ v ∈ t.present name, v.isInteger = true := by
  intro v hv
  rw [present, List.mem_filter, List.mem_map] at hv
  obtain ⟨⟨row, hrow, rfl⟩, hnull⟩ := hv
  exact hcells row hrow (by simpa using hnull)

theorem filterMap_present : (t.present name).filterMap Value.toInt? = t.integers name := by
  rw [present, List.filterMap_filter, List.filterMap_map, integers]
  refine List.filterMap_congr fun row _ => ?_
  cases h : t.cell row name <;> simp [h, Value.isNull, Value.toInt?]

/-- The sum over a column of integers is that of its cells. -/
theorem sumOf_eq (hname : name ∈ t.columns) (hcells : t.HoldsIntegers name)
    (hne : t.integers name ≠ []) :
    ∃ values, (∀ v ∈ values, v.isInteger = true) ∧
      values.filterMap Value.toInt? = t.integers name ∧
      t.sumOf name = (sumIntegers 0 values).map .integer := by
  have hgather := gather_of_mem .sum hname
  have hints := hcells.isInteger
  have hmap : (t.present name).filterMap Value.toInt? = t.integers name := filterMap_present
  generalize t.present name = values at hgather hints hmap
  refine ⟨values, hints, hmap, ?_⟩
  have hnumbers := requireNumbers_of_isInteger .sum hints
  have hempty : values.isEmpty = false := by
    rw [List.isEmpty_eq_false_iff]
    rintro rfl
    exact hne hmap.symm
  show (gather .sum [.column name] t >>= sumValues) = _
  rw [hgather]
  show sumValues values = _
  rw [sumValues, hnumbers, hempty, List.all_eq_true.2 hints]
  show (sumIntegers 0 values >>= _) = _
  cases sumIntegers 0 values <;> rfl

theorem sumOf_of_partialSumsFit (hname : name ∈ t.columns) (hcells : t.HoldsIntegers name)
    (hne : t.integers name ≠ []) (h : PartialSumsFit (t.integers name)) :
    ∃ n : Int64, n.toInt = (t.integers name).sum ∧ t.sumOf name = .ok (.integer n) := by
  obtain ⟨values, hints, hmap, hsum⟩ := sumOf_eq hname hcells hne
  obtain ⟨n, hn, hok⟩ := sumIntegers_of_fits 0 hints (by
    intro part hpart
    simpa using h part (hmap ▸ hpart))
  refine ⟨n, ?_, ?_⟩
  · simpa [hmap] using hn
  · rw [hsum, hok]
    rfl

theorem sumOf_of_not_partialSumsFit (hname : name ∈ t.columns) (hcells : t.HoldsIntegers name)
    (hne : t.integers name ≠ []) (h : ¬PartialSumsFit (t.integers name)) :
    t.sumOf name = .error (.overflow .sum) := by
  obtain ⟨values, hints, hmap, hsum⟩ := sumOf_eq hname hcells hne
  simp only [PartialSumsFit, not_forall, exists_prop] at h
  rw [hsum, sumIntegers_of_not_fits 0 hints (by simpa [hmap] using h)]
  rfl

/-! ### The order of the rows -/

/-- The rows of a table, in any order. -/
def Reorders (u t : Table) : Prop :=
  u.columns = t.columns ∧ u.rows.Perm t.rows

section Reorders

variable {u : Table}

theorem Reorders.refl (t : Table) : t.Reorders t :=
  ⟨rfl, List.Perm.refl t.rows⟩

theorem Reorders.cell_eq (h : u.Reorders t) : u.cell = t.cell := by
  funext row name
  simp only [cell, h.1]

theorem Reorders.integers_perm (h : u.Reorders t) (name : String) :
    (u.integers name).Perm (t.integers name) := by
  rw [integers, integers, h.cell_eq]
  exact h.2.filterMap _

theorem Reorders.integers_ne_nil (h : u.Reorders t) (hne : t.integers name ≠ []) :
    u.integers name ≠ [] := by
  intro hnil
  exact hne (hnil ▸ h.integers_perm name).nil_eq.symm

theorem Reorders.holdsIntegers (h : u.Reorders t) (hcells : t.HoldsIntegers name) :
    u.HoldsIntegers name := by
  intro row hrow
  rw [h.cell_eq]
  exact hcells row (h.2.mem_iff.1 hrow)

/-- The integers of a column come in any order, if the rows do. -/
theorem exists_reorders_integers {l : List Int} (h : l.Perm (t.integers name)) :
    ∃ u : Table, u.Reorders t ∧ u.integers name = l := by
  obtain ⟨rows, hrows, hl⟩ := exists_perm_filterMap h
  exact ⟨⟨t.columns, rows⟩, ⟨rfl, hrows⟩, hl⟩

theorem fits_of_mem_integers {n : Int} (h : n ∈ t.integers name) : Fits n := by
  obtain ⟨row, -, hn⟩ := List.mem_filterMap.1 h
  cases hcell : t.cell row name with
  | integer m =>
    rw [hcell] at hn
    rw [← Option.some.inj hn]
    exact fits_toInt m
  | null | boolean | float | string | nested => simp [hcell, Value.toInt?] at hn

end Reorders

end Table

section

variable (t : Table) (name : String)

/-- The sum over a column of integers, in every order of the rows.  It is the exact sum if all
partial sums are in range, and the overflow error otherwise; so it is the overflow error in every
order if the exact sum is out of range.  The order does not matter exactly if the exact sum is out
of range, or both the sum of the positive and that of the negative integers are in range. -/
theorem sum_integers (hname : name ∈ t.columns) (hcells : t.HoldsIntegers name)
    (hne : t.integers name ≠ []) :
    (∀ u : Table, u.Reorders t → PartialSumsFit (u.integers name) →
      ∃ n : Int64, n.toInt = (t.integers name).sum ∧ u.sumOf name = .ok (.integer n)) ∧
    (∀ u : Table, u.Reorders t → ¬PartialSumsFit (u.integers name) →
      u.sumOf name = .error (.overflow .sum)) ∧
    (¬Fits (t.integers name).sum →
      ∀ u : Table, u.Reorders t → u.sumOf name = .error (.overflow .sum)) ∧
    ((∀ u : Table, u.Reorders t → u.sumOf name = t.sumOf name) ↔
      ¬Fits (t.integers name).sum ∨
        (Fits (positiveSum (t.integers name)) ∧ Fits (negativeSum (t.integers name)))) := by
  have hfits : ∀ u : Table, u.Reorders t → PartialSumsFit (u.integers name) →
      ∃ n : Int64, n.toInt = (t.integers name).sum ∧ u.sumOf name = .ok (.integer n) := by
    intro u hu h
    rw [← (hu.integers_perm name).sum_eq]
    exact Table.sumOf_of_partialSumsFit (hu.1 ▸ hname) (hu.holdsIntegers hcells)
      (hu.integers_ne_nil hne) h
  have hnot : ∀ u : Table, u.Reorders t → ¬PartialSumsFit (u.integers name) →
      u.sumOf name = .error (.overflow .sum) := by
    intro u hu h
    exact Table.sumOf_of_not_partialSumsFit (hu.1 ▸ hname) (hu.holdsIntegers hcells)
      (hu.integers_ne_nil hne) h
  -- the sum of all is itself a partial sum
  have hall : ¬Fits (t.integers name).sum →
      ∀ u : Table, u.Reorders t → u.sumOf name = .error (.overflow .sum) := by
    intro h u hu
    refine hnot u hu fun hpartial => h ?_
    rw [← (hu.integers_perm name).sum_eq]
    exact hpartial _ (List.prefix_refl _)
  refine ⟨hfits, hnot, hall, ?_, ?_⟩
  · intro hsame
    by_cases htotal : Fits (t.integers name).sum
    · refine .inr (forall_perm_partialSumsFit_iff.1 fun l hl => ?_)
      -- one order has a sum, so this one has it too
      obtain ⟨calm, hcalm, hprefixes⟩ := exists_perm_partialSumsFit
        (fun n hn => Table.fits_of_mem_integers hn) (show Fits 0 by decide) (by simpa using htotal)
      obtain ⟨u, hu, rfl⟩ := Table.exists_reorders_integers hcalm
      obtain ⟨n, -, hok⟩ := hfits u hu fun part hpart => by simpa using hprefixes part hpart
      obtain ⟨v, hv, rfl⟩ := Table.exists_reorders_integers hl
      by_contra hpartial
      have herror := hnot v hv hpartial
      rw [hsame v hv, ← hsame u hu, hok] at herror
      exact nomatch herror
    · exact .inl htotal
  · rintro (htotal | hsigns) u hu
    · rw [hall htotal u hu, hall htotal t (Table.Reorders.refl t)]
    · have hevery := forall_perm_partialSumsFit_iff.2 hsigns
      obtain ⟨n, hn, hu'⟩ := hfits u hu (hevery _ (hu.integers_perm name))
      obtain ⟨m, hm, ht⟩ := hfits t (Table.Reorders.refl t) (hevery _ (List.Perm.refl _))
      rw [hu', ht, Int64.toInt_inj.1 (hn.trans hm.symm)]

end

/-- Three integers the sum of which is in range, but not that of the first two. -/
def peak : Table :=
  ⟨["v"], [[.integer 9223372036854775807], [.integer 1], [.integer (-1)]]⟩

/-- The same integers, the greatest last. -/
def climb : Table :=
  ⟨["v"], [[.integer 1], [.integer (-1)], [.integer 9223372036854775807]]⟩

theorem climb_reorders_peak : climb.Reorders peak :=
  ⟨rfl, @List.perm_append_comm Row [[.integer 1], [.integer (-1)]] [_]⟩

theorem climb_has_sum :
    ∃ n : Int64, n.toInt = (peak.integers "v").sum ∧ climb.sumOf "v" = .ok (.integer n) :=
  (sum_integers peak "v" (by decide) (by decide) (by decide)).1 climb climb_reorders_peak
    (by decide)

/-- The sum of all is in range and that of the first two is not, and an order of the rows has
another outcome. -/
theorem peak_overflows :
    "v" ∈ peak.columns ∧ peak.HoldsIntegers "v" ∧ peak.integers "v" ≠ [] ∧
      Fits (peak.integers "v").sum ∧ peak.sumOf "v" = .error (.overflow .sum) ∧
      ∃ u : Table, u.Reorders peak ∧ u.sumOf "v" ≠ peak.sumOf "v" := by
  refine ⟨by decide, by decide, by decide, by decide, by rfl, climb, climb_reorders_peak, ?_⟩
  show (.ok (.integer 9223372036854775807) : Outcome) ≠ .error (.overflow .sum)
  exact nofun

end TablePipeline
