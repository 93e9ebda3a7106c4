import Mathlib.Algebra.Order.BigOperators.Group.List
import Mathlib.Algebra.Order.Ring.Nat
import Mathlib.Data.List.Basic
import TablePipeline.Proofs.Number.WrittenDoubles
import TablePipeline.Value.Text

/-!
# Keys and the texts they are made of

Rows are told apart by their keys, and a key is made of the texts of cells with a separator between
them.  Two things may be lost on the way.  Different values may have the same text, as the integer
`1` and the text `1` have; values of one kind do not, as far as they are no tables.  And a text that
contains the separator itself may be cut elsewhere.  The separators of a key can be counted, so it
is enough that the texts on one side are free of them: those on the other side then are as well.

Doubles are compared here as they are stored.  The two zeros are told apart by their texts, as `0`
and `-0`, although they are equal as numbers; NaN has one text, although it is different from itself
as a number.

## Main definitions

* `Value.isNaN` — a value that is different from itself as a number
* `Value.Plain` — a value whose text does not contain the separator

## Main statements

* `floatText_inj` — doubles are told apart by their texts
* `Value.text_eq_iff` — values of one kind are told apart by their texts
* `splitOn_compositeKey` — a key is cut into its texts again
* `compositeKey_eq_iff`, `compositeKey_eq_iff_getElem` — keys are equal when the texts are
-/

namespace TablePipeline

/-! ### Texts of doubles -/

section Doubles

variable {x y : Float}

/-- The texts of doubles: a word for NaN, another one with a sign for the infinite doubles, and a
number for all others. -/
theorem floatText_cases (x : Float) :
    x.isNaN = true ∧ (floatText x).toList = ['N', 'a', 'N'] ∨
      (∃ sign, x.toModel.unpack = .infinity sign ∧ (x < 0 ↔ sign = .negative) ∧
        (floatText x).toList = (if x < 0 then ['-'] else []) ++ ['i', 'n', 'f']) ∨
      (floatText x).toList = displayStyle.write x := by
  rw [floatText]
  rcases hnan : x.isNaN with _ | _
  · rcases hfinite : x.isFinite with _ | _
    · obtain ⟨sign, hsign, hneg⟩ := exists_infinity hnan hfinite
      refine .inr (.inl ⟨sign, hsign, hneg, ?_⟩)
      by_cases h : x < 0 <;> simp [h]
    · simp
  · simp

/-- **Doubles are told apart by their texts**, as far as one of them is not NaN. -/
theorem floatText_inj (h : x.isNaN = false ∨ y.isNaN = false) :
    floatText x = floatText y ↔ x = y := by
  refine ⟨fun htext => ?_, fun hxy => congrArg floatText hxy⟩
  have hlist := congrArg String.toList htext
  have hnan : ∀ z, displayStyle.write z ≠ ['N', 'a', 'N'] := fun z =>
    displayStyle.write_ne_word z (.inl rfl) (by decide) rfl
  have hinf : ∀ z, ∀ w : Float,
      displayStyle.write z ≠ (if w < 0 then ['-'] else []) ++ ['i', 'n', 'f'] := fun z w =>
    displayStyle.write_ne_word z (ite_eq_or_eq _ _ _).symm (by decide) rfl
  rcases floatText_cases x with ⟨hx, hxt⟩ | ⟨sign, hx, hxneg, hxt⟩ | hxt <;>
    rcases floatText_cases y with ⟨hy, hyt⟩ | ⟨sign', hy, hyneg, hyt⟩ | hyt <;>
    rw [hxt, hyt] at hlist
  · rw [hx, hy] at h
    rcases h with h | h <;> cases h
  · split_ifs at hlist <;> cases hlist
  · exact absurd hlist.symm (hnan y)
  · split_ifs at hlist <;> cases hlist
  · have hsame : x < 0 ↔ y < 0 := by
      split_ifs at hlist with hx hy hy
      · exact iff_of_true hx hy
      · cases hlist
      · cases hlist
      · exact iff_of_false hx hy
    obtain rfl : sign = sign' := by
      rw [hxneg, hyneg] at hsame
      cases sign <;> cases sign' <;> simp_all
    exact eq_of_unpack_eq (hx.trans hy.symm)
  · exact absurd hlist.symm (hinf y x)
  · exact absurd hlist (hnan x)
  · exact absurd hlist (hinf x y)
  · exact displayStyle.write_inj.1 hlist

end Doubles

/-! ### Texts of values -/

namespace Value

variable {a b : Value}

/-- The text of the value does not contain the separator of keys. -/
def Plain (v : Value) : Prop :=
  '\x00' ∉ v.text.toList

theorem integer_text_inj {m n : Int64} : (integer m).text = (integer n).text ↔ m = n := by
  constructor
  · intro h
    simp only [text, String.ofList_inj] at h
    have hread := readInteger?_integerText m
    rw [h, readInteger?_integerText] at hread
    exact (Option.some_inj.1 hread).symm
  · rintro rfl
    rfl

/-- The value is the double that is different from itself. -/
def isNaN : Value → Bool
  | .float x => x.isNaN
  | _ => false

/-- **Values of one kind are told apart by their texts**, as far as they are no tables and not both
NaN. -/
theorem text_eq_iff (hkind : a.kind = b.kind) (htable : a.kind ≠ .table)
    (hnan : a.isNaN = false ∨ b.isNaN = false) : a.text = b.text ↔ a = b := by
  cases a <;> cases b <;> cases hkind
  case null => simp
  case boolean p q => cases p <;> cases q <;> simp [text]
  case integer m n => rw [integer_text_inj, integer.injEq]
  case float x y => rw [text, text, floatText_inj hnan, float.injEq]
  case string s t => simp [text]
  case nested => exact absurd rfl htable

end Value

/-! ### Keys -/

section Keys

variable {xs ys : List Value}

/-- The separators of a joined list: those that join it and those of its parts. -/
theorem count_intercalate (c : Char) (ls : List (List Char)) (h : ls ≠ []) :
    ([c].intercalate ls).count c + 1 = ls.length + (ls.map (List.count c)).sum := by
  induction ls with
  | nil => exact absurd rfl h
  | cons l ls ih =>
    by_cases hls : ls = []
    · simp [hls, Nat.add_comm]
    · have hrest := ih hls
      rw [List.intercalate_cons_of_ne_nil hls, List.count_append, List.count_append,
        List.count_singleton_self, List.length_cons, List.map_cons, List.sum_cons]
      omega

theorem toList_compositeKey (xs : List Value) :
    (compositeKey xs).toList = ['\x00'].intercalate (xs.map fun v => v.text.toList) := by
  rw [compositeKey, String.toList_intercalate, List.map_map]
  rfl

/-- A key with as many separators as texts need has no further ones. -/
theorem plain_of_compositeKey_eq (hlength : xs.length = ys.length) (hxs : ∀ v ∈ xs, v.Plain)
    (h : compositeKey xs = compositeKey ys) : ∀ v ∈ ys, v.Plain := by
  by_cases hnil : ys = []
  · simp [hnil]
  · have hnil' : xs ≠ [] := by
      rintro rfl
      exact hnil (List.length_eq_zero_iff.1 hlength.symm)
    have hcount := count_intercalate '\x00' (ys.map fun v => v.text.toList) (by simpa)
    have hcount' := count_intercalate '\x00' (xs.map fun v => v.text.toList) (by simpa)
    have hzero : ((xs.map fun v => v.text.toList).map (List.count '\x00')).sum = 0 := by
      rw [List.sum_eq_zero_iff]
      intro n hn
      obtain ⟨l, hl, rfl⟩ := List.mem_map.1 hn
      obtain ⟨v, hv, rfl⟩ := List.mem_map.1 hl
      exact List.count_eq_zero.2 (hxs v hv)
    rw [← toList_compositeKey, ← h, List.length_map] at hcount
    rw [← toList_compositeKey, List.length_map, hzero] at hcount'
    have hsum : ((ys.map fun v => v.text.toList).map (List.count '\x00')).sum = 0 := by omega
    intro v hv
    rw [List.sum_eq_zero_iff] at hsum
    exact List.count_eq_zero.1 (hsum _ (List.mem_map_of_mem (List.mem_map_of_mem hv)))

/-- The key of texts without separators is cut at its separators into these texts again. -/
theorem splitOn_compositeKey (hne : xs ≠ []) (hplain : ∀ v ∈ xs, v.Plain) :
    (compositeKey xs).toList.splitOn '\x00' = xs.map fun v => v.text.toList := by
  rw [toList_compositeKey]
  refine List.splitOn_intercalate _ ?_ (by simpa)
  intro l hl
  obtain ⟨v, hv, rfl⟩ := List.mem_map.1 hl
  exact hplain v hv

/-- **Keys are equal when the texts are**, provided that the key is that of one value or that the
texts on one side do not contain the separator. -/
theorem compositeKey_eq_iff (hlength : xs.length = ys.length)
    (hplain : xs.length = 1 ∨ ∀ v ∈ xs, v.Plain) :
    compositeKey xs = compositeKey ys ↔ xs.map Value.text = ys.map Value.text := by
  constructor
  · intro h
    rcases hplain with hone | hxs
    · obtain ⟨x, rfl⟩ := List.length_eq_one_iff.1 hone
      obtain ⟨y, rfl⟩ := List.length_eq_one_iff.1 (hlength.symm.trans hone)
      simpa [compositeKey] using h
    · have hys := plain_of_compositeKey_eq hlength hxs h
      by_cases hnil : xs = []
      · rw [hnil, List.length_nil] at hlength
        rw [hnil, List.length_eq_zero_iff.1 hlength.symm]
      · have hnil' : ys ≠ [] := by
          rintro rfl
          exact hnil (List.length_eq_zero_iff.1 hlength)
        have htexts := (splitOn_compositeKey hnil hxs).symm.trans
          (h ▸ splitOn_compositeKey hnil' hys)
        have hlists := congrArg (List.map String.ofList) htexts
        simpa [List.map_map, Function.comp_def] using hlists
  · intro h
    rw [compositeKey, compositeKey, h]

/-- **The separator keeps the parts of a key apart.**  Keys of equally many values whose texts do
not contain the separator are equal exactly if the texts are, value by value.  It is enough to know
of one of the two lists that its texts do not contain the separator. -/
theorem compositeKey_eq_iff_getElem (hlength : xs.length = ys.length)
    (hplain : ∀ v ∈ xs, v.Plain) :
    compositeKey xs = compositeKey ys ↔
      ∀ i (hx : i < xs.length) (hy : i < ys.length), xs[i].text = ys[i].text := by
  rw [compositeKey_eq_iff hlength (Or.inr hplain)]
  constructor
  · intro htexts i hx hy
    have hi := congrArg (fun texts : List String => texts[i]?) htexts
    simpa [hx, hy] using hi
  · intro htexts
    refine List.ext_getElem (by simpa) fun i hx hy => ?_
    rw [List.getElem_map, List.getElem_map]
    exact htexts i _ _

end Keys

/-- Parts that are empty, a table and the text of this table: the keys are equal, and they are no
longer if a letter moves from one part to the next. -/
theorem compositeKey_eq_iff_getElem_shifted :
    let t : Table := ⟨["a"], [[.integer 1]]⟩
    let xs : List Value := [.string "", .string "ab", .nested t]
    let ys : List Value := [.string "", .string "ab", .string "[\x7ba:1\x7d]"]
    let zs : List Value := [.string "a", .string "b", .nested t]
    xs.length = ys.length ∧ xs.length = zs.length ∧ (∀ v ∈ xs, v.Plain) ∧
      compositeKey xs = compositeKey ys ∧ compositeKey xs ≠ compositeKey zs := by
  intro t xs ys zs
  have hplain : ∀ v ∈ xs, v.Plain := by
    unfold Value.Plain
    decide
  have hkeys : compositeKey xs = compositeKey ys :=
    (compositeKey_eq_iff_getElem (by decide) hplain).2 (by decide)
  refine ⟨by decide, by decide, hplain, hkeys, fun hshifted => ?_⟩
  have htexts := (compositeKey_eq_iff_getElem (by decide) hplain).1 hshifted
  exact absurd (htexts 0 (by decide) (by decide)) (by decide)

end TablePipeline
