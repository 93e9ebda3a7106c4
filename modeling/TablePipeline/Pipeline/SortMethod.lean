/-!
# Methods of sorting

A sort is given a comparison and asks nothing else about the elements, so what it does depends on
the outcomes of comparisons alone.  When these are the outcomes of an order, the result is settled:
elements come in order, and elements that compare as equal keep the order they had.  When they are
not, as on a column of numbers and texts, the result may be any arrangement of the elements, or none
at all, since a method may notice the contradiction and give up.  Which of these it is differs from
method to method and from length to length.  So the method is a parameter of everything that sorts,
and what is said of sorts holds for every method.

## Main definitions

* `SortMethod` — a way of sorting, with what every way of sorting guarantees
* `SortMethod.sort` — the elements of a list in the order that a method finds
* `SortMethod.standard` — a method that can be run
-/

namespace TablePipeline

/-- The element at one position is to come before that at another: it is less, or it compares as
equal and stood in front. -/
def ComesBefore {n : Nat} (cmp : Fin n → Fin n → Ordering) (i j : Fin n) : Prop :=
  cmp i j = .lt ∨ (cmp i j = .eq ∧ i < j)

instance decidableComesBefore {n : Nat} (cmp : Fin n → Fin n → Ordering) (i j : Fin n) :
    Decidable (ComesBefore cmp i j) :=
  inferInstanceAs (Decidable (_ ∨ (_ ∧ _)))

/-- A way of sorting.  It is told how many elements there are and what comparing the elements at any
two positions comes to, and finds the positions in their new order. -/
structure SortMethod where
  /-- The positions in their new order; none if the method gives up. -/
  arrange (n : Nat) (cmp : Fin n → Fin n → Ordering) : Option (List (Fin n))
  /-- No element is lost, and none is repeated. -/
  perm {n : Nat} {cmp : Fin n → Fin n → Ordering} {order : List (Fin n)}
    (h : arrange n cmp = some order) : order.Perm (List.finRange n)
  /-- The outcomes of an order are never given up on, and lead to a stable sort. -/
  stable {n : Nat} (cmp : Fin n → Fin n → Ordering) [Std.TransCmp cmp] :
    ∃ order, arrange n cmp = some order ∧ order.Pairwise (ComesBefore cmp)

namespace SortMethod

/-- The elements of a list in the order that the method finds, unless it gives up. -/
def sort {α : Type} (method : SortMethod) (cmp : α → α → Ordering) (l : List α) :
    Option (List α) :=
  let elements := l.toArray
  (method.arrange elements.size fun i j => cmp elements[i] elements[j]).map
    (·.map fun i => elements[i])

section Lists

variable {α β : Type} {method : SortMethod} {cmp : α → α → Ordering} {l out : List α}

/-- All elements, in the order of their positions. -/
theorem map_finRange (l : List α) :
    (List.finRange l.toArray.size).map (fun i => l.toArray[i]) = l :=
  List.map_ofFn.trans List.ofFn_getElem

/-- What is sorted is a permutation. -/
theorem perm_of_sort (h : method.sort cmp l = some out) : out.Perm l := by
  obtain ⟨order, horder, rfl⟩ := Option.map_eq_some_iff.1 h
  exact ((method.perm horder).map _).trans (.of_eq (map_finRange l))

/-- The number of elements may be written in another way. -/
theorem arrange_cast (method : SortMethod) {m n : Nat} (h : m = n)
    (cmp : Fin n → Fin n → Ordering) :
    method.arrange n cmp =
      (method.arrange m fun i j => cmp (i.cast h) (j.cast h)).map (·.map (Fin.cast h)) := by
  subst h
  simp

/-- **A sort sees comparisons only.**  Where a change of the elements leaves all comparisons as they
are, it may come before the sort or behind it, and the method gives up on both or on neither. -/
theorem sort_map {f : α → β} {cmp' : β → β → Ordering}
    (h : ∀ a ∈ l, ∀ b ∈ l, cmp' (f a) (f b) = cmp a b) :
    method.sort cmp' (l.map f) = (method.sort cmp l).map (List.map f) := by
  have hsize : l.toArray.size = (l.map f).toArray.size := (List.length_map f).symm
  have hcmp : (fun i j : Fin l.toArray.size =>
      cmp' (l.map f).toArray[i.cast hsize] (l.map f).toArray[j.cast hsize]) =
        fun i j => cmp l.toArray[i] l.toArray[j] := by
    funext i j
    simp [h]
  dsimp only [sort]
  rw [arrange_cast method hsize, hcmp, Option.map_map, Option.map_map]
  refine Option.map_congr fun order _ => ?_
  simp

end Lists

/-! ## Insertion -/

section Insertion

variable {α : Type} {cmp : α → α → Ordering} {a : α} {l : List α}

/-- Puts an element into a sorted list that is given from its end: the element goes past all
elements there that it is less than. -/
def insertBehind (cmp : α → α → Ordering) (a : α) : List α → List α
  | [] => [a]
  | b :: rest => if cmp a b = .lt then b :: insertBehind cmp a rest else a :: b :: rest

/-- Inserts one element after the other into those before it. -/
def insertAll (cmp : α → α → Ordering) (l : List α) : List α :=
  (l.foldl (fun sorted a => insertBehind cmp a sorted) []).reverse

theorem perm_insertBehind (cmp : α → α → Ordering) (a : α) (l : List α) :
    (insertBehind cmp a l).Perm (a :: l) := by
  fun_induction insertBehind cmp a l with
  | case1 => exact .rfl
  | case2 b rest _ ih => exact (ih.cons b).trans (.swap a b rest)
  | case3 => exact .rfl

theorem perm_foldl_insertBehind (cmp : α → α → Ordering) (l sorted : List α) :
    (l.foldl (fun sorted a => insertBehind cmp a sorted) sorted).Perm (l ++ sorted) := by
  induction l generalizing sorted with
  | nil => exact .rfl
  | cons a rest ih =>
    exact ((ih _).trans ((perm_insertBehind cmp a sorted).append_left rest)).trans
      List.perm_middle

theorem perm_insertAll (cmp : α → α → Ordering) (l : List α) : (insertAll cmp l).Perm l := by
  have h := perm_foldl_insertBehind cmp l []
  rw [List.append_nil] at h
  exact (List.reverse_perm _).trans h

end Insertion

/-! ## The order of positions -/

section Positions

variable {n : Nat} {cmp : Fin n → Fin n → Ordering} [Std.TransCmp cmp] {i j k : Fin n}
  {l sorted : List (Fin n)}

theorem comesBefore_trans (hij : ComesBefore cmp i j) (hjk : ComesBefore cmp j k) :
    ComesBefore cmp i k := by
  rcases hij with hij | ⟨hij, hlt⟩ <;> rcases hjk with hjk | ⟨hjk, hlt'⟩
  · exact .inl (Std.TransCmp.lt_trans hij hjk)
  · exact .inl (Std.TransCmp.lt_of_lt_of_eq hij hjk)
  · exact .inl (Std.TransCmp.lt_of_eq_of_lt hij hjk)
  · exact .inr ⟨Std.TransCmp.eq_trans hij hjk, Fin.lt_trans hlt hlt'⟩

/-- Of two positions the later one comes first only if it is less. -/
theorem comesBefore_of_ne_lt (hij : i < j) (h : cmp j i ≠ .lt) : ComesBefore cmp i j := by
  cases hji : cmp j i with
  | lt => exact absurd hji h
  | eq => exact .inr ⟨Std.OrientedCmp.eq_symm hji, hij⟩
  | gt => exact .inl (Std.OrientedCmp.gt_iff_lt.1 hji)

/-- Inserting a position behind all positions so far. -/
theorem pairwise_insertBehind (hl : l.Pairwise fun j i => ComesBefore cmp i j)
    (hk : ∀ i ∈ l, i < k) : (insertBehind cmp k l).Pairwise fun j i => ComesBefore cmp i j := by
  fun_induction insertBehind cmp k l with
  | case1 => exact List.pairwise_singleton _ _
  | case2 j rest hlt ih =>
    obtain ⟨hj, hrest⟩ := List.pairwise_cons.1 hl
    refine List.pairwise_cons.2 ⟨fun i hi => ?_, ih hrest fun i hi => hk i (.tail j hi)⟩
    rcases List.mem_cons.1 ((perm_insertBehind cmp k rest).mem_iff.1 hi) with rfl | hi
    · exact .inl hlt
    · exact hj i hi
  | case3 j rest hge =>
    have hj := comesBefore_of_ne_lt (hk j List.mem_cons_self) hge
    refine List.pairwise_cons.2 ⟨fun i hi => ?_, hl⟩
    rcases List.mem_cons.1 hi with rfl | hi
    · exact hj
    · exact comesBefore_trans ((List.pairwise_cons.1 hl).1 i hi) hj

theorem pairwise_foldl_insertBehind (hsorted : sorted.Pairwise fun j i => ComesBefore cmp i j)
    (hl : l.Pairwise (· < ·)) (hbehind : ∀ i ∈ sorted, ∀ j ∈ l, i < j) :
    (l.foldl (fun sorted j => insertBehind cmp j sorted) sorted).Pairwise
      fun j i => ComesBefore cmp i j := by
  induction l generalizing sorted with
  | nil => exact hsorted
  | cons k rest ih =>
    obtain ⟨hk, hrest⟩ := List.pairwise_cons.1 hl
    refine ih (pairwise_insertBehind hsorted fun i hi => hbehind i hi k List.mem_cons_self) hrest ?_
    intro i hi j hj
    rcases List.mem_cons.1 ((perm_insertBehind cmp k sorted).mem_iff.1 hi) with rfl | hi
    · exact hk j hj
    · exact hbehind i hi j (.tail k hj)

theorem pairwise_insertAll : (insertAll cmp (List.finRange n)).Pairwise (ComesBefore cmp) :=
  List.pairwise_reverse.2
    (pairwise_foldl_insertBehind .nil (List.pairwise_lt_finRange n) nofun)

end Positions

/-! ## Merging -/

section Merging

variable {n : Nat} {cmp : Fin n → Fin n → Ordering}

/-- Merges positions, where one position may stand in front of another unless that comes before
it. -/
def mergeAll (cmp : Fin n → Fin n → Ordering) : List (Fin n) :=
  (List.finRange n).mergeSort fun i j => i == j || decide (ComesBefore cmp i j)

theorem comesBefore_total (cmp : Fin n → Fin n → Ordering) [Std.TransCmp cmp] (i j : Fin n) :
    i = j ∨ ComesBefore cmp i j ∨ ComesBefore cmp j i := by
  cases hij : cmp i j with
  | lt => exact .inr (.inl (.inl hij))
  | gt => exact .inr (.inr (.inl (Std.OrientedCmp.gt_iff_lt.1 hij)))
  | eq =>
    rcases Nat.lt_trichotomy i j with hlt | heq | hlt
    · exact .inr (.inl (.inr ⟨hij, hlt⟩))
    · exact .inl (Fin.ext heq)
    · exact .inr (.inr (.inr ⟨Std.OrientedCmp.eq_symm hij, hlt⟩))

theorem pairwise_mergeAll [Std.TransCmp cmp] : (mergeAll cmp).Pairwise (ComesBefore cmp) := by
  have hne : (mergeAll cmp).Pairwise (· ≠ ·) :=
    (List.mergeSort_perm _ _).nodup_iff.2 (List.nodup_finRange n)
  refine (List.pairwise_mergeSort ?_ ?_ _).imp₂ (fun i j hle hne => ?_) hne
  · simp only [Bool.or_eq_true, beq_iff_eq, decide_eq_true_eq]
    rintro i j k (rfl | hij) (rfl | hjk)
    · exact .inl rfl
    · exact .inr hjk
    · exact .inr hij
    · exact .inr (comesBefore_trans hij hjk)
  · intro i j
    simp only [Bool.or_eq_true, beq_iff_eq, decide_eq_true_eq]
    rcases comesBefore_total cmp i j with h | h | h
    · exact .inl (.inl h)
    · exact .inl (.inr h)
    · exact .inr (.inr h)
  · simp only [Bool.or_eq_true, beq_iff_eq, decide_eq_true_eq] at hle
    exact hle.resolve_left hne

end Merging

/-! ## A method to run -/

/-- Short lists are sorted by insertion and longer ones by merging. -/
def standard : SortMethod where
  arrange n cmp := some (if n ≤ 20 then insertAll cmp (List.finRange n) else mergeAll cmp)
  perm h := by
    cases h
    split
    · exact perm_insertAll _ _
    · exact List.mergeSort_perm _ _
  stable cmp _ := by
    refine ⟨_, rfl, ?_⟩
    split
    · exact pairwise_insertAll
    · exact pairwise_mergeAll

end SortMethod

end TablePipeline
