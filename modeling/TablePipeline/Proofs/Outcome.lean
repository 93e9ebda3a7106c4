import Mathlib.Data.List.Forall2
import TablePipeline.Pipeline.Error

/-!
# Outcomes

Stages, loaders and expressions are computations in `Except`.  This file says when such a
computation succeeds, one equivalence for each way of putting computations together: in sequence,
under another name for the error, and along a list.  Later files take a successful run apart with
these and never unfold `Except`.  Computations in sequence and along a list also have their errors
described: the first one is that of the whole.

## Main statements

* `bind_eq_ok_iff`, `map_eq_ok_iff` — one computation after the other
* `mapError_eq_ok_iff`, `ofSchema_eq_ok_iff`, `ofEval_eq_ok_iff` — errors under another name
* `mapM_eq_ok_iff` — a computation for each element of a list
* `mapM_eq_ok_iff_map` — the same, where the results are known beforehand
* `map_mapM_map` — the same computation along two lists
* `bind_eq_error_iff`, `mapError_eq_error_iff`, `mapM_eq_error_iff` — the error of the whole
-/

namespace TablePipeline

variable {ε δ α β : Type}

/-! ### Success -/

/-- Two computations in sequence succeed exactly when the first does and the second does on its
result. -/
theorem bind_eq_ok_iff {x : Except ε α} {f : α → Except ε β} {b : β} :
    x >>= f = .ok b ↔ ∃ a, x = .ok a ∧ f a = .ok b := by
  cases x with
  | error e =>
    constructor
    · intro h
      cases h
    · rintro ⟨a, h, -⟩
      cases h
  | ok a =>
    constructor
    · intro h
      exact ⟨a, rfl, h⟩
    · rintro ⟨a', h, hb⟩
      cases h
      exact hb

theorem pure_eq_ok_iff {a b : α} : (pure a : Except ε α) = .ok b ↔ a = b :=
  ⟨fun h => Except.ok.inj h, congrArg Except.ok⟩

/-- What is made of a result is made of a success. -/
theorem map_eq_ok_iff {x : Except ε α} {f : α → β} {b : β} :
    x.map f = .ok b ↔ ∃ a, x = .ok a ∧ f a = b := by
  cases x with
  | error e => simp [Except.map]
  | ok a => simp [Except.map]

/-- Another name for the error leaves a success as it is. -/
theorem mapError_eq_ok_iff {x : Except ε α} {g : ε → δ} {a : α} :
    x.mapError g = .ok a ↔ x = .ok a := by
  cases x with
  | error e => simp [Except.mapError]
  | ok b => simp [Except.mapError]

theorem ofSchema_eq_ok_iff {label : StageLabel} {x : Except SchemaError α} {a : α} :
    label.ofSchema x = .ok a ↔ x = .ok a :=
  mapError_eq_ok_iff

theorem ofEval_eq_ok_iff {label : StageLabel} {x : Except EvalError α} {a : α} :
    label.ofEval x = .ok a ↔ x = .ok a :=
  mapError_eq_ok_iff

/-- A computation along a list succeeds exactly when it does on each element, and then the results
stand in the order of the elements. -/
theorem mapM_eq_ok_iff {f : α → Except ε β} {l : List α} {r : List β} :
    l.mapM f = .ok r ↔ List.Forall₂ (fun a b => f a = .ok b) l r := by
  induction l generalizing r with
  | nil =>
    rw [List.mapM_nil, pure_eq_ok_iff, List.forall₂_nil_left_iff, eq_comm]
  | cons a l ih =>
    rw [List.mapM_cons, bind_eq_ok_iff, List.forall₂_cons_left_iff]
    constructor
    · rintro ⟨b, hb, h⟩
      obtain ⟨bs, hbs, h⟩ := bind_eq_ok_iff.1 h
      exact ⟨b, bs, hb, ih.1 hbs, (pure_eq_ok_iff.1 h).symm⟩
    · rintro ⟨b, bs, hb, hbs, rfl⟩
      exact ⟨b, hb, bind_eq_ok_iff.2 ⟨bs, ih.2 hbs, rfl⟩⟩

/-- Where a computation can only have the results of a function, it succeeds along a list exactly
when it does on each element, with the results of that function. -/
theorem mapM_eq_ok_iff_map {f : α → Except ε β} {g : α → β} (hg : ∀ a b, f a = .ok b → g a = b)
    {l : List α} {r : List β} :
    l.mapM f = .ok r ↔ (∀ a ∈ l, ∃ b, f a = .ok b) ∧ l.map g = r := by
  rw [mapM_eq_ok_iff]
  induction l generalizing r with
  | nil => simp [eq_comm]
  | cons a l ih =>
    rw [List.forall₂_cons_left_iff, List.forall_mem_cons, List.map_cons]
    constructor
    · rintro ⟨b, bs, hb, hbs, rfl⟩
      obtain ⟨hall, hmap⟩ := ih.1 hbs
      exact ⟨⟨⟨b, hb⟩, hall⟩, congrArg₂ List.cons (hg a b hb) hmap⟩
    · rintro ⟨⟨⟨b, hb⟩, hall⟩, rfl⟩
      exact ⟨g a, l.map g, hg a b hb ▸ hb, ih.2 ⟨hall, rfl⟩, rfl⟩

/-- Every result of a computation along a list is the result on some element. -/
theorem exists_of_mem_of_mapM_eq_ok {f : α → Except ε β} {l : List α} {r : List β}
    (h : l.mapM f = .ok r) {b : β} (hb : b ∈ r) : ∃ a ∈ l, f a = .ok b := by
  have hall := mapM_eq_ok_iff.1 h
  clear h
  induction hall with
  | nil => cases hb
  | @cons a b' l r hab _ ih =>
    rcases List.mem_cons.1 hb with rfl | hb
    · exact ⟨a, List.mem_cons_self, hab⟩
    · obtain ⟨a', ha', hab'⟩ := ih hb
      exact ⟨a', List.mem_cons_of_mem _ ha', hab'⟩

/-- Along a list, what is shown of the results depends on what is shown of each result. -/
theorem map_mapM_map {γ : Type} {g : α → Except ε β} {p : β → γ} {f : α → α} {l : List α}
    (h : ∀ a ∈ l, (g (f a)).map p = (g a).map p) :
    ((l.map f).mapM g).map (List.map p) = (l.mapM g).map (List.map p) := by
  induction l with
  | nil => rfl
  | cons a l ih =>
    have hrest := ih fun b hb => h b (List.mem_cons_of_mem a hb)
    have hfirst := h a List.mem_cons_self
    rw [List.map_cons, List.mapM_cons, List.mapM_cons]
    cases hfa : g (f a) <;> cases ha : g a <;> rw [hfa, ha] at hfirst <;>
      simp only [Except.map, reduceCtorEq, Except.error.injEq, Except.ok.injEq] at hfirst
    · rw [hfirst]
      rfl
    · cases hl : (l.map f).mapM g <;> cases hl' : l.mapM g <;> rw [hl, hl'] at hrest <;>
        simp only [Except.map, reduceCtorEq, Except.error.injEq, Except.ok.injEq] at hrest
      · rw [hrest]
        rfl
      · exact congrArg Except.ok (congrArg₂ List.cons hfirst hrest)

/-! ### The first failure -/

theorem bind_eq_error_iff {x : Except ε α} {f : α → Except ε β} {e : ε} :
    x >>= f = .error e ↔ x = .error e ∨ ∃ a, x = .ok a ∧ f a = .error e := by
  cases x with
  | error e' =>
    show (Except.error e' : Except ε β) = .error e ↔ _
    simp
  | ok a =>
    show f a = .error e ↔ _
    simp

/-- Another name for the error is a name for the same failures. -/
theorem mapError_eq_error_iff {x : Except ε α} {g : ε → δ} {d : δ} :
    x.mapError g = .error d ↔ ∃ e, x = .error e ∧ g e = d := by
  cases x with
  | error e => simp [Except.mapError]
  | ok a => simp [Except.mapError]

theorem ofEval_eq_error_iff {label : StageLabel} {x : Except EvalError α} {e : StageError} :
    label.ofEval x = .error e ↔ ∃ fault, x = .error fault ∧ .eval label fault = e :=
  mapError_eq_error_iff

/-- What always succeeds adds no error. -/
theorem bind_pure_eq_error_iff {x : Except ε α} {f : α → β} {e : ε} :
    (x >>= fun a => pure (f a)) = .error e ↔ x = .error e := by
  rw [bind_eq_error_iff, or_iff_left]
  rintro ⟨a, -, h⟩
  cases h

theorem exists_error_iff {x : Except ε α} : (∃ e, x = .error e) ↔ ¬∃ a, x = .ok a := by
  cases x with
  | error e => exact ⟨fun _ => nofun, fun _ => ⟨e, rfl⟩⟩
  | ok a => exact ⟨nofun, fun h => absurd ⟨a, rfl⟩ h⟩

/-- A computation along a list has the first of the errors on its elements, where each element may
have several of which only the first one shows. -/
theorem mapM_eq_error_iff {f : α → Except ε β} {failures : α → List ε}
    (hf : ∀ a e, f a = .error e ↔ (failures a).head? = some e) {l : List α} {e : ε} :
    l.mapM f = .error e ↔ (l.flatMap failures).head? = some e := by
  induction l with
  | nil =>
    rw [List.mapM_nil]
    exact iff_of_false nofun nofun
  | cons a l ih =>
    rw [List.mapM_cons, List.flatMap_cons, List.head?_append]
    cases ha : f a with
    | error e' =>
      rw [(hf a e').1 ha, Option.some_or, Option.some_inj]
      exact ⟨fun h => Except.error.inj h, congrArg Except.error⟩
    | ok b =>
      have hnone : (failures a).head? = none := by
        rw [Option.eq_none_iff_forall_ne_some]
        intro e' he'
        rw [(hf a e').2 he'] at ha
        cases ha
      rw [hnone, Option.none_or, ← ih]
      exact bind_pure_eq_error_iff

end TablePipeline
