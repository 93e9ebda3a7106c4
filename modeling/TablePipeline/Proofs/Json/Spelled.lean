import Mathlib.Data.List.TakeWhile
import Mathlib.Tactic.SplitIfs
import TablePipeline.Proofs.Json.Grammar

/-!
# Nothing but JSON is read

What a rule of the reader takes from the front of a text is a text that the grammar has for what it
gives back (`Recognizes`).  This goes through the rules as they call each other: strings and lists
by recursion over what is left of the text, values by induction on the depth.  The white space that
is skipped between the parts is the white space that the grammar lets stand there (`exists_gap`).

With the other direction, that all texts of values are read, whole texts are read exactly as the
grammar has them (`JsonValue.read?_eq_some_iff`).

## Main definitions

* `Recognizes` — a rule takes texts of what it gives back, and no others

## Main statements

* `recognizes_readJsonValue` — values
* `JsonValue.read?_eq_some_iff` — whole texts
-/

namespace TablePipeline

/-- What a rule takes from the front of a text is a text of what it gives back. -/
def Recognizes {α : Type} (rule : JsonRule α) (spells : α → List Char → Prop) : Prop :=
  ∀ a cs rest, Takes rule a cs rest → ∃ u, cs = u ++ rest ∧ spells a u

/-- What is dropped from the front of a text is white space. -/
theorem exists_gap (cs : List Char) : ∃ gap, IsGap gap ∧ cs = gap ++ dropJsonBlanks cs :=
  ⟨cs.takeWhile isJsonBlank, fun _ => List.mem_takeWhile_imp, List.takeWhile_append_dropWhile.symm⟩

/-- What a rule gives back is changed by the rule that calls it, and the rest is not. -/
theorem exists_takes_of_map {α β : Type} {rule : JsonRule α} {f : α → β} {cs ds rest : List Char}
    {b : β} {hlt : rest.length < cs.length} {hle : Taken α ds → ds.length ≤ cs.length}
    (h : ((rule ds).map fun t => (t.map f).within (hle t)) = some ⟨b, rest, hlt⟩) :
    ∃ a, b = f a ∧ Takes rule a ds rest := by
  obtain ⟨⟨a, es, hes⟩, ha, h⟩ := Option.map_eq_some_iff.1 h
  cases h
  exact ⟨a, rfl, hes, ha⟩

theorem eq_cons_of_takeMark {c : Char} {cs rest : List Char} (h : Takes (takeMark c) () cs rest) :
    cs = c :: rest := by
  obtain ⟨hlt, h⟩ := h
  cases cs with
  | nil => cases h
  | cons d ds =>
    rw [takeMark] at h
    split_ifs at h with hd
    cases h
    rw [hd]

/-! ### Strings -/

section Strings

theorem recognizes_takeFourHex : Recognizes takeFourHex SpellsCode := by
  rintro n cs rest ⟨hlt, h⟩
  unfold takeFourHex at h
  split at h
  · obtain ⟨i, hi, h⟩ := Option.bind_eq_some_iff.1 h
    obtain ⟨j, hj, h⟩ := Option.bind_eq_some_iff.1 h
    obtain ⟨k, hk, h⟩ := Option.bind_eq_some_iff.1 h
    obtain ⟨l, hl, h⟩ := Option.bind_eq_some_iff.1 h
    cases h
    exact ⟨_, rfl, .intro hi hj hk hl⟩
  · cases h

/-- A code behind its letter is an escape, alone or with its partner. -/
theorem recognizes_takeCodeEscape :
    Recognizes takeCodeEscape fun c u => SpellsEscape c ('u' :: u) := by
  rintro c cs rest ⟨hlt, h⟩
  obtain ⟨⟨n, ds, hds⟩, hn, h⟩ := Option.bind_eq_some_iff.1 h
  obtain ⟨u, rfl, hcode⟩ := recognizes_takeFourHex n cs ds ⟨hds, hn⟩
  split_ifs at h with htrailing hleading
  · obtain ⟨⟨_, es, hes⟩, hslash, h⟩ := Option.bind_eq_some_iff.1 h
    obtain rfl := eq_cons_of_takeMark ⟨hes, hslash⟩
    obtain ⟨⟨_, fs, hfs⟩, hletter, h⟩ := Option.bind_eq_some_iff.1 h
    obtain rfl := eq_cons_of_takeMark ⟨hfs, hletter⟩
    obtain ⟨⟨m, gs, hgs⟩, hm, h⟩ := Option.bind_eq_some_iff.1 h
    obtain ⟨v, rfl, hpartner⟩ := recognizes_takeFourHex m fs gs ⟨hgs, hm⟩
    split_ifs at h with hsecond
    simp only [Option.pure_def, Option.some_inj, Taken.mk.injEq] at h
    obtain ⟨rfl, rfl⟩ := h
    refine ⟨u ++ '\\' :: 'u' :: v, ?_, .pair hcode hpartner hleading hsecond⟩
    simp only [List.append_assoc, List.cons_append]
  · cases h
    exact ⟨u, rfl, .code hcode (by simpa using htrailing) (by simpa using hleading)⟩

theorem recognizes_takeEscape : Recognizes takeEscape SpellsEscape := by
  rintro c cs rest ⟨hlt, h⟩
  cases cs with
  | nil => cases h
  | cons letter cs =>
    rw [takeEscape] at h
    split_ifs at h with hletter
    · obtain ⟨⟨e, ds, hds⟩, he, h⟩ := Option.map_eq_some_iff.1 h
      obtain ⟨u, rfl, hescape⟩ := recognizes_takeCodeEscape e cs ds ⟨hds, he⟩
      cases h
      rw [hletter]
      exact ⟨'u' :: u, rfl, hescape⟩
    · obtain ⟨e, he, h⟩ := Option.map_eq_some_iff.1 h
      cases h
      exact ⟨[letter], rfl, .short he⟩

/-- A string is taken with its closing quote. -/
theorem spells_of_readJsonString {s cs rest : List Char} (h : Takes readJsonString s cs rest) :
    ∃ u, cs = u ++ '"' :: rest ∧ SpellsString s u := by
  obtain ⟨hlt, h⟩ := h
  fun_induction readJsonString cs generalizing s rest with
  | case1 => cases h
  | case2 =>
    cases h
    exact ⟨[], rfl, .nil⟩
  | case3 => cases h
  | case4 cs e he _ _ ih =>
    obtain ⟨c, ds, hds⟩ := e
    obtain ⟨u, rfl, hescape⟩ := recognizes_takeEscape c cs ds ⟨hds, he⟩
    obtain ⟨s, rfl, hes, hs⟩ := exists_takes_of_map h
    obtain ⟨v, rfl, hmore⟩ := ih hes hs
    refine ⟨'\\' :: (u ++ v), ?_, .escape hescape hmore⟩
    simp only [List.append_assoc, List.cons_append]
  | case5 => cases h
  | case6 c cs hquote hslash hcode ih =>
    obtain ⟨s, rfl, hes, hs⟩ := exists_takes_of_map h
    obtain ⟨u, rfl, hmore⟩ := ih hes hs
    exact ⟨c :: u, rfl, .plain hquote hslash hcode hmore⟩

end Strings

/-! ### Numbers -/

section Numbers

variable {digits cs rest : List Char}

theorem isDigits_of_takeDigits (h : Takes takeDigits digits cs rest) :
    cs = digits ++ rest ∧ IsDigits digits := by
  obtain ⟨hlt, h⟩ := h
  cases cs with
  | nil => cases h
  | cons c cs =>
    rw [takeDigits] at h
    split_ifs at h with hc
    cases h
    refine ⟨?_, List.cons_ne_nil _ _, ?_⟩
    · rw [List.cons_append, List.takeWhile_append_dropWhile]
    · exact List.forall_mem_cons.2 ⟨hc, fun d => List.mem_takeWhile_imp⟩

theorem isWhole_of_takeWhole (h : Takes takeWhole digits cs rest) :
    cs = digits ++ rest ∧ IsWhole digits := by
  obtain ⟨hlt, h⟩ := h
  obtain ⟨⟨ds, es, hes⟩, hdigits, h⟩ := Option.bind_eq_some_iff.1 h
  obtain ⟨hcs, hvalue⟩ := isDigits_of_takeDigits ⟨hes, hdigits⟩
  split at h
  · cases h
  · rename_i hzeros
    cases h
    refine ⟨hcs, hvalue, fun hzero => ?_⟩
    obtain ⟨more, rfl⟩ := List.head?_eq_some_iff.1 hzero
    cases more with
    | nil => rfl
    | cons d more => exact absurd rfl (hzeros d more)

theorem isFraction_of_splitFraction {fraction : List Char}
    (h : splitFraction cs = some (fraction, rest)) :
    cs = fraction ++ rest ∧ IsFraction fraction := by
  rw [splitFraction] at h
  split at h
  · cases h
    exact ⟨rfl, .none⟩
  · rename_i point hpoint
    obtain ⟨_, ds, hds⟩ := point
    obtain rfl := eq_cons_of_takeMark ⟨hds, hpoint⟩
    obtain ⟨⟨digits, es, hes⟩, hdigits, h⟩ := Option.map_eq_some_iff.1 h
    obtain ⟨rfl, hvalue⟩ := isDigits_of_takeDigits ⟨hes, hdigits⟩
    cases h
    exact ⟨rfl, .digits hvalue⟩

/-- Either there is a sign, or nothing is taken. -/
theorem eq_of_splitExponentSign {sign : Char} (h : splitExponentSign cs = (sign, rest)) :
    (sign = '+' ∨ sign = '-') ∧ cs = sign :: rest ∨ sign = '+' ∧ cs = rest := by
  unfold splitExponentSign at h
  split at h
  · cases h
    exact .inl ⟨.inl rfl, rfl⟩
  · cases h
    exact .inl ⟨.inr rfl, rfl⟩
  · cases h
    exact .inr ⟨rfl, rfl⟩

theorem spells_of_splitExponent {kept : List Char} (h : splitExponent cs = some (kept, rest)) :
    ∃ u, cs = u ++ rest ∧ SpellsExponent kept u := by
  cases cs with
  | nil =>
    cases h
    exact ⟨[], rfl, .none⟩
  | cons c cs =>
    rw [splitExponent] at h
    split_ifs at h with hletter
    · obtain ⟨⟨digits, es, hes⟩, hdigits, h⟩ := Option.map_eq_some_iff.1 h
      obtain ⟨htext, hvalue⟩ := isDigits_of_takeDigits ⟨hes, hdigits⟩
      cases h
      rcases eq_of_splitExponentSign (Prod.eta (splitExponentSign cs)).symm with
        ⟨hsign, hcs⟩ | ⟨hsign, hcs⟩
      · refine ⟨c :: (splitExponentSign cs).1 :: digits, ?_, .signed hletter hsign hvalue⟩
        rw [List.cons_append, List.cons_append, ← htext, ← hcs]
      · refine ⟨c :: digits, ?_, hsign ▸ .plain hletter hvalue⟩
        rw [List.cons_append, ← htext, ← hcs]
    · cases h
      exact ⟨[], rfl, .none⟩

theorem recognizes_readMagnitude : Recognizes readMagnitude SpellsMagnitude := by
  rintro n cs rest ⟨hlt, h⟩
  unfold readMagnitude at h
  split at h
  · cases h
  · rename_i whole hwhole
    obtain ⟨whole, ds, hds⟩ := whole
    obtain ⟨rfl, hisWhole⟩ := isWhole_of_takeWhole ⟨hds, hwhole⟩
    split at h
    · cases h
    · rename_i fraction es hfraction
      obtain ⟨rfl, hisFraction⟩ := isFraction_of_splitFraction hfraction
      split at h
      · cases h
      · rename_i exponent fs hexponent
        obtain ⟨u, rfl, hspells⟩ := spells_of_splitExponent hexponent
        cases h
        refine ⟨whole ++ fraction ++ u, ?_, .intro hisWhole hisFraction hspells⟩
        simp only [List.append_assoc]

theorem recognizes_readJsonNumber : Recognizes readJsonNumber SpellsNumber := by
  rintro n cs rest ⟨hlt, h⟩
  rw [readJsonNumber] at h
  split at h
  · obtain ⟨u, hu, hmagnitude⟩ := recognizes_readMagnitude n cs rest ⟨hlt, h⟩
    exact ⟨u, hu, .plain hmagnitude⟩
  · rename_i sign hsign
    obtain ⟨_, ds, hds⟩ := sign
    obtain rfl := eq_cons_of_takeMark ⟨hds, hsign⟩
    obtain ⟨n, rfl, hn⟩ := exists_takes_of_map h
    obtain ⟨u, rfl, hmagnitude⟩ := recognizes_readMagnitude n ds rest hn
    exact ⟨'-' :: u, rfl, .negative hmagnitude⟩

end Numbers

/-! ### Values -/

section Values

variable {α : Type} {item : JsonRule α} {spells : α → List Char → Prop} {closing : Char}
  {as : List α} {cs rest : List Char} {v : JsonValue}

theorem eq_append_of_takeWord {a b : α} {word : List Char} (h : Takes (takeWord word a) b cs rest) :
    cs = word ++ rest ∧ b = a := by
  obtain ⟨hlt, h⟩ := h
  rw [takeWord] at h
  split_ifs at h with hword
  cases h
  exact ⟨(List.prefix_iff_eq_append.1 (List.isPrefixOf_iff_prefix.1 hword.1)).symm, rfl⟩

theorem recognizes_readScalar : Recognizes readScalar SpellsScalar := by
  rintro v cs rest ⟨hlt, h⟩
  rw [readScalar] at h
  split at h
  · rename_i quote hquote
    obtain ⟨_, ds, hds⟩ := quote
    obtain rfl := eq_cons_of_takeMark ⟨hds, hquote⟩
    obtain ⟨s, rfl, hs⟩ := exists_takes_of_map h
    obtain ⟨u, rfl, hbody⟩ := spells_of_readJsonString hs
    refine ⟨'"' :: (u ++ ['"']), ?_, .string hbody⟩
    simp only [List.cons_append, List.append_assoc, List.nil_append]
  · simp only [Option.or_eq_some_iff] at h
    rcases h with h | ⟨-, h | ⟨-, h | ⟨-, h⟩⟩⟩
    · obtain ⟨hcs, rfl⟩ := eq_append_of_takeWord ⟨hlt, h⟩
      exact ⟨_, hcs, .nullWord⟩
    · obtain ⟨hcs, rfl⟩ := eq_append_of_takeWord ⟨hlt, h⟩
      exact ⟨_, hcs, .trueWord⟩
    · obtain ⟨hcs, rfl⟩ := eq_append_of_takeWord ⟨hlt, h⟩
      exact ⟨_, hcs, .falseWord⟩
    · obtain ⟨⟨n, es, hes⟩, hn, h⟩ := Option.map_eq_some_iff.1 h
      obtain ⟨u, hu, hnumber⟩ := recognizes_readJsonNumber n cs es ⟨hes, hn⟩
      cases h
      exact ⟨u, hu, .number hnumber⟩

/-- Items are taken with the closing bracket behind them. -/
theorem spells_of_readList (hitem : Recognizes item spells)
    (h : Takes (readList item closing) as cs rest) :
    ∃ u, cs = u ++ closing :: rest ∧ SpellsList spells as u := by
  obtain ⟨hlt, h⟩ := h
  fun_induction readList item closing cs generalizing as rest with
  | case1 => cases h
  | case2 cs first hfirst _ _ mark hmark =>
    obtain ⟨a, ds, hds⟩ := first
    obtain ⟨_, es, hes⟩ := mark
    simp only [Option.some_inj, Taken.mk.injEq] at h
    obtain ⟨rfl, rfl⟩ := h
    obtain ⟨gap, hgap, hcs⟩ := exists_gap cs
    obtain ⟨u, hu, hspells⟩ := hitem a _ ds ⟨hds, hfirst⟩
    obtain ⟨gapEnd, hgapEnd, hrest⟩ := exists_gap ds
    refine ⟨gap ++ (u ++ gapEnd), ?_, .last hgap hspells hgapEnd⟩
    rw [eq_cons_of_takeMark ⟨hes, hmark⟩] at hrest
    rw [hcs, hu, hrest]
    simp only [List.append_assoc]
  | case3 => cases h
  | case4 cs first hfirst _ _ _ comma hcomma _ ih =>
    obtain ⟨a, ds, hds⟩ := first
    obtain ⟨_, es, hes⟩ := comma
    obtain ⟨as, rfl, hfs, hmore⟩ := exists_takes_of_map h
    obtain ⟨gap, hgap, hcs⟩ := exists_gap cs
    obtain ⟨u, hu, hspells⟩ := hitem a _ ds ⟨hds, hfirst⟩
    obtain ⟨gapEnd, hgapEnd, hrest⟩ := exists_gap ds
    obtain ⟨w, rfl, hlist⟩ := ih hfs hmore
    refine ⟨gap ++ (u ++ (gapEnd ++ ',' :: w)), ?_, .more hgap hspells hgapEnd hlist⟩
    rw [eq_cons_of_takeMark ⟨hes, hcomma⟩] at hrest
    rw [hcs, hu, hrest]
    simp only [List.append_assoc, List.cons_append]

theorem spells_of_readItems (hitem : Recognizes item spells)
    (h : Takes (readItems item closing) as cs rest) :
    ∃ u, cs = u ++ closing :: rest ∧ SpellsItems spells as u := by
  obtain ⟨hlt, h⟩ := h
  rw [readItems] at h
  split at h
  · rename_i mark hmark
    obtain ⟨_, ds, hds⟩ := mark
    cases h
    obtain ⟨gap, hgap, hcs⟩ := exists_gap cs
    rw [eq_cons_of_takeMark ⟨hds, hmark⟩] at hcs
    exact ⟨gap, hcs, .none hgap⟩
  · obtain ⟨u, hu, hlist⟩ := spells_of_readList hitem ⟨hlt, h⟩
    exact ⟨u, hu, .some hlist⟩

theorem recognizes_readMember {value : JsonRule JsonValue} {spells : JsonValue → List Char → Prop}
    (hvalue : Recognizes value spells) : Recognizes (readMember value) (SpellsMember spells) := by
  rintro m cs rest ⟨hlt, h⟩
  obtain ⟨⟨_, ds, hds⟩, hquote, h⟩ := Option.bind_eq_some_iff.1 h
  obtain ⟨⟨s, es, hes⟩, hname, h⟩ := Option.bind_eq_some_iff.1 h
  obtain ⟨⟨_, fs, hfs⟩, hcolon, h⟩ := Option.bind_eq_some_iff.1 h
  obtain ⟨⟨v, gs, hgs⟩, hv, h⟩ := Option.bind_eq_some_iff.1 h
  simp only [Option.pure_def, Option.some_inj, Taken.mk.injEq] at h
  obtain ⟨rfl, rfl⟩ := h
  obtain rfl := eq_cons_of_takeMark ⟨hds, hquote⟩
  obtain ⟨name, rfl, hspells⟩ := spells_of_readJsonString ⟨hes, hname⟩
  obtain ⟨gap, hgap, hes⟩ := exists_gap es
  obtain ⟨gapEnd, hgapEnd, hfs⟩ := exists_gap fs
  obtain ⟨u, hu, hspelled⟩ := hvalue v _ _ ⟨hgs, hv⟩
  refine ⟨'"' :: (name ++ '"' :: (gap ++ ':' :: (gapEnd ++ u))), ?_,
    .intro hspells hgap hgapEnd hspelled⟩
  rw [eq_cons_of_takeMark ⟨_, hcolon⟩, hfs, hu] at hes
  rw [hes]
  simp only [List.append_assoc, List.cons_append]

/-- **What is read as a value is a text of the value.** -/
theorem recognizes_readJsonValue (depth : Nat) :
    Recognizes (readJsonValue depth) (SpellsJson depth) := by
  induction depth with
  | zero =>
    rintro v cs rest ⟨hlt, h⟩
    rw [readJsonValue.eq_def] at h
    split at h
    · cases h
    · contradiction
    · cases h
    · contradiction
    · exact recognizes_readScalar v cs rest ⟨hlt, h⟩
  | succ depth ih =>
    rintro v cs rest ⟨hlt, h⟩
    rw [readJsonValue.eq_def] at h
    split at h
    · contradiction
    · rename_i bracket depth' hbracket hdepth
      obtain rfl := Nat.succ.inj hdepth
      obtain ⟨_, ds, hds⟩ := bracket
      obtain rfl := eq_cons_of_takeMark ⟨hds, hbracket⟩
      obtain ⟨items, rfl, hitems⟩ := exists_takes_of_map h
      obtain ⟨u, rfl, hspells⟩ := spells_of_readItems ih hitems
      refine ⟨'[' :: (u ++ [']']), ?_, .inr (.inl ⟨items, u, rfl, rfl, hspells⟩)⟩
      simp only [List.cons_append, List.append_assoc, List.nil_append]
    · contradiction
    · rename_i brace depth' _ hbrace hdepth
      obtain rfl := Nat.succ.inj hdepth
      obtain ⟨_, ds, hds⟩ := brace
      obtain rfl := eq_cons_of_takeMark ⟨hds, hbrace⟩
      obtain ⟨members, rfl, hmembers⟩ := exists_takes_of_map h
      obtain ⟨u, rfl, hspells⟩ := spells_of_readItems (recognizes_readMember ih) hmembers
      refine ⟨'\x7b' :: (u ++ ['\x7d']), ?_, .inr (.inr ⟨members, u, rfl, rfl, hspells⟩)⟩
      simp only [List.cons_append, List.append_assoc, List.nil_append]
    · obtain ⟨u, hu, hspells⟩ := recognizes_readScalar v cs rest ⟨hlt, h⟩
      exact ⟨u, hu, .inl hspells⟩

/-- **The value of a text** is the one that the grammar has for it, where arrays and objects are not
nested too deep. -/
theorem JsonValue.read?_eq_some_iff : JsonValue.read? cs = some v ↔ SpellsText jsonDepth v cs := by
  constructor
  · intro h
    rw [read?] at h
    split at h
    · cases h
    · rename_i t ht
      obtain ⟨w, rest, hrest⟩ := t
      split_ifs at h with hempty
      cases h
      obtain ⟨gap, hgap, hcs⟩ := exists_gap cs
      obtain ⟨gapEnd, hgapEnd, hend⟩ := exists_gap rest
      obtain ⟨u, hu, hspells⟩ := recognizes_readJsonValue jsonDepth w _ rest ⟨hrest, ht⟩
      rw [List.isEmpty_iff.1 hempty, List.append_nil] at hend
      have htext := SpellsText.intro hgap hspells hgapEnd
      rwa [← hend, ← hu, ← hcs] at htext
  · exact SpellsText.read?

end Values

end TablePipeline
