import TablePipeline.Proofs.Json.Reading

/-!
# The grammar of JSON

Which texts spell which values, said without the reader.  A relation for each part of the grammar
holds of what the part stands for and of the text that stands for it; a number stands for its own
text, with the exponent in one form.  White space is wherever the grammar lets it stand, so that one
value has many texts.  Arrays and objects are nested at most so many times, and what is nested less
deep is nested less deep than any greater bound, too (`SpellsJson.mono`).

Everything that the grammar derives is read: each rule of the reader takes the texts of its part
from the front, whatever follows them (`SpellsJson.takesText`).  From this the grammar inherits that
its texts can be read in one way only.  Two texts of values behind white space and in front of what
may follow a value are the same text with the same value (`SpellsJson.unique`), however deep they are
nested: reading has but one outcome.

## Main definitions

* `SpellsString`, `SpellsNumber`, `SpellsScalar` — scalars
* `SpellsItems`, `SpellsMember` — the inside of arrays and objects
* `SpellsJson` — values nested to at most a given depth
* `SpellsText` — whole texts

## Main statements

* `SpellsJson.takesText` — the texts of values are read
* `SpellsJson.unique` — and in one way only
-/

namespace TablePipeline

/-! ### Strings -/

/-- Four hexadecimal digits stand for a code. -/
inductive SpellsCode : Nat → List Char → Prop
  | intro {a b c d : Char} {i j k l : Nat} (first : hexValue? a = some i)
      (second : hexValue? b = some j) (third : hexValue? c = some k)
      (fourth : hexValue? d = some l) : SpellsCode (4096 * i + 256 * j + 16 * k + l) [a, b, c, d]

/-- What follows a backslash stands for a character: a letter, a code that is no half of a pair, or
the two halves of a pair. -/
inductive SpellsEscape : Char → List Char → Prop
  | short {c letter : Char} (escape : shortEscape? letter = some c) : SpellsEscape c [letter]
  | code {n : Nat} {u : List Char} (code : SpellsCode n u)
      (trailing : isTrailingSurrogate n = false) (leading : isLeadingSurrogate n = false) :
      SpellsEscape (Char.ofNat n) ('u' :: u)
  | pair {n m : Nat} {u v : List Char} (first : SpellsCode n u) (second : SpellsCode m v)
      (leading : isLeadingSurrogate n = true) (trailing : isTrailingSurrogate m = true) :
      SpellsEscape (surrogatePair n m) ('u' :: (u ++ '\\' :: 'u' :: v))

/-- The body of a string, without its quotes, stands for a text. -/
inductive SpellsString : List Char → List Char → Prop
  | nil : SpellsString [] []
  | plain {c : Char} {s u : List Char} (quote : c ≠ '"') (slash : c ≠ '\\')
      (visible : ¬c.toNat < 32) (more : SpellsString s u) : SpellsString (c :: s) (c :: u)
  | escape {c : Char} {s u v : List Char} (escape : SpellsEscape c u) (more : SpellsString s v) :
      SpellsString (c :: s) ('\\' :: (u ++ v))

/-! ### Numbers -/

/-- Digits, at least one. -/
def IsDigits (ds : List Char) : Prop :=
  ds ≠ [] ∧ ∀ c ∈ ds, c.isDigit = true

/-- The whole part of a number begins with a zero for zero only. -/
def IsWhole (ds : List Char) : Prop :=
  IsDigits ds ∧ (ds.head? = some '0' → ds = ['0'])

/-- The fraction of a number, which may be missing. -/
inductive IsFraction : List Char → Prop
  | none : IsFraction []
  | digits {ds : List Char} (digits : IsDigits ds) : IsFraction ('.' :: ds)

/-- The exponent of a number, which may be missing; it is kept with a small letter and a sign. -/
inductive SpellsExponent : List Char → List Char → Prop
  | none : SpellsExponent [] []
  | plain {letter : Char} {ds : List Char} (hletter : letter = 'e' ∨ letter = 'E')
      (hdigits : IsDigits ds) : SpellsExponent ('e' :: '+' :: ds) (letter :: ds)
  | signed {letter sign : Char} {ds : List Char} (hletter : letter = 'e' ∨ letter = 'E')
      (hsign : sign = '+' ∨ sign = '-') (hdigits : IsDigits ds) :
      SpellsExponent ('e' :: sign :: ds) (letter :: sign :: ds)

/-- A number without a sign. -/
inductive SpellsMagnitude : List Char → List Char → Prop
  | intro {whole fraction kept exponent : List Char} (hwhole : IsWhole whole)
      (hfraction : IsFraction fraction) (hexponent : SpellsExponent kept exponent) :
      SpellsMagnitude (whole ++ fraction ++ kept) (whole ++ fraction ++ exponent)

/-- A number stands for its own text, with the exponent in one form. -/
inductive SpellsNumber : List Char → List Char → Prop
  | plain {n u : List Char} (magnitude : SpellsMagnitude n u) : SpellsNumber n u
  | negative {n u : List Char} (magnitude : SpellsMagnitude n u) :
      SpellsNumber ('-' :: n) ('-' :: u)

/-! ### Values -/

/-- A value that is no array and no object. -/
inductive SpellsScalar : JsonValue → List Char → Prop
  | nullWord : SpellsScalar .null ['n', 'u', 'l', 'l']
  | trueWord : SpellsScalar (.boolean true) ['t', 'r', 'u', 'e']
  | falseWord : SpellsScalar (.boolean false) ['f', 'a', 'l', 's', 'e']
  | number {n u : List Char} (number : SpellsNumber n u) : SpellsScalar (.number n) u
  | string {s u : List Char} (body : SpellsString s u) :
      SpellsScalar (.string (String.ofList s)) ('"' :: (u ++ ['"']))

/-- One or more items with commas between them and white space around each. -/
inductive SpellsList {α : Type} (spells : α → List Char → Prop) : List α → List Char → Prop
  | last {a : α} {gap u gapEnd : List Char} (hgap : IsGap gap) (item : spells a u)
      (hgapEnd : IsGap gapEnd) : SpellsList spells [a] (gap ++ (u ++ gapEnd))
  | more {a : α} {as : List α} {gap u gapEnd cs : List Char} (hgap : IsGap gap) (item : spells a u)
      (hgapEnd : IsGap gapEnd) (more : SpellsList spells as cs) :
      SpellsList spells (a :: as) (gap ++ (u ++ (gapEnd ++ ',' :: cs)))

/-- Any number of items; without items there may still be white space. -/
inductive SpellsItems {α : Type} (spells : α → List Char → Prop) : List α → List Char → Prop
  | none {gap : List Char} (hgap : IsGap gap) : SpellsItems spells [] gap
  | some {as : List α} {cs : List Char} (items : SpellsList spells as cs) : SpellsItems spells as cs

/-- A name, a colon and a value. -/
inductive SpellsMember (spells : JsonValue → List Char → Prop) :
    String × JsonValue → List Char → Prop
  | intro {s name gap gapEnd u : List Char} {v : JsonValue} (hname : SpellsString s name)
      (hgap : IsGap gap) (hgapEnd : IsGap gapEnd) (value : spells v u) :
      SpellsMember spells (String.ofList s, v)
        ('"' :: (name ++ '"' :: (gap ++ ':' :: (gapEnd ++ u))))

/-- A text stands for a value in which arrays and objects are nested at most `depth` times.  Where a
name is repeated in an object, its last value stands for it. -/
def SpellsJson : Nat → JsonValue → List Char → Prop
  | 0, v, u => SpellsScalar v u
  | depth + 1, v, u =>
    SpellsScalar v u ∨
      (∃ items cs, v = .array items ∧ u = '[' :: (cs ++ [']']) ∧
        SpellsItems (SpellsJson depth) items cs) ∨
      ∃ members cs, v = .object (JsonValue.collectMembers members) ∧
        u = '\x7b' :: (cs ++ ['\x7d']) ∧ SpellsItems (SpellsMember (SpellsJson depth)) members cs

/-- Only arrays are spelled with items between brackets. -/
theorem SpellsJson.array {depth : Nat} {items : List JsonValue} {u : List Char}
    (h : SpellsJson depth (.array items) u) :
    ∃ inner cs, depth = inner + 1 ∧ u = '[' :: (cs ++ [']']) ∧
      SpellsItems (SpellsJson inner) items cs := by
  cases depth with
  | zero => cases h
  | succ depth =>
    rcases h with hscalar | ⟨items, cs, hv, hu, hitems⟩ | ⟨members, cs, hv, -⟩
    · cases hscalar
    · cases hv
      exact ⟨depth, cs, rfl, hu, hitems⟩
    · cases hv

/-- Only objects are spelled with members between braces. -/
theorem SpellsJson.object {depth : Nat} {record : Members} {u : List Char}
    (h : SpellsJson depth (.object record) u) :
    ∃ inner members cs, depth = inner + 1 ∧ record = JsonValue.collectMembers members ∧
      u = '\x7b' :: (cs ++ ['\x7d']) ∧
      SpellsItems (SpellsMember (SpellsJson inner)) members cs := by
  cases depth with
  | zero => cases h
  | succ depth =>
    rcases h with hscalar | ⟨items, cs, hv, -⟩ | ⟨members, cs, hv, hu, hmembers⟩
    · cases hscalar
    · cases hv
    · cases hv
      exact ⟨depth, members, cs, rfl, rfl, hu, hmembers⟩

/-- Each item has a text of its own. -/
theorem SpellsItems.exists_of_mem {α : Type} {spells : α → List Char → Prop} {as : List α}
    {cs : List Char} (h : SpellsItems spells as cs) : ∀ a ∈ as, ∃ u, spells a u := by
  cases h with
  | none => exact List.forall_mem_nil _
  | some items =>
    induction items with
    | last _ item _ => exact List.forall_mem_singleton.2 ⟨_, item⟩
    | more _ item _ _ ih => exact List.forall_mem_cons.2 ⟨⟨_, item⟩, ih⟩

/-- A whole text has white space around its value. -/
inductive SpellsText (depth : Nat) (v : JsonValue) : List Char → Prop
  | intro {gap u gapEnd : List Char} (hgap : IsGap gap) (value : SpellsJson depth v u)
      (hgapEnd : IsGap gapEnd) : SpellsText depth v (gap ++ (u ++ gapEnd))

/-! ### Strings and numbers are read -/

section Parts

variable {rest : List Char}

theorem SpellsCode.takes {n : Nat} {u : List Char} (h : SpellsCode n u) (rest : List Char) :
    Takes takeFourHex n (u ++ rest) rest := by
  cases h with
  | intro first second third fourth =>
    refine ⟨by simp only [List.length_append, List.length_cons]; omega, ?_⟩
    simp only [takeFourHex, List.cons_append, List.nil_append, first, second, third, fourth,
      Option.bind_eq_bind, Option.bind_some]
    rfl

theorem SpellsEscape.takes {c : Char} {u : List Char} (h : SpellsEscape c u) (rest : List Char) :
    Takes takeEscape c (u ++ rest) rest := by
  cases h with
  | @short _ letter escape =>
    have hletter : letter ≠ 'u' := by
      rintro rfl
      cases escape
    rw [List.singleton_append]
    refine ⟨Nat.lt_succ_self _, ?_⟩
    rw [takeEscape, if_neg hletter, escape]
    rfl
  | @code n u code trailing leading =>
    obtain ⟨hlt, heq⟩ := code.takes rest
    refine takes_takeEscape_code ⟨hlt, ?_⟩
    simp [takeCodeEscape, heq, trailing, leading]
  | @pair n m u v first second leading trailing =>
    obtain ⟨hlt, heq⟩ := second.takes rest
    obtain ⟨hu, hletter⟩ := takes_takeMark 'u' (v ++ rest)
    obtain ⟨hslash, hmark⟩ := takes_takeMark '\\' ('u' :: (v ++ rest))
    obtain ⟨hlt', heq'⟩ := first.takes ('\\' :: 'u' :: (v ++ rest))
    have hnot : isTrailingSurrogate n = false := by
      simp only [isLeadingSurrogate, isTrailingSurrogate, Bool.and_eq_true, decide_eq_true_eq]
        at leading ⊢
      rw [Bool.and_eq_false_iff]
      exact .inl (decide_eq_false (by omega))
    rw [List.cons_append, List.append_assoc, List.cons_append, List.cons_append]
    refine takes_takeEscape_code ⟨by omega, ?_⟩
    simp [takeCodeEscape, heq, heq', hletter, hmark, leading, trailing, hnot]

/-- **Strings are read**, behind their opening quotes. -/
theorem SpellsString.takes {s u : List Char} (h : SpellsString s u) (rest : List Char) :
    Takes readJsonString s (u ++ '"' :: rest) rest := by
  induction h with
  | nil =>
    rw [List.nil_append]
    refine ⟨Nat.lt_succ_self _, ?_⟩
    rw [readJsonString, if_pos rfl]
  | plain quote slash visible _ ih => exact takes_readJsonString_plain quote slash visible ih
  | escape escape _ ih =>
    rw [List.cons_append, List.append_assoc]
    exact takes_readJsonString_escape (escape.takes _) ih

/-- What ends a value is no digit and no point. -/
theorem Stops.head (h : Stops rest) : ∀ c ∈ rest.head?, c.isDigit = false ∧ c ≠ '.' := by
  cases rest with
  | nil =>
    intro c hc
    cases hc
  | cons d rest =>
    intro c hc
    cases hc
    exact ⟨h.ne.1, h.ne.2.1⟩

/-- What follows the whole part of a number, or its fraction, is no digit and no point either. -/
theorem SpellsExponent.head {kept exponent : List Char} (h : SpellsExponent kept exponent)
    (hrest : Stops rest) : ∀ c ∈ (exponent ++ rest).head?, c.isDigit = false ∧ c ≠ '.' := by
  have hletters : ∀ c, c = 'e' ∨ c = 'E' → c.isDigit = false ∧ c ≠ '.' := by
    rintro c (rfl | rfl) <;> decide
  cases h with
  | none => exact hrest.head
  | plain hletter _ =>
    intro c hc
    cases hc
    exact hletters _ hletter
  | signed hletter _ _ =>
    intro c hc
    cases hc
    exact hletters _ hletter

theorem SpellsExponent.split {kept exponent : List Char} (h : SpellsExponent kept exponent)
    (hrest : Stops rest) : splitExponent (exponent ++ rest) = some (kept, rest) := by
  have hhead := hrest.head
  cases h with
  | none => exact splitExponent_of_stops hrest
  | @plain letter ds hletter hdigits =>
    obtain ⟨_, heq⟩ := takes_takeDigits hdigits.1 hdigits.2 fun c hc => (hhead c hc).1
    have hsign : splitExponentSign (ds ++ rest) = ('+', ds ++ rest) := by
      obtain ⟨d, ds, rfl⟩ := List.exists_cons_of_ne_nil hdigits.1
      have hd := hdigits.2 d List.mem_cons_self
      rw [splitExponentSign.eq_def]
      split
      · rename_i heq
        cases heq
        cases hd
      · rename_i heq
        cases heq
        cases hd
      · rfl
    rw [List.cons_append, splitExponent, if_pos hletter, hsign, heq]
    rfl
  | @signed letter sign ds hletter hsign hdigits =>
    obtain ⟨_, heq⟩ := takes_takeDigits hdigits.1 hdigits.2 fun c hc => (hhead c hc).1
    have hsplit : splitExponentSign (sign :: (ds ++ rest)) = (sign, ds ++ rest) := by
      rcases hsign with rfl | rfl <;> rfl
    rw [List.cons_append, List.cons_append, splitExponent, if_pos hletter, hsplit, heq]
    rfl

theorem IsFraction.split {fraction : List Char} (h : IsFraction fraction)
    (hrest : ∀ c ∈ rest.head?, c.isDigit = false ∧ c ≠ '.') :
    splitFraction (fraction ++ rest) = some (fraction, rest) := by
  cases h with
  | none =>
    cases rest with
    | nil => rfl
    | cons c rest => rw [List.nil_append, splitFraction, takeMark_of_ne (hrest c rfl).2]
  | @digits ds hdigits =>
    obtain ⟨_, heq⟩ := takes_takeDigits hdigits.1 hdigits.2 fun c hc => (hrest c hc).1
    obtain ⟨_, hmark⟩ := takes_takeMark '.' (ds ++ rest)
    rw [List.cons_append, splitFraction, hmark]
    simp only [heq, Option.map_some]

theorem IsFraction.head {fraction : List Char} (h : IsFraction fraction)
    (hrest : ∀ c ∈ rest.head?, c.isDigit = false) :
    ∀ c ∈ (fraction ++ rest).head?, c.isDigit = false := by
  cases h with
  | none => exact hrest
  | digits =>
    intro c hc
    cases hc
    rfl

/-- A number without a sign is read where something follows that is no part of it. -/
theorem SpellsMagnitude.takes {n u : List Char} (h : SpellsMagnitude n u) (hrest : Stops rest) :
    Takes readMagnitude n (u ++ rest) rest := by
  cases h with
  | @intro whole fraction kept exponent hwhole hfraction hexponent =>
    have hhead := hexponent.head hrest
    have hend := hfraction.head fun c hc => (hhead c hc).1
    have hdigits := takes_takeDigits hwhole.1.1 hwhole.1.2 hend
    have htext : whole ++ fraction ++ exponent ++ rest =
        whole ++ (fraction ++ (exponent ++ rest)) := by
      simp only [List.append_assoc]
    rw [htext]
    exact takes_readMagnitude (takes_takeWhole hdigits hwhole.2) (hfraction.split hhead)
      (hexponent.split hrest)

/-- A number without a sign begins with a digit. -/
theorem SpellsMagnitude.exists_eq_cons {n u : List Char} (h : SpellsMagnitude n u) :
    ∃ c cs, u = c :: cs ∧ c.isDigit = true := by
  cases h with
  | @intro whole _ _ _ hwhole _ _ =>
    obtain ⟨c, ds, rfl⟩ := List.exists_cons_of_ne_nil hwhole.1.1
    exact ⟨c, _, rfl, hwhole.1.2 c List.mem_cons_self⟩

theorem SpellsNumber.exists_eq_cons {n u : List Char} (h : SpellsNumber n u) :
    ∃ c cs, u = c :: cs ∧ (c.isDigit = true ∨ c = '-') := by
  cases h with
  | plain magnitude =>
    obtain ⟨c, cs, hu, hc⟩ := magnitude.exists_eq_cons
    exact ⟨c, cs, hu, .inl hc⟩
  | negative magnitude => exact ⟨'-', _, rfl, .inr rfl⟩

/-- **Numbers are read** where something follows that is no part of them. -/
theorem SpellsNumber.takes {n u : List Char} (h : SpellsNumber n u) (hrest : Stops rest) :
    Takes readJsonNumber n (u ++ rest) rest := by
  cases h with
  | plain magnitude =>
    obtain ⟨c, cs, rfl, hc⟩ := magnitude.exists_eq_cons
    refine takes_readJsonNumber_plain ?_ (magnitude.takes hrest)
    rintro rfl
    cases hc
  | negative magnitude => exact takes_readJsonNumber_negative (magnitude.takes hrest)

end Parts

/-! ### Values are read -/

section Values

variable {α : Type} {item : JsonRule α} {spells stronger : α → List Char → Prop} {closing : Char}
  {as : List α} {v w : JsonValue} {u u' cs gap gap' rest rest' : List Char} {depth depth' : Nat}

/-- Items are read up to the closing bracket when each is read. -/
theorem SpellsList.takes (h : SpellsList spells as cs)
    (hitem : ∀ a u, spells a u → TakesText item u a) (hclosing : IsClosing closing)
    (rest : List Char) : Takes (readList item closing) as (cs ++ closing :: rest) rest := by
  induction h with
  | @last a gap u gapEnd hgap hspells hgapEnd =>
    have hfirst := hitem a u hspells
    have htake := hfirst.takes _ (stops_append hgapEnd (hclosing.stops rest))
    have htext : gap ++ (u ++ gapEnd) ++ closing :: rest =
        gap ++ (u ++ (gapEnd ++ closing :: rest)) := by
      simp only [List.append_assoc]
    rw [← hfirst.begins.dropJsonBlanks hgap] at htake
    rw [htext]
    refine takes_readList_last htake ?_
    rw [dropJsonBlanks_gap hgapEnd, dropJsonBlanks_cons hclosing.isJsonBlank]
    exact takes_takeMark closing rest
  | @more a as gap u gapEnd cs hgap hspells hgapEnd _ ih =>
    have hfirst := hitem a u hspells
    have htake := hfirst.takes _ (stops_append hgapEnd (stops_comma (cs ++ closing :: rest)))
    have htext : gap ++ (u ++ (gapEnd ++ ',' :: cs)) ++ closing :: rest =
        gap ++ (u ++ (gapEnd ++ ',' :: (cs ++ closing :: rest))) := by
      simp only [List.append_assoc, List.cons_append]
    rw [← hfirst.begins.dropJsonBlanks hgap] at htake
    rw [htext]
    refine takes_readList_more htake ?_ ?_ ih
    · rw [dropJsonBlanks_gap hgapEnd, dropJsonBlanks_cons rfl,
        takeMark_of_ne hclosing.ne_comma.symm]
    · rw [dropJsonBlanks_gap hgapEnd, dropJsonBlanks_cons rfl]
      exact takes_takeMark ',' _

/-- Behind white space there is the first item. -/
theorem SpellsList.exists_first (h : SpellsList spells as cs) :
    ∃ a gap u more, cs = gap ++ (u ++ more) ∧ IsGap gap ∧ spells a u := by
  cases h with
  | last hgap hspells _ => exact ⟨_, _, _, _, rfl, hgap, hspells⟩
  | more hgap hspells _ _ => exact ⟨_, _, _, _, rfl, hgap, hspells⟩

theorem SpellsItems.takes (h : SpellsItems spells as cs)
    (hitem : ∀ a u, spells a u → TakesText item u a) (hclosing : IsClosing closing)
    (rest : List Char) : Takes (readItems item closing) as (cs ++ closing :: rest) rest := by
  cases h with
  | none hgap =>
    refine takes_readItems_none ?_
    rw [dropJsonBlanks_gap hgap, dropJsonBlanks_cons hclosing.isJsonBlank]
    exact takes_takeMark closing rest
  | some items =>
    refine takes_readItems_some ?_ (items.takes hitem hclosing rest)
    obtain ⟨a, gap, u, more, rfl, hgap, hspells⟩ := items.exists_first
    have hbegins := (hitem a u hspells).begins
    rw [List.append_assoc, List.append_assoc, hbegins.dropJsonBlanks hgap,
      hbegins.takeMark_closing hclosing]

theorem SpellsMember.takesText {value : JsonRule JsonValue} {spells : JsonValue → List Char → Prop}
    {m : String × JsonValue} (h : SpellsMember spells m u)
    (hvalue : ∀ v u, spells v u → TakesText value u v) : TakesText (readMember value) u m := by
  cases h with
  | @intro s name gap gapEnd u v hname hgap hgapEnd hspells =>
    refine ⟨⟨'"', _, rfl, rfl, by decide, by decide⟩, fun rest hrest => ?_⟩
    have hvalue := hvalue v u hspells
    have htake := hvalue.takes rest hrest
    rw [← hvalue.begins.dropJsonBlanks hgapEnd] at htake
    have hcolon := takes_takeMark ':' (gapEnd ++ (u ++ rest))
    rw [← dropJsonBlanks_cons (c := ':') rfl, ← dropJsonBlanks_gap hgap] at hcolon
    have htext : '"' :: (name ++ '"' :: (gap ++ ':' :: (gapEnd ++ u))) ++ rest =
        '"' :: (name ++ '"' :: (gap ++ ':' :: (gapEnd ++ (u ++ rest)))) := by
      simp only [List.append_assoc, List.cons_append]
    rw [htext]
    exact takes_readMember (takes_takeMark '"' _) (hname.takes _) hcolon htake

theorem SpellsScalar.takesText (h : SpellsScalar v u) (depth : Nat) :
    TakesText (readJsonValue depth) u v := by
  cases h with
  | nullWord => exact takesText_of_scalar rfl (by decide) fun rest _ => takes_readScalar_null rest
  | trueWord => exact takesText_of_scalar rfl (by decide) fun rest _ => takes_readScalar_true rest
  | falseWord => exact takesText_of_scalar rfl (by decide) fun rest _ => takes_readScalar_false rest
  | number number =>
    obtain ⟨c, cs, rfl, hc⟩ := number.exists_eq_cons
    have hblank : isJsonBlank c = false := by
      simp [isJsonBlank, ne_of_begins_number hc (d := ' ') (by decide),
        ne_of_begins_number hc (d := '\t') (by decide),
        ne_of_begins_number hc (d := '\n') (by decide),
        ne_of_begins_number hc (d := '\r') (by decide)]
    have hbrackets : c ≠ '[' ∧ c ≠ ']' ∧ c ≠ '\x7b' ∧ c ≠ '\x7d' :=
      ⟨ne_of_begins_number hc (by decide), ne_of_begins_number hc (by decide),
        ne_of_begins_number hc (by decide), ne_of_begins_number hc (by decide)⟩
    exact takesText_of_scalar hblank hbrackets fun rest hrest =>
      takes_readScalar_number hc (number.takes hrest)
  | @string s u body =>
    refine takesText_of_scalar rfl (by decide) fun rest _ => takes_readScalar_string ?_
    rw [List.append_assoc]
    exact body.takes rest

/-- **The texts of values are read**, whatever follows them, as long as something ends them. -/
theorem SpellsJson.takesText (h : SpellsJson depth v u) : TakesText (readJsonValue depth) u v := by
  induction depth generalizing v u with
  | zero => exact SpellsScalar.takesText h 0
  | succ depth ih =>
    rcases h with h | ⟨items, cs, rfl, rfl, hitems⟩ | ⟨members, cs, rfl, rfl, hmembers⟩
    · exact h.takesText (depth + 1)
    · refine ⟨⟨'[', _, rfl, rfl, by decide, by decide⟩, fun rest _ => ?_⟩
      rw [List.cons_append, List.append_assoc]
      exact takes_readJsonValue_array (hitems.takes (fun _ _ => ih) (.inl rfl) rest)
    · refine ⟨⟨'\x7b', _, rfl, rfl, by decide, by decide⟩, fun rest _ => ?_⟩
      rw [List.cons_append, List.append_assoc]
      exact takes_readJsonValue_object
        (hmembers.takes (fun _ _ h => h.takesText fun _ _ => ih) (.inr rfl) rest)

/-- A rule takes one thing only. -/
theorem Takes.unique {rule : JsonRule α} {a b : α} (h : Takes rule a cs rest)
    (h' : Takes rule b cs rest') : a = b ∧ rest = rest' := by
  obtain ⟨hlt, heq⟩ := h
  obtain ⟨hlt', heq'⟩ := h'
  rw [heq] at heq'
  cases heq'
  exact ⟨rfl, rfl⟩

/-- There may be no white space around a value. -/
theorem SpellsJson.spellsText (h : SpellsJson depth v u) : SpellsText depth v u := by
  have htext := SpellsText.intro isGap_nil h isGap_nil
  rwa [List.append_nil, List.nil_append] at htext

/-- **Whole texts are read.** -/
theorem SpellsText.read? (h : SpellsText jsonDepth v cs) : JsonValue.read? cs = some v := by
  cases h with
  | @intro gap u gapEnd hgap value hgapEnd =>
    have htake := value.takesText.takes gapEnd (stops_gap hgapEnd)
    rw [← value.takesText.begins.dropJsonBlanks hgap] at htake
    obtain ⟨hlt, heq⟩ := htake
    rw [JsonValue.read?, heq]
    simp only [dropJsonBlanks_eq_nil hgapEnd]
    rfl

/-! ### Depth -/

theorem SpellsList.imp (h : ∀ a u, spells a u → stronger a u) (hlist : SpellsList spells as cs) :
    SpellsList stronger as cs := by
  induction hlist with
  | last hgap hspells hgapEnd => exact .last hgap (h _ _ hspells) hgapEnd
  | more hgap hspells hgapEnd _ ih => exact .more hgap (h _ _ hspells) hgapEnd ih

theorem SpellsItems.imp (h : ∀ a u, spells a u → stronger a u) (hitems : SpellsItems spells as cs) :
    SpellsItems stronger as cs := by
  cases hitems with
  | none hgap => exact .none hgap
  | some items => exact .some (items.imp h)

theorem SpellsMember.imp {spells stronger : JsonValue → List Char → Prop}
    {m : String × JsonValue} (h : ∀ v u, spells v u → stronger v u)
    (hmember : SpellsMember spells m u) : SpellsMember stronger m u := by
  cases hmember with
  | intro hname hgap hgapEnd hspells => exact .intro hname hgap hgapEnd (h _ _ hspells)

/-- What is nested less deep is nested less deep than a greater bound. -/
theorem SpellsJson.mono (h : SpellsJson depth v u) (hle : depth ≤ depth') :
    SpellsJson depth' v u := by
  induction depth generalizing v u depth' with
  | zero =>
    cases depth' with
    | zero => exact h
    | succ depth' => exact .inl h
  | succ depth ih =>
    cases depth' with
    | zero => cases hle
    | succ depth' =>
      have hinner : ∀ v u, SpellsJson depth v u → SpellsJson depth' v u :=
        fun _ _ h => ih h (Nat.le_of_succ_le_succ hle)
      rcases h with h | ⟨items, cs, hv, hu, hitems⟩ | ⟨members, cs, hv, hu, hmembers⟩
      · exact .inl h
      · exact .inr (.inl ⟨items, cs, hv, hu, hitems.imp hinner⟩)
      · exact .inr (.inr ⟨members, cs, hv, hu, hmembers.imp fun _ _ => .imp hinner⟩)

theorem SpellsText.mono (h : SpellsText depth v cs) (hle : depth ≤ depth') :
    SpellsText depth' v cs := by
  cases h with
  | intro hgap value hgapEnd => exact .intro hgap (value.mono hle) hgapEnd

/-- **A text can be read in one way only.**  Texts of values behind white space and in front of what
may follow a value are the same text of the same value, however deep they are nested. -/
theorem SpellsJson.unique (h : SpellsJson depth v u) (h' : SpellsJson depth' w u')
    (hgap : IsGap gap) (hgap' : IsGap gap') (hrest : Stops rest) (hrest' : Stops rest')
    (htext : gap ++ (u ++ rest) = gap' ++ (u' ++ rest')) : v = w ∧ u = u' ∧ rest = rest' := by
  have hle := h.mono (Nat.le_max_left depth depth')
  have hle' := h'.mono (Nat.le_max_right depth depth')
  have hsame : u ++ rest = u' ++ rest' := by
    rw [← hle.takesText.begins.dropJsonBlanks hgap, htext,
      hle'.takesText.begins.dropJsonBlanks hgap']
  have htake := hle.takesText.takes rest hrest
  have htake' := hle'.takesText.takes rest' hrest'
  rw [← hsame] at htake'
  obtain ⟨rfl, rfl⟩ := htake.unique htake'
  exact ⟨rfl, List.append_cancel_right hsame, rfl⟩

end Values

end TablePipeline
