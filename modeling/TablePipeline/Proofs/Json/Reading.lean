import TablePipeline.Json.Reader

/-!
# What the rules of the JSON reader take

A rule takes its part from the front of a text and leaves the rest (`Takes`).  What a rule takes
follows from what the rules take that it calls; here this is said once for each rule, so that
nothing else unfolds them.

The rest may be anything, with one exception: a number ends only where something follows that is no
part of it (`Stops`).  So a value is taken from its text whatever follows it, as long as something
ends it, and a list can be read if its text begins with something else than its closing bracket
(`TakesText`).

## Main definitions

* `Takes` — a rule takes a value from the front of a text
* `Stops` — a text that does not continue a number
* `TakesText` — a rule takes a value from a text in front of what ends it
-/

namespace TablePipeline

/-- A rule takes a value from the front of a text and leaves the rest. -/
def Takes {α : Type} (rule : JsonRule α) (v : α) (cs rest : List Char) : Prop :=
  ∃ h, rule cs = some ⟨v, rest, h⟩

/-- White space. -/
def IsGap (gap : List Char) : Prop :=
  ∀ c ∈ gap, isJsonBlank c = true

/-- What may follow a number: nothing, white space, a comma or a closing bracket. -/
def Stops (rest : List Char) : Prop :=
  ∀ c ∈ rest.head?, isJsonBlank c = true ∨ c = ',' ∨ c = ']' ∨ c = '\x7d'

/-- A text that begins with neither white space nor a closing bracket. -/
def Begins (cs : List Char) : Prop :=
  ∃ c rest, cs = c :: rest ∧ isJsonBlank c = false ∧ c ≠ ']' ∧ c ≠ '\x7d'

/-- A rule takes a value from a text, whatever follows it, as long as something ends it. -/
structure TakesText {α : Type} (item : JsonRule α) (text : List Char) (v : α) : Prop where
  begins : Begins text
  takes : ∀ rest, Stops rest → Takes item v (text ++ rest) rest

section Marks

variable {c d : Char} {cs gap rest : List Char}

theorem takes_takeMark (c : Char) (rest : List Char) : Takes (takeMark c) () (c :: rest) rest := by
  simp [Takes, takeMark]

theorem takeMark_of_ne (h : d ≠ c) : takeMark c (d :: rest) = none := by
  rw [takeMark, if_neg h]

theorem dropJsonBlanks_cons (h : isJsonBlank c = false) : dropJsonBlanks (c :: rest) = c :: rest :=
  List.dropWhile_cons_of_neg (by simp [h])

theorem isGap_nil : IsGap [] :=
  List.forall_mem_nil _

theorem dropJsonBlanks_gap (hgap : IsGap gap) (cs : List Char) :
    dropJsonBlanks (gap ++ cs) = dropJsonBlanks cs :=
  List.dropWhile_append_of_pos hgap

theorem dropJsonBlanks_eq_nil (hgap : IsGap gap) : dropJsonBlanks gap = [] := by
  have hdrop := dropJsonBlanks_gap hgap []
  rwa [List.append_nil] at hdrop

theorem Begins.dropJsonBlanks (h : Begins cs) (hgap : IsGap gap) (rest : List Char) :
    dropJsonBlanks (gap ++ (cs ++ rest)) = cs ++ rest := by
  obtain ⟨c, cs', rfl, hc, -⟩ := h
  rw [dropJsonBlanks_gap hgap, List.cons_append, dropJsonBlanks_cons hc]

theorem takeWord_of_ne {α : Type} {v : α} {word : List Char} (h : d ≠ c) :
    takeWord (c :: word) v (d :: rest) = none := by
  rw [takeWord, dif_neg]
  simp [List.isPrefixOf, h.symm]

theorem stops_cons (h : isJsonBlank c = true ∨ c = ',' ∨ c = ']' ∨ c = '\x7d') :
    Stops (c :: rest) := by
  intro d hd
  rwa [← Option.some.inj hd]

theorem stops_comma (rest : List Char) : Stops (',' :: rest) :=
  stops_cons (.inr (.inl rfl))

theorem stops_gap (hgap : IsGap gap) : Stops gap := by
  intro c hc
  exact .inl (hgap c (List.mem_of_head? hc))

theorem stops_append (hgap : IsGap gap) (h : Stops rest) : Stops (gap ++ rest) := by
  cases gap with
  | nil => exact h
  | cons c gap => exact stops_cons (.inl (hgap c List.mem_cons_self))

/-- What may follow a number is no digit, no point and no letter of an exponent. -/
theorem Stops.ne (h : Stops (c :: rest)) : c.isDigit = false ∧ c ≠ '.' ∧ c ≠ 'e' ∧ c ≠ 'E' := by
  have hc := h c rfl
  simp only [isJsonBlank, Bool.or_eq_true, beq_iff_eq] at hc
  rcases hc with (((rfl | rfl) | rfl) | rfl) | rfl | rfl | rfl <;> decide

end Marks

/-! ### Strings -/

section Strings

variable {c : Char} {s cs ds rest : List Char}

/-- A letter with a code behind it is an escape when the code is. -/
theorem takes_takeEscape_code (h : Takes takeCodeEscape c cs rest) :
    Takes takeEscape c ('u' :: cs) rest := by
  obtain ⟨hlt, heq⟩ := h
  refine ⟨by simp only [List.length_cons]; omega, ?_⟩
  rw [takeEscape, if_pos rfl, heq]
  rfl

/-- Reading goes on behind an escape. -/
theorem takes_readJsonString_escape (h : Takes takeEscape c ds cs)
    (hs : Takes readJsonString s cs rest) :
    Takes readJsonString (c :: s) ('\\' :: ds) rest := by
  obtain ⟨hlt, heq⟩ := h
  obtain ⟨hlt', heq'⟩ := hs
  refine ⟨by simp only [List.length_cons]; omega, ?_⟩
  rw [readJsonString, if_neg (by decide), if_pos rfl, heq]
  simp only [heq', Option.map_some, Taken.map, Taken.within]

/-- Reading goes on behind a character that is not escaped. -/
theorem takes_readJsonString_plain (hquote : c ≠ '"') (hslash : c ≠ '\\') (hcode : ¬c.toNat < 32)
    (hs : Takes readJsonString s cs rest) : Takes readJsonString (c :: s) (c :: cs) rest := by
  obtain ⟨hlt, heq⟩ := hs
  refine ⟨by simp only [List.length_cons]; omega, ?_⟩
  rw [readJsonString, if_neg hquote, if_neg hslash, if_neg hcode, heq]
  rfl

end Strings

/-! ### Numbers -/

section Numbers

variable {digits whole fraction exponent n cs ds es rest : List Char}

/-- Digits are taken up to where they end. -/
theorem takes_takeDigits (hne : digits ≠ []) (hdigits : ∀ c ∈ digits, c.isDigit = true)
    (h : ∀ c ∈ rest.head?, c.isDigit = false) : Takes takeDigits digits (digits ++ rest) rest := by
  obtain ⟨c, digits, rfl⟩ := List.exists_cons_of_ne_nil hne
  have hrest : rest.takeWhile Char.isDigit = [] ∧ rest.dropWhile Char.isDigit = rest := by
    cases rest with
    | nil => exact ⟨rfl, rfl⟩
    | cons d rest =>
      have hd := h d rfl
      exact ⟨List.takeWhile_cons_of_neg (by simp [hd]), List.dropWhile_cons_of_neg (by simp [hd])⟩
  have htail : ∀ c ∈ digits, c.isDigit = true := fun d hd => hdigits d (List.mem_cons_of_mem c hd)
  have hlt : rest.length < (c :: digits ++ rest).length := by
    simp only [List.cons_append, List.length_cons, List.length_append]
    omega
  refine ⟨hlt, ?_⟩
  simp only [List.cons_append, takeDigits, hdigits c List.mem_cons_self, if_true,
    List.takeWhile_append_of_pos htail, List.dropWhile_append_of_pos htail, hrest,
    List.append_nil]

/-- The whole part of a number does not begin with a zero, or is zero. -/
theorem takes_takeWhole (h : Takes takeDigits digits cs rest)
    (hzero : digits.head? = some '0' → digits = ['0']) : Takes takeWhole digits cs rest := by
  obtain ⟨hlt, heq⟩ := h
  refine ⟨hlt, ?_⟩
  have hzeros : ∀ d ds, digits ≠ '0' :: d :: ds := by
    rintro d ds rfl
    cases hzero rfl
  -- so it is the second case of the match
  simp only [takeWhole, heq, Option.bind_eq_bind, Option.bind_some, Option.pure_def]

theorem splitExponent_of_stops (h : Stops rest) : splitExponent rest = some ([], rest) := by
  cases rest with
  | nil => rfl
  | cons c rest => rw [splitExponent, if_neg (not_or.2 h.ne.2.2)]

/-- A number without a sign is taken part by part. -/
theorem takes_readMagnitude (hwhole : Takes takeWhole whole cs ds)
    (hfraction : splitFraction ds = some (fraction, es))
    (hexponent : splitExponent es = some (exponent, rest)) :
    Takes readMagnitude (whole ++ fraction ++ exponent) cs rest := by
  obtain ⟨hlt, heq⟩ := hwhole
  have hes := length_of_splitFraction hfraction
  have hrest := length_of_splitExponent hexponent
  refine ⟨by simp only at hes hrest; omega, ?_⟩
  unfold readMagnitude
  rw [heq]
  simp only
  split
  · rename_i hf
    rw [hfraction] at hf
    cases hf
  · rename_i hf
    rw [hfraction] at hf
    cases hf
    split
    · rename_i he
      rw [hexponent] at he
      cases he
    · rename_i he
      rw [hexponent] at he
      cases he
      rfl

theorem takes_readJsonNumber_plain {c : Char} (hc : c ≠ '-')
    (h : Takes readMagnitude n (c :: cs) rest) : Takes readJsonNumber n (c :: cs) rest := by
  obtain ⟨hlt, heq⟩ := h
  refine ⟨hlt, ?_⟩
  rw [readJsonNumber, takeMark_of_ne hc]
  exact heq

theorem takes_readJsonNumber_negative (h : Takes readMagnitude n cs rest) :
    Takes readJsonNumber ('-' :: n) ('-' :: cs) rest := by
  obtain ⟨hlt, heq⟩ := h
  obtain ⟨hsign, hmark⟩ := takes_takeMark '-' cs
  refine ⟨Nat.lt_trans hlt hsign, ?_⟩
  rw [readJsonNumber, hmark]
  simp only [heq, Option.map_some, Taken.map, Taken.within]

end Numbers

/-! ### Lists -/

section Lists

variable {α : Type} {item : JsonRule α} {closing : Char} {cs ds es rest : List Char}
  {values : List α}

/-- The last item stands before the closing bracket. -/
theorem takes_readList_last {v : α} (hitem : Takes item v (dropJsonBlanks cs) ds)
    (hclosing : Takes (takeMark closing) () (dropJsonBlanks ds) rest) :
    Takes (readList item closing) [v] cs rest := by
  obtain ⟨hlt, heq⟩ := hitem
  obtain ⟨hlt', heq'⟩ := hclosing
  have hcs := length_dropJsonBlanks_le cs
  have hds := length_dropJsonBlanks_le ds
  refine ⟨by omega, ?_⟩
  rw [readList]
  simp only [heq, heq']

/-- Any other item stands before a comma. -/
theorem takes_readList_more {v : α} (hitem : Takes item v (dropJsonBlanks cs) ds)
    (hclosing : takeMark closing (dropJsonBlanks ds) = none)
    (hcomma : Takes (takeMark ',') () (dropJsonBlanks ds) es)
    (hmore : Takes (readList item closing) values es rest) :
    Takes (readList item closing) (v :: values) cs rest := by
  obtain ⟨hlt, heq⟩ := hitem
  obtain ⟨hlt', heq'⟩ := hcomma
  obtain ⟨hlt'', heq''⟩ := hmore
  have hcs := length_dropJsonBlanks_le cs
  have hds := length_dropJsonBlanks_le ds
  refine ⟨by omega, ?_⟩
  rw [readList]
  simp only [heq, heq', hclosing, heq'', Option.map_some, Taken.map, Taken.within]

/-- The marks that close a list. -/
def IsClosing (c : Char) : Prop :=
  c = ']' ∨ c = '\x7d'

theorem IsClosing.stops (h : IsClosing closing) (rest : List Char) : Stops (closing :: rest) :=
  stops_cons (.inr (.inr h))

theorem IsClosing.isJsonBlank (h : IsClosing closing) : isJsonBlank closing = false := by
  rcases h with rfl | rfl <;> rfl

theorem IsClosing.ne_comma (h : IsClosing closing) : closing ≠ ',' := by
  rcases h with rfl | rfl <;> decide

/-- What an item begins with is no closing bracket. -/
theorem Begins.takeMark_closing (h : Begins cs) (hclosing : IsClosing closing) :
    takeMark closing (cs ++ rest) = none := by
  obtain ⟨c, cs, rfl, -, hbracket, hbrace⟩ := h
  refine takeMark_of_ne ?_
  rcases hclosing with rfl | rfl
  · exact hbracket
  · exact hbrace

theorem takes_readItems_none (h : Takes (takeMark closing) () (dropJsonBlanks cs) rest) :
    Takes (readItems item closing) [] cs rest := by
  obtain ⟨hlt, heq⟩ := h
  have hcs := length_dropJsonBlanks_le cs
  refine ⟨by omega, ?_⟩
  rw [readItems, heq]

theorem takes_readItems_some (hmark : takeMark closing (dropJsonBlanks cs) = none)
    (h : Takes (readList item closing) values cs rest) :
    Takes (readItems item closing) values cs rest := by
  obtain ⟨hlt, heq⟩ := h
  refine ⟨hlt, ?_⟩
  rw [readItems, hmark]
  exact heq

/-- A member is taken part by part. -/
theorem takes_readMember {value : JsonRule JsonValue} {name fs : List Char} {v : JsonValue}
    (hquote : Takes (takeMark '"') () cs ds) (hname : Takes readJsonString name ds es)
    (hcolon : Takes (takeMark ':') () (dropJsonBlanks es) fs)
    (hvalue : Takes value v (dropJsonBlanks fs) rest) :
    Takes (readMember value) (String.ofList name, v) cs rest := by
  obtain ⟨hds, hquote⟩ := hquote
  obtain ⟨hes, hname⟩ := hname
  obtain ⟨hfs, hcolon⟩ := hcolon
  obtain ⟨hrest, hvalue⟩ := hvalue
  have hdrop := length_dropJsonBlanks_le es
  have hdrop' := length_dropJsonBlanks_le fs
  refine ⟨by omega, ?_⟩
  unfold readMember
  simp only [hquote, hname, hcolon, hvalue, Option.bind_eq_bind, Option.bind_some]
  rfl

end Lists

/-! ### Values -/

section Values

variable {v : JsonValue} {c : Char} {cs rest : List Char} {depth : Nat}

theorem takes_readScalar_null (rest : List Char) :
    Takes readScalar .null ('n' :: (['u', 'l', 'l'] ++ rest)) rest :=
  ⟨by simp only [List.cons_append, List.length_cons, List.nil_append]; omega, rfl⟩

theorem takes_readScalar_true (rest : List Char) :
    Takes readScalar (.boolean true) ('t' :: (['r', 'u', 'e'] ++ rest)) rest :=
  ⟨by simp only [List.cons_append, List.length_cons, List.nil_append]; omega, rfl⟩

theorem takes_readScalar_false (rest : List Char) :
    Takes readScalar (.boolean false) ('f' :: (['a', 'l', 's', 'e'] ++ rest)) rest :=
  ⟨by simp only [List.cons_append, List.length_cons, List.nil_append]; omega, rfl⟩

theorem takes_readScalar_string {s : List Char} (h : Takes readJsonString s cs rest) :
    Takes readScalar (.string (String.ofList s)) ('"' :: cs) rest := by
  obtain ⟨hlt, heq⟩ := h
  obtain ⟨hquote, hmark⟩ := takes_takeMark '"' cs
  refine ⟨Nat.lt_trans hlt hquote, ?_⟩
  rw [readScalar, hmark]
  simp only [heq, Option.map_some, Taken.map, Taken.within, Function.comp_apply]

/-- What a number begins with is nothing else. -/
theorem ne_of_begins_number {d : Char} (hc : c.isDigit = true ∨ c = '-')
    (hd : d.isDigit = false ∧ d ≠ '-') : c ≠ d := by
  rintro rfl
  rcases hc with hc | rfl
  · rw [hd.1] at hc
    cases hc
  · exact hd.2 rfl

theorem takes_readScalar_number {text : List Char} (hc : c.isDigit = true ∨ c = '-')
    (h : Takes readJsonNumber text (c :: cs) rest) :
    Takes readScalar (.number text) (c :: cs) rest := by
  obtain ⟨hlt, heq⟩ := h
  refine ⟨hlt, ?_⟩
  rw [readScalar, takeMark_of_ne (ne_of_begins_number hc (by decide)),
    takeWord_of_ne (ne_of_begins_number hc (by decide)),
    takeWord_of_ne (ne_of_begins_number hc (by decide)),
    takeWord_of_ne (ne_of_begins_number hc (by decide)), heq]
  rfl

/-- What begins with neither bracket is a scalar. -/
theorem takes_readJsonValue_scalar (hbracket : c ≠ '[') (hbrace : c ≠ '\x7b')
    (h : Takes readScalar v (c :: cs) rest) : Takes (readJsonValue depth) v (c :: cs) rest := by
  obtain ⟨hlt, heq⟩ := h
  refine ⟨hlt, ?_⟩
  rw [readJsonValue.eq_def, takeMark_of_ne hbracket, takeMark_of_ne hbrace]
  exact heq

theorem takes_readJsonValue_array {items : List JsonValue}
    (h : Takes (readItems (readJsonValue depth) ']') items cs rest) :
    Takes (readJsonValue (depth + 1)) (.array items) ('[' :: cs) rest := by
  obtain ⟨hlt, heq⟩ := h
  obtain ⟨hbracket, hmark⟩ := takes_takeMark '[' cs
  refine ⟨Nat.lt_trans hlt hbracket, ?_⟩
  rw [readJsonValue.eq_def, hmark]
  simp only [heq, Option.map_some, Taken.map, Taken.within]

theorem takes_readJsonValue_object {members : Members}
    (h : Takes (readItems (readMember (readJsonValue depth)) '\x7d') members cs rest) :
    Takes (readJsonValue (depth + 1)) (.object (JsonValue.collectMembers members)) ('\x7b' :: cs)
      rest := by
  obtain ⟨hlt, heq⟩ := h
  obtain ⟨hbrace, hmark⟩ := takes_takeMark '\x7b' cs
  refine ⟨Nat.lt_trans hlt hbrace, ?_⟩
  rw [readJsonValue.eq_def, hmark, takeMark_of_ne (by decide)]
  simp only [heq, Option.map_some, Taken.map, Taken.within, Function.comp_apply]

/-- A scalar that begins with a character that is neither white space nor a bracket, and that is
read, is read as a value. -/
theorem takesText_of_scalar {text : List Char} (hblank : isJsonBlank c = false)
    (hbrackets : c ≠ '[' ∧ c ≠ ']' ∧ c ≠ '\x7b' ∧ c ≠ '\x7d')
    (h : ∀ rest, Stops rest → Takes readScalar v (c :: (text ++ rest)) rest) :
    TakesText (readJsonValue depth) (c :: text) v where
  begins := ⟨c, text, rfl, hblank, hbrackets.2.1, hbrackets.2.2.2⟩
  takes rest hrest := takes_readJsonValue_scalar hbrackets.1 hbrackets.2.2.1 (h rest hrest)

end Values

end TablePipeline
