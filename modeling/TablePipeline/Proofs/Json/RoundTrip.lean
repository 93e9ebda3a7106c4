import Mathlib.Data.List.Nodup
import TablePipeline.Json.Printer
import TablePipeline.Proofs.Json.Grammar
import TablePipeline.Proofs.Number.Digits

/-!
# Written JSON is read back

Every JSON value whose numbers are integers, whose objects repeat no name and which is not nested
too deep is read back from its text, on one line or over several.  What is written is a text that
the grammar has for the value (`SpellsJson`), and such texts are read.  The two layouts differ in
their white space only, so an array or an object is spelled in either by one lemma, given that its
parts are (`spells_array`, `spells_object`); the induction is on the depth.

## Main definitions

* `listLayout` — the items of a list with commas and white space
* `JsonValue.Recoverable` — the values that are read back, by their depth

## Main statements

* `JsonValue.spells_compact`, `JsonValue.spells_pretty` — the two layouts
* `JsonValue.read?_compact`, `JsonValue.read?_pretty` — whole texts
-/

namespace TablePipeline

/-! ### Strings -/

section Strings

variable {s u : List Char}

/-- The four digits of the code of a control character. -/
theorem spellsCode_fourHexDigits {n : Nat} (h : n < 32) : SpellsCode n (fourHexDigits n) := by
  have hdigits : ∀ n < 32,
      fourHexDigits n = ['0', '0', (n / 16).digitChar, (n % 16).digitChar] ∧
        hexValue? (n / 16).digitChar = some (n / 16) ∧
        hexValue? (n % 16).digitChar = some (n % 16) := by
    decide
  obtain ⟨htext, hthird, hfourth⟩ := hdigits n h
  have hzero : hexValue? '0' = some 0 := by decide
  have hcode := SpellsCode.intro hzero hzero hthird hfourth
  have hvalue : 4096 * 0 + 256 * 0 + 16 * (n / 16) + n % 16 = n := by omega
  rwa [hvalue, ← htext] at hcode

theorem spellsEscape_code {c : Char} (h : c.toNat < 32) :
    SpellsEscape c ('u' :: fourHexDigits c.toNat) := by
  have htrailing : isTrailingSurrogate c.toNat = false := by
    rw [isTrailingSurrogate, Bool.and_eq_false_iff]
    exact .inl (decide_eq_false (by omega))
  have hleading : isLeadingSurrogate c.toNat = false := by
    rw [isLeadingSurrogate, Bool.and_eq_false_iff]
    exact .inl (decide_eq_false (by omega))
  have hescape := SpellsEscape.code (spellsCode_fourHexDigits h) htrailing hleading
  rwa [Char.ofNat_toNat] at hescape

/-- A character is spelled the way it is written in a string. -/
theorem spellsString_cons (c : Char) (hs : SpellsString s u) :
    SpellsString (c :: s) (jsonEscape c ++ u) := by
  have hshort : ∀ letter, shortEscape? letter = some c →
      SpellsString (c :: s) ('\\' :: letter :: u) :=
    fun _ hletter => .escape (.short hletter) hs
  unfold jsonEscape
  split
  case h_8 hquote hslash hb hf hn hr ht =>
    split_ifs with hcode
    · exact .escape (spellsEscape_code hcode) hs
    · exact .plain hquote hslash hcode hs
  all_goals exact hshort _ rfl

theorem spellsString_flatMap (s : List Char) : SpellsString s (s.flatMap jsonEscape) := by
  induction s with
  | nil => exact .nil
  | cons c s ih =>
    rw [List.flatMap_cons]
    exact spellsString_cons c ih

end Strings

/-! ### Numbers -/

/-- The whole part of a number does not begin with a zero, or is zero. -/
theorem isWhole_naturalText (n : Nat) : IsWhole (naturalText n) := by
  refine ⟨⟨naturalText_ne_nil n, fun c => isDigit_of_mem_naturalText⟩, fun hzero => ?_⟩
  rcases Nat.eq_zero_or_pos n with rfl | hpos
  · rfl
  · exact absurd hzero (head?_naturalText_ne hpos)

/-- An integer is spelled by its text. -/
theorem spellsNumber_integerText (z : Int) : SpellsNumber (integerText z) (integerText z) := by
  have hmagnitude := SpellsMagnitude.intro (isWhole_naturalText z.natAbs) .none .none
  simp only [List.append_nil] at hmagnitude
  rw [integerText]
  split_ifs
  · exact .negative hmagnitude
  · exact .plain hmagnitude

/-! ### Lists -/

/-- The items of a list, with white space before each, commas between them and white space behind
them.  No item, no white space. -/
def listLayout (gap gapEnd : List Char) (items : List (List Char)) : List Char :=
  if items.isEmpty then [] else gap ++ (',' :: gap).intercalate items ++ gapEnd

section Lists

variable {α : Type} {spells : α → List Char → Prop} {text : α → List Char} {items : List α}
  {gap gapEnd : List Char}

theorem spellsList_intercalate (hgap : IsGap gap) (hgapEnd : IsGap gapEnd) (hne : items ≠ [])
    (h : ∀ a ∈ items, spells a (text a)) :
    SpellsList spells items (gap ++ ((',' :: gap).intercalate (items.map text) ++ gapEnd)) := by
  induction items with
  | nil => exact absurd rfl hne
  | cons a items ih =>
    rw [List.forall_mem_cons] at h
    by_cases hmore : items = []
    · subst hmore
      rw [List.map_singleton, List.intercalate_singleton]
      exact .last hgap h.1 hgapEnd
    · rw [List.map_cons, List.intercalate_cons_of_ne_nil (by simpa using hmore), List.append_assoc,
        List.append_assoc, List.cons_append]
      exact .more hgap h.1 isGap_nil (ih hmore h.2)

/-- **A list is spelled in any layout** when its items are. -/
theorem spellsItems_listLayout (hgap : IsGap gap) (hgapEnd : IsGap gapEnd)
    (h : ∀ a ∈ items, spells a (text a)) :
    SpellsItems spells items (listLayout gap gapEnd (items.map text)) := by
  cases items with
  | nil => exact .none isGap_nil
  | cons a items =>
    rw [listLayout, if_neg (by simp), List.append_assoc]
    exact .some (spellsList_intercalate hgap hgapEnd (List.cons_ne_nil a items) h)

end Lists

namespace JsonValue

/-- A value that is read back from its text: its numbers are integers, its objects repeat no name,
and arrays and objects are nested at most so many times. -/
def Recoverable : Nat → JsonValue → Prop
  | _, .null => True
  | _, .boolean _ => True
  | _, .number text => ∃ z, text = integerText z
  | _, .string _ => True
  | 0, .array _ => False
  | 0, .object _ => False
  | depth + 1, .array items => ∀ v ∈ items, Recoverable depth v
  | depth + 1, .object members =>
    (members.map Prod.fst).Nodup ∧ ∀ m ∈ members, Recoverable depth m.2

/-- A value that is no array and no object. -/
def IsScalar : JsonValue → Prop
  | .array _ => False
  | .object _ => False
  | _ => True

section Parts

variable {v : JsonValue} {items : List JsonValue} {members : Members}
  {gap gapEnd colonGap u : List Char} {depth : Nat}

/-- A string stands between quotes. -/
theorem spellsScalar_string (s : String) : SpellsScalar (.string s) (jsonQuoted s) := by
  have hbody := SpellsScalar.string (spellsString_flatMap s.toList)
  rwa [String.ofList_toList] at hbody

theorem SpellsScalar.spellsJson (h : SpellsScalar v u) : SpellsJson depth v u := by
  cases depth with
  | zero => exact h
  | succ depth => exact .inl h

/-- Scalars are spelled by what is written for them. -/
theorem spells_scalar (hv : v.IsScalar) (h : v.Recoverable depth) :
    SpellsJson depth v v.compactChars := by
  refine SpellsScalar.spellsJson ?_
  cases v with
  | null => exact .nullWord
  | boolean b =>
    cases b with
    | true => exact .trueWord
    | false => exact .falseWord
  | number text =>
    obtain ⟨z, rfl⟩ : ∃ z, text = integerText z := by
      cases depth <;> exact h
    exact .number (spellsNumber_integerText z)
  | string s => exact spellsScalar_string s
  | array items => exact hv.elim
  | object members => exact hv.elim

theorem spells_array {text : JsonValue → List Char} (hgap : IsGap gap) (hgapEnd : IsGap gapEnd)
    (h : ∀ v ∈ items, SpellsJson depth v (text v)) :
    SpellsJson (depth + 1) (.array items)
      ('[' :: (listLayout gap gapEnd (items.map text) ++ [']'])) :=
  .inr (.inl ⟨items, _, rfl, rfl, spellsItems_listLayout hgap hgapEnd h⟩)

/-- A member has white space behind its colon. -/
theorem spells_member (name : String) (hgap : IsGap colonGap) (h : SpellsJson depth v u) :
    SpellsMember (SpellsJson depth) (name, v) (jsonQuoted name ++ ':' :: (colonGap ++ u)) := by
  have hmember := SpellsMember.intro (spellsString_flatMap name.toList) isGap_nil hgap h
  have htext : jsonQuoted name ++ ':' :: (colonGap ++ u) =
      '"' :: (name.toList.flatMap jsonEscape ++ '"' :: ([] ++ ':' :: (colonGap ++ u))) := by
    simp only [jsonQuoted, List.cons_append, List.append_assoc, List.nil_append]
  rw [String.ofList_toList] at hmember
  rwa [htext]

/-- A new name goes behind all others. -/
theorem putMember_of_notMem {name : String} (h : name ∉ members.map Prod.fst) :
    putMember name v members = members ++ [(name, v)] := by
  induction members with
  | nil => rfl
  | cons m rest ih =>
    rw [List.map_cons, List.mem_cons, not_or] at h
    rw [putMember, if_neg (Ne.symm h.1), ih h.2, List.cons_append]

theorem foldl_putMember {before : Members} (h : ((before ++ members).map Prod.fst).Nodup) :
    members.foldl (fun ms m => putMember m.1 m.2 ms) before = before ++ members := by
  induction members generalizing before with
  | nil => rw [List.foldl_nil, List.append_nil]
  | cons m members ih =>
    have hm : m.1 ∉ before.map Prod.fst := by
      rw [List.map_append, List.map_cons, List.nodup_middle, List.nodup_cons, List.mem_append,
        not_or] at h
      exact h.1.1
    rw [← List.singleton_append, ← List.append_assoc] at h
    rw [List.foldl_cons, putMember_of_notMem hm, ih h, List.append_assoc, List.singleton_append]

/-- Members with distinct names are those of the object. -/
theorem collectMembers_eq_self (h : (members.map Prod.fst).Nodup) :
    collectMembers members = members :=
  foldl_putMember h

theorem spells_object {text : String × JsonValue → List Char} (hgap : IsGap gap)
    (hgapEnd : IsGap gapEnd) (hnames : (members.map Prod.fst).Nodup)
    (h : ∀ m ∈ members, SpellsMember (SpellsJson depth) m (text m)) :
    SpellsJson (depth + 1) (.object members)
      ('\x7b' :: (listLayout gap gapEnd (members.map text) ++ ['\x7d'])) := by
  refine .inr (.inr ⟨members, _, ?_, rfl, spellsItems_listLayout hgap hgapEnd h⟩)
  rw [collectMembers_eq_self hnames]

end Parts

/-! ### The two layouts -/

section Layouts

variable {v : JsonValue} {depth : Nat}

theorem compactChars_array (items : List JsonValue) :
    (JsonValue.array items).compactChars =
      '[' :: (listLayout [] [] (items.map compactChars) ++ [']']) := by
  cases items with
  | nil => rfl
  | cons v items =>
    rw [compactChars, compactItems_eq_map, listLayout, if_neg (by simp), List.nil_append,
      List.append_nil, List.cons_append]

theorem compactChars_object (members : Members) :
    (JsonValue.object members).compactChars =
      '\x7b' :: (listLayout [] [] (members.map fun m =>
        jsonQuoted m.1 ++ ':' :: ([] ++ m.2.compactChars)) ++ ['\x7d']) := by
  cases members with
  | nil => rfl
  | cons m members =>
    rw [compactChars, compactMembers_eq_map, listLayout, if_neg (by simp), List.nil_append,
      List.append_nil, List.cons_append]
    rfl

theorem bracketed_eq (opening closing : Char) (level : Nat) (lines : List (List Char)) :
    bracketed opening closing level lines =
      opening :: (listLayout ('\n' :: List.replicate (2 * (level + 1)) ' ')
        ('\n' :: List.replicate (2 * level) ' ') lines ++ [closing]) := by
  rw [bracketed, listLayout]
  cases lines with
  | nil => rfl
  | cons line lines =>
    simp only [List.isEmpty_cons, Bool.false_eq_true, if_false, List.cons_append,
      List.append_assoc]

/-- A scalar has the same text in both layouts. -/
theorem spells_pretty_scalar (level : Nat) (hv : v.IsScalar) (h : v.Recoverable depth) :
    SpellsJson depth v (v.prettyChars level) := by
  have htext : v.prettyChars level = v.compactChars := by
    cases v with
    | array | object => exact hv.elim
    | null | boolean | number | string => rw [prettyChars, compactChars]
  rw [htext]
  exact spells_scalar hv h

/-- The indentation of a line is white space. -/
theorem isGap_indent (n : Nat) : IsGap ('\n' :: List.replicate n ' ') := by
  intro c h
  rcases List.mem_cons.1 h with rfl | h
  · rfl
  · rw [(List.mem_replicate.1 h).2]
    rfl

/-- **A value is spelled by its text on one line.** -/
theorem spells_compact (h : v.Recoverable depth) : SpellsJson depth v v.compactChars := by
  induction depth generalizing v with
  | zero =>
    cases v with
    | array | object => exact h.elim
    | null | boolean | number | string => exact spells_scalar trivial h
  | succ depth ih =>
    cases v with
    | array items =>
      rw [compactChars_array]
      exact spells_array isGap_nil isGap_nil fun v hv => ih (h v hv)
    | object members =>
      rw [compactChars_object]
      exact spells_object isGap_nil isGap_nil h.1 fun m hm =>
        spells_member m.1 isGap_nil (ih (h.2 m hm))
    | null | boolean | number | string => exact spells_scalar trivial h

/-- **A value is spelled by its text over several lines.** -/
theorem spells_pretty (level : Nat) (h : v.Recoverable depth) :
    SpellsJson depth v (v.prettyChars level) := by
  induction depth generalizing v level with
  | zero =>
    cases v with
    | array | object => exact h.elim
    | null | boolean | number | string => exact spells_pretty_scalar level trivial h
  | succ depth ih =>
    cases v with
    | array items =>
      rw [prettyChars, prettyItems_eq_map, bracketed_eq]
      exact spells_array (isGap_indent _) (isGap_indent _) fun v hv => ih (level + 1) (h v hv)
    | object members =>
      have hblank : IsGap [' '] := by simp [IsGap, isJsonBlank]
      rw [prettyChars, prettyMembers_eq_map, bracketed_eq]
      exact spells_object (isGap_indent _) (isGap_indent _) h.1 fun m hm =>
        spells_member m.1 hblank (ih (level + 1) (h.2 m hm))
    | null | boolean | number | string => exact spells_pretty_scalar level trivial h

theorem read?_compact (h : v.Recoverable jsonDepth) :
    JsonValue.read? v.compact.toList = some v := by
  rw [compact, String.toList_ofList]
  exact (spells_compact h).spellsText.read?

theorem read?_pretty (h : v.Recoverable jsonDepth) :
    JsonValue.read? v.pretty.toList = some v := by
  rw [pretty, String.toList_ofList]
  exact (spells_pretty 0 h).spellsText.read?

end Layouts

end JsonValue

end TablePipeline
