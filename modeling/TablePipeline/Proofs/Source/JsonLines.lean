import TablePipeline.Proofs.Json.Spelled
import TablePipeline.Proofs.Source.JsonTables
import TablePipeline.Proofs.Source.UnionTable

/-!
# Objects in an array and objects on lines

The same objects load as the same table whether they are the items of an array or stand on lines of
their own, with blank lines anywhere.  The two readers find the ends of the objects in different
ways, one by reading them and the other by the line feeds, so each has to be shown to find the
objects that were put there.

In the array the reader finds commas and brackets, and there are commas and brackets within the
objects too.  But an object that was put there and the item that is read there are texts of values
at the same place, and a text can be read in one way only, so that the one ends where the other does
(`SpellsText.of_front`).  On the lines the reader finds the bytes of line feeds, and no other
character has this byte (`splitLines_utf8Bytes_intercalate`); what it drops at the ends of a line is
more than what may stand around a value, but it does not reach into an object, which begins and ends
with a brace (`spellsJson_trimBlanks`).  In the array the objects are one level deeper than on the
lines, which is why the lines can be read when the array can and not the other way round.

## Main definitions

* `IsObjectText` — a text of an object
* `Interspersed` — lines with blank lines anywhere

## Main statements

* `spells_items_of_intercalate` — the items of an array
* `splitLines_utf8Bytes_intercalate` — the lines of a text
* `loadBytes_jsonLines_of_json` — the tables
-/

namespace TablePipeline

/-- A text of one JSON object, however deep it is. -/
def IsObjectText (cs : List Char) : Prop :=
  ∃ depth record, SpellsText depth (.object record) cs

/-- Lines that are the given ones in their order, with blank lines anywhere. -/
inductive Interspersed : List String → List String → Prop
  | nil : Interspersed [] []
  | blank {objects lines : List String} {line : String}
      (hblank : ∀ c ∈ line.toList, isBlank c = true ∧ c ≠ '\n')
      (more : Interspersed objects lines) : Interspersed objects (line :: lines)
  | object {objects lines : List String} (object : String) (more : Interspersed objects lines) :
      Interspersed (object :: objects) (object :: lines)

/-! ### The items of an array -/

section Items

variable {items : List JsonValue} {texts : List (List Char)} {cs : List Char} {depth : Nat}

/-- A text of a value and a value that is read at the same place are the same, and what follows them
is the same but for white space. -/
theorem SpellsText.of_front {gap u o rest rest' : List Char} {v : JsonValue}
    (ho : ∃ d w, SpellsText d w o) (hrest' : Stops rest') (hgap : IsGap gap)
    (hv : SpellsJson depth v u) (hrest : Stops rest) (h : gap ++ (u ++ rest) = o ++ rest') :
    SpellsText depth v o ∧ dropJsonBlanks rest = dropJsonBlanks rest' := by
  obtain ⟨d, w, ho⟩ := ho
  cases ho with
  | intro hgap' hw hgapEnd' =>
    rw [List.append_assoc, List.append_assoc] at h
    obtain ⟨-, rfl, rfl⟩ := hv.unique hw hgap hgap' hrest (stops_append hgapEnd' hrest') h
    exact ⟨.intro hgap' hv hgapEnd', dropJsonBlanks_gap hgapEnd' rest'⟩

/-- Texts with commas between them are those of the items that are read there, one by one: where
there is another item there is another text. -/
theorem spells_list_of_intercalate {o : List Char} (h : SpellsList (SpellsJson depth) items cs)
    (hcs : cs = [','].intercalate (o :: texts))
    (htexts : ∀ o' ∈ o :: texts, ∃ d v, SpellsText d v o') :
    List.Forall₂ (SpellsText depth) items (o :: texts) := by
  induction h generalizing o texts with
  | last hgap hv hgapEnd =>
    obtain ⟨ho, -⟩ := List.forall_mem_cons.1 htexts
    cases texts with
    | nil =>
      rw [List.intercalate_singleton, ← List.append_nil o] at hcs
      have hfront := SpellsText.of_front ho (stops_gap isGap_nil) hgap hv (stops_gap hgapEnd) hcs
      exact .cons hfront.1 .nil
    | cons next texts =>
      rw [List.intercalate_cons_cons, List.append_assoc, List.singleton_append] at hcs
      have hfront := SpellsText.of_front ho (stops_comma _) hgap hv (stops_gap hgapEnd) hcs
      rw [dropJsonBlanks_eq_nil hgapEnd, dropJsonBlanks_cons rfl] at hfront
      cases hfront.2
  | @more _ _ _ _ _ cs hgap hv hgapEnd _ ih =>
    obtain ⟨ho, htexts⟩ := List.forall_mem_cons.1 htexts
    have hstops := stops_append hgapEnd (stops_comma cs)
    cases texts with
    | nil =>
      rw [List.intercalate_singleton, ← List.append_nil o] at hcs
      have hfront := SpellsText.of_front ho (stops_gap isGap_nil) hgap hv hstops hcs
      rw [dropJsonBlanks_gap hgapEnd, dropJsonBlanks_cons rfl] at hfront
      cases hfront.2
    | cons next texts =>
      rw [List.intercalate_cons_cons, List.append_assoc, List.singleton_append] at hcs
      have hfront := SpellsText.of_front ho (stops_comma _) hgap hv hstops hcs
      rw [dropJsonBlanks_gap hgapEnd, dropJsonBlanks_cons rfl, dropJsonBlanks_cons rfl] at hfront
      exact .cons hfront.1 (ih (List.cons.inj hfront.2).2 htexts)

/-- There is something else than white space in the text of a value. -/
theorem SpellsText.dropJsonBlanks_ne_nil {v : JsonValue} (h : SpellsText depth v cs)
    (rest : List Char) : dropJsonBlanks (cs ++ rest) ≠ [] := by
  cases h with
  | intro hgap value hgapEnd =>
    rw [List.append_assoc, List.append_assoc, value.takesText.begins.dropJsonBlanks hgap]
    obtain ⟨c, u, rfl, -⟩ := value.takesText.begins
    exact List.cons_ne_nil _ _

/-- **The items of an array** are those of which the texts were put there. -/
theorem spells_items_of_intercalate
    (h : SpellsItems (SpellsJson depth) items ([','].intercalate texts))
    (htexts : ∀ o ∈ texts, ∃ d v, SpellsText d v o) :
    List.Forall₂ (SpellsText depth) items texts := by
  cases texts with
  | nil =>
    generalize hcs : [','].intercalate [] = cs at h
    cases h with
    | none => exact .nil
    | some hlist =>
      obtain ⟨v, gap, u, more, htext, hgap, hv⟩ := hlist.exists_first
      have hdrop := hv.takesText.begins.dropJsonBlanks hgap more
      rw [← htext, ← hcs] at hdrop
      obtain ⟨c, u, rfl, -⟩ := hv.takesText.begins
      cases hdrop
  | cons o texts =>
    generalize hcs : [','].intercalate (o :: texts) = cs at h
    cases h with
    | none hgap =>
      obtain ⟨d, v, ho⟩ := htexts o List.mem_cons_self
      obtain ⟨rest, hrest⟩ : ∃ rest, [','].intercalate (o :: texts) = o ++ rest := by
        by_cases hmore : texts = []
        · exact ⟨[], by rw [hmore, List.intercalate_singleton, List.append_nil]⟩
        · exact ⟨_, by rw [List.intercalate_cons_of_ne_nil hmore, List.append_assoc]⟩
      rw [← hcs, hrest] at hgap
      exact absurd (dropJsonBlanks_eq_nil hgap) (ho.dropJsonBlanks_ne_nil rest)
    | some hlist => exact spells_list_of_intercalate hlist hcs.symm htexts

/-- What is read as an array between brackets are the items that stand between the brackets. -/
theorem spells_items_of_read? (h : JsonValue.read? ('[' :: (cs ++ [']'])) = some (.array items)) :
    ∃ depth ≤ jsonDepth, SpellsItems (SpellsJson depth) items cs := by
  generalize htext : '[' :: (cs ++ [']']) = text at h
  cases JsonValue.read?_eq_some_iff.1 h with
  | @intro gap u gapEnd hgap value hgapEnd =>
    have hdrop := congrArg dropJsonBlanks htext
    rw [dropJsonBlanks_cons rfl, value.takesText.begins.dropJsonBlanks hgap] at hdrop
    obtain ⟨depth, ds, hdepth, rfl, hitems⟩ := value.array
    refine ⟨depth, hdepth ▸ Nat.le_succ depth, ?_⟩
    obtain rfl | ⟨gapEnd, c, rfl⟩ := List.eq_nil_or_concat' gapEnd
    · rw [List.append_nil] at hdrop
      rwa [List.append_cancel_right (List.cons.inj hdrop).2]
    · -- the text does not end with white space
      have hlast := congrArg List.getLast? hdrop
      rw [← List.cons_append, List.getLast?_concat, ← List.append_assoc,
        List.getLast?_concat] at hlast
      have hblank := hgapEnd c (by simp)
      rw [← Option.some.inj hlast] at hblank
      cases hblank

end Items

/-! ### The objects on lines -/

section Lines

variable {record : Members} {cs : List Char} {depth : Nat}

theorem isBlank_of_isJsonBlank {c : Char} (h : isJsonBlank c = true) : isBlank c = true := by
  simp only [isJsonBlank, Bool.or_eq_true, beq_iff_eq] at h
  rcases h with ((rfl | rfl) | rfl) | rfl <;> decide

/-- What is left of the text of an object on a line is the object. -/
theorem spellsJson_trimBlanks (h : SpellsText depth (.object record) cs) :
    SpellsJson depth (.object record) (trimBlanks cs) := by
  cases h with
  | intro hgap value hgapEnd =>
    obtain ⟨-, -, ds, -, -, rfl, -⟩ := value.object
    have hopen : isBlank '\x7b' = false := by decide
    have hclose : isBlank '\x7d' = false := by decide
    have hlast : ∀ c ∈ ('\x7b' :: (ds ++ ['\x7d'])).getLast?, isBlank c = false := by
      rw [← List.cons_append, List.getLast?_concat]
      simpa
    rwa [trimBlanks_append (fun c hc => isBlank_of_isJsonBlank (hgap c hc))
      (fun c hc => isBlank_of_isJsonBlank (hgapEnd c hc)) (by simp) (by simpa) hlast]

theorem readJsonLine_utf8Bytes {line : String} (number : Nat)
    (h : SpellsText jsonDepth (.object record) line.toList) :
    readJsonLine number (utf8Bytes line) = .ok (some record) := by
  have hvalue := spellsJson_trimBlanks h
  have hread := hvalue.spellsText.read?
  obtain ⟨-, -, ds, -, -, hds, -⟩ := hvalue.object
  rw [hds] at hread
  unfold readJsonLine
  simp only [fromUTF8?_utf8Bytes, hread, hds, List.isEmpty_cons, Bool.false_eq_true, if_false,
    Option.bind_some, JsonValue.toRecord?]

theorem readJsonLine_blank {line : String} (number : Nat)
    (h : ∀ c ∈ line.toList, isBlank c = true) :
    readJsonLine number (utf8Bytes line) = .ok none := by
  have htrim : trimBlanks line.toList = [] := by
    have hdrop : dropBlanks (line.toList ++ []) = [] := dropBlanks_append h (by simp)
    rw [List.append_nil] at hdrop
    rw [trimBlanks, hdrop]
    rfl
  unfold readJsonLine
  simp only [fromUTF8?_utf8Bytes, htrim, List.isEmpty_nil, if_true]

/-- **The objects on lines** are those that stand there. -/
theorem readJsonLinesFrom_interspersed {objects lines : List String} {records : List Members}
    (h : Interspersed objects lines)
    (hrecords : List.Forall₂ (fun record (o : String) =>
      SpellsText jsonDepth (.object record) o.toList) records objects) (number : Nat) :
    readJsonLinesFrom number (lines.map utf8Bytes) = .ok records := by
  induction h generalizing records number with
  | nil =>
    cases hrecords
    rfl
  | blank hblank _ ih =>
    rw [List.map_cons, readJsonLinesFrom, readJsonLine_blank number fun c hc => (hblank c hc).1,
      ih hrecords]
    rfl
  | object o _ ih =>
    cases hrecords with
    | cons ho hrest =>
      rw [List.map_cons, readJsonLinesFrom, readJsonLine_utf8Bytes number ho, ih hrest]
      rfl

end Lines

/-! ### Line feeds -/

section LineFeeds

theorem utf8Bytes_eq_flatMap (s : String) :
    utf8Bytes s = s.toList.flatMap String.utf8EncodeChar := by
  rw [utf8Bytes, String.toUTF8, ← String.utf8Encode_toList, List.utf8Encode, List.data_toByteArray]

/-- No character but the line feed has its byte. -/
theorem eq_lineFeed_of_mem {c : Char} (h : 0x0A ∈ String.utf8EncodeChar c) : c = '\n' := by
  have hbyte : ∀ n, (0x0A : UInt8) = UInt8.ofNat n → n % 256 = 10 := by
    intro n hn
    have hnat := congrArg UInt8.toNat hn
    rw [UInt8.toNat_ofNat'] at hnat
    exact hnat.symm
  simp only [String.utf8EncodeChar] at h
  split_ifs at h with hone htwo hthree
  · have hc := hbyte _ (List.mem_singleton.1 h)
    refine Char.toNat_inj.1 ?_
    show c.val.toNat = 10
    omega
  · simp only [List.mem_cons, List.not_mem_nil, or_false] at h
    rcases h with h | h <;> have := hbyte _ h <;> omega
  · simp only [List.mem_cons, List.not_mem_nil, or_false] at h
    rcases h with h | h | h <;> have := hbyte _ h <;> omega
  · simp only [List.mem_cons, List.not_mem_nil, or_false] at h
    rcases h with h | h | h | h <;> have := hbyte _ h <;> omega

theorem lineFeed_notMem_utf8Bytes {s : String} (h : '\n' ∉ s.toList) : 0x0A ∉ utf8Bytes s := by
  rw [utf8Bytes_eq_flatMap, List.mem_flatMap]
  rintro ⟨c, hc, hbyte⟩
  exact h (eq_lineFeed_of_mem hbyte ▸ hc)

theorem utf8Bytes_intercalate (lines : List String) :
    utf8Bytes ("\n".intercalate lines) = [0x0A].intercalate (lines.map utf8Bytes) := by
  simp only [funext utf8Bytes_eq_flatMap, String.toList_intercalate]
  induction lines with
  | nil => rfl
  | cons line lines ih =>
    cases lines with
    | nil => simp only [List.map_cons, List.map_nil, List.intercalate_singleton]
    | cons next lines =>
      simp only [List.map_cons, List.intercalate_cons_cons, List.flatMap_append] at ih ⊢
      rw [ih]
      rfl

theorem splitLines_eq_splitOn (bytes : List UInt8) : splitLines bytes = bytes.splitOn 0x0A := by
  induction bytes with
  | nil => rfl
  | cons b rest ih =>
    rw [splitLines, List.splitOn_cons_eq_if_modifyHead, ih]
    by_cases hb : b = 0x0A
    · rw [if_pos hb, if_pos (by simpa using hb)]
    · rw [if_neg hb, if_neg (by simpa using hb)]
      obtain ⟨line, lines, hlines⟩ := List.exists_cons_of_ne_nil (List.splitOn_ne_nil 0x0A rest)
      rw [hlines]
      rfl

/-- **The lines of a text** are those that were joined by line feeds. -/
theorem splitLines_utf8Bytes_intercalate {lines : List String} (hne : lines ≠ [])
    (h : ∀ line ∈ lines, '\n' ∉ line.toList) :
    splitLines (utf8Bytes ("\n".intercalate lines)) = lines.map utf8Bytes := by
  rw [splitLines_eq_splitOn, utf8Bytes_intercalate]
  refine List.splitOn_intercalate 0x0A (fun bytes hbytes => ?_) (by simpa using hne)
  obtain ⟨line, hline, rfl⟩ := List.mem_map.1 hbytes
  exact lineFeed_notMem_utf8Bytes (h line hline)

end LineFeeds

/-! ### Tables -/

section Tables

variable {objects lines : List String} {records : List Members} {t : Table}

/-- The objects of an array are those of which the texts were put there. -/
theorem spells_objects_of_jsonRecords? (hobjects : ∀ o ∈ objects, IsObjectText o.toList)
    (h : jsonRecords? (utf8Bytes ("[" ++ ",".intercalate objects ++ "]")) = some records) :
    List.Forall₂ (fun record (o : String) => SpellsText jsonDepth (.object record) o.toList)
      records objects := by
  rw [jsonRecords?, fromUTF8?_utf8Bytes, Option.bind_eq_bind, Option.bind_some] at h
  obtain ⟨v, hv, hrecords⟩ := Option.bind_eq_some_iff.1 h
  have htext : ("[" ++ ",".intercalate objects ++ "]").toList =
      '[' :: ([','].intercalate (objects.map String.toList) ++ [']']) := by
    rw [String.toList_append, String.toList_append, String.toList_intercalate]
    rfl
  rw [htext] at hv
  cases v with
  | array items =>
    obtain rfl := eq_map_of_mapM_toRecord? hrecords
    obtain ⟨depth, hdepth, hitems⟩ := spells_items_of_read? hv
    have htexts : ∀ o ∈ objects.map String.toList, ∃ d v, SpellsText d v o := by
      intro cs hcs
      obtain ⟨o, ho, rfl⟩ := List.mem_map.1 hcs
      obtain ⟨d, record, hrecord⟩ := hobjects o ho
      exact ⟨d, _, hrecord⟩
    have hall := spells_items_of_intercalate hitems htexts
    rw [List.forall₂_map_left_iff, List.forall₂_map_right_iff] at hall
    exact hall.imp fun record o ho => ho.mono hdepth
  | null | boolean | number | string | object => cases hrecords

/-- Only the line feeds at the ends of the lines are line feeds. -/
theorem Interspersed.lineFeed_notMem (h : Interspersed objects lines)
    (hobjects : ∀ o ∈ objects, '\n' ∉ o.toList) : ∀ line ∈ lines, '\n' ∉ line.toList := by
  induction h with
  | nil => exact List.forall_mem_nil _
  | blank hblank _ ih =>
    exact List.forall_mem_cons.2 ⟨fun hmem => (hblank _ hmem).2 rfl, ih hobjects⟩
  | object o _ ih =>
    rw [List.forall_mem_cons] at hobjects
    exact List.forall_mem_cons.2 ⟨hobjects.1, ih hobjects.2⟩

/-- **Objects on lines load as in an array.**  When objects without line feeds load as the items of
an array, they load as the same table when each stands on a line of its own, with blank lines
anywhere. -/
theorem loadBytes_jsonLines_of_json (hobjects : ∀ o ∈ objects, IsObjectText o.toList)
    (hfeeds : ∀ o ∈ objects, '\n' ∉ o.toList) (hlines : Interspersed objects lines)
    (h : loadBytes .json (utf8Bytes ("[" ++ ",".intercalate objects ++ "]")) = .ok t) :
    loadBytes .jsonLines (utf8Bytes ("\n".intercalate lines)) = .ok t := by
  obtain ⟨records, hrecords, ht⟩ := readJson_eq_ok_iff.1 h
  have hspells := spells_objects_of_jsonRecords? hobjects hrecords
  refine readJsonLines_eq_ok_iff.2 ⟨records, ?_, ht⟩
  by_cases hne : lines = []
  · subst hne
    cases hlines
    cases hspells
    rfl
  · rw [splitLines_utf8Bytes_intercalate hne (hlines.lineFeed_notMem hfeeds)]
    exact readJsonLinesFrom_interspersed hlines hspells 1

/-- There are a bracket and a comma within a string, and lines with and without white space on
them. -/
theorem loadBytes_jsonLines_of_json_separators :
    let objects := ["\x7b\"a\":[1,\"\x7d,\"]\x7d", "\x7b\x7d"]
    let lines := ["", "\x7b\"a\":[1,\"\x7d,\"]\x7d", " \t\r", "\x7b\x7d", ""]
    let t : Table := ⟨["a"], [[.string "[1,\"\x7d,\"]"], [.null]]⟩
    loadBytes .json (utf8Bytes ("[" ++ ",".intercalate objects ++ "]")) = .ok t ∧
      loadBytes .jsonLines (utf8Bytes ("\n".intercalate lines)) = .ok t := by
  intro objects lines t
  let first : Members := [("a", .array [.number ['1'], .string "\x7d,"])]
  have hfirst : ∀ depth, (JsonValue.object first).Recoverable (depth + 3) := by
    refine fun depth => ⟨by decide, List.forall_mem_singleton.2 ?_⟩
    exact List.forall_mem_cons.2 ⟨⟨1, rfl⟩, List.forall_mem_singleton.2 trivial⟩
  have hsecond : ∀ depth, (JsonValue.object []).Recoverable (depth + 1) :=
    fun depth => ⟨by decide, List.forall_mem_nil _⟩
  have hobjects : ∀ o ∈ objects, IsObjectText o.toList := by
    refine List.forall_mem_cons.2 ⟨⟨3, first, ?_⟩, List.forall_mem_singleton.2 ⟨1, [], ?_⟩⟩
    · exact (JsonValue.spells_compact (hfirst 0)).spellsText
    · exact (JsonValue.spells_compact (hsecond 0)).spellsText
  have hfeeds : ∀ o ∈ objects, '\n' ∉ o.toList := by decide
  have hempty : ∀ c ∈ "".toList, isBlank c = true ∧ c ≠ '\n' := by simp
  have hblank : ∀ c ∈ " \t\r".toList, isBlank c = true ∧ c ≠ '\n' := by
    simp [isBlank, CodeRanges.contains, CodeRanges.containsCode, blankRanges]
  have hlines : Interspersed objects lines :=
    .blank hempty (.object _ (.blank hblank (.object _ (.blank hempty .nil))))
  have hjson : loadBytes .json (utf8Bytes ("[" ++ ",".intercalate objects ++ "]")) = .ok t := by
    have hall : (JsonValue.array [.object first, .object []]).Recoverable jsonDepth :=
      List.forall_mem_cons.2 ⟨hfirst 123, List.forall_mem_singleton.2 (hsecond 125)⟩
    have htext : "[" ++ ",".intercalate objects ++ "]" =
        (JsonValue.array [.object first, .object []]).compact := rfl
    refine readJson_eq_ok_iff.2 ⟨[first, []], ?_, rfl⟩
    rw [htext, jsonRecords?, fromUTF8?_utf8Bytes, Option.bind_eq_bind, Option.bind_some,
      JsonValue.read?_compact hall]
    rfl
  exact ⟨hjson, loadBytes_jsonLines_of_json hobjects hfeeds hlines hjson⟩

end Tables

end TablePipeline
