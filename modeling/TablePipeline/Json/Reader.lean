import TablePipeline.Json.Basic

/-!
# Reading JSON

The strict grammar: white space is the space, tab, line feed and carriage return; control
characters in strings are escaped; an escaped surrogate comes with its partner; nothing follows the
value.  Arrays and objects are nested to a limited depth.

Each rule takes the text from its front and gives back what it read together with the rest.  The
rest is shorter than the text, which the types of the rules that call each other say.

## Main definitions

* `Taken` — what a rule read, and a rest that is shorter
* `readJsonString`, `readJsonNumber` — strings and numbers
* `readJsonValue` — a value nested to at most a given depth
* `JsonValue.read?` — the value of a whole text
-/

namespace TablePipeline

/-- What a rule read from a text, and the rest, which is shorter. -/
structure Taken (α : Type) (cs : List Char) where
  value : α
  rest : List Char
  shorter : rest.length < cs.length

namespace Taken

variable {α β : Type} {cs ds : List Char}

/-- Changes what was read. -/
def map (f : α → β) (t : Taken α cs) : Taken β cs :=
  ⟨f t.value, t.rest, t.shorter⟩

/-- The same reading, seen from a text that is no shorter. -/
def within (t : Taken α ds) (h : ds.length ≤ cs.length) : Taken α cs :=
  ⟨t.value, t.rest, Nat.lt_of_lt_of_le t.shorter h⟩

end Taken

/-! ## White space and words -/

/-- Whether the character is white space between the parts of a JSON text. -/
def isJsonBlank (c : Char) : Bool :=
  c == ' ' || c == '\t' || c == '\n' || c == '\r'

/-- The text behind the white space at its front. -/
def dropJsonBlanks (cs : List Char) : List Char :=
  cs.dropWhile isJsonBlank

theorem length_dropJsonBlanks_le (cs : List Char) :
    (dropJsonBlanks cs).length ≤ cs.length :=
  (List.dropWhile_sublist _).length_le

/-- Takes a given character. -/
def takeMark (mark : Char) (cs : List Char) : Option (Taken Unit cs) :=
  match cs with
  | [] => none
  | c :: rest => if c = mark then some ⟨(), rest, Nat.lt_succ_self _⟩ else none

/-- Takes a given word, which is not empty. -/
def takeWord {α : Type} (word : List Char) (v : α) (cs : List Char) : Option (Taken α cs) :=
  if h : word.isPrefixOf cs = true ∧ word ≠ [] then
    some ⟨v, cs.drop word.length, by
      have hp : word.length ≤ cs.length := (List.isPrefixOf_iff_prefix.1 h.1).length_le
      have hw : 0 < word.length := List.length_pos_iff.2 h.2
      rw [List.length_drop]
      omega⟩
  else none

/-! ## Strings -/

/-- The value of a hexadecimal digit of either letter case. -/
def hexValue? (c : Char) : Option Nat :=
  if c.isDigit then some (c.toNat - '0'.toNat)
  else if 'a' ≤ c ∧ c ≤ 'f' then some (c.toNat - 'a'.toNat + 10)
  else if 'A' ≤ c ∧ c ≤ 'F' then some (c.toNat - 'A'.toNat + 10)
  else none

/-- Takes four hexadecimal digits. -/
def takeFourHex (cs : List Char) : Option (Taken Nat cs) :=
  match cs with
  | a :: b :: c :: d :: rest => do
    let a ← hexValue? a
    let b ← hexValue? b
    let c ← hexValue? c
    let d ← hexValue? d
    pure ⟨4096 * a + 256 * b + 16 * c + d, rest, by simp only [List.length_cons]; omega⟩
  | _ => none

/-- Whether the code is the first half of a pair of surrogates. -/
def isLeadingSurrogate (n : Nat) : Bool :=
  0xD800 ≤ n && n < 0xDC00

/-- Whether the code is the second half of a pair of surrogates. -/
def isTrailingSurrogate (n : Nat) : Bool :=
  0xDC00 ≤ n && n < 0xE000

/-- The character that a pair of surrogates stands for. -/
def surrogatePair (leading trailing : Nat) : Char :=
  Char.ofNat (0x10000 + 0x400 * (leading - 0xD800) + (trailing - 0xDC00))

/-- Takes the code behind `\u`, with the escape that has to follow the first half of a pair. -/
def takeCodeEscape (cs : List Char) : Option (Taken Char cs) := do
  let n ← takeFourHex cs
  if isTrailingSurrogate n.value then none
  else if isLeadingSurrogate n.value then
    let slash ← takeMark '\\' n.rest
    let letter ← takeMark 'u' slash.rest
    let m ← takeFourHex letter.rest
    if isTrailingSurrogate m.value then
      pure ⟨surrogatePair n.value m.value, m.rest, by
        have := n.shorter; have := slash.shorter; have := letter.shorter; have := m.shorter
        omega⟩
    else none
  else pure ⟨Char.ofNat n.value, n.rest, n.shorter⟩

/-- The character that a letter behind a backslash stands for. -/
def shortEscape? (c : Char) : Option Char :=
  match c with
  | '"' => some '"'
  | '\\' => some '\\'
  | '/' => some '/'
  | 'b' => some '\x08'
  | 'f' => some '\x0c'
  | 'n' => some '\n'
  | 'r' => some '\r'
  | 't' => some '\t'
  | _ => none

/-- Takes what follows a backslash. -/
def takeEscape (cs : List Char) : Option (Taken Char cs) :=
  match cs with
  | [] => none
  | c :: rest =>
    if c = 'u' then (takeCodeEscape rest).map (·.within (Nat.le_succ _))
    else (shortEscape? c).map fun e => ⟨e, rest, Nat.lt_succ_self _⟩

/-- Reads a string behind its opening quote. -/
def readJsonString (cs : List Char) : Option (Taken (List Char) cs) :=
  match cs with
  | [] => none
  | c :: rest =>
    if c = '"' then some ⟨[], rest, Nat.lt_succ_self _⟩
    else if c = '\\' then
      match takeEscape rest with
      | none => none
      | some e =>
        have := e.shorter
        (readJsonString e.rest).map fun t =>
          (t.map (e.value :: ·)).within (by simp only [List.length_cons]; omega)
    else if c.toNat < 32 then none
    else (readJsonString rest).map fun t => (t.map (c :: ·)).within (Nat.le_succ _)
termination_by cs.length
decreasing_by all_goals (simp only [List.length_cons]; omega)

/-! ## Numbers -/

/-- Takes one or more digits. -/
def takeDigits (cs : List Char) : Option (Taken (List Char) cs) :=
  match cs with
  | [] => none
  | c :: rest =>
    if c.isDigit then
      some ⟨c :: rest.takeWhile Char.isDigit, rest.dropWhile Char.isDigit,
        Nat.lt_succ_of_le (List.dropWhile_sublist _).length_le⟩
    else none

/-- Takes the whole part of a number, which does not begin with a zero unless it is zero. -/
def takeWhole (cs : List Char) : Option (Taken (List Char) cs) := do
  let t ← takeDigits cs
  match t.value with
  | '0' :: _ :: _ => none
  | _ => pure t

/-- The fraction at the front of a text, with its point, and the rest; it may be missing, but a
point is followed by a digit. -/
def splitFraction (cs : List Char) : Option (List Char × List Char) :=
  match takeMark '.' cs with
  | none => some ([], cs)
  | some point => (takeDigits point.rest).map fun t => ('.' :: t.value, t.rest)

/-- The sign of an exponent, which is plus when none is written, and the rest. -/
def splitExponentSign : List Char → Char × List Char
  | '+' :: rest => ('+', rest)
  | '-' :: rest => ('-', rest)
  | cs => ('+', cs)

/-- The exponent at the front of a text and the rest; it may be missing, but the letter is followed
by digits.  It is kept with a small letter and a sign. -/
def splitExponent (cs : List Char) : Option (List Char × List Char) :=
  match cs with
  | [] => some ([], [])
  | c :: rest =>
    if c = 'e' ∨ c = 'E' then
      (takeDigits (splitExponentSign rest).2).map fun t =>
        ('e' :: (splitExponentSign rest).1 :: t.value, t.rest)
    else some ([], c :: rest)

theorem length_of_splitFraction {cs : List Char} {r : List Char × List Char}
    (h : splitFraction cs = some r) : r.2.length ≤ cs.length := by
  unfold splitFraction at h
  split at h
  · cases h; exact Nat.le_refl _
  · rename_i point _
    obtain ⟨t, -, rfl⟩ := Option.map_eq_some_iff.1 h
    have := t.shorter
    have := point.shorter
    simp only
    omega

theorem length_splitExponentSign_le (cs : List Char) :
    (splitExponentSign cs).2.length ≤ cs.length := by
  unfold splitExponentSign
  split <;> simp

theorem length_of_splitExponent {cs : List Char} {r : List Char × List Char}
    (h : splitExponent cs = some r) : r.2.length ≤ cs.length := by
  unfold splitExponent at h
  split at h
  · cases h; exact Nat.le_refl _
  · rename_i c rest
    split at h
    · obtain ⟨t, -, rfl⟩ := Option.map_eq_some_iff.1 h
      have := t.shorter
      have := length_splitExponentSign_le rest
      simp only [List.length_cons]
      omega
    · cases h; exact Nat.le_refl _

/-- Reads a number without a sign. -/
def readMagnitude (cs : List Char) : Option (Taken (List Char) cs) :=
  match takeWhole cs with
  | none => none
  | some whole =>
    match hf : splitFraction whole.rest with
    | none => none
    | some (fraction, rest) =>
      match he : splitExponent rest with
      | none => none
      | some (exponent, rest') =>
        some ⟨whole.value ++ fraction ++ exponent, rest', by
          have := whole.shorter
          have hf := length_of_splitFraction hf
          have he := length_of_splitExponent he
          simp only at hf he
          omega⟩

/-- Reads a number, as its text. -/
def readJsonNumber (cs : List Char) : Option (Taken (List Char) cs) :=
  match takeMark '-' cs with
  | none => readMagnitude cs
  | some sign =>
    (readMagnitude sign.rest).map fun t => (t.map ('-' :: ·)).within (Nat.le_of_lt sign.shorter)

/-! ## Values -/

/-- A rule that takes something from the front of any text. -/
abbrev JsonRule (α : Type) := (cs : List Char) → Option (Taken α cs)

/-- Reads one more item of a list and whatever items follow it, each behind a comma, up to the
closing bracket. -/
def readList {α : Type} (item : JsonRule α) (closing : Char) (cs : List Char) :
    Option (Taken (List α) cs) :=
  match item (dropJsonBlanks cs) with
  | none => none
  | some first =>
    have hfirst : first.rest.length < cs.length :=
      Nat.lt_of_lt_of_le first.shorter (length_dropJsonBlanks_le cs)
    have hrest : (dropJsonBlanks first.rest).length < cs.length :=
      Nat.lt_of_le_of_lt (length_dropJsonBlanks_le first.rest) hfirst
    match takeMark closing (dropJsonBlanks first.rest) with
    | some mark => some ⟨[first.value], mark.rest, Nat.lt_trans mark.shorter hrest⟩
    | none =>
      match takeMark ',' (dropJsonBlanks first.rest) with
      | none => none
      | some comma =>
        have hcomma : comma.rest.length < cs.length := Nat.lt_trans comma.shorter hrest
        (readList item closing comma.rest).map fun t =>
          (t.map (first.value :: ·)).within (Nat.le_of_lt hcomma)
termination_by cs.length

/-- Reads the items of a list behind its opening bracket. -/
def readItems {α : Type} (item : JsonRule α) (closing : Char) (cs : List Char) :
    Option (Taken (List α) cs) :=
  match takeMark closing (dropJsonBlanks cs) with
  | some mark => some ⟨[], mark.rest, Nat.lt_of_lt_of_le mark.shorter (length_dropJsonBlanks_le cs)⟩
  | none => readList item closing cs

/-- Reads a member of an object: a name, a colon and a value. -/
def readMember (value : JsonRule JsonValue) (cs : List Char) :
    Option (Taken (String × JsonValue) cs) := do
  let quote ← takeMark '"' cs
  let name ← readJsonString quote.rest
  let colon ← takeMark ':' (dropJsonBlanks name.rest)
  let v ← value (dropJsonBlanks colon.rest)
  pure ⟨(String.ofList name.value, v.value), v.rest, by
    have := quote.shorter
    have := name.shorter
    have := length_dropJsonBlanks_le name.rest
    have := colon.shorter
    have := length_dropJsonBlanks_le colon.rest
    have := v.shorter
    omega⟩

/-- Reads a value that is no array and no object. -/
def readScalar (cs : List Char) : Option (Taken JsonValue cs) :=
  match takeMark '"' cs with
  | some quote =>
    (readJsonString quote.rest).map fun t =>
      (t.map (JsonValue.string ∘ String.ofList)).within (Nat.le_of_lt quote.shorter)
  | none =>
    (takeWord ['n', 'u', 'l', 'l'] .null cs).or <|
      (takeWord ['t', 'r', 'u', 'e'] (.boolean true) cs).or <|
        (takeWord ['f', 'a', 'l', 's', 'e'] (.boolean false) cs).or <|
          (readJsonNumber cs).map (·.map .number)

/-- Reads a value without white space in front of it, where arrays and objects are nested at most
`depth` times. -/
def readJsonValue (depth : Nat) (cs : List Char) : Option (Taken JsonValue cs) :=
  match takeMark '[' cs, takeMark '\x7b' cs, depth with
  | some _, _, 0 => none
  | some bracket, _, depth + 1 =>
    (readItems (readJsonValue depth) ']' bracket.rest).map fun t =>
      (t.map .array).within (Nat.le_of_lt bracket.shorter)
  | none, some _, 0 => none
  | none, some brace, depth + 1 =>
    (readItems (readMember (readJsonValue depth)) '\x7d' brace.rest).map fun t =>
      (t.map (.object ∘ JsonValue.collectMembers)).within (Nat.le_of_lt brace.shorter)
  | none, none, _ => readScalar cs

/-- How deep arrays and objects may be nested. -/
def jsonDepth : Nat := 127

/-- The value of a whole text: white space may stand around it and nothing else. -/
def JsonValue.read? (cs : List Char) : Option JsonValue :=
  match readJsonValue jsonDepth (dropJsonBlanks cs) with
  | none => none
  | some t => if (dropJsonBlanks t.rest).isEmpty then some t.value else none

end TablePipeline
