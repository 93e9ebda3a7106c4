import TablePipeline.Pattern.Property
import TablePipeline.Pattern.Room
import TablePipeline.Number.Integer
import TablePipeline.Number.Powers

/-!
# Reading patterns

The written form of patterns: characters stand for themselves; `.`, `[…]` and escapes for sets;
`^`, `$`, `\b` and others for anchors; `|` separates alternatives, parentheses group, and `*`, `+`,
`?` and braces repeat.  Flags such as `(?i)` hold to the end of the group in which they stand.

There is neither looking ahead or behind nor a reference to a group.  A pattern that nests too
deeply, or that would be too large when all its repetitions are written out, is refused.

## Main definitions

* `PatternFlags` — the flags
* `readEscape?`, `readClass?`, `readCount?`, `readFlags?` — the parts of patterns
* `Pattern.read?` — the pattern that a text spells
-/

namespace TablePipeline

/-- The flags under which a part of a pattern is read. -/
structure PatternFlags where
  ignoreCase : Bool := false
  multiLine : Bool := false
  dotAll : Bool := false
  swapGreed : Bool := false
  unicode : Bool := true
  crlf : Bool := false
  verbose : Bool := false

/-- The flags with the flag of a letter switched on or off. -/
def PatternFlags.set? (f : PatternFlags) (letter : Char) (on : Bool) : Option PatternFlags :=
  match letter with
  | 'i' => some { f with ignoreCase := on }
  | 'm' => some { f with multiLine := on }
  | 's' => some { f with dotAll := on }
  | 'U' => some { f with swapGreed := on }
  | 'u' => some { f with unicode := on }
  | 'R' => some { f with crlf := on }
  | 'x' => some { f with verbose := on }
  | _ => none

namespace PatternReader

/-! ## White space and comments

In a verbose pattern white space is skipped, and so is the rest of a line behind `#`. -/

/-- Skips white space and comments. -/
def skipVerbose (inComment : Bool) : List Char → List Char
  | [] => []
  | c :: cs =>
    if inComment then skipVerbose (c != '\n') cs
    else if isBlank c then skipVerbose false cs
    else if c = '#' then skipVerbose true cs
    else c :: cs

/-- Skips what has no meaning under the flags. -/
def skip (f : PatternFlags) (cs : List Char) : List Char :=
  if f.verbose then skipVerbose false cs else cs

/-- Takes characters as long as they have a property, and skips what has no meaning behind each of
them; `fuel` bounds their number. -/
def takeSkipping (f : PatternFlags) (p : Char → Bool) : Nat → List Char → List Char × List Char
  | 0, cs => ([], cs)
  | _ + 1, [] => ([], [])
  | fuel + 1, c :: cs =>
    if p c then
      let (taken, rest) := takeSkipping f p fuel (skip f cs)
      (c :: taken, rest)
    else ([], c :: cs)

/-! ## Sets under flags -/

/-- Without the Unicode flag a set may not hold anything beyond ASCII. -/
def admitted? (f : PatternFlags) (s : CharSet) : Option CharSet :=
  if f.unicode then some s
  else if (List.range 128).any fun n => s.containsCode (n + 128) then none
  else some s

/-- The set with the variants of its members, if case is disregarded. -/
def foldIf (f : PatternFlags) (s : CharSet) : CharSet :=
  if f.ignoreCase then (if f.unicode then .folded s else .foldedAscii s) else s

/-- The class of a letter: digits, white space or the characters of words. -/
def letterClass (f : PatternFlags) (letter : Char) : CharSet :=
  match letter with
  | 'd' => if f.unicode then .digit else .asciiDigit
  | 's' => if f.unicode then .space else .asciiSpace
  | _ => if f.unicode then .word else .asciiWord

/-- The ASCII classes that stand between `[:` and `:]`. -/
def asciiClass? (name : String) : Option CharSet :=
  match name with
  | "alnum" => some (.ranges [(0x30, 0x39), (0x41, 0x5A), (0x61, 0x7A)])
  | "alpha" => some (.ranges [(0x41, 0x5A), (0x61, 0x7A)])
  | "ascii" => some (.ranges [(0x0, 0x7F)])
  | "blank" => some (.ranges [(0x9, 0x9), (0x20, 0x20)])
  | "cntrl" => some (.ranges [(0x0, 0x1F), (0x7F, 0x7F)])
  | "digit" => some .asciiDigit
  | "graph" => some (.ranges [(0x21, 0x7E)])
  | "lower" => some (.ranges [(0x61, 0x7A)])
  | "print" => some (.ranges [(0x20, 0x7E)])
  | "punct" => some (.ranges [(0x21, 0x2F), (0x3A, 0x40), (0x5B, 0x60), (0x7B, 0x7E)])
  | "space" => some .asciiSpace
  | "upper" => some (.ranges [(0x41, 0x5A)])
  | "word" => some .asciiWord
  | "xdigit" => some (.ranges [(0x30, 0x39), (0x41, 0x46), (0x61, 0x66)])
  | _ => none

/-! ## Escapes -/

/-- What an escape stands for. -/
inductive Escape
  | character (c : Char)
  | class (s : CharSet)
  | place (a : Anchor)

/-- The characters with a meaning of their own, which an escape makes plain. -/
def metaCharacters : List Char :=
  ['\\', '.', '+', '*', '?', '(', ')', '|', '[', ']', '\x7b', '\x7d', '^', '$', '#', '&', '-', '~']

/-- Whether an escape of the character stands for the character: it is ASCII, and neither a letter
nor a digit nor an angle bracket. -/
def isPlainEscape (c : Char) : Bool :=
  metaCharacters.contains c ||
    (c.toNat < 128 && !c.isAlphanum && c != '<' && c != '>')

/-- The value of a hexadecimal digit. -/
def hexValue? (c : Char) : Option Nat :=
  if c.isDigit then some (c.toNat - 0x30)
  else if 'a' ≤ c ∧ c ≤ 'f' then some (c.toNat - 0x57)
  else if 'A' ≤ c ∧ c ≤ 'F' then some (c.toNat - 0x37)
  else none

/-- The character of a code point. -/
def character? (n : Nat) : Option Char :=
  if h : n.isValidChar then some (Char.ofNatAux n h) else none

/-- Reads the given number of hexadecimal digits. -/
def readHexDigits? (f : PatternFlags) : Nat → Nat → List Char → Option (Nat × List Char)
  | 0, n, cs => some (n, cs)
  | _ + 1, _, [] => none
  | count + 1, n, c :: cs =>
    match hexValue? c with
    | none => none
    | some d => readHexDigits? f count (16 * n + d) (skip f cs)

/-- Reads hexadecimal digits up to a closing brace. -/
def readHexBraced? (f : PatternFlags) : Nat → Nat → List Char → Option (Nat × List Char)
  | 0, _, _ => none
  | _ + 1, _, [] => none
  | fuel + 1, n, c :: cs =>
    if c = '\x7d' then some (n, skip f cs)
    else
      match hexValue? c with
      | none => none
      | some d => readHexBraced? f fuel (16 * n + d) (skip f cs)

/-- Reads a code point behind `x`, `u` or `U`: between braces, or with two, four or eight
digits. -/
def readHex? (f : PatternFlags) (width : Nat) (cs : List Char) : Option (Escape × List Char) :=
  let read :=
    match skip f cs with
    | [] => none
    | '\x7b' :: rest =>
      match skip f rest with
      | [] => none
      | '\x7d' :: _ => none
      | rest => readHexBraced? f rest.length 0 rest
    | cs => readHexDigits? f width 0 cs
  read.bind fun (n, rest) => (character? n).map fun c => (.character c, rest)

/-- Splits a text at the first place where the separator stands. -/
def splitAt? (separator : List Char) (before : List Char) :
    List Char → Option (List Char × List Char)
  | [] => none
  | c :: cs =>
    if separator.isPrefixOf (c :: cs) then some (before.reverse, (c :: cs).drop separator.length)
    else splitAt? separator (c :: before) cs

/-- The set of a property that is written between braces: a name, or a name and a value. -/
def bracedProperty? (text : List Char) : Option CharSet :=
  match splitAt? ['!', '='] [] text with
  | some (name, value) => (setWithValue? name value).map .complement
  | none =>
    match splitAt? [':'] [] text with
    | some (name, value) => setWithValue? name value
    | none =>
      match splitAt? ['='] [] text with
      | some (name, value) => setWithValue? name value
      | none => setNamed? text

/-- Reads the property behind `p` or `P`: a letter, or a text between braces. -/
def readProperty? (f : PatternFlags) (negated : Bool) (cs : List Char) :
    Option (Escape × List Char) :=
  let result (s : Option CharSet) (rest : List Char) :=
    if f.unicode then s.map fun s => (Escape.class (.negateIf negated (foldIf f s)), rest) else none
  match skip f cs with
  | [] => none
  | '\x7b' :: rest =>
    match takeSkipping f (· != '\x7d') rest.length (skip f rest) with
    | (text, _ :: rest) => result (bracedProperty? text) rest
    | (_, []) => none
  | '\\' :: _ => none
  | c :: rest => result (setNamed? [c]) rest

/-- Whether the character may stand in the name of a word boundary. -/
def inBoundaryName (c : Char) : Bool :=
  c.isAlpha || c == '-'

/-- The place that a name between braces behind `\b` stands for. -/
def boundaryNamed? (name : String) : Option WordPlace :=
  match name with
  | "start" => some .start
  | "end" => some .finish
  | "start-half" => some .startHalf
  | "end-half" => some .finishHalf
  | _ => none

/-- Reads what stands behind `\b`: a name between braces, or nothing.  Braces that do not begin
with a letter belong to a repetition. -/
def readBoundary? (f : PatternFlags) (cs : List Char) : Option (Escape × List Char) :=
  let plain := some (.place (.wordPlace .edge f.unicode), cs)
  match cs with
  | '\x7b' :: rest =>
    match skip f rest with
    | [] => none
    | c :: inner =>
      if !inBoundaryName c then plain
      else
        match takeSkipping f inBoundaryName rest.length (c :: inner) with
        | (name, '\x7d' :: rest) =>
          (boundaryNamed? (String.ofList name)).map fun place =>
            (.place (.wordPlace place f.unicode), rest)
        | _ => none
  | _ => plain

/-- Reads what stands behind a backslash. -/
def readEscape? (f : PatternFlags) (cs : List Char) : Option (Escape × List Char) :=
  match cs with
  | [] => none
  | c :: rest =>
    if isPlainEscape c then some (.character c, rest)
    else
      match c with
      | 'x' => readHex? f 2 rest
      | 'u' => readHex? f 4 rest
      | 'U' => readHex? f 8 rest
      | 'p' => readProperty? f false rest
      | 'P' => readProperty? f true rest
      | 'd' | 's' | 'w' => some (.class (letterClass f c), rest)
      | 'D' | 'S' | 'W' =>
        (admitted? f (.complement (letterClass f c.toLower))).map fun s => (.class s, rest)
      | 'a' => some (.character '\x07', rest)
      | 'f' => some (.character '\x0c', rest)
      | 't' => some (.character '\t', rest)
      | 'n' => some (.character '\n', rest)
      | 'r' => some (.character '\r', rest)
      | 'v' => some (.character '\x0b', rest)
      | 'A' => some (.place .textStart, rest)
      | 'z' => some (.place .textEnd, rest)
      | 'b' => readBoundary? f rest
      | 'B' => some (.place (.wordPlace .noEdge f.unicode), rest)
      | '<' => some (.place (.wordPlace .start f.unicode), rest)
      | '>' => some (.place (.wordPlace .finish f.unicode), rest)
      | _ => none

/-! ## Classes between brackets -/

/-- How two sets are combined in a class. -/
inductive ClassOperator
  | intersection
  | difference
  | symmetricDifference

/-- A set under construction, the number of its items and how deep they nest. -/
structure ClassItems where
  set : CharSet := .empty
  count : Nat := 0
  height : Nat := 0

/-- One more item. -/
def ClassItems.add (items : ClassItems) (s : CharSet) (height : Nat) : ClassItems :=
  ⟨.union items.set s, items.count + 1, max items.height height⟩

/-- How deep the items nest together. -/
def ClassItems.depth (items : ClassItems) : Nat :=
  if items.count ≤ 1 then items.height else items.height + 1

/-- A class under construction: the items that are being read, and what they will be combined
with. -/
structure ClassState where
  items : ClassItems := {}
  pending : Option (ClassOperator × CharSet × Nat) := none

/-- The set read so far, and how deep it nests. -/
def ClassState.close (f : PatternFlags) (state : ClassState) : CharSet × Nat :=
  match state.pending with
  | none => (state.items.set, state.items.depth)
  | some (op, left, height) =>
    let a := foldIf f left
    let b := foldIf f state.items.set
    let s :=
      match op with
      | .intersection => CharSet.intersection a b
      | .difference => .difference a b
      | .symmetricDifference => .symmetricDifference a b
    (s, max height state.items.depth + 1)

/-- Goes on with an operator. -/
def ClassState.operator (f : PatternFlags) (state : ClassState) (op : ClassOperator) : ClassState :=
  let (s, height) := state.close f
  { pending := some (op, s, height) }

/-- Reads an ASCII class behind its opening bracket, if there is one. -/
def readAsciiClass? (f : PatternFlags) (cs : List Char) : Option (CharSet × List Char) :=
  match cs with
  | ':' :: rest =>
    let (negated, rest) : Bool × List Char :=
      match rest with
      | '^' :: rest => (true, rest)
      | _ => (false, rest)
    match rest.dropWhile (· != ':') with
    | ':' :: ']' :: after =>
      (asciiClass? (String.ofList (rest.takeWhile (· != ':')))).map fun s =>
        (.negateIf negated (foldIf f s), after)
    | _ => none
  | _ => none

/-- Reads one item of a class: a character or an escape. -/
def readClassItem? (f : PatternFlags) (cs : List Char) : Option (Escape × List Char) :=
  match cs with
  | [] => none
  | '\\' :: rest => readEscape? f rest
  | c :: rest => some (.character c, rest)

/-- Whether the text goes on with a range: a hyphen that neither ends the class nor begins a
difference. -/
def startsRange (f : PatternFlags) (cs : List Char) : Bool :=
  match cs with
  | '-' :: rest =>
    match skip f rest with
    | ']' :: _ => false
    | '-' :: _ => false
    | _ => true
  | _ => false

/-- Reads a range or a single item of a class. -/
def readClassRange? (f : PatternFlags) (cs : List Char) : Option (CharSet × List Char) := do
  let (first, rest) ← readClassItem? f cs
  let rest := skip f rest
  if rest.isEmpty then none
  else if startsRange f rest then
    let (last, rest) ← readClassItem? f (skip f (rest.drop 1))
    match first, last with
    | .character a, .character b =>
      if a ≤ b ∧ (f.unicode ∨ b.toNat < 128) then some (.ranges [(a.toNat, b.toNat)], rest)
      else none
    | _, _ => none
  else
    match first with
    | .character c => if f.unicode ∨ c.toNat < 128 then some (.single c, rest) else none
    | .class s => some (s, rest)
    | .place _ => none

/-- Skips the hyphens at the beginning of a class, which stand for themselves. -/
def readHyphens (f : PatternFlags) (items : ClassItems) : Nat → List Char → ClassItems × List Char
  | 0, cs => (items, cs)
  | fuel + 1, cs =>
    match cs with
    | '-' :: rest => readHyphens f (items.add (.single '-') 0) fuel (skip f rest)
    | cs => (items, cs)

/-- Reads the beginning of a class behind its opening bracket: a caret that negates it, and
hyphens or a closing bracket that stand for themselves. -/
def readClassOpen (f : PatternFlags) (cs : List Char) : Bool × ClassItems × List Char :=
  let cs := skip f cs
  let (negated, cs) : Bool × List Char :=
    match cs with
    | '^' :: rest => (true, skip f rest)
    | cs => (false, cs)
  let (items, cs) := readHyphens f {} cs.length cs
  match cs with
  | ']' :: rest =>
    if items.count = 0 then (negated, items.add (.single ']') 0, skip f rest)
    else (negated, items, cs)
  | cs => (negated, items, cs)

mutual

/-- Reads a class behind its opening bracket; gives its set, how deep it nests, and the rest. -/
def readClass? (f : PatternFlags) : Nat → List Char → Option (CharSet × Nat × List Char)
  | 0, _ => none
  | fuel + 1, cs =>
    let (negated, items, rest) := readClassOpen f cs
    (readClassItems? f fuel { items } rest).bind fun (s, height, rest) =>
      (admitted? f (.negateIf negated (foldIf f s))).map fun s => (s, height + 1, rest)

/-- Reads the items of a class up to its closing bracket. -/
def readClassItems? (f : PatternFlags) :
    Nat → ClassState → List Char → Option (CharSet × Nat × List Char)
  | 0, _, _ => none
  | fuel + 1, state, cs =>
    match skip f cs with
    | [] => none
    | '[' :: rest =>
      match readAsciiClass? f rest with
      | some (s, rest) => readClassItems? f fuel { state with items := state.items.add s 0 } rest
      | none =>
        (readClass? f fuel rest).bind fun (s, height, rest) =>
          readClassItems? f fuel { state with items := state.items.add s height } rest
    | ']' :: rest =>
      let (s, height) := state.close f
      some (s, height, rest)
    | '&' :: '&' :: rest => readClassItems? f fuel (state.operator f .intersection) rest
    | '-' :: '-' :: rest => readClassItems? f fuel (state.operator f .difference) rest
    | '~' :: '~' :: rest => readClassItems? f fuel (state.operator f .symmetricDifference) rest
    | cs =>
      (readClassRange? f cs).bind fun (s, rest) =>
        readClassItems? f fuel { state with items := state.items.add s 0 } rest

end

/-! ## Repetitions -/

/-- Reads a number of at most 32 bits, which white space may surround. -/
def readBound? (f : PatternFlags) (cs : List Char) : Option (Nat × List Char) :=
  let (digits, rest) := takeSkipping f Char.isDigit cs.length (dropBlanks cs)
  let rest := skip f (dropBlanks rest)
  (readNatural? digits).bind fun n => if n < twoTo 32 then some (n, rest) else none

/-- Skips the question mark that makes a repetition reluctant, which changes nothing in where a
pattern occurs. -/
def skipReluctant (cs : List Char) : List Char :=
  match cs with
  | '?' :: rest => rest
  | cs => cs

/-- Reads the bounds of a repetition behind the opening brace. -/
def readCount? (f : PatternFlags) (cs : List Char) : Option ((Nat × Option Nat) × List Char) := do
  let (least, rest) ← readBound? f (skip f cs)
  match skip f rest with
  | '\x7d' :: rest => some ((least, some least), skipReluctant (skip f rest))
  | ',' :: rest =>
    match skip f rest with
    | '\x7d' :: rest => some ((least, none), skipReluctant (skip f rest))
    | rest =>
      let (most, rest) ← readBound? f rest
      match skip f rest with
      | '\x7d' :: rest =>
        if least ≤ most then some ((least, some most), skipReluctant (skip f rest)) else none
      | _ => none
  | _ => none

/-! ## Groups -/

/-- Reads flags up to a colon or a closing parenthesis; says whether it was a colon. -/
def readFlags? (seen : List Char) (negated dangling : Bool) (f : PatternFlags) :
    List Char → Option (PatternFlags × Bool × List Char)
  | [] => none
  | ':' :: rest => if dangling then none else some (f, true, rest)
  | ')' :: rest => if dangling || seen.isEmpty then none else some (f, false, rest)
  | c :: rest =>
    if seen.contains c then none
    else if c = '-' then readFlags? (c :: seen) true true f rest
    else
      match f.set? c (!negated) with
      | none => none
      | some f => readFlags? (c :: seen) negated false f rest

/-- Whether the character may stand in the name of a group. -/
def inGroupName (isFirst : Bool) (c : Char) : Bool :=
  if isFirst then isAlphabetic c || c == '_'
  else isAlphanumeric c || c == '_' || c == '.' || c == '[' || c == ']'

/-- Reads the name of a group up to its closing angle bracket. -/
def readGroupName? (cs : List Char) : Option (List Char × List Char) :=
  let name := cs.takeWhile (· != '>')
  match name, cs.dropWhile (· != '>') with
  | first :: others, _ :: rest =>
    if inGroupName true first && others.all (inGroupName false) then some (name, rest) else none
  | _, _ => none

/-- What stands behind an opening parenthesis. -/
inductive GroupStart
  /-- Flags for the rest of the enclosing group. -/
  | flags (f : PatternFlags)
  /-- A group with its flags, and its name if it has one. -/
  | group (f : PatternFlags) (name : Option (List Char))

/-- Reads what stands behind an opening parenthesis. -/
def readGroupStart? (f : PatternFlags) (cs : List Char) : Option (GroupStart × List Char) :=
  match skip f cs with
  | '?' :: '=' :: _ | '?' :: '!' :: _ => none
  | '?' :: '<' :: '=' :: _ | '?' :: '<' :: '!' :: _ => none
  | '?' :: 'P' :: '<' :: rest | '?' :: '<' :: rest =>
    (readGroupName? rest).map fun (name, rest) => (.group f (some name), rest)
  | '?' :: rest =>
    (readFlags? [] false false f rest).map fun (g, isGroup, rest) =>
      (if isGroup then .group g none else .flags g, rest)
  | rest => some (.group f none, rest)

/-! ## Whole patterns -/

/-- A part of a pattern, how deep it nests, and whether it can be repeated. -/
structure Piece where
  pattern : Pattern
  height : Nat
  repeatable : Bool := true

/-- The alternatives of a group: those that are complete, and the pieces of the last one, both in
reverse order. -/
structure Level where
  branches : List Piece := []
  pieces : List Piece := []

/-- One more piece at the end. -/
def Level.push (level : Level) (p : Piece) : Level :=
  { level with pieces := p :: level.pieces }

/-- The greatest height of the pieces. -/
def greatestHeight (pieces : List Piece) : Nat :=
  pieces.foldl (fun n p => max n p.height) 0

/-- The pieces of the last alternative, one behind the other. -/
def Level.sequence (level : Level) : Piece :=
  match level.pieces with
  | [] => ⟨.empty, 0, true⟩
  | [p] => p
  | pieces =>
    ⟨pieces.foldl (fun q p => p.pattern.andThen q) .empty, greatestHeight pieces + 1, true⟩

/-- The alternatives as one piece. -/
def Level.close (level : Level) : Piece :=
  match level.branches with
  | [] => level.sequence
  | branches =>
    let all := level.sequence :: branches
    ⟨branches.foldl (fun q p => .either p.pattern q) level.sequence.pattern,
      greatestHeight all + 1, true⟩

/-- Begins the next alternative. -/
def Level.alternative (level : Level) : Level :=
  { branches := level.sequence :: level.branches }

/-- Repeats the last piece. -/
def Level.repeat? (level : Level) (least : Nat) (most : Option Nat) : Option Level :=
  match level.pieces with
  | [] => none
  | p :: pieces =>
    if p.repeatable then
      some { level with pieces := ⟨.repeated p.pattern least most, p.height + 1, true⟩ :: pieces }
    else none

/-- The piece of a set. -/
def setPiece (s : CharSet) (height : Nat) : Piece :=
  ⟨.oneOf s, height, true⟩

/-- The piece of a character. -/
def characterPiece? (f : PatternFlags) (c : Char) : Option Piece :=
  if f.unicode ∨ c.toNat < 128 then some (setPiece (foldIf f (.single c)) 0) else none

/-- The piece of a point: any character but the end of a line. -/
def pointPiece? (f : PatternFlags) : Option Piece :=
  if !f.unicode then none
  else if f.dotAll then some (setPiece (.complement .empty) 0)
  else if f.crlf then some (setPiece (.complement (.ranges [(0xA, 0xA), (0xD, 0xD)])) 0)
  else some (setPiece (.complement (.single '\n')) 0)

/-- The piece of an escape. -/
def escapePiece? (f : PatternFlags) : Escape → Option Piece
  | .character c => characterPiece? f c
  | .class s => some (setPiece s 0)
  | .place a => some ⟨.anchor a, 0, true⟩

/-- The piece of a caret. -/
def caretPiece (f : PatternFlags) : Piece :=
  ⟨.anchor (if f.multiLine then .lineStart f.crlf else .textStart), 0, true⟩

/-- The piece of a dollar sign. -/
def dollarPiece (f : PatternFlags) : Piece :=
  ⟨.anchor (if f.multiLine then .lineEnd f.crlf else .textEnd), 0, true⟩

/-- A reader in the middle of a pattern: the flags that hold, the group names in use, the
alternatives of the innermost group, and the groups around it with the flags that hold there. -/
structure State where
  flags : PatternFlags := {}
  names : List (List Char) := []
  level : Level := {}
  enclosing : List (Level × PatternFlags) := []

/-- The state with one more piece. -/
def State.push (state : State) (p : Piece) : State :=
  { state with level := state.level.push p }

/-- Reads a closing parenthesis. -/
def State.leave? (state : State) : Option State :=
  match state.enclosing with
  | [] => none
  | (level, flags) :: enclosing =>
    let inner := state.level.close
    some { state with
      flags
      level := level.push ⟨inner.pattern, inner.height + 1, true⟩
      enclosing }

/-- Reads what stands behind an opening parenthesis. -/
def State.enter? (state : State) (cs : List Char) : Option (State × List Char) :=
  (readGroupStart? state.flags cs).bind fun (start, rest) =>
    match start with
    | .flags f => some ({ state with flags := f }.push ⟨.empty, 0, false⟩, rest)
    | .group f name =>
      match name with
      | some n =>
        if state.names.contains n then none
        else
          some ({ state with
            flags := f
            names := n :: state.names
            level := {}
            enclosing := (state.level, state.flags) :: state.enclosing }, rest)
      | none =>
        some ({ state with
          flags := f
          level := {}
          enclosing := (state.level, state.flags) :: state.enclosing }, rest)

/-- Reads the next part of a pattern, which begins with the given character. -/
def State.step? (state : State) (c : Char) (rest : List Char) : Option (State × List Char) :=
  let f := state.flags
  let repeated (least : Nat) (most : Option Nat) (rest : List Char) :=
    (state.level.repeat? least most).map fun level => ({ state with level }, rest)
  match c with
  | '(' => state.enter? rest
  | ')' => state.leave?.map (·, rest)
  | '|' => some ({ state with level := state.level.alternative }, rest)
  | '[' =>
    (readClass? f (2 * rest.length + 2) rest).map fun (s, height, rest) =>
      (state.push (setPiece s height), rest)
  | '?' => repeated 0 (some 1) (skipReluctant rest)
  | '*' => repeated 0 none (skipReluctant rest)
  | '+' => repeated 1 none (skipReluctant rest)
  | '\x7b' => (readCount? f rest).bind fun ((least, most), rest) => repeated least most rest
  | '\\' =>
    (readEscape? f rest).bind fun (e, rest) => (escapePiece? f e).map (state.push ·, rest)
  | '.' => (pointPiece? f).map (state.push ·, rest)
  | '^' => some (state.push (caretPiece f), rest)
  | '$' => some (state.push (dollarPiece f), rest)
  | c => (characterPiece? f c).map (state.push ·, rest)

/-- Reads the parts of a pattern up to its end; each part takes at least one character. -/
def run? : Nat → State → List Char → Option Piece
  | 0, _, _ => none
  | fuel + 1, state, cs =>
    match skip state.flags cs with
    | [] => if state.enclosing.isEmpty then some state.level.close else none
    | c :: rest => (state.step? c rest).bind fun (state, rest) => run? fuel state rest

/-! ## Limits -/

/-- How deep a pattern may nest. -/
def heightLimit : Nat := 250

end PatternReader

/-- The pattern that a text spells. -/
def Pattern.read? (cs : List Char) : Option Pattern :=
  (PatternReader.run? (cs.length + 1) {} cs).bind fun p =>
    if p.height ≤ PatternReader.heightLimit ∧
        p.pattern.room ≤ Pattern.roomLimit then some p.pattern else none

end TablePipeline
