import TablePipeline.Json.Basic

/-!
# JSON as text

A value is written without any white space, or over several lines with two spaces for each level.
Strings escape the quote, the backslash and the control characters below the space, five of them by
a letter and the others by their code.

## Main definitions

* `jsonQuoted` — a string between quotes
* `JsonValue.compact` — a value without white space
* `JsonValue.pretty` — a value over several lines
-/

namespace TablePipeline

/-- The four hexadecimal digits of a code below `0x10000`. -/
def fourHexDigits (n : Nat) : List Char :=
  let digits := Nat.toDigits 16 n
  List.replicate (4 - digits.length) '0' ++ digits

/-- A character as it stands in a string. -/
def jsonEscape (c : Char) : List Char :=
  match c with
  | '"' => ['\\', '"']
  | '\\' => ['\\', '\\']
  | '\x08' => ['\\', 'b']
  | '\x0c' => ['\\', 'f']
  | '\n' => ['\\', 'n']
  | '\r' => ['\\', 'r']
  | '\t' => ['\\', 't']
  | c => if c.toNat < 32 then '\\' :: 'u' :: fourHexDigits c.toNat else [c]

/-- A text as a JSON string. -/
def jsonQuoted (s : String) : List Char :=
  '"' :: s.toList.flatMap jsonEscape ++ ['"']

/-- The text of a truth value. -/
def truthText (b : Bool) : List Char :=
  if b then ['t', 'r', 'u', 'e'] else ['f', 'a', 'l', 's', 'e']

namespace JsonValue

mutual

/-- The text of a value, without white space. -/
def compactChars : JsonValue → List Char
  | null => ['n', 'u', 'l', 'l']
  | boolean b => truthText b
  | number text => text
  | string s => jsonQuoted s
  | array items => '[' :: [','].intercalate (compactItems items) ++ [']']
  | object members => '\x7b' :: [','].intercalate (compactMembers members) ++ ['\x7d']

/-- The texts of the items of an array. -/
def compactItems : List JsonValue → List (List Char)
  | [] => []
  | v :: rest => v.compactChars :: compactItems rest

/-- The texts of the members of an object. -/
def compactMembers : List (String × JsonValue) → List (List Char)
  | [] => []
  | (name, v) :: rest => (jsonQuoted name ++ ':' :: v.compactChars) :: compactMembers rest

end

/-- Puts an opening and a closing bracket around lines that stand one level further in. -/
def bracketed (opening closing : Char) (level : Nat) (lines : List (List Char)) : List Char :=
  if lines.isEmpty then [opening, closing]
  else
    let inner := '\n' :: List.replicate (2 * (level + 1)) ' '
    opening :: inner ++ (',' :: inner).intercalate lines ++
      '\n' :: List.replicate (2 * level) ' ' ++ [closing]

mutual

/-- The text of a value over several lines, where the first line is already indented. -/
def prettyChars (level : Nat) : JsonValue → List Char
  | null => ['n', 'u', 'l', 'l']
  | boolean b => truthText b
  | number text => text
  | string s => jsonQuoted s
  | array items => bracketed '[' ']' level (prettyItems (level + 1) items)
  | object members => bracketed '\x7b' '\x7d' level (prettyMembers (level + 1) members)

/-- The texts of the items of an array, at their level. -/
def prettyItems (level : Nat) : List JsonValue → List (List Char)
  | [] => []
  | v :: rest => v.prettyChars level :: prettyItems level rest

/-- The texts of the members of an object, at their level. -/
def prettyMembers (level : Nat) : List (String × JsonValue) → List (List Char)
  | [] => []
  | (name, v) :: rest =>
    (jsonQuoted name ++ ':' :: ' ' :: v.prettyChars level) :: prettyMembers level rest

end

/-- The text of a value, without white space. -/
def compact (v : JsonValue) : String :=
  String.ofList v.compactChars

/-- The text of a value over several lines. -/
def pretty (v : JsonValue) : String :=
  String.ofList (v.prettyChars 0)

theorem compactItems_eq_map (items : List JsonValue) :
    compactItems items = items.map compactChars := by
  induction items with
  | nil => rfl
  | cons v rest ih => simp only [compactItems, ih, List.map_cons]

theorem compactMembers_eq_map (members : Members) :
    compactMembers members =
      members.map fun m => jsonQuoted m.1 ++ ':' :: m.2.compactChars := by
  induction members with
  | nil => rfl
  | cons m rest ih => simp only [compactMembers, ih, List.map_cons]

theorem prettyItems_eq_map (level : Nat) (items : List JsonValue) :
    prettyItems level items = items.map (prettyChars level) := by
  induction items with
  | nil => rfl
  | cons v rest ih => simp only [prettyItems, ih, List.map_cons]

theorem prettyMembers_eq_map (level : Nat) (members : Members) :
    prettyMembers level members =
      members.map fun m => jsonQuoted m.1 ++ ':' :: ' ' :: m.2.prettyChars level := by
  induction members with
  | nil => rfl
  | cons m rest ih => simp only [prettyMembers, ih, List.map_cons]

end JsonValue

end TablePipeline
