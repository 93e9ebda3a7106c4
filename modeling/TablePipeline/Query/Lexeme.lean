import TablePipeline.Query.Token
import TablePipeline.Number.Real
import TablePipeline.Text.Alphabet
import TablePipeline.Text.Blank

/-!
# Lexemes

How the next word is cut from the front of a text.  Between words there is a gap of white space and
of comments, which run from `//` to the end of the line.  A word is a string between double
quotes, a name between backticks, a number, a bare name or keyword, or punctuation.

Every function here works on the characters that are still to be read and gives back the rest, so
that what was read is always a beginning of what was there.

## Main definitions

* `skipGap` — the text behind white space and comments
* `closeString?`, `unescape` — the body of a string and what it stands for
* `Lexeme`, `Lexeme.read` — the first word of a text
* `Lexeme.readSource` — the name of a source, which ends at white space or a bar
-/

namespace TablePipeline

/-- Skips white space and comments.  Inside a comment everything up to the line feed is skipped. -/
def skipGapFrom (inComment : Bool) : List Char → List Char
  | [] => []
  | c :: cs =>
    if inComment then skipGapFrom (c != '\n') cs
    else if isBlank c then skipGapFrom false cs
    else if c = '/' ∧ cs.head? = some '/' then skipGapFrom true cs
    else c :: cs

/-- The text behind white space and comments. -/
def skipGap (cs : List Char) : List Char :=
  skipGapFrom false cs

/-- Splits the text behind an opening double quote into the body of the string and what follows
the closing quote.  A backslash protects the character behind it. -/
def closeString? : List Char → Option (List Char × List Char)
  | [] => none
  | '"' :: rest => some ([], rest)
  | '\\' :: c :: rest => (closeString? rest).map fun (body, after) => ('\\' :: c :: body, after)
  | c :: rest => (closeString? rest).map fun (body, after) => (c :: body, after)

/-- What an escape stands for.  An unknown escape stands for itself. -/
def escapeMeaning (c : Char) : List Char :=
  match c with
  | '"' => ['"']
  | '\\' => ['\\']
  | 'n' => ['\n']
  | 't' => ['\t']
  | c => ['\\', c]

/-- What the body of a string stands for. -/
def unescape : List Char → List Char
  | [] => []
  | '\\' :: c :: rest => escapeMeaning c ++ unescape rest
  | c :: rest => c :: unescape rest

/-- Splits the text behind an opening backtick into the name and what follows the closing one. -/
def closeName? : List Char → Option (List Char × List Char)
  | [] => none
  | c :: rest =>
    if c = '`' then some ([], rest)
    else (closeName? rest).map fun (body, after) => (c :: body, after)

/-- Why no word can be read. -/
inductive LexFault
  | unterminatedString
  | unterminatedName
  | unexpectedChar (c : Char)
  | invalidNumber (text : String)
  deriving DecidableEq

/-- A word with its kind, the text it stands for and what follows it. -/
structure Lexeme where
  kind : Token.Kind
  text : List Char
  rest : List Char

/-- The outcome of reading a word: the word, or a fault and where the reading stopped. -/
abbrev Lexeme.Outcome := Except (LexFault × List Char) Lexeme

/-- The punctuation at the front of a text, with its width. -/
def punctuation? : List Char → Option (Token.Kind × Nat)
  | '=' :: '=' :: _ => some (.equal, 2)
  | '!' :: '=' :: _ => some (.notEqual, 2)
  | '<' :: '=' :: _ => some (.lessEqual, 2)
  | '>' :: '=' :: _ => some (.greaterEqual, 2)
  | '|' :: _ => some (.pipe, 1)
  | '\x7b' :: _ => some (.leftBrace, 1)
  | '\x7d' :: _ => some (.rightBrace, 1)
  | '(' :: _ => some (.leftParen, 1)
  | ')' :: _ => some (.rightParen, 1)
  | ',' :: _ => some (.comma, 1)
  | '.' :: _ => some (.dot, 1)
  | '+' :: _ => some (.plus, 1)
  | '-' :: _ => some (.minus, 1)
  | '*' :: _ => some (.star, 1)
  | '/' :: _ => some (.slash, 1)
  | '=' :: _ => some (.assign, 1)
  | '<' :: _ => some (.less, 1)
  | '>' :: _ => some (.greater, 1)
  | _ => none

/-- Whether a digit stands at the front of the text. -/
def startsDigit : List Char → Bool
  | c :: _ => c.isDigit
  | [] => false

/-- Whether a number begins here: a digit, or a minus and a digit where a sign may stand. -/
def startsNumber (signAllowed : Bool) : List Char → Bool
  | '-' :: rest => signAllowed && startsDigit rest
  | cs => startsDigit cs

/-- The digits at the front of a text. -/
def digitsOf (cs : List Char) : List Char :=
  cs.takeWhile Char.isDigit

/-- Digits that are taken from a text begin with a digit, whatever follows them. -/
theorem startsDigit_digitsOf (cs more : List Char) (h : startsDigit cs = true) :
    startsDigit (digitsOf cs ++ more) = true := by
  cases cs with
  | nil => cases h
  | cons c cs =>
    have hc : c.isDigit = true := h
    rw [digitsOf, List.takeWhile_cons_of_pos hc]
    exact hc

/-- The text behind the digits at its front. -/
def afterDigits (cs : List Char) : List Char :=
  cs.dropWhile Char.isDigit

/-- The sign, if there is one, and what follows it. -/
def minusOf : List Char → List Char × List Char
  | '-' :: rest => (['-'], rest)
  | cs => ([], cs)

/-- The fraction at the front of a text: a point with digits behind it, or nothing.  A point with
no digit behind it is no part of a number. -/
def fractionOf : List Char → List Char
  | '.' :: more => if startsDigit more then '.' :: digitsOf more else []
  | _ => []

/-- The text behind the fraction at its front. -/
def afterFraction : List Char → List Char
  | '.' :: more => if startsDigit more then afterDigits more else '.' :: more
  | cs => cs

/-- Cuts a number from the front of a text; it is a float if it has a fraction. -/
def Lexeme.cutNumber (cs : List Char) : Lexeme :=
  let (sign, unsigned) := minusOf cs
  let fraction := fractionOf (afterDigits unsigned)
  { kind := if fraction.isEmpty then .integer else .float
    text := sign ++ digitsOf unsigned ++ fraction
    rest := afterFraction (afterDigits unsigned) }

/-- Whether a number can be stored: an integer has to be in range. -/
def Lexeme.isStorable (l : Lexeme) : Bool :=
  if l.kind = .float then (readFloat? l.text).isSome else (readInteger? l.text).isSome

/-- Reads a number, which has to be one that can be stored. -/
def Lexeme.readNumber (cs : List Char) : Lexeme.Outcome :=
  let l := Lexeme.cutNumber cs
  if l.isStorable then .ok l else .error (.invalidNumber (String.ofList l.text), l.rest)

/-- Reads the string behind its opening quote. -/
def Lexeme.readString (cs : List Char) : Lexeme.Outcome :=
  match closeString? cs with
  | some (body, rest) => .ok ⟨.string, unescape body, rest⟩
  | none => .error (.unterminatedString, [])

/-- Reads the name behind its opening backtick. -/
def Lexeme.readQuotedName (cs : List Char) : Lexeme.Outcome :=
  match closeName? cs with
  | some (body, rest) => .ok ⟨.quotedName, body, rest⟩
  | none => .error (.unterminatedName, [])

/-- Whether a bare name may begin with the character. -/
def beginsName (c : Char) : Bool :=
  isAlphabetic c || c == '_'

/-- Whether a bare name may go on with the character. -/
def continuesName (c : Char) : Bool :=
  isAlphanumeric c || c == '_'

/-- Reads a bare name or a keyword. -/
def Lexeme.readWord (cs : List Char) : Lexeme :=
  let word := cs.takeWhile continuesName
  ⟨(Token.Kind.ofKeyword? (String.ofList word)).getD .name, word, cs.dropWhile continuesName⟩

/-- Reads the word at the front of a text that does not begin with a gap.  At the end of the text
the word is the empty end mark. -/
def Lexeme.read (signAllowed : Bool) (cs : List Char) : Lexeme.Outcome :=
  if startsNumber signAllowed cs then Lexeme.readNumber cs
  else
    match punctuation? cs with
    | some (kind, width) => .ok ⟨kind, cs.take width, cs.drop width⟩
    | none =>
      match cs with
      | [] => .ok ⟨.finish, [], []⟩
      | '"' :: rest => Lexeme.readString rest
      | '`' :: rest => Lexeme.readQuotedName rest
      | c :: rest =>
        if beginsName c then .ok (Lexeme.readWord (c :: rest))
        else .error (.unexpectedChar c, c :: rest)

/-- Whether the character may stand in an unquoted source name. -/
def inSourceName (c : Char) : Bool :=
  !isBlank c && c != '|'

/-- Reads the name of a source at the front of a text that does not begin with a gap.  An unquoted
name ends at white space or a bar and may be empty. -/
def Lexeme.readSource (cs : List Char) : Lexeme.Outcome :=
  match cs with
  | '"' :: rest => Lexeme.readString rest
  | '`' :: rest => Lexeme.readQuotedName rest
  | cs => .ok ⟨.name, cs.takeWhile inSourceName, cs.dropWhile inSourceName⟩

/-! ## What is left is shorter -/

theorem length_skipGapFrom_le (inComment : Bool) (cs : List Char) :
    (skipGapFrom inComment cs).length ≤ cs.length := by
  induction cs generalizing inComment with
  | nil => simp [skipGapFrom]
  | cons c cs ih =>
    simp only [skipGapFrom]
    split
    · exact Nat.le_succ_of_le (ih _)
    · split
      · exact Nat.le_succ_of_le (ih _)
      · split
        · exact Nat.le_succ_of_le (ih _)
        · exact Nat.le_refl _

theorem length_skipGap_le (cs : List Char) : (skipGap cs).length ≤ cs.length :=
  length_skipGapFrom_le false cs

theorem length_dropWhile_le (p : Char → Bool) (cs : List Char) :
    (cs.dropWhile p).length ≤ cs.length :=
  (List.dropWhile_sublist p).length_le

theorem length_closeString? {cs body rest : List Char} (h : closeString? cs = some (body, rest)) :
    rest.length < cs.length := by
  fun_induction closeString? cs generalizing body with
  | case1 => simp at h
  | case2 r => simp_all
  | case3 c r ih =>
    obtain ⟨⟨b, a⟩, hb, heq⟩ := Option.map_eq_some_iff.1 h
    obtain ⟨-, rfl⟩ := Prod.mk.inj heq
    have := ih hb
    simp only [List.length_cons]
    omega
  | case4 c r _ _ ih =>
    obtain ⟨⟨b, a⟩, hb, heq⟩ := Option.map_eq_some_iff.1 h
    obtain ⟨-, rfl⟩ := Prod.mk.inj heq
    have := ih hb
    simp only [List.length_cons]
    omega

theorem length_closeName? {cs body rest : List Char} (h : closeName? cs = some (body, rest)) :
    rest.length < cs.length := by
  induction cs generalizing body with
  | nil => simp [closeName?] at h
  | cons c cs ih =>
    rw [closeName?] at h
    split at h
    · simp_all
    · obtain ⟨⟨b, a⟩, hb, heq⟩ := Option.map_eq_some_iff.1 h
      obtain ⟨-, rfl⟩ := Prod.mk.inj heq
      have := ih hb
      simp only [List.length_cons]
      omega

theorem length_readString {cs : List Char} {l : Lexeme} (h : Lexeme.readString cs = .ok l) :
    l.rest.length < cs.length := by
  unfold Lexeme.readString at h
  split at h
  · rename_i hc
    rw [← Except.ok.inj h]
    exact length_closeString? hc
  · cases h

theorem length_readQuotedName {cs : List Char} {l : Lexeme}
    (h : Lexeme.readQuotedName cs = .ok l) : l.rest.length < cs.length := by
  unfold Lexeme.readQuotedName at h
  split at h
  · rename_i hc
    rw [← Except.ok.inj h]
    exact length_closeName? hc
  · cases h

theorem length_afterDigits_le (cs : List Char) : (afterDigits cs).length ≤ cs.length :=
  length_dropWhile_le _ cs

theorem length_afterDigits_lt {cs : List Char} (h : startsDigit cs = true) :
    (afterDigits cs).length < cs.length := by
  cases cs with
  | nil => simp [startsDigit] at h
  | cons c cs =>
    have hc : c.isDigit = true := h
    rw [afterDigits, List.dropWhile_cons, if_pos hc]
    exact Nat.lt_succ_of_le (length_dropWhile_le _ cs)

theorem length_afterFraction_le (cs : List Char) : (afterFraction cs).length ≤ cs.length := by
  unfold afterFraction
  split
  · split
    · exact Nat.le_succ_of_le (length_afterDigits_le _)
    · exact Nat.le_refl _
  · exact Nat.le_refl _

theorem minusOf_of_ne {cs : List Char} (h : ∀ rest, cs ≠ '-' :: rest) : minusOf cs = ([], cs) := by
  unfold minusOf
  split
  · rename_i rest
    exact absurd rfl (h rest)
  · rfl

theorem length_cutNumber_lt {signAllowed : Bool} {cs : List Char}
    (h : startsNumber signAllowed cs = true) :
    (Lexeme.cutNumber cs).rest.length < cs.length := by
  have hrest : (afterDigits (minusOf cs).2).length < cs.length := by
    unfold startsNumber at h
    split at h
    · rename_i rest
      simp only [Bool.and_eq_true] at h
      exact Nat.lt_succ_of_lt (length_afterDigits_lt h.2)
    · rename_i hne
      rw [minusOf_of_ne fun rest heq => hne rest heq]
      exact length_afterDigits_lt h
  exact Nat.lt_of_le_of_lt (length_afterFraction_le _) hrest

theorem length_readNumber {signAllowed : Bool} {cs : List Char} {l : Lexeme}
    (hs : startsNumber signAllowed cs = true) (h : Lexeme.readNumber cs = .ok l) :
    l.rest.length < cs.length := by
  unfold Lexeme.readNumber at h
  simp only at h
  split at h
  · rw [← Except.ok.inj h]
    exact length_cutNumber_lt hs
  · cases h

theorem punctuation?_width {cs : List Char} {kind : Token.Kind} {width : Nat}
    (h : punctuation? cs = some (kind, width)) :
    0 < width ∧ width ≤ cs.length ∧ kind ≠ .finish := by
  unfold punctuation? at h
  split at h <;> first
    | (simp only [Option.some.injEq, Prod.mk.injEq] at h
       obtain ⟨rfl, rfl⟩ := h
       simp)
    | simp at h

theorem length_readWord_lt {c : Char} {rest : List Char} (h : beginsName c = true) :
    (Lexeme.readWord (c :: rest)).rest.length < (c :: rest).length := by
  have hc : continuesName c = true := by
    simp only [beginsName, Bool.or_eq_true] at h
    simp only [continuesName, isAlphanumeric, Bool.or_eq_true]
    rcases h with h | h
    · exact Or.inl (Or.inl h)
    · exact Or.inr h
  simp only [Lexeme.readWord, List.dropWhile_cons, if_pos hc]
  exact Nat.lt_succ_of_le (length_dropWhile_le _ rest)

/-- A word other than the end mark takes at least one character. -/
theorem Lexeme.length_read {signAllowed : Bool} {cs : List Char} {l : Lexeme}
    (h : Lexeme.read signAllowed cs = .ok l) :
    (l.kind = .finish ∧ l.rest = [] ∧ cs = []) ∨ l.rest.length < cs.length := by
  unfold Lexeme.read at h
  split at h
  · rename_i hs
    exact Or.inr (length_readNumber hs h)
  · split at h
    · rename_i kind width hp
      have hw := punctuation?_width hp
      rw [← Except.ok.inj h]
      right
      simp only [List.length_drop]
      omega
    · split at h
      · left
        rw [← Except.ok.inj h]
        simp
      · right
        exact Nat.lt_succ_of_lt (length_readString h)
      · right
        exact Nat.lt_succ_of_lt (length_readQuotedName h)
      · rename_i c rest _ _
        split at h
        · rename_i hc
          right
          rw [← Except.ok.inj h]
          exact length_readWord_lt hc
        · cases h

end TablePipeline
