import TablePipeline.Proofs.Number.Digits
import TablePipeline.Proofs.Query.Cuts

/-!
# Reading written words back

The lexer cuts the characters of written words into the same words again.  For a single word this
depends on its two neighbours: on the character behind it, which must not continue the word, and on
the word before it, which decides whether a minus begins a number.  `Delimited` and `Word.Fits` are
these two conditions; blanks and parentheses see to the first and the printer to the second.

## Main definitions

* `Delimited` — what may follow a word that could go on
* `Word.Fits`, `FitAll` — words that can be read where they stand

## Main statements

* `Lexeme.read_write` — one word
* `cuts_spaced` — all words
-/

namespace TablePipeline

/-! ### Characters -/

section Characters

variable {c : Char}

theorem toNat_of_isLower (h : c.isLower = true) : 97 ≤ c.toNat ∧ c.toNat ≤ 122 := by
  have hrange : (decide (97 ≤ c.val.toNat) && decide (c.val.toNat ≤ 122)) = true := h
  simpa using hrange

theorem isAlphabetic_of_isLower (h : c.isLower = true) : isAlphabetic c = true := by
  obtain ⟨hlow, hhigh⟩ := toNat_of_isLower h
  have hranges : alphabeticRanges = (0x41, 0x5A) :: (0x61, 0x7A) :: alphabeticRanges.drop 2 := rfl
  rw [isAlphabetic, CodeRanges.contains, hranges, CodeRanges.containsCode_cons,
    CodeRanges.containsCode_cons, if_neg (by omega), if_neg (by omega), decide_eq_true hhigh]
  simp

theorem isNumeric_of_isDigit (h : c.isDigit = true) : isNumeric c = true := by
  have hlow : 48 ≤ c.toNat := (Char.isDigit_iff_toNat.1 h).1
  have hhigh : c.toNat ≤ 57 := (Char.isDigit_iff_toNat.1 h).2
  have hranges : numericRanges = (0x30, 0x39) :: numericRanges.drop 1 := rfl
  rw [isNumeric, CodeRanges.contains, hranges, CodeRanges.containsCode_cons, if_neg (by omega),
    decide_eq_true hhigh]
  simp

theorem continuesName_of_isIdentifierChar (h : isIdentifierChar c = true) :
    continuesName c = true := by
  rw [isIdentifierChar, Bool.or_eq_true, Bool.or_eq_true] at h
  rw [continuesName, isAlphanumeric, Bool.or_eq_true, Bool.or_eq_true]
  rcases h with (h | h) | h
  · exact Or.inl (Or.inl (isAlphabetic_of_isLower h))
  · exact Or.inl (Or.inr (isNumeric_of_isDigit h))
  · exact Or.inr h

theorem code_of_isIdentifierChar (h : isIdentifierChar c = true) :
    (48 ≤ c.toNat ∧ c.toNat ≤ 57) ∨ c.toNat = 95 ∨ (97 ≤ c.toNat ∧ c.toNat ≤ 122) := by
  rw [isIdentifierChar, Bool.or_eq_true, Bool.or_eq_true] at h
  rcases h with (h | h) | h
  · exact Or.inr (Or.inr (toNat_of_isLower h))
  · exact Or.inl (Char.isDigit_iff_toNat.1 h)
  · rw [beq_iff_eq.1 h]
    exact Or.inr (Or.inl rfl)

/-- Letters, digits and underscores are visible and begin no comment. -/
theorem bounds_of_isIdentifierChar (h : isIdentifierChar c = true) :
    0x2F < c.toNat ∧ c.toNat < 0x7B := by
  have hcode := code_of_isIdentifierChar h
  omega

end Characters

/-! ### What follows a word -/

/-- Nothing follows, or a blank, a parenthesis or a comma. -/
def Delimited (cs : List Char) : Prop :=
  ∀ c, cs.head? = some c → c = ' ' ∨ c = '(' ∨ c = ')' ∨ c = ','

theorem delimited_nil : Delimited [] := by
  intro c h
  cases h

theorem delimited_cons {c : Char} {cs : List Char}
    (h : c = ' ' ∨ c = '(' ∨ c = ')' ∨ c = ',') : Delimited (c :: cs) := by
  intro d hd
  rw [← Option.some.inj hd]
  exact h

/-- A run of characters of one class ends where the class does. -/
theorem Delimited.takeWhile_append {p : Char → Bool} {word rest : List Char}
    (hrest : Delimited rest) (hword : ∀ c ∈ word, p c = true)
    (hp : p ' ' = false ∧ p '(' = false ∧ p ')' = false ∧ p ',' = false) :
    (word ++ rest).takeWhile p = word ∧ (word ++ rest).dropWhile p = rest := by
  rw [List.takeWhile_append_of_pos hword, List.dropWhile_append_of_pos hword]
  cases rest with
  | nil => exact ⟨List.append_nil _, rfl⟩
  | cons c rest =>
    have hc : p c = false := by
      rcases hrest c rfl with rfl | rfl | rfl | rfl
      · exact hp.1
      · exact hp.2.1
      · exact hp.2.2.1
      · exact hp.2.2.2
    rw [List.takeWhile_cons_of_neg (by simp [hc]), List.dropWhile_cons_of_neg (by simp [hc]),
      List.append_nil]
    exact ⟨rfl, rfl⟩

/-! ### Single words -/

/-- An escaped text is read up to the quote behind it. -/
theorem closeString?_escape (cs rest : List Char) :
    closeString? (escape cs ++ '"' :: rest) = some (escape cs, rest) := by
  induction cs with
  | nil => rfl
  | cons c cs ih =>
    rw [escape, List.flatMap_cons, ← escape]
    by_cases hc : c = '"' ∨ c = '\\'
    · rw [if_pos hc]
      show closeString? ('\\' :: c :: (escape cs ++ '"' :: rest)) = _
      rw [closeString?, ih]
      rfl
    · rw [if_neg hc]
      obtain ⟨hquote, hslash⟩ := not_or.1 hc
      show closeString? (c :: (escape cs ++ '"' :: rest)) = _
      rw [closeString?, ih]
      · rfl
      · exact hquote
      · intro _ _ h
        exact absurd h hslash

theorem unescape_escape (cs : List Char) : unescape (escape cs) = cs := by
  induction cs with
  | nil => rfl
  | cons c cs ih =>
    rw [escape, List.flatMap_cons, ← escape]
    by_cases hc : c = '"' ∨ c = '\\'
    · rw [if_pos hc]
      show unescape ('\\' :: c :: escape cs) = _
      rw [unescape, ih]
      rcases hc with rfl | rfl <;> rfl
    · rw [if_neg hc]
      obtain ⟨-, hslash⟩ := not_or.1 hc
      show unescape (c :: escape cs) = _
      rw [unescape, ih]
      intro _ _ h
      exact absurd h hslash

theorem readString_escape (s : String) (rest : List Char) :
    Lexeme.readString (escape s.toList ++ '"' :: rest) = .ok ⟨.string, s.toList, rest⟩ := by
  rw [Lexeme.readString, closeString?_escape]
  simp only [unescape_escape]

theorem closeName?_append {name : List Char} (h : '`' ∉ name) (rest : List Char) :
    closeName? (name ++ '`' :: rest) = some (name, rest) := by
  induction name with
  | nil => rfl
  | cons c name ih =>
    obtain ⟨hc, hname⟩ := not_or.1 (mt List.mem_cons.2 h)
    rw [List.cons_append, closeName?, if_neg (Ne.symm hc), ih hname]
    rfl

/-- Digits are cut off as an integer, with the sign in front of them. -/
theorem cutNumber_integerText (z : Int) {rest : List Char} (hrest : Delimited rest) :
    Lexeme.cutNumber (integerText z ++ rest) = ⟨.integer, integerText z, rest⟩ := by
  have hrun := hrest.takeWhile_append (fun c => isDigit_of_mem_naturalText (n := z.natAbs))
    (by decide)
  have hfraction : fractionOf rest = [] ∧ afterFraction rest = rest := by
    cases rest with
    | nil => exact ⟨rfl, rfl⟩
    | cons c rest => rcases hrest c rfl with rfl | rfl | rfl | rfl <;> exact ⟨rfl, rfl⟩
  -- behind its sign a number is cut off in the same way, whatever the sign is
  have hunsigned : ∀ sign, minusOf (integerText z ++ rest) =
      (sign, naturalText z.natAbs ++ rest) → sign ++ naturalText z.natAbs = integerText z →
      Lexeme.cutNumber (integerText z ++ rest) = ⟨.integer, integerText z, rest⟩ := by
    intro sign hminus hsign
    rw [Lexeme.cutNumber, hminus]
    simp only [digitsOf, afterDigits, hrun, hfraction, hsign, List.isEmpty_nil, if_true,
      List.append_nil]
  by_cases hz : z < 0
  · have htext : integerText z = '-' :: naturalText z.natAbs := if_pos hz
    refine hunsigned ['-'] ?_ htext.symm
    rw [htext]
    rfl
  · have htext : integerText z = naturalText z.natAbs := if_neg hz
    refine hunsigned [] ?_ htext.symm
    rw [htext]
    refine minusOf_of_ne fun tail heq => ?_
    cases hdigits : naturalText z.natAbs with
    | nil => exact naturalText_ne_nil _ hdigits
    | cons c digits =>
      rw [hdigits] at heq
      have hc : c.isDigit = true := by
        refine isDigit_of_mem_naturalText (n := z.natAbs) ?_
        rw [hdigits]
        exact List.mem_cons_self
      rw [(List.cons.inj heq).1] at hc
      exact absurd hc (by decide)

theorem startsDigit_naturalText (n : Nat) (rest : List Char) :
    startsDigit (naturalText n ++ rest) = true := by
  cases hdigits : naturalText n with
  | nil => exact absurd hdigits (naturalText_ne_nil n)
  | cons c digits =>
    have hmem : c ∈ naturalText n := by
      rw [hdigits]
      exact List.mem_cons_self
    exact isDigit_of_mem_naturalText hmem

/-- A number begins with its digits, or with its sign where one may stand. -/
theorem startsNumber_integerText {z : Int} {signAllowed : Bool}
    (h : z < 0 → signAllowed = true) (rest : List Char) :
    startsNumber signAllowed (integerText z ++ rest) = true := by
  by_cases hz : z < 0
  · rw [show integerText z = '-' :: naturalText z.natAbs from if_pos hz, h hz]
    exact startsDigit_naturalText z.natAbs rest
  · rw [show integerText z = naturalText z.natAbs from if_neg hz]
    have hstart := startsDigit_naturalText z.natAbs rest
    unfold startsNumber
    split
    · rename_i tail heq
      rw [heq] at hstart
      exact absurd (show false = true from hstart) Bool.false_ne_true
    · exact hstart

theorem readInteger?_of_fits {z : Int} (h : Fits z) :
    readInteger? (integerText z) = some (Int64.ofInt z) := by
  have hread := readInteger?_integerText (Int64.ofInt z)
  rwa [toInt_ofInt_of_fits h] at hread

theorem read_integerText {z : Int} {signAllowed : Bool} {rest : List Char} (hz : Fits z)
    (h : z < 0 → signAllowed = true) (hrest : Delimited rest) :
    Lexeme.read signAllowed (integerText z ++ rest) = .ok ⟨.integer, integerText z, rest⟩ := by
  have hstorable : (⟨.integer, integerText z, rest⟩ : Lexeme).isStorable = true := by
    show (readInteger? (integerText z)).isSome = true
    rw [readInteger?_of_fits hz]
    rfl
  rw [Lexeme.read.eq_def, if_pos (startsNumber_integerText h rest), Lexeme.readNumber,
    cutNumber_integerText z hrest]
  simp only [hstorable, if_true]

/-- A bare name is read up to a character that ends it. -/
theorem read_identifier {s : String} {signAllowed : Bool} {rest : List Char} (hs : IsIdentifier s)
    (hrest : Delimited rest) :
    Lexeme.read signAllowed (s.toList ++ rest) = .ok ⟨.name, s.toList, rest⟩ := by
  obtain ⟨c, tail, hc⟩ := List.exists_cons_of_ne_nil hs.nonempty
  have hdigit : c.isDigit = false := by
    have hstart := hs.noDigit
    rwa [hc] at hstart
  have hchar : isIdentifierChar c = true := hs.chars c (by rw [hc]; exact List.mem_cons_self)
  have hrun := hrest.takeWhile_append
    (fun c hc => continuesName_of_isIdentifierChar (hs.chars c hc)) (by decide)
  have hletter : c.isLower = true ∨ c = '_' := by
    simp only [isIdentifierChar, hdigit, Bool.or_false, Bool.or_eq_true, beq_iff_eq] at hchar
    exact hchar
  have hbegins : beginsName c = true := by
    rw [beginsName, Bool.or_eq_true]
    rcases hletter with h | rfl
    · exact Or.inl (isAlphabetic_of_isLower h)
    · exact Or.inr rfl
  have hword : Lexeme.readWord (s.toList ++ rest) = ⟨.name, s.toList, rest⟩ := by
    simp only [Lexeme.readWord, hrun, String.ofList_toList, hs.notKeyword, Option.getD_none]
  -- the first character begins no other kind of word
  have hother : c ≠ '-' ∧ c ≠ '"' ∧ c ≠ '`' ∧ punctuation? (c :: (tail ++ rest)) = none := by
    refine ⟨?_, ?_, ?_, ?_⟩
    · rintro rfl
      exact absurd hchar (by decide)
    · rintro rfl
      exact absurd hchar (by decide)
    · rintro rfl
      exact absurd hchar (by decide)
    · unfold punctuation?
      split <;> first
        | rfl
        | (rename_i heq
           rw [(List.cons.inj heq).1] at hchar
           exact absurd hchar (by decide))
  obtain ⟨hminus, hquote, htick, hnone⟩ := hother
  rw [hc, List.cons_append] at hword ⊢
  have hnumber : startsNumber signAllowed (c :: (tail ++ rest)) = false := by
    unfold startsNumber
    split
    · rename_i heq
      exact absurd (List.cons.inj heq).1 hminus
    · exact hdigit
  rw [Lexeme.read.eq_def, hnumber, if_neg Bool.false_ne_true, hnone]
  simp only [hbegins, if_true, hword]

/-! ### Words where they stand -/

/-- Whether words of the kind are written with their symbol: punctuation and keywords. -/
def isSymbolKind : Token.Kind → Bool
  | .integer | .float | .string | .name | .quotedName | .finish => false
  | _ => true

/-- The word can be read behind a word of the given kind. -/
inductive Word.Fits (last : Token.Kind) : Word → Prop
  | symbol {k : Token.Kind} (kind : isSymbolKind k = true) : Fits last (.symbol k)
  | string (s : String) : Fits last ⟨.string, s⟩
  | quoted {s : String} (name : Quotable s) : Fits last (.quoted s)
  | bare {s : String} (name : IsIdentifier s) : Fits last (.bare s)
  /-- A minus begins a number only where no operand has just ended. -/
  | integer {z : Int} (range : TablePipeline.Fits z)
      (sign : z < 0 → last.endsOperand = false) : Fits last (.integer z)

/-- Every word can be read behind the one before it. -/
def FitAll (last : Token.Kind) : List Word → Prop
  | [] => True
  | w :: ws => w.Fits last ∧ FitAll w.kind ws

section Fits

variable {last : Token.Kind} {w : Word} {rest : List Char}

theorem read_symbol {k : Token.Kind} {signAllowed : Bool} (hk : isSymbolKind k = true)
    (hrest : k = .leftParen ∨ Delimited rest) :
    Lexeme.read signAllowed (k.symbol.toList ++ rest) = .ok ⟨k, k.symbol.toList, rest⟩ := by
  rcases hrest with rfl | hrest
  · rfl
  · cases rest with
    | nil =>
      cases k <;> first
        | cases hk; done
        | rfl
        | cases signAllowed <;> rfl
    | cons c rest =>
      rcases hrest c rfl with rfl | rfl | rfl | rfl <;> cases k <;> first
        | cases hk; done
        | rfl
        | cases signAllowed <;> rfl

/-- **One word** is read back from its characters, if what follows does not continue it. -/
theorem Lexeme.read_write (h : w.Fits last) (hrest : w.kind = .leftParen ∨ Delimited rest) :
    Lexeme.read (!last.endsOperand) (w.write ++ rest) = .ok ⟨w.kind, w.text.toList, rest⟩ := by
  cases h with
  | @symbol k kind =>
    have hwrite : (Word.symbol k).write = k.symbol.toList := by
      cases k <;> first
        | rfl
        | cases kind
    rw [hwrite]
    exact read_symbol kind hrest
  | string s =>
    have hread := readString_escape s rest
    show Lexeme.read _ (stringLiteral s ++ rest) = _
    rw [stringLiteral, List.cons_append, List.append_assoc, List.singleton_append]
    exact hread
  | @quoted s name =>
    have hclose := closeName?_append name rest
    show Lexeme.read _ ('`' :: (s.toList ++ ['`']) ++ rest) = _
    rw [List.cons_append, List.append_assoc, List.singleton_append]
    show Lexeme.readQuotedName _ = _
    rw [Lexeme.readQuotedName, hclose]
    rfl
  | bare name =>
    have hdelimited : Delimited rest := hrest.resolve_left fun h => by cases h
    exact read_identifier name hdelimited
  | @integer z range sign =>
    have hdelimited : Delimited rest := hrest.resolve_left fun h => by cases h
    have hallowed : z < 0 → (!last.endsOperand) = true := by
      intro hz
      rw [sign hz]
      rfl
    show Lexeme.read _ ((String.ofList (integerText z)).toList ++ rest) =
      .ok ⟨.integer, (String.ofList (integerText z)).toList, rest⟩
    rw [String.toList_ofList]
    exact read_integerText range hallowed hdelimited

/-! ### Gaps -/

/-- What begins neither with white space nor with a comment begins with no gap. -/
theorem skipGap_eq_self {c : Char} {cs : List Char} (hblank : isBlank c = false)
    (hcomment : ¬(c = '/' ∧ cs.head? = some '/')) : skipGap (c :: cs) = c :: cs := by
  rw [skipGap, skipGapFrom, if_neg Bool.false_ne_true, hblank, if_neg Bool.false_ne_true,
    if_neg hcomment]

theorem skipGap_of_visible {c : Char} {cs : List Char} (hblank : isBlank c = false)
    (hcomment : c ≠ '/') : skipGap (c :: cs) = c :: cs :=
  skipGap_eq_self hblank fun h => hcomment h.1

/-- No gap is skipped in front of a word. -/
theorem skipGap_write (h : w.Fits last) (hrest : w.kind = .leftParen ∨ Delimited rest) :
    skipGap (w.write ++ rest) = w.write ++ rest := by
  have hchars : ∀ cs : List Char, cs ≠ [] →
      (∀ c ∈ cs, 0x20 < c.toNat ∧ c.toNat < 0x85 ∧ c ≠ '/') →
      skipGap (cs ++ rest) = cs ++ rest := by
    intro cs hne hcs
    cases cs with
    | nil => exact absurd rfl hne
    | cons c cs =>
      obtain ⟨hlow, hhigh, hcomment⟩ := hcs c List.mem_cons_self
      exact skipGap_of_visible (isBlank_eq_false hlow hhigh) hcomment
  cases h with
  | @symbol k kind =>
    by_cases hslash : k = .slash
    · subst hslash
      have hdelimited : Delimited rest := hrest.resolve_left fun h => by cases h
      -- a slash alone begins no comment, whatever may stand behind it
      cases rest with
      | nil => rfl
      | cons c rest => rcases hdelimited c rfl with rfl | rfl | rfl | rfl <;> rfl
    · cases k <;> first
        | exact absurd rfl hslash
        | cases kind; done
        | exact skipGap_of_visible (by decide) (by decide)
  | string s => exact skipGap_of_visible (by decide) (by decide)
  | quoted name => exact skipGap_of_visible (by decide) (by decide)
  | @bare s name =>
    refine hchars s.toList name.nonempty fun d hd => ?_
    obtain ⟨hlow, hhigh⟩ := bounds_of_isIdentifierChar (name.chars d hd)
    refine ⟨by omega, by omega, ?_⟩
    rintro rfl
    exact absurd hlow (by decide)
  | @integer z range sign =>
    show skipGap ((String.ofList (integerText z)).toList ++ rest) =
      (String.ofList (integerText z)).toList ++ rest
    rw [String.toList_ofList]
    have hdigits : ∀ c ∈ naturalText z.natAbs,
        0x20 < c.toNat ∧ c.toNat < 0x85 ∧ c ≠ '/' := by
      intro c hc
      have hdigit := isDigit_of_mem_naturalText hc
      obtain ⟨hlow, hhigh⟩ := bounds_of_isIdentifierChar (c := c) (by
        rw [isIdentifierChar, hdigit, Bool.or_true, Bool.true_or])
      refine ⟨by omega, by omega, ?_⟩
      rintro rfl
      exact absurd hdigit (by decide)
    by_cases hz : z < 0
    · rw [show integerText z = '-' :: naturalText z.natAbs from if_pos hz]
      exact skipGap_of_visible (by decide) (by decide)
    · rw [show integerText z = naturalText z.natAbs from if_neg hz]
      exact hchars _ (naturalText_ne_nil _) hdigits

/-- Behind a word there is a blank, or a word that needs none before it. -/
theorem delimited_spaced {ws : List Word} (h : FitAll last ws) :
    last = .leftParen ∨ Delimited (spaced last ws) := by
  cases ws with
  | nil => exact Or.inr delimited_nil
  | cons w ws =>
    by_cases htight : tight last w.kind = true
    -- without a blank the next word is a parenthesis or a comma, or the last one is
    · rw [spaced, if_pos htight, List.nil_append]
      simp only [tight, Bool.or_eq_true, Bool.and_eq_true, decide_eq_true_eq] at htight
      by_cases hlast : last = .leftParen
      · exact Or.inl hlast
      · refine Or.inr ?_
        obtain ⟨hfits, -⟩ := h
        cases hfits with
        | @symbol k kind =>
          have hkind : (last = .leftParen ∨ k = .rightParen) ∨ k = .comma ∨
              last = .name ∧ k = .leftParen := by
            rcases htight with (hk | hk) | hk
            · exact Or.inl hk
            · exact Or.inr (Or.inl hk)
            · exact Or.inr (Or.inr hk)
          rcases hkind with (hk | rfl) | rfl | ⟨-, rfl⟩
          · exact absurd hk hlast
          · exact delimited_cons (by decide)
          · exact delimited_cons (by decide)
          · exact delimited_cons (by decide)
        | _ => simp [hlast, Word.quoted, Word.bare, Word.integer] at htight
    · rw [spaced, if_neg htight]
      exact Or.inr (delimited_cons (Or.inl rfl))

end Fits

/-! ### All words -/

/-- The kinds of words that fit are not that of the end mark. -/
theorem Word.Fits.kind_ne_finish {last : Token.Kind} {w : Word} (h : w.Fits last) :
    w.kind ≠ .finish := by
  cases h with
  | symbol kind =>
    rintro rfl
    cases kind
  | _ => exact nofun

/-- **All words** of a written text are cut from it again. -/
theorem cuts_spaced {ws : List Word} {last : Token.Kind} (h : FitAll last ws) :
    Cuts last (spaced last ws) ws := by
  induction ws generalizing last with
  | nil => exact .finish rfl
  | cons w ws ih =>
    obtain ⟨hfits, hall⟩ := h
    have hdelimited := delimited_spaced hall
    have hskip : skipGap (spaced last (w :: ws)) = w.write ++ spaced w.kind ws := by
      rw [spaced]
      by_cases htight : tight last w.kind = true
      · rw [if_pos htight, List.nil_append]
        exact skipGap_write hfits hdelimited
      · rw [if_neg htight]
        exact skipGap_write hfits hdelimited
    have hread := Lexeme.read_write hfits hdelimited
    rw [← hskip] at hread
    have hcuts := Cuts.word hread hfits.kind_ne_finish (ih hall)
    rwa [String.ofList_toList] at hcuts

end TablePipeline
