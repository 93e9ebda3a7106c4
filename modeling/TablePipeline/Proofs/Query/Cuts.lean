import TablePipeline.Proofs.Query.Printer
import TablePipeline.Query.Lexer

/-!
# The words of a text, and of two texts with a line feed between them

A lexer cuts words from the front of a text until there is none.  Which words these are depends on
the text and on the kind of the word before it, and on nothing else (`Cuts`); positions come into
the tokens only.

What is cut from a text does not change when a line feed and a second text are put behind it.
White space belongs to no number and no name, and is not the second half of any punctuation; a
string and a name between backticks have their closing quotes before it; and a line feed ends a
comment too.  So the words of the two texts follow each other, if the second one reads alike behind
whatever word the first one ends with.

## Main definitions

* `Cuts` — the words of a text

## Main statements

* `Lexer.cuts_of_tokenize`, `Lexer.tokenize_of_cuts` — the tokens of a text have its words
* `Lexeme.read_blank` — one word in front of white space
* `Cuts.append_lineFeed` — two texts
-/

namespace TablePipeline

/-! ### The words of a text -/

/-- The words that are cut from a text one after the other, behind a word of the given kind. -/
inductive Cuts : Token.Kind → List Char → List Word → Prop
  | finish {last : Token.Kind} {cs : List Char} (gap : skipGap cs = []) : Cuts last cs []
  | word {last : Token.Kind} {cs : List Char} {l : Lexeme} {ws : List Word}
      (read : Lexeme.read (!last.endsOperand) (skipGap cs) = .ok l) (kind : l.kind ≠ .finish)
      (more : Cuts l.kind l.rest ws) : Cuts last cs (⟨l.kind, String.ofList l.text⟩ :: ws)

section Tokens

variable {last : Token.Kind} {cs ds : List Char} {ws : List Word}

/-- A gap in front of a text makes no difference. -/
theorem Cuts.of_skipGap (h : Cuts last cs ws) (hgap : skipGap ds = skipGap cs) :
    Cuts last ds ws := by
  cases h with
  | finish gap => exact .finish (hgap.trans gap)
  | word read kind more =>
    rw [← hgap] at read
    exact .word read kind more

/-- A bar is read alike behind any word. -/
theorem Cuts.behind_any (h : Cuts last ('|' :: cs) ws) (last' : Token.Kind) :
    Cuts last' ('|' :: cs) ws := by
  cases h with
  | finish gap => cases gap
  | word read kind more =>
    cases read
    exact .word rfl kind more

theorem kind_readNumber {l : Lexeme} (h : Lexeme.readNumber cs = .ok l) :
    l.kind = .integer ∨ l.kind = .float := by
  simp only [Lexeme.readNumber] at h
  split at h
  · cases h
    simp only [Lexeme.cutNumber]
    split
    · exact Or.inl rfl
    · exact Or.inr rfl
  · cases h

/-- The end mark is read at the end of a text only. -/
theorem Lexeme.eq_nil_of_read {signAllowed : Bool} {l : Lexeme}
    (h : Lexeme.read signAllowed cs = .ok l) (hl : l.kind = .finish) : cs = [] := by
  rw [Lexeme.read.eq_def] at h
  split at h
  · rcases kind_readNumber h with hk | hk <;> rw [hk] at hl <;> cases hl
  · split at h
    · rename_i hp
      obtain ⟨-, -, hkind⟩ := punctuation?_width hp
      cases h
      exact absurd hl hkind
    · split at h
      · rfl
      · unfold Lexeme.readString at h
        split at h <;> cases h
        cases hl
      · unfold Lexeme.readQuotedName at h
        split at h <;> cases h
        cases hl
      · split at h
        · cases h
          simp only [Lexeme.readWord, Token.Kind.ofKeyword?] at hl
          split at hl <;> cases hl
        · cases h

/-- The next token is the word that is read behind the gap. -/
theorem Lexer.next_of_last {l : Lexer} (h : l.last = some last) :
    l.next = l.skip.take (Lexeme.read (!last.endsOperand) (skipGap l.rest)) := by
  rw [Lexer.next, Lexer.signAllowed, h]
  rfl

theorem Lexer.read_of_next {l following : Lexer} {t : Token} (hlast : l.last = some last)
    (h : l.next = (.ok t, following)) :
    ∃ w, Lexeme.read (!last.endsOperand) (skipGap l.rest) = .ok w ∧
      t.word = ⟨w.kind, String.ofList w.text⟩ ∧ following = ⟨l.text, w.rest, some w.kind⟩ := by
  rw [Lexer.next_of_last hlast] at h
  cases hread : Lexeme.read (!last.endsOperand) (skipGap l.rest) with
  | error e =>
    rw [hread] at h
    cases h
  | ok w =>
    rw [hread] at h
    cases h
    exact ⟨w, rfl, rfl, rfl⟩

/-- The tokens of a text have its words. -/
theorem Lexer.cuts_of_tokenize {l : Lexer} {tokens : List Token} (hlast : l.last = some last)
    (h : l.tokenize.1 = .ok tokens) :
    ∃ ts mark, tokens = ts ++ [mark] ∧ Cuts last l.rest (ts.map Token.word) := by
  fun_induction Lexer.tokenize l generalizing last tokens with
  | case1 l e stopped _ => cases h
  | case2 l t following hnext hfinish =>
    cases h
    obtain ⟨w, hread, hword, -⟩ := Lexer.read_of_next hlast hnext
    have hkind : t.kind = w.kind := congrArg Word.kind hword
    exact ⟨[], t, rfl, .finish (Lexeme.eq_nil_of_read hread (hkind.symm.trans hfinish))⟩
  | case3 l t following hnext hne more stopped hmore ih =>
    obtain ⟨w, hread, hword, rfl⟩ := Lexer.read_of_next hlast hnext
    have hkind : t.kind = w.kind := congrArg Word.kind hword
    cases more with
    | error e => cases h
    | ok rest =>
      cases h
      obtain ⟨ts, mark, rfl, hts⟩ := ih rfl (by rw [hmore])
      refine ⟨t :: ts, mark, rfl, ?_⟩
      rw [List.map_cons, hword]
      exact .word hread (fun hfinish => hne (hkind.trans hfinish)) hts

/-- Where there is no next token the reading stops. -/
theorem Lexer.tokenize_of_error {l following : Lexer} {e : LexError}
    (h : l.next = (.error e, following)) : l.tokenize = (.error e, following) := by
  rw [Lexer.tokenize]
  split <;> rename_i heq <;> rw [h] at heq <;> cases heq
  rfl

/-- The next token is the last one if it is the end mark, and stands before the others if not. -/
theorem Lexer.tokenize_of_next {l following : Lexer} {t : Token}
    (h : l.next = (.ok t, following)) :
    l.tokenize.1 = if t.kind = .finish then .ok [t] else following.tokenize.1.map (t :: ·) := by
  rw [Lexer.tokenize]
  split
  · rename_i heq
    rw [h] at heq
    cases heq
  · rename_i heq
    rw [h] at heq
    cases heq
    by_cases hkind : t.kind = .finish
    · rw [dif_pos hkind, if_pos hkind]
    · rw [dif_neg hkind, if_neg hkind]

/-- The words of a text are read as tokens, and then the end mark. -/
theorem Lexer.tokenize_of_cuts {l : Lexer} (hlast : l.last = some last)
    (h : Cuts last l.rest ws) :
    ∃ ts mark, l.tokenize.1 = .ok (ts ++ [mark]) ∧ ts.map Token.word = ws := by
  generalize hrest : l.rest = cs at h
  induction h generalizing l with
  | @finish last cs gap =>
    have hnext := Lexer.next_of_last hlast
    rw [hrest, gap] at hnext
    exact ⟨[], _, Lexer.tokenize_of_next hnext, rfl⟩
  | @word last cs w ws read kind more ih =>
    have hnext := Lexer.next_of_last hlast
    rw [hrest, read] at hnext
    obtain ⟨ts, mark, htokens, hts⟩ := @ih ⟨l.text, w.rest, some w.kind⟩ rfl rfl
    refine ⟨⟨w.kind, String.ofList w.text, l.skip.position⟩ :: ts, mark, ?_, ?_⟩
    · rw [Lexer.tokenize_of_next hnext, if_neg kind]
      exact congrArg (Except.map _) htokens
    · rw [List.map_cons, hts]
      rfl

end Tokens

/-! ### Blanks -/

/-- The code points of white space are none of letters, of numerals or of the underscore. -/
theorem blankRanges_disjoint : ∀ r ∈ blankRanges, ∀ n ∈ List.range' r.1 (r.2 + 1 - r.1),
    alphabeticRanges.containsCode n = false ∧ numericRanges.containsCode n = false ∧
      n ≠ '_'.toNat ∧ ¬(48 ≤ n ∧ n ≤ 57) := by
  decide +kernel

section Blanks

variable {b : Char}

/-- White space belongs to no name and to no number. -/
theorem continuesName_of_isBlank (hb : isBlank b = true) :
    continuesName b = false ∧ b.isDigit = false := by
  obtain ⟨r, hr, hlow, hhigh⟩ := CodeRanges.exists_of_containsCode hb
  obtain ⟨halphabetic, hnumeric, hunderscore, hdigit⟩ :=
    blankRanges_disjoint r hr b.toNat (List.mem_range'_1.2 ⟨hlow, by omega⟩)
  constructor
  · have hne : (b == '_') = false := beq_eq_false_iff_ne.2 fun h => hunderscore (h ▸ rfl)
    rw [continuesName, isAlphanumeric, isAlphabetic, isNumeric, CodeRanges.contains,
      CodeRanges.contains, halphabetic, hnumeric, hne]
    rfl
  · rw [← Bool.not_eq_true, Char.isDigit_iff_toNat]
    exact hdigit

/-- White space is not punctuation. -/
theorem ne_of_isBlank {c : Char} (hb : isBlank b = true) (hc : isBlank c = false) : b ≠ c := by
  rintro rfl
  exact absurd hb (by rw [hc]; exact Bool.false_ne_true)

end Blanks

/-! ### A blank behind a word -/

section Blank

variable {b : Char} (hb : isBlank b = true) (cs ds : List Char)

/-- A run of characters of a class without the blank ends in front of it. -/
theorem takeWhile_blank {p : Char → Bool} (hp : p b = false) :
    (cs ++ b :: ds).takeWhile p = cs.takeWhile p ∧
      (cs ++ b :: ds).dropWhile p = cs.dropWhile p ++ b :: ds := by
  induction cs with
  | nil => simp [hp]
  | cons c cs ih =>
    by_cases hc : p c = true
    · simp [hc, ih]
    · simp [hc]

include hb

theorem startsDigit_blank : startsDigit (cs ++ b :: ds) = startsDigit cs := by
  cases cs with
  | nil => exact (continuesName_of_isBlank hb).2
  | cons c cs => rfl

theorem digitsOf_blank : digitsOf (cs ++ b :: ds) = digitsOf cs :=
  (takeWhile_blank cs ds (continuesName_of_isBlank hb).2).1

theorem afterDigits_blank : afterDigits (cs ++ b :: ds) = afterDigits cs ++ b :: ds :=
  (takeWhile_blank cs ds (continuesName_of_isBlank hb).2).2

theorem startsNumber_blank (signAllowed : Bool) :
    startsNumber signAllowed (cs ++ b :: ds) = startsNumber signAllowed cs := by
  cases cs with
  | nil =>
    have hminus : b ≠ '-' := ne_of_isBlank hb (by decide)
    rw [List.nil_append, startsNumber.eq_2 _ _ fun _ h => hminus (List.cons.inj h).1]
    exact (continuesName_of_isBlank hb).2
  | cons c cs =>
    by_cases hc : c = '-'
    · subst hc
      exact congrArg (signAllowed && ·) (startsDigit_blank hb cs ds)
    · rw [List.cons_append, startsNumber.eq_2 _ _ fun _ h => hc (List.cons.inj h).1,
        startsNumber.eq_2 _ _ fun _ h => hc (List.cons.inj h).1]
      rfl

theorem minusOf_blank :
    minusOf (cs ++ b :: ds) = ((minusOf cs).1, (minusOf cs).2 ++ b :: ds) := by
  cases cs with
  | nil => exact minusOf_of_ne fun _ h => ne_of_isBlank hb (by decide) (List.cons.inj h).1
  | cons c cs =>
    by_cases hc : c = '-'
    · subst hc
      rfl
    · rw [List.cons_append, minusOf_of_ne fun _ h => hc (List.cons.inj h).1,
        minusOf_of_ne fun _ h => hc (List.cons.inj h).1]
      rfl

theorem fraction_blank :
    fractionOf (cs ++ b :: ds) = fractionOf cs ∧
      afterFraction (cs ++ b :: ds) = afterFraction cs ++ b :: ds := by
  cases cs with
  | nil =>
    have hpoint : ∀ more, b :: ds = '.' :: more → False :=
      fun _ h => ne_of_isBlank hb (by decide) (List.cons.inj h).1
    exact ⟨fractionOf.eq_2 _ hpoint, afterFraction.eq_2 _ hpoint⟩
  | cons c cs =>
    by_cases hc : c = '.'
    · subst hc
      simp only [List.cons_append, fractionOf, afterFraction, startsDigit_blank hb,
        digitsOf_blank hb, afterDigits_blank hb]
      cases startsDigit cs <;> simp
    · have hne : ∀ more, c :: cs = '.' :: more → False := fun _ h => hc (List.cons.inj h).1
      have hne' : ∀ more, c :: (cs ++ b :: ds) = '.' :: more → False :=
        fun _ h => hc (List.cons.inj h).1
      rw [List.cons_append, fractionOf.eq_2 _ hne, fractionOf.eq_2 _ hne',
        afterFraction.eq_2 _ hne, afterFraction.eq_2 _ hne']
      exact ⟨rfl, rfl⟩

end Blank

/-- The same word in a longer text. -/
def Lexeme.before (l : Lexeme) (more : List Char) : Lexeme :=
  { l with rest := l.rest ++ more }

section Words

variable {b : Char} {cs : List Char} (ds : List Char) {l : Lexeme}

theorem cutNumber_blank (hb : isBlank b = true) (cs : List Char) :
    Lexeme.cutNumber (cs ++ b :: ds) = (Lexeme.cutNumber cs).before (b :: ds) := by
  simp only [Lexeme.cutNumber, Lexeme.before, minusOf_blank hb, digitsOf_blank hb,
    afterDigits_blank hb, fraction_blank hb]

theorem readNumber_blank (hb : isBlank b = true) (h : Lexeme.readNumber cs = .ok l) :
    Lexeme.readNumber (cs ++ b :: ds) = .ok (l.before (b :: ds)) := by
  simp only [Lexeme.readNumber] at h ⊢
  rw [cutNumber_blank ds hb]
  by_cases hl : (Lexeme.cutNumber cs).isStorable = true
  · rw [if_pos hl] at h
    rw [if_pos (show ((Lexeme.cutNumber cs).before (b :: ds)).isStorable = true from hl),
      Except.ok.inj h]
  · rw [if_neg hl] at h
    cases h

/-- The closing quote of a string is the same in a longer text. -/
theorem closeString?_more {body rest : List Char} (more : List Char)
    (h : closeString? cs = some (body, rest)) :
    closeString? (cs ++ more) = some (body, rest ++ more) := by
  fun_induction closeString? cs generalizing body with
  | case1 => cases h
  | case2 rest =>
    cases h
    rfl
  | case3 c rest ih =>
    obtain ⟨⟨b, r⟩, hb, heq⟩ := Option.map_eq_some_iff.1 h
    cases heq
    simp only [List.cons_append, closeString?, ih hb, Option.map_some]
  | case4 c rest hc hslash ih =>
    obtain ⟨⟨b, r⟩, hb, heq⟩ := Option.map_eq_some_iff.1 h
    cases heq
    cases rest with
    | nil => cases hb
    | cons d rest =>
      rw [List.cons_append, closeString?.eq_4, ih hb]
      · rfl
      · exact hc
      · intro _ _ hc' _
        exact hslash _ _ hc' rfl

theorem closeName?_more {body rest : List Char} (more : List Char)
    (h : closeName? cs = some (body, rest)) :
    closeName? (cs ++ more) = some (body, rest ++ more) := by
  induction cs generalizing body with
  | nil => cases h
  | cons c cs ih =>
    rw [closeName?] at h
    rw [List.cons_append, closeName?]
    by_cases hc : c = '`'
    · rw [if_pos hc] at h ⊢
      cases h
      rfl
    · rw [if_neg hc] at h ⊢
      obtain ⟨⟨b, r⟩, hb, heq⟩ := Option.map_eq_some_iff.1 h
      cases heq
      rw [ih hb]
      rfl

/-- No punctuation begins or goes on with white space. -/
theorem punctuation?_blank (hb : isBlank b = true) (hne : cs ≠ []) :
    punctuation? (cs ++ b :: ds) = punctuation? cs := by
  -- the second character of a pair is the equals sign
  have hsecond : ∀ {tail : List Char}, (∀ more, tail = '=' :: more → False) →
      ∀ more, tail ++ b :: ds = '=' :: more → False := by
    intro tail htail more h
    cases tail with
    | nil => exact ne_of_isBlank hb (by decide) (List.cons.inj h).1
    | cons d tail => exact htail tail (congrArg (· :: tail) (List.cons.inj h).1)
  fun_cases punctuation? cs with
  | case16 tail htail => exact punctuation?.eq_16 _ (hsecond htail)
  | case17 tail htail => exact punctuation?.eq_17 _ (hsecond htail)
  | case18 tail htail => exact punctuation?.eq_18 _ (hsecond htail)
  | case19 _ h1 h2 h3 h4 h5 h6 h7 h8 h9 h10 h11 h12 h13 h14 h15 h16 h17 h18 =>
    obtain ⟨c, cs, rfl⟩ := List.exists_cons_of_ne_nil hne
    have hfirst : ∀ {d : Char}, (∀ more, c :: cs = d :: more → False) →
        ∀ more, c :: (cs ++ b :: ds) = d :: more → False := by
      intro d hd more h
      exact hd cs (congrArg (· :: cs) (List.cons.inj h).1)
    have hpair : ∀ {d : Char}, (∀ more, c :: cs = d :: '=' :: more → False) →
        ∀ more, c :: (cs ++ b :: ds) = d :: '=' :: more → False := by
      intro d hd more h
      obtain ⟨rfl, htail⟩ := List.cons.inj h
      exact hsecond (fun more hmore => hd more (congrArg (c :: ·) hmore)) more htail
    exact punctuation?.eq_19 _ (hpair h1) (hpair h2) (hpair h3) (hpair h4) (hfirst h5) (hfirst h6)
      (hfirst h7) (hfirst h8) (hfirst h9) (hfirst h10) (hfirst h11) (hfirst h12) (hfirst h13)
      (hfirst h14) (hfirst h15) (hfirst h16) (hfirst h17) (hfirst h18)
  | _ => rfl

theorem readWord_blank (hb : isBlank b = true) (cs : List Char) :
    Lexeme.readWord (cs ++ b :: ds) = (Lexeme.readWord cs).before (b :: ds) := by
  have hrun := takeWhile_blank cs ds (continuesName_of_isBlank hb).1
  simp only [Lexeme.readWord, Lexeme.before, hrun]

theorem readString_blank (h : Lexeme.readString cs = .ok l) :
    Lexeme.readString (cs ++ b :: ds) = .ok (l.before (b :: ds)) := by
  unfold Lexeme.readString at h
  split at h
  · rename_i hclose
    cases h
    simp only [Lexeme.readString, closeString?_more _ hclose, Lexeme.before]
  · cases h

theorem readQuotedName_blank (h : Lexeme.readQuotedName cs = .ok l) :
    Lexeme.readQuotedName (cs ++ b :: ds) = .ok (l.before (b :: ds)) := by
  unfold Lexeme.readQuotedName at h
  split at h
  · rename_i hclose
    cases h
    simp only [Lexeme.readQuotedName, closeName?_more _ hclose, Lexeme.before]
  · cases h

/-- **One word** is read alike in front of white space and at the end of the text. -/
theorem Lexeme.read_blank {signAllowed : Bool} (hb : isBlank b = true) (hne : cs ≠ [])
    (h : Lexeme.read signAllowed cs = .ok l) :
    Lexeme.read signAllowed (cs ++ b :: ds) = .ok (l.before (b :: ds)) := by
  rw [Lexeme.read.eq_def] at h ⊢
  rw [startsNumber_blank hb, punctuation?_blank ds hb hne]
  by_cases hnumber : startsNumber signAllowed cs = true
  · rw [if_pos hnumber] at h ⊢
    exact readNumber_blank ds hb h
  · rw [if_neg hnumber] at h ⊢
    cases hp : punctuation? cs with
    | some found =>
      obtain ⟨kind, width⟩ := found
      obtain ⟨-, hwidth, -⟩ := punctuation?_width hp
      simp only [hp] at h
      cases h
      simp only [Lexeme.before, List.take_append_of_le_length hwidth,
        List.drop_append_of_le_length hwidth]
    | none =>
      simp only [hp] at h ⊢
      split at h
      · exact absurd rfl hne
      · exact readString_blank ds h
      · exact readQuotedName_blank ds h
      · rename_i c rest hquote htick
        by_cases hc : beginsName c = true
        · rw [if_pos hc] at h
          cases h
          split
          · rename_i heq
            cases heq
          · rename_i heq
            exact absurd (List.cons.inj heq).1 hquote
          · rename_i heq
            exact absurd (List.cons.inj heq).1 htick
          · rename_i heq
            cases heq
            rw [if_pos hc, ← readWord_blank ds hb]
            rfl
        · rw [if_neg hc] at h
          cases h

end Words

/-! ### A line feed behind a gap -/

theorem skipGapFrom_lineFeed (cs ds : List Char) (inComment : Bool) :
    skipGapFrom inComment (cs ++ '\n' :: ds) =
      if skipGapFrom inComment cs = [] then skipGap ds
      else skipGapFrom inComment cs ++ '\n' :: ds := by
  induction cs generalizing inComment with
  | nil => cases inComment <;> rfl
  | cons c cs ih =>
    -- a slash at the end of the first text begins no comment
    have hhead : (cs ++ '\n' :: ds).head? = some '/' ↔ cs.head? = some '/' := by
      cases cs <;> simp
    simp only [List.cons_append, skipGapFrom, ih, hhead]
    split
    · rfl
    · split
      · rfl
      · split
        · rfl
        · simp

/-- A gap at the end of a text goes on behind the line feed, whether it ends in a comment or not. -/
theorem skipGap_lineFeed (cs ds : List Char) :
    skipGap (cs ++ '\n' :: ds) =
      if skipGap cs = [] then skipGap ds else skipGap cs ++ '\n' :: ds :=
  skipGapFrom_lineFeed cs ds false

/-! ### Two texts -/

/-- **Two texts**: a line feed between two texts keeps their words apart. -/
theorem Cuts.append_lineFeed {last : Token.Kind} {cs ds : List Char} {us ws : List Word}
    (h : Cuts last cs us) (hds : ∀ last, Cuts last ds ws) :
    Cuts last (cs ++ '\n' :: ds) (us ++ ws) := by
  induction h with
  | @finish last cs gap =>
    refine (hds last).of_skipGap ?_
    rw [skipGap_lineFeed, if_pos gap]
  | @word last cs l ws read kind more ih =>
    have hne : skipGap cs ≠ [] := by
      intro hnil
      rw [hnil] at read
      cases read
      exact kind rfl
    have hread := Lexeme.read_blank ds (b := '\n') (by decide) hne read
    have hgap : skipGap (cs ++ '\n' :: ds) = skipGap cs ++ '\n' :: ds := by
      rw [skipGap_lineFeed, if_neg hne]
    rw [← hgap] at hread
    exact Cuts.word (l := l.before ('\n' :: ds)) hread kind ih

end TablePipeline
