import Mathlib.Data.List.TakeWhile
import TablePipeline.Proofs.Query.Lexing
import TablePipeline.Proofs.Query.Spans

/-!
# White space between tokens

A lexer looks around when it reads a word: at the characters behind it, which may continue a number,
a name or a sign of two characters or make a slash the beginning of a comment, and at the word in
front of it, which decides whether a minus begins a number.  So two words that touch each other
might be read in another way when they are moved apart, and two that stand apart when the gap
between them is changed.

They are not.  A word that is read from the front of a text is also read when nothing follows it
(`Lexeme.exists_alone`): what the lexer saw behind it has only told it where to stop.  A blank tells
it the same (`Lexeme.read_blank`), and the kinds of the words in front do not depend on gaps.  That
is the step for one token; a run goes through all spans in order, whatever stands between them, as
long as it begins with white space and the comments in it are ended by line feeds.

## Main definitions

* `Spacing`, `IsSeparator` — white space and comments
* `Respaced` — the spans of a text, written out with separators around them

## Main statements

* `Lexeme.exists_alone` — a word with nothing behind it
* `Lexer.next_respaced`, `Lexer.Reads.respaced` — one token and a run
* `tokenize_respaced` — all tokens
-/

namespace TablePipeline

/-! ### Words with nothing behind them -/

section Numbers

variable {cs : List Char}

theorem digitsOf_of_not_startsDigit (h : startsDigit cs = false) :
    digitsOf cs = [] ∧ afterDigits cs = cs := by
  cases cs with
  | nil => exact ⟨rfl, rfl⟩
  | cons c cs =>
    have hc : ¬c.isDigit = true := Bool.eq_false_iff.1 h
    exact ⟨List.takeWhile_cons_of_neg hc, List.dropWhile_cons_of_neg hc⟩

/-- Digits end where no digit follows. -/
theorem digitsOf_append (cs : List Char) {more : List Char} (h : startsDigit more = false) :
    digitsOf (digitsOf cs ++ more) = digitsOf cs ∧ afterDigits (digitsOf cs ++ more) = more := by
  have hdigits : ∀ c ∈ digitsOf cs, c.isDigit = true := fun c hc => List.mem_takeWhile_imp hc
  obtain ⟨htake, hdrop⟩ := digitsOf_of_not_startsDigit h
  constructor
  · rw [digitsOf, List.takeWhile_append_of_pos hdigits]
    exact (congrArg (digitsOf cs ++ ·) htake).trans (List.append_nil _)
  · rw [afterDigits, List.dropWhile_append_of_pos hdigits]
    exact hdrop

/-- A fraction is a point and digits, or nothing. -/
theorem fractionOf_cases (cs : List Char) :
    fractionOf cs = [] ∨
      ∃ more, startsDigit more = true ∧ fractionOf cs = '.' :: digitsOf more := by
  unfold fractionOf
  split
  · rename_i more
    by_cases h : startsDigit more = true
    · exact .inr ⟨more, h, if_pos h⟩
    · exact .inl (if_neg h)
  · exact .inl rfl

theorem startsDigit_fractionOf (cs : List Char) : startsDigit (fractionOf cs) = false := by
  rcases fractionOf_cases cs with h | ⟨more, -, h⟩ <;> rw [h] <;> rfl

/-- A fraction ends where its digits do. -/
theorem fractionOf_fractionOf (cs : List Char) :
    fractionOf (fractionOf cs) = fractionOf cs ∧ afterFraction (fractionOf cs) = [] := by
  rcases fractionOf_cases cs with h | ⟨more, hmore, h⟩
  · rw [h]
    exact ⟨rfl, rfl⟩
  · have hstart := startsDigit_digitsOf more [] hmore
    have hdigits := digitsOf_append more (show startsDigit [] = false from rfl)
    rw [List.append_nil] at hstart hdigits
    rw [h]
    simp only [fractionOf, afterFraction, if_pos hstart, hdigits, and_self]

/-- Behind the sign of a number there is no minus. -/
theorem unsigned_ne_minus (cs : List Char) :
    ∀ rest, digitsOf cs ++ fractionOf (afterDigits cs) ≠ '-' :: rest := by
  intro rest h
  cases hdigits : digitsOf cs with
  | nil =>
    rw [hdigits, List.nil_append] at h
    rcases fractionOf_cases (afterDigits cs) with hfraction | ⟨more, -, hfraction⟩
    · rw [hfraction] at h
      cases h
    · rw [hfraction] at h
      exact absurd (List.cons.inj h).1 (by decide)
  | cons c digits =>
    rw [hdigits] at h
    have hc : c.isDigit = true := List.mem_takeWhile_imp (l := cs) (by
      rw [← digitsOf, hdigits]
      exact List.mem_cons_self)
    rw [(List.cons.inj h).1] at hc
    exact absurd hc (by decide)

theorem minusOf_sign_append (cs : List Char) {unsigned : List Char}
    (h : ∀ rest, unsigned ≠ '-' :: rest) :
    minusOf ((minusOf cs).1 ++ unsigned) = ((minusOf cs).1, unsigned) := by
  by_cases hcs : ∃ rest, cs = '-' :: rest
  · obtain ⟨rest, rfl⟩ := hcs
    rfl
  · rw [minusOf_of_ne fun rest heq => hcs ⟨rest, heq⟩]
    exact minusOf_of_ne h

theorem cutNumber_text (cs : List Char) :
    Lexeme.cutNumber (Lexeme.cutNumber cs).text = { Lexeme.cutNumber cs with rest := [] } := by
  have hdigits := digitsOf_append (minusOf cs).2
    (startsDigit_fractionOf (afterDigits (minusOf cs).2))
  have hfraction := fractionOf_fractionOf (afterDigits (minusOf cs).2)
  have hminus := minusOf_sign_append cs (unsigned_ne_minus (minusOf cs).2)
  simp only [Lexeme.cutNumber, List.append_assoc, hminus, hdigits, hfraction]

theorem startsNumber_text {signAllowed : Bool} (h : startsNumber signAllowed cs = true) :
    startsNumber signAllowed (Lexeme.cutNumber cs).text = true := by
  have hunsigned := unsigned_ne_minus (minusOf cs).2
  simp only [Lexeme.cutNumber, List.append_assoc]
  revert h hunsigned
  unfold minusOf
  split
  · rename_i rest
    intro h _
    obtain ⟨hsign, hdigit⟩ := Bool.and_eq_true_iff.1 (show (signAllowed && startsDigit rest) = true
      from h)
    exact Bool.and_eq_true_iff.2 ⟨hsign, startsDigit_digitsOf rest _ hdigit⟩
  · rename_i hne
    intro h hunsigned
    rw [startsNumber.eq_2 _ _ hne] at h
    rw [List.nil_append, startsNumber.eq_2 _ _ hunsigned]
    exact startsDigit_digitsOf cs _ h

end Numbers

section Words

variable {signAllowed : Bool} {cs : List Char} {l : Lexeme}

theorem punctuation?_take {kind : Token.Kind} {width : Nat} (signAllowed : Bool)
    (h : punctuation? cs = some (kind, width)) :
    punctuation? (cs.take width) = some (kind, width) ∧
      startsNumber signAllowed (cs.take width) = false := by
  unfold punctuation? at h
  split at h <;> cases h <;> cases signAllowed <;> exact ⟨rfl, rfl⟩

/-- The body of a string is read up to the quote behind it. -/
theorem StandsFor.closeString? {body text : List Char} (h : StandsFor body text)
    (rest : List Char) :
    TablePipeline.closeString? (body ++ '"' :: rest) = some (body, rest) := by
  induction h with
  | nil => rfl
  | @plain c body text quote backslash more ih =>
    rw [List.cons_append, TablePipeline.closeString?.eq_4, ih]
    · rfl
    · exact quote
    · exact fun _ _ hc _ => backslash hc
  | quote more ih | backslash more ih | lineFeed more ih | tab more ih | kept unknown more ih =>
    rw [List.cons_append, List.cons_append, TablePipeline.closeString?, ih]
    rfl

/-- What begins a name begins nothing else. -/
theorem punctuation?_of_beginsName {c : Char} (h : beginsName c = true) (cs : List Char) :
    punctuation? (c :: cs) = none := by
  unfold punctuation?
  split <;> first
    | rfl
    | (rename_i heq
       rw [(List.cons.inj heq).1] at h
       exact absurd h (by decide))

theorem startsNumber_of_beginsName {c : Char} (h : beginsName c = true) (cs : List Char) :
    startsNumber signAllowed (c :: cs) = c.isDigit := by
  have hminus : c ≠ '-' := by
    rintro rfl
    exact absurd h (by decide)
  exact startsNumber.eq_2 _ _ fun _ heq => hminus (List.cons.inj heq).1

theorem read_of_beginsName {c : Char} (hc : beginsName c = true) (hdigit : c.isDigit = false)
    (cs : List Char) :
    Lexeme.read signAllowed (c :: cs) = .ok (Lexeme.readWord (c :: cs)) := by
  rw [Lexeme.read.eq_def, startsNumber_of_beginsName hc, hdigit, if_neg Bool.false_ne_true,
    punctuation?_of_beginsName hc]
  dsimp only
  split
  · rename_i heq
    cases heq
  · rename_i heq
    rw [(List.cons.inj heq).1] at hc
    exact absurd hc (by decide)
  · rename_i heq
    rw [(List.cons.inj heq).1] at hc
    exact absurd hc (by decide)
  · rename_i heq
    cases heq
    exact if_pos hc

/-! The word that is read is also read from its own characters, by the way in which it begins. -/

theorem exists_alone_of_startsNumber (hnumber : startsNumber signAllowed cs = true)
    (h : Lexeme.readNumber cs = .ok l) :
    ∃ chars, cs = chars ++ l.rest ∧ Lexeme.read signAllowed chars = .ok { l with rest := [] } := by
  obtain rfl := readNumber_eq_ok h
  refine ⟨_, (cutNumber_append cs).symm, ?_⟩
  rw [Lexeme.read.eq_def, if_pos (startsNumber_text hnumber)]
  simp only [Lexeme.readNumber] at h ⊢
  rw [cutNumber_text]
  split at h
  · rename_i hstorable
    exact if_pos hstorable
  · cases h

theorem exists_alone_of_readString (h : Lexeme.readString cs = .ok l) :
    ∃ chars, '"' :: cs = chars ++ l.rest ∧
      Lexeme.read signAllowed chars = .ok { l with rest := [] } := by
  unfold Lexeme.readString at h
  split at h
  · rename_i body rest hclose
    cases h
    obtain ⟨rfl, hbody⟩ := closeString?_eq_some hclose
    refine ⟨'"' :: (body ++ ['"']), by simp, ?_⟩
    show Lexeme.readString (body ++ ['"']) = _
    rw [Lexeme.readString, hbody.closeString?]
  · cases h

theorem exists_alone_of_readQuotedName (h : Lexeme.readQuotedName cs = .ok l) :
    ∃ chars, '`' :: cs = chars ++ l.rest ∧
      Lexeme.read signAllowed chars = .ok { l with rest := [] } := by
  unfold Lexeme.readQuotedName at h
  split at h
  · rename_i body rest hclose
    cases h
    obtain ⟨rfl, hbody⟩ := closeName?_eq_some hclose
    refine ⟨'`' :: (body ++ ['`']), by simp, ?_⟩
    show Lexeme.readQuotedName (body ++ ['`']) = _
    rw [Lexeme.readQuotedName, closeName?_append hbody]
  · cases h

theorem exists_alone_of_beginsName {c : Char} (hc : beginsName c = true)
    (hdigit : c.isDigit = false) (cs : List Char) :
    ∃ chars, c :: cs = chars ++ (Lexeme.readWord (c :: cs)).rest ∧
      Lexeme.read signAllowed chars = .ok { Lexeme.readWord (c :: cs) with rest := [] } := by
  have hfirst : continuesName c = true := by
    rw [continuesName, isAlphanumeric, Bool.or_eq_true, Bool.or_eq_true]
    exact (Bool.or_eq_true_iff.1 hc).imp .inl id
  have hall : ∀ d ∈ c :: cs.takeWhile continuesName, continuesName d = true :=
    List.forall_mem_cons.2 ⟨hfirst, fun d hd => List.mem_takeWhile_imp hd⟩
  refine ⟨c :: cs.takeWhile continuesName, ?_, ?_⟩
  · show c :: cs = _ ++ (c :: cs).dropWhile continuesName
    rw [List.dropWhile_cons_of_pos hfirst, List.cons_append, List.takeWhile_append_dropWhile]
  · rw [read_of_beginsName hc hdigit]
    simp only [Lexeme.readWord, List.takeWhile_eq_self_iff.2 hall,
      List.dropWhile_eq_nil_iff.2 hall, List.takeWhile_cons_of_pos hfirst]

/-- **A word alone**: the word that is read from the front of a text is read from its own characters
when nothing follows them. -/
theorem Lexeme.exists_alone (h : Lexeme.read signAllowed cs = .ok l) :
    ∃ chars, cs = chars ++ l.rest ∧ Lexeme.read signAllowed chars = .ok { l with rest := [] } := by
  rw [Lexeme.read.eq_def] at h
  split at h
  · rename_i hnumber
    exact exists_alone_of_startsNumber hnumber h
  · rename_i hnumber
    split at h
    · rename_i kind width hp
      cases h
      obtain ⟨hpunctuation, hstart⟩ := punctuation?_take signAllowed hp
      refine ⟨_, (List.take_append_drop _ _).symm, ?_⟩
      rw [Lexeme.read.eq_def, hstart, if_neg Bool.false_ne_true, hpunctuation]
      simp [List.take_take]
    · split at h
      · cases h
        exact ⟨[], rfl, by cases signAllowed <;> rfl⟩
      · exact exists_alone_of_readString h
      · exact exists_alone_of_readQuotedName h
      · split at h
        · rename_i hc
          cases h
          rw [Bool.not_eq_true, startsNumber_of_beginsName hc] at hnumber
          exact exists_alone_of_beginsName hc hnumber _
        · cases h

end Words

/-! ### Separators -/

/-- White space and comments, each comment being ended by a line feed. -/
inductive Spacing : List Char → Prop
  | nil : Spacing []
  | blank {c : Char} {cs : List Char} (blank : isBlank c = true) (more : Spacing cs) :
      Spacing (c :: cs)
  | comment {body cs : List Char} (line : '\n' ∉ body) (more : Spacing cs) :
      Spacing ('/' :: '/' :: (body ++ '\n' :: cs))

/-- White space and comments of which the first character is white space. -/
def IsSeparator (cs : List Char) : Prop :=
  ∃ b more, isBlank b = true ∧ Spacing more ∧ cs = b :: more

/-- The characters of a span. -/
def Span.chars (text : List Char) (w : Span) : List Char :=
  text.extract w.start w.stop

/-- The spans of a text, in order, with a separator in front of each of them and one behind the
last. -/
inductive Respaced (text : List Char) : List Span → List Char → Prop
  | last {gap : List Char} (separator : IsSeparator gap) : Respaced text [] gap
  | span {w : Span} {spans : List Span} {gap cs : List Char} (separator : IsSeparator gap)
      (more : Respaced text spans cs) : Respaced text (w :: spans) (gap ++ (w.chars text ++ cs))

section Separators

variable {text cs gap rest chars : List Char} {spans : List Span} {b : Char}

theorem IsSeparator.spacing (h : IsSeparator gap) : Spacing gap := by
  obtain ⟨b, more, hb, hmore, rfl⟩ := h
  exact .blank hb hmore

/-- What is written out begins with white space. -/
theorem Respaced.exists_blank (h : Respaced text spans cs) :
    ∃ b rest, isBlank b = true ∧ cs = b :: rest := by
  cases h with
  | last separator =>
    obtain ⟨b, more, hb, -, rfl⟩ := separator
    exact ⟨b, more, hb, rfl⟩
  | span separator more =>
    obtain ⟨b, gap, hb, -, rfl⟩ := separator
    exact ⟨b, _, hb, rfl⟩

theorem skipGapFrom_comment {body : List Char} (hline : '\n' ∉ body) (rest : List Char) :
    skipGapFrom true (body ++ '\n' :: rest) = skipGap rest := by
  induction body with
  | nil => rfl
  | cons c body ih =>
    obtain ⟨hc, hbody⟩ := not_or.1 (mt List.mem_cons.2 hline)
    rw [List.cons_append, skipGapFrom, if_pos rfl, bne_iff_ne.2 (Ne.symm hc)]
    exact ih hbody

/-- A gap in front of a text makes no difference. -/
theorem Spacing.skipGap_append (h : Spacing gap) (rest : List Char) :
    skipGap (gap ++ rest) = skipGap rest := by
  induction h with
  | nil => rfl
  | blank blank more ih =>
    rw [List.cons_append, skipGap, skipGapFrom, if_neg Bool.false_ne_true, if_pos blank]
    exact ih
  | comment line more ih =>
    rw [List.cons_append, List.cons_append, List.append_assoc, List.cons_append]
    exact (skipGapFrom_comment line _).trans ih

theorem skipGap_cons_eq_self_iff {c : Char} :
    skipGap (c :: cs) = c :: cs ↔ isBlank c = false ∧ ¬(c = '/' ∧ cs.head? = some '/') := by
  refine ⟨fun h => ?_, fun h => skipGap_eq_self h.1 h.2⟩
  -- what is skipped makes the text shorter
  have hshort : ∀ inComment, skipGapFrom inComment cs ≠ c :: cs := fun inComment heq =>
    absurd (heq ▸ length_skipGapFrom_le inComment cs) (Nat.not_succ_le_self _)
  rw [skipGap, skipGapFrom, if_neg Bool.false_ne_true] at h
  by_cases hblank : isBlank c = true
  · rw [if_pos hblank] at h
    exact absurd h (hshort false)
  · rw [if_neg hblank] at h
    by_cases hcomment : c = '/' ∧ cs.head? = some '/'
    · rw [if_pos hcomment] at h
      exact absurd h (hshort true)
    · exact ⟨Bool.eq_false_iff.2 hblank, hcomment⟩

/-- No gap is left behind a gap. -/
theorem skipGap_skipGapFrom (inComment : Bool) (cs : List Char) :
    skipGap (skipGapFrom inComment cs) = skipGapFrom inComment cs := by
  induction cs generalizing inComment with
  | nil => rfl
  | cons c cs ih =>
    rw [skipGapFrom]
    split
    · exact ih _
    · split
      · exact ih _
      · rename_i hblank
        split
        · exact ih _
        · rename_i hcomment
          exact skipGap_eq_self (Bool.eq_false_iff.2 hblank) hcomment

/-- White space behind a word does not make a gap of its first character. -/
theorem skipGap_word (hchars : chars ≠ []) (h : skipGap (chars ++ cs) = chars ++ cs)
    (hb : isBlank b = true) :
    skipGap (chars ++ b :: rest) = chars ++ b :: rest := by
  obtain ⟨c, chars, rfl⟩ := List.exists_cons_of_ne_nil hchars
  rw [List.cons_append, skipGap_cons_eq_self_iff] at h ⊢
  refine ⟨h.1, fun hcomment => ?_⟩
  cases chars with
  | nil => exact ne_of_isBlank hb (by decide) (Option.some.inj hcomment.2)
  | cons d chars => exact h.2 hcomment

end Separators

/-! ### Tokens -/

namespace Lexer

variable {l following last last' l' : Lexer} {t : Token} {gap rest : List Char} {b : Char}
  {spans spans' : List Span}

/-- What a lexer reads depends only on how many tokens it reads. -/
theorem Reads.unique (h : l.Reads spans last) (h' : l.Reads spans' last')
    (hlength : spans.length = spans'.length) : spans = spans' := by
  induction h generalizing spans' with
  | refl l => exact (List.eq_nil_of_length_eq_zero hlength.symm).symm
  | @token l following last t spans next kind more ih =>
    cases h' with
    | refl => cases hlength
    | token next' kind' more' =>
      rw [next] at next'
      cases next'
      rw [ih more' (Nat.succ.inj hlength)]

/-- The characters of the span of a token are those of the word that is read. -/
theorem exists_alone_of_next (hl : l.Within) (h : l.next = (.ok t, following)) :
    ∃ w, Lexeme.read l.signAllowed (Span.chars l.text ⟨t, following.position⟩) = .ok w ∧
      w.rest = [] ∧ t.word = ⟨w.kind, String.ofList w.text⟩ ∧ following.last = some w.kind ∧
      skipGap (Span.chars l.text ⟨t, following.position⟩ ++ following.rest) =
        Span.chars l.text ⟨t, following.position⟩ ++ following.rest := by
  obtain ⟨w, hread, rfl, rfl⟩ := next_eq_ok h
  obtain ⟨chars, hchars, halone⟩ := Lexeme.exists_alone hread
  have hskip : skipGap (chars ++ w.rest) = chars ++ w.rest := by
    rw [← hchars]
    exact skipGap_skipGapFrom false l.rest
  have hspan : Span.chars l.text ⟨⟨w.kind, String.ofList w.text, l.skip.position⟩,
      Lexer.position ⟨l.text, w.rest, some w.kind⟩⟩ = chars := by
    obtain ⟨before, hbefore⟩ := hl.skip
    have htext : before ++ (chars ++ w.rest) = l.text := hchars ▸ hbefore
    have hstop : Lexer.position ⟨l.text, w.rest, some w.kind⟩ = (before ++ chars).length :=
      position_of_append (by rw [List.append_assoc]; exact htext)
    rw [Span.chars, Span.start, hstop, position_of_append hbefore, ← htext,
      List.extract_eq_take_drop, List.drop_left, List.length_append, Nat.add_sub_cancel_left,
      List.take_left]
  rw [hspan]
  exact ⟨_, halone, rfl, rfl, rfl, hskip⟩

/-- **One token** is read again behind any gap and in front of white space. -/
theorem next_respaced (hl : l.Within) (h : l.next = (.ok t, following))
    (hkind : t.kind ≠ .finish) (hsign : l'.signAllowed = l.signAllowed) (hgap : Spacing gap)
    (hb : isBlank b = true)
    (hrest : l'.rest = gap ++ (Span.chars l.text ⟨t, following.position⟩ ++ b :: rest)) :
    ∃ t' following', l'.next = (.ok t', following') ∧ t'.word = t.word ∧
      following'.rest = b :: rest ∧ following'.signAllowed = following.signAllowed := by
  obtain ⟨w, hread, hnothing, hword, hlast, hskip⟩ := exists_alone_of_next hl h
  generalize Span.chars l.text ⟨t, following.position⟩ = chars at hread hskip hrest
  have hfinish : w.kind ≠ .finish := by
    rw [← show t.kind = w.kind from congrArg Word.kind hword]
    exact hkind
  have hne : chars ≠ [] := by
    rintro rfl
    rcases Lexeme.length_read hread with ⟨hend, -⟩ | hlt
    · exact hfinish hend
    · exact Nat.not_lt_zero _ hlt
  have hfront : skipGap l'.rest = chars ++ b :: rest := by
    rw [hrest, hgap.skipGap_append, skipGap_word hne hskip hb]
  have hread' : Lexeme.read l'.signAllowed (skipGap l'.rest) = .ok (w.before (b :: rest)) := by
    rw [hfront, hsign]
    exact Lexeme.read_blank rest hb hne hread
  have hnext : l'.next = l'.skip.take (Lexeme.read l'.signAllowed (skipGap l'.rest)) := rfl
  rw [hread'] at hnext
  refine ⟨_, _, hnext, hword.symm, ?_, ?_⟩
  · show w.rest ++ b :: rest = b :: rest
    rw [hnothing, List.nil_append]
  · rw [signAllowed, signAllowed, hlast]
    rfl

/-- **A run**: the spans that a lexer reads, written out with separators around them, have the same
words behind any lexer that reads signs alike. -/
theorem Reads.respaced (h : l.Reads spans last) (l' : Lexer) (hl : l.Within)
    (hsign : l'.signAllowed = l.signAllowed) (hrest : Respaced l.text spans l'.rest) :
    ∃ ts mark, l'.tokenize.1 = .ok (ts ++ [mark]) ∧
      ts.map Token.word = spans.map (Token.word ∘ Span.token) ∧ mark.word = ⟨.finish, ""⟩ := by
  induction h generalizing l' with
  | refl l =>
    cases hrest with
    | last separator =>
      have hnil : skipGap l'.rest = [] := by
        have hskip := separator.spacing.skipGap_append []
        rwa [List.append_nil] at hskip
      have hread : Lexeme.read l'.signAllowed (skipGap l'.rest) = .ok ⟨.finish, [], []⟩ := by
        rw [hnil]
        cases l'.signAllowed <;> rfl
      have hnext : l'.next = l'.skip.take (Lexeme.read l'.signAllowed (skipGap l'.rest)) := rfl
      rw [hread] at hnext
      exact ⟨[], _, congrArg Prod.fst (tokenize_of_finish hnext rfl), rfl, rfl⟩
  | @token l following last t spans next kind more ih =>
    generalize hcs : l'.rest = cs at hrest
    cases hrest with
    | @span _ _ gap cs separator hmore =>
      obtain ⟨b, rest, hb, rfl⟩ := hmore.exists_blank
      obtain ⟨t', following', hnext', hword, hrest', hsign'⟩ :=
        next_respaced hl next kind hsign separator.spacing hb hcs
      have hkind' : t'.kind ≠ .finish := by
        rw [show t'.kind = t.kind from congrArg Word.kind hword]
        exact kind
      have hfollowing : l.next.2 = following := congrArg Prod.snd next
      have htext : following.text = l.text := hfollowing ▸ text_next l
      obtain ⟨ts, mark, htokens, hts, hmark⟩ := ih following' (hfollowing ▸ hl.next) hsign' (by
        rw [htext, hrest']
        exact hmore)
      refine ⟨t' :: ts, mark, ?_, ?_, hmark⟩
      · rw [tokenize_of_token hnext' hkind', htokens]
        rfl
      · rw [List.map_cons, List.map_cons, hts, hword]
        rfl

end Lexer

/-! ### Whole texts -/

/-- **White space and comments between tokens are insignificant.**  When a text is read as tokens,
their spans may be written out in order with other white space and comments around them; the tokens
have the same kinds and texts. -/
theorem tokenize_respaced (s : String) (tokens : List Token)
    (h : (Lexer.ofString s).tokenize.1 = .ok tokens) :
    ∃ spans last, (Lexer.ofString s).Reads spans last ∧
      tokens = spans.map Span.token ++ [⟨.finish, "", s.length⟩] ∧
      ∀ s' : String, Respaced s.toList spans s'.toList →
        ∃ tokens', (Lexer.ofString s').tokenize.1 = .ok tokens' ∧
          tokens'.map Token.word = tokens.map Token.word := by
  obtain ⟨spans, last, hreads, htokens, -, -⟩ := Lexer.tiles_of_tokenize h
  refine ⟨spans, last, hreads, htokens, fun s' hs' => ?_⟩
  obtain ⟨ts, mark, hok, hts, hmark⟩ :=
    hreads.respaced (Lexer.ofString s') (List.suffix_refl _) rfl hs'
  refine ⟨ts ++ [mark], hok, ?_⟩
  rw [htokens, List.map_append, List.map_append, hts, List.map_map, List.map_singleton, hmark]
  rfl

/-- A sign of two characters is not split and a minus goes on to be a sign, and what is written in a
comment is not read. -/
theorem tokenize_respaced_comparison :
    ∃ tokens tokens', (Lexer.ofString "x<=-1").tokenize.1 = .ok tokens ∧
      (Lexer.ofString "\n x //1\n <=\t//x\n\n-1 ").tokenize.1 = .ok tokens' ∧
      tokens.map Token.word = [⟨.name, "x"⟩, ⟨.lessEqual, "<="⟩, ⟨.integer, "-1"⟩, ⟨.finish, ""⟩] ∧
      tokens'.map Token.word = tokens.map Token.word := by
  let text : List Char := ['x', '<', '=', '-', '1']
  have hfirst : Lexer.next ⟨text, text, none⟩ =
      (.ok ⟨.name, "x", 0⟩, ⟨text, text.drop 1, some .name⟩) := rfl
  have hsecond : Lexer.next ⟨text, text.drop 1, some .name⟩ =
      (.ok ⟨.lessEqual, "<=", 1⟩, ⟨text, text.drop 3, some .lessEqual⟩) := rfl
  have hthird : Lexer.next ⟨text, text.drop 3, some .lessEqual⟩ =
      (.ok ⟨.integer, "-1", 3⟩, ⟨text, [], some .integer⟩) := rfl
  have hreads : (Lexer.ofString "x<=-1").Reads
      [⟨⟨.name, "x", 0⟩, 1⟩, ⟨⟨.lessEqual, "<=", 1⟩, 3⟩, ⟨⟨.integer, "-1", 3⟩, 5⟩]
      ⟨text, [], some .integer⟩ :=
    .token hfirst nofun (.token hsecond nofun (.token hthird nofun (.refl _)))
  have hok : (Lexer.ofString "x<=-1").tokenize.1 =
      .ok [⟨.name, "x", 0⟩, ⟨.lessEqual, "<=", 1⟩, ⟨.integer, "-1", 3⟩, ⟨.finish, "", 5⟩] := by
    rw [Lexer.tokenize_of_token (l := Lexer.ofString "x<=-1") hfirst nofun,
      Lexer.tokenize_of_token hsecond nofun, Lexer.tokenize_of_token hthird nofun,
      Lexer.tokenize_of_finish (t := ⟨.finish, "", 5⟩) rfl rfl]
    rfl
  obtain ⟨spans, last, hspans, htokens, hall⟩ := tokenize_respaced _ _ hok
  have hlength : spans.length = 3 := by
    simpa using (congrArg List.length htokens).symm
  rw [hspans.unique hreads hlength] at hall
  have hline : isBlank '\n' = true := by decide
  have hspace : isBlank ' ' = true := by decide
  have htab : isBlank '\t' = true := by decide
  have hcomment : ∀ c {cs}, c ≠ '\n' → Spacing cs → Spacing ('/' :: '/' :: ([c] ++ '\n' :: cs)) :=
    fun c cs hc hcs => .comment (mt List.mem_singleton.1 (Ne.symm hc)) hcs
  have hfront : IsSeparator ['\n', ' '] := ⟨_, _, hline, .blank hspace .nil, rfl⟩
  have hmiddle : IsSeparator [' ', '/', '/', '1', '\n', ' '] :=
    ⟨_, _, hspace, hcomment '1' (by decide) (.blank hspace .nil), rfl⟩
  have hnext : IsSeparator ['\t', '/', '/', 'x', '\n', '\n'] :=
    ⟨_, _, htab, hcomment 'x' (by decide) (.blank hline .nil), rfl⟩
  obtain ⟨tokens', hok', hwords⟩ := hall "\n x //1\n <=\t//x\n\n-1 "
    (.span hfront (.span hmiddle (.span hnext (.last ⟨_, _, hspace, .nil, rfl⟩))))
  exact ⟨_, tokens', hok, hok', rfl, hwords⟩

end TablePipeline
