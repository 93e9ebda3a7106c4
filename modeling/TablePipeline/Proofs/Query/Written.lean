import TablePipeline.Proofs.Query.Cuts

/-!
# What words and gaps are made of

A word is cut from the front of a text together with the rest, and a gap is skipped.  Here the
characters themselves are described: what is cut off is what the word is written as, with the quotes
and escapes it has there, and what is skipped is white space and whole comments.  Nothing is said of
how the characters were gone through.

A fault leaves a rest too.  A character that begins no word is left where it stands; any other fault
comes up inside a word, behind its first character.

## Main definitions

* `StandsFor` — what the body of a string stands for
* `WrittenAs` — the characters of a word
* `Gap` — white space and comments in front of a text

## Main statements

* `Lexeme.written_of_read` — a word and the rest are the whole text
* `Lexeme.stopped_of_read` — where the reading of a word stops
* `gap_skipGap` — what is skipped
-/

namespace TablePipeline

/-! ### The characters of a word -/

/-- What the body of a string stands for: an escaped quote, backslash, `n` or `t` is decoded, every
other pair of a backslash and a character is kept. -/
inductive StandsFor : List Char → List Char → Prop
  | nil : StandsFor [] []
  | plain {c : Char} {body text : List Char} (quote : c ≠ '"') (backslash : c ≠ '\\')
      (more : StandsFor body text) : StandsFor (c :: body) (c :: text)
  | quote {body text : List Char} (more : StandsFor body text) :
      StandsFor ('\\' :: '"' :: body) ('"' :: text)
  | backslash {body text : List Char} (more : StandsFor body text) :
      StandsFor ('\\' :: '\\' :: body) ('\\' :: text)
  | lineFeed {body text : List Char} (more : StandsFor body text) :
      StandsFor ('\\' :: 'n' :: body) ('\n' :: text)
  | tab {body text : List Char} (more : StandsFor body text) :
      StandsFor ('\\' :: 't' :: body) ('\t' :: text)
  | kept {c : Char} {body text : List Char} (unknown : c ∉ ['"', '\\', 'n', 't'])
      (more : StandsFor body text) : StandsFor ('\\' :: c :: body) ('\\' :: c :: text)

/-- The characters of a word: the body of a string between double quotes, a name between backticks,
or the text of the word itself. -/
def WrittenAs (kind : Token.Kind) (text chars : List Char) : Prop :=
  match kind with
  | .string => ∃ body, chars = '"' :: (body ++ ['"']) ∧ StandsFor body text
  | .quotedName => chars = '`' :: (text ++ ['`']) ∧ '`' ∉ text
  | _ => chars = text

theorem writtenAs_self {kind : Token.Kind} (hstring : kind ≠ .string)
    (hname : kind ≠ .quotedName) (text : List Char) : WrittenAs kind text text := by
  cases kind with
  | string => exact absurd rfl hstring
  | quotedName => exact absurd rfl hname
  | _ => exact rfl

theorem StandsFor.escapeMeaning {body text : List Char} (c : Char) (more : StandsFor body text) :
    StandsFor ('\\' :: c :: body) (escapeMeaning c ++ text) := by
  unfold TablePipeline.escapeMeaning
  split
  · exact .quote more
  · exact .backslash more
  · exact .lineFeed more
  · exact .tab more
  · rename_i hquote hbackslash hn ht
    refine .kept ?_ more
    simpa only [List.mem_cons, List.not_mem_nil, or_false, not_or] using
      ⟨hquote, hbackslash, hn, ht⟩

section Words

variable {cs body rest : List Char} {l : Lexeme}

/-- The body of a string ends in front of the first quote that no backslash protects. -/
theorem closeString?_eq_some (h : closeString? cs = some (body, rest)) :
    cs = body ++ '"' :: rest ∧ StandsFor body (unescape body) := by
  fun_induction closeString? cs generalizing body with
  | case1 => cases h
  | case2 r =>
    cases h
    exact ⟨rfl, .nil⟩
  | case3 c r ih =>
    obtain ⟨⟨b, after⟩, hb, heq⟩ := Option.map_eq_some_iff.1 h
    cases heq
    obtain ⟨rfl, hbody⟩ := ih hb
    exact ⟨rfl, hbody.escapeMeaning c⟩
  | case4 c r hquote hpair ih =>
    obtain ⟨⟨b, after⟩, hb, heq⟩ := Option.map_eq_some_iff.1 h
    cases heq
    obtain ⟨rfl, hbody⟩ := ih hb
    -- a backslash has a character behind it here, the closing quote if no other
    have hbackslash : c ≠ '\\' := by
      intro hc
      cases b with
      | nil => exact hpair _ _ hc rfl
      | cons d b => exact hpair _ _ hc rfl
    refine ⟨rfl, ?_⟩
    rw [unescape.eq_3 c b fun _ _ hc _ => hbackslash hc]
    exact .plain hquote hbackslash hbody

theorem closeName?_eq_some (h : closeName? cs = some (body, rest)) :
    cs = body ++ '`' :: rest ∧ '`' ∉ body := by
  induction cs generalizing body with
  | nil => cases h
  | cons c cs ih =>
    rw [closeName?] at h
    by_cases hc : c = '`'
    · rw [if_pos hc] at h
      cases h
      rw [hc]
      exact ⟨rfl, List.not_mem_nil⟩
    · rw [if_neg hc] at h
      obtain ⟨⟨b, after⟩, hb, heq⟩ := Option.map_eq_some_iff.1 h
      cases heq
      obtain ⟨rfl, hbody⟩ := ih hb
      refine ⟨rfl, fun hmem => ?_⟩
      rcases List.mem_cons.1 hmem with heq | hmem
      · exact hc heq.symm
      · exact hbody hmem

/-- A number is cut where it ends. -/
theorem cutNumber_append (cs : List Char) :
    (Lexeme.cutNumber cs).text ++ (Lexeme.cutNumber cs).rest = cs := by
  have hsign : (minusOf cs).1 ++ (minusOf cs).2 = cs := by
    unfold minusOf
    split <;> rfl
  have hdigits : digitsOf (minusOf cs).2 ++ afterDigits (minusOf cs).2 = (minusOf cs).2 :=
    List.takeWhile_append_dropWhile
  have hfraction : ∀ ds : List Char, fractionOf ds ++ afterFraction ds = ds := by
    intro ds
    unfold fractionOf
    split
    · rename_i more
      rw [afterFraction]
      split
      · exact congrArg ('.' :: ·) List.takeWhile_append_dropWhile
      · rfl
    · rename_i hpoint
      rw [afterFraction.eq_2 _ hpoint]
      rfl
  simp only [Lexeme.cutNumber, List.append_assoc, hfraction, hdigits, hsign]

theorem readNumber_eq_ok (h : Lexeme.readNumber cs = .ok l) : l = Lexeme.cutNumber cs := by
  simp only [Lexeme.readNumber] at h
  split at h
  · exact (Except.ok.inj h).symm
  · cases h

theorem kind_punctuation? {kind : Token.Kind} {width : Nat}
    (h : punctuation? cs = some (kind, width)) : kind ≠ .string ∧ kind ≠ .quotedName := by
  unfold punctuation? at h
  split at h <;> cases h <;> decide

theorem kind_readWord (cs : List Char) :
    (Lexeme.readWord cs).kind ≠ .string ∧ (Lexeme.readWord cs).kind ≠ .quotedName := by
  simp only [Lexeme.readWord, Token.Kind.ofKeyword?]
  split <;> decide

/-- **A word and the rest** are the whole text: nothing is lost between them, and nothing is read
twice. -/
theorem Lexeme.written_of_read {signAllowed : Bool} (h : Lexeme.read signAllowed cs = .ok l) :
    ∃ chars, cs = chars ++ l.rest ∧ WrittenAs l.kind l.text chars := by
  rw [Lexeme.read.eq_def] at h
  split at h
  · have hkind := kind_readNumber h
    refine ⟨l.text, ?_, ?_⟩
    · rw [readNumber_eq_ok h, cutNumber_append]
    · rcases hkind with hkind | hkind
      all_goals
        rw [hkind]
        exact rfl
  · split at h
    · rename_i hp
      cases h
      have hkind := kind_punctuation? hp
      exact ⟨_, (List.take_append_drop _ _).symm, writtenAs_self hkind.1 hkind.2 _⟩
    · split at h
      · cases h
        exact ⟨[], rfl, rfl⟩
      · unfold Lexeme.readString at h
        split at h
        · rename_i body rest hclose
          cases h
          obtain ⟨rfl, hbody⟩ := closeString?_eq_some hclose
          exact ⟨'"' :: (body ++ ['"']), by simp, body, rfl, hbody⟩
        · cases h
      · unfold Lexeme.readQuotedName at h
        split at h
        · rename_i body rest hclose
          cases h
          obtain ⟨rfl, hbody⟩ := closeName?_eq_some hclose
          exact ⟨'`' :: (body ++ ['`']), by simp, rfl, hbody⟩
        · cases h
      · split at h
        · cases h
          have hkind := kind_readWord
          exact ⟨_, List.takeWhile_append_dropWhile.symm,
            writtenAs_self (hkind _).1 (hkind _).2 _⟩
        · cases h

/-- **Where the reading stops** at a fault: in front of a character that begins no word, or behind
the first character of a word that has no end or no value. -/
theorem Lexeme.stopped_of_read {signAllowed : Bool} {fault : LexFault}
    (h : Lexeme.read signAllowed cs = .error (fault, rest)) :
    (∃ c, fault = .unexpectedChar c ∧ rest = cs ∧ cs.head? = some c) ∨
      rest <:+ cs ∧ rest.length < cs.length := by
  rw [Lexeme.read.eq_def] at h
  split at h
  · rename_i hnumber
    simp only [Lexeme.readNumber] at h
    split at h
    · cases h
    · cases h
      exact .inr ⟨⟨_, cutNumber_append cs⟩, length_cutNumber_lt hnumber⟩
  · split at h
    · cases h
    · split at h
      · cases h
      · unfold Lexeme.readString at h
        split at h
        · cases h
        · cases h
          exact .inr ⟨List.nil_suffix, Nat.succ_pos _⟩
      · unfold Lexeme.readQuotedName at h
        split at h
        · cases h
        · cases h
          exact .inr ⟨List.nil_suffix, Nat.succ_pos _⟩
      · split at h
        · cases h
        · cases h
          exact .inl ⟨_, rfl, rfl, rfl⟩

end Words

/-! ### The characters of a gap -/

/-- A line ends here, or the text does. -/
def EndsLine (cs : List Char) : Prop :=
  cs = [] ∨ cs.head? = some '\n'

/-- White space and comments in front of a text.  A comment begins with two slashes and runs up to a
line feed or to the end of the text. -/
inductive Gap : List Char → List Char → Prop
  | none {rest : List Char} : Gap [] rest
  | blank {c : Char} {gap rest : List Char} (blank : isBlank c = true) (more : Gap gap rest) :
      Gap (c :: gap) rest
  | comment {body gap rest : List Char} (line : '\n' ∉ body) (ends : EndsLine (gap ++ rest))
      (more : Gap gap rest) : Gap ('/' :: '/' :: (body ++ gap)) rest

/-- What is skipped, from outside a comment and from inside one. -/
theorem gap_skipGapFrom (cs : List Char) :
    (∃ gap, cs = gap ++ skipGapFrom false cs ∧ Gap gap (skipGapFrom false cs)) ∧
      ∃ body gap, cs = body ++ gap ++ skipGapFrom true cs ∧ '\n' ∉ body ∧
        EndsLine (gap ++ skipGapFrom true cs) ∧ Gap gap (skipGapFrom true cs) := by
  induction cs with
  | nil => exact ⟨⟨[], rfl, .none⟩, [], [], rfl, List.not_mem_nil, .inl rfl, .none⟩
  | cons c cs ih =>
    obtain ⟨⟨gap, hgap, hmore⟩, body, gap', hbody, hline, hends, hmore'⟩ := ih
    constructor
    · rw [skipGapFrom, if_neg Bool.false_ne_true]
      by_cases hblank : isBlank c = true
      · rw [if_pos hblank]
        exact ⟨c :: gap, congrArg (c :: ·) hgap, .blank hblank hmore⟩
      · rw [if_neg hblank]
        split
        · rename_i hslash
          obtain ⟨rfl, hhead⟩ := hslash
          -- the second slash is the first character that is skipped inside the comment
          cases body with
          | nil =>
            rw [List.nil_append] at hbody
            rw [← hbody, EndsLine, hhead] at hends
            rcases hends with rfl | hends
            · cases hhead
            · cases hends
          | cons d body =>
            rw [hbody] at hhead
            obtain rfl := Option.some.inj hhead
            refine ⟨'/' :: '/' :: (body ++ gap'), ?_, ?_⟩
            · exact congrArg ('/' :: ·) hbody
            · exact .comment (fun hmem => hline (List.mem_cons_of_mem _ hmem)) hends hmore'
        · exact ⟨[], rfl, .none⟩
    · rw [skipGapFrom, if_pos rfl]
      by_cases hc : c = '\n'
      · subst hc
        exact ⟨[], '\n' :: gap, congrArg ('\n' :: ·) hgap, List.not_mem_nil, .inr rfl,
          .blank (by decide) hmore⟩
      · rw [bne_iff_ne.2 hc]
        refine ⟨c :: body, gap', congrArg (c :: ·) hbody, fun hmem => ?_, hends, hmore'⟩
        rcases List.mem_cons.1 hmem with heq | hmem
        · exact hc heq.symm
        · exact hline hmem

/-- **What is skipped** is white space and whole comments. -/
theorem gap_skipGap (cs : List Char) : ∃ gap, cs = gap ++ skipGap cs ∧ Gap gap (skipGap cs) :=
  (gap_skipGapFrom cs).1

end TablePipeline
