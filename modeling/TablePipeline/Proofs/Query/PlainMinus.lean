import TablePipeline.Proofs.Query.Expression
import TablePipeline.Proofs.Query.Lexing
import TablePipeline.Proofs.Query.Signs

/-!
# A lexer without negative numbers

Whether a minus begins a number is decided by the lexer, from the kind of the token before it.  The
plain lexer of this file decides nothing: to it a minus is an operator wherever it stands, and the
grammar reads it as a sign or as a subtraction.

Both lexers stop at the same places, but for the place between a sign and its number, where the
plain one has two tokens and the other has one.  So the tokens of one are those of the other with
some signs joined (`Lexer.joined_of_tokenizePlain`), and what the plain tokens spell is spelled by
the joined ones with the same meaning.

The lexer may do more: the least integer can be written with its sign only, and the plain lexer
refuses its digits.

## Main definitions

* `Lexer.tokenizePlain`, `Expr.parsePlain` — every minus is an operator

## Main statements

* `Lexer.joined_of_tokenizePlain` — the tokens of both lexers
* `parse_of_parsePlain` — the meaning of a text
-/

namespace TablePipeline

namespace Lexer

/-- Reads the next token, a minus being an operator wherever it stands. -/
def nextPlain (l : Lexer) : Except LexError Token × Lexer :=
  l.skip.take (Lexeme.read false l.skip.rest)

theorem length_rest_nextPlain {l following : Lexer} {t : Token}
    (h : l.nextPlain = (.ok t, following)) (ht : t.kind ≠ .finish) :
    following.rest.length < l.rest.length := by
  rw [nextPlain] at h
  cases hread : Lexeme.read false l.skip.rest with
  | error e =>
    rw [hread] at h
    cases h
  | ok word =>
    rw [hread] at h
    cases h
    rcases Lexeme.length_read hread with ⟨hkind, -, -⟩ | hlt
    · exact absurd hkind ht
    · exact Nat.lt_of_lt_of_le hlt (length_skipGap_le l.rest)

/-- Reads all tokens that remain, every minus being an operator. -/
def tokenizePlain (l : Lexer) : Except LexError (List Token) × Lexer :=
  match _h : l.nextPlain with
  | (.error e, stopped) => (.error e, stopped)
  | (.ok t, following) =>
    if _ht : t.kind = .finish then (.ok [t], following)
    else
      let (tokens, stopped) := following.tokenizePlain
      (tokens.map (t :: ·), stopped)
termination_by l.rest.length
decreasing_by exact length_rest_nextPlain _h _ht

end Lexer

/-- The expression that a text spells if every minus is an operator. -/
def Expr.parsePlain (s : String) : Except ParseError Expr :=
  match (Lexer.ofString s).tokenizePlain with
  | (.error e, _) => .error (.lexical e)
  | (.ok tokens, lexer) => (Parser.mk lexer tokens 0).expression.1

/-! ### Words -/

section Words

variable {cs ds : List Char} {signAllowed : Bool}

/-- But for a sign in front of a number the two lexers read the same word. -/
theorem Lexeme.read_eq_plain
    (h : ∀ ds, cs = '-' :: ds → signAllowed = true → startsDigit ds = false) :
    Lexeme.read signAllowed cs = Lexeme.read false cs := by
  have hstarts : startsNumber signAllowed cs = startsNumber false cs := by
    unfold startsNumber
    split
    · rename_i ds
      cases signAllowed with
      | false => rfl
      | true => rw [h ds rfl rfl]; rfl
    · rfl
  rw [Lexeme.read.eq_def, Lexeme.read.eq_def, hstarts]

theorem startsNumber_of_startsDigit (h : startsDigit ds = true) :
    startsNumber signAllowed ds = true := by
  unfold startsNumber
  split
  · cases h
  · exact h

theorem skipGap_of_startsDigit (h : startsDigit ds = true) : skipGap ds = ds := by
  cases ds with
  | nil => rfl
  | cons c ds =>
    have hc : c.isDigit = true := h
    have hbounds : 48 ≤ c.toNat ∧ c.toNat ≤ 57 := Char.isDigit_iff_toNat.1 hc
    refine skipGap_of_visible (isBlank_eq_false (by omega) (by omega)) ?_
    rintro rfl
    cases hc

/-- A number is cut with its sign as it is cut without. -/
theorem Lexeme.cutNumber_negative (h : startsDigit ds = true) :
    Lexeme.cutNumber ('-' :: ds) =
      { Lexeme.cutNumber ds with text := '-' :: (Lexeme.cutNumber ds).text } := by
  have hminus : minusOf ds = ([], ds) := minusOf_of_ne fun rest heq => by
    rw [heq] at h
    cases h
  simp only [Lexeme.cutNumber, hminus]
  rfl

theorem Lexeme.startsDigit_cutNumber (h : startsDigit ds = true) :
    startsDigit (Lexeme.cutNumber ds).text = true := by
  cases ds with
  | nil => cases h
  | cons c ds =>
    have hc : c.isDigit = true := h
    have hminus : minusOf (c :: ds) = ([], c :: ds) := minusOf_of_ne fun rest heq => by
      rw [heq] at h
      cases h
    simp only [Lexeme.cutNumber, hminus, digitsOf, List.takeWhile_cons, hc, if_true]
    exact hc

/-- A number that can be stored can be stored with a sign. -/
theorem Lexeme.readNumber_negative (h : startsDigit ds = true) {w : Lexeme}
    (hw : Lexeme.readNumber ds = .ok w) :
    startsDigit w.text = true ∧
      Lexeme.readNumber ('-' :: ds) = .ok { w with text := '-' :: w.text } := by
  have hdigit := Lexeme.startsDigit_cutNumber h
  rw [Lexeme.readNumber] at hw
  split at hw
  · rename_i hstorable
    cases hw
    refine ⟨hdigit, ?_⟩
    rw [Lexeme.readNumber, Lexeme.cutNumber_negative h]
    refine if_pos ?_
    rw [Lexeme.isStorable] at hstorable ⊢
    split at hstorable
    · rename_i hfloat
      obtain ⟨x, hx⟩ := Option.isSome_iff_exists.1 hstorable
      rw [if_pos hfloat, readFloat?_negative hdigit hx]
      rfl
    · rename_i hinteger
      obtain ⟨n, hn⟩ := Option.isSome_iff_exists.1 hstorable
      obtain ⟨m, hm, -⟩ := readInteger?_negative hdigit hn
      rw [if_neg hinteger, hm]
      rfl
  · cases hw

end Words

/-! ### Tokens -/

namespace Lexer

variable {l following : Lexer} {t : Token} {tokens : List Token}

/-- The token that the plain lexer reads is the token that is read, or it is the sign of a number
that is read with its sign. -/
theorem next_of_nextPlain (h : l.nextPlain = (.ok t, following)) :
    l.next = (.ok t, following) ∨
      ∃ ds, skipGap l.rest = '-' :: ds ∧ l.signAllowed = true ∧ startsDigit ds = true ∧
        t = ⟨.minus, String.ofList ['-'], l.skip.position⟩ ∧
        following = ⟨l.text, ds, some .minus⟩ := by
  by_cases hsign : ∃ ds, skipGap l.rest = '-' :: ds ∧ l.signAllowed = true ∧ startsDigit ds = true
  · obtain ⟨ds, hrest, hallowed, hdigit⟩ := hsign
    have hread : Lexeme.read false l.skip.rest = .ok ⟨.minus, ['-'], ds⟩ := by
      rw [skip, hrest]
      rfl
    rw [nextPlain, hread] at h
    cases h
    exact Or.inr ⟨ds, hrest, hallowed, hdigit, rfl, rfl⟩
  · left
    have hread : Lexeme.read l.signAllowed l.skip.rest = Lexeme.read false l.skip.rest :=
      Lexeme.read_eq_plain fun ds hrest hallowed => by
        by_contra hdigit
        exact hsign ⟨ds, hrest, hallowed, by simpa using hdigit⟩
    rw [next, hread]
    exact h

theorem signAllowed_nextPlain (h : l.nextPlain = (.ok t, following)) :
    following.signAllowed = !t.kind.endsOperand := by
  rw [nextPlain] at h
  cases hread : Lexeme.read false l.skip.rest with
  | error e =>
    rw [hread] at h
    cases h
  | ok word =>
    rw [hread] at h
    cases h
    rfl

/-- Behind a sign that digits follow there is a number, if there is a token at all, and with the
sign it is read as one token. -/
theorem next_of_sign {ds : List Char} (hrest : skipGap l.rest = '-' :: ds)
    (hallowed : l.signAllowed = true) (hdigit : startsDigit ds = true) :
    (∃ e stopped, (Lexer.mk l.text ds (some .minus)).next = (.error e, stopped)) ∨
      ∃ number behind, (Lexer.mk l.text ds (some .minus)).next = (.ok number, behind) ∧
        l.next = (.ok (Token.join ⟨.minus, String.ofList ['-'], l.skip.position⟩ number), behind) ∧
        (number.kind = .integer ∨ number.kind = .float) ∧
        startsDigit number.text.toList = true := by
  have hread : ∀ cs, startsNumber true cs = true → Lexeme.read true cs = Lexeme.readNumber cs := by
    intro cs hcs
    rw [Lexeme.read.eq_def, if_pos hcs]
  have hbehind : (Lexer.mk l.text ds (some .minus)).next =
      (Lexer.mk l.text ds (some .minus)).skip.take (Lexeme.readNumber ds) := by
    rw [← hread ds (startsNumber_of_startsDigit hdigit), next, skip, skipGap_of_startsDigit hdigit]
    rfl
  have hnext : l.next = l.skip.take (Lexeme.readNumber ('-' :: ds)) := by
    rw [← hread ('-' :: ds) hdigit, ← hrest, next, hallowed]
    rfl
  cases hw : Lexeme.readNumber ds with
  | error e =>
    rw [hw] at hbehind
    exact Or.inl ⟨_, _, hbehind⟩
  | ok w =>
    obtain ⟨htext, hsigned⟩ := Lexeme.readNumber_negative hdigit hw
    rw [hw] at hbehind
    rw [hsigned] at hnext
    refine Or.inr ⟨_, _, hbehind, ?_, kind_readNumber hw, ?_⟩
    · rw [hnext, Token.join, String.toList_ofList]
      rfl
    · rwa [String.toList_ofList]

/-- What is read behind a sign that digits follow begins with a number; with the sign it begins with
the negative number and goes on in the same way. -/
theorem tokenize_of_sign {ds : List Char} (hrest : skipGap l.rest = '-' :: ds)
    (hallowed : l.signAllowed = true) (hdigit : startsDigit ds = true)
    (h : (Lexer.mk l.text ds (some .minus)).tokenize.1 = .ok tokens) :
    ∃ number us, tokens = number :: us ∧ (number.kind = .integer ∨ number.kind = .float) ∧
      startsDigit number.text.toList = true ∧
      l.tokenize.1 =
        .ok (Token.join ⟨.minus, String.ofList ['-'], l.skip.position⟩ number :: us) := by
  rcases next_of_sign hrest hallowed hdigit with
    ⟨e, stopped, herror⟩ | ⟨number, behind, hbehind, hnext, hkind, htext⟩
  · rw [tokenize_of_error herror] at h
    cases h
  · have hne : number.kind ≠ .finish := by
      rcases hkind with hkind | hkind <;> rw [hkind] <;> decide
    rw [tokenize_of_next hbehind, if_neg hne] at h
    cases hus : behind.tokenize.1 with
    | error e =>
      rw [hus] at h
      cases h
    | ok us =>
      rw [hus] at h
      cases h
      refine ⟨number, us, rfl, hkind, htext, ?_⟩
      rw [tokenize_of_next hnext, if_neg (by exact hne), hus]
      rfl

/-- **The tokens of both lexers**: where the plain lexer gives tokens, the lexer gives these, with
some signs joined to their numbers. -/
theorem joined_of_tokenizePlain (h : l.tokenizePlain.1 = .ok tokens) :
    ∃ us, l.tokenize.1 = .ok us ∧ Joined l.signAllowed tokens us := by
  fun_induction tokenizePlain l generalizing tokens with
  | case1 l e stopped _ => cases h
  | case2 l t following hnext hfinish =>
    cases h
    rcases next_of_nextPlain hnext with hsame | ⟨ds, -, -, -, rfl, -⟩
    · rw [tokenize_of_next hsame, if_pos hfinish]
      exact ⟨[t], rfl, .keep .nil⟩
    · cases hfinish
  | case3 l t following hnext hne more stopped hmore ih =>
    cases more with
    | error e => cases h
    | ok rest =>
      cases h
      obtain ⟨us, hus, hjoined⟩ := ih (by rw [hmore])
      rcases next_of_nextPlain hnext with hsame | ⟨ds, hrest, hallowed, hdigit, rfl, rfl⟩
      · rw [tokenize_of_next hsame, if_neg hne, hus]
        rw [signAllowed_nextPlain hnext] at hjoined
        exact ⟨t :: us, rfl, .keep hjoined⟩
      · obtain ⟨number, us', rfl, hnumber, htext, htokens⟩ :=
          tokenize_of_sign hrest hallowed hdigit hus
        refine ⟨_, htokens, ?_⟩
        rw [hallowed]
        cases hjoined with
        | keep more =>
          rcases hnumber with hnumber | hnumber
          · rw [hnumber] at more
            exact .join rfl (Or.inl hnumber) htext more
          · rw [hnumber] at more
            exact .join rfl (Or.inr hnumber) htext more
        | join =>
          rw [Token.join, String.toList_ofList] at htext
          cases htext

end Lexer

/-! ### Meaning -/

/-- A parser that has its tokens reads those before the last one. -/
theorem Parser.expression_of_tokens {l : Lexer} {body : List Token} {mark : Token} {e : Expr} :
    (Parser.mk l (body ++ [mark]) 0).expression.1 = .ok e ↔ Derives (.expression e) body := by
  have hfill : (Parser.mk l (body ++ [mark]) 0).fill = (.ok (), ⟨l, body ++ [mark], 0⟩) := by
    rw [Parser.fill]
    exact if_neg (by simp)
  rw [Parser.expression, hfill, ← parseWholeExpression_iff]
  exact Parser.apply_eq_ok_iff

/-- **The meaning of a text** does not depend on which minus begins a number: where the tokens of the
plain lexer spell an expression, the text spells one that has the same value or the same error on
every row and over every table. -/
theorem parse_of_parsePlain {s : String} {plain : Expr} (h : Expr.parsePlain s = .ok plain) :
    ∃ e, Expr.parse s = .ok e ∧
      (∀ columns row, e.eval columns row = plain.eval columns row) ∧
        ∀ t, e.aggregate t = plain.aggregate t := by
  rw [Expr.parsePlain] at h
  split at h
  · cases h
  · rename_i tokens lexer htokens
    obtain ⟨us, hus, hjoined⟩ := Lexer.joined_of_tokenizePlain (congrArg Prod.fst htokens)
    rcases List.eq_nil_or_concat' tokens with rfl | ⟨body, mark, rfl⟩
    -- there is the end mark at least
    · obtain ⟨body, mark, hbody, -⟩ := Lexer.tokenize_eq_ok hus
      exact absurd (hbody.symm.trans hjoined.eq_nil) (by simp)
    · obtain ⟨ts, more, rfl, ⟨e, halike, hderives⟩, hmore⟩ :=
        (Parser.expression_of_tokens.1 h).kept _ _ _ nofun hjoined
      obtain ⟨rest, rfl, hrest⟩ := hmore.of_cons (Or.inl rfl)
      obtain rfl := hrest.eq_nil
      refine ⟨e, ?_, fun columns row => (halike.evalIn_eq _).symm, fun t =>
        (halike.aggregate_eq t).symm⟩
      exact (Parser.expression_of_tokenize hus e).2 (parseWholeExpression_iff.2 hderives)

set_option maxRecDepth 1000 in
/-- The first minus and the last one begin numbers, and the one between them does not. -/
theorem parse_of_parsePlain_subtraction :
    let plain : Expr := .binary .subtract
      (.binary .multiply (.unary .negate (.literal (.integer 2))) (.column "a"))
      (.call "abs" [.unary .negate (.literal (.integer 3))])
    let e : Expr := .binary .subtract
      (.binary .multiply (.literal (.integer (-2))) (.column "a"))
      (.call "abs" [.literal (.integer (-3))])
    Expr.parsePlain "-2 * a -abs(-3)" = .ok plain ∧ Expr.parse "-2 * a -abs(-3)" = .ok e ∧
      (∀ columns row, e.eval columns row = plain.eval columns row) ∧
        ∀ t, e.aggregate t = plain.aggregate t := by
  intro plain e
  have hplain : Expr.parsePlain "-2 * a -abs(-3)" = .ok plain := by with_unfolding_all rfl
  have hparse : Expr.parse "-2 * a -abs(-3)" = .ok e := by with_unfolding_all rfl
  obtain ⟨e', he', hmeaning⟩ := parse_of_parsePlain hplain
  obtain rfl : e = e' := Except.ok.inj (hparse.symm.trans he')
  exact ⟨hplain, hparse, hmeaning⟩

end TablePipeline
