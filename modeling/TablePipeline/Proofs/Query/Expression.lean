import TablePipeline.Proofs.Query.Completeness
import TablePipeline.Proofs.Query.Soundness

/-!
# The parser reads exactly the grammar

Soundness and completeness together: the parser returns an expression exactly when all tokens but
the end mark spell it.  So the grammar gives a list of tokens at most one meaning, no token is left
over, and whatever has no derivation is an error.

## Main statements

* `parseWholeExpression_iff` — lists of tokens
* `expression_iff_derives` — parsers at the beginning of a text
-/

namespace TablePipeline

section Tokens

variable {e : Expr} {ts : List Token}

theorem parseWholeExpression_eq_done_iff {rest : List Token} :
    parseWholeExpression ts = .done e rest ↔ parseExpression ts = .done e [] ∧ rest = [] := by
  rw [parseWholeExpression, Parsed.bind_eq_done_iff]
  constructor
  · rintro ⟨e', mid, he, h⟩
    cases mid with
    | nil =>
      obtain ⟨rfl, rfl⟩ := Parsed.done_eq_done_iff.1 h
      exact ⟨he, rfl⟩
    | cons t mid => exact absurd h Parsed.refuse_ne_done
  · rintro ⟨he, rfl⟩
    exact ⟨e, [], he, rfl⟩

/-- **A list of tokens is read as an expression exactly if it spells it.** -/
theorem parseWholeExpression_iff :
    (parseWholeExpression ts).outcome = .ok e ↔ Derives (.expression e) ts := by
  rw [Parsed.outcome_eq_ok_iff]
  constructor
  · rintro ⟨rest, h⟩
    obtain ⟨he, -⟩ := parseWholeExpression_eq_done_iff.1 h
    obtain ⟨us, rfl, hus⟩ := sound_parseExpression ts.length ts (Nat.le_refl _) e [] he
    rwa [List.append_nil]
  · intro h
    have he := parseExpression_of_derives h endsChain_nil nofun
    rw [List.append_nil] at he
    exact ⟨[], parseWholeExpression_eq_done_iff.2 ⟨he, rfl⟩⟩

end Tokens

/-- A parser at the beginning of a text reads the tokens before the end mark. -/
theorem Parser.expression_of_tokenize {l : Lexer} {body : List Token} {mark : Token}
    (h : l.tokenize.1 = .ok (body ++ [mark])) (e : Expr) :
    (Parser.mk l [] 0).expression.1 = .ok e ↔ (parseWholeExpression body).outcome = .ok e := by
  rw [Parser.expression, Parser.fill_of_tokenize h]
  exact Parser.apply_eq_ok_iff

/-- **The parser reads exactly the grammar.**  From the tokens of a text a parser at its beginning
returns an expression exactly if the tokens before the end mark spell it, so that none is left over
or left out, and it returns an error if they spell none.  The tree of a chain, which the grammar
speaks of, exists and is unique. -/
theorem expression_iff_derives :
    (∀ (l : Lexer) (tokens : List Token), l.tokenize.1 = .ok tokens →
      ∃ body mark, tokens = body ++ [mark] ∧ mark.kind = .finish ∧
        (∀ t ∈ body, t.kind ≠ .finish) ∧
        (∀ e, (Parser.mk l [] 0).expression.1 = .ok e ↔ Derives (.expression e) body) ∧
        ((∃ e, Derives (.expression e) body) ∨
          (∃ error, (Parser.mk l [] 0).expression.1 = .error error) ∧
            ∀ e, ¬Derives (.expression e) body)) ∧
    ∀ (first : Expr) (pairs : List (BinaryOp × Expr)),
      ∃! tree : Tree, tree.Ordered ∧ tree.first = first ∧ tree.pairs = pairs := by
  refine ⟨fun l tokens h => ?_, Tree.existsUnique⟩
  obtain ⟨body, mark, rfl, hmark, hbody⟩ := Lexer.tokenize_eq_ok h
  have hiff : ∀ e, (Parser.mk l [] 0).expression.1 = .ok e ↔ Derives (.expression e) body := by
    intro e
    rw [Parser.expression_of_tokenize h, parseWholeExpression_iff]
  refine ⟨body, mark, rfl, hmark, hbody, hiff, ?_⟩
  cases hout : (Parser.mk l [] 0).expression.1 with
  | ok e => exact Or.inl ⟨e, (hiff e).1 hout⟩
  | error error =>
    refine Or.inr ⟨⟨error, rfl⟩, fun e he => ?_⟩
    rw [(hiff e).2 he] at hout
    cases hout

/-- Levels mixed with signs and a null test, which later operators take as their left operand. -/
theorem expression_iff_derives_mixed :
    ∃ body mark, (Lexer.ofString "a - -b * 2 is null or not c").tokenize.1 = .ok (body ++ [mark]) ∧
      Derives (.expression (.binary .or
        (.nullTest (.binary .subtract (.column "a")
          (.binary .multiply (.unary .negate (.column "b")) (.literal (.integer 2)))) false)
        (.unary .not (.column "c")))) body := by
  have htokens : ∃ tokens, (Lexer.ofString "a - -b * 2 is null or not c").tokenize.1 =
      .ok tokens := ⟨_, by with_unfolding_all rfl⟩
  obtain ⟨tokens, htokens⟩ := htokens
  obtain ⟨body, mark, rfl, -, -, hiff, -⟩ := expression_iff_derives.1 _ tokens htokens
  refine ⟨body, mark, htokens, (hiff _).1 ?_⟩
  with_unfolding_all rfl

end TablePipeline
