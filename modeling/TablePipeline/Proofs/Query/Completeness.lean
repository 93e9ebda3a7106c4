import TablePipeline.Proofs.Query.Grammar
import TablePipeline.Proofs.Query.Parsed

/-!
# The parser reads all that the grammar spells

Tokens that spell a phrase are read as that phrase whatever follows them, as long as what follows
cannot be taken for more of the phrase: behind an operand there may be no parenthesis, which would
make a call of it, and behind an expression no operator either.  A null test behind an expression
is allowed, and then the expression becomes its operand; that is why the statement for expressions
is that the parser goes on with `parseSuffix`.

The pairs of a chain have no rule of their own.  What is known about them (`ReadsPairs`) is enough
to follow the parser through the ordered tree of the chain (`parseBinary_of_readsPairs`).

## Main definitions

* `NoCall`, `EndsChain` — what may follow an operand and an expression
* `Reads` — how the parser reads a phrase

## Main statements

* `parseBinary_of_readsPairs` — the operators of a chain
* `Derives.reads` — phrases in general
* `parseExpression_of_derives` — expressions
-/

namespace TablePipeline

/-! ### What follows -/

/-- No parenthesis follows, so that a name is no call. -/
def NoCall (ts : List Token) : Prop :=
  ∀ t, ts.head? = some t → t.kind ≠ .leftParen

/-- Neither a parenthesis nor an operator follows. -/
def EndsChain (ts : List Token) : Prop :=
  NoCall ts ∧ headOperator? ts = none

theorem noCall_nil : NoCall [] := by
  intro t h
  cases h

theorem noCall_cons {t : Token} {ts : List Token} (h : t.kind ≠ .leftParen) : NoCall (t :: ts) := by
  intro u hu
  rw [← Option.some.inj hu]
  exact h

theorem endsChain_nil : EndsChain [] :=
  ⟨noCall_nil, rfl⟩

/-- A chain ends in front of a token that is no operator. -/
theorem endsChain_cons {t : Token} {ts : List Token} (h : t.kind ≠ .leftParen)
    (hop : operatorOf? t.kind = none) : EndsChain (t :: ts) :=
  ⟨noCall_cons h, hop⟩

/-- An operator opens no call. -/
theorem noCall_of_operator {t : Token} {op : BinaryOp} (h : t.kind = op.token) (ts : List Token) :
    NoCall (t :: ts) := by
  refine noCall_cons ?_
  rw [h]
  cases op <;> decide

theorem headOperator?_of_operator {t : Token} {op : BinaryOp} (h : t.kind = op.token)
    (ts : List Token) : headOperator? (t :: ts) = some op :=
  operatorOf?_eq_some_iff.2 h

/-! ### Operands by their first token -/

section Operands

variable {t opening : Token} {ts : List Token}

/-- A literal is an operand. -/
theorem parseUnary_of_literal {l : Literal} (h : t.Spells l) :
    parseUnary (t :: ts) = .done (.literal l) ts := by
  have hsign : signOf? t.kind = none := by
    cases h with
    | integer kind _ | float kind _ | string kind | true kind | false kind | null kind =>
      rw [kind]
      rfl
  rw [parseUnary_cons, hsign, parsePrimary_eq, literalOf?_eq_some_ok_iff.2 h]

/-- A name without a parenthesis behind it is a column. -/
theorem parseUnary_of_name (h : t.kind.isName = true) (hts : NoCall ts) :
    parseUnary (t :: ts) = .done (.column t.text) ts := by
  have hsign : signOf? t.kind = none := by
    cases hk : t.kind <;> simp_all [Token.Kind.isName, signOf?]
  rw [parseUnary_cons, hsign]
  simp only
  rw [parsePrimary_eq, literalOf?_eq_none (Or.inr h)]
  simp only
  split
  · rfl
  · cases ts with
    | nil => rfl
    | cons p inner =>
      simp only
      rw [if_neg (hts p rfl)]
  · rename_i hk
    rw [hk] at h
    cases h
  · rename_i hquoted hname _
    cases hk : t.kind <;> simp_all [Token.Kind.isName]

/-- A bare name with a parenthesis behind it is a function. -/
theorem parseUnary_of_call (h : t.kind = .name) (hopening : opening.kind = .leftParen) :
    parseUnary (t :: opening :: ts) = parseCall (functionName t.text) ts := by
  have hname : t.kind.isName = true := by
    rw [h]
    rfl
  rw [parseUnary_cons, h]
  show parsePrimary t (opening :: ts) = _
  rw [parsePrimary_eq, literalOf?_eq_none (Or.inr hname), h]
  simp only
  rw [if_pos hopening]

theorem parseUnary_of_leftParen (h : t.kind = .leftParen) :
    parseUnary (t :: ts) = (parseExpression ts).bind fun inner rest =>
      (expect .rightParen .groupEnd rest).map fun _ => inner := by
  rw [parseUnary_cons, h]
  show parsePrimary t ts = _
  rw [parsePrimary_eq, literalOf?_eq_none (Or.inl h), h]

/-- No argument begins with a closing parenthesis. -/
theorem parseArguments_of_rightParen (h : t.kind = .rightParen) :
    parseArguments (t :: ts) = .refuse (.unexpected .expression) (t :: ts) := by
  have hliteral : literalOf? t = none := by
    unfold literalOf?
    simp only [h]
  have hunary : parseUnary (t :: ts) = .refuse (.unexpected .expression) (t :: ts) := by
    rw [parseUnary_cons, h]
    show parsePrimary t ts = _
    rw [parsePrimary_eq, hliteral, h]
  rw [parseArguments_eq, parseExpression_eq, hunary]
  rfl

end Operands

/-! ### Operators of a chain -/

/-- Every pair is an operator and tokens that are read as its operand. -/
def ReadsPairs : List (BinaryOp × Expr) → List Token → Prop
  | [], ts => ts = []
  | (op, e) :: ps, ts => ∃ t us vs, ts = t :: (us ++ vs) ∧ t.kind = op.token ∧
    (∀ rest, NoCall rest → parseUnary (us ++ rest) = .done e rest) ∧ ReadsPairs ps vs

/-- Pairs of an operator and an operand are read one behind the other. -/
theorem ReadsPairs.split {ps qs : List (BinaryOp × Expr)} {ts : List Token}
    (h : ReadsPairs (ps ++ qs) ts) :
    ∃ us vs, ts = us ++ vs ∧ ReadsPairs ps us ∧ ReadsPairs qs vs := by
  induction ps generalizing ts with
  | nil => exact ⟨[], ts, rfl, rfl, h⟩
  | cons p ps ih =>
    obtain ⟨t, us, rest, rfl, hop, hoperand, hrest⟩ := h
    obtain ⟨vs, ws, rfl, hvs, hws⟩ := ih hrest
    refine ⟨t :: (us ++ vs), ws, ?_, ⟨t, us, vs, rfl, hop, hoperand, hvs⟩, hws⟩
    rw [List.cons_append, List.append_assoc]

theorem ReadsPairs.noCall_append {ps : List (BinaryOp × Expr)} {ts rest : List Token}
    (h : ReadsPairs ps ts) (hrest : NoCall rest) : NoCall (ts ++ rest) := by
  cases ps with
  | nil =>
    rw [show ts = [] from h]
    exact hrest
  | cons p ps =>
    obtain ⟨t, us, vs, rfl, hop, -, -⟩ := h
    exact noCall_of_operator hop _

/-- No operator is taken that binds less than it should. -/
theorem parseBinary_of_stops {least : Nat} {e : Expr} {ts : List Token}
    (h : ∀ op, headOperator? ts = some op → op.precedence < least) :
    parseBinary least e ts = .done e ts := by
  cases ts with
  | nil => exact parseBinary_nil least e
  | cons t ts =>
    rw [parseBinary_cons]
    cases hop : operatorOf? t.kind with
    | none => rfl
    | some op =>
      simp only
      rw [if_pos (h op hop)]

/-- **The operators of a chain** are read as the expression of its ordered tree, if what follows
binds no tighter than the root. -/
theorem parseBinary_of_readsPairs {least : Nat} {tree : Tree} {ts rest : List Token}
    (htree : tree.Ordered) (hleast : ∀ op, tree.root? = some op → least ≤ op.precedence)
    (hts : ReadsPairs tree.pairs ts) (hrest : NoCall rest)
    (hroot : ∀ op o, headOperator? rest = some op → tree.root? = some o →
      op.precedence ≤ o.precedence) :
    parseBinary least tree.first (ts ++ rest) = parseBinary least tree.toExpr rest := by
  induction tree generalizing least ts rest with
  | leaf e =>
    rw [show ts = [] from hts]
    rfl
  | node op left right ihl ihr =>
    obtain ⟨⟨hleft, hloose⟩, hright, htight⟩ := htree
    obtain ⟨us, behind, rfl, hus, hbehind⟩ := hts.split
    obtain ⟨t, vs, ws, rfl, hop, hvs, hws⟩ := hbehind
    have hle : least ≤ op.precedence := hleast op rfl
    have hnext : ∀ o, headOperator? rest = some o → o.precedence < op.precedence + 1 := by
      intro o ho
      exact Nat.lt_succ_of_le (hroot o op ho rfl)
    have hoperand : parseUnary (vs ++ (ws ++ rest)) = .done right.first (ws ++ rest) :=
      hvs _ (hws.noCall_append hrest)
    -- the right operand takes its own operators and stops at those of the rest
    have hr : parseBinary (op.precedence + 1) right.first (ws ++ rest) =
        .done right.toExpr rest := by
      rw [ihr hright ?_ hws hrest ?_]
      · exact parseBinary_of_stops hnext
      · intro o ho
        exact BinaryOp.precedence_lt_iff.2 (htight o ho)
      · intro o o' ho ho'
        exact Nat.le_of_lt (Nat.lt_of_le_of_lt (hroot o op ho rfl)
          (BinaryOp.precedence_lt_iff.2 (htight o' ho')))
    -- the left operand takes its own operators and stops at that of the node
    have hl : parseBinary least left.first (us ++ t :: (vs ++ (ws ++ rest))) =
        parseBinary least left.toExpr (t :: (vs ++ (ws ++ rest))) := by
      refine ihl hleft ?_ hus (noCall_of_operator hop _) ?_
      · intro o ho
        exact Nat.le_trans hle (BinaryOp.precedence_le_iff.2 (hloose o ho))
      · intro o o' ho ho'
        rw [headOperator?_of_operator hop] at ho
        cases ho
        exact BinaryOp.precedence_le_iff.2 (hloose o' ho')
    -- then the operator of the node is the next one, and it is taken
    have hstep : parseBinary least left.toExpr (t :: (vs ++ (ws ++ rest))) =
        parseBinary least (.binary op left.toExpr right.toExpr) rest := by
      rw [parseBinary_cons, operatorOf?_eq_some_iff.2 hop]
      simp only
      rw [if_neg (Nat.not_lt_of_le hle), hoperand, Parsed.bind_done, hr, Parsed.bind_done]
    calc parseBinary least left.first (us ++ t :: (vs ++ ws) ++ rest)
        = parseBinary least left.first (us ++ t :: (vs ++ (ws ++ rest))) := by
          simp only [List.append_assoc, List.cons_append]
      _ = parseBinary least left.toExpr (t :: (vs ++ (ws ++ rest))) := hl
      _ = parseBinary least (.binary op left.toExpr right.toExpr) rest := hstep

/-! ### Phrases -/

/-- How the parser reads a phrase, whatever follows its tokens. -/
def Reads : Phrase → List Token → Prop
  | .expression e, ts => ∀ rest, EndsChain rest → parseExpression (ts ++ rest) = parseSuffix e rest
  | .first e, ts => ∀ rest, NoCall rest → parseExpression (ts ++ rest) =
      (parseBinary 1 e rest).bind fun chain rest => parseSuffix chain rest
  | .operand e, ts | .primary e, ts => ∀ rest, NoCall rest →
      parseUnary (ts ++ rest) = .done e rest
  | .pairs ps, ts => ReadsPairs ps ts
  | .arguments es, ts => ∀ closing rest, closing.kind = .rightParen →
      parseArguments (ts ++ closing :: rest) = .done es (closing :: rest)

section Phrases

variable {e : Expr} {es : List Expr} {ts us rest : List Token} {t opening closing : Token}

/-- Where no `is` follows, an expression is complete. -/
theorem parseSuffix_of_ne (h : ∀ t, rest.head? = some t → t.kind ≠ .is) :
    parseSuffix e rest = .done e rest := by
  cases rest with
  | nil => exact parseSuffix_nil e
  | cons t rest => rw [parseSuffix_cons, if_neg (h t rfl)]

theorem Reads.done_of_kind (h : Reads (.expression e) ts) (hparen : t.kind ≠ .leftParen)
    (hop : operatorOf? t.kind = none) (his : t.kind ≠ .is) :
    parseExpression (ts ++ t :: rest) = .done e (t :: rest) := by
  rw [h (t :: rest) (endsChain_cons hparen hop)]
  refine parseSuffix_of_ne fun u hu => ?_
  rw [← Option.some.inj hu]
  exact his

/-- **Expressions**: an ordered tree is what its operands and operators are read as. -/
theorem Reads.expression {tree : Tree} (ordered : tree.Ordered)
    (first : Reads (.first tree.first) ts) (pairs : Reads (.pairs tree.pairs) us) :
    Reads (.expression tree.toExpr) (ts ++ us) := by
  intro rest hrest
  have hall : parseBinary 1 tree.first (us ++ rest) = .done tree.toExpr rest := by
    rw [parseBinary_of_readsPairs ordered ?_ pairs hrest.1 ?_]
    · refine parseBinary_of_stops fun op hop => ?_
      rw [hrest.2] at hop
      cases hop
    · intro op _
      rw [BinaryOp.precedence_eq]
      exact Nat.succ_pos _
    · intro op _ hop
      rw [hrest.2] at hop
      cases hop
  rw [List.append_assoc, first _ (ReadsPairs.noCall_append pairs hrest.1), hall, Parsed.bind_done]

/-- An expression goes on as the operand of the null test behind it. -/
theorem Reads.nullTest {is : Token} {negated : Bool} (operand : Reads (.expression e) ts)
    (his : is.kind = .is) (h : ∀ rest, parseNullTest (us ++ rest) = .done negated rest) :
    Reads (.first (.nullTest e negated)) (ts ++ is :: us) := by
  intro rest _
  have hends : EndsChain (is :: (us ++ rest)) := by
    refine endsChain_cons ?_ ?_
    · rw [his]
      decide
    · rw [his]
      rfl
  rw [List.append_assoc, List.cons_append, operand _ hends, parseSuffix_cons, if_pos his, h rest,
    Parsed.bind_done]

theorem Reads.first (operand : Reads (.operand e) ts) : Reads (.first e) ts := by
  intro rest hrest
  rw [parseExpression_eq, operand rest hrest, Parsed.bind_done]

theorem Reads.sign {op : UnaryOp} (operator : t.kind = op.token)
    (operand : Reads (.operand e) ts) : Reads (.operand (.unary op e)) (t :: ts) := by
  intro rest hrest
  rw [List.cons_append, parseUnary_cons, signOf?_eq_some_iff.2 operator]
  simp only
  rw [operand rest hrest, Parsed.map_done]

theorem Reads.call (name : t.kind = .name) (hopening : opening.kind = .leftParen)
    (arguments : Reads (.arguments es) ts) (hclosing : closing.kind = .rightParen) :
    Reads (.primary (.call (functionName t.text) es)) (t :: opening :: (ts ++ [closing])) := by
  intro rest _
  have hread := arguments closing rest hclosing
  -- the call is not empty, since no argument begins with a closing parenthesis
  have hnext : nextIs .rightParen (ts ++ closing :: rest) = false := by
    cases hts : ts ++ closing :: rest with
    | nil => rfl
    | cons u us =>
      refine beq_eq_false_iff_ne.2 fun hu => ?_
      rw [hts, parseArguments_of_rightParen hu] at hread
      exact Parsed.refuse_ne_done hread
  rw [List.cons_append, List.cons_append, List.append_assoc, List.singleton_append,
    parseUnary_of_call name hopening, parseCall_eq, hnext, if_neg Bool.false_ne_true, hread,
    Parsed.bind_done, expect_of_kind hclosing, Parsed.map_done]

theorem Reads.emptyCall (name : t.kind = .name) (hopening : opening.kind = .leftParen)
    (hclosing : closing.kind = .rightParen) :
    Reads (.primary (.call (functionName t.text) [])) [t, opening, closing] := by
  intro rest _
  have hnext : nextIs .rightParen (closing :: rest) = true := beq_iff_eq.2 hclosing
  show parseUnary (t :: opening :: closing :: rest) = _
  rw [parseUnary_of_call name hopening, parseCall_eq, if_pos hnext, expect_of_kind hclosing,
    Parsed.map_done]

theorem Reads.group (hopening : opening.kind = .leftParen) (inner : Reads (.expression e) ts)
    (hclosing : closing.kind = .rightParen) :
    Reads (.primary e) (opening :: (ts ++ [closing])) := by
  intro rest _
  have hinner : parseExpression (ts ++ closing :: rest) = .done e (closing :: rest) := by
    refine inner.done_of_kind ?_ ?_ ?_ <;> rw [hclosing] <;> decide
  rw [List.cons_append, List.append_assoc, List.singleton_append,
    parseUnary_of_leftParen hopening, hinner, Parsed.bind_done, expect_of_kind hclosing,
    Parsed.map_done]

theorem Reads.argument (expression : Reads (.expression e) ts) : Reads (.arguments [e]) ts := by
  intro closing rest hclosing
  have he : parseExpression (ts ++ closing :: rest) = .done e (closing :: rest) := by
    refine expression.done_of_kind ?_ ?_ ?_ <;> rw [hclosing] <;> decide
  rw [parseArguments_eq, he, Parsed.bind_done]
  simp only
  rw [if_neg (by rw [hclosing]; decide)]

theorem Reads.moreArguments {comma : Token} (expression : Reads (.expression e) ts)
    (hcomma : comma.kind = .comma) (arguments : Reads (.arguments es) us) :
    Reads (.arguments (e :: es)) (ts ++ comma :: us) := by
  intro closing rest hclosing
  have he : parseExpression (ts ++ comma :: (us ++ closing :: rest)) =
      .done e (comma :: (us ++ closing :: rest)) := by
    refine expression.done_of_kind ?_ ?_ ?_ <;> rw [hcomma] <;> decide
  rw [List.append_assoc, List.cons_append, parseArguments_eq, he, Parsed.bind_done]
  simp only
  rw [if_pos hcomma, arguments closing rest hclosing, Parsed.map_done]

end Phrases

/-- **Completeness**: the parser reads a phrase from any tokens that spell it. -/
theorem Derives.reads {phrase : Phrase} {ts : List Token} (h : Derives phrase ts) :
    Reads phrase ts := by
  induction h with
  | expression ordered _ _ first pairs => exact Reads.expression ordered first pairs
  | first _ operand => exact operand.first
  | isNull _ his hnull operand =>
    refine operand.nullTest his fun rest => ?_
    rw [List.singleton_append, parseNullTest_cons, if_neg (by rw [hnull]; decide),
      expect_of_kind hnull, Parsed.map_done]
  | isNotNull _ his hnot hnull operand =>
    refine operand.nullTest his fun rest => ?_
    rw [List.cons_append, parseNullTest_cons, if_pos hnot, List.singleton_append,
      expect_of_kind hnull, Parsed.map_done]
  | noPairs => exact rfl
  | pair operator _ _ operand pairs => exact ⟨_, _, _, rfl, operator, operand, pairs⟩
  | sign operator _ operand => exact operand.sign operator
  | primary _ primary => exact primary
  | literal spells => exact fun rest _ => parseUnary_of_literal spells
  | column name => exact fun rest hrest => parseUnary_of_name name hrest
  | emptyCall name hopening hclosing => exact Reads.emptyCall name hopening hclosing
  | call name hopening _ hclosing arguments => exact Reads.call name hopening arguments hclosing
  | group hopening _ hclosing inner => exact Reads.group hopening inner hclosing
  | argument _ expression => exact expression.argument
  | moreArguments _ hcomma _ expression arguments =>
    exact expression.moreArguments hcomma arguments

/-- Tokens that spell an expression are read as that expression, up to the first token behind them
that can belong to no expression. -/
theorem parseExpression_of_derives {e : Expr} {ts rest : List Token}
    (h : Derives (.expression e) ts) (hrest : EndsChain rest)
    (his : ∀ t, rest.head? = some t → t.kind ≠ .is) :
    parseExpression (ts ++ rest) = .done e rest := by
  rw [h.reads rest hrest, parseSuffix_of_ne his]

end TablePipeline
