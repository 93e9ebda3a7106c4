import TablePipeline.Proofs.Query.Chain
import TablePipeline.Query.ExprParser

/-!
# The grammar of expressions as a relation

What lists of tokens spell an expression, without a word on how they are read.  An expression is a
first operand and pairs of an operator and an operand.  The first operand may be a null test, which
takes a whole expression as its own operand; all other operands are primaries with any number of
signs in front.  The tokens of a chain say nothing about its tree: that is the ordered one.

All phrases are cases of one relation, so that an induction on a derivation is an ordinary one.

## Main definitions

* `BinaryOp.token`, `UnaryOp.token`, `Token.Spells` — the tokens of operators and literals
* `Phrase` — what a list of tokens may spell
* `Derives` — the rules
-/

namespace TablePipeline

/-! ### Tokens -/

/-- The kind of token that an operator is written with. -/
def BinaryOp.token : BinaryOp → Token.Kind
  | or => .or
  | and => .and
  | equal => .equal
  | notEqual => .notEqual
  | less => .less
  | greater => .greater
  | lessEqual => .lessEqual
  | greaterEqual => .greaterEqual
  | add => .plus
  | subtract => .minus
  | multiply => .star
  | divide => .slash

/-- The kind of token that an operator in front of its operand is written with. -/
def UnaryOp.token : UnaryOp → Token.Kind
  | not => .not
  | negate => .minus

/-- The literal that a token spells. -/
inductive Token.Spells : Token → Literal → Prop
  | integer {t : Token} {n : Int64} (kind : t.kind = .integer)
      (value : readInteger? t.text.toList = some n) : Spells t (.integer n)
  | float {t : Token} {x : Float} (kind : t.kind = .float)
      (value : readFloat? t.text.toList = some x) : Spells t (.float x)
  | string {t : Token} (kind : t.kind = .string) : Spells t (.string t.text)
  | true {t : Token} (kind : t.kind = .true) : Spells t (.boolean true)
  | false {t : Token} (kind : t.kind = .false) : Spells t (.boolean false)
  | null {t : Token} (kind : t.kind = .null) : Spells t .null

theorem operatorOf?_eq_some_iff {k : Token.Kind} {op : BinaryOp} :
    operatorOf? k = some op ↔ k = op.token := by
  constructor
  · intro h
    cases k <;> cases h <;> rfl
  · rintro rfl
    cases op <;> rfl

theorem signOf?_eq_some_iff {k : Token.Kind} {op : UnaryOp} :
    signOf? k = some op ↔ k = op.token := by
  constructor
  · intro h
    cases k <;> cases h <;> rfl
  · rintro rfl
    cases op <;> rfl

theorem literalOf?_eq_some_ok_iff {t : Token} {l : Literal} :
    literalOf? t = some (.ok l) ↔ t.Spells l := by
  constructor
  · intro h
    unfold literalOf? at h
    split at h
    · rename_i hkind
      split at h
      · rename_i n hn
        cases h
        exact .integer hkind hn
      · cases h
    · rename_i hkind
      split at h
      · rename_i x hx
        cases h
        exact .float hkind hx
      · cases h
    · rename_i hkind
      cases h
      exact .string hkind
    · rename_i hkind
      cases h
      exact .true hkind
    · rename_i hkind
      cases h
      exact .false hkind
    · rename_i hkind
      cases h
      exact .null hkind
    · cases h
  · intro h
    unfold literalOf?
    cases h with
    | integer kind value => simp only [kind, value]
    | float kind value => simp only [kind, value]
    | string kind => simp only [kind]
    | true kind => simp only [kind]
    | false kind => simp only [kind]
    | null kind => simp only [kind]

/-- Names and parentheses are no literals. -/
theorem literalOf?_eq_none {t : Token} (h : t.kind = .leftParen ∨ t.kind.isName = true) :
    literalOf? t = none := by
  unfold literalOf?
  rcases h with h | h
  · simp only [h]
  · cases hk : t.kind <;> simp_all [Token.Kind.isName]

/-! ### Rules -/

/-- What a list of tokens may spell. -/
inductive Phrase
  | expression (e : Expr)
  /-- The operand that a chain begins with. -/
  | first (e : Expr)
  /-- An operand with the signs in front of it. -/
  | operand (e : Expr)
  | primary (e : Expr)
  /-- The rest of a chain. -/
  | pairs (ps : List (BinaryOp × Expr))
  /-- One or more expressions with commas between them. -/
  | arguments (es : List Expr)

/-- The tokens spell the phrase. -/
inductive Derives : Phrase → List Token → Prop
  /-- A chain spells the expression of its ordered tree. -/
  | expression {tree : Tree} {ts us : List Token} (ordered : tree.Ordered)
      (first : Derives (.first tree.first) ts) (pairs : Derives (.pairs tree.pairs) us) :
      Derives (.expression tree.toExpr) (ts ++ us)
  | first {e : Expr} {ts : List Token} (operand : Derives (.operand e) ts) : Derives (.first e) ts
  /-- A null test takes everything before it as its operand. -/
  | isNull {e : Expr} {ts : List Token} {is null : Token} (operand : Derives (.expression e) ts)
      (his : is.kind = .is) (hnull : null.kind = .null) :
      Derives (.first (.nullTest e false)) (ts ++ [is, null])
  | isNotNull {e : Expr} {ts : List Token} {is not null : Token}
      (operand : Derives (.expression e) ts) (his : is.kind = .is) (hnot : not.kind = .not)
      (hnull : null.kind = .null) : Derives (.first (.nullTest e true)) (ts ++ [is, not, null])
  | noPairs : Derives (.pairs []) []
  | pair {op : BinaryOp} {e : Expr} {ps : List (BinaryOp × Expr)} {t : Token} {ts us : List Token}
      (operator : t.kind = op.token) (operand : Derives (.operand e) ts)
      (pairs : Derives (.pairs ps) us) : Derives (.pairs ((op, e) :: ps)) (t :: (ts ++ us))
  | sign {op : UnaryOp} {e : Expr} {t : Token} {ts : List Token} (operator : t.kind = op.token)
      (operand : Derives (.operand e) ts) : Derives (.operand (.unary op e)) (t :: ts)
  | primary {e : Expr} {ts : List Token} (primary : Derives (.primary e) ts) :
      Derives (.operand e) ts
  | literal {l : Literal} {t : Token} (spells : t.Spells l) : Derives (.primary (.literal l)) [t]
  | column {t : Token} (name : t.kind.isName = true) : Derives (.primary (.column t.text)) [t]
  | emptyCall {t opening closing : Token} (name : t.kind = .name)
      (hopening : opening.kind = .leftParen) (hclosing : closing.kind = .rightParen) :
      Derives (.primary (.call (functionName t.text) [])) [t, opening, closing]
  | call {t opening closing : Token} {es : List Expr} {ts : List Token} (name : t.kind = .name)
      (hopening : opening.kind = .leftParen) (arguments : Derives (.arguments es) ts)
      (hclosing : closing.kind = .rightParen) :
      Derives (.primary (.call (functionName t.text) es)) (t :: opening :: (ts ++ [closing]))
  /-- An expression between parentheses is an operand, whatever its operators are. -/
  | group {opening closing : Token} {e : Expr} {ts : List Token}
      (hopening : opening.kind = .leftParen) (inner : Derives (.expression e) ts)
      (hclosing : closing.kind = .rightParen) :
      Derives (.primary e) (opening :: (ts ++ [closing]))
  | argument {e : Expr} {ts : List Token} (expression : Derives (.expression e) ts) :
      Derives (.arguments [e]) ts
  | moreArguments {e : Expr} {es : List Expr} {ts us : List Token} {comma : Token}
      (expression : Derives (.expression e) ts) (hcomma : comma.kind = .comma)
      (arguments : Derives (.arguments es) us) :
      Derives (.arguments (e :: es)) (ts ++ comma :: us)

/-- A first operand alone is an expression. -/
theorem Derives.expression_of_first {e : Expr} {ts : List Token} (h : Derives (.first e) ts) :
    Derives (.expression e) ts := by
  have htree := @Derives.expression (.leaf e) ts [] trivial h .noPairs
  rwa [List.append_nil] at htree

theorem Derives.expression_of_primary {e : Expr} {ts : List Token} (h : Derives (.primary e) ts) :
    Derives (.expression e) ts :=
  .expression_of_first (.first (.primary h))

/-- Two operands with an operator between them. -/
theorem Derives.binary {op : BinaryOp} {l r : Expr} {t : Token} {ts us : List Token}
    (left : Derives (.first l) ts) (operator : t.kind = op.token)
    (right : Derives (.operand r) us) : Derives (.expression (.binary op l r)) (ts ++ t :: us) := by
  have hpairs : Derives (.pairs [(op, r)]) (t :: us) := by
    have hpair := Derives.pair operator right .noPairs
    rwa [List.append_nil] at hpair
  have hordered : (Tree.node op (.leaf l) (.leaf r)).Ordered :=
    ⟨⟨trivial, nofun⟩, trivial, nofun⟩
  exact @Derives.expression (.node op (.leaf l) (.leaf r)) ts (t :: us) hordered left hpairs

end TablePipeline
