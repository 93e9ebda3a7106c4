import TablePipeline.Proofs.Query.Grammar
import TablePipeline.Proofs.Query.Parsed

/-!
# What the parser finds is spelled by what it took

Every rule takes a beginning of its tokens, and that beginning spells what the rule found.  The
rules call each other, and only the length of the list goes down; so each rule is shown to be sound
on lists of a given length from the soundness of `parseExpression` on shorter ones, and one
induction on the length closes the circle.

For the operators of a chain the statement has to say more: the operand that has been built so far
is the expression of an ordered tree, and so is the operand that is returned, with the tokens in
between as further pairs (`Grown`).  What keeps the tree ordered is that the next operator never
binds tighter than the root.

## Main definitions

* `Sound` — a rule is sound on lists of a given length
* `Grown` — a tree after the operators of at least some precedence have been taken

## Main statements

* `exists_grown` — the operators behind an operand
* `sound_parseExpression` — whole expressions
-/

namespace TablePipeline

/-- On lists of at most `n` tokens, whatever the rule finds is spelled by the tokens it took. -/
def Sound {α : Type} (n : Nat) (rule : List Token → Parsed α) (phrase : α → Phrase) : Prop :=
  ∀ ts, ts.length ≤ n → ∀ a rest, rule ts = .done a rest →
    ∃ us, ts = us ++ rest ∧ Derives (phrase a) us

section Operands

variable {n : Nat}

theorem sound_parseArguments (h : Sound n parseExpression .expression) :
    Sound n parseArguments .arguments := by
  intro ts hlen
  -- on the length, since behind each comma stands a shorter list
  induction hm : ts.length using Nat.strongRecOn generalizing ts with
  | ind m ih =>
    intro es rest hes
    rw [parseArguments_eq] at hes
    obtain ⟨e, mid, he, hbehind⟩ := Parsed.bind_eq_done_iff.1 hes
    obtain ⟨us, rfl, hus⟩ := h ts hlen e mid he
    cases mid with
    | nil =>
      obtain ⟨rfl, rfl⟩ := Parsed.done_eq_done_iff.1 hbehind
      exact ⟨us, rfl, .argument hus⟩
    | cons t mid =>
      by_cases hcomma : t.kind = .comma
      · simp only [if_pos hcomma] at hbehind
        obtain ⟨more, hmore, rfl⟩ := Parsed.map_eq_done_iff.1 hbehind
        have hmid : mid.length < m := by
          rw [← hm, List.length_append, List.length_cons]
          omega
        obtain ⟨vs, rfl, hvs⟩ := ih mid.length hmid mid (by omega) rfl more rest hmore
        refine ⟨us ++ t :: vs, ?_, .moreArguments hus hcomma hvs⟩
        rw [List.append_assoc, List.cons_append]
      · simp only [if_neg hcomma] at hbehind
        obtain ⟨rfl, rfl⟩ := Parsed.done_eq_done_iff.1 hbehind
        exact ⟨us, rfl, .argument hus⟩

/-- A call is spelled by its name, a parenthesis and what `parseCall` took. -/
theorem sound_parseCall (h : Sound n parseExpression .expression) {t opening : Token}
    {ts rest : List Token} {e : Expr} (hlen : ts.length ≤ n) (hname : t.kind = .name)
    (hopening : opening.kind = .leftParen)
    (he : parseCall (functionName t.text) ts = .done e rest) :
    ∃ us, t :: opening :: ts = us ++ rest ∧ Derives (.primary e) us := by
  rw [parseCall_eq] at he
  split at he
  · obtain ⟨closing, hclosing, rfl⟩ := Parsed.map_eq_done_iff.1 he
    obtain ⟨rfl, hkind⟩ := expect_eq_done_iff.1 hclosing
    exact ⟨[t, opening, closing], rfl, .emptyCall hname hopening hkind⟩
  · obtain ⟨es, mid, hes, hend⟩ := Parsed.bind_eq_done_iff.1 he
    obtain ⟨us, rfl, hus⟩ := sound_parseArguments h ts hlen es mid hes
    obtain ⟨closing, hclosing, rfl⟩ := Parsed.map_eq_done_iff.1 hend
    obtain ⟨rfl, hkind⟩ := expect_eq_done_iff.1 hclosing
    refine ⟨t :: opening :: (us ++ [closing]), ?_, .call hname hopening hus hkind⟩
    rw [List.cons_append, List.cons_append, List.append_assoc, List.singleton_append]

theorem sound_parsePrimary (h : Sound n parseExpression .expression) {t : Token}
    {ts rest : List Token} {e : Expr} (hlen : ts.length ≤ n)
    (he : parsePrimary t ts = .done e rest) :
    ∃ us, t :: ts = us ++ rest ∧ Derives (.primary e) us := by
  rw [parsePrimary_eq] at he
  cases hl : literalOf? t with
  | some outcome =>
    cases outcome with
    | error c =>
      simp only [hl] at he
      exact absurd he Parsed.refuse_ne_done
    | ok l =>
      simp only [hl] at he
      obtain ⟨rfl, rfl⟩ := Parsed.done_eq_done_iff.1 he
      exact ⟨[t], rfl, .literal (literalOf?_eq_some_ok_iff.1 hl)⟩
  | none =>
    simp only [hl] at he
    split at he
    · rename_i hkind
      obtain ⟨rfl, rfl⟩ := Parsed.done_eq_done_iff.1 he
      exact ⟨[t], rfl, .column (by rw [hkind]; rfl)⟩
    · rename_i hkind
      have hcolumn : Derives (.primary (.column t.text)) [t] := .column (by rw [hkind]; rfl)
      cases ts with
      | nil =>
        obtain ⟨rfl, rfl⟩ := Parsed.done_eq_done_iff.1 he
        exact ⟨[t], rfl, hcolumn⟩
      | cons p inner =>
        by_cases hp : p.kind = .leftParen
        · simp only [if_pos hp] at he
          exact sound_parseCall h (Nat.le_of_succ_le hlen) hkind hp he
        · simp only [if_neg hp] at he
          obtain ⟨rfl, rfl⟩ := Parsed.done_eq_done_iff.1 he
          exact ⟨[t], rfl, hcolumn⟩
    · rename_i hkind
      obtain ⟨inner, mid, hinner, hend⟩ := Parsed.bind_eq_done_iff.1 he
      obtain ⟨us, rfl, hus⟩ := h ts hlen inner mid hinner
      obtain ⟨closing, hclosing, rfl⟩ := Parsed.map_eq_done_iff.1 hend
      obtain ⟨rfl, hright⟩ := expect_eq_done_iff.1 hclosing
      refine ⟨t :: (us ++ [closing]), ?_, .group hkind hus hright⟩
      rw [List.cons_append, List.append_assoc, List.singleton_append]
    · exact absurd he Parsed.refuse_ne_done

/-- Without tokens there is no operand. -/
theorem sound_parseUnary_zero : Sound 0 parseUnary .operand := by
  intro ts hlen e rest he
  rw [List.length_eq_zero_iff.1 (Nat.le_zero.1 hlen), parseUnary_nil] at he
  exact absurd he Parsed.refuse_ne_done

theorem sound_parseUnary_succ (h : Sound n parseExpression .expression) :
    Sound (n + 1) parseUnary .operand := by
  -- on the signs in front, which are taken without looking into the operand
  intro ts
  induction ts with
  | nil =>
    intro _ e rest he
    rw [parseUnary_nil] at he
    exact absurd he Parsed.refuse_ne_done
  | cons t ts ih =>
    intro hlen e rest he
    have hts : ts.length ≤ n := Nat.le_of_succ_le_succ hlen
    rw [parseUnary_cons] at he
    cases hop : signOf? t.kind with
    | none =>
      simp only [hop] at he
      obtain ⟨us, hus, hprimary⟩ := sound_parsePrimary h hts he
      exact ⟨us, hus, .primary hprimary⟩
    | some op =>
      simp only [hop] at he
      obtain ⟨operand, hoperand, rfl⟩ := Parsed.map_eq_done_iff.1 he
      obtain ⟨us, rfl, hus⟩ := ih (Nat.le_succ_of_le hts) operand rest hoperand
      exact ⟨t :: us, rfl, .sign (signOf?_eq_some_iff.1 hop) hus⟩

end Operands

/-! ### Chains -/

theorem Derives.append_pairs {ps qs : List (BinaryOp × Expr)} {us vs : List Token}
    (hps : Derives (.pairs ps) us) (hqs : Derives (.pairs qs) vs) :
    Derives (.pairs (ps ++ qs)) (us ++ vs) := by
  induction ps generalizing us with
  | nil =>
    cases hps
    exact hqs
  | cons p ps ih =>
    cases hps with
    | pair operator operand pairs =>
      rw [List.cons_append, List.cons_append, List.append_assoc]
      exact .pair operator operand (ih pairs)

/-- The tree that `tree` has become when the operators of at least the given precedence have been
taken: `us` are the tokens that were taken and `rest` those that were left. -/
structure Grown (least : Nat) (tree grown : Tree) (us rest : List Token) : Prop where
  ordered : grown.Ordered
  first : grown.first = tree.first
  pairs : ∃ ps, grown.pairs = tree.pairs ++ ps ∧ Derives (.pairs ps) us
  root : ∀ op, grown.root? = some op → tree.root? = some op ∨ least ≤ op.precedence
  stops : ∀ op, headOperator? rest = some op → op.precedence < least

/-- The next operator, if it is taken, binds no tighter than the root. -/
def Tree.Fits (least : Nat) (tree : Tree) (ts : List Token) : Prop :=
  ∀ op, headOperator? ts = some op → least ≤ op.precedence →
    ∀ o, tree.root? = some o → op.precedence ≤ o.precedence

theorem Tree.fits_leaf (least : Nat) (e : Expr) (ts : List Token) :
    (Tree.leaf e).Fits least ts := by
  intro op _ _ o ho
  cases ho

/-- Nothing was taken. -/
theorem Grown.refl {least : Nat} {tree : Tree} {rest : List Token} (htree : tree.Ordered)
    (hstops : ∀ op, headOperator? rest = some op → op.precedence < least) :
    Grown least tree tree [] rest where
  ordered := htree
  first := rfl
  pairs := ⟨[], (List.append_nil _).symm, .noPairs⟩
  root := fun _ h => Or.inl h
  stops := hstops

/-- What grows from a tree that has taken an operator and its right operand has grown from the
tree. -/
theorem Grown.of_node {least : Nat} {op : BinaryOp} {tree right grown : Tree} {t : Token}
    {vs ws us rest : List Token} (hop : t.kind = op.token) (hleast : least ≤ op.precedence)
    (hvs : Derives (.operand right.first) vs) (hws : Derives (.pairs right.pairs) ws)
    (h : Grown least (.node op tree right) grown us rest) :
    Grown least tree grown (t :: (vs ++ (ws ++ us))) rest where
  ordered := h.ordered
  first := h.first
  pairs := by
    obtain ⟨ps, hps, hus⟩ := h.pairs
    refine ⟨(op, right.first) :: (right.pairs ++ ps), ?_, .pair hop hvs (hws.append_pairs hus)⟩
    rw [hps, Tree.pairs, List.append_assoc, List.cons_append]
  root := by
    intro o ho
    rcases h.root o ho with hroot | hle
    · cases hroot
      exact Or.inr hleast
    · exact Or.inr hle
  stops := h.stops

theorem Tree.Ordered.node {op : BinaryOp} {tree right : Tree} (htree : tree.Ordered)
    (hright : right.Ordered) (hleft : ∀ o, tree.root? = some o → op.precedence ≤ o.precedence)
    (htighter : ∀ o, right.root? = some o → op.precedence < o.precedence) :
    (Tree.node op tree right).Ordered := by
  refine ⟨⟨htree, fun o ho => ?_⟩, hright, fun o ho => ?_⟩
  · exact BinaryOp.precedence_le_iff.1 (hleft o ho)
  · exact BinaryOp.precedence_lt_iff.1 (htighter o ho)

/-- **The operators behind an operand**: if the operand is the expression of an ordered tree that
the next operator fits, then so is what is returned. -/
theorem exists_grown {n : Nat} (h : Sound n parseUnary .operand) {least : Nat} (tree : Tree)
    {ts rest : List Token} {e : Expr} (hlen : ts.length ≤ n) (htree : tree.Ordered)
    (hfits : tree.Fits least ts) (he : parseBinary least tree.toExpr ts = .done e rest) :
    ∃ us grown, ts = us ++ rest ∧ grown.toExpr = e ∧ Grown least tree grown us rest := by
  induction hm : ts.length using Nat.strongRecOn generalizing least tree ts rest e with
  | ind m ih =>
    cases ts with
    | nil =>
      rw [parseBinary_nil] at he
      obtain ⟨rfl, rfl⟩ := Parsed.done_eq_done_iff.1 he
      exact ⟨[], tree, rfl, rfl, .refl htree nofun⟩
    | cons t ts =>
      rw [parseBinary_cons] at he
      cases hop : operatorOf? t.kind with
      | none =>
        simp only [hop] at he
        obtain ⟨rfl, rfl⟩ := Parsed.done_eq_done_iff.1 he
        refine ⟨[], tree, rfl, rfl, .refl htree fun op hhead => ?_⟩
        rw [headOperator?, List.head?_cons, Option.bind_some, hop] at hhead
        cases hhead
      | some op =>
        have hhead : headOperator? (t :: ts) = some op := hop
        simp only [hop] at he
        by_cases hless : op.precedence < least
        · rw [if_pos hless] at he
          obtain ⟨rfl, rfl⟩ := Parsed.done_eq_done_iff.1 he
          refine ⟨[], tree, rfl, rfl, .refl htree fun op' hhead' => ?_⟩
          rw [← Option.some.inj (hhead.symm.trans hhead')]
          exact hless
        · rw [if_neg hless] at he
          have hleast : least ≤ op.precedence := Nat.le_of_not_lt hless
          obtain ⟨u, mid, hu, hbehind⟩ := Parsed.bind_eq_done_iff.1 he
          obtain ⟨r, mid', hr, hmore⟩ := Parsed.bind_eq_done_iff.1 hbehind
          rw [List.length_cons] at hlen hm
          obtain ⟨vs, rfl, hvs⟩ := h ts (by omega) u mid hu
          rw [List.length_append] at hlen hm
          -- the right operand grows from a single operand, with a higher threshold
          obtain ⟨ws, right, rfl, rfl, hright⟩ := ih mid.length (by omega) (.leaf u)
            (by omega) trivial (Tree.fits_leaf _ u mid) hr rfl
          rw [List.length_append] at hlen hm
          obtain ⟨ps, hps, hws⟩ := hright.pairs
          have hfirst : right.first = u := hright.first
          have hpairs : right.pairs = ps := hps
          rw [← hfirst] at hvs
          rw [← hpairs] at hws
          have hnode : (Tree.node op tree right).Ordered := by
            refine htree.node hright.ordered (hfits op hhead hleast) fun o ho => ?_
            rcases hright.root o ho with hleaf | hlt
            · cases hleaf
            · exact hlt
          -- what the right operand left binds no tighter than the new root
          have hnext : (Tree.node op tree right).Fits least mid' := by
            intro op' hop' _ o ho
            cases ho
            exact Nat.le_of_lt_succ (hright.stops op' hop')
          obtain ⟨us, grown, rfl, rfl, hgrown⟩ := ih mid'.length (by omega)
            (.node op tree right) (by omega) hnode hnext hmore rfl
          refine ⟨t :: (vs ++ (ws ++ us)), grown, ?_, rfl,
            hgrown.of_node (operatorOf?_eq_some_iff.1 hop) hleast hvs hws⟩
          simp only [List.cons_append, List.append_assoc]

section Expressions

variable {n : Nat}

/-- A first operand and all operators behind it spell an expression. -/
theorem derives_chain (h : Sound n parseUnary .operand) {before ts rest : List Token}
    {f e : Expr} (hlen : ts.length ≤ n) (hf : Derives (.first f) before)
    (he : parseBinary 1 f ts = .done e rest) :
    ∃ us, ts = us ++ rest ∧ Derives (.expression e) (before ++ us) := by
  obtain ⟨us, grown, rfl, rfl, hgrown⟩ := exists_grown h (.leaf f) hlen trivial
    (Tree.fits_leaf 1 f ts) he
  obtain ⟨ps, hps, hus⟩ := hgrown.pairs
  refine ⟨us, rfl, .expression hgrown.ordered ?_ ?_⟩
  · rw [hgrown.first]
    exact hf
  · rw [show grown.pairs = ps from hps]
    exact hus

/-- `is null` and `is not null` make a first operand of the expression before them. -/
theorem derives_nullTest {before ts rest : List Token} {is : Token} {e : Expr} {negated : Bool}
    (he : Derives (.expression e) before) (his : is.kind = .is)
    (hnull : parseNullTest ts = .done negated rest) :
    ∃ us, ts = us ++ rest ∧ Derives (.first (.nullTest e negated)) (before ++ is :: us) := by
  cases ts with
  | nil =>
    rw [parseNullTest_nil] at hnull
    exact absurd hnull Parsed.refuse_ne_done
  | cons t ts =>
    rw [parseNullTest_cons] at hnull
    by_cases hnot : t.kind = .not
    · rw [if_pos hnot] at hnull
      obtain ⟨null, htoken, rfl⟩ := Parsed.map_eq_done_iff.1 hnull
      obtain ⟨rfl, hkind⟩ := expect_eq_done_iff.1 htoken
      exact ⟨[t, null], rfl, .isNotNull he his hnot hkind⟩
    · rw [if_neg hnot] at hnull
      obtain ⟨null, htoken, rfl⟩ := Parsed.map_eq_done_iff.1 hnull
      obtain ⟨heq, hkind⟩ := expect_eq_done_iff.1 htoken
      exact ⟨[null], heq, .isNull he his hkind⟩

/-- What an expression spells together with the null tests behind it. -/
theorem derives_suffix (h : Sound n parseUnary .operand) {before ts rest : List Token}
    {e out : Expr} (hlen : ts.length ≤ n) (he : Derives (.expression e) before)
    (hout : parseSuffix e ts = .done out rest) :
    ∃ us, ts = us ++ rest ∧ Derives (.expression out) (before ++ us) := by
  induction hm : ts.length using Nat.strongRecOn generalizing ts e before with
  | ind m ih =>
    cases ts with
    | nil =>
      rw [parseSuffix_nil] at hout
      obtain ⟨rfl, rfl⟩ := Parsed.done_eq_done_iff.1 hout
      exact ⟨[], rfl, by rwa [List.append_nil]⟩
    | cons t ts =>
      rw [parseSuffix_cons] at hout
      by_cases his : t.kind = .is
      · rw [if_pos his] at hout
        obtain ⟨negated, mid, hnull, hbehind⟩ := Parsed.bind_eq_done_iff.1 hout
        obtain ⟨chain, mid', hchain, hmore⟩ := Parsed.bind_eq_done_iff.1 hbehind
        -- the test makes a first operand of everything before it, and a new chain begins
        obtain ⟨us, rfl, hus⟩ := derives_nullTest he his hnull
        rw [List.length_cons, List.length_append] at hlen hm
        obtain ⟨vs, rfl, hvs⟩ := derives_chain h (by omega) hus hchain
        rw [List.length_append] at hlen hm
        obtain ⟨ws, rfl, hws⟩ := ih mid'.length (by omega) (by omega) hvs hmore rfl
        refine ⟨t :: (us ++ (vs ++ ws)), ?_, ?_⟩
        · simp only [List.cons_append, List.append_assoc]
        · simpa only [List.cons_append, List.append_assoc] using hws
      · rw [if_neg his] at hout
        obtain ⟨rfl, rfl⟩ := Parsed.done_eq_done_iff.1 hout
        exact ⟨[], rfl, by rwa [List.append_nil]⟩

theorem sound_of_sound_parseUnary (h : Sound n parseUnary .operand) :
    Sound n parseExpression .expression := by
  intro ts hlen e rest he
  rw [parseExpression_eq] at he
  obtain ⟨f, mid, hf, hbehind⟩ := Parsed.bind_eq_done_iff.1 he
  obtain ⟨chain, mid', hchain, hsuffix⟩ := Parsed.bind_eq_done_iff.1 hbehind
  obtain ⟨us, rfl, hus⟩ := h ts hlen f mid hf
  rw [List.length_append] at hlen
  obtain ⟨vs, rfl, hvs⟩ := derives_chain h (by omega) (.first hus) hchain
  rw [List.length_append] at hlen
  obtain ⟨ws, rfl, hws⟩ := derives_suffix h (by omega) hvs hsuffix
  refine ⟨us ++ (vs ++ ws), ?_, ?_⟩
  · rw [List.append_assoc, List.append_assoc]
  · rwa [List.append_assoc] at hws

/-- **Soundness**: what the parser finds is spelled by the tokens that it took. -/
theorem sound_parseExpression (n : Nat) : Sound n parseExpression .expression := by
  induction n with
  | zero => exact sound_of_sound_parseUnary sound_parseUnary_zero
  | succ n ih => exact sound_of_sound_parseUnary (sound_parseUnary_succ ih)

end Expressions

end TablePipeline
