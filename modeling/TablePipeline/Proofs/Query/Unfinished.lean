import TablePipeline.Proofs.Query.Soundness

/-!
# Expressions that break off

Where the parser meets a token that can be no part of an expression, what it has taken so far is the
beginning of one: some tokens are missing, but no token is wrong.  So nothing that makes an
expression impossible is ever taken.

The missing tokens are written down.  `null` does for an operand wherever one is missing and ends a
null test that has begun, and a closing parenthesis ends a call or a group.  That they complete the
tokens is said in the grammar and not of the parser, which would look at what it has taken in
another way if other tokens followed.  In the grammar the operators of a chain are just pairs, and a
chain has an ordered tree whatever its operators are (`Derives.exists_chain`), so that precedences
play no part.

The rules call each other, and as for soundness one induction on the number of tokens closes the
circle.

## Main definitions

* `Complaint.PointsAt` — the token that a complaint is about
* `BeginsPhrase` — tokens that more tokens make a phrase of
* `BreaksOff` — a rule takes only what begins a phrase

## Main statements

* `breaksOff_parseBinary`, `exists_of_parseSuffix_eq_refuse` — what follows an operand
* `breaksOff_parseExpression` — whole expressions
-/

namespace TablePipeline

/-! ### Complaints about tokens -/

/-- The complaint is about a token: one that was not expected, or the name of an operation that does
not exist.  Other complaints are about what tokens stand for or about what there is too little
of. -/
def Complaint.IsAboutToken : Complaint → Prop
  | .unexpected _ | .unknownOperation _ _ => True
  | _ => False

/-- A complaint that leaves the tokens `rest` is about the first of the given tokens, or about the
end mark if there is none: about the first that is left, or about the name in front of it. -/
inductive Complaint.PointsAt : Complaint → List Token → List Token → Prop
  | unexpected (expected : Expected) (rest : List Token) : PointsAt (.unexpected expected) rest rest
  | unknownOperation {name : Token} (kind : name.kind = .name) (rest : List Token) :
      PointsAt (.unknownOperation name.text name.position) rest (name :: rest)

/-! ### Beginnings -/

/-- A token that is written with its symbol. -/
def Token.ofSymbol (kind : Token.Kind) : Token :=
  ⟨kind, kind.symbol, 0⟩

/-- The tokens begin a phrase: more tokens, none of them an end mark, make a phrase of them. -/
def BeginsPhrase {α : Type} (phrase : α → Phrase) (us : List Token) : Prop :=
  ∃ more a, (∀ t ∈ more, t.kind ≠ .finish) ∧ Derives (phrase a) (us ++ more)

/-- On lists of at most `n` tokens, where the rule complains of a token it is the first that is
left, and those before it begin a phrase. -/
def BreaksOff {α β : Type} (n : Nat) (rule : List Token → Parsed α) (phrase : β → Phrase) : Prop :=
  ∀ ts, ts.length ≤ n → ∀ c rest, rule ts = .refuse c rest → c.IsAboutToken →
    c.PointsAt rest rest ∧ ∃ us, ts = us ++ rest ∧ BeginsPhrase phrase us

section Beginnings

variable {α β : Type} {phrase : α → Phrase} {phrase' : β → Phrase} {us vs : List Token}
  {e : Expr}

theorem ne_finish_ofSymbol {kind : Token.Kind} (h : kind ≠ .finish) :
    ∀ t ∈ [Token.ofSymbol kind], t.kind ≠ .finish := by
  intro t ht
  rw [List.mem_singleton.1 ht]
  exact h

/-- A phrase is part of another one. -/
theorem BeginsPhrase.of_derives (h : BeginsPhrase phrase us) {vs : List Token} (f : α → β)
    (hf : ∀ a more, Derives (phrase a) (us ++ more) → Derives (phrase' (f a)) (vs ++ more)) :
    BeginsPhrase phrase' vs := by
  obtain ⟨more, a, hmore, ha⟩ := h
  exact ⟨more, f a, hmore, hf a more ha⟩

/-- `null` does for an operand. -/
theorem beginsPhrase_nil : BeginsPhrase .operand [] :=
  ⟨[.ofSymbol .null], .literal .null, ne_finish_ofSymbol nofun, .primary (.literal (.null rfl))⟩

/-- A first operand and pairs make an expression, in whatever order the operators come. -/
theorem Derives.exists_chain {f : Expr} {ps : List (BinaryOp × Expr)}
    (hf : Derives (.first f) us) (hps : Derives (.pairs ps) vs) :
    ∃ e, Derives (.expression e) (us ++ vs) := by
  obtain ⟨tree, ⟨hordered, rfl, rfl⟩, -⟩ := Tree.existsUnique f ps
  exact ⟨tree.toExpr, .expression hordered hf hps⟩

/-- Behind a first operand pairs may begin. -/
theorem BeginsPhrase.expression_of_pairs (h : BeginsPhrase .pairs vs) (he : Derives (.first e) us) :
    BeginsPhrase .expression (us ++ vs) := by
  obtain ⟨more, ps, hmore, hps⟩ := h
  obtain ⟨chain, hchain⟩ := he.exists_chain hps
  exact ⟨more, chain, hmore, by rwa [List.append_assoc]⟩

end Beginnings

/-! ### Operands -/

section Operands

variable {n : Nat} {c : Complaint} {t opening : Token} {ts rest : List Token}

/-- What is found in parentheses breaks off inside them, or where the closing one is missing. -/
theorem exists_of_closed_eq_refuse {α β : Type} {rule : List Token → Parsed α}
    {phrase : α → Phrase} {phrase' : β → Phrase} {expected : Expected} (front : List Token)
    (hsound : Sound n rule phrase) (h : BreaksOff n rule phrase) (hlen : ts.length ≤ n) (f : α → β)
    (hclosed : ∀ a us, Derives (phrase a) us →
      Derives (phrase' (f a)) (front ++ (us ++ [.ofSymbol .rightParen])))
    (hc : ((rule ts).bind fun a mid => (expect .rightParen expected mid).map fun _ => f a) =
      .refuse c rest) (habout : c.IsAboutToken) :
    c.PointsAt rest rest ∧ ∃ us, front ++ ts = us ++ rest ∧ BeginsPhrase phrase' us := by
  have hparen : ∀ t ∈ [Token.ofSymbol .rightParen], t.kind ≠ .finish := ne_finish_ofSymbol nofun
  rcases Parsed.bind_eq_refuse_iff.1 hc with hinside | ⟨a, mid, ha, hend⟩
  · obtain ⟨hpoints, us, rfl, more, a, hmore, ha⟩ := h ts hlen c rest hinside habout
    refine ⟨hpoints, front ++ us, (List.append_assoc front us rest).symm,
      more ++ [.ofSymbol .rightParen], f a, List.forall_mem_append.2 ⟨hmore, hparen⟩, ?_⟩
    have hderives := hclosed a (us ++ more) ha
    rwa [List.append_assoc, ← List.append_assoc] at hderives
  · obtain ⟨us, rfl, hus⟩ := hsound ts hlen a mid ha
    obtain ⟨rfl, rfl⟩ := eq_of_expect_eq_refuse (Parsed.map_eq_refuse_iff.1 hend)
    refine ⟨.unexpected _ _, front ++ us, (List.append_assoc front us rest).symm,
      [.ofSymbol .rightParen], f a, hparen, ?_⟩
    rw [List.append_assoc]
    exact hclosed a us hus

theorem breaksOff_parseArguments (hsound : Sound n parseExpression .expression)
    (h : BreaksOff n parseExpression .expression) : BreaksOff n parseArguments .arguments := by
  intro ts hlen
  -- on the length, since behind each comma stands a shorter list
  induction hm : ts.length using Nat.strongRecOn generalizing ts with
  | ind m ih =>
    intro c rest hc habout
    rw [parseArguments_eq] at hc
    rcases Parsed.bind_eq_refuse_iff.1 hc with he | ⟨e, mid, he, hbehind⟩
    · obtain ⟨hpoints, us, rfl, hus⟩ := h ts hlen c rest he habout
      exact ⟨hpoints, us, rfl, hus.of_derives (fun e => [e]) fun _ _ he => .argument he⟩
    · obtain ⟨us, rfl, hus⟩ := hsound ts hlen e mid he
      cases mid with
      | nil => exact absurd hbehind Parsed.done_ne_refuse
      | cons comma mid =>
        by_cases hcomma : comma.kind = .comma
        · simp only [if_pos hcomma] at hbehind
          rw [List.length_append, List.length_cons] at hlen hm
          obtain ⟨hpoints, vs, rfl, hvs⟩ := ih mid.length (by omega) mid (by omega) rfl c rest
            (Parsed.map_eq_refuse_iff.1 hbehind) habout
          refine ⟨hpoints, us ++ comma :: vs, by rw [List.append_assoc, List.cons_append],
            hvs.of_derives (e :: ·) fun es more hes => ?_⟩
          rw [List.append_assoc, List.cons_append]
          exact .moreArguments hus hcomma hes
        · simp only [if_neg hcomma] at hbehind
          exact absurd hbehind Parsed.done_ne_refuse

/-- A call breaks off in its arguments, or where its parenthesis is missing. -/
theorem exists_of_parseCall_eq_refuse (hsound : Sound n parseExpression .expression)
    (h : BreaksOff n parseExpression .expression) (hlen : ts.length ≤ n) (hname : t.kind = .name)
    (hopening : opening.kind = .leftParen)
    (hc : parseCall (functionName t.text) ts = .refuse c rest) (habout : c.IsAboutToken) :
    c.PointsAt rest rest ∧ ∃ us, t :: opening :: ts = us ++ rest ∧ BeginsPhrase .operand us := by
  rw [parseCall_eq] at hc
  split at hc
  · obtain ⟨rfl, rfl⟩ := eq_of_expect_eq_refuse (Parsed.map_eq_refuse_iff.1 hc)
    exact ⟨.unexpected _ _, [t, opening], rfl, [.ofSymbol .rightParen], _,
      ne_finish_ofSymbol nofun, .primary (.emptyCall hname hopening rfl)⟩
  · exact exists_of_closed_eq_refuse [t, opening] (sound_parseArguments hsound)
      (breaksOff_parseArguments hsound h) hlen (.call (functionName t.text))
      (fun _ _ hes => .primary (.call hname hopening hes rfl)) hc habout

/-- Numbers that cannot be stored are no unexpected tokens. -/
theorem not_isAboutToken_of_literalOf? (h : literalOf? t = some (.error c)) :
    ¬c.IsAboutToken := by
  unfold literalOf? at h
  split at h
  · split at h <;> cases h
    exact id
  · split at h <;> cases h
    exact id
  all_goals cases h

theorem exists_of_parsePrimary_eq_refuse (hsound : Sound n parseExpression .expression)
    (h : BreaksOff n parseExpression .expression) (hlen : ts.length ≤ n)
    (hc : parsePrimary t ts = .refuse c rest) (habout : c.IsAboutToken) :
    c.PointsAt rest rest ∧ ∃ us, t :: ts = us ++ rest ∧ BeginsPhrase .operand us := by
  rw [parsePrimary_eq] at hc
  cases hl : literalOf? t with
  | some outcome =>
    cases outcome with
    -- a number that cannot be read is a token that was expected
    | error c' =>
      simp only [hl] at hc
      obtain ⟨rfl, rfl⟩ := Parsed.refuse_eq_refuse_iff.1 hc
      exact absurd habout (not_isAboutToken_of_literalOf? hl)
    | ok l =>
      simp only [hl] at hc
      exact absurd hc Parsed.done_ne_refuse
  | none =>
    simp only [hl] at hc
    split at hc
    · exact absurd hc Parsed.done_ne_refuse
    · rename_i hkind
      cases ts with
      | nil => exact absurd hc Parsed.done_ne_refuse
      | cons p inner =>
        by_cases hp : p.kind = .leftParen
        · simp only [if_pos hp] at hc
          exact exists_of_parseCall_eq_refuse hsound h (Nat.le_of_succ_le hlen) hkind hp hc habout
        · simp only [if_neg hp] at hc
          exact absurd hc Parsed.done_ne_refuse
    · rename_i hkind
      exact exists_of_closed_eq_refuse [t] hsound h hlen id
        (fun _ _ he => .primary (.group hkind he rfl)) hc habout
    · obtain ⟨rfl, rfl⟩ := Parsed.refuse_eq_refuse_iff.1 hc
      exact ⟨.unexpected _ _, [], rfl, beginsPhrase_nil⟩

/-- Without tokens an operand is missing. -/
theorem breaksOff_parseUnary_zero : BreaksOff 0 parseUnary .operand := by
  intro ts hlen c rest hc _
  rw [List.length_eq_zero_iff.1 (Nat.le_zero.1 hlen), parseUnary_nil] at hc
  obtain ⟨rfl, rfl⟩ := Parsed.refuse_eq_refuse_iff.1 hc
  exact ⟨.unexpected _ _, [], List.length_eq_zero_iff.1 (Nat.le_zero.1 hlen), beginsPhrase_nil⟩

theorem breaksOff_parseUnary_succ (hsound : Sound n parseExpression .expression)
    (h : BreaksOff n parseExpression .expression) : BreaksOff (n + 1) parseUnary .operand := by
  -- on the signs in front, which are taken without looking into the operand
  intro ts
  induction ts with
  | nil =>
    intro _ c rest hc _
    rw [parseUnary_nil] at hc
    obtain ⟨rfl, rfl⟩ := Parsed.refuse_eq_refuse_iff.1 hc
    exact ⟨.unexpected _ _, [], rfl, beginsPhrase_nil⟩
  | cons t ts ih =>
    intro hlen c rest hc habout
    have hts : ts.length ≤ n := Nat.le_of_succ_le_succ hlen
    rw [parseUnary_cons] at hc
    cases hop : signOf? t.kind with
    | none =>
      simp only [hop] at hc
      exact exists_of_parsePrimary_eq_refuse hsound h hts hc habout
    | some op =>
      simp only [hop] at hc
      obtain ⟨hpoints, us, rfl, hus⟩ := ih (Nat.le_succ_of_le hts) c rest
        (Parsed.map_eq_refuse_iff.1 hc) habout
      exact ⟨hpoints, t :: us, rfl, hus.of_derives (.unary op) fun _ _ he =>
        .sign (signOf?_eq_some_iff.1 hop) he⟩

end Operands

/-! ### What follows an operand -/

section Expressions

variable {n : Nat} {c : Complaint} {e : Expr} {before ts rest : List Token}

/-- The pairs that have been taken are found again in the right operand that grew from them. -/
theorem breaksOff_parseBinary (hsound : Sound n parseUnary .operand)
    (h : BreaksOff n parseUnary .operand) (least : Nat) (left : Expr) :
    BreaksOff n (parseBinary least left) .pairs := by
  intro ts hlen
  induction hm : ts.length using Nat.strongRecOn generalizing least left ts with
  | ind m ih =>
    intro c rest hc habout
    cases ts with
    | nil =>
      rw [parseBinary_nil] at hc
      exact absurd hc Parsed.done_ne_refuse
    | cons t ts =>
      rw [parseBinary_cons] at hc
      cases hop : operatorOf? t.kind with
      | none =>
        simp only [hop] at hc
        exact absurd hc Parsed.done_ne_refuse
      | some op =>
        simp only [hop] at hc
        have hkind : t.kind = op.token := operatorOf?_eq_some_iff.1 hop
        by_cases hless : op.precedence < least
        · rw [if_pos hless] at hc
          exact absurd hc Parsed.done_ne_refuse
        · rw [if_neg hless] at hc
          rw [List.length_cons] at hlen hm
          rcases Parsed.bind_eq_refuse_iff.1 hc with hu | ⟨u, mid, hu, hbehind⟩
          · obtain ⟨hpoints, us, rfl, hus⟩ := h ts (by omega) c rest hu habout
            refine ⟨hpoints, t :: us, rfl, hus.of_derives (fun u => [(op, u)]) fun u more hu => ?_⟩
            have hpair := Derives.pair hkind hu .noPairs
            rwa [List.append_nil] at hpair
          obtain ⟨us, rfl, hus⟩ := hsound ts (by omega) u mid hu
          rw [List.length_append] at hlen hm
          rcases Parsed.bind_eq_refuse_iff.1 hbehind with hr | ⟨r, mid', hr, hmore⟩
          · obtain ⟨hpoints, vs, rfl, hvs⟩ := ih mid.length (by omega) _ _ mid (by omega) rfl c
              rest hr habout
            refine ⟨hpoints, t :: (us ++ vs), by rw [List.cons_append, List.append_assoc],
              hvs.of_derives ((op, u) :: ·) fun ps more hps => ?_⟩
            rw [List.cons_append, List.append_assoc]
            exact .pair hkind hus hps
          · obtain ⟨vs, right, rfl, rfl, hright⟩ := exists_grown hsound (.leaf u) (by omega)
              trivial (Tree.fits_leaf _ u mid) hr
            obtain ⟨ps, -, hvs⟩ := hright.pairs
            rw [List.length_append] at hlen hm
            obtain ⟨hpoints, ws, rfl, hws⟩ := ih mid'.length (by omega) _ _ mid' (by omega) rfl c
              rest hmore habout
            refine ⟨hpoints, t :: (us ++ (vs ++ ws)),
              by rw [List.cons_append, List.append_assoc, List.append_assoc],
              hws.of_derives (fun qs => (op, u) :: (ps ++ qs)) fun qs more hqs => ?_⟩
            rw [List.cons_append, List.append_assoc, List.append_assoc]
            exact .pair hkind hus (hvs.append_pairs hqs)

/-- A null test breaks off where its `null` is missing. -/
theorem exists_of_parseNullTest_eq_refuse {is : Token} (he : Derives (.expression e) before)
    (his : is.kind = .is) (hc : parseNullTest ts = .refuse c rest) :
    c.PointsAt rest rest ∧
      ∃ us, is :: ts = us ++ rest ∧ BeginsPhrase .expression (before ++ us) := by
  have hmissing : ∀ {negated us}, Derives (.first (.nullTest e negated))
      (before ++ (us ++ [.ofSymbol .null])) → BeginsPhrase .expression (before ++ us) :=
    fun h => ⟨[.ofSymbol .null], _, ne_finish_ofSymbol nofun, by
      rw [List.append_assoc]
      exact .expression_of_first h⟩
  have hplain : BeginsPhrase .expression (before ++ [is]) := hmissing (.isNull he his rfl)
  cases ts with
  | nil =>
    rw [parseNullTest_nil] at hc
    obtain ⟨rfl, rfl⟩ := Parsed.refuse_eq_refuse_iff.1 hc
    exact ⟨.unexpected _ _, [is], rfl, hplain⟩
  | cons t ts =>
    rw [parseNullTest_cons] at hc
    by_cases hnot : t.kind = .not
    · rw [if_pos hnot] at hc
      obtain ⟨rfl, rfl⟩ := eq_of_expect_eq_refuse (Parsed.map_eq_refuse_iff.1 hc)
      exact ⟨.unexpected _ _, [is, t], rfl, hmissing (.isNotNull he his hnot rfl)⟩
    · rw [if_neg hnot] at hc
      obtain ⟨rfl, rfl⟩ := eq_of_expect_eq_refuse (Parsed.map_eq_refuse_iff.1 hc)
      exact ⟨.unexpected _ _, [is], rfl, hplain⟩

/-- Null tests behind an expression and the operators behind them break off where an expression
does. -/
theorem exists_of_parseSuffix_eq_refuse (hsound : Sound n parseUnary .operand)
    (h : BreaksOff n parseUnary .operand) (hlen : ts.length ≤ n)
    (he : Derives (.expression e) before) (hc : parseSuffix e ts = .refuse c rest)
    (habout : c.IsAboutToken) :
    c.PointsAt rest rest ∧ ∃ us, ts = us ++ rest ∧ BeginsPhrase .expression (before ++ us) := by
  induction hm : ts.length using Nat.strongRecOn generalizing ts e before with
  | ind m ih =>
    cases ts with
    | nil =>
      rw [parseSuffix_nil] at hc
      exact absurd hc Parsed.done_ne_refuse
    | cons t ts =>
      rw [parseSuffix_cons] at hc
      by_cases his : t.kind = .is
      · rw [if_pos his] at hc
        rcases Parsed.bind_eq_refuse_iff.1 hc with hnull | ⟨negated, mid, hnull, hbehind⟩
        · exact exists_of_parseNullTest_eq_refuse he his hnull
        obtain ⟨us, rfl, hus⟩ := derives_nullTest he his hnull
        rw [List.length_cons, List.length_append] at hlen hm
        rcases Parsed.bind_eq_refuse_iff.1 hbehind with hps | ⟨chain, mid', hchain, hmore⟩
        · obtain ⟨hpoints, vs, rfl, hvs⟩ := breaksOff_parseBinary hsound h 1 _ mid (by omega) c rest
            hps habout
          refine ⟨hpoints, t :: (us ++ vs), by rw [List.cons_append, List.append_assoc], ?_⟩
          have hbegins := hvs.expression_of_pairs hus
          rwa [List.append_assoc, List.cons_append] at hbegins
        · obtain ⟨vs, rfl, hvs⟩ := derives_chain hsound (by omega) hus hchain
          rw [List.length_append] at hlen hm
          obtain ⟨hpoints, ws, rfl, hws⟩ := ih mid'.length (by omega) (by omega) hvs hmore rfl
          refine ⟨hpoints, t :: (us ++ (vs ++ ws)),
            by rw [List.cons_append, List.append_assoc, List.append_assoc], ?_⟩
          simpa only [List.cons_append, List.append_assoc] using hws
      · rw [if_neg his] at hc
        exact absurd hc Parsed.done_ne_refuse

theorem breaksOff_of_breaksOff_parseUnary (hsound : Sound n parseUnary .operand)
    (h : BreaksOff n parseUnary .operand) : BreaksOff n parseExpression .expression := by
  intro ts hlen c rest hc habout
  rw [parseExpression_eq] at hc
  rcases Parsed.bind_eq_refuse_iff.1 hc with hf | ⟨f, mid, hf, hbehind⟩
  · obtain ⟨hpoints, us, rfl, hus⟩ := h ts hlen c rest hf habout
    exact ⟨hpoints, us, rfl, hus.of_derives id fun _ _ he => .expression_of_first (.first he)⟩
  obtain ⟨us, rfl, hus⟩ := hsound ts hlen f mid hf
  rw [List.length_append] at hlen
  rcases Parsed.bind_eq_refuse_iff.1 hbehind with hps | ⟨chain, mid', hchain, hsuffix⟩
  · obtain ⟨hpoints, vs, rfl, hvs⟩ := breaksOff_parseBinary hsound h 1 f mid (by omega) c rest hps
      habout
    exact ⟨hpoints, us ++ vs, by rw [List.append_assoc], hvs.expression_of_pairs (.first hus)⟩
  · obtain ⟨vs, rfl, hvs⟩ := derives_chain hsound (by omega) (.first hus) hchain
    rw [List.length_append] at hlen
    obtain ⟨hpoints, ws, rfl, hws⟩ := exists_of_parseSuffix_eq_refuse hsound h (by omega) hvs
      hsuffix habout
    refine ⟨hpoints, us ++ (vs ++ ws), by rw [List.append_assoc, List.append_assoc], ?_⟩
    rwa [List.append_assoc] at hws

/-- **Expressions that break off**: where the parser complains of a token, the tokens before it
begin an expression. -/
theorem breaksOff_parseExpression (n : Nat) : BreaksOff n parseExpression .expression := by
  induction n with
  | zero => exact breaksOff_of_breaksOff_parseUnary sound_parseUnary_zero breaksOff_parseUnary_zero
  | succ n ih =>
    have hsound := sound_parseExpression n
    exact breaksOff_of_breaksOff_parseUnary (sound_parseUnary_succ hsound)
      (breaksOff_parseUnary_succ hsound ih)

end Expressions

end TablePipeline
