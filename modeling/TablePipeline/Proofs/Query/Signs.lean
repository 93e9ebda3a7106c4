import TablePipeline.Proofs.Expr.Alike
import TablePipeline.Proofs.Query.Grammar

/-!
# Signs of numbers

A minus in front of a number may be a token of its own, which the grammar reads as a sign in front
of an operand, or part of the token of the number.  Which of the two it is makes no difference to
what the tokens mean, as long as it is joined to the number only where no operand has ended
(`Joined`): there the grammar cannot read it as a subtraction.

Whether an operand has ended is said of the kind of the last token.  The grammar bears this out.
Every phrase but the rest of a chain ends with a token that ends an operand
(`Kept`, where what follows the phrase is joined behind such a token), and every operator, opening
parenthesis and comma, behind which an operand has to begin, does not.

## Main definitions

* `Joined` — some signs joined to their numbers
* `Phrase.MeantBy` — the tokens spell a phrase with the same meaning
* `Kept` — a phrase survives the joining

## Main statements

* `Token.spells_join` — a number and its negative
* `Derives.kept` — every phrase survives
-/

namespace TablePipeline

/-! ### Joined tokens -/

/-- A sign and the number behind it as one token. -/
def Token.join (sign number : Token) : Token :=
  ⟨number.kind, String.ofList ('-' :: number.text.toList), sign.position⟩

/-- Some signs are joined to the numbers behind them, at places where a sign is allowed: not behind
a token that ends an operand. -/
inductive Joined : Bool → List Token → List Token → Prop
  | nil {signAllowed : Bool} : Joined signAllowed [] []
  | keep {signAllowed : Bool} {t : Token} {ts us : List Token}
      (more : Joined (!t.kind.endsOperand) ts us) : Joined signAllowed (t :: ts) (t :: us)
  | join {sign number : Token} {ts us : List Token} (hsign : sign.kind = .minus)
      (hnumber : number.kind = .integer ∨ number.kind = .float)
      (digit : startsDigit number.text.toList = true) (more : Joined false ts us) :
      Joined true (sign :: number :: ts) (sign.join number :: us)

section Tokens

variable {signAllowed : Bool} {t : Token} {ts us : List Token}

theorem Joined.eq_nil (h : Joined signAllowed [] us) : us = [] := by
  cases h
  rfl

/-- A token that is no sign here stays as it is. -/
theorem Joined.of_cons (h : Joined signAllowed (t :: ts) us)
    (ht : signAllowed = false ∨ t.kind ≠ .minus) :
    ∃ us', us = t :: us' ∧ Joined (!t.kind.endsOperand) ts us' := by
  cases h with
  | keep more => exact ⟨_, rfl, more⟩
  | join hsign =>
    rcases ht with ht | ht
    · cases ht
    · exact absurd hsign ht

/-- Behind a token that ends an operand no sign is allowed. -/
theorem Joined.of_cons_endsOperand (h : Joined signAllowed (t :: ts) us) (ht : t.kind ≠ .minus)
    (hends : t.kind.endsOperand = true) : ∃ us', us = t :: us' ∧ Joined false ts us' := by
  obtain ⟨us', hus, h⟩ := h.of_cons (Or.inr ht)
  rw [hends] at h
  exact ⟨us', hus, h⟩

theorem splitSign_of_startsDigit {cs : List Char} (h : startsDigit cs = true) :
    splitSign cs = (false, cs) := by
  unfold splitSign
  split
  · cases h
  · cases h
  · rfl

/-- Digits with a sign in front have the negative value, which is in range if the value is. -/
theorem readInteger?_negative {cs : List Char} {n : Int64} (hcs : startsDigit cs = true)
    (h : readInteger? cs = some n) :
    ∃ m, readInteger? ('-' :: cs) = some m ∧ narrow? (-n.toInt) = some m := by
  rw [readInteger?, splitSign_of_startsDigit hcs] at h
  obtain ⟨k, hk, hn⟩ := Option.bind_eq_some_iff.1 h
  have hvalue : n.toInt = k := narrow?_eq_some_iff.1 hn
  have hfits : Fits (-n.toInt) := by
    have hle := fits_toInt n
    simp only [Fits, leastInteger, greatestInteger] at hle ⊢
    omega
  have hm : narrow? (-n.toInt) = some (Int64.ofInt (-n.toInt)) := if_pos hfits
  refine ⟨_, ?_, hm⟩
  rw [readInteger?, splitSign]
  simp only [hk, Option.bind_some, if_true]
  rw [← hvalue, hm]

theorem readFloat?_negative {cs : List Char} {x : Float} (hcs : startsDigit cs = true)
    (h : readFloat? cs = some x) : readFloat? ('-' :: cs) = some (-x) := by
  rw [readFloat?, splitSign_of_startsDigit hcs] at h
  obtain ⟨y, hy, rfl⟩ := Option.map_eq_some_iff.1 h
  rw [readFloat?, splitSign]
  exact congrArg (Option.map _) hy

/-- **A number and its negative**: the joined token spells the negative of the number. -/
theorem Token.spells_join {sign number : Token} {l : Literal} (h : number.Spells l)
    (hnumber : number.kind = .integer ∨ number.kind = .float)
    (digit : startsDigit number.text.toList = true) :
    ∃ l', (sign.join number).Spells l' ∧ l.negative? = some l' := by
  have htext : (sign.join number).text.toList = '-' :: number.text.toList :=
    String.toList_ofList
  cases h with
  | integer kind value =>
    obtain ⟨m, hm, hn⟩ := readInteger?_negative digit value
    refine ⟨.integer m, .integer kind (htext ▸ hm), ?_⟩
    rw [Literal.negative?, hn]
    rfl
  | float kind value =>
    exact ⟨_, .float kind (htext ▸ readFloat?_negative digit value), rfl⟩
  | string kind | true kind | false kind | null kind =>
    rw [kind] at hnumber
    rcases hnumber with hnumber | hnumber <;> cases hnumber

end Tokens

/-! ### Phrases with the same meaning -/

/-- The tokens spell a phrase with the same meaning, part by part. -/
def Phrase.MeantBy : Phrase → List Token → Prop
  | .expression e, ts => ∃ e', e.Alike e' ∧ Derives (.expression e') ts
  | .first e, ts => ∃ e', e.Alike e' ∧ Derives (.first e') ts
  | .operand e, ts => ∃ e', e.Alike e' ∧ Derives (.operand e') ts
  | .primary e, ts => ∃ e', e.Alike e' ∧ Derives (.primary e') ts
  | .pairs ps, ts =>
    ∃ ps', List.Forall₂ (fun p p' => p.1 = p'.1 ∧ p.2.Alike p'.2) ps ps' ∧ Derives (.pairs ps') ts
  | .arguments es, ts => ∃ es', List.Forall₂ Expr.Alike es es' ∧ Derives (.arguments es') ts

/-- With its operands replaced by others a tree keeps its operators where they are, so it stays
ordered. -/
theorem Tree.exists_alike (tree : Tree) {e : Expr} {ps : List (BinaryOp × Expr)}
    (hfirst : tree.first.Alike e)
    (hpairs : List.Forall₂ (fun p p' => p.1 = p'.1 ∧ p.2.Alike p'.2) tree.pairs ps) :
    ∃ tree' : Tree, tree'.first = e ∧ tree'.pairs = ps ∧ tree'.root? = tree.root? ∧
      (tree.Ordered → tree'.Ordered) ∧ tree.toExpr.Alike tree'.toExpr := by
  induction tree generalizing e ps with
  | leaf operand =>
    cases hpairs
    exact ⟨.leaf e, rfl, rfl, rfl, fun _ => trivial, hfirst⟩
  | node op left right ihl ihr =>
    have hflip := hpairs.flip
    have hleft := (List.forall₂_take_append ps _ _ hflip).flip
    have hright := (List.forall₂_drop_append ps _ _ hflip).flip
    obtain ⟨⟨_, e'⟩, rest, ⟨rfl, he⟩, hrest, hdrop⟩ := List.forall₂_cons_left_iff.1 hright
    obtain ⟨left', hfirst', hpairs', hroot, hordered, hl⟩ := ihl hfirst hleft
    obtain ⟨right', rfl, rfl, hroot', hordered', hr⟩ := ihr he hrest
    refine ⟨.node op left' right', hfirst', ?_, rfl, fun h => ?_, .binary op hl hr⟩
    · rw [pairs, hpairs', ← hdrop, List.take_append_drop]
    · rw [Ordered, hroot, hroot']
      exact ⟨⟨hordered h.1.1, h.1.2⟩, hordered' h.2.1, h.2.2⟩

/-! ### Phrases survive -/

/-- Whatever signs are joined in the tokens of the phrase, they spell a phrase with the same
meaning, and what follows is joined as it is behind an operand.  The rest of a chain follows an
operand itself. -/
def Kept (phrase : Phrase) (ts : List Token) : Prop :=
  ∀ signAllowed more us, (∀ ps, phrase = .pairs ps → signAllowed = false) →
    Joined signAllowed (ts ++ more) us →
      ∃ ts' more', us = ts' ++ more' ∧ phrase.MeantBy ts' ∧ Joined false more more'

section Rules

variable {e : Expr} {es : List Expr} {ps : List (BinaryOp × Expr)} {t opening closing : Token}
  {ts us : List Token}

theorem Kept.expression {tree : Tree} (ordered : tree.Ordered) (first : Kept (.first tree.first) ts)
    (pairs : Kept (.pairs tree.pairs) us) : Kept (.expression tree.toExpr) (ts ++ us) := by
  intro signAllowed more vs _ h
  rw [List.append_assoc] at h
  obtain ⟨ts', _, rfl, ⟨e', he, hts⟩, h⟩ := first signAllowed _ vs nofun h
  obtain ⟨us', more', rfl, ⟨ps', hps, hus⟩, h⟩ := pairs false _ _ (fun _ _ => rfl) h
  obtain ⟨tree', rfl, rfl, -, hordered, halike⟩ := tree.exists_alike he hps
  exact ⟨ts' ++ us', more', (List.append_assoc ts' us' more').symm,
    ⟨_, halike, .expression (hordered ordered) hts hus⟩, h⟩

theorem Kept.first (operand : Kept (.operand e) ts) : Kept (.first e) ts := by
  intro signAllowed more vs _ h
  obtain ⟨ts', more', rfl, ⟨e', he, hts⟩, h⟩ := operand signAllowed more vs nofun h
  exact ⟨ts', more', rfl, ⟨e', he, .first hts⟩, h⟩

theorem Kept.isNull {is null : Token} (operand : Kept (.expression e) ts) (his : is.kind = .is)
    (hnull : null.kind = .null) : Kept (.first (.nullTest e false)) (ts ++ [is, null]) := by
  intro signAllowed more vs _ h
  rw [List.append_assoc] at h
  obtain ⟨ts', _, rfl, ⟨e', he, hts⟩, h⟩ := operand signAllowed _ vs nofun h
  obtain ⟨_, rfl, htest⟩ := h.of_cons (Or.inl rfl)
  obtain ⟨more', rfl, hmore⟩ :=
    htest.of_cons_endsOperand (by rw [hnull]; decide) (by rw [hnull]; rfl)
  exact ⟨ts' ++ [is, null], more', (List.append_assoc ts' [is, null] more').symm,
    ⟨_, he.nullTest false, .isNull hts his hnull⟩, hmore⟩

theorem Kept.isNotNull {is not null : Token} (operand : Kept (.expression e) ts)
    (his : is.kind = .is) (hnot : not.kind = .not) (hnull : null.kind = .null) :
    Kept (.first (.nullTest e true)) (ts ++ [is, not, null]) := by
  intro signAllowed more vs _ h
  rw [List.append_assoc] at h
  obtain ⟨ts', _, rfl, ⟨e', he, hts⟩, h⟩ := operand signAllowed _ vs nofun h
  obtain ⟨_, rfl, htest⟩ := h.of_cons (Or.inl rfl)
  obtain ⟨_, rfl, hbehind⟩ := htest.of_cons (Or.inr (by rw [hnot]; decide))
  obtain ⟨more', rfl, hmore⟩ :=
    hbehind.of_cons_endsOperand (by rw [hnull]; decide) (by rw [hnull]; rfl)
  exact ⟨ts' ++ [is, not, null], more', (List.append_assoc ts' [is, not, null] more').symm,
    ⟨_, he.nullTest true, .isNotNull hts his hnot hnull⟩, hmore⟩

theorem kept_noPairs : Kept (.pairs []) [] := by
  intro signAllowed more vs hsign h
  rw [hsign [] rfl] at h
  exact ⟨[], vs, rfl, ⟨[], .nil, .noPairs⟩, h⟩

/-- A minus behind an operand is no sign and stays the operator it is. -/
theorem Kept.pair {op : BinaryOp} (operator : t.kind = op.token) (operand : Kept (.operand e) ts)
    (pairs : Kept (.pairs ps) us) : Kept (.pairs ((op, e) :: ps)) (t :: (ts ++ us)) := by
  intro signAllowed more vs hsign h
  rw [List.cons_append, List.append_assoc] at h
  obtain ⟨_, rfl, hoperand⟩ := h.of_cons (Or.inl (hsign _ rfl))
  obtain ⟨ts', _, rfl, ⟨e', he, hts⟩, h⟩ := operand _ _ _ nofun hoperand
  obtain ⟨us', more', rfl, ⟨ps', hps, hus⟩, h⟩ := pairs false _ _ (fun _ _ => rfl) h
  refine ⟨t :: (ts' ++ us'), more', ?_,
    ⟨(op, e') :: ps', .cons ⟨rfl, he⟩ hps, .pair operator hts hus⟩, h⟩
  rw [List.cons_append, List.append_assoc]

/-- An operand that begins with a number is that number. -/
theorem Derives.literal_of_number (h : Derives (.operand e) (t :: ts))
    (ht : t.kind = .integer ∨ t.kind = .float) : ts = [] ∧ ∃ l, e = .literal l ∧ t.Spells l := by
  have hne : ∀ kind : Token.Kind, kind ≠ .integer → kind ≠ .float → t.kind ≠ kind := by
    rintro kind hinteger hfloat rfl
    exact ht.elim hinteger hfloat
  cases h with
  | @sign op _ _ _ operator _ =>
    exact absurd operator (hne _ (by cases op <;> decide) (by cases op <;> decide))
  | primary primary =>
    cases primary with
    | literal spells => exact ⟨rfl, _, rfl, spells⟩
    | column name => rcases ht with ht | ht <;> rw [ht] at name <;> cases name
    | emptyCall name => exact absurd name (hne _ (by decide) (by decide))
    | call name => exact absurd name (hne _ (by decide) (by decide))
    | group hopening => exact absurd hopening (hne _ (by decide) (by decide))

/-- A sign in front of an operand stays a sign, or it is joined to the number that the operand
is. -/
theorem Kept.sign {op : UnaryOp} (operator : t.kind = op.token)
    (hoperand : Derives (.operand e) ts) (operand : Kept (.operand e) ts) :
    Kept (.operand (.unary op e)) (t :: ts) := by
  intro signAllowed more vs _ h
  rw [List.cons_append] at h
  generalize hall : ts ++ more = all at h
  cases h with
  | keep h =>
    subst hall
    obtain ⟨ts', more', rfl, ⟨e', he, hts⟩, h⟩ := operand _ _ _ nofun h
    exact ⟨t :: ts', more', rfl, ⟨_, he.unary op, .sign operator hts⟩, h⟩
  | @join _ number rest us hsign hnumber digit h =>
    obtain rfl : op = .negate := by
      rw [hsign] at operator
      cases op with
      | not => cases operator
      | negate => rfl
    cases ts with
    | nil =>
      cases hoperand with
      | primary primary => cases primary
    | cons t' ts =>
      obtain ⟨rfl, hrest⟩ := List.cons.inj hall
      obtain ⟨rfl, l, rfl, spells⟩ := hoperand.literal_of_number hnumber
      obtain ⟨l', hjoined, hnegative⟩ := Token.spells_join spells hnumber digit
      obtain rfl : more = rest := hrest
      exact ⟨[t.join t'], us, rfl,
        ⟨_, Expr.alike_negative hnegative, .primary (.literal hjoined)⟩, h⟩

theorem Kept.primary (primary : Kept (.primary e) ts) : Kept (.operand e) ts := by
  intro signAllowed more vs _ h
  obtain ⟨ts', more', rfl, ⟨e', he, hts⟩, h⟩ := primary signAllowed more vs nofun h
  exact ⟨ts', more', rfl, ⟨e', he, .primary hts⟩, h⟩

theorem Kept.literal {l : Literal} (spells : t.Spells l) : Kept (.primary (.literal l)) [t] := by
  intro signAllowed more vs _ h
  have hkind : t.kind ≠ .minus ∧ t.kind.endsOperand = true := by
    cases spells with
    | integer kind | float kind | string kind | true kind | false kind | null kind =>
      rw [kind]
      exact ⟨by decide, rfl⟩
  obtain ⟨more', rfl, hmore⟩ := h.of_cons_endsOperand hkind.1 hkind.2
  exact ⟨[t], more', rfl, ⟨_, .refl _, .literal spells⟩, hmore⟩

theorem Kept.column (name : t.kind.isName = true) : Kept (.primary (.column t.text)) [t] := by
  intro signAllowed more vs _ h
  have hkinds : ∀ kind : Token.Kind, kind.isName = true →
      kind ≠ .minus ∧ kind.endsOperand = true := by
    intro kind
    cases kind <;> decide
  have hkind := hkinds t.kind name
  obtain ⟨more', rfl, hmore⟩ := h.of_cons_endsOperand hkind.1 hkind.2
  exact ⟨[t], more', rfl, ⟨_, .refl _, .column name⟩, hmore⟩

theorem Kept.emptyCall (name : t.kind = .name) (hopening : opening.kind = .leftParen)
    (hclosing : closing.kind = .rightParen) :
    Kept (.primary (.call (functionName t.text) [])) [t, opening, closing] := by
  intro signAllowed more vs _ h
  obtain ⟨_, rfl, hname⟩ := h.of_cons (Or.inr (by rw [name]; decide))
  obtain ⟨_, rfl, hinner⟩ := hname.of_cons (Or.inr (by rw [hopening]; decide))
  obtain ⟨more', rfl, hmore⟩ :=
    hinner.of_cons_endsOperand (by rw [hclosing]; decide) (by rw [hclosing]; rfl)
  exact ⟨[t, opening, closing], more', rfl, ⟨_, .refl _, .emptyCall name hopening hclosing⟩, hmore⟩

theorem Kept.call (name : t.kind = .name) (hopening : opening.kind = .leftParen)
    (arguments : Kept (.arguments es) ts) (hclosing : closing.kind = .rightParen) :
    Kept (.primary (.call (functionName t.text) es)) (t :: opening :: (ts ++ [closing])) := by
  intro signAllowed more vs _ h
  rw [List.cons_append, List.cons_append, List.append_assoc] at h
  obtain ⟨_, rfl, hname⟩ := h.of_cons (Or.inr (by rw [name]; decide))
  obtain ⟨_, rfl, hinner⟩ := hname.of_cons (Or.inr (by rw [hopening]; decide))
  obtain ⟨ts', _, rfl, ⟨es', hes, hts⟩, hrest⟩ := arguments _ _ _ nofun hinner
  obtain ⟨more', rfl, hmore⟩ :=
    hrest.of_cons_endsOperand (by rw [hclosing]; decide) (by rw [hclosing]; rfl)
  refine ⟨t :: opening :: (ts' ++ [closing]), more', ?_,
    ⟨_, .call (functionName t.text) hes, .call name hopening hts hclosing⟩, hmore⟩
  rw [List.cons_append, List.cons_append, List.append_assoc, List.singleton_append]

theorem Kept.group (hopening : opening.kind = .leftParen) (inner : Kept (.expression e) ts)
    (hclosing : closing.kind = .rightParen) :
    Kept (.primary e) (opening :: (ts ++ [closing])) := by
  intro signAllowed more vs _ h
  rw [List.cons_append, List.append_assoc] at h
  obtain ⟨_, rfl, hinner⟩ := h.of_cons (Or.inr (by rw [hopening]; decide))
  obtain ⟨ts', _, rfl, ⟨e', he, hts⟩, hrest⟩ := inner _ _ _ nofun hinner
  obtain ⟨more', rfl, hmore⟩ :=
    hrest.of_cons_endsOperand (by rw [hclosing]; decide) (by rw [hclosing]; rfl)
  refine ⟨opening :: (ts' ++ [closing]), more', ?_, ⟨e', he, .group hopening hts hclosing⟩, hmore⟩
  rw [List.cons_append, List.append_assoc, List.singleton_append]

theorem Kept.argument (expression : Kept (.expression e) ts) : Kept (.arguments [e]) ts := by
  intro signAllowed more vs _ h
  obtain ⟨ts', more', rfl, ⟨e', he, hts⟩, h⟩ := expression signAllowed more vs nofun h
  exact ⟨ts', more', rfl, ⟨[e'], .cons he .nil, .argument hts⟩, h⟩

theorem Kept.moreArguments {comma : Token} (expression : Kept (.expression e) ts)
    (hcomma : comma.kind = .comma) (arguments : Kept (.arguments es) us) :
    Kept (.arguments (e :: es)) (ts ++ comma :: us) := by
  intro signAllowed more vs _ h
  rw [List.append_assoc, List.cons_append] at h
  obtain ⟨ts', _, rfl, ⟨e', he, hts⟩, h⟩ := expression signAllowed _ vs nofun h
  obtain ⟨_, rfl, hrest⟩ := h.of_cons (Or.inl rfl)
  obtain ⟨us', more', rfl, ⟨es', hes, hus⟩, hmore⟩ := arguments _ _ _ nofun hrest
  refine ⟨ts' ++ comma :: us', more', ?_,
    ⟨e' :: es', .cons he hes, .moreArguments hts hcomma hus⟩, hmore⟩
  rw [List.append_assoc, List.cons_append]

end Rules

/-- **Every phrase survives the joining of signs.** -/
theorem Derives.kept {phrase : Phrase} {ts : List Token} (h : Derives phrase ts) :
    Kept phrase ts := by
  induction h with
  | expression ordered _ _ first pairs => exact .expression ordered first pairs
  | first _ operand => exact .first operand
  | isNull _ his hnull operand => exact .isNull operand his hnull
  | isNotNull _ his hnot hnull operand => exact .isNotNull operand his hnot hnull
  | noPairs => exact kept_noPairs
  | pair operator _ _ operand pairs => exact .pair operator operand pairs
  | sign operator hoperand operand => exact .sign operator hoperand operand
  | primary _ primary => exact .primary primary
  | literal spells => exact .literal spells
  | column name => exact .column name
  | emptyCall name hopening hclosing => exact .emptyCall name hopening hclosing
  | call name hopening _ hclosing arguments => exact .call name hopening arguments hclosing
  | group hopening _ hclosing inner => exact .group hopening inner hclosing
  | argument _ expression => exact .argument expression
  | moreArguments _ hcomma _ expression arguments =>
    exact .moreArguments expression hcomma arguments

end TablePipeline
