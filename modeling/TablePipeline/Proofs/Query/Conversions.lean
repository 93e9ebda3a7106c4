import TablePipeline.Proofs.Query.Cursor
import TablePipeline.Proofs.Query.Numbers

/-!
# The parser converts every number

Wherever the grammar takes a number, it converts the text of the token, and it has a complaint ready
for a text that cannot be converted.  That complaint is never made.  A literal is a token that the
lexer has checked.  A count stands behind the name `head` or `tail`, and behind a name the lexer
begins no number with a sign, so that the integer there is a count.

Every rule leaves a part of the tokens that were in a row, so what is true of the row stays true for
the next rule (`Parsed.Converted`).  A parser gets its row of tokens at once from the lexer, in
whatever state calls that failed have left that.

## Main definitions

* `Complaint.IsAboutNumber` — the complaints that are never made
* `Parsed.Converted`, `Converts` — outcomes and rules without them

## Main statements

* `converts_parseExpression`, `converts_parseOperations` — rules
* `Parser.numbers_convert` — any calls
-/

namespace TablePipeline

/-- The complaint is about the text of a number, which cannot be converted. -/
def Complaint.IsAboutNumber : Complaint → Prop
  | .invalidInteger _ _ | .invalidFloat _ _ => True
  | _ => False

/-- The outcome is no complaint about a number, and of at most `n` tokens that are left the numbers
can be converted. -/
structure Parsed.Converted {α : Type} (n : Nat) (p : Parsed α) : Prop where
  complaint : ∀ c, p.outcome = .error c → ¬c.IsAboutNumber
  rest : Convertible p.rest
  length : p.rest.length ≤ n

/-- The rule converts every number in up to `n` tokens. -/
def ConvertsUpTo {α : Type} (n : Nat) (rule : List Token → Parsed α) : Prop :=
  ∀ ts, ts.length ≤ n → Convertible ts → (rule ts).Converted ts.length

/-- The rule converts every number. -/
def Converts {α : Type} (rule : List Token → Parsed α) : Prop :=
  ∀ ts, Convertible ts → (rule ts).Converted ts.length

/-! ### Rules one after another -/

section Rules

variable {α β : Type} {n m : Nat} {a : α} {c : Complaint} {p : Parsed α} {t : Token}
  {ts rest : List Token} {rule : List Token → Parsed α} {kind : Token.Kind} {expected : Expected}

namespace Parsed

theorem converted_done (h : Convertible rest) (hlen : rest.length ≤ n) :
    (done a rest).Converted n := by
  refine ⟨fun c hc => ?_, h, hlen⟩
  cases hc

theorem converted_refuse (hc : ¬c.IsAboutNumber) (h : Convertible rest) (hlen : rest.length ≤ n) :
    (refuse c rest : Parsed α).Converted n := by
  refine ⟨fun c' hc' => ?_, h, hlen⟩
  cases hc'
  exact hc

/-- The bound on the tokens that are left may be raised. -/
theorem Converted.mono (h : p.Converted n) (hle : n ≤ m) : p.Converted m :=
  ⟨h.complaint, h.rest, Nat.le_trans h.length hle⟩

/-- The second rule goes on with what the first one left. -/
theorem Converted.bind {next : α → List Token → Parsed β} (h : p.Converted n)
    (hnext : ∀ a rest, Convertible rest → rest.length ≤ n → (next a rest).Converted n) :
    (p.bind next).Converted n := by
  rcases p.eq_done_or_refuse with ⟨a, rest, rfl⟩ | ⟨c, rest, rfl⟩
  · exact hnext a rest h.rest h.length
  · exact converted_refuse (h.complaint c rfl) h.rest h.length

/-- What is made of the result does not matter. -/
theorem Converted.map (h : p.Converted n) (f : α → β) : (p.map f).Converted n :=
  h.bind fun _ _ hrest hlen => converted_done hrest hlen

end Parsed

theorem converts_of_upTo (h : ∀ n, ConvertsUpTo n rule) : Converts rule :=
  fun ts hts => h ts.length ts (Nat.le_refl _) hts

/-- A rule for the tokens behind the first. -/
theorem ConvertsUpTo.tail (h : ConvertsUpTo n rule) (hlen : ts.length ≤ n)
    (hts : Convertible (t :: ts)) : (rule ts).Converted (t :: ts).length :=
  (h ts hlen hts.tail).mono (Nat.le_succ _)

/-- Rules that convert every number do so one behind the other. -/
theorem Converts.bind {next : α → List Token → Parsed β} (h : Converts rule)
    (hnext : ∀ a, Converts (next a)) : Converts fun ts => (rule ts).bind next :=
  fun ts hts => (h ts hts).bind fun a rest hrest hlen => (hnext a rest hrest).mono hlen

theorem Converts.map (h : Converts rule) (f : α → β) : Converts fun ts => (rule ts).map f :=
  fun ts hts => (h ts hts).map f

theorem converts_done (a : α) : Converts (Parsed.done a) :=
  fun _ hts => Parsed.converted_done hts (Nat.le_refl _)

/-- A rule that always complains, but of no number. -/
theorem converts_refuse (hc : ¬c.IsAboutNumber) :
    Converts (Parsed.refuse c : List Token → Parsed α) :=
  fun _ hts => Parsed.converted_refuse hc hts (Nat.le_refl _)

/-- One token of a kind: that it is missing is no complaint about a number. -/
theorem converts_expect (kind : Token.Kind) (expected : Expected) :
    Converts (expect kind expected) := by
  intro ts hts
  cases ts with
  | nil => exact Parsed.converted_refuse id hts (Nat.le_refl _)
  | cons t rest =>
    rw [expect_cons]
    split
    · exact Parsed.converted_done hts.tail (Nat.le_succ _)
    · exact Parsed.converted_refuse id hts (Nat.le_refl _)

theorem converts_expectName (expected : Expected) : Converts (expectName expected) := by
  intro ts hts
  cases ts with
  | nil => exact Parsed.converted_refuse id hts (Nat.le_refl _)
  | cons t rest =>
    rw [expectName]
    split
    · exact Parsed.converted_done hts.tail (Nat.le_succ _)
    · exact Parsed.converted_refuse id hts (Nat.le_refl _)

end Rules

/-! ### Operands -/

section Operands

variable {n : Nat} {t : Token} {ts : List Token}

/-- The literal of a token whose number can be stored is found. -/
theorem Token.IsStorable.literalOf?_ne_error (h : t.IsStorable) (c : Complaint) :
    literalOf? t ≠ some (.error c) := by
  intro hl
  unfold literalOf? at hl
  split at hl
  · rename_i hkind
    obtain ⟨k, hk⟩ := Option.isSome_iff_exists.1 (h.integer hkind)
    rw [hk] at hl
    cases hl
  · rename_i hkind
    obtain ⟨x, hx⟩ := Option.isSome_iff_exists.1 (h.float hkind)
    rw [hx] at hl
    cases hl
  all_goals cases hl

/-- Arguments, if expressions among as many tokens convert every number. -/
theorem convertsUpTo_parseArguments (h : ConvertsUpTo n parseExpression) :
    ConvertsUpTo n parseArguments := by
  intro ts hlen
  -- on the length, since behind each comma stands a shorter list
  induction hm : ts.length using Nat.strongRecOn generalizing ts with
  | ind m ih =>
    intro hts
    rw [parseArguments_eq, ← hm]
    refine (h ts hlen hts).bind fun first rest hrest hle => ?_
    cases rest with
    | nil => exact Parsed.converted_done hrest hle
    | cons comma rest =>
      simp only
      split
      · have hshorter : rest.length < ts.length := hle
        have hmore := ih rest.length (hm ▸ hshorter) rest (by omega) rfl hrest.tail
        exact (hmore.map _).mono (Nat.le_of_lt hshorter)
      · exact Parsed.converted_done hrest hle

theorem convertsUpTo_parseCall (h : ConvertsUpTo n parseExpression) (function : String) :
    ConvertsUpTo n (parseCall function) := by
  intro ts hlen hts
  rw [parseCall_eq]
  split
  · exact (converts_expect _ _ ts hts).map _
  · refine (convertsUpTo_parseArguments h ts hlen hts).bind fun arguments rest hrest hle => ?_
    exact ((converts_expect _ _ rest hrest).map _).mono hle

/-- An operand: its literals can be converted, and the expression inside has fewer tokens. -/
theorem converted_parsePrimary (h : ConvertsUpTo n parseExpression) (hlen : ts.length ≤ n)
    (hts : Convertible (t :: ts)) : (parsePrimary t ts).Converted (t :: ts).length := by
  have hrest : ts.length ≤ (t :: ts).length := Nat.le_succ _
  rw [parsePrimary_eq]
  split
  · exact Parsed.converted_done hts.tail hrest
  · rename_i c hliteral
    exact absurd hliteral (hts.head.literalOf?_ne_error c)
  · split
    · exact Parsed.converted_done hts.tail hrest
    · cases ts with
      | nil => exact Parsed.converted_done hts.tail hrest
      | cons opening inner =>
        simp only
        split
        · have hinner := convertsUpTo_parseCall h (functionName t.text) inner
            (Nat.le_of_succ_le hlen) hts.tail.tail
          exact hinner.mono (Nat.le_trans (Nat.le_succ _) hrest)
        · exact Parsed.converted_done hts.tail hrest
    · refine (h.tail hlen hts).bind fun inner rest hrest hle => ?_
      exact ((converts_expect _ _ rest hrest).map _).mono hle
    · exact Parsed.converted_refuse id hts (Nat.le_refl _)

/-- Without tokens there is no number. -/
theorem convertsUpTo_parseUnary_zero : ConvertsUpTo 0 parseUnary := by
  intro ts hlen hts
  rw [List.length_eq_zero_iff.1 (Nat.le_zero.1 hlen), parseUnary_nil]
  exact Parsed.converted_refuse id convertible_nil (Nat.le_refl _)

/-- Behind the signs there is an operand, and only inside it an expression. -/
theorem convertsUpTo_parseUnary_succ (h : ConvertsUpTo n parseExpression) :
    ConvertsUpTo (n + 1) parseUnary := by
  -- on the signs in front, which are taken without looking into the operand
  intro ts
  induction ts with
  | nil =>
    intro _ hts
    rw [parseUnary_nil]
    exact Parsed.converted_refuse id hts (Nat.le_refl _)
  | cons t ts ih =>
    intro hlen hts
    rw [parseUnary_cons]
    split
    · exact ((ih (Nat.le_of_succ_le hlen) hts.tail).map _).mono (Nat.le_succ _)
    · exact converted_parsePrimary h (Nat.le_of_succ_le_succ hlen) hts

end Operands

/-! ### Expressions -/

section Expressions

variable {n : Nat}

/-- A chain of operators, if its operands convert every number. -/
theorem convertsUpTo_parseBinary (h : ConvertsUpTo n parseUnary) (least : Nat) (left : Expr) :
    ConvertsUpTo n (parseBinary least left) := by
  intro ts hlen
  induction hm : ts.length using Nat.strongRecOn generalizing ts least left with
  | ind m ih =>
    intro hts
    rw [← hm]
    cases ts with
    | nil =>
      rw [parseBinary_nil]
      exact Parsed.converted_done hts (Nat.le_refl _)
    | cons t ts =>
      rw [parseBinary_cons]
      split
      · exact Parsed.converted_done hts (Nat.le_refl _)
      · rename_i op _
        split
        · exact Parsed.converted_done hts (Nat.le_refl _)
        · rw [List.length_cons] at hlen hm
          refine Parsed.Converted.mono ?_ (Nat.le_succ ts.length)
          refine (h ts (by omega) hts.tail).bind fun operand mid hmid hle => ?_
          have hright := ih mid.length (by omega) (op.precedence + 1) operand mid (by omega) rfl
            hmid
          refine (hright.mono hle).bind fun right rest hrest hle => ?_
          exact (ih rest.length (by omega) _ _ rest (by omega) rfl hrest).mono hle

theorem converts_parseNullTest : Converts parseNullTest := by
  intro ts hts
  cases ts with
  | nil =>
    rw [parseNullTest_nil]
    exact Parsed.converted_refuse id hts (Nat.le_refl _)
  | cons t rest =>
    rw [parseNullTest_cons]
    split
    · exact ((converts_expect _ _ rest hts.tail).map _).mono (Nat.le_succ _)
    · exact (converts_expect _ _ (t :: rest) hts).map _

/-- Null tests and the chains behind them. -/
theorem convertsUpTo_parseSuffix (h : ConvertsUpTo n parseUnary) (operand : Expr) :
    ConvertsUpTo n (parseSuffix operand) := by
  intro ts hlen
  induction hm : ts.length using Nat.strongRecOn generalizing ts operand with
  | ind m ih =>
    intro hts
    rw [← hm]
    cases ts with
    | nil =>
      rw [parseSuffix_nil]
      exact Parsed.converted_done hts (Nat.le_refl _)
    | cons t ts =>
      rw [parseSuffix_cons]
      split
      · rw [List.length_cons] at hlen hm
        refine Parsed.Converted.mono ?_ (Nat.le_succ ts.length)
        refine (converts_parseNullTest ts hts.tail).bind fun negated mid hmid hle => ?_
        have hchain := convertsUpTo_parseBinary h 1 (.nullTest operand negated) mid (by omega)
          hmid
        refine (hchain.mono hle).bind fun chain rest hrest hle => ?_
        exact (ih rest.length (by omega) chain rest (by omega) rfl hrest).mono hle
      · exact Parsed.converted_done hts (Nat.le_refl _)

/-- An expression converts every number if operands among as many tokens do. -/
theorem convertsUpTo_of_parseUnary (h : ConvertsUpTo n parseUnary) :
    ConvertsUpTo n parseExpression := by
  intro ts hlen hts
  rw [parseExpression_eq]
  refine (h ts hlen hts).bind fun first mid hmid hle => ?_
  have hchain := convertsUpTo_parseBinary h 1 first mid (by omega) hmid
  refine (hchain.mono hle).bind fun chain rest hrest hle => ?_
  exact (convertsUpTo_parseSuffix h chain rest (by omega) hrest).mono hle

/-- Expressions complain of no number. -/
theorem converts_parseExpression : Converts parseExpression := by
  refine converts_of_upTo fun n => ?_
  induction n with
  | zero => exact convertsUpTo_of_parseUnary convertsUpTo_parseUnary_zero
  | succ n ih => exact convertsUpTo_of_parseUnary (convertsUpTo_parseUnary_succ ih)

end Expressions

/-! ### Operations -/

section Operations

variable {α : Type} {t : Token} {ts : List Token}

/-- Names are taken without looking at any number. -/
theorem converts_takeNames : Converts takeNames := fun ts hts =>
  Parsed.converted_done (hts.part (List.dropWhile_suffix _).isInfix) (length_rest_takeNames ts)

/-- That there are no names is no complaint about a number. -/
theorem converts_requireNames (operation : String) : Converts (requireNames operation) := by
  refine converts_takeNames.bind fun names => ?_
  cases names with
  | nil => exact converts_refuse id
  | cons name names => exact converts_done _

theorem converts_parseFilter : Converts parseFilter :=
  (converts_expect _ _).bind fun _ => converts_parseExpression.bind fun _ =>
    (converts_expect _ _).bind fun _ => converts_done _

theorem converts_parseNestedName : Converts parseNestedName := by
  intro ts hts
  unfold parseNestedName
  split
  · exact Parsed.converted_done hts (Nat.le_refl _)
  · split
    · exact (converts_expectName _ _ hts.tail).mono (Nat.le_succ _)
    · exact Parsed.converted_done hts (Nat.le_refl _)

theorem converts_parseGroup : Converts parseGroup :=
  (converts_requireNames _).bind fun _ => converts_parseNestedName.bind fun _ => converts_done _

/-- Pairs of names; a new name may be missing, but no number. -/
theorem converts_parsePairs : Converts parsePairs := by
  intro ts hts
  fun_induction parsePairs ts with
  | case1 => exact Parsed.converted_done hts (Nat.le_refl _)
  | case2 old hold => exact Parsed.converted_refuse id hts.tail (Nat.zero_le _)
  | case3 old hold => exact Parsed.converted_done hts (Nat.le_refl _)
  | case4 old new rest hold hnew ih =>
    exact ((ih hts.tail.tail).map _).mono (Nat.le_add_right _ 2)
  | case5 old new rest hold hnew => exact Parsed.converted_refuse id hts.tail (Nat.le_succ _)
  | case6 old new rest hold => exact Parsed.converted_done hts (Nat.le_refl _)

theorem converts_parseRename : Converts parseRename := by
  refine converts_parsePairs.bind fun pairs => ?_
  cases pairs with
  | nil => exact converts_refuse id
  | cons pair pairs => exact converts_done _

theorem converts_parseAssignment : Converts parseAssignment :=
  (converts_expectName _).bind fun _ => (converts_expect _ _).bind fun _ =>
    converts_parseExpression.bind fun _ => converts_done _

/-- Assignments, on the length again. -/
theorem converts_parseAssignments : Converts parseAssignments := by
  intro ts
  -- on the length, since behind each comma stands a shorter list
  induction hm : ts.length using Nat.strongRecOn generalizing ts with
  | ind m ih =>
    intro hts
    rw [parseAssignments_eq, ← hm]
    refine (converts_parseAssignment ts hts).bind fun first rest hrest hle => ?_
    cases rest with
    | nil => exact Parsed.converted_done hrest hle
    | cons comma rest =>
      simp only
      split
      · have hshorter : rest.length < ts.length := hle
        have hmore := ih rest.length (hm ▸ hshorter) rest rfl hrest.tail
        exact (hmore.map _).mono (Nat.le_of_lt hshorter)
      · exact Parsed.converted_done hrest hle

/-- A reduction, with or without the name of its column. -/
theorem converts_parseReduce : Converts parseReduce := by
  intro ts hts
  cases hnamed : namesNested ts with
  | false =>
    rw [parseReduce_of_unnamed hnamed]
    exact (converts_parseAssignments ts hts).map _
  | true =>
    cases ts with
    | nil => cases hnamed
    | cons name ts =>
      rw [parseReduce_of_named hnamed]
      exact ((converts_parseAssignments ts hts.tail).map _).mono (Nat.le_succ _)

/-- **Counts**: the integer behind a name is one. -/
theorem converted_parseCount (operation : String) (hname : t.kind = .name)
    (hts : Convertible (t :: ts)) : (parseCount operation ts).Converted ts.length := by
  cases ts with
  | nil => exact Parsed.converted_refuse id hts.tail (Nat.le_refl _)
  | cons number rest =>
    rw [parseCount, expect_cons]
    split
    · rename_i hkind
      obtain ⟨n, -, -, hcount⟩ := hts.isCount_of_name hname hkind
      rw [Parsed.bind_done, hcount]
      exact Parsed.converted_done hts.tail.tail (Nat.le_succ _)
    · exact Parsed.converted_refuse id hts.tail (Nat.le_refl _)

/-- What follows the name of an operation; a count is the only part of one that depends on what
stands before it. -/
theorem converted_parseOperationBody (hname : t.kind = .name) (hts : Convertible (t :: ts)) :
    (parseOperationBody t ts).Converted ts.length := by
  have htail : Convertible ts := hts.tail
  unfold parseOperationBody
  split
  · exact (converted_parseCount _ hname hts).map _
  · exact (converted_parseCount _ hname hts).map _
  · exact (converts_requireNames _ ts htail).map _
  · exact (converts_requireNames _ ts htail).map _
  · exact (converts_requireNames _ ts htail).map _
  · exact (converts_requireNames _ ts htail).map _
  · exact (converts_takeNames ts htail).map _
  · exact converts_parseFilter ts htail
  · exact converts_parseGroup ts htail
  · exact (converts_parseAssignments ts htail).map _
  · exact converts_parseReduce ts htail
  · exact converts_done _ ts htail
  · exact converts_parseRename ts htail
  · exact converts_refuse id ts htail

/-- One operation: its name is in front of the count. -/
theorem converts_parseOperation : Converts parseOperation := by
  intro ts hts
  cases ts with
  | nil => exact Parsed.converted_refuse id hts (Nat.le_refl _)
  | cons name ts =>
    rw [parseOperation, expect_cons]
    split
    · rename_i hname
      exact (converted_parseOperationBody hname hts).mono (Nat.le_succ _)
    · exact Parsed.converted_refuse id hts (Nat.le_refl _)

/-- All operations complain of no number. -/
theorem converts_parseOperations : Converts parseOperations := by
  intro ts
  induction hm : ts.length using Nat.strongRecOn generalizing ts with
  | ind m ih =>
    intro hts
    rw [← hm]
    cases ts with
    | nil =>
      rw [parseOperations_nil]
      exact Parsed.converted_done hts (Nat.le_refl _)
    | cons bar ts =>
      by_cases hbar : bar.kind = .pipe
      · rw [parseOperations_cons hbar]
        refine Parsed.Converted.mono ?_ (Nat.le_succ ts.length)
        refine (converts_parseOperation ts hts.tail).bind fun op rest hrest hle => ?_
        have hless : rest.length < m := hm ▸ Nat.lt_succ_of_le hle
        exact ((ih rest.length hless rest rfl hrest).map _).mono hle
      · rw [parseOperations, if_neg hbar]
        exact Parsed.converted_refuse id hts (Nat.le_refl _)

/-- **A whole expression** complains of no number. -/
theorem converts_parseWholeExpression : Converts parseWholeExpression := by
  refine converts_parseExpression.bind fun e ts hts => ?_
  split
  · exact converts_done e ts hts
  · exact converts_refuse id ts hts

end Operations

/-! ### Calls -/

namespace Parser

variable {α : Type} {p : Parser} {rule : List Token → Parsed α}

/-- A parser whose tokens can be converted, and an answer without a complaint about a number. -/
structure Sends (outcome : Except ParseError α) (p : Parser) : Prop where
  complaint : ∀ c found, outcome = .error (.refused c found) → ¬c.IsAboutNumber
  tokens : Convertible p.tokens

/-- A rule that converts every number does so behind the cursor of a parser. -/
theorem sends_apply (h : Convertible p.tokens) (hrule : Converts rule) :
    Sends (p.apply rule).1 (p.apply rule).2 := by
  have hupcoming : Convertible p.upcoming :=
    (h.part (List.drop_suffix _ _).isInfix).part (List.dropLast_prefix _).isInfix
  refine ⟨fun c found hc => ?_, h⟩
  have houtcome : (rule p.upcoming).outcome = .error c := by
    cases hresult : (rule p.upcoming).outcome with
    | ok a =>
      rw [apply, hresult] at hc
      cases hc
    | error c' =>
      rw [apply, hresult] at hc
      cases hc
      rfl
  exact (hrule p.upcoming hupcoming).complaint c houtcome

/-- An answer that is no complaint of a rule is none about a number. -/
theorem sends_of_ne_refused {outcome : Except ParseError α} (h : Convertible p.tokens)
    (hne : ∀ c found, outcome ≠ .error (.refused c found)) : Sends outcome p :=
  ⟨fun c found hc => absurd hc (hne c found), h⟩

/-- Filling the buffer gives tokens of the lexer, and complains of none. -/
theorem sends_fill (h : Convertible p.tokens) : Sends p.fill.1 p.fill.2 := by
  rw [fill]
  split
  · split
    · rename_i tokens lexer htokens
      have htokenize : p.lexer.tokenize.1 = .ok tokens := by rw [htokens]
      refine sends_of_ne_refused (Lexer.convertible htokenize).1 fun c found hc => ?_
      cases hc
    · refine sends_of_ne_refused h fun c found hc => ?_
      cases hc
  · refine sends_of_ne_refused h fun c found hc => ?_
    cases hc

/-- A rule behind the filling of the buffer. -/
theorem sends_fillApply (h : Convertible p.tokens) (hrule : Converts rule) :
    Sends (p.fillApply rule).1 (p.fillApply rule).2 := by
  have hfill := sends_fill h
  rw [fillApply]
  split
  · rename_i e q hq
    rw [hq] at hfill
    refine ⟨fun c found hc => hfill.complaint c found ?_, hfill.tokens⟩
    exact congrArg Except.error (Except.error.inj hc)
  · rename_i q hq
    rw [hq] at hfill
    exact sends_apply hfill.tokens hrule

/-- The lexer alone reads the name of a source, which is no number. -/
theorem source_ne_refused (p : Parser) (c : Complaint) (found : Token) :
    p.source.1 ≠ .error (.refused c found) := by
  intro h
  rw [source] at h
  split at h
  · cases h
  · simp only at h
    split at h <;> cases h

/-- **A query**: the name of the source and the operations behind it. -/
theorem sends_sourceApply (h : Convertible p.tokens) : Sends p.sourceApply.1 p.sourceApply.2 := by
  have hsource : Convertible p.source.2.tokens := by rwa [p.source_keeps.1]
  rw [sourceApply]
  split
  · rename_i e q hq
    rw [hq] at hsource
    refine sends_of_ne_refused hsource fun c found hc => p.source_ne_refused c found ?_
    rw [hq]
    exact congrArg Except.error (Except.error.inj hc)
  · rename_i source q hq
    rw [hq] at hsource
    exact sends_fillApply hsource (converts_parseOperations.map _)

/-- **One call**: it complains of no number, and its numbers can be converted afterwards. -/
theorem sends_ask (h : Convertible p.tokens) {call : Call}
    {answer : Except ParseError (Query ⊕ Expr) × Parser} (hask : p.ask call = some answer) :
    Sends answer.1 answer.2 := by
  cases call with
  | query =>
    rw [ask_query] at hask
    cases hask
    exact sends_sourceApply h
  | expression =>
    rw [ask_expression] at hask
    cases hask
    exact sends_fillApply h (converts_parseWholeExpression.map _)
  | subexpression =>
    by_cases hnone : p.tokens = []
    · rw [ask_subexpression_of_empty hnone] at hask
      cases hask
    · rw [ask_subexpression hnone] at hask
      cases hask
      exact sends_apply h (converts_parseExpression.map _)

theorem convertible_asked (h : Convertible p.tokens) (call : Call) :
    Convertible (p.asked call).tokens := by
  cases hask : p.ask call with
  | none => rwa [asked_of_ask_eq_none hask]
  | some answer =>
    rw [asked_of_ask hask]
    exact (sends_ask h hask).tokens

/-- Any calls leave tokens that can be converted. -/
theorem convertible_after (h : Convertible p.tokens) (calls : List Call) :
    Convertible (p.after calls).tokens := by
  induction calls generalizing p with
  | nil => exact h
  | cons call calls ih => exact ih (convertible_asked h call)

/-- **Numbers are always converted.**  Every token that a lexer gives, in whatever state, has a text
that can be stored if it is a number.  After any calls of a parser this holds of its tokens, and an
integer behind a name among them is in range, not negative, and the same number as a count; and no
further call complains of the text of a number. -/
theorem numbers_convert :
    (∀ (l : Lexer) (t : Token), l.next.1 = .ok t → t.IsStorable) ∧
      ∀ (s : String) (calls : List Call),
        let p := (ofString s).after calls
        (∀ t ∈ p.tokens, t.IsStorable) ∧
          (∀ before name number behind, p.tokens = before ++ name :: number :: behind →
            name.kind = .name → number.kind = .integer → IsCount number.text.toList) ∧
          ∀ call answer, p.ask call = some answer →
            ∀ c found, answer.1 = .error (.refused c found) → ¬c.IsAboutNumber := by
  refine ⟨fun l t ht => Lexer.storable_of_next (Prod.ext ht rfl), fun s calls => ?_⟩
  have hp : Convertible ((ofString s).after calls).tokens := convertible_after convertible_nil calls
  refine ⟨hp.storable, fun before name number behind htokens hname hnumber => ?_, ?_⟩
  · rw [htokens] at hp
    exact (hp.part (List.suffix_append _ _).isInfix).isCount_of_name hname hnumber
  · exact fun call answer hask => (sends_ask hp hask).complaint

set_option maxRecDepth 2000 in
/-- A count where one is expected, and a number with a minus in front where the operation has ended:
the minus is a token of its own, and what is wrong is that token and no number. -/
theorem numbers_convert_head :
    let s := "t|head 3 -1"
    (((ofString s).after [.query]).tokens.map fun t => (t.kind, t.text)) =
        [(.pipe, "|"), (.name, "head"), (.integer, "3"), (.minus, "-"), (.integer, "1"),
          (.finish, "")] ∧
      IsCount "3".toList ∧
      ∃ c found, (ofString s).query.1 = .error (.refused c found) ∧ ¬c.IsAboutNumber := by
  intro s
  have hquery : (ofString s).query = (.error (.refused (.unexpected .pipeOrEnd) ⟨.minus, "-", 9⟩),
      ⟨⟨s.toList, [], some .finish⟩,
        [⟨.pipe, "|", 1⟩] ++ ⟨.name, "head", 2⟩ :: ⟨.integer, "3", 7⟩ ::
          [⟨.minus, "-", 9⟩, ⟨.integer, "1", 10⟩, ⟨.finish, "", 11⟩], 3⟩) := by
    dsimp only [s]
    with_unfolding_all rfl
  have hanswer : (ofString s).ask .query =
      some ((ofString s).query.1.map .inl, (ofString s).query.2) := rfl
  have hafter : (ofString s).after [.query] = (ofString s).query.2 := asked_of_ask hanswer
  obtain ⟨-, hcounts, -⟩ := numbers_convert.2 s [.query]
  obtain ⟨-, -, hcomplaints⟩ := numbers_convert.2 s []
  rw [hquery] at hafter
  rw [hafter] at hcounts ⊢
  rw [hquery] at hanswer ⊢
  exact ⟨rfl, hcounts _ _ _ _ rfl rfl rfl, _, _, rfl, hcomplaints .query _ hanswer _ _ rfl⟩

end Parser

end TablePipeline
