import TablePipeline.Proofs.Query.Completeness
import TablePipeline.Proofs.Query.Lexing
import TablePipeline.Query.OperationParser

/-!
# The words of a query

What the lexer and the parser need to know of the words that a query is written with: that each can
be read where it stands, and that tokens with these words are read as the query.  Neither depends on
the positions of tokens, so all statements are about lists of tokens with given words.

Every written expression is an operand: it is a single word, a call, or stands between parentheses.
So precedences play no part here, and the grammar settles expressions (`Expr.Printable.derives`).
Operations are read word by word; behind each there is a bar or nothing.

## Main definitions

* `FitAnywhere` — words that can be read behind any word
* `AtBar`, `AtStop`, `EndsNames` — the tokens behind an operation, an expression and a name

## Main statements

* `Query.Printable.fitAnywhere` — the words of a query can be read
* `Expr.Printable.derives` — tokens with the words of an expression spell it
* `Operation.Printable.parseOperation` — tokens with the words of an operation are read as it
-/

namespace TablePipeline

/-! ### Words can be read where they stand -/

/-- The words can be read behind any word. -/
def FitAnywhere (ws : List Word) : Prop :=
  ∀ last, FitAll last ws

section Fits

variable {w : Word} {us ws : List Word} {last : Token.Kind}

/-- Words that can be read behind any word can be read behind others. -/
theorem FitAll.append (hus : FitAll last us) (hws : FitAnywhere ws) : FitAll last (us ++ ws) := by
  induction us generalizing last with
  | nil => exact hws last
  | cons u us ih => exact ⟨hus.1, ih hus.2⟩

theorem fitAnywhere_nil : FitAnywhere [] :=
  fun _ => trivial

theorem FitAnywhere.cons (hw : ∀ last, w.Fits last) (hws : FitAnywhere ws) :
    FitAnywhere (w :: ws) :=
  fun last => ⟨hw last, hws w.kind⟩

theorem FitAnywhere.append (hus : FitAnywhere us) (hws : FitAnywhere ws) :
    FitAnywhere (us ++ ws) :=
  fun last => (hus last).append hws

theorem fitAnywhere_singleton (hw : ∀ last, w.Fits last) : FitAnywhere [w] :=
  fitAnywhere_nil.cons hw

/-- A symbol can be read behind any word. -/
theorem FitAnywhere.cons_symbol {k : Token.Kind} (hk : isSymbolKind k = true)
    (hws : FitAnywhere ws) : FitAnywhere (.symbol k :: ws) :=
  hws.cons fun _ => .symbol hk

/-- Between parentheses it is enough to be readable behind a parenthesis. -/
theorem FitAll.parenthesised (h : FitAll .leftParen ws) : FitAnywhere (parenthesised ws) :=
  fun _ => ⟨.symbol rfl, h.append (fitAnywhere_singleton fun _ => .symbol rfl)⟩

/-- Words can be read with commas between them. -/
theorem fitAnywhere_commaSeparated {wss : List (List Word)} (h : ∀ ws ∈ wss, FitAnywhere ws) :
    FitAnywhere (commaSeparated wss) := by
  fun_induction commaSeparated wss with
  | case1 => exact fitAnywhere_nil
  | case2 ws => exact h ws List.mem_cons_self
  | case3 ws next rest ih =>
    have hrest := ih fun us hus => h us (List.mem_cons_of_mem ws hus)
    exact (h ws List.mem_cons_self).append (hrest.cons_symbol rfl)

/-- Names between backticks can be read one behind the other. -/
theorem fitAnywhere_quoted {names : List String} (h : ∀ name ∈ names, Quotable name) :
    FitAnywhere (names.map .quoted) := by
  induction names with
  | nil => exact fitAnywhere_nil
  | cons name names ih =>
    have hnames := ih fun other hother => h other (List.mem_cons_of_mem name hother)
    exact hnames.cons fun _ => .quoted (h name List.mem_cons_self)

end Fits

theorem argumentWords_eq_map (es : List Expr) : argumentWords es = es.map Expr.words := by
  induction es with
  | nil => rfl
  | cons e es ih => rw [argumentWords, ih, List.map_cons]

/-- A literal can be read behind any word: a negative integer stands between parentheses, where its
minus is no operator. -/
theorem Literal.fitAnywhere_words {l : Literal} (h : ∀ x, l ≠ .float x) : FitAnywhere l.words := by
  cases l with
  | null => exact fitAnywhere_singleton fun _ => .symbol rfl
  | boolean b => cases b <;> exact fitAnywhere_singleton fun _ => .symbol rfl
  | float x => exact absurd rfl (h x)
  | string s => exact fitAnywhere_singleton fun _ => .string s
  | integer n =>
    by_cases hn : n.toInt < 0
    · rw [Literal.words, if_pos hn]
      exact FitAll.parenthesised ⟨.integer (fits_toInt n) fun _ => rfl, trivial⟩
    · rw [Literal.words, if_neg hn]
      exact fitAnywhere_singleton fun _ => .integer (fits_toInt n) fun hneg => absurd hneg hn

theorem fitAnywhere_nullTestWords (negated : Bool) : FitAnywhere (nullTestWords negated) := by
  cases negated with
  | false => exact (fitAnywhere_nil.cons_symbol rfl).cons_symbol rfl
  | true => exact ((fitAnywhere_nil.cons_symbol rfl).cons_symbol rfl).cons_symbol rfl

theorem BinaryOp.isSymbolKind_token (op : BinaryOp) : isSymbolKind op.token = true := by
  cases op <;> rfl

theorem UnaryOp.isSymbolKind_token (op : UnaryOp) : isSymbolKind op.token = true := by
  cases op <;> rfl

/-- **The words of an expression** can be read behind any word. -/
theorem Expr.Printable.fitAnywhere {e : Expr} (h : e.Printable) : FitAnywhere e.words := by
  induction h with
  | literal exact => exact Literal.fitAnywhere_words exact
  | column quotable => exact fitAnywhere_singleton fun _ => .quoted quotable
  | @binary op l r _ _ left right =>
    exact FitAll.parenthesised (left.append (right.cons_symbol op.isSymbolKind_token) _)
  | @unary op e _ operand =>
    exact FitAll.parenthesised (operand.cons_symbol op.isSymbolKind_token _)
  | @call f es function _ arguments =>
    rw [Expr.words, argumentWords_eq_map]
    refine FitAnywhere.cons (fun _ => .bare function) (FitAll.parenthesised ?_)
    refine fitAnywhere_commaSeparated (fun ws hws => ?_) _
    obtain ⟨e, he, rfl⟩ := List.mem_map.1 hws
    exact arguments e he
  | @nullTest e negated _ operand =>
    exact FitAll.parenthesised (operand.append (fitAnywhere_nullTestWords negated) _)

theorem fitAnywhere_assignments {assignments : List Assignment}
    (h : ∀ a ∈ assignments, a.Printable) :
    FitAnywhere (commaSeparated (assignments.map Assignment.words)) := by
  refine fitAnywhere_commaSeparated fun ws hws => ?_
  obtain ⟨a, ha, rfl⟩ := List.mem_map.1 hws
  obtain ⟨hcolumn, hexpr⟩ := h a ha
  exact (hexpr.fitAnywhere.cons_symbol rfl).cons fun _ => .quoted hcolumn

/-- The names of operations are bare names. -/
theorem Operation.isIdentifier_name (op : Operation) : IsIdentifier op.name := by
  cases op <;> rw [Operation.name] <;> decide

/-- A count has no sign, which could be taken for a minus. -/
theorem fitAnywhere_count {n : Nat} (h : Fits n) : FitAnywhere [.integer n] :=
  fitAnywhere_singleton fun _ => .integer h fun hneg => absurd hneg (by omega)

/-- **The words of an operation** can be read behind any word. -/
theorem Operation.Printable.fitAnywhere {op : Operation} (h : op.Printable) :
    FitAnywhere op.words := by
  refine FitAnywhere.cons (fun _ => .bare op.isIdentifier_name) ?_
  cases op with
  | head n | tail n => exact fitAnywhere_count h
  | sortAscending columns | sortDescending columns | select columns | remove columns =>
    exact fitAnywhere_quoted h.2
  | distinct columns => exact fitAnywhere_quoted h
  | filter condition =>
    have hcondition := Expr.Printable.fitAnywhere h
    exact (hcondition.append (fitAnywhere_nil.cons_symbol rfl)).cons_symbol rfl
  | group columns nested =>
    have hnested : FitAnywhere [.quoted nested] := fitAnywhere_singleton fun _ => .quoted h.2
    exact (fitAnywhere_quoted h.1.2).append (hnested.cons_symbol rfl)
  | transform assignments => exact fitAnywhere_assignments h.2
  | reduce nested assignments =>
    exact (fitAnywhere_assignments h.2.2).cons fun _ => .quoted h.1
  | count => exact fitAnywhere_nil
  | rename pairs =>
    obtain ⟨-, h⟩ := h
    rw [Operation.bodyWords]
    induction pairs with
    | nil => exact fitAnywhere_nil
    | cons pair pairs ih =>
      obtain ⟨hold, hnew⟩ := h pair List.mem_cons_self
      have hpairs := ih fun other hother => h other (List.mem_cons_of_mem pair hother)
      exact (hpairs.cons fun _ => .quoted hnew).cons fun _ => .quoted hold

/-- **The words of operations** can be read behind any word. -/
theorem fitAnywhere_operationWords {ops : List Operation} (h : ∀ op ∈ ops, op.Printable) :
    FitAnywhere (operationWords ops) := by
  induction ops with
  | nil => exact fitAnywhere_nil
  | cons op ops ih =>
    have hops := ih fun other hother => h other (List.mem_cons_of_mem op hother)
    have hop := (h op List.mem_cons_self).fitAnywhere
    rw [operationWords, List.flatMap_cons]
    exact (hop.cons_symbol rfl).append hops

/-! ### Function names -/

/-- The only capitals of ASCII are the letters from `A` to `Z`. -/
theorem mapCase_of_isIdentifierChar {c : Char} (h : isIdentifierChar c = true) :
    mapCase lowerRuns lowerExpansions c = [c] := by
  have hcode := code_of_isIdentifierChar h
  have hexpansions : lowerExpansions.find? (·.1 == c.toNat) = none := by
    have hall : ∀ e ∈ lowerExpansions, 128 ≤ e.1 := by decide
    rw [List.find?_eq_none]
    intro e he heq
    have hlarge := hall e he
    have hcode' := beq_iff_eq.1 heq
    omega
  have hruns : lowerRuns.findSome? (·.map? c.toNat) = none := by
    -- all other runs of capitals lie beyond ASCII
    have hall : lowerRuns.all
        (fun run => (run.first = 65 ∧ run.last = 90) ∨ 128 ≤ run.first) = true := by decide
    rw [List.findSome?_eq_none_iff]
    intro run hrun
    refine if_neg ?_
    rintro ⟨hfirst, hlast, -⟩
    have hrange := of_decide_eq_true (List.all_eq_true.1 hall run hrun)
    omega
  rw [mapCase, hexpansions, hruns]

/-- A bare name in small letters is the name that functions are called by. -/
theorem functionName_of_isIdentifier {s : String} (h : IsIdentifier s) : functionName s = s := by
  have hchars : ∀ (cs before : List Char), (∀ c ∈ cs, isIdentifierChar c = true) →
      lowerCaseAfter before cs = cs := by
    intro cs
    induction cs with
    | nil =>
      intro before _
      rfl
    | cons c cs ih =>
      intro before hcs
      have hc := hcs c List.mem_cons_self
      have hsigma : c ≠ 'Σ' := by
        rintro rfl
        exact absurd hc (by decide)
      rw [lowerCaseAfter, ih _ fun d hd => hcs d (List.mem_cons_of_mem c hd)]
      simp only [if_neg hsigma, mapCase_of_isIdentifierChar hc, List.singleton_append]
  rw [functionName, lowerCase, hchars s.toList [] h.chars, String.ofList_toList]

/-! ### Expressions -/

section Expressions

variable {ts : List Token} {w : Word} {ws us vs : List Word}

theorem kind_of_word {t : Token} (h : t.word = w) : t.kind = w.kind :=
  congrArg Word.kind h

theorem text_of_word {t : Token} (h : t.word = w) : t.text = w.text :=
  congrArg Word.text h

/-- Tokens with words between parentheses are those of the words and the two parentheses. -/
theorem exists_of_map_word_parenthesised (h : ts.map Token.word = parenthesised ws) :
    ∃ opening us closing, ts = opening :: (us ++ [closing]) ∧ opening.kind = .leftParen ∧
      us.map Token.word = ws ∧ closing.kind = .rightParen := by
  obtain ⟨opening, rest, rfl, hopening, h⟩ := List.map_eq_cons_iff.1 h
  obtain ⟨us, last, rfl, hus, h⟩ := List.map_eq_append_iff.1 h
  obtain ⟨closing, rfl, hclosing⟩ := List.map_eq_singleton_iff.1 h
  exact ⟨opening, us, closing, rfl, kind_of_word hopening, hus, kind_of_word hclosing⟩

/-- Parentheses around the words of an expression make an operand of it. -/
theorem derives_parenthesised {e : Expr}
    (he : ∀ us : List Token, us.map Token.word = ws → Derives (.expression e) us)
    (h : ts.map Token.word = parenthesised ws) : Derives (.primary e) ts := by
  obtain ⟨opening, us, closing, rfl, hopening, hus, hclosing⟩ :=
    exists_of_map_word_parenthesised h
  exact .group hopening (he us hus) hclosing

/-- Tokens with the words of a literal spell it as an operand. -/
theorem Literal.derives_words {l : Literal} (hl : ∀ x, l ≠ .float x)
    (h : ts.map Token.word = l.words) : Derives (.primary (.literal l)) ts := by
  have hinteger : ∀ (n : Int64) (us : List Token), us.map Token.word = [.integer n.toInt] →
      Derives (.primary (.literal (.integer n))) us := by
    intro n us hus
    obtain ⟨t, rfl, ht⟩ := List.map_eq_singleton_iff.1 hus
    refine .literal (.integer (kind_of_word ht) ?_)
    rw [text_of_word ht, Word.integer, String.toList_ofList]
    exact readInteger?_integerText n
  cases l with
  | null =>
    obtain ⟨t, rfl, ht⟩ := List.map_eq_singleton_iff.1 h
    exact .literal (.null (kind_of_word ht))
  | boolean b =>
    obtain ⟨t, rfl, ht⟩ := List.map_eq_singleton_iff.1 h
    cases b with
    | false => exact .literal (.false (kind_of_word ht))
    | true => exact .literal (.true (kind_of_word ht))
  | integer n =>
    by_cases hn : n.toInt < 0
    · rw [Literal.words, if_pos hn] at h
      exact derives_parenthesised
        (fun us hus => .expression_of_primary (hinteger n us hus)) h
    · rw [Literal.words, if_neg hn] at h
      exact hinteger n ts h
  | float x => exact absurd rfl (hl x)
  | string s =>
    obtain ⟨t, rfl, ht⟩ := List.map_eq_singleton_iff.1 h
    have hspells := Token.Spells.string (kind_of_word ht)
    rw [text_of_word ht] at hspells
    exact .literal hspells

/-- Words of arguments with commas between them spell the arguments. -/
theorem derives_arguments {es : List Expr} (hne : es ≠ [])
    (he : ∀ e ∈ es, ∀ us : List Token, us.map Token.word = e.words → Derives (.primary e) us)
    (h : ts.map Token.word = commaSeparated (es.map Expr.words)) : Derives (.arguments es) ts := by
  induction es generalizing ts with
  | nil => exact absurd rfl hne
  | cons e es ih =>
    have hfirst := he e List.mem_cons_self
    cases es with
    | nil => exact .argument (.expression_of_primary (hfirst ts h))
    | cons next rest =>
      obtain ⟨us, behind, rfl, hus, h⟩ := List.map_eq_append_iff.1 h
      obtain ⟨comma, vs, rfl, hcomma, hvs⟩ := List.map_eq_cons_iff.1 h
      refine .moreArguments (.expression_of_primary (hfirst us hus)) (kind_of_word hcomma) ?_
      exact ih (List.cons_ne_nil next rest)
        (fun d hd => he d (List.mem_cons_of_mem e hd)) hvs

/-- Tokens with the words of a call spell it; the name is in small letters already. -/
theorem derives_call {f : String} {es : List Expr} (hf : IsIdentifier f)
    (he : ∀ e ∈ es, ∀ us : List Token, us.map Token.word = e.words → Derives (.primary e) us)
    (h : ts.map Token.word = (Expr.call f es).words) : Derives (.primary (.call f es)) ts := by
  rw [Expr.words, argumentWords_eq_map] at h
  obtain ⟨name, rest, rfl, hname, h⟩ := List.map_eq_cons_iff.1 h
  obtain ⟨opening, us, closing, rfl, hopening, hus, hclosing⟩ :=
    exists_of_map_word_parenthesised h
  have htext : functionName name.text = f := by
    rw [text_of_word hname]
    exact functionName_of_isIdentifier hf
  rw [← htext]
  cases es with
  | nil =>
    rw [show us = [] from List.map_eq_nil_iff.1 hus]
    exact .emptyCall (kind_of_word hname) hopening hclosing
  | cons e es =>
    exact .call (kind_of_word hname) hopening
      (derives_arguments (List.cons_ne_nil e es) he hus) hclosing

/-- The words of a null test make one of the expression in front of them. -/
theorem derives_nullTestWords {e : Expr} {before : List Token} {negated : Bool}
    (he : Derives (.expression e) before) (h : ts.map Token.word = nullTestWords negated) :
    Derives (.first (.nullTest e negated)) (before ++ ts) := by
  cases negated with
  | false =>
    obtain ⟨is, rest, rfl, his, h⟩ := List.map_eq_cons_iff.1 h
    obtain ⟨null, rfl, hnull⟩ := List.map_eq_singleton_iff.1 h
    exact .isNull he (kind_of_word his) (kind_of_word hnull)
  | true =>
    obtain ⟨is, rest, rfl, his, h⟩ := List.map_eq_cons_iff.1 h
    obtain ⟨not, rest, rfl, hnot, h⟩ := List.map_eq_cons_iff.1 h
    obtain ⟨null, rfl, hnull⟩ := List.map_eq_singleton_iff.1 h
    exact .isNotNull he (kind_of_word his) (kind_of_word hnot) (kind_of_word hnull)

/-- **Expressions**: tokens with the words of an expression spell it. -/
theorem Expr.Printable.derives {e : Expr} (h : e.Printable) :
    ∀ ts : List Token, ts.map Token.word = e.words → Derives (.primary e) ts := by
  induction h with
  | literal exact =>
    intro ts hts
    exact Literal.derives_words exact hts
  | column quotable =>
    intro ts hts
    obtain ⟨t, rfl, ht⟩ := List.map_eq_singleton_iff.1 hts
    have hname : t.kind.isName = true := by
      rw [kind_of_word ht]
      rfl
    have hcolumn := Derives.column hname
    rwa [text_of_word ht] at hcolumn
  | binary _ _ left right =>
    intro ts hts
    refine derives_parenthesised (fun us hus => ?_) hts
    obtain ⟨ls, rest, rfl, hls, hrest⟩ := List.map_eq_append_iff.1 hus
    obtain ⟨operator, rs, rfl, hop, hrs⟩ := List.map_eq_cons_iff.1 hrest
    exact .binary (.first (.primary (left ls hls))) (kind_of_word hop)
      (.primary (right rs hrs))
  | unary _ operand =>
    intro ts hts
    refine derives_parenthesised (fun us hus => ?_) hts
    obtain ⟨operator, rest, rfl, hop, hrest⟩ := List.map_eq_cons_iff.1 hus
    exact .expression_of_first
      (.first (.sign (kind_of_word hop) (.primary (operand rest hrest))))
  | call function _ arguments =>
    intro ts hts
    exact derives_call function arguments hts
  | nullTest _ operand =>
    intro ts hts
    refine derives_parenthesised (fun us hus => ?_) hts
    obtain ⟨before, test, rfl, hbefore, htest⟩ := List.map_eq_append_iff.1 hus
    exact .expression_of_first
      (derives_nullTestWords (.expression_of_primary (operand before hbefore)) htest)

end Expressions

/-! ### Equations of the rules for operations -/

/-- Behind a comma the assignments begin anew. -/
theorem parseAssignments_eq (ts : List Token) :
    parseAssignments ts = (parseAssignment ts).bind fun first rest =>
      match rest with
      | [] => .done [first] []
      | t :: rest =>
        if t.kind = .comma then (parseAssignments rest).map (first :: ·)
        else .done [first] (t :: rest) := by
  rw [parseAssignments]
  split
  · rename_i heq
    rw [heq]
    rfl
  · rename_i heq
    rw [heq]
    rfl
  · rename_i heq
    rw [heq]
    rfl

theorem parseOperations_nil : parseOperations [] = .done [] [] := by
  rw [parseOperations]

theorem parseOperations_cons {t : Token} (h : t.kind = .pipe) (ts : List Token) :
    parseOperations (t :: ts) = (parseOperation ts).bind fun op rest =>
      (parseOperations rest).map (op :: ·) := by
  rw [parseOperations, if_pos h]
  split
  · rename_i heq
    rw [heq]
    rfl
  · rename_i heq
    rw [heq]
    rfl

/-! ### Operations -/

/-- Behind an operation there is a bar or nothing. -/
def AtBar (ts : List Token) : Prop :=
  ∀ t, ts.head? = some t → t.kind = .pipe

/-- Behind an expression of an operation there is a bar, a comma, a closing brace or nothing. -/
def AtStop (ts : List Token) : Prop :=
  ∀ t, ts.head? = some t → t.kind = .pipe ∨ t.kind = .comma ∨ t.kind = .rightBrace

/-- Behind a list of names there is no name. -/
def EndsNames (ts : List Token) : Prop :=
  ∀ t, ts.head? = some t → t.kind.isName = false

/-- An expression ends where the operation does. -/
theorem AtBar.atStop {ts : List Token} (h : AtBar ts) : AtStop ts :=
  fun t ht => Or.inl (h t ht)

/-- A bar is no name. -/
theorem AtBar.endsNames {ts : List Token} (h : AtBar ts) : EndsNames ts := by
  intro t ht
  rw [h t ht]
  rfl

theorem atStop_cons {t : Token} {ts : List Token}
    (h : t.kind = .pipe ∨ t.kind = .comma ∨ t.kind = .rightBrace) : AtStop (t :: ts) := by
  intro u hu
  rw [← Option.some.inj hu]
  exact h

theorem endsNames_cons {t : Token} {ts : List Token} (h : t.kind.isName = false) :
    EndsNames (t :: ts) := by
  intro u hu
  rw [← Option.some.inj hu]
  exact h

section Operations

variable {ts rest : List Token}

/-- Where a name is expected, a name between backticks is read. -/
theorem expectName_of_word {t : Token} {name : String} {expected : Expected}
    (h : t.word = .quoted name) : expectName expected (t :: rest) = .done name rest := by
  have hname : t.kind.isName = true := by
    rw [kind_of_word h]
    rfl
  rw [expectName, if_pos hname, text_of_word h]
  rfl

/-- Where a symbol is expected, it is read. -/
theorem expect_of_symbol {t : Token} {k : Token.Kind} {expected : Expected}
    (h : t.word = .symbol k) : expect k expected (t :: rest) = .done t rest :=
  expect_of_kind (kind_of_word h)

/-- An expression of an operation is read up to what follows it. -/
theorem parseExpression_of_atStop {e : Expr} (h : Derives (.expression e) ts)
    (hrest : AtStop rest) : parseExpression (ts ++ rest) = .done e rest := by
  cases rest with
  | nil => exact parseExpression_of_derives h endsChain_nil nofun
  | cons t rest =>
    refine parseExpression_of_derives h (endsChain_cons ?_ ?_) ?_
    · rcases hrest t rfl with hk | hk | hk <;> rw [hk] <;> decide
    · rcases hrest t rfl with hk | hk | hk <;> rw [hk] <;> rfl
    · intro u hu
      rw [← Option.some.inj hu]
      rcases hrest t rfl with hk | hk | hk <;> rw [hk] <;> decide

/-- **An expression in an operation** is read from its words, up to what follows it. -/
theorem Expr.Printable.parseExpression {e : Expr} (h : e.Printable)
    (hts : ts.map Token.word = e.words) (hrest : AtStop rest) :
    parseExpression (ts ++ rest) = .done e rest :=
  parseExpression_of_atStop (.expression_of_primary (h.derives ts hts)) hrest

/-- Names are taken up to the first token that is none. -/
theorem takeNames_of_isName {ws : List Word} (hts : ts.map Token.word = ws)
    (hws : ∀ w ∈ ws, w.kind.isName = true) (hrest : EndsNames rest) :
    takeNames (ts ++ rest) = .done (ws.map Word.text) rest := by
  have hnames : ∀ t ∈ ts, t.kind.isName = true := by
    intro t ht
    exact hws t.word (hts ▸ List.mem_map_of_mem ht)
  have htexts : ts.map (·.text) = ws.map Word.text := by
    rw [← hts, List.map_map]
    rfl
  -- what follows begins with no name, so that the run of names ends there
  have hstop : rest.takeWhile (·.kind.isName) = [] ∧ rest.dropWhile (·.kind.isName) = rest := by
    cases rest with
    | nil => exact ⟨rfl, rfl⟩
    | cons t rest =>
      have ht : ¬t.kind.isName = true := by simp [hrest t rfl]
      exact ⟨List.takeWhile_cons_of_neg ht, List.dropWhile_cons_of_neg ht⟩
  rw [takeNames, List.takeWhile_append_of_pos hnames, List.dropWhile_append_of_pos hnames,
    hstop.1, hstop.2, List.append_nil, htexts]

/-- Names are read from their words. -/
theorem takeNames_of_words {names : List String} (hts : ts.map Token.word = names.map .quoted)
    (hrest : EndsNames rest) : takeNames (ts ++ rest) = .done names rest := by
  have hquoted : ∀ w ∈ names.map Word.quoted, w.kind.isName = true := by
    intro w hw
    obtain ⟨name, -, rfl⟩ := List.mem_map.1 hw
    rfl
  have htexts : (names.map Word.quoted).map Word.text = names := by
    rw [List.map_map]
    exact List.map_id names
  rw [takeNames_of_isName hts hquoted hrest, htexts]

theorem requireNames_of_words {names : List String} {operation : String} (hne : names ≠ [])
    (hts : ts.map Token.word = names.map .quoted) (hrest : EndsNames rest) :
    requireNames operation (ts ++ rest) = .done names rest := by
  rw [requireNames, takeNames_of_words hts hrest, Parsed.bind_done, List.isEmpty_eq_false_iff.2 hne,
    if_neg Bool.false_ne_true]

/-- A count is read from its word: what an integer can store is small enough for a count. -/
theorem parseCount_of_words {n : Nat} {operation : String} (hn : Fits n)
    (hts : ts.map Token.word = [.integer n]) :
    parseCount operation (ts ++ rest) = .done n rest := by
  obtain ⟨t, rfl, ht⟩ := List.map_eq_singleton_iff.1 hts
  have htext : t.text.toList = naturalText n := by
    rw [text_of_word ht, Word.integer, String.toList_ofList]
    exact if_neg (by omega)
  have hkind : t.kind = .integer := kind_of_word ht
  have hcount : n ≤ greatestCount := by
    simp only [Fits, leastInteger, greatestInteger] at hn
    rw [greatestCount]
    omega
  rw [parseCount, List.singleton_append, expect_of_kind hkind, Parsed.bind_done, htext,
    readCount?_naturalText hcount]

/-- An assignment is read from its words. -/
theorem Assignment.Printable.parseAssignment {a : Assignment} (h : a.Printable)
    (hts : ts.map Token.word = a.words) (hrest : AtStop rest) :
    parseAssignment (ts ++ rest) = .done a rest := by
  obtain ⟨column, behind, rfl, hcolumn, hts⟩ := List.map_eq_cons_iff.1 hts
  obtain ⟨assign, us, rfl, hassign, hus⟩ := List.map_eq_cons_iff.1 hts
  rw [TablePipeline.parseAssignment, List.cons_append, expectName_of_word hcolumn, Parsed.bind_done,
    List.cons_append, expect_of_symbol hassign, Parsed.bind_done,
    h.2.parseExpression hus hrest, Parsed.bind_done]

/-- Behind the last assignment there is no comma. -/
theorem parseAssignments_of_last {a : Assignment} (h : parseAssignment ts = .done a rest)
    (hrest : AtBar rest) : parseAssignments ts = .done [a] rest := by
  rw [parseAssignments_eq, h, Parsed.bind_done]
  cases rest with
  | nil => rfl
  | cons t rest =>
    have hcomma : t.kind ≠ .comma := by
      rw [hrest t rfl]
      decide
    exact if_neg hcomma

theorem parseAssignments_of_comma {a : Assignment} {comma : Token}
    (h : parseAssignment ts = .done a (comma :: rest)) (hcomma : comma.kind = .comma) :
    parseAssignments ts = (parseAssignments rest).map (a :: ·) := by
  rw [parseAssignments_eq, h, Parsed.bind_done]
  exact if_pos hcomma

/-- Assignments are read from their words, up to the bar behind them. -/
theorem parseAssignments_of_words {assignments : List Assignment} (hne : assignments ≠ [])
    (h : ∀ a ∈ assignments, a.Printable)
    (hts : ts.map Token.word = commaSeparated (assignments.map Assignment.words))
    (hrest : AtBar rest) : parseAssignments (ts ++ rest) = .done assignments rest := by
  induction assignments generalizing ts with
  | nil => exact absurd rfl hne
  | cons a assignments ih =>
    have ha := h a List.mem_cons_self
    cases assignments with
    | nil => exact parseAssignments_of_last (ha.parseAssignment hts hrest.atStop) hrest
    | cons next more =>
      obtain ⟨us, behind, rfl, hus, hts⟩ := List.map_eq_append_iff.1 hts
      obtain ⟨comma, vs, rfl, hcomma, hvs⟩ := List.map_eq_cons_iff.1 hts
      have hkind : comma.kind = .comma := kind_of_word hcomma
      have hmore := ih (List.cons_ne_nil next more)
        (fun b hb => h b (List.mem_cons_of_mem a hb)) hvs
      have hstop : AtStop (comma :: (vs ++ rest)) := atStop_cons (Or.inr (Or.inl hkind))
      rw [List.append_assoc, List.cons_append,
        parseAssignments_of_comma (ha.parseAssignment hus hstop) hkind, hmore,
        Parsed.map_done]

/-- Without a name there is no pair. -/
theorem parsePairs_of_endsNames (h : EndsNames ts) : parsePairs ts = .done [] ts := by
  unfold parsePairs
  split
  · rfl
  · rename_i old
    rw [h old rfl, if_neg Bool.false_ne_true]
  · rename_i old new more
    rw [h old rfl, if_neg Bool.false_ne_true]

theorem parsePairs_of_names {old new : Token} (hold : old.kind.isName = true)
    (hnew : new.kind.isName = true) :
    parsePairs (old :: new :: ts) = (parsePairs ts).map (⟨old.text, new.text⟩ :: ·) := by
  rw [parsePairs, if_pos hold, if_pos hnew]

/-- Pairs of names are read from their words. -/
theorem parsePairs_of_words {pairs : List RenamePair}
    (hts : ts.map Token.word = pairs.flatMap fun pair => [.quoted pair.old, .quoted pair.new])
    (hrest : AtBar rest) : parsePairs (ts ++ rest) = .done pairs rest := by
  induction pairs generalizing ts with
  | nil =>
    rw [show ts = [] from List.map_eq_nil_iff.1 hts]
    exact parsePairs_of_endsNames hrest.endsNames
  | cons pair pairs ih =>
    obtain ⟨old, behind, rfl, hold, hts⟩ := List.map_eq_cons_iff.1 hts
    obtain ⟨new, us, rfl, hnew, hus⟩ := List.map_eq_cons_iff.1 hts
    have holdName : old.kind.isName = true := by
      rw [kind_of_word hold]
      rfl
    have hnewName : new.kind.isName = true := by
      rw [kind_of_word hnew]
      rfl
    rw [List.cons_append, List.cons_append, parsePairs_of_names holdName hnewName, ih hus,
      Parsed.map_done, text_of_word hold, text_of_word hnew]
    rfl

theorem parseFilter_of_words {e : Expr} (h : e.Printable)
    (hts : ts.map Token.word = .symbol .leftBrace :: (e.words ++ [.symbol .rightBrace])) :
    parseFilter (ts ++ rest) = .done (.filter e) rest := by
  obtain ⟨opening, behind, rfl, hopening, hts⟩ := List.map_eq_cons_iff.1 hts
  obtain ⟨us, last, rfl, hus, hts⟩ := List.map_eq_append_iff.1 hts
  obtain ⟨closing, rfl, hclosing⟩ := List.map_eq_singleton_iff.1 hts
  have hstop : AtStop (closing :: rest) :=
    atStop_cons (Or.inr (Or.inr (kind_of_word hclosing)))
  rw [parseFilter, List.cons_append, expect_of_symbol hopening, Parsed.bind_done,
    List.append_assoc, List.singleton_append, h.parseExpression hus hstop, Parsed.bind_done,
    expect_of_symbol hclosing, Parsed.bind_done]

/-- The names to group by end at `as`, which is a word of its own and no name. -/
theorem parseGroup_of_words {columns : List String} {nested : String} (hne : columns ≠ [])
    (hts : ts.map Token.word = columns.map .quoted ++ [.symbol .as, .quoted nested]) :
    parseGroup (ts ++ rest) = .done (.group columns nested) rest := by
  obtain ⟨us, behind, rfl, hus, hts⟩ := List.map_eq_append_iff.1 hts
  obtain ⟨as, behind, rfl, has, hts⟩ := List.map_eq_cons_iff.1 hts
  obtain ⟨name, rfl, hname⟩ := List.map_eq_singleton_iff.1 hts
  have hkind : as.kind = .as := kind_of_word has
  have hstop : EndsNames (as :: name :: rest) := by
    refine endsNames_cons ?_
    rw [hkind]
    rfl
  rw [parseGroup, List.append_assoc, List.cons_append, List.singleton_append,
    requireNames_of_words hne hus hstop, Parsed.bind_done, parseNestedName,
    if_pos hkind, expectName_of_word hname, Parsed.bind_done]

/-- The nested column of a reduction is told from its first assignment by the name behind it. -/
theorem parseReduce_of_named {name : Token} (h : namesNested (name :: ts) = true) :
    parseReduce (name :: ts) = (parseAssignments ts).map (.reduce name.text) := by
  rw [parseReduce.eq_def]
  simp only [h, if_true]

/-- A written reduction always names its nested column, and the name is told from the first
assignment. -/
theorem parseReduce_of_words {nested : String} {assignments : List Assignment}
    (hne : assignments ≠ []) (h : ∀ a ∈ assignments, a.Printable)
    (hts : ts.map Token.word =
      .quoted nested :: commaSeparated (assignments.map Assignment.words))
    (hrest : AtBar rest) : parseReduce (ts ++ rest) = .done (.reduce nested assignments) rest := by
  obtain ⟨name, us, rfl, hname, hus⟩ := List.map_eq_cons_iff.1 hts
  -- the first assignment begins with a name and the sign of assignment
  have hwords : ∃ ws, commaSeparated (assignments.map Assignment.words) =
      .quoted (assignments.head hne).column :: .symbol .assign :: ws := by
    cases assignments with
    | nil => exact absurd rfl hne
    | cons a more => cases more <;> exact ⟨_, rfl⟩
  obtain ⟨ws, hwords⟩ := hwords
  have hnamed : namesNested (name :: (us ++ rest)) = true := by
    rw [hwords] at hus
    obtain ⟨column, behind, rfl, hcolumn, hus⟩ := List.map_eq_cons_iff.1 hus
    obtain ⟨assign, vs, rfl, hassign, -⟩ := List.map_eq_cons_iff.1 hus
    show (name.kind.isName && column.kind.isName && assign.kind == .assign) = true
    rw [kind_of_word hname, kind_of_word hcolumn, kind_of_word hassign]
    rfl
  rw [List.cons_append, parseReduce_of_named hnamed, parseAssignments_of_words hne h hus hrest,
    Parsed.map_done, text_of_word hname]
  rfl

/-- **Operations**: tokens with the words of an operation are read as it. -/
theorem Operation.Printable.parseOperation {op : Operation} (h : op.Printable)
    (hts : ts.map Token.word = op.words) (hrest : AtBar rest) :
    parseOperation (ts ++ rest) = .done op rest := by
  obtain ⟨name, us, rfl, hname, hus⟩ := List.map_eq_cons_iff.1 hts
  have hkind : name.kind = .name := kind_of_word hname
  have htext : name.text = op.name := text_of_word hname
  rw [TablePipeline.parseOperation, List.cons_append, expect_of_kind hkind, Parsed.bind_done,
    parseOperationBody, htext]
  cases op with
  | head n =>
    show (parseCount "head" (us ++ rest)).map Operation.head = _
    rw [parseCount_of_words h hus, Parsed.map_done]
  | tail n =>
    show (parseCount "tail" (us ++ rest)).map Operation.tail = _
    rw [parseCount_of_words h hus, Parsed.map_done]
  | sortAscending columns =>
    show (requireNames "sorta" (us ++ rest)).map Operation.sortAscending = _
    rw [requireNames_of_words h.1 hus hrest.endsNames, Parsed.map_done]
  | sortDescending columns =>
    show (requireNames "sortd" (us ++ rest)).map Operation.sortDescending = _
    rw [requireNames_of_words h.1 hus hrest.endsNames, Parsed.map_done]
  | select columns =>
    show (requireNames "select" (us ++ rest)).map Operation.select = _
    rw [requireNames_of_words h.1 hus hrest.endsNames, Parsed.map_done]
  | remove columns =>
    show (requireNames "remove" (us ++ rest)).map Operation.remove = _
    rw [requireNames_of_words h.1 hus hrest.endsNames, Parsed.map_done]
  | distinct columns =>
    show (takeNames (us ++ rest)).map Operation.distinct = _
    rw [takeNames_of_words hus hrest.endsNames, Parsed.map_done]
  | filter condition => exact parseFilter_of_words h hus
  | group columns nested => exact parseGroup_of_words h.1.1 hus
  | transform assignments =>
    show (parseAssignments (us ++ rest)).map Operation.transform = _
    rw [parseAssignments_of_words h.1 h.2 hus hrest, Parsed.map_done]
  | reduce nested assignments => exact parseReduce_of_words h.2.1 h.2.2 hus hrest
  | count =>
    rw [show us = [] from List.map_eq_nil_iff.1 hus]
    rfl
  | rename pairs =>
    show parseRename (us ++ rest) = _
    rw [parseRename, parsePairs_of_words hus hrest, Parsed.bind_done,
      List.isEmpty_eq_false_iff.2 h.1, if_neg Bool.false_ne_true]

/-- Tokens with the words of operations are read as the operations. -/
theorem parseOperations_of_words {ops : List Operation} (h : ∀ op ∈ ops, op.Printable)
    (hts : ts.map Token.word = operationWords ops) : parseOperations ts = .done ops [] := by
  induction ops generalizing ts with
  | nil =>
    rw [show ts = [] from List.map_eq_nil_iff.1 hts, parseOperations_nil]
  | cons op ops ih =>
    rw [operationWords, List.flatMap_cons, List.cons_append, ← operationWords] at hts
    obtain ⟨bar, behind, rfl, hbar, hts⟩ := List.map_eq_cons_iff.1 hts
    obtain ⟨us, vs, rfl, hus, hvs⟩ := List.map_eq_append_iff.1 hts
    -- the words of the next operation begin with a bar
    have hvsBar : AtBar vs := by
      intro t ht
      cases ops with
      | nil =>
        rw [show vs = [] from List.map_eq_nil_iff.1 hvs] at ht
        cases ht
      | cons next more =>
        obtain ⟨u, tail, rfl, hu, -⟩ := List.map_eq_cons_iff.1 hvs
        rw [← Option.some.inj ht]
        exact kind_of_word hu
    have hops := ih (fun other hother => h other (List.mem_cons_of_mem op hother)) hvs
    rw [parseOperations_cons (kind_of_word hbar),
      (h op List.mem_cons_self).parseOperation hus hvsBar, Parsed.bind_done, hops,
      Parsed.map_done]

end Operations

end TablePipeline
