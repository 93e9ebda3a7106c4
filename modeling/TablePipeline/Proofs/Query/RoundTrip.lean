import TablePipeline.Proofs.Query.Printed

/-!
# Parsing undoes printing

The text that a query is printed as is read back as the same query.  The name of the source is read
by the lexer before there are any tokens; from there on the lexer gives back the words that were
written (`cuts_spaced`), and the parser reads tokens with these words as the operations
(`parseOperations_of_words`).

## Main statements

* `Lexer.source_of_stringLiteral` — the name of a source
* `Query.parse_print` — whole queries
-/

namespace TablePipeline

/-- The name of a source that is written as a string. -/
theorem Lexer.source_of_stringLiteral {l : Lexer} {s : String} {rest : List Char}
    (h : l.rest = stringLiteral s ++ rest) :
    ∃ position, l.source = (.ok ⟨.string, s, position⟩, ⟨l.text, rest, some .string⟩) := by
  have hskip : l.skip.rest = '"' :: (escape s.toList ++ '"' :: rest) := by
    have hchars : stringLiteral s ++ rest = '"' :: (escape s.toList ++ '"' :: rest) := by
      rw [stringLiteral, List.cons_append, List.append_assoc, List.singleton_append]
    show skipGap l.rest = _
    rw [h, hchars]
    exact skipGap_of_visible (by decide) (by decide)
  refine ⟨l.skip.position, ?_⟩
  rw [Lexer.source, hskip]
  show l.skip.take (Lexeme.readString (escape s.toList ++ '"' :: rest)) = _
  rw [readString_escape]
  show (Except.ok (Token.mk .string (String.ofList s.toList) l.skip.position), _) = _
  rw [String.ofList_toList]
  rfl

/-- A parser that has just read the name of a source reads the words behind it as operations. -/
theorem Parser.query_of_words {l : Lexer} {source : String} {ops : List Operation}
    (hsource : source ≠ "") (hops : ∀ op ∈ ops, op.Printable)
    (h : l.rest = stringLiteral source ++ spaced .string (operationWords ops)) :
    (Parser.mk l [] 0).query.1 = .ok ⟨source, ops⟩ := by
  obtain ⟨position, hname⟩ := Lexer.source_of_stringLiteral h
  obtain ⟨ts, mark, htokens, hts⟩ :=
    @Lexer.tokenize_of_cuts .string (operationWords ops)
      ⟨l.text, spaced .string (operationWords ops), some .string⟩ rfl
      (cuts_spaced (fitAnywhere_operationWords hops .string))
  refine (Parser.query_eq_ok_iff hname hsource).2 ⟨ts, mark, htokens, ?_, rfl⟩
  exact Parsed.outcome_eq_ok_iff.2 ⟨[], parseOperations_of_words hops hts⟩

/-- **Parsing undoes printing**: whatever query can be printed is read back from its text. -/
theorem Query.parse_print (q : Query) (h : q.Printable) : Query.parse q.print = .ok q := by
  refine Parser.query_of_words h.1 h.2 ?_
  show (String.ofList _).toList = _
  rw [String.toList_ofList]

/-- A minus that is a sign and one that is not, a name with a blank, a string with a quote, and a
reduction whose nested column is named. -/
theorem Query.parse_print_reduction :
    let q : Query := ⟨"a \"b\".csv",
      [.filter (.binary .less (.unary .negate (.literal (.integer 5)))
        (.call "abs" [.literal (.integer (-3))])),
       .group ["a b"] "rest", .reduce "rest" [⟨"n", .nullTest (.column "c") true⟩], .distinct []]⟩
    q.Printable ∧
      q.print = "\"a \\\"b\\\".csv\" | filter \x7b ((- 5) < abs((-3))) \x7d | " ++
        "group `a b` as `rest` | reduce `rest` `n` = (`c` is not null) | distinct" ∧
      Query.parse q.print = .ok q := by
  intro q
  have hfilter : (Operation.filter (.binary .less (.unary .negate (.literal (.integer 5)))
      (.call "abs" [.literal (.integer (-3))]))).Printable := by
    refine .binary (.unary (.literal nofun)) (.call (by decide) ?_)
    exact List.forall_mem_singleton.2 (.literal nofun)
  have hgroup : (Operation.group ["a b"] "rest").Printable := by
    exact ⟨⟨by decide, by decide⟩, by decide⟩
  have hreduce : (Operation.reduce "rest" [⟨"n", .nullTest (.column "c") true⟩]).Printable := by
    refine ⟨by decide, List.cons_ne_nil _ _, List.forall_mem_singleton.2 ⟨?_, ?_⟩⟩
    · exact (by decide : Quotable "n")
    · exact .nullTest (.column (by decide))
  have hq : q.Printable := by
    refine ⟨by decide, ?_⟩
    intro op hop
    simp only [q, List.mem_cons, List.not_mem_nil, or_false] at hop
    rcases hop with rfl | rfl | rfl | rfl
    · exact hfilter
    · exact hgroup
    · exact hreduce
    · exact nofun
  exact ⟨hq, by decide +kernel, Query.parse_print q hq⟩

end TablePipeline
