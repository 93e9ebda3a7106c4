import TablePipeline.Pipeline.Run
import TablePipeline.Proofs.Query.Steady

/-!
# Queries one behind the other

The stages of a second query can be put behind a first one: behind a line feed and a bar its text is
read as the further operations, and running all of them is running the two queries one after the
other.  The words of the first text are the same whether a line feed follows or nothing
(`Cuts.append_lineFeed`), and so are the operations whether a bar follows or nothing
(`parseOperations_append`).  The line feed is needed, since the first text may end in a comment.

## Main definitions

* `PlainSource` — names of sources that stand in a query as they are

## Main statements

* `Query.cuts_of_parse`, `Query.parse_of_cuts` — a query behind a plain name, by its words
* `Query.parse_append` — two queries
-/

namespace TablePipeline

/-- A name of a source that can be written as it is: it has no white space and no bar, and begins
neither with a quote nor with a comment. -/
structure PlainSource (name : String) : Prop where
  nonempty : name ≠ ""
  noBlank : ∀ c ∈ name.toList, isBlank c = false
  noBar : '|' ∉ name.toList
  noQuote : name.toList.head? ≠ some '"' ∧ name.toList.head? ≠ some '`'
  noComment : ¬['/', '/'] <+: name.toList

section Source

variable {name s : String} {cs : List Char}

theorem PlainSource.toList_ne_nil (h : PlainSource name) : name.toList ≠ [] :=
  fun hnil => h.nonempty (String.toList_eq_nil_iff.1 hnil)

/-- No gap is skipped in front of a plain name. -/
theorem PlainSource.skipGap (h : PlainSource name) :
    TablePipeline.skipGap (name.toList ++ ' ' :: cs) = name.toList ++ ' ' :: cs := by
  cases hchars : name.toList with
  | nil => exact absurd hchars h.toList_ne_nil
  | cons c tail =>
    refine skipGap_eq_self (h.noBlank c (hchars ▸ List.mem_cons_self)) ?_
    rintro ⟨rfl, hhead⟩
    refine h.noComment ?_
    rw [hchars]
    cases tail with
    | nil => exact absurd (Option.some.inj hhead) (by decide)
    | cons d tail =>
      rw [Option.some.inj hhead]
      exact ⟨tail, rfl⟩

/-- A plain name is read up to the blank behind it. -/
theorem PlainSource.readSource (h : PlainSource name) :
    Lexeme.readSource (name.toList ++ ' ' :: cs) = .ok ⟨.name, name.toList, ' ' :: cs⟩ := by
  have hchars : ∀ c ∈ name.toList, inSourceName c = true := by
    intro c hc
    have hbar : c ≠ '|' := fun heq => h.noBar (heq ▸ hc)
    simp [inSourceName, h.noBlank c hc, hbar]
  have hblank : ¬inSourceName ' ' = true := by decide
  have hbare : Lexeme.readSource (name.toList ++ ' ' :: cs) =
      .ok ⟨.name, (name.toList ++ ' ' :: cs).takeWhile inSourceName,
        (name.toList ++ ' ' :: cs).dropWhile inSourceName⟩ := by
    have hhead : (name.toList ++ ' ' :: cs).head? = name.toList.head? :=
      List.head?_append_of_ne_nil _ h.toList_ne_nil
    exact Lexeme.readSource.eq_3 _
      (fun rest heq => h.noQuote.1 (hhead.symm.trans (congrArg List.head? heq)))
      fun rest heq => h.noQuote.2 (hhead.symm.trans (congrArg List.head? heq))
  rw [hbare, List.takeWhile_append_of_pos hchars, List.dropWhile_append_of_pos hchars,
    List.takeWhile_cons_of_neg hblank, List.dropWhile_cons_of_neg hblank, List.append_nil]

theorem PlainSource.source {l : Lexer} (h : PlainSource name)
    (hrest : l.rest = name.toList ++ ' ' :: cs) :
    ∃ position, l.source =
      (.ok ⟨.name, name, position⟩, ⟨l.text, ' ' :: cs, some .name⟩) := by
  have hskip : l.skip.rest = name.toList ++ ' ' :: cs := by
    show TablePipeline.skipGap l.rest = _
    rw [hrest, h.skipGap]
  refine ⟨l.skip.position, ?_⟩
  rw [Lexer.source, hskip, h.readSource]
  show (Except.ok (Token.mk .name (String.ofList name.toList) l.skip.position), _) = _
  rw [String.ofList_toList]
  rfl

/-- What is read as a query has words, and they are read as its operations. -/
theorem Query.cuts_of_parse {q : Query} (h : PlainSource name)
    (hs : s.toList = name.toList ++ ' ' :: cs) (hq : Query.parse s = .ok q) :
    ∃ ts rest, Cuts .name (' ' :: cs) (ts.map Token.word) ∧
      parseOperations ts = .done q.operations rest := by
  obtain ⟨position, hsource⟩ := h.source (l := Lexer.ofString s) hs
  obtain ⟨body, mark, htokens, hops, -⟩ := (Parser.query_eq_ok_iff hsource h.nonempty).1 hq
  obtain ⟨ts, mark', heq, hcuts⟩ := Lexer.cuts_of_tokenize rfl htokens
  obtain ⟨rfl, -⟩ := List.append_inj' heq rfl
  obtain ⟨rest, hrest⟩ := Parsed.outcome_eq_ok_iff.1 hops
  exact ⟨body, rest, hcuts, hrest⟩

/-- Words that are read as operations make a query of the text they are cut from. -/
theorem Query.parse_of_cuts {ws : List Word} {ops : List Operation} (h : PlainSource name)
    (hs : s.toList = name.toList ++ ' ' :: cs) (hws : Cuts .name (' ' :: cs) ws)
    (hops : ∀ ts : List Token, ts.map Token.word = ws → parseOperations ts = .done ops []) :
    Query.parse s = .ok ⟨name, ops⟩ := by
  obtain ⟨position, hsource⟩ := h.source (l := Lexer.ofString s) hs
  obtain ⟨ts, mark, htokens, hts⟩ :=
    @Lexer.tokenize_of_cuts .name ws ⟨s.toList, ' ' :: cs, some .name⟩ rfl hws
  refine (Parser.query_eq_ok_iff hsource h.nonempty).2 ⟨ts, mark, htokens, ?_, rfl⟩
  exact Parsed.outcome_eq_ok_iff.2 ⟨[], hops ts hts⟩

end Source

/-- **Queries one behind the other.**  If two queries to one plain source can be read, so can the
first with the stages of the second in a new line.  Its operations are those of the first and then
those of the second, and running it is running the first query and then, if that succeeded, the
second one on the result. -/
theorem Query.parse_append {source a b : String} {first second : Query}
    (hsource : PlainSource source)
    (ha : Query.parse (source ++ " | " ++ a) = .ok first)
    (hb : Query.parse (source ++ " | " ++ b) = .ok second) :
    ∃ both, Query.parse (source ++ " | " ++ a ++ "\n| " ++ b) = .ok both ∧
      both.operations = first.operations ++ second.operations ∧
      ∀ method t, both.run method t = (first.run method t).bind (second.run method) := by
  have htext : ∀ c : String, (source ++ " | " ++ c).toList =
      source.toList ++ ' ' :: '|' :: ' ' :: c.toList := by
    intro c
    simp
  obtain ⟨us, rest, hus, hfirst⟩ := Query.cuts_of_parse hsource (htext a) ha
  obtain ⟨vs, rest', hvs, hsecond⟩ := Query.cuts_of_parse hsource (htext b) hb
  have hwords : Cuts .name (' ' :: '|' :: ' ' :: a.toList ++ '\n' :: '|' :: ' ' :: b.toList)
      (us.map Token.word ++ vs.map Token.word) := by
    have hbar : Cuts .name ('|' :: ' ' :: b.toList) (vs.map Token.word) := hvs.of_skipGap rfl
    exact hus.append_lineFeed hbar.behind_any
  have hops : ∀ ts : List Token, ts.map Token.word = us.map Token.word ++ vs.map Token.word →
      parseOperations ts = .done (first.operations ++ second.operations) [] := by
    intro ts hts
    obtain ⟨us', vs', rfl, hus', hvs'⟩ := List.map_eq_append_iff.1 hts
    have hmore := parseOperations_append hsecond hvs' parseOperations_nil
    rw [List.append_nil, List.append_nil] at hmore
    exact parseOperations_append hfirst hus' hmore
  have htext' : (source ++ " | " ++ a ++ "\n| " ++ b).toList = source.toList ++
      ' ' :: ('|' :: ' ' :: a.toList ++ '\n' :: '|' :: ' ' :: b.toList) := by
    simp
  refine ⟨_, Query.parse_of_cuts hsource htext' hwords hops, rfl, fun method t => ?_⟩
  exact runOperations_append method first.operations second.operations t

set_option maxRecDepth 1000 in
/-- A first query that ends in a list of names, which could go on, and in a comment. -/
theorem Query.parse_append_comment :
    PlainSource "t" ∧
      Query.parse ("t" ++ " | " ++ "distinct a // b") = .ok ⟨"t", [.distinct ["a"]]⟩ ∧
      Query.parse ("t" ++ " | " ++ "tail 1") = .ok ⟨"t", [.tail 1]⟩ ∧
      ∃ both, Query.parse ("t" ++ " | " ++ "distinct a // b" ++ "\n| " ++ "tail 1") = .ok both ∧
        both.operations = [.distinct ["a"], .tail 1] ∧
        ∀ method t, both.run method t = (Query.run ⟨"t", [.distinct ["a"]]⟩ method t).bind
          (Query.run ⟨"t", [.tail 1]⟩ method) := by
  have hblank : ∀ c ∈ "t".toList, isBlank c = false := by
    intro c hc
    rw [List.mem_singleton.1 (show c ∈ ['t'] from hc)]
    decide
  have hsource : PlainSource "t" := ⟨by decide, hblank, by decide, by decide, by decide⟩
  have hfirst : Query.parse ("t" ++ " | " ++ "distinct a // b") =
      .ok ⟨"t", [.distinct ["a"]]⟩ := by
    with_unfolding_all rfl
  have hsecond : Query.parse ("t" ++ " | " ++ "tail 1") = .ok ⟨"t", [.tail 1]⟩ := by
    with_unfolding_all rfl
  exact ⟨hsource, hfirst, hsecond, Query.parse_append hsource hfirst hsecond⟩

end TablePipeline
