import TablePipeline.Proofs.Query.WalkedRules

/-!
# Buffer and cursor of a parser

A parser may be asked again and again, after answers and after failures, and its calls share one
buffer and one cursor.  Since every walk follows its rule, a call is what the rule says of the
tokens that are still to come; what has to be added is how the buffer comes about, once, and that
nothing is found without a token being taken, which is why the loops of the grammar end.

## Main definitions

* `Parser.walkDepth` — the depth that walks over a buffer need
* `Advances` — a walk that goes forward when it finds something
* `Parser.Intact` — no tokens yet, or a filled buffer
* `Parser.Serves` — a walk gives a parser its answer and keeps it in order

## Main statements

* `advances_of_follows` — rules that take at least one token
* `Parser.serves_call` — one call
* `Parser.cursor_sound` — any calls
-/

namespace TablePipeline

/-! ## What is found is not found for nothing -/

/-- Only the rest of a chain may be spelled by no token. -/
theorem Derives.ne_nil {phrase : Phrase} {ts : List Token} (h : Derives phrase ts)
    (hphrase : ∀ ps, phrase ≠ .pairs ps) : ts ≠ [] := by
  induction h with
  | expression _ _ _ ih _ => exact List.append_ne_nil_of_left_ne_nil (ih nofun) _
  | first _ ih => exact ih nofun
  | primary _ ih => exact ih nofun
  | argument _ ih => exact ih nofun
  | moreArguments _ _ _ ih _ => exact List.append_ne_nil_of_left_ne_nil (ih nofun) _
  | noPairs => exact absurd rfl (hphrase [])
  | isNull => simp
  | isNotNull => simp
  | _ => exact List.cons_ne_nil _ _

theorem length_rest_lt_of_parseExpression {ts rest : List Token} {e : Expr}
    (h : parseExpression ts = .done e rest) : rest.length < ts.length := by
  obtain ⟨us, rfl, hus⟩ := sound_parseExpression ts.length ts (Nat.le_refl _) e rest h
  have hpos := List.length_pos_iff.2 (hus.ne_nil nofun)
  rw [List.length_append]
  omega

theorem length_rest_lt_of_parseOperation {ts rest : List Token} {op : Operation}
    (h : parseOperation ts = .done op rest) : rest.length < ts.length := by
  obtain ⟨name, mid, hname, hbody⟩ := Parsed.bind_eq_done_iff.1 h
  obtain ⟨rfl, -⟩ := expect_eq_done_iff.1 hname
  have hle := length_rest_parseOperationBody name mid
  rw [hbody] at hle
  exact Nat.lt_succ_of_le hle

/-- A depth that is enough for every walk in the buffer. -/
def Parser.walkDepth (p : Parser) : Nat :=
  4 * p.tokens.length + 2

theorem Parser.Filled.walkDepth_upcoming {p : Parser} (h : p.Filled) :
    4 * p.upcoming.length + 6 ≤ p.walkDepth := by
  have hcursor := h.cursor
  have hlength := h.length_upcoming
  rw [Parser.walkDepth]
  omega

/-- From any place in a filled buffer the walk, if it may go deep enough, ends within the buffer and
never goes back or looks beyond it; if it finds something, it has gone forward. -/
def Advances {α : Type} (w : Nat → Walk α) : Prop :=
  ∀ p : Parser, p.Filled → ∀ depth, p.walkDepth ≤ depth → ∀ visited, ∃ outcome p' passed,
    Walk.run (w depth) ⟨p, visited⟩ = some (outcome, ⟨p', visited ++ passed⟩) ∧
      p'.Filled ∧ p'.tokens = p.tokens ∧ Climbs p.cursor passed p'.cursor ∧
      outcome ≠ .error .outOfRange ∧ ∀ a, outcome = .ok a → p.cursor < p'.cursor

theorem mapError_failed_ne_outOfRange {α : Type} (outcome : Except ParseError α) :
    outcome.mapError Walk.Stop.failed ≠ .error .outOfRange := by
  cases outcome <;> nofun

/-- A walk that follows a rule which takes at least one token. -/
theorem advances_of_follows {α : Type} {w : Nat → Walk α} {rule : List Token → Parsed α}
    (h : ∀ depth ts, 4 * ts.length + 6 ≤ depth → Follows (w depth) ts (rule ts))
    (hshorter : ∀ ts a rest, rule ts = .done a rest → rest.length < ts.length) : Advances w := by
  intro p hp depth hdepth visited
  have hfollows := h depth p.upcoming (Nat.le_trans hp.walkDepth_upcoming hdepth)
  obtain ⟨passed, hrun, hclimbs⟩ := hfollows.ends p hp rfl visited
  refine ⟨_, _, passed, hrun, hp.before _, rfl, hclimbs, mapError_failed_ne_outOfRange _,
    fun a ha => ?_⟩
  have hfound : (rule p.upcoming).outcome = .ok a := mapError_eq_ok_iff.1 (mapError_eq_ok_iff.1 ha)
  obtain ⟨rest, hrest⟩ := Parsed.outcome_eq_ok_iff.1 hfound
  have hlt := hshorter _ a rest hrest
  have hlength := hp.length_upcoming
  rw [hrest]
  simp only [Parsed.done, Parser.before]
  omega

/-! ## Calls -/

namespace Parser

variable {α β : Type} {p q : Parser} {rule : List Token → Parsed α} {w : Walk α} {depth : Nat}

/-- Either there are no tokens yet, or the buffer has been filled. -/
def Intact (p : Parser) : Prop :=
  p.tokens = [] ∧ p.cursor = 0 ∨ p.Filled

theorem Filled.tokens_ne_nil (h : p.Filled) : p.tokens ≠ [] :=
  List.ne_nil_of_length_pos (Nat.zero_lt_of_lt h.cursor)

/-- The walk ends with the answer.  It keeps the tokens that are there, it never goes back, and it
looks at the buffer from the places of its tokens only. -/
def Serves (w : Walk α) (p : Parser) (answer : Except ParseError α × Parser) : Prop :=
  ∃ visited,
    Walk.run w ⟨p, []⟩ = some (answer.1.mapError .failed, ⟨answer.2, visited⟩) ∧
      answer.2.Intact ∧ (p.tokens ≠ [] → answer.2.tokens = p.tokens) ∧
      Climbs p.cursor visited answer.2.cursor ∧ ∀ c ∈ visited, c < answer.2.tokens.length

/-- Fills the buffer, if that has not been done yet, and applies a rule. -/
def fillApply (p : Parser) (rule : List Token → Parsed α) : Except ParseError α × Parser :=
  match p.fill with
  | (.error e, p) => (.error e, p)
  | (.ok (), p) => p.apply rule

theorem apply_map (p : Parser) (rule : List Token → Parsed α) (f : α → β) :
    (p.apply fun ts => (rule ts).map f) = ((p.apply rule).1.map f, (p.apply rule).2) := by
  rw [apply, apply]
  rcases (rule p.upcoming).eq_done_or_refuse with ⟨a, rest, h⟩ | ⟨c, rest, h⟩ <;> rw [h] <;> rfl

theorem fillApply_map (p : Parser) (rule : List Token → Parsed α) (f : α → β) :
    (p.fillApply fun ts => (rule ts).map f) =
      ((p.fillApply rule).1.map f, (p.fillApply rule).2) := by
  rw [fillApply, fillApply]
  split
  · rfl
  · exact apply_map _ rule f

theorem serves_of_follows (hp : p.Filled) (h : Follows w p.upcoming (rule p.upcoming)) :
    Serves w p (p.apply rule) := by
  obtain ⟨passed, hrun, hclimbs⟩ := h.ends p hp rfl []
  have hfilled := hp.before (rule p.upcoming).rest
  exact ⟨passed, hrun, .inr hfilled, fun _ => rfl, hclimbs,
    fun c hc => Nat.lt_of_le_of_lt (hclimbs.between c hc).2 hfilled.cursor⟩

theorem run_onParser (f : Parser → Except ParseError α × Parser) (visited : List Nat) :
    Walk.run (Walk.onParser f) ⟨p, visited⟩ =
      some ((f p).1.mapError .failed, ⟨(f p).2, visited⟩) := by
  rw [Walk.onParser, Walk.run_bind_ok (Walk.run_get _)]
  cases h : (f p).1 <;> simp only [h] <;> rfl

/-- Filling ends with a filled buffer, or leaves the parser without tokens. -/
theorem Intact.fill_cases (h : p.Intact) :
    (∃ q, p.fill = (.ok (), q) ∧ q.Filled ∧ q.cursor = p.cursor ∧
      (p.tokens ≠ [] → q.tokens = p.tokens)) ∨
    ∃ e q, p.fill = (.error e, q) ∧ p.tokens = [] ∧ q.tokens = [] ∧ q.cursor = 0 ∧
      p.cursor = 0 := by
  rcases h with ⟨htokens, hcursor⟩ | hfilled
  · have hempty : p.tokens.isEmpty = true := List.isEmpty_iff.2 htokens
    cases hout : p.lexer.tokenize with
    | mk outcome lexer =>
      cases outcome with
      | error e =>
        exact .inr ⟨.lexical e, { p with lexer }, by rw [fill, if_pos hempty, hout], htokens,
          htokens, hcursor, hcursor⟩
      | ok tokens =>
        have htokenize : p.lexer.tokenize.1 = .ok tokens := by rw [hout]
        have hbuffer := Lexer.tokenize_eq_ok htokenize
        refine .inl ⟨⟨lexer, tokens, 0⟩, by rw [fill, if_pos hempty, hout], ⟨hbuffer, ?_⟩,
          hcursor.symm, fun hne => absurd htokens hne⟩
        obtain ⟨body, mark, rfl, -, -⟩ := hbuffer
        simp
  · have hfill : p.fill = (.ok (), p) := by
      rw [fill, if_neg (mt List.isEmpty_iff.1 hfilled.tokens_ne_nil)]
    exact .inl ⟨p, hfill, hfilled, rfl, fun _ => rfl⟩

theorem serves_fill (hp : p.Intact) (hdepth : (p.fillApply rule).2.walkDepth ≤ depth)
    (h : ∀ ts, 4 * ts.length + 6 ≤ depth → Follows w ts (rule ts)) :
    Serves (Walk.onParser fill >>= fun _ => w) p (p.fillApply rule) := by
  have hrun := run_onParser (p := p) fill []
  rcases hp.fill_cases with ⟨q, hfill, hfilled, hcursor, htokens⟩ |
    ⟨e, q, hfill, hnone, htokens, hcursor, hstart⟩
  · rw [hfill] at hrun
    rw [fillApply, hfill] at hdepth ⊢
    -- a rule does not change the buffer
    have hfollows := h q.upcoming (Nat.le_trans hfilled.walkDepth_upcoming hdepth)
    obtain ⟨visited, hwalk, hintact, hkept, hclimbs, hbound⟩ := serves_of_follows hfilled hfollows
    refine ⟨visited, (Walk.run_bind_ok hrun).trans hwalk, hintact, fun hne => ?_, ?_, hbound⟩
    · exact (hkept hfilled.tokens_ne_nil).trans (htokens hne)
    · rwa [hcursor] at hclimbs
  · rw [hfill] at hrun
    rw [fillApply, hfill]
    refine ⟨[], Walk.run_bind_error hrun, .inl ⟨htokens, hcursor⟩, fun hne => absurd hnone hne, ?_,
      nofun⟩
    rw [hcursor, hstart]
    exact climbs_nil 0

/-- A query is a source and, from there, the operations in the buffer. -/
def sourceApply (p : Parser) : Except ParseError (Query ⊕ Expr) × Parser :=
  match p.source with
  | (.error e, p) => (.error e, p)
  | (.ok source, p) => p.fillApply fun ts =>
    (parseOperations ts).map fun operations => .inl ⟨source, operations⟩

theorem ask_query (p : Parser) : p.ask .query = some p.sourceApply := by
  rw [ask, query, sourceApply, source]
  cases p.lexer.source with
  | mk outcome lexer =>
    cases outcome with
    | error e => rfl
    | ok source =>
      simp only
      by_cases hname : source.text.isEmpty = true
      · rw [if_pos hname, if_pos hname]
        rfl
      · rw [if_neg hname, if_neg hname]
        refine congrArg some (Eq.trans ?_ (fillApply_map _ parseOperations _).symm)
        rw [fillApply]
        rcases Parser.fill { p with lexer } with ⟨e | ⟨⟩, p⟩
        · rfl
        · simp only
          cases (p.apply parseOperations).1 <;> rfl

theorem ask_expression (p : Parser) :
    p.ask .expression = some (p.fillApply fun ts => (parseWholeExpression ts).map .inr) := by
  rw [fillApply_map]
  rfl

theorem ask_subexpression (h : p.tokens ≠ []) :
    p.ask .subexpression = some (p.apply fun ts => (parseExpression ts).map .inr) := by
  rw [ask, subexpression?, if_neg (mt List.isEmpty_iff.1 h), apply_map]
  rfl

theorem ask_subexpression_of_empty (h : p.tokens = []) : p.ask .subexpression = none := by
  rw [ask, subexpression?, if_pos (List.isEmpty_iff.2 h)]
  rfl

/-- The lexer alone reads the name of a source. -/
theorem source_keeps (p : Parser) :
    p.source.2.tokens = p.tokens ∧ p.source.2.cursor = p.cursor := by
  rw [source]
  split <;> exact ⟨rfl, rfl⟩

theorem Intact.of_eq (h : p.Intact) (htokens : q.tokens = p.tokens)
    (hcursor : q.cursor = p.cursor) : q.Intact := by
  rcases h with ⟨hnone, hstart⟩ | ⟨hbuffer, hinside⟩
  · exact .inl ⟨htokens.trans hnone, hcursor.trans hstart⟩
  · exact .inr ⟨by rwa [htokens], by rwa [htokens, hcursor]⟩

theorem serves_query (hp : p.Intact) (hdepth : p.sourceApply.2.walkDepth ≤ depth) :
    Serves (Call.query.walk depth) p p.sourceApply := by
  have hrun := run_onParser (p := p) source []
  obtain ⟨htokens, hcursor⟩ := p.source_keeps
  have hq := hp.of_eq htokens hcursor
  rw [sourceApply] at hdepth ⊢
  cases h : p.source with
  | mk outcome q =>
    rw [h] at hrun htokens hcursor hq hdepth
    cases outcome with
    | error e =>
      refine ⟨[], Walk.run_bind_error hrun, hq, fun _ => htokens, ?_, nofun⟩
      rw [hcursor]
      exact climbs_nil p.cursor
    | ok source =>
      have hserves := serves_fill hq hdepth fun ts hts =>
        (follows_operations hts).map fun operations =>
          (Sum.inl ⟨source, operations⟩ : Query ⊕ Expr)
      obtain ⟨visited, hwalk, hintact, hkept, hclimbs, hbound⟩ := hserves
      rw [htokens] at hkept
      rw [hcursor] at hclimbs
      exact ⟨visited, (Walk.run_bind_ok hrun).trans hwalk, hintact, hkept, hclimbs, hbound⟩

/-- Every call that has an answer is served with it. -/
theorem serves_call (hp : p.Intact) {call : Call}
    {answer : Except ParseError (Query ⊕ Expr) × Parser} (h : p.ask call = some answer)
    (hdepth : answer.2.walkDepth ≤ depth) : Serves (call.walk depth) p answer := by
  cases call with
  | query =>
    rw [ask_query] at h
    cases h
    exact serves_query hp hdepth
  | expression =>
    rw [ask_expression] at h
    cases h
    exact serves_fill hp hdepth fun ts hts =>
      (follows_wholeExpression (by omega)).map Sum.inr
  | subexpression =>
    rcases hp with ⟨hnone, -⟩ | hfilled
    · rw [ask_subexpression_of_empty hnone] at h
      cases h
    · rw [ask_subexpression hfilled.tokens_ne_nil] at h
      cases h
      have hupcoming := Nat.le_trans hfilled.walkDepth_upcoming hdepth
      exact serves_of_follows hfilled
        (((followsAt depth).expression p.upcoming (by omega)).map Sum.inr)

/-- A call without an answer looks out of range at once. -/
theorem run_of_ask_eq_none {call : Call} (h : p.ask call = none) (hdepth : p.walkDepth ≤ depth) :
    call = .subexpression ∧ p.tokens = [] ∧
      Walk.run (call.walk depth) ⟨p, []⟩ = some (.error .outOfRange, ⟨p, []⟩) := by
  cases call with
  | query =>
    rw [ask_query] at h
    cases h
  | expression =>
    rw [ask_expression] at h
    cases h
  | subexpression =>
    by_cases hnone : p.tokens = []
    · refine ⟨rfl, hnone, ?_⟩
      have hlook : Walk.run Walk.peek ⟨p, []⟩ = some (.error .outOfRange, ⟨p, []⟩) :=
        Walk.run_peekAt_of_empty hnone 0
      obtain ⟨below, rfl⟩ := Nat.exists_eq_add_of_le' (Nat.le_trans (Nat.le_add_left 2 _) hdepth)
      have hunary : Walk.run (Walk.unary (below + 1)) ⟨p, []⟩ =
          some (.error .outOfRange, ⟨p, []⟩) := by
        rw [Walk.unary]
        exact Walk.run_bind_error hlook
      have hexpression : Walk.run (Walk.expression (below + 2)) ⟨p, []⟩ =
          some (.error .outOfRange, ⟨p, []⟩) := by
        rw [Walk.expression]
        exact Walk.run_bind_error hunary
      exact Walk.run_bind_error hexpression
    · rw [ask_subexpression hnone] at h
      cases h

theorem asked_of_ask {call : Call} {answer : Except ParseError (Query ⊕ Expr) × Parser}
    (h : p.ask call = some answer) : p.asked call = answer.2 := by
  rw [asked, h]
  rfl

theorem asked_of_ask_eq_none {call : Call} (h : p.ask call = none) : p.asked call = p := by
  rw [asked, h]
  rfl

theorem Intact.asked (hp : p.Intact) (call : Call) : (p.asked call).Intact := by
  cases h : p.ask call with
  | none => rwa [asked_of_ask_eq_none h]
  | some answer =>
    obtain ⟨_, _, hintact, _⟩ := serves_call hp h (Nat.le_refl _)
    rwa [asked_of_ask h]

theorem Intact.after (hp : p.Intact) (calls : List Call) : (p.after calls).Intact := by
  induction calls generalizing p with
  | nil => exact hp
  | cons call calls ih => exact ih (hp.asked call)

/-- **The buffer and the cursor of a parser are sound, however it is used.**  After any calls, the
failed ones among them, there are no tokens yet, or the buffer ends in its only end mark and the
cursor is at one of its tokens.  Every further call ends with what the rules find, at every depth
that is enough for the buffer.  It keeps a buffer that is there; the cursors from which it looks
never go down, from the cursor before it to the one after it, and none is beyond the end mark.  It
is out of range exactly if it asks for a part of an expression while there are no tokens.  And
wherever in a filled buffer an expression or an operation is looked for, it is found only by going
forward. -/
theorem cursor_sound :
    (∀ (s : String) (calls : List Call),
      let p := (ofString s).after calls
      p.Intact ∧ ∀ call depth, (p.asked call).walkDepth ≤ depth → ∃ outcome visited,
        Walk.run (call.walk depth) ⟨p, []⟩ = some (outcome, ⟨p.asked call, visited⟩) ∧
          (∀ answer, p.ask call = some answer → outcome = answer.1.mapError .failed) ∧
          (outcome = .error .outOfRange ↔ call = .subexpression ∧ p.tokens = []) ∧
          (p.tokens ≠ [] → (p.asked call).tokens = p.tokens) ∧
          Climbs p.cursor visited (p.asked call).cursor ∧
          ∀ c ∈ visited, c < (p.asked call).tokens.length) ∧
      Advances Walk.expression ∧ Advances Walk.operation := by
  have hexpression : Advances Walk.expression :=
    advances_of_follows (fun depth ts hts => (followsAt depth).expression ts (by omega))
      fun _ _ _ => length_rest_lt_of_parseExpression
  have hoperation : Advances Walk.operation :=
    advances_of_follows (fun _ _ hts => follows_operation (by omega))
      fun _ _ _ => length_rest_lt_of_parseOperation
  refine ⟨fun s calls => ?_, hexpression, hoperation⟩
  have hp : ((ofString s).after calls).Intact := Intact.after (.inl ⟨rfl, rfl⟩) calls
  refine ⟨hp, fun call depth hdepth => ?_⟩
  generalize (ofString s).after calls = p at hp hdepth ⊢
  cases h : p.ask call with
  | none =>
    rw [asked_of_ask_eq_none h] at hdepth ⊢
    obtain ⟨hcall, hnone, hrun⟩ := run_of_ask_eq_none h hdepth
    refine ⟨_, [], hrun, fun answer h' => ?_, iff_of_true rfl ⟨hcall, hnone⟩, fun _ => rfl,
      climbs_nil _, nofun⟩
    cases h'
  | some answer =>
    rw [asked_of_ask h] at hdepth ⊢
    obtain ⟨visited, hrun, -, hkept, hclimbs, hbound⟩ := serves_call hp h hdepth
    refine ⟨_, visited, hrun, fun answer' h' => ?_, ?_, hkept, hclimbs, hbound⟩
    · cases h'
      rfl
    · refine iff_of_false (mapError_failed_ne_outOfRange _) fun ⟨hcall, hnone⟩ => ?_
      rw [hcall, ask_subexpression_of_empty hnone] at h
      cases h

set_option maxRecDepth 2000 in
/-- After a call without tokens and one that fails between two operands, the next call goes on from
there to the end mark. -/
theorem cursor_sound_resumed :
    let p := (ofString "a b").after [.subexpression, .expression]
    p.tokens.length = 3 ∧ p.cursor = 1 ∧ ∃ outcome visited,
      Walk.run (Call.subexpression.walk 14) ⟨p, []⟩ =
          some (outcome, ⟨p.asked .subexpression, visited⟩) ∧
        outcome ≠ .error .outOfRange ∧ Climbs 1 visited 2 := by
  intro p
  have hlength : ((ofString "a b").after [.subexpression, .expression]).tokens.length = 3 := by
    decide +kernel
  have hcursor : ((ofString "a b").after [.subexpression, .expression]).cursor = 1 := by
    decide +kernel
  have hafter :
      (((ofString "a b").after [.subexpression, .expression]).asked .subexpression).cursor = 2 := by
    decide +kernel
  have hdepth : (((ofString "a b").after [.subexpression, .expression]).asked
      .subexpression).walkDepth = 14 := by
    decide +kernel
  obtain ⟨outcome, visited, hrun, -, hrange, -, hclimbs, -⟩ :=
    (cursor_sound.1 "a b" [.subexpression, .expression]).2 .subexpression 14 (Nat.le_of_eq hdepth)
  refine ⟨hlength, hcursor, outcome, visited, hrun, fun h => ?_, ?_⟩
  · rw [(hrange.1 h).2] at hlength
    cases hlength
  · rw [← hcursor, ← hafter]
    exact hclimbs

end Parser

end TablePipeline
