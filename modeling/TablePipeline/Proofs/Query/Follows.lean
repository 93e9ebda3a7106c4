import TablePipeline.Proofs.Query.Walk

/-!
# Walks that follow the rules

In a buffer that has been filled, what stands at the cursor and behind it is what is still to come,
and behind that stands the end mark.  So a walk can be compared with a rule: it follows the rule if
it ends, finds what the rule finds in the tokens to come, and leaves the cursor in front of what the
rule leaves, without ever going back.  Following is kept by every way in which walks are put
together, which is all that the grammar needs to know of the buffer.

## Main definitions

* `Parser.Filled` — a buffer with its end mark, and a cursor at one of its tokens
* `Parser.before` — a parser in front of the given tokens
* `Climbs` — cursors that never go down
* `Follows` — a walk does what a rule does

## Main statements

* `Parser.Filled.getElem?` — a look at a filled buffer is never out of range
* `Follows.bind` — one walk after the other
* `follows_peekAt`, `follows_check`, `follows_advance` — walks that begin with a look or a step
* `follows_check_cons` — a choice by the next token
* `follows_expect`, `follows_expectName` — single tokens
-/

namespace TablePipeline

namespace Parser

/-- The buffer has been filled: it ends in an end mark, there is no other, and the cursor is the
index of a token. -/
structure Filled (p : Parser) : Prop where
  buffer : ∃ body mark, p.tokens = body ++ [mark] ∧ mark.kind = .finish ∧
    ∀ t ∈ body, t.kind ≠ .finish
  cursor : p.cursor < p.tokens.length

/-- The parser in front of the given tokens, when these are the last ones before the end mark. -/
def before (p : Parser) (rest : List Token) : Parser :=
  { p with cursor := p.tokens.length - 1 - rest.length }

variable {p : Parser} {rest : List Token}

/-- What is to come are the tokens before the end mark, from the cursor on. -/
theorem Filled.upcoming_eq (h : p.Filled) :
    p.upcoming = p.tokens.dropLast.drop p.cursor := by
  obtain ⟨⟨body, mark, htokens, -, -⟩, hcursor⟩ := h
  have hle : p.cursor ≤ body.length := by
    rw [htokens, List.length_append, List.length_singleton] at hcursor
    exact Nat.le_of_lt_succ hcursor
  rw [upcoming, htokens, List.drop_append_of_le_length hle, List.dropLast_concat,
    List.dropLast_concat]

theorem Filled.drop_cursor (h : p.Filled) :
    p.tokens.drop p.cursor = p.upcoming ++ [p.endMark] := by
  have hcursor := h.cursor
  obtain ⟨body, mark, htokens, -, -⟩ := h.buffer
  rw [htokens, List.length_append, List.length_singleton] at hcursor
  rw [h.upcoming_eq, endMark, htokens, List.dropLast_concat, List.getLast?_concat,
    Option.getD_some, List.drop_append_of_le_length (Nat.le_of_lt_succ hcursor)]

theorem Filled.length_upcoming (h : p.Filled) :
    p.cursor + (p.upcoming.length + 1) = p.tokens.length := by
  have hcursor := h.cursor
  have hlength := congrArg List.length h.drop_cursor
  rw [List.length_drop, List.length_append, List.length_singleton] at hlength
  omega

theorem Filled.kind_endMark (h : p.Filled) : p.endMark.kind = .finish := by
  obtain ⟨body, mark, htokens, hmark, -⟩ := h.buffer
  rwa [endMark, htokens, List.getLast?_concat]

/-- No token that is still to come is an end mark. -/
theorem Filled.kind_ne_finish (h : p.Filled) {t : Token} (ht : t ∈ p.upcoming) :
    t.kind ≠ .finish := by
  obtain ⟨body, mark, htokens, -, hbody⟩ := h.buffer
  rw [h.upcoming_eq, htokens, List.dropLast_concat] at ht
  exact hbody t (List.mem_of_mem_drop ht)

/-- A look at a filled buffer finds a token: one that is still to come, or else the end mark. -/
theorem Filled.getElem? (h : p.Filled) (offset : Nat) :
    p.tokens[min (p.cursor + offset) (p.tokens.length - 1)]? =
      some (p.upcoming[offset]?.getD p.endMark) := by
  have hlength := h.length_upcoming
  have hindex : min (p.cursor + offset) (p.tokens.length - 1) =
      p.cursor + min offset p.upcoming.length := by omega
  rw [hindex, ← List.getElem?_drop, h.drop_cursor]
  rcases Nat.lt_or_ge offset p.upcoming.length with hlt | hge
  · rw [Nat.min_eq_left (Nat.le_of_lt hlt), List.getElem?_append_left hlt,
      List.getElem?_eq_getElem hlt, Option.getD_some]
  · rw [Nat.min_eq_right hge, List.getElem?_concat_length, List.getElem?_eq_none hge,
      Option.getD_none]

/-- In front of all that is to come the parser stands already. -/
theorem Filled.before_upcoming (h : p.Filled) : p.before p.upcoming = p := by
  have hlength := h.length_upcoming
  have hcursor : p.tokens.length - 1 - p.upcoming.length = p.cursor := by omega
  rw [before, hcursor]

theorem Filled.before (h : p.Filled) (rest : List Token) : (p.before rest).Filled := by
  refine ⟨h.buffer, ?_⟩
  have hcursor := h.cursor
  simp only [Parser.before]
  omega

theorem Filled.upcoming_before (h : p.Filled) (hrest : rest <:+ p.upcoming) :
    (p.before rest).upcoming = rest := by
  obtain ⟨taken, htaken⟩ := hrest
  have hlength := h.length_upcoming
  have hcursor : p.tokens.length - 1 - rest.length = p.cursor + taken.length := by
    rw [← htaken, List.length_append] at hlength
    omega
  simp only [upcoming, Parser.before]
  rw [hcursor, ← List.drop_drop, h.drop_cursor, ← htaken, List.append_assoc, List.drop_left,
    List.dropLast_concat]

end Parser

/-- The cursors on the way from one to another, in the order of the way, when it never goes back. -/
structure Climbs (start : Nat) (visited : List Nat) (stop : Nat) : Prop where
  le : start ≤ stop
  between : ∀ c ∈ visited, start ≤ c ∧ c ≤ stop
  sorted : visited.Pairwise (· ≤ ·)

theorem climbs_nil (start : Nat) : Climbs start [] start :=
  ⟨Nat.le_refl _, nofun, .nil⟩

theorem Climbs.append {start middle stop : Nat} {visited more : List Nat}
    (h : Climbs start visited middle) (h' : Climbs middle more stop) :
    Climbs start (visited ++ more) stop := by
  refine ⟨Nat.le_trans h.le h'.le, fun c hc => ?_, ?_⟩
  · rcases List.mem_append.1 hc with hc | hc
    · exact ⟨(h.between c hc).1, Nat.le_trans (h.between c hc).2 h'.le⟩
    · exact ⟨Nat.le_trans h.le (h'.between c hc).1, (h'.between c hc).2⟩
  · exact List.pairwise_append.2 ⟨h.sorted, h'.sorted, fun a ha b hb =>
      Nat.le_trans (h.between a ha).2 (h'.between b hb).1⟩

/-- A look at the beginning of the way. -/
theorem Climbs.cons {start stop : Nat} (h : start ≤ stop) : Climbs start [start] stop :=
  ⟨h, fun c hc => by rw [List.mem_singleton.1 hc]; exact ⟨Nat.le_refl _, h⟩,
    List.pairwise_singleton _ _⟩

/-- What was found, with the token that a complaint is about. -/
def Parsed.result {α : Type} (found : Parsed α) (p : Parser) : Except ParseError α :=
  found.outcome.mapError (ParseError.refused · (found.rest.head?.getD p.endMark))

/-- Where the given tokens are to come, the walk ends with what was found, and the cursor stands in
front of the tokens that are left, which are the last of those given. -/
structure Follows {α : Type} (w : Walk α) (ts : List Token) (found : Parsed α) : Prop where
  suffix : found.rest <:+ ts
  ends : ∀ p : Parser, p.Filled → p.upcoming = ts → ∀ visited, ∃ passed,
    Walk.run w ⟨p, visited⟩ =
        some ((found.result p).mapError .failed, ⟨p.before found.rest, visited ++ passed⟩) ∧
      Climbs p.cursor passed (p.before found.rest).cursor

namespace Walk

variable {α β : Type} {w : Walk α} {next : α → Walk β} {st st' : State} {a : α} {e : Stop}

theorem run_bind_ok (h : run w st = some (.ok a, st')) :
    run (w >>= next) st = run (next a) st' := by
  change (run w st).bind _ = _
  rw [h]
  rfl

theorem run_bind_error (h : run w st = some (.error e, st')) :
    run (w >>= next) st = some (.error e, st') := by
  change (run w st).bind _ = _
  rw [h]
  rfl

theorem run_pure (a : α) (st : State) : run (pure a) st = some (.ok a, st) := rfl

theorem run_throw (e : Stop) (st : State) : run (throw e : Walk α) st = some (.error e, st) := rfl

theorem run_get (st : State) : run get st = some (.ok st, st) := rfl

variable {p : Parser} {visited : List Nat}

theorem run_peekAt (h : p.Filled) (offset : Nat) :
    run (peekAt offset) ⟨p, visited⟩ =
      some (.ok (p.upcoming[offset]?.getD p.endMark), ⟨p, visited ++ [p.cursor]⟩) := by
  rw [peekAt, run_bind_ok (run_get _)]
  simp only [h.getElem? offset]
  rfl

/-- Without tokens every look is out of range. -/
theorem run_peekAt_of_empty (h : p.tokens = []) (offset : Nat) :
    run (peekAt offset) ⟨p, visited⟩ = some (.error .outOfRange, ⟨p, visited⟩) := by
  rw [peekAt, run_bind_ok (run_get _)]
  simp only [h]
  rfl

theorem run_peek (h : p.Filled) :
    run peek ⟨p, visited⟩ =
      some (.ok (p.upcoming.head?.getD p.endMark), ⟨p, visited ++ [p.cursor]⟩) := by
  rw [peek, run_peekAt h, List.head?_eq_getElem?]

theorem run_check (h : p.Filled) (kind : Token.Kind) :
    run (check kind) ⟨p, visited⟩ =
      some (.ok ((p.upcoming.head?.getD p.endMark).kind == kind), ⟨p, visited ++ [p.cursor]⟩) := by
  rw [check, run_bind_ok (run_peek h)]
  exact run_pure _ _

end Walk

section Walks

variable {α β : Type} {w : Walk α} {ts rest : List Token} {found : Parsed β}

/-- One walk after the other follows one rule after the other. -/
theorem Follows.bind {found : Parsed α} {next : α → Walk β} {rule : α → List Token → Parsed β}
    (h : Follows w ts found)
    (hnext : ∀ a rest, found = .done a rest → rest <:+ ts → Follows (next a) rest (rule a rest)) :
    Follows (w >>= next) ts (found.bind rule) := by
  rcases found.eq_done_or_refuse with ⟨a, rest, rfl⟩ | ⟨c, rest, rfl⟩
  · have hnext := hnext a rest rfl h.suffix
    refine ⟨hnext.suffix.trans h.suffix, fun p hp hts visited => ?_⟩
    obtain ⟨passed, hrun, hclimbs⟩ := h.ends p hp hts visited
    obtain ⟨more, hrun', hclimbs'⟩ := hnext.ends (p.before rest) (hp.before rest)
      (hp.upcoming_before (hts ▸ h.suffix)) (visited ++ passed)
    refine ⟨passed ++ more, ?_, hclimbs.append hclimbs'⟩
    rw [Walk.run_bind_ok hrun, ← List.append_assoc]
    exact hrun'
  · refine ⟨h.suffix, fun p hp hts visited => ?_⟩
    obtain ⟨passed, hrun, hclimbs⟩ := h.ends p hp hts visited
    exact ⟨passed, Walk.run_bind_error hrun, hclimbs⟩

/-- A walk that takes nothing, whatever it looks at. -/
theorem follows_of_stay {found : Parsed α} (hrest : found.rest = ts)
    (h : ∀ p : Parser, p.Filled → p.upcoming = ts → ∀ visited, ∃ passed,
      Walk.run w ⟨p, visited⟩ = some ((found.result p).mapError .failed, ⟨p, visited ++ passed⟩) ∧
        Climbs p.cursor passed p.cursor) : Follows w ts found := by
  subst hrest
  refine ⟨List.suffix_refl _, fun p hp hts visited => ?_⟩
  have hstay : p.before found.rest = p := by rw [← hts, hp.before_upcoming]
  rw [hstay]
  exact h p hp hts visited

theorem follows_pure (a : α) (ts : List Token) : Follows (pure a) ts (.done a ts) := by
  refine follows_of_stay rfl fun p _ _ visited => ⟨[], ?_, climbs_nil _⟩
  rw [Walk.run_pure, List.append_nil]
  rfl

theorem Follows.map {found : Parsed α} (h : Follows w ts found) (f : α → β) :
    Follows (w >>= fun a => pure (f a)) ts (found.map f) :=
  h.bind fun a rest _ _ => follows_pure (f a) rest

theorem follows_complain (c : Complaint) (ts : List Token) :
    Follows (Walk.complain c : Walk α) ts (.refuse c ts) := by
  refine follows_of_stay rfl fun p _ hts visited => ⟨[], ?_, climbs_nil _⟩
  rw [Walk.complain, Walk.run_bind_ok (Walk.run_get _), Walk.run_throw, List.append_nil, ← hts]
  rfl

theorem follows_unexpected (expected : Expected) (ts : List Token) :
    Follows (Walk.unexpected expected : Walk α) ts (.refuse (.unexpected expected) ts) := by
  refine follows_of_stay rfl fun p hp hts visited => ⟨[p.cursor], ?_, .cons (Nat.le_refl _)⟩
  rw [Walk.unexpected, Walk.run_bind_ok (Walk.run_peek hp), Walk.run_throw, hts]
  rfl

/-- A walk that looks once, perhaps takes some tokens, and goes on.  How it goes on may depend on
the end mark. -/
theorem follows_of_step {w : Walk β} {k : Token → Walk β} (hrest : rest <:+ ts)
    (hk : ∀ mark : Token, mark.kind = .finish → Follows (k mark) rest found)
    (hrun : ∀ p : Parser, p.Filled → p.upcoming = ts → ∀ visited,
      Walk.run w ⟨p, visited⟩ =
        Walk.run (k p.endMark) ⟨p.before rest, visited ++ [p.cursor]⟩) :
    Follows w ts found := by
  refine ⟨(hk ⟨.finish, "", 0⟩ rfl).suffix.trans hrest, fun p hp hts visited => ?_⟩
  obtain ⟨more, hrun', hclimbs⟩ := (hk p.endMark hp.kind_endMark).ends (p.before rest)
    (hp.before rest) (hp.upcoming_before (hts ▸ hrest)) (visited ++ [p.cursor])
  have hle : p.cursor ≤ (p.before rest).cursor := by
    have hlength := hp.length_upcoming
    have hsuffix := hrest.length_le
    rw [← hts] at hsuffix
    simp only [Parser.before]
    omega
  refine ⟨[p.cursor] ++ more, ?_, (Climbs.cons hle).append hclimbs⟩
  rw [hrun p hp hts visited, hrun', List.append_assoc]
  rfl

/-- A look finds a token that is to come, or the end mark. -/
theorem follows_peekAt {next : Token → Walk β} (offset : Nat)
    (h : ∀ mark : Token, mark.kind = .finish → Follows (next (ts[offset]?.getD mark)) ts found) :
    Follows (Walk.peekAt offset >>= next) ts found := by
  refine follows_of_step (List.suffix_refl ts) h fun p hp hts visited => ?_
  subst hts
  rw [Walk.run_bind_ok (Walk.run_peekAt hp offset), hp.before_upcoming]

theorem follows_peek_cons {next : Token → Walk β} {t : Token}
    (h : Follows (next t) (t :: rest) found) : Follows (Walk.peek >>= next) (t :: rest) found :=
  follows_peekAt 0 fun _ _ => h

theorem follows_peek_nil {next : Token → Walk β}
    (h : ∀ mark : Token, mark.kind = .finish → Follows (next mark) [] found) :
    Follows (Walk.peek >>= next) [] found :=
  follows_peekAt 0 h

/-- A check says whether the next token has the kind; the end mark has none that is asked for. -/
theorem follows_check {next : Bool → Walk β} {kind : Token.Kind} (hkind : kind ≠ .finish)
    (h : Follows (next (nextIs kind ts)) ts found) :
    Follows (Walk.check kind >>= next) ts found := by
  refine follows_of_step (k := fun _ => next (nextIs kind ts)) (List.suffix_refl ts)
    (fun _ _ => h) fun p hp hts visited => ?_
  have hhead : ((p.upcoming.head?.getD p.endMark).kind == kind) = nextIs kind ts := by
    rw [hts]
    cases ts with
    | nil => simpa [nextIs, hp.kind_endMark] using hkind.symm
    | cons t rest => rfl
  rw [Walk.run_bind_ok (Walk.run_check hp kind), hhead, ← hts, hp.before_upcoming]

theorem follows_check_nil {kind : Token.Kind} {w w' : Walk β} (hkind : kind ≠ .finish)
    (h : Follows w' [] found) :
    Follows (Walk.check kind >>= fun is => if is = true then w else w') [] found :=
  follows_check hkind h

/-- A choice by the kind of the next token. -/
theorem follows_check_cons {kind : Token.Kind} {t : Token} {w w' : Walk β} {found found' : Parsed β}
    (hkind : kind ≠ .finish) (h : t.kind = kind → Follows w (t :: rest) found)
    (h' : t.kind ≠ kind → Follows w' (t :: rest) found') :
    Follows (Walk.check kind >>= fun is => if is = true then w else w') (t :: rest)
      (if t.kind = kind then found else found') := by
  refine follows_check hkind ?_
  rw [nextIs]
  by_cases ht : t.kind = kind
  · rw [if_pos ht, if_pos (beq_iff_eq.2 ht)]
    exact h ht
  · rw [if_neg ht, if_neg (mt beq_iff_eq.1 ht)]
    exact h' ht

/-- The check for the end mark says whether nothing is to come. -/
theorem follows_check_finish {next : Bool → Walk β} (h : Follows (next ts.isEmpty) ts found) :
    Follows (Walk.check .finish >>= next) ts found := by
  refine follows_of_step (k := fun _ => next ts.isEmpty) (List.suffix_refl ts)
    (fun _ _ => h) fun p hp hts visited => ?_
  have hhead : ((p.upcoming.head?.getD p.endMark).kind == .finish) = ts.isEmpty := by
    cases ts with
    | nil => simp [hts, hp.kind_endMark]
    | cons t rest => simpa [hts] using hp.kind_ne_finish (hts ▸ List.mem_cons_self)
  rw [Walk.run_bind_ok (Walk.run_check hp .finish), hhead, ← hts, hp.before_upcoming]

/-- A step takes the next token. -/
theorem follows_advance {next : Token → Walk β} {t : Token} (h : Follows (next t) rest found) :
    Follows (Walk.advance >>= next) (t :: rest) found := by
  refine follows_of_step (k := fun _ => next t) (List.suffix_cons t rest) (fun _ _ => h)
    fun p hp hts visited => ?_
  have hkind : t.kind ≠ .finish := hp.kind_ne_finish (hts ▸ List.mem_cons_self)
  have hcursor : p.before rest = { p with cursor := p.cursor + 1 } := by
    have hlength := hp.length_upcoming
    rw [hts, List.length_cons] at hlength
    simp only [Parser.before, Parser.mk.injEq, true_and]
    omega
  have hadvance : Walk.run Walk.advance ⟨p, visited⟩ =
      some (.ok t, ⟨p.before rest, visited ++ [p.cursor]⟩) := by
    rw [Walk.advance, Walk.run_bind_ok (Walk.run_peek hp)]
    simp only [hts, List.head?_cons, Option.getD_some, if_neg hkind, hcursor]
    rfl
  rw [Walk.run_bind_ok hadvance]

/-- At the end mark a step stays where it is. -/
theorem follows_advance_nil {next : Token → Walk β}
    (h : ∀ mark : Token, mark.kind = .finish → Follows (next mark) [] found) :
    Follows (Walk.advance >>= next) [] found := by
  refine follows_of_step (List.suffix_refl []) h fun p hp hts visited => ?_
  have hadvance : Walk.run Walk.advance ⟨p, visited⟩ =
      some (.ok p.endMark, ⟨p, visited ++ [p.cursor]⟩) := by
    rw [Walk.advance, Walk.run_bind_ok (Walk.run_peek hp)]
    simp only [hts, List.head?_nil, Option.getD_none, if_pos hp.kind_endMark]
    rfl
  rw [Walk.run_bind_ok hadvance, ← hts, hp.before_upcoming]

/-- A step at the end of a walk. -/
theorem follows_advance_done (t : Token) (rest : List Token) :
    Follows Walk.advance (t :: rest) (.done t rest) := by
  have h : Follows (Walk.advance >>= pure) (t :: rest) (.done t rest) :=
    follows_advance (follows_pure t rest)
  rwa [bind_pure] at h

theorem follows_expect {kind : Token.Kind} (hkind : kind ≠ .finish) (expected : Expected)
    (ts : List Token) : Follows (Walk.expect kind expected) ts (expect kind expected ts) := by
  cases ts with
  | nil => exact follows_check_nil hkind (follows_unexpected expected [])
  | cons t rest =>
    rw [expect_cons]
    exact follows_check_cons hkind (fun _ => follows_advance_done t rest) fun _ =>
      follows_unexpected expected (t :: rest)

theorem follows_expectName (expected : Expected) (ts : List Token) :
    Follows (Walk.expectName expected) ts (expectName expected ts) := by
  cases ts with
  | nil =>
    refine follows_peek_nil fun mark hmark => ?_
    rw [hmark]
    exact follows_unexpected expected []
  | cons t rest =>
    refine follows_peek_cons ?_
    rw [expectName]
    by_cases ht : t.kind.isName
    · rw [if_pos ht, if_pos ht]
      exact follows_advance (follows_pure t.text rest)
    · rw [if_neg ht, if_neg ht]
      exact follows_unexpected expected (t :: rest)

end Walks

end TablePipeline
