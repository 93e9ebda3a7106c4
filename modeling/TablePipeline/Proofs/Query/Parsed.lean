import TablePipeline.Proofs.Outcome
import TablePipeline.Query.Parser

/-!
# Rules that find something

When a rule that is put together from others finds something, and what is left then.  Proofs about
the parser take a successful run apart with these equivalences.

## Main definitions

* `headOperator?` — the operator that a list of tokens begins with

## Main statements

* `Parsed.bind_eq_done_iff`, `Parsed.map_eq_done_iff` — rules one after another
* `expect_eq_done_iff` — single tokens
* `Lexer.tokenize_eq_ok` — the tokens of a text end in their only end mark
* `Parser.fill_of_tokenize`, `Parser.fst_apply` — a parser that has no tokens yet
* `Parser.query_of_tokenize`, `Parser.query_eq_ok_iff` — queries
-/

namespace TablePipeline

namespace Parsed

variable {α β : Type} {a a' : α} {b : β} {rest rest' : List Token} {c : Complaint}

theorem done_eq_done_iff : done a rest = done a' rest' ↔ a = a' ∧ rest = rest' := by
  constructor
  · intro h
    cases h
    exact ⟨rfl, rfl⟩
  · rintro ⟨rfl, rfl⟩
    rfl

theorem refuse_ne_done : refuse c rest ≠ done a rest' := by
  intro h
  cases h

theorem done_ne_refuse : done a rest ≠ refuse c rest' :=
  refuse_ne_done.symm

theorem bind_eq_done_iff {p : Parsed α} {next : α → List Token → Parsed β} :
    p.bind next = done b rest ↔ ∃ a mid, p = done a mid ∧ next a mid = done b rest := by
  constructor
  · intro h
    rcases p.eq_done_or_refuse with ⟨a, mid, rfl⟩ | ⟨c, mid, rfl⟩
    · exact ⟨a, mid, rfl, h⟩
    · exact absurd h refuse_ne_done
  · rintro ⟨a, mid, rfl, h⟩
    exact h

theorem map_eq_done_iff {p : Parsed α} {f : α → β} :
    p.map f = done b rest ↔ ∃ a, p = done a rest ∧ f a = b := by
  rw [map, bind_eq_done_iff]
  constructor
  · rintro ⟨a, mid, hp, h⟩
    obtain ⟨rfl, rfl⟩ := done_eq_done_iff.1 h
    exact ⟨a, hp, rfl⟩
  · rintro ⟨a, hp, rfl⟩
    exact ⟨a, rest, hp, rfl⟩

theorem refuse_eq_refuse_iff {c' : Complaint} :
    (refuse c rest : Parsed α) = refuse c' rest' ↔ c = c' ∧ rest = rest' := by
  constructor
  · intro h
    cases h
    exact ⟨rfl, rfl⟩
  · rintro ⟨rfl, rfl⟩
    rfl

/-- Either the first rule cannot go on, or it finds something and the second one cannot. -/
theorem bind_eq_refuse_iff {p : Parsed α} {next : α → List Token → Parsed β} :
    p.bind next = refuse c rest ↔
      p = refuse c rest ∨ ∃ a mid, p = done a mid ∧ next a mid = refuse c rest := by
  constructor
  · intro h
    rcases p.eq_done_or_refuse with ⟨a, mid, rfl⟩ | ⟨c', mid, rfl⟩
    · exact .inr ⟨a, mid, rfl, h⟩
    · obtain ⟨rfl, rfl⟩ := refuse_eq_refuse_iff.1 h
      exact .inl rfl
  · rintro (rfl | ⟨a, mid, rfl, h⟩)
    · rfl
    · exact h

theorem map_eq_refuse_iff {p : Parsed α} {f : α → β} :
    p.map f = refuse c rest ↔ p = refuse c rest := by
  rw [map, bind_eq_refuse_iff]
  exact or_iff_left fun ⟨_, _, _, h⟩ => done_ne_refuse h

/-- What a rule found, when the tokens that are left do not matter. -/
theorem outcome_eq_ok_iff {p : Parsed α} : p.outcome = .ok a ↔ ∃ rest, p = done a rest := by
  constructor
  · intro h
    exact ⟨p.rest, by rw [done, ← h]⟩
  · rintro ⟨rest, rfl⟩
    rfl

end Parsed

variable {kind : Token.Kind} {expected : Expected} {t : Token} {ts rest : List Token}

/-- One token is taken exactly if it is there and has the kind. -/
theorem expect_eq_done_iff :
    expect kind expected ts = .done t rest ↔ ts = t :: rest ∧ t.kind = kind := by
  cases ts with
  | nil =>
    rw [expect_nil]
    constructor
    · intro h
      exact absurd h Parsed.refuse_ne_done
    · rintro ⟨h, -⟩
      cases h
  | cons u us =>
    rw [expect_cons]
    by_cases hu : u.kind = kind
    · rw [if_pos hu, Parsed.done_eq_done_iff]
      constructor
      · rintro ⟨rfl, rfl⟩
        exact ⟨rfl, hu⟩
      · rintro ⟨h, -⟩
        cases h
        exact ⟨rfl, rfl⟩
    · rw [if_neg hu]
      constructor
      · intro h
        exact absurd h Parsed.refuse_ne_done
      · rintro ⟨h, hkind⟩
        cases h
        exact absurd hkind hu

/-- A token that is not the one that is needed is left where it is. -/
theorem eq_of_expect_eq_refuse {c : Complaint} (h : expect kind expected ts = .refuse c rest) :
    c = .unexpected expected ∧ rest = ts := by
  cases ts with
  | nil =>
    obtain ⟨rfl, rfl⟩ := Parsed.refuse_eq_refuse_iff.1 h
    exact ⟨rfl, rfl⟩
  | cons u us =>
    rw [expect_cons] at h
    by_cases hu : u.kind = kind
    · rw [if_pos hu] at h
      exact absurd h Parsed.done_ne_refuse
    · rw [if_neg hu] at h
      obtain ⟨rfl, rfl⟩ := Parsed.refuse_eq_refuse_iff.1 h
      exact ⟨rfl, rfl⟩

theorem expect_of_kind (h : t.kind = kind) : expect kind expected (t :: rest) = .done t rest :=
  expect_eq_done_iff.2 ⟨rfl, h⟩

/-- The tokens of a text end in an end mark, and there is no other. -/
theorem Lexer.tokenize_eq_ok {l : Lexer} {tokens : List Token} (h : l.tokenize.1 = .ok tokens) :
    ∃ body mark, tokens = body ++ [mark] ∧ mark.kind = .finish ∧
      ∀ t ∈ body, t.kind ≠ .finish := by
  fun_induction Lexer.tokenize l generalizing tokens with
  | case1 l e stopped _ => cases h
  | case2 l t following _ hfinish =>
    cases h
    exact ⟨[], t, rfl, hfinish, nofun⟩
  | case3 l t following _ hkind more stopped hmore ih =>
    cases hm : more with
    | error e =>
      rw [hm] at h
      cases h
    | ok rest =>
      rw [hm] at h
      cases h
      obtain ⟨body, mark, rfl, hmark, hbody⟩ := ih (by rw [hmore, hm])
      refine ⟨t :: body, mark, rfl, hmark, fun u hu => ?_⟩
      rcases List.mem_cons.1 hu with rfl | hu
      · exact hkind
      · exact hbody u hu

/-- A parser without tokens asks its lexer for them. -/
theorem Parser.fill_of_tokenize {l : Lexer} {tokens : List Token} {cursor : Nat}
    (h : l.tokenize.1 = .ok tokens) :
    (Parser.mk l [] cursor).fill = (.ok (), ⟨l.tokenize.2, tokens, 0⟩) := by
  have htokens : l.tokenize = (.ok tokens, l.tokenize.2) := Prod.ext h rfl
  rw [Parser.fill]
  simp only [List.isEmpty_nil, if_true]
  rw [htokens]

/-- A rule is applied to the tokens before the end mark, and complains of the first that it has
left. -/
theorem Parser.fst_apply {α : Type} (l : Lexer) (body : List Token) (mark : Token)
    (rule : List Token → Parsed α) :
    ((Parser.mk l (body ++ [mark]) 0).apply rule).1 =
      (rule body).outcome.mapError (.refused · ((rule body).rest.head?.getD mark)) := by
  have hupcoming : (Parser.mk l (body ++ [mark]) 0).upcoming = body := by
    rw [Parser.upcoming, List.drop_zero, List.dropLast_concat]
  have hmark : (Parser.mk l (body ++ [mark]) 0).endMark = mark := by
    rw [Parser.endMark, List.getLast?_concat, Option.getD_some]
  simp only [Parser.apply, hupcoming, hmark]

/-- A rule finds what it finds before the end mark. -/
theorem Parser.apply_eq_ok_iff {α : Type} {l : Lexer} {body : List Token} {mark : Token}
    {rule : List Token → Parsed α} {a : α} :
    ((Parser.mk l (body ++ [mark]) 0).apply rule).1 = .ok a ↔ (rule body).outcome = .ok a := by
  rw [Parser.fst_apply]
  exact mapError_eq_ok_iff

section Queries

variable {l behind : Lexer} {source : Token} {tokens : List Token}

/-- Behind the name of a source the operations are read. -/
theorem Parser.query_of_tokenize (hsource : l.source = (.ok source, behind))
    (hname : source.text ≠ "") (htokens : behind.tokenize.1 = .ok tokens) :
    (Parser.mk l [] 0).query.1 =
      ((Parser.mk behind.tokenize.2 tokens 0).apply parseOperations).1.map (⟨source.text, ·⟩) := by
  have hnonempty : source.text.isEmpty = false := by
    simpa [String.isEmpty_iff] using hname
  rw [Parser.query, hsource]
  simp only [hnonempty, Bool.false_eq_true, if_false]
  rw [Parser.fill_of_tokenize htokens]

/-- No operations are read where there are no tokens. -/
theorem Parser.query_of_lexical {e : LexError} (hsource : l.source = (.ok source, behind))
    (hname : source.text ≠ "") (htokens : behind.tokenize.1 = .error e) :
    (Parser.mk l [] 0).query.1 = .error (.lexical e) := by
  have hnonempty : source.text.isEmpty = false := by
    simpa [String.isEmpty_iff] using hname
  have htokens' : behind.tokenize = (.error e, behind.tokenize.2) := Prod.ext htokens rfl
  rw [Parser.query, hsource]
  simp only [hnonempty, Bool.false_eq_true, if_false]
  rw [Parser.fill]
  simp only [List.isEmpty_nil, if_true]
  rw [htokens']

/-- Where a token is refused, the name of a source has been read. -/
theorem Parser.exists_source {c : Complaint} {found : Token}
    (h : (Parser.mk l [] 0).query.1 = .error (.refused c found)) :
    ∃ source behind, l.source = (.ok source, behind) ∧ source.text ≠ "" := by
  rw [Parser.query] at h
  rcases hsource : l.source with ⟨e | source, behind⟩
  · rw [hsource] at h
    cases h
  · rw [hsource] at h
    by_cases hname : source.text.isEmpty = true
    · simp only [if_pos hname] at h
      cases h
    · exact ⟨source, behind, rfl, by simpa [String.isEmpty_iff] using hname⟩

/-- A query is the name of a source and what the tokens behind it are read as. -/
theorem Parser.query_eq_ok_iff {q : Query} (hsource : l.source = (.ok source, behind))
    (hname : source.text ≠ "") :
    (Parser.mk l [] 0).query.1 = .ok q ↔
      ∃ body mark, behind.tokenize.1 = .ok (body ++ [mark]) ∧
        (parseOperations body).outcome = .ok q.operations ∧ q.source = source.text := by
  constructor
  · intro h
    cases htokens : behind.tokenize.1 with
    | error e =>
      rw [Parser.query_of_lexical hsource hname htokens] at h
      cases h
    | ok tokens =>
      obtain ⟨body, mark, rfl, -, -⟩ := Lexer.tokenize_eq_ok htokens
      rw [Parser.query_of_tokenize hsource hname htokens, Parser.fst_apply] at h
      cases hops : (parseOperations body).outcome with
      | error c =>
        rw [hops] at h
        cases h
      | ok ops =>
        rw [hops] at h
        cases h
        exact ⟨body, mark, rfl, hops, rfl⟩
  · rintro ⟨body, mark, htokens, hops, hq⟩
    rw [Parser.query_of_tokenize hsource hname htokens, Parser.apply_eq_ok_iff.2 hops, ← hq]
    rfl

end Queries

/-- The operator that a list of tokens begins with. -/
def headOperator? (ts : List Token) : Option BinaryOp :=
  ts.head?.bind fun t => operatorOf? t.kind

end TablePipeline
