import TablePipeline.Proofs.Query.Follows
import TablePipeline.Proofs.Query.Steady

/-!
# Every rule is followed by its walk

The walks of the grammar follow the rules of the same names, if they may go deep enough, and four
levels for each token are enough.  The walks of expressions call each other one level further down,
so they are shown to follow their rules all at once, by induction on the depth (`FollowsAt`).  What
is needed of the tokens is only that a rule behind another one has no more of them, and fewer when a
token was taken in between.

## Main definitions

* `FollowsAt` — the walks of expressions follow their rules at a given depth
* `kindAt` — the kinds that a look ahead finds

## Main statements

* `followsAt` — expressions
* `follows_operation` — operations
* `follows_operations`, `follows_wholeExpression` — all that is to come
-/

namespace TablePipeline

section Expressions

/-- The walks of expressions follow their rules where the depth is enough for the tokens to come.
A walk that calls another one without taking a token needs more than the other. -/
structure FollowsAt (depth : Nat) : Prop where
  expression : ∀ ts : List Token, 4 * ts.length + 4 ≤ depth →
    Follows (Walk.expression depth) ts (parseExpression ts)
  suffix : ∀ (operand : Expr) (ts : List Token), 4 * ts.length + 3 ≤ depth →
    Follows (Walk.suffix depth operand) ts (parseSuffix operand ts)
  binary : ∀ (least : Nat) (left : Expr) (ts : List Token), 4 * ts.length + 3 ≤ depth →
    Follows (Walk.binary depth least left) ts (parseBinary least left ts)
  unary : ∀ ts : List Token, 4 * ts.length + 2 ≤ depth →
    Follows (Walk.unary depth) ts (parseUnary ts)
  primary : ∀ (t : Token) (ts : List Token), 4 * ts.length + 5 ≤ depth →
    Follows (Walk.primary depth) (t :: ts) (parsePrimary t ts)
  call : ∀ (function : String) (opening : Token) (ts : List Token), 4 * ts.length + 6 ≤ depth →
    Follows (Walk.call depth function) (opening :: ts) (parseCall function ts)
  arguments : ∀ ts : List Token, 4 * ts.length + 5 ≤ depth →
    Follows (Walk.arguments depth) ts (parseArguments ts)

variable {depth : Nat}

/-- What stands behind `is`: the word `null`, or `not` and then `null`. -/
theorem follows_nullTest (ts : List Token) : Follows Walk.nullTest ts (parseNullTest ts) := by
  cases ts with
  | nil =>
    refine follows_check_nil (by decide) ?_
    exact (follows_expect (by decide) .nullAfterIs []).map fun _ => false
  | cons t rest =>
    rw [parseNullTest_cons]
    refine follows_check_cons (by decide) (fun _ => follows_advance ?_) fun _ => ?_
    · exact (follows_expect (by decide) .nullAfterIsNot rest).map fun _ => true
    · exact (follows_expect (by decide) .nullAfterIs (t :: rest)).map fun _ => false

/-- An expression is an operand, the chain of operators behind it, and the null tests behind the
chain. -/
theorem FollowsAt.expression_succ (ih : FollowsAt depth) (ts : List Token)
    (h : 4 * ts.length + 4 ≤ depth + 1) :
    Follows (Walk.expression (depth + 1)) ts (parseExpression ts) := by
  rw [Walk.expression, parseExpression_eq]
  refine (ih.unary ts (by omega)).bind fun first rest _ hrest => ?_
  have hrest := hrest.length_le
  refine (ih.binary 1 first rest (by omega)).bind fun chain rest' _ hrest' => ?_
  have hrest' := hrest'.length_le
  exact ih.suffix chain rest' (by omega)

/-- A null test takes what was read so far for its operand, and the chain goes on behind it. -/
theorem FollowsAt.suffix_succ (ih : FollowsAt depth) (operand : Expr) (ts : List Token)
    (h : 4 * ts.length + 3 ≤ depth + 1) :
    Follows (Walk.suffix (depth + 1) operand) ts (parseSuffix operand ts) := by
  rw [Walk.suffix]
  cases ts with
  | nil =>
    rw [parseSuffix_nil]
    exact follows_check_nil (by decide) (follows_pure operand [])
  | cons t ts =>
    rw [parseSuffix_cons]
    rw [List.length_cons] at h
    refine follows_check_cons (by decide) (fun _ => follows_advance ?_) fun _ =>
      follows_pure operand (t :: ts)
    refine (follows_nullTest ts).bind fun negated rest _ hrest => ?_
    have hrest := hrest.length_le
    refine (ih.binary 1 _ rest (by omega)).bind fun chain rest' _ hrest' => ?_
    have hrest' := hrest'.length_le
    exact ih.suffix chain rest' (by omega)

/-- An operator that binds too loosely stays where it is.  Behind any other one there is an operand
with the operators that bind more tightly, and the chain goes on from there. -/
theorem FollowsAt.binary_succ (ih : FollowsAt depth) (least : Nat) (left : Expr) (ts : List Token)
    (h : 4 * ts.length + 3 ≤ depth + 1) :
    Follows (Walk.binary (depth + 1) least left) ts (parseBinary least left ts) := by
  rw [Walk.binary]
  cases ts with
  | nil =>
    refine follows_peek_nil fun mark hmark => ?_
    rw [hmark, parseBinary_nil]
    exact follows_pure left []
  | cons t ts =>
    rw [parseBinary_cons]
    rw [List.length_cons] at h
    refine follows_peek_cons ?_
    cases operatorOf? t.kind with
    | none => exact follows_pure left (t :: ts)
    | some op =>
      simp only
      split
      · exact follows_pure left (t :: ts)
      · refine follows_advance ?_
        refine (ih.unary ts (by omega)).bind fun operand rest _ hrest => ?_
        have hrest := hrest.length_le
        refine (ih.binary _ operand rest (by omega)).bind fun right rest' _ hrest' => ?_
        have hrest' := hrest'.length_le
        exact ih.binary _ _ rest' (by omega)

/-- At the end mark there is no operand. -/
theorem follows_primary_nil (depth : Nat) :
    Follows (Walk.primary (depth + 1)) [] (.refuse (.unexpected .expression) []) := by
  rw [Walk.primary]
  refine follows_peek_nil fun mark hmark => ?_
  simp only [literalOf?, hmark]
  exact follows_unexpected .expression []

/-- Signs are taken one by one down to the operand. -/
theorem FollowsAt.unary_succ (ih : FollowsAt depth) (ts : List Token)
    (h : 4 * ts.length + 2 ≤ depth + 1) :
    Follows (Walk.unary (depth + 1)) ts (parseUnary ts) := by
  rw [Walk.unary]
  cases ts with
  | nil =>
    obtain ⟨below, rfl⟩ : ∃ below, depth = below + 1 := ⟨depth - 1, by omega⟩
    refine follows_peek_nil fun mark hmark => ?_
    rw [hmark, parseUnary_nil]
    exact follows_primary_nil below
  | cons t ts =>
    rw [parseUnary_cons]
    rw [List.length_cons] at h
    refine follows_peek_cons ?_
    cases signOf? t.kind with
    | none => exact ih.primary t ts (by omega)
    | some op => exact follows_advance ((ih.unary ts (by omega)).map (Expr.unary op))

/-- Both look at the kind of the first token, and at a name also for a parenthesis behind it. -/
theorem FollowsAt.primary_succ (ih : FollowsAt depth) (t : Token) (ts : List Token)
    (h : 4 * ts.length + 5 ≤ depth + 1) :
    Follows (Walk.primary (depth + 1)) (t :: ts) (parsePrimary t ts) := by
  rw [parsePrimary_eq]
  cases hliteral : literalOf? t with
  | some outcome =>
    rw [Walk.primary]
    refine follows_peek_cons ?_
    cases outcome with
    | ok l =>
      simp only [hliteral]
      exact follows_advance (follows_pure (Expr.literal l) ts)
    | error c =>
      simp only [hliteral]
      exact follows_advance (follows_complain c ts)
  | none =>
    simp only
    split
    -- the walk goes by the same kind as the rule
    all_goals
      rename_i hkind
      rw [Walk.primary]
      refine follows_peek_cons ?_
      simp only [hliteral, hkind]
    · exact follows_advance (follows_pure (Expr.column t.text) ts)
    · refine follows_advance ?_
      cases ts with
      | nil => exact follows_check_nil (by decide) (follows_pure (Expr.column t.text) [])
      | cons p inner =>
        rw [List.length_cons] at h
        exact follows_check_cons (by decide) (fun _ => ih.call _ p inner (by omega)) fun _ =>
          follows_pure (Expr.column t.text) (p :: inner)
    · refine follows_advance ((ih.expression ts (by omega)).bind fun inner rest _ _ => ?_)
      exact (follows_expect (by decide) .groupEnd rest).map fun _ => inner
    · exact follows_unexpected .expression (t :: ts)

/-- The walk of a call is still at the opening parenthesis, which the rule has behind it. -/
theorem FollowsAt.call_succ (ih : FollowsAt depth) (function : String) (opening : Token)
    (ts : List Token) (h : 4 * ts.length + 6 ≤ depth + 1) :
    Follows (Walk.call (depth + 1) function) (opening :: ts) (parseCall function ts) := by
  rw [Walk.call, parseCall_eq]
  refine follows_advance (follows_check (by decide) ?_)
  split
  · exact (follows_expect (by decide) (.callEnd function) ts).map fun _ => Expr.call function []
  · refine (ih.arguments ts (by omega)).bind fun arguments rest _ _ => ?_
    exact (follows_expect (by decide) (.callEnd function) rest).map fun _ =>
      Expr.call function arguments

/-- Behind a comma the arguments begin anew. -/
theorem FollowsAt.arguments_succ (ih : FollowsAt depth) (ts : List Token)
    (h : 4 * ts.length + 5 ≤ depth + 1) :
    Follows (Walk.arguments (depth + 1)) ts (parseArguments ts) := by
  rw [Walk.arguments, parseArguments_eq]
  refine (ih.expression ts (by omega)).bind fun first rest _ hrest => ?_
  have hrest := hrest.length_le
  cases rest with
  | nil => exact follows_check_nil (by decide) (follows_pure [first] [])
  | cons t rest =>
    rw [List.length_cons] at hrest
    refine follows_check_cons (by decide) (fun _ => follows_advance ?_) fun _ =>
      follows_pure [first] (t :: rest)
    exact (ih.arguments rest (by omega)).map (first :: ·)

/-- **The walks of expressions follow their rules.** -/
theorem followsAt (depth : Nat) : FollowsAt depth := by
  induction depth with
  | zero =>
    -- no list of tokens is short enough
    constructor <;> intros <;> omega
  | succ depth ih =>
    exact ⟨ih.expression_succ, ih.suffix_succ, ih.binary_succ, ih.unary_succ, ih.primary_succ,
      ih.call_succ, ih.arguments_succ⟩

end Expressions

section Operations

variable {depth : Nat} {ts : List Token}

/-- The token of a count is taken before its text is converted, so a complaint about the text is
made behind it. -/
theorem follows_count (operation : String) (ts : List Token) :
    Follows (Walk.count operation) ts (parseCount operation ts) := by
  refine (follows_expect (by decide) (.count operation) ts).bind fun t rest _ _ => ?_
  cases readCount? t.text.toList with
  | some n => exact follows_pure n rest
  | none => exact follows_complain _ rest

/-- The rule takes all the names at once, the walk one by one. -/
theorem follows_names (h : ts.length < depth) : Follows (Walk.names depth) ts (takeNames ts) := by
  induction depth generalizing ts with
  | zero => omega
  | succ depth ih =>
    rw [Walk.names]
    cases ts with
    | nil =>
      refine follows_peek_nil fun mark hmark => ?_
      rw [hmark]
      exact follows_pure [] []
    | cons t ts =>
      refine follows_peek_cons ?_
      by_cases ht : t.kind.isName = true
      · have hnames : takeNames (t :: ts) = (takeNames ts).map (t.text :: ·) := by
          rw [takeNames, List.takeWhile_cons, List.dropWhile_cons, if_pos ht, if_pos ht]
          rfl
        rw [if_pos ht, hnames]
        exact follows_advance ((ih (Nat.lt_of_succ_lt_succ h)).map (t.text :: ·))
      · have hnames : takeNames (t :: ts) = .done [] (t :: ts) := by
          rw [takeNames, List.takeWhile_cons, List.dropWhile_cons, if_neg ht, if_neg ht]
          rfl
        rw [if_neg ht, hnames]
        exact follows_pure [] (t :: ts)

/-- That there are no names is a complaint where they end. -/
theorem follows_requiredNames (operation : String) (h : ts.length < depth) :
    Follows (Walk.requiredNames depth operation) ts (requireNames operation ts) := by
  refine (follows_names h).bind fun names rest _ _ => ?_
  split
  · exact follows_complain _ rest
  · exact follows_pure names rest

theorem follows_filter (h : 4 * ts.length + 4 ≤ depth) :
    Follows (Walk.filter depth) ts (parseFilter ts) := by
  refine (follows_expect (by decide) .filterBody ts).bind fun _ rest _ hrest => ?_
  have hrest := hrest.length_le
  refine ((followsAt depth).expression rest (by omega)).bind fun condition rest _ _ => ?_
  exact (follows_expect (by decide) .filterEnd rest).map fun _ => Operation.filter condition

theorem follows_nestedName (ts : List Token) :
    Follows Walk.nestedName ts (parseNestedName ts) := by
  cases ts with
  | nil => exact follows_check_nil (by decide) (follows_pure defaultNested [])
  | cons t rest =>
    refine follows_check_cons (by decide) (fun _ => follows_advance ?_) fun _ =>
      follows_pure defaultNested (t :: rest)
    exact follows_expectName .nestedName rest

theorem follows_group (h : ts.length < depth) :
    Follows (Walk.group depth) ts (parseGroup ts) := by
  refine (follows_requiredNames "group" h).bind fun columns rest _ _ => ?_
  exact (follows_nestedName rest).map (Operation.group columns)

/-- The pairs, read name by name as the walk reads them. -/
theorem parsePairs_cons (old : Token) (ts : List Token) :
    parsePairs (old :: ts) =
      if old.kind.isName then
        (expectName (.newName old.text) ts).bind fun new rest =>
          (parsePairs rest).map (⟨old.text, new⟩ :: ·)
      else .done [] (old :: ts) := by
  cases ts with
  | nil => rfl
  | cons new rest =>
    rw [parsePairs, expectName]
    cases new.kind.isName <;> rfl

/-- An old name is taken before a new one is asked for. -/
theorem follows_pairs (h : ts.length < depth) :
    Follows (Walk.pairs depth) ts (parsePairs ts) := by
  induction depth generalizing ts with
  | zero => omega
  | succ depth ih =>
    rw [Walk.pairs]
    cases ts with
    | nil =>
      refine follows_peek_nil fun mark hmark => ?_
      rw [hmark]
      exact follows_pure [] []
    | cons old ts =>
      rw [parsePairs_cons]
      rw [List.length_cons] at h
      refine follows_peek_cons ?_
      by_cases hold : old.kind.isName = true
      · rw [if_pos hold, if_pos hold]
        refine follows_advance ?_
        refine (follows_expectName (.newName old.text) ts).bind fun new rest _ hrest => ?_
        have hless : rest.length < depth := by
          have hrest := hrest.length_le
          omega
        exact (ih hless).map (⟨old.text, new⟩ :: ·)
      · rw [if_neg hold, if_neg hold]
        exact follows_pure [] (old :: ts)

theorem follows_rename (h : ts.length < depth) :
    Follows (Walk.rename depth) ts (parseRename ts) := by
  refine (follows_pairs h).bind fun pairs rest _ _ => ?_
  split
  · exact follows_complain _ rest
  · exact follows_pure (Operation.rename pairs) rest

theorem follows_assignment (h : 4 * ts.length + 4 ≤ depth) :
    Follows (Walk.assignment depth) ts (parseAssignment ts) := by
  refine (follows_expectName .assignedColumn ts).bind fun column rest _ hrest => ?_
  have hrest := hrest.length_le
  refine (follows_expect (by decide) (.assignSign column) rest).bind fun _ rest' _ hrest' => ?_
  have hrest' := hrest'.length_le
  exact ((followsAt depth).expression rest' (by omega)).map (Assignment.mk column)

/-- Behind a comma the assignments begin anew. -/
theorem follows_assignments (h : 4 * ts.length + 5 ≤ depth) :
    Follows (Walk.assignments depth) ts (parseAssignments ts) := by
  induction depth generalizing ts with
  | zero => omega
  | succ depth ih =>
    rw [Walk.assignments, parseAssignments_eq]
    refine (follows_assignment (by omega)).bind fun first rest _ hrest => ?_
    have hrest := hrest.length_le
    cases rest with
    | nil => exact follows_check_nil (by decide) (follows_pure [first] [])
    | cons t rest =>
      rw [List.length_cons] at hrest
      refine follows_check_cons (by decide) (fun _ => follows_advance ?_) fun _ =>
        follows_pure [first] (t :: rest)
      exact (ih (by omega)).map (first :: ·)

/-- The kind of the token so many places on; behind the last there is the end mark. -/
def kindAt (ts : List Token) (offset : Nat) : Token.Kind :=
  (ts[offset]?.map (·.kind)).getD .finish

/-- Looking beyond the last token finds the end mark. -/
theorem kind_getD {mark : Token} (hmark : mark.kind = .finish) (ts : List Token) (offset : Nat) :
    (ts[offset]?.getD mark).kind = kindAt ts offset := by
  rw [kindAt]
  cases ts[offset]? with
  | none => exact hmark
  | some t => rfl

/-- The kinds of three tokens tell whether a reduction names its nested column. -/
theorem namesNested_eq (ts : List Token) :
    namesNested ts =
      ((kindAt ts 0).isName && (kindAt ts 1).isName && kindAt ts 2 == .assign) := by
  rcases ts with _ | ⟨a, _ | ⟨b, _ | ⟨c, rest⟩⟩⟩
  · rfl
  · simp [namesNested, kindAt, Token.Kind.isName]
  · simp [namesNested, kindAt]
  · rfl

/-- The walk looks at the three kinds one after another; here all are as they have to be. -/
theorem follows_reducedName_of_named {t : Token} (h : namesNested (t :: ts) = true) :
    Follows Walk.reducedName (t :: ts) (.done t.text ts) := by
  rw [namesNested_eq, Bool.and_eq_true, Bool.and_eq_true, beq_iff_eq] at h
  obtain ⟨⟨hfirst, hsecond⟩, hthird⟩ := h
  refine follows_peekAt 0 fun mark hmark => ?_
  rw [kind_getD hmark, if_pos hfirst]
  refine follows_peekAt 1 fun mark hmark => ?_
  rw [kind_getD hmark, if_pos hsecond]
  refine follows_peekAt 2 fun mark hmark => ?_
  rw [kind_getD hmark, if_pos hthird]
  exact follows_advance (follows_pure t.text ts)

/-- Wherever one of the three kinds is another, the walk stops looking and takes no token. -/
theorem follows_reducedName_of_unnamed (h : namesNested ts = false) :
    Follows Walk.reducedName ts (.done defaultNested ts) := by
  rw [namesNested_eq] at h
  refine follows_peekAt 0 fun mark hmark => ?_
  rw [kind_getD hmark]
  split
  · rename_i hfirst
    refine follows_peekAt 1 fun mark hmark => ?_
    rw [kind_getD hmark]
    split
    · rename_i hsecond
      refine follows_peekAt 2 fun mark hmark => ?_
      have hthird : kindAt ts 2 ≠ .assign := by simpa [hfirst, hsecond] using h
      rw [kind_getD hmark, if_neg hthird]
      exact follows_pure defaultNested ts
    · exact follows_pure defaultNested ts
  · exact follows_pure defaultNested ts

/-- With or without the name, assignments follow. -/
theorem follows_reduce (h : 4 * ts.length + 5 ≤ depth) :
    Follows (Walk.reduce depth) ts (parseReduce ts) := by
  have hassignments (nested : String) (rest : List Token) (hrest : rest.length ≤ ts.length) :
      Follows (Walk.assignments depth >>= fun assignments =>
          pure (Operation.reduce nested assignments)) rest
        ((parseAssignments rest).map (Operation.reduce nested)) :=
    (follows_assignments (by omega)).map (Operation.reduce nested)
  cases hnamed : namesNested ts with
  | false =>
    rw [parseReduce_of_unnamed hnamed]
    have hreduce := (follows_reducedName_of_unnamed hnamed).bind fun nested rest _ hrest =>
      hassignments nested rest hrest.length_le
    exact hreduce
  | true =>
    cases ts with
    | nil => cases hnamed
    | cons t ts =>
      rw [parseReduce_of_named hnamed]
      have hreduce := (follows_reducedName_of_named hnamed).bind fun nested rest hfound _ =>
        hassignments nested rest (by cases hfound; exact Nat.le_succ _)
      exact hreduce

theorem follows_operationBody (name : Token) (h : 4 * ts.length + 5 ≤ depth) :
    Follows (Walk.operationBody depth name) ts (parseOperationBody name ts) := by
  have hlength : ts.length < depth := by omega
  unfold parseOperationBody
  split
  -- the walk goes by the same name as the rule
  all_goals
    rename_i hname
    simp only [Walk.operationBody, hname]
  · exact (follows_count "head" ts).map Operation.head
  · exact (follows_count "tail" ts).map Operation.tail
  · exact (follows_requiredNames "sorta" hlength).map Operation.sortAscending
  · exact (follows_requiredNames "sortd" hlength).map Operation.sortDescending
  · exact (follows_requiredNames "select" hlength).map Operation.select
  · exact (follows_requiredNames "remove" hlength).map Operation.remove
  · exact (follows_names hlength).map Operation.distinct
  · exact follows_filter (by omega)
  · exact follows_group hlength
  · exact (follows_assignments h).map Operation.transform
  · exact follows_reduce h
  · exact follows_pure Operation.count ts
  · exact follows_rename hlength
  · exact follows_complain _ ts

/-- **One operation**: its name and what that name asks for. -/
theorem follows_operation (h : 4 * ts.length + 5 ≤ depth) :
    Follows (Walk.operation depth) ts (parseOperation ts) := by
  refine (follows_expect (by decide) .operationName ts).bind fun name rest _ hrest => ?_
  have hrest := hrest.length_le
  exact follows_operationBody name (by omega)

/-- **Operations**: each behind a bar, one level down for each, up to the end mark. -/
theorem follows_operations (h : 4 * ts.length + 6 ≤ depth) :
    Follows (Walk.operations depth) ts (parseOperations ts) := by
  induction depth generalizing ts with
  | zero => omega
  | succ depth ih =>
    rw [Walk.operations]
    refine follows_check (by decide) ?_
    cases ts with
    | nil =>
      rw [parseOperations_nil]
      exact follows_check_finish (follows_pure [] [])
    | cons t ts =>
      rw [nextIs]
      rw [List.length_cons] at h
      by_cases ht : t.kind = .pipe
      · rw [if_pos (beq_iff_eq.2 ht), parseOperations_cons ht]
        refine follows_advance ?_
        refine (follows_operation (by omega)).bind fun first rest _ hrest => ?_
        have hrest := hrest.length_le
        exact (ih (by omega)).map (first :: ·)
      · rw [if_neg (mt beq_iff_eq.1 ht), parseOperations, if_neg ht]
        exact follows_check_finish (follows_unexpected .pipeOrEnd (t :: ts))

/-- The walk takes the end mark, where the rule looks whether tokens are left. -/
theorem follows_expect_finish (expected : Expected) (ts : List Token) (e : Expr) :
    Follows (Walk.expect .finish expected >>= fun _ => pure e) ts
      (if ts.isEmpty then .done e ts else .refuse (.unexpected expected) ts) := by
  rw [Walk.expect, bind_assoc]
  refine follows_check_finish ?_
  cases ts with
  | nil => exact follows_advance_nil fun _ _ => follows_pure e []
  | cons t ts => exact (follows_unexpected expected (t :: ts)).map fun _ => e

/-- **A whole expression** has nothing behind it but the end mark. -/
theorem follows_wholeExpression (h : 4 * ts.length + 4 ≤ depth) :
    Follows (Walk.wholeExpression depth) ts (parseWholeExpression ts) :=
  ((followsAt depth).expression ts h).bind fun e rest _ _ =>
    follows_expect_finish .endOfExpression rest e

end Operations

end TablePipeline
