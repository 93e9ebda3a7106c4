import TablePipeline.Query.ExprParser

/-!
# The grammar of operations

An operation begins with its name and goes on with a count, a list of names, an expression between
braces or a list of assignments.  Operations are separated by bars.

## Main definitions

* `takeNames`, `parsePairs`, `parseAssignments` — the parts of operations
* `parseOperation` — one operation
* `parseOperations` — bars and operations, up to the end of the query
-/

namespace TablePipeline

/-- Takes a count. -/
def parseCount (operation : String) (ts : List Token) : Parsed Nat :=
  (expect .integer (.count operation) ts).bind fun t rest =>
    match readCount? t.text.toList with
    | some n => .done n rest
    | none => .refuse (.invalidInteger t.text t.position) rest

/-- Takes names as long as there are any. -/
def takeNames (ts : List Token) : Parsed (List String) :=
  .done ((ts.takeWhile (·.kind.isName)).map (·.text)) (ts.dropWhile (·.kind.isName))

/-- Takes one or more names. -/
def requireNames (operation : String) (ts : List Token) : Parsed (List String) :=
  (takeNames ts).bind fun names rest =>
    if names.isEmpty then .refuse (.missingColumns operation) rest else .done names rest

/-- Takes an expression between braces. -/
def parseFilter (ts : List Token) : Parsed Operation :=
  (expect .leftBrace .filterBody ts).bind fun _ ts =>
    (parseExpression ts).bind fun condition ts =>
      (expect .rightBrace .filterEnd ts).bind fun _ ts => .done (.filter condition) ts

/-- Takes the name of a nested column behind `as`, if there is an `as`. -/
def parseNestedName (ts : List Token) : Parsed String :=
  match ts with
  | [] => .done defaultNested []
  | t :: rest =>
    if t.kind = .as then expectName .nestedName rest else .done defaultNested (t :: rest)

/-- Takes the columns of a group and the name of its nested column. -/
def parseGroup (ts : List Token) : Parsed Operation :=
  (requireNames "group" ts).bind fun columns ts =>
    (parseNestedName ts).bind fun nested ts => .done (.group columns nested) ts

/-- Takes pairs of an old and a new name as long as there are names. -/
def parsePairs : List Token → Parsed (List RenamePair)
  | [] => .done [] []
  | [old] =>
    if old.kind.isName then .refuse (.unexpected (.newName old.text)) [] else .done [] [old]
  | old :: new :: rest =>
    if old.kind.isName then
      if new.kind.isName then (parsePairs rest).map (⟨old.text, new.text⟩ :: ·)
      else .refuse (.unexpected (.newName old.text)) (new :: rest)
    else .done [] (old :: new :: rest)

/-- Takes one or more pairs of an old and a new name. -/
def parseRename (ts : List Token) : Parsed Operation :=
  (parsePairs ts).bind fun pairs rest =>
    if pairs.isEmpty then .refuse .missingRenamePair rest else .done (.rename pairs) rest

/-- Takes a column, an equals sign and an expression. -/
def parseAssignment (ts : List Token) : Parsed Assignment :=
  (expectName .assignedColumn ts).bind fun column ts =>
    (expect .assign (.assignSign column) ts).bind fun _ ts =>
      (parseExpression ts).bind fun expr ts => .done ⟨column, expr⟩ ts

theorem length_rest_parseAssignment (ts : List Token) :
    (parseAssignment ts).rest.length ≤ ts.length := by
  refine Parsed.length_rest_bind (length_rest_expectName _ _) fun column rest h => ?_
  refine Parsed.length_rest_bind (Nat.le_trans (length_rest_expect _ _ _) h) fun _ rest h => ?_
  exact Parsed.length_rest_bind (Nat.le_trans (length_rest_parseExpression _) h) fun _ rest h => h

/-- Takes one or more assignments with commas between them. -/
def parseAssignments (ts : List Token) : Parsed (List Assignment) :=
  match _h : parseAssignment ts with
  | ⟨.error c, rest⟩ => .refuse c rest
  | ⟨.ok first, []⟩ => .done [first] []
  | ⟨.ok first, t :: rest⟩ =>
    if t.kind = .comma then (parseAssignments rest).map (first :: ·)
    else .done [first] (t :: rest)
termination_by ts.length
decreasing_by
  have hle := length_rest_parseAssignment ts
  rw [_h] at hle
  exact hle

/-- Whether a reduction begins with the name of its nested column: two names and an equals sign. -/
def namesNested : List Token → Bool
  | a :: b :: c :: _ => a.kind.isName && b.kind.isName && c.kind == .assign
  | _ => false

/-- Takes the nested column of a reduction, if it is named, and its assignments. -/
def parseReduce (ts : List Token) : Parsed Operation :=
  let (nested, rest) :=
    match ts with
    | [] => (defaultNested, [])
    | t :: rest => if namesNested (t :: rest) then (t.text, rest) else (defaultNested, t :: rest)
  (parseAssignments rest).map (.reduce nested)

/-- Takes what follows the name of an operation. -/
def parseOperationBody (name : Token) (ts : List Token) : Parsed Operation :=
  match name.text with
  | "head" => (parseCount "head" ts).map .head
  | "tail" => (parseCount "tail" ts).map .tail
  | "sorta" => (requireNames "sorta" ts).map .sortAscending
  | "sortd" => (requireNames "sortd" ts).map .sortDescending
  | "select" => (requireNames "select" ts).map .select
  | "remove" => (requireNames "remove" ts).map .remove
  | "distinct" => (takeNames ts).map .distinct
  | "filter" => parseFilter ts
  | "group" => parseGroup ts
  | "transform" => (parseAssignments ts).map .transform
  | "reduce" => parseReduce ts
  | "count" => .done .count ts
  | "rename" => parseRename ts
  | _ => .refuse (.unknownOperation name.text name.position) ts

/-- Takes an operation. -/
def parseOperation (ts : List Token) : Parsed Operation :=
  (expect .name .operationName ts).bind parseOperationBody

/-! ## No operation leaves more than it was given -/

theorem length_rest_parseCount (operation : String) (ts : List Token) :
    (parseCount operation ts).rest.length ≤ ts.length := by
  refine Parsed.length_rest_bind (length_rest_expect _ _ _) fun t rest h => ?_
  split <;> exact h

theorem length_rest_takeNames (ts : List Token) : (takeNames ts).rest.length ≤ ts.length :=
  (List.dropWhile_sublist _).length_le

theorem length_rest_requireNames (operation : String) (ts : List Token) :
    (requireNames operation ts).rest.length ≤ ts.length := by
  refine Parsed.length_rest_bind (length_rest_takeNames _) fun names rest h => ?_
  split <;> exact h

theorem length_rest_parseFilter (ts : List Token) :
    (parseFilter ts).rest.length ≤ ts.length := by
  refine Parsed.length_rest_bind (length_rest_expect _ _ _) fun _ rest h => ?_
  refine Parsed.length_rest_bind (Nat.le_trans (length_rest_parseExpression _) h) fun _ rest h => ?_
  exact Parsed.length_rest_bind (Nat.le_trans (length_rest_expect _ _ _) h) fun _ rest h => h

theorem length_rest_parseNestedName (ts : List Token) :
    (parseNestedName ts).rest.length ≤ ts.length := by
  unfold parseNestedName
  split
  · exact Nat.le_refl _
  · split
    · exact Nat.le_trans (length_rest_expectName _ _) (Nat.le_succ _)
    · exact Nat.le_refl _

theorem length_rest_parseGroup (ts : List Token) :
    (parseGroup ts).rest.length ≤ ts.length := by
  refine Parsed.length_rest_bind (length_rest_requireNames _ _) fun columns rest h => ?_
  exact Parsed.length_rest_bind (Nat.le_trans (length_rest_parseNestedName _) h) fun _ rest h => h

theorem length_rest_parsePairs (ts : List Token) :
    (parsePairs ts).rest.length ≤ ts.length := by
  fun_induction parsePairs ts with
  | case4 old new rest _ _ ih =>
    rw [Parsed.rest_map]
    simp only [List.length_cons]
    omega
  | _ => simp [Parsed.done, Parsed.refuse]

theorem length_rest_parseRename (ts : List Token) :
    (parseRename ts).rest.length ≤ ts.length := by
  refine Parsed.length_rest_bind (length_rest_parsePairs _) fun pairs rest h => ?_
  split <;> exact h

theorem length_rest_parseAssignments (ts : List Token) :
    (parseAssignments ts).rest.length ≤ ts.length := by
  fun_induction parseAssignments ts with
  | case1 ts c rest h =>
    have hle := length_rest_parseAssignment ts
    rwa [h] at hle
  | case2 => simp [Parsed.done]
  | case3 ts first t rest h _ ih =>
    have hle := length_rest_parseAssignment ts
    rw [h] at hle
    rw [Parsed.rest_map]
    simp only [List.length_cons] at hle
    omega
  | case4 ts first t rest h =>
    have hle := length_rest_parseAssignment ts
    rwa [h] at hle

theorem length_rest_parseReduce (ts : List Token) :
    (parseReduce ts).rest.length ≤ ts.length := by
  unfold parseReduce
  simp only [Parsed.rest_map]
  refine Nat.le_trans (length_rest_parseAssignments _) ?_
  split
  · exact Nat.le_refl _
  · split
    · exact Nat.le_succ _
    · exact Nat.le_refl _

theorem length_rest_parseOperationBody (name : Token) (ts : List Token) :
    (parseOperationBody name ts).rest.length ≤ ts.length := by
  unfold parseOperationBody
  split <;>
    simp only [Parsed.rest_map, length_rest_parseCount, length_rest_requireNames,
      length_rest_takeNames, length_rest_parseFilter, length_rest_parseGroup,
      length_rest_parseAssignments, length_rest_parseReduce, length_rest_parseRename,
      Parsed.done, Parsed.refuse, Nat.le_refl]

theorem length_rest_parseOperation (ts : List Token) :
    (parseOperation ts).rest.length ≤ ts.length :=
  Parsed.length_rest_bind (length_rest_expect _ _ _) fun _ _ h =>
    Nat.le_trans (length_rest_parseOperationBody _ _) h

/-- Takes bars and operations up to the end of the query. -/
def parseOperations (ts : List Token) : Parsed (List Operation) :=
  match ts with
  | [] => .done [] []
  | t :: body =>
    if t.kind = .pipe then
      match _h : parseOperation body with
      | ⟨.error c, rest⟩ => .refuse c rest
      | ⟨.ok operation, rest⟩ => (parseOperations rest).map (operation :: ·)
    else .refuse (.unexpected .pipeOrEnd) (t :: body)
termination_by ts.length
decreasing_by
  have hle := length_rest_parseOperation body
  rw [_h] at hle
  exact Nat.lt_succ_of_le hle

/-- Takes an expression that spans all tokens. -/
def parseWholeExpression (ts : List Token) : Parsed Expr :=
  (parseExpression ts).bind fun e rest =>
    if rest.isEmpty then .done e rest else .refuse (.unexpected .endOfExpression) rest

end TablePipeline
