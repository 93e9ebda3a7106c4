import TablePipeline.Proofs.Query.Spans
import TablePipeline.Proofs.Query.Steady
import TablePipeline.Proofs.Query.Unfinished

/-!
# Complaints point at the first fault

When the parser complains of a token, that token stands in the text behind the name of the source,
and the tokens in front of it are the beginning of a query: with some more tokens they are read as
operations.  So the parser takes no token that already makes the query impossible, and an error
never points behind the first fault.

`Viable` states this for one rule, with the tokens that may follow it, and it is put together along
the rule.  If the first of two rules breaks off, what it took is completed and the second rule is
given the least that it can be content with.  If the second one breaks off, the first one has found
something, and it finds the same in front of what completes the second (`Steady`): it need not
matter that what really followed was at fault.

The parser looks further ahead in one place only.  A reduction names its nested column if two names
and an equals sign come first; where the equals sign is missing behind two names, the first of them
is taken for an assigned column, and it can still be one.

## Main definitions

* `Completable` — words that more words make a find of
* `Viable` — a rule takes only what can be completed
* `AcceptedTokens` — tokens that are read as operations

## Main statements

* `viable_parseOperation`, `viable_parseOperations` — operations
* `complaint_points_at_first_fault` — queries
-/

namespace TablePipeline

/-- More words, none of them an end mark, make words of these that the rule reads, whatever follows
that may follow. -/
def Completable {α : Type} (follows : List Token → Prop) (rule : List Token → Parsed α)
    (ws : List Word) : Prop :=
  ∃ more a, (∀ w ∈ more, w.kind ≠ .finish) ∧ ReadAs follows rule (ws ++ more) a

/-- Where the rule complains of a token, the tokens that it took before that one can be
completed. -/
def Viable {α : Type} (follows : List Token → Prop) (rule : List Token → Parsed α) : Prop :=
  ∀ ts c rest, rule ts = .refuse c rest → c.IsAboutToken →
    ∃ us faulty, ts = us ++ faulty ∧ c.PointsAt rest faulty ∧
      Completable follows rule (us.map Token.word)

/-! ### Rules one after another -/

section Rules

variable {α β : Type} {before after : List Token → Prop} {rule : List Token → Parsed α}
  {next : α → List Token → Parsed β} {ws ws' : List Word} {w : Word} {kind : Token.Kind}
  {expected : Expected}

theorem ne_finish_append {more more' : List Word} (h : ∀ w ∈ more, w.kind ≠ .finish)
    (h' : ∀ w ∈ more', w.kind ≠ .finish) : ∀ w ∈ more ++ more', w.kind ≠ .finish :=
  List.forall_mem_append.2 ⟨h, h'⟩

theorem ReadAs.completable {a : α} (h : ReadAs after rule ws a) : Completable after rule ws :=
  ⟨[], a, nofun, by rwa [List.append_nil]⟩

/-- A word that completes others. -/
theorem ReadAs.completable_of_append {a : α} (h : ReadAs after rule (ws ++ [w]) a)
    (hw : w.kind ≠ .finish) : Completable after rule ws :=
  ⟨[w], a, fun v hv => by rwa [List.mem_singleton.1 hv], h⟩

/-- What the first rule took is completed, and then the second rule is content. -/
theorem Completable.bind (h : Completable before rule ws)
    (hnext : ∀ a, Completable after (next a) [])
    (hfollows : ∀ a ts b rest, next a ts = .done b rest → after rest → before ts) :
    Completable after (fun ts => (rule ts).bind next) ws := by
  obtain ⟨more, a, hmore, ha⟩ := h
  obtain ⟨more', b, hmore', hb⟩ := hnext a
  refine ⟨more ++ more', b, ne_finish_append hmore hmore', ?_⟩
  rw [← List.append_assoc]
  exact ha.bind hb fun ts rest => hfollows a ts b rest

/-- The first rule has found something, and what the second one took is completed. -/
theorem ReadAs.completable_bind {a : α} (h : ReadAs before rule ws a)
    (hnext : Completable after (next a) ws')
    (hfollows : ∀ ts b rest, next a ts = .done b rest → after rest → before ts) :
    Completable after (fun ts => (rule ts).bind next) (ws ++ ws') := by
  obtain ⟨more, b, hmore, hb⟩ := hnext
  refine ⟨more, b, hmore, ?_⟩
  rw [List.append_assoc]
  exact h.bind hb fun ts rest => hfollows ts b rest

theorem Completable.map (h : Completable after rule ws) (f : α → β) :
    Completable after (fun ts => (rule ts).map f) ws := by
  refine h.bind (fun a => ReadAs.completable (readAs_nil fun _ _ => rfl)) ?_
  intro a ts b rest hb hrest
  obtain ⟨-, rfl⟩ := Parsed.done_eq_done_iff.1 hb
  exact hrest

theorem Completable.expect (h : Completable after rule ws) (hw : w.kind = kind) :
    Completable after (fun ts => (expect kind expected ts).bind fun _ => rule) (w :: ws) := by
  obtain ⟨more, a, hmore, ha⟩ := h
  exact ⟨more, a, hmore, ha.expect hw⟩

/-- A token of a given kind is all that is missing in front of a rule that is content. -/
theorem Completable.expect_nil (h : Completable after rule []) (hkind : kind ≠ .finish) :
    Completable after (fun ts => (TablePipeline.expect kind expected ts).bind fun _ => rule)
      [] := by
  obtain ⟨more, a, hmore, ha⟩ := h
  exact ⟨⟨kind, ""⟩ :: more, a, List.forall_mem_cons.2 ⟨hkind, hmore⟩, ha.expect rfl⟩

theorem viable_done (a : α) : Viable after (Parsed.done a) :=
  fun _ _ _ hc => absurd hc Parsed.done_ne_refuse

/-- **One rule after another**: the second rule is content with little, and what it takes may follow
the first. -/
theorem Viable.bind (h : Viable before rule) (hsteady : Steady before rule)
    (hnext : ∀ a, Viable after (next a)) (hcontent : ∀ a, Completable after (next a) [])
    (hfollows : ∀ a ts b rest, next a ts = .done b rest → after rest → before ts) :
    Viable after fun ts => (rule ts).bind next := by
  intro ts c rest hc habout
  rcases Parsed.bind_eq_refuse_iff.1 hc with hfirst | ⟨a, mid, ha, hsecond⟩
  · obtain ⟨us, faulty, rfl, hpoints, hus⟩ := h ts c rest hfirst habout
    exact ⟨us, faulty, rfl, hpoints, hus.bind hcontent hfollows⟩
  · obtain ⟨us, rfl, hus⟩ := hsteady ts a mid ha
    obtain ⟨vs, faulty, rfl, hpoints, hvs⟩ := hnext a mid c rest hsecond habout
    refine ⟨us ++ vs, faulty, (List.append_assoc us vs faulty).symm, hpoints, ?_⟩
    rw [List.map_append]
    exact hus.completable_bind hvs (hfollows a)

theorem Viable.map (h : Viable after rule) (f : α → β) :
    Viable after fun ts => (rule ts).map f := by
  intro ts c rest hc habout
  obtain ⟨us, faulty, hts, hpoints, hus⟩ := h ts c rest (Parsed.map_eq_refuse_iff.1 hc) habout
  exact ⟨us, faulty, hts, hpoints, hus.map f⟩

theorem Viable.expect (h : Viable after rule) (hcontent : Completable after rule [])
    (hkind : kind ≠ .finish) :
    Viable after fun ts => (expect kind expected ts).bind fun _ => rule := by
  intro ts c rest hc habout
  rcases Parsed.bind_eq_refuse_iff.1 hc with htoken | ⟨t, mid, htoken, hrule⟩
  · obtain ⟨rfl, rfl⟩ := eq_of_expect_eq_refuse htoken
    exact ⟨[], rest, rfl, .unexpected _ _, hcontent.expect_nil hkind⟩
  · obtain ⟨rfl, ht⟩ := expect_eq_done_iff.1 htoken
    obtain ⟨us, faulty, rfl, hpoints, hus⟩ := h mid c rest hrule habout
    exact ⟨t :: us, faulty, rfl, hpoints, Completable.expect hus ht⟩

theorem completable_expectName (expected : Expected) :
    Completable after (expectName expected) [] :=
  ReadAs.completable_of_append (w := .bare "a") (readAs_expectName expected rfl) nofun

theorem viable_expectName (expected : Expected) : Viable after (expectName expected) := by
  intro ts c rest hc _
  have hstays : c = .unexpected expected ∧ rest = ts := by
    cases ts with
    | nil =>
      obtain ⟨rfl, rfl⟩ := Parsed.refuse_eq_refuse_iff.1 hc
      exact ⟨rfl, rfl⟩
    | cons t ts =>
      rw [expectName] at hc
      split at hc
      · exact absurd hc Parsed.done_ne_refuse
      · obtain ⟨rfl, rfl⟩ := Parsed.refuse_eq_refuse_iff.1 hc
        exact ⟨rfl, rfl⟩
  obtain ⟨rfl, rfl⟩ := hstays
  exact ⟨[], rest, rfl, .unexpected _ _, completable_expectName expected⟩

end Rules

/-! ### Parts of operations -/

theorem BeginsPhrase.completable {us : List Token} (h : BeginsPhrase .expression us) :
    Completable AtStop parseExpression (us.map Token.word) := by
  obtain ⟨more, e, hmore, he⟩ := h
  refine ⟨more.map Token.word, e, fun w hw => ?_, fun ts rest hts hrest => ?_⟩
  · obtain ⟨t, ht, rfl⟩ := List.mem_map.1 hw
    exact hmore t ht
  · rw [← List.map_append] at hts
    exact parseExpression_of_atStop (he.of_words hts) hrest

theorem completable_parseExpression : Completable AtStop parseExpression [] :=
  (beginsPhrase_nil.of_derives id fun _ _ he => .expression_of_first (.first he)).completable

theorem viable_parseExpression : Viable AtStop parseExpression := by
  intro ts c rest hc habout
  obtain ⟨hpoints, us, rfl, hus⟩ :=
    breaksOff_parseExpression ts.length ts (Nat.le_refl _) c rest hc habout
  exact ⟨us, rest, rfl, hpoints, hus.completable⟩

theorem viable_parseCount (operation : String) : Viable AtBar (parseCount operation) := by
  intro ts c rest hc habout
  rcases Parsed.bind_eq_refuse_iff.1 hc with htoken | ⟨t, mid, -, hvalue⟩
  · obtain ⟨rfl, rfl⟩ := eq_of_expect_eq_refuse htoken
    have hone : readCount? "1".toList = some 1 := by decide
    exact ⟨[], rest, rfl, .unexpected _ _, ReadAs.completable_of_append (w := ⟨.integer, "1"⟩)
      (readAs_parseCount operation rfl hone) nofun⟩
  -- a count that cannot be read is an integer, as was expected
  · split at hvalue
    · exact absurd hvalue Parsed.done_ne_refuse
    · obtain ⟨rfl, -⟩ := Parsed.refuse_eq_refuse_iff.1 hvalue
      exact habout.elim

/-- Too few names are no fault of a token. -/
theorem viable_requireNames {follows : List Token → Prop} (operation : String) :
    Viable follows (requireNames operation) := by
  intro ts c rest hc habout
  rcases Parsed.bind_eq_refuse_iff.1 hc with hnames | ⟨names, mid, -, hnumber⟩
  · exact absurd hnames Parsed.done_ne_refuse
  · split at hnumber
    · obtain ⟨rfl, -⟩ := Parsed.refuse_eq_refuse_iff.1 hnumber
      exact habout.elim
    · exact absurd hnumber Parsed.done_ne_refuse

/-- Takes the closing brace of a filter. -/
def closeFilter (condition : Expr) (ts : List Token) : Parsed Operation :=
  (expect .rightBrace .filterEnd ts).bind fun _ ts => .done (.filter condition) ts

theorem viable_parseFilter : Viable AtBar parseFilter := by
  have hdone : ∀ condition, Completable AtBar (Parsed.done (Operation.filter condition)) [] :=
    fun condition => (readAs_nil fun _ _ => rfl).completable
  have hviable : ∀ condition, Viable AtBar (closeFilter condition) :=
    fun condition => Viable.expect (viable_done _) (hdone condition) nofun
  have hcontent : ∀ condition, Completable AtBar (closeFilter condition) [] :=
    fun condition => (hdone condition).expect_nil nofun
  have hfollows : ∀ condition ts op rest, closeFilter condition ts = .done op rest → AtBar rest →
      AtStop ts := by
    intro condition ts op rest h _
    obtain ⟨closing, mid, hclosing, -⟩ := Parsed.bind_eq_done_iff.1 h
    obtain ⟨rfl, hkind⟩ := expect_eq_done_iff.1 hclosing
    exact atStop_cons (.inr (.inr hkind))
  exact Viable.expect (viable_parseExpression.bind steady_parseExpression hviable hcontent hfollows)
    (completable_parseExpression.bind hcontent hfollows) nofun

theorem viable_parseNestedName : Viable AtBar parseNestedName := by
  intro ts c rest hc habout
  cases ts with
  | nil => exact absurd hc Parsed.done_ne_refuse
  | cons t ts =>
    rw [parseNestedName] at hc
    split at hc
    · rename_i has
      have hviable : Viable AtBar (expectName .nestedName) := viable_expectName _
      obtain ⟨us, faulty, rfl, hpoints, more, name, hmore, hname⟩ := hviable ts c rest hc habout
      exact ⟨t :: us, faulty, rfl, hpoints, more, name, hmore, hname.nestedName has⟩
    · exact absurd hc Parsed.done_ne_refuse

theorem completable_parseNestedName : Completable AtBar parseNestedName [] :=
  (readAs_nil fun _ => parseNestedName_of_atBar).completable

theorem viable_parseGroup : Viable AtBar parseGroup := by
  refine (viable_requireNames "group").bind (steady_requireNames "group")
    (fun columns => viable_parseNestedName.map _) (fun columns => completable_parseNestedName.map _)
    ?_
  intro columns ts op rest h hrest
  obtain ⟨nested, hnested, -⟩ := Parsed.map_eq_done_iff.1 h
  exact endsNames_of_parseNestedName hnested hrest

/-- Where a pair breaks off, its new name is missing. -/
theorem exists_of_parsePairs_eq_refuse {ts rest : List Token} {c : Complaint}
    (hc : parsePairs ts = .refuse c rest) :
    ∃ us pair pairs, ts = us ++ rest ∧ c.PointsAt rest rest ∧
      ReadAs EndsNames parsePairs (us.map Token.word ++ [.bare "a"]) (pair :: pairs) := by
  have hmissing : ∀ old : Token, old.kind.isName = true →
      ReadAs EndsNames parsePairs [old.word, .bare "a"] [⟨old.text, "a"⟩] :=
    fun old hold => (readAs_nil fun _ => parsePairs_of_endsNames).pair hold rfl
  fun_induction parsePairs ts with
  | case2 old hold =>
    obtain ⟨rfl, rfl⟩ := Parsed.refuse_eq_refuse_iff.1 hc
    exact ⟨[old], _, _, rfl, .unexpected _ _, hmissing old hold⟩
  | case4 old new more hold hnew ih =>
    obtain ⟨us, pair, pairs, rfl, hpoints, hus⟩ := ih (Parsed.map_eq_refuse_iff.1 hc)
    exact ⟨old :: new :: us, _, _, rfl, hpoints, hus.pair hold hnew⟩
  | case5 old new more hold hnew =>
    obtain ⟨rfl, rfl⟩ := Parsed.refuse_eq_refuse_iff.1 hc
    exact ⟨[old], _, _, rfl, .unexpected _ _, hmissing old hold⟩
  | case1 | case3 | case6 => exact absurd hc Parsed.done_ne_refuse

theorem viable_parseRename : Viable AtBar parseRename := by
  intro ts c rest hc habout
  rcases Parsed.bind_eq_refuse_iff.1 hc with hpairs | ⟨pairs, mid, -, hnumber⟩
  · obtain ⟨us, pair, pairs, rfl, hpoints, hus⟩ := exists_of_parsePairs_eq_refuse hpairs
    refine ⟨us, rest, rfl, hpoints,
      ReadAs.completable_of_append (a := .rename (pair :: pairs)) (fun ts rest hts hrest => ?_)
        (w := .bare "a") nofun⟩
    rw [parseRename, hus ts rest hts hrest.endsNames]
    rfl
  · split at hnumber
    · obtain ⟨rfl, -⟩ := Parsed.refuse_eq_refuse_iff.1 hnumber
      exact habout.elim
    · exact absurd hnumber Parsed.done_ne_refuse

theorem viable_parseAssignment : Viable AtStop parseAssignment := by
  have hcolumn : Viable (fun _ => True) (expectName .assignedColumn) := viable_expectName _
  have hsteady : Steady (fun _ => True) (expectName .assignedColumn) := steady_expectName _
  refine hcolumn.bind hsteady (fun column => ?_) (fun column => ?_) fun _ _ _ _ _ _ => trivial
  · exact Viable.expect (viable_parseExpression.map _) (completable_parseExpression.map _) nofun
  · exact Completable.expect_nil (completable_parseExpression.map _) nofun

theorem viable_parseAssignments : Viable AtBar parseAssignments := by
  intro ts
  -- on the length, since behind each comma stands a shorter list
  induction hm : ts.length using Nat.strongRecOn generalizing ts with
  | ind m ih =>
    intro c rest hc habout
    rw [parseAssignments_eq] at hc
    rcases Parsed.bind_eq_refuse_iff.1 hc with hfirst | ⟨a, mid, ha, hbehind⟩
    · obtain ⟨us, faulty, rfl, hpoints, more, a, hmore, ha⟩ :=
        viable_parseAssignment ts c rest hfirst habout
      exact ⟨us, faulty, rfl, hpoints, more, [a], hmore, ha.lastAssignment⟩
    · obtain ⟨us, rfl, hus⟩ := steady_parseAssignment ts a mid ha
      cases mid with
      | nil => exact absurd hbehind Parsed.done_ne_refuse
      | cons t mid =>
        by_cases hcomma : t.kind = .comma
        · simp only [if_pos hcomma] at hbehind
          rw [List.length_append, List.length_cons] at hm
          obtain ⟨vs, faulty, rfl, hpoints, more, assignments, hmore, hvs⟩ :=
            ih mid.length (by omega) mid rfl c rest (Parsed.map_eq_refuse_iff.1 hbehind) habout
          refine ⟨us ++ t :: vs, faulty, by rw [List.append_assoc, List.cons_append], hpoints, more,
            a :: assignments, hmore, ?_⟩
          rw [List.map_append, List.map_cons, List.append_assoc, List.cons_append]
          exact hus.moreAssignments hcomma hvs
        · simp only [if_neg hcomma] at hbehind
          exact absurd hbehind Parsed.done_ne_refuse

theorem isName_of_namesNested {name : Token} {ts : List Token}
    (h : namesNested (name :: ts) = true) : name.kind.isName = true := by
  unfold namesNested at h
  split at h
  · rename_i heq
    rw [(List.cons.inj heq).1]
    exact (Bool.and_eq_true_iff.1 (Bool.and_eq_true_iff.1 h).1).1
  · cases h

/-- Whether a nested column has been named is seen from what has been taken: what completes the
assignments begins with a column and an equals sign. -/
theorem viable_parseReduce : Viable AtBar parseReduce := by
  intro ts c rest hc habout
  cases hnamed : namesNested ts with
  | false =>
    rw [parseReduce_of_unnamed hnamed] at hc
    obtain ⟨us, faulty, rfl, hpoints, more, assignments, hmore, hus⟩ :=
      viable_parseAssignments ts c rest (Parsed.map_eq_refuse_iff.1 hc) habout
    exact ⟨us, faulty, rfl, hpoints, more, _, hmore, hus.unnamedReduce⟩
  | true =>
    cases ts with
    | nil => cases hnamed
    | cons name ts =>
      rw [parseReduce_of_named hnamed] at hc
      have hname : name.kind.isName = true := isName_of_namesNested hnamed
      obtain ⟨us, faulty, rfl, hpoints, more, assignments, hmore, hus⟩ :=
        viable_parseAssignments ts c rest (Parsed.map_eq_refuse_iff.1 hc) habout
      exact ⟨name :: us, faulty, rfl, hpoints, more, _, hmore, hus.namedReduce hname⟩

/-! ### Operations -/

/-- An operation that does not exist is all that the name in front can be blamed for. -/
theorem parseOperationBody_cases (name : Token) :
    (∀ ts, parseOperationBody name ts = .refuse (.unknownOperation name.text name.position) ts) ∨
      Viable AtBar (parseOperationBody name) := by
  unfold parseOperationBody
  split
  · exact .inr ((viable_parseCount _).map _)
  · exact .inr ((viable_parseCount _).map _)
  · exact .inr ((viable_requireNames _).map _)
  · exact .inr ((viable_requireNames _).map _)
  · exact .inr ((viable_requireNames _).map _)
  · exact .inr ((viable_requireNames _).map _)
  · exact .inr (fun _ _ _ hc => absurd hc Parsed.done_ne_refuse)
  · exact .inr viable_parseFilter
  · exact .inr viable_parseGroup
  · exact .inr (viable_parseAssignments.map _)
  · exact .inr viable_parseReduce
  · exact .inr (viable_done _)
  · exact .inr viable_parseRename
  · exact .inl fun _ => rfl

/-- The name of an operation that needs nothing behind it. -/
theorem completable_parseOperation : Completable AtBar parseOperation [] := by
  have hcount : ReadAs AtBar (parseOperationBody ⟨.name, "count", 0⟩) [] .count :=
    readAs_nil fun _ _ => rfl
  exact ReadAs.completable_of_append (w := .bare "count") (hcount.operation rfl rfl) nofun

theorem viable_parseOperation : Viable AtBar parseOperation := by
  intro ts c rest hc habout
  rcases Parsed.bind_eq_refuse_iff.1 hc with hname | ⟨name, mid, hname, hbody⟩
  · obtain ⟨rfl, rfl⟩ := eq_of_expect_eq_refuse hname
    exact ⟨[], rest, rfl, .unexpected _ _, completable_parseOperation⟩
  · obtain ⟨rfl, hkind⟩ := expect_eq_done_iff.1 hname
    rcases parseOperationBody_cases name with hunknown | hviable
    -- the name is the token at fault, so it does not belong to what is completed
    · obtain ⟨rfl, rfl⟩ := Parsed.refuse_eq_refuse_iff.1 ((hunknown mid).symm.trans hbody)
      exact ⟨[], name :: mid, rfl, .unknownOperation hkind mid, completable_parseOperation⟩
    · obtain ⟨us, faulty, rfl, hpoints, more, op, hmore, hop⟩ := hviable mid c rest hbody habout
      exact ⟨name :: us, faulty, rfl, hpoints, more, op, hmore, hop.operation hkind rfl⟩

/-! ### All operations -/

/-- Nothing follows. -/
def AtEnd (ts : List Token) : Prop :=
  ts = []

theorem readAs_parseOperations_nil : ReadAs AtEnd parseOperations [] [] :=
  readAs_nil fun ts hts => by rw [show ts = [] from hts, parseOperations_nil]

theorem ReadAs.moreOperations {bar : Word} {ws ws' : List Word} {op : Operation}
    {ops : List Operation} (h : ReadAs AtBar parseOperation ws op) (hbar : bar.kind = .pipe)
    (hops : ReadAs AtEnd parseOperations ws' ops) :
    ReadAs AtEnd parseOperations (bar :: (ws ++ ws')) (op :: ops) := by
  intro ts rest hts hrest
  obtain ⟨t, behind, rfl, ht, hbehind⟩ := List.map_eq_cons_iff.1 hts
  obtain ⟨us, vs, rfl, hus, hvs⟩ := List.map_eq_append_iff.1 hbehind
  have hmore := hops vs rest hvs hrest
  rw [List.cons_append, parseOperations_cons ((kind_of_word ht).trans hbar), List.append_assoc,
    h us _ hus (atBar_of_parseOperations hmore), Parsed.bind_done, hmore, Parsed.map_done]

/-- **Operations that break off**: those that were found stay as they are, and the last one is
completed. -/
theorem viable_parseOperations : Viable AtEnd parseOperations := by
  intro ts
  induction hm : ts.length using Nat.strongRecOn generalizing ts with
  | ind m ih =>
    intro c rest hc habout
    cases ts with
    | nil =>
      rw [parseOperations_nil] at hc
      exact absurd hc Parsed.done_ne_refuse
    | cons t ts =>
      by_cases hbar : t.kind = .pipe
      · rw [parseOperations_cons hbar] at hc
        rcases Parsed.bind_eq_refuse_iff.1 hc with hfirst | ⟨op, mid, hop, hbehind⟩
        · obtain ⟨us, faulty, rfl, hpoints, more, op, hmore, hop⟩ :=
            viable_parseOperation ts c rest hfirst habout
          have hread : ReadAs AtEnd parseOperations (t.word :: (us.map Token.word ++ more ++ []))
              [op] := hop.moreOperations hbar readAs_parseOperations_nil
          rw [List.append_nil] at hread
          exact ⟨t :: us, faulty, rfl, hpoints, more, [op], hmore, hread⟩
        · obtain ⟨us, rfl, hus⟩ := steady_parseOperation ts op mid hop
          rw [List.length_cons, List.length_append] at hm
          obtain ⟨vs, faulty, rfl, hpoints, more, ops, hmore, hops⟩ :=
            ih mid.length (by omega) mid rfl c rest (Parsed.map_eq_refuse_iff.1 hbehind) habout
          refine ⟨t :: (us ++ vs), faulty, by rw [List.cons_append, List.append_assoc], hpoints,
            more, op :: ops, hmore, ?_⟩
          rw [List.map_cons, List.map_append, List.cons_append, List.append_assoc]
          exact hus.moreOperations hbar hops
      · rw [parseOperations, if_neg hbar] at hc
        obtain ⟨rfl, rfl⟩ := Parsed.refuse_eq_refuse_iff.1 hc
        exact ⟨[], t :: ts, rfl, .unexpected _ _, readAs_parseOperations_nil.completable⟩

/-! ### Queries -/

/-- The tokens end in their only end mark, and a parser that has them reads operations from all of
them. -/
def AcceptedTokens (tokens : List Token) : Prop :=
  ∃ body mark, tokens = body ++ [mark] ∧ mark.kind = .finish ∧ (∀ t ∈ body, t.kind ≠ .finish) ∧
    ∀ l, ∃ ops, ((Parser.mk l tokens 0).apply parseOperations).1 = .ok ops

/-- Tokens that can be completed begin a list of tokens that is accepted. -/
theorem Completable.exists_acceptedTokens {us : List Token}
    (h : Completable AtEnd parseOperations (us.map Token.word))
    (hus : ∀ t ∈ us, t.kind ≠ .finish) : ∃ completion, AcceptedTokens (us ++ completion) := by
  obtain ⟨more, ops, hmore, hops⟩ := h
  let missing : List Token := more.map fun w => ⟨w.kind, w.text, 0⟩
  have hwords : missing.map Token.word = more := by
    rw [List.map_map]
    exact List.map_id' more
  have hread : parseOperations (us ++ missing) = .done ops [] := by
    have hall := hops (us ++ missing) [] (by rw [List.map_append, hwords]) rfl
    rwa [List.append_nil] at hall
  refine ⟨missing ++ [.ofSymbol .finish], us ++ missing, .ofSymbol .finish,
    (List.append_assoc us missing _).symm, rfl, List.forall_mem_append.2 ⟨hus, fun t ht => ?_⟩,
    fun l => ⟨ops, ?_⟩⟩
  · obtain ⟨w, hw, rfl⟩ := List.mem_map.1 ht
    exact hmore w hw
  · rw [← List.append_assoc, Parser.apply_eq_ok_iff, hread]
    rfl

/-- A complaint about a query is one about the tokens behind the name of its source. -/
theorem Query.parse_eq_refused {s : String} {c : Complaint} {found : Token}
    (h : Query.parse s = .error (.refused c found)) :
    ∃ source behind body mark rest, (Lexer.ofString s).source = (.ok source, behind) ∧
      source.text ≠ "" ∧ behind.tokenize.1 = .ok (body ++ [mark]) ∧
      (∀ t ∈ body, t.kind ≠ .finish) ∧ parseOperations body = .refuse c rest ∧
      found = rest.head?.getD mark := by
  have hquery : (Parser.mk (Lexer.ofString s) [] 0).query.1 = .error (.refused c found) := h
  obtain ⟨source, behind, hsource, hname⟩ := Parser.exists_source hquery
  cases htokens : behind.tokenize.1 with
  | error e =>
    rw [Parser.query_of_lexical hsource hname htokens] at hquery
    cases hquery
  | ok tokens =>
    obtain ⟨body, mark, rfl, -, hbody⟩ := Lexer.tokenize_eq_ok htokens
    rw [Parser.query_of_tokenize hsource hname htokens, Parser.fst_apply] at hquery
    rcases (parseOperations body).eq_done_or_refuse with ⟨ops, rest, hops⟩ | ⟨c', rest, hops⟩
    · rw [hops] at hquery
      cases hquery
    · rw [hops] at hquery
      cases hquery
      exact ⟨source, behind, body, mark, rest, hsource, hname, htokens, hbody, hops, rfl⟩

/-- **Complaints point at the first fault.**  Where the parser complains of a token, it is one of
those behind the name of the source, and the tokens in front of it begin a query: there are tokens
behind them with which they are accepted. -/
theorem complaint_points_at_first_fault (s : String) (c : Complaint) (found : Token)
    (h : Query.parse s = .error (.refused c found)) (habout : c.IsAboutToken) :
    ∃ source behind before fault after,
      (Lexer.ofString s).source = (.ok source, behind) ∧ source.text ≠ "" ∧
      behind.text = s.toList ∧ behind.tokenize.1 = .ok (before ++ fault :: after) ∧
      (ParseError.refused c found).position? = some fault.position ∧
      (∀ expected, c = .unexpected expected → found = fault) ∧
      (∀ name position, c = .unknownOperation name position →
        name = fault.text ∧ fault.kind = .name) ∧
      ∃ completion, AcceptedTokens (before ++ completion) := by
  obtain ⟨source, behind, body, mark, rest, hsource, hname, htokens, hbody, hops, rfl⟩ :=
    Query.parse_eq_refused h
  obtain ⟨before, faulty, rfl, hpoints, hbefore⟩ :=
    viable_parseOperations body c rest hops habout
  obtain ⟨completion, haccepted⟩ := hbefore.exists_acceptedTokens
    fun t ht => hbody t (List.mem_append_left _ ht)
  have htext : behind.text = s.toList := by
    have hreached := (Lexer.Reached.source (s := s) .start).within.1
    rwa [hsource] at hreached
  -- the tokens from the fault on, the end mark among them
  obtain ⟨fault, after, hfaulty⟩ : ∃ fault after, faulty ++ [mark] = fault :: after :=
    List.exists_cons_of_ne_nil (by simp)
  rw [List.append_assoc, hfaulty] at htokens
  have hhead : faulty.head?.getD mark = fault := by
    cases faulty with
    | nil => exact (List.cons.inj hfaulty).1
    | cons t faulty => exact (List.cons.inj hfaulty).1
  refine ⟨source, behind, before, fault, after, hsource, hname, htext, htokens, ?_, ?_, ?_,
    completion, haccepted⟩
  · cases hpoints with
    | unexpected expected => exact congrArg (some ∘ Token.position) hhead
    | @unknownOperation name => exact congrArg (some ∘ Token.position) hhead
  · rintro expected rfl
    cases hpoints
    exact hhead
  · rintro name position rfl
    cases hpoints with
    | unknownOperation kind =>
      rw [← hhead]
      exact ⟨rfl, kind⟩

set_option maxRecDepth 1000 in
/-- A nested column without a name, and an operation that does not exist. -/
theorem complaint_points_at_first_fault_rank :
    (∃ source behind before after completion,
      (Lexer.ofString "t | group a as | count").source = (.ok source, behind) ∧
      behind.tokenize.1 = .ok (before ++ ⟨.pipe, "|", 15⟩ :: after) ∧
      AcceptedTokens (before ++ completion)) ∧
    ∃ source behind before fault after completion,
      (Lexer.ofString "t | count | rank a").source = (.ok source, behind) ∧
      behind.tokenize.1 = .ok (before ++ fault :: after) ∧ fault.text = "rank" ∧
      fault.position = 12 ∧ AcceptedTokens (before ++ completion) := by
  have hgroup : Query.parse "t | group a as | count" =
      .error (.refused (.unexpected .nestedName) ⟨.pipe, "|", 15⟩) := by with_unfolding_all rfl
  have hunknown : Query.parse "t | count | rank a" =
      .error (.refused (.unknownOperation "rank" 12) ⟨.name, "a", 17⟩) := by with_unfolding_all rfl
  constructor
  · obtain ⟨source, behind, before, fault, after, hsource, -, -, htokens, -, hfault, -, completion,
      haccepted⟩ := complaint_points_at_first_fault _ _ _ hgroup trivial
    rw [← hfault _ rfl] at htokens
    exact ⟨source, behind, before, after, completion, hsource, htokens, haccepted⟩
  · obtain ⟨source, behind, before, fault, after, hsource, -, -, htokens, hposition, -, hname,
      completion, haccepted⟩ := complaint_points_at_first_fault _ _ _ hunknown trivial
    exact ⟨source, behind, before, fault, after, completion, hsource, htokens,
      (hname _ _ rfl).1.symm, (Option.some.inj hposition).symm, haccepted⟩

end TablePipeline
