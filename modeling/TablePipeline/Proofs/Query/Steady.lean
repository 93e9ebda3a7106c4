import Mathlib.Data.List.TakeWhile
import TablePipeline.Proofs.Query.Printed
import TablePipeline.Proofs.Query.Soundness

/-!
# Operations one behind the other

What the parser reads in front of the end of a query it reads alike in front of a bar.  A rule for a
part of an operation goes on as long as it can and looks at the token behind that part; but it only
asks for a name, a comma, an operator or something else that neither a bar nor the end is.  So from
what a rule found in front of one of these follows what it finds in front of the other, and the
positions of the tokens, which differ, come into complaints only.

`Steady` states this for a rule and for the tokens that may follow.  For expressions it comes from
the grammar: what the parser takes spells what it finds, and what spells an expression is read as
it.  For all other rules it is put together along the rule.

## Main definitions

* `ReadAs` — words that are read alike wherever they stand
* `Steady` — rules whose finds are read alike

## Main statements

* `Derives.of_words`, `steady_parseExpression` — expressions
* `steady_parseOperation` — operations
* `parseOperations_append` — two lists of operations
-/

namespace TablePipeline

/-- Tokens with these words are read as `a`, if what follows them may follow. -/
def ReadAs {α : Type} (follows : List Token → Prop) (rule : List Token → Parsed α)
    (ws : List Word) (a : α) : Prop :=
  ∀ ts rest, ts.map Token.word = ws → follows rest → rule (ts ++ rest) = .done a rest

/-- Whatever the rule finds, the words that it took are read as it in front of what may follow. -/
def Steady {α : Type} (follows : List Token → Prop) (rule : List Token → Parsed α) : Prop :=
  ∀ ts a rest, rule ts = .done a rest →
    ∃ us, ts = us ++ rest ∧ ReadAs follows rule (us.map Token.word) a

/-! ### Rules one after another -/

section Rules

variable {α β : Type} {before after : List Token → Prop} {rule : List Token → Parsed α}
  {ws ws' : List Word} {w : Word}

/-- Fewer tokens may follow. -/
theorem ReadAs.weaken {a : α} (h : ReadAs before rule ws a) (hle : ∀ ts, after ts → before ts) :
    ReadAs after rule ws a :=
  fun ts rest hts hrest => h ts rest hts (hle rest hrest)

/-- A rule that takes nothing. -/
theorem readAs_nil {a : α} (h : ∀ ts, after ts → rule ts = .done a ts) :
    ReadAs after rule [] a := by
  intro ts rest hts hrest
  rw [show ts = [] from List.map_eq_nil_iff.1 hts]
  exact h rest hrest

/-- The words of two rules one behind the other, if what the second one takes may follow the
first. -/
theorem ReadAs.bind {next : α → List Token → Parsed β} {a : α} {b : β}
    (h : ReadAs before rule ws a) (hnext : ReadAs after (next a) ws' b)
    (hfollows : ∀ ts rest, next a ts = .done b rest → after rest → before ts) :
    ReadAs after (fun ts => (rule ts).bind next) (ws ++ ws') b := by
  intro ts rest hts hrest
  obtain ⟨us, vs, rfl, hus, hvs⟩ := List.map_eq_append_iff.1 hts
  have hb := hnext vs rest hvs hrest
  show (rule (us ++ vs ++ rest)).bind next = _
  rw [List.append_assoc, h us (vs ++ rest) hus (hfollows _ rest hb hrest), Parsed.bind_done, hb]

/-- The word of a token of a given kind, and the words of what follows it. -/
theorem ReadAs.expect {kind : Token.Kind} {expected : Expected} {a : α}
    (h : ReadAs after rule ws a) (hw : w.kind = kind) :
    ReadAs after (fun ts => (expect kind expected ts).bind fun _ => rule) (w :: ws) a := by
  intro ts rest hts hrest
  obtain ⟨t, us, rfl, ht, hus⟩ := List.map_eq_cons_iff.1 hts
  show (TablePipeline.expect kind expected (t :: (us ++ rest))).bind _ = _
  rw [expect_of_kind ((kind_of_word ht).trans hw), Parsed.bind_done, h us rest hus hrest]

theorem readAs_expectName (expected : Expected) (hw : w.kind.isName = true) :
    ReadAs after (expectName expected) [w] w.text := by
  intro ts rest hts hrest
  obtain ⟨t, rfl, ht⟩ := List.map_eq_singleton_iff.1 hts
  have hname : t.kind.isName = true := by
    rwa [kind_of_word ht]
  rw [List.singleton_append, expectName, if_pos hname, text_of_word ht]

/-- If less may follow, a steady rule stays steady. -/
theorem Steady.weaken (h : Steady before rule) (hle : ∀ ts, after ts → before ts) :
    Steady after rule := by
  intro ts a rest ha
  obtain ⟨us, hts, hus⟩ := h ts a rest ha
  exact ⟨us, hts, hus.weaken hle⟩

theorem steady_done (a : α) : Steady after (Parsed.done a) := by
  intro ts b rest h
  obtain ⟨rfl, rfl⟩ := Parsed.done_eq_done_iff.1 h
  exact ⟨[], rfl, readAs_nil fun _ _ => rfl⟩

theorem steady_refuse (complaint : List Token → Complaint) :
    Steady after fun ts => (.refuse (complaint ts) ts : Parsed α) :=
  fun _ _ _ h => absurd h Parsed.refuse_ne_done

/-- **One rule after another**: what the second one takes may follow the first. -/
theorem Steady.bind {next : α → List Token → Parsed β} (h : Steady before rule)
    (hnext : ∀ a, Steady after (next a))
    (hfollows : ∀ a ts b rest, next a ts = .done b rest → after rest → before ts) :
    Steady after fun ts => (rule ts).bind next := by
  intro ts b rest h'
  obtain ⟨a, mid, ha, hb⟩ := Parsed.bind_eq_done_iff.1 h'
  obtain ⟨us, rfl, hus⟩ := h ts a mid ha
  obtain ⟨vs, rfl, hvs⟩ := hnext a mid b rest hb
  refine ⟨us ++ vs, (List.append_assoc us vs rest).symm, ?_⟩
  rw [List.map_append]
  exact hus.bind hvs fun ts rest => hfollows a ts b rest

theorem Steady.map (h : Steady after rule) (f : α → β) :
    Steady after fun ts => (rule ts).map f := by
  refine h.bind (fun a => steady_done (f a)) fun a ts b rest hb hrest => ?_
  obtain ⟨-, rfl⟩ := Parsed.done_eq_done_iff.1 hb
  exact hrest

/-- A token of a given kind, and a rule that does not ask for more of it. -/
theorem Steady.expect {kind : Token.Kind} {expected : Expected} (h : Steady after rule) :
    Steady after fun ts => (expect kind expected ts).bind fun _ => rule := by
  intro ts b rest h'
  obtain ⟨t, mid, ht, hb⟩ := Parsed.bind_eq_done_iff.1 h'
  obtain ⟨rfl, hkind⟩ := expect_eq_done_iff.1 ht
  obtain ⟨us, rfl, hus⟩ := h mid b rest hb
  exact ⟨t :: us, rfl, hus.expect hkind⟩

theorem steady_expectName (expected : Expected) : Steady after (expectName expected) := by
  intro ts name rest h
  cases ts with
  | nil => exact absurd h Parsed.refuse_ne_done
  | cons t ts =>
    rw [expectName] at h
    by_cases ht : t.kind.isName = true
    · rw [if_pos ht] at h
      obtain ⟨rfl, rfl⟩ := Parsed.done_eq_done_iff.1 h
      exact ⟨[t], rfl, readAs_expectName expected (w := t.word) ht⟩
    · rw [if_neg ht] at h
      exact absurd h Parsed.refuse_ne_done

end Rules

/-! ### Expressions -/

/-- Which literal a token spells does not depend on its position. -/
theorem Token.Spells.of_word {t u : Token} {l : Literal} (h : t.Spells l) (hu : u.word = t.word) :
    u.Spells l := by
  have hkind := kind_of_word hu
  have htext := text_of_word hu
  cases h with
  | integer kind value => exact .integer (hkind.trans kind) (htext ▸ value)
  | float kind value => exact .float (hkind.trans kind) (htext ▸ value)
  | string kind =>
    have hspells := Token.Spells.string (hkind.trans kind)
    rwa [htext] at hspells
  | true kind => exact .true (hkind.trans kind)
  | false kind => exact .false (hkind.trans kind)
  | null kind => exact .null (hkind.trans kind)

/-- Whether tokens spell a phrase depends on their words only. -/
theorem Derives.of_words {phrase : Phrase} {ts us : List Token} (h : Derives phrase ts)
    (hwords : us.map Token.word = ts.map Token.word) : Derives phrase us := by
  induction h generalizing us with
  | expression ordered _ _ first pairs =>
    obtain ⟨us, vs, rfl, hus, hvs⟩ := List.map_eq_append_iff.1 (hwords.trans List.map_append)
    exact .expression ordered (first hus) (pairs hvs)
  | first _ operand => exact .first (operand hwords)
  | isNull _ his hnull operand =>
    obtain ⟨us, vs, rfl, hus, htest⟩ := List.map_eq_append_iff.1 (hwords.trans List.map_append)
    obtain ⟨is, vs, rfl, his', hvs⟩ := List.map_eq_cons_iff.1 htest
    obtain ⟨null, rfl, hnull'⟩ := List.map_eq_singleton_iff.1 hvs
    exact .isNull (operand hus) ((kind_of_word his').trans his)
      ((kind_of_word hnull').trans hnull)
  | isNotNull _ his hnot hnull operand =>
    obtain ⟨us, vs, rfl, hus, htest⟩ := List.map_eq_append_iff.1 (hwords.trans List.map_append)
    obtain ⟨is, vs, rfl, his', hbehind⟩ := List.map_eq_cons_iff.1 htest
    obtain ⟨not, vs, rfl, hnot', hvs⟩ := List.map_eq_cons_iff.1 hbehind
    obtain ⟨null, rfl, hnull'⟩ := List.map_eq_singleton_iff.1 hvs
    exact .isNotNull (operand hus) ((kind_of_word his').trans his)
      ((kind_of_word hnot').trans hnot) ((kind_of_word hnull').trans hnull)
  | noPairs =>
    rw [show us = [] from List.map_eq_nil_iff.1 hwords]
    exact .noPairs
  | pair operator _ _ operand pairs =>
    obtain ⟨t, us, rfl, ht, htail⟩ := List.map_eq_cons_iff.1 hwords
    obtain ⟨us, vs, rfl, hus, hvs⟩ := List.map_eq_append_iff.1 (htail.trans List.map_append)
    exact .pair ((kind_of_word ht).trans operator) (operand hus) (pairs hvs)
  | sign operator _ operand =>
    obtain ⟨t, us, rfl, ht, hus⟩ := List.map_eq_cons_iff.1 hwords
    exact .sign ((kind_of_word ht).trans operator) (operand hus)
  | primary _ primary => exact .primary (primary hwords)
  | literal spells =>
    obtain ⟨t, rfl, ht⟩ := List.map_eq_singleton_iff.1 hwords
    exact .literal (spells.of_word ht)
  | column name =>
    obtain ⟨t, rfl, ht⟩ := List.map_eq_singleton_iff.1 hwords
    have hcolumn := Derives.column ((congrArg Token.Kind.isName (kind_of_word ht)).trans name)
    rwa [text_of_word ht] at hcolumn
  | emptyCall name hopening hclosing =>
    obtain ⟨t, us, rfl, ht, htail⟩ := List.map_eq_cons_iff.1 hwords
    obtain ⟨opening, us, rfl, hopening', hus⟩ := List.map_eq_cons_iff.1 htail
    obtain ⟨closing, rfl, hclosing'⟩ := List.map_eq_singleton_iff.1 hus
    have hcall := Derives.emptyCall ((kind_of_word ht).trans name)
      ((kind_of_word hopening').trans hopening) ((kind_of_word hclosing').trans hclosing)
    rwa [text_of_word ht] at hcall
  | call name hopening _ hclosing arguments =>
    obtain ⟨t, us, rfl, ht, htail⟩ := List.map_eq_cons_iff.1 hwords
    obtain ⟨opening, us, rfl, hopening', hinner⟩ := List.map_eq_cons_iff.1 htail
    obtain ⟨us, vs, rfl, hus, hvs⟩ := List.map_eq_append_iff.1 (hinner.trans List.map_append)
    obtain ⟨closing, rfl, hclosing'⟩ := List.map_eq_singleton_iff.1 hvs
    have hcall := Derives.call ((kind_of_word ht).trans name)
      ((kind_of_word hopening').trans hopening) (arguments hus)
      ((kind_of_word hclosing').trans hclosing)
    rwa [text_of_word ht] at hcall
  | group hopening _ hclosing inner =>
    obtain ⟨opening, us, rfl, hopening', hinner⟩ := List.map_eq_cons_iff.1 hwords
    obtain ⟨us, vs, rfl, hus, hvs⟩ := List.map_eq_append_iff.1 (hinner.trans List.map_append)
    obtain ⟨closing, rfl, hclosing'⟩ := List.map_eq_singleton_iff.1 hvs
    exact .group ((kind_of_word hopening').trans hopening) (inner hus)
      ((kind_of_word hclosing').trans hclosing)
  | argument _ expression => exact .argument (expression hwords)
  | moreArguments _ hcomma _ expression arguments =>
    obtain ⟨us, behind, rfl, hus, hbehind⟩ :=
      List.map_eq_append_iff.1 (hwords.trans List.map_append)
    obtain ⟨comma, vs, rfl, hcomma', hvs⟩ := List.map_eq_cons_iff.1 hbehind
    exact .moreArguments (expression hus) ((kind_of_word hcomma').trans hcomma) (arguments hvs)

/-- What the parser takes for an expression spells it, and is read as it again. -/
theorem steady_parseExpression : Steady AtStop parseExpression := by
  intro ts e rest he
  obtain ⟨us, rfl, hus⟩ := sound_parseExpression ts.length ts (Nat.le_refl _) e rest he
  exact ⟨us, rfl, fun us' rest' hwords hrest' =>
    parseExpression_of_atStop (hus.of_words hwords) hrest'⟩

/-! ### Parts of operations -/

/-- Names are read as before, if no name follows. -/
theorem steady_takeNames : Steady EndsNames takeNames := by
  intro ts names rest h
  obtain ⟨rfl, rfl⟩ := Parsed.done_eq_done_iff.1 h
  refine ⟨ts.takeWhile (·.kind.isName), List.takeWhile_append_dropWhile.symm, ?_⟩
  intro us rest' hus hrest'
  have hnames : ∀ w ∈ (ts.takeWhile (·.kind.isName)).map Token.word, w.kind.isName = true := by
    intro w hw
    obtain ⟨t, ht, rfl⟩ := List.mem_map.1 hw
    exact List.mem_takeWhile_imp (p := fun t : Token => t.kind.isName) ht
  rw [takeNames_of_isName hus hnames hrest', List.map_map]
  rfl

theorem steady_requireNames (operation : String) : Steady EndsNames (requireNames operation) := by
  refine steady_takeNames.bind (fun names => ?_) fun names ts b rest h hrest => ?_
  · cases names with
    | nil => exact steady_refuse _
    | cons name names => exact steady_done _
  · cases names with
    | nil => exact absurd h Parsed.refuse_ne_done
    | cons name names =>
      obtain ⟨-, rfl⟩ := Parsed.done_eq_done_iff.1 h
      exact hrest

theorem readAs_parseCount {w : Word} {n : Nat} (operation : String) (hkind : w.kind = .integer)
    (hread : readCount? w.text.toList = some n) : ReadAs AtBar (parseCount operation) [w] n := by
  intro ts rest hts _
  obtain ⟨t, rfl, ht⟩ := List.map_eq_singleton_iff.1 hts
  have hread' : readCount? t.text.toList = some n := by
    rwa [text_of_word ht]
  rw [parseCount, List.singleton_append, expect_of_kind ((kind_of_word ht).trans hkind),
    Parsed.bind_done]
  simp only [hread']

/-- A count is the same wherever its token stands. -/
theorem steady_parseCount (operation : String) : Steady AtBar (parseCount operation) := by
  intro ts n rest h
  obtain ⟨t, mid, ht, hn⟩ := Parsed.bind_eq_done_iff.1 h
  obtain ⟨rfl, hkind⟩ := expect_eq_done_iff.1 ht
  split at hn
  · rename_i m hm
    obtain ⟨rfl, rfl⟩ := Parsed.done_eq_done_iff.1 hn
    exact ⟨[t], rfl, readAs_parseCount operation hkind hm⟩
  · exact absurd hn Parsed.refuse_ne_done

theorem steady_parseFilter : Steady AtBar parseFilter := by
  refine Steady.expect (steady_parseExpression.bind (fun condition => ?_) ?_)
  · exact (steady_done _).expect
  · intro condition ts op rest h _
    obtain ⟨closing, mid, hclosing, -⟩ := Parsed.bind_eq_done_iff.1 h
    obtain ⟨rfl, hkind⟩ := expect_eq_done_iff.1 hclosing
    exact atStop_cons (Or.inr (Or.inr hkind))

/-- In front of a bar the nested column has its usual name. -/
theorem parseNestedName_of_atBar {ts : List Token} (h : AtBar ts) :
    parseNestedName ts = .done defaultNested ts := by
  cases ts with
  | nil => rfl
  | cons t ts =>
    have has : t.kind ≠ .as := by
      rw [h t rfl]
      decide
    exact if_neg has

/-- Either the columns of a group end at an `as`, or nothing is taken. -/
theorem parseNestedName_cases {ts rest : List Token} {name : String}
    (h : parseNestedName ts = .done name rest) :
    (∃ t us, ts = t :: us ∧ t.kind = .as ∧ expectName .nestedName us = .done name rest) ∨
      name = defaultNested ∧ rest = ts := by
  cases ts with
  | nil =>
    obtain ⟨rfl, rfl⟩ := Parsed.done_eq_done_iff.1 h
    exact Or.inr ⟨rfl, rfl⟩
  | cons t ts =>
    rw [parseNestedName] at h
    by_cases has : t.kind = .as
    · rw [if_pos has] at h
      exact Or.inl ⟨t, ts, rfl, has, h⟩
    · rw [if_neg has] at h
      obtain ⟨rfl, rfl⟩ := Parsed.done_eq_done_iff.1 h
      exact Or.inr ⟨rfl, rfl⟩

theorem ReadAs.nestedName {w : Word} {ws : List Word} {name : String}
    (h : ReadAs AtBar (expectName .nestedName) ws name) (has : w.kind = .as) :
    ReadAs AtBar parseNestedName (w :: ws) name := by
  intro ts rest hts hrest
  obtain ⟨t, us, rfl, ht, hus⟩ := List.map_eq_cons_iff.1 hts
  rw [List.cons_append, parseNestedName, if_pos ((kind_of_word ht).trans has),
    h us rest hus hrest]

/-- Neither `as` nor a bar is a name. -/
theorem endsNames_of_parseNestedName {ts rest : List Token} {name : String}
    (h : parseNestedName ts = .done name rest) (hrest : AtBar rest) : EndsNames ts := by
  rcases parseNestedName_cases h with ⟨t, us, rfl, has, -⟩ | ⟨-, rfl⟩
  · refine endsNames_cons ?_
    rw [has]
    rfl
  · exact hrest.endsNames

theorem steady_parseNestedName : Steady AtBar parseNestedName := by
  intro ts name rest h
  rcases parseNestedName_cases h with ⟨t, us, rfl, has, hname⟩ | ⟨rfl, rfl⟩
  · obtain ⟨vs, rfl, hvs⟩ := steady_expectName .nestedName us name rest hname
    exact ⟨t :: vs, rfl, hvs.nestedName has⟩
  · exact ⟨[], rfl, readAs_nil fun _ => parseNestedName_of_atBar⟩

theorem steady_parseGroup : Steady AtBar parseGroup := by
  refine (steady_requireNames "group").bind (fun columns => steady_parseNestedName.map _) ?_
  intro columns ts op rest h hrest
  obtain ⟨nested, hnested, -⟩ := Parsed.map_eq_done_iff.1 h
  exact endsNames_of_parseNestedName hnested hrest

theorem ReadAs.pair {old new : Word} {ws : List Word} {pairs : List RenamePair}
    (h : ReadAs EndsNames parsePairs ws pairs) (hold : old.kind.isName = true)
    (hnew : new.kind.isName = true) :
    ReadAs EndsNames parsePairs (old :: new :: ws) (⟨old.text, new.text⟩ :: pairs) := by
  intro ts rest hts hrest
  obtain ⟨t, behind, rfl, ht, hbehind⟩ := List.map_eq_cons_iff.1 hts
  obtain ⟨u, us, rfl, hu, hus⟩ := List.map_eq_cons_iff.1 hbehind
  have hold' : t.kind.isName = true := by
    rwa [kind_of_word ht]
  have hnew' : u.kind.isName = true := by
    rwa [kind_of_word hu]
  rw [List.cons_append, List.cons_append, parsePairs_of_names hold' hnew', h us rest hus hrest,
    Parsed.map_done, text_of_word ht, text_of_word hu]

/-- Pairs of names are read as before, if no name follows. -/
theorem steady_parsePairs : Steady EndsNames parsePairs := by
  intro ts
  have hnone : ∀ {us : List Token} {pairs : List RenamePair} {rest : List Token},
      (.done [] us : Parsed (List RenamePair)) = .done pairs rest →
      ∃ vs, us = vs ++ rest ∧ ReadAs EndsNames parsePairs (vs.map Token.word) pairs := by
    intro us pairs rest h
    obtain ⟨rfl, rfl⟩ := Parsed.done_eq_done_iff.1 h
    exact ⟨[], rfl, readAs_nil fun _ => parsePairs_of_endsNames⟩
  fun_induction parsePairs ts with
  | case4 old new more hold hnew ih =>
    intro pairs rest h
    obtain ⟨others, hothers, rfl⟩ := Parsed.map_eq_done_iff.1 h
    obtain ⟨us, rfl, hus⟩ := ih others rest hothers
    exact ⟨old :: new :: us, rfl, hus.pair hold hnew⟩
  | case1 | case3 | case6 => exact fun pairs rest h => hnone h
  | case2 | case5 => exact fun pairs rest h => absurd h Parsed.refuse_ne_done

theorem steady_parseRename : Steady AtBar parseRename := by
  refine (steady_parsePairs.weaken fun _ => AtBar.endsNames).bind (fun pairs => ?_) ?_
  · cases pairs with
    | nil => exact steady_refuse _
    | cons pair pairs => exact steady_done _
  · intro pairs ts op rest h hrest
    cases pairs with
    | nil => exact absurd h Parsed.refuse_ne_done
    | cons pair pairs =>
      obtain ⟨-, rfl⟩ := Parsed.done_eq_done_iff.1 h
      exact hrest

theorem steady_parseAssignment : Steady AtStop parseAssignment := by
  have hcolumn : Steady (fun _ => True) (expectName .assignedColumn) := steady_expectName _
  refine hcolumn.bind (fun column => ?_) fun _ _ _ _ _ _ => trivial
  exact (steady_parseExpression.map _).expect

/-- Behind an assignment there is a comma and more of them, or it is the last one. -/
theorem parseAssignments_cases {ts rest : List Token} {assignments : List Assignment}
    (h : parseAssignments ts = .done assignments rest) :
    ∃ a mid, parseAssignment ts = .done a mid ∧
      ((∃ comma us more, mid = comma :: us ∧ comma.kind = .comma ∧
        parseAssignments us = .done more rest ∧ assignments = a :: more) ∨
      assignments = [a] ∧ rest = mid) := by
  rw [parseAssignments_eq] at h
  obtain ⟨a, mid, ha, hbehind⟩ := Parsed.bind_eq_done_iff.1 h
  refine ⟨a, mid, ha, ?_⟩
  cases mid with
  | nil =>
    obtain ⟨rfl, rfl⟩ := Parsed.done_eq_done_iff.1 hbehind
    exact Or.inr ⟨rfl, rfl⟩
  | cons t mid =>
    by_cases hcomma : t.kind = .comma
    · simp only [if_pos hcomma] at hbehind
      obtain ⟨more, hmore, rfl⟩ := Parsed.map_eq_done_iff.1 hbehind
      exact Or.inl ⟨t, mid, more, rfl, hcomma, hmore, rfl⟩
    · simp only [if_neg hcomma] at hbehind
      obtain ⟨rfl, rfl⟩ := Parsed.done_eq_done_iff.1 hbehind
      exact Or.inr ⟨rfl, rfl⟩

theorem ReadAs.lastAssignment {ws : List Word} {a : Assignment}
    (h : ReadAs AtStop parseAssignment ws a) : ReadAs AtBar parseAssignments ws [a] :=
  fun ts rest hts hrest => parseAssignments_of_last (h ts rest hts hrest.atStop) hrest

theorem ReadAs.moreAssignments {ws ws' : List Word} {comma : Word} {a : Assignment}
    {more : List Assignment} (h : ReadAs AtStop parseAssignment ws a) (hcomma : comma.kind = .comma)
    (hmore : ReadAs AtBar parseAssignments ws' more) :
    ReadAs AtBar parseAssignments (ws ++ comma :: ws') (a :: more) := by
  intro ts rest hts hrest
  obtain ⟨us, behind, rfl, hus, hbehind⟩ := List.map_eq_append_iff.1 hts
  obtain ⟨t, vs, rfl, ht, hvs⟩ := List.map_eq_cons_iff.1 hbehind
  have hkind : t.kind = .comma := (kind_of_word ht).trans hcomma
  have hstop : AtStop (t :: (vs ++ rest)) := atStop_cons (Or.inr (Or.inl hkind))
  rw [List.append_assoc, List.cons_append, parseAssignments_of_comma (h us _ hus hstop) hkind,
    hmore vs rest hvs hrest, Parsed.map_done]

/-- Assignments are read as before, up to the bar behind them. -/
theorem steady_parseAssignments : Steady AtBar parseAssignments := by
  intro ts
  -- on the length, since behind each comma stands a shorter list
  induction hm : ts.length using Nat.strongRecOn generalizing ts with
  | ind m ih =>
    intro assignments rest h
    obtain ⟨a, mid, ha, ⟨comma, vs, more, rfl, hcomma, hmore, rfl⟩ | ⟨rfl, rfl⟩⟩ :=
      parseAssignments_cases h
    · obtain ⟨us, rfl, hus⟩ := steady_parseAssignment ts a (comma :: vs) ha
      rw [List.length_append, List.length_cons] at hm
      obtain ⟨vs, rfl, hvs⟩ := ih vs.length (by omega) vs rfl more rest hmore
      refine ⟨us ++ comma :: vs, by rw [List.append_assoc, List.cons_append], ?_⟩
      rw [List.map_append, List.map_cons]
      exact hus.moreAssignments hcomma hvs
    · obtain ⟨us, rfl, hus⟩ := steady_parseAssignment ts a rest ha
      exact ⟨us, rfl, hus.lastAssignment⟩

/-- Assignments begin with a name and the sign of assignment. -/
theorem exists_of_parseAssignments {ts rest : List Token} {assignments : List Assignment}
    (h : parseAssignments ts = .done assignments rest) :
    ∃ column assign us, ts = column :: assign :: us ∧ column.kind.isName = true ∧
      assign.kind = .assign := by
  obtain ⟨a, mid, ha, -⟩ := parseAssignments_cases h
  obtain ⟨name, behind, hname, hbehind⟩ := Parsed.bind_eq_done_iff.1 ha
  obtain ⟨assign, us, hassign, -⟩ := Parsed.bind_eq_done_iff.1 hbehind
  obtain ⟨rfl, hkind⟩ := expect_eq_done_iff.1 hassign
  cases ts with
  | nil => exact absurd hname Parsed.refuse_ne_done
  | cons column ts =>
    rw [expectName] at hname
    by_cases hcolumn : column.kind.isName = true
    · rw [if_pos hcolumn] at hname
      obtain ⟨-, rfl⟩ := Parsed.done_eq_done_iff.1 hname
      exact ⟨column, assign, us, rfl, hcolumn, hkind⟩
    · rw [if_neg hcolumn] at hname
      exact absurd hname Parsed.refuse_ne_done

/-- In front of assignments a name is that of the nested column. -/
theorem namesNested_cons {name : Token} {ts rest : List Token} {assignments : List Assignment}
    (h : parseAssignments ts = .done assignments rest) :
    namesNested (name :: ts) = name.kind.isName := by
  obtain ⟨column, assign, us, rfl, hcolumn, hassign⟩ := exists_of_parseAssignments h
  show (name.kind.isName && column.kind.isName && assign.kind == .assign) = _
  rw [hcolumn, hassign]
  cases name.kind.isName <;> rfl

/-- Assignments alone name no nested column. -/
theorem namesNested_eq_false {ts rest : List Token} {assignments : List Assignment}
    (h : parseAssignments ts = .done assignments rest) : namesNested ts = false := by
  obtain ⟨column, assign, us, rfl, -, hassign⟩ := exists_of_parseAssignments h
  cases us with
  | nil => rfl
  | cons u us =>
    show (column.kind.isName && assign.kind.isName && u.kind == .assign) = false
    rw [hassign]
    cases column.kind.isName <;> rfl

theorem parseReduce_of_unnamed {ts : List Token} (h : namesNested ts = false) :
    parseReduce ts = (parseAssignments ts).map (.reduce defaultNested) := by
  rw [parseReduce.eq_def]
  cases ts with
  | nil => rfl
  | cons t ts => simp only [h, Bool.false_eq_true, if_false]

theorem ReadAs.unnamedReduce {ws : List Word} {assignments : List Assignment}
    (h : ReadAs AtBar parseAssignments ws assignments) :
    ReadAs AtBar parseReduce ws (.reduce defaultNested assignments) := by
  intro ts rest hts hrest
  have hread := h ts rest hts hrest
  rw [parseReduce_of_unnamed (namesNested_eq_false hread), hread, Parsed.map_done]

theorem ReadAs.namedReduce {name : Word} {ws : List Word} {assignments : List Assignment}
    (h : ReadAs AtBar parseAssignments ws assignments) (hname : name.kind.isName = true) :
    ReadAs AtBar parseReduce (name :: ws) (.reduce name.text assignments) := by
  intro ts rest hts hrest
  obtain ⟨t, us, rfl, ht, hus⟩ := List.map_eq_cons_iff.1 hts
  have hread := h us rest hus hrest
  have hnamed : namesNested (t :: (us ++ rest)) = true := by
    rw [namesNested_cons hread, kind_of_word ht]
    exact hname
  rw [List.cons_append, parseReduce_of_named hnamed, hread, Parsed.map_done, text_of_word ht]

/-- A reduction is read as before, with or without the name of its column. -/
theorem steady_parseReduce : Steady AtBar parseReduce := by
  intro ts op rest h
  cases hnamed : namesNested ts with
  | false =>
    rw [parseReduce_of_unnamed hnamed] at h
    obtain ⟨assignments, hassignments, rfl⟩ := Parsed.map_eq_done_iff.1 h
    obtain ⟨us, rfl, hus⟩ := steady_parseAssignments ts assignments rest hassignments
    exact ⟨us, rfl, hus.unnamedReduce⟩
  | true =>
    cases ts with
    | nil => cases hnamed
    | cons name ts =>
      rw [parseReduce_of_named hnamed] at h
      obtain ⟨assignments, hassignments, rfl⟩ := Parsed.map_eq_done_iff.1 h
      rw [namesNested_cons hassignments] at hnamed
      obtain ⟨us, rfl, hus⟩ := steady_parseAssignments ts assignments rest hassignments
      exact ⟨name :: us, rfl, hus.namedReduce hnamed⟩

/-! ### Operations -/

theorem steady_parseOperationBody (name : Token) : Steady AtBar (parseOperationBody name) := by
  have hnames : ∀ operation, Steady AtBar (requireNames operation) :=
    fun operation => (steady_requireNames operation).weaken fun _ => AtBar.endsNames
  unfold parseOperationBody
  split
  · exact (steady_parseCount _).map _
  · exact (steady_parseCount _).map _
  · exact (hnames _).map _
  · exact (hnames _).map _
  · exact (hnames _).map _
  · exact (hnames _).map _
  · exact (steady_takeNames.weaken fun _ => AtBar.endsNames).map _
  · exact steady_parseFilter
  · exact steady_parseGroup
  · exact steady_parseAssignments.map _
  · exact steady_parseReduce
  · exact steady_done _
  · exact steady_parseRename
  · exact steady_refuse _

/-- The position of the name comes into a complaint only. -/
theorem parseOperationBody_of_text {name name' : Token} {ts rest : List Token} {op : Operation}
    (htext : name'.text = name.text) (h : parseOperationBody name ts = .done op rest) :
    parseOperationBody name' ts = .done op rest := by
  unfold parseOperationBody at h ⊢
  rw [htext]
  split at h
  all_goals first
    | exact h
    | exact absurd h Parsed.refuse_ne_done

theorem ReadAs.operation {name : Token} {w : Word} {ws : List Word} {op : Operation}
    (h : ReadAs AtBar (parseOperationBody name) ws op) (hkind : w.kind = .name)
    (htext : w.text = name.text) : ReadAs AtBar parseOperation (w :: ws) op := by
  intro ts rest hts hrest
  obtain ⟨t, us, rfl, ht, hus⟩ := List.map_eq_cons_iff.1 hts
  rw [parseOperation, List.cons_append, expect_of_kind ((kind_of_word ht).trans hkind),
    Parsed.bind_done]
  exact parseOperationBody_of_text ((text_of_word ht).trans htext) (h us rest hus hrest)

/-- **One operation** is read as before, if nothing or a bar follows. -/
theorem steady_parseOperation : Steady AtBar parseOperation := by
  intro ts op rest h
  obtain ⟨name, mid, hname, hbody⟩ := Parsed.bind_eq_done_iff.1 h
  obtain ⟨rfl, hkind⟩ := expect_eq_done_iff.1 hname
  obtain ⟨us, rfl, hus⟩ := steady_parseOperationBody name mid op rest hbody
  exact ⟨name :: us, rfl, hus.operation hkind rfl⟩

/-! ### All operations -/

theorem parseOperations_cases {ts rest : List Token} {ops : List Operation}
    (h : parseOperations ts = .done ops rest) :
    ts = [] ∧ ops = [] ∧ rest = [] ∨
      ∃ bar us op mid more, ts = bar :: us ∧ bar.kind = .pipe ∧ parseOperation us = .done op mid ∧
        parseOperations mid = .done more rest ∧ ops = op :: more := by
  cases ts with
  | nil =>
    rw [parseOperations_nil] at h
    obtain ⟨rfl, rfl⟩ := Parsed.done_eq_done_iff.1 h
    exact Or.inl ⟨rfl, rfl, rfl⟩
  | cons bar us =>
    by_cases hbar : bar.kind = .pipe
    · rw [parseOperations_cons hbar] at h
      obtain ⟨op, mid, hop, hbehind⟩ := Parsed.bind_eq_done_iff.1 h
      obtain ⟨more, hmore, rfl⟩ := Parsed.map_eq_done_iff.1 hbehind
      exact Or.inr ⟨bar, us, op, mid, more, rfl, hbar, hop, hmore, rfl⟩
    · rw [parseOperations, if_neg hbar] at h
      exact absurd h Parsed.refuse_ne_done

theorem atBar_of_parseOperations {ts rest : List Token} {ops : List Operation}
    (h : parseOperations ts = .done ops rest) : AtBar ts := by
  rcases parseOperations_cases h with ⟨rfl, -, -⟩ | ⟨bar, us, op, mid, more, rfl, hbar, -⟩
  · exact nofun
  · intro t ht
    rw [← Option.some.inj ht]
    exact hbar

/-- **Operations one behind the other**: tokens with the words of operations, and then tokens that
are read as further operations, are read as all of them. -/
theorem parseOperations_append {ts us vs rest : List Token} {ops more : List Operation}
    (h : parseOperations ts = .done ops rest) (hus : us.map Token.word = ts.map Token.word)
    (hvs : parseOperations vs = .done more []) :
    parseOperations (us ++ vs) = .done (ops ++ more) [] := by
  induction hm : ts.length using Nat.strongRecOn generalizing ts us ops with
  | ind m ih =>
    rcases parseOperations_cases h with
      ⟨rfl, rfl, -⟩ | ⟨bar, body, op, mid, others, rfl, hbar, hop, hothers, rfl⟩
    · rw [show us = [] from List.map_eq_nil_iff.1 hus]
      exact hvs
    · obtain ⟨bar', behind, rfl, hbar', hbehind⟩ := List.map_eq_cons_iff.1 hus
      obtain ⟨ws, rfl, hws⟩ := steady_parseOperation body op mid hop
      obtain ⟨ws', mid', rfl, hws', hmid'⟩ :=
        List.map_eq_append_iff.1 (hbehind.trans List.map_append)
      rw [List.length_cons, List.length_append] at hm
      have hmore := ih mid.length (by omega) hothers hmid' rfl
      have hread := hws ws' (mid' ++ vs) hws' (atBar_of_parseOperations hmore)
      rw [List.cons_append, List.append_assoc,
        parseOperations_cons ((kind_of_word hbar').trans hbar), hread, Parsed.bind_done, hmore,
        Parsed.map_done]
      rfl

end TablePipeline
