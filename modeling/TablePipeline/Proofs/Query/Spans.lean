import TablePipeline.Proofs.Query.Written

/-!
# Tokens tile the text

Every token has a span: it begins at the position of the token and ends where the lexer stands when
the token has been read.  The spans of all tokens follow each other without touching a character
twice; what stands in a span is what the token is written as, and what stands outside all spans is
white space or belongs to a comment (`Tiles`).  So tokens neither lose nor repeat anything.

Spans that tile one part of a text and spans that tile the next part tile both together
(`Tiles.append`); a gap is tiled by no span and a word by one.  That gives the step, and the step
gives the run.

A lexer can be asked on after any answer, so the step is stated for every lexer that calls come to.
Each answer moves the lexer forward, unless it is the end mark or complains of the character in
front of which the lexer stands; that is why there is always a last token.

## Main definitions

* `Span`, `Lexer.Reads` — the spans of tokens that are read one after the other
* `IsComment`, `Tiles` — spans that leave white space and comments over
* `Lexer.Reached` — the lexers that calls come to

## Main statements

* `Lexer.tiles_of_next`, `Lexer.Reads.tiles` — one token and a run
* `Lexer.tokenize_tiles` — all of it
-/

namespace TablePipeline

/-- A token and the position behind its last character. -/
structure Span where
  token : Token
  stop : Nat

namespace Span

/-- The position of the first character. -/
def start (w : Span) : Nat :=
  w.token.position

/-- The character at a position belongs to the token. -/
def Holds (w : Span) (i : Nat) : Prop :=
  w.start ≤ i ∧ i < w.stop

end Span

/-- A comment stands between two positions: it begins with two slashes and runs up to a line feed or
to the end of the text. -/
def IsComment (cs : List Char) (start stop : Nat) : Prop :=
  ∃ before body after, cs = before ++ '/' :: '/' :: (body ++ after) ∧ '\n' ∉ body ∧
    EndsLine after ∧ start = before.length ∧ stop = before.length + 2 + body.length

/-- The spans tile the text between two positions: each of them holds the characters of its token,
they follow each other without overlapping, and every character outside them is white space or
belongs to a comment, which lies outside them as a whole. -/
structure Tiles (cs : List Char) (start stop : Nat) (spans : List Span) : Prop where
  inside : ∀ w ∈ spans, start ≤ w.start ∧ w.start < w.stop ∧ w.stop ≤ stop
  ordered : spans.Pairwise fun v w => v.stop ≤ w.start
  written : ∀ w ∈ spans,
    WrittenAs w.token.kind w.token.text.toList (cs.extract w.start w.stop)
  outside : ∀ i, start ≤ i → i < stop → (∀ w ∈ spans, ¬w.Holds i) →
    (∃ c, cs[i]? = some c ∧ isBlank c = true) ∨
      ∃ a b, IsComment cs a b ∧ start ≤ a ∧ a ≤ i ∧ i < b ∧ b ≤ stop ∧
        ∀ w ∈ spans, w.stop ≤ a ∨ b ≤ w.start

/-! ### Putting tiles together -/

section Tiles

variable {cs gap chars rest : List Char} {start middle stop : Nat} {spans more : List Span}

/-- **Two parts** of a text that are tiled are tiled together. -/
theorem Tiles.append (h : Tiles cs start middle spans) (h' : Tiles cs middle stop more)
    (hle : start ≤ middle) (hle' : middle ≤ stop) : Tiles cs start stop (spans ++ more) := by
  constructor
  · intro w hw
    rcases List.mem_append.1 hw with hw | hw
    · have := h.inside w hw
      omega
    · have := h'.inside w hw
      omega
  · rw [List.pairwise_append]
    refine ⟨h.ordered, h'.ordered, fun v hv w hw => ?_⟩
    have := h.inside v hv
    have := h'.inside w hw
    omega
  · intro w hw
    rcases List.mem_append.1 hw with hw | hw
    · exact h.written w hw
    · exact h'.written w hw
  · intro i hstart hstop hout
    by_cases hi : i < middle
    · rcases h.outside i hstart hi fun w hw => hout w (List.mem_append_left _ hw) with hblank | hin
      · exact .inl hblank
      · obtain ⟨a, b, hcomment, ha, hai, hib, hb, hclear⟩ := hin
        refine .inr ⟨a, b, hcomment, ha, hai, hib, by omega, fun w hw => ?_⟩
        rcases List.mem_append.1 hw with hw | hw
        · exact hclear w hw
        -- the spans of the second part come behind the comment
        · have := h'.inside w hw
          omega
    · rcases h'.outside i (by omega) hstop fun w hw => hout w (List.mem_append_right _ hw) with
        hblank | hin
      · exact .inl hblank
      · obtain ⟨a, b, hcomment, ha, hai, hib, hb, hclear⟩ := hin
        refine .inr ⟨a, b, hcomment, by omega, hai, hib, hb, fun w hw => ?_⟩
        rcases List.mem_append.1 hw with hw | hw
        -- those of the first part come in front of it
        · have := h.inside w hw
          omega
        · exact hclear w hw

/-- No span tiles nothing. -/
theorem tiles_refl (cs : List Char) (start : Nat) : Tiles cs start start [] :=
  ⟨nofun, List.Pairwise.nil, nofun, fun i hi hi' => absurd hi' (by omega)⟩

theorem tiles_blank {c : Char} (hc : isBlank c = true) (before rest : List Char) :
    Tiles (before ++ c :: rest) before.length (before.length + 1) [] := by
  refine ⟨nofun, List.Pairwise.nil, nofun, fun i hi hi' _ => .inl ⟨c, ?_, hc⟩⟩
  obtain rfl : i = before.length := by omega
  simp

theorem tiles_comment {body after : List Char} (hline : '\n' ∉ body) (hends : EndsLine after)
    (before : List Char) :
    Tiles (before ++ '/' :: '/' :: (body ++ after)) before.length
      (before.length + 2 + body.length) [] := by
  refine ⟨nofun, List.Pairwise.nil, nofun, fun i hi hi' _ => .inr ?_⟩
  exact ⟨before.length, before.length + 2 + body.length,
    ⟨before, body, after, rfl, hline, hends, rfl, rfl⟩, Nat.le_refl _, hi, hi', Nat.le_refl _,
    nofun⟩

/-- A gap needs no span. -/
theorem Gap.tiles (h : Gap gap rest) (before : List Char) :
    Tiles (before ++ (gap ++ rest)) before.length (before.length + gap.length) [] := by
  induction h generalizing before with
  | none => exact tiles_refl _ _
  | @blank c gap rest hc more ih =>
    have htail := ih (before ++ [c])
    rw [List.append_assoc, List.singleton_append, List.length_append, List.length_singleton]
      at htail
    have hboth := (tiles_blank hc before (gap ++ rest)).append htail (by omega) (by omega)
    rw [List.length_cons, show before.length + (gap.length + 1) =
      before.length + 1 + gap.length by omega]
    exact hboth
  | @comment body gap rest hline hends more ih =>
    have htail := ih (before ++ '/' :: '/' :: body)
    rw [List.append_assoc, List.cons_append, List.cons_append] at htail
    rw [show (before ++ '/' :: '/' :: body).length = before.length + 2 + body.length by
      simp only [List.length_append, List.length_cons]; omega] at htail
    have hboth := (tiles_comment hline hends before).append htail (by omega) (by omega)
    rw [show before.length + ('/' :: '/' :: (body ++ gap)).length =
      before.length + 2 + body.length + gap.length by
        simp only [List.length_append, List.length_cons]; omega]
    rw [List.cons_append, List.cons_append, List.append_assoc]
    exact hboth

/-- A word is tiled by its own span. -/
theorem tiles_word {t : Token} (hne : chars ≠ []) (h : WrittenAs t.kind t.text.toList chars)
    {before : List Char} (ht : t.position = before.length) (rest : List Char) :
    Tiles (before ++ (chars ++ rest)) before.length (before.length + chars.length)
      [⟨t, before.length + chars.length⟩] := by
  have hpos : 0 < chars.length := List.length_pos_iff.2 hne
  have hstart : Span.start ⟨t, before.length + chars.length⟩ = before.length := ht
  constructor
  · intro w hw
    rw [List.mem_singleton.1 hw, hstart]
    exact ⟨Nat.le_refl _, Nat.lt_add_of_pos_right hpos, Nat.le_refl _⟩
  · exact List.pairwise_singleton _ _
  · intro w hw
    rw [List.mem_singleton.1 hw, hstart]
    rw [List.extract_eq_take_drop, List.drop_left, Nat.add_sub_cancel_left, List.take_left]
    exact h
  · intro i hi hi' hout
    refine absurd ⟨?_, hi'⟩ (hout _ List.mem_cons_self)
    rw [hstart]
    exact hi

end Tiles

/-! ### One token -/

/-- What is left of the text behind an outcome. -/
def Lexeme.Outcome.rest : Lexeme.Outcome → List Char
  | .ok l => l.rest
  | .error (_, rest) => rest

namespace Lexer

variable {l following last : Lexer} {t : Token}

/-- What the lexer has left is the end of its text. -/
def Within (l : Lexer) : Prop :=
  l.rest <:+ l.text

theorem position_of_append {before : List Char} (h : before ++ l.rest = l.text) :
    l.position = before.length := by
  rw [position, ← h, List.length_append, Nat.add_sub_cancel_right]

/-- A lexer whose rest is the end of the text stands in the text. -/
theorem Within.position (h : l.Within) :
    l.rest = l.text.drop l.position ∧ l.position ≤ l.text.length := by
  obtain ⟨before, hbefore⟩ := h
  rw [position_of_append hbefore, ← hbefore, List.drop_left, List.length_append]
  exact ⟨rfl, Nat.le_add_right _ _⟩

theorem Within.length_rest (h : l.Within) : l.position + l.rest.length = l.text.length := by
  obtain ⟨before, hbefore⟩ := h
  rw [position_of_append hbefore, ← hbefore, List.length_append]

theorem skipGap_suffix (cs : List Char) : skipGap cs <:+ cs := by
  obtain ⟨gap, hgap, -⟩ := gap_skipGap cs
  exact ⟨gap, hgap.symm⟩

theorem Within.skip (h : l.Within) : l.skip.Within :=
  (skipGap_suffix l.rest).trans h

theorem text_take (outcome : Lexeme.Outcome) : (l.take outcome).2.text = l.text := by
  cases outcome <;> rfl

theorem rest_take (outcome : Lexeme.Outcome) : (l.take outcome).2.rest = outcome.rest := by
  cases outcome <;> rfl

theorem text_next (l : Lexer) : l.next.2.text = l.text :=
  text_take _

theorem rest_read_suffix (signAllowed : Bool) (cs : List Char) :
    (Lexeme.read signAllowed cs).rest <:+ cs := by
  cases h : Lexeme.read signAllowed cs with
  | ok w =>
    obtain ⟨chars, hchars, -⟩ := Lexeme.written_of_read h
    exact ⟨chars, hchars.symm⟩
  | error e =>
    obtain ⟨fault, rest⟩ := e
    rcases Lexeme.stopped_of_read h with ⟨c, -, hrest, -⟩ | ⟨hrest, -⟩
    · exact hrest ▸ List.suffix_refl rest
    · exact hrest

/-- Whatever the next token is, the lexer stays in its text. -/
theorem Within.next (h : l.Within) : l.next.2.Within := by
  rw [Within, Lexer.next, text_take, rest_take]
  exact (rest_read_suffix _ _).trans h.skip

theorem rest_readString_suffix (cs : List Char) : (Lexeme.readString cs).rest <:+ cs := by
  unfold Lexeme.readString
  split
  · rename_i body rest hclose
    obtain ⟨rfl, -⟩ := closeString?_eq_some hclose
    exact ⟨body ++ ['"'], by simp [Lexeme.Outcome.rest]⟩
  · exact List.nil_suffix

theorem rest_readQuotedName_suffix (cs : List Char) :
    (Lexeme.readQuotedName cs).rest <:+ cs := by
  unfold Lexeme.readQuotedName
  split
  · rename_i body rest hclose
    obtain ⟨rfl, -⟩ := closeName?_eq_some hclose
    exact ⟨body ++ ['`'], by simp [Lexeme.Outcome.rest]⟩
  · exact List.nil_suffix

theorem rest_readSource_suffix (cs : List Char) : (Lexeme.readSource cs).rest <:+ cs := by
  unfold Lexeme.readSource
  split
  · exact (rest_readString_suffix _).trans (List.suffix_cons _ _)
  · exact (rest_readQuotedName_suffix _).trans (List.suffix_cons _ _)
  · exact List.dropWhile_suffix _

theorem Within.source (h : l.Within) : l.source.2.Within := by
  rw [Within, Lexer.source, text_take, rest_take]
  exact (rest_readSource_suffix _).trans h.skip

/-- A token is the word that is read behind the gap. -/
theorem next_eq_ok (h : l.next = (.ok t, following)) :
    ∃ w, Lexeme.read l.signAllowed (skipGap l.rest) = .ok w ∧
      t = ⟨w.kind, String.ofList w.text, l.skip.position⟩ ∧
      following = ⟨l.text, w.rest, some w.kind⟩ := by
  have hnext : l.next = l.skip.take (Lexeme.read l.signAllowed (skipGap l.rest)) := rfl
  rw [hnext] at h
  cases hread : Lexeme.read l.signAllowed (skipGap l.rest) with
  | error e =>
    rw [hread] at h
    cases h
  | ok w =>
    rw [hread] at h
    cases h
    exact ⟨w, rfl, rfl, rfl⟩

/-- **One token** takes a gap and a span from the front of what is left. -/
theorem tiles_of_next (hl : l.Within) (h : l.next = (.ok t, following))
    (hkind : t.kind ≠ .finish) :
    l.position < following.position ∧
      Tiles l.text l.position following.position [⟨t, following.position⟩] := by
  obtain ⟨w, hread, rfl, rfl⟩ := next_eq_ok h
  obtain ⟨before, hbefore⟩ := hl
  obtain ⟨gap, hgap, hskipped⟩ := gap_skipGap l.rest
  obtain ⟨chars, hchars, hwritten⟩ := Lexeme.written_of_read hread
  have hne : chars ≠ [] := by
    rintro rfl
    rcases Lexeme.length_read hread with ⟨hfinish, -⟩ | hlt
    · exact hkind hfinish
    · rw [hchars] at hlt
      exact absurd hlt (Nat.lt_irrefl _)
  have hpos : 0 < chars.length := List.length_pos_iff.2 hne
  rw [hchars] at hgap hskipped
  have htext : l.text = before ++ (gap ++ (chars ++ w.rest)) := by
    rw [← hbefore, hgap]
  have hstart : l.position = before.length := position_of_append hbefore
  have hbegin : l.skip.position = (before ++ gap).length := by
    refine position_of_append ?_
    show before ++ gap ++ skipGap l.rest = l.text
    rw [hchars, htext, List.append_assoc]
  have hend : Lexer.position ⟨l.text, w.rest, some w.kind⟩ =
      (before ++ gap).length + chars.length := by
    rw [← List.length_append]
    refine position_of_append ?_
    rw [htext, List.append_assoc, List.append_assoc]
  have hblank : Tiles l.text before.length (before ++ gap).length [] := by
    rw [htext, List.length_append]
    exact hskipped.tiles before
  have hword : Tiles l.text (before ++ gap).length ((before ++ gap).length + chars.length)
      [⟨⟨w.kind, String.ofList w.text, (before ++ gap).length⟩,
        (before ++ gap).length + chars.length⟩] := by
    rw [htext, ← List.append_assoc]
    refine tiles_word hne ?_ rfl w.rest
    rw [String.toList_ofList]
    exact hwritten
  have hle : before.length ≤ (before ++ gap).length := by
    rw [List.length_append]
    exact Nat.le_add_right _ _
  rw [hend, hstart, hbegin]
  exact ⟨by omega, hblank.append hword hle (Nat.le_add_right _ _)⟩

/-- The end mark stands at the end of the text, and there is only a gap in front of it. -/
theorem tiles_of_finish (hl : l.Within) (h : l.next = (.ok t, following))
    (hkind : t.kind = .finish) :
    t = ⟨.finish, "", l.text.length⟩ ∧ following.position = l.text.length ∧
      Tiles l.text l.position l.text.length [] := by
  obtain ⟨w, hread, rfl, rfl⟩ := next_eq_ok h
  obtain ⟨before, hbefore⟩ := hl
  obtain ⟨gap, hgap, hskipped⟩ := gap_skipGap l.rest
  have hnil : skipGap l.rest = [] := Lexeme.eq_nil_of_read hread hkind
  obtain ⟨chars, hchars, hwritten⟩ := Lexeme.written_of_read hread
  obtain ⟨rfl, hrest⟩ := List.append_eq_nil_iff.1 (hchars.symm.trans hnil)
  have htext : l.text = before ++ (gap ++ []) := by
    rw [← hbefore, hgap, hnil]
  have hlength : l.text.length = before.length + gap.length := by
    rw [htext, List.append_nil, List.length_append]
  have hbegin : l.skip.position = l.text.length := by
    refine position_of_append ?_
    show l.text ++ skipGap l.rest = l.text
    rw [hnil, List.append_nil]
  have hempty : w.text = [] := by
    have hkind' : w.kind = .finish := hkind
    rw [hkind'] at hwritten
    exact hwritten.symm
  refine ⟨?_, ?_, ?_⟩
  · rw [hbegin, hempty, show w.kind = .finish from hkind]
  · refine position_of_append ?_
    show l.text ++ w.rest = l.text
    rw [hrest, List.append_nil]
  · rw [position_of_append hbefore, hlength, htext]
    rw [hnil] at hskipped
    exact hskipped.tiles before

/-- A fault stops the lexer behind where it stood, or in front of the character at fault. -/
theorem stopped_of_next {e : LexError} (hl : l.Within) (h : l.next = (.error e, following)) :
    l.position < following.position ∨
      ∃ c, e = ⟨.unexpectedChar c, following.position⟩ ∧
        l.text[following.position]? = some c := by
  have hnext : l.next = l.skip.take (Lexeme.read l.signAllowed (skipGap l.rest)) := rfl
  have hwithin := hl.next
  rw [hnext] at h hwithin
  cases hread : Lexeme.read l.signAllowed (skipGap l.rest) with
  | ok w =>
    rw [hread] at h
    cases h
  | error stop =>
    obtain ⟨fault, rest⟩ := stop
    rw [hread] at h hwithin
    cases h
    rcases Lexeme.stopped_of_read hread with ⟨c, rfl, hrest, hhead⟩ | ⟨-, hlt⟩
    · refine .inr ⟨c, by rw [hrest]; rfl, ?_⟩
      have hdrop : rest = _ := hwithin.position.1
      rw [← hrest, hdrop, List.head?_drop] at hhead
      exact hhead
    · have hskip := (skipGap_suffix l.rest).length_le
      have hbefore := hl.length_rest
      have hbehind : (l.skip.take (.error (fault, rest))).2.position + rest.length =
          l.text.length := hwithin.length_rest
      refine .inl (show l.position < (l.skip.take (.error (fault, rest))).2.position from ?_)
      omega

/-- **Every answer** moves the lexer forward, unless it is the end mark at the end of the text or
complains of the character in front of which the lexer stands. -/
theorem Within.next_cases (hl : l.Within) :
    l.position < l.next.2.position ∨
      (l.next.1 = .ok ⟨.finish, "", l.text.length⟩ ∧ l.next.2.position = l.text.length) ∨
      ∃ c, l.next.1 = .error ⟨.unexpectedChar c, l.next.2.position⟩ ∧
        l.text[l.next.2.position]? = some c := by
  rcases hnext : l.next with ⟨e | t, following⟩
  · rcases stopped_of_next hl hnext with hlt | ⟨c, rfl, hc⟩
    · exact .inl hlt
    · exact .inr (.inr ⟨c, rfl, hc⟩)
  · by_cases hkind : t.kind = .finish
    · obtain ⟨rfl, hposition, -⟩ := tiles_of_finish hl hnext hkind
      exact .inr (.inl ⟨rfl, hposition⟩)
    · exact .inl (tiles_of_next hl hnext hkind).1

/-! ### A run -/

/-- The spans of the tokens that a lexer gives one after the other, none of them the end mark, and
the lexer behind them. -/
inductive Reads : Lexer → List Span → Lexer → Prop
  | refl (l : Lexer) : Reads l [] l
  | token {l following last : Lexer} {t : Token} {spans : List Span}
      (next : l.next = (.ok t, following)) (kind : t.kind ≠ .finish)
      (more : Reads following spans last) : Reads l (⟨t, following.position⟩ :: spans) last

/-- The lexers that calls come to. -/
inductive Reached (s : String) : Lexer → Prop
  | start : Reached s (ofString s)
  | source {l : Lexer} (h : Reached s l) : Reached s l.source.2
  | next {l : Lexer} (h : Reached s l) : Reached s l.next.2
  | tokenize {l : Lexer} (h : Reached s l) : Reached s l.tokenize.2

/-- **A run** tiles the part of the text that it takes. -/
theorem Reads.tiles {spans : List Span} (h : l.Reads spans last) (hl : l.Within) :
    last.Within ∧ last.text = l.text ∧ l.position ≤ last.position ∧
      (∀ w ∈ spans, w.token.kind ≠ .finish) ∧ Tiles l.text l.position last.position spans := by
  induction h with
  | refl l => exact ⟨hl, rfl, Nat.le_refl _, nofun, tiles_refl _ _⟩
  | @token l following last t spans next kind more ih =>
    have hfollowing : l.next.2 = following := congrArg Prod.snd next
    obtain ⟨hlt, hfirst⟩ := tiles_of_next hl next kind
    obtain ⟨hlast, htext, hle, hkinds, hrest⟩ := ih (hfollowing ▸ hl.next)
    have htext' : following.text = l.text := hfollowing ▸ text_next l
    rw [htext'] at htext hrest
    refine ⟨hlast, htext, by omega, ?_, hfirst.append hrest (by omega) hle⟩
    intro w hw
    rcases List.mem_cons.1 hw with rfl | hw
    · exact kind
    · exact hkinds w hw

/-- How reading all tokens ends: with the end mark or with a fault, which is the answer of the lexer
behind the other tokens. -/
def EndsWith (l : Lexer) (spans : List Span) (last : Lexer) : Prop :=
  (∃ mark, last.next.1 = .ok mark ∧ mark.kind = .finish ∧
      l.tokenize = (.ok (spans.map Span.token ++ [mark]), last.next.2)) ∨
    ∃ e, last.next.1 = .error e ∧ l.tokenize = (.error e, last.next.2)

theorem tokenize_of_finish (h : l.next = (.ok t, following)) (hkind : t.kind = .finish) :
    l.tokenize = (.ok [t], following) := by
  rw [tokenize]
  split <;> rename_i heq <;> rw [h] at heq <;> cases heq
  exact dif_pos hkind

theorem tokenize_of_token (h : l.next = (.ok t, following)) (hkind : t.kind ≠ .finish) :
    l.tokenize = (following.tokenize.1.map (t :: ·), following.tokenize.2) := by
  rw [tokenize]
  split <;> rename_i heq <;> rw [h] at heq <;> cases heq
  exact dif_neg hkind

/-- Reading all tokens ends, and there are no more of them than characters. -/
theorem exists_reads (l : Lexer) :
    ∃ spans last, l.Reads spans last ∧ spans.length ≤ l.rest.length ∧ l.EndsWith spans last := by
  fun_induction Lexer.tokenize l with
  | case1 l e stopped hnext =>
    refine ⟨[], l, .refl l, Nat.zero_le _, .inr ⟨e, by rw [hnext], ?_⟩⟩
    rw [tokenize_of_error hnext, hnext]
  | case2 l t following hnext hkind =>
    refine ⟨[], l, .refl l, Nat.zero_le _, .inl ⟨t, by rw [hnext], hkind, ?_⟩⟩
    rw [tokenize_of_finish hnext hkind, hnext]
    rfl
  | case3 l t following hnext hkind tokens stopped hmore ih =>
    obtain ⟨spans, last, hreads, hlength, hends⟩ := ih
    have hlt := length_rest_next (l := l) (t := t) (by rw [hnext]) hkind
    rw [hnext] at hlt
    refine ⟨_, last, .token hnext hkind hreads, Nat.lt_of_le_of_lt hlength hlt, ?_⟩
    rcases hends with ⟨mark, hmark, hfinish, htokens⟩ | ⟨e, he, htokens⟩
    · refine .inl ⟨mark, hmark, hfinish, ?_⟩
      rw [tokenize_of_token hnext hkind, htokens]
      rfl
    · refine .inr ⟨e, he, ?_⟩
      rw [tokenize_of_token hnext hkind, htokens]
      rfl

/-- The lexers that calls come to stand in the text. -/
theorem Reached.within {s : String} (h : Reached s l) : l.text = s.toList ∧ l.Within := by
  induction h with
  | start => exact ⟨rfl, List.suffix_refl _⟩
  | source _ ih => exact ⟨(text_take _).trans ih.1, ih.2.source⟩
  | next _ ih => exact ⟨(text_next _).trans ih.1, ih.2.next⟩
  | @tokenize l _ ih =>
    obtain ⟨htext, hl⟩ := ih
    obtain ⟨spans, last, hreads, -, hends⟩ := l.exists_reads
    obtain ⟨hlast, hsame, -⟩ := hreads.tiles hl
    have hstopped : l.tokenize.2 = last.next.2 := by
      rcases hends with ⟨mark, -, -, htokens⟩ | ⟨e, -, htokens⟩ <;> rw [htokens]
    rw [hstopped]
    exact ⟨(text_next _).trans (hsame.trans htext), hlast.next⟩

/-- The tokens of a whole text tile it, and the end mark stands at its end. -/
theorem tiles_of_tokenize {s : String} {tokens : List Token}
    (h : (ofString s).tokenize.1 = .ok tokens) :
    ∃ spans last, (ofString s).Reads spans last ∧
      tokens = spans.map Span.token ++ [⟨.finish, "", s.length⟩] ∧
      (∀ w ∈ spans, w.token.kind ≠ .finish) ∧ Tiles s.toList 0 s.length spans := by
  obtain ⟨spans, last, hreads, -, hends⟩ := (ofString s).exists_reads
  obtain ⟨hlast, htext, hle, hkinds, htiles⟩ := hreads.tiles (List.suffix_refl _)
  have hlength : last.text.length = s.length := by
    rw [htext]
    exact String.length_toList
  have hstart : (ofString s).position = 0 := Nat.sub_self _
  rcases hends with ⟨mark, hmark, hkind, htokens⟩ | ⟨e, -, htokens⟩
  · obtain ⟨rfl, -, hgap⟩ := tiles_of_finish hlast (Prod.ext hmark rfl) hkind
    rw [htokens, hlength] at h
    rw [hlength, htext] at hgap
    have hboth := htiles.append hgap hle (hlength ▸ hlast.position.2)
    rw [hstart, List.append_nil] at hboth
    exact ⟨spans, last, hreads, (Except.ok.inj h).symm, hkinds, hboth⟩
  · rw [htokens] at h
    cases h

/-- **Tokens tile the text.**  When a text is read as tokens, their spans follow each other without
overlapping, every character outside them is white space or belongs to a comment, each token is
written as its span, and the only end mark stands behind the last character.  A lexer stays in its
text, whatever has been asked of it before; its next answer moves it forward, is the end mark at the
end, or complains of the character in front of which it is left; and so reading all tokens ends. -/
theorem tokenize_tiles :
    (∀ (s : String) (tokens : List Token), (ofString s).tokenize.1 = .ok tokens →
      ∃ spans last, (ofString s).Reads spans last ∧
        tokens = spans.map Span.token ++ [⟨.finish, "", s.length⟩] ∧
        (∀ w ∈ spans, w.token.kind ≠ .finish) ∧ Tiles s.toList 0 s.length spans) ∧
    ∀ (s : String) (l : Lexer), Reached s l →
      (l.rest = s.toList.drop l.position ∧ l.position ≤ s.length) ∧
      (l.next.2.rest = s.toList.drop l.next.2.position ∧ l.next.2.position ≤ s.length) ∧
      (l.position < l.next.2.position ∨
        (l.next.1 = .ok ⟨.finish, "", s.length⟩ ∧ l.next.2.position = s.length) ∨
        ∃ c, l.next.1 = .error ⟨.unexpectedChar c, l.next.2.position⟩ ∧
          s.toList[l.next.2.position]? = some c) ∧
      ∃ spans last, l.Reads spans last ∧ spans.length ≤ s.length - l.position ∧
        l.EndsWith spans last := by
  refine ⟨fun s tokens h => tiles_of_tokenize h, fun s l h => ?_⟩
  obtain ⟨htext, hl⟩ := h.within
  obtain ⟨htext', hl'⟩ := h.next.within
  have hlength : l.text.length = s.length := by
    rw [htext]
    exact String.length_toList
  refine ⟨?_, ?_, ?_, ?_⟩
  · rw [← htext, ← hlength]
    exact hl.position
  · have hposition := hl'.position
    rwa [text_next, hlength, htext] at hposition
  · rw [← htext, ← hlength]
    exact hl.next_cases
  · obtain ⟨spans, last, hreads, hle, hends⟩ := l.exists_reads
    have hrest := hl.length_rest
    exact ⟨spans, last, hreads, by omega, hends⟩

set_option maxRecDepth 2000 in
/-- A sign, an escape and a comment: the text of the string is shorter than its span.  And a
character that begins no word: the lexer is left in front of it and can be asked again. -/
theorem tokenize_tiles_escaped :
    (∃ spans last, (ofString "-1 \"\\\"\" // x").Reads spans last ∧
      spans.map Span.token = [⟨.integer, "-1", 0⟩, ⟨.string, "\"", 3⟩] ∧
      Tiles "-1 \"\\\"\" // x".toList 0 12 spans) ∧
    ∃ l, Reached "a ?" l ∧ l.position = 2 ∧ l.rest = ['?'] ∧ ¬l.position < l.next.2.position ∧
      ∃ c, l.next.1 = .error ⟨.unexpectedChar c, l.next.2.position⟩ ∧
        "a ?".toList[l.next.2.position]? = some c := by
  constructor
  · have htokens : (ofString "-1 \"\\\"\" // x").tokenize.1 =
        .ok ([⟨.integer, "-1", 0⟩, ⟨.string, "\"", 3⟩] ++ [⟨.finish, "", 12⟩]) := by
      with_unfolding_all rfl
    obtain ⟨spans, last, hreads, hspans, -, htiles⟩ := tokenize_tiles.1 _ _ htokens
    exact ⟨spans, last, hreads, (List.append_cancel_right hspans).symm, htiles⟩
  · have hreached : Reached "a ?" (ofString "a ?").next.2.next.2 := .next (.next .start)
    have hposition : (ofString "a ?").next.2.next.2.position = 2 := by with_unfolding_all rfl
    have hmore : (ofString "a ?").next.2.next.2.next.2.position = 2 := by with_unfolding_all rfl
    obtain ⟨⟨hrest, -⟩, -, hcases, -⟩ := tokenize_tiles.2 "a ?" _ hreached
    rw [hposition, hmore] at hcases
    rw [hposition] at hrest
    refine ⟨_, hreached, hposition, hrest, by rw [hposition, hmore]; decide, ?_⟩
    rw [hmore]
    rcases hcases with hlt | ⟨-, hfinish⟩ | hfault
    · exact absurd hlt (by decide)
    · exact absurd hfinish (by decide)
    · exact hfault

end Lexer

end TablePipeline
