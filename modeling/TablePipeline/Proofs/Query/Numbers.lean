import Mathlib.Data.List.Chain
import TablePipeline.Proofs.Query.Cuts
import TablePipeline.Proofs.Query.Signs

/-!
# Numbers among the tokens

The lexer gives a number only if its text can be stored, and it gives a number with a sign only
where no operand has ended.  So the texts of numbers can be converted wherever they come up again,
and an integer behind a name is a count: digits without a sign, in the range of integers.

The second fact is about neighbours, since the lexer decides on a sign by the kind of the token
before.  It holds of the tokens of any one reading of all that remains (`Lexer.convertible`), from
whatever state the lexer begins it, as after a fault; only the first token has its neighbour
outside.

## Main definitions

* `Token.IsStorable` — the text of a number can be stored
* `Unsigned` — behind a token that ends an operand an integer is a count
* `Convertible` — both, for tokens in a row

## Main statements

* `Lexer.storable_of_next`, `Lexer.unsigned_of_next` — one token
* `Lexer.convertible` — all tokens
-/

namespace TablePipeline

/-- The text of an integer is that of an integer in range, and the text of a float that of a
float. -/
structure Token.IsStorable (t : Token) : Prop where
  integer : t.kind = .integer → (readInteger? t.text.toList).isSome = true
  float : t.kind = .float → (readFloat? t.text.toList).isSome = true

/-- The text is that of a count, which is an integer in range that is not negative. -/
def IsCount (cs : List Char) : Prop :=
  ∃ n : Int64, readInteger? cs = some n ∧ 0 ≤ n.toInt ∧ readCount? cs = some n.toInt.toNat

/-- Where the first token ends an operand and the second one is an integer, that is a count. -/
def Unsigned (t u : Token) : Prop :=
  t.kind.endsOperand = true → u.kind = .integer → IsCount u.text.toList

/-- Tokens in a row whose numbers can be converted. -/
structure Convertible (ts : List Token) : Prop where
  storable : ∀ t ∈ ts, t.IsStorable
  unsigned : ts.IsChain Unsigned

/-! ### Rows of tokens -/

section Rows

variable {t u : Token} {ts us : List Token}

theorem convertible_nil : Convertible [] :=
  ⟨fun _ ht => absurd ht List.not_mem_nil, .nil⟩

theorem convertible_cons_iff :
    Convertible (t :: ts) ↔
      t.IsStorable ∧ (∀ u, ts.head? = some u → Unsigned t u) ∧ Convertible ts := by
  constructor
  · intro h
    obtain ⟨ht, hts⟩ := List.forall_mem_cons.1 h.storable
    obtain ⟨hhead, hchain⟩ := List.isChain_cons.1 h.unsigned
    exact ⟨ht, hhead, hts, hchain⟩
  · rintro ⟨ht, hhead, hts⟩
    exact ⟨List.forall_mem_cons.2 ⟨ht, hts.storable⟩, List.isChain_cons.2 ⟨hhead, hts.unsigned⟩⟩

theorem Convertible.head (h : Convertible (t :: ts)) : t.IsStorable :=
  (convertible_cons_iff.1 h).1

theorem Convertible.tail (h : Convertible (t :: ts)) : Convertible ts :=
  (convertible_cons_iff.1 h).2.2

theorem Convertible.next (h : Convertible (t :: u :: ts)) : Unsigned t u :=
  (convertible_cons_iff.1 h).2.1 u rfl

theorem Convertible.part (h : Convertible ts) (hus : us <:+: ts) : Convertible us :=
  ⟨fun t ht => h.storable t (hus.subset ht), List.IsChain.infix h.unsigned hus⟩

/-- A name ends an operand. -/
theorem Convertible.isCount_of_name (h : Convertible (t :: u :: ts)) (ht : t.kind = .name)
    (hu : u.kind = .integer) : IsCount u.text.toList :=
  h.next (by rw [ht]; rfl) hu

end Rows

/-! ### Words -/

section Words

variable {signAllowed : Bool} {cs : List Char} {l : Lexeme}

theorem ne_number_of_punctuation? {kind : Token.Kind} {width : Nat}
    (h : punctuation? cs = some (kind, width)) : kind ≠ .integer ∧ kind ≠ .float := by
  unfold punctuation? at h
  split at h
  all_goals cases h
  all_goals exact ⟨nofun, nofun⟩

theorem ne_number_of_keyword (word : String) :
    (Token.Kind.ofKeyword? word).getD .name ≠ .integer ∧
      (Token.Kind.ofKeyword? word).getD .name ≠ .float := by
  unfold Token.Kind.ofKeyword?
  split <;> exact ⟨nofun, nofun⟩

/-- Only where a number begins is one read. -/
theorem Lexeme.readNumber_of_read (h : Lexeme.read signAllowed cs = .ok l)
    (hl : l.kind = .integer ∨ l.kind = .float) :
    startsNumber signAllowed cs = true ∧ Lexeme.readNumber cs = .ok l := by
  rw [Lexeme.read.eq_def] at h
  split at h
  · rename_i hstarts
    exact ⟨hstarts, h⟩
  · exfalso
    suffices hne : l.kind ≠ .integer ∧ l.kind ≠ .float from hl.elim hne.1 hne.2
    split at h
    · rename_i hp
      cases h
      exact ne_number_of_punctuation? hp
    · split at h
      · cases h
        constructor <;> (intro hkind; cases hkind)
      · unfold Lexeme.readString at h
        split at h <;> cases h
        constructor <;> (intro hkind; cases hkind)
      · unfold Lexeme.readQuotedName at h
        split at h <;> cases h
        constructor <;> (intro hkind; cases hkind)
      · split at h
        · cases h
          exact ne_number_of_keyword _
        · cases h

theorem Lexeme.eq_cutNumber_of_readNumber (h : Lexeme.readNumber cs = .ok l) :
    l = Lexeme.cutNumber cs ∧ l.isStorable = true := by
  simp only [Lexeme.readNumber] at h
  split at h
  · rename_i hstorable
    cases h
    exact ⟨rfl, hstorable⟩
  · cases h

/-- The text of a number that is read can be stored. -/
theorem Lexeme.storable_of_read (h : Lexeme.read signAllowed cs = .ok l) :
    (l.kind = .integer → (readInteger? l.text).isSome = true) ∧
      (l.kind = .float → (readFloat? l.text).isSome = true) := by
  have hstorable : l.kind = .integer ∨ l.kind = .float → l.isStorable = true := fun hl =>
    (Lexeme.eq_cutNumber_of_readNumber (Lexeme.readNumber_of_read h hl).2).2
  constructor
  · intro hkind
    have hread := hstorable (.inl hkind)
    rwa [Lexeme.isStorable, if_neg (by rw [hkind]; decide)] at hread
  · intro hkind
    have hread := hstorable (.inr hkind)
    rwa [Lexeme.isStorable, if_pos hkind] at hread

/-- Digits that can be stored as an integer are a count. -/
theorem isCount_of_startsDigit (hcs : startsDigit cs = true)
    (h : (readInteger? cs).isSome = true) : IsCount cs := by
  obtain ⟨n, hn⟩ := Option.isSome_iff_exists.1 h
  have hvalue := hn
  rw [readInteger?, splitSign_of_startsDigit hcs] at hvalue
  obtain ⟨k, hk, hnarrow⟩ := Option.bind_eq_some_iff.1 hvalue
  have hint : n.toInt = k := narrow?_eq_some_iff.1 hnarrow
  have hle : k ≤ greatestCount := by
    have hfits := fits_toInt n
    simp only [Fits, leastInteger, greatestInteger, hint] at hfits
    rw [greatestCount]
    omega
  refine ⟨n, hn, by omega, ?_⟩
  rw [readCount?, hk, Option.bind_some, if_pos hle, hint, Int.toNat_natCast]

theorem startsDigit_of_not_signAllowed (h : startsNumber false cs = true) :
    startsDigit cs = true ∧ minusOf cs = ([], cs) := by
  unfold startsNumber at h
  split at h
  · cases h
  · rename_i hne
    exact ⟨h, minusOf_of_ne fun rest => hne rest⟩

/-- An integer that is read where no sign is allowed is a count. -/
theorem Lexeme.isCount_of_read (h : Lexeme.read false cs = .ok l) (hkind : l.kind = .integer) :
    IsCount l.text := by
  obtain ⟨hstarts, hnumber⟩ := Lexeme.readNumber_of_read h (.inl hkind)
  obtain ⟨hdigit, hminus⟩ := startsDigit_of_not_signAllowed hstarts
  obtain ⟨hcut, -⟩ := Lexeme.eq_cutNumber_of_readNumber hnumber
  have htext : l.text = digitsOf cs := by
    rw [hcut] at hkind ⊢
    simp only [Lexeme.cutNumber, hminus] at hkind ⊢
    split at hkind
    · rename_i hfraction
      rw [List.isEmpty_iff.1 hfraction, List.append_nil, List.nil_append]
    · cases hkind
  refine isCount_of_startsDigit ?_ ((Lexeme.storable_of_read h).1 hkind)
  have hdigits := startsDigit_digitsOf cs [] hdigit
  rwa [List.append_nil, ← htext] at hdigits

end Words

/-! ### Tokens -/

namespace Lexer

variable {l following : Lexer} {t : Token} {tokens : List Token}

/-- A token is the word that is read behind the gap. -/
theorem exists_read (h : l.next = (.ok t, following)) :
    ∃ w, Lexeme.read l.signAllowed l.skip.rest = .ok w ∧ t.kind = w.kind ∧
      t.text.toList = w.text ∧ following.last = some t.kind := by
  rw [next, take.eq_def] at h
  split at h
  · rename_i w hread
    cases h
    exact ⟨w, hread, rfl, String.toList_ofList, rfl⟩
  · cases h

theorem storable_of_next (h : l.next = (.ok t, following)) : t.IsStorable := by
  obtain ⟨w, hread, hkind, htext, -⟩ := exists_read h
  obtain ⟨hinteger, hfloat⟩ := Lexeme.storable_of_read hread
  rw [← hkind, ← htext] at hinteger hfloat
  exact ⟨hinteger, hfloat⟩

/-- Behind the last token the next one has no sign, if that ends an operand. -/
theorem unsigned_of_next {last : Token} (hlast : l.last = some last.kind)
    (h : l.next = (.ok t, following)) : Unsigned last t := by
  intro hends hinteger
  obtain ⟨w, hread, hkind, htext, -⟩ := exists_read h
  have hsign : l.signAllowed = false := by
    rw [signAllowed, hlast]
    exact congrArg Bool.not hends
  rw [hsign] at hread
  rw [htext]
  exact Lexeme.isCount_of_read hread (hkind.symm.trans hinteger)

/-- **The numbers among all tokens that remain can be converted**, in whatever state the lexer is
when it is asked for them. -/
theorem convertible (h : l.tokenize.1 = .ok tokens) :
    Convertible tokens ∧ ∀ last t, l.last = some last.kind → tokens.head? = some t →
      Unsigned last t := by
  fun_induction Lexer.tokenize l generalizing tokens with
  | case1 l e stopped _ => cases h
  | case2 l t following hnext hfinish =>
    cases h
    refine ⟨convertible_cons_iff.2 ⟨storable_of_next hnext, ?_, convertible_nil⟩, ?_⟩
    · intro u hu
      cases hu
    · intro last t' hlast ht
      cases ht
      exact unsigned_of_next hlast hnext
  | case3 l t following hnext hne more stopped hmore ih =>
    obtain ⟨w, -, -, -, hfollowing⟩ := exists_read hnext
    cases more with
    | error e => cases h
    | ok rest =>
      cases h
      have hrun : following.tokenize.1 = .ok rest := by rw [hmore]
      obtain ⟨hrest, hhead⟩ := ih hrun
      refine ⟨convertible_cons_iff.2 ⟨storable_of_next hnext, fun u hu => ?_, hrest⟩, ?_⟩
      · exact hhead t u hfollowing hu
      · intro last t' hlast ht
        cases ht
        exact unsigned_of_next hlast hnext

end Lexer

end TablePipeline
