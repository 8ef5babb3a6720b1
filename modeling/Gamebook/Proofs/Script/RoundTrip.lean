import Gamebook.Proofs.Script.Lexemes
import Gamebook.Proofs.Script.Reading

/-! # Expressions are read back from their texts

An expression is written with parentheses around the operands that bind looser than their place
asks for, and around no others (`Writes`). Whatever spellings of the operators and whatever blanks
are taken, the text is read as the same expression, and no tokens that are read as it are fewer
(`reads_back_of_writable`).
-/

namespace Gamebook.Script

/-- The stratum that an operator belongs to. -/
def BinaryOp.stratum : BinaryOp → Stratum
  | .or => .disjunction
  | .and => .conjunction
  | .eq | .ne => .equality
  | .lt | .gt | .le | .ge => .comparison
  | .add | .sub => .additive
  | .mul | .div | .rem => .multiplicative

/-- The tightest stratum that an expression is of without parentheses. -/
def Expr.stratum : Expr → Stratum
  | .literal _ => .primary
  | .var _ => .primary
  | .unary .. => .unary
  | .binary op .. => op.stratum

/-- What an expression is written with where one of the stratum is asked for. -/
inductive Writes : Stratum → Expr → List Token → Prop where
  | number {t : Stratum} (x : Float) : Writes t (.literal (.number x)) [.number x]
  | string {t : Stratum} (s : String) : Writes t (.literal (.string s)) [.string s]
  | true {t : Stratum} : Writes t (.literal (.boolean true)) [.word "true"]
  | false {t : Stratum} : Writes t (.literal (.boolean false)) [.word "false"]
  | var {t : Stratum} {name : String} (hname : isReserved name = false) :
      Writes t (.var name) [.word name]
  | unary {t : Stratum} {token : Token} {op : UnaryOp} {operand : Expr} {tokens : List Token}
      (ht : t.rank ≤ Stratum.unary.rank) (hop : (token, op) ∈ unaryOperators)
      (h : Writes .unary operand tokens) : Writes t (.unary op operand) (token :: tokens)
  | binary {t s : Stratum} {token : Token} {op : BinaryOp} {left right : Expr}
      {lefts rights : List Token} (ht : t.rank ≤ s.rank) (hop : (token, op) ∈ s.operators)
      (hleft : Writes s left lefts) (hright : Writes s.next right rights) :
      Writes t (.binary op left right) (lefts ++ token :: rights)
  | group {t : Stratum} {e : Expr} {tokens : List Token} (ht : e.stratum.rank < t.rank)
      (h : Writes .disjunction e tokens) : Writes t e (.leftParen :: tokens ++ [.rightParen])

/-- An expression whose variables have names and whose numbers have texts that read back. -/
def Expr.Writable (decimal : Float → List Char) : Expr → Prop
  | .literal (.boolean _) => True
  | .literal (.number x) => ReadsBack decimal x
  | .literal (.string _) => True
  | .var name => isReserved name = false ∧ isName name.toList = true
  | .unary _ operand => operand.Writable decimal
  | .binary _ left right => left.Writable decimal ∧ right.Writable decimal

/-- A text of an expression: what it is written with, with blanks between the tokens. -/
def IsText (decimal : Float → List Char) (e : Expr) (text : List Char) : Prop :=
  ∃ tokens, Writes .disjunction e tokens ∧ Spaced decimal tokens text

variable {decimal : Float → List Char} {s t : Stratum} {token : Token} {tokens : List Token}
  {e : Expr}

theorem BinaryOp.rank_stratum (op : BinaryOp) : op.stratum.rank = op.level := by
  cases op <;> rfl

theorem eq_stratum_of_mem_operators {op : BinaryOp} (h : (token, op) ∈ s.operators) :
    s = op.stratum := by
  apply Stratum.eq_of_rank_eq
  rw [op.rank_stratum, level_eq_rank h]

theorem BinaryOp.exists_token (op : BinaryOp) : ∃ token, (token, op) ∈ op.stratum.operators := by
  cases op <;> simp [BinaryOp.stratum, Stratum.operators]

theorem UnaryOp.exists_token (op : UnaryOp) : ∃ token, (token, op) ∈ unaryOperators := by
  cases op <;> simp [unaryOperators]

/-! ## What is written is of the grammar -/

theorem Writes.derives (h : Writes t e tokens) : Derives t tokens e := by
  induction h with
  | number x => exact (Derives.number x).loosen (Stratum.rank_le_primary _)
  | string s => exact (Derives.string s).loosen (Stratum.rank_le_primary _)
  | true => exact Derives.true.loosen (Stratum.rank_le_primary _)
  | false => exact Derives.false.loosen (Stratum.rank_le_primary _)
  | var hname => exact (Derives.var hname).loosen (Stratum.rank_le_primary _)
  | unary ht hop h ih => exact (Derives.unary hop ih).loosen ht
  | binary ht hop hleft hright ihleft ihright =>
      exact (Derives.binary hop ihleft ihright).loosen ht
  | group ht h ih => exact (Derives.group ih).loosen (Stratum.rank_le_primary _)

/-- What stands without parentheses where little is asked for does so wherever the expression is of
the stratum that is asked for. -/
theorem exists_writes_of_exists_bare
    (h : ∃ tokens, ∀ s : Stratum, s.rank ≤ e.stratum.rank → Writes s e tokens) (t : Stratum) :
    ∃ tokens, Writes t e tokens := by
  obtain ⟨tokens, hbare⟩ := h
  by_cases ht : t.rank ≤ e.stratum.rank
  · exact ⟨tokens, hbare t ht⟩
  · exact ⟨_, .group (Nat.not_le.1 ht) (hbare .disjunction e.stratum.rank_pos)⟩

theorem exists_bare (h : e.Writable decimal) :
    ∃ tokens, ∀ s : Stratum, s.rank ≤ e.stratum.rank → Writes s e tokens := by
  induction e with
  | literal value =>
      cases value with
      | boolean b =>
          cases b with
          | true => exact ⟨_, fun _ _ => .true⟩
          | false => exact ⟨_, fun _ _ => .false⟩
      | number x => exact ⟨_, fun _ _ => .number x⟩
      | string s => exact ⟨_, fun _ _ => .string s⟩
  | var name => exact ⟨_, fun _ _ => .var h.1⟩
  | unary op operand ih =>
      obtain ⟨token, hop⟩ := op.exists_token
      obtain ⟨tokens, hoperand⟩ := exists_writes_of_exists_bare (ih h) .unary
      exact ⟨_, fun s hs => .unary hs hop hoperand⟩
  | binary op left right ihleft ihright =>
      obtain ⟨token, hop⟩ := op.exists_token
      obtain ⟨lefts, hleft⟩ := exists_writes_of_exists_bare (ihleft h.1) op.stratum
      obtain ⟨rights, hright⟩ := exists_writes_of_exists_bare (ihright h.2) op.stratum.next
      exact ⟨_, fun s hs => .binary hs hop hleft hright⟩

theorem isName_of_isReserved {name : String} (h : isReserved name = true) :
    isName name.toList = true := by
  have hall : ∀ name ∈ ["true", "false", "and", "or", "not"], isName name.toList = true := by
    decide +kernel
  exact hall name (by simpa [isReserved] using h)

theorem writable_of_mem_unaryOperators {op : UnaryOp} (h : (token, op) ∈ unaryOperators) :
    token.Writable decimal := by
  cases token with
  | number x => simp [unaryOperators] at h
  | word name =>
      apply isName_of_isReserved
      simp [unaryOperators] at h
      simp [isReserved, h]
  | _ => trivial

theorem writable_of_mem_operators {op : BinaryOp} (h : (token, op) ∈ s.operators) :
    token.Writable decimal := by
  cases token with
  | number x => cases s <;> simp [Stratum.operators] at h
  | word name =>
      apply isName_of_isReserved
      cases s <;> simp [Stratum.operators] at h <;> simp [isReserved, h]
  | _ => trivial

theorem Writes.writable (h : Writes t e tokens) (hwritable : e.Writable decimal)
    (hmem : token ∈ tokens) : token.Writable decimal := by
  induction h with
  | number x =>
      rw [List.mem_singleton.1 hmem]
      exact hwritable
  | string s =>
      rw [List.mem_singleton.1 hmem]
      trivial
  | true =>
      rw [List.mem_singleton.1 hmem]
      exact isName_of_isReserved (by decide)
  | false =>
      rw [List.mem_singleton.1 hmem]
      exact isName_of_isReserved (by decide)
  | var hname =>
      rw [List.mem_singleton.1 hmem]
      exact hwritable.2
  | unary ht hop h ih =>
      rcases List.mem_cons.1 hmem with rfl | hmem
      · exact writable_of_mem_unaryOperators hop
      · exact ih hwritable hmem
  | binary ht hop hleft hright ihleft ihright =>
      rcases List.mem_append.1 hmem with hmem | hmem
      · exact ihleft hwritable.1 hmem
      · rcases List.mem_cons.1 hmem with rfl | hmem
        · exact writable_of_mem_operators hop
        · exact ihright hwritable.2 hmem
  | group ht h ih =>
      simp only [List.cons_append, List.mem_cons, List.mem_append, List.not_mem_nil, or_false]
        at hmem
      rcases hmem with rfl | hmem | rfl
      · trivial
      · exact ih hwritable hmem
      · trivial

/-! ## No more parentheses than needed -/

theorem Writes.bare_or_group (h : Writes t e tokens) :
    Writes .disjunction e tokens ∨ ∃ inner, tokens = .leftParen :: inner ++ [.rightParen] ∧
      Writes .disjunction e inner := by
  cases h with
  | number x => exact Or.inl (.number x)
  | string s => exact Or.inl (.string s)
  | true => exact Or.inl .true
  | false => exact Or.inl .false
  | var hname => exact Or.inl (.var hname)
  | unary ht hop h => exact Or.inl (.unary (by decide) hop h)
  | @binary _ s _ _ _ _ _ _ ht hop hleft hright =>
      exact Or.inl (.binary s.rank_pos hop hleft hright)
  | group ht h => exact Or.inr ⟨_, rfl, h⟩

/-- No derivation of an expression has fewer tokens than it is written with. -/
theorem Writes.length_le {other : List Token} (h : Writes t e tokens) (hother : Derives s other e)
    (hrank : t.rank ≤ s.rank) : tokens.length ≤ other.length := by
  induction hother generalizing t tokens with
  | @group inner e hinner ih =>
      rw [List.cons_append, List.length_cons, List.length_append, List.length_singleton]
      rcases h.bare_or_group with hbare | ⟨within, rfl, hbare⟩
      · have hlength := ih hbare (Nat.le_refl _)
        omega
      · have hlength := ih hbare (Nat.le_refl _)
        rw [List.cons_append, List.length_cons, List.length_append, List.length_singleton]
        omega
  | unary hop hinner ih =>
      cases h with
      | unary ht hop h =>
          have hlength := ih h (Nat.le_refl _)
          simp only [List.length_cons]
          omega
      | group ht h => exact absurd hrank (Nat.not_le.2 ht)
  | @binary s token op lefts rights left right hop hleft hright ihleft ihright =>
      cases h with
      | @binary _ s' _ _ _ _ _ _ ht hop' hleft' hright' =>
          have hsame : s' = s := by
            rw [eq_stratum_of_mem_operators hop, eq_stratum_of_mem_operators hop']
          subst hsame
          have hlefts := ihleft hleft' (Nat.le_refl _)
          have hrights := ihright hright' (Nat.le_refl _)
          simp only [List.length_append, List.length_cons]
          omega
      | group ht h =>
          rw [eq_stratum_of_mem_operators hop] at hrank
          exact absurd hrank (Nat.not_le.2 ht)
  | @descend s other e hinner ih => exact ih h (Nat.le_trans hrank s.rank_le_rank_next)
  | _ =>
      -- One token is the least, and what stands by itself is never put in parentheses.
      cases h with
      | group ht h => exact absurd t.rank_le_primary (Nat.not_le.2 ht)
      | _ => exact Nat.le_refl _

/-- An expression can be written as a text, every text of it is read as the same expression, and no
tokens that are read as it are fewer than those that it is written with. -/
theorem reads_back_of_writable (decimal : Float → List Char) (e : Expr)
    (h : e.Writable decimal) :
    (∃ text, IsText decimal e text) ∧
    (∀ text, IsText decimal e text → Expr.ofText text = .ok e) ∧
    (∀ tokens other, Writes .disjunction e tokens → Expr.ofTokens other none = .ok e →
      tokens.length ≤ other.length) := by
  refine ⟨?_, ?_, ?_⟩
  · obtain ⟨tokens, hwrites⟩ := exists_writes_of_exists_bare (exists_bare h) .disjunction
    exact ⟨_, tokens, hwrites, spaced_lineOf decimal hwrites.derives.ne_nil⟩
  · rintro text ⟨tokens, hwrites, hspaced⟩
    rw [ofText_of_spaced hspaced fun token hmem => hwrites.writable h hmem]
    exact ofTokens_of_derives hwrites.derives none
  · intro tokens other hwrites hread
    exact hwrites.length_le (ofTokens_iff_derives.1 hread) (Nat.le_refl _)

/-- The text of a number without an exponent. -/
def plainText (x : Float) : List Char :=
  (Number.Layout.plain.render x).toList

/-- A product whose factors are a sum and a negated string. -/
def product : Expr :=
  .binary .mul (.binary .add (.literal (.number 2.5)) (.var "gold"))
    (.unary .not (.literal (.string "a\"b\\")))

/-- The product is read back from a text that writes the negation as a word. -/
theorem reads_back_of_writable_product :
    product.Writable plainText ∧
      Expr.ofText "( 2.5 + gold ) * not \"a\\\"b\\\\\"".toList = .ok product := by
  have hwritable : product.Writable plainText := by
    refine ⟨⟨⟨?_, ?_⟩, ?_, ?_⟩, trivial⟩
    all_goals decide +kernel
  have hsum : Writes .multiplicative (.binary .add (.literal (.number 2.5)) (.var "gold"))
      [.leftParen, .number 2.5, .plus, .word "gold", .rightParen] :=
    .group (by decide) (.binary (by decide) (s := .additive) (by simp [Stratum.operators])
      (.number 2.5) (.var (by decide)))
  have hnot : Writes .unary (.unary .not (.literal (.string "a\"b\\")))
      [.word "not", .string "a\"b\\"] :=
    .unary (by decide) (by simp [unaryOperators]) (.string _)
  have hproduct : Writes .disjunction product
      ([.leftParen, .number 2.5, .plus, .word "gold", .rightParen] ++
        .star :: [.word "not", .string "a\"b\\"]) :=
    .binary (by decide) (s := .multiplicative) (by simp [Stratum.operators]) hsum hnot
  refine ⟨hwritable, (reads_back_of_writable plainText product hwritable).2.1 _ ⟨_, hproduct, ?_⟩⟩
  have htext : "( 2.5 + gold ) * not \"a\\\"b\\\\\"".toList = lineOf plainText
      ([.leftParen, .number 2.5, .plus, .word "gold", .rightParen] ++
        .star :: [.word "not", .string "a\"b\\"]) := by
    decide +kernel
  rw [htext]
  exact spaced_lineOf plainText (by simp)

end Gamebook.Script
