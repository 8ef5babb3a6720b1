import Gamebook.Script.Parse

/-! # The grammar of scripts

Expressions are layered: a stratum joins operands of the next stratum by operators of its own, from
the left to the right. `Derives` says which tokens form which expression, and `derives_iff_chain`
that a row of operands is taken together from the left. A script is a row of statements with
semicolons between them and, if need be, around them.
-/

namespace Gamebook.Script

/-- The strata of expressions, from the loosest operators to what needs none. -/
inductive Stratum where
  | disjunction
  | conjunction
  | equality
  | comparison
  | additive
  | multiplicative
  | unary
  | primary
deriving DecidableEq, Repr

namespace Stratum

/-- The stratum that binds tighter by one step. -/
def next : Stratum → Stratum
  | disjunction => conjunction
  | conjunction => equality
  | equality => comparison
  | comparison => additive
  | additive => multiplicative
  | multiplicative => unary
  | unary => primary
  | primary => primary

/-- How tightly a stratum binds. -/
def rank : Stratum → Nat
  | disjunction => 1
  | conjunction => 2
  | equality => 3
  | comparison => 4
  | additive => 5
  | multiplicative => 6
  | unary => 7
  | primary => 8

/-- The operators with two operands that belong to a stratum, each with a token that it is written
with. -/
def operators : Stratum → List (Token × BinaryOp)
  | disjunction => [(.orOr, .or), (.word "or", .or)]
  | conjunction => [(.andAnd, .and), (.word "and", .and)]
  | equality => [(.eq, .eq), (.ne, .ne)]
  | comparison => [(.lt, .lt), (.gt, .gt), (.le, .le), (.ge, .ge)]
  | additive => [(.plus, .add), (.minus, .sub)]
  | multiplicative => [(.star, .mul), (.slash, .div), (.percent, .rem)]
  | unary => []
  | primary => []

end Stratum

/-- The operators with one operand, each with a token that it is written with. -/
def unaryOperators : List (Token × UnaryOp) :=
  [(.minus, .negate), (.bang, .not), (.word "not", .not)]

/-- Tokens form an expression of a stratum. -/
inductive Derives : Stratum → List Token → Expr → Prop where
  | number (x : Float) : Derives .primary [.number x] (.literal (.number x))
  | string (s : String) : Derives .primary [.string s] (.literal (.string s))
  | true : Derives .primary [.word "true"] (.literal (.boolean true))
  | false : Derives .primary [.word "false"] (.literal (.boolean false))
  | var {name : String} (hname : isReserved name = false) :
      Derives .primary [.word name] (.var name)
  | group {tokens : List Token} {e : Expr} (h : Derives .disjunction tokens e) :
      Derives .primary (.leftParen :: tokens ++ [.rightParen]) e
  | unary {token : Token} {op : UnaryOp} {tokens : List Token} {e : Expr}
      (hop : (token, op) ∈ unaryOperators) (h : Derives .unary tokens e) :
      Derives .unary (token :: tokens) (.unary op e)
  | binary {s : Stratum} {token : Token} {op : BinaryOp} {lefts rights : List Token}
      {left right : Expr} (hop : (token, op) ∈ s.operators) (hleft : Derives s lefts left)
      (hright : Derives s.next rights right) :
      Derives s (lefts ++ token :: rights) (.binary op left right)
  | descend {s : Stratum} {tokens : List Token} {e : Expr} (h : Derives s.next tokens e) :
      Derives s tokens e

/-- An operator, its token and the operand on its right. -/
structure Link where
  token : Token
  op : BinaryOp
  tokens : List Token
  operand : Expr

/-- A link of a stratum: the operator is of the stratum and the operand of the next. -/
def Link.Fits (s : Stratum) (link : Link) : Prop :=
  (link.token, link.op) ∈ s.operators ∧ Derives s.next link.tokens link.operand

/-- The tokens of a link. -/
def Link.source (link : Link) : List Token :=
  link.token :: link.tokens

/-- An expression with a link behind it. -/
def Link.join (left : Expr) (link : Link) : Expr :=
  .binary link.op left link.operand

/-- Tokens form a statement. -/
inductive IsStatement : List Token → Statement → Prop where
  | assign {name : String} {tokens : List Token} {e : Expr} (hname : isReserved name = false)
      (h : Derives .disjunction tokens e) :
      IsStatement (.word name :: .assign :: tokens) (.assign name e)
  | expr {tokens : List Token} {e : Expr} (h : Derives .disjunction tokens e) :
      IsStatement tokens (.expr e)

/-- Tokens form statements with semicolons between them and perhaps after them. -/
inductive Row : List Token → List Statement → Prop where
  | last {tokens : List Token} {statement : Statement} (h : IsStatement tokens statement)
      (trailing : Nat) : Row (tokens ++ List.replicate trailing .semicolon) [statement]
  | more {tokens rest : List Token} {statement : Statement} {statements : List Statement}
      (h : IsStatement tokens statement) (extra : Nat) (hrest : Row rest statements) :
      Row (tokens ++ List.replicate (extra + 1) .semicolon ++ rest) (statement :: statements)

/-- Tokens form the statements of a script: one at least, with semicolons between them and perhaps
around them. -/
def IsScript (tokens : List Token) (statements : List Statement) : Prop :=
  ∃ leading rest, tokens = List.replicate leading .semicolon ++ rest ∧ Row rest statements

variable {s t : Stratum} {token : Token} {tokens : List Token} {e : Expr}

namespace Stratum

theorem rank_pos (s : Stratum) : 0 < s.rank := by
  cases s <;> decide

theorem rank_le_primary (s : Stratum) : s.rank ≤ primary.rank := by
  cases s <;> decide

theorem rank_le_rank_next (s : Stratum) : s.rank ≤ s.next.rank := by
  cases s <;> decide

theorem rank_next_of_lt (h : s.rank < t.rank) : s.next.rank = s.rank + 1 := by
  cases s <;> first | rfl | (cases t <;> simp [rank] at h)

theorem eq_of_rank_eq (h : s.rank = t.rank) : s = t := by
  cases s <;> cases t <;> first | rfl | cases h

theorem rank_lt_of_mem_operators {op : BinaryOp} (h : (token, op) ∈ s.operators) :
    s.rank < Stratum.unary.rank := by
  cases s <;> first | decide | cases h

end Stratum

theorem level_eq_rank {op : BinaryOp} (h : (token, op) ∈ s.operators) : op.level = s.rank := by
  cases s <;> simp [Stratum.operators] at h <;> grind [BinaryOp.level, Stratum.rank]

theorem binaryOp?_eq_some_iff {op : BinaryOp} :
    token.binaryOp? = some op ↔ ∃ s : Stratum, (token, op) ∈ s.operators := by
  constructor
  · intro h
    have hmem : (token, op) ∈ (List.map Stratum.operators [.disjunction, .conjunction, .equality,
        .comparison, .additive, .multiplicative]).flatten := by
      cases token <;> simp [Token.binaryOp?, Stratum.operators] at h ⊢ <;> grind
    obtain ⟨_, hs, hmem⟩ := List.mem_flatten.1 hmem
    obtain ⟨s, -, rfl⟩ := List.mem_map.1 hs
    exact ⟨s, hmem⟩
  · rintro ⟨s, h⟩
    cases s <;> simp [Stratum.operators] at h <;> grind [Token.binaryOp?]

theorem unaryOp?_eq_some_iff {op : UnaryOp} :
    token.unaryOp? = some op ↔ (token, op) ∈ unaryOperators := by
  cases token <;> simp [Token.unaryOp?, unaryOperators] <;> grind

theorem derives_of_atom? (h : token.atom? = some e) : Derives .primary [token] e := by
  cases token with
  | number x =>
      cases h
      exact .number x
  | string s =>
      cases h
      exact .string s
  | word name =>
      simp only [Token.atom?] at h
      split at h
      next htrue =>
        cases h
        rw [htrue]
        exact .true
      next =>
        split at h
        next hfalse =>
          cases h
          rw [hfalse]
          exact .false
        next =>
          split at h
          next => cases h
          next hname =>
            cases h
            exact .var (by simpa using hname)
  | _ => cases h

/-- What is an expression of a stratum is one of all that bind less tightly. -/
theorem Derives.loosen (h : Derives s tokens e) (hrank : t.rank ≤ s.rank) : Derives t tokens e := by
  -- The number of strata between the two goes down by one with every step to the next.
  induction hgap : s.rank - t.rank generalizing t with
  | zero =>
      rwa [Stratum.eq_of_rank_eq (show t.rank = s.rank by omega)]
  | succ gap ih =>
      have hnext := Stratum.rank_next_of_lt (show t.rank < s.rank by omega)
      exact .descend (ih (by omega) (by omega))

/-- No assignment and no semicolon stands in an expression. -/
theorem Derives.ne_of_mem (h : Derives s tokens e) (hmem : token ∈ tokens) :
    token ≠ .assign ∧ token ≠ .semicolon := by
  induction h with
  | group h ih =>
      simp only [List.cons_append, List.mem_cons, List.mem_append, List.not_mem_nil, or_false]
        at hmem
      rcases hmem with rfl | hmem | rfl
      · simp
      · exact ih hmem
      · simp
  | unary hop h ih =>
      rcases List.mem_cons.1 hmem with rfl | hmem
      · constructor
        · rintro rfl
          simp [unaryOperators] at hop
        · rintro rfl
          simp [unaryOperators] at hop
      · exact ih hmem
  | @binary s sign op _ _ _ _ hop hleft hright ihleft ihright =>
      rcases List.mem_append.1 hmem with hmem | hmem
      · exact ihleft hmem
      · rcases List.mem_cons.1 hmem with rfl | hmem
        · have hsome := binaryOp?_eq_some_iff.2 ⟨s, hop⟩
          constructor
          · rintro rfl
            cases hsome
          · rintro rfl
            cases hsome
        · exact ihright hmem
  | descend h ih => exact ih hmem
  | _ =>
      rw [List.mem_singleton.1 hmem]
      simp

theorem Derives.ne_nil (h : Derives s tokens e) : tokens ≠ [] := by
  induction h with
  | descend h ih => exact ih
  | _ => simp

theorem Derives.chain {first : List Token} {operand : Expr} {links : List Link}
    (h : Derives s first operand) (hlinks : ∀ link ∈ links, link.Fits s) :
    Derives s (first ++ links.flatMap Link.source) (links.foldl Link.join operand) := by
  induction links generalizing first operand with
  | nil => simpa using h
  | cons link rest ih =>
      obtain ⟨hop, hright⟩ := hlinks link List.mem_cons_self
      have hrest := ih (.binary hop h hright) fun other hother =>
        hlinks other (List.mem_cons_of_mem _ hother)
      simpa [Link.source, Link.join] using hrest

/-- The expressions of a stratum are the rows of operands of the next with operators of the stratum
between them, taken together from the left. -/
theorem derives_iff_chain (hs : s.rank < Stratum.unary.rank) :
    Derives s tokens e ↔ ∃ (first : List Token) (operand : Expr) (links : List Link),
      Derives s.next first operand ∧ (∀ link ∈ links, link.Fits s) ∧
        tokens = first ++ links.flatMap Link.source ∧ e = links.foldl Link.join operand := by
  constructor
  · intro h
    induction h with
    | @binary s token op lefts rights left right hop hleft hright ihleft ihright =>
        obtain ⟨first, operand, links, hfirst, hlinks, rfl, rfl⟩ := ihleft hs
        refine ⟨first, operand, links ++ [⟨token, op, rights, right⟩], hfirst, ?_, ?_, ?_⟩
        · intro link hlink
          rcases List.mem_append.1 hlink with hlink | hlink
          · exact hlinks link hlink
          · rw [List.mem_singleton.1 hlink]
            exact ⟨hop, hright⟩
        · simp [Link.source]
        · simp [Link.join]
    | @descend s tokens e h ih => exact ⟨tokens, e, [], h, by simp, by simp, rfl⟩
    | _ => exact absurd hs (by decide)
  · rintro ⟨first, operand, links, hfirst, hlinks, rfl, rfl⟩
    exact (Derives.descend hfirst).chain hlinks

end Gamebook.Script
