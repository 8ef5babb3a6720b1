import Gamebook.Proofs.Result
import Gamebook.Proofs.Script.Grammar

/-! # Scripts are read by their grammar

The reader keeps the open constructs on a stack. `Reads` says what the tokens so far have to do with
it, and every token keeps this (`Reads.step`); conversely, an expression of any stratum can be read
wherever the stack admits that stratum (`Derives.foldlM`). So an expression is read exactly from
what the grammar derives (`ofTokens_iff_derives`), and so is a script (`script_ofTokens_iff`);
`accepts_iff_derives` has both.
-/

namespace Gamebook.Script

/-- An operand of this rank or of one that binds tighter may follow the stack: it is not taken away
by the innermost construct. -/
def Admits (rank : Nat) : List Open → Prop
  | .unary _ :: _ => Stratum.unary.rank ≤ rank
  | .binary _ op :: _ => op.level < rank
  | _ => True

/-- Tokens lead to a stack of open constructs. -/
inductive Opens : List Token → List Open → Prop where
  | nil : Opens [] []
  | unary {before : List Token} {stack : List Open} {token : Token} {op : UnaryOp}
      (hbefore : Opens before stack) (hop : (token, op) ∈ unaryOperators) :
      Opens (before ++ [token]) (.unary op :: stack)
  | group {before : List Token} {stack : List Open} (hbefore : Opens before stack) :
      Opens (before ++ [.leftParen]) (.group :: stack)
  | binary {before tokens : List Token} {stack : List Open} {s : Stratum} {token : Token}
      {op : BinaryOp} {left : Expr} (hbefore : Opens before stack) (hadmits : Admits s.rank stack)
      (hleft : Derives s tokens left) (hop : (token, op) ∈ s.operators) :
      Opens (before ++ tokens ++ [token]) (.binary left op :: stack)

/-- Tokens lead to a stack of open constructs and an operand that binds at least as tightly as
`bound`, and the stack admits an operand of its stratum. -/
def Holds (bound : Nat) (tokens : List Token) (stack : List Open) (value : Expr) : Prop :=
  ∃ before last s, tokens = before ++ last ∧ Opens before stack ∧ Derives s last value ∧
    bound ≤ s.rank ∧ Admits s.rank stack

/-- What the tokens that have been read have to do with what is kept of them. -/
def Reads (tokens : List Token) : Progress → Prop
  | .operand stack => Opens tokens stack
  | .operator stack value => Holds Stratum.primary.rank tokens stack value

variable {s : Stratum} {token : Token} {tokens : List Token} {e : Expr} {stack : List Open}

theorem Admits.mono {rank rank' : Nat} (h : Admits rank stack) (hrank : rank ≤ rank') :
    Admits rank' stack := by
  match stack with
  | [] => trivial
  | .unary _ :: _ => exact Nat.le_trans h hrank
  | .binary _ _ :: _ => exact Nat.lt_of_lt_of_le h hrank
  | .group :: _ => trivial

theorem level_lt_rank_unary (op : BinaryOp) : op.level < Stratum.unary.rank := by
  cases op <;> decide

theorem admits_of_unary_le {rank : Nat} (h : Stratum.unary.rank ≤ rank) : Admits rank stack := by
  match stack with
  | [] => trivial
  | .unary _ :: _ => exact h
  | .binary _ op :: _ => exact Nat.lt_of_lt_of_le (level_lt_rank_unary op) h
  | .group :: _ => trivial

/-- Nothing is closed where an operand of the bound itself may follow. -/
theorem close_of_admits {bound : Nat} (hadmits : Admits bound stack)
    (hbound : bound < Stratum.unary.rank) (value : Expr) :
    close bound stack value = (stack, value) := by
  match stack with
  | [] => rfl
  | .unary _ :: _ => exact absurd hadmits (Nat.not_le.2 hbound)
  | .binary _ _ :: _ => exact if_neg (Nat.not_le.2 hadmits)
  | .group :: _ => rfl

theorem close_binary {bound : Nat} {left right : Expr} {op : BinaryOp} (h : bound ≤ op.level) :
    close bound (.binary left op :: stack) right = close bound stack (.binary op left right) :=
  if_pos h

/-! ## What the grammar derives is read -/

theorem step_unary {op : UnaryOp} (hop : (token, op) ∈ unaryOperators) :
    Progress.step (.operand stack) token = .ok (.operand (.unary op :: stack)) := by
  simp only [Progress.step, unaryOp?_eq_some_iff.2 hop]

theorem step_binary {op : BinaryOp} (hop : (token, op) ∈ s.operators) (stack : List Open)
    (value : Expr) :
    Progress.step (.operator stack value) token =
      .ok (.operand (.binary (close s.rank stack value).2 op :: (close s.rank stack value).1)) := by
  simp only [Progress.step, binaryOp?_eq_some_iff.2 ⟨s, hop⟩, level_eq_rank hop]

theorem step_leftParen :
    Progress.step (.operand stack) .leftParen = .ok (.operand (.group :: stack)) := rfl

theorem step_rightParen {value inner : Expr} {outer : List Open}
    (h : close 0 stack value = (.group :: outer, inner)) :
    Progress.step (.operator stack value) .rightParen = .ok (.operator outer inner) := by
  simp only [Progress.step, Token.binaryOp?, h]

theorem step_word_of_not_isReserved {name : String} (h : isReserved name = false) :
    Progress.step (.operand stack) (.word name) = .ok (.operator stack (.var name)) := by
  have hnames : name ≠ "true" ∧ name ≠ "false" ∧ name ≠ "not" := by
    refine ⟨?_, ?_, ?_⟩ <;> rintro rfl <;> simp [isReserved] at h
  simp [Progress.step, Token.unaryOp?, Token.atom?, hnames, h]

theorem foldlM_cons_of_step {progress next : Progress} (h : progress.step token = .ok next)
    (rest : List Token) :
    (token :: rest).foldlM Progress.step progress = rest.foldlM Progress.step next := by
  rw [List.foldlM_cons, h]
  rfl

theorem foldlM_append_of_run {progress next : Progress}
    (h : tokens.foldlM Progress.step progress = .ok next) (rest : List Token) :
    (tokens ++ rest).foldlM Progress.step progress = rest.foldlM Progress.step next := by
  rw [List.foldlM_append, h]
  rfl

/-- An expression is read wherever the stack admits its stratum. What is left to close behind it
closes, up to that stratum, as if it were one operand. -/
theorem Derives.foldlM (h : Derives s tokens e) (hadmits : Admits s.rank stack) :
    ∃ inner value, tokens.foldlM Progress.step (.operand stack) = .ok (.operator inner value) ∧
      ∀ bound ≤ s.rank, close bound inner value = close bound stack e := by
  induction h generalizing stack with
  | number x => exact ⟨stack, _, rfl, fun _ _ => rfl⟩
  | string s => exact ⟨stack, _, rfl, fun _ _ => rfl⟩
  | true => exact ⟨stack, _, rfl, fun _ _ => rfl⟩
  | false => exact ⟨stack, _, rfl, fun _ _ => rfl⟩
  | @var name hname =>
      refine ⟨stack, .var name, ?_, fun _ _ => rfl⟩
      rw [foldlM_cons_of_step (step_word_of_not_isReserved hname)]
      rfl
  | @group tokens e h ih =>
      obtain ⟨inner, value, hrun, hclose⟩ := @ih (.group :: stack) trivial
      have hend : close 0 inner value = (.group :: stack, e) := hclose 0 (Nat.zero_le _)
      refine ⟨stack, e, ?_, fun _ _ => rfl⟩
      rw [List.cons_append, foldlM_cons_of_step step_leftParen, foldlM_append_of_run hrun,
        foldlM_cons_of_step (step_rightParen hend)]
      rfl
  | @unary token op tokens e hop h ih =>
      obtain ⟨inner, value, hrun, hclose⟩ := @ih (.unary op :: stack) (Nat.le_refl _)
      refine ⟨inner, value, ?_, hclose⟩
      rw [foldlM_cons_of_step (step_unary hop), hrun]
  | @binary s token op lefts rights left right hop hleft hright ihleft ihright =>
      have hlevel := level_eq_rank hop
      obtain ⟨inner, value, hrun, hclose⟩ := ihleft hadmits
      have hlt := Stratum.rank_lt_of_mem_operators hop
      have hnext := Stratum.rank_next_of_lt hlt
      have hend : close s.rank inner value = (stack, left) := by
        rw [hclose _ (Nat.le_refl _), close_of_admits hadmits hlt]
      have hafter : Admits s.next.rank (.binary left op :: stack) := by
        show op.level < s.next.rank
        omega
      obtain ⟨inner', value', hrun', hclose'⟩ := ihright hafter
      refine ⟨inner', value', ?_, ?_⟩
      · have hstep := step_binary hop inner value
        rw [hend] at hstep
        rw [foldlM_append_of_run hrun, foldlM_cons_of_step hstep, hrun']
      · intro bound hbound
        rw [hclose' bound (by omega), close_binary (by omega)]
  | @descend s tokens e h ih =>
      have hnext := s.rank_le_rank_next
      obtain ⟨inner, value, hrun, hclose⟩ := ih (hadmits.mono hnext)
      exact ⟨inner, value, hrun, fun bound hbound => hclose bound (Nat.le_trans hbound hnext)⟩

/-- What the grammar derives is read, and nothing else than the one tree. -/
theorem ofTokens_of_derives (h : Derives .disjunction tokens e) (next : Option Token) :
    Expr.ofTokens tokens next = .ok e := by
  have hempty : Admits Stratum.disjunction.rank [] := trivial
  obtain ⟨inner, value, hrun, hclose⟩ := h.foldlM hempty
  have hend : close 0 inner value = ([], e) := hclose 0 (Nat.zero_le _)
  rw [Expr.ofTokens, hrun, Except.bind_eq_bind, Except.bind, Progress.finish, hend]

/-! ## What is read, the grammar derives -/

theorem holds_of_derives {before last : List Token} (hbefore : Opens before stack)
    (hlast : Derives .primary last e) : Holds Stratum.primary.rank (before ++ last) stack e :=
  ⟨before, last, .primary, rfl, hbefore, hlast, Nat.le_refl _, admits_of_unary_le (by decide)⟩

/-- Closing makes larger expressions of the same tokens. -/
theorem Opens.close {before last : List Token} {bound : Nat} {outer : List Open} {whole : Expr}
    (hbefore : Opens before stack) (hlast : Derives s last e) (hadmits : Admits s.rank stack)
    (hbound : bound ≤ s.rank) (hunary : bound < Stratum.unary.rank)
    (h : close bound stack e = (outer, whole)) :
    Holds bound (before ++ last) outer whole ∧ Admits bound outer := by
  induction hbefore generalizing s last e with
  | nil =>
      cases h
      exact ⟨⟨[], last, s, rfl, .nil, hlast, hbound, hadmits⟩, trivial⟩
  | @group before stack hbefore ih =>
      cases h
      exact ⟨⟨_, last, s, rfl, .group hbefore, hlast, hbound, hadmits⟩, trivial⟩
  | @unary before stack token op hbefore hop ih =>
      -- The operand binds as tightly as unary operators do, so they form one of their own stratum.
      have hoperand : Derives .unary last e := hlast.loosen hadmits
      have hinner := Derives.unary hop hoperand
      rw [List.append_assoc]
      exact ih hinner (admits_of_unary_le (Nat.le_refl _)) (Nat.le_of_lt hunary) h
  | @binary before tokens stack t token op left hbefore houter hleft hop ih =>
      have hlevel := level_eq_rank hop
      have hlt : op.level < s.rank := hadmits
      by_cases hcloses : bound ≤ op.level
      · rw [close_binary hcloses] at h
        have hnext := Stratum.rank_next_of_lt (s := t) (t := s) (by omega)
        have hright : Derives t.next last e := hlast.loosen (by omega)
        have hinner := Derives.binary hop hleft hright
        have hheld := ih hinner houter (by omega) h
        simpa using hheld
      · have hstays : Admits bound (.binary left op :: stack) := Nat.not_le.1 hcloses
        rw [close_of_admits hstays hunary] at h
        cases h
        exact ⟨⟨_, last, s, rfl, .binary hbefore houter hleft hop, hlast, hbound, hadmits⟩, hstays⟩

theorem Holds.close {rank bound : Nat} (h : Holds rank tokens stack e) (hbound : bound ≤ rank)
    (hunary : bound < Stratum.unary.rank) :
    Holds bound tokens (close bound stack e).1 (close bound stack e).2 ∧
      Admits bound (close bound stack e).1 := by
  obtain ⟨before, last, s, rfl, hbefore, hlast, hrank, hadmits⟩ := h
  exact hbefore.close hlast hadmits (Nat.le_trans hbound hrank) hunary rfl

theorem Holds.binary {op : BinaryOp} (h : Holds s.rank tokens stack e)
    (hadmits : Admits s.rank stack) (hop : (token, op) ∈ s.operators) :
    Opens (tokens ++ [token]) (.binary e op :: stack) := by
  obtain ⟨before, last, t, rfl, hbefore, hlast, hrank, -⟩ := h
  exact .binary hbefore hadmits (hlast.loosen hrank) hop

theorem Holds.group {bound : Nat} (h : Holds bound tokens (.group :: stack) e) :
    Holds Stratum.primary.rank (tokens ++ [.rightParen]) stack e := by
  obtain ⟨before, last, s, rfl, hbefore, hlast, -, -⟩ := h
  cases hbefore with
  | group hbefore =>
      have hinner := hlast.loosen (t := .disjunction) s.rank_pos
      simpa using holds_of_derives hbefore (.group hinner)

/-- Every token that is read keeps what the tokens have to do with the progress. -/
theorem Reads.step {progress after : Progress} (h : Reads tokens progress)
    (hstep : progress.step token = .ok after) : Reads (tokens ++ [token]) after := by
  cases progress with
  | operand stack =>
      simp only [Progress.step] at hstep
      split at hstep
      next op hop =>
        cases hstep
        exact .unary h (unaryOp?_eq_some_iff.1 hop)
      next value _ hatom =>
        cases hstep
        exact holds_of_derives h (derives_of_atom? hatom)
      next =>
        cases hstep
        exact .group h
      next => cases hstep
  | operator stack value =>
      have h : Holds Stratum.primary.rank tokens stack value := h
      simp only [Progress.step] at hstep
      split at hstep
      next op hop =>
        cases hstep
        obtain ⟨s, hop⟩ := binaryOp?_eq_some_iff.1 hop
        have hlt := Stratum.rank_lt_of_mem_operators hop
        obtain ⟨hheld, hadmits⟩ := h.close s.rank_le_primary hlt
        rw [level_eq_rank hop]
        exact hheld.binary hadmits hop
      next =>
        split at hstep
        next outer inner hclose =>
          cases hstep
          have hheld := (h.close (Nat.zero_le _) (by decide)).1
          rw [hclose] at hheld
          exact hheld.group
        next => cases hstep
      next => cases hstep

theorem Reads.foldlM {before : List Token} {progress after : Progress} (h : Reads before progress)
    (hrun : tokens.foldlM Progress.step progress = .ok after) : Reads (before ++ tokens) after := by
  induction tokens generalizing before progress with
  | nil =>
      cases hrun
      simpa using h
  | cons token rest ih =>
      rw [List.foldlM_cons] at hrun
      obtain ⟨next, hstep, hrest⟩ := Except.bind_eq_ok_iff.1 hrun
      simpa using ih (h.step hstep) hrest

/-- The expression that has been read when nothing is left open is what the grammar derives. -/
theorem Reads.finish {progress : Progress} {next : Option Token} (h : Reads tokens progress)
    (hfinish : progress.finish next = .ok e) : Derives .disjunction tokens e := by
  cases progress with
  | operand stack => cases hfinish
  | operator stack value =>
      have h : Holds Stratum.primary.rank tokens stack value := h
      have hheld := (h.close (Nat.zero_le _) (by decide)).1
      simp only [Progress.finish] at hfinish
      split at hfinish
      next whole hclose =>
        cases hfinish
        rw [hclose] at hheld
        obtain ⟨before, last, s, rfl, hbefore, hlast, -, -⟩ := hheld
        cases hbefore
        exact hlast.loosen s.rank_pos
      next => cases hfinish

theorem ofTokens_iff_derives {next : Option Token} :
    Expr.ofTokens tokens next = .ok e ↔ Derives .disjunction tokens e := by
  constructor
  · intro h
    obtain ⟨progress, hrun, hfinish⟩ := Except.bind_eq_ok_iff.1 h
    have hstart : Reads [] (.operand []) := Opens.nil
    exact (hstart.foldlM hrun).finish hfinish
  · exact fun h => ofTokens_of_derives h next

/-- The grammar derives one tree at most from the same tokens. -/
theorem Derives.unique {e' : Expr} (h : Derives .disjunction tokens e)
    (h' : Derives .disjunction tokens e') : e = e' := by
  have hread := ofTokens_of_derives h none
  rw [ofTokens_of_derives h' none] at hread
  cases hread
  rfl

/-! ## Statements -/

theorem statement_ofTokens_iff {next : Option Token} {statement : Statement} :
    Statement.ofTokens tokens next = .ok statement ↔ IsStatement tokens statement := by
  unfold Statement.ofTokens
  split
  next name value =>
    constructor
    · intro h
      split at h
      next => cases h
      next hname =>
        obtain ⟨e, he, rfl⟩ := Except.map_eq_ok_iff.1 h
        exact .assign (by simpa using hname) (ofTokens_iff_derives.1 he)
    · intro h
      cases h with
      | assign hname h =>
          rw [if_neg (by simp [hname]), ofTokens_of_derives h]
          rfl
      | expr h =>
          have hmem : Token.assign ∈ Token.word name :: .assign :: value := by simp
          exact absurd rfl (h.ne_of_mem hmem).1
  next hother =>
    constructor
    · intro h
      obtain ⟨e, he, rfl⟩ := Except.map_eq_ok_iff.1 h
      exact .expr (ofTokens_iff_derives.1 he)
    · intro h
      cases h with
      | assign hname h => exact absurd rfl (hother _ _)
      | expr h =>
          rw [ofTokens_of_derives h]
          rfl

theorem IsStatement.ne_nil {statement : Statement} (h : IsStatement tokens statement) :
    tokens ≠ [] := by
  cases h with
  | assign => simp
  | expr h => exact h.ne_nil

theorem IsStatement.semicolon_not_mem {statement : Statement} (h : IsStatement tokens statement) :
    .semicolon ∉ tokens := by
  intro hmem
  cases h with
  | assign hname h =>
      simp only [List.mem_cons, reduceCtorEq, false_or] at hmem
      exact (h.ne_of_mem hmem).2 rfl
  | expr h => exact (h.ne_of_mem hmem).2 rfl

/-! ## Scripts -/

/-- The parts of a script that are not empty, each with the semicolon after it if there is one. -/
def parts (tokens : List Token) : List (List Token × Option Token) :=
  (segments tokens).filter fun part => !part.1.isEmpty

/-- The statements of a script, which may be none. -/
def statementsOf (tokens : List Token) : Except ParseFailure (List Statement) :=
  (parts tokens).mapM fun part => Statement.ofTokens part.1 part.2

theorem segments_append {rest : List Token} (h : .semicolon ∉ tokens) :
    segments (tokens ++ .semicolon :: rest) = (tokens, some .semicolon) :: segments rest := by
  induction tokens with
  | nil => rfl
  | cons token others ih =>
      rw [List.mem_cons, not_or] at h
      rw [List.cons_append, segments, ih h.2]
      exact fun heq => h.1 heq.symm

theorem segments_of_not_mem (h : .semicolon ∉ tokens) : segments tokens = [(tokens, none)] := by
  induction tokens with
  | nil => rfl
  | cons token others ih =>
      rw [List.mem_cons, not_or] at h
      rw [segments, ih h.2]
      exact fun heq => h.1 heq.symm

theorem statementsOf_replicate (count : Nat) (rest : List Token) :
    statementsOf (List.replicate count .semicolon ++ rest) = statementsOf rest := by
  induction count with
  | zero => rfl
  | succ count ih =>
      rw [List.replicate_succ, List.cons_append, ← ih]
      rfl

theorem mapM_cons_iff {next : Option Token} {others : List (List Token × Option Token)}
    {statements : List Statement} :
    (((tokens, next) :: others).mapM fun part => Statement.ofTokens part.1 part.2) =
        .ok statements ↔
      ∃ statement rest, IsStatement tokens statement ∧
        (others.mapM fun part => Statement.ofTokens part.1 part.2) = .ok rest ∧
        statements = statement :: rest := by
  rw [List.mapM_cons]
  constructor
  · intro h
    obtain ⟨statement, hstatement, h⟩ := Except.bind_eq_ok_iff.1 h
    obtain ⟨rest, hrest, h⟩ := Except.bind_eq_ok_iff.1 h
    cases h
    exact ⟨statement, rest, statement_ofTokens_iff.1 hstatement, hrest, rfl⟩
  · rintro ⟨statement, rest, hstatement, hrest, rfl⟩
    refine Except.bind_eq_ok_iff.2 ⟨statement, statement_ofTokens_iff.2 hstatement, ?_⟩
    exact Except.bind_eq_ok_iff.2 ⟨rest, hrest, rfl⟩

theorem statementsOf_append_iff {rest : List Token} {statements : List Statement}
    (h : .semicolon ∉ tokens) (hne : tokens ≠ []) :
    statementsOf (tokens ++ .semicolon :: rest) = .ok statements ↔
      ∃ statement others, IsStatement tokens statement ∧ statementsOf rest = .ok others ∧
        statements = statement :: others := by
  have hparts : parts (tokens ++ .semicolon :: rest) = (tokens, some .semicolon) :: parts rest := by
    rw [parts, segments_append h, List.filter_cons_of_pos (by simp [hne])]
    rfl
  rw [statementsOf, hparts, mapM_cons_iff]
  rfl

theorem statementsOf_iff_of_not_mem {statements : List Statement} (h : .semicolon ∉ tokens)
    (hne : tokens ≠ []) :
    statementsOf tokens = .ok statements ↔
      ∃ statement, IsStatement tokens statement ∧ statements = [statement] := by
  have hparts : parts tokens = [(tokens, none)] := by
    rw [parts, segments_of_not_mem h, List.filter_cons_of_pos (by simp [hne])]
    rfl
  rw [statementsOf, hparts, mapM_cons_iff]
  constructor
  · rintro ⟨statement, rest, hstatement, hrest, rfl⟩
    cases hrest
    exact ⟨statement, hstatement, rfl⟩
  · rintro ⟨statement, hstatement, rfl⟩
    exact ⟨statement, [], hstatement, rfl, rfl⟩

theorem Row.statementsOf_eq {statements : List Statement} (h : Row tokens statements) :
    statementsOf tokens = .ok statements := by
  induction h with
  | @last tokens statement h trailing =>
      cases trailing with
      | zero =>
          rw [List.replicate_zero, List.append_nil]
          exact (statementsOf_iff_of_not_mem h.semicolon_not_mem h.ne_nil).2 ⟨statement, h, rfl⟩
      | succ trailing =>
          have hnone := statementsOf_replicate trailing []
          rw [List.append_nil] at hnone
          rw [List.replicate_succ]
          exact (statementsOf_append_iff h.semicolon_not_mem h.ne_nil).2
            ⟨statement, [], h, hnone, rfl⟩
  | @more tokens rest statement statements h extra hrest ih =>
      rw [List.replicate_succ, List.append_assoc, List.cons_append]
      refine (statementsOf_append_iff h.semicolon_not_mem h.ne_nil).2
        ⟨statement, statements, h, ?_, rfl⟩
      rw [statementsOf_replicate, ih]

/-- Behind the semicolons in front there is nothing or a row of the statements that are read. -/
theorem row_of_statementsOf {statements : List Statement}
    (h : statementsOf tokens = .ok statements) :
    ∃ leading rest, tokens = List.replicate leading .semicolon ++ rest ∧
      (rest = [] ∧ statements = [] ∨ Row rest statements) := by
  -- Each part that a semicolon ends leaves fewer tokens behind it.
  induction hlength : tokens.length using Nat.strongRecOn generalizing tokens statements with
  | _ length ih =>
      by_cases hmem : .semicolon ∈ tokens
      · obtain ⟨part, rest, rfl, hpart⟩ := List.eq_append_cons_of_mem hmem
        have hlt : rest.length < length := by
          rw [← hlength, List.length_append, List.length_cons]
          omega
        by_cases hne : part = []
        · subst hne
          have hrest : statementsOf rest = .ok statements := by
            rw [← statementsOf_replicate 1 rest]
            exact h
          obtain ⟨leading, behind, rfl, hbehind⟩ := ih rest.length hlt hrest rfl
          exact ⟨leading + 1, behind, rfl, hbehind⟩
        · obtain ⟨statement, others, hstatement, hrest, rfl⟩ :=
            (statementsOf_append_iff hpart hne).1 h
          obtain ⟨leading, behind, rfl, hbehind⟩ := ih rest.length hlt hrest rfl
          refine ⟨0, _, rfl, Or.inr ?_⟩
          rcases hbehind with ⟨rfl, rfl⟩ | hrow
          · simpa [List.replicate_succ] using Row.last hstatement (leading + 1)
          · simpa [List.replicate_succ] using Row.more hstatement leading hrow
      · by_cases hne : tokens = []
        · subst hne
          cases h
          exact ⟨0, [], rfl, Or.inl ⟨rfl, rfl⟩⟩
        · obtain ⟨statement, hstatement, rfl⟩ := (statementsOf_iff_of_not_mem hmem hne).1 h
          refine ⟨0, tokens, rfl, Or.inr ?_⟩
          simpa using Row.last hstatement 0

theorem Row.ne_nil {statements : List Statement} (h : Row tokens statements) : statements ≠ [] := by
  cases h <;> simp

theorem script_ofTokens_iff {script : Script} :
    ofTokens tokens = .ok script ↔ IsScript tokens script.statements := by
  obtain ⟨statements⟩ := script
  constructor
  · intro h
    obtain ⟨read, hread, h⟩ := Except.bind_eq_ok_iff.1 h
    split at h
    next => cases h
    next hsome =>
      cases h
      obtain ⟨leading, rest, rfl, ⟨-, hnone⟩ | hrow⟩ := row_of_statementsOf hread
      · exact absurd (List.isEmpty_iff.2 hnone) hsome
      · exact ⟨leading, rest, rfl, hrow⟩
  · rintro ⟨leading, rest, rfl, hrow⟩
    refine Except.bind_eq_ok_iff.2 ⟨statements, ?_, if_neg ?_⟩
    · exact (statementsOf_replicate leading rest).trans hrow.statementsOf_eq
    · rw [List.isEmpty_iff]
      exact hrow.ne_nil

/-- The reader accepts exactly what the grammar derives. From tokens it reads an expression if the
grammar derives one from all of them, and then it is the only one; what is derived at a level of
operators with two operands is a row of operands of the next level taken together from the left. A
script is read if its tokens are statements, one at least, with semicolons between them and perhaps
around them, and then it holds the statements in their order. -/
theorem accepts_iff_derives :
    (∀ tokens e, Expr.ofTokens tokens none = .ok e ↔ Derives .disjunction tokens e) ∧
    (∀ tokens e e', Derives .disjunction tokens e → Derives .disjunction tokens e' → e = e') ∧
    (∀ (s : Stratum) (tokens : List Token) (e : Expr), s.rank < Stratum.unary.rank →
      (Derives s tokens e ↔ ∃ (first : List Token) (operand : Expr) (links : List Link),
        Derives s.next first operand ∧ (∀ link ∈ links, link.Fits s) ∧
          tokens = first ++ links.flatMap Link.source ∧ e = links.foldl Link.join operand)) ∧
    (∀ body e, Expr.ofBody body = .ok e ↔
      ∃ tokens, scan body = .ok tokens ∧ Derives .disjunction tokens e) ∧
    (∀ tokens script, ofTokens tokens = .ok script ↔ IsScript tokens script.statements) ∧
    (∀ body script, ofBody body = .ok script ↔
      ∃ tokens, scan body = .ok tokens ∧ IsScript tokens script.statements) := by
  refine ⟨fun tokens e => ofTokens_iff_derives, fun tokens e e' h h' => h.unique h',
    fun s tokens e hs => derives_iff_chain hs, ?_, fun tokens script => script_ofTokens_iff, ?_⟩
  · intro body e
    simp only [Expr.ofBody, Except.bind_eq_bind, Except.bind_eq_ok_iff, ofTokens_iff_derives]
  · intro body script
    simp only [ofBody, Except.bind_eq_bind, Except.bind_eq_ok_iff, script_ofTokens_iff]

end Gamebook.Script
