import Gamebook.Script.Evaluation

/-! # What a script reads

An expression reads the variables that stand in it, and nothing else of a context matters to its
value (`Expr.eval_congr`). Assignments give the same values wherever what they read is the same, so
a script does the same in two contexts that agree on what it reads (`run_congr`), and the contexts
after it still agree wherever they did before (`Effect.agreeOn_apply`).
-/

namespace Gamebook

/-- Two contexts have the same value, or none, under every name of a kind. -/
def Context.AgreeOn (names : String → Prop) (a b : Context) : Prop :=
  ∀ name, names name → a.get? name = b.get? name

namespace Context

variable {names : String → Prop} {a b : Context}

theorem AgreeOn.insert (h : AgreeOn names a b) (name : String) (value : Value) :
    AgreeOn names (NameMap.insert a name value) (NameMap.insert b name value) := by
  intro other hother
  rw [NameMap.get?_insert, NameMap.get?_insert, h other hother]

theorem AgreeOn.assignAll (h : AgreeOn names a b) (assignments : List (String × Value)) :
    AgreeOn names (a.assignAll assignments) (b.assignAll assignments) := by
  induction assignments generalizing a b with
  | nil => exact h
  | cons first rest ih => exact ih (h.insert first.1 first.2)

end Context

namespace Script

open Context

/-- The variables that an expression reads. -/
def Expr.reads : Expr → List String
  | .literal _ => []
  | .var name => [name]
  | .unary _ operand => operand.reads
  | .binary _ left right => left.reads ++ right.reads

/-- The variables that a statement reads. -/
def Statement.reads (statement : Statement) : List String :=
  statement.source.reads

/-- The variables that a script reads. -/
def reads (script : Script) : List String :=
  script.statements.flatMap Statement.reads

variable {names : String → Prop} {a b : Context}

theorem Effect.agreeOn_apply (h : AgreeOn names a b) (effect : Effect) :
    AgreeOn names (effect.apply a) (effect.apply b) :=
  h.assignAll effect.assignments

/-- The value of an expression depends on the variables that it reads alone. -/
theorem Expr.eval_congr (h : AgreeOn names a b) (e : Expr)
    (hreads : ∀ name ∈ e.reads, names name) : e.eval a = e.eval b := by
  induction e with
  | literal value => rfl
  | var name => simp only [eval, h name (hreads name List.mem_cons_self)]
  | unary op operand ih => simp only [eval, ih hreads]
  | binary op left right ihleft ihright =>
      have hleft := ihleft fun name hname => hreads name (List.mem_append_left _ hname)
      have hright := ihright fun name hname => hreads name (List.mem_append_right _ hname)
      simp only [eval, hleft, hright]

theorem Statement.run_congr (h : AgreeOn names a b) (statement : Statement)
    (hreads : ∀ name ∈ statement.reads, names name) :
    statement.run a = statement.run b := by
  simp only [run, Expr.eval_congr h statement.source hreads]

/-- Statements do the same one after the other, since what one of them assigns is the same in both
contexts. -/
theorem runAll_congr (h : AgreeOn names a b) (last : Value) (statements : List Statement)
    (hreads : ∀ statement ∈ statements, ∀ name ∈ statement.reads, names name) :
    runAll last a statements = runAll last b statements := by
  induction statements generalizing last a b with
  | nil => rfl
  | cons first rest ih =>
      obtain ⟨hfirst, hrest⟩ := List.forall_mem_cons.1 hreads
      rw [runAll, runAll, Statement.run_congr h first hfirst]
      congr 1
      funext effect
      rw [ih (Effect.agreeOn_apply h effect) effect.value hrest]

/-- What a script does depends on the variables that it reads alone. -/
theorem run_congr (h : AgreeOn names a b) (script : Script)
    (hreads : ∀ name ∈ script.reads, names name) : script.run a = script.run b := by
  apply runAll_congr h
  intro statement hstatement name hname
  exact hreads name (List.mem_flatMap.2 ⟨statement, hstatement, hname⟩)

end Script

end Gamebook
