import Gamebook.Context

/-! # Scripts

A script is the inside of a span of a text: expressions, which stand for a value, and assignments,
which also give that value to a variable.
-/

namespace Gamebook.Script

/-- The operators with one operand. -/
inductive UnaryOp where
  | negate
  | not
deriving DecidableEq, Repr

/-- The operators with two operands. -/
inductive BinaryOp where
  | add | sub | mul | div | rem
  | eq | ne | lt | gt | le | ge
  | and | or
deriving DecidableEq, Repr

/-- How tightly an operator binds; all operators of one level associate to the left. -/
def BinaryOp.level : BinaryOp → Nat
  | .or => 1
  | .and => 2
  | .eq | .ne => 3
  | .lt | .gt | .le | .ge => 4
  | .add | .sub => 5
  | .mul | .div | .rem => 6

/-- The spelling of an operator in messages. -/
def BinaryOp.symbol : BinaryOp → String
  | .add => "+"
  | .sub => "-"
  | .mul => "*"
  | .div => "/"
  | .rem => "%"
  | .eq => "=="
  | .ne => "!="
  | .lt => "<"
  | .gt => ">"
  | .le => "<="
  | .ge => ">="
  | .and => "and"
  | .or => "or"

/-- Expressions over the variables of a context. -/
inductive Expr where
  | literal (value : Value)
  | var (name : String)
  | unary (op : UnaryOp) (operand : Expr)
  | binary (op : BinaryOp) (left right : Expr)
deriving DecidableEq

/-- One step of a script. -/
inductive Statement where
  | assign (name : String) (value : Expr)
  | expr (expr : Expr)
deriving DecidableEq

/-- Whether a statement gives a value to a variable. -/
def Statement.isAssignment : Statement → Bool
  | .assign .. => true
  | .expr _ => false

/-- The expression whose value a statement has. -/
def Statement.source : Statement → Expr
  | .assign _ value => value
  | .expr e => e

end Gamebook.Script

namespace Gamebook

/-- The statements between the braces of a span, in order. -/
structure Script where
  statements : List Script.Statement
deriving DecidableEq

/-- Whether every statement is an assignment, so that the span is replaced by nothing. -/
def Script.isAssignment (script : Script) : Bool :=
  script.statements.all Script.Statement.isAssignment

end Gamebook
