import Gamebook.Number.Remainder
import Gamebook.Script.Failure

/-! # Evaluating scripts

An expression has a value in a context or a failure. A script is evaluated statement by statement,
each in the context that the assignments before it have made; it takes effect as a whole or, if one
statement fails, not at all.
-/

namespace Gamebook.Script

/-- The operators that compute a number from two numbers. -/
def arithmetic (op : BinaryOp) (x y : Float) : Except Failure Float :=
  match op with
  | .sub => .ok (x - y)
  | .mul => .ok (x * y)
  | .div => if y == 0 then .error .divisionByZero else .ok (x / y)
  | .rem => if y == 0 then .error .divisionByZero else .ok (Number.remainder x y)
  | _ => .ok (x + y)

/-- How two values of one ordered kind compare. -/
def compare? : Value → Value → Option Ordering
  | .number x, .number y =>
    if x < y then some .lt else if x == y then some .eq else if y < x then some .gt else none
  | .string s, .string t => some (if s < t then .lt else if s = t then .eq else .gt)
  | _, _ => none

/-- Whether an order operator holds of two operands that compare in this way. -/
def orderHolds (op : BinaryOp) (ordering : Ordering) : Bool :=
  match op with
  | .lt => ordering.isLT
  | .gt => ordering.isGT
  | .le => ordering.isLE
  | _ => ordering.isGE

/-- The failure of an operator on two values of the wrong kinds. -/
def mismatch (op : BinaryOp) (left right : Value) : Failure :=
  .typeMismatch op left.kind right.kind

/-- The value of an operator on the values of its two operands. -/
def applyBinary (op : BinaryOp) (left right : Value) : Except Failure Value :=
  match op with
  | .eq => .ok (.boolean (left.agrees right))
  | .ne => .ok (.boolean (!left.agrees right))
  | .and => .ok (.boolean (left.isTruthy && right.isTruthy))
  | .or => .ok (.boolean (left.isTruthy || right.isTruthy))
  | .add =>
    match left, right with
    | .number x, .number y => .ok (.number (x + y))
    | .string s, _ => .ok (.string (s ++ right.text))
    | _, .string t => .ok (.string (left.text ++ t))
    | _, _ => .error (mismatch op left right)
  | .sub | .mul | .div | .rem =>
    match left, right with
    | .number x, .number y => (arithmetic op x y).map .number
    | _, _ => .error (mismatch op left right)
  | .lt | .gt | .le | .ge =>
    match compare? left right with
    | some ordering => .ok (.boolean (orderHolds op ordering))
    | none => .error (mismatch op left right)

/-- The value of an operator on the value of its operand. -/
def applyUnary (op : UnaryOp) (operand : Value) : Except Failure Value :=
  match op, operand with
  | .not, _ => .ok (.boolean !operand.isTruthy)
  | .negate, .number x => .ok (.number (-x))
  | .negate, _ => .error (.negation operand.kind)

/-- The value of an operator whose left operand decides it alone. -/
def decidedByLeft? (op : BinaryOp) (left : Value) : Option Value :=
  match op with
  | .and => if left.isTruthy then none else some (.boolean false)
  | .or => if left.isTruthy then some (.boolean true) else none
  | _ => none

/-- The value of an expression. The right operand of `and` and `or` is left alone where the left
one decides. -/
def Expr.eval (context : Context) : Expr → Except Failure Value
  | .literal value => .ok value
  | .var name =>
    match context.get? name with
    | some value => .ok value
    | none => .error (.undefinedVariable name)
  | .unary op operand => do applyUnary op (← operand.eval context)
  | .binary op left right => do
    let first ← left.eval context
    match decidedByLeft? op first with
    | some value => .ok value
    | none => applyBinary op first (← right.eval context)

/-- What a script does: its value is that of the last statement, and its assignments are listed in
order. -/
structure Effect where
  value : Value
  assignments : List (String × Value)
deriving DecidableEq

/-- What one statement does in a context. -/
def Statement.run (context : Context) (statement : Statement) : Except Failure Effect := do
  let value ← statement.source.eval context
  match statement with
  | .assign name _ => .ok ⟨value, [(name, value)]⟩
  | .expr _ => .ok ⟨value, []⟩

/-- The context after an effect. -/
def Effect.apply (effect : Effect) (context : Context) : Context :=
  Context.assignAll context effect.assignments

/-- What statements do one after the other, with `last` for the value if there are none. -/
def runAll (last : Value) (context : Context) : List Statement → Except Failure Effect
  | [] => .ok ⟨last, []⟩
  | statement :: rest => do
    let first ← statement.run context
    let others ← runAll first.value (first.apply context) rest
    .ok ⟨others.value, first.assignments ++ others.assignments⟩

/-- What a script does in a context, or the failure of its first statement that fails. -/
def run (context : Context) (script : Script) : Except Failure Effect :=
  runAll (.boolean true) context script.statements

/-- The context after a script, which is the context before it if the script fails. -/
def contextAfter (context : Context) : Except Failure Effect → Context
  | .ok effect => effect.apply context
  | .error _ => context

end Gamebook.Script
