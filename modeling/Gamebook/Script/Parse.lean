import Gamebook.Script.Scan
import Gamebook.Text.Braces

/-! # Reading scripts

Tokens are read from left to right with a stack of the constructs that are still open. At every
moment either an operand must follow or one has just ended; an operator first closes what binds at
least as tightly, and so groups to the left. Nothing is read twice and no token is looked at ahead,
so the token at which reading fails is the first that no expression continues with.
-/

namespace Gamebook.Script

/-- The words that are not names. -/
def isReserved (name : String) : Bool :=
  name ∈ ["true", "false", "and", "or", "not"]

/-- The operator that a token is when an operand must follow. -/
def Token.unaryOp? : Token → Option UnaryOp
  | .minus => some .negate
  | .bang => some .not
  | .word name => if name = "not" then some .not else none
  | _ => none

/-- The operator that a token is when an operand has just ended. -/
def Token.binaryOp? : Token → Option BinaryOp
  | .plus => some .add
  | .minus => some .sub
  | .star => some .mul
  | .slash => some .div
  | .percent => some .rem
  | .eq => some .eq
  | .ne => some .ne
  | .lt => some .lt
  | .gt => some .gt
  | .le => some .le
  | .ge => some .ge
  | .andAnd => some .and
  | .orOr => some .or
  | .word name => if name = "and" then some .and else if name = "or" then some .or else none
  | _ => none

/-- The expression that a token is by itself. -/
def Token.atom? : Token → Option Expr
  | .number value => some (.literal (.number value))
  | .string value => some (.literal (.string value))
  | .word name =>
    if name = "true" then some (.literal (.boolean true))
    else if name = "false" then some (.literal (.boolean false))
    else if isReserved name then none
    else some (.var name)
  | _ => none

/-- A construct whose last operand is still to come. -/
inductive Open where
  | unary (op : UnaryOp)
  | binary (left : Expr) (op : BinaryOp)
  | group
deriving DecidableEq

/-- What has been read: the open constructs, innermost first, and the operand that has just ended
unless one must follow. -/
inductive Progress where
  | operand (stack : List Open)
  | operator (stack : List Open) (value : Expr)
deriving DecidableEq

/-- Ends the innermost constructs with `value` as their last operand: all unary operators, and the
binary ones that bind at least as tightly as `bound`. -/
def close (bound : Nat) : List Open → Expr → List Open × Expr
  | .unary op :: stack, value => close bound stack (.unary op value)
  | .binary left op :: stack, value =>
    if bound ≤ op.level then close bound stack (.binary op left value)
    else (.binary left op :: stack, value)
  | stack, value => (stack, value)

/-- Reads one token. -/
def Progress.step (progress : Progress) (token : Token) : Except ParseFailure Progress :=
  match progress with
  | .operand stack =>
    match token.unaryOp?, token.atom?, token with
    | some op, _, _ => .ok (.operand (.unary op :: stack))
    | none, some value, _ => .ok (.operator stack value)
    | none, none, .leftParen => .ok (.operand (.group :: stack))
    | none, none, _ => .error (.unexpectedToken token)
  | .operator stack value =>
    match token.binaryOp?, token with
    | some op, _ =>
      let (outer, left) := close op.level stack value
      .ok (.operand (.binary left op :: outer))
    | none, .rightParen =>
      match close 0 stack value with
      | (.group :: outer, inner) => .ok (.operator outer inner)
      | _ => .error (.unexpectedToken token)
    | none, _ => .error (.unexpectedToken token)

/-- The expression that has been read, if nothing is open. The failure names the token that stands
next. -/
def Progress.finish (next : Option Token) : Progress → Except ParseFailure Expr
  | .operand _ => .error (.unexpected next)
  | .operator stack value =>
    match close 0 stack value with
    | ([], whole) => .ok whole
    | _ => .error (.unexpected next)

/-- The expression that the tokens form up to `next`. -/
def Expr.ofTokens (tokens : List Token) (next : Option Token) : Except ParseFailure Expr := do
  (← tokens.foldlM Progress.step (.operand [])).finish next

/-- The statement that the tokens form up to `next`. -/
def Statement.ofTokens (tokens : List Token) (next : Option Token) :
    Except ParseFailure Statement :=
  match tokens with
  | .word name :: .assign :: value =>
    if isReserved name then .error (.reservedName name)
    else (Expr.ofTokens value next).map (.assign name)
  | _ => (Expr.ofTokens tokens next).map .expr

/-- The parts between semicolons, each with the semicolon after it if there is one. -/
def segments : List Token → List (List Token × Option Token)
  | [] => [([], none)]
  | .semicolon :: rest => ([], some .semicolon) :: segments rest
  | token :: rest =>
    match segments rest with
    | (tokens, next) :: others => (token :: tokens, next) :: others
    | [] => [([token], none)]

/-- The expression that a text is. -/
def Expr.ofBody (body : List Char) : Except ParseFailure Expr := do
  Expr.ofTokens (← scan body) none

/-- The expression that a text is, with or without double braces around it. -/
def Expr.ofText (text : List Char) : Except ParseFailure Expr :=
  let content := Text.trim text
  Expr.ofBody ((Text.unbraced? content).getD content)

/-- The script that the tokens form: one statement for each part between semicolons that is not
empty. -/
def ofTokens (tokens : List Token) : Except ParseFailure Script := do
  let parts := (segments tokens).filter fun part => !part.1.isEmpty
  let statements ← parts.mapM fun part => Statement.ofTokens part.1 part.2
  if statements.isEmpty then .error .noStatement else .ok ⟨statements⟩

/-- The script that the inside of a span is. -/
def ofBody (body : List Char) : Except ParseFailure Script := do
  ofTokens (← scan body)

/-- The script of a text that is one span and nothing else but blank characters around it. -/
def ofSpan? (text : List Char) : Option Script := do
  let body ← Text.unbraced? (Text.trim text)
  if Text.holds Text.openBraces body || Text.holds Text.closeBraces body then none
  else (ofBody body).toOption

end Gamebook.Script
