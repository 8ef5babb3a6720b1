import Gamebook.Script.Basic
import Gamebook.Script.Token

/-! # Failures of scripts

A script fails because its text is not a script or because a value is not what an operator needs.
-/

namespace Gamebook.Script

/-- Why a text is not a script or an expression. -/
inductive ParseFailure where
  | invalidNumber (raw : String)
  | unterminatedString
  | unexpectedCharacter (c : Char)
  | unexpectedToken (token : Token)
  | unexpectedEnd
  | reservedName (name : String)
  | noStatement
deriving DecidableEq

/-- The reason without its heading. -/
def ParseFailure.reason : ParseFailure → String
  | .invalidNumber raw => "invalid number \"" ++ raw ++ "\""
  | .unterminatedString => "unterminated string"
  | .unexpectedCharacter c => "unexpected character '" ++ c.toString ++ "'"
  | .unexpectedToken token => "unexpected token " ++ token.shown
  | .unexpectedEnd => "unexpected end of expression"
  | .reservedName name => "cannot assign to \"" ++ name ++ "\""
  | .noStatement => "empty expression"

/-- The failure at a place where the next token, if there is one, does not fit. -/
def ParseFailure.unexpected : Option Token → ParseFailure
  | some token => .unexpectedToken token
  | none => .unexpectedEnd

/-- Why a script has no value. -/
inductive Failure where
  | parse (failure : ParseFailure)
  | undefinedVariable (name : String)
  | typeMismatch (op : BinaryOp) (left right : Value.Kind)
  | negation (operand : Value.Kind)
  | divisionByZero
deriving DecidableEq

/-- The text of a failure in messages. -/
def Failure.message : Failure → String
  | .parse failure => "parse error: " ++ failure.reason
  | .undefinedVariable name => "undefined variable \"" ++ name ++ "\""
  | .typeMismatch op left right =>
    "cannot apply \"" ++ op.symbol ++ "\" to " ++ left.name ++ " and " ++ right.name
  | .negation operand => "cannot apply \"-\" to " ++ operand.name
  | .divisionByZero => "division by zero"

end Gamebook.Script
