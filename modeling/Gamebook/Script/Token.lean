import Gamebook.Text.Quoted
import Gamebook.Number.Layout

/-! # Tokens

The words, literals and signs that a script is made of, and how a message names them.
-/

namespace Gamebook.Script

/-- The smallest parts of a script. -/
inductive Token where
  | number (value : Float)
  | string (value : String)
  | word (name : String)
  | assign
  | eq | ne | lt | gt | le | ge
  | plus | minus | star | slash | percent
  | bang | andAnd | orOr
  | leftParen | rightParen
  | semicolon
deriving DecidableEq

/-- How a message names a token. -/
def Token.shown : Token → String
  | .number value => "Number(" ++ Number.Layout.marked.render value ++ ")"
  | .string value => "Str(" ++ Text.quoted value ++ ")"
  | .word name => "Ident(" ++ Text.quoted name ++ ")"
  | .assign => "Assign"
  | .eq => "Eq"
  | .ne => "Ne"
  | .lt => "Lt"
  | .gt => "Gt"
  | .le => "Le"
  | .ge => "Ge"
  | .plus => "Plus"
  | .minus => "Minus"
  | .star => "Star"
  | .slash => "Slash"
  | .percent => "Percent"
  | .bang => "Bang"
  | .andAnd => "AndAnd"
  | .orOr => "OrOr"
  | .leftParen => "LParen"
  | .rightParen => "RParen"
  | .semicolon => "Semi"

end Gamebook.Script
