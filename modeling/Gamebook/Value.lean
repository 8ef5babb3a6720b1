import Gamebook.Number.Layout

/-! # Values

The variables of a gamebook hold booleans, numbers and strings. Every value has a text, which is
what a reader sees in its place, and counts as true or false.
-/

namespace Gamebook

/-- What a variable holds. -/
inductive Value where
  | boolean (b : Bool)
  | number (x : Float)
  | string (s : String)
deriving DecidableEq, Inhabited

/-- The three kinds of value. -/
inductive Value.Kind where
  | boolean
  | number
  | string
deriving DecidableEq, Repr

/-- The name of a kind in messages. -/
def Value.Kind.name : Value.Kind → String
  | .boolean => "boolean"
  | .number => "number"
  | .string => "string"

namespace Value

/-- The kind of a value. -/
def kind : Value → Kind
  | .boolean _ => .boolean
  | .number _ => .number
  | .string _ => .string

/-- False, the two zeros and the empty string count as false, all other values as true. -/
def isTruthy : Value → Bool
  | .boolean b => b
  | .number x => x != 0
  | .string s => s != ""

/-- The text of a number: all digits of a whole number, without a sign for either zero, and the
shortest decimal of any other. -/
def numberText (x : Float) : String :=
  match (Number.Binary.ofFloat x).whole? with
  | some (_, 0) => "0"
  | some (negative, n) => (if negative then "-" else "") ++ Number.wholeText n
  | none => Number.Layout.plain.render x

/-- What a reader sees in place of a value. -/
def text : Value → String
  | .boolean b => if b then "true" else "false"
  | .number x => numberText x
  | .string s => s

/-- Equality as scripts see it: kinds differ from one another, the two zeros are equal, and
the number that is not a number differs from itself. -/
def agrees : Value → Value → Bool
  | .boolean a, .boolean b => a == b
  | .number x, .number y => x == y
  | .string s, .string t => s == t
  | _, _ => false

end Value

end Gamebook
