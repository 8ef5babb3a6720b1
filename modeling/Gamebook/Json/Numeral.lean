import Gamebook.Json.Basic
import Gamebook.Number.Reading

/-! # Numbers in JSON

A number has a whole part without leading zeros and may have a fraction and an exponent, each with
at least one digit. An integer keeps its exact value. As a double, a number is worked out in one
rounded step from its leading digits, as many as fit into sixty-four bits, and a power of ten; the
result can differ from the nearest double in its last place.
-/

namespace Gamebook.Json

/-- The parts of a number. The fraction is empty if there is no point, and the exponent has its
sign. -/
structure Numeral where
  negative : Bool
  whole : List Char
  fraction : List Char
  exponent : Option (Bool × List Char)
deriving DecidableEq

/-- The exponent of a number, from its mark to the end of the text. -/
def readExponent? : List Char → Option (Option (Bool × List Char))
  | [] => some none
  | mark :: rest =>
    let (negative, digits) := Number.splitSign rest
    if (mark == 'e' || mark == 'E') && !digits.isEmpty && digits.all Char.isDigit then
      some (some (negative, digits))
    else none

/-- The number that a text is. -/
def Numeral.ofText? (text : List Char) : Option Numeral :=
  let (negative, unsigned) := match text with
    | '-' :: rest => (true, rest)
    | cs => (false, cs)
  let whole := unsigned.takeWhile Char.isDigit
  if whole.isEmpty || (whole.head? == some '0' && 1 < whole.length) then none
  else
    match unsigned.dropWhile Char.isDigit with
    | '.' :: rest =>
      let fraction := rest.takeWhile Char.isDigit
      if fraction.isEmpty then none
      else (readExponent? (rest.dropWhile Char.isDigit)).map (⟨negative, whole, fraction, ·⟩)
    | rest => (readExponent? rest).map (⟨negative, whole, [], ·⟩)

/-- The value of a number that is spelled as an integer. Minus zero is not an integer. -/
def Numeral.integer? (numeral : Numeral) : Option Int :=
  let value := Number.digitsValue numeral.whole
  if numeral.fraction.isEmpty && numeral.exponent.isNone then
    if numeral.negative then
      if value = 0 then none else some (-value)
    else some value
  else none

/-- The value of one decimal digit. -/
def digitValue (c : Char) : Nat :=
  c.toNat - '0'.toNat

/-- Takes digits into a significand while it fits into sixty-four bits, and says how many were taken
and how many were left. -/
def takeDigits (significand : Nat) : List Char → Nat × Nat × Nat
  | [] => (significand, 0, 0)
  | digit :: rest =>
    let next := 10 * significand + digitValue digit
    if next < Number.wordBound then
      let (total, taken, left) := takeDigits next rest
      (total, taken + 1, left)
    else (significand, 0, rest.length + 1)

/-- The largest power of ten that is divided by at once. -/
def largestPower : Nat := 308

/-- Divides by a power of ten in steps that stay within the range of doubles. -/
def scaleDown (x : Float) (power : Nat) : Float :=
  if power ≤ largestPower then x / Number.nearest 1 power
  else if x == 0 then x
  else scaleDown (x / Number.nearest 1 largestPower) (power - largestPower)
termination_by power
decreasing_by
  simp only [largestPower] at *
  omega

/-- A significand with a power of ten, unless the result is too large. -/
def scaled? (significand : Nat) (power : Int) : Option Float :=
  let x := Number.nearest significand 0
  if power < 0 then some (scaleDown x power.natAbs)
  else if power ≤ largestPower then
    let product := x * Number.nearest 1 power
    if product == Number.infinity then none else some product
  else if significand = 0 then some x
  else none

/-- The largest exponent that is taken into account. -/
def largestExponent : Nat := 0x7FFFFFFF

/-- The double that a number stands for, unless it is too large. -/
def Numeral.toFloat? (numeral : Numeral) : Option Float :=
  let (leading, _, dropped) := takeDigits 0 numeral.whole
  let (significand, taken, _) := takeDigits leading numeral.fraction
  let shift : Int := dropped - taken
  let magnitude : Option Float := match numeral.exponent with
    | none => scaled? significand shift
    | some (negative, digits) =>
      let exponent := Number.digitsValue digits
      if largestExponent < exponent then
        if significand ≠ 0 && !negative then none else some 0
      else scaled? significand (if negative then shift - exponent else shift + exponent)
  magnitude.map fun x => if numeral.negative then -x else x

end Gamebook.Json
