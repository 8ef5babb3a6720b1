import Gamebook.Number.Binary

/-! # Reading numbers

A number is written as digits with at most one point, which may stand first or last, and may have a
sign and an exponent. It is read as the double nearest to it.
-/

namespace Gamebook.Number

/-- The value of a row of decimal digits. -/
def digitsValue (digits : List Char) : Nat :=
  digits.foldl (fun value digit => 10 * value + (digit.toNat - '0'.toNat)) 0

/-- The value of a hexadecimal digit. -/
def hexValue? (c : Char) : Option Nat :=
  if c.isDigit then some (c.toNat - '0'.toNat)
  else if 'a' ≤ c && c ≤ 'f' then some (c.toNat - 'a'.toNat + 10)
  else if 'A' ≤ c && c ≤ 'F' then some (c.toNat - 'A'.toNat + 10)
  else none

/-- The value of a row of hexadecimal digits. -/
def hexDigitsValue? (digits : List Char) : Option Nat :=
  digits.foldlM (fun value digit => (hexValue? digit).map (16 * value + ·)) 0

/-- The double nearest to `coefficient * 10 ^ exponent`. Numbers far outside the range of doubles
are answered without computing them. -/
def nearest (coefficient : Nat) (exponent : Int) : Float :=
  if coefficient = 0 then 0
  else
    let leading := (Nat.toDigits 10 coefficient).length + exponent
    if 400 < leading then infinity
    else if leading < -400 then 0
    else Float.ofScientific coefficient (exponent < 0) exponent.natAbs

/-- Digits with at most one point, as a coefficient and a power of ten. There is at least one
digit. -/
def readDecimal? (cs : List Char) : Option (Nat × Int) :=
  let whole := cs.takeWhile Char.isDigit
  match cs.dropWhile Char.isDigit with
  | [] => if whole.isEmpty then none else some (digitsValue whole, 0)
  | '.' :: fraction =>
    if fraction.all Char.isDigit && !(whole.isEmpty && fraction.isEmpty) then
      some (digitsValue (whole ++ fraction), -fraction.length)
    else none
  | _ => none

/-- An optional sign in front of a text, with the rest. -/
def splitSign : List Char → Bool × List Char
  | '-' :: rest => (true, rest)
  | '+' :: rest => (false, rest)
  | cs => (false, cs)

/-- A row of digits with an optional sign. -/
def readInteger? (cs : List Char) : Option Int :=
  let (negative, digits) := splitSign cs
  if digits.isEmpty || !digits.all Char.isDigit then none
  else some (if negative then -(digitsValue digits) else digitsValue digits)

/-- The first whole number that does not fit into sixty-four bits. -/
def wordBound : Nat := 0x10000000000000000

/-- The first whole number that does not fit into sixty-four bits with a sign. -/
def integerBound : Nat := 0x8000000000000000

/-- An integer in sixty-four bits with a sign, if it fits. -/
def int64? (n : Int) : Option Int64 :=
  if -integerBound ≤ n ∧ n < integerBound then some (Int64.ofInt n) else none

/-- A number without a sign: digits with at most one point and perhaps an exponent. -/
def readScientific? (cs : List Char) : Option Float :=
  let isMark (c : Char) : Bool := c == 'e' || c == 'E'
  let mantissa := cs.takeWhile fun c => !isMark c
  match readDecimal? mantissa, cs.dropWhile fun c => !isMark c with
  | some (coefficient, shift), [] => some (nearest coefficient shift)
  | some (coefficient, shift), _ :: exponent =>
    (readInteger? exponent).map fun e => nearest coefficient (e + shift)
  | none, _ => none

/-- The double that a text stands for: a number, or in any mix of capitals and small letters `inf`,
`infinity` or `nan`, after an optional sign. -/
def readDouble? (cs : List Char) : Option Float :=
  let (negative, rest) := splitSign cs
  let word := rest.map Char.toLower
  let magnitude :=
    if word = "inf".toList || word = "infinity".toList then some infinity
    else if word = "nan".toList then some notANumber
    else readScientific? rest
  magnitude.map fun x => if negative then -x else x

end Gamebook.Number
