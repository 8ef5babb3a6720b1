import Gamebook.Number.Binary

/-! # Shortest decimals

Every positive double is the rounding of all reals in an interval around it. `shortest` gives the
decimal with the fewest digits in that interval, and of those the one nearest to the double. A grid
of multiples of a power of ten meets the interval exactly if one of the two grid points beside the
double lies in it, so the search tries those two for one digit, then for two, and so on. Two points
that are equally near are told apart by a rule that the format of the text sets.
-/

namespace Gamebook.Number

/-- A positive decimal `0.d₁d₂… * 10 ^ point`, whose first and last digits are not zero. -/
structure Decimal where
  digits : List Char
  point : Int
deriving DecidableEq, Repr

/-- The decimal digits of a whole number. -/
def wholeDigits (n : Nat) : List Char :=
  Nat.toDigits 10 n

/-- The decimal `coefficient * 10 ^ exponent`. -/
def Decimal.ofScientific (coefficient : Nat) (exponent : Int) : Decimal :=
  let digits := wholeDigits coefficient
  ⟨(digits.reverse.dropWhile (· == '0')).reverse, digits.length + exponent⟩

/-- The largest exponent of a power of ten that is not above `mantissa * 2 ^ exponent`. -/
def decimalExponent (mantissa : Nat) (exponent : Int) : Int :=
  let numerator := mantissa <<< exponent.toNat
  let denominator := 1 <<< (-exponent).toNat
  if denominator ≤ numerator then
    (wholeDigits (numerator / denominator)).length - 1
  else
    -(wholeDigits ((denominator - 1) / numerator)).length

/-- Which of two neighbouring grid points stands for a double in the middle between them. -/
inductive Tie where
  | upward
  | even
deriving DecidableEq, Repr

/-- The point that is taken of a grid point and the one above it. -/
def Tie.pick (tie : Tie) (below : Nat) : Nat :=
  match tie with
  | upward => below + 1
  | even => if below % 2 = 0 then below else below + 1

/-- The nearest multiple of `10 ^ power` that rounds to the double `mantissa * 2 ^ exponent`, as the
number of steps. All quantities are counted in quarters of the double's last place, so that the
middle between two neighbouring doubles is a whole number. -/
def gridPoint? (tie : Tie) (mantissa : Nat) (exponent power : Int) : Option Nat :=
  let scale := Nat.pow 10 (-power).toNat <<< (exponent - 2).toNat
  let step := Nat.pow 10 power.toNat <<< (2 - exponent).toNat
  let gap := if mantissa = leadingBit ∧ leastExponent < exponent then 1 else 2
  let centre := 4 * mantissa * scale
  let low := (4 * mantissa - gap) * scale
  let high := (4 * mantissa + 2) * scale
  let rounds (n : Nat) : Bool :=
    if mantissa % 2 = 0 then low ≤ n * step && n * step ≤ high
    else low < n * step && n * step < high
  let below := centre / step
  let above := below + 1
  match rounds below, rounds above with
  | true, true =>
    let fromBelow := centre - below * step
    let toAbove := above * step - centre
    some (if fromBelow < toAbove then below else if toAbove < fromBelow then above
      else tie.pick below)
  | true, false => some below
  | false, true => some above
  | false, false => none

/-- The number of digits that is enough for every double. -/
def enoughDigits : Nat := 17

/-- The shortest decimal that rounds to the positive double `mantissa * 2 ^ exponent`. -/
def shortest (tie : Tie) (mantissa : Nat) (exponent : Int) : Decimal :=
  let leading := decimalExponent mantissa exponent
  let found := (List.range enoughDigits).findSome? fun further =>
    let power := leading - (further : Nat)
    (gridPoint? tie mantissa exponent power).map fun steps => Decimal.ofScientific steps power
  found.getD ⟨wholeDigits mantissa, 0⟩

end Gamebook.Number
