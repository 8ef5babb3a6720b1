/-! # What a double stands for

A double is an infinity, not a number, or a sign with a whole number of some power of two. `Binary`
is that reading of its sixty-four bits; arithmetic on it is exact arithmetic on whole numbers.
-/

namespace Gamebook.Number

/-- The value of a double: `finite s m e` is `m * 2 ^ e`, negated if `s` is set. -/
inductive Binary where
  | finite (negative : Bool) (mantissa : Nat) (exponent : Int)
  | infinite (negative : Bool)
  | nan
deriving DecidableEq, Repr

/-- The number of bits of a mantissa after its leading one. -/
def fractionBits : Nat := 52

/-- The leading one of a mantissa, which is not stored. -/
def leadingBit : Nat := 0x10000000000000

/-- The sign among the bits of a double. -/
def signBit : Nat := 0x8000000000000000

/-- The power of two that the last bit of the smallest doubles stands for. -/
def leastExponent : Int := -1074

/-- The value that a double stands for. -/
def Binary.ofFloat (x : Float) : Binary :=
  let bits := x.toBits.toNat
  let negative := signBit ≤ bits
  let exponent : Nat := bits / leadingBit % 0x800
  let fraction : Nat := bits % leadingBit
  if exponent = 2047 then
    if fraction = 0 then .infinite negative else .nan
  else if exponent = 0 then
    .finite negative fraction leastExponent
  else
    .finite negative (fraction + leadingBit) (exponent + leastExponent - 1)

/-- The bits of a double with a mantissa below `2 ^ 53` and its exponent, which is the least one
if the mantissa is below `2 ^ 52`. -/
def packed (negative : Bool) (mantissa : Nat) (exponent : Int) : Float :=
  let sign := if negative then signBit else 0
  let field := if mantissa < leadingBit then 0 else (exponent - leastExponent + 1).toNat
  Float.ofBits (UInt64.ofNat (sign + field * leadingBit + mantissa % leadingBit))

/-- The double for `significand * 2 ^ exponent`, where the significand has at most fifty-three bits
after its trailing zeros are removed and the exponent is not below the least one. -/
def ofSignificand (negative : Bool) (significand : Nat) (exponent : Int) : Float :=
  let length := significand.log2
  if length > fractionBits then
    packed negative (significand >>> (length - fractionBits)) (exponent + (length - fractionBits))
  else
    let shift := min (fractionBits - length) (exponent - leastExponent).toNat
    packed negative (significand <<< shift) (exponent - shift)

/-- Positive infinity. -/
def infinity : Float := Float.ofBits 0x7FF0000000000000

/-- The double that is not a number. -/
def notANumber : Float := Float.ofBits 0x7FF8000000000000

/-- The absolute value of a finite double that is whole, as a whole number. -/
def Binary.whole? : Binary → Option (Bool × Nat)
  | .finite negative mantissa exponent =>
    if 0 ≤ exponent then some (negative, mantissa <<< exponent.toNat)
    else if mantissa % (1 <<< (-exponent).toNat) = 0 then
      some (negative, mantissa >>> (-exponent).toNat)
    else none
  | _ => none

end Gamebook.Number
