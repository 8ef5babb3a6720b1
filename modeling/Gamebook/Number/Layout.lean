import Gamebook.Number.Shortest

/-! # Layouts of numbers

A layout says how the shortest decimal of a double is written: for which exponents the digits stand
around the point and for which the exponent is written out, what marks a whole number, and which of
two equally near decimals is taken.
-/

namespace Gamebook.Number

/-- The choices that the text of a number depends on. -/
structure Layout where
  /-- Whether a number between `10 ^ e` and `10 ^ (e + 1)` is written without an exponent. -/
  positional : Int → Bool
  /-- What follows the digits of a whole number that is written without an exponent. -/
  wholeMark : String
  /-- What stands before an exponent that is not negative. -/
  exponentMark : String
  /-- Which of two equally near decimals is taken. -/
  tie : Tie

/-- No number has an exponent, and whole numbers have no mark. -/
def Layout.plain : Layout := ⟨fun _ => true, "", "", .upward⟩

/-- Numbers from `10 ^ -4` up to `10 ^ 16` have no exponent, and whole numbers end in `.0`. -/
def Layout.marked : Layout := ⟨fun e => -4 ≤ e && e < 16, ".0", "", .upward⟩

/-- Numbers from `10 ^ -5` up to `10 ^ 16` have no exponent, whole numbers end in `.0`, and
an exponent always has a sign. -/
def Layout.signed : Layout := ⟨fun e => -5 ≤ e && e < 16, ".0", "+", .even⟩

/-- A row of zeros. -/
def zeros (n : Nat) : String :=
  String.ofList (List.replicate n '0')

/-- The text of a whole number. -/
def wholeText (n : Nat) : String :=
  String.ofList (wholeDigits n)

/-- The text of a number that may be negative. -/
def signedText (n : Int) : String :=
  if n < 0 then "-" ++ wholeText n.natAbs else wholeText n.natAbs

/-- A decimal with its digits around the point. -/
def Layout.around (layout : Layout) (d : Decimal) : String :=
  let count : Int := d.digits.length
  if d.point ≤ 0 then
    "0." ++ zeros (-d.point).toNat ++ String.ofList d.digits
  else if count ≤ d.point then
    String.ofList d.digits ++ zeros (d.point - count).toNat ++ layout.wholeMark
  else
    String.ofList (d.digits.take d.point.toNat) ++ "."
      ++ String.ofList (d.digits.drop d.point.toNat)

/-- A decimal with one digit before the point and its exponent. -/
def Layout.scaled (layout : Layout) (d : Decimal) : String :=
  let fraction := match d.digits.drop 1 with
    | [] => ""
    | rest => "." ++ String.ofList rest
  let exponent := d.point - 1
  String.ofList (d.digits.take 1) ++ fraction ++ "e"
    ++ (if exponent < 0 then "" else layout.exponentMark) ++ signedText exponent

/-- The text of a positive decimal. -/
def Layout.decimal (layout : Layout) (d : Decimal) : String :=
  if layout.positional (d.point - 1) then layout.around d else layout.scaled d

/-- The text of a double: a minus sign if it is negative, then its shortest decimal, `inf`, or
`NaN` for the double that is not a number. -/
def Layout.render (layout : Layout) (x : Float) : String :=
  match Binary.ofFloat x with
  | .nan => "NaN"
  | .infinite negative => (if negative then "-" else "") ++ "inf"
  | .finite negative mantissa exponent =>
    (if negative then "-" else "")
      ++ if mantissa = 0 then "0" ++ layout.wholeMark
        else layout.decimal (shortest layout.tie mantissa exponent)

end Gamebook.Number
