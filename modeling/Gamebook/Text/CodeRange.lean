/-! # Ranges of code points

A character class is given as a list of code point ranges in increasing order, so that a search can
stop at the first range that ends at or after the character.
-/

namespace Gamebook.Text

/-- The code points from `first` to `last`, both included. -/
structure CodeRange where
  first : Nat
  last : Nat
deriving DecidableEq, Repr

/-- Whether one of the ranges, which stand in increasing order, holds the code point. -/
def CodeRange.hold : List CodeRange → Nat → Bool
  | [], _ => false
  | range :: rest, code =>
    if code ≤ range.last then range.first ≤ code else CodeRange.hold rest code

/-- Whether one of the ranges, which stand in increasing order, holds the character. -/
def CodeRange.covers (ranges : List CodeRange) (c : Char) : Bool :=
  CodeRange.hold ranges c.toNat

theorem covers_eq_false {ranges : List CodeRange} {codes : List Nat} {c : Char}
    (hcodes : codes.all (fun code => !CodeRange.hold ranges code) = true) (h : c.toNat ∈ codes) :
    CodeRange.covers ranges c = false := by
  have hcode := List.all_eq_true.1 hcodes c.toNat h
  rwa [Bool.not_eq_eq_eq_not, Bool.not_true] at hcode

end Gamebook.Text
