import Gamebook.Number.Binary

/-! # Remainder of doubles

The remainder of a division that is cut off toward zero. It is computed on whole numbers and always
representable, so nothing is rounded.
-/

namespace Gamebook.Number

/-- The remainder of a division cut off toward zero, with the sign of the dividend. -/
def remainder (x y : Float) : Float :=
  match Binary.ofFloat x, Binary.ofFloat y with
  | .nan, _ => notANumber
  | _, .nan => notANumber
  | .infinite _, _ => notANumber
  | .finite .., .infinite _ => x
  | .finite negative m e, .finite _ n f =>
    if n = 0 then notANumber
    else
      let least := min e f
      let dividend := m <<< (e - least).toNat
      let divisor := n <<< (f - least).toNat
      ofSignificand negative (dividend % divisor) least

end Gamebook.Number
