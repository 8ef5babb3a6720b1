import Gamebook.Json.Numeral
import Gamebook.Proofs.Number.Digits
import Mathlib.Algebra.Group.Nat.Defs

/-! # Whole numbers as doubles

A whole number of sixty-four bits stands for a finite double, which is `isSome_toFloat?_whole`. The
proof follows the reader's arithmetic in the parts of doubles: each operation leaves a double below
a power of two that is known, and no such double is an infinity.
-/

namespace Gamebook

namespace Number

open Float.Model UnpackedFloat

/-- A double whose absolute value is below a power of two. -/
inductive Below (k : Int) : UnpackedFloat → Prop where
  | zero (sign : Sign) : Below k (.zero sign)
  | finite {sign : Sign} {mantissa : Nat} {exponent : Int} {hpos : 0 < mantissa}
    (h : mantissa.log2 + exponent < k) : Below k (.finite sign mantissa exponent hpos)

theorem Below.mono {j k : Int} {x : UnpackedFloat} (h : Below j x) (hle : j ≤ k) : Below k x := by
  cases h with
  | zero sign => exact .zero sign
  | finite h => exact .finite (Int.lt_of_lt_of_le h hle)

theorem below_of_lt {k : Int} {mantissa bits : Nat} {exponent : Int} (sign : Sign)
    (hpos : 0 < mantissa) (hlt : mantissa < 2 ^ bits) (h : bits + exponent ≤ k) :
    Below k (.finite sign mantissa exponent hpos) := by
  have hlog : mantissa.log2 < bits := (Nat.log2_lt (Nat.ne_of_gt hpos)).2 hlt
  exact .finite (by omega)

/-- A double that is below a power of two is no infinity. -/
theorem beq_infinity_of_below {k : Int} {x : Float} (h : Below k x.toModel.unpack) :
    (x == infinity) = false := by
  have hinfinity : infinity.toModel.unpack = .infinity .positive := rfl
  change (x.toModel.unpack.compare infinity.toModel.unpack == some .eq) = false
  rw [hinfinity]
  generalize x.toModel.unpack = unpacked at h
  cases h with
  | zero sign => rfl
  | finite h => rfl

/-! ## Powers of two -/

theorem log2_add_le_log2 {m n : Nat} (h : m / 2 ^ n ≠ 0) : (m / 2 ^ n).log2 + n ≤ m.log2 := by
  have hm : m ≠ 0 := by
    rintro rfl
    exact h (Nat.zero_div _)
  rw [Nat.le_log2 hm, Nat.pow_add]
  calc 2 ^ (m / 2 ^ n).log2 * 2 ^ n ≤ m / 2 ^ n * 2 ^ n :=
        Nat.mul_le_mul_right _ (Nat.log2_self_le h)
    _ ≤ m := Nat.div_mul_le_self m _

theorem log2_le_log2_add_one {m r : Nat} (hr : r ≠ 0) (hle : r ≤ m + 1) :
    r.log2 ≤ m.log2 + 1 := by
  refine Nat.le_of_lt_succ ((Nat.log2_lt hr).2 ?_)
  have hlt : m < 2 ^ (m.log2 + 1) := Nat.lt_log2_self
  have hpow : 2 ^ (m.log2 + 2) = 2 * 2 ^ (m.log2 + 1) := by rw [Nat.pow_succ, Nat.mul_comm]
  omega

theorem shiftLeft_ne_zero {m : Nat} (hm : m ≠ 0) (n : Nat) : m <<< n ≠ 0 := by
  rw [Nat.shiftLeft_eq]
  exact Nat.mul_ne_zero hm (Nat.ne_of_gt (Nat.two_pow_pos n))

theorem log2_shiftLeft_le {m : Nat} (hm : m ≠ 0) (n : Nat) : (m <<< n).log2 ≤ m.log2 + n := by
  refine Nat.le_of_lt_succ ((Nat.log2_lt (shiftLeft_ne_zero hm n)).2 ?_)
  rw [Nat.shiftLeft_eq, Nat.succ_eq_add_one, Nat.add_right_comm, Nat.pow_add]
  exact Nat.mul_lt_mul_of_pos_right Nat.lt_log2_self (Nat.two_pow_pos n)

theorem log2_mul_le {m n : Nat} (hm : m ≠ 0) (hn : n ≠ 0) :
    (m * n).log2 ≤ m.log2 + n.log2 + 1 := by
  have hlt : m * n < 2 ^ (m.log2 + 1) * 2 ^ (n.log2 + 1) :=
    Nat.mul_lt_mul'' Nat.lt_log2_self Nat.lt_log2_self
  rw [← Nat.pow_add] at hlt
  have hlog := (Nat.log2_lt (Nat.mul_ne_zero hm hn)).2 hlt
  omega

/-! ## Rounding -/

theorem mantissa_shiftRight (extended : ExtendedMantissa) (n : Nat) :
    (extended >>> n).mantissa = extended.mantissa / 2 ^ n := by
  change (n.repeat ExtendedMantissa.shiftRightOne extended).mantissa = _
  induction n with
  | zero => simp [Nat.repeat]
  | succ n ih =>
      rw [Nat.repeat, Nat.pow_succ, ← Nat.div_div_eq_div_mul, ← ih]
      rfl

/-- Rounding adds at most one in the last place. -/
theorem roundedMantissa_le (extended : ExtendedMantissa) :
    extended.roundedMantissa ≤ extended.mantissa + 1 := by
  obtain ⟨mantissa, round, sticky⟩ := extended
  have hmod : mantissa % 2 ≤ 1 := Nat.le_of_lt_succ (Nat.mod_lt _ (by decide))
  cases round <;> cases sticky <;>
    simp [ExtendedMantissa.roundedMantissa, ExtendedMantissa.accuracy,
      Accuracy.roundToNearestEven]
  omega

/-- The power of two below which doubles lose places. -/
def leastPower : Int := -1022

/-- Rounding leaves a double below the next power of two. -/
theorem below_roundWithAccuracy {k : Int} (sign : Sign) {mantissa : Nat} {exponent : Int}
    (hne : mantissa ≠ 0) (hk : leastPower ≤ k) (h : mantissa.log2 + exponent < k) :
    Below (k + 1) (roundWithAccuracy Format.binary64 sign mantissa exponent .exact) := by
  unfold roundWithAccuracy shiftToTargetExponent shiftToExponent
  dsimp only
  -- So many bits are dropped before the mantissa is rounded, and so many after it.
  generalize hdropped : Int.toNat (_ - exponent) = dropped
  generalize hrounded : ExtendedMantissa.roundedMantissa _ = rounded
  generalize Int.toNat _ = further
  have hle : rounded ≤ mantissa / 2 ^ dropped + 1 := by
    have hround := roundedMantissa_le
      (ExtendedMantissa.ofMantissaAndAccuracy mantissa .exact >>> dropped)
    rw [hrounded, mantissa_shiftRight] at hround
    exact hround
  have hkept := mantissa_shiftRight (ExtendedMantissa.ofMantissaAndAccuracy rounded .exact) further
  by_cases hfinal : rounded / 2 ^ further = 0
  · rw [dif_pos (hkept.trans hfinal)]
    exact .zero sign
  · rw [dif_neg (fun heq => hfinal (hkept.symm.trans heq))]
    refine .finite ?_
    rw [hkept]
    change ((rounded / 2 ^ further).log2 : Int) + (exponent + dropped + further) < k + 1
    have hfurther := log2_add_le_log2 hfinal
    have hrounded_ne : rounded ≠ 0 := by
      rintro rfl
      exact hfinal (Nat.zero_div _)
    by_cases hzero : mantissa / 2 ^ dropped = 0
    · -- All bits are dropped, so the exponent has been raised to the least one.
      rw [hzero] at hle
      have hlog : rounded.log2 = 0 := by
        rw [show rounded = 1 by omega]
        rfl
      have hdropped_ne : dropped ≠ 0 := by
        rintro rfl
        exact hne (by simpa using hzero)
      change (max ((mantissa.log2 : Int) + 1 + exponent - 53) (-1074) - exponent).toNat = _
        at hdropped
      rw [leastPower] at hk
      omega
    · have hlog := log2_le_log2_add_one hrounded_ne hle
      have hfirst := log2_add_le_log2 hzero
      omega

theorem below_round {k : Int} (sign : Sign) {mantissa : Nat} {exponent : Int}
    (hne : mantissa ≠ 0) (hk : leastPower ≤ k) (h : mantissa.log2 + exponent < k) :
    Below (k + 1) (UnpackedFloat.round Format.binary64 sign mantissa exponent) := by
  unfold UnpackedFloat.round decreaseExponent
  dsimp only
  generalize Int.toNat _ = shift
  have hlog := log2_shiftLeft_le hne shift
  exact below_roundWithAccuracy sign (shiftLeft_ne_zero hne shift) hk (by omega)

theorem below_mul {j k : Int} {x y : UnpackedFloat} (hx : Below j x) (hy : Below k y)
    (hleast : leastPower ≤ j + k) : Below (j + k + 1) (UnpackedFloat.mul Format.binary64 x y) := by
  cases hx with
  | zero sign => cases hy <;> exact .zero _
  | @finite sign mantissa exponent hpos hx =>
      cases hy with
      | zero sign => exact .zero _
      | @finite sign' mantissa' exponent' hpos' hy =>
          have hne := Nat.ne_of_gt hpos
          have hne' := Nat.ne_of_gt hpos'
          have hlog := log2_mul_le hne hne'
          exact below_roundWithAccuracy _ (Nat.mul_ne_zero hne hne') hleast (by omega)

/-! ## Doubles in their bits -/

/-- The exponent among the bits of a double says which power of two it is below. -/
theorem below_unpack {k : Int} {bits : BitVec Format.binary64.numBits}
    (hfield : unpackExponent bits ≠ -1#11) (hk : (unpackExponent bits).toNat + leastPower ≤ k) :
    Below k (UnpackedFloat.unpack Format.binary64 bits) := by
  rw [leastPower] at hk
  unfold UnpackedFloat.unpack
  dsimp only
  rw [if_neg hfield]
  by_cases hleast : unpackExponent bits = 0#11
  · rw [if_pos hleast]
    by_cases hzero : unpackMantissa bits = 0#52
    · rw [dif_pos hzero]
      exact .zero _
    · rw [dif_neg hzero]
      refine below_of_lt _ _ (unpackMantissa bits).isLt ?_
      change (52 : Int) + ((unpackExponent bits).toNat - (1023 + 52) + 1) ≤ k
      omega
  · rw [if_neg hleast]
    refine below_of_lt _ _ (1#1 ++ unpackMantissa bits).isLt ?_
    change (53 : Int) + ((unpackExponent bits).toNat - (1023 + 52)) ≤ k
    omega

theorem below_unpack_packComponents {k : Int} (sign : Sign) {field : BitVec 11}
    (mantissa : BitVec 52) (hfield : field ≠ -1#11) (hk : field.toNat + leastPower ≤ k) :
    Below k (UnpackedFloat.unpack Format.binary64
      (packComponents Format.binary64 sign field mantissa)) := by
  have hexponent : unpackExponent (packComponents Format.binary64 sign field mantissa) = field :=
    unpackExponent_packComponents
  refine below_unpack ?_ ?_
  · rw [hexponent]
    exact hfield
  · rw [hexponent]
    exact hk

/-- A double that is below a power of two still is when it has been put into bits. -/
theorem below_unpack_pack {k : Int} {x : UnpackedFloat} (hk : leastPower ≤ k) (hmax : k ≤ 900)
    (h : Below k x) :
    Below k (UnpackedFloat.unpack Format.binary64 (UnpackedFloat.pack Format.binary64 x)) := by
  have hleast (sign : Sign) (mantissa : BitVec 52) := below_unpack_packComponents (k := k) sign
    mantissa (show 0#11 ≠ -1#11 by decide) (by simpa using hk)
  cases h with
  | zero sign => exact hleast sign 0
  | @finite sign mantissa exponent hpos h =>
      unfold UnpackedFloat.pack
      dsimp only
      generalize hbiased : Int.toNat _ = biased
      change (exponent + 1023 + 52).toNat = biased at hbiased
      rw [if_neg (show ¬ 2 ^ 11 ≤ biased + 1 by omega)]
      split
      next hlog =>
        change mantissa.log2 + 1 = 53 at hlog
        have hfield : (BitVec.ofNat 11 biased).toNat = biased :=
          Nat.mod_eq_of_lt (show biased < 2 ^ 11 by omega)
        refine below_unpack_packComponents sign _ (fun heq => ?_) ?_
        · have hall : biased = 2047 := hfield.symm.trans (congrArg BitVec.toNat heq)
          omega
        · rw [leastPower] at *
          omega
      next => exact hleast sign _

/-! ## Whole numbers of sixty-four bits -/

theorem log2_lt_of_lt_wordBound {n : Nat} (hne : n ≠ 0) (h : n < wordBound) : n.log2 < 64 :=
  (Nat.log2_lt hne).2 h

theorem below_toFloat {n : Nat} (h : n < wordBound) :
    Below 65 n.toUInt64.toFloat.toModel.unpack := by
  refine below_unpack_pack (by decide) (by decide) ?_
  change Below 65 (UnpackedFloat.normalize Format.binary64 (n.toUInt64.toNat : Int) 0 .positive)
  have hsame : n.toUInt64.toNat = n := Nat.mod_eq_of_lt h
  rw [hsame]
  unfold UnpackedFloat.normalize
  split
  next hlt =>
    have hnegative : (n : Int) < 0 := Std.compare_eq_lt.1 hlt
    omega
  next => exact .zero _
  next hgt =>
    have hne : n ≠ 0 := by
      rintro rfl
      cases hgt
    have hlog := log2_lt_of_lt_wordBound hne h
    rw [Int.toNat_natCast]
    exact below_round (k := 64) .positive hne (by decide) (by omega)

theorem below_firstPower (h : 0 < Float.exactlyRepresentablePowersOfTen.size) :
    Below 1 Float.exactlyRepresentablePowersOfTen[0].toModel.unpack := by
  refine below_unpack_pack (by decide) (by decide) (.finite ?_)
  change (Nat.log2 (1#1 ++ (0 : BitVec 52)).toNat : Int) + (1023 - (1023 + 52)) < 1
  decide

theorem below_ofScientific {n : Nat} (h : n < wordBound) :
    Below 67 (Float.ofScientific n false 0).toModel.unpack := by
  unfold Float.ofScientific
  split
  next =>
    -- A number of fifty-three bits is turned into a double and multiplied by one.
    exact below_unpack_pack (by decide) (by decide)
      (below_mul (below_toFloat h) (below_firstPower (by decide)) (by decide))
  next =>
    -- Others are taken in units of the fifty-third place and multiplied by one.
    refine below_unpack_pack (by decide) (by decide) ?_
    change Below 67 (UnpackedFloat.ofScientific Format.binary64 n 0)
    unfold UnpackedFloat.ofScientific
    by_cases hne : n = 0
    · rw [dif_pos hne]
      exact .zero _
    · have hfew : ¬ (0 : Int) < -((2 ^ 11 : Int) + n.log2) := by omega
      rw [dif_neg hne, if_neg (by decide), if_neg hfew, if_pos (by decide)]
      have hlog := log2_lt_of_lt_wordBound hne h
      have hshift := log2_shiftLeft_le hne 53
      refine Below.mono (below_mul (j := 64) (k := 1) (.finite ?_) (.finite ?_) (by decide))
        (by decide)
      · change ((n <<< 53).log2 : Int) + -53 < 64
        omega
      · change (Nat.log2 (10 ^ 0) : Int) + 0 < 1
        decide

theorem length_wholeDigits_le {n : Nat} (h : n < wordBound) : (wholeDigits n).length ≤ 20 :=
  (Nat.length_toDigits_le_iff (by decide) (by decide)).2 (Nat.lt_trans h (by decide))

theorem below_nearest {n : Nat} (h : n < wordBound) : Below 67 (nearest n 0).toModel.unpack := by
  unfold nearest
  split
  next => exact below_ofScientific (n := 0) (by decide)
  next =>
    have hlength := length_wholeDigits_le h
    unfold wholeDigits at hlength
    dsimp only
    rw [if_neg (by omega), if_neg (by omega)]
    exact below_ofScientific h

end Number

namespace Json

open Number

theorem isSome_scaled? {n : Nat} (h : n < wordBound) : (scaled? n 0).isSome := by
  have hproduct := below_unpack_pack (by decide) (by decide)
    (below_mul (below_nearest h) (below_nearest (n := 1) (by decide)) (by decide))
  have hfinite : (nearest n 0 * nearest 1 0 == infinity) = false :=
    beq_infinity_of_below hproduct
  unfold scaled?
  rw [if_neg (by decide), if_pos (by decide)]
  change (if (nearest n 0 * nearest 1 0 == infinity) = true then none else _).isSome = true
  rw [hfinite]
  rfl

theorem le_foldl_digits (value : Nat) (digits : List Char) :
    value ≤ digits.foldl (fun value digit => 10 * value + digitValue digit) value := by
  induction digits generalizing value with
  | nil => exact Nat.le_refl _
  | cons digit rest ih =>
      rw [List.foldl_cons]
      exact Nat.le_trans (by omega) (ih _)

/-- Digits are all taken if their value fits into sixty-four bits. -/
theorem takeDigits_of_foldl_lt {value : Nat} {digits : List Char}
    (h : digits.foldl (fun value digit => 10 * value + digitValue digit) value < wordBound) :
    takeDigits value digits =
      (digits.foldl (fun value digit => 10 * value + digitValue digit) value, digits.length,
        0) := by
  induction digits generalizing value with
  | nil => rfl
  | cons digit rest ih =>
      rw [List.foldl_cons] at h ⊢
      have hnext := Nat.lt_of_le_of_lt (le_foldl_digits (10 * value + digitValue digit) rest) h
      rw [takeDigits, if_pos hnext, ih h]
      rfl

/-- The digits of a whole number of sixty-four bits stand for a double. -/
theorem isSome_toFloat?_whole {n : Nat} (h : n < wordBound) :
    (Numeral.toFloat? ⟨false, wholeDigits n, [], none⟩).isSome := by
  have hvalue : (wholeDigits n).foldl (fun value digit => 10 * value + digitValue digit) 0 = n :=
    digitsValue_wholeDigits n
  have htake : takeDigits 0 (wholeDigits n) = (_, _, 0) :=
    takeDigits_of_foldl_lt (by rw [hvalue]; exact h)
  rw [hvalue] at htake
  unfold Numeral.toFloat?
  rw [htake]
  change (Option.map _ (scaled? n 0)).isSome = true
  rw [Option.isSome_map]
  exact isSome_scaled? h

end Json

end Gamebook
