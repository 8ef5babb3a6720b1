import Gamebook.Number.Layout
import Gamebook.Number.Reading

/-! # Digits of whole numbers

A whole number is written with decimal digits, without leading zeros, and read back from them.
-/

namespace Gamebook.Number

theorem isDigit_of_mem_wholeDigits {n : Nat} {c : Char} (h : c ∈ wholeDigits n) :
    c.isDigit = true :=
  Nat.isDigit_of_mem_toDigits (by decide) (by decide) h

theorem wholeDigits_ne_nil (n : Nat) : wholeDigits n ≠ [] :=
  Nat.toDigits_ne_nil

/-- The digits of a whole number stand for it. -/
theorem digitsValue_wholeDigits (n : Nat) : digitsValue (wholeDigits n) = n :=
  Nat.ofDigitChars_toDigits (by decide) (by decide)

/-- Only zero begins with a zero. -/
theorem head?_wholeDigits {n : Nat} (h : 0 < n) : (wholeDigits n).head? ≠ some '0' := by
  induction n using Nat.strongRecOn with
  | ind n ih =>
      unfold wholeDigits
      by_cases hbase : n < 10
      · rw [Nat.toDigits_of_lt_base hbase]
        simp only [List.head?_cons, ne_eq, Option.some.injEq, Nat.digitChar_eq_zero]
        omega
      · have hfirst := List.head?_eq_some_head (wholeDigits_ne_nil (n / 10))
        have htenth := ih (n / 10) (by omega) (by omega)
        rw [hfirst] at htenth
        change (Nat.toDigits 10 (n / 10)).head? = _ at hfirst
        rw [Nat.toDigits_of_base_le (by decide) (by omega), List.head?_append, hfirst,
          Option.some_or]
        exact htenth

/-- A number of more than one digit does not begin with a zero. -/
theorem noLeadingZero_wholeDigits (n : Nat) :
    ((wholeDigits n).head? == some '0' && decide (1 < (wholeDigits n).length)) = false := by
  by_cases h : n = 0
  · subst h
    rfl
  · have hhead := head?_wholeDigits (Nat.pos_of_ne_zero h)
    simp [hhead]

/-- A shortest decimal is made of digits. -/
theorem isDigit_of_mem_shortest {tie : Tie} {mantissa : Nat} {exponent : Int} {c : Char}
    (h : c ∈ (shortest tie mantissa exponent).digits) : c.isDigit = true := by
  unfold shortest at h
  dsimp only at h
  generalize hfound : List.findSome? _ _ = found at h
  cases found with
  | none => exact isDigit_of_mem_wholeDigits h
  | some decimal =>
      obtain ⟨further, -, hfurther⟩ := List.exists_of_findSome?_eq_some hfound
      obtain ⟨steps, -, rfl⟩ := Option.map_eq_some_iff.1 hfurther
      have hdigits := List.mem_reverse.1 h
      have hwhole := (List.dropWhile_sublist _).subset hdigits
      exact isDigit_of_mem_wholeDigits (List.mem_reverse.1 hwhole)

theorem wholeDigits_injective : Function.Injective wholeDigits :=
  Function.LeftInverse.injective digitsValue_wholeDigits

theorem toList_wholeText (n : Nat) : (wholeText n).toList = wholeDigits n :=
  String.toList_ofList

end Gamebook.Number
