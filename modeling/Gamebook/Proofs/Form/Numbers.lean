import Gamebook.Form.Record
import Gamebook.Proofs.Json.Scanning
import Gamebook.Proofs.Number.Digits

/-! # Numbers that are written and read

Whole numbers are read back from what they are written as. A finite double is written with the
characters of numbers; whether it is read back is up to the double.
-/

namespace Gamebook

namespace Json

open Number

theorem isNumberChar_of_isDigit {c : Char} (h : c.isDigit = true) : isNumberChar c = true := by
  simp [isNumberChar, h]

theorem numberLike_wholeText (n : Nat) : NumberLike (wholeText n) := by
  refine ⟨?_, ?_⟩
  · rw [toList_wholeText]
    exact wholeDigits_ne_nil n
  · intro c hc
    rw [toList_wholeText] at hc
    exact isNumberChar_of_isDigit (isDigit_of_mem_wholeDigits hc)

/-- Digits are spelled as a number without fraction or exponent, with or without a sign. -/
theorem ofText?_digits (negative : Bool) (n : Nat) :
    Numeral.ofText? ((if negative then ['-'] else []) ++ wholeDigits n) =
      some ⟨negative, wholeDigits n, [], none⟩ := by
  have hall := fun c hc => @isDigit_of_mem_wholeDigits n c hc
  have htake := @List.takeWhile_append_of_pos _ _ _ [] hall
  have hdrop := @List.dropWhile_append_of_pos _ _ _ [] hall
  rw [List.append_nil, List.takeWhile_nil, List.append_nil] at htake
  rw [List.append_nil, List.dropWhile_nil] at hdrop
  have hempty : (wholeDigits n).isEmpty = false := by
    simp [wholeDigits_ne_nil n]
  cases negative with
  | true =>
      rw [if_pos rfl, List.singleton_append, Numeral.ofText?, htake, hdrop, hempty,
        noLeadingZero_wholeDigits]
      simp [readExponent?]
  | false =>
      rw [if_neg Bool.false_ne_true, List.nil_append, Numeral.ofText?, htake, hdrop, hempty,
        noLeadingZero_wholeDigits]
      · simp [readExponent?]
      · intro rest heq
        have hminus := hall '-' (by rw [heq]; exact List.mem_cons_self)
        exact absurd hminus (by decide)

/-- A whole number is spelled as a number without fraction or exponent. -/
theorem ofText?_wholeText (n : Nat) :
    Numeral.ofText? (wholeText n).toList = some ⟨false, wholeDigits n, [], none⟩ := by
  rw [toList_wholeText]
  exact ofText?_digits false n

/-- An integer is spelled as a number without fraction or exponent. -/
theorem ofText?_signedText (n : Int) :
    Numeral.ofText? (signedText n).toList =
      some ⟨decide (n < 0), wholeDigits n.natAbs, [], none⟩ := by
  unfold signedText
  split
  next hlt =>
    rw [String.toList_append, toList_wholeText, decide_eq_true hlt]
    exact ofText?_digits true n.natAbs
  next hle =>
    rw [decide_eq_false hle]
    exact ofText?_wholeText n.natAbs

/-- An integer is read back. -/
theorem asInt_ofInt (n : Int) : (ofInt n).asInt = .ok n := by
  have hinteger : Numeral.integer? ⟨decide (n < 0), wholeDigits n.natAbs, [], none⟩ = some n := by
    unfold Numeral.integer?
    dsimp only
    rw [digitsValue_wholeDigits]
    change (if decide (n < 0) = true then
      if n.natAbs = 0 then none else some (-(n.natAbs : Int)) else some (n.natAbs : Int)) = some n
    by_cases hlt : n < 0
    · have hne : n.natAbs ≠ 0 := by omega
      have hvalue : -(n.natAbs : Int) = n := by omega
      rw [if_pos (decide_eq_true hlt), if_neg hne, hvalue]
    · have hvalue : (n.natAbs : Int) = n := by omega
      rw [if_neg (by simpa using hlt), hvalue]
  unfold ofInt asInt
  dsimp only
  rw [ofText?_signedText, Option.bind_some, hinteger]

/-- A whole number is read back if it is below the bound that is asked for. -/
theorem asNatBelow_ofNat_eq_ok_iff {bound n count : Nat} :
    (ofNat n).asNatBelow bound = .ok count ↔ n < bound ∧ count = n := by
  have hint : (ofNat n).asInt = .ok (n : Int) := by
    simp only [ofNat, asInt]
    rw [ofText?_wholeText]
    simp [Numeral.integer?, digitsValue_wholeDigits]
  rw [asNatBelow, hint]
  by_cases hlt : n < bound
  · have hcast : (n : Int) < (bound : Int) := Int.ofNat_lt.2 hlt
    simp [bind, Except.bind, hlt, hcast, eq_comm]
  · have hcast : ¬ (n : Int) < (bound : Int) := fun h => hlt (Int.ofNat_lt.1 h)
    simp [bind, Except.bind, hlt, hcast]

/-- A place or count is read back if it fits into sixty-four bits. -/
theorem asCount_ofNat_eq_ok_iff {n count : Nat} :
    (ofNat n).asCount = .ok count ↔ n < wordBound ∧ count = n :=
  asNatBelow_ofNat_eq_ok_iff

theorem all_wholeText (n : Nat) : ∀ c ∈ (wholeText n).toList, isNumberChar c = true :=
  (numberLike_wholeText n).all

theorem all_append {s t : String} (hs : ∀ c ∈ s.toList, isNumberChar c = true)
    (ht : ∀ c ∈ t.toList, isNumberChar c = true) :
    ∀ c ∈ (s ++ t).toList, isNumberChar c = true := by
  intro c hc
  rw [String.toList_append, List.mem_append] at hc
  exact hc.elim (hs c) (ht c)

theorem NumberLike.append_left {s t : String} (hs : ∀ c ∈ s.toList, isNumberChar c = true)
    (ht : NumberLike t) : NumberLike (s ++ t) :=
  ⟨by simp [ht.ne_nil], all_append hs ht.all⟩

theorem NumberLike.append_right {s t : String} (hs : NumberLike s)
    (ht : ∀ c ∈ t.toList, isNumberChar c = true) : NumberLike (s ++ t) :=
  ⟨by simp [hs.ne_nil], all_append hs.all ht⟩

theorem all_signedText (n : Int) : ∀ c ∈ (signedText n).toList, isNumberChar c = true := by
  unfold signedText
  split
  · exact all_append (List.all_eq_true.1 rfl) (all_wholeText _)
  · exact all_wholeText _

theorem numberLike_signedText (n : Int) : NumberLike (signedText n) := by
  refine ⟨?_, all_signedText n⟩
  unfold signedText
  split
  · simp
  · exact (numberLike_wholeText _).ne_nil

/-- A decimal is laid out with the characters of numbers. -/
theorem numberLike_decimal {d : Decimal} (h : ∀ c ∈ d.digits, c.isDigit = true) :
    NumberLike (Layout.signed.decimal d) := by
  have hpoint : NumberLike "." := ⟨by decide, List.all_eq_true.1 rfl⟩
  have hmark : NumberLike "e" := ⟨by decide, List.all_eq_true.1 rfl⟩
  have hdigits {cs : List Char} (hcs : cs.Sublist d.digits) :
      ∀ c ∈ (String.ofList cs).toList, isNumberChar c = true := by
    intro c hc
    rw [String.toList_ofList] at hc
    exact isNumberChar_of_isDigit (h c (hcs.subset hc))
  have hzeros (n : Nat) : ∀ c ∈ (zeros n).toList, isNumberChar c = true := by
    intro c hc
    rw [zeros, String.toList_ofList] at hc
    cases List.eq_of_mem_replicate hc
    rfl
  unfold Layout.decimal
  split
  · unfold Layout.around
    dsimp only
    -- The point stands before all digits, behind them or among them.
    split
    · have hzero : NumberLike "0." := ⟨by decide, List.all_eq_true.1 rfl⟩
      exact (hzero.append_right (hzeros _)).append_right (hdigits (List.Sublist.refl _))
    · split
      · have hwhole : NumberLike Layout.signed.wholeMark := ⟨by decide, List.all_eq_true.1 rfl⟩
        exact .append_left (all_append (hdigits (List.Sublist.refl _)) (hzeros _)) hwhole
      · exact (NumberLike.append_left (hdigits (List.take_sublist _ _)) hpoint).append_right
          (hdigits (List.drop_sublist _ _))
  · unfold Layout.scaled
    dsimp only
    have hexponent : ∀ c ∈ (if d.point - 1 < 0 then "" else Layout.signed.exponentMark).toList,
        isNumberChar c = true := by
      split <;> exact List.all_eq_true.1 rfl
    refine ((NumberLike.append_left (all_append (hdigits (List.take_sublist 1 d.digits)) ?_)
      hmark).append_right hexponent).append_right (all_signedText _)
    split
    · exact List.all_eq_true.1 rfl
    · exact all_append hpoint.all (hdigits (List.drop_sublist _ _))

/-- A finite double is written with the characters of numbers. -/
theorem numberLike_render {x : Float} {negative : Bool} {mantissa : Nat} {exponent : Int}
    (h : Binary.ofFloat x = .finite negative mantissa exponent) :
    NumberLike (Layout.signed.render x) := by
  have hsign : ∀ c ∈ (if negative then "-" else "").toList, isNumberChar c = true := by
    split <;> exact List.all_eq_true.1 rfl
  unfold Layout.render
  rw [h]
  refine NumberLike.append_left hsign ?_
  split
  · exact ⟨by decide, List.all_eq_true.1 rfl⟩
  · exact numberLike_decimal fun c hc => isDigit_of_mem_shortest hc

end Json

end Gamebook
