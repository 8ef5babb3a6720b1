import Gamebook.Json.Printer
import Gamebook.Json.Reader

/-! # Strings that are written and read

A string is written with escapes and closed by a quote. `lex_stringChars` says that the reader cuts
out the same string again, whatever it contains and whatever follows it.
-/

namespace Gamebook.Json

/-- The part of a string that a character is read as. Control characters without a letter of their
own are written by their number. -/
def partOf (c : Char) : StringPart :=
  if c.toNat < 0x20 ∧ c ≠ '\n' ∧ c ≠ '\r' ∧ c ≠ '\t' ∧ c.toNat ≠ 8 ∧ c.toNat ≠ 12 then
    .unit c.toNat
  else .char c

theorem hexUnit?_controlDigits {n : Nat} (h : n < 0x20) :
    hexUnit? '0' '0' (Nat.digitChar (n / 16)) (Nat.digitChar (n % 16)) = some n := by
  revert n
  decide

/-- An escape by a letter gives the character that the letter stands for. -/
theorem closeString_letter {letter c : Char} (hletter : letter ≠ 'u')
    (h : simpleEscape? letter = some c) (rest : List Char) :
    closeString ('\\' :: letter :: rest) =
      (closeString rest).map fun (parts, after) => (.char c :: parts, after) := by
  rw [closeString]
  · rw [h]
    cases closeString rest <;> rfl
  · rintro _ _ _ _ _ rfl
    exact absurd rfl hletter

/-- A character without an escape gives itself. -/
theorem closeString_plain {c : Char} (hquote : c ≠ '"') (hslash : c ≠ '\\')
    (hcontrol : ¬ c.toNat < 0x20) (rest : List Char) :
    closeString (c :: rest) =
      (closeString rest).map fun (parts, after) => (.char c :: parts, after) := by
  rw [closeString, if_neg hcontrol, if_neg hslash]
  · cases closeString rest <;> rfl
  · exact hquote
  · rintro _ _ _ _ _ rfl
    exact absurd rfl hslash
  · rintro _ _ rfl
    exact absurd rfl hslash

/-- An escape by a number gives the number. -/
theorem closeString_control {c : Char} (h : c.toNat < 0x20) (rest : List Char) :
    closeString ('\\' :: 'u' :: controlDigits c.toNat ++ rest) =
      (closeString rest).map fun (parts, after) => (.unit c.toNat :: parts, after) := by
  simp only [controlDigits, List.cons_append, List.nil_append]
  rw [closeString, hexUnit?_controlDigits h]
  cases closeString rest <;> rfl
/-- The parts of a string after an escaped character are those of the rest behind its own. -/
theorem closeString_escapedChar (c : Char) (rest : List Char) :
    closeString (escapedChar c ++ rest) =
      (closeString rest).map fun (parts, after) => (partOf c :: parts, after) := by
  have hofNat {n : Nat} (h : c.toNat = n) : c = Char.ofNat n := by
    rw [← h, Char.ofNat_toNat]
  by_cases hletter : c ∈ ['"', '\\', '\n', '\r', '\t'] ∨ c.toNat = 8 ∨ c.toNat = 12
  · -- Each of these characters has an escape by a letter.
    simp only [List.mem_cons, List.not_mem_nil, or_false, or_assoc] at hletter
    rcases hletter with rfl | rfl | rfl | rfl | rfl | h | h
    case inr.inr.inr.inr.inr.inl =>
      rw [hofNat h]
      exact closeString_letter (by decide) rfl rest
    case inr.inr.inr.inr.inr.inr =>
      rw [hofNat h]
      exact closeString_letter (by decide) rfl rest
    all_goals exact closeString_letter (by decide) rfl rest
  · simp only [List.mem_cons, List.not_mem_nil, or_false, not_or] at hletter
    obtain ⟨⟨hquote, hslash, hline, hreturn, htab⟩, hback, hfeed⟩ := hletter
    rw [escapedChar, if_neg hquote, if_neg hslash, if_neg hline, if_neg hreturn, if_neg htab,
      if_neg hback, if_neg hfeed]
    by_cases hcontrol : c.toNat < 0x20
    · rw [if_pos hcontrol, partOf, if_pos ⟨hcontrol, hline, hreturn, htab, hback, hfeed⟩]
      exact closeString_control hcontrol rest
    · rw [if_neg hcontrol, partOf, if_neg fun h => hcontrol h.1]
      exact closeString_plain hquote hslash hcontrol rest

/-- A string is cut out up to the quote that closes it. -/
theorem closeString_flatMap (cs rest : List Char) :
    closeString (cs.flatMap escapedChar ++ '"' :: rest) = .ok (cs.map partOf, rest) := by
  induction cs with
  | nil => rfl
  | cons c cs ih =>
      rw [List.flatMap_cons, List.append_assoc, closeString_escapedChar, ih]
      rfl

theorem joinParts?_partOf (c : Char) (parts : List StringPart) :
    joinParts? (partOf c :: parts) = (joinParts? parts).map (c :: ·) := by
  unfold partOf
  split
  next h =>
    -- A control character is no half of another, so it is not joined with what follows.
    have hhigh : isHighHalf c.toNat = false := by
      simp only [isHighHalf, Bool.and_eq_false_iff, decide_eq_false_iff_not]
      omega
    have hlow : isLowHalf c.toNat = false := by
      simp only [isLowHalf, Bool.and_eq_false_iff, decide_eq_false_iff_not]
      omega
    cases parts with
    | nil => simp [joinParts?, hhigh, hlow, Char.ofNat_toNat]
    | cons part rest =>
        cases part <;> simp [joinParts?, hhigh, hlow, Char.ofNat_toNat]
  next => rfl

theorem joinParts?_map_partOf (cs : List Char) : joinParts? (cs.map partOf) = some cs := by
  induction cs with
  | nil => rfl
  | cons c cs ih => rw [List.map_cons, joinParts?_partOf, ih, Option.map_some]

/-- A string that was written is read as itself. -/
theorem lex_stringChars (s : String) (rest : List Char) :
    lex '"' (s.toList.flatMap escapedChar ++ '"' :: rest) = .ok (.string (some s), rest) := by
  simp only [lex, closeString_flatMap]
  rw [joinParts?_map_partOf, Option.map_some, String.ofList_toList]

end Gamebook.Json
