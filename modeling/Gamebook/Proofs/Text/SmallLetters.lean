import Mathlib.Data.List.Basic
import Gamebook.Proofs.Text.Blanks
import Gamebook.Text.Lowercase

/-! # Blanks in small letters

Writing a text in small letters makes no blanks and loses none: each character that is no blank
becomes one or more that are none either, and a blank stays as it is. A text in small letters
therefore has blanks at its ends exactly if the text has (`trimmed_lowercase_eq_self_iff`).
-/

namespace Gamebook.Text

/-- A number that is no character stands for the first one, which is no blank. -/
theorem mem_blankCodes_of_ofNat {code : Nat} (h : isBlank (Char.ofNat code) = true) :
    code ∈ blankCodes := by
  have hcode := mem_blankCodes h
  by_cases hvalid : code.isValidChar
  · have heq : Char.ofNat code = Char.ofNatAux code hvalid := dif_pos hvalid
    have hself : (Char.ofNatAux code hvalid).toNat = code := rfl
    rwa [heq, hself] at hcode
  · rw [Char.ofNat, dif_neg hvalid] at hcode
    exact absurd hcode (by decide)

/-- Only capitals of ASCII have another small letter in ASCII. -/
theorem mem_capitals_of_toLower_ne {c : Char} (h : c.toLower ≠ c) :
    c.toNat ∈ List.range' 65 26 := by
  unfold Char.toLower at h
  split at h
  next hupper =>
    have hfirst : 65 ≤ c.toNat := UInt32.le_iff_toNat_le.1 hupper.1
    have hlast : c.toNat ≤ 90 := UInt32.le_iff_toNat_le.1 hupper.2
    rw [List.mem_range'_1]
    omega
  next => exact absurd rfl h

/-- What a run of capitals gives to a code point lies as far from it as the run says. -/
theorem exists_run_of_small {runs : List CapitalRun} {code small : Nat}
    (h : CapitalRun.small runs code = some small) :
    ∃ run ∈ runs, run.first ≤ code ∧ code ≤ run.last ∧ small = Int.toNat (code + run.shift) := by
  induction runs with
  | nil => cases h
  | cons run rest ih =>
      rw [CapitalRun.small] at h
      split at h
      next hlast =>
        rw [Option.ite_none_right_eq_some, Option.some.injEq, Bool.and_eq_true,
          decide_eq_true_eq] at h
        exact ⟨run, List.mem_cons_self, h.1.1, hlast, h.2.symm⟩
      next =>
        obtain ⟨other, hmem, hother⟩ := ih h
        exact ⟨other, List.mem_cons_of_mem _ hmem, hother⟩

/-- No small letter of a run is a blank. -/
theorem not_mem_blankCodes_of_small {code small : Nat}
    (h : CapitalRun.small capitalRuns code = some small) : small ∉ blankCodes := by
  have hruns : capitalRuns.all (fun run => blankCodes.all fun blank => decide
      ((blank : Int) < run.first + run.shift ∨ run.last + run.shift < blank)) = true := by
    decide +kernel
  obtain ⟨run, hmem, hfirst, hlast, rfl⟩ := exists_run_of_small h
  intro hblank
  have hapart := of_decide_eq_true (List.all_eq_true.1 (List.all_eq_true.1 hruns run hmem) _ hblank)
  have hpos : ∀ blank ∈ blankCodes, 0 < blank := by
    decide
  have hcode := hpos _ hblank
  omega

theorem small_of_mem_blankCodes {code : Nat} (h : code ∈ blankCodes) :
    CapitalRun.small capitalRuns code = none := by
  have hnone : blankCodes.all (fun code => (CapitalRun.small capitalRuns code).isNone) = true := by
    decide +kernel
  simpa using List.all_eq_true.1 hnone code h

theorem smallLetters_of_isBlank {c : Char} (h : isBlank c = true) : smallLetters c = [c] := by
  have hcode := mem_blankCodes h
  have hlower : c.toLower = c := by
    by_contra hne
    have hapart : ∀ code ∈ blankCodes, code ∉ List.range' 65 26 := by
      decide
    exact hapart _ hcode (mem_capitals_of_toLower_ne hne)
  have hdotted : c.toNat ≠ 0x130 := by
    intro heq
    rw [heq] at hcode
    exact absurd hcode (by decide)
  unfold smallLetters
  rw [hlower, if_neg hdotted, small_of_mem_blankCodes hcode, ite_self]

theorem isBlank_eq_false_of_mem_smallLetters {c x : Char} (h : isBlank c = false)
    (hx : x ∈ smallLetters c) : isBlank x = false := by
  unfold smallLetters at hx
  split at hx
  next =>
    rw [List.mem_singleton.1 hx]
    by_cases hlower : c.toLower = c
    · rwa [hlower]
    · have hcapitals : ∀ code ∈ List.range' 65 26, isBlank (Char.ofNat code).toLower = false := by
        decide
      have hlower := hcapitals _ (mem_capitals_of_toLower_ne hlower)
      rwa [Char.ofNat_toNat] at hlower
  next =>
    split at hx
    next =>
      rcases List.mem_pair.1 hx with rfl | rfl <;> decide
    next =>
      split at hx
      next small hsmall =>
        rw [List.mem_singleton.1 hx, Bool.eq_false_iff]
        intro hblank
        exact not_mem_blankCodes_of_small hsmall (mem_blankCodes_of_ofNat hblank)
      next => rwa [List.mem_singleton.1 hx]

theorem smallLetters_ne_nil (c : Char) : smallLetters c ≠ [] := by
  unfold smallLetters
  split
  · exact List.cons_ne_nil _ _
  · split
    · exact List.cons_ne_nil _ _
    · split <;> exact List.cons_ne_nil _ _

/-- A text in small letters begins with the small letters of its first character, of which there are
some, and all of them are blanks or none is, as it is with that character. -/
theorem exists_lowercaseAfter_cons (before : List Char) (c : Char) (rest : List Char) :
    ∃ small, small ≠ [] ∧ (∀ x ∈ small, isBlank x = isBlank c) ∧
      lowercaseAfter before (c :: rest) = small ++ lowercaseAfter (c :: before) rest := by
  rw [lowercaseAfter]
  split
  next hsigma =>
    refine ⟨_, List.cons_ne_nil _ _, ?_, rfl⟩
    intro x hx
    rw [List.mem_singleton.1 hx, hsigma]
    split <;> decide
  next =>
    refine ⟨_, smallLetters_ne_nil c, ?_, rfl⟩
    intro x hx
    by_cases hblank : isBlank c = true
    · rw [smallLetters_of_isBlank hblank, List.mem_singleton] at hx
      rw [hx]
    · rw [Bool.not_eq_true] at hblank
      rw [hblank, isBlank_eq_false_of_mem_smallLetters hblank hx]

theorem head?_lowercaseAfter (before cs : List Char) :
    (lowercaseAfter before cs).head?.map isBlank = cs.head?.map isBlank := by
  cases cs with
  | nil => rfl
  | cons c rest =>
      obtain ⟨small, hne, hsmall, heq⟩ := exists_lowercaseAfter_cons before c rest
      obtain ⟨first, others, rfl⟩ := List.exists_cons_of_ne_nil hne
      rw [heq]
      exact congrArg some (hsmall first List.mem_cons_self)

theorem getLast?_lowercaseAfter (before cs : List Char) :
    (lowercaseAfter before cs).getLast?.map isBlank = cs.getLast?.map isBlank := by
  induction cs generalizing before with
  | nil => rfl
  | cons c rest ih =>
      obtain ⟨small, hne, hsmall, heq⟩ := exists_lowercaseAfter_cons before c rest
      have hrest := ih (c :: before)
      rw [heq, List.getLast?_append, List.getLast?_cons]
      cases hlast : rest.getLast? with
      | some last =>
          rw [hlast] at hrest
          obtain ⟨x, hx, hblank⟩ := Option.map_eq_some_iff.1 hrest
          rw [hx]
          exact congrArg some hblank
      | none =>
          rw [hlast, Option.map_none, Option.map_eq_none_iff] at hrest
          rw [hrest, List.getLast?_eq_some_getLast hne]
          exact congrArg some (hsmall _ (List.getLast_mem hne))

/-- A text has blanks at its ends exactly if it has in small letters. -/
theorem trimmed_lowercase_eq_self_iff {s : String} :
    trimmed (lowercase s) = lowercase s ↔ trimmed s = s := by
  have hends (cs : List Char) : trim cs = cs ↔
      cs.head?.map isBlank ≠ some true ∧ cs.getLast?.map isBlank ≠ some true := by
    rw [trim_eq_self_iff]
    cases cs.head? <;> cases cs.getLast? <;> simp
  have htrimmed (s : String) : trimmed s = s ↔ trim s.toList = s.toList := by
    rw [trimmed, ← String.toList_inj, String.toList_ofList]
  rw [htrimmed, htrimmed, hends, hends, lowercase, String.toList_ofList, head?_lowercaseAfter,
    getLast?_lowercaseAfter]

end Gamebook.Text
