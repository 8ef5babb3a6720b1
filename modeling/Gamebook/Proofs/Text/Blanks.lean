import Mathlib.Data.List.TakeWhile
import Gamebook.Text.Blank

/-! # Blanks at the ends of a text

Trimming takes the blanks from both ends of a text and nothing else: a text stays as it is exactly
if it neither begins nor ends with a blank (`trim_eq_self_iff`), and blanks put around a text make
no difference (`trim_append_blanks`).
-/

namespace Gamebook.Text

/-- The code points of blank characters. -/
def blankCodes : List Nat :=
  List.range' 9 5 ++ [0x20, 0x85, 0xA0, 0x1680] ++ List.range' 0x2000 11 ++
    [0x2028, 0x2029, 0x202F, 0x205F, 0x3000]

theorem mem_blankCodes {c : Char} (h : isBlank c = true) : c.toNat ∈ blankCodes := by
  simp only [isBlank, Bool.or_eq_true, Bool.and_eq_true, decide_eq_true_eq, beq_iff_eq] at h
  simp only [blankCodes, List.mem_append, List.mem_range'_1, List.mem_cons, List.not_mem_nil,
    or_false]
  omega

/-! ## Trimming -/

variable {cs : List Char}

theorem dropWhile_isBlank_eq_self_iff :
    cs.dropWhile isBlank = cs ↔ ∀ c ∈ cs.head?, isBlank c = false := by
  cases cs with
  | nil => simp
  | cons first rest =>
      by_cases hfirst : isBlank first = true
      · have hne : rest.dropWhile isBlank ≠ first :: rest := by
          intro heq
          have hle := (List.dropWhile_sublist isBlank (l := rest)).length_le
          rw [heq, List.length_cons] at hle
          omega
        simp [hfirst, hne]
      · simp [hfirst]

theorem trimRight_eq_self_iff : trimRight cs = cs ↔ ∀ c ∈ cs.getLast?, isBlank c = false := by
  rw [trimRight, List.reverse_eq_iff, dropWhile_isBlank_eq_self_iff, List.head?_reverse]

theorem trimRight_sublist (cs : List Char) : (trimRight cs).Sublist cs := by
  have hsub := (List.dropWhile_sublist isBlank (l := cs.reverse)).reverse
  rwa [List.reverse_reverse] at hsub

/-- A text stays as it is exactly if there are no blanks at its ends. -/
theorem trim_eq_self_iff :
    trim cs = cs ↔
      (∀ c ∈ cs.head?, isBlank c = false) ∧ ∀ c ∈ cs.getLast?, isBlank c = false := by
  rw [← dropWhile_isBlank_eq_self_iff, ← trimRight_eq_self_iff]
  constructor
  · intro h
    -- Neither end loses anything if nothing is lost together.
    have hleft : cs.dropWhile isBlank = cs := by
      apply (List.dropWhile_sublist isBlank).eq_of_length_le
      have hle := (trimRight_sublist (cs.dropWhile isBlank)).length_le
      have hlength := congrArg List.length h
      rw [trim] at hlength
      omega
    refine ⟨hleft, ?_⟩
    rwa [trim, hleft] at h
  · rintro ⟨hleft, hright⟩
    rw [trim, hleft, hright]

theorem trimRight_append_blanks {stop : List Char} (hstop : ∀ c ∈ stop, isBlank c = true)
    (cs : List Char) : trimRight (cs ++ stop) = trimRight cs := by
  rw [trimRight, List.reverse_append,
    List.dropWhile_append_of_pos fun c hc => hstop c (List.mem_reverse.1 hc), trimRight]

/-- Blanks around a text are all taken from it. -/
theorem trim_append_blanks {start stop : List Char} (hstart : ∀ c ∈ start, isBlank c = true)
    (hstop : ∀ c ∈ stop, isBlank c = true) (cs : List Char) :
    trim (start ++ (cs ++ stop)) = trim cs := by
  rw [trim, List.dropWhile_append_of_pos hstart, List.dropWhile_append]
  split
  next hnone =>
    have hall : stop.dropWhile isBlank = [] := by
      simpa using hstop
    rw [trim, List.isEmpty_iff.1 hnone, hall]
  next => rw [trimRight_append_blanks hstop, trim]

/-- A text is what is left when it is trimmed, with blanks around it. -/
theorem exists_trim (text : List Char) :
    ∃ start stop, text = start ++ trim text ++ stop ∧ (∀ c ∈ start, isBlank c = true) ∧
      ∀ c ∈ stop, isBlank c = true := by
  refine ⟨text.takeWhile isBlank, ((text.dropWhile isBlank).reverse.takeWhile isBlank).reverse,
    ?_, fun c hc => List.mem_takeWhile_imp hc, fun c hc => ?_⟩
  · rw [List.append_assoc, trim, trimRight, ← List.reverse_append, List.takeWhile_append_dropWhile,
      List.reverse_reverse, List.takeWhile_append_dropWhile]
  · exact List.mem_takeWhile_imp (List.mem_reverse.1 hc)

/-- Nothing is left to be taken from a text that was trimmed. -/
theorem trim_trim (text : List Char) : trim (trim text) = trim text := by
  obtain ⟨start, stop, heq, hstart, hstop⟩ := exists_trim text
  calc trim (trim text)
      = trim (start ++ (trim text ++ stop)) := (trim_append_blanks hstart hstop _).symm
    _ = trim text := by rw [← List.append_assoc, ← heq]

end Gamebook.Text
