/-! # Blank characters

Blank characters are those with the property White_Space. `trim` removes them from both ends of a
text, and nothing else: `mem_trim_of_not_isBlank` says that every other character stays.
-/

namespace Gamebook.Text

/-- The characters with the property White_Space. -/
def isBlank (c : Char) : Bool :=
  let code := c.toNat
  (9 ≤ code && code ≤ 13) || code == 0x20 || code == 0x85 || code == 0xA0 || code == 0x1680
    || (0x2000 ≤ code && code ≤ 0x200A) || code == 0x2028 || code == 0x2029 || code == 0x202F
    || code == 0x205F || code == 0x3000

/-- The text without the blank characters at its end. -/
def trimRight (cs : List Char) : List Char :=
  (cs.reverse.dropWhile isBlank).reverse

/-- The text without the blank characters at its two ends. -/
def trim (cs : List Char) : List Char :=
  trimRight (cs.dropWhile isBlank)

/-- The string without the blank characters at its two ends. -/
def trimmed (s : String) : String :=
  String.ofList (trim s.toList)

/-- Whether the text holds nothing but blank characters. -/
def allBlank (cs : List Char) : Bool :=
  cs.all isBlank

theorem mem_dropWhile_of_not {p : Char → Bool} {c : Char} {cs : List Char} (hc : p c = false)
    (h : c ∈ cs) : c ∈ cs.dropWhile p := by
  induction cs with
  | nil => exact h
  | cons d rest ih =>
    by_cases hd : p d = true
    · rw [List.dropWhile_cons_of_pos hd]
      rcases List.mem_cons.1 h with rfl | hrest
      · rw [hc] at hd
        cases hd
      · exact ih hrest
    · rw [List.dropWhile_cons_of_neg hd]
      exact h

/-- Trimming removes blank characters only. -/
theorem mem_trim_of_not_isBlank {c : Char} {cs : List Char} (hc : isBlank c = false)
    (h : c ∈ cs) : c ∈ trim cs := by
  unfold trim trimRight
  rw [List.mem_reverse]
  apply mem_dropWhile_of_not hc
  rw [List.mem_reverse]
  exact mem_dropWhile_of_not hc h

end Gamebook.Text
