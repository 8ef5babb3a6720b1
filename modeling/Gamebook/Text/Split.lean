/-! # Splitting a text

`splitText` cuts a text at the first place where another text stands. `eq_append_of_splitText` says
that the parts and what was cut out are the whole text.
-/

namespace Gamebook.Text

/-- What stands before and after the first place where `stop` stands. -/
def splitText (stop : List Char) : List Char → Option (List Char × List Char)
  | [] => none
  | c :: rest =>
    if stop.isPrefixOf (c :: rest) then some ([], (c :: rest).drop stop.length)
    else (splitText stop rest).map fun (before, after) => (c :: before, after)

/-- Whether `stop` stands somewhere in a text. -/
def holds (stop text : List Char) : Bool :=
  (splitText stop text).isSome

theorem eq_append_of_splitText {stop text before after : List Char}
    (h : splitText stop text = some (before, after)) : text = before ++ (stop ++ after) := by
  induction text generalizing before with
  | nil => cases h
  | cons c rest ih =>
    rw [splitText] at h
    split at h
    · next hstop =>
      cases h
      rw [List.nil_append]
      exact (List.prefix_iff_eq_append.1 (List.isPrefixOf_iff_prefix.1 hstop)).symm
    · obtain ⟨⟨inner, last⟩, hinner, heq⟩ := Option.map_eq_some_iff.1 h
      cases heq
      rw [ih hinner, List.cons_append]

theorem length_of_splitText {stop text before after : List Char}
    (h : splitText stop text = some (before, after)) :
    after.length + stop.length ≤ text.length := by
  rw [eq_append_of_splitText h]
  simp only [List.length_append]
  omega

end Gamebook.Text
