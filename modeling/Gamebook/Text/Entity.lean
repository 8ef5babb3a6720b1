/-! # Entities

Markup writes five characters by name. `escapeText` and `escapeAttribute` put the names in where
markup needs them, and `decodeEntities` puts the characters back: `decodeEntities_escapeText` and
`decodeEntities_escapeAttribute` say that nothing is lost on the way.
-/

namespace Gamebook.Text

/-- Every named character in place of its name, read once from left to right. -/
def decodeEntities : List Char → List Char
  | '&' :: 'l' :: 't' :: ';' :: rest => '<' :: decodeEntities rest
  | '&' :: 'g' :: 't' :: ';' :: rest => '>' :: decodeEntities rest
  | '&' :: 'q' :: 'u' :: 'o' :: 't' :: ';' :: rest => '"' :: decodeEntities rest
  | '&' :: 'a' :: 'p' :: 'o' :: 's' :: ';' :: rest => '\'' :: decodeEntities rest
  | '&' :: 'a' :: 'm' :: 'p' :: ';' :: rest => '&' :: decodeEntities rest
  | c :: rest => c :: decodeEntities rest
  | [] => []

/-- One character of text between tags. -/
def escapeTextChar (c : Char) : List Char :=
  if c = '&' then ['&', 'a', 'm', 'p', ';']
  else if c = '<' then ['&', 'l', 't', ';']
  else if c = '>' then ['&', 'g', 't', ';']
  else [c]

/-- One character of an attribute value between double quotes. -/
def escapeAttributeChar (c : Char) : List Char :=
  if c = '"' then ['&', 'q', 'u', 'o', 't', ';'] else escapeTextChar c

/-- Text as it is written between tags. -/
def escapeText (cs : List Char) : List Char :=
  cs.flatMap escapeTextChar

/-- Text as it is written in an attribute value between double quotes. -/
def escapeAttribute (cs : List Char) : List Char :=
  cs.flatMap escapeAttributeChar

/-- A character that has a name between tags is one of three, and any other is written as it is. -/
theorem escapeTextChar_cases (c : Char) :
    (c = '&' ∨ c = '<' ∨ c = '>') ∨ (c ≠ '&' ∧ c ≠ '<' ∧ c ≠ '>') ∧ escapeTextChar c = [c] := by
  unfold escapeTextChar
  by_cases hamp : c = '&'
  · exact Or.inl (Or.inl hamp)
  · by_cases hless : c = '<'
    · exact Or.inl (Or.inr (Or.inl hless))
    · by_cases hmore : c = '>'
      · exact Or.inl (Or.inr (Or.inr hmore))
      · exact Or.inr ⟨⟨hamp, hless, hmore⟩, by simp [hamp, hless, hmore]⟩

theorem decodeEntities_cons_of_ne {c : Char} (h : c ≠ '&') (rest : List Char) :
    decodeEntities (c :: rest) = c :: decodeEntities rest := by
  rw [decodeEntities.eq_def]
  split <;> simp_all

theorem decodeEntities_escapeTextChar_append (c : Char) (rest : List Char) :
    decodeEntities (escapeTextChar c ++ rest) = c :: decodeEntities rest := by
  rcases escapeTextChar_cases c with (rfl | rfl | rfl) | ⟨⟨hamp, -, -⟩, hself⟩
  · rfl
  · rfl
  · rfl
  · rw [hself]
    exact decodeEntities_cons_of_ne hamp rest

theorem decodeEntities_escapeAttributeChar_append (c : Char) (rest : List Char) :
    decodeEntities (escapeAttributeChar c ++ rest) = c :: decodeEntities rest := by
  unfold escapeAttributeChar
  split
  · next h => subst h; rfl
  · exact decodeEntities_escapeTextChar_append c rest

/-- Names put in for text are read back as the characters they stand for. -/
theorem decodeEntities_escapeText (cs : List Char) : decodeEntities (escapeText cs) = cs := by
  induction cs with
  | nil => rfl
  | cons c rest ih =>
    rw [escapeText, List.flatMap_cons, decodeEntities_escapeTextChar_append]
    exact congrArg (c :: ·) ih

/-- Names put in for an attribute value are read back as the characters they stand for. -/
theorem decodeEntities_escapeAttribute (cs : List Char) :
    decodeEntities (escapeAttribute cs) = cs := by
  induction cs with
  | nil => rfl
  | cons c rest ih =>
    rw [escapeAttribute, List.flatMap_cons, decodeEntities_escapeAttributeChar_append]
    exact congrArg (c :: ·) ih

end Gamebook.Text
