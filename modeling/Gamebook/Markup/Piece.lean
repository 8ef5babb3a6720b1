import Gamebook.Markup.Failure
import Gamebook.Markup.Name
import Gamebook.Source
import Gamebook.Text.Split

/-! # Pieces of markup

A marked up text is a sequence of tags, texts, comments and the like. `pieces` cuts it up from left
to right, whatever nesting the tags have, and says where each piece stands. `length_of_piece` says
that each piece uses up part of the text.
-/

namespace Gamebook.Markup

/-- An attribute as it stands in a tag, with what is between its quotes. -/
structure RawAttribute where
  name : QualifiedName
  value : List Char
deriving DecidableEq, Repr

/-- The parts that a marked up text is a sequence of. -/
inductive Piece where
  | openTag (name : QualifiedName) (attributes : List RawAttribute)
  | emptyTag (name : QualifiedName) (attributes : List RawAttribute)
  | closeTag (name : QualifiedName)
  | text (raw : List Char)
  | data (raw : List Char)
  | aside
deriving DecidableEq, Repr

/-- What stands between the quotes that a text begins with, with what follows them. -/
def quotedValue? : List Char → Option (List Char × List Char)
  | [] => none
  | quote :: rest =>
    if quote = '"' ∨ quote = '\'' then
      match rest.dropWhile fun c => c != quote && c != '<' with
      | c :: after =>
        if c = quote then some (rest.takeWhile fun c => c != quote && c != '<', after) else none
      | [] => none
    else none

/-- The attribute at the beginning of a text, with what follows it. -/
def attribute? (text : List Char) : Option (RawAttribute × List Char) :=
  match qualifiedName? text with
  | none => none
  | some (name, afterName) =>
    match afterName.dropWhile isSpace with
    | '=' :: afterSign =>
      match quotedValue? (afterSign.dropWhile isSpace) with
      | some (value, after) => some (⟨name, value⟩, after)
      | none => none
    | _ => none

theorem length_of_quotedValue? {text value after : List Char}
    (h : quotedValue? text = some (value, after)) : after.length < text.length := by
  unfold quotedValue? at h
  split at h
  · cases h
  · next quote rest =>
    split at h
    · split at h
      · next c tail heq =>
        split at h
        · cases h
          have hsub := List.dropWhile_sublist (l := rest) fun c => c != quote && c != '<'
          have hle := hsub.length_le
          rw [heq, List.length_cons] at hle
          rw [List.length_cons]
          omega
        · cases h
      · cases h
    · cases h

theorem length_of_attribute? {text after : List Char} {read : RawAttribute}
    (h : attribute? text = some (read, after)) : after.length < text.length := by
  unfold attribute? at h
  split at h
  · cases h
  · next name afterName hname =>
    have h1 := length_of_qualifiedName? hname
    split at h
    · next afterSign hsign =>
      have h2 := (List.dropWhile_sublist isSpace (l := afterName)).length_le
      rw [hsign, List.length_cons] at h2
      split at h
      · next value rest hvalue =>
        cases h
        have h3 := length_of_quotedValue? hvalue
        have h4 := (List.dropWhile_sublist isSpace (l := afterSign)).length_le
        omega
      · cases h
    · cases h

/-- The attributes of a tag up to its end, whether the tag is empty, and what follows it. Each
attribute has a blank before it. -/
def attributes? (text : List Char) : Option (List RawAttribute × Bool × List Char) :=
  match text.dropWhile isSpace with
  | '>' :: after => some ([], false, after)
  | '/' :: '>' :: after => some ([], true, after)
  | _ =>
    if text.head?.any isSpace then
      match _h : attribute? (text.dropWhile isSpace) with
      | some (first, rest) =>
        (attributes? rest).map fun (others, isEmpty, after) => (first :: others, isEmpty, after)
      | none => none
    else none
termination_by text.length
decreasing_by
  have h1 := length_of_attribute? _h
  have h2 := (List.dropWhile_sublist isSpace (l := text)).length_le
  omega

theorem length_of_attributes? {text after : List Char} {attributes : List RawAttribute}
    {isEmpty : Bool} (h : attributes? text = some (attributes, isEmpty, after)) :
    after.length ≤ text.length := by
  fun_induction attributes? text generalizing attributes with
  | case1 text rest heq =>
    cases h
    have hle := (List.dropWhile_sublist isSpace (l := text)).length_le
    rw [heq, List.length_cons] at hle
    omega
  | case2 text rest heq =>
    cases h
    have hle := (List.dropWhile_sublist isSpace (l := text)).length_le
    rw [heq, List.length_cons, List.length_cons] at hle
    omega
  | case3 text _ first rest hfirst _ _ ih =>
    obtain ⟨⟨inner, empty, last⟩, hinner, heq⟩ := Option.map_eq_some_iff.1 h
    cases heq
    have h1 := ih hinner
    have h2 := length_of_attribute? hfirst
    have h3 := (List.dropWhile_sublist isSpace (l := text)).length_le
    omega
  | case4 => cases h
  | case5 => cases h

/-- The tag whose name a text begins with, with what follows it. -/
def tag? (text : List Char) : Option (Piece × List Char) :=
  match qualifiedName? text with
  | none => none
  | some (name, rest) =>
    (attributes? rest).map fun (attributes, isEmpty, after) =>
      (if isEmpty then .emptyTag name attributes else .openTag name attributes, after)

/-- The closing tag whose name a text begins with, with what follows it. -/
def closeTag? (text : List Char) : Option (Piece × List Char) :=
  match qualifiedName? text with
  | none => none
  | some (name, rest) =>
    match rest.dropWhile isSpace with
    | '>' :: after => some (.closeTag name, after)
    | _ => none

/-- A comment after its opening, with what follows it. A comment holds no two hyphens in a row and
does not end in one. -/
def comment? (text : List Char) : Option (Piece × List Char) :=
  match Text.splitText ['-', '-', '>'] text with
  | none => none
  | some (content, after) =>
    if Text.holds ['-', '-'] content || content.getLast? == some '-' then none
    else some (.aside, after)

/-- A character data section after its opening, with what follows it. -/
def data? (text : List Char) : Option (Piece × List Char) :=
  (Text.splitText [']', ']', '>'] text).map fun (content, after) => (.data content, after)

/-- A processing instruction after its opening, with what follows it. The instruction that is the
declaration of the whole text cannot stand here. -/
def instruction? (text : List Char) : Option (Piece × List Char) :=
  if ['x', 'm', 'l', ' '].isPrefixOf text || !text.head?.any isNameStart then none
  else
    (Text.splitText ['?', '>'] (text.dropWhile isNameChar)).map fun (_, after) => (.aside, after)

/-- Turns a missing result into a failure. -/
def orFail {α : Type} (failure : Failure) : Option α → Except Failure α
  | some a => .ok a
  | none => .error failure

/-- The first piece of a text that begins with the character `c`, with what follows it. -/
def piece (c : Char) (rest : List Char) : Except Failure (Piece × List Char) :=
  if c = '<' then
    match rest with
    | '!' :: '-' :: '-' :: text => orFail .malformedComment (comment? text)
    | '!' :: '[' :: 'C' :: 'D' :: 'A' :: 'T' :: 'A' :: '[' :: text =>
      orFail .malformedSection (data? text)
    | '!' :: _ => .error .documentType
    | '?' :: text => orFail .malformedInstruction (instruction? text)
    | '/' :: text => orFail .malformedTag (closeTag? text)
    | text => orFail .malformedTag (tag? text)
  else
    let raw := c :: rest.takeWhile (· != '<')
    if Text.holds [']', ']', '>'] raw then .error .malformedText
    else .ok (.text raw, rest.dropWhile (· != '<'))

theorem length_of_tag? {text after : List Char} {found : Piece}
    (h : tag? text = some (found, after)) : after.length ≤ text.length := by
  unfold tag? at h
  split at h
  · cases h
  · next name rest hname =>
    obtain ⟨⟨attributes, isEmpty, last⟩, hattributes, heq⟩ := Option.map_eq_some_iff.1 h
    cases heq
    exact Nat.le_trans (length_of_attributes? hattributes) (length_of_qualifiedName? hname)

theorem length_of_closeTag? {text after : List Char} {found : Piece}
    (h : closeTag? text = some (found, after)) : after.length ≤ text.length := by
  unfold closeTag? at h
  split at h
  · cases h
  · next name rest hname =>
    have h1 := length_of_qualifiedName? hname
    split at h
    · next tail heq =>
      cases h
      have h2 := (List.dropWhile_sublist isSpace (l := rest)).length_le
      rw [heq, List.length_cons] at h2
      omega
    · cases h

theorem length_of_comment? {text after : List Char} {found : Piece}
    (h : comment? text = some (found, after)) : after.length ≤ text.length := by
  unfold comment? at h
  split at h
  · cases h
  · next content tail hsplit =>
    split at h
    · cases h
    · cases h
      have := Text.length_of_splitText hsplit
      omega

theorem length_of_data? {text after : List Char} {found : Piece}
    (h : data? text = some (found, after)) : after.length ≤ text.length := by
  obtain ⟨⟨content, last⟩, hsplit, heq⟩ := Option.map_eq_some_iff.1 h
  cases heq
  have := Text.length_of_splitText hsplit
  omega

theorem length_of_instruction? {text after : List Char} {found : Piece}
    (h : instruction? text = some (found, after)) : after.length ≤ text.length := by
  unfold instruction? at h
  split at h
  · cases h
  · obtain ⟨⟨content, last⟩, hsplit, heq⟩ := Option.map_eq_some_iff.1 h
    cases heq
    have h1 := Text.length_of_splitText hsplit
    have h2 := (List.dropWhile_sublist isNameChar (l := text)).length_le
    omega

theorem eq_some_of_orFail {α : Type} {failure : Failure} {found : Option α} {a : α}
    (h : orFail failure found = .ok a) : found = some a := by
  cases found with
  | none => cases h
  | some b => cases h; rfl

/-- A piece uses up at least the character that it begins with. -/
theorem length_of_piece {c : Char} {rest after : List Char} {found : Piece}
    (h : piece c rest = .ok (found, after)) : after.length ≤ rest.length := by
  unfold piece at h
  split at h
  · split at h
    · have := length_of_comment? (eq_some_of_orFail h)
      simp only [List.length_cons]
      omega
    · have := length_of_data? (eq_some_of_orFail h)
      simp only [List.length_cons]
      omega
    · cases h
    · have := length_of_instruction? (eq_some_of_orFail h)
      simp only [List.length_cons]
      omega
    · have := length_of_closeTag? (eq_some_of_orFail h)
      simp only [List.length_cons]
      omega
    · exact length_of_tag? (eq_some_of_orFail h)
  · dsimp only at h
    split at h
    · cases h
    · cases h
      exact (List.dropWhile_sublist _).length_le

/-- A piece with the stretch of the text that it takes. -/
structure Placed where
  piece : Piece
  span : Span
deriving DecidableEq, Repr

/-- The pieces of a text that begins at a place. -/
def pieces (position : Position) : List Char → Except Failure (List Placed)
  | [] => .ok []
  | c :: rest =>
    match _h : piece c rest with
    | .error failure => .error failure
    | .ok (found, after) =>
      let next := position.after ((c :: rest).take (rest.length + 1 - after.length))
      (pieces next after).map (⟨found, ⟨position, next⟩⟩ :: ·)
termination_by text => text.length
decreasing_by exact Nat.lt_succ_of_le (length_of_piece _h)

end Gamebook.Markup
