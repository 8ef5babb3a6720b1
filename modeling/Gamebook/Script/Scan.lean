import Gamebook.Number.Reading
import Gamebook.Script.Failure
import Gamebook.Text.Alphabetic
import Gamebook.Text.Blank
import Gamebook.Text.Numeric

/-! # Scanning

A text is cut into tokens from left to right. Blank characters separate tokens and are dropped; a
word or a number is as long as it can be. `length_of_lex` says that every token uses up part of the
text, which is why the scan ends.
-/

namespace Gamebook.Script

/-- The characters that begin a word. -/
def startsWord (c : Char) : Bool :=
  Text.isLetter c || c == '_'

/-- The characters that continue a word. -/
def continuesWord (c : Char) : Bool :=
  Text.isLetter c || Text.isNumeral c || c == '_'

/-- Whether a number begins with this character: a digit, or a point with a digit after it. -/
def startsNumber (c : Char) (rest : List Char) : Bool :=
  c.isDigit || (c == '.' && rest.head?.any Char.isDigit)

/-- The characters that continue a number. -/
def continuesNumber (c : Char) : Bool :=
  c.isDigit || c == '.'

/-- The content of a string up to its closing quote, with what follows it. A backslash stands for
the character after it. -/
def closeString (quote : Char) : List Char → Option (List Char × List Char)
  | [] => none
  | '\\' :: c :: rest =>
    if quote = '\\' then some ([], c :: rest)
    else (closeString quote rest).map fun (value, after) => (c :: value, after)
  | c :: rest =>
    if c = quote then some ([], rest)
    else (closeString quote rest).map fun (value, after) => (c :: value, after)

/-- The sign that a text begins with, as long as it can be. -/
def sign? : List Char → Option (Token × List Char)
  | '=' :: '=' :: rest => some (.eq, rest)
  | '!' :: '=' :: rest => some (.ne, rest)
  | '<' :: '=' :: rest => some (.le, rest)
  | '>' :: '=' :: rest => some (.ge, rest)
  | '&' :: '&' :: rest => some (.andAnd, rest)
  | '|' :: '|' :: rest => some (.orOr, rest)
  | '=' :: rest => some (.assign, rest)
  | '<' :: rest => some (.lt, rest)
  | '>' :: rest => some (.gt, rest)
  | '+' :: rest => some (.plus, rest)
  | '-' :: rest => some (.minus, rest)
  | '*' :: rest => some (.star, rest)
  | '/' :: rest => some (.slash, rest)
  | '%' :: rest => some (.percent, rest)
  | '!' :: rest => some (.bang, rest)
  | '(' :: rest => some (.leftParen, rest)
  | ')' :: rest => some (.rightParen, rest)
  | ';' :: rest => some (.semicolon, rest)
  | _ => none

/-- The first token of a text that begins with the character `c`, with what follows it. -/
def lex (c : Char) (rest : List Char) : Except ParseFailure (Token × List Char) :=
  if startsNumber c rest then
    let raw := c :: rest.takeWhile continuesNumber
    match Number.readDecimal? raw with
    | some (coefficient, exponent) =>
      .ok (.number (Number.nearest coefficient exponent), rest.dropWhile continuesNumber)
    | none => .error (.invalidNumber (String.ofList raw))
  else if startsWord c then
    .ok (.word (String.ofList (c :: rest.takeWhile continuesWord)), rest.dropWhile continuesWord)
  else if c = '"' ∨ c = '\'' then
    match closeString c rest with
    | some (value, after) => .ok (.string (String.ofList value), after)
    | none => .error .unterminatedString
  else
    match sign? (c :: rest) with
    | some found => .ok found
    | none => .error (.unexpectedCharacter c)

theorem length_dropWhile_le {α : Type} (p : α → Bool) (xs : List α) :
    (xs.dropWhile p).length ≤ xs.length :=
  (List.dropWhile_sublist p).length_le

theorem length_of_closeString {quote : Char} {cs value after : List Char}
    (h : closeString quote cs = some (value, after)) : after.length < cs.length := by
  fun_induction closeString quote cs generalizing value with
  | case1 => cases h
  | case2 => simp_all
  | case3 c rest _ ih =>
    obtain ⟨⟨inner, last⟩, hinner, heq⟩ := Option.map_eq_some_iff.1 h
    cases heq
    have := ih hinner
    simp only [List.length_cons]
    omega
  | case4 rest _ => cases h; simp
  | case5 c rest _ _ ih =>
    obtain ⟨⟨inner, last⟩, hinner, heq⟩ := Option.map_eq_some_iff.1 h
    cases heq
    have := ih hinner
    simp only [List.length_cons]
    omega

theorem length_of_sign? {cs after : List Char} {token : Token}
    (h : sign? cs = some (token, after)) : after.length < cs.length := by
  unfold sign? at h
  split at h <;> cases h <;> simp only [List.length_cons] <;> omega

/-- A token uses up at least the character that it begins with. -/
theorem length_of_lex {c : Char} {rest after : List Char} {token : Token}
    (h : lex c rest = .ok (token, after)) : after.length ≤ rest.length := by
  unfold lex at h
  split at h
  · dsimp only at h
    split at h
    · cases h
      exact length_dropWhile_le _ _
    · cases h
  · split at h
    · cases h
      exact length_dropWhile_le _ _
    · split at h
      · split at h
        · next value tail hclose =>
          cases h
          exact Nat.le_of_lt (length_of_closeString hclose)
        · cases h
      · split at h
        · next found hsign =>
          cases h
          exact Nat.lt_succ_iff.1 (length_of_sign? hsign)
        · cases h

/-- The tokens of a text. -/
def scan : List Char → Except ParseFailure (List Token)
  | [] => .ok []
  | c :: rest =>
    if Text.isBlank c then scan rest
    else
      match _h : lex c rest with
      | .error failure => .error failure
      | .ok (token, after) => (scan after).map (token :: ·)
termination_by cs => cs.length
decreasing_by
  · simp
  · exact Nat.lt_succ_of_le (length_of_lex _h)

end Gamebook.Script
