import Gamebook.Markup.Failure
import Gamebook.Markup.Name
import Gamebook.Number.Reading

/-! # References and line ends

A reference writes a character by its name or number. A line end that is written literally is one
line feed in text and a blank in the value of an attribute, however it is coded; a character written
by a reference is never taken for a line end.
-/

namespace Gamebook.Markup

/-- A character of a text: as it stands, or by a reference. -/
inductive TextUnit where
  | literal (c : Char)
  | reference (c : Char)
deriving DecidableEq, Repr

/-- The largest number that a reference may have. -/
def largestCode : Nat := 0xFFFFFFFF

/-- The character with a number. A number that is no character stands for the replacement
character. -/
def charOfCode? (code : Nat) : Option Char :=
  let c := if code.isValidChar then Char.ofNat code else Char.ofNat 0xFFFD
  if code ≤ largestCode && isAllowed c then some c else none

/-- The character that the inside of a reference stands for. -/
def namedChar? : List Char → Option Char
  | ['q', 'u', 'o', 't'] => some '"'
  | ['a', 'm', 'p'] => some '&'
  | ['a', 'p', 'o', 's'] => some '\''
  | ['l', 't'] => some '<'
  | ['g', 't'] => some '>'
  | '#' :: 'x' :: digits =>
    if digits.isEmpty then none else (Number.hexDigitsValue? digits).bind charOfCode?
  | '#' :: digits =>
    if digits.isEmpty || !digits.all Char.isDigit then none
    else charOfCode? (Number.digitsValue digits)
  | _ => none

/-- The characters of a text with its references resolved. -/
def units? : List Char → Option (List TextUnit)
  | [] => some []
  | c :: rest =>
    if c = '&' then
      match _h : rest.dropWhile (· != ';') with
      | _ :: after =>
        match namedChar? (rest.takeWhile (· != ';')) with
        | some named => (units? after).map (.reference named :: ·)
        | none => none
      | [] => none
    else (units? rest).map (.literal c :: ·)
termination_by text => text.length
decreasing_by
  · have hle := (List.dropWhile_sublist (· != ';') (l := rest)).length_le
    rw [_h] at hle
    simp only [List.length_cons] at hle ⊢
    omega
  · simp

/-- The value of an attribute: literal line ends and tabs are blanks, one for each. -/
def attributeChars : List TextUnit → List Char
  | .literal '\r' :: .literal '\n' :: rest => ' ' :: attributeChars rest
  | .literal c :: rest => (if c = '\r' ∨ c = '\n' ∨ c = '\t' then ' ' else c) :: attributeChars rest
  | .reference c :: rest => c :: attributeChars rest
  | [] => []

/-- The value of an attribute, from what stands between its quotes. -/
def attributeValue? (raw : List Char) : Option String :=
  (units? raw).map fun units => String.ofList (attributeChars units)

/-- Reads one literal character of a text after the characters `read`, which are given last first.
A carriage return is kept until the next literal character shows whether it ends a line alone. -/
def readLiteral (read : List Char) (c : Char) (isLast : Bool) : List Char :=
  let current := if isLast ∧ c = '\r' then '\n' else c
  match read with
  | '\r' :: before =>
    if c = '\n' then '\n' :: before else current :: '\n' :: before
  | _ => current :: read

/-- The characters of a text after the characters `read`, which are given last first. A literal
character directly after a reference is kept as it stands. -/
def textChars (read : List Char) (afterReference : Bool) : List TextUnit → List Char
  | [] => read.reverse
  | .reference c :: rest => textChars (c :: read) true rest
  | .literal c :: rest =>
    if afterReference then textChars (c :: read) false rest
    else textChars (readLiteral read c rest.isEmpty) false rest

/-- The content of a text between tags. -/
def textContent? (raw : List Char) : Option String :=
  (units? raw).map fun units => String.ofList (textChars [] false units)

/-- The content of a character data section, which has no references. -/
def sectionContent (raw : List Char) : String :=
  String.ofList (textChars [] false (raw.map .literal))

end Gamebook.Markup
