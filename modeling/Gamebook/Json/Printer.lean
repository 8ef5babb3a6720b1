import Gamebook.Json.Basic

/-! # Writing JSON

A value is written on one line without blanks, or over several lines with two blanks for each level.
There is one writer for both, which is given the blanks to write as a `Layout`. A string escapes
quotes, backslashes and control characters and nothing else.
-/

namespace Gamebook.Json

/-- The hexadecimal digits of a control character, four of them. -/
def controlDigits (n : Nat) : List Char :=
  ['0', '0', Nat.digitChar (n / 16), Nat.digitChar (n % 16)]

/-- How one character is written in a string. -/
def escapedChar (c : Char) : List Char :=
  if c = '"' then ['\\', '"']
  else if c = '\\' then ['\\', '\\']
  else if c = '\n' then ['\\', 'n']
  else if c = '\r' then ['\\', 'r']
  else if c = '\t' then ['\\', 't']
  else if c.toNat = 8 then ['\\', 'b']
  else if c.toNat = 12 then ['\\', 'f']
  else if c.toNat < 0x20 then ['\\', 'u'] ++ controlDigits c.toNat
  else [c]

/-- A string as it is written. -/
def stringChars (s : String) : List Char :=
  '"' :: s.toList.flatMap escapedChar ++ ['"']

/-- A string as it is written. -/
def stringText (s : String) : String :=
  String.ofList (stringChars s)

/-- The blanks that are written with a value. -/
structure Layout where
  /-- What leads an item, a field or a closing bracket at a level. -/
  lead : Nat → List Char
  /-- What stands between a colon and the value of the field. -/
  gap : List Char

namespace Layout

/-- Everything on one line. -/
def oneLine : Layout :=
  { lead := fun _ => []
    gap := [] }

/-- Every item and every field on a line of its own. -/
def indented : Layout :=
  { lead := fun level => '\n' :: List.replicate (2 * level) ' '
    gap := [' '] }

mutual

/-- A value whose first line has begun at the given level. -/
def chars (layout : Layout) (level : Nat) : Json → List Char
  | .null => "null".toList
  | .boolean b => (if b then "true" else "false").toList
  | .number literal => literal.toList
  | .string s => stringChars s
  | .undecodable => "null".toList
  | .array [] => ['[', ']']
  | .object [] => ['{', '}']
  | .array items =>
    '[' :: ([','].intercalate (layout.itemParts (level + 1) items) ++ layout.lead level ++ [']'])
  | .object fields =>
    '{' :: ([','].intercalate (layout.fieldParts (level + 1) fields) ++ layout.lead level ++ ['}'])

/-- What is written for items, without the commas between them. -/
def itemParts (layout : Layout) (level : Nat) : List Json → List (List Char)
  | [] => []
  | item :: rest => (layout.lead level ++ layout.chars level item) :: layout.itemParts level rest

/-- What is written for fields, without the commas between them. -/
def fieldParts (layout : Layout) (level : Nat) : List (String × Json) → List (List Char)
  | [] => []
  | (name, value) :: rest =>
    (layout.lead level ++ (stringChars name ++ ':' :: (layout.gap ++ layout.chars level value))) ::
      layout.fieldParts level rest

end

end Layout

/-- A value on one line. -/
def compact (json : Json) : String :=
  String.ofList (Layout.oneLine.chars 0 json)

/-- A value over several lines. -/
def pretty (json : Json) : String :=
  String.ofList (Layout.indented.chars 0 json)

end Gamebook.Json
