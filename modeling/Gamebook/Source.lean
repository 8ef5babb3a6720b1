/-! # Places in a text

A place is given by its line and its column, both counted from one. Every character takes one
column, and a line ends with its line feed.
-/

namespace Gamebook

/-- A place in a text. -/
structure Position where
  line : Nat
  column : Nat
deriving DecidableEq, Repr

/-- A stretch of a text, from its first character to the place after its last. -/
structure Span where
  start : Position
  stop : Position
deriving DecidableEq, Repr

/-- The first place of a text. -/
def Position.first : Position := ⟨1, 1⟩

/-- The place after one character. -/
def Position.next (position : Position) (c : Char) : Position :=
  if c = '\n' then ⟨position.line + 1, 1⟩ else ⟨position.line, position.column + 1⟩

/-- The place after several characters. -/
def Position.after (position : Position) (text : List Char) : Position :=
  text.foldl Position.next position

/-- The span of something that was not read from a text. -/
def Span.synthetic : Span := ⟨.first, .first⟩

end Gamebook
