import Gamebook.Text.Lowercase

/-! # Tags

A gamebook is made of nine kinds of node, each written as an element with a name of its own.
-/

namespace Gamebook

/-- The kinds of node. -/
inductive Tag where
  | quest
  | roleplay
  | combat
  | trigger
  | choice
  | event
  | enemyLine
  | instruction
  | text
deriving DecidableEq, Repr

namespace Tag

/-- The name of the element that a node is written as. -/
def element : Tag → String
  | .quest => "quest"
  | .roleplay => "roleplay"
  | .combat => "combat"
  | .trigger => "trigger"
  | .choice => "choice"
  | .event => "event"
  | .enemyLine => "e"
  | .instruction => "instruction"
  | .text => "p"

/-- The kind of node that an element is, whatever the case of its ASCII letters. A text has a
second name. -/
def ofElement? (name : String) : Option Tag :=
  match Text.lowercaseAscii name with
  | "quest" => some .quest
  | "roleplay" => some .roleplay
  | "combat" => some .combat
  | "trigger" => some .trigger
  | "choice" => some .choice
  | "event" => some .event
  | "e" => some .enemyLine
  | "instruction" => some .instruction
  | "p" => some .text
  | "text" => some .text
  | _ => none

/-- The kinds that hold markup for the reader to see. -/
def holdsMarkup : Tag → Bool
  | .instruction | .text => true
  | _ => false

/-- The kinds whose text counts and which have no nodes within them. -/
def isLeaf : Tag → Bool
  | .instruction | .text | .enemyLine | .trigger => true
  | _ => false

/-- The kinds that play can arrive at. -/
def isCard : Tag → Bool
  | .combat | .roleplay | .trigger => true
  | _ => false

/-- The kinds that lead from one card to another. -/
def isBranch : Tag → Bool
  | .choice | .event => true
  | _ => false

end Tag

end Gamebook
