import Gamebook.Markup.Node
import Gamebook.Text.Entity

/-! # Writing markup

A tree is written with an opening and a closing tag for every element. Characters that markup would
take for its own are written by name.
-/

namespace Gamebook.Markup

/-- An attribute as it stands in a tag. -/
def attributeMarkup (pair : String × String) : List Char :=
  ' ' :: pair.1.toList ++ ['=', '"'] ++ Text.escapeAttribute pair.2.toList ++ ['"']

mutual

/-- A node as it is written. -/
def Node.markup : Node → List Char
  | .element name attributes children _ =>
    '<' :: name.toList ++ attributes.flatMap attributeMarkup ++ ['>'] ++ markups children
      ++ ['<', '/'] ++ name.toList ++ ['>']
  | .text content _ => Text.escapeText content.toList

/-- Several nodes as they are written one after the other. -/
def markups : List Node → List Char
  | [] => []
  | node :: rest => node.markup ++ markups rest

end

end Gamebook.Markup
