import Gamebook.Source

/-! # Markup trees

A marked up text is a tree of elements with text between them. Names stand without their namespaces,
and comments and processing instructions are left out.
-/

namespace Gamebook.Markup

/-- An element with its attributes and what stands between its tags, or a text. -/
inductive Node where
  | element (name : String) (attributes : List (String × String)) (children : List Node)
      (span : Span)
  | text (content : String) (span : Span)

/-- Where a node stands in the text. -/
def Node.span : Node → Span
  | .element _ _ _ span => span
  | .text _ span => span

mutual

/-- The text in a node, with all tags left out. -/
def Node.content : Node → List Char
  | .element _ _ children _ => contents children
  | .text content _ => content.toList

/-- The text in several nodes, with all tags left out. -/
def contents : List Node → List Char
  | [] => []
  | node :: rest => node.content ++ contents rest

end

end Gamebook.Markup
