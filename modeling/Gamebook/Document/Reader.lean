import Gamebook.Document.Outline
import Gamebook.Markup.Reader

/-! # Documents from text

A gamebook is read from its marked up text.
-/

namespace Gamebook.Document

/-- The document that a text is. -/
def read (text : String) : Except Fault Document :=
  match Markup.read text.toList with
  | .error failure => .error (.ofCause (.malformedMarkup failure))
  | .ok root => ofRoot root

end Gamebook.Document
