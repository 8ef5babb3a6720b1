/-! # Failures of markup

Why a text is not well-formed markup.
-/

namespace Gamebook.Markup

/-- The first fault that was found in a text. -/
inductive Failure where
  | forbiddenCharacter (c : Char)
  | malformedDeclaration
  | malformedInstruction
  | malformedComment
  | documentType
  | malformedSection
  | malformedTag
  | malformedText
  | malformedReference
  | unmatchedTag (name : String)
  | unclosedElement
  | contentOutsideRoot
  | secondRoot
  | missingRoot
  | unboundQualifier (qualifier : String)
  | reservedNamespace (qualifier : String)
  | repeatedAttribute (name : String)
deriving DecidableEq, Repr

/-- The text of a failure in messages. -/
def Failure.message : Failure → String
  | .forbiddenCharacter c => "character " ++ toString c.toNat ++ " is not allowed"
  | .malformedDeclaration => "the declaration at the beginning is malformed"
  | .malformedInstruction => "a processing instruction is malformed"
  | .malformedComment => "a comment is malformed"
  | .documentType => "a document type is not allowed"
  | .malformedSection => "a character data section is not closed"
  | .malformedTag => "a tag is malformed"
  | .malformedText => "a text holds the end of a character data section"
  | .malformedReference => "a reference is malformed or unknown"
  | .unmatchedTag name => "the closing tag of " ++ name ++ " has no opening tag"
  | .unclosedElement => "an element is not closed"
  | .contentOutsideRoot => "text stands outside the root element"
  | .secondRoot => "there is more than one root element"
  | .missingRoot => "there is no root element"
  | .unboundQualifier qualifier => "the namespace of " ++ qualifier ++ " is not declared"
  | .reservedNamespace qualifier => "the namespace of " ++ qualifier ++ " is reserved"
  | .repeatedAttribute name => "the attribute " ++ name ++ " is repeated"

end Gamebook.Markup
