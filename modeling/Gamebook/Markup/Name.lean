import Gamebook.Text.CodeRange

/-! # Characters and names of markup

The characters that a marked up text may hold, and the names of elements and attributes. A name may
be qualified, by a word before a colon that stands for a namespace.
-/

namespace Gamebook.Markup

/-- The blank characters between the parts of a tag. -/
def isSpace (c : Char) : Bool :=
  c == ' ' || c == '\t' || c == '\n' || c == '\r'

/-- The characters that may stand in a marked up text at all. -/
def isAllowed (c : Char) : Bool :=
  if c.toNat < 0x20 then isSpace c else c.toNat != 0xFFFE && c.toNat != 0xFFFF

/-- The code points that begin a name, in increasing order. -/
def nameStartRanges : List Text.CodeRange :=
  [⟨0x3A, 0x3A⟩, ⟨0x41, 0x5A⟩, ⟨0x5F, 0x5F⟩, ⟨0x61, 0x7A⟩, ⟨0xC0, 0xD6⟩, ⟨0xD8, 0xF6⟩,
   ⟨0xF8, 0x2FF⟩, ⟨0x370, 0x37D⟩, ⟨0x37F, 0x1FFF⟩, ⟨0x200C, 0x200D⟩, ⟨0x2070, 0x218F⟩,
   ⟨0x2C00, 0x2FEF⟩, ⟨0x3001, 0xD7FF⟩, ⟨0xF900, 0xFDCF⟩, ⟨0xFDF0, 0xFFFD⟩, ⟨0x10000, 0xEFFFF⟩]

/-- The further code points that continue a name, in increasing order. -/
def nameOnlyRanges : List Text.CodeRange :=
  [⟨0x2D, 0x2E⟩, ⟨0x30, 0x39⟩, ⟨0xB7, 0xB7⟩, ⟨0x300, 0x36F⟩, ⟨0x203F, 0x2040⟩]

/-- The characters that begin a name. -/
def isNameStart (c : Char) : Bool :=
  Text.CodeRange.covers nameStartRanges c

/-- The characters that a name is made of. -/
def isNameChar (c : Char) : Bool :=
  isNameStart c || Text.CodeRange.covers nameOnlyRanges c

/-- A name with the word before its colon, which is empty if there is none. -/
structure QualifiedName where
  qualifier : List Char
  name : List Char
deriving DecidableEq, Repr

/-- The qualified name that a word is. -/
def QualifiedName.ofWord? (word : List Char) : Option QualifiedName :=
  let first := word.takeWhile (· != ':')
  let found : Option QualifiedName := match word.dropWhile (· != ':') with
    | [] => some ⟨[], first⟩
    | _ :: name => if name.contains ':' then none else some ⟨first, name⟩
  found.filter fun qualified =>
    qualified.qualifier.head?.all isNameStart && qualified.name.head?.any isNameStart

/-- The qualified name at the beginning of a text, with what follows it. -/
def qualifiedName? (text : List Char) : Option (QualifiedName × List Char) :=
  (QualifiedName.ofWord? (text.takeWhile isNameChar)).map (·, text.dropWhile isNameChar)

theorem length_of_qualifiedName? {text after : List Char} {name : QualifiedName}
    (h : qualifiedName? text = some (name, after)) : after.length ≤ text.length := by
  obtain ⟨_, _, heq⟩ := Option.map_eq_some_iff.1 h
  cases heq
  exact (List.dropWhile_sublist _).length_le

end Gamebook.Markup
