import Gamebook.Markup.Piece
import Gamebook.Markup.Reference

/-! # Namespaces

An element declares namespaces by some of its attributes, and they hold for the element and all
within it. Two attributes of an element are the same if they have the same name in the same
namespace, and no element may have an attribute twice.
-/

namespace Gamebook.Markup

/-- The name of a namespace that markup itself sets, from the last parts of the name. -/
def standardNamespace (parts : List String) : String :=
  "/".intercalate (["http:", "", "www.w3.org"] ++ parts)

/-- The namespace that the qualifier `xml` always stands for. -/
def xmlNamespace : String := standardNamespace ["XML", "1998", "namespace"]

/-- The namespace of declarations, which cannot be declared itself. -/
def declarationNamespace : String := standardNamespace ["2000", "xmlns", ""]

/-- The qualifiers with the namespaces that they stand for, innermost first. The empty qualifier
stands for the namespace of names without one. -/
abbrev Scope := List (String × String)

/-- An attribute with its value. -/
structure Attribute where
  qualifier : String
  name : String
  value : String
deriving DecidableEq, Repr

/-- The attribute with its value. -/
def RawAttribute.resolve (raw : RawAttribute) : Except Failure Attribute :=
  match attributeValue? raw.value with
  | some value =>
    .ok ⟨String.ofList raw.name.qualifier, String.ofList raw.name.name, value⟩
  | none => .error .malformedReference

/-- The declarations of an element, in order, and its other attributes. -/
structure Declared where
  scope : Scope
  attributes : List Attribute

/-- Sorts an attribute into the declarations or among the other attributes. -/
def Declared.add (declared : Declared) (found : Attribute) : Except Failure Declared :=
  let ⟨qualifier, name, value⟩ := found
  if qualifier = "xmlns" then
    if value = declarationNamespace then .error (.reservedNamespace name)
    else if (name = "xml") ≠ (value = xmlNamespace) then .error (.reservedNamespace name)
    else if declared.scope.any fun entry => entry.1 == name then .error (.repeatedAttribute name)
    else if value = xmlNamespace then .ok declared
    else .ok { declared with scope := declared.scope ++ [(name, value)] }
  else if name = "xmlns" then
    if value = xmlNamespace ∨ value = declarationNamespace then .error (.reservedNamespace name)
    else .ok { declared with scope := declared.scope ++ [("", value)] }
  else .ok { declared with attributes := declared.attributes ++ [found] }

/-- The namespace of an attribute. An attribute without a qualifier has none. -/
def Attribute.namespace? (scope : Scope) (found : Attribute) : Except Failure (Option String) :=
  if found.qualifier = "xml" then .ok (some xmlNamespace)
  else if found.qualifier = "" then .ok none
  else
    match scope.lookup found.qualifier with
    | some uri => .ok (some uri)
    | none => .error (.unboundQualifier found.qualifier)

/-- Whether no name in a namespace stands twice. -/
def distinct : List (Option String × String) → Bool
  | [] => true
  | first :: rest => !rest.contains first && distinct rest

/-- The attributes of an element that are not declarations, with the scope inside the element. -/
def resolveTag (outer : Scope) (name : QualifiedName) (raw : List RawAttribute) :
    Except Failure (Scope × List (String × String)) := do
  let qualifier := String.ofList name.qualifier
  if qualifier = "xmlns" then
    throw (.reservedNamespace qualifier)
  let attributes ← raw.mapM RawAttribute.resolve
  let declared ← attributes.foldlM Declared.add ⟨[], []⟩
  let scope := declared.scope ++ outer
  let names ← declared.attributes.mapM fun found => do
    return (← found.namespace? scope, found.name)
  if !distinct names then
    throw (.repeatedAttribute (String.ofList name.name))
  if qualifier ≠ "" ∧ (scope.lookup qualifier).isNone then
    throw (.unboundQualifier qualifier)
  return (scope, declared.attributes.map fun found => (found.name, found.value))

end Gamebook.Markup
