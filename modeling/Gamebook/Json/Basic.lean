import Gamebook.Number.Layout

/-! # JSON

A JSON value keeps its numbers as they are spelled and its fields in the order of the text, with all
fields of one name. What a number or a repeated field means is decided by the reader of a form.
-/

namespace Gamebook

/-- JSON values. `undecodable` stands for a string, or an object with a name, in which an escape
gives half of a character: such a text may be passed over but has no content. -/
inductive Json where
  | null
  | boolean (b : Bool)
  | number (literal : String)
  | string (s : String)
  | undecodable
  | array (items : List Json)
  | object (fields : List (String × Json))
deriving Inhabited

namespace Json

/-- The JSON value for a double, which is `null` unless the double is finite. -/
def ofFloat (x : Float) : Json :=
  match Number.Binary.ofFloat x with
  | .finite .. => .number (Number.Layout.signed.render x)
  | _ => .null

/-- The JSON value for a whole number. -/
def ofNat (n : Nat) : Json :=
  .number (Number.wholeText n)

/-- The JSON value for an integer. -/
def ofInt (n : Int) : Json :=
  .number (Number.signedText n)

/-- The JSON value for something that may be missing. -/
def ofOption {α : Type} (toJson : α → Json) : Option α → Json
  | some a => toJson a
  | none => .null

/-- The field for something that is left out if it is missing. -/
def optionalField {α : Type} (name : String) (toJson : α → Json) :
    Option α → List (String × Json)
  | some a => [(name, toJson a)]
  | none => []

end Json

end Gamebook
