import Gamebook.Json.Reader

/-! # Reading records

A record is read from an object, whose fields may stand in any order and among others, or from an
array that lists the values of the fields in order. A field may stand only once. A field that may be
missing is missing from an object, or from the end of an array if it has a default, or is `null`.
-/

namespace Gamebook

/-- The fields of a record that a JSON value gives. -/
structure Record where
  fields : List (String × Json)
  /-- Whether the fields were given by their order. -/
  listed : Bool

namespace Record

/-- The first name that stands twice. -/
def repeated? : List String → Option String
  | [] => none
  | name :: rest => if rest.contains name then some name else repeated? rest

/-- The record with the given field names that a JSON value is. -/
def ofJson (names : List String) : Json → Except Json.Failure Record
  | .object fields =>
    let known := fields.filter fun field => names.contains field.1
    match repeated? (known.map Prod.fst) with
    | some name => .error (.repeatedField name)
    | none => .ok ⟨known, false⟩
  | .array items =>
    if names.length < items.length then .error (.wrongForm "fewer items")
    else .ok ⟨names.zip items, true⟩
  | _ => .error (.wrongForm "a record")

/-- A field that may not be missing. -/
def required {α : Type} (record : Record) (name : String) (read : Json → Except Json.Failure α) :
    Except Json.Failure α :=
  match record.fields.lookup name with
  | some json => read json
  | none => .error (.missingField name)

/-- Something that may be `null`. -/
def orNull {α : Type} (read : Json → Except Json.Failure α) : Json → Except Json.Failure (Option α)
  | .null => .ok none
  | json => (read json).map some

/-- A field that may be missing, even from an array. -/
def defaulted {α : Type} (record : Record) (name : String)
    (read : Json → Except Json.Failure α) : Except Json.Failure (Option α) :=
  match record.fields.lookup name with
  | some json => orNull read json
  | none => .ok none

/-- A field that may be missing from an object, but has its place in an array. -/
def optional {α : Type} (record : Record) (name : String)
    (read : Json → Except Json.Failure α) : Except Json.Failure (Option α) :=
  match record.fields.lookup name with
  | some json => orNull read json
  | none => if record.listed then .error (.missingField name) else .ok none

end Record

namespace Json

/-- The string that a JSON value is. -/
def asString : Json → Except Failure String
  | .string s => .ok s
  | _ => .error (.wrongForm "a string")

/-- The boolean that a JSON value is. -/
def asBool : Json → Except Failure Bool
  | .boolean b => .ok b
  | _ => .error (.wrongForm "a boolean")

/-- The items of a JSON array. -/
def asArray : Json → Except Failure (List Json)
  | .array items => .ok items
  | _ => .error (.wrongForm "an array")

/-- The integer that a JSON value is. -/
def asInt : Json → Except Failure Int
  | .number literal =>
    match (Numeral.ofText? literal.toList).bind Numeral.integer? with
    | some n => .ok n
    | none => .error (.wrongForm "an integer")
  | _ => .error (.wrongForm "an integer")

/-- The whole number below a bound that a JSON value is. -/
def asNatBelow (bound : Nat) (json : Json) : Except Failure Nat := do
  let n ← json.asInt
  if 0 ≤ n && n < bound then .ok n.toNat else .error (.wrongForm "a smaller whole number")

/-- The place or count that a JSON value is. -/
def asCount (json : Json) : Except Failure Nat :=
  json.asNatBelow Number.wordBound

/-- The finite double that a JSON value is. -/
def asFloat : Json → Except Failure Float
  | .number literal =>
    match (Numeral.ofText? literal.toList).bind Numeral.toFloat? with
    | some x => .ok x
    | none => .error (.invalidNumber literal)
  | _ => .error (.wrongForm "a number")

/-- The items of a JSON array, each read by the same rule. -/
def asListOf {α : Type} (read : Json → Except Failure α) (json : Json) :
    Except Failure (List α) := do
  (← json.asArray).mapM read

/-- The one of several names that a JSON value is: a string, or an object that gives the name
nothing, where nothing is `null` or one of the further spellings that `empty` admits. -/
def asNameOf {α : Type} (find? : String → Option α) (empty : Json → Bool) :
    Json → Except Failure α
  | .string name => orFail name
  | .object [(name, content)] => if empty content then orFail name else wrong
  | _ => wrong
where
  /-- The failure of a value that is no name. -/
  wrong : Except Failure α := .error (.wrongForm "a name")
  /-- What a name stands for. -/
  orFail (name : String) : Except Failure α :=
    match find? name with
    | some a => .ok a
    | none => wrong

/-- The only spelling of nothing in most places. -/
def isNull : Json → Bool
  | .null => true
  | _ => false

end Json

end Gamebook
