import Gamebook.Encounter
import Gamebook.Fault
import Gamebook.Form.Record

/-! # Encounters in JSON

A table of encounters is written as an object from names to encounters.
-/

namespace Gamebook

/-- The first number that is no tier. -/
def tierBound : Nat := 0x100000000

/-- The tier that a JSON value is. -/
def Json.asTier (json : Json) : Except Json.Failure UInt32 :=
  (json.asNatBelow tierBound).map UInt32.ofNat

namespace Encounter

/-- An encounter in JSON. -/
def toJson (encounter : Encounter) : Json :=
  .object [("name", .string encounter.name), ("tier", .ofNat encounter.tier.toNat),
    ("class", .ofOption .string encounter.kind)]

/-- The encounter that a JSON value is. -/
def ofJson (json : Json) : Except Json.Failure Encounter := do
  let record ← Record.ofJson ["name", "tier", "class"] json
  return ⟨← record.required "name" Json.asString, ← record.required "tier" Json.asTier,
    ← record.defaulted "class" Json.asString⟩

end Encounter

namespace Encounters

/-- The table that a JSON value is. Of several encounters under one name the last counts, and
of several names with one key the last in increasing order. -/
def ofJson : Json → Except Json.Failure Encounters
  | .object fields => do
    let entries ← fields.mapM fun (name, json) => do return (name, ← Encounter.ofJson json)
    return ofList (NameMap.ofList entries).entries
  | _ => .error (.wrongForm "an object")

/-- The table that a JSON text is. -/
def ofText (text : String) : Except Fault Encounters :=
  match (Json.ofText text).bind ofJson with
  | .ok table => .ok table
  | .error failure => .error (.ofCause (.invalidEncounters failure))

end Encounters

end Gamebook
