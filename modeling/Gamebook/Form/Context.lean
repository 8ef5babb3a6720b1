import Gamebook.Context
import Gamebook.Form.Record

/-! # Values and contexts in JSON

A value is written as the JSON value of its kind, and a context as an object. A number that is not
finite is written as `null`, which is no value.
-/

namespace Gamebook

namespace Value

/-- A value in JSON. -/
def toJson : Value → Json
  | .boolean b => .boolean b
  | .number x => .ofFloat x
  | .string s => .string s

/-- The value that a JSON value is. -/
def ofJson : Json → Except Json.Failure Value
  | .boolean b => .ok (.boolean b)
  | .string s => .ok (.string s)
  | json => json.asFloat.map .number

end Value

namespace Context

/-- A context in JSON. -/
def toJson (context : Context) : Json :=
  .object (context.entries.map fun (name, value) => (name, value.toJson))

/-- The context that a JSON value is. Of several fields of one name the last counts. -/
def ofJson : Json → Except Json.Failure Context
  | .object fields => do
    let entries ← fields.mapM fun (name, json) => do return (name, ← Value.ofJson json)
    .ok (NameMap.ofList entries)
  | _ => .error (.wrongForm "an object")

end Context

end Gamebook
