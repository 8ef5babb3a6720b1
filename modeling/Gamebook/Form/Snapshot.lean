import Gamebook.Form.Context
import Gamebook.Session

/-! # Places and snapshots in JSON

The kinds of node, the places in a text and the snapshots of a session as they are written.
-/

namespace Gamebook

namespace Tag

/-- The name of a kind of node in JSON. -/
def jsonName : Tag → String
  | .quest => "quest"
  | .roleplay => "roleplay"
  | .combat => "combat"
  | .trigger => "trigger"
  | .choice => "choice"
  | .event => "event"
  | .enemyLine => "enemyLine"
  | .instruction => "instruction"
  | .text => "text"

/-- All kinds of node. -/
def all : List Tag :=
  [.quest, .roleplay, .combat, .trigger, .choice, .event, .enemyLine, .instruction, .text]

/-- The kind of node with a name in JSON. -/
def ofJsonName? (name : String) : Option Tag :=
  all.find? fun tag => tag.jsonName == name

/-- A kind of node in JSON. -/
def toJson (tag : Tag) : Json := .string tag.jsonName

/-- The kind of node that a JSON value is. -/
def ofJson : Json → Except Json.Failure Tag :=
  Json.asNameOf ofJsonName? Json.isNull

end Tag

namespace Position

/-- A place in JSON. -/
def toJson (position : Position) : Json :=
  .object [("line", .ofNat position.line), ("column", .ofNat position.column)]

/-- The place that a JSON value is. -/
def ofJson (json : Json) : Except Json.Failure Position := do
  let record ← Record.ofJson ["line", "column"] json
  return ⟨← record.required "line" Json.asCount, ← record.required "column" Json.asCount⟩

end Position

namespace Span

/-- A stretch of text in JSON. -/
def toJson (span : Span) : Json :=
  .object [("start", span.start.toJson), ("end", span.stop.toJson)]

/-- The stretch of text that a JSON value is. -/
def ofJson (json : Json) : Except Json.Failure Span := do
  let record ← Record.ofJson ["start", "end"] json
  return ⟨← record.required "start" Position.ofJson, ← record.required "end" Position.ofJson⟩

end Span

namespace Snapshot

/-- A snapshot in JSON. -/
def toJson (snapshot : Snapshot) : Json :=
  .object [("node", .ofOption .ofNat snapshot.node), ("context", snapshot.context.toJson),
    ("ended", .boolean snapshot.ended)]

/-- The snapshot that a JSON value is. -/
def ofJson (json : Json) : Except Json.Failure Snapshot := do
  let record ← Record.ofJson ["node", "context", "ended"] json
  return ⟨← record.optional "node" Json.asCount, ← record.required "context" Context.ofJson,
    ← record.required "ended" Json.asBool⟩

end Snapshot

end Gamebook
