import Gamebook.Form.Snapshot
import Gamebook.Json.Printer

/-! # Saved games

Between two commands a game is kept in a file: which quest is played, with which encounters, and how
far it has come.
-/

namespace Gamebook.Command

/-- A game between two commands. -/
structure SavedGame where
  schema : String
  questPath : String
  encountersPath : Option String
  snapshot : Snapshot
deriving DecidableEq

/-- The name of the form in which games are saved. -/
def currentSchema : String := "player-state.v1"

namespace SavedGame

/-- A saved game in JSON. -/
def toJson (game : SavedGame) : Json :=
  .object ([("schemaVersion", .string game.schema), ("questPath", .string game.questPath)]
    ++ Json.optionalField "encountersPath" .string game.encountersPath
    ++ [("snapshot", game.snapshot.toJson)])

/-- The saved game that a JSON value is. -/
def ofJson (json : Json) : Except Json.Failure SavedGame := do
  let record ← Record.ofJson ["schemaVersion", "questPath", "encountersPath", "snapshot"] json
  return ⟨← record.required "schemaVersion" Json.asString,
    ← record.required "questPath" Json.asString,
    ← record.defaulted "encountersPath" Json.asString,
    ← record.required "snapshot" Snapshot.ofJson⟩

/-- A saved game as it is written. -/
def text (game : SavedGame) : String := game.toJson.pretty

/-- The saved game that a text is. -/
def ofText (text : String) : Except Json.Failure SavedGame :=
  (Json.ofText text).bind ofJson

end SavedGame

end Gamebook.Command
