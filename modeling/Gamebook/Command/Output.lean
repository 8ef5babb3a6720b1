import Gamebook.Files.Error
import Gamebook.Form.Step
import Gamebook.Json.Printer
import Gamebook.Session

/-! # Output of commands

A command prints one fact to a line. Each line begins with what the fact is, and texts are quoted as
in JSON, so that no text can end a line or pass for another fact.
-/

namespace Gamebook.Command

/-- Why a command failed. -/
inductive Failure where
  | quest (fault : Fault)
  | questMissing (path : String)
  | encountersMissing (path : String)
  | notAFile (path : String)
  | pathUnresolved (path : String) (error : FileError)
  | questUnreadable (path : String) (error : FileError)
  | encountersUnreadable (path : String) (error : FileError)
  | stateMissing (path : String)
  | stateUnreadable (path : String) (error : FileError)
  | stateInvalid (path : String) (failure : Json.Failure)
  | stateSchema (path found expected : String)
  | stateUnwritable (path : String) (error : FileError)
deriving DecidableEq

namespace Failure

/-- The code by which programs tell failures apart. -/
def code : Failure → String
  | quest fault => fault.code
  | questMissing _ => "CLI_QUEST_NOT_FOUND"
  | encountersMissing _ => "CLI_ENCOUNTERS_NOT_FOUND"
  | notAFile _ => "CLI_SOURCE_NOT_FILE"
  | pathUnresolved .. => "CLI_SOURCE_PATH"
  | questUnreadable .. => "CLI_QUEST_READ"
  | encountersUnreadable .. => "CLI_ENCOUNTERS_READ"
  | stateMissing _ => "CLI_STATE_NOT_FOUND"
  | stateUnreadable .. => "CLI_STATE_READ"
  | stateInvalid .. => "CLI_STATE_INVALID"
  | stateSchema .. => "CLI_STATE_SCHEMA"
  | stateUnwritable .. => "CLI_STATE_WRITE"

/-- A path with what is wrong there. -/
def atPath (path : String) (reason : String) : String :=
  path ++ ": " ++ reason

/-- What a failure says to a person. -/
def message : Failure → String
  | quest fault => fault.message
  | questMissing path => "File does not exist: " ++ path
  | encountersMissing path => "File does not exist: " ++ path
  | notAFile path => "Path is not a file: " ++ path
  | pathUnresolved path error => atPath path error.message
  | questUnreadable path error => atPath path error.message
  | encountersUnreadable path error => atPath path error.message
  | stateMissing path => "State file does not exist: " ++ path
  | stateUnreadable path error => atPath path error.message
  | stateInvalid path failure => atPath path failure.message
  | stateSchema path found expected =>
    path ++ " uses player state schema \"" ++ found ++ "\", expected \"" ++ expected ++ "\"."
  | stateUnwritable path error => atPath path error.message

/-- Where in the quest a failure belongs. -/
def span? : Failure → Option Span
  | quest fault => fault.span
  | _ => none

/-- The line for the place of a failure, if it has one. -/
def placeLines : Option Span → List String
  | some span =>
    ["ERROR_AT:" ++ Number.wholeText span.start.line ++ ":" ++ Number.wholeText span.start.column]
  | none => []

/-- What is printed when a command fails. -/
def lines (failure : Failure) : List String :=
  ["RESULT:ERROR", "ERROR_CODE:" ++ failure.code,
    "ERROR_MSG_JSON:" ++ Json.stringText failure.message] ++ placeLines failure.span?

end Failure

/-- A line for a text that may be missing. -/
def optionalLine (label : String) : Option String → List String
  | some text => [label ++ Json.stringText text]
  | none => []

/-- The line for a paragraph. -/
def contentLine (item : ContentItem) : String :=
  "CONTENT:" ++ item.kind.name ++ "|" ++ Json.stringText item.text

/-- The line for a choice. -/
def choiceLine (choice : Choice) : String :=
  "CHOICE:" ++ Number.wholeText choice.index ++ "|" ++ Json.stringText choice.text

/-- The line for an enemy. -/
def enemyLine (enemy : Enemy) : String :=
  "ENEMY:" ++ Number.wholeText enemy.tier.toNat ++ "|" ++ Json.stringText enemy.name
    ++ match enemy.kind with
      | some kind => "|" ++ Json.stringText kind
      | none => ""

/-- The lines for what a player is shown. -/
def sceneLines : Scene → List String
  | .roleplay step =>
    ["STEP:ROLEPLAY"] ++ optionalLine "TITLE_JSON:" step.title
      ++ optionalLine "ICON_JSON:" step.icon ++ step.content.map contentLine
      ++ step.choices.map choiceLine
  | .combat step =>
    ["STEP:COMBAT"] ++ optionalLine "ICON_JSON:" step.icon ++ step.enemies.map enemyLine
  | .finish => ["STEP:END"]

/-- The line for what an event gives to the player. -/
def parameterLines : Option EventParameters → List String
  | some parameters => ["PARAMS_JSON:" ++ parameters.toJson.compact]
  | none => []

/-- What is printed when a command succeeds. -/
def successLines (scene : Scene) (parameters : Option EventParameters) (stateOut : String) :
    List String :=
  ["RESULT:OK"] ++ parameterLines parameters ++ sceneLines scene ++ ["STATE_OUT:" ++ stateOut]

end Gamebook.Command
