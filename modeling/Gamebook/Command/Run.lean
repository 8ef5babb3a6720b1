import Gamebook.Command.Arguments
import Gamebook.Command.Output
import Gamebook.Command.SavedGame
import Gamebook.Files.Access

/-! # Running commands

A command opens a quest or takes up a saved game, makes one step of play, and saves the game under a
path of the player's choice. A saved game is first written under a name of its own and then moved to
its place, so that an older one stays there until the new one is complete.
-/

namespace Gamebook.Command

variable {m : Type → Type} [Monad m] [FileAccess m]

/-- Steps of a command on files, which may fail. -/
abbrev Action (m : Type → Type) := ExceptT Failure m

/-- Goes on with the result of an operation on files. -/
def orFail {α : Type} (fail : FileError → Failure) (operation : m (Except FileError α)) :
    Action m α := do
  match ← ExceptT.lift operation with
  | .ok a => return a
  | .error error => throw (fail error)

/-- Goes on with something that needs no files. -/
def ofExcept {ε α : Type} (fail : ε → Failure) : Except ε α → Action m α
  | .ok a => return a
  | .error error => throw (fail error)

/-- The text of a file. -/
def readText (fail : FileError → Failure) (path : String) : Action m String := do
  let content ← orFail fail (FileAccess.read path)
  match String.fromUTF8? content with
  | some text => return text
  | none => throw (fail .notText)

/-- The path from the root to a file that a command is given. -/
def resolve (missing : String → Failure) (path : String) : Action m String := do
  match ← ExceptT.lift (FileAccess.kind? path) with
  | none => throw (missing path)
  | some .directory => throw (.notAFile path)
  | some .file => orFail (.pathUnresolved path) (FileAccess.canonical path)

/-- A quest with the encounters that it is played with, and where both came from. -/
structure LoadedQuest where
  path : String
  text : String
  encountersPath : Option String
  encounters : Encounters

/-- Reads a quest and, if a table of encounters is named, the table. -/
def loadQuest (questPath : String) (encountersPath : Option String) : Action m LoadedQuest := do
  let path ← resolve .questMissing questPath
  let text ← readText (.questUnreadable path) path
  match encountersPath with
  | none => return ⟨path, text, none, .bundled⟩
  | some given =>
    let resolved ← resolve .encountersMissing given
    let json ← readText (.encountersUnreadable resolved) resolved
    let encounters ← ofExcept .quest (Encounters.ofText json)
    return ⟨path, text, some resolved, encounters⟩

/-- The name under which a saved game is written before it is moved to its place. -/
def stagingPath (path : String) : String :=
  path ++ ".partial"

/-- Saves a game under a path, with the directories that the path needs. -/
def saveGame (path : String) (game : SavedGame) : Action m PUnit := do
  match Path.parents path with
  | [] => pure ⟨⟩
  | parent :: outer =>
    orFail (.stateUnwritable parent) (makeDirectories (parent :: outer))
  let staged := stagingPath path
  orFail (.stateUnwritable staged) (FileAccess.write staged game.text.toUTF8)
  orFail (.stateUnwritable path) (FileAccess.move staged path)

/-- Reads a saved game. -/
def loadGame (path : String) : Action m SavedGame := do
  let fail (error : FileError) : Failure :=
    if error.isMissing then .stateMissing path else .stateUnreadable path error
  let text ← readText fail path
  let game ← ofExcept (.stateInvalid path) (SavedGame.ofText text)
  if game.schema = currentSchema then return game
  else throw (.stateSchema path game.schema currentSchema)

/-- The game to be saved after a step of play. -/
def savedGame (quest : LoadedQuest) (session : Session) : SavedGame :=
  ⟨currentSchema, quest.path, quest.encountersPath, session.snapshot⟩

/-- Ends a step of play: finds what the player is shown, saves the game, and tells both. -/
def finish (quest : LoadedQuest) (session : Session) (parameters : Option EventParameters)
    (stateOut : String) : Action m (List String) := do
  let scene ← ofExcept .quest session.scene.answer
  saveGame stateOut (savedGame quest session)
  return successLines scene parameters stateOut

/-- Opens a quest. -/
def startQuest (questPath : String) (encountersPath : Option String) (stateOut : String) :
    Action m (List String) := do
  let quest ← loadQuest questPath encountersPath
  let d ← ofExcept .quest (Document.read quest.text)
  let session ← ofExcept .quest (Session.start d quest.encounters NameMap.empty).answer
  finish quest session none stateOut

/-- The quest of a saved game, with the session that goes on from it. -/
def takeUp (game : SavedGame) : Action m (LoadedQuest × Session) := do
  let quest ← loadQuest game.questPath game.encountersPath
  let d ← ofExcept .quest (Document.read quest.text)
  let session ← ofExcept .quest (Session.resume d quest.encounters game.snapshot)
  return (quest, session)

/-- Takes a choice in a saved game. -/
def takeChoice (stateIn stateOut : String) (choice : Nat) : Action m (List String) := do
  let (quest, session) ← takeUp (← loadGame stateIn)
  let next ← ofExcept .quest (session.choose choice).answer
  finish quest next none stateOut

/-- Ends a combat in a saved game. -/
def endCombat (stateIn stateOut event : String) : Action m (List String) := do
  let (quest, session) ← takeUp (← loadGame stateIn)
  let (parameters, next) ← ofExcept .quest (session.resolveCombat event).answer
  finish quest next (some parameters) stateOut

/-- Carries out a request. -/
def perform : Request → Action m (List String)
  | .start quest encounters stateOut => startQuest quest encounters stateOut
  | .choose stateIn stateOut choice => takeChoice stateIn stateOut choice
  | .event stateIn stateOut event => endCombat stateIn stateOut event

/-- What a command prints, and the number that it ends with. -/
structure Outcome where
  code : UInt32
  lines : List String
deriving DecidableEq

/-- The name and the version of the program. -/
def versionLine : String := "questlang 0.1.0"

/-- How the program is used. -/
def helpLines : List String :=
  ["Usage: questlang agent <COMMAND>", "",
    "Commands:",
    "  start   --quest <FILE> [--encounters <FILE>] --state-out <FILE>",
    "  choose  --state-in <FILE> --choice <NUMBER> --state-out <FILE>",
    "  event   --state-in <FILE> --event <NAME> --state-out <FILE>"]

/-- Runs the command that the words on the command line ask for. -/
def run (words : List String) : m Outcome := do
  match read? words with
  | none => return ⟨2, []⟩
  | some .version => return ⟨0, [versionLine]⟩
  | some .help => return ⟨0, helpLines⟩
  | some (.play request) =>
    match ← (perform request).run with
    | .ok lines => return ⟨0, lines⟩
    | .error failure => return ⟨1, failure.lines⟩

end Gamebook.Command
