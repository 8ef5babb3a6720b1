import Gamebook.Files.Store

/-! # Access to files

What a command needs of the files around it. Commands are written once over this interface: on a
store of files they are functions that can be reasoned about, and the program runs them on the files
of the machine.
-/

namespace Gamebook

/-- What a path can lead to. -/
inductive FileKind where
  | directory
  | file
deriving DecidableEq, Repr

/-- The operations on files that commands are made of. -/
class FileAccess (m : Type → Type) where
  /-- What a path leads to, if it leads to anything. -/
  kind? : String → m (Option FileKind)
  /-- The content of a file. -/
  read : String → m (Except FileError ByteArray)
  /-- The path from the root to what a path leads to. -/
  canonical : String → m (Except FileError String)
  /-- Makes one directory. -/
  makeDirectory : String → m (Except FileError PUnit)
  /-- Writes a whole file. -/
  write : String → ByteArray → m (Except FileError PUnit)
  /-- Moves a file. -/
  move : String → String → m (Except FileError PUnit)

namespace FileStore

/-- Carries out an operation on the store, which stays as it was if the operation fails. -/
def update (operation : FileStore → Except FileError FileStore) :
    StateM FileStore (Except FileError PUnit) := do
  match operation (← get) with
  | .ok store =>
    set store
    return .ok ⟨⟩
  | .error error => return .error error

/-- The kind of an entry. -/
def kindOf : FileEntry → FileKind
  | .directory => .directory
  | .file _ => .file

instance : FileAccess (StateM FileStore) where
  kind? path := do return ((← get).entryAt? path).map kindOf
  read path := do return (← get).read path
  canonical path := do return (← get).canonical path
  makeDirectory path := update fun store => store.makeDirectory path
  write path content := update fun store => store.write path content
  move source target := update fun store => store.move source target

end FileStore

variable {m : Type → Type} [Monad m] [FileAccess m]

/-- Whether a path leads to a directory. -/
def isDirectoryAt (path : String) : m Bool := do
  return (← FileAccess.kind? path) == some .directory

/-- Makes a directory unless it is there. -/
def ensureDirectory (path : String) : m (Except FileError PUnit) := do
  match ← FileAccess.makeDirectory path with
  | .ok _ => return .ok ⟨⟩
  | .error error => if ← isDirectoryAt path then return .ok ⟨⟩ else return .error error

/-- Makes the first of the directories, where each lies in the next, together with those that it
needs. -/
def makeDirectories : List String → m (Except FileError PUnit)
  | [] => return .ok ⟨⟩
  | path :: outer => do
    match ← FileAccess.makeDirectory path with
    | .ok _ => return .ok ⟨⟩
    | .error error =>
      if error.isMissing then
        match ← makeDirectories outer with
        | .ok _ => ensureDirectory path
        | .error error => return .error error
      else if ← isDirectoryAt path then return .ok ⟨⟩
      else return .error error

end Gamebook
