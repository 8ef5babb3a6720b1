import Gamebook.Files.Error
import Gamebook.Files.Path

/-! # A store of files

Directories and files, each under a list of names that leads to it from the root, and a working
directory. Paths are followed name by name, so that every name on the way must be that of a
directory.
-/

namespace Gamebook

/-- The names that lead from the root to a file or directory. -/
abbrev Location := List String

/-- What stands under a name. -/
inductive FileEntry where
  | directory
  | file (content : ByteArray)

/-- Files and directories. -/
structure FileTree where
  entries : List (Location × FileEntry)

namespace FileTree

/-- What stands at a location. The root is always a directory. -/
def get? (tree : FileTree) (location : Location) : Option FileEntry :=
  if location.isEmpty then some .directory else tree.entries.lookup location

/-- The tree without what stands at a location. -/
def erase (tree : FileTree) (location : Location) : FileTree :=
  ⟨tree.entries.filter fun entry => entry.1 != location⟩

/-- The tree with an entry at a location, in place of what stood there. -/
def set (tree : FileTree) (location : Location) (entry : FileEntry) : FileTree :=
  ⟨(tree.erase location).entries ++ [(location, entry)]⟩

/-- Whether there is a directory at a location. -/
def isDirectory (tree : FileTree) (location : Location) : Bool :=
  match tree.get? location with
  | some .directory => true
  | _ => false

end FileTree

/-- Files and directories with the directory that paths begin at. -/
structure FileStore where
  tree : FileTree
  current : Location

/-- The greatest number of bytes in a name. -/
def nameLimit : Nat := 255

/-- The first number of bytes that a path may not have. -/
def pathLimit : Nat := 4096

namespace FileStore

variable (store : FileStore)

/-- The parts of a path that can be followed at all. -/
def partsOf (path : String) : Except FileError (List String) :=
  if path.toList.any fun c => c.toNat == 0 then .error .nulInName
  else if path = "" then .error .missing
  else if pathLimit ≤ path.utf8ByteSize then .error .nameTooLong
  else .ok ((Path.parts path.toList).map String.ofList)

/-- Where a path begins. -/
def origin (path : String) : Location :=
  if Path.isRooted path.toList then [] else store.current

/-- Follows one part of a path from a location, which must be a directory. -/
def enter (location : Location) (part : String) : Except FileError Location :=
  if !store.tree.isDirectory location then .error .notDirectory
  else if part = "" ∨ part = "." then .ok location
  else if part = ".." then .ok location.dropLast
  else if nameLimit < part.utf8ByteSize then .error .nameTooLong
  else if (store.tree.get? (location ++ [part])).isSome then .ok (location ++ [part])
  else .error .missing

/-- The location that a path leads to, where there must be something. -/
def locate (path : String) : Except FileError Location := do
  (← partsOf path).foldlM store.enter (store.origin path)

/-- The directory that the last name of a path stands in, the name, and whether a slash follows it.
The name may be empty or made of points. -/
def place (path : String) : Except FileError (Location × String × Bool) := do
  let parts ← partsOf path
  let names := (parts.reverse.dropWhile (· == "")).reverse
  let location ← names.dropLast.foldlM store.enter (store.origin path)
  if !store.tree.isDirectory location then .error .notDirectory
  else .ok (location, names.getLast?.getD "", names.length < parts.length)

/-- Whether a name is none that a file can have. -/
def isSpecial (name : String) : Bool :=
  name ∈ ["", ".", ".."]

/-- What stands under a path. -/
def entryAt? (path : String) : Option FileEntry :=
  match store.locate path with
  | .ok location => store.tree.get? location
  | .error _ => none

/-- The content of the file under a path. -/
def read (path : String) : Except FileError ByteArray := do
  let location ← store.locate path
  match store.tree.get? location with
  | some (.file content) => .ok content
  | some .directory => .error .isDirectory
  | none => .error .missing

/-- The path from the root to what a path leads to, without any detour. -/
def canonical (path : String) : Except FileError String := do
  let location ← store.locate path
  .ok ("/" ++ "/".intercalate location)

/-- The store with one more directory. -/
def makeDirectory (path : String) : Except FileError FileStore := do
  let (location, name, _) ← store.place path
  if isSpecial name then .error .alreadyThere
  else if nameLimit < name.utf8ByteSize then .error .nameTooLong
  else if (store.tree.get? (location ++ [name])).isSome then .error .alreadyThere
  else .ok { store with tree := store.tree.set (location ++ [name]) .directory }

/-- The store with a file of the given content under a path. -/
def write (path : String) (content : ByteArray) : Except FileError FileStore := do
  let (location, name, slash) ← store.place path
  if isSpecial name || slash then .error .isDirectory
  else if nameLimit < name.utf8ByteSize then .error .nameTooLong
  else if store.tree.isDirectory (location ++ [name]) then .error .isDirectory
  else .ok { store with tree := store.tree.set (location ++ [name]) (.file content) }

/-- The store with the file under one path moved to another, in place of a file that stood there. -/
def move (source target : String) : Except FileError FileStore := do
  let (fromLocation, fromName, fromSlash) ← store.place source
  let (toLocation, toName, toSlash) ← store.place target
  if isSpecial fromName || isSpecial toName then .error .busy
  else
    match store.tree.get? (fromLocation ++ [fromName]) with
    | none => .error .missing
    | some .directory => .error .isDirectory
    | some (.file content) =>
      if nameLimit < toName.utf8ByteSize then .error .nameTooLong
      else if fromSlash || toSlash then .error .notDirectory
      else if store.tree.isDirectory (toLocation ++ [toName]) then .error .isDirectory
      else
        let without := store.tree.erase (fromLocation ++ [fromName])
        .ok { store with tree := without.set (toLocation ++ [toName]) (.file content) }

end FileStore

end Gamebook
