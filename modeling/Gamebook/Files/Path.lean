/-! # Paths

A path is a text in which slashes separate names. Empty names do not count, nor does a single point
unless the path begins with it. The parent of a path is the path without its last name.
-/

namespace Gamebook.Path

/-- The parts between slashes. -/
def parts : List Char → List (List Char)
  | [] => [[]]
  | c :: rest =>
    if c = '/' then [] :: parts rest
    else
      match parts rest with
      | first :: others => (c :: first) :: others
      | [] => [[c]]

/-- Whether a path begins at the root. -/
def isRooted (path : List Char) : Bool :=
  path.head? == some '/'

/-- Whether the part at a place among the parts of a path is a name. -/
def isName (place : Nat) (part : List Char) : Bool :=
  !part.isEmpty && (part != ['.'] || place == 0)

/-- The beginnings of a path that end with a name, from the shortest to the longest. -/
def beginnings (path : List Char) : List (List Char) :=
  (parts path).zipIdx.filterMap fun (part, place) =>
    if isName place part then some (['/'].intercalate ((parts path).take (place + 1))) else none

/-- The paths that a path lies in, from the innermost to the outermost. The working directory is not
among them. -/
def parents (path : String) : List String :=
  let names := beginnings path.toList
  let outer := names.dropLast.reverse.map String.ofList
  if isRooted path.toList && !names.isEmpty then outer ++ ["/"] else outer

end Gamebook.Path
