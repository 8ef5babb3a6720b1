import Gamebook.Number.Layout

/-! # Errors of files

Why a file could not be read or written. An error of the operating system has a number, and each
number has its text.
-/

namespace Gamebook

/-- Why a file could not be read or written. -/
inductive FileError where
  | system (number : Nat)
  | nulInName
  | notText
deriving DecidableEq, Repr

namespace FileError

/-- There is nothing under the name. -/
def missing : FileError := .system 2

/-- The name is in use. -/
def busy : FileError := .system 16

/-- There is something under the name already. -/
def alreadyThere : FileError := .system 17

/-- What should be a directory is not. -/
def notDirectory : FileError := .system 20

/-- What should not be a directory is one. -/
def isDirectory : FileError := .system 21

/-- A name, or a whole path, is longer than it may be. -/
def nameTooLong : FileError := .system 36

/-- The texts of the errors of the operating system that operations on files can end with. -/
def systemTexts : List (Nat × String) := [
  (1, "Operation not permitted"),
  (2, "No such file or directory"),
  (4, "Interrupted system call"),
  (5, "Input/output error"),
  (6, "No such device or address"),
  (9, "Bad file descriptor"),
  (11, "Resource temporarily unavailable"),
  (12, "Cannot allocate memory"),
  (13, "Permission denied"),
  (14, "Bad address"),
  (16, "Device or resource busy"),
  (17, "File exists"),
  (18, "Invalid cross-device link"),
  (19, "No such device"),
  (20, "Not a directory"),
  (21, "Is a directory"),
  (22, "Invalid argument"),
  (23, "Too many open files in system"),
  (24, "Too many open files"),
  (26, "Text file busy"),
  (27, "File too large"),
  (28, "No space left on device"),
  (29, "Illegal seek"),
  (30, "Read-only file system"),
  (31, "Too many links"),
  (32, "Broken pipe"),
  (36, "File name too long"),
  (39, "Directory not empty"),
  (40, "Too many levels of symbolic links"),
  (75, "Value too large for defined data type"),
  (116, "Stale file handle"),
  (122, "Disk quota exceeded")]

/-- The text of an error of the operating system. -/
def systemText (number : Nat) : String :=
  (systemTexts.lookup number).getD ("Unknown error " ++ Number.wholeText number)

/-- The text of an error in messages. -/
def message : FileError → String
  | system number => systemText number ++ " (os error " ++ Number.wholeText number ++ ")"
  | nulInName => "file name contained an unexpected NUL byte"
  | notText => "stream did not contain valid UTF-8"

/-- Whether an error says that there is nothing under a name. -/
def isMissing (error : FileError) : Bool :=
  error == missing

end FileError

end Gamebook
