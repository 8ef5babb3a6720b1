import Gamebook.Command.Run

/-! # The program

Commands are run on the files of the machine. What a command prints goes to standard output, and the
number that it ends with is the number that the program ends with.
-/

namespace Gamebook

/-- The number of an error of the operating system, which some operations give with a minus sign. -/
def errorNumber (code : UInt32) : Nat :=
  code.toInt32.toInt.natAbs

/-- The error of a file that an error of an operation is. -/
def fileError : IO.Error → FileError
  | .alreadyExists _ code _ | .otherError code _ | .resourceBusy code _ | .resourceVanished code _
  | .unsupportedOperation code _ | .hardwareFault code _ | .unsatisfiedConstraints code _
  | .illegalOperation code _ | .protocolError code _ | .timeExpired code _
  | .interrupted _ code _ | .noFileOrDirectory _ code _ | .invalidArgument _ code _
  | .permissionDenied _ code _ | .resourceExhausted _ code _ | .inappropriateType _ code _
  | .noSuchThing _ code _ => .system (errorNumber code)
  | .unexpectedEof | .userError _ => .system 5

/-- Carries out an operation on the files of the machine, none of which has a name with a NUL. -/
def onMachine {α : Type} (paths : List String) (operation : IO α) :
    BaseIO (Except FileError α) := do
  if paths.any fun path => path.toList.any fun c => c.toNat == 0 then return .error .nulInName
  match ← operation.toBaseIO with
  | .ok a => return .ok a
  | .error error => return .error (fileError error)

instance : FileAccess BaseIO where
  kind? path := do
    let opened ← onMachine [path] do
      let handle ← IO.FS.Handle.mk path .read
      handle.read 1
    match opened with
    | .ok _ => return some .file
    | .error error =>
      if error = .isDirectory then return some .directory
      match ← onMachine [path] (IO.FS.realPath path) with
      | .ok _ => return some .file
      | .error _ => return none
  read path := onMachine [path] (IO.FS.readBinFile path)
  canonical path := onMachine [path] do return (← IO.FS.realPath path).toString
  makeDirectory path := onMachine [path] (IO.FS.createDir path)
  write path content := onMachine [path] (IO.FS.writeBinFile path content)
  move source target := onMachine [source, target] (IO.FS.rename source target)

end Gamebook

/-- Runs the command that the arguments ask for. -/
def main (words : List String) : IO UInt32 := do
  let outcome ← (Gamebook.Command.run words : BaseIO Gamebook.Command.Outcome)
  for line in outcome.lines do
    IO.println line
  return outcome.code
