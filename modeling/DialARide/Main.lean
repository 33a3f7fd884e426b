import DialARide.CommandLine.Run

/-!
# The program

Runs a command on the disk. All decisions are taken by `DialARide.Command.run`.
-/

namespace DialARide

/-- What an error of the operating system says about a file. -/
def fileFault : IO.Error → FileFault
  | .noFileOrDirectory .. => .notFound
  | .permissionDenied .. => .accessDenied
  | .inappropriateType _ 20 _ => .notFolder
  | .inappropriateType .. => .isFolder
  | .invalidArgument _ 36 _ => .nameTooLong
  | error => .other (toString error)

/-- Access to the files of the disk. What can be opened but not read as text is unreadable. -/
def disk : FileSystem IO where
  read path := do
    try return .text (← IO.FS.readFile path)
    catch error =>
      match fileFault error with
      | .isFolder => return .unreadable
      | .other _ => return .unreadable
      | _ => return .missing
  write path text := do
    try
      IO.FS.writeFile path text
      return none
    catch error => return some (fileFault error)

end DialARide

open DialARide in
/-- Runs the program on its arguments. -/
def main (arguments : List String) : IO UInt32 := do
  let environment : Environment := match ← IO.getEnv Command.settingsVariable with
    | some value => [(Command.settingsVariable, value)]
    | none => []
  let outcome ← Command.run disk environment arguments
  IO.print outcome.output
  if let some message := outcome.failure then IO.eprintln s!"Error: {message}"
  return outcome.exitCode.toUInt32
