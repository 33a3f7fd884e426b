import DialARide.CommandLine.Arguments
import DialARide.CommandLine.EnvFile
import DialARide.Json.Schema
import DialARide.Search.Result
import DialARide.Search.SettingsFile
import DialARide.Snapshot

/-!
# Running a command

A command reads files, may write one, and ends with an exit code, a text for the standard output and
perhaps a failure. How files are read and written is left to the caller (`FileSystem`), so that a
command runs in the same way on a disk and on files held in memory.
-/

namespace DialARide

/-! ## 1. Files -/

/-- What is found under the name of a file. -/
inductive FileContent where
  | missing
  /-- Something that is there but cannot be read, such as a directory. -/
  | unreadable
  | text (text : String)

/-- Why a path cannot be followed, or why a file cannot be written. -/
inductive FileFault where
  | notFound
  | accessDenied
  /-- A step of the path, other than the last, leads to a file. -/
  | notFolder
  /-- A folder stands where a file should be written. -/
  | isFolder
  | nameTooLong
  | other (text : String)
  deriving DecidableEq, Repr

/-- The text shown for a fault. -/
def FileFault.message : FileFault → String
  | notFound => "No such file or directory (os error 2)"
  | accessDenied => "Permission denied (os error 13)"
  | notFolder => "Not a directory (os error 20)"
  | isFolder => "Is a directory (os error 21)"
  | nameTooLong => "File name too long (os error 36)"
  | other text => text

/-- Access to files. -/
structure FileSystem (m : Type → Type) where
  read : String → m FileContent
  /-- Writes a file; returns what went wrong, if anything did. -/
  write : (path text : String) → m (Option FileFault)

/-! ## 2. Outcomes -/

/-- How a command ended. -/
structure CommandOutcome where
  exitCode : Nat
  output : String
  /-- What went wrong, in one line. -/
  failure : Option String
  deriving Repr

namespace CommandOutcome

/-- The command did what it was asked to do. -/
def success (output : String) : CommandOutcome := ⟨0, output, none⟩

/-- The command was not understood. -/
def usage : CommandOutcome := ⟨2, "", none⟩

/-- The first line of a text, without its end: a line feed, and a carriage return before it. -/
def firstLine (text : String) : String :=
  let line := text.toList.takeWhile (· ≠ '\n')
  String.ofList (if line.getLast? = some '\r' then line.dropLast else line)

/-- The command could not be carried out. -/
def failed (message : String) : CommandOutcome := ⟨1, "", some (firstLine message)⟩

/-- The search asked for something that is not there. -/
def faulted (fault : Fault) : CommandOutcome := ⟨101, "", some fault.message⟩

/-- The environment could not be set up. -/
def aborted : CommandOutcome := ⟨101, "", none⟩

end CommandOutcome

/-! ## 3. Commands -/

namespace Command

variable {m : Type → Type} [Monad m]

/-- Name of the variable that holds the path of a settings file. -/
def settingsVariable : String := "SHUTTLE_PARAMS"

/-- Adds the assignments of environment files, of those that are there; none at all if one of them
cannot be carried out. -/
def loadEnvFiles (files : FileSystem m) (environment : Environment) :
    List String → m (Option Environment)
  | [] => return some environment
  | path :: rest => do
    match ← files.read path with
    | .text text =>
      match EnvFile.load? environment text with
      | some environment => loadEnvFiles files environment rest
      | none => return none
    | _ => loadEnvFiles files environment rest

/-- Reads and parses a file that the command needs; `kind` names it in failures. -/
def readFile {β : Type} (files : FileSystem m) (kind path : String)
    (parse : String → Except Json.ReadError β) : m (Except String β) := do
  match ← files.read path with
  | .missing => return .error s!"cannot open {kind} {path}"
  | .unreadable => return .error s!"cannot parse {kind} {path}"
  | .text text =>
    match parse text with
    | .ok value => return .ok value
    | .error _ => return .error s!"cannot parse {kind} {path}"

/-- The settings of a search: those of the settings file, if one is named, with the options of the
command put over them. -/
def override (command : InsertCommand) (settings : Settings Float) : Settings Float where
  stopDuration := command.stopDuration.getD settings.stopDuration
  strategy := command.strategy.getD settings.strategy
  workers := (command.workers.map .multi).getD settings.workers
  deadline := command.deadline <|> settings.deadline

/-- Writes a number in a table. -/
def tableNumber (x : Float) : String := Decimal.fixed 1 x

/-- The report on a snapshot that a command asks for. The search is timed by a clock that stands
still, so that the report depends on nothing but settings and snapshot. -/
def report (command : InsertCommand) (settings : Settings Float) (snapshot : Snapshot Float) :
    Except Fault String := do
  let search := Search.ofSettings snapshot.estimator.time settings
  match command.top with
  | some count =>
    let rows ← Report.listingRows tableNumber search .still snapshot.fleet count snapshot.requests
    return Text.Table.render Report.header rows
  | none =>
    if command.json then
      let results ← snapshot.requests.mapM fun request =>
        SearchResult.ofOutcome request snapshot.fleet <$>
          search.findBest .still request snapshot.fleet
      return (Json.Document.list (results.map SearchResult.document)).pretty
    else
      let rows ← Report.bestRows tableNumber search .still snapshot.fleet snapshot.requests
      return Text.Table.render Report.header rows

/-- Searches the requests of a snapshot: first the settings are read, then the snapshot. -/
def runInsert (files : FileSystem m) (environment : Environment) (command : InsertCommand) :
    m CommandOutcome := do
  let settings ← match command.settings <|> environment.lookup settingsVariable with
    | some path => readFile files "parameters" path Settings.parse
    | none => pure (.ok .standard)
  match settings with
  | .error message => return .failed message
  | .ok settings =>
    match ← readFile files "snapshot" command.snapshot SnapshotFile.parse with
    | .error message => return .failed message
    | .ok file =>
      match Snapshot.ofFile file with
      | .error error => return .failed (error.message Decimal.display)
      | .ok snapshot =>
        match report command (override command settings) snapshot with
        | .error fault => return .faulted fault
        | .ok text => return .success (text ++ "\n")

/-- The schema of snapshot files. -/
def schemaText : String := (Json.recordSchema SnapshotFile.info SnapshotFile.fields).pretty

/-- Shows the schema of snapshot files, or writes it to a file. -/
def runSchema (files : FileSystem m) (output : Option String) : m CommandOutcome := do
  match output with
  | none => return .success (schemaText ++ "\n")
  | some path =>
    match ← files.write path schemaText with
    | none => return .success ""
    | some fault => return .failed fault.message

/-- The environment files, in the order of their reading. -/
def envFiles : List String := [".env.local", ".env"]

/-- Runs the program on its arguments. Environment files are read first; neither overrides what is
set already. -/
def run (files : FileSystem m) (environment : Environment) (arguments : List String) :
    m CommandOutcome := do
  match ← loadEnvFiles files environment envFiles with
  | none => return .aborted
  | some environment =>
    match ofArguments? arguments with
    | none => return .usage
    | some (.insert command) => runInsert files environment command
    | some (.schema output) => runSchema files output

end Command

end DialARide
