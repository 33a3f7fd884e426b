import DialARide.Decimal.Numeral
import DialARide.Duration.Text
import DialARide.Search.Settings

/-!
# Arguments

The program has two commands. `insert` searches the requests of a snapshot, `schema` shows the
description of snapshot files. An option is given at most once, by its long name (`--top 3`,
`--top=3`) or its letter (`-s file`, `-sfile`, `-s=file`); letters without values may be joined.
Arguments that are not understood make no command.
-/

namespace DialARide

/-- An option of a command. -/
structure OptionSpec where
  name : String
  letter : Option Char := none
  takesValue : Bool := true
  deriving Repr

/-- Options given, by name; those without a value have an empty one. -/
abbrev GivenOptions := List (String × String)

namespace Arguments

/-! ## 1. Options -/

/-- Adds an option that has not been given yet. -/
def add? (given : GivenOptions) (name value : String) : Option GivenOptions :=
  if (given.lookup name).isSome then none else some (given ++ [(name, value)])

/-- Whether an argument looks like an option; a single dash does not. -/
def isOption (argument : String) : Bool :=
  match argument.toList with
  | '-' :: _ :: _ => true
  | _ => false

/-- Options read from one argument: all of them, or all but the value of the last one. -/
inductive Read where
  | complete (given : GivenOptions)
  | awaiting (name : String) (given : GivenOptions)

/-- Reads joined letters. What follows a letter that takes a value is the value. -/
def readLetters (specs : List OptionSpec) (given : GivenOptions) : List Char → Option Read
  | [] => some (.complete given)
  | c :: rest => do
    let spec ← specs.find? (·.letter == some c)
    if spec.takesValue then
      match rest with
      | [] => return .awaiting spec.name given
      | '=' :: value => return .complete (← add? given spec.name (String.ofList value))
      | value => return .complete (← add? given spec.name (String.ofList value))
    else readLetters specs (← add? given spec.name "") rest

/-- Reads an option by its long name. -/
def readLong (specs : List OptionSpec) (given : GivenOptions) (text : List Char) : Option Read := do
  let name := String.ofList (text.takeWhile (· ≠ '='))
  let value := text.dropWhile (· ≠ '=')
  let spec ← specs.find? (·.name == name)
  match spec.takesValue, value with
  | true, [] => return .awaiting spec.name given
  | true, _ :: value => return .complete (← add? given spec.name (String.ofList value))
  | false, [] => return .complete (← add? given spec.name "")
  | false, _ => none

/-- Reads one argument as options. -/
def readOption (specs : List OptionSpec) (given : GivenOptions) (argument : String) : Option Read :=
  match argument.toList with
  | '-' :: '-' :: text => if text.isEmpty then none else readLong specs given text
  | '-' :: letters => if letters.isEmpty then none else readLetters specs given letters
  | _ => none

/-- Reads the options of a command. A double dash ends them, and nothing may follow it. -/
def readOptions (specs : List OptionSpec) (given : GivenOptions) :
    List String → Option GivenOptions
  | [] => some given
  | "--" :: rest => if rest.isEmpty then some given else none
  | argument :: rest =>
    match readOption specs given argument with
    | none => none
    | some (.complete given) => readOptions specs given rest
    | some (.awaiting name given) =>
      match rest with
      | [] => none
      | value :: rest =>
        if isOption value then none
        else match add? given name value with
          | none => none
          | some given => readOptions specs given rest

end Arguments

/-! ## 2. Commands -/

/-- What is asked of `insert`. -/
structure InsertCommand where
  snapshot : String
  settings : Option String
  workers : Option Nat
  stopDuration : Option Float
  deadline : Option SignedDuration
  strategy : Option StrategyChoice
  /-- Lists so many insertions of each request. -/
  top : Option Nat
  /-- Reports in JSON. -/
  json : Bool

/-- What the program is asked to do. -/
inductive Command where
  | insert (command : InsertCommand)
  /-- Shows the schema of snapshot files, or writes it to a file. -/
  | schema (output : Option String)

namespace Command

open Arguments

/-- Options in front of a command. -/
def commonOptions : List OptionSpec := [{ name := "debug", letter := 'd', takesValue := false }]

/-- Options of `insert`. -/
def insertOptions : List OptionSpec :=
  [{ name := "snapshot", letter := 's' }, { name := "params", letter := 'p' },
    { name := "threads", letter := 't' }, { name := "stop-duration" }, { name := "deadline" },
    { name := "cost-strategy" }, { name := "top" }, { name := "json", takesValue := false }]

/-- Options of `schema`. -/
def schemaOptions : List OptionSpec := [{ name := "output", letter := 'o' }]

/-- Value of an option that may be absent; none at all if it is there and cannot be read. -/
def optionValue {β : Type} (given : GivenOptions) (name : String) (read : String → Option β) :
    Option (Option β) :=
  match given.lookup name with
  | none => some none
  | some value => (read value).map some

/-- A path, which is not empty. -/
def path? (text : String) : Option String := if text.isEmpty then none else some text

/-- A strategy by its short name. -/
def strategy? (text : String) : Option StrategyChoice :=
  if text = "reject" then some .reject
  else if text = "discourage" then some .discourage
  else none

/-- Reads the options of `insert`. A listing is not reported in JSON. -/
def insert? (arguments : List String) : Option InsertCommand := do
  let given ← readOptions insertOptions [] arguments
  let top ← optionValue given "top" (Decimal.natural? Word.bound)
  let json := (given.lookup "json").isSome
  if top.isSome ∧ json then none
  return {
    snapshot := ← path? (← given.lookup "snapshot")
    settings := ← optionValue given "params" path?
    workers := ← optionValue given "threads" (Decimal.natural? Word.bound)
    stopDuration := ← optionValue given "stop-duration" Decimal.numeral?
    deadline := ← optionValue given "deadline" SignedDuration.ofArgument?
    strategy := ← optionValue given "cost-strategy" strategy?
    top
    json }

/-- Reads a command by its name. -/
def named? (name : String) (arguments : List String) : Option Command :=
  if name = "insert" ∨ name = "i" then (insert? arguments).map .insert
  else if name = "schema" then do
    let given ← readOptions schemaOptions [] arguments
    return .schema (← optionValue given "output" path?)
  else none

/-- Reads the arguments of the program: common options, the name of a command, and what belongs to
the command. -/
def ofArguments? (arguments : List String) : Option Command := do
  let front := arguments.takeWhile isOption
  let _ ← readOptions commonOptions [] front
  match arguments.drop front.length with
  | [] => none
  | name :: rest => if front.contains "--" then none else named? name rest

end Command

end DialARide
