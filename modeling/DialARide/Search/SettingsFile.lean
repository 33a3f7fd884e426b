import DialARide.Json.Document
import DialARide.Search.Settings
import DialARide.Snapshot.File

/-!
# The settings file

Settings may be kept in a JSON file, every field of which may be left out. The file is written with
all of its fields.
-/

namespace DialARide

open Json Content

/-- Name of a strategy in files. -/
def StrategyChoice.name : StrategyChoice → String
  | .reject => "reject_soft_constraint_violations"
  | .discourage => "discourage_soft_constraint_violations"

namespace Settings

/-! ## 1. Reading -/

/-- Shape of the strategy. -/
def strategyShape : Shape :=
  .choice <|
    .cons StrategyChoice.reject.name none .nothing <|
    .cons StrategyChoice.discourage.name none .nothing .nil

/-- Shape of the number of workers. -/
def workersShape : Shape :=
  .choice <|
    .cons "single" none .nothing <|
    .cons "auto" none .nothing <|
    .cons "multi" none (.natural .word) .nil

/-- Shape of the whole file. -/
def shape : Shape :=
  .record { name := "InsertionParams", title := "InsertionParams", lenient := true } <|
    .cons "stop_duration" none .number <|
    .cons "cost_strategy" none strategyShape <|
    .cons "threads" none workersShape <|
    .cons "deadline" none (.optional .duration) .nil

/-- Reads a strategy. -/
def strategyOf : Content → Option StrategyChoice
  | .variant name _ =>
    [StrategyChoice.reject, StrategyChoice.discourage].find? (·.name == name)
  | _ => none

/-- Reads a number of workers. -/
def workersOf : Content → Option Workers
  | .variant "single" _ => some .single
  | .variant "auto" _ => some .auto
  | .variant "multi" (.natural count) => some (.multi count)
  | _ => none

/-- Reads a duration. -/
def durationOf : Content → Option SignedDuration
  | .duration d => some d
  | _ => none

/-- A part that may be left out for a standard value. -/
def orStandard {β : Type} (read : Content → Option β) (standard : β) : Option Content → Option β
  | none => some standard
  | some value => read value

/-- Reads settings. -/
def ofContent : Content → Option (Settings Float)
  | .record [stopDuration, strategy, workers, deadline] =>
    let standard : Settings Float := .standard
    return {
      stopDuration := ← orStandard asNumber standard.stopDuration stopDuration
      strategy := ← orStandard strategyOf standard.strategy strategy
      workers := ← orStandard workersOf standard.workers workers
      deadline := ← optionally durationOf deadline }
  | _ => none

/-- Reads the text of a settings file. -/
def parse (text : String) : Except ReadError (Settings Float) := do
  match ofContent (← shape.parse text) with
  | some settings => return settings
  | none => throw .malformed

/-! ## 2. Writing -/

/-- A number of workers in a file. -/
def workersDocument : Workers → Document
  | .single => .text "single"
  | .auto => .text "auto"
  | .multi count => .object [("multi", .natural count)]

/-- Settings as a file. -/
def document (s : Settings Float) : Document :=
  .object [
    ("stop_duration", .number s.stopDuration),
    ("cost_strategy", .text s.strategy.name),
    ("threads", workersDocument s.workers),
    ("deadline", .textOrNull (s.deadline.map SignedDuration.toText))]

end Settings

end DialARide
