import DialARide.Decimal.Text
import DialARide.Text.Quoted

/-!
# What can be wrong with a JSON text

A text is malformed, or it ends too early, or it is well formed but not of the expected shape. Only
the last kind of problem has a message of its own. Texts are read from left to right, and the first
problem met is the one reported.
-/

namespace DialARide.Json

/-- A value found where another shape was expected. -/
inductive Found where
  | null
  | boolean (value : Bool)
  | integer (value : Int)
  | floating (value : Float)
  | text (value : String)
  | sequence
  | map
  /-- A bare variant name, of a variant that carries a value. -/
  | bareVariant
  deriving Repr

/-- How a found value is named in a message. -/
def Found.describe : Found → String
  | .null => "null"
  | .boolean value => s!"boolean `{value}`"
  | .integer value => s!"integer `{value}`"
  | .floating value => "floating point `" ++ (Decimal.data? value).getD "null" ++ "`"
  | .text value => "string " ++ Text.shown value
  | .sequence => "sequence"
  | .map => "map"
  | .bareVariant => "unit variant"

/-- A value that is not of the expected shape. -/
inductive Mismatch where
  | invalidType (found : Found) (expected : String)
  | invalidValue (found : Found) (expected : String)
  | invalidLength (length : Nat) (expected : String)
  | missingField (name : String)
  | duplicateField (name : String)
  | unknownField (name : String) (known : List String)
  | unknownVariant (name : String) (known : List String)
  /-- A text that was expected to be a duration. -/
  | notADuration
  deriving Repr

/-- Lists the names that would have been right. -/
def oneOf (names : List String) : String :=
  let marked := names.map fun name => s!"`{name}`"
  match marked with
  | [] => "nothing"
  | [a] => a
  | [a, b] => s!"{a} or {b}"
  | _ => "one of " ++ ", ".intercalate marked

/-- The message of a mismatch, where it has one. -/
def Mismatch.message? : Mismatch → Option String
  | .invalidType found expected => some s!"invalid type: {found.describe}, expected {expected}"
  | .invalidValue found expected => some s!"invalid value: {found.describe}, expected {expected}"
  | .invalidLength length expected => some s!"invalid length {length}, expected {expected}"
  | .missingField name => some s!"missing field `{name}`"
  | .duplicateField name => some s!"duplicate field `{name}`"
  | .unknownField name known => some s!"unknown field `{name}`, expected {oneOf known}"
  | .unknownVariant name known => some s!"unknown variant `{name}`, expected {oneOf known}"
  | .notADuration => none

/-- Why a text cannot be read. -/
inductive ReadError where
  | malformed
  | truncated
  | mismatch (cause : Mismatch)
  deriving Repr

end DialARide.Json
