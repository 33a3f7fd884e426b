import DialARide.Decimal.Text
import DialARide.Text.Quoted

/-!
# Writing JSON

A document is a value to be written: on one line without blanks (`Document.compact`), or with each
element on a line of its own, indented by two blanks a level (`Document.pretty`). The fields of an
object are written in the order in which they are given. A number that is not finite has no form in
JSON and is written as `null`.
-/

namespace DialARide.Json

/-- A value to be written. -/
inductive Document where
  | null
  | boolean (value : Bool)
  | number (value : Float)
  | natural (value : Nat)
  | text (value : String)
  | list (items : List Document)
  | object (fields : List (String × Document))

namespace Document

/-- A text, or `null` when there is none. -/
def textOrNull : Option String → Document
  | some value => .text value
  | none => .null

/-- A natural number, or `null` when there is none. -/
def naturalOrNull : Option Nat → Document
  | some value => .natural value
  | none => .null

/-- A number, or `null` when there is none. -/
def numberOrNull : Option Float → Document
  | some value => .number value
  | none => .null

/-- A value that has no parts. -/
def scalar : Document → String
  | null => "null"
  | boolean value => toString value
  | number value => (Decimal.data? value).getD "null"
  | natural value => toString value
  | text value => Text.json value
  | list _ => "[]"
  | object _ => "\x7b\x7d"

mutual

/-- The document on one line. -/
def compact : Document → String
  | list items => "[" ++ ",".intercalate (compactItems items) ++ "]"
  | object fields => "\x7b" ++ ",".intercalate (compactFields fields) ++ "\x7d"
  | document => scalar document

/-- The elements of a list, each on one line. -/
def compactItems : List Document → List String
  | [] => []
  | item :: rest => compact item :: compactItems rest

/-- The fields of an object, each on one line. -/
def compactFields : List (String × Document) → List String
  | [] => []
  | (name, value) :: rest => (Text.json name ++ ":" ++ compact value) :: compactFields rest

end

/-- Puts lines between two marks, one line each, at an indentation. -/
def block (opening closing : String) (indent : Nat) (lines : List String) : String :=
  match lines with
  | [] => opening ++ closing
  | _ =>
    let margin := "\n" ++ "".pushn ' ' (indent + 2)
    opening ++ ",".intercalate (lines.map (margin ++ ·)) ++ "\n" ++ "".pushn ' ' indent ++ closing

mutual

/-- The document over several lines, at an indentation. -/
def prettyAt (indent : Nat) : Document → String
  | list items => block "[" "]" indent (prettyItems (indent + 2) items)
  | object fields => block "\x7b" "\x7d" indent (prettyFields (indent + 2) fields)
  | document => scalar document

/-- The elements of a list at an indentation. -/
def prettyItems (indent : Nat) : List Document → List String
  | [] => []
  | item :: rest => prettyAt indent item :: prettyItems indent rest

/-- The fields of an object at an indentation. -/
def prettyFields (indent : Nat) : List (String × Document) → List String
  | [] => []
  | (name, value) :: rest =>
    (Text.json name ++ ": " ++ prettyAt indent value) :: prettyFields indent rest

end

/-- The document over several lines. -/
def pretty (document : Document) : String := document.prettyAt 0

end Document

end DialARide.Json
