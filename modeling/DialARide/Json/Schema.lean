import DialARide.Json.Document
import DialARide.Json.Shape

/-!
# Schemas

The description of a file format in the vocabulary of JSON Schema. It follows from the shape of the
file: records are described once, under their titles, and referred to wherever they occur.
Properties and definitions are listed in alphabetical order, required fields in the order of the
shape.
-/

namespace DialARide.Json

/-- Entries of a description. -/
abbrev Entries := List (String × Document)

/-- Sorts named values by name. -/
def byName {β : Type} (items : List (String × β)) : List (String × β) :=
  items.mergeSort fun a b => !decide (b.1 < a.1)

namespace Schema

/-- Allows `null` besides a described value. -/
def orNull : Entries → Entries
  | ("type", type) :: rest => ("type", .list [type, .text "null"]) :: rest
  | entries =>
    [("anyOf", .list [.object entries, .object [("type", .text "null")]])]

/-- Puts a remark in front of a description. -/
def withNote (note : Option String) (entries : Entries) : Entries :=
  match note with
  | some text => ("description", .text text) :: entries
  | none => entries

/-- A type and its number format. -/
def typed (type format : String) : Entries := [("type", .text type), ("format", .text format)]

end Schema

open Schema

mutual

/-- The description of a shape at a place where it is used. -/
def Shape.describe : Shape → Entries
  | .number => typed "number" "double"
  | .natural .word => typed "integer" "uint" ++ [("minimum", .natural 0)]
  | .natural .half => typed "integer" "uint32" ++ [("minimum", .natural 0)]
  | .text => [("type", .text "string")]
  | .duration => [("type", .text "string")]
  | .nothing => [("type", .text "null")]
  | .list item => [("type", .text "array"), ("items", .object item.describe)]
  | .pair item =>
    [("type", .text "array"), ("items", .object item.describe), ("maxItems", .natural 2),
      ("minItems", .natural 2)]
  | .optional item => orNull item.describe
  | .record info _ => [("$ref", .text ("#/$defs/" ++ info.title))]
  | .choice variants => [("enum", .list (variants.describe.map fun (name, _) => .text name))]

/-- The descriptions of named parts. -/
def Fields.describe : Fields → List (String × Document)
  | .nil => []
  | .cons name note shape rest =>
    (name, .object (withNote note shape.describe)) :: rest.describe

end

/-- Names of the parts that may not be left out. -/
def Fields.required : Fields → List String
  | .nil => []
  | .cons name _ shape rest => if shape.isOptional then rest.required else name :: rest.required

/-- The description of a record where it is defined. -/
def recordEntries (info : RecordInfo) (fields : Fields) : Entries :=
  let required := fields.required
  withNote info.note
    ([("type", .text "object"), ("properties", .object (byName fields.describe)),
        ("additionalProperties", .boolean false)]
      ++ if required.isEmpty then [] else [("required", .list (required.map .text))])

mutual

/-- The records within a shape, with their titles. -/
def Shape.definitions : Shape → List (String × Document)
  | .number => []
  | .natural _ => []
  | .text => []
  | .duration => []
  | .nothing => []
  | .list item => item.definitions
  | .pair item => item.definitions
  | .optional item => item.definitions
  | .record info fields => (info.title, .object (recordEntries info fields)) :: fields.definitions
  | .choice variants => variants.definitions

/-- The records within named parts. -/
def Fields.definitions : Fields → List (String × Document)
  | .nil => []
  | .cons _ _ shape rest => shape.definitions ++ rest.definitions

end

/-- The schema of a file that holds one record. -/
def recordSchema (info : RecordInfo) (fields : Fields) : Document :=
  .object (
    [("$schema", .text "https://json-schema.org/draft/2020-12/schema"), ("title", .text info.title)]
      ++ recordEntries info fields
      ++ [("$defs", .object (byName fields.definitions))])

end DialARide.Json
