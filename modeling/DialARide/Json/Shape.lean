import DialARide.Duration.Text
import DialARide.Json.Reader

/-!
# Shapes of JSON values

A shape describes what a value looks like in a file: its parts, their names and which of them may
be left out. Reading (`Shape.read`) and the published description of a file format
(`DialARide.Json.Schema`) both follow the shape.
-/

namespace DialARide.Json

/-! ## 1. Shapes and what they read -/

/-- How large a natural number may be. -/
inductive Width where
  /-- 64 bits. -/
  | word
  /-- 32 bits. -/
  | half
  deriving DecidableEq, Repr

/-- Names and rules of a record. -/
structure RecordInfo where
  /-- Name in messages. -/
  name : String
  /-- Name in the description of the format. -/
  title : String
  /-- A remark in the description of the format. -/
  note : Option String := none
  /-- Whether every field may be left out. -/
  lenient : Bool := false
  deriving Repr

mutual

/-- What a value looks like. -/
inductive Shape where
  | number
  | natural (width : Width)
  | text
  | duration
  /-- Nothing but `null`. -/
  | nothing
  | list (item : Shape)
  /-- A sequence of exactly two. -/
  | pair (item : Shape)
  /-- A value that may be `null`; as a field it may be left out. -/
  | optional (item : Shape)
  | record (info : RecordInfo) (fields : Fields)
  /-- One of several variants. A variant of shape `nothing` is written by its bare name, any
  variant as a map from its name to its value. -/
  | choice (variants : Fields)

/-- Named parts. -/
inductive Fields where
  | nil
  | cons (name : String) (note : Option String) (shape : Shape) (rest : Fields)

end

/-- A value that has been read. -/
inductive Content where
  | null
  | number (value : Float)
  | natural (value : Nat)
  | text (value : String)
  | duration (value : SignedDuration)
  | list (items : List Content)
  /-- The fields of a record in the order of its shape; `none` for a field left out. -/
  | record (fields : List (Option Content))
  | variant (name : String) (value : Content)

/-! ## 2. Simple values -/

namespace Reader

/-- Reads a double. -/
def double : Reader Content := do
  return .number (← number "f64").toFloat

/-- Bound of the numbers of a width. -/
def bound : Width → Nat
  | .word => Word.bound
  | .half => Word.halfBound

/-- Name of a width in messages. -/
def widthName : Width → String
  | .word => "usize"
  | .half => "u32"

/-- Reads a natural number of a width. -/
def natural (width : Width) : Reader Content := do
  match ← number (widthName width) with
  | .integer value =>
    if 0 ≤ value ∧ value < bound width then return .natural value.toNat
    else mismatch (.invalidValue (.integer value) (widthName width))
  | .floating value => mismatch (.invalidType (.floating value) (widthName width))

/-- Reads a text. -/
def textValue : Reader Content := do
  return .text (← text "a string")

/-- Reads a duration written as a text. -/
def duration : Reader Content := do
  match SignedDuration.ofText? (← text "a signed duration string") with
  | some value => return .duration value
  | none => mismatch .notADuration

/-- Reads `null`. -/
def nothing : Reader Content := do
  match ← peek with
  | some 'n' => word "null".toList; return .null
  | some _ => wrongType "unit"
  | none => fail .truncated

/-- Reads a value that may be `null`. -/
def optional (item : Reader Content) : Reader Content := do
  match ← peek with
  | some 'n' => word "null".toList; return .null
  | _ => item

/-- Reads a sequence of exactly two. -/
def pair (item : Reader Content) : Reader Content := do
  let expected := "an array of length 2"
  match ← peek with
  | some '[' =>
    take
    unless ← nextElement true do mismatch (.invalidLength 0 expected)
    let first ← item
    unless ← nextElement false do mismatch (.invalidLength 1 expected)
    let second ← item
    close ']'
    return .list [first, second]
  | some _ => wrongType expected
  | none => fail .truncated

end Reader

/-! ## 3. Records and choices -/

/-- How a named part is read. -/
structure FieldReader where
  name : String
  /-- Whether the part may be left out. -/
  optional : Bool
  /-- Whether the part, as a variant, is written by its bare name. -/
  bare : Bool
  read : Reader Content

namespace Reader

/-- What is expected where a record stands. -/
def recordName (info : RecordInfo) : String := s!"struct {info.name}"

/-- Reads the fields of a record written as a sequence, from the field at `position` on. -/
def positional (info : RecordInfo) (count : Nat) :
    (position : Nat) → List FieldReader → Reader (List (Option Content))
  | _, [] => pure []
  | position, field :: rest => do
    if ← nextElement (position == 0) then
      let value ← field.read
      let values ← positional info count (position + 1) rest
      return some value :: values
    else if info.lenient then
      return none :: rest.map fun _ => none
    else
      let unit := if count = 1 then "element" else "elements"
      mismatch (.invalidLength position s!"{recordName info} with {count} {unit}")

/-- Reads the fields of a record written as a map into the slots of the record, in at most `fuel`
rounds. No field is read twice, so one round more than there are fields always suffices. -/
def named (fields : List FieldReader) : (fuel : Nat) → (first : Bool) →
    List (Option Content) → Reader (List (Option Content))
  | 0, _, _ => fail .malformed
  | fuel + 1, first, slots => do
    if ← nextKey first then
      let key ← string
      match fields.findIdx? (·.name == key) with
      | none => mismatch (.unknownField key (fields.map (·.name)))
      | some index =>
        if (slots[index]?.join).isSome then mismatch (.duplicateField key)
        colon
        let value ← (fields[index]?.map FieldReader.read).getD (fail .malformed)
        named fields fuel false (slots.set index (some value))
    else return slots

/-- The first field that is missing though it may not be left out. -/
def missing? (fields : List FieldReader) (slots : List (Option Content)) : Option String :=
  ((fields.zip slots).find? fun (field, slot) => slot.isNone && !field.optional).map (·.1.name)

/-- Reads a record, written as a map or as the sequence of its fields. -/
def record (info : RecordInfo) (fields : List FieldReader) : Reader Content := do
  match ← peek with
  | some '[' =>
    take
    let slots ← positional info fields.length 0 fields
    close ']'
    return .record slots
  | some '\x7b' =>
    take
    let slots ← named fields (fields.length + 1) true (fields.map fun _ => none)
    if !info.lenient then
      if let some name := missing? fields slots then mismatch (.missingField name)
    close '\x7d'
    return .record slots
  | some _ => wrongType (recordName info)
  | none => fail .truncated

/-- Finds a variant by its name. -/
def variant (variants : List FieldReader) (name : String) : Reader FieldReader :=
  match variants.find? (·.name == name) with
  | some found => return found
  | none => mismatch (.unknownVariant name (variants.map (·.name)))

/-- Reads one of several variants: the name of a bare one, or a map from the name of another to its
value. -/
def choice (variants : List FieldReader) : Reader Content := do
  match ← peek with
  | some '"' =>
    let found ← variant variants (← string)
    if found.bare then return .variant found.name .null
    else mismatch (.invalidType .bareVariant "newtype variant")
  | some '\x7b' =>
    take
    match ← peek with
    | some '"' =>
      let found ← variant variants (← string)
      colon
      let value ← found.read
      close '\x7d'
      return .variant found.name value
    | some _ => fail .malformed
    | none => fail .truncated
  | some _ => fail .malformed
  | none => fail .truncated

end Reader

/-! ## 4. Reading by shape -/

/-- Whether a part of this shape may be left out. -/
def Shape.isOptional : Shape → Bool
  | .optional _ => true
  | _ => false

/-- Whether a variant of this shape is written by its bare name. -/
def Shape.isNothing : Shape → Bool
  | .nothing => true
  | _ => false

mutual

/-- Reads a value of a shape. -/
def Shape.read : Shape → Reader Content
  | .number => Reader.double
  | .natural width => Reader.natural width
  | .text => Reader.textValue
  | .duration => Reader.duration
  | .nothing => Reader.nothing
  | .list item => Content.list <$> Reader.sequence item.read "a sequence"
  | .pair item => Reader.pair item.read
  | .optional item => Reader.optional item.read
  | .record info fields => Reader.record info fields.readers
  | .choice variants => Reader.choice variants.readers

/-- The readers of named parts. -/
def Fields.readers : Fields → List FieldReader
  | .nil => []
  | .cons name _ shape rest =>
    ⟨name, shape.isOptional, shape.isNothing, shape.read⟩ :: rest.readers

end

/-- Reads a whole text as one value of a shape. -/
def Shape.parse (shape : Shape) (text : String) : Except ReadError Content := do
  let (value, rest) ← shape.read.run text.toList
  if rest.all Reader.isBlank then return value else throw .malformed

end DialARide.Json
