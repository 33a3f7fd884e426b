import DialARide.Text.Alphanumeric

/-!
# Environment files

An environment file sets variables, one assignment a line: a name, an equals sign and a value. A
value may be quoted, and then go over several lines; it may refer to other variables. A file is read
up to its first faulty line, and what stands before that line counts.
-/

namespace DialARide

/-- Variables with their values; of several entries for a name the first counts. -/
abbrev Environment := List (String × String)

namespace EnvFile

/-! ## 1. Lines

A quoted value may contain line ends, so lines are told apart by following the marks of quotation
through the text. -/

/-- Where a place in the text stands with respect to quotation. -/
inductive Place where
  | plain
  /-- After a blank, where a comment may begin. -/
  | blank
  | escape
  | single
  | singleEscape
  | double
  | doubleEscape
  deriving DecidableEq, Repr

/-- Characters that count as blank. -/
def isBlank (c : Char) : Bool :=
  c = ' ' || (9 ≤ c.toNat && c.toNat ≤ 13) || c.toNat = 0x85 || c.toNat = 0xA0 || c.toNat = 0x1680
    || (0x2000 ≤ c.toNat && c.toNat ≤ 0x200A) || c.toNat = 0x2028 || c.toNat = 0x2029
    || c.toNat = 0x202F || c.toNat = 0x205F || c.toNat = 0x3000

/-- The place after a character of an unquoted part. -/
def afterMark (c : Char) : Option Place :=
  if c = '\\' then some .escape
  else if c = '"' then some .double
  else if c = '\'' then some .single
  else none

/-- The place after a character. -/
def Place.next (c : Char) : Place → Place
  | plain =>
    (afterMark c).getD (if isBlank c && c ≠ '\n' && c ≠ '\r' then blank else plain)
  | blank => (afterMark c).getD plain
  | escape => plain
  | single => if c = '\\' then singleEscape else if c = '\'' then plain else single
  | singleEscape => single
  | double => if c = '\\' then doubleEscape else if c = '"' then plain else double
  | doubleEscape => double

/-- Follows the places through a piece of text; stops before a comment and says what stands before
it. -/
def follow (place : Place) (taken : List Char) : List Char → Place × Option (List Char)
  | [] => (place, none)
  | c :: rest =>
    if place = .blank ∧ c = '#' then (place, some taken.reverse)
    else follow (place.next c) (c :: taken) rest

/-- A line of a file. -/
inductive Line where
  | complete (text : List Char)
  /-- The file ends within a quotation. -/
  | unclosed

/-- Pieces of a text, each with the line end that closes it. -/
def pieces : (piece : List Char) → List Char → List (List Char)
  | [], [] => []
  | piece, [] => [piece.reverse]
  | piece, c :: rest =>
    if c = '\n' then (c :: piece).reverse :: pieces [] rest else pieces (c :: piece) rest

/-- A line without its line end. -/
def withoutEnd (line : List Char) : List Char :=
  match line.reverse with
  | '\n' :: '\r' :: rest => rest.reverse
  | '\n' :: rest => rest.reverse
  | _ => line

/-- Joins pieces to lines, when `pending` has been read of a line already. -/
def lines : (pending : List Char) → Place → List (List Char) → List Line
  | _, place, [] => if place = .plain then [] else [.unclosed]
  | pending, place, piece :: rest =>
    let text := pending ++ piece
    if (text.dropWhile isBlank).head? = some '#' then .complete [] :: lines [] .plain rest
    else match follow place [] piece with
      | (_, some before) => .complete (pending ++ before) :: lines [] .plain rest
      | (.plain, none) => .complete (withoutEnd text) :: lines [] .plain rest
      | (next, none) => lines text next rest

/-! ## 2. Values -/

/-- What is being read of a value. -/
inductive Mode where
  | plain
  | escaped (weak : Bool)
  | single
  | double
  /-- The name of a variable, after a dollar sign; `weak` within double quotation marks. -/
  | variable (name : List Char) (weak : Bool)
  /-- The name of a variable in braces. -/
  | braced (name : List Char) (weak : Bool)
  /-- After the value, where only blanks and a comment may follow. -/
  | ended
  deriving Repr

/-- Value of a variable whose name has been read in reverse; empty if it is not set. -/
def expand (environment : Environment) (name : List Char) : List Char :=
  ((environment.lookup (String.ofList name.reverse)).getD "").toList

/-- The mode outside of the name of a variable. -/
def outside (weak : Bool) : Mode := if weak then .double else .plain

/-- Reads a value; `taken` is what it comes to so far, in reverse. -/
def value (environment : Environment) : Mode → (taken : List Char) → List Char → Option String
  | mode, taken, [] =>
    match mode with
    | .single => none
    | .double => none
    | .braced _ _ => none
    | .variable _ true => none
    | .escaped true => none
    | .variable name false => some (String.ofList (taken.reverse ++ expand environment name))
    | _ => some (String.ofList taken.reverse)
  | mode, taken, c :: rest =>
    match mode with
    | .ended =>
      if c = ' ' ∨ c = '\t' then value environment .ended taken rest
      else if c = '#' then some (String.ofList taken.reverse)
      else none
    | .escaped weak =>
      if c = '\\' ∨ c = '\'' ∨ c = '"' ∨ c = '$' ∨ c = ' ' then
        value environment (outside weak) (c :: taken) rest
      else if c = 'n' then value environment (outside weak) ('\n' :: taken) rest
      else none
    | .single =>
      if c = '\'' then value environment .plain taken rest
      else value environment .single (c :: taken) rest
    | .variable name weak =>
      if Text.isAlphanumeric c then value environment (.variable (c :: name) weak) taken rest
      else if c = '\x7b' ∧ name.isEmpty then value environment (.braced [] weak) taken rest
      else
        let taken := (expand environment name).reverse ++ taken
        if c = '$' then value environment (.variable [] weak) taken rest
        else value environment (outside weak) (c :: taken) rest
    | .braced name weak =>
      if c = '\x7d' then
        value environment (outside weak) ((expand environment name).reverse ++ taken) rest
      else value environment (.braced (c :: name) weak) taken rest
    | .double =>
      if c = '$' then value environment (.variable [] true) taken rest
      else if c = '"' then value environment .plain taken rest
      else if c = '\\' then value environment (.escaped true) taken rest
      else value environment .double (c :: taken) rest
    | .plain =>
      if c = '$' then value environment (.variable [] false) taken rest
      else if c = '\'' then value environment .single taken rest
      else if c = '"' then value environment .double taken rest
      else if c = '\\' then value environment (.escaped false) taken rest
      else if c = ' ' ∨ c = '\t' then value environment .ended taken rest
      else value environment .plain (c :: taken) rest

/-! ## 3. Assignments -/

/-- Takes a name from the front of a line. -/
def takeName? (text : List Char) : Option (String × List Char) :=
  match text with
  | [] => none
  | c :: _ =>
    if c.isAlpha ∨ c = '_' then
      let inName (c : Char) : Bool := c.isAlphanum || c = '_' || c = '.'
      some (String.ofList (text.takeWhile inName), (text.dropWhile inName).dropWhile isBlank)
    else none

/-- Takes an equals sign from the front of a line. -/
def takeEquals? : List Char → Option (List Char)
  | '=' :: rest => some (rest.dropWhile isBlank)
  | _ => none

/-- Takes the name that a line assigns to, and the equals sign. A line may begin with `export`. -/
def takeTarget? (text : List Char) : Option (String × List Char) := do
  let (name, rest) ← takeName? text
  match takeEquals? rest with
  | some rest => return (name, rest)
  | none =>
    if name = "export" then
      let (name, rest) ← takeName? rest
      return (name, ← takeEquals? rest)
    else none

/-- What a line says: nothing, or an assignment; `none` when it is faulty. -/
def assignment? (environment : Environment) (line : List Char) :
    Option (Option (String × String)) :=
  let text := ((line.reverse.dropWhile isBlank).reverse).dropWhile isBlank
  match text with
  | [] => some none
  | '#' :: _ => some none
  | _ => do
    let (name, rest) ← takeTarget? text
    match rest with
    | [] => return some (name, "")
    | '#' :: _ => return some (name, "")
    | _ => return some (name, ← value environment .plain [] rest)

/-- Carries out lines up to the first faulty one. `own` holds what this file has assigned, the
latest first; a variable that is set already keeps its value. No variable can be set to a value with
the character NUL, so there is no environment after that. -/
def carryOut? (environment own : Environment) : List Line → Option Environment
  | [] => some environment
  | .unclosed :: _ => some environment
  | .complete text :: rest =>
    match assignment? (environment ++ own) text with
    | none => some environment
    | some none => carryOut? environment own rest
    | some (some (name, value)) =>
      let own := (name, value) :: own
      if (environment.lookup name).isSome then carryOut? environment own rest
      else if value.contains '\x00' then none
      else carryOut? (environment ++ [(name, value)]) own rest

/-- Adds the assignments of a file to an environment, if they can be carried out. A byte order mark
in front of the file is skipped. -/
def load? (environment : Environment) (text : String) : Option Environment :=
  let characters := match text.toList with
    | '\ufeff' :: rest => rest
    | all => all
  carryOut? environment [] (lines [] .plain (pieces [] characters))

end EnvFile

end DialARide
