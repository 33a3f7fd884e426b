import DialARide.Json.Number

/-!
# Reading JSON from left to right

A reader takes what it needs from the front of a text and leaves the rest. Readers for the parts
that all values share stand here: blanks, words, strings, the separators of sequences and maps, and
the message for a value of the wrong shape.
-/

namespace DialARide.Json

/-- Reads a value from the front of a text. -/
abbrev Reader (β : Type) := StateT (List Char) (Except ReadError) β

namespace Reader

/-! ## 1. Blanks and single characters -/

/-- The characters that may stand between the parts of a text. -/
def isBlank (c : Char) : Bool := c = ' ' || c = '\n' || c = '\t' || c = '\r'

/-- Skips blanks and shows the next character, without taking it. -/
def peek : Reader (Option Char) := fun text =>
  let rest := text.dropWhile isBlank
  .ok (rest.head?, rest)

/-- Takes one character. -/
def take : Reader Unit := fun text => .ok ((), text.drop 1)

/-- A problem with the text. -/
def fail {β : Type} (error : ReadError) : Reader β := fun _ => .error error

/-- A value of the wrong shape. -/
def mismatch {β : Type} (cause : Mismatch) : Reader β := fail (.mismatch cause)

/-- Takes the characters of a word, which has to follow at once. -/
def word : List Char → Reader Unit
  | [] => pure ()
  | c :: rest => fun text =>
    match text with
    | [] => .error .truncated
    | d :: text => if c = d then word rest text else .error .malformed

/-! ## 2. Strings -/

/-- Value of a digit of base sixteen. -/
def hexValue? (c : Char) : Option Nat :=
  if c.isDigit then some (c.toNat - 48)
  else if 'a' ≤ c ∧ c ≤ 'f' then some (c.toNat - 87)
  else if 'A' ≤ c ∧ c ≤ 'F' then some (c.toNat - 55)
  else none

/-- Takes four digits of base sixteen. A text of fewer than four bytes has been cut off. -/
def hexQuad (text : List Char) : Except ReadError (Nat × List Char) :=
  match (text.take 4).mapM hexValue? with
  | some [a, b, c, d] => .ok (((a * 16 + b) * 16 + c) * 16 + d, text.drop 4)
  | _ =>
    let size := (text.take 4).foldl (fun n c => n + c.utf8Size) 0
    .error (if size < 4 then .truncated else .malformed)

/-- Whether a 16-bit unit is the first half of a pair. -/
def isLeading (unit : Nat) : Bool := 0xD800 ≤ unit && unit < 0xDC00

/-- Whether a 16-bit unit is the second half of a pair. -/
def isTrailing (unit : Nat) : Bool := 0xDC00 ≤ unit && unit < 0xE000

/-- Takes the second half of a pair of 16-bit units, which is escaped as the first half was. -/
def trailingHalf : List Char → Except ReadError (Nat × List Char)
  | [] => .error .truncated
  | '\\' :: [] => .error .truncated
  | '\\' :: 'u' :: rest =>
    match hexQuad rest with
    | .error error => .error error
    | .ok (unit, rest) => if isTrailing unit then .ok (unit, rest) else .error .malformed
  | _ => .error .malformed

/-- The character of a 16-bit unit, or of a pair of them. -/
def ofUnit (unit : Nat) (text : List Char) : Except ReadError (Char × List Char) :=
  if isTrailing unit then .error .malformed
  else if isLeading unit then
    match trailingHalf text with
    | .error error => .error error
    | .ok (second, rest) =>
      .ok (Char.ofNat (0x10000 + (unit - 0xD800) * 0x400 + (second - 0xDC00)), rest)
  else .ok (Char.ofNat unit, text)

/-- What a letter after the escape mark stands for. -/
def escapeOf? (c : Char) : Option Char :=
  match c with
  | '"' => some '"'
  | '\\' => some '\\'
  | '/' => some '/'
  | 'b' => some '\x08'
  | 'f' => some '\x0c'
  | 'n' => some '\n'
  | 'r' => some '\r'
  | 't' => some '\t'
  | _ => none

/-- Reads the character that an escape stands for, the escape mark having been taken. -/
def escaped : List Char → Except ReadError (Char × List Char)
  | [] => .error .truncated
  | c :: rest =>
    if c = 'u' then
      match hexQuad rest with
      | .error error => .error error
      | .ok (unit, rest) => ofUnit unit rest
    else match escapeOf? c with
      | some d => .ok (d, rest)
      | none => .error .malformed

/-- Taking four digits never lengthens the text. -/
theorem length_of_hexQuad {text rest : List Char} {unit : Nat}
    (h : hexQuad text = .ok (unit, rest)) : rest.length ≤ text.length := by
  unfold hexQuad at h
  split at h
  · obtain ⟨-, rfl⟩ := Prod.mk.inj (Except.ok.inj h)
    simp
  · simp at h

/-- Taking the second half of a pair never lengthens the text. -/
theorem length_of_trailingHalf {text rest : List Char} {unit : Nat}
    (h : trailingHalf text = .ok (unit, rest)) : rest.length ≤ text.length := by
  unfold trailingHalf at h
  split at h
  · simp at h
  · simp at h
  · split at h
    · simp at h
    · rename_i after hq
      have := length_of_hexQuad hq
      split at h
      · obtain ⟨-, rfl⟩ := Prod.mk.inj (Except.ok.inj h)
        simp only [List.length_cons]
        omega
      · simp at h
  · simp at h

/-- Completing a unit to a character never lengthens the text. -/
theorem length_of_ofUnit {unit : Nat} {text rest : List Char} {c : Char}
    (h : ofUnit unit text = .ok (c, rest)) : rest.length ≤ text.length := by
  unfold ofUnit at h
  split at h
  · simp at h
  · split at h
    · split at h
      · simp at h
      · rename_i hp
        obtain ⟨-, rfl⟩ := Prod.mk.inj (Except.ok.inj h)
        exact length_of_trailingHalf hp
    · obtain ⟨-, rfl⟩ := Prod.mk.inj (Except.ok.inj h)
      exact Nat.le_refl _

/-- Reading an escape takes at least one character. -/
theorem length_of_escaped {text rest : List Char} {c : Char}
    (h : escaped text = .ok (c, rest)) : rest.length < text.length := by
  cases text with
  | nil => simp [escaped] at h
  | cons d text =>
    simp only [escaped] at h
    split at h
    · split at h
      · simp at h
      · rename_i hq
        have := length_of_hexQuad hq
        have := length_of_ofUnit h
        simp only [List.length_cons]
        omega
    · split at h
      · obtain ⟨-, rfl⟩ := Prod.mk.inj (Except.ok.inj h)
        simp
      · simp at h

/-- Reads characters up to the closing mark of a string. -/
def stringBody (taken text : List Char) : Except ReadError (String × List Char) :=
  match text with
  | [] => .error .truncated
  | c :: rest =>
    if c = '"' then .ok (String.ofList taken.reverse, rest)
    else if c = '\\' then
      match _h : escaped rest with
      | .error error => .error error
      | .ok (d, after) => stringBody (d :: taken) after
    else if c.toNat < 32 then .error .malformed
    else stringBody (c :: taken) rest
termination_by text.length
decreasing_by
  · have := length_of_escaped ‹_›
    simp only [List.length_cons]
    omega
  · simp

/-- Reads a string whose opening mark is next. -/
def string : Reader String := fun text => stringBody [] (text.drop 1)

/-! ## 3. Values of the wrong shape -/

/-- Reads as much of a value as its message shows, and reports that something else was expected. -/
def wrongType {β : Type} (expected : String) : Reader β := do
  match ← peek with
  | some 'n' => word "null".toList; mismatch (.invalidType .null expected)
  | some 't' => word "true".toList; mismatch (.invalidType (.boolean true) expected)
  | some 'f' => word "false".toList; mismatch (.invalidType (.boolean false) expected)
  | some '"' =>
    let text ← string
    mismatch (.invalidType (.text text) expected)
  | some '[' => mismatch (.invalidType .sequence expected)
  | some '\x7b' => mismatch (.invalidType .map expected)
  | some c =>
    if c = '-' ∨ c.isDigit then
      let number ← (Number.read : Reader Number)
      mismatch (.invalidType number.found expected)
    else fail .malformed
  | none => fail .truncated

/-- Reads a number where one is expected. -/
def number (expected : String) : Reader Number := do
  match ← peek with
  | some c => if c = '-' ∨ c.isDigit then (Number.read : Reader Number) else wrongType expected
  | none => fail .truncated

/-- Reads a string where one is expected. -/
def text (expected : String) : Reader String := do
  match ← peek with
  | some '"' => string
  | some _ => wrongType expected
  | none => fail .truncated

/-! ## 4. Sequences and maps -/

/-- Whether another element follows in a sequence; takes the comma before it. -/
def nextElement (first : Bool) : Reader Bool := do
  match ← peek with
  | some ']' => return false
  | some ',' =>
    if first then return true
    else
      take
      match ← peek with
      | some ']' => fail .malformed
      | some _ => return true
      | none => fail .truncated
  | some _ => if first then return true else fail .malformed
  | none => fail .truncated

/-- Takes the end of a sequence or map. -/
def close (mark : Char) : Reader Unit := do
  match ← peek with
  | some c => if c = mark then take else fail .malformed
  | none => fail .truncated

/-- Whether another key follows in a map; takes the comma before it. -/
def nextKey (first : Bool) : Reader Bool := do
  match ← peek with
  | some '\x7d' => return false
  | some ',' =>
    if first then fail .malformed
    else
      take
      match ← peek with
      | some '"' => return true
      | some _ => fail .malformed
      | none => fail .truncated
  | some c => if first ∧ c = '"' then return true else fail .malformed
  | none => fail .truncated

/-- Takes the colon between a key and its value. -/
def colon : Reader Unit := do
  match ← peek with
  | some ':' => take
  | some _ => fail .malformed
  | none => fail .truncated

/-- Reads the elements of a sequence up to its end, at most `fuel` of them. -/
def elements {β : Type} (element : Reader β) : (fuel : Nat) → (first : Bool) → Reader (List β)
  | 0, _ => fail .malformed
  | fuel + 1, first => do
    if ← nextElement first then
      let value ← element
      let rest ← elements element fuel false
      return value :: rest
    else return []

/-- Reads a sequence of any length. -/
def sequence {β : Type} (element : Reader β) (expected : String) : Reader (List β) := do
  match ← peek with
  | some '[' =>
    take
    let values ← elements element ((← get).length + 1) true
    close ']'
    return values
  | some _ => wrongType expected
  | none => fail .truncated

end Reader

end DialARide.Json
