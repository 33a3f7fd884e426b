import DialARide.Decimal.Digit
import DialARide.Json.Error
import DialARide.Word

/-!
# JSON numbers

A number without fraction and exponent is an integer as long as its digits fit an unsigned 64-bit
word, or a signed one behind a minus sign; minus zero is no integer. Every other number is floating.

Floating numbers are read from the leading digits that fit 64 bits, whose count of units is then
multiplied or divided by one power of ten. Further digits only move the point. A number beyond the
range of doubles is malformed.
-/

namespace DialARide.Json

/-- A number as it was written. -/
inductive Number where
  | integer (value : Int)
  | floating (value : Float)
  deriving Repr

namespace Number

/-- Largest count of units that is kept. -/
def unitLimit : Nat := Word.bound - 1

/-- Appends digits to a count of units as long as it stays within the limit; returns how many were
appended. -/
def absorb (units used : Nat) : List Char → Nat × Nat
  | [] => (units, used)
  | c :: rest =>
    let next := units * 10 + Decimal.digitValue c
    if next ≤ unitLimit then absorb next (used + 1) rest else (units, used)

/-- A power of ten within the range of doubles. -/
def powerOfTen (exponent : Nat) : Float := Float.ofScientific 1 false exponent

/-- Scales a magnitude by a power of ten. Numbers too small for the range of powers are brought
nearer in steps; a few steps bring every count of units to zero. -/
def scale (x : Float) (exponent : Int) : Except ReadError Float :=
  if exponent.natAbs ≤ 308 then
    if 0 ≤ exponent then
      let scaled := x * powerOfTen exponent.natAbs
      if scaled.isInf then .error .malformed else .ok scaled
    else .ok (x / powerOfTen exponent.natAbs)
  else if x == 0.0 then .ok x
  else if 0 ≤ exponent then .error .malformed
  else scale (x / powerOfTen 308) (exponent + 308)
termination_by exponent.natAbs
decreasing_by omega

/-- The floating number of a count of units of a power of ten. -/
def ofUnits (negative : Bool) (units : Nat) (exponent : Int) : Except ReadError Float := do
  let x ← scale (Float.ofNat units) exponent
  return if negative then -x else x

/-- Largest exponent that can be written out; beyond it a number is zero or out of range. -/
def exponentLimit : Nat := Word.signedHalfBound - 1

/-- Reads what follows the exponent mark. -/
def readExponent (negative : Bool) (units : Nat) (exponent : Int) (text : List Char) :
    Except ReadError (Number × List Char) := do
  let (downward, text) := match text with
    | '+' :: rest => (false, rest)
    | '-' :: rest => (true, rest)
    | _ => (false, text)
  let digits := text.takeWhile Char.isDigit
  let rest := text.dropWhile Char.isDigit
  if digits.isEmpty then
    throw (if text.isEmpty then .truncated else .malformed)
  let written := Decimal.ofDigits digits
  if exponentLimit < written then
    if units ≠ 0 ∧ !downward then throw .malformed
    return (.floating (if negative then -0.0 else 0.0), rest)
  let exponent := if downward then exponent - written else exponent + written
  return (.floating (← ofUnits negative units exponent), rest)

/-- Whether a text continues with an exponent. -/
def atExponent : List Char → Option (List Char)
  | 'e' :: rest => some rest
  | 'E' :: rest => some rest
  | _ => none

/-- Reads the digits after the point, and an exponent after them. -/
def readFraction (negative : Bool) (units : Nat) (exponent : Int) (text : List Char) :
    Except ReadError (Number × List Char) := do
  let digits := text.takeWhile Char.isDigit
  let rest := text.dropWhile Char.isDigit
  if digits.isEmpty then
    throw (if text.isEmpty then .truncated else .malformed)
  let (units, used) := absorb units 0 digits
  let exponent := exponent - used
  match atExponent rest with
  | some rest => readExponent negative units exponent rest
  | none => return (.floating (← ofUnits negative units exponent), rest)

/-- The integer of a sign and a count of units, or its nearest double where it is none. -/
def ofInteger (negative : Bool) (units : Nat) : Number :=
  if !negative then .integer units
  else if units = 0 ∨ Word.signedBound < units then .floating (-(Float.ofNat units))
  else .integer (-(units : Int))

/-- Reads a number whose sign has been taken off. -/
def readUnsigned (negative : Bool) (text : List Char) : Except ReadError (Number × List Char) := do
  let digits := text.takeWhile Char.isDigit
  let rest := text.dropWhile Char.isDigit
  if digits.isEmpty then
    throw (if text.isEmpty then .truncated else .malformed)
  if digits.head? = some '0' ∧ 1 < digits.length then
    throw .malformed
  let (units, used) := absorb 0 0 digits
  let dropped : Int := digits.length - used
  match rest with
  | '.' :: rest => readFraction negative units dropped rest
  | _ =>
    match atExponent rest with
    | some rest => readExponent negative units dropped rest
    | none =>
      if dropped = 0 then return (ofInteger negative units, rest)
      else return (.floating (← ofUnits negative units dropped), rest)

/-- Reads a number. -/
def read : List Char → Except ReadError (Number × List Char)
  | '-' :: rest => readUnsigned true rest
  | text => readUnsigned false text

/-- The number as a double. -/
def toFloat : Number → Float
  | .integer value => if value < 0 then -(Float.ofNat value.natAbs) else Float.ofNat value.natAbs
  | .floating value => value

/-- The number as found where another shape was expected. -/
def found : Number → Found
  | .integer value => .integer value
  | .floating value => .floating value

end Number

end DialARide.Json
