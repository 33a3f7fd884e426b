import DialARide.Decimal.Digit

/-!
# Numerals

Doubles as they are written on a command line: digits with an optional point and an optional
exponent, or a name of an infinity or of the value that is no number, in either case of letters.
A sign may stand first. The nearest double is taken.
-/

namespace DialARide.Decimal

/-- A whole number of units of a power of ten, as a double. Magnitudes far outside the range of
doubles are not computed. -/
def toDouble (units : Nat) (exponent : Int) : Float :=
  let leading := exponent + (units.log2 : Int)
  if units = 0 then 0.0
  else if 1100 < leading ∧ 400 < exponent then 1.0 / 0.0
  else if exponent < 0 ∧ (units.log2 : Int) * 31 / 100 + exponent < -400 then 0.0
  else Float.ofScientific units (exponent < 0) exponent.natAbs

/-- Reads the exponent of a numeral, which goes on to its end. -/
def exponent? : List Char → Option Int
  | [] => some 0
  | mark :: text =>
    if mark = 'e' ∨ mark = 'E' then
      let (negative, digits) := match text with
        | '-' :: rest => (true, rest)
        | '+' :: rest => (false, rest)
        | _ => (false, text)
      if digits.isEmpty ∨ !digits.all Char.isDigit then none
      else
        let value : Int := ofDigits digits
        some (if negative then -value else value)
    else none

/-- Reads a numeral without its sign. -/
def magnitude? (text : List Char) : Option Float :=
  let word := String.ofList (text.map Char.toLower)
  if word = "inf" ∨ word = "infinity" then some (1.0 / 0.0)
  else if word = "nan" then some (0.0 / 0.0)
  else
    let whole := text.takeWhile Char.isDigit
    let rest := text.dropWhile Char.isDigit
    let (fraction, rest) := match rest with
      | '.' :: rest => (rest.takeWhile Char.isDigit, rest.dropWhile Char.isDigit)
      | _ => ([], rest)
    if whole.isEmpty ∧ fraction.isEmpty then none
    else (exponent? rest).map fun exponent =>
      toDouble (ofDigits (whole ++ fraction)) (exponent - (fraction.length : Int))

/-- Reads a numeral. -/
def numeral? (text : String) : Option Float :=
  match text.toList with
  | '-' :: rest => (magnitude? rest).map fun x => -x
  | '+' :: rest => magnitude? rest
  | all => magnitude? all

/-- Reads a natural number below `limit`; a plus sign may stand first. -/
def natural? (limit : Nat) (text : String) : Option Nat :=
  let digits := match text.toList with
    | '+' :: rest => rest
    | all => all
  if digits.isEmpty ∨ !digits.all Char.isDigit then none
  else
    let value := ofDigits digits
    if value < limit then some value else none

end DialARide.Decimal
