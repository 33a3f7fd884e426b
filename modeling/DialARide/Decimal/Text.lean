import DialARide.Decimal.Shortest

/-!
# Decimal text

Three ways to write a double. `display` is for messages: the shortest digits, never an exponent, no
point in whole numbers. `data` is for data files: the shortest digits, always with a point or an
exponent. `fixed` is for tables: the exact value rounded to so many places, halves to even.
-/

namespace DialARide.Decimal

/-! ## 1. Digits with a point -/

/-- Digits written with a decimal point where their exponent puts it; whole numbers without one. -/
def Digits.positional (d : Digits) : String :=
  if 0 ≤ d.exponent then toString (d.digits * Nat.pow 10 d.exponent.toNat)
  else
    let places := (-d.exponent).toNat
    let unit := Nat.pow 10 places
    let whole := d.digits / unit
    let fraction := toString (d.digits % unit)
    s!"{whole}." ++ "".pushn '0' (places - fraction.length) ++ fraction

/-- Digits written with an exponent, one digit before the point. -/
def Digits.scientific (d : Digits) : String :=
  let text := toString d.digits
  let exponent := d.exponent + ((text.length - 1 : Nat) : Int)
  let mantissa := match text.toList with
    | [] => ""
    | [c] => c.toString
    | c :: rest => c.toString ++ "." ++ String.ofList rest
  let sign := if exponent < 0 then "-" else "+"
  s!"{mantissa}e{sign}{exponent.natAbs}"

/-- Exponent of the leading digit. -/
def Digits.leading (d : Digits) : Int :=
  d.exponent + (((toString d.digits).length - 1 : Nat) : Int)

/-! ## 2. Doubles -/

/-- A sign in front of a text. -/
def signed (negative : Bool) (text : String) : String := if negative then "-" ++ text else text

/-- A double in a message. -/
def display (x : Float) : String :=
  match parts x with
  | .notANumber => "NaN"
  | .infinite negative => signed negative "inf"
  | .finite negative b =>
    signed negative (if b.significand = 0 then "0" else (shortest .up b).positional)

/-- A finite double in a data file: with an exponent from `1e16` up and below `1e-5`. -/
def data (negative : Bool) (b : Binary) : String :=
  if b.significand = 0 then signed negative "0.0"
  else
    let d := shortest .even b
    let text :=
      if d.leading < -5 ∨ 16 ≤ d.leading then d.scientific
      else if 0 ≤ d.exponent then d.positional ++ ".0"
      else d.positional
    signed negative text

/-- A double in a data file, if it has a form there. -/
def data? (x : Float) : Option String :=
  match parts x with
  | .finite negative b => some (data negative b)
  | _ => none

/-- A fraction rounded to a whole number, halves to even. -/
def roundEven (r : Ratio) : Nat :=
  let low := r.floor
  let twice := 2 * (r.num - low * r.den)
  if r.den < twice ∨ (twice = r.den ∧ low % 2 = 1) then low + 1 else low

/-- A double rounded to a number of places, at least one. -/
def fixed (places : Nat) (x : Float) : String :=
  match parts x with
  | .notANumber => "NaN"
  | .infinite negative => signed negative "inf"
  | .finite negative b =>
    let units := roundEven (b.ratio.scale 10 places)
    signed negative (Digits.positional ⟨units, -(places : Int)⟩)

end DialARide.Decimal
