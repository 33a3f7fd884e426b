/-!
# Doubles as integers times powers of two

Text is written from the exact value of a double, so that value is taken apart first: its sign, and
for a finite magnitude a whole number of units of a power of two.
-/

namespace DialARide.Decimal

/-- A magnitude of `significand * 2 ^ exponent`. -/
structure Binary where
  significand : Nat
  exponent : Int
  deriving DecidableEq, Repr

/-- What the bits of a double say. -/
inductive Parts where
  | notANumber
  | infinite (negative : Bool)
  | finite (negative : Bool) (magnitude : Binary)
  deriving DecidableEq, Repr

/-- The leading bit of a significand, which the bits of a double leave out unless it is tiny. -/
def hiddenBit : Nat := 0x10000000000000

/-- Takes the bits of a double apart. -/
def partsOfBits (bits : Nat) : Parts :=
  let negative := bits / (2048 * hiddenBit) = 1
  let exponent : Nat := bits / hiddenBit % 2048
  let fraction : Nat := bits % hiddenBit
  if exponent = 2047 then
    if fraction = 0 then .infinite negative else .notANumber
  else if exponent = 0 then .finite negative ⟨fraction, -1074⟩
  else .finite negative ⟨hiddenBit + fraction, (exponent : Int) - 1075⟩

/-- Takes a double apart. -/
def parts (x : Float) : Parts := partsOfBits x.toBits.toNat

/-- A fraction of two natural numbers. -/
structure Ratio where
  num : Nat
  den : Nat
  deriving DecidableEq, Repr

namespace Ratio

/-- The fraction times a power of `base`. -/
def scale (r : Ratio) (base : Nat) (exponent : Int) : Ratio :=
  if 0 ≤ exponent then ⟨r.num * base.pow exponent.toNat, r.den⟩
  else ⟨r.num, r.den * base.pow (-exponent).toNat⟩

/-- Whether one fraction is less than another. -/
def lt (a b : Ratio) : Bool := a.num * b.den < b.num * a.den

/-- The whole part. -/
def floor (r : Ratio) : Nat := r.num / r.den

end Ratio

/-- The exact value of a magnitude. -/
def Binary.ratio (b : Binary) : Ratio := Ratio.scale ⟨b.significand, 1⟩ 2 b.exponent

end DialARide.Decimal
