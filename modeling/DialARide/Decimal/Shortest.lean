import DialARide.Decimal.Binary

/-!
# Shortest decimals

The shortest decimal of a double is the one with the fewest digits that reads back as that double;
of several with that many digits it is the one nearest to the exact value. A decimal reads back when
it lies between the midpoints to the neighbouring doubles; the midpoints themselves count when the
significand is even.

For one digit, two, and so on, the two decimals of that many digits around the exact value are
tested. Seventeen digits always suffice.
-/

namespace DialARide.Decimal

/-- Whole number of units of a power of ten. -/
structure Digits where
  digits : Nat
  exponent : Int
  deriving DecidableEq, Repr

/-- Which of two shortest decimals at equal distance is taken. -/
inductive Tie where
  | up
  | even
  deriving DecidableEq, Repr

namespace Shortest

/-- Exponent of the leading decimal digit of a positive fraction. -/
def leadingExponent (r : Ratio) : Int :=
  let estimate := ((r.num.log2 : Int) - (r.den.log2 : Int) - 1) * 30103 / 100000 - 1
  let reaches (e : Int) : Bool := !r.lt (Ratio.scale ⟨1, 1⟩ 10 e)
  ((List.range 4).map fun (k : Nat) => estimate + (k : Int)).foldl
    (fun best e => if reaches e then e else best) estimate

/-- The interval of values that read back as a double. -/
structure Interval where
  lower : Ratio
  upper : Ratio
  closed : Bool
  deriving Repr

/-- The values nearer to a magnitude than to its neighbours. Below a power of two the neighbour is
half as far away. -/
def interval (b : Binary) : Interval :=
  let below := if b.significand = hiddenBit ∧ -1074 < b.exponent then 1 else 2
  { lower := Ratio.scale ⟨4 * b.significand - below, 4⟩ 2 b.exponent
    upper := Ratio.scale ⟨4 * b.significand + 2, 4⟩ 2 b.exponent
    closed := b.significand % 2 = 0 }

/-- Whether a value lies in the interval. -/
def Interval.contains (i : Interval) (r : Ratio) : Bool :=
  if i.closed then !r.lt i.lower && !i.upper.lt r else i.lower.lt r && r.lt i.upper

/-- The better of the two decimals around `value` on the grid of `10 ^ exponent`, if one of them
lies in the interval. -/
def onGrid (tie : Tie) (i : Interval) (value : Ratio) (exponent : Int) : Option Digits :=
  let scaled := value.scale 10 (-exponent)
  let low := scaled.floor
  let inside (n : Nat) : Bool := i.contains (Ratio.scale ⟨n, 1⟩ 10 exponent)
  let twice := 2 * (scaled.num - low * scaled.den)
  let upward : Bool :=
    if twice = scaled.den then (match tie with | .up => true | .even => low % 2 == 1)
    else decide (scaled.den < twice)
  let nearer := if upward then low + 1 else low
  let farther := if upward then low else low + 1
  if inside nearer then some ⟨nearer, exponent⟩
  else if inside farther then some ⟨farther, exponent⟩
  else none

/-- Removes trailing zeros. -/
def trim (d : Digits) : Digits :=
  if 0 < d.digits ∧ d.digits % 10 = 0 then trim ⟨d.digits / 10, d.exponent + 1⟩ else d
termination_by d.digits
decreasing_by omega

end Shortest

/-- The shortest decimal of a positive magnitude. -/
def shortest (tie : Tie) (b : Binary) : Digits :=
  let value := b.ratio
  let i := Shortest.interval b
  let leading := Shortest.leadingExponent value
  let found := (List.range 17).findSome? fun (k : Nat) =>
    Shortest.onGrid tie i value (leading - (k : Int))
  Shortest.trim (found.getD ⟨value.floor, 0⟩)

end DialARide.Decimal
