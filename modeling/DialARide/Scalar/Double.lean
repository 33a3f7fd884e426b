import DialARide.Scalar
import DialARide.Word

/-!
# Doubles as schedule numbers

The running program keeps its numbers as IEEE doubles. Comparison by value is the one of the
arithmetic; the order used for sorting is the total order on bit patterns, which also places both
zeros, the infinities and every pattern that is not a number.
-/

namespace DialARide

/-! ## 1. The total order on bit patterns -/

/-- A double as its 64 bits. -/
structure DoubleBits where
  bits : UInt64
  deriving DecidableEq, Repr

namespace DoubleBits

/-- Position of a bit pattern in the total order: patterns with the sign bit clear count up from
zero by magnitude, patterns with the sign bit set count down from minus one. -/
def orderKey (d : DoubleBits) : Int :=
  let n := d.bits.toNat
  if n < Word.signedBound then (n : Int) else -((n - Word.signedBound : Nat) : Int) - 1

instance : Ord DoubleBits where
  compare a b := compare a.orderKey b.orderKey

end DoubleBits

/-! ## 2. Doubles -/

instance floatOrd : Ord Float where
  compare a b := compare (DoubleBits.mk a.toBits) (DoubleBits.mk b.toBits)

instance : Scalar Float where
  ofNat := Float.ofNat
  posInf := 1.0 / 0.0
  negInf := -1.0 / 0.0
  lt a b := decide (a < b)
  isNumber a := !a.isNaN

end DialARide
