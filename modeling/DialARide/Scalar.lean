/-!
# The numbers of a schedule

Times, distances and costs are all numbers of one kind. The rules of the library are written
once over that kind: a running program uses doubles (`DialARide.Scalar.Double`), the theory of
schedules uses exact numbers with both infinities.

The class asks only for what the rules use: the four operations, a strict comparison that is
false whenever one side is not a number, and a total order (`Ord`) by which costs are sorted.
-/

namespace DialARide

/-- A kind of number in which times, distances and costs are kept. -/
class Scalar (α : Type) extends Add α, Sub α, Mul α, Div α, Ord α where
  /-- The number of a count. -/
  ofNat : Nat → α
  /-- A latest time that is never reached. -/
  posInf : α
  /-- An earliest time that has always passed. -/
  negInf : α
  /-- Strict comparison by value; false when one side is not a number. -/
  lt : α → α → Bool
  /-- False for the results of operations without a value. -/
  isNumber : α → Bool

namespace Scalar

variable {α : Type} [Scalar α]

/-- Nothing lost, nothing driven, nothing to pay. -/
def zero : α := ofNat 0

/-- The larger of two numbers. An operand that is not a number gives way to the other one, and of
two equal numbers the first is taken. -/
def max (a b : α) : α := if lt a b || !isNumber a then b else a

/-- The smaller of two numbers, with the same rules as `max`. -/
def min (a b : α) : α := if lt b a || !isNumber a then b else a

/-- A negative amount, and one that is not a number, counts as zero. -/
def clamp (a : α) : α := max zero a

/-- Numbers other than the two infinities. -/
def isFinite (a : α) : Bool := isNumber a && lt negInf a && lt a posInf

end Scalar

end DialARide
