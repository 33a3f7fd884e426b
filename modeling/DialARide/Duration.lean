import DialARide.Word

/-!
# Signed durations

A duration is a count of nanoseconds of either sign whose whole seconds fit a signed 64-bit word.
-/

namespace DialARide

/-- An elapsed or allowed time. -/
structure SignedDuration where
  nanoseconds : Int
  deriving DecidableEq, Repr

namespace SignedDuration

/-- Nanoseconds of a second. -/
def perSecond : Nat := 1000000000

/-- No time at all. -/
def zero : SignedDuration := ⟨0⟩

/-- Whole seconds, cut toward zero. -/
def seconds (d : SignedDuration) : Int := d.nanoseconds.tdiv perSecond

/-- Nanoseconds beyond the whole seconds, with the sign of the duration. -/
def subsecond (d : SignedDuration) : Int := d.nanoseconds.tmod perSecond

/-- Whether a count is that of a 64-bit signed word. -/
def fitsWord (n : Int) : Bool := -(Word.signedBound : Int) ≤ n && n < Word.signedBound

/-- The duration of so many nanoseconds, if its seconds fit. -/
def ofNanoseconds? (n : Int) : Option SignedDuration :=
  if fitsWord (n.tdiv perSecond) then some ⟨n⟩ else none

/-- Whether one duration is at least as long as another. -/
def reaches (elapsed deadline : SignedDuration) : Bool := deadline.nanoseconds ≤ elapsed.nanoseconds

end SignedDuration

end DialARide
