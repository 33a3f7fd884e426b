import DialARide.Duration

/-!
# Durations in units

A written duration is a list of units with their counts, the largest unit first and none twice. The
smallest unit may have a fraction, given in billionths, if it lies between an hour and a
microsecond.

There are two readings of such a list. As an exact amount of time (`Components.amount?`) it has no
unit longer than an hour. As a span of days (`Components.daily?`) it may use weeks, and days of 24
hours; within it each unit has a limit of its own, and what exceeds the limit of hours or a smaller
unit is carried into units that are smaller still, as far as these have room for it.
-/

namespace DialARide

/-- Units of time, from years down to nanoseconds. -/
inductive TimeUnit where
  | year | month | week | day | hour | minute | second | millisecond | microsecond | nanosecond
  deriving DecidableEq, Repr

namespace TimeUnit

/-- Larger units have larger ranks. -/
def rank : TimeUnit → Nat
  | year => 9
  | month => 8
  | week => 7
  | day => 6
  | hour => 5
  | minute => 4
  | second => 3
  | millisecond => 2
  | microsecond => 1
  | nanosecond => 0

/-- Nanoseconds of a unit; years and months have no fixed length. -/
def nanoseconds? : TimeUnit → Option Nat
  | year => none
  | month => none
  | week => some 604800000000000
  | day => some 86400000000000
  | hour => some 3600000000000
  | minute => some 60000000000
  | second => some 1000000000
  | millisecond => some 1000000
  | microsecond => some 1000
  | nanosecond => some 1

/-- Largest count of a unit in a span of days: about twenty thousand years of it, as far as the
count fits a 64-bit word. -/
def spanLimit : TimeUnit → Nat
  | year => 19998
  | month => 239976
  | week => 1043497
  | day => 7304484
  | hour => 175307616
  | minute => 10518456960
  | second => 631107417600
  | millisecond => 631107417600000
  | microsecond => 631107417600000000
  | nanosecond => Word.signedBound - 1

/-- Whether counts of the unit may have a fraction. -/
def divisible (u : TimeUnit) : Bool := microsecond.rank ≤ u.rank && u.rank ≤ hour.rank

/-- The units of an hour or less, which carry what exceeds their limit. -/
def carrying : List TimeUnit := [hour, minute, second, millisecond, microsecond, nanosecond]

/-- Nanoseconds that a unit of an hour or less and all smaller ones hold within their limits. -/
def capacity (unit : TimeUnit) : Nat :=
  ((carrying.filter (·.rank ≤ unit.rank)).map fun u => u.spanLimit * u.nanoseconds?.getD 1).foldl
    (· + ·) 0

end TimeUnit

/-- A duration as it was written. -/
structure Components where
  negative : Bool
  /-- Units and their counts, the smallest unit first. -/
  counts : List (TimeUnit × Nat)
  /-- Billionths of the smallest unit. -/
  fraction : Option Nat
  deriving Repr

namespace Components

/-- Nothing written yet. -/
def empty : Components := ⟨false, [], none⟩

/-- Appends a count of a unit, which has to be smaller than all units before it. -/
def add? (c : Components) (unit : TimeUnit) (count : Nat) : Option Components :=
  match c.counts with
  | (last, _) :: _ =>
    if unit.rank < last.rank then some { c with counts := (unit, count) :: c.counts } else none
  | [] => some { c with counts := [(unit, count)] }

/-- Gives the smallest unit a fraction. -/
def withFraction? (c : Components) (billionths : Nat) : Option Components :=
  match c.counts with
  | (last, _) :: _ => if last.divisible then some { c with fraction := some billionths } else none
  | [] => none

/-- Whether a count fits a signed 64-bit word, with the sign of the duration. -/
def countFits (c : Components) (count : Nat) : Bool :=
  count < Word.signedBound || (c.negative && count == Word.signedBound)

/-- Nanoseconds of the fraction, cut to whole ones. -/
def fractionNanoseconds (c : Components) : Nat :=
  match c.counts, c.fraction with
  | (last, _) :: _, some billionths =>
    billionths * (last.nanoseconds?.getD 0) / SignedDuration.perSecond
  | _, _ => 0

/-- Nanoseconds of all counts together, if each unit has a length. -/
def total? (c : Components) : Option Nat := do
  let parts ← c.counts.mapM fun (unit, count) =>
    if count = 0 then some 0 else unit.nanoseconds?.map (count * ·)
  return parts.foldl (· + ·) c.fractionNanoseconds

/-- The duration of so many nanoseconds, with the sign that was written. -/
def signed? (c : Components) (total : Nat) : Option SignedDuration :=
  SignedDuration.ofNanoseconds? (if c.negative then -(total : Int) else total)

/-- The duration as an exact amount of time. -/
def amount? (c : Components) : Option SignedDuration :=
  if c.counts.all fun (unit, count) => unit.rank ≤ TimeUnit.hour.rank && c.countFits count then
    c.total?.bind c.signed?
  else none

/-- Nanoseconds of the counts of a unit and all smaller ones, with the fraction if it is among
them. -/
def upTo (c : Components) (unit : TimeUnit) : Nat :=
  let counts := c.counts.filter fun (smaller, _) => smaller.rank ≤ unit.rank
  let fraction := if counts.isEmpty then 0 else c.fractionNanoseconds
  (counts.map fun (smaller, count) => count * smaller.nanoseconds?.getD 0).foldl (· + ·) fraction

/-- Whether the counts are within the limits of a span. What exceeds the limit of hours or a smaller
unit has to find room in the smaller units, beside the counts that are written for them. So the
counts of each unit and all smaller ones together have to fit the limits of these units. -/
def withinSpan (c : Components) : Bool :=
  c.counts.all (fun (unit, count) => TimeUnit.carrying.contains unit || count ≤ unit.spanLimit)
    && TimeUnit.carrying.all fun unit => c.upTo unit ≤ unit.capacity

/-- The duration as a span with days of 24 hours. -/
def daily? (c : Components) : Option SignedDuration :=
  if (c.counts.all fun (_, count) => c.countFits count) && c.withinSpan then
    c.total?.bind c.signed?
  else none

end Components

end DialARide
