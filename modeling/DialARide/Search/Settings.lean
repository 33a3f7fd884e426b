import DialARide.Duration
import DialARide.Insertion.Cost

/-!
# Search settings

What may be set about a search: how long a new pickup or dropoff takes, how lateness is treated, on
how many workers the fleet is searched and how much time the search may take. The number of workers
never changes a result.
-/

namespace DialARide

/-- Which strategy is chosen; the penalties of `discourage` are the standard ones. -/
inductive StrategyChoice where
  | reject
  | discourage
  deriving DecidableEq, Repr

/-- The chosen strategy. -/
def StrategyChoice.strategy {α : Type} [Scalar α] : StrategyChoice → Strategy α
  | .reject => .reject
  | .discourage => .standardDiscourage

/-- On how many workers the fleet is searched. -/
inductive Workers where
  | single
  /-- As many as the machine has processors. -/
  | auto
  | multi (count : Nat)
  deriving DecidableEq, Repr

/-- The number of workers where it does not depend on the machine; it is at least one. -/
def Workers.count? : Workers → Option Nat
  | .single => some 1
  | .auto => none
  | .multi count => some (max count 1)

/-- The settings of a search. -/
structure Settings (α : Type) where
  /-- Time spent at a new pickup or dropoff. -/
  stopDuration : α
  strategy : StrategyChoice
  workers : Workers
  /-- Vehicles not looked at within this time are skipped. -/
  deadline : Option SignedDuration
  deriving Repr

/-- A minute at each new stop, no lateness, no deadline. -/
def Settings.standard {α : Type} [Scalar α] : Settings α :=
  ⟨Scalar.ofNat 60, .reject, .auto, none⟩

end DialARide
