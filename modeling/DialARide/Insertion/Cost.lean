import DialARide.Insertion.Timing

/-!
# Cost of an insertion

An insertion costs the time that the vehicle's schedule loses. It is infeasible when a loss exceeds
the slack of the waypoint after which it arises. Whether a request may be picked up or dropped off
late is a matter of strategy: refuse it, or let it cost more.
-/

namespace DialARide

variable {α : Type}

/-- Slack at the waypoints after which pickup and dropoff are inserted. -/
structure InsertionSlack (α : Type) where
  pickup : α
  dropoff : α
  deriving Repr

/-- How lateness of the request itself is treated. -/
inductive Strategy (α : Type) where
  /-- A late pickup or arrival is infeasible. -/
  | reject
  /-- Each second late costs the penalty. -/
  | discourage (latePickup lateArrival : α)
  deriving Repr

variable [Scalar α]

/-- The slack at the positions of an insertion. -/
def InsertionSlack.ofInsertion (entry : Entry α) (insertion : Insertion) :
    Except Fault (InsertionSlack α) := do
  return ⟨← entry.slackAt insertion.pickup, ← entry.slackAt insertion.dropoff⟩

/-- The pickup loss delays everything after the pickup, both losses together delay everything after
the dropoff; the slack is violated when either delay exceeds it. -/
def InsertionSlack.violatedBy (slack : InsertionSlack α) (t : Timing α) : Bool :=
  Scalar.lt slack.pickup t.pickupLoss || Scalar.lt slack.dropoff t.totalLoss

/-- The cost of an insertion that must not be chosen. -/
def infeasible : α := Scalar.posInf

/-- Whether an insertion of the given cost may be chosen. -/
def feasible (cost : α) : Bool := Scalar.lt cost infeasible

namespace Strategy

/-- Lateness is discouraged by one second of cost for each second of a late pickup, and by ten for
each second of a late arrival. -/
def standardDiscourage : Strategy α := .discourage (Scalar.ofNat 1) (Scalar.ofNat 10)

/-- The cost of an insertion with the given slack and timing. -/
def cost (strategy : Strategy α) (request : Request α) (slack : InsertionSlack α) (t : Timing α) :
    α :=
  match strategy with
  | .reject =>
    if slack.violatedBy t || Scalar.lt request.times.latestStart t.pickupDeparture
        || Scalar.lt request.times.latestArrival t.dropoffArrival then infeasible
    else t.totalLoss
  | .discourage latePickup lateArrival =>
    if slack.violatedBy t then infeasible
    else
      t.totalLoss
        + latePickup * Scalar.clamp (t.pickupDeparture - request.times.latestStart)
        + lateArrival * Scalar.clamp (t.dropoffArrival - request.times.latestArrival)

/-- Name of the strategy. -/
def name : Strategy α → String
  | .reject => "reject_soft_constraint_violations"
  | .discourage .. => "discourage_soft_constraint_violations"

end Strategy

end DialARide
