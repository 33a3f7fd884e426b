import DialARide.Search.Settings
import DialARide.Travel.Estimator

/-!
# Searching a fleet

For one request, every insertion into every schedule of the fleet is timed and priced. Feasible
insertions are ranked by cost; ties are broken by vehicle, pickup and dropoff, so that the ranking
does not depend on the order in which vehicles are looked at. Two questions are answered: all
feasible insertions in order (`Search.rankInsertions`), and the first of them (`Search.findBest`).
-/

namespace DialARide

variable {α : Type}

/-! ## 1. Scored insertions -/

/-- A feasible insertion and its price. -/
structure Scored (α : Type) where
  vehicle : Nat
  pickup : Nat
  dropoff : Nat
  cost : α
  timing : Timing α
  deriving Repr

/-- Where an insertion stands in a ranking, its timing left aside. -/
structure RankKey (α : Type) where
  cost : α
  vehicle : Nat
  pickup : Nat
  dropoff : Nat
  deriving Repr

/-- Cheapest first; then by vehicle, pickup and dropoff. -/
def RankKey.rank [Ord α] (a b : RankKey α) : Ordering :=
  (compare a.cost b.cost)
    |>.then (compare a.vehicle b.vehicle)
    |>.then (compare a.pickup b.pickup)
    |>.then (compare a.dropoff b.dropoff)

namespace Scored

/-- The rank key of a scored insertion. -/
def key (s : Scored α) : RankKey α := ⟨s.cost, s.vehicle, s.pickup, s.dropoff⟩

/-- Order of two scored insertions in a ranking. -/
def rank [Ord α] (a b : Scored α) : Ordering := a.key.rank b.key

end Scored

/-- A list in ranking order; elements of equal rank keep their order. -/
def ranked {β : Type} (rank : β → β → Ordering) (items : List β) : List β :=
  items.mergeSort fun a b => (rank a b).isLE

/-! ## 2. One vehicle -/

/-- What a search needs to know besides request and fleet. -/
structure Search (α : Type) where
  driveTime : DriveTime α
  stopDuration : α
  strategy : Strategy α
  deadline : Option SignedDuration

/-- Times at which vehicles are looked at, by their position in the fleet, counted from the
beginning of the search. -/
abbrev Clock := Nat → SignedDuration

/-- A clock that stands still: a deadline is either over before the search begins or never. -/
def Clock.still : Clock := fun _ => .zero

namespace Search

/-- The search that the settings ask for. -/
def ofSettings [Scalar α] (driveTime : DriveTime α) (settings : Settings α) : Search α where
  driveTime
  stopDuration := settings.stopDuration
  strategy := settings.strategy.strategy
  deadline := settings.deadline

variable [Scalar α]

/-- An insertion with its timing and cost, feasible or not. -/
def score (s : Search α) (request : Request α) (entry : Entry α) (insertion : Insertion) :
    Except Fault (Scored α) := do
  let legs ← Legs.ofInsertion s.driveTime request entry insertion
  let timing ← Timing.ofInsertion s.stopDuration request entry insertion legs
  let slack ← InsertionSlack.ofInsertion entry insertion
  return {
    vehicle := entry.vehicle.id, pickup := insertion.pickup, dropoff := insertion.dropoff
    cost := s.strategy.cost request slack timing, timing }

/-- Feasible insertions of a request into one schedule, cheapest first. -/
def evaluateVehicle (s : Search α) (request : Request α) (entry : Entry α) :
    Except Fault (List (Scored α)) := do
  let scored ← (entry.insertions request).mapM (s.score request entry)
  return ranked Scored.rank (scored.filter (feasible ·.cost))

/-! ## 3. The fleet -/

/-- Whether the time is up. A vehicle once begun is always completed. -/
def outOfTime (s : Search α) (elapsed : SignedDuration) : Bool :=
  match s.deadline with
  | none => false
  | some deadline => elapsed.reaches deadline

/-- The feasible insertions of each vehicle in fleet order; `none` for a vehicle skipped because
the time was up. -/
def evaluateFleet (s : Search α) (clock : Clock) (request : Request α) (fleet : List (Entry α)) :
    Except Fault (List (Option (List (Scored α)))) :=
  (fleet.mapIdx fun position entry => (position, entry)).mapM fun (position, entry) =>
    if s.outOfTime (clock position) then return none
    else some <$> s.evaluateVehicle request entry

/-- Feasible insertions of a request into the whole fleet, cheapest first. Skipped vehicles
contribute nothing. -/
def rankInsertions (s : Search α) (clock : Clock) (request : Request α) (fleet : List (Entry α)) :
    Except Fault (List (Scored α)) := do
  let evaluations ← s.evaluateFleet clock request fleet
  return ranked Scored.rank (evaluations.filterMap id).flatten

/-- The answer for one request. -/
structure Outcome (α : Type) where
  /-- The cheapest insertion; `none` when the request cannot be assigned. -/
  best : Option (Scored α)
  evaluatedVehicles : Nat
  skippedVehicles : Nat
  deriving Repr

/-- Keeps the better of the best insertion so far and a candidate; of two equal ones, the first. -/
def better (best : Option (Scored α)) (candidate : Scored α) : Option (Scored α) :=
  match best with
  | none => some candidate
  | some b => if candidate.rank b = .lt then some candidate else some b

/-- The cheapest feasible insertion of a request into the fleet. Of each vehicle only its own
cheapest one is a candidate. -/
def findBest (s : Search α) (clock : Clock) (request : Request α) (fleet : List (Entry α)) :
    Except Fault (Outcome α) := do
  let evaluations ← s.evaluateFleet clock request fleet
  let candidates := (evaluations.filterMap id).filterMap List.head?
  let skipped := evaluations.countP Option.isNone
  return {
    best := candidates.foldl better none
    evaluatedVehicles := fleet.length - skipped
    skippedVehicles := skipped }

end Search

end DialARide
