import DialARide.Proofs.Timing
import Mathlib.Tactic.Ring

/-!
# Driving a changed route

The route of a vehicle after an insertion, as a list of steps, and a vehicle that takes them one
after the other. Legs that the insertion leaves alone take the drive that the schedule plans, stops
their planned dwell, and no stop is reached before its scheduled arrival.

A vehicle that is late stays exactly as late along untouched legs (`Progress.step_planned` for one
of them, `Progress.run_asPlanned` for all).
-/

namespace DialARide

variable {α : Type}

/-! ## 1. Routes -/

/-- One step of a changed route. -/
inductive RouteStep (α : Type) where
  /-- The request boards during the stop at which the vehicle is. -/
  | board
  | pickUp (drive duration : α)
  | visit (drive : α) (stop : Stop α)
  /-- The request alights during the stop at which the vehicle is. -/
  | alight
  | dropOff (drive duration : α)
  deriving Repr

section Steps

variable [Scalar α]

/-- Stops on the legs that the schedule plans, on from waypoint `w`. -/
def asPlanned : Waypoint α → List (Stop α) → List (RouteStep α)
  | _, [] => []
  | w, stop :: rest =>
    .visit (stop.task.arrival - w.departure) stop :: asPlanned (.stop stop) rest

/-- Stops of which the first is reached on a new leg. -/
def afterDetour (drive : α) : List (Stop α) → List (RouteStep α)
  | [] => []
  | stop :: rest => .visit drive stop :: asPlanned (.stop stop) rest

/-- How the request gets aboard after waypoint `w`. -/
def boarding (stopDuration : α) (request : Request α) (w : Waypoint α) (legs : Legs α) :
    RouteStep α :=
  if w.isStop ∧ w.location = request.origin then .board else .pickUp legs.toPickup stopDuration

/-- The route from waypoint `v` on, after which the request is dropped off. -/
def alighting (stopDuration : α) (request : Request α) (v : Waypoint α) (legs : Legs α)
    (after : List (Stop α)) : List (RouteStep α) :=
  if v.location = request.destination then .alight :: asPlanned v after
  else .dropOff legs.timeToDropoff stopDuration :: afterDetour legs.timeFromDropoff after

section Alighting

variable {stopDuration : α} {request : Request α} {v : Waypoint α} {legs : Legs α}
  {after : List (Stop α)}

theorem alighting_merged (h : v.location = request.destination) :
    alighting stopDuration request v legs after = .alight :: asPlanned v after := if_pos h

theorem alighting_separate (h : v.location ≠ request.destination) :
    alighting stopDuration request v legs after =
      .dropOff legs.timeToDropoff stopDuration :: afterDetour legs.timeFromDropoff after := if_neg h

end Alighting

/-- The route from the pickup on: the waypoints `w` and `v` are those after which the request is
picked up and dropped off. -/
def Entry.route (entry : Entry α) (stopDuration : α) (request : Request α) (insertion : Insertion)
    (w v : Waypoint α) (legs : Legs α) : List (RouteStep α) :=
  boarding stopDuration request w legs ::
    if insertion.pickup = insertion.dropoff then
      .dropOff legs.fromPickup stopDuration ::
        afterDetour legs.timeFromDropoff (entry.after insertion)
    else
      afterDetour legs.fromPickup (entry.between insertion) ++
        alighting stopDuration request v legs (entry.after insertion)

/-! ## 2. Vehicles on a route -/

/-- How far a vehicle has come on its route. -/
structure Progress (α : Type) where
  /-- When it reached the place where it was last. -/
  arrived : α
  /-- When it left that place. -/
  left : α
  pickedUp : Option α
  droppedOff : Option α
  /-- The planned stops that it has visited. -/
  visits : List (Visit α)
  deriving Repr

namespace Progress

/-- A vehicle that leaves waypoint `w` on schedule. -/
def onSchedule (w : Waypoint α) : Progress α := ⟨w.departure, w.departure, none, none, []⟩

/-- One step of a route, for a request that cannot leave before its earliest start. -/
def step (earliestStart : α) (now : Progress α) : RouteStep α → Progress α
  | .board =>
    let left := Scalar.max now.left earliestStart
    { now with left, pickedUp := some left }
  | .pickUp drive duration =>
    let arrived := now.left + drive
    let left := Scalar.max arrived earliestStart + duration
    { now with arrived, left, pickedUp := some left }
  | .visit drive stop =>
    let arrived := Scalar.max (now.left + drive) stop.task.arrival
    let left := arrived + (stop.task.departure - stop.task.arrival)
    { now with arrived, left, visits := now.visits ++ [⟨arrived, left⟩] }
  | .alight => { now with droppedOff := some now.arrived }
  | .dropOff drive duration =>
    let arrived := now.left + drive
    { now with arrived, left := arrived + duration, droppedOff := some arrived }

/-- A vehicle takes the steps of a route. -/
def run (earliestStart : α) (now : Progress α) (route : List (RouteStep α)) : Progress α :=
  route.foldl (step earliestStart) now

end Progress

/-- The changed route, driven to its end. -/
def Entry.replay (entry : Entry α) (stopDuration : α) (request : Request α)
    (insertion : Insertion) (legs : Legs α) : Except Fault (Progress α) := do
  let w ← entry.waypoint insertion.pickup
  let v ← entry.waypoint insertion.dropoff
  return Progress.run request.times.earliestStart (Progress.onSchedule w)
    (entry.route stopDuration request insertion w v legs)

theorem Entry.replay_eq {entry : Entry α} {stopDuration : α} {request : Request α}
    {insertion : Insertion} {legs : Legs α} {w v : Waypoint α}
    (hw : entry.waypoint insertion.pickup = .ok w)
    (hv : entry.waypoint insertion.dropoff = .ok v) :
    entry.replay stopDuration request insertion legs
      = .ok (Progress.run request.times.earliestStart (Progress.onSchedule w)
          (entry.route stopDuration request insertion w v legs)) := by
  rw [Entry.replay, hw, hv]
  rfl

/-! ## 3. Boarding -/

namespace Progress

variable {earliestStart : α} {now : Progress α}

theorem run_cons {s : RouteStep α} {route : List (RouteStep α)} :
    run earliestStart now (s :: route) = run earliestStart (step earliestStart now s) route := rfl

theorem run_append {first second : List (RouteStep α)} :
    run earliestStart now (first ++ second)
      = run earliestStart (run earliestStart now first) second :=
  List.foldl_append

/-- The request leaves the pickup when its timing says so. -/
theorem step_boarding {stopDuration : α} {request : Request α} {w : Waypoint α} {legs : Legs α}
    {departure : α} (h : Timing.departureFrom stopDuration request w legs = departure) :
    ∃ arrived, step request.times.earliestStart (onSchedule w)
      (boarding stopDuration request w legs) = ⟨arrived, departure, some departure, none, []⟩ := by
  subst h
  unfold boarding Timing.departureFrom
  split
  · exact ⟨_, rfl⟩
  · exact ⟨_, rfl⟩

/-! ## 4. Late vehicles -/

/-- A vehicle after the visit of a stop at which it is `delay` late. -/
def late (delay : α) (now : Progress α) (stop : Stop α) : Progress α :=
  { now with
    arrived := stop.task.arrival + delay
    left := stop.task.departure + delay
    visits := now.visits ++ [stop.visitLate delay] }

variable {delay : α} {stops : List (Stop α)}

theorem visits_foldl_late :
    (stops.foldl (late delay) now).visits = now.visits ++ stops.map (·.visitLate delay) := by
  induction stops generalizing now with
  | nil => exact (List.append_nil _).symm
  | cons stop rest ih =>
    rw [List.foldl_cons, ih, List.map_cons]
    exact List.append_assoc ..

theorem pickedUp_foldl_late : (stops.foldl (late delay) now).pickedUp = now.pickedUp := by
  induction stops generalizing now with
  | nil => rfl
  | cons stop rest ih => rw [List.foldl_cons, ih]; rfl

theorem droppedOff_foldl_late : (stops.foldl (late delay) now).droppedOff = now.droppedOff := by
  induction stops generalizing now with
  | nil => rfl
  | cons stop rest ih => rw [List.foldl_cons, ih]; rfl

/-- The vehicle after the last of several stops. -/
theorem foldl_late_concat {last : Stop α} :
    (stops ++ [last]).foldl (late delay) now =
      ⟨last.task.arrival + delay, last.task.departure + delay, now.pickedUp, now.droppedOff,
        now.visits ++ (stops ++ [last]).map (·.visitLate delay)⟩ := by
  rw [List.foldl_append, List.map_append, ← List.append_assoc, ← visits_foldl_late]
  show Progress.mk _ _ (stops.foldl (late delay) now).pickedUp
    (stops.foldl (late delay) now).droppedOff _ = _
  rw [pickedUp_foldl_late, droppedOff_foldl_late]
  rfl

end Progress

end Steps

section Exact

variable {K : Type} [Field K] [LinearOrder K] [IsStrictOrderedRing K]

namespace Progress

variable {earliestStart : Exact K} {now : Progress (Exact K)} {stop : Stop (Exact K)}
  {stops : List (Stop (Exact K))}

/-- How late the vehicle is at a stop that it reaches on a new leg. -/
theorem step_visit {left drive arrival : K} (hleft : now.left = .finite left)
    (harrival : stop.task.arrival = .finite arrival) (timed : stop.task.IsTimed) :
    step earliestStart now (.visit (.finite drive) stop)
      = late (.finite (max 0 (left + drive - arrival))) now stop := by
  obtain ⟨y, hy⟩ := timed.departure
  have harrived : max (left + drive) arrival = arrival + max 0 (left + drive - arrival) := by
    rw [← max_add_add_left, add_zero, add_sub_cancel, max_comm]
  have hdwell : ∀ x : K, arrival + x + (y - arrival) = y + x := fun x => by ring
  simp only [step, late, Stop.visitLate, hleft, harrival, hy, Exact.add_finite, Exact.sub_finite,
    Exact.max_finite, harrived, hdwell]

/-- **On an untouched leg the delay neither grows nor shrinks.** -/
theorem step_planned {w : Waypoint (Exact K)} (hw : w.departure.IsFinite)
    (timed : stop.task.IsTimed) {x : K} (hx : 0 ≤ x) (hleft : now.left = w.departure + .finite x) :
    step earliestStart now (.visit (stop.task.arrival - w.departure) stop)
      = late (.finite x) now stop := by
  obtain ⟨y, hy⟩ := hw
  obtain ⟨a, ha⟩ := timed.arrival
  rw [hy, Exact.add_finite] at hleft
  have hdelay : y + x + (a - y) - a = x := by ring
  have hstep : step earliestStart now (.visit (.finite (a - y)) stop)
      = late (.finite (max 0 (y + x + (a - y) - a))) now stop := step_visit hleft ha timed
  rw [hdelay, max_eq_right hx] at hstep
  rw [hy, ha, Exact.sub_finite, hstep]

/-- **A late vehicle is as late at every stop that it reaches on untouched legs.** -/
theorem run_asPlanned {w : Waypoint (Exact K)} (hw : w.departure.IsFinite)
    (timed : ∀ stop ∈ stops, stop.task.IsTimed) {x : K} (hx : 0 ≤ x)
    (hleft : now.left = w.departure + .finite x) :
    run earliestStart now (asPlanned w stops) = stops.foldl (late (.finite x)) now := by
  induction stops generalizing w now with
  | nil => rfl
  | cons stop rest ih =>
    rw [List.forall_mem_cons] at timed
    rw [asPlanned, run_cons, step_planned hw timed.1 hx hleft, List.foldl_cons]
    exact ih timed.1.departure timed.2 rfl

/-- After a new leg the vehicle is at all stops as late as at the first one. -/
theorem run_afterDetour {first : Stop (Exact K)}
    (timed : ∀ stop ∈ first :: stops, stop.task.IsTimed) {left drive arrival : K}
    (hleft : now.left = .finite left) (harrival : first.task.arrival = .finite arrival) :
    run earliestStart now (afterDetour (.finite drive) (first :: stops))
      = (first :: stops).foldl (late (.finite (max 0 (left + drive - arrival)))) now := by
  rw [List.forall_mem_cons] at timed
  have hw : (Waypoint.stop first).departure.IsFinite := timed.1.departure
  rw [afterDetour, run_cons, step_visit hleft harrival timed.1, List.foldl_cons]
  exact run_asPlanned hw timed.2 (le_max_left _ _) rfl

end Progress

end Exact

end DialARide
