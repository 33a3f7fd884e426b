import DialARide.Schedule.Waypoint

/-!
# Slack

The slack of a waypoint is the largest delay that may arise right after it without breaking a
latest time of a following stop, or the end of the vehicle's service. The slacks of a schedule are
listed from the start on, one for each waypoint.
-/

namespace DialARide

variable {α : Type} [Scalar α]

/-- When a schedule ends: at the departure from its last waypoint. -/
def scheduleEnd (start : Start α) (stops : List (Stop α)) : α :=
  match stops.getLast? with
  | some stop => stop.task.departure
  | none => start.departure

namespace Slack

/-- Delay that the given stops tolerate, if the end of the schedule tolerates `reserve`. -/
def ofStops (reserve : α) : List (Stop α) → α
  | [] => reserve
  | stop :: rest => Scalar.min (ofStops reserve rest) stop.task.slack

/-- The slack before each of the stops, and the reserve after the last one. -/
def before (reserve : α) : List (Stop α) → List α
  | [] => [reserve]
  | stop :: rest => ofStops reserve (stop :: rest) :: before reserve rest

end Slack

/-- The slack of every waypoint of a schedule, the start first. -/
def slackTimes (start : Start α) (stops : List (Stop α)) (serviceEnd : α) : List α :=
  Slack.before (serviceEnd - scheduleEnd start stops) stops

/-- There is one slack for each waypoint. -/
theorem length_slackTimes (start : Start α) (stops : List (Stop α)) (serviceEnd : α) :
    (slackTimes start stops serviceEnd).length = stops.length + 1 := by
  unfold slackTimes
  generalize serviceEnd - scheduleEnd start stops = reserve
  induction stops with
  | nil => rfl
  | cons stop rest ih => simp [Slack.before, ih]

end DialARide
