import DialARide.Proofs.Candidates

/-!
# Scanning by position

`Entry.insertions` walks down the list of stops. A scan can also keep a position only and look up
waypoint and stop at that position; then each look-up might be a fault. `Entry.scan` is that scan,
with two nested loops over positions. All its positions are inside the schedule, and it lists the
same insertions (`Entry.scan_eq`).
-/

namespace DialARide

variable {α : Type}

namespace Entry

/-! ## 1. Two loops -/

/-- Dropoff positions from `position` on, `remaining` stops before the end of the schedule. -/
def scanDropoffs (entry : Entry α) (size : Nat) (destination : LocationId) :
    (remaining position : Nat) → Except Fault (List Nat)
  | 0, _ => .ok [entry.stopCount]
  | remaining + 1, position => do
    let next ← lookUp entry.stops position
    let alightsAtNext := next.location == destination
    let here := if alightsAtNext then [] else [position]
    if hasRoom entry.vehicle.capacity next.occupancy size then
      return here ++ (← scanDropoffs entry size destination remaining (position + 1))
    else if alightsAtNext then return here ++ [position + 1]
    else return here

/-- Whether the stop after a waypoint is at a location. -/
def stopsNext (entry : Entry α) (position : Nat) (location : LocationId) : Except Fault Bool :=
  if position < entry.stopCount then (·.location == location) <$> lookUp entry.stops position
  else return false

/-- Insertions with the pickup after the waypoint at a position. -/
def scanPickup (entry : Entry α) (request : Request α) (position : Nat) :
    Except Fault (List Insertion) := do
  let w ← entry.waypoint position
  if hasRoom entry.vehicle.capacity w.occupancy request.size then
    if ← entry.stopsNext position request.origin then return []
    else
      let positions ← entry.scanDropoffs request.size request.destination
        (entry.stopCount - position) position
      return positions.map (⟨position, ·⟩)
  else return []

/-- Insertions with the pickup after one of the next `remaining` waypoints. -/
def scanPickups (entry : Entry α) (request : Request α) :
    (remaining position : Nat) → Except Fault (List Insertion)
  | 0, _ => .ok []
  | remaining + 1, position => do
    let here ← entry.scanPickup request position
    let later ← scanPickups entry request remaining (position + 1)
    return here ++ later

/-- The insertions of a request into a schedule, its waypoints and stops looked up by position. -/
def scan (entry : Entry α) (request : Request α) : Except Fault (List Insertion) :=
  entry.scanPickups request (entry.stopCount + 1) 0

/-! ## 2. No position is outside -/

variable {entry : Entry α} {request : Request α} {size remaining position : Nat}
  {destination location : LocationId} {w : Waypoint α}

theorem exists_drop_eq_cons (entry : Entry α) (h : position < entry.stopCount) :
    ∃ next rest, entry.stops.drop position = next :: rest :=
  ⟨_, _, List.drop_eq_getElem_cons h⟩

theorem scanDropoffs_eq (h : position + remaining = entry.stopCount) :
    entry.scanDropoffs size destination remaining position =
      .ok (dropoffs entry.vehicle.capacity size destination position
        (entry.stops.drop position)) := by
  induction remaining generalizing position with
  | zero =>
    have hend : entry.stopCount = position := h.symm
    rw [List.drop_eq_nil_of_le hend.le, dropoffs, scanDropoffs, hend]
  | succ remaining ih =>
    have hlt : position < entry.stopCount := by omega
    obtain ⟨next, rest, hstops⟩ := exists_drop_eq_cons entry hlt
    have hlater := @ih (position + 1) (by omega)
    rw [drop_succ_of_drop_eq_cons hstops] at hlater
    rw [scanDropoffs, hstops, dropoffs, lookUp_eq_ok.mpr (getElem?_of_drop_eq_cons hstops), hlater]
    by_cases hroom : hasRoom entry.vehicle.capacity next.occupancy size = true
    · simp [hroom, bind, Except.bind, pure, Except.pure]
    · by_cases hat : next.location = destination <;>
        simp [hroom, hat, bind, Except.bind, pure, Except.pure]

theorem stopsNext_of_nil (h : entry.stops.drop position = []) :
    entry.stopsNext position location = .ok false := by
  have hend : ¬ position < entry.stopCount := Nat.not_lt.mpr (List.drop_eq_nil_iff.mp h)
  rw [stopsNext, if_neg hend]
  rfl

theorem stopsNext_of_cons {next : Stop α} {rest : List (Stop α)}
    (h : entry.stops.drop position = next :: rest) :
    entry.stopsNext position location = .ok (next.location == location) := by
  rw [stopsNext, if_pos (lt_stopCount_of_drop_eq_cons h),
    lookUp_eq_ok.mpr (getElem?_of_drop_eq_cons h)]
  rfl

theorem scanPickup_eq {boardsAtNext : Bool} (hw : entry.waypoint position = .ok w)
    (hnext : entry.stopsNext position request.origin = .ok boardsAtNext)
    (inside : position ≤ entry.stopCount) :
    entry.scanPickup request position =
      .ok (if hasRoom entry.vehicle.capacity w.occupancy request.size = true ∧
          boardsAtNext = false then
        insertionsAt entry.vehicle.capacity request position (entry.stops.drop position)
      else []) := by
  have hdropoffs : entry.scanDropoffs request.size request.destination
      (entry.stopCount - position) position = _ :=
    scanDropoffs_eq (Nat.add_sub_cancel' inside)
  rw [scanPickup, hw, hnext, hdropoffs]
  by_cases hroom : hasRoom entry.vehicle.capacity w.occupancy request.size = true
  · cases boardsAtNext <;>
      simp [hroom, insertionsAt, bind, Except.bind, pure, Except.pure]
  · simp [hroom, bind, Except.bind, pure, Except.pure]

theorem scanPickups_eq (hw : entry.waypoint position = .ok w)
    (h : position + remaining = entry.stopCount) :
    entry.scanPickups request (remaining + 1) position =
      .ok (insertionsFrom entry.vehicle.capacity request position w.occupancy
        (entry.stops.drop position)) := by
  induction remaining generalizing position w with
  | zero =>
    have hstops : entry.stops.drop position = [] := List.drop_eq_nil_of_le h.ge
    have hhere : entry.scanPickup request position = _ :=
      scanPickup_eq hw (stopsNext_of_nil hstops) h.le
    rw [scanPickups, hhere, hstops, insertionsFrom_nil]
    simp [scanPickups, bind, Except.bind, pure, Except.pure]
  | succ remaining ih =>
    have hlt : position < entry.stopCount := by omega
    obtain ⟨next, rest, hstops⟩ := exists_drop_eq_cons entry hlt
    have hnext := waypoint_succ_eq_ok (getElem?_of_drop_eq_cons hstops)
    have hhere : entry.scanPickup request position = _ :=
      scanPickup_eq hw (stopsNext_of_cons hstops) hlt.le
    have hlater := ih hnext (by omega)
    rw [drop_succ_of_drop_eq_cons hstops] at hlater
    rw [scanPickups, hhere, hlater, hstops, insertionsFrom_cons]
    simp only [beq_eq_false_iff_ne]
    rfl

/-- **Looked up by position, the insertions are the same, and no position is outside.** -/
theorem scan_eq (entry : Entry α) (request : Request α) :
    entry.scan request = .ok (entry.insertions request) := by
  have hstart : entry.waypoint 0 = .ok (.start entry.start) := rfl
  exact scanPickups_eq hstart (Nat.zero_add _)

end Entry

end DialARide
