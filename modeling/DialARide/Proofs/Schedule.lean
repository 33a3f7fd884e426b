import DialARide.Insertion.Timing
import DialARide.Proofs.Exact
import Mathlib.Algebra.Order.Ring.Rat

/-!
# Positions of a schedule

What the look-ups of a schedule answer, and the stops that an insertion `(p, d)` delays: those
between pickup and dropoff, which are the stops after waypoint `p` up to waypoint `d`, and those
after the dropoff. In exact numbers a schedule is timed (`Entry.IsTimed`) when the vehicle reaches
and leaves its stops at finite times; its latest times may still be infinite.
-/

namespace DialARide

variable {α : Type}

/-! ## 1. Look-ups -/

/-- A computation in two steps succeeds when both of them do. -/
theorem bind_eq_ok {ε β γ : Type} {x : Except ε β} {f : β → Except ε γ} {result : γ} :
    x >>= f = .ok result ↔ ∃ item, x = .ok item ∧ f item = .ok result := by
  cases x with
  | error e =>
    constructor
    · intro h
      cases h
    · intro h
      obtain ⟨_, h, -⟩ := h
      cases h
  | ok item =>
    constructor
    · intro h
      exact ⟨item, rfl, h⟩
    · intro h
      obtain ⟨_, h, hf⟩ := h
      cases h
      exact hf

theorem lookUp_eq_ok {β : Type} {items : List β} {index : Nat} {item : β} :
    lookUp items index = .ok item ↔ items[index]? = some item := by
  unfold lookUp
  cases items[index]? with
  | none => simp
  | some found => simp

namespace Entry

theorem waypoint_eq_ok {entry : Entry α} {k : Nat} {w : Waypoint α} :
    entry.waypoint k = .ok w ↔ entry.waypoints[k]? = some w := by
  cases k with
  | zero => simp [waypoint, waypoints]
  | succ k =>
    rw [waypoint, waypoints, List.getElem?_cons_succ, List.getElem?_map]
    unfold lookUp
    cases entry.stops[k]? with
    | none => simp
    | some stop => simp

/-- Waypoint `k + 1` is stop `k`. -/
theorem waypoint_succ_eq_ok {entry : Entry α} {k : Nat} {stop : Stop α}
    (h : entry.stops[k]? = some stop) : entry.waypoint (k + 1) = .ok (.stop stop) := by
  rw [waypoint, lookUp_eq_ok.mpr h]
  rfl

theorem waypoint_succ_inv {entry : Entry α} {k : Nat} {w : Waypoint α}
    (h : entry.waypoint (k + 1) = .ok w) :
    ∃ stop, entry.stops[k]? = some stop ∧ w = .stop stop := by
  rw [waypoint_eq_ok, waypoints, List.getElem?_cons_succ, List.getElem?_map] at h
  obtain ⟨stop, hstop, rfl⟩ := Option.map_eq_some_iff.mp h
  exact ⟨stop, hstop, rfl⟩

theorem exists_waypoint {entry : Entry α} {k : Nat} (h : k ≤ entry.stopCount) :
    ∃ w, entry.waypoint k = .ok w := by
  cases k with
  | zero => exact ⟨_, rfl⟩
  | succ k => exact ⟨_, waypoint_succ_eq_ok (List.getElem?_eq_getElem h)⟩

/-- A waypoint after the first one is a stop. -/
theorem exists_stopAt {entry : Entry α} {j k : Nat} (hj : j < k) (h : k ≤ entry.stopCount) :
    ∃ stop, entry.stopAt k = .ok stop ∧ entry.waypoint k = .ok (.stop stop) ∧
      stop ∈ entry.stops := by
  cases k with
  | zero => exact absurd hj (Nat.not_lt_zero j)
  | succ k =>
    have hk : entry.stops[k]? = some entry.stops[k] := List.getElem?_eq_getElem h
    exact ⟨_, lookUp_eq_ok.mpr hk, waypoint_succ_eq_ok hk, List.getElem_mem h⟩

theorem waypoint_of_stopAt {entry : Entry α} {k : Nat} {stop : Stop α}
    (h : entry.stopAt k = .ok stop) : entry.waypoint k = .ok (.stop stop) := by
  cases k with
  | zero => cases h
  | succ k => exact waypoint_succ_eq_ok (lookUp_eq_ok.mp h)

theorem mem_of_stopAt {entry : Entry α} {k : Nat} {stop : Stop α}
    (h : entry.stopAt k = .ok stop) : stop ∈ entry.stops := by
  cases k with
  | zero => cases h
  | succ k => exact List.mem_of_getElem? (lookUp_eq_ok.mp h)

section Next

variable {entry : Entry α} {k : Nat} {next : Stop α} {rest : List (Stop α)}

theorem getElem?_of_drop_eq_cons (h : entry.stops.drop k = next :: rest) :
    entry.stops[k]? = some next := by
  rw [← List.head?_drop, h, List.head?_cons]

theorem drop_succ_of_drop_eq_cons (h : entry.stops.drop k = next :: rest) :
    entry.stops.drop (k + 1) = rest := by
  rw [← List.tail_drop, h, List.tail_cons]

theorem lt_stopCount_of_drop_eq_cons (h : entry.stops.drop k = next :: rest) :
    k < entry.stopCount :=
  (List.getElem?_eq_some_iff.mp (getElem?_of_drop_eq_cons h)).1

end Next

/-! ## 2. The stops of an insertion -/

/-- The stops after the pickup up to the dropoff. -/
def between (entry : Entry α) (insertion : Insertion) : List (Stop α) :=
  (entry.stops.drop insertion.pickup).take (insertion.dropoff - insertion.pickup)

/-- The stops after the dropoff. -/
def after (entry : Entry α) (insertion : Insertion) : List (Stop α) :=
  entry.stops.drop insertion.dropoff

theorem drop_pickup_eq {entry : Entry α} {insertion : Insertion}
    (ordered : insertion.pickup ≤ insertion.dropoff) :
    entry.stops.drop insertion.pickup = entry.between insertion ++ entry.after insertion := by
  have h : entry.after insertion
      = (entry.stops.drop insertion.pickup).drop (insertion.dropoff - insertion.pickup) := by
    rw [List.drop_drop, Nat.add_sub_cancel' ordered, after]
  rw [h, between, List.take_append_drop]

section Between

variable {entry : Entry α} {p d : Nat}

theorem length_between (inside : d ≤ entry.stopCount) :
    (entry.between ⟨p, d⟩).length = d - p := by
  rw [between, List.length_take, List.length_drop]
  exact Nat.min_eq_left (Nat.sub_le_sub_right inside p)

/-- The last stop before a dropoff of its own is the one it follows. -/
theorem between_eq_concat {stop : Stop α} (h : p < d)
    (hs : entry.waypoint d = .ok (.stop stop)) :
    ∃ stops, entry.between ⟨p, d⟩ = stops ++ [stop] := by
  obtain ⟨k, rfl⟩ := Nat.exists_eq_succ_of_ne_zero (Nat.ne_zero_of_lt h)
  obtain ⟨stop', hstop, heq⟩ := waypoint_succ_inv hs
  cases heq
  have hp : p ≤ k := Nat.le_of_lt_succ h
  refine ⟨(entry.stops.drop p).take (k - p), ?_⟩
  rw [between, Nat.succ_sub hp, List.take_add_one, List.getElem?_drop,
    Nat.add_sub_cancel' hp, hstop]
  rfl

theorem between_eq_cons {first : Stop α} {rest : List (Stop α)} (h : p < d)
    (hrest : entry.stops.drop p = first :: rest) :
    ∃ stops, entry.between ⟨p, d⟩ = first :: stops := by
  obtain ⟨k, hk⟩ := Nat.exists_eq_succ_of_ne_zero (Nat.sub_ne_zero_of_lt h)
  refine ⟨rest.take k, ?_⟩
  rw [between, hrest, hk, List.take_succ_cons]

end Between

variable [Scalar α]

/-- The drive to the next stop that the schedule plans. -/
theorem driveAfter_of_getElem? {entry : Entry α} {k : Nat} {w : Waypoint α} {next : Stop α}
    (hw : entry.waypoint k = .ok w) (hnext : entry.stops[k]? = some next) :
    entry.driveAfter k = .ok (next.task.arrival - w.departure) := by
  have hk : k < entry.stopCount := (List.getElem?_eq_some_iff.mp hnext).1
  rw [driveAfter, if_pos hk, lookUp_eq_ok.mpr hnext, hw]
  rfl

theorem driveAfter_of_cons {entry : Entry α} {k : Nat} {w : Waypoint α} {next : Stop α}
    {rest : List (Stop α)} (hw : entry.waypoint k = .ok w)
    (h : entry.stops.drop k = next :: rest) :
    entry.driveAfter k = .ok (next.task.arrival - w.departure) :=
  driveAfter_of_getElem? hw (getElem?_of_drop_eq_cons h)

/-- After the last waypoint there is none. -/
theorem driveAfter_of_nil {entry : Entry α} {k : Nat} (h : entry.stops.drop k = []) :
    entry.driveAfter k = .ok Scalar.zero := by
  have hk : ¬ k < entry.stopCount := Nat.not_lt.mpr (List.drop_eq_nil_iff.mp h)
  rw [driveAfter, if_neg hk]
  rfl

theorem exists_driveAfter {entry : Entry α} {k : Nat} (h : k ≤ entry.stopCount) :
    ∃ r, entry.driveAfter k = .ok r := by
  obtain ⟨w, hw⟩ := exists_waypoint h
  cases hrest : entry.stops.drop k with
  | nil => exact ⟨_, driveAfter_of_nil hrest⟩
  | cons next rest => exact ⟨_, driveAfter_of_cons hw hrest⟩

end Entry

/-! ## 3. Constructed entries -/

/-- There is one slack for each waypoint. -/
def Entry.HasSlacks (entry : Entry α) : Prop := entry.slack.length = entry.stopCount + 1

theorem Entry.ofSlack?_eq_ok [Scalar α] {vehicle : Vehicle α} {start : Start α}
    {stops : List (Stop α)} {slack : List α} {entry : Entry α} :
    Entry.ofSlack? vehicle start stops slack = .ok entry ↔
      slack.length = stops.length + 1 ∧ (⟨vehicle, start, stops, slack⟩ : Entry α).check = .ok () ∧
        entry = ⟨vehicle, start, stops, slack⟩ := by
  unfold Entry.ofSlack?
  by_cases h : slack.length = stops.length + 1
  · cases hc : (⟨vehicle, start, stops, slack⟩ : Entry α).check with
    | error e => simp [h, hc, bind, Except.bind]
    | ok u => simp [h, hc, bind, Except.bind, pure, Except.pure, eq_comm]
  · simp [h, bind, Except.bind, throw, throwThe, MonadExceptOf.throw]

/-- Both constructors see to it that the slacks are complete. -/
theorem Entry.hasSlacks_of_ofSlack [Scalar α] {vehicle : Vehicle α} {start : Start α}
    {stops : List (Stop α)} {slack : List α} {entry : Entry α}
    (built : Entry.ofSlack? vehicle start stops slack = .ok entry) : entry.HasSlacks := by
  obtain ⟨hlength, -, rfl⟩ := Entry.ofSlack?_eq_ok.mp built
  exact hlength

/-- No leg of the schedule is overfull. -/
def Entry.WithinCapacity (entry : Entry α) : Prop :=
  ∀ w ∈ entry.waypoints, w.occupancy ≤ entry.vehicle.capacity

/-- A waypoint passes when it is neither overfull nor out of order, and the following ones pass. -/
theorem Entry.checkWaypoints_cons [Scalar α] {vehicle : Vehicle α} {index : Nat} {previous : α}
    {w : Waypoint α} {rest : List (Waypoint α)} :
    Entry.checkWaypoints vehicle index previous (w :: rest) = .ok () ↔
      w.occupancy ≤ vehicle.capacity ∧ Entry.outOfOrder previous w = false ∧
        Entry.checkWaypoints vehicle (index + 1) w.departure rest = .ok () := by
  rw [Entry.checkWaypoints]
  by_cases hfull : vehicle.capacity < w.occupancy
  · simp [hfull]
  · by_cases horder : Entry.outOfOrder previous w = true
    · simp [hfull, horder]
    · simp [hfull, horder, Nat.not_lt.mp hfull]

theorem Entry.occupancy_le_of_checkWaypoints [Scalar α] {vehicle : Vehicle α} {index : Nat}
    {previous : α} {waypoints : List (Waypoint α)}
    (h : Entry.checkWaypoints vehicle index previous waypoints = .ok ()) :
    ∀ w ∈ waypoints, w.occupancy ≤ vehicle.capacity := by
  induction waypoints generalizing index previous with
  | nil => exact fun _ hw => absurd hw List.not_mem_nil
  | cons w rest ih =>
    obtain ⟨hw, -, hrest⟩ := Entry.checkWaypoints_cons.mp h
    rw [List.forall_mem_cons]
    exact ⟨hw, ih hrest⟩

theorem Entry.withinCapacity_of_ofSlack [Scalar α] {vehicle : Vehicle α} {start : Start α}
    {stops : List (Stop α)} {slack : List α} {entry : Entry α}
    (built : Entry.ofSlack? vehicle start stops slack = .ok entry) : entry.WithinCapacity := by
  obtain ⟨-, hcheck, rfl⟩ := Entry.ofSlack?_eq_ok.mp built
  obtain ⟨_, hwaypoints, -⟩ := bind_eq_ok.mp hcheck
  exact Entry.occupancy_le_of_checkWaypoints hwaypoints

/-! ## 4. Visits -/

/-- When a vehicle reaches and leaves a stop. -/
structure Visit (α : Type) where
  arrival : α
  departure : α
  deriving DecidableEq, Repr

/-- The visit of a stop by a vehicle that is `delay` late there. -/
def Stop.visitLate [Scalar α] (stop : Stop α) (delay : α) : Visit α :=
  ⟨stop.task.arrival + delay, stop.task.departure + delay⟩

/-! ## 5. Timed schedules -/

section Exact

variable {K : Type}

/-- The vehicle reaches and leaves the stop at finite times. -/
structure StopTask.IsTimed (task : StopTask (Exact K)) : Prop where
  arrival : task.arrival.IsFinite
  departure : task.departure.IsFinite

/-- The latest times of the stop are numbers; infinite where there is no limit. -/
structure StopTask.IsLimited (task : StopTask (Exact K)) : Prop where
  latestArrival : task.latestArrival.isDefined
  latestDeparture : task.latestDeparture.isDefined

/-- Every latest time of the schedule and the end of service are numbers. -/
structure Entry.IsLimited (entry : Entry (Exact K)) : Prop where
  stops : ∀ stop ∈ entry.stops, stop.task.IsLimited
  serviceEnd : entry.vehicle.serviceEnd.isDefined

/-- Every service time of the schedule is finite. -/
structure Entry.IsTimed (entry : Entry (Exact K)) : Prop where
  start : entry.start.departure.IsFinite
  stops : ∀ stop ∈ entry.stops, stop.task.IsTimed

theorem scheduleEnd_isFinite {start : Start (Exact K)} {stops : List (Stop (Exact K))}
    (left : start.departure.IsFinite) (timed : ∀ stop ∈ stops, stop.task.IsTimed) :
    (scheduleEnd start stops).IsFinite := by
  unfold scheduleEnd
  split
  next stop h => exact (timed stop (List.mem_of_getLast? h)).departure
  next => exact left

namespace Entry

variable {entry : Entry (Exact K)}

theorem IsTimed.departure (timed : entry.IsTimed) {k : Nat} {w : Waypoint (Exact K)}
    (hw : entry.waypoint k = .ok w) : w.departure.IsFinite := by
  rw [waypoint_eq_ok] at hw
  rcases List.mem_cons.mp (List.mem_of_getElem? hw) with rfl | hw
  · exact timed.start
  · obtain ⟨stop, hstop, rfl⟩ := List.mem_map.mp hw
    exact (timed.stops stop hstop).departure

theorem IsTimed.scheduleEnd (timed : entry.IsTimed) :
    (scheduleEnd entry.start entry.stops).IsFinite :=
  scheduleEnd_isFinite timed.start timed.stops

variable [Field K] [LinearOrder K]

theorem IsTimed.driveAfter (timed : entry.IsTimed) {k : Nat} (h : k ≤ entry.stopCount) :
    ∃ r, entry.driveAfter k = .ok (.finite r) := by
  obtain ⟨w, hw⟩ := exists_waypoint h
  cases hrest : entry.stops.drop k with
  | nil => exact ⟨0, by rw [driveAfter_of_nil hrest, Exact.zero_eq_finite]⟩
  | cons next rest =>
    have hnext : next ∈ entry.stops :=
      List.mem_of_mem_drop (hrest ▸ List.mem_cons_self : next ∈ entry.stops.drop k)
    obtain ⟨x, hx⟩ := (timed.stops next hnext).arrival
    obtain ⟨y, hy⟩ := timed.departure hw
    exact ⟨x - y, by rw [driveAfter_of_cons hw hrest, hx, hy, Exact.sub_finite]⟩

theorem IsTimed.isFinite_driveAfter (timed : entry.IsTimed) {k : Nat}
    (inside : k ≤ entry.stopCount) {drive : Exact K} (h : entry.driveAfter k = .ok drive) :
    drive.IsFinite := by
  obtain ⟨x, hx⟩ := timed.driveAfter inside
  exact ⟨x, Except.ok.inj (h.symm.trans hx)⟩

end Entry

end Exact

/-! ## 6. A sample schedule

One vehicle with two planned stops and a request that it could serve. -/

namespace Sample

/-- Four seats, until time 1000. -/
def vehicle : Vehicle (Exact ℚ) := ⟨0, "v0", 4, .finite 1000⟩

/-- It leaves location 0 at time 0. -/
def start : Start (Exact ℚ) := ⟨0, .finite 0, 0⟩

/-- Someone boards at location 3 and alights at location 2. -/
def stops : List (Stop (Exact ℚ)) := [
  ⟨3, ⟨.finite 100, .finite 130, .finite 200, .posInf⟩, 1⟩,
  ⟨2, ⟨.finite 200, .finite 230, .posInf, .finite 400⟩, 0⟩]

/-- The entry of the vehicle. -/
def entry : Entry (Exact ℚ) := ⟨vehicle, start, stops, slackTimes start stops vehicle.serviceEnd⟩

/-- From location 1 to location 2, at time 20 or later. -/
def request : Request (Exact ℚ) := ⟨"r0", 1, 2, 1, ⟨.finite 20, .posInf, .posInf⟩⟩

/-- The same request with an arrival by time 120. -/
def tightRequest : Request (Exact ℚ) :=
  { request with times := ⟨.finite 20, .posInf, .finite 120⟩ }

theorem built : Entry.ofServiceEnd? vehicle start stops = .ok entry := rfl

theorem timed : entry.IsTimed where
  start := ⟨_, rfl⟩
  stops := by
    show ∀ stop ∈ [_, _], _
    simp only [List.forall_mem_cons]
    exact ⟨⟨⟨_, rfl⟩, ⟨_, rfl⟩⟩, ⟨⟨_, rfl⟩, ⟨_, rfl⟩⟩, fun _ h => absurd h List.not_mem_nil⟩

theorem limited : entry.IsLimited where
  serviceEnd := rfl
  stops := by
    show ∀ stop ∈ [_, _], _
    simp only [List.forall_mem_cons]
    exact ⟨⟨rfl, rfl⟩, ⟨rfl, rfl⟩, fun _ h => absurd h List.not_mem_nil⟩

end Sample

end DialARide
