import DialARide.Proofs.Checks
import DialARide.Proofs.Doubles
import Mathlib.Data.List.Chain

/-!
# Constructed schedules

An entry is made of a schedule that keeps four rules (`Entry.IsSound`): there is one slack for each
waypoint, no leg is overfull, all planned times are in order, and the vehicle ends empty. The order
is checked between neighbours only; it holds between any two waypoints of a constructed entry. A
schedule that breaks a rule is refused for its first defect (`Entry.FirstDefect`): the slacks come
first, then the waypoints in turn, each with its occupancy before its times, then the end.

Whether a schedule keeps the rules is a matter of comparing times, in which doubles follow the same
laws as exact numbers (`Scalar.Ordered`).
-/

namespace DialARide

variable {α : Type} [Scalar α]

/-! ## 1. Comparing numbers -/

namespace Scalar

/-- Both are numbers, and the first one is not larger. -/
def AtMost (a b : α) : Prop := isNumber a = true ∧ isNumber b = true ∧ lt b a = false

/-- What comparison by value keeps to, for doubles as for exact numbers: zero and the two infinities
are numbers, and `AtMost` is transitive. -/
class Ordered (α : Type) [Scalar α] : Prop where
  isNumber_zero : isNumber (zero : α) = true
  isNumber_posInf : isNumber (posInf : α) = true
  isNumber_negInf : isNumber (negInf : α) = true
  atMost_trans {a b c : α} : AtMost a b → AtMost b c → AtMost a c

theorem atMost_iff {a b : α} (ha : isNumber a = true) (hb : isNumber b = true) :
    AtMost a b ↔ lt b a = false := by
  rw [AtMost, ha, hb]
  exact ⟨fun h => h.2.2, fun h => ⟨rfl, rfl, h⟩⟩

end Scalar

open Scalar (AtMost)

namespace Exact

variable {K : Type} [Field K] [LinearOrder K]

theorem atMost_iff_le {a b : Exact K} : AtMost a b ↔ a ≤ b := by
  constructor
  · intro h
    exact (lt_eq_false_iff h.1 h.2.1).mp h.2.2
  · intro h
    exact ⟨h.1, h.2.1, (lt_eq_false_iff h.1 h.2.1).mpr h⟩

instance : Scalar.Ordered (Exact K) where
  isNumber_zero := rfl
  isNumber_posInf := rfl
  isNumber_negInf := rfl
  atMost_trans hab hbc :=
    atMost_iff_le.mpr (le_trans (atMost_iff_le.mp hab) (atMost_iff_le.mp hbc))

end Exact

namespace DoubleBits

theorem atMost_iff_value_le {x y : Float} :
    AtMost x y ↔ (mk x.toBits).value ≤ (mk y.toBits).value := by
  rw [AtMost, isNumber_eq, isNumber_eq, lt_eq]
  exact Exact.atMost_iff_le

/-- Doubles are compared as exact numbers are, so they are in order as these are. -/
instance : Scalar.Ordered Float where
  isNumber_zero := rfl
  isNumber_posInf := rfl
  isNumber_negInf := rfl
  atMost_trans hab hbc := atMost_iff_value_le.mpr
    (Exact.le_trans (atMost_iff_value_le.mp hab) (atMost_iff_value_le.mp hbc))

end DoubleBits

/-! ## 2. Waypoints in order -/

/-- The second waypoint is a stop that is reached no earlier than the first one is left, and left no
earlier than it is reached. -/
def Waypoint.Precedes (v w : Waypoint α) : Prop :=
  ∃ stop, w = .stop stop ∧ AtMost v.departure stop.task.arrival ∧
    AtMost stop.task.arrival stop.task.departure

theorem Waypoint.precedes_stop {v : Waypoint α} {stop : Stop α} :
    v.Precedes (.stop stop) ↔
      AtMost v.departure stop.task.arrival ∧ AtMost stop.task.arrival stop.task.departure := by
  constructor
  · rintro ⟨_, heq, h⟩
    cases heq
    exact h
  · exact fun h => ⟨stop, rfl, h⟩

instance [Scalar.Ordered α] :
    Trans (@Waypoint.Precedes α _) Waypoint.Precedes Waypoint.Precedes where
  trans := by
    rintro v w x ⟨first, rfl, hv, hfirst⟩ ⟨second, rfl, hw, hsecond⟩
    exact ⟨second, rfl, Scalar.Ordered.atMost_trans (Scalar.Ordered.atMost_trans hv hfirst) hw,
      hsecond⟩

namespace Entry

variable {entry : Entry α} {k : Nat} {v w : Waypoint α}

/-- The times of a schedule at which a waypoint is reached or left, in the order of the schedule. -/
def plannedTimes (entry : Entry α) : List α :=
  entry.start.departure :: entry.stops.flatMap fun stop => [stop.task.arrival, stop.task.departure]

/-- The planned times are in order when each waypoint precedes the next one. -/
theorem isChain_plannedTimes_iff :
    entry.plannedTimes.IsChain AtMost ↔ entry.waypoints.IsChain Waypoint.Precedes := by
  have hstops : ∀ (stops : List (Stop α)) (v : Waypoint α),
      (v.departure :: stops.flatMap fun stop => [stop.task.arrival, stop.task.departure]).IsChain
        AtMost ↔ (v :: stops.map Waypoint.stop).IsChain Waypoint.Precedes := by
    intro stops
    induction stops with
    | nil => exact fun _ => ⟨fun _ => .singleton _, fun _ => .singleton _⟩
    | cons stop rest ih =>
      intro v
      have hrest := ih (.stop stop)
      rw [List.flatMap_cons, List.cons_append, List.cons_append, List.nil_append,
        List.isChain_cons_cons, List.isChain_cons_cons, List.map_cons, List.isChain_cons_cons,
        Waypoint.precedes_stop, and_assoc]
      exact and_congr_right fun _ => and_congr_right fun _ => hrest
  exact hstops entry.stops (.start entry.start)

/-! ## 3. Rules and defects -/

/-- No planned time of the schedule is undefined. -/
structure IsNumeric (entry : Entry α) : Prop where
  start : Scalar.isNumber entry.start.departure = true
  stops : ∀ stop ∈ entry.stops,
    Scalar.isNumber stop.task.arrival = true ∧ Scalar.isNumber stop.task.departure = true

/-- The rules of a schedule. -/
structure IsSound (entry : Entry α) : Prop where
  slacks : entry.HasSlacks
  capacity : entry.WithinCapacity
  ordered : entry.plannedTimes.IsChain AtMost
  emptyAtEnd : entry.endOccupancy = 0

/-- Waypoint `k` is left with more passengers than there are seats. -/
def OverfullAt (entry : Entry α) (k : Nat) : Prop :=
  ∃ w, entry.waypoints[k]? = some w ∧ entry.vehicle.capacity < w.occupancy

/-- Waypoint `k` does not come after the one in front of it. -/
def OutOfOrderAt (entry : Entry α) : Nat → Prop
  | 0 => False
  | k + 1 => ∃ v w, entry.waypoints[k]? = some v ∧ entry.waypoints[k + 1]? = some w ∧
      ¬ v.Precedes w

/-- The defect for which a schedule is refused: missing or surplus slacks, or else the lowest
waypoint that breaks a rule, where the occupancy counts before the times, or else passengers who are
still aboard at the end. -/
inductive FirstDefect (entry : Entry α) : EntryError → Prop where
  | slackCount (incomplete : ¬ entry.HasSlacks) :
      FirstDefect entry
        (.slackCount entry.vehicle.name (entry.stopCount + 1) entry.slack.length)
  | overCapacity {k : Nat} {w : Waypoint α} (slacks : entry.HasSlacks)
      (lowest : ∀ j < k, ¬ entry.OverfullAt j ∧ ¬ entry.OutOfOrderAt j)
      (here : entry.waypoints[k]? = some w) (full : entry.vehicle.capacity < w.occupancy) :
      FirstDefect entry (.overCapacity entry.vehicle.name k w.occupancy entry.vehicle.capacity)
  | outOfOrder {k : Nat} (slacks : entry.HasSlacks)
      (lowest : ∀ j < k, ¬ entry.OverfullAt j ∧ ¬ entry.OutOfOrderAt j)
      (room : ¬ entry.OverfullAt k) (unordered : entry.OutOfOrderAt k) :
      FirstDefect entry (.outOfOrder entry.vehicle.name k)
  | occupiedAtEnd (slacks : entry.HasSlacks)
      (kept : ∀ k, ¬ entry.OverfullAt k ∧ ¬ entry.OutOfOrderAt k)
      (occupied : entry.endOccupancy ≠ 0) :
      FirstDefect entry (.occupiedAtEnd entry.vehicle.name entry.endOccupancy)

omit [Scalar α] in
theorem overfullAt_iff (hw : entry.waypoints[k]? = some w) :
    entry.OverfullAt k ↔ entry.vehicle.capacity < w.occupancy := by
  rw [OverfullAt, hw]
  simp

theorem outOfOrderAt_succ_iff (hv : entry.waypoints[k]? = some v)
    (hw : entry.waypoints[k + 1]? = some w) : entry.OutOfOrderAt (k + 1) ↔ ¬ v.Precedes w := by
  rw [OutOfOrderAt, hv, hw]
  simp

omit [Scalar α] in
theorem withinCapacity_iff : entry.WithinCapacity ↔ ∀ k, ¬ entry.OverfullAt k := by
  unfold WithinCapacity OverfullAt
  constructor
  · rintro h k ⟨w, hw, full⟩
    exact Nat.not_lt.mpr (h w (List.mem_of_getElem? hw)) full
  · intro h w hw
    obtain ⟨k, hk⟩ := List.mem_iff_getElem?.mp hw
    exact Nat.not_lt.mp fun full => h k ⟨w, hk, full⟩

theorem isChain_waypoints_iff :
    entry.waypoints.IsChain Waypoint.Precedes ↔ ∀ k, ¬ entry.OutOfOrderAt k := by
  rw [List.isChain_iff_getElem]
  constructor
  · intro h k unordered
    cases k with
    | zero => exact unordered
    | succ k =>
      obtain ⟨v, w, hv, hw, unordered⟩ := unordered
      obtain ⟨_, rfl⟩ := List.getElem?_eq_some_iff.mp hv
      obtain ⟨hk, rfl⟩ := List.getElem?_eq_some_iff.mp hw
      exact unordered (h k hk)
  · intro h k hk
    have hv := List.getElem?_eq_getElem (Nat.lt_of_succ_lt hk)
    have hw := List.getElem?_eq_getElem hk
    exact not_not.mp (mt (outOfOrderAt_succ_iff hv hw).mpr (h (k + 1)))

/-! ## 4. The checks of a constructor -/

/-- The checks of waypoint `k`. -/
def waypointChecks (entry : Entry α) (k : Nat) (w : Waypoint α) : List (Check EntryError) :=
  [⟨w.occupancy ≤ entry.vehicle.capacity,
      .overCapacity entry.vehicle.name k w.occupancy entry.vehicle.capacity⟩,
    ⟨¬ entry.OutOfOrderAt k, .outOfOrder entry.vehicle.name k⟩]

/-- The checks of a schedule. -/
def checks (entry : Entry α) : List (Check EntryError) :=
  [⟨entry.HasSlacks,
      .slackCount entry.vehicle.name (entry.stopCount + 1) entry.slack.length⟩]
    ++ (Check.each entry.waypointChecks entry.waypoints
    ++ [⟨entry.endOccupancy = 0,
      .occupiedAtEnd entry.vehicle.name entry.endOccupancy⟩])

theorem allHold_waypointChecks (hw : entry.waypoints[k]? = some w) :
    Check.AllHold (entry.waypointChecks k w) ↔
      ¬ entry.OverfullAt k ∧ ¬ entry.OutOfOrderAt k := by
  rw [waypointChecks, Check.allHold_cons, Check.allHold_cons, and_iff_left Check.allHold_nil,
    overfullAt_iff hw, Nat.not_lt]

theorem allHold_each_waypointChecks :
    Check.AllHold (Check.each entry.waypointChecks entry.waypoints) ↔
      ∀ k, ¬ entry.OverfullAt k ∧ ¬ entry.OutOfOrderAt k := by
  rw [Check.allHold_each]
  constructor
  · intro h k
    cases hw : entry.waypoints[k]? with
    | some w => exact (allHold_waypointChecks hw).mp (h k w hw)
    | none =>
      -- there is no such waypoint, so that it cannot break a rule
      refine ⟨fun full => ?_, fun unordered => ?_⟩
      · obtain ⟨w, hw', -⟩ := full
        rw [hw] at hw'
        cases hw'
      · cases k with
        | zero => exact unordered
        | succ k =>
          obtain ⟨_, w, -, hw', -⟩ := unordered
          rw [hw] at hw'
          cases hw'
  · intro h k w hw
    exact (allHold_waypointChecks hw).mpr (h k)

/-- **All checks hold for the schedules that keep the rules.** -/
theorem allHold_checks : Check.AllHold entry.checks ↔ entry.IsSound := by
  rw [checks, Check.allHold_append, Check.allHold_append, Check.allHold_cons, Check.allHold_cons,
    allHold_each_waypointChecks, and_iff_left Check.allHold_nil, and_iff_left Check.allHold_nil]
  constructor
  · rintro ⟨slacks, kept, emptyAtEnd⟩
    exact ⟨slacks, withinCapacity_iff.mpr fun k => (kept k).1,
      isChain_plannedTimes_iff.mpr (isChain_waypoints_iff.mpr fun k => (kept k).2), emptyAtEnd⟩
  · intro sound
    have ordered := isChain_waypoints_iff.mp (isChain_plannedTimes_iff.mp sound.ordered)
    exact ⟨sound.slacks, fun k => ⟨withinCapacity_iff.mp sound.capacity k, ordered k⟩,
      sound.emptyAtEnd⟩

/-- **The first check that fails reports the first defect.** -/
theorem firstFailure_checks {error : EntryError} :
    Check.FirstFailure entry.checks error ↔ entry.FirstDefect error := by
  rw [checks, Check.firstFailure_append, Check.firstFailure_append, Check.firstFailure_singleton,
    Check.firstFailure_singleton, Check.allHold_cons, and_iff_left Check.allHold_nil,
    allHold_each_waypointChecks, Check.firstFailure_each]
  constructor
  · rintro (⟨incomplete, rfl⟩ | ⟨slacks, ⟨k, w, hw, before, failure⟩ | ⟨kept, occupied, rfl⟩⟩)
    · exact .slackCount incomplete
    · have lowest : ∀ j < k, ¬ entry.OverfullAt j ∧ ¬ entry.OutOfOrderAt j := by
        intro j hj
        have hlt : j < entry.waypoints.length :=
          hj.trans (List.getElem?_eq_some_iff.mp hw).1
        have hother := List.getElem?_eq_getElem hlt
        exact (allHold_waypointChecks hother).mp (before j hj _ hother)
      rw [waypointChecks, Check.firstFailure_cons, Check.firstFailure_singleton] at failure
      rcases failure with ⟨full, rfl⟩ | ⟨room, unordered, rfl⟩
      · exact .overCapacity slacks lowest hw (Nat.not_le.mp full)
      · exact .outOfOrder slacks lowest
          (mt (overfullAt_iff hw).mp (Nat.not_lt.mpr room)) (not_not.mp unordered)
    · exact .occupiedAtEnd slacks kept occupied
  · intro defect
    have failsAt : ∀ {k w}, (∀ j < k, ¬ entry.OverfullAt j ∧ ¬ entry.OutOfOrderAt j) →
        entry.waypoints[k]? = some w → Check.FirstFailure (entry.waypointChecks k w) error →
        ∃ k w, entry.waypoints[k]? = some w ∧
          (∀ j < k, ∀ other, entry.waypoints[j]? = some other →
            Check.AllHold (entry.waypointChecks j other)) ∧
          Check.FirstFailure (entry.waypointChecks k w) error := fun lowest hw failure =>
      ⟨_, _, hw, fun j hj _ hother => (allHold_waypointChecks hother).mpr (lowest j hj), failure⟩
    cases defect with
    | slackCount incomplete => exact .inl ⟨incomplete, rfl⟩
    | overCapacity slacks lowest hw full =>
      exact .inr ⟨slacks, .inl (failsAt lowest hw (.here (Nat.not_le.mpr full)))⟩
    | @outOfOrder k slacks lowest room unordered =>
      cases k with
      | zero => exact absurd unordered id
      | succ k =>
        obtain ⟨_, w, -, hw, -⟩ := id unordered
        have room : w.occupancy ≤ entry.vehicle.capacity :=
          Nat.not_lt.mp (mt (overfullAt_iff hw).mpr room)
        exact .inr ⟨slacks, .inl (failsAt lowest hw
          (.later room (.here (not_not.mpr unordered))))⟩
    | occupiedAtEnd slacks kept occupied => exact .inr ⟨slacks, .inr ⟨kept, occupied, rfl⟩⟩

/-! ## 5. The constructors -/

theorem outOfOrder_eq_false_iff (numeric : entry.IsNumeric) (hv : entry.waypoints[k]? = some v)
    (hw : entry.waypoints[k + 1]? = some w) :
    outOfOrder v.departure w = false ↔ ¬ entry.OutOfOrderAt (k + 1) := by
  obtain ⟨stop, hstop, rfl⟩ := waypoint_succ_inv (waypoint_eq_ok.mpr hw)
  obtain ⟨harrival, hdeparture⟩ := numeric.stops stop (List.mem_of_getElem? hstop)
  have hleft : Scalar.isNumber v.departure = true := by
    rcases List.mem_cons.mp (List.mem_of_getElem? hv) with rfl | hv
    · exact numeric.start
    · obtain ⟨previous, hprevious, rfl⟩ := List.mem_map.mp hv
      exact (numeric.stops previous hprevious).2
  rw [outOfOrderAt_succ_iff hv hw, not_not, Waypoint.precedes_stop,
    Scalar.atMost_iff hleft harrival, Scalar.atMost_iff harrival hdeparture]
  exact Bool.or_eq_false_iff

/-- What a waypoint is checked for before the ones behind it. -/
theorem settle_checkWaypoints_cons {previous : α} {rest : List (Waypoint α)}
    (order : outOfOrder previous w = false ↔ ¬ entry.OutOfOrderAt k)
    {others : List (Check EntryError)}
    (h : Check.Settle others (checkWaypoints entry.vehicle (k + 1) w.departure rest)) :
    Check.Settle (entry.waypointChecks k w ++ others)
      (checkWaypoints entry.vehicle k previous (w :: rest)) := by
  rw [checkWaypoints]
  by_cases full : entry.vehicle.capacity < w.occupancy
  · rw [if_pos full]
    exact Check.Settle.failed (Nat.not_le.mpr full)
  · rw [if_neg full]
    refine Check.Settle.passed (Nat.not_lt.mp full) ?_
    by_cases unordered : outOfOrder previous w = true
    · rw [if_pos unordered]
      exact Check.Settle.failed fun held =>
        Bool.false_ne_true ((order.mpr held).symm.trans unordered)
    · rw [if_neg unordered]
      exact Check.Settle.passed (order.mp (Bool.eq_false_of_not_eq_true unordered)) h

/-- The waypoints after waypoint `k` are checked in turn. -/
theorem settle_checkWaypoints_after (numeric : entry.IsNumeric)
    (hv : entry.waypoints[k]? = some v) {rest : List (Waypoint α)}
    (hrest : entry.waypoints.drop (k + 1) = rest) :
    Check.Settle (Check.each (fun j => entry.waypointChecks (j + (k + 1))) rest)
      (checkWaypoints entry.vehicle (k + 1) v.departure rest) := by
  induction rest generalizing k v with
  | nil => exact Check.allHold_nil
  | cons w rest ih =>
    have hw : entry.waypoints[k + 1]? = some w := by rw [← List.head?_drop, hrest, List.head?_cons]
    have hnext : entry.waypoints.drop (k + 1 + 1) = rest := by
      rw [← List.tail_drop, hrest, List.tail_cons]
    rw [Check.each_cons_from]
    exact settle_checkWaypoints_cons (outOfOrder_eq_false_iff numeric hv hw) (ih hw hnext)

theorem settle_check (numeric : entry.IsNumeric) :
    Check.Settle (Check.each entry.waypointChecks entry.waypoints
      ++ [⟨entry.endOccupancy = 0,
        .occupiedAtEnd entry.vehicle.name entry.endOccupancy⟩]) entry.check := by
  have hstart : entry.waypoints[0]? = some (.start entry.start) := rfl
  have hrest : entry.waypoints.drop 1 = entry.stops.map .stop := rfl
  have first : outOfOrder entry.start.departure (.start entry.start) = false
      ↔ ¬ entry.OutOfOrderAt 0 := ⟨fun _ => id, fun _ => rfl⟩
  refine Check.Settle.bind ?_ fun _ _ => ?_
  · rw [waypoints, Check.each_cons]
    exact settle_checkWaypoints_cons first (settle_checkWaypoints_after numeric hstart hrest)
  · by_cases occupied : entry.endOccupancy = 0
    · rw [if_neg (not_not.mpr occupied)]
      exact Check.Settle.passed occupied Check.Settle.ok
    · rw [if_pos occupied]
      exact Check.Settle.failed occupied

section Constructors

variable {vehicle : Vehicle α} {start : Start α} {stops : List (Stop α)} {slack : List α}

theorem settle_ofSlack (numeric : (⟨vehicle, start, stops, slack⟩ : Entry α).IsNumeric) :
    Check.Settle (⟨vehicle, start, stops, slack⟩ : Entry α).checks
      (ofSlack? vehicle start stops slack) := by
  by_cases complete : slack.length = stops.length + 1
  · rw [ofSlack?, if_neg (not_not.mpr complete)]
    exact Check.Settle.passed complete ((settle_check numeric).map (f := fun _ => _))
  · rw [ofSlack?, if_pos complete]
    exact Check.Settle.failed complete

/-- Any waypoint of a schedule that is in order precedes all waypoints behind it. -/
theorem IsSound.precedes [Scalar.Ordered α] (sound : entry.IsSound) {i j : Nat} (h : i < j)
    (hv : entry.waypoints[i]? = some v) (hw : entry.waypoints[j]? = some w) : v.Precedes w := by
  have ordered := (isChain_plannedTimes_iff.mp sound.ordered).pairwise
  obtain ⟨hi, rfl⟩ := List.getElem?_eq_some_iff.mp hv
  obtain ⟨hj, rfl⟩ := List.getElem?_eq_some_iff.mp hw
  exact List.pairwise_iff_getElem.mp ordered i j hi hj h

/-- When the slacks are complete, only the schedule decides. -/
theorem ofServiceEnd?_eq_map (complete : slack.length = stops.length + 1) :
    ofServiceEnd? vehicle start stops =
      (fun built => { built with slack := slackTimes start stops vehicle.serviceEnd })
        <$> ofSlack? vehicle start stops slack := by
  have derived : (⟨vehicle, start, stops, slackTimes start stops vehicle.serviceEnd⟩
      : Entry α).check = (⟨vehicle, start, stops, slack⟩ : Entry α).check := rfl
  rw [ofServiceEnd?, ofSlack?, ofSlack?, if_neg (not_not.mpr complete),
    if_neg (not_not.mpr (length_slackTimes start stops vehicle.serviceEnd))]
  show (do Entry.check _; pure _) = _ <$> (do Entry.check _; pure _)
  rw [derived]
  cases (⟨vehicle, start, stops, slack⟩ : Entry α).check with
  | error error => rfl
  | ok _ => rfl

end Constructors

end Entry

/-- **The constructors build exactly the sound schedules, and name the first defect of any other.**
In a built entry any waypoint is left before each stop behind it is reached, not only the next one.
Slacks that follow from the end of service are always complete, and otherwise the verdict is the one
on slacks that are given. -/
theorem schedule_built_iff_sound [Scalar.Ordered α] {vehicle : Vehicle α} {start : Start α}
    {stops : List (Stop α)} {slack : List α}
    (numeric : (⟨vehicle, start, stops, slack⟩ : Entry α).IsNumeric) :
    ((∃ built, Entry.ofSlack? vehicle start stops slack = .ok built) ↔
      (⟨vehicle, start, stops, slack⟩ : Entry α).IsSound) ∧
    (∀ built, Entry.ofSlack? vehicle start stops slack = .ok built →
      built = ⟨vehicle, start, stops, slack⟩ ∧
      ∀ (i j : Nat) (v : Waypoint α) (stop : Stop α), i < j → built.waypoints[i]? = some v →
        built.waypoints[j]? = some (.stop stop) →
        AtMost v.departure stop.task.arrival ∧ AtMost stop.task.arrival stop.task.departure) ∧
    (∀ error, Entry.ofSlack? vehicle start stops slack = .error error ↔
      (⟨vehicle, start, stops, slack⟩ : Entry α).FirstDefect error) ∧
    (∀ name expected actual, Entry.ofServiceEnd? vehicle start stops ≠
      .error (.slackCount name expected actual)) ∧
    (slack.length = stops.length + 1 →
      Entry.ofServiceEnd? vehicle start stops =
        (fun built => { built with slack := slackTimes start stops vehicle.serviceEnd })
          <$> Entry.ofSlack? vehicle start stops slack) := by
  have settled := Entry.settle_ofSlack numeric
  have isSound : (∃ built, Entry.ofSlack? vehicle start stops slack = .ok built) ↔
      (⟨vehicle, start, stops, slack⟩ : Entry α).IsSound :=
    settled.exists_ok_iff.trans Entry.allHold_checks
  refine ⟨isSound, fun built hbuilt => ?_, fun error => ?_, fun _ _ _ h => ?_,
    Entry.ofServiceEnd?_eq_map⟩
  · have sound := isSound.mp ⟨built, hbuilt⟩
    obtain ⟨-, -, rfl⟩ := Entry.ofSlack?_eq_ok.mp hbuilt
    refine ⟨rfl, fun i j v stop hij hv hw => ?_⟩
    exact Waypoint.precedes_stop.mp (sound.precedes hij hv hw)
  · exact settled.eq_error_iff.trans Entry.firstFailure_checks
  · have complete := length_slackTimes start stops vehicle.serviceEnd
    have derived : (⟨vehicle, start, stops, slackTimes start stops vehicle.serviceEnd⟩
        : Entry α).IsNumeric := ⟨numeric.start, numeric.stops⟩
    have defect := Entry.firstFailure_checks.mp ((Entry.settle_ofSlack derived).eq_error_iff.mp h)
    cases defect with
    | slackCount incomplete => exact incomplete complete

namespace Sample

theorem numeric : entry.IsNumeric where
  start := rfl
  stops := by
    show ∀ stop ∈ [_, _], _
    simp only [List.forall_mem_cons]
    exact ⟨⟨rfl, rfl⟩, ⟨rfl, rfl⟩, fun _ h => absurd h List.not_mem_nil⟩

/-- The sample schedule keeps the rules. -/
theorem schedule_isSound : entry.IsNumeric ∧ entry.IsSound :=
  ⟨numeric, (schedule_built_iff_sound numeric).1.mp ⟨entry, built⟩⟩

end Sample

end DialARide
