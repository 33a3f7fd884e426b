import DialARide.Proofs.Construction
import DialARide.Proofs.Timing

/-!
# Rides

Nobody is dropped off before the drive from the pickup is over (`Timing.ride_before_dropoff`). For a
pickup and dropoff back to back the timing says so itself. Otherwise the dropoff is timed from the
schedule, shifted by the pickup loss, and not from the pickup. Two facts connect them: the pickup
loss, although it is clamped, makes the next stop late enough for the drive that leads there
(`Timing.ride_le_nextArrival`), and a constructed schedule reaches its stops in order
(`Entry.IsSound.arrival_le_arrival`).
-/

namespace DialARide

variable {K : Type} [Field K] [LinearOrder K]

/-! ## 1. The order of arrivals -/

namespace Entry

variable {entry : Entry (Exact K)} {j k : Nat} {stop later : Stop (Exact K)}

theorem IsTimed.isNumeric (timed : entry.IsTimed) : entry.IsNumeric where
  start := timed.start.isDefined
  stops stop hstop :=
    ⟨(timed.stops stop hstop).arrival.isDefined, (timed.stops stop hstop).departure.isDefined⟩

theorem IsTimed.isSound (timed : entry.IsTimed) {vehicle : Vehicle (Exact K)}
    {start : Start (Exact K)} {stops : List (Stop (Exact K))} {slack : List (Exact K)}
    (built : ofSlack? vehicle start stops slack = .ok entry) : entry.IsSound := by
  obtain ⟨-, -, rfl⟩ := ofSlack?_eq_ok.mp built
  exact allHold_checks.mp ((settle_ofSlack timed.isNumeric).exists_ok_iff.mp ⟨_, built⟩)

/-- A stop is left no earlier than it is reached. -/
theorem IsSound.arrival_le_departure (sound : entry.IsSound)
    (hstop : entry.stops[k]? = some stop) : stop.task.arrival ≤ stop.task.departure := by
  have hw := waypoint_eq_ok.mp (waypoint_succ_eq_ok hstop)
  have hstart : entry.waypoints[0]? = some (.start entry.start) := rfl
  have h := Waypoint.precedes_stop.mp (sound.precedes (Nat.succ_pos k) hstart hw)
  exact Exact.atMost_iff_le.mp h.2

/-- Stops are reached in the order of the schedule. -/
theorem IsSound.arrival_le_arrival (sound : entry.IsSound) (h : j ≤ k)
    (hstop : entry.stops[j]? = some stop) (hlater : entry.stops[k]? = some later) :
    stop.task.arrival ≤ later.task.arrival := by
  rcases Nat.eq_or_lt_of_le h with rfl | h
  · obtain rfl := Option.some.inj (hstop.symm.trans hlater)
    exact Exact.le_refl (sound.arrival_le_departure hstop).1
  · have hv := waypoint_eq_ok.mp (waypoint_succ_eq_ok hstop)
    have hw := waypoint_eq_ok.mp (waypoint_succ_eq_ok hlater)
    have hbetween := Waypoint.precedes_stop.mp (sound.precedes (Nat.succ_lt_succ h) hv hw)
    exact Exact.le_trans (sound.arrival_le_departure hstop) (Exact.atMost_iff_le.mp hbetween.1)

end Entry

/-! ## 2. The delay of the next stop -/

namespace Timing

variable {request : Request (Exact K)} {w : Waypoint (Exact K)} {legs : Legs K}

variable [IsStrictOrderedRing K]

/-- **The pickup loss makes the next stop as late as the drive from the pickup needs.** -/
theorem ride_le_nextArrival {departure : Exact K} (hd : departure.IsBoundedBelow) {left arrival : K}
    (hw : w.departure = .finite left) :
    departure + .finite legs.fromPickup ≤ .finite arrival
      + separatePickupLoss departure w (.finite (arrival - left)) (legs.map .finite) := by
  rcases hd with ⟨x, rfl⟩ | rfl
  · have hride : x + legs.fromPickup
        ≤ arrival + max 0 (pickupDetour left x (arrival - left) legs) := by
      have hclamp := le_max_right 0 (pickupDetour left x (arrival - left) legs)
      unfold pickupDetour at hclamp ⊢
      linarith
    rw [separatePickupLoss_finite hw, Exact.add_finite, Exact.add_finite, Exact.finite_le_finite]
    exact hride
  · rw [separatePickupLoss, hw]
    exact Exact.le_refl rfl

/-- A dropoff apart from its pickup is not earlier than the delayed stop after which it lies. -/
theorem arrival_le_separateDropoff (nonnegative : legs.IsNonnegative) {stop : Stop (Exact K)}
    (timed : stop.task.IsTimed) (served : stop.task.arrival ≤ stop.task.departure)
    {loss : Exact K} (hl : loss.IsBoundedBelow) (stopDuration replaced : Exact K) :
    stop.task.arrival + loss
      ≤ (separateDropoff stopDuration request stop replaced (legs.map .finite) loss).1 := by
  have hlate := Exact.IsBoundedBelow.add (.inl timed.arrival) hl
  unfold separateDropoff
  split
  · exact Exact.le_refl hlate.isDefined
  · have hleave : stop.task.arrival + loss ≤ stop.task.departure + loss :=
      Exact.add_le_add (.inl timed.arrival) hl served (Exact.le_refl hl.isDefined)
    have hdrive : (Scalar.zero : Exact K) ≤ (legs.map Exact.finite).timeToDropoff := by
      rw [Legs.timeToDropoff_map_finite, Exact.zero_eq_finite, Exact.finite_le_finite]
      exact nonnegative.toDropoffTime
    have hdropoff := Exact.add_le_add hlate Exact.isBoundedBelow_zero hleave hdrive
    rwa [Exact.add_zero] at hdropoff

/-! ## 3. Pickup before dropoff -/

section Insertions

variable {entry : Entry (Exact K)} (timed : entry.IsTimed)
  (starts : request.times.earliestStart.isDefined) (nonnegative : legs.IsNonnegative)
  (stopDuration : K)
include timed starts nonnegative

/-- A dropoff apart from its pickup is delayed as much as the stops between them. -/
theorem exists_ride_of_lt (sound : entry.IsSound) {p d : Nat} (h : p < d)
    (inside : d ≤ entry.stopCount) :
    ∃ t, Timing.ofInsertion (.finite stopDuration) request entry ⟨p, d⟩ (legs.map .finite)
        = .ok t ∧
      t.pickupDeparture + .finite legs.fromPickup ≤ t.dropoffArrival := by
  obtain ⟨w, hw⟩ := Entry.exists_waypoint (h.le.trans inside)
  obtain ⟨left, hleft⟩ := timed.departure hw
  -- the stop that follows the pickup, and the one after which the dropoff lies
  obtain ⟨next, hnext⟩ : ∃ next, entry.stops[p]? = some next :=
    ⟨_, List.getElem?_eq_getElem (h.trans_le inside)⟩
  obtain ⟨k, rfl⟩ := Nat.exists_eq_succ_of_ne_zero (Nat.ne_zero_of_lt h)
  obtain ⟨stop, hstop⟩ : ∃ stop, entry.stops[k]? = some stop :=
    ⟨_, List.getElem?_eq_getElem inside⟩
  obtain ⟨arrival, harrival⟩ := (timed.stops next (List.mem_of_getElem? hnext)).arrival
  have hr : entry.driveAfter p = .ok (.finite (arrival - left)) := by
    rw [Entry.driveAfter_of_getElem? hw hnext, harrival, hleft, Exact.sub_finite]
  obtain ⟨replacedAfter, hr'⟩ := Entry.exists_driveAfter inside
  let departure := departureFrom (.finite stopDuration) request w (legs.map .finite)
  let loss := separatePickupLoss departure w (.finite (arrival - left)) (legs.map .finite)
  let dropoff :=
    separateDropoff (.finite stopDuration) request stop replacedAfter (legs.map .finite) loss
  refine ⟨⟨departure, dropoff.1, loss, dropoff.2⟩,
    ofInsertion_of_lt h hw hr (lookUp_eq_ok.mpr hstop) hr' rfl rfl rfl, ?_⟩
  have hd : departure.IsBoundedBelow :=
    isBoundedBelow_departureFrom starts (.inl ⟨stopDuration, rfl⟩) ⟨left, hleft⟩
      legs.isBoundedBelow_map_finite
  have hloss : loss.IsBoundedBelow :=
    isBoundedBelow_separatePickupLoss hd ⟨left, hleft⟩ (Exact.isFinite_finite _)
      legs.isBoundedBelow_map_finite
  have hride : departure + .finite legs.fromPickup ≤ .finite arrival + loss :=
    ride_le_nextArrival hd hleft
  have hordered : Exact.finite arrival ≤ stop.task.arrival :=
    harrival ▸ sound.arrival_le_arrival (Nat.le_of_lt_succ h) hnext hstop
  have hdelayed : .finite arrival + loss ≤ stop.task.arrival + loss :=
    Exact.add_le_add (.inl (Exact.isFinite_finite arrival)) hloss hordered
      (Exact.le_refl hloss.isDefined)
  have hdropoff : stop.task.arrival + loss ≤ dropoff.1 :=
    arrival_le_separateDropoff nonnegative (timed.stops stop (List.mem_of_getElem? hstop))
      (sound.arrival_le_departure hstop) hloss _ _
  exact Exact.le_trans (Exact.le_trans hride hdelayed) hdropoff

/-- **Nobody is dropped off before the drive from the pickup is over**, in any constructed schedule,
wherever pickup and dropoff lie and however long a stop takes. -/
theorem ride_before_dropoff {vehicle : Vehicle (Exact K)} {start : Start (Exact K)}
    {stops : List (Stop (Exact K))} {slack : List (Exact K)}
    (built : Entry.ofSlack? vehicle start stops slack = .ok entry) {insertion : Insertion}
    (ordered : insertion.pickup ≤ insertion.dropoff)
    (inside : insertion.dropoff ≤ entry.stopCount) :
    ∃ t, Timing.ofInsertion (.finite stopDuration) request entry insertion (legs.map .finite)
        = .ok t ∧
      t.pickupDeparture + .finite legs.fromPickup ≤ t.dropoffArrival := by
  obtain ⟨p, d⟩ := insertion
  change p ≤ d at ordered
  change d ≤ entry.stopCount at inside
  rcases Nat.eq_or_lt_of_le ordered with rfl | h
  · obtain ⟨w, hw⟩ := Entry.exists_waypoint inside
    obtain ⟨replaced, hr⟩ := Entry.exists_driveAfter inside
    have hd := isBoundedBelow_departureFrom starts (.inl ⟨stopDuration, rfl⟩)
      (timed.departure hw) legs.isBoundedBelow_map_finite
    have harrival := hd.add legs.isBoundedBelow_map_finite.fromPickup
    exact ⟨_, ofInsertion_self _ hw hr, Exact.le_refl harrival.isDefined⟩
  · exact exists_ride_of_lt timed starts nonnegative stopDuration (timed.isSound built) h inside

end Insertions

/-- A pickup at once, and a dropoff during the second stop of the sample. -/
theorem ride_before_dropoff_sample :
    (Entry.ofSlack? Sample.vehicle Sample.start Sample.stops Sample.entry.slack
        = .ok Sample.entry ∧
      Sample.entry.IsTimed ∧ Sample.request.times.earliestStart.isDefined = true ∧
      (2 : Nat) ≤ Sample.entry.stopCount ∧ Sample.legs.IsNonnegative) ∧
    ∃ t, Timing.ofInsertion (.finite 60) Sample.request Sample.entry ⟨0, 2⟩
        (Sample.legs.map .finite) = .ok t ∧
      t.pickupDeparture + .finite Sample.legs.fromPickup ≤ t.dropoffArrival :=
  ⟨⟨Sample.built, Sample.timed, rfl, by decide, Sample.legs_isNonnegative⟩,
    ride_before_dropoff Sample.timed rfl Sample.legs_isNonnegative 60 Sample.built (by decide)
      (by decide)⟩

end Timing

end DialARide
