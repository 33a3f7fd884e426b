import DialARide.Proofs.Schedule

/-!
# Timing in exact numbers

What `Timing.ofInsertion` computes from the two waypoints it looks up, and its closed forms over an
ordered field. Every insertion into a timed schedule has a timing with finite times, and its
dropoff adds no negative delay (`Timing.exists_finite`).
-/

namespace DialARide

/-! ## 1. The two rules -/

section Rules

variable {α : Type} [Scalar α] {stopDuration : α} {request : Request α} {entry : Entry α}
  {p d : Nat} {w : Waypoint α} {replaced : α}

/-- Pickup and dropoff after the same waypoint are timed together. -/
theorem Timing.ofInsertion_self (legs : Legs α) (hw : entry.waypoint p = .ok w)
    (hr : entry.driveAfter p = .ok replaced) :
    Timing.ofInsertion stopDuration request entry ⟨p, p⟩ legs
      = .ok (Timing.combined stopDuration request w replaced legs) := by
  unfold Timing.ofInsertion
  rw [hw, hr]
  exact if_pos rfl

/-- Otherwise the pickup is timed first, and the dropoff after a stop that it has delayed. -/
theorem Timing.ofInsertion_of_lt {legs : Legs α} (h : p < d) (hw : entry.waypoint p = .ok w)
    (hr : entry.driveAfter p = .ok replaced) {stop : Stop α} (hs : entry.stopAt d = .ok stop)
    {replacedAfter : α} (hr' : entry.driveAfter d = .ok replacedAfter) {t : Timing α}
    (hd : Timing.departureFrom stopDuration request w legs = t.pickupDeparture)
    (hp : Timing.separatePickupLoss t.pickupDeparture w replaced legs = t.pickupLoss)
    (ho : Timing.separateDropoff stopDuration request stop replacedAfter legs t.pickupLoss
      = (t.dropoffArrival, t.dropoffLoss)) :
    Timing.ofInsertion stopDuration request entry ⟨p, d⟩ legs = .ok t := by
  unfold Timing.ofInsertion
  rw [hw, hr, hs, hr']
  simp only [bind, Except.bind, pure, Except.pure, if_neg h.ne, hd, hp, ho]

/-- Apart from or together with the dropoff, the pickup is left at the same time. -/
theorem Timing.pickupDeparture_eq {insertion : Insertion} {legs : Legs α} {t : Timing α}
    (h : Timing.ofInsertion stopDuration request entry insertion legs = .ok t)
    (hw : entry.waypoint insertion.pickup = .ok w) :
    t.pickupDeparture = departureFrom stopDuration request w legs := by
  unfold Timing.ofInsertion at h
  obtain ⟨v, hv, h⟩ := bind_eq_ok.mp h
  obtain rfl : w = v := Except.ok.inj (hw.symm.trans hv)
  obtain ⟨replaced, -, h⟩ := bind_eq_ok.mp h
  split at h
  · cases h
    rfl
  · obtain ⟨stop, -, h⟩ := bind_eq_ok.mp h
    obtain ⟨replacedAfter, -, h⟩ := bind_eq_ok.mp h
    cases h
    rfl

/-- A dropoff apart from its pickup is timed from the stop after which it lies. -/
theorem Timing.exists_ofInsertion_of_lt (h : p < d) (inside : d ≤ entry.stopCount)
    (stopDuration : α) (request : Request α) (legs : Legs α) :
    ∃ stop replacedAfter t, entry.waypoint d = .ok (.stop stop) ∧
      Timing.ofInsertion stopDuration request entry ⟨p, d⟩ legs = .ok t ∧
      Timing.separateDropoff stopDuration request stop replacedAfter legs t.pickupLoss
        = (t.dropoffArrival, t.dropoffLoss) := by
  obtain ⟨w, hw⟩ := Entry.exists_waypoint (h.le.trans inside)
  obtain ⟨replaced, hr⟩ := Entry.exists_driveAfter (h.le.trans inside)
  obtain ⟨stop, hs, hstop, -⟩ := Entry.exists_stopAt h inside
  obtain ⟨replacedAfter, hr'⟩ := Entry.exists_driveAfter inside
  let departure := departureFrom stopDuration request w legs
  let pickupLoss := separatePickupLoss departure w replaced legs
  let dropoff := separateDropoff stopDuration request stop replacedAfter legs pickupLoss
  have hd : dropoff = (dropoff.1, dropoff.2) := rfl
  exact ⟨stop, replacedAfter, ⟨departure, dropoff.1, pickupLoss, dropoff.2⟩, hstop,
    ofInsertion_of_lt h hw hr hs hr' rfl rfl hd, hd⟩

end Rules

/-! ## 2. Closed forms -/

section Exact

variable {K : Type} [Field K] [LinearOrder K]

/-- The earliest start is a finite time, or there is none. -/
def Request.StartsFinite (request : Request (Exact K)) : Prop :=
  request.times.earliestStart = .negInf ∨ request.times.earliestStart.IsFinite

omit [Field K] [LinearOrder K] in
theorem Request.StartsFinite.isDefined {request : Request (Exact K)}
    (starts : request.StartsFinite) : request.times.earliestStart.isDefined := by
  rcases starts with h | ⟨e, h⟩ <;> rw [h] <;> rfl

namespace Legs

/-- Time of the leg to the dropoff, zero when it is absent. -/
def toDropoffTime (legs : Legs K) : K := legs.toDropoff.getD 0

/-- Time of the leg from the dropoff, zero when it is absent. -/
def fromDropoffTime (legs : Legs K) : K := legs.fromDropoff.getD 0

/-- No leg takes a negative time. -/
structure IsNonnegative (legs : Legs K) : Prop where
  toPickup : 0 ≤ legs.toPickup
  fromPickup : 0 ≤ legs.fromPickup
  toDropoff : ∀ time ∈ legs.toDropoff, 0 ≤ time
  fromDropoff : ∀ time ∈ legs.fromDropoff, 0 ≤ time

theorem IsNonnegative.toDropoffTime {legs : Legs K} (nonnegative : legs.IsNonnegative) :
    0 ≤ legs.toDropoffTime := by
  unfold Legs.toDropoffTime
  cases h : legs.toDropoff with
  | none => exact le_rfl
  | some time => exact nonnegative.toDropoff time h

omit [Field K] [LinearOrder K] in
@[simp] theorem toPickup_map_finite (legs : Legs K) :
    (legs.map Exact.finite).toPickup = .finite legs.toPickup := rfl

omit [Field K] [LinearOrder K] in
@[simp] theorem fromPickup_map_finite (legs : Legs K) :
    (legs.map Exact.finite).fromPickup = .finite legs.fromPickup := rfl

@[simp] theorem timeToDropoff_map_finite (legs : Legs K) :
    (legs.map Exact.finite).timeToDropoff = .finite legs.toDropoffTime := by
  unfold timeToDropoff toDropoffTime Legs.map
  cases legs.toDropoff with
  | none => exact Exact.zero_eq_finite
  | some time => rfl

@[simp] theorem timeFromDropoff_map_finite (legs : Legs K) :
    (legs.map Exact.finite).timeFromDropoff = .finite legs.fromDropoffTime := by
  unfold timeFromDropoff fromDropoffTime Legs.map
  cases legs.fromDropoff with
  | none => exact Exact.zero_eq_finite
  | some time => rfl

end Legs

namespace Timing

variable {request : Request (Exact K)} {w : Waypoint (Exact K)} {legs : Legs K}
  {stopDuration : K}

/-- Waiting for the earliest start of a request ends at a finite time. -/
theorem max_earliestStart_finite (starts : request.StartsFinite) (x : K) :
    (Scalar.max (.finite x) request.times.earliestStart).IsFinite := by
  rcases starts with h | ⟨e, h⟩
  · rw [h, Exact.max_negInf]
    exact Exact.isFinite_finite x
  · rw [h, Exact.max_finite]
    exact Exact.isFinite_finite _

theorem departureFrom_finite (stopDuration : K) (legs : Legs K) (starts : request.StartsFinite)
    (hw : w.departure.IsFinite) :
    (departureFrom (.finite stopDuration) request w (legs.map .finite)).IsFinite := by
  obtain ⟨s, hs⟩ := hw
  unfold departureFrom
  rw [hs, Legs.toPickup_map_finite, Exact.add_finite]
  split
  · exact max_earliestStart_finite starts s
  · obtain ⟨x, hx⟩ := max_earliestStart_finite starts (s + legs.toPickup)
    rw [hx, Exact.add_finite]
    exact Exact.isFinite_finite _

/-- The detour of a pickup and dropoff back to back, from waypoint to waypoint: negative when the
vehicle is back on its route before its schedule wants it there. `left` is the scheduled departure
from the first waypoint and `departure` the one from the pickup. -/
def detour (stopDuration left departure replaced : K) (legs : Legs K) : K :=
  departure + legs.fromPickup - left + stopDuration + legs.fromDropoffTime - replaced

/-- The detour of a pickup of its own. -/
def pickupDetour (left departure replaced : K) (legs : Legs K) : K :=
  departure - left + legs.fromPickup - replaced

/-- The detour of a dropoff of its own. -/
def dropoffDetour (stopDuration replaced : K) (legs : Legs K) : K :=
  legs.toDropoffTime + stopDuration + legs.fromDropoffTime - replaced

theorem combined_finite {departure left replaced : K}
    (hd : departureFrom (.finite stopDuration) request w (legs.map .finite) = .finite departure)
    (hw : w.departure = .finite left) :
    combined (.finite stopDuration) request w (.finite replaced) (legs.map .finite) =
      let whole := max 0 (detour stopDuration left departure replaced legs)
      ⟨.finite departure, .finite (departure + legs.fromPickup),
        .finite (min (departure - left) whole),
        .finite (whole - min (departure - left) whole)⟩ := by
  simp only [combined, hd, hw, Legs.fromPickup_map_finite, Legs.timeFromDropoff_map_finite,
    Exact.add_finite, Exact.sub_finite, Exact.clamp_finite, Exact.min_finite]
  rfl

theorem separatePickupLoss_finite {departure left replaced : K}
    (hw : w.departure = .finite left) :
    separatePickupLoss (.finite departure) w (.finite replaced) (legs.map .finite)
      = .finite (max 0 (pickupDetour left departure replaced legs)) := by
  simp only [separatePickupLoss, hw, Legs.fromPickup_map_finite, Exact.add_finite,
    Exact.sub_finite, Exact.clamp_finite]
  rfl

/-- At the destination the request alights during the stop. -/
theorem separateDropoff_merged {stop : Stop (Exact K)} {replaced : Exact K} {arrival loss : K}
    (h : stop.location = request.destination) (ha : stop.task.arrival = .finite arrival) :
    separateDropoff (.finite stopDuration) request stop replaced (legs.map .finite) (.finite loss)
      = (.finite (arrival + loss), .finite 0) := by
  refine (if_pos h).trans ?_
  rw [ha, Exact.add_finite, Exact.zero_eq_finite]

theorem separateDropoff_finite {stop : Stop (Exact K)} {departure replaced loss : K}
    (h : stop.location ≠ request.destination) (hd : stop.task.departure = .finite departure) :
    separateDropoff (.finite stopDuration) request stop (.finite replaced) (legs.map .finite)
        (.finite loss)
      = (.finite (departure + loss + legs.toDropoffTime),
          .finite (max 0 (dropoffDetour stopDuration replaced legs))) := by
  refine (if_neg h).trans ?_
  simp only [hd, Legs.timeToDropoff_map_finite, Legs.timeFromDropoff_map_finite,
    Exact.add_finite, Exact.sub_finite, Exact.clamp_finite]
  rfl

end Timing

/-! ## 3. Times that are not negatively infinite -/

/-- The legs up to the dropoff are not negatively infinite. -/
structure Legs.IsBoundedBelow (legs : Legs (Exact K)) : Prop where
  toPickup : legs.toPickup.IsBoundedBelow
  fromPickup : legs.fromPickup.IsBoundedBelow
  toDropoff : legs.timeToDropoff.IsBoundedBelow

theorem Legs.isBoundedBelow_map_finite (legs : Legs K) :
    (legs.map Exact.finite).IsBoundedBelow where
  toPickup := .inl ⟨legs.toPickup, rfl⟩
  fromPickup := .inl ⟨legs.fromPickup, rfl⟩
  toDropoff := .inl ⟨legs.toDropoffTime, legs.timeToDropoff_map_finite⟩

section Bounded

variable {request : Request (Exact K)} {w : Waypoint (Exact K)} {legs : Legs (Exact K)}

theorem Timing.isBoundedBelow_departureFrom {stopDuration : Exact K}
    (starts : request.times.earliestStart.isDefined) (hstop : stopDuration.IsBoundedBelow)
    (timed : w.departure.IsFinite) (hlegs : legs.IsBoundedBelow) :
    (departureFrom stopDuration request w legs).IsBoundedBelow := by
  have hleft : w.departure.IsBoundedBelow := .inl timed
  unfold departureFrom
  split
  · exact hleft.max starts
  · exact ((hleft.add hlegs.toPickup).max starts).add hstop

theorem Timing.isBoundedBelow_separatePickupLoss {departure drive : Exact K}
    (hdeparture : departure.IsBoundedBelow) (timed : w.departure.IsFinite)
    (hdrive : drive.IsFinite) (hlegs : legs.IsBoundedBelow) :
    (separatePickupLoss departure w drive legs).IsBoundedBelow := by
  obtain ⟨left, hleft⟩ := timed
  obtain ⟨drive, rfl⟩ := hdrive
  rw [separatePickupLoss, hleft]
  exact Exact.isBoundedBelow_clamp
    (((hdeparture.sub_finite left).add hlegs.fromPickup).sub_finite drive).isDefined

end Bounded

/-! ## 4. Where an insertion meets the schedule -/

section Meets

variable {request : Request (Exact K)} {entry : Entry (Exact K)} {legs : Legs K}
  {stopDuration left departure replaced : K} {p : Nat} {w : Waypoint (Exact K)}

/-- A pickup after waypoint `p`: the waypoint, its scheduled departure and the drive that is planned
from there, and the departure from the pickup. -/
structure PickupAfter (stopDuration : K) (request : Request (Exact K)) (entry : Entry (Exact K))
    (legs : Legs K) (p : Nat) (w : Waypoint (Exact K)) (left replaced departure : K) : Prop where
  waypoint : entry.waypoint p = .ok w
  left : w.departure = .finite left
  replaced : entry.driveAfter p = .ok (.finite replaced)
  departure :
    Timing.departureFrom (.finite stopDuration) request w (legs.map .finite) = .finite departure

theorem exists_pickupAfter (timed : entry.IsTimed) (starts : request.StartsFinite)
    (inside : p ≤ entry.stopCount) (legs : Legs K) (stopDuration : K) :
    ∃ w left replaced departure,
      PickupAfter stopDuration request entry legs p w left replaced departure := by
  obtain ⟨w, hw⟩ := Entry.exists_waypoint inside
  obtain ⟨left, hl⟩ := timed.departure hw
  obtain ⟨replaced, hr⟩ := timed.driveAfter inside
  obtain ⟨departure, hd⟩ :=
    Timing.departureFrom_finite stopDuration legs starts (timed.departure hw)
  exact ⟨w, left, replaced, departure, hw, hl, hr, hd⟩

/-- A dropoff after waypoint `d`, which is a stop: its scheduled times and the drive that is planned
from there. -/
structure DropoffAfter (entry : Entry (Exact K)) (d : Nat) (stop : Stop (Exact K))
    (arrival left replaced : K) : Prop where
  stopAt : entry.stopAt d = .ok stop
  waypoint : entry.waypoint d = .ok (.stop stop)
  arrival : stop.task.arrival = .finite arrival
  left : stop.task.departure = .finite left
  replaced : entry.driveAfter d = .ok (.finite replaced)

theorem exists_dropoffAfter (timed : entry.IsTimed) {d : Nat} (h : p < d)
    (inside : d ≤ entry.stopCount) :
    ∃ stop arrival left replaced, DropoffAfter entry d stop arrival left replaced := by
  obtain ⟨stop, hs, hstop, hmem⟩ := Entry.exists_stopAt h inside
  obtain ⟨a, ha⟩ := (timed.stops stop hmem).arrival
  obtain ⟨y, hy⟩ := (timed.stops stop hmem).departure
  obtain ⟨replaced, hr⟩ := timed.driveAfter inside
  exact ⟨stop, a, y, replaced, hs, hstop, ha, hy, hr⟩

namespace PickupAfter

/-- The timing of a pickup and dropoff back to back. -/
theorem ofInsertion_self
    (pickup : PickupAfter stopDuration request entry legs p w left replaced departure) :
    Timing.ofInsertion (.finite stopDuration) request entry ⟨p, p⟩ (legs.map .finite) =
      let whole := max 0 (Timing.detour stopDuration left departure replaced legs)
      .ok ⟨.finite departure, .finite (departure + legs.fromPickup),
        .finite (min (departure - left) whole),
        .finite (whole - min (departure - left) whole)⟩ := by
  rw [Timing.ofInsertion_self _ pickup.waypoint pickup.replaced,
    Timing.combined_finite pickup.departure pickup.left]

variable {d : Nat} {stop : Stop (Exact K)} {arrival left' replaced' : K}

/-- The timing with a dropoff at the stop after which it lies. -/
theorem ofInsertion_merged
    (pickup : PickupAfter stopDuration request entry legs p w left replaced departure)
    (dropoff : DropoffAfter entry d stop arrival left' replaced') (h : p < d)
    (hm : stop.location = request.destination) :
    Timing.ofInsertion (.finite stopDuration) request entry ⟨p, d⟩ (legs.map .finite) =
      let loss := max 0 (Timing.pickupDetour left departure replaced legs)
      .ok ⟨.finite departure, .finite (arrival + loss), .finite loss, .finite 0⟩ :=
  Timing.ofInsertion_of_lt h pickup.waypoint pickup.replaced dropoff.stopAt dropoff.replaced
    pickup.departure (Timing.separatePickupLoss_finite pickup.left)
    (Timing.separateDropoff_merged hm dropoff.arrival)

/-- The timing with a dropoff of its own. -/
theorem ofInsertion_separate
    (pickup : PickupAfter stopDuration request entry legs p w left replaced departure)
    (dropoff : DropoffAfter entry d stop arrival left' replaced') (h : p < d)
    (hm : stop.location ≠ request.destination) :
    Timing.ofInsertion (.finite stopDuration) request entry ⟨p, d⟩ (legs.map .finite) =
      let loss := max 0 (Timing.pickupDetour left departure replaced legs)
      .ok ⟨.finite departure, .finite (left' + loss + legs.toDropoffTime), .finite loss,
        .finite (max 0 (Timing.dropoffDetour stopDuration replaced' legs))⟩ :=
  Timing.ofInsertion_of_lt h pickup.waypoint pickup.replaced dropoff.stopAt dropoff.replaced
    pickup.departure (Timing.separatePickupLoss_finite pickup.left)
    (Timing.separateDropoff_finite hm dropoff.left)

end PickupAfter

/-- The timing of an insertion is finite. Its dropoff adds no negative delay to that of its pickup,
and the pickup itself saves time only when it is left before the waypoint in front of it and the
dropoff follows at once. -/
theorem PickupAfter.exists_finite [IsStrictOrderedRing K]
    (pickup : PickupAfter stopDuration request entry legs p w left replaced departure)
    (timed : entry.IsTimed) {d : Nat} (ordered : p ≤ d) (inside : d ≤ entry.stopCount) :
    ∃ arrival pickupLoss dropoffLoss : K,
      Timing.ofInsertion (.finite stopDuration) request entry ⟨p, d⟩ (legs.map .finite)
        = .ok ⟨.finite departure, .finite arrival, .finite pickupLoss, .finite dropoffLoss⟩ ∧
      0 ≤ dropoffLoss ∧ (0 ≤ pickupLoss ↔ p < d ∨ left ≤ departure) := by
  rcases Nat.eq_or_lt_of_le ordered with rfl | h
  · refine ⟨_, _, _, pickup.ofInsertion_self, sub_nonneg.mpr (min_le_right _ _), ?_⟩
    rw [le_min_iff, sub_nonneg, and_iff_left (le_max_left 0 _), or_iff_right (lt_irrefl p)]
  · obtain ⟨stop, arrival, left', replaced', dropoff⟩ := exists_dropoffAfter timed h inside
    have hloss : 0 ≤ max 0 (Timing.pickupDetour left departure replaced legs) :=
      le_max_left 0 _
    by_cases hm : stop.location = request.destination
    · exact ⟨_, _, _, pickup.ofInsertion_merged dropoff h hm, le_rfl,
        iff_of_true hloss (.inl h)⟩
    · exact ⟨_, _, _, pickup.ofInsertion_separate dropoff h hm, le_max_left _ _,
        iff_of_true hloss (.inl h)⟩

/-- **Every insertion into a timed schedule has a finite timing**, and its dropoff adds no negative
delay to that of its pickup. -/
theorem Timing.exists_finite [IsStrictOrderedRing K] (timed : entry.IsTimed)
    (starts : request.StartsFinite) {insertion : Insertion}
    (ordered : insertion.pickup ≤ insertion.dropoff)
    (inside : insertion.dropoff ≤ entry.stopCount) (legs : Legs K) (stopDuration : K) :
    ∃ t, Timing.ofInsertion (.finite stopDuration) request entry insertion (legs.map .finite)
        = .ok t ∧
      ∃ departure arrival pickupLoss dropoffLoss : K,
        t = ⟨.finite departure, .finite arrival, .finite pickupLoss, .finite dropoffLoss⟩ ∧
        0 ≤ dropoffLoss := by
  obtain ⟨w, left, replaced, departure, pickup⟩ :=
    exists_pickupAfter timed starts (ordered.trans inside) legs stopDuration
  obtain ⟨arrival, pickupLoss, dropoffLoss, ht, hloss, -⟩ :=
    pickup.exists_finite timed ordered inside
  exact ⟨_, ht, departure, arrival, pickupLoss, dropoffLoss, rfl, hloss⟩

end Meets

end Exact

namespace Sample

/-- Four legs through the sample schedule. -/
def legs : Legs ℚ := ⟨50, 40, some 30, some 20⟩

theorem legs_isNonnegative : legs.IsNonnegative where
  toPickup := by decide +kernel
  fromPickup := by decide +kernel
  toDropoff _ h := Option.some.inj h ▸ (by decide +kernel : (0 : ℚ) ≤ 30)
  fromDropoff _ h := Option.some.inj h ▸ (by decide +kernel : (0 : ℚ) ≤ 20)

end Sample

end DialARide
