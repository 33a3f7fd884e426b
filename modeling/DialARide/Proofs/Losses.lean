import DialARide.Proofs.Timing
import DialARide.Search.SettingsFile

/-!
# Losses and early pickups

No insertion gains time: neither of its losses is negative, and nobody leaves a pickup before the
earliest start, as long as a stop takes no negative time. Settings are read without a look at that.
With a stop duration of any sign the loss of a dropoff is still never negative, and neither is that
of a pickup apart from its dropoff. What remains is told exactly (`Timing.losses_nonneg_iff`): the
loss of a pickup and dropoff back to back is negative when the pickup is left before the waypoint in
front of it, and a pickup of its own may be left before the earliest start.
-/

namespace DialARide

variable {K : Type} [Field K] [LinearOrder K] [IsStrictOrderedRing K]

namespace Timing

variable {request : Request (Exact K)} {w : Waypoint (Exact K)} {legs : Legs K}
  {stopDuration : K}

/-! ## 1. The departure from a pickup -/

/-- A stop after a wait ends too early when its duration is negative, unless the vehicle comes
late. -/
theorem le_max_add_iff (starts : request.StartsFinite) (x : K) :
    request.times.earliestStart
        ≤ Scalar.max (.finite x) request.times.earliestStart + .finite stopDuration ↔
      0 ≤ stopDuration ∨ request.times.earliestStart ≤ .finite x + .finite stopDuration := by
  rcases starts with h | ⟨e, h⟩
  · rw [h, Exact.max_negInf, Exact.add_finite]
    have hle : Exact.negInf ≤ Exact.finite (x + stopDuration) := Exact.negInf_le rfl
    exact ⟨fun _ => .inr hle, fun _ => hle⟩
  · rw [h, Exact.max_finite, Exact.add_finite, Exact.add_finite, Exact.finite_le_finite,
      Exact.finite_le_finite, ← max_add_add_right, le_max_iff, le_add_iff_nonneg_right]
    exact or_comm

/-- **When a request leaves its pickup no earlier than its earliest start.** -/
theorem earliestStart_le_departureFrom_iff (stopDuration : K) (legs : Legs K)
    (starts : request.StartsFinite) (hw : w.departure.IsFinite) :
    request.times.earliestStart
        ≤ departureFrom (.finite stopDuration) request w (legs.map .finite) ↔
      (w.isStop ∧ w.location = request.origin) ∨ 0 ≤ stopDuration ∨
        request.times.earliestStart
          ≤ w.departure + .finite legs.toPickup + .finite stopDuration := by
  obtain ⟨left, hleft⟩ := hw
  unfold departureFrom
  split
  next boards =>
    have hle := (Exact.le_max (Exact.IsFinite.isDefined ⟨left, hleft⟩) starts.isDefined).2
    exact ⟨fun _ => .inl boards, fun _ => hle⟩
  next drives =>
    rw [hleft, Legs.toPickup_map_finite, Exact.add_finite, le_max_add_iff starts]
    exact (or_iff_right drives).symm

/-- The pickup is left no earlier than the waypoint in front of it. -/
theorem left_le_departureFrom (starts : request.StartsFinite) (nonnegative : legs.IsNonnegative)
    (hs : 0 ≤ stopDuration) (hw : w.departure.IsFinite) :
    w.departure ≤ departureFrom (.finite stopDuration) request w (legs.map .finite) := by
  obtain ⟨left, hleft⟩ := hw
  have hdrive := nonnegative.toPickup
  unfold departureFrom
  split
  · exact (Exact.le_max (Exact.IsFinite.isDefined ⟨left, hleft⟩) starts.isDefined).1
  · rw [hleft, Legs.toPickup_map_finite, Exact.add_finite]
    rcases starts with h | ⟨e, h⟩
    · rw [h, Exact.max_negInf, Exact.add_finite, Exact.finite_le_finite]
      linarith
    · rw [h, Exact.max_finite, Exact.add_finite, Exact.finite_le_finite]
      linarith [le_max_left (left + legs.toPickup) e]

end Timing

/-! ## 2. Losses -/

variable {request : Request (Exact K)} {entry : Entry (Exact K)} {legs : Legs K}

/-- **When losses are not negative and pickups not early**, for stop durations of either sign. The
loss of the dropoff is never negative, nor is that of a pickup apart from its dropoff. Both laws
hold for all insertions when a stop takes no negative time. -/
theorem Timing.losses_nonneg_iff (timed : entry.IsTimed) (starts : request.StartsFinite)
    {insertion : Insertion} (ordered : insertion.pickup ≤ insertion.dropoff)
    (inside : insertion.dropoff ≤ entry.stopCount) (nonnegative : legs.IsNonnegative)
    (stopDuration : K) :
    ∃ w t, entry.waypoint insertion.pickup = .ok w ∧
      Timing.ofInsertion (.finite stopDuration) request entry insertion (legs.map .finite)
        = .ok t ∧
      .finite 0 ≤ t.dropoffLoss ∧
      (.finite 0 ≤ t.pickupLoss ↔
        insertion.pickup < insertion.dropoff ∨ w.departure ≤ t.pickupDeparture) ∧
      (request.times.earliestStart ≤ t.pickupDeparture ↔
        (w.isStop ∧ w.location = request.origin) ∨ 0 ≤ stopDuration ∨
          request.times.earliestStart
            ≤ w.departure + .finite legs.toPickup + .finite stopDuration) ∧
      (0 ≤ stopDuration →
        .finite 0 ≤ t.pickupLoss ∧ request.times.earliestStart ≤ t.pickupDeparture) := by
  obtain ⟨p, d⟩ := insertion
  change p ≤ d at ordered
  change d ≤ entry.stopCount at inside
  obtain ⟨w, left, replaced, departure, pickup⟩ :=
    exists_pickupAfter timed starts (ordered.trans inside) legs stopDuration
  obtain ⟨arrival, pickupLoss, dropoffLoss, ht, hdropoff, hpickup⟩ :=
    pickup.exists_finite timed ordered inside
  have hw : w.departure.IsFinite := ⟨left, pickup.left⟩
  have hearly := earliestStart_le_departureFrom_iff stopDuration legs starts hw
  rw [pickup.departure] at hearly
  rw [← Exact.finite_le_finite, ← Exact.finite_le_finite, ← pickup.left] at hpickup
  refine ⟨w, _, pickup.waypoint, ht, Exact.finite_le_finite.mpr hdropoff, hpickup, hearly,
    fun hs => ⟨?_, hearly.mpr (.inr (.inl hs))⟩⟩
  have hleft := left_le_departureFrom starts nonnegative hs hw
  rw [pickup.departure] at hleft
  exact hpickup.mpr (.inr hleft)

/-- A pickup at once and a dropoff after the first stop of the sample, with stops of a minute. -/
theorem Timing.losses_nonneg_iff_sample :
    (Sample.entry.IsTimed ∧ Sample.request.StartsFinite ∧ (1 : Nat) ≤ Sample.entry.stopCount ∧
      Sample.legs.IsNonnegative ∧ (0 : ℚ) ≤ 60) ∧
    ∃ t, Timing.ofInsertion (.finite 60) Sample.request Sample.entry ⟨0, 1⟩
        (Sample.legs.map .finite) = .ok t ∧
      .finite 0 ≤ t.dropoffLoss ∧ .finite 0 ≤ t.pickupLoss ∧
      Sample.request.times.earliestStart ≤ t.pickupDeparture := by
  have hduration : (0 : ℚ) ≤ 60 := by decide +kernel
  have hstarts : Sample.request.StartsFinite := .inr ⟨_, rfl⟩
  have ordered : (⟨0, 1⟩ : Insertion).pickup ≤ (⟨0, 1⟩ : Insertion).dropoff := by decide
  have inside : (⟨0, 1⟩ : Insertion).dropoff ≤ Sample.entry.stopCount := by decide
  obtain ⟨w, t, -, ht, hdropoff, -, -, h⟩ :=
    Timing.losses_nonneg_iff Sample.timed hstarts ordered inside Sample.legs_isNonnegative 60
  exact ⟨⟨Sample.timed, hstarts, inside, Sample.legs_isNonnegative, hduration⟩, t, ht, hdropoff,
    h hduration⟩

namespace Sample

/-- Four legs around a pickup and dropoff back to back after the start of the sample. -/
def directLegs : Legs ℚ := ⟨10, 10, none, some 20⟩

theorem directLegs_isNonnegative : directLegs.IsNonnegative where
  toPickup := by decide +kernel
  fromPickup := by decide +kernel
  toDropoff _ h := by cases h
  fromDropoff _ h := Option.some.inj h ▸ (by decide +kernel : (0 : ℚ) ≤ 20)

end Sample

/-- A negative stop duration is read from settings. The pickup is then left before the earliest
start, and before the vehicle leaves the waypoint in front of it. -/
theorem Timing.losses_negative :
    ((Settings.parse "\x7b\"stop_duration\": -60\x7d").toOption.map
        fun settings => settings.stopDuration == -60) = some true ∧
      Entry.ofServiceEnd? Sample.vehicle Sample.start Sample.stops = .ok Sample.entry ∧
      Sample.entry.IsTimed ∧ Sample.request.StartsFinite ∧ Sample.directLegs.IsNonnegative ∧
      ∃ t, Timing.ofInsertion (.finite (-60)) Sample.request Sample.entry ⟨0, 0⟩
          (Sample.directLegs.map .finite) = .ok t ∧
        t.pickupLoss = .finite (-40) ∧ t.pickupDeparture = .finite (-40) ∧
        ¬ .finite 0 ≤ t.pickupLoss ∧
        ¬ Sample.request.times.earliestStart ≤ t.pickupDeparture := by
  refine ⟨by decide +kernel, Sample.built, Sample.timed, .inr ⟨_, rfl⟩,
    Sample.directLegs_isNonnegative, _, rfl, by decide +kernel, by decide +kernel,
    by decide +kernel, by decide +kernel⟩

end DialARide
