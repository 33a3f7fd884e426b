import DialARide.Proofs.Carries
import DialARide.Proofs.Route
import Mathlib.Data.List.Basic

/-!
# Timing and replay

The closed forms of a timing tell what driving the changed route would tell
(`Entry.replay_agrees`): when the request leaves the pickup and reaches the dropoff, and how late
the vehicle is at every later stop. After the dropoff the vehicle may be less late than both losses
together, where a dropoff that saves time makes up for the pickup; when exactly is part of the
statement. So every offer that a search finds for a vehicle comes with the times of its own route
(`Search.exists_replays_of_evaluateVehicle_eq_ok`).
-/

namespace DialARide

open Progress (late run onSchedule)

/-! ## 1. The end of a schedule -/

section Ends

variable {α : Type} {entry : Entry α} {k : Nat} {now : Progress α}

theorem Entry.scheduleEnd_of_concat {stops : List (Stop α)} {last : Stop α}
    (h : entry.stops.drop k = stops ++ [last]) :
    scheduleEnd entry.start entry.stops = last.task.departure := by
  have hlast : entry.stops.getLast? = some last := by
    rw [← List.take_append_drop k entry.stops, h, ← List.append_assoc, List.getLast?_concat]
  rw [scheduleEnd, hlast]

/-- The last waypoint ends the schedule. -/
theorem Entry.scheduleEnd_of_nil {w : Waypoint α} (hw : entry.waypoint k = .ok w)
    (h : entry.stops.drop k = []) : scheduleEnd entry.start entry.stops = w.departure := by
  have hlength : entry.stopCount ≤ k := List.drop_eq_nil_iff.mp h
  cases k with
  | zero =>
    have hstops : entry.stops = [] := List.eq_nil_of_length_eq_zero (Nat.le_zero.mp hlength)
    cases hw
    rw [hstops]
    rfl
  | succ k =>
    obtain ⟨stop, hstop, rfl⟩ := Entry.waypoint_succ_inv hw
    have hlt := (List.getElem?_eq_some_iff.mp hstop).1
    have hcount : entry.stops.length - 1 = k :=
      Nat.sub_eq_of_eq_add (Nat.le_antisymm hlength hlt)
    rw [scheduleEnd, List.getLast?_eq_getElem?, hcount, hstop]
    rfl

/-- A vehicle that is late at the stops after a waypoint ends its schedule as late. -/
theorem Entry.left_foldl_late [Scalar α] {delay : α}
    (h : entry.stops.drop k = [] → now.left = scheduleEnd entry.start entry.stops + delay) :
    ((entry.stops.drop k).foldl (late delay) now).left
      = scheduleEnd entry.start entry.stops + delay := by
  rcases List.eq_nil_or_concat' (entry.stops.drop k) with hnil | ⟨stops, last, hconcat⟩
  · rw [hnil]
    exact h hnil
  · rw [Entry.scheduleEnd_of_concat hconcat, hconcat, Progress.foldl_late_concat]

end Ends

/-! ## 2. Back on the schedule -/

section Exact

variable {K : Type} [Field K] [LinearOrder K] [IsStrictOrderedRing K]
  {entry : Entry (Exact K)} {d : Nat} {v : Waypoint (Exact K)} {now : Progress (Exact K)}

/-- Back from a new leg after waypoint `d`, the vehicle waits for the next stop if it is early;
after the last stop there is nothing to wait for. -/
theorem Entry.run_afterDetour (earliestStart : Exact K) (timed : entry.IsTimed)
    (inside : d ≤ entry.stopCount) (hv : entry.waypoint d = .ok v) {y replaced left drive : K}
    (hy : v.departure = .finite y) (hr : entry.driveAfter d = .ok (.finite replaced))
    (hleft : now.left = .finite left)
    (closed : d = entry.stopCount → drive = 0) :
    ∃ x, (x = if d < entry.stopCount then max 0 (left + drive - y - replaced)
        else left + drive - y - replaced) ∧
      run earliestStart now (afterDetour (.finite drive) (entry.stops.drop d))
        = (entry.stops.drop d).foldl (late (.finite x)) now ∧
      ((entry.stops.drop d).foldl (late (.finite x)) now).left
        = scheduleEnd entry.start entry.stops + .finite x := by
  cases hrest : entry.stops.drop d with
  | nil =>
    have hd : d = entry.stopCount := Nat.le_antisymm inside (List.drop_eq_nil_iff.mp hrest)
    rw [Entry.driveAfter_of_nil hrest, Exact.zero_eq_finite] at hr
    cases hr
    refine ⟨_, rfl, rfl, ?_⟩
    rw [if_neg (Nat.not_lt.mpr hd.ge), closed hd, List.foldl_nil, hleft,
      Entry.scheduleEnd_of_nil hv hrest, hy, Exact.add_finite]
    congr 1
    ring
  | cons first rest =>
    have hstops : ∀ stop ∈ first :: rest, stop.task.IsTimed := fun stop hs =>
      timed.stops stop (List.mem_of_mem_drop (hrest ▸ hs))
    obtain ⟨a, ha⟩ := (hstops first List.mem_cons_self).arrival
    rw [Entry.driveAfter_of_cons hv hrest, ha, hy, Exact.sub_finite] at hr
    cases hr
    refine ⟨_, rfl, ?_, ?_⟩
    · rw [if_pos (Entry.lt_stopCount_of_drop_eq_cons hrest)]
      have hdelay : left + drive - y - (a - y) = left + drive - a := by ring
      rw [hdelay]
      exact Progress.run_afterDetour hstops hleft ha
    · rw [← hrest]
      exact Entry.left_foldl_late fun hnil => absurd (hrest ▸ hnil) (List.cons_ne_nil _ _)

section Delays

variable {c : Prop} [Decidable c] {x raw loss : K}

omit [IsStrictOrderedRing K] in
/-- A vehicle that waits is as late as its detour says, unless it has nothing to wait for. -/
theorem le_whole_detour (hx : x = if c then max 0 raw else raw) :
    x ≤ max 0 raw ∧ (x = max 0 raw ↔ c ∨ 0 ≤ x) := by
  by_cases h : c
  · rw [if_pos h] at hx
    exact ⟨hx.le, iff_of_true hx (.inl h)⟩
  · rw [if_neg h] at hx
    subst hx
    refine ⟨le_max_right 0 x, ?_⟩
    rw [eq_comm, max_eq_right_iff]
    exact ⟨.inr, fun hor => hor.resolve_left h⟩

/-- After an earlier loss, a detour that saves time is felt in full: only without that loss, and
with something to wait for, does the vehicle lose what it has saved. -/
theorem le_split_detour (hloss : 0 ≤ loss)
    (hx : x = if c then max 0 (loss + raw) else loss + raw) :
    x ≤ loss + max 0 raw ∧ (x = loss + max 0 raw ↔ 0 ≤ raw ∨ c ∧ loss = 0) := by
  rcases le_or_gt 0 raw with hraw | hraw
  · have hval : x = loss + raw := by
      rw [hx, max_eq_right (add_nonneg hloss hraw), ite_self]
    rw [max_eq_right hraw]
    exact ⟨hval.le, iff_of_true hval (.inl hraw)⟩
  · rw [max_eq_left hraw.le, add_zero]
    have hlt : loss + raw < loss := add_lt_of_neg_right loss hraw
    by_cases h : c
    · rw [if_pos h] at hx
      refine ⟨hx.trans_le (max_le hloss hlt.le), fun heq => .inr ⟨h, ?_⟩, ?_⟩
      · rcases max_choice 0 (loss + raw) with h0 | h0
        · rw [← heq, hx, h0]
        · rw [heq, h0] at hx
          exact absurd hx hlt.ne'
      · intro hor
        rcases hor with h0 | ⟨-, h0⟩
        · exact absurd h0 (not_le.mpr hraw)
        · rw [hx, h0, zero_add, max_eq_left hraw.le]
    · rw [if_neg h] at hx
      refine ⟨hx.trans_le hlt.le, iff_of_false (hx.trans_lt hlt).ne ?_⟩
      intro hor
      rcases hor with h0 | ⟨h0, -⟩
      · exact absurd h0 (not_le.mpr hraw)
      · exact h h0

end Delays

/-! ## 3. What a replay tells -/

/-- The vehicle has driven the changed route as the timing says, and is late by `x` after the
dropoff. -/
structure Entry.Follows (entry : Entry (Exact K)) (insertion : Insertion) (t : Timing (Exact K))
    (x : K) (now : Progress (Exact K)) : Prop where
  pickedUp : now.pickedUp = some t.pickupDeparture
  droppedOff : now.droppedOff = some t.dropoffArrival
  visits : now.visits = (entry.between insertion).map (·.visitLate t.pickupLoss)
    ++ (entry.after insertion).map (·.visitLate (.finite x))
  finish : now.left = scheduleEnd entry.start entry.stops + .finite x

variable {request : Request (Exact K)} {p : Nat} {w : Waypoint (Exact K)} {stop : Stop (Exact K)}
  {legs : Legs K} {stopDuration departure left replaced arrival left' replaced' x : K}

omit [IsStrictOrderedRing K] in
/-- Whatever happens at the dropoff, the stops after it are visited at the end. -/
theorem Entry.follows_of_foldl {insertion : Insertion} {t : Timing (Exact K)}
    (hp : now.pickedUp = some t.pickupDeparture) (hd : now.droppedOff = some t.dropoffArrival)
    (hv : now.visits = (entry.between insertion).map (·.visitLate t.pickupLoss))
    (hend : ((entry.after insertion).foldl (late (.finite x)) now).left
      = scheduleEnd entry.start entry.stops + .finite x) :
    entry.Follows insertion t x ((entry.after insertion).foldl (late (.finite x)) now) where
  pickedUp := by rw [Progress.pickedUp_foldl_late, hp]
  droppedOff := by rw [Progress.droppedOff_foldl_late, hd]
  visits := by rw [Progress.visits_foldl_late, hv]
  finish := hend

/-! ## 4. Pickup and dropoff back to back -/

theorem Entry.replay_self (timed : entry.IsTimed) (starts : request.StartsFinite)
    (inside : p ≤ entry.stopCount) (legs : Legs K)
    (closed : p = entry.stopCount → legs.fromDropoffTime = 0) (stopDuration : K) :
    ∃ t now x,
      Timing.ofInsertion (.finite stopDuration) request entry ⟨p, p⟩ (legs.map .finite) = .ok t ∧
      entry.replay (.finite stopDuration) request ⟨p, p⟩ (legs.map .finite) = .ok now ∧
      entry.Follows ⟨p, p⟩ t x now ∧ .finite x ≤ t.totalLoss ∧
      (.finite x = t.totalLoss ↔ p < entry.stopCount ∨ 0 ≤ x) := by
  obtain ⟨w, left, replaced, departure, pickup⟩ :=
    exists_pickupAfter timed starts inside legs stopDuration
  obtain ⟨arrived, hboard⟩ := Progress.step_boarding pickup.departure
  -- the vehicle as it leaves the dropoff
  let now : Progress (Exact K) := ⟨.finite (departure + legs.fromPickup),
    .finite (departure + legs.fromPickup + stopDuration), some (.finite departure),
    some (.finite (departure + legs.fromPickup)), []⟩
  have hnow : now.left = .finite (departure + legs.fromPickup + stopDuration) := rfl
  obtain ⟨x, hx, hrun, hend⟩ := Entry.run_afterDetour request.times.earliestStart timed inside
    pickup.waypoint pickup.left pickup.replaced hnow closed
  have hroute : run request.times.earliestStart (onSchedule w)
      (entry.route (.finite stopDuration) request ⟨p, p⟩ w w (legs.map .finite))
        = (entry.after ⟨p, p⟩).foldl (late (.finite x)) now := by
    rw [Entry.route, if_pos rfl, Progress.run_cons, hboard, Progress.run_cons,
      Legs.timeFromDropoff_map_finite]
    exact hrun
  have hbetween : entry.between ⟨p, p⟩ = [] := by
    rw [Entry.between, Nat.sub_self, List.take_zero]
  refine ⟨_, _, x, pickup.ofInsertion_self, Entry.replay_eq pickup.waypoint pickup.waypoint,
    ?_, ?_⟩
  · rw [hroute]
    refine Entry.follows_of_foldl rfl rfl ?_ hend
    rw [hbetween]
    rfl
  · have hraw : departure + legs.fromPickup + stopDuration + legs.fromDropoffTime - left - replaced
        = Timing.detour stopDuration left departure replaced legs := by
      rw [Timing.detour]
      ring
    rw [hraw] at hx
    -- both losses together are the whole detour
    show Exact.finite x ≤ .finite (_ + (_ - _)) ∧ (Exact.finite x = .finite (_ + (_ - _)) ↔ _)
    rw [add_sub_cancel, Exact.finite_le_finite, Exact.finite.injEq]
    exact le_whole_detour hx

/-! ## 5. Pickup and dropoff apart -/

/-- Up to the dropoff every stop is late by the pickup loss. -/
theorem Entry.run_between (timed : entry.IsTimed) (h : p < d) (inside : d ≤ entry.stopCount)
    (pickup : PickupAfter stopDuration request entry legs p w left replaced departure)
    (hs : entry.waypoint d = .ok (.stop stop)) {loss : K}
    (hloss : loss = max 0 (Timing.pickupDetour left departure replaced legs))
    (route : List (RouteStep (Exact K))) :
    run request.times.earliestStart (onSchedule w)
      (boarding (.finite stopDuration) request w (legs.map .finite) ::
        (afterDetour (legs.map .finite).fromPickup (entry.between ⟨p, d⟩) ++ route)) =
    run request.times.earliestStart ⟨stop.task.arrival + .finite loss,
      stop.task.departure + .finite loss, some (.finite departure), none,
      (entry.between ⟨p, d⟩).map (·.visitLate (.finite loss))⟩ route := by
  obtain ⟨arrived, hboard⟩ := Progress.step_boarding pickup.departure
  cases hrest : entry.stops.drop p with
  | nil => exact absurd (h.trans_le inside) (Nat.not_lt.mpr (List.drop_eq_nil_iff.mp hrest))
  | cons first rest =>
    obtain ⟨stops, hconcat⟩ := Entry.between_eq_concat h hs
    obtain ⟨more, hcons⟩ := Entry.between_eq_cons h hrest
    have htimed : ∀ stop ∈ first :: more, stop.task.IsTimed := fun stop hs =>
      timed.stops stop (List.mem_of_mem_drop (List.mem_of_mem_take (hcons ▸ hs)))
    obtain ⟨a, ha⟩ := (htimed first List.mem_cons_self).arrival
    have hr := pickup.replaced
    rw [Entry.driveAfter_of_cons pickup.waypoint hrest, ha, pickup.left, Exact.sub_finite] at hr
    cases hr
    have hreached : Timing.pickupDetour left departure (a - left) legs
        = departure + legs.fromPickup - a := by
      rw [Timing.pickupDetour]
      ring
    rw [hreached] at hloss
    have hrun : ∀ now : Progress (Exact K), now.left = .finite departure →
        run request.times.earliestStart now
          (afterDetour (.finite legs.fromPickup) (entry.between ⟨p, d⟩))
        = (entry.between ⟨p, d⟩).foldl (late (.finite loss)) now := fun now hnow => by
      rw [hcons, hloss]
      exact Progress.run_afterDetour htimed hnow ha
    rw [Progress.run_cons, hboard, Progress.run_append, Legs.fromPickup_map_finite, hrun _ rfl,
      hconcat, Progress.foldl_late_concat, List.nil_append]

/-- At the destination the request alights and the vehicle drives on as late as it is. -/
theorem Entry.replay_merged (timed : entry.IsTimed) (h : p < d) (inside : d ≤ entry.stopCount)
    (pickup : PickupAfter stopDuration request entry legs p w left replaced departure)
    (dropoff : DropoffAfter entry d stop arrival left' replaced')
    (hm : (Waypoint.stop stop).location = request.destination) :
    ∃ t now x,
      Timing.ofInsertion (.finite stopDuration) request entry ⟨p, d⟩ (legs.map .finite) = .ok t ∧
      entry.replay (.finite stopDuration) request ⟨p, d⟩ (legs.map .finite) = .ok now ∧
      entry.Follows ⟨p, d⟩ t x now ∧ .finite x = t.totalLoss := by
  let loss : K := max 0 (Timing.pickupDetour left departure replaced legs)
  have hloss : 0 ≤ loss := le_max_left _ _
  -- the vehicle during the stop at the destination
  let now : Progress (Exact K) := ⟨.finite (arrival + loss), .finite (left' + loss),
    some (.finite departure), some (.finite (arrival + loss)),
    (entry.between ⟨p, d⟩).map (·.visitLate (.finite loss))⟩
  have hnow : now.left = stop.task.departure + .finite loss := by
    rw [dropoff.left]
    rfl
  have hrun : run request.times.earliestStart now (asPlanned (.stop stop) (entry.after ⟨p, d⟩))
      = (entry.after ⟨p, d⟩).foldl (late (.finite loss)) now :=
    Progress.run_asPlanned (timed.departure dropoff.waypoint)
      (fun stop hs => timed.stops stop (List.mem_of_mem_drop hs)) hloss hnow
  have hroute : run request.times.earliestStart (onSchedule w)
      (entry.route (.finite stopDuration) request ⟨p, d⟩ w (.stop stop) (legs.map .finite))
        = (entry.after ⟨p, d⟩).foldl (late (.finite loss)) now := by
    rw [Entry.route, if_neg h.ne, alighting_merged hm,
      Entry.run_between timed h inside pickup dropoff.waypoint rfl, Progress.run_cons,
      dropoff.arrival, dropoff.left]
    exact hrun
  refine ⟨_, _, loss, pickup.ofInsertion_merged dropoff h hm,
    Entry.replay_eq pickup.waypoint dropoff.waypoint, ?_, ?_⟩
  · rw [hroute]
    refine Entry.follows_of_foldl rfl rfl rfl (Entry.left_foldl_late fun hnil => ?_)
    rw [Entry.scheduleEnd_of_nil dropoff.waypoint hnil]
    exact hnow
  · show _ = Exact.finite (loss + 0)
    rw [add_zero]

/-- Elsewhere the vehicle drives to the dropoff and from there back to its schedule. -/
theorem Entry.replay_separate (timed : entry.IsTimed) (h : p < d) (inside : d ≤ entry.stopCount)
    (pickup : PickupAfter stopDuration request entry legs p w left replaced departure)
    (dropoff : DropoffAfter entry d stop arrival left' replaced')
    (hm : (Waypoint.stop stop).location ≠ request.destination)
    (closed : d = entry.stopCount → legs.fromDropoffTime = 0) :
    ∃ t now x,
      Timing.ofInsertion (.finite stopDuration) request entry ⟨p, d⟩ (legs.map .finite) = .ok t ∧
      entry.replay (.finite stopDuration) request ⟨p, d⟩ (legs.map .finite) = .ok now ∧
      entry.Follows ⟨p, d⟩ t x now ∧ .finite x ≤ t.totalLoss ∧
      (.finite x = t.totalLoss ↔ 0 ≤ Timing.dropoffDetour stopDuration replaced' legs ∨
        d < entry.stopCount ∧ t.pickupLoss = .finite 0) := by
  let loss : K := max 0 (Timing.pickupDetour left departure replaced legs)
  have hloss : 0 ≤ loss := le_max_left _ _
  -- the vehicle as it leaves the dropoff
  let now : Progress (Exact K) := ⟨.finite (left' + loss + legs.toDropoffTime),
    .finite (left' + loss + legs.toDropoffTime + stopDuration), some (.finite departure),
    some (.finite (left' + loss + legs.toDropoffTime)),
    (entry.between ⟨p, d⟩).map (·.visitLate (.finite loss))⟩
  have hnow : now.left = .finite (left' + loss + legs.toDropoffTime + stopDuration) := rfl
  obtain ⟨x, hx, hrun, hend⟩ := Entry.run_afterDetour request.times.earliestStart timed inside
    dropoff.waypoint dropoff.left dropoff.replaced hnow closed
  have hroute : run request.times.earliestStart (onSchedule w)
      (entry.route (.finite stopDuration) request ⟨p, d⟩ w (.stop stop) (legs.map .finite))
        = (entry.after ⟨p, d⟩).foldl (late (.finite x)) now := by
    rw [Entry.route, if_neg h.ne, alighting_separate hm,
      Entry.run_between timed h inside pickup dropoff.waypoint rfl, Progress.run_cons,
      dropoff.left, Legs.timeToDropoff_map_finite, Legs.timeFromDropoff_map_finite]
    exact hrun
  refine ⟨_, _, x, pickup.ofInsertion_separate dropoff h hm,
    Entry.replay_eq pickup.waypoint dropoff.waypoint, ?_, ?_⟩
  · rw [hroute]
    exact Entry.follows_of_foldl rfl rfl rfl hend
  · have hraw : left' + loss + legs.toDropoffTime + stopDuration + legs.fromDropoffTime - left'
        - replaced' = loss + Timing.dropoffDetour stopDuration replaced' legs := by
      rw [Timing.dropoffDetour]
      ring
    rw [hraw] at hx
    show Exact.finite x ≤ .finite (loss + _) ∧ (Exact.finite x = .finite (loss + _) ↔
      _ ∨ _ ∧ Exact.finite loss = .finite 0)
    rw [Exact.finite_le_finite, Exact.finite.injEq, Exact.finite.injEq]
    exact le_split_detour hloss hx

/-! ## 6. Agreement -/

/-- The vehicle can drive the changed route and does what the timing says. After the dropoff it is
late by `x`, at most the total loss; `total` tells when it is exactly that. -/
structure Entry.Replays (entry : Entry (Exact K)) (request : Request (Exact K)) (stopDuration : K)
    (insertion : Insertion) (legs : Legs K) (t : Timing (Exact K)) (now : Progress (Exact K))
    (x : K) : Prop where
  timing : Timing.ofInsertion (.finite stopDuration) request entry insertion (legs.map .finite)
    = .ok t
  replay : entry.replay (.finite stopDuration) request insertion (legs.map .finite) = .ok now
  follows : entry.Follows insertion t x now
  bounded : .finite x ≤ t.totalLoss
  total : ∃ v replaced, entry.waypoint insertion.dropoff = .ok v ∧
    entry.driveAfter insertion.dropoff = .ok (.finite replaced) ∧
    (.finite x = t.totalLoss ↔
      (insertion.pickup = insertion.dropoff ∧
        (insertion.dropoff < entry.stopCount ∨ 0 ≤ x)) ∨
      (insertion.pickup < insertion.dropoff ∧
        (v.location = request.destination ∨
          0 ≤ Timing.dropoffDetour stopDuration replaced legs ∨
          insertion.dropoff < entry.stopCount ∧ t.pickupLoss = .finite 0)))

/-- Every insertion inside a timed schedule can be driven, and is timed as it is driven. -/
theorem Entry.exists_replays (timed : entry.IsTimed) (starts : request.StartsFinite)
    {insertion : Insertion} (ordered : insertion.pickup ≤ insertion.dropoff)
    (inside : insertion.dropoff ≤ entry.stopCount) (legs : Legs K)
    (closed : insertion.dropoff = entry.stopCount → legs.fromDropoff = none) (stopDuration : K) :
    ∃ t now x, entry.Replays request stopDuration insertion legs t now x := by
  obtain ⟨p, d⟩ := insertion
  change p ≤ d at ordered
  change d ≤ entry.stopCount at inside
  have closed' : d = entry.stopCount → legs.fromDropoffTime = 0 := fun hd => by
    rw [Legs.fromDropoffTime, closed hd]
    rfl
  rcases Nat.eq_or_lt_of_le ordered with rfl | h
  · obtain ⟨v, hv⟩ := Entry.exists_waypoint inside
    obtain ⟨replaced, hr⟩ := timed.driveAfter inside
    obtain ⟨t, now, x, ht, hnow, hfollows, hle, hiff⟩ :=
      Entry.replay_self timed starts inside legs closed' stopDuration
    refine ⟨t, now, x, ht, hnow, hfollows, hle, v, replaced, hv, hr, hiff.trans ?_⟩
    simp
  · obtain ⟨w, left, replaced, departure, pickup⟩ :=
      exists_pickupAfter timed starts (h.le.trans inside) legs stopDuration
    obtain ⟨stop, arrival, left', replaced', dropoff⟩ := exists_dropoffAfter timed h inside
    by_cases hm : (Waypoint.stop stop).location = request.destination
    · obtain ⟨t, now, x, ht, hnow, hfollows, heq⟩ :=
        Entry.replay_merged timed h inside pickup dropoff hm
      refine ⟨t, now, x, ht, hnow, hfollows, ?_, _, _, dropoff.waypoint, dropoff.replaced,
        iff_of_true heq (.inr ⟨h, .inl hm⟩)⟩
      rw [← heq, Exact.finite_le_finite]
    · obtain ⟨t, now, x, ht, hnow, hfollows, hle, hiff⟩ :=
        Entry.replay_separate timed h inside pickup dropoff hm closed'
      refine ⟨t, now, x, ht, hnow, hfollows, hle, _, _, dropoff.waypoint, dropoff.replaced,
        hiff.trans ?_⟩
      simp [h, h.ne, hm]

/-- **Timing an insertion tells what driving the changed route tells.** The vehicle is never later
than the timing says, and exactly as late after a dropoff right behind the pickup unless it ends the
schedule early, after a dropoff at a stop, and after a dropoff of its own that saves no time or
follows a pickup that loses none. The leg from a dropoff that ends the schedule is absent
(`Legs.fromDropoff_eq_none`). -/
theorem Entry.replay_agrees (timed : entry.IsTimed) (starts : request.StartsFinite)
    {insertion : Insertion} (ordered : insertion.pickup ≤ insertion.dropoff)
    (inside : insertion.dropoff ≤ entry.stopCount) (legs : Legs K)
    (closed : insertion.dropoff = entry.stopCount → legs.fromDropoff = none) (stopDuration : K) :
    ∃ t now v x replaced,
      Timing.ofInsertion (.finite stopDuration) request entry insertion (legs.map .finite)
        = .ok t ∧
      entry.replay (.finite stopDuration) request insertion (legs.map .finite) = .ok now ∧
      entry.waypoint insertion.dropoff = .ok v ∧
      entry.driveAfter insertion.dropoff = .ok (.finite replaced) ∧
      entry.Follows insertion t x now ∧ .finite x ≤ t.totalLoss ∧
      (.finite x = t.totalLoss ↔
        (insertion.pickup = insertion.dropoff ∧
          (insertion.dropoff < entry.stopCount ∨ 0 ≤ x)) ∨
        (insertion.pickup < insertion.dropoff ∧
          (v.location = request.destination ∨
            0 ≤ Timing.dropoffDetour stopDuration replaced legs ∨
            insertion.dropoff < entry.stopCount ∧ t.pickupLoss = .finite 0))) := by
  obtain ⟨t, now, x, replays⟩ :=
    Entry.exists_replays timed starts ordered inside legs closed stopDuration
  obtain ⟨v, replaced, hv, hr, htotal⟩ := replays.total
  exact ⟨t, now, v, x, replaced, replays.timing, replays.replay, hv, hr, replays.follows,
    replays.bounded, htotal⟩

end Exact

/-- A dropoff that saves ten seconds: the vehicle is late by 50 before it and by 40 after it. -/
example : (Sample.entry.replay (.finite 60) Sample.request ⟨0, 1⟩
    ((⟨50, 40, some 0, some 0⟩ : Legs ℚ).map .finite)).toOption.map Progress.visits
      = some [⟨.finite 150, .finite 180⟩, ⟨.finite 240, .finite 270⟩] := by
  decide +kernel

/-- A pickup at once and a dropoff after the first stop, both driven to. -/
theorem Entry.replay_agrees_sample :
    (Sample.entry.IsTimed ∧ Sample.request.StartsFinite ∧ (1 : Nat) < Sample.entry.stopCount) ∧
    ∃ t now v x replaced,
      Timing.ofInsertion (.finite 60) Sample.request Sample.entry ⟨0, 1⟩
        ((⟨50, 40, some 30, some 20⟩ : Legs ℚ).map .finite) = .ok t ∧
      Sample.entry.replay (.finite 60) Sample.request ⟨0, 1⟩
        ((⟨50, 40, some 30, some 20⟩ : Legs ℚ).map .finite) = .ok now ∧
      Sample.entry.waypoint 1 = .ok v ∧ Sample.entry.driveAfter 1 = .ok (.finite replaced) ∧
      Sample.entry.Follows ⟨0, 1⟩ t x now ∧ .finite x ≤ t.totalLoss ∧
      (.finite x = t.totalLoss ↔
        ((0 : Nat) = 1 ∧ ((1 : Nat) < Sample.entry.stopCount ∨ 0 ≤ x)) ∨
        ((0 : Nat) < 1 ∧ (v.location = Sample.request.destination ∨
          0 ≤ Timing.dropoffDetour 60 replaced (⟨50, 40, some 30, some 20⟩ : Legs ℚ) ∨
          (1 : Nat) < Sample.entry.stopCount ∧ t.pickupLoss = .finite 0))) :=
  ⟨⟨Sample.timed, .inr ⟨_, rfl⟩, by decide⟩,
    Entry.replay_agrees Sample.timed (.inr ⟨_, rfl⟩) (by decide) (by decide)
      ⟨50, 40, some 30, some 20⟩ (fun h => absurd h (by decide)) 60⟩

/-! ## 7. The offers of a search -/

section Offers

variable {K : Type} [Field K] [LinearOrder K] {request : Request (Exact K)}
  {entry : Entry (Exact K)} {insertion : Insertion}

omit [LinearOrder K] in
/-- Where all drives take a finite time, so do the legs of an insertion. -/
theorem Legs.exists_eq_map_finite {leg : DriveTime (Exact K)} {legs : Legs (Exact K)}
    (drives : ∀ a b time, leg a b = .ok time → time.IsFinite)
    (h : ofInsertion leg request entry insertion = .ok legs) :
    ∃ times : Legs K, legs = times.map .finite := by
  have hdrives : ∀ a b, Carries (fun time x => time = .finite x) (leg a b)
      (Exact.value <$> leg a b) := by
    intro a b time htime
    obtain ⟨x, rfl⟩ := drives a b time htime
    exact ⟨x, by rw [htime]; rfl, rfl⟩
  obtain ⟨times, -, related⟩ :=
    ofInsertion_carries hdrives ⟨rfl, rfl⟩ (.refl entry) insertion legs h
  exact ⟨times, eq_map_of_related related⟩

variable [IsStrictOrderedRing K] {s : Search (Exact K)} {offer : Scored (Exact K)}
  {stopDuration : K}

/-- The timing of an offer tells what driving its route tells. No leg is driven from a dropoff that
ends the schedule, since none is asked for. -/
theorem Search.Prices.exists_replays (prices : s.Prices request entry insertion offer)
    (drives : ∀ a b time, s.driveTime a b = .ok time → time.IsFinite)
    (stops : s.stopDuration = .finite stopDuration) (timed : entry.IsTimed)
    (starts : request.StartsFinite) (ordered : insertion.pickup ≤ insertion.dropoff)
    (inside : insertion.dropoff ≤ entry.stopCount) :
    ∃ legs now x,
      Legs.ofInsertion s.driveTime request entry insertion = .ok (legs.map .finite) ∧
      entry.Replays request stopDuration insertion legs offer.timing now x := by
  obtain ⟨_, _, hlegs, htiming, -⟩ := prices.price
  obtain ⟨legs, rfl⟩ := Legs.exists_eq_map_finite drives hlegs
  have closed : insertion.dropoff = entry.stopCount → legs.fromDropoff = none := fun last =>
    Option.map_eq_none_iff.mp (Legs.fromDropoff_eq_none hlegs last)
  obtain ⟨t, now, x, replays⟩ :=
    Entry.exists_replays timed starts ordered inside legs closed stopDuration
  rw [stops, replays.timing] at htiming
  cases htiming
  exact ⟨legs, now, x, hlegs, replays⟩

/-- **Every offer that is found for a vehicle can be driven, and is timed as it is driven.** -/
theorem Search.exists_replays_of_evaluateVehicle_eq_ok {found : List (Scored (Exact K))}
    (returned : s.evaluateVehicle request entry = .ok found) (hoffer : offer ∈ found)
    (drives : ∀ a b time, s.driveTime a b = .ok time → time.IsFinite)
    (stops : s.stopDuration = .finite stopDuration) (timed : entry.IsTimed)
    (starts : request.StartsFinite) :
    ∃ legs now x,
      Legs.ofInsertion s.driveTime request entry ⟨offer.pickup, offer.dropoff⟩
        = .ok (legs.map .finite) ∧
      entry.Replays request stopDuration ⟨offer.pickup, offer.dropoff⟩ legs offer.timing now x := by
  obtain ⟨⟨insertion, listed, prices⟩, -⟩ := (mem_of_evaluateVehicle_eq_ok returned).mp hoffer
  obtain ⟨ordered, inside⟩ := Entry.bounds_of_mem_insertions listed
  rw [prices.pickup, prices.dropoff]
  exact prices.exists_replays drives stops timed starts ordered inside

end Offers

end DialARide
