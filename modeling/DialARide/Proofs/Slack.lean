import DialARide.Insertion.Cost
import DialARide.Proofs.Timing

/-!
# Slack tests

The slack of a waypoint stands for all stops after it. In exact numbers it tolerates exactly the
delays that every later stop and the end of service tolerate (`Slack.le_ofStops_iff`): it is the
largest of them, of either sign and infinite where nothing is limited (`slackTimes_largest`). So the
two look-ups of the slack test decide whether the whole delayed schedule stays on time
(`Entry.slackTest_iff_onTime`).
-/

namespace DialARide

/-! ## 1. Looking slacks up -/

section LookUp

variable {α : Type} [Scalar α]

/-- The slack at position `k` is that of the stops that follow. -/
theorem Slack.getElem?_before (reserve : α) {stops : List (Stop α)} {k : Nat}
    (h : k ≤ stops.length) :
    (Slack.before reserve stops)[k]? = some (Slack.ofStops reserve (stops.drop k)) := by
  induction stops generalizing k with
  | nil =>
    obtain rfl : k = 0 := Nat.le_zero.mp h
    rfl
  | cons stop rest ih =>
    cases k with
    | zero => rfl
    | succ k => exact ih (Nat.le_of_succ_le_succ h)

/-- What is said of the stops from a position on is said of each later position. -/
theorem forall_mem_drop_iff {β : Type} {items : List β} {k : Nat} {P : β → Prop} :
    (∀ item ∈ items.drop k, P item) ↔ ∀ j item, k ≤ j → items[j]? = some item → P item := by
  constructor
  · intro h j item hj hitem
    have hmem : (items.drop k)[j - k]? = some item := by
      rw [List.getElem?_drop, Nat.add_sub_cancel' hj, hitem]
    exact h item (List.mem_of_getElem? hmem)
  · intro h item hitem
    obtain ⟨i, hi⟩ := List.mem_iff_getElem?.mp hitem
    rw [List.getElem?_drop] at hi
    exact h (k + i) item (Nat.le_add_right k i) hi

/-- Slack that the end of the schedule leaves until the end of service. -/
def Entry.reserve (entry : Entry α) : α :=
  entry.vehicle.serviceEnd - scheduleEnd entry.start entry.stops

/-- What the slack test looks up in an entry whose slacks follow from its latest times. -/
theorem Entry.slackAt_of_ofServiceEnd {vehicle : Vehicle α} {start : Start α}
    {stops : List (Stop α)} {entry : Entry α}
    (built : Entry.ofServiceEnd? vehicle start stops = .ok entry) {k : Nat}
    (h : k ≤ entry.stopCount) :
    entry.slackAt k = .ok (Slack.ofStops entry.reserve (entry.stops.drop k)) := by
  obtain ⟨-, -, rfl⟩ := Entry.ofSlack?_eq_ok.mp built
  exact lookUp_eq_ok.mpr (Slack.getElem?_before _ h)

theorem InsertionSlack.ofInsertion_of_ofServiceEnd {vehicle : Vehicle α} {start : Start α}
    {stops : List (Stop α)} {entry : Entry α}
    (built : Entry.ofServiceEnd? vehicle start stops = .ok entry) {insertion : Insertion}
    (ordered : insertion.pickup ≤ insertion.dropoff)
    (inside : insertion.dropoff ≤ entry.stopCount) :
    InsertionSlack.ofInsertion entry insertion =
      .ok ⟨Slack.ofStops entry.reserve (entry.stops.drop insertion.pickup),
        Slack.ofStops entry.reserve (entry.stops.drop insertion.dropoff)⟩ := by
  rw [InsertionSlack.ofInsertion, Entry.slackAt_of_ofServiceEnd built (ordered.trans inside),
    Entry.slackAt_of_ofServiceEnd built inside]
  rfl

end LookUp

/-! ## 2. What a slack tolerates -/

section Exact

variable {K : Type} [Field K] [LinearOrder K]

/-- The visit keeps the latest times of the stop. -/
def Visit.OnTime (visit : Visit (Exact K)) (task : StopTask (Exact K)) : Prop :=
  visit.arrival ≤ task.latestArrival ∧ visit.departure ≤ task.latestDeparture

theorem StopTask.isDefined_slack {task : StopTask (Exact K)} (timed : task.IsTimed)
    (limited : task.IsLimited) : task.slack.isDefined := by
  obtain ⟨x, hx⟩ := timed.arrival
  obtain ⟨y, hy⟩ := timed.departure
  rw [StopTask.slack, hx, hy]
  exact Exact.isDefined_min (Exact.isDefined_sub_finite limited.latestArrival x)
    (Exact.isDefined_sub_finite limited.latestDeparture y)

theorem Slack.isDefined_ofStops {reserve : Exact K} (hr : reserve.isDefined)
    {stops : List (Stop (Exact K))} (timed : ∀ stop ∈ stops, stop.task.IsTimed)
    (limited : ∀ stop ∈ stops, stop.task.IsLimited) :
    (Slack.ofStops reserve stops).isDefined := by
  induction stops with
  | nil => exact hr
  | cons stop rest ih =>
    rw [List.forall_mem_cons] at timed limited
    exact Exact.isDefined_min (ih timed.2 limited.2)
      (StopTask.isDefined_slack timed.1 limited.1)

theorem Entry.isDefined_reserve {entry : Entry (Exact K)} (timed : entry.IsTimed)
    (limited : entry.IsLimited) : entry.reserve.isDefined := by
  obtain ⟨x, hx⟩ := timed.scheduleEnd
  rw [Entry.reserve, hx]
  exact Exact.isDefined_sub_finite limited.serviceEnd x

theorem Entry.isDefined_slack {entry : Entry (Exact K)} (timed : entry.IsTimed)
    (limited : entry.IsLimited) (k : Nat) :
    (Slack.ofStops entry.reserve (entry.stops.drop k)).isDefined :=
  Slack.isDefined_ofStops (Entry.isDefined_reserve timed limited)
    (fun stop hs => timed.stops stop (List.mem_of_mem_drop hs))
    (fun stop hs => limited.stops stop (List.mem_of_mem_drop hs))

variable [IsStrictOrderedRing K]

/-- A stop tolerates a delay when the delayed visit keeps its latest times. -/
theorem StopTask.le_slack_iff {stop : Stop (Exact K)} (timed : stop.task.IsTimed)
    (limited : stop.task.IsLimited) {delay : Exact K} :
    delay ≤ stop.task.slack ↔ (stop.visitLate delay).OnTime stop.task := by
  obtain ⟨a, ha⟩ := timed.arrival
  obtain ⟨d, hd⟩ := timed.departure
  rw [StopTask.slack, Visit.OnTime, Stop.visitLate, ha, hd,
    Exact.le_min_iff (Exact.isDefined_sub_finite limited.latestArrival a)
      (Exact.isDefined_sub_finite limited.latestDeparture d),
    Exact.le_sub_finite_iff, Exact.le_sub_finite_iff]

/-- **A slack tolerates the delays that every later stop and the reserve tolerate.** -/
theorem Slack.le_ofStops_iff {reserve : Exact K} (hr : reserve.isDefined)
    {stops : List (Stop (Exact K))} (timed : ∀ stop ∈ stops, stop.task.IsTimed)
    (limited : ∀ stop ∈ stops, stop.task.IsLimited) {delay : Exact K} :
    delay ≤ Slack.ofStops reserve stops ↔
      (∀ stop ∈ stops, (stop.visitLate delay).OnTime stop.task) ∧ delay ≤ reserve := by
  induction stops with
  | nil => exact ⟨fun h => ⟨fun _ hs => absurd hs List.not_mem_nil, h⟩, fun h => h.2⟩
  | cons stop rest ih =>
    rw [List.forall_mem_cons] at timed limited
    rw [Slack.ofStops, Exact.le_min_iff (Slack.isDefined_ofStops hr timed.2 limited.2)
        (StopTask.isDefined_slack timed.1 limited.1), ih timed.2 limited.2,
      StopTask.le_slack_iff timed.1 limited.1, List.forall_mem_cons]
    exact ⟨fun ⟨⟨hrest, hres⟩, hstop⟩ => ⟨⟨hstop, hrest⟩, hres⟩,
      fun ⟨⟨hstop, hrest⟩, hres⟩ => ⟨⟨hrest, hres⟩, hstop⟩⟩

/-- The slack at a position tolerates what every later stop and the end of service tolerate. -/
theorem Entry.le_slack_iff {entry : Entry (Exact K)} (timed : entry.IsTimed)
    (limited : entry.IsLimited) (k : Nat) (x : K) :
    .finite x ≤ Slack.ofStops entry.reserve (entry.stops.drop k) ↔
      (∀ stop ∈ entry.stops.drop k, (stop.visitLate (.finite x)).OnTime stop.task) ∧
        scheduleEnd entry.start entry.stops + .finite x ≤ entry.vehicle.serviceEnd := by
  obtain ⟨y, hy⟩ := timed.scheduleEnd
  rw [Slack.le_ofStops_iff (Entry.isDefined_reserve timed limited)
    (fun stop hs => timed.stops stop (List.mem_of_mem_drop hs))
    (fun stop hs => limited.stops stop (List.mem_of_mem_drop hs)),
    Entry.reserve, hy, Exact.le_sub_finite_iff]

/-! ## 3. The slacks of a schedule -/

section Before

variable {reserve : Exact K} (hr : reserve.isDefined) {stops : List (Stop (Exact K))}
  (timed : ∀ stop ∈ stops, stop.task.IsTimed) (limited : ∀ stop ∈ stops, stop.task.IsLimited)
include hr timed limited

omit [IsStrictOrderedRing K] in
/-- No slack is smaller than the first one. -/
theorem Slack.ofStops_le_of_mem_before {slack : Exact K}
    (h : slack ∈ Slack.before reserve stops) : Slack.ofStops reserve stops ≤ slack := by
  induction stops with
  | nil =>
    obtain rfl := List.mem_singleton.mp h
    exact Exact.le_refl hr
  | cons stop rest ih =>
    have hfirst := Exact.le_refl (Slack.isDefined_ofStops hr timed limited)
    rw [List.forall_mem_cons] at timed limited
    rcases List.mem_cons.mp h with rfl | h
    · exact hfirst
    · have hnext : Slack.ofStops reserve (stop :: rest) ≤ Slack.ofStops reserve rest :=
        ((Exact.le_min_iff (Slack.isDefined_ofStops hr timed.2 limited.2)
          (StopTask.isDefined_slack timed.1 limited.1)).mp hfirst).1
      exact Exact.le_trans hnext (ih timed.2 limited.2 h)

omit [IsStrictOrderedRing K] in
/-- The later a delay arises, the more of it is tolerated. -/
theorem Slack.pairwise_before : (Slack.before reserve stops).Pairwise (· ≤ ·) := by
  induction stops with
  | nil => exact List.pairwise_singleton ..
  | cons stop rest ih =>
    have hfirst := fun slack (h : slack ∈ Slack.before reserve rest) =>
      Slack.ofStops_le_of_mem_before hr timed limited (List.mem_cons_of_mem _ h)
    rw [List.forall_mem_cons] at timed limited
    exact List.pairwise_cons.mpr ⟨hfirst, ih timed.2 limited.2⟩

end Before

omit [Field K] [LinearOrder K] [IsStrictOrderedRing K] in
/-- A schedule ends when its last waypoint is left. -/
theorem scheduleEnd_eq_departure (start : Start (Exact K)) (stops : List (Stop (Exact K))) :
    scheduleEnd start stops
      = ((Waypoint.start start :: stops.map .stop).getLast (List.cons_ne_nil _ _)).departure := by
  rcases List.eq_nil_or_concat stops with rfl | ⟨stops, last, rfl⟩
  · rfl
  · simp [scheduleEnd, Waypoint.departure, List.getLast_cons]

/-- **Every slack is the largest delay that what follows its waypoint tolerates**: the stops from
there on keep their latest times with a delay, and the schedule ends within the service, exactly
when the delay is at most the slack. There is one slack for each waypoint, and none is larger than
the next. -/
theorem slackTimes_largest {start : Start (Exact K)} {stops : List (Stop (Exact K))}
    {serviceEnd : Exact K} (left : start.departure.IsFinite)
    (timed : ∀ stop ∈ stops, stop.task.IsTimed) (limited : ∀ stop ∈ stops, stop.task.IsLimited)
    (service : serviceEnd.isDefined) :
    (∀ k ≤ stops.length, ∃ slack, (slackTimes start stops serviceEnd)[k]? = some slack ∧
      ∀ delay : Exact K, delay ≤ slack ↔
        (∀ j stop, k ≤ j → stops[j]? = some stop → (stop.visitLate delay).OnTime stop.task) ∧
          ((Waypoint.start start :: stops.map .stop).getLast
            (List.cons_ne_nil _ _)).departure + delay ≤ serviceEnd) ∧
    (slackTimes start stops serviceEnd).length = stops.length + 1 ∧
    (slackTimes start stops serviceEnd).Pairwise (· ≤ ·) := by
  obtain ⟨y, hy⟩ := scheduleEnd_isFinite left timed
  have hr : (serviceEnd - scheduleEnd start stops).isDefined := by
    rw [hy]
    exact Exact.isDefined_sub_finite service y
  refine ⟨fun k hk => ⟨_, Slack.getElem?_before _ hk, fun delay => ?_⟩,
    length_slackTimes start stops serviceEnd, Slack.pairwise_before hr timed limited⟩
  rw [Slack.le_ofStops_iff hr (fun stop hs => timed stop (List.mem_of_mem_drop hs))
    (fun stop hs => limited stop (List.mem_of_mem_drop hs)), ← scheduleEnd_eq_departure, hy,
    Exact.le_sub_finite_iff, forall_mem_drop_iff]

/-- After the first stop of the sample a delay of 170 is tolerated, and none that is longer. -/
theorem slackTimes_largest_sample :
    (Sample.start.departure.IsFinite ∧ (∀ stop ∈ Sample.stops, stop.task.IsTimed) ∧
      (∀ stop ∈ Sample.stops, stop.task.IsLimited) ∧
      Sample.vehicle.serviceEnd.isDefined = true) ∧
    ∀ delay : Exact ℚ, delay ≤ .finite 170 ↔
      (∀ j stop, 1 ≤ j → Sample.stops[j]? = some stop →
        (stop.visitLate delay).OnTime stop.task) ∧
        .finite 230 + delay ≤ Sample.vehicle.serviceEnd := by
  obtain ⟨slack, hslack, h⟩ :=
    (slackTimes_largest Sample.timed.start Sample.timed.stops Sample.limited.stops
      Sample.limited.serviceEnd).1 1 (by decide)
  have hvalue : (slackTimes Sample.start Sample.stops Sample.vehicle.serviceEnd)[1]?
      = some (.finite 170) := by decide +kernel
  obtain rfl := Option.some.inj (hvalue.symm.trans hslack)
  exact ⟨⟨Sample.timed.start, Sample.timed.stops, Sample.limited.stops,
    Sample.limited.serviceEnd⟩, h⟩

/-! ## 4. The slack test -/

/-- With the losses of an insertion added, every stop after the pickup keeps its latest times and
the schedule ends within the service: the stops up to the dropoff are late by the pickup loss, the
ones after it and the end by both losses. -/
structure Entry.OnTimeWith (entry : Entry (Exact K)) (insertion : Insertion)
    (t : Timing (Exact K)) : Prop where
  between : ∀ stop ∈ entry.between insertion, (stop.visitLate t.pickupLoss).OnTime stop.task
  after : ∀ stop ∈ entry.after insertion, (stop.visitLate t.totalLoss).OnTime stop.task
  finish : scheduleEnd entry.start entry.stops + t.totalLoss ≤ entry.vehicle.serviceEnd

omit [IsStrictOrderedRing K] in
theorem InsertionSlack.violatedBy_eq_false_iff {slack : InsertionSlack (Exact K)}
    (hp : slack.pickup.isDefined) (hd : slack.dropoff.isDefined) {t : Timing (Exact K)} {x y : K}
    (hx : t.pickupLoss = .finite x) (hy : t.totalLoss = .finite y) :
    slack.violatedBy t = false ↔ .finite x ≤ slack.pickup ∧ .finite y ≤ slack.dropoff := by
  rw [InsertionSlack.violatedBy, Bool.or_eq_false_iff, hx, hy, Exact.lt_eq_false_iff rfl hp,
    Exact.lt_eq_false_iff rfl hd]

/-- Two slacks suffice, because the stops after the dropoff are the later ones of both look-ups and
the delay there is the larger one. -/
theorem Entry.slacks_iff_onTimeWith {entry : Entry (Exact K)} (timed : entry.IsTimed)
    (limited : entry.IsLimited) {insertion : Insertion}
    (ordered : insertion.pickup ≤ insertion.dropoff) {t : Timing (Exact K)} {x y : K}
    (hx : t.pickupLoss = .finite x) (hy : t.totalLoss = .finite y) (hxy : x ≤ y) :
    (.finite x ≤ Slack.ofStops entry.reserve (entry.stops.drop insertion.pickup) ∧
      .finite y ≤ Slack.ofStops entry.reserve (entry.stops.drop insertion.dropoff)) ↔
      entry.OnTimeWith insertion t := by
  constructor
  · intro h
    obtain ⟨hp, hd⟩ := h
    obtain ⟨hstops, -⟩ := (Entry.le_slack_iff timed limited _ x).mp hp
    obtain ⟨hafter, hfinish⟩ := (Entry.le_slack_iff timed limited _ y).mp hd
    rw [Entry.drop_pickup_eq ordered, List.forall_mem_append] at hstops
    refine ⟨?_, ?_, ?_⟩
    · rw [hx]
      exact hstops.1
    · rw [hy]
      exact hafter
    · rw [hy]
      exact hfinish
  · intro h
    obtain ⟨hbetween, hafter, hfinish⟩ := h
    rw [hx] at hbetween
    rw [hy] at hafter hfinish
    have hd := (Entry.le_slack_iff timed limited insertion.dropoff y).mpr ⟨hafter, hfinish⟩
    have hle : (.finite x : Exact K) ≤ .finite y := Exact.finite_le_finite.mpr hxy
    -- what tolerates both losses tolerates the pickup loss
    obtain ⟨hafter', hfinish'⟩ :=
      (Entry.le_slack_iff timed limited _ x).mp (Exact.le_trans hle hd)
    refine ⟨(Entry.le_slack_iff timed limited _ x).mpr ⟨?_, hfinish'⟩, hd⟩
    rw [Entry.drop_pickup_eq ordered, List.forall_mem_append]
    exact ⟨hbetween, hafter'⟩

/-- **The two look-ups of the slack test are exact**: an insertion into an entry with derived slacks
passes the test when the whole delayed schedule is still on time. -/
theorem Entry.slackTest_iff_onTime {vehicle : Vehicle (Exact K)} {start : Start (Exact K)}
    {stops : List (Stop (Exact K))} {entry : Entry (Exact K)}
    (built : Entry.ofServiceEnd? vehicle start stops = .ok entry) (timed : entry.IsTimed)
    (limited : entry.IsLimited) {request : Request (Exact K)} (starts : request.StartsFinite)
    {insertion : Insertion} (ordered : insertion.pickup ≤ insertion.dropoff)
    (inside : insertion.dropoff ≤ entry.stopCount) (legs : Legs K) (stopDuration : K) :
    ∃ slack t, InsertionSlack.ofInsertion entry insertion = .ok slack ∧
      Timing.ofInsertion (.finite stopDuration) request entry insertion (legs.map .finite)
        = .ok t ∧
      (slack.violatedBy t = false ↔ entry.OnTimeWith insertion t) := by
  obtain ⟨t, ht, departure, arrival, x, z, hval, hz⟩ :=
    Timing.exists_finite timed starts ordered inside legs stopDuration
  have hx : t.pickupLoss = .finite x := by rw [hval]
  have hy : t.totalLoss = .finite (x + z) := by
    rw [hval]
    exact Exact.add_finite x z
  refine ⟨_, t, InsertionSlack.ofInsertion_of_ofServiceEnd built ordered inside, ht, ?_⟩
  rw [InsertionSlack.violatedBy_eq_false_iff (Entry.isDefined_slack timed limited _)
    (Entry.isDefined_slack timed limited _) hx hy]
  exact Entry.slacks_iff_onTimeWith timed limited ordered hx hy (le_add_of_nonneg_right hz)

end Exact

/-- A pickup at once and a dropoff after the first stop, both driven to. -/
theorem Entry.slackTest_iff_onTime_sample :
    (Entry.ofServiceEnd? Sample.vehicle Sample.start Sample.stops = .ok Sample.entry ∧
      Sample.entry.IsTimed ∧ Sample.entry.IsLimited ∧ Sample.request.StartsFinite ∧
      (1 : Nat) ≤ Sample.entry.stopCount) ∧
    ∃ slack t, InsertionSlack.ofInsertion Sample.entry ⟨0, 1⟩ = .ok slack ∧
      Timing.ofInsertion (.finite 60) Sample.request Sample.entry ⟨0, 1⟩
        ((⟨50, 40, some 30, some 20⟩ : Legs ℚ).map .finite) = .ok t ∧
      (slack.violatedBy t = false ↔ Sample.entry.OnTimeWith ⟨0, 1⟩ t) :=
  ⟨⟨Sample.built, Sample.timed, Sample.limited, .inr ⟨_, rfl⟩, by decide⟩,
    Entry.slackTest_iff_onTime Sample.built Sample.timed Sample.limited (.inr ⟨_, rfl⟩)
      (by decide) (by decide) ⟨50, 40, some 30, some 20⟩ 60⟩

end DialARide
