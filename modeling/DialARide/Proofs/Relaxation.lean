import DialARide.Proofs.Carries
import DialARide.Proofs.Cheapest
import DialARide.Proofs.Slack
import DialARide.Proofs.Travel

/-!
# Relaxed problems

A problem is relaxed when drives and stops take no longer, the request may start no later, and every
limit of the request, of the planned stops and of the service is kept or put off. The same
insertions are then listed; each of them is timed no later, tested against no less slack, and so
costs no more (`Search.answers_of_relaxed`). The two runs are compared along the look-ups they make
(`Carries`).

Not every delay shrinks: the dropoff loss of a pickup and dropoff back to back is what the pickup
loss leaves of the whole detour, and may grow. It is compared as part of the total loss only.
-/

namespace DialARide

variable {K : Type} [Field K] [LinearOrder K]

/-! ## 1. Lowered numbers -/

namespace Exact

/-- Both numbers are finite, and the second one is at most the first. -/
def LowersTo (a b : Exact K) : Prop := ∃ x y, a = .finite x ∧ b = .finite y ∧ y ≤ x

variable {a b c d : Exact K}

theorem LowersTo.le (h : a.LowersTo b) : b ≤ a := by
  obtain ⟨x, y, rfl, rfl, hyx⟩ := h
  exact finite_le_finite.mpr hyx

omit [Field K] in
theorem IsFinite.lowersTo (h : a.IsFinite) : a.LowersTo a := by
  obtain ⟨x, rfl⟩ := h
  exact ⟨x, x, rfl, rfl, Std.le_refl x⟩

theorem LowersTo.min (hab : a.LowersTo b) (hcd : c.LowersTo d) :
    (Scalar.min a c).LowersTo (Scalar.min b d) := by
  obtain ⟨x, y, rfl, rfl, hyx⟩ := hab
  obtain ⟨z, w, rfl, rfl, hwz⟩ := hcd
  exact ⟨_, _, min_finite x z, min_finite y w, inf_le_inf hyx hwz⟩

theorem LowersTo.max (hab : a.LowersTo b) (hcd : c.LowersTo d) :
    (Scalar.max a c).LowersTo (Scalar.max b d) := by
  obtain ⟨x, y, rfl, rfl, hyx⟩ := hab
  obtain ⟨z, w, rfl, rfl, hwz⟩ := hcd
  exact ⟨_, _, max_finite x z, max_finite y w, sup_le_sup hyx hwz⟩

theorem lowersTo_zero : (Scalar.zero : Exact K).LowersTo Scalar.zero :=
  IsFinite.lowersTo ⟨_, rfl⟩

theorem LowersTo.clamp (h : a.LowersTo b) : (Scalar.clamp a).LowersTo (Scalar.clamp b) :=
  lowersTo_zero.max h

variable [IsStrictOrderedRing K]

theorem LowersTo.add (hab : a.LowersTo b) (hcd : c.LowersTo d) : (a + c).LowersTo (b + d) := by
  obtain ⟨x, y, rfl, rfl, hyx⟩ := hab
  obtain ⟨z, w, rfl, rfl, hwz⟩ := hcd
  exact ⟨_, _, add_finite x z, add_finite y w, by linarith⟩

/-- What is taken off stays the same. -/
theorem LowersTo.sub (hab : a.LowersTo b) (hc : c.IsFinite) : (a - c).LowersTo (b - c) := by
  obtain ⟨x, y, rfl, rfl, hyx⟩ := hab
  obtain ⟨z, rfl⟩ := hc
  exact ⟨_, _, sub_finite x z, sub_finite y z, by linarith⟩

omit [IsStrictOrderedRing K] in
/-- A number that is split into two parts is lowered as a whole, whatever becomes of the second. -/
theorem LowersTo.add_rest (hab : a.LowersTo b) (hcd : c.LowersTo d) :
    (a + (c - a)).LowersTo (b + (d - b)) := by
  obtain ⟨x, y, rfl, rfl, -⟩ := hab
  obtain ⟨z, w, rfl, rfl, hwz⟩ := hcd
  rw [sub_finite, sub_finite, add_finite, add_finite, add_sub_cancel, add_sub_cancel]
  exact ⟨z, w, rfl, rfl, hwz⟩

omit [IsStrictOrderedRing K] in
/-- What comes no later keeps a limit that is put off. -/
theorem LowersTo.keeps (hab : a.LowersTo b) (hcd : c ≤ d) (h : Scalar.lt c a = false) :
    Scalar.lt d b = false :=
  (lt_eq_false_iff hab.le.1 hcd.2.1).mpr
    (le_trans hab.le (le_trans ((lt_eq_false_iff hab.le.2.1 hcd.1).mp h) hcd))

end Exact

/-! ## 2. Relaxed requests, schedules and searches -/

/-- The same seats are asked for, and the time window is at least as wide. -/
structure Request.RelaxedTo (tight loose : Request (Exact K)) : Prop where
  origin : tight.origin = loose.origin
  destination : tight.destination = loose.destination
  size : tight.size = loose.size
  earliestStart : loose.times.earliestStart ≤ tight.times.earliestStart
  latestStart : tight.times.latestStart ≤ loose.times.latestStart
  latestArrival : tight.times.latestArrival ≤ loose.times.latestArrival

/-- The same visit, with latest times that are no earlier. -/
structure Stop.RelaxedTo (tight loose : Stop (Exact K)) : Prop where
  location : tight.location = loose.location
  occupancy : tight.occupancy = loose.occupancy
  arrival : tight.task.arrival = loose.task.arrival
  departure : tight.task.departure = loose.task.departure
  latestArrival : tight.task.latestArrival ≤ loose.task.latestArrival
  latestDeparture : tight.task.latestDeparture ≤ loose.task.latestDeparture

/-- The schedule has passed the checks of a new entry, with the slacks that follow from its own
latest times. -/
def Entry.DerivesSlack (entry : Entry (Exact K)) : Prop :=
  Entry.ofServiceEnd? entry.vehicle entry.start entry.stops = .ok entry

/-- The same timed schedule, with limits that are no earlier and the slacks that follow from them.
The vehicle keeps its number and its seats; its name may differ. -/
structure Entry.RelaxedTo (tight loose : Entry (Exact K)) : Prop where
  id : tight.vehicle.id = loose.vehicle.id
  capacity : tight.vehicle.capacity = loose.vehicle.capacity
  start : tight.start = loose.start
  stops : List.Forall₂ Stop.RelaxedTo tight.stops loose.stops
  serviceEnd : tight.vehicle.serviceEnd ≤ loose.vehicle.serviceEnd
  timed : tight.IsTimed
  derived : tight.DerivesSlack
  derived' : loose.DerivesSlack

/-- Drives and stops take no longer, and lateness is treated the same. -/
structure Search.RelaxedTo (tight loose : Search (Exact K)) : Prop where
  driveTime : ∀ a b, Carries Exact.LowersTo (tight.driveTime a b) (loose.driveTime a b)
  stopDuration : tight.stopDuration.LowersTo loose.stopDuration
  strategy : ∃ choice : StrategyChoice,
    tight.strategy = choice.strategy ∧ loose.strategy = choice.strategy

/-! ## 3. The same insertions -/

theorem Request.RelaxedTo.samePlaces {request request' : Request (Exact K)}
    (h : request.RelaxedTo request') : request.SamePlaces request' := ⟨h.origin, h.destination⟩

theorem Entry.insertions_eq_of_relaxed {request request' : Request (Exact K)}
    {entry entry' : Entry (Exact K)} (hrequest : request.RelaxedTo request')
    (h : entry.RelaxedTo entry') : entry.insertions request = entry'.insertions request' :=
  Entry.insertions_eq_of_sameLoad hrequest.samePlaces hrequest.size h.capacity
    (congrArg Start.occupancy h.start)
    (h.stops.imp fun _ _ hstop => ⟨hstop.location, hstop.occupancy⟩)

/-! ## 4. The same look-ups -/

/-- A waypoint that looks the same to an insertion. -/
structure Waypoint.Alike (w w' : Waypoint (Exact K)) : Prop where
  isStop : w.isStop = w'.isStop
  location : w.location = w'.location
  departure : w.departure = w'.departure

namespace Entry.RelaxedTo

variable {entry entry' : Entry (Exact K)}

theorem stopCount (h : entry.RelaxedTo entry') : entry.stopCount = entry'.stopCount :=
  h.stops.length_eq

theorem waypoint (h : entry.RelaxedTo entry') (k : Nat) :
    Carries Waypoint.Alike (entry.waypoint k) (entry'.waypoint k) := by
  cases k with
  | zero => exact .ok ⟨rfl, congrArg Start.location h.start, congrArg Start.departure h.start⟩
  | succ k =>
    exact (Carries.lookUp h.stops k).map fun _ _ hstop => ⟨rfl, hstop.location, hstop.departure⟩

theorem stopAt (h : entry.RelaxedTo entry') (k : Nat) :
    Carries Stop.RelaxedTo (entry.stopAt k) (entry'.stopAt k) := by
  cases k with
  | zero => exact fun _ h => nomatch h
  | succ k => exact Carries.lookUp h.stops k

theorem driveAfter (h : entry.RelaxedTo entry') (k : Nat) :
    Carries Eq (entry.driveAfter k) (entry'.driveAfter k) := by
  unfold Entry.driveAfter
  rw [← h.stopCount]
  by_cases hk : k < entry.stopCount
  · rw [if_pos hk, if_pos hk]
    refine (Carries.lookUp h.stops k).bind fun stop stop' _ hstop =>
      (h.waypoint k).bind fun w w' _ hw => .ok ?_
    rw [hstop.arrival, hw.departure]
  · rw [if_neg hk, if_neg hk]
    exact .ok rfl

theorem sameRoute (h : entry.RelaxedTo entry') : entry.SameRoute entry' where
  stopCount := h.stopCount
  waypoint k := (h.waypoint k).imp fun _ _ hw => hw.location

end Entry.RelaxedTo

/-- The time of a leg that may be absent. -/
theorem Legs.getD_lowersTo {leg leg' : Option (Exact K)} (h : Option.Rel Exact.LowersTo leg leg') :
    (leg.getD Scalar.zero).LowersTo (leg'.getD Scalar.zero) := by
  cases h with
  | some h => exact h
  | none => exact Exact.lowersTo_zero

/-! ## 5. Earlier times and smaller losses -/

/-- The pickup is left no later, the dropoff is reached no later, and neither delay is longer. -/
structure Timing.RelaxedTo (t t' : Timing (Exact K)) : Prop where
  pickupDeparture : t.pickupDeparture.LowersTo t'.pickupDeparture
  dropoffArrival : t.dropoffArrival.LowersTo t'.dropoffArrival
  pickupLoss : t.pickupLoss.LowersTo t'.pickupLoss
  totalLoss : t.totalLoss.LowersTo t'.totalLoss

section Timing

variable {request request' : Request (Exact K)} {stopDuration stopDuration' : Exact K}
  {w w' : Waypoint (Exact K)} {legs legs' : Legs (Exact K)} {a b replaced : Exact K}

/-- Waiting for an earlier start ends no later. -/
theorem Request.RelaxedTo.max_earliestStart (hrequest : request.RelaxedTo request')
    (starts : request.StartsFinite) (h : a.LowersTo b) :
    (Scalar.max a request.times.earliestStart).LowersTo
      (Scalar.max b request'.times.earliestStart) := by
  obtain ⟨x, y, rfl, rfl, hyx⟩ := h
  have hearlier := Exact.le_cases hrequest.earliestStart
  rcases starts with hstart | ⟨e, hstart⟩
  · rw [hstart] at hearlier ⊢
    rcases hearlier with ⟨hstart', -⟩ | ⟨habs, -⟩ | ⟨_, _, -, habs, -⟩
    · rw [hstart', Exact.max_negInf, Exact.max_negInf]
      exact ⟨x, y, rfl, rfl, hyx⟩
    · cases habs
    · cases habs
  · rw [hstart] at hearlier ⊢
    rcases hearlier with ⟨hstart', -⟩ | ⟨habs, -⟩ | ⟨e', e'', hstart', he, hee⟩
    · rw [hstart', Exact.max_negInf]
      exact ⟨_, y, Exact.max_finite x e, rfl, le_sup_of_le_left hyx⟩
    · cases habs
    · cases he
      rw [hstart']
      exact Exact.LowersTo.max ⟨x, y, rfl, rfl, hyx⟩ ⟨e, e', rfl, rfl, hee⟩

namespace Timing

variable [IsStrictOrderedRing K]

theorem departureFrom_relaxed (hrequest : request.RelaxedTo request')
    (starts : request.StartsFinite) (hstop : stopDuration.LowersTo stopDuration')
    (hw : w.Alike w') (timed : w.departure.IsFinite) (hlegs : legs.Related Exact.LowersTo legs') :
    (departureFrom stopDuration request w legs).LowersTo
      (departureFrom stopDuration' request' w' legs') := by
  unfold departureFrom
  rw [← hw.isStop, ← hw.location, ← hrequest.origin, ← hw.departure]
  split
  · exact hrequest.max_earliestStart starts timed.lowersTo
  · exact (hrequest.max_earliestStart starts (timed.lowersTo.add hlegs.toPickup)).add hstop

theorem combined_relaxed (hrequest : request.RelaxedTo request')
    (starts : request.StartsFinite) (hstop : stopDuration.LowersTo stopDuration')
    (hw : w.Alike w') (timed : w.departure.IsFinite) (hreplaced : replaced.IsFinite)
    (hlegs : legs.Related Exact.LowersTo legs') :
    (combined stopDuration request w replaced legs).RelaxedTo
      (combined stopDuration' request' w' replaced legs') := by
  have hdeparture := departureFrom_relaxed hrequest starts hstop hw timed hlegs
  have harrival := hdeparture.add hlegs.fromPickup
  have hdetour := ((((harrival.sub timed).add hstop).add
    (Legs.getD_lowersTo hlegs.fromDropoff)).sub hreplaced).clamp
  have hloss := (hdeparture.sub timed).min hdetour
  unfold combined
  rw [← hw.departure]
  exact ⟨hdeparture, harrival, hloss, hloss.add_rest hdetour⟩

theorem separatePickupLoss_relaxed (hdeparture : a.LowersTo b) (hw : w.Alike w')
    (timed : w.departure.IsFinite) (hreplaced : replaced.IsFinite)
    (hlegs : legs.Related Exact.LowersTo legs') :
    (separatePickupLoss a w replaced legs).LowersTo
      (separatePickupLoss b w' replaced legs') := by
  unfold separatePickupLoss
  rw [← hw.departure]
  exact (((hdeparture.sub timed).add hlegs.fromPickup).sub hreplaced).clamp

theorem separateDropoff_relaxed (hrequest : request.RelaxedTo request')
    (hstop : stopDuration.LowersTo stopDuration') {stop stop' : Stop (Exact K)}
    (hvisit : stop.RelaxedTo stop') (timed : stop.task.IsTimed) (hreplaced : replaced.IsFinite)
    (hlegs : legs.Related Exact.LowersTo legs') (hloss : a.LowersTo b) :
    (separateDropoff stopDuration request stop replaced legs a).1.LowersTo
        (separateDropoff stopDuration' request' stop' replaced legs' b).1 ∧
      (separateDropoff stopDuration request stop replaced legs a).2.LowersTo
        (separateDropoff stopDuration' request' stop' replaced legs' b).2 := by
  have hto := Legs.getD_lowersTo hlegs.toDropoff
  have hfrom := Legs.getD_lowersTo hlegs.fromDropoff
  unfold separateDropoff
  rw [← hvisit.location, ← hrequest.destination, ← hvisit.arrival, ← hvisit.departure]
  split
  · exact ⟨timed.arrival.lowersTo.add hloss, Exact.lowersTo_zero⟩
  · exact ⟨(timed.departure.lowersTo.add hloss).add hto,
      (((hto.add hstop).add hfrom).sub hreplaced).clamp⟩

theorem ofInsertion_relaxed {entry entry' : Entry (Exact K)}
    (hrequest : request.RelaxedTo request') (starts : request.StartsFinite)
    (hstop : stopDuration.LowersTo stopDuration') (hentry : entry.RelaxedTo entry')
    (hlegs : legs.Related Exact.LowersTo legs') {insertion : Insertion}
    (ordered : insertion.pickup ≤ insertion.dropoff)
    (inside : insertion.dropoff ≤ entry.stopCount) :
    Carries Timing.RelaxedTo (ofInsertion stopDuration request entry insertion legs)
      (ofInsertion stopDuration' request' entry' insertion legs') := by
  unfold ofInsertion
  refine (hentry.waypoint insertion.pickup).bind fun w w' hw hww => ?_
  refine (hentry.driveAfter insertion.pickup).bind fun replaced _ hr heq => ?_
  subst heq
  have hleft := hentry.timed.departure hw
  have hreplaced := hentry.timed.isFinite_driveAfter (ordered.trans inside) hr
  by_cases hself : insertion.pickup = insertion.dropoff
  · rw [if_pos hself, if_pos hself]
    exact .ok (combined_relaxed hrequest starts hstop hww hleft hreplaced hlegs)
  · rw [if_neg hself, if_neg hself]
    have hdeparture := departureFrom_relaxed hrequest starts hstop hww hleft hlegs
    have hloss := separatePickupLoss_relaxed hdeparture hww hleft hreplaced hlegs
    refine (hentry.stopAt insertion.dropoff).bind fun stop stop' hs hvisit => ?_
    refine (hentry.driveAfter insertion.dropoff).bind fun after _ hr' heq => ?_
    subst heq
    have hmem : stop ∈ entry.stops := Entry.mem_of_stopAt hs
    have hdropoff := separateDropoff_relaxed hrequest hstop hvisit (hentry.timed.stops stop hmem)
      (hentry.timed.isFinite_driveAfter inside hr') hlegs hloss
    exact .ok ⟨hdeparture, hdropoff.1, hloss, hloss.add hdropoff.2⟩

end Timing

end Timing

/-! ## 6. More slack and lower costs -/

section Slack

variable {entry entry' : Entry (Exact K)} {insertion : Insertion}

theorem Entry.RelaxedTo.scheduleEnd (h : entry.RelaxedTo entry') :
    scheduleEnd entry.start entry.stops = scheduleEnd entry'.start entry'.stops := by
  have hmap : entry.stops.map (·.task.departure) = entry'.stops.map (·.task.departure) := by
    rw [← List.forall₂_eq_eq_eq, List.forall₂_map_left_iff, List.forall₂_map_right_iff]
    exact h.stops.imp fun _ _ hstop => hstop.departure
  have hlast := congrArg List.getLast? hmap
  rw [List.getLast?_map, List.getLast?_map] at hlast
  unfold DialARide.scheduleEnd
  rw [h.start]
  cases hl : entry.stops.getLast? <;> cases hl' : entry'.stops.getLast? <;>
    simp_all

/-- No less slack where pickup and dropoff are inserted. -/
structure InsertionSlack.RelaxedTo (slack slack' : InsertionSlack (Exact K)) : Prop where
  pickup : slack.pickup ≤ slack'.pickup
  dropoff : slack.dropoff ≤ slack'.dropoff

variable [IsStrictOrderedRing K]

theorem Stop.RelaxedTo.slack_le {stop stop' : Stop (Exact K)} (h : stop.RelaxedTo stop')
    (timed : stop.task.IsTimed) : stop.task.slack ≤ stop'.task.slack := by
  obtain ⟨a, ha⟩ := timed.arrival
  obtain ⟨d, hd⟩ := timed.departure
  rw [StopTask.slack, StopTask.slack, ← h.arrival, ← h.departure, ha, hd]
  exact Exact.min_le_min (Exact.sub_finite_le_sub_finite h.latestArrival a)
    (Exact.sub_finite_le_sub_finite h.latestDeparture d)

theorem Slack.ofStops_le {reserve reserve' : Exact K} (hreserve : reserve ≤ reserve')
    {stops stops' : List (Stop (Exact K))} (h : List.Forall₂ Stop.RelaxedTo stops stops')
    (timed : ∀ stop ∈ stops, stop.task.IsTimed) :
    ofStops reserve stops ≤ ofStops reserve' stops' := by
  induction h with
  | nil => exact hreserve
  | cons hstop _ ih =>
    rw [List.forall_mem_cons] at timed
    exact Exact.min_le_min (ih timed.2) (hstop.slack_le timed.1)

theorem Entry.RelaxedTo.slack_le (h : entry.RelaxedTo entry') (k : Nat) :
    Slack.ofStops entry.reserve (entry.stops.drop k)
      ≤ Slack.ofStops entry'.reserve (entry'.stops.drop k) := by
  obtain ⟨finish, hfinish⟩ := h.timed.scheduleEnd
  refine Slack.ofStops_le ?_ (List.forall₂_drop k h.stops)
    fun stop hstop => h.timed.stops stop (List.mem_of_mem_drop hstop)
  rw [Entry.reserve, Entry.reserve, ← h.scheduleEnd, hfinish]
  exact Exact.sub_finite_le_sub_finite h.serviceEnd finish

theorem InsertionSlack.ofInsertion_relaxed (h : entry.RelaxedTo entry')
    (ordered : insertion.pickup ≤ insertion.dropoff)
    (inside : insertion.dropoff ≤ entry.stopCount) :
    Carries InsertionSlack.RelaxedTo (ofInsertion entry insertion)
      (ofInsertion entry' insertion) := by
  rw [ofInsertion_of_ofServiceEnd h.derived ordered inside,
    ofInsertion_of_ofServiceEnd h.derived' ordered (h.stopCount ▸ inside)]
  exact .ok ⟨h.slack_le _, h.slack_le _⟩

omit [IsStrictOrderedRing K] in
/-- An insertion that keeps the slacks still keeps larger ones when its losses shrink. -/
theorem InsertionSlack.RelaxedTo.violatedBy {slack slack' : InsertionSlack (Exact K)}
    (h : slack.RelaxedTo slack') {t t' : Timing (Exact K)} (ht : t.RelaxedTo t')
    (kept : slack.violatedBy t = false) : slack'.violatedBy t' = false := by
  rw [InsertionSlack.violatedBy, Bool.or_eq_false_iff] at kept ⊢
  exact ⟨ht.pickupLoss.keeps h.pickup kept.1, ht.totalLoss.keeps h.dropoff kept.2⟩

end Slack

section Cost

variable [IsStrictOrderedRing K]

/-- The penalty for lateness shrinks with it. -/
theorem Exact.penalty_le {u : K} (hu : 0 < u) {limit limit' time time' : Exact K}
    (hlimit : limit ≤ limit') (htime : time.LowersTo time') :
    (finite u * Scalar.clamp (time' - limit')).IsBoundedBelow ∧
      finite u * Scalar.clamp (time' - limit') ≤ finite u * Scalar.clamp (time - limit) := by
  obtain ⟨x, y, rfl, rfl, hyx⟩ := htime
  have hbounded : (Scalar.clamp (finite y - limit')).IsBoundedBelow :=
    isBoundedBelow_clamp (isDefined_finite_sub y hlimit.2.1)
  exact ⟨hbounded.finite_mul hu, finite_mul_le_finite_mul hu hbounded
    (clamp_le_clamp (finite_sub_le_finite_sub hyx hlimit))⟩

variable {request request' : Request (Exact K)} {slack slack' : InsertionSlack (Exact K)}
  {t t' : Timing (Exact K)}

omit [IsStrictOrderedRing K] in
theorem Strategy.reject_cost_le (hrequest : request.RelaxedTo request')
    (hslack : slack.RelaxedTo slack') (ht : t.RelaxedTo t') :
    reject.cost request' slack' t' ≤ reject.cost request slack t := by
  have hloss := ht.totalLoss.le
  have hdefined : (reject.cost request' slack' t').isDefined := by
    unfold cost
    dsimp only
    split
    · rfl
    · exact hloss.1
  cases hkept : slack.violatedBy t with
  | true =>
    rw [cost_of_violated _ hkept]
    exact Exact.le_posInf hdefined
  | false =>
    cases hlate : Scalar.lt request.times.latestStart t.pickupDeparture
        || Scalar.lt request.times.latestArrival t.dropoffArrival with
    | true =>
      rw [reject_cost_of_late hlate]
      exact Exact.le_posInf hdefined
    | false =>
      obtain ⟨hstart, harrival⟩ := Bool.or_eq_false_iff.mp hlate
      rw [reject_cost_of_punctual hkept hstart harrival,
        reject_cost_of_punctual (hslack.violatedBy ht hkept)
          (ht.pickupDeparture.keeps hrequest.latestStart hstart)
          (ht.dropoffArrival.keeps hrequest.latestArrival harrival)]
      exact hloss

theorem Strategy.discourage_cost_le {u v : K} (hu : 0 < u) (hv : 0 < v)
    (hrequest : request.RelaxedTo request') (hslack : slack.RelaxedTo slack')
    (ht : t.RelaxedTo t') :
    (discourage (.finite u) (.finite v)).cost request' slack' t'
      ≤ (discourage (.finite u) (.finite v)).cost request slack t := by
  obtain ⟨hpickup, hpickup'⟩ := Exact.penalty_le hu hrequest.latestStart ht.pickupDeparture
  obtain ⟨hdropoff, hdropoff'⟩ := Exact.penalty_le hv hrequest.latestArrival ht.dropoffArrival
  have hloss : t'.totalLoss.IsBoundedBelow := by
    obtain ⟨-, y, -, hy, -⟩ := ht.totalLoss
    exact .inl ⟨y, hy⟩
  have hle := Exact.add_le_add (hloss.add hpickup) hdropoff
    (Exact.add_le_add hloss hpickup ht.totalLoss.le hpickup') hdropoff'
  cases hkept : slack.violatedBy t with
  | false =>
    rw [discourage_cost_of_kept hkept, discourage_cost_of_kept (hslack.violatedBy ht hkept)]
    exact hle
  | true =>
    rw [cost_of_violated _ hkept]
    refine Exact.le_posInf ?_
    cases hkept' : slack'.violatedBy t' with
    | false =>
      rw [discourage_cost_of_kept hkept']
      exact hle.1
    | true =>
      rw [cost_of_violated _ hkept']
      rfl

/-- **An insertion costs no more when it is timed no later and its limits are put off.** -/
theorem Strategy.cost_le (choice : StrategyChoice) (hrequest : request.RelaxedTo request')
    (hslack : slack.RelaxedTo slack') (ht : t.RelaxedTo t') :
    (choice.strategy : Strategy (Exact K)).cost request' slack' t'
      ≤ (choice.strategy : Strategy (Exact K)).cost request slack t := by
  cases choice with
  | reject => exact reject_cost_le hrequest hslack ht
  | discourage =>
    exact discourage_cost_le (Nat.cast_pos.mpr Nat.one_pos) (Nat.cast_pos.mpr (Nat.succ_pos 9))
      hrequest hslack ht

end Cost

/-! ## 7. Two searches -/

namespace Search

variable [IsStrictOrderedRing K] {tight loose : Search (Exact K)}
  {request request' : Request (Exact K)} {entry entry' : Entry (Exact K)}
  {fleet fleet' : List (Entry (Exact K))}

/-- Every offer to a vehicle has a counterpart that costs no more. -/
theorem score_relaxed (h : tight.RelaxedTo loose) (hrequest : request.RelaxedTo request')
    (starts : request.StartsFinite) (hentry : entry.RelaxedTo entry') {insertion : Insertion}
    (ordered : insertion.pickup ≤ insertion.dropoff)
    (inside : insertion.dropoff ≤ entry.stopCount) :
    Carries (fun offer other => other.cost ≤ offer.cost) (tight.score request entry insertion)
      (loose.score request' entry' insertion) := by
  obtain ⟨choice, htight, hloose⟩ := h.strategy
  unfold score
  rw [htight, hloose]
  exact (Legs.ofInsertion_carries h.driveTime hrequest.samePlaces hentry.sameRoute insertion).bind
    fun legs legs' _ hlegs =>
      (Timing.ofInsertion_relaxed hrequest starts h.stopDuration hentry hlegs ordered inside).bind
        fun t t' _ ht => (InsertionSlack.ofInsertion_relaxed hentry ordered inside).bind
          fun slack slack' _ hslack => .ok (Strategy.cost_le choice hrequest hslack ht)

theorem evaluateVehicle_relaxed (h : tight.RelaxedTo loose) (hrequest : request.RelaxedTo request')
    (starts : request.StartsFinite) (hentry : entry.RelaxedTo entry') :
    Carries NoDearer (tight.evaluateVehicle request entry)
      (loose.evaluateVehicle request' entry') := by
  refine evaluateVehicle_noDearer (Entry.insertions_eq_of_relaxed hrequest hentry)
    fun insertion hinsertion => ?_
  obtain ⟨ordered, inside⟩ := Entry.bounds_of_mem_insertions hinsertion
  exact score_relaxed h hrequest starts hentry ordered inside

/-- The same insertions are listed, and none of them costs more. -/
structure Undercuts (tight loose : Search (Exact K)) (request request' : Request (Exact K))
    (entry entry' : Entry (Exact K)) : Prop where
  insertions : entry.insertions request = entry'.insertions request'
  prices : ∀ insertion ∈ entry.insertions request, ∃ offer other,
    tight.Prices request entry insertion offer ∧
    loose.Prices request' entry' insertion other ∧ other.cost ≤ offer.cost

theorem undercuts_of_relaxed (h : tight.RelaxedTo loose) (hrequest : request.RelaxedTo request')
    (starts : request.StartsFinite) (hentry : entry.RelaxedTo entry')
    (answers : tight.driveTime.Answers (entry.places request)) :
    Undercuts tight loose request request' entry entry' where
  insertions := Entry.insertions_eq_of_relaxed hrequest hentry
  prices insertion hinsertion := by
    obtain ⟨ordered, inside⟩ := Entry.bounds_of_mem_insertions hinsertion
    have hslacks : entry.HasSlacks := Entry.hasSlacks_of_ofSlack hentry.derived
    obtain ⟨offer, hoffer⟩ := exists_prices answers hslacks hinsertion
    obtain ⟨other, hother, hle⟩ := score_relaxed h hrequest starts hentry ordered inside offer
      (score_eq_ok_iff.mpr hoffer)
    exact ⟨offer, other, hoffer, score_eq_ok_iff.mp hother, hle⟩

/-- **Relaxing a problem never hurts**: the same insertions are listed for each vehicle, none of
them costs more, the best one costs no more, and the request cannot be assigned only if it could not
be before. -/
theorem answers_of_relaxed (h : tight.RelaxedTo loose) (hrequest : request.RelaxedTo request')
    (starts : request.StartsFinite) (hfleet : List.Forall₂ Entry.RelaxedTo fleet fleet')
    (answers : ∀ entry ∈ fleet, tight.driveTime.Answers (entry.places request))
    {clock clock' : Clock} (inTime : tight.InTime clock fleet.length)
    (inTime' : loose.InTime clock' fleet'.length) :
    List.Forall₂ (Undercuts tight loose request request') fleet fleet' ∧
    ∃ outcome other, tight.findBest clock request fleet = .ok outcome ∧
      loose.findBest clock' request' fleet' = .ok other ∧
      (∀ best ∈ outcome.best, ∃ best' ∈ other.best, best'.cost ≤ best.cost) ∧
      (other.best = none → outcome.best = none) := by
  have hpriced : List.Forall₂ (Undercuts tight loose request request') fleet fleet' :=
    ((List.forall₂_and_left fleet fleet').mpr ⟨answers, hfleet⟩).imp fun _ _ hentry =>
      undercuts_of_relaxed h hrequest starts hentry.2 hentry.1
  have hslacks : ∀ entry ∈ fleet, entry.HasSlacks :=
    ((List.forall₂_and_left fleet fleet').mp (hfleet.imp fun _ _ hentry =>
      ⟨Entry.hasSlacks_of_ofSlack hentry.derived, hentry⟩)).1
  have ready : tight.Ready request fleet := ⟨hslacks, answers⟩
  obtain ⟨outcome, houtcome⟩ := ready.exists_findBest clock
  obtain ⟨other, hother, hbest⟩ := findBest_noDearer
    (hfleet.imp fun _ _ hentry => evaluateVehicle_relaxed h hrequest starts hentry) inTime inTime'
    outcome houtcome
  exact ⟨hpriced, outcome, other, houtcome, hother, hbest, hbest.best_eq_none⟩

end Search

namespace Sample

/-- The sample schedule without an end of service and with one later limit. -/
def looseEntry : Entry (Exact ℚ) :=
  let vehicle := { vehicle with serviceEnd := .posInf }
  let stops := [
    ⟨3, ⟨.finite 100, .finite 130, .finite 300, .posInf⟩, 1⟩,
    ⟨2, ⟨.finite 200, .finite 230, .posInf, .finite 400⟩, 0⟩]
  ⟨vehicle, start, stops, slackTimes start stops vehicle.serviceEnd⟩

theorem looseBuilt : looseEntry.DerivesSlack := rfl

/-- Locations five seconds apart, and shorter stops. -/
def fastSearch : Search (Exact ℚ) := ⟨DriveTime.line (.finite 5), .finite 30, .reject, none⟩

theorem line_carries_lowersTo {scale scale' : ℚ} (h : scale' ≤ scale) (a b : LocationId) :
    Carries Exact.LowersTo (DriveTime.line (.finite scale) a b)
      (DriveTime.line (.finite scale') a b) := by
  rw [DriveTime.line_eq, DriveTime.line_eq]
  exact .ok ⟨_, _, rfl, rfl, mul_le_mul_of_nonneg_left h (abs_nonneg _)⟩

theorem search_relaxedTo : search.RelaxedTo fastSearch where
  driveTime := line_carries_lowersTo (by norm_num)
  stopDuration := ⟨60, 30, rfl, rfl, by norm_num⟩
  strategy := ⟨.reject, rfl, rfl⟩

theorem request_relaxedTo : tightRequest.RelaxedTo request where
  origin := rfl
  destination := rfl
  size := rfl
  earliestStart := by decide
  latestStart := by decide
  latestArrival := by decide

theorem entry_relaxedTo : entry.RelaxedTo looseEntry where
  id := rfl
  capacity := rfl
  start := rfl
  stops := .cons ⟨rfl, rfl, rfl, rfl, by decide, by decide⟩
    (.cons ⟨rfl, rfl, rfl, rfl, by decide, by decide⟩ .nil)
  serviceEnd := by decide
  timed := timed
  derived := built
  derived' := looseBuilt

end Sample

/-- Faster drives, a later limit and no arrival by time 120. -/
theorem Search.answers_of_relaxed_sample :
    (Sample.search.RelaxedTo Sample.fastSearch ∧
      Sample.tightRequest.RelaxedTo Sample.request ∧ Sample.tightRequest.StartsFinite ∧
      List.Forall₂ Entry.RelaxedTo [Sample.entry] [Sample.looseEntry] ∧
      (∀ entry ∈ [Sample.entry],
        Sample.search.driveTime.Answers (entry.places Sample.tightRequest)) ∧
      Sample.search.InTime .still 1 ∧ Sample.fastSearch.InTime .still 1) ∧
    List.Forall₂
      (Search.Undercuts Sample.search Sample.fastSearch Sample.tightRequest Sample.request)
      [Sample.entry] [Sample.looseEntry] ∧
    ∃ outcome other,
      Sample.search.findBest .still Sample.tightRequest [Sample.entry] = .ok outcome ∧
      Sample.fastSearch.findBest .still Sample.request [Sample.looseEntry] = .ok other ∧
      (∀ best ∈ outcome.best, ∃ best' ∈ other.best, best'.cost ≤ best.cost) ∧
      (other.best = none → outcome.best = none) := by
  have hfleet : List.Forall₂ Entry.RelaxedTo [Sample.entry] [Sample.looseEntry] :=
    .cons Sample.entry_relaxedTo .nil
  have answers : ∀ entry ∈ [Sample.entry],
      Sample.search.driveTime.Answers (entry.places Sample.tightRequest) :=
    fun _ _ _ _ _ _ => ⟨_, rfl⟩
  exact ⟨⟨Sample.search_relaxedTo, Sample.request_relaxedTo, .inr ⟨_, rfl⟩, hfleet, answers,
    fun _ _ => rfl, fun _ _ => rfl⟩,
    Search.answers_of_relaxed Sample.search_relaxedTo Sample.request_relaxedTo (.inr ⟨_, rfl⟩)
      hfleet answers (fun _ _ => rfl) fun _ _ => rfl⟩

end DialARide
