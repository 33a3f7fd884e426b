import DialARide.Proofs.Cheapest
import DialARide.Proofs.Travel

/-!
# Punctual offers

The two strategies differ in how they treat a request that is picked up or dropped off late; the
slack of the schedule they test alike. On a punctual offer no penalty falls due, so both ask the
same price, and a late one is infeasible for the strategy that rejects it. The ranking that rejects
lateness is therefore the one that discourages it, with the late offers left out
(`Search.rankings_of_strategies`).
-/

namespace DialARide

variable {K : Type} [Field K] [LinearOrder K]

/-! ## 1. Times that can be compared -/

/-- The limits of the window are numbers; infinite where there is no limit. -/
structure RequestTimes.IsDefined (times : RequestTimes (Exact K)) : Prop where
  earliestStart : times.earliestStart.isDefined
  latestStart : times.latestStart.isDefined
  latestArrival : times.latestArrival.isDefined

/-- No drive that is known takes a negatively infinite time. -/
def DriveTime.IsBoundedBelow (driveTime : DriveTime (Exact K)) : Prop :=
  ∀ a b time, driveTime a b = .ok time → time.IsBoundedBelow

section Timing

variable {driveTime : DriveTime (Exact K)} {request : Request (Exact K)} {entry : Entry (Exact K)}
  {insertion : Insertion} {legs : Legs (Exact K)} {stopDuration : Exact K}

theorem Legs.isBoundedBelow_of_ofInsertion (drives : driveTime.IsBoundedBelow)
    (h : ofInsertion driveTime request entry insertion = .ok legs) : legs.IsBoundedBelow := by
  rw [ofInsertion_eq] at h
  obtain ⟨w, -, h⟩ := bind_eq_ok.mp h
  obtain ⟨toPickup, htoPickup, h⟩ := bind_eq_ok.mp h
  obtain ⟨between, hbetween, h⟩ := bind_eq_ok.mp h
  obtain ⟨fromDropoff, -, h⟩ := bind_eq_ok.mp h
  cases h
  unfold middle at hbetween
  split at hbetween
  · obtain ⟨direct, hdirect, h⟩ := bind_eq_ok.mp hbetween
    cases h
    exact ⟨drives _ _ _ htoPickup, drives _ _ _ hdirect, Exact.isBoundedBelow_zero⟩
  · obtain ⟨next, -, h⟩ := bind_eq_ok.mp hbetween
    obtain ⟨fromPickup, hfromPickup, h⟩ := bind_eq_ok.mp h
    obtain ⟨last, -, h⟩ := bind_eq_ok.mp h
    obtain ⟨toDropoff, htoDropoff, h⟩ := bind_eq_ok.mp h
    cases h
    exact ⟨drives _ _ _ htoPickup, drives _ _ _ hfromPickup, drives _ _ _ htoDropoff⟩

namespace Timing

theorem isBoundedBelow_separateDropoff {stop : Stop (Exact K)} (timed : stop.task.IsTimed)
    (hlegs : legs.IsBoundedBelow) {replaced loss : Exact K} (hloss : loss.IsBoundedBelow) :
    (separateDropoff stopDuration request stop replaced legs loss).1.IsBoundedBelow := by
  have harrival : stop.task.arrival.IsBoundedBelow := .inl timed.arrival
  have hdeparture : stop.task.departure.IsBoundedBelow := .inl timed.departure
  unfold separateDropoff
  split
  · exact harrival.add hloss
  · exact (hdeparture.add hloss).add hlegs.toDropoff

/-- A request is picked up and dropped off at times that can be compared with its limits. -/
theorem isBoundedBelow_of_ofInsertion (window : request.times.IsDefined)
    (hstop : stopDuration.IsBoundedBelow) (timed : entry.IsTimed)
    (hlegs : legs.IsBoundedBelow) {t : Timing (Exact K)}
    (ordered : insertion.pickup ≤ insertion.dropoff)
    (inside : insertion.dropoff ≤ entry.stopCount)
    (h : ofInsertion stopDuration request entry insertion legs = .ok t) :
    t.pickupDeparture.IsBoundedBelow ∧ t.dropoffArrival.IsBoundedBelow := by
  unfold ofInsertion at h
  obtain ⟨w, hw, h⟩ := bind_eq_ok.mp h
  obtain ⟨replaced, hreplaced, h⟩ := bind_eq_ok.mp h
  have hdeparture :=
    isBoundedBelow_departureFrom window.earliestStart hstop (timed.departure hw) hlegs
  split at h
  · cases h
    exact ⟨hdeparture, hdeparture.add hlegs.fromPickup⟩
  · obtain ⟨stop, hvisit, h⟩ := bind_eq_ok.mp h
    obtain ⟨after, -, h⟩ := bind_eq_ok.mp h
    cases h
    have hdrive := timed.isFinite_driveAfter (ordered.trans inside) hreplaced
    have hloss :=
      isBoundedBelow_separatePickupLoss hdeparture (timed.departure hw) hdrive hlegs
    exact ⟨hdeparture, isBoundedBelow_separateDropoff
      (timed.stops stop (Entry.mem_of_stopAt hvisit)) hlegs hloss⟩

end Timing

end Timing

/-! ## 2. Leaving late offers out -/

/-- The request is picked up and dropped off within its limits. -/
def Scored.Punctual (request : Request (Exact K)) (offer : Scored (Exact K)) : Prop :=
  offer.timing.pickupDeparture ≤ request.times.latestStart ∧
    offer.timing.dropoffArrival ≤ request.times.latestArrival

instance (request : Request (Exact K)) (offer : Scored (Exact K)) :
    Decidable (offer.Punctual request) :=
  inferInstanceAs (Decidable (_ ∧ _))

/-- The offers that are punctual, in the same order. -/
def punctualOffers (request : Request (Exact K)) (offers : List (Scored (Exact K))) :
    List (Scored (Exact K)) :=
  offers.filter (·.Punctual request)

theorem ranked_punctualOffers (request : Request (Exact K)) (offers : List (Scored (Exact K))) :
    ranked Scored.rank (punctualOffers request offers)
      = punctualOffers request (ranked Scored.rank offers) :=
  ranked_filter _ _

/-- A punctual offer is made again; in place of a late one stands an infeasible one. -/
structure Scored.RejectedIfLate (request : Request (Exact K)) (offer other : Scored (Exact K)) :
    Prop where
  punctual : offer.Punctual request → other = offer
  late : ¬ offer.Punctual request → feasible other.cost = false

theorem filter_feasible_of_rejectedIfLate {request : Request (Exact K)}
    {offers others : List (Scored (Exact K))}
    (h : List.Forall₂ (Scored.RejectedIfLate request) offers others) :
    others.filter (feasible ·.cost)
      = punctualOffers request (offers.filter (feasible ·.cost)) := by
  rw [punctualOffers, List.filter_filter]
  induction h with
  | nil => rfl
  | @cons offer other offers others hfirst _ ih =>
    rw [List.filter_cons, List.filter_cons, ih]
    by_cases hpunctual : offer.Punctual request
    · obtain rfl := hfirst.punctual hpunctual
      simp only [hpunctual, decide_true, Bool.true_and]
    · simp only [hpunctual, hfirst.late hpunctual, decide_false, Bool.false_and,
        Bool.false_eq_true, if_false]

namespace Search

/-- The search with another strategy. -/
def withStrategy (s : Search (Exact K)) (strategy : Strategy (Exact K)) : Search (Exact K) :=
  { s with strategy }

omit [Field K] [LinearOrder K] in
theorem InTime.withStrategy {s : Search (Exact K)} {clock : Clock} {count : Nat}
    (inTime : s.InTime clock count) (strategy : Strategy (Exact K)) :
    (s.withStrategy strategy).InTime clock count := inTime

/-- Schedules are planned for finite times; drives and stops may take for ever, and the window of
the request may be open. -/
structure Measured (s : Search (Exact K)) (request : Request (Exact K))
    (fleet : List (Entry (Exact K))) : Prop where
  drives : s.driveTime.IsBoundedBelow
  stopDuration : s.stopDuration.IsBoundedBelow
  window : request.times.IsDefined
  timed : ∀ entry ∈ fleet, entry.IsTimed

section Measured

variable [IsStrictOrderedRing K] {s : Search (Exact K)} {request : Request (Exact K)}
  {entry : Entry (Exact K)} {fleet : List (Entry (Exact K))} {clock clock' : Clock}
  (measured : s.Measured request fleet)
include measured

theorem Measured.score (hentry : entry ∈ fleet) {insertion : Insertion}
    (ordered : insertion.pickup ≤ insertion.dropoff)
    (inside : insertion.dropoff ≤ entry.stopCount) :
    Carries (Scored.RejectedIfLate request)
      ((s.withStrategy .standardDiscourage).score request entry insertion)
      ((s.withStrategy .reject).score request entry insertion) := by
  intro offer hoffer
  obtain ⟨hv, hp, hd, legs, slack, hlegs, ht, hslack, hcost⟩ := score_eq_ok_iff.mp hoffer
  obtain ⟨hdeparture, harrival⟩ := Timing.isBoundedBelow_of_ofInsertion measured.window
    measured.stopDuration (measured.timed entry hentry)
    (Legs.isBoundedBelow_of_ofInsertion measured.drives hlegs) ordered inside ht
  have hstart := Exact.lt_eq_false_iff hdeparture.isDefined measured.window.latestStart
  have hend := Exact.lt_eq_false_iff harrival.isDefined measured.window.latestArrival
  refine ⟨{ offer with cost := Strategy.reject.cost request slack offer.timing },
    score_eq_ok_iff.mpr ⟨hv, hp, hd, legs, slack, hlegs, ht, hslack, rfl⟩, ?_, ?_⟩
  · intro hpunctual
    rw [Strategy.cost_eq_of_punctual (hstart.mpr hpunctual.1) (hend.mpr hpunctual.2)]
    exact congrArg (fun cost => { offer with cost }) hcost
  · intro hlate
    have hlate : (Scalar.lt request.times.latestStart offer.timing.pickupDeparture
        || Scalar.lt request.times.latestArrival offer.timing.dropoffArrival) = true := by
      rw [← Bool.not_eq_false, Bool.or_eq_false_iff, hstart, hend]
      exact hlate
    rw [Strategy.reject_cost_of_late hlate]
    exact Bool.eq_false_iff.mpr not_feasible_infeasible

/-- What is found for one vehicle where lateness is rejected are the punctual ones among the offers
that are found where it is discouraged. -/
theorem Measured.evaluateVehicle (hentry : entry ∈ fleet) :
    Carries (fun found found' => punctualOffers request found = found')
      ((s.withStrategy .standardDiscourage).evaluateVehicle request entry)
      ((s.withStrategy .reject).evaluateVehicle request entry) := by
  have hscores : ∀ insertion ∈ entry.insertions request, Carries (Scored.RejectedIfLate request)
      ((s.withStrategy .standardDiscourage).score request entry insertion)
      ((s.withStrategy .reject).score request entry insertion) := by
    intro insertion hinsertion
    obtain ⟨ordered, inside⟩ := Entry.bounds_of_mem_insertions hinsertion
    exact measured.score hentry ordered inside
  refine (Carries.mapM (List.forall₂_same.mpr hscores)).bind fun offers others _ h => .ok ?_
  rw [filter_feasible_of_rejectedIfLate h, ranked_punctualOffers]

/-- The same holds of what is found for the whole fleet. -/
theorem Measured.exists_finds {founds : List (List (Scored (Exact K)))}
    (h : (s.withStrategy .standardDiscourage).Finds request fleet founds) :
    ∃ founds', (s.withStrategy .reject).Finds request fleet founds' ∧
      founds'.flatten = punctualOffers request founds.flatten := by
  have hvehicles : ∀ entry ∈ fleet,
      Carries (fun found found' => punctualOffers request found = found')
        ((s.withStrategy .standardDiscourage).evaluateVehicle request entry)
        ((s.withStrategy .reject).evaluateVehicle request entry) :=
    fun entry hentry => measured.evaluateVehicle hentry
  obtain ⟨founds', hfounds', heq⟩ :=
    Carries.mapM (List.forall₂_same.mpr hvehicles) founds (mapM_eq_ok_iff.mpr h)
  refine ⟨founds', mapM_eq_ok_iff.mp hfounds', ?_⟩
  have hmap : founds.map (punctualOffers request) = founds' := by
    rw [← List.forall₂_eq_eq_eq, List.forall₂_map_left_iff]
    exact heq
  rw [← hmap, punctualOffers, List.filter_flatten]
  rfl

/-- The ranking that rejects lateness. -/
theorem Measured.rankInsertions (inTime : s.InTime clock fleet.length)
    (inTime' : s.InTime clock' fleet.length) :
    Carries (fun ranking ranking' => ranking' = punctualOffers request ranking)
      ((s.withStrategy .standardDiscourage).rankInsertions clock request fleet)
      ((s.withStrategy .reject).rankInsertions clock' request fleet) := by
  intro ranking hranking
  obtain ⟨founds, hfounds, rfl⟩ := (rankInsertions_eq_ok_iff (inTime.withStrategy _)).mp hranking
  obtain ⟨founds', hfounds', hflatten⟩ := measured.exists_finds hfounds
  refine ⟨_, (rankInsertions_eq_ok_iff (inTime'.withStrategy _)).mpr ⟨founds', hfounds', rfl⟩, ?_⟩
  rw [hflatten, ranked_punctualOffers]

/-- Where lateness is rejected, the best offer costs no less. -/
theorem Measured.findBest (inTime : s.InTime clock fleet.length)
    (inTime' : s.InTime clock' fleet.length) :
    Carries (fun outcome other => other.NoDearer outcome)
      ((s.withStrategy .standardDiscourage).findBest clock request fleet)
      ((s.withStrategy .reject).findBest clock' request fleet) := by
  intro outcome houtcome
  obtain ⟨founds, hfounds, rfl⟩ := (findBest_eq_ok_iff (inTime.withStrategy _)).mp houtcome
  obtain ⟨founds', hfounds', hflatten⟩ := measured.exists_finds hfounds
  refine ⟨_, (findBest_eq_ok_iff (inTime'.withStrategy _)).mpr ⟨founds', hfounds', rfl⟩,
    fun best hbest => ?_⟩
  have hnoDearer : NoDearer founds'.flatten founds.flatten := by
    intro offer hoffer
    rw [hflatten] at hoffer
    have hmem := List.mem_of_mem_filter hoffer
    exact ⟨offer, hmem, Exact.le_refl (hfounds.isDefined_cost offer hmem)⟩
  exact hnoDearer.head hfounds.isDefined_cost hbest

end Measured

/-- **The two strategies agree on punctual offers**: where lateness is rejected, the ranking is that
of the search which discourages lateness, with the late offers left out; costs and timings are the
same. A request that cannot be assigned although lateness is only discouraged cannot be assigned
where it is rejected, and the best offer costs no more where lateness is only discouraged. -/
theorem rankings_of_strategies [IsStrictOrderedRing K] (s : Search (Exact K))
    {request : Request (Exact K)} {fleet : List (Entry (Exact K))}
    (ready : s.Ready request fleet) (measured : s.Measured request fleet) {clock clock' : Clock}
    (inTime : s.InTime clock fleet.length) (inTime' : s.InTime clock' fleet.length) :
    let discourage := s.withStrategy .standardDiscourage
    let reject := s.withStrategy .reject
    (∃ ranking, discourage.rankInsertions clock request fleet = .ok ranking ∧
      reject.rankInsertions clock' request fleet
        = .ok (ranking.filter (·.Punctual request))) ∧
    ∃ outcome other, discourage.findBest clock request fleet = .ok outcome ∧
      reject.findBest clock' request fleet = .ok other ∧
      (outcome.best = none → other.best = none) ∧
      ∀ best' ∈ other.best, ∃ best ∈ outcome.best, best.cost ≤ best'.cost := by
  intro discourage reject
  have ready' : discourage.Ready request fleet := ⟨ready.slacks, ready.answers⟩
  obtain ⟨ranking, hranking⟩ := ready'.exists_rankInsertions clock
  obtain ⟨_, hranking', rfl⟩ := measured.rankInsertions inTime inTime' ranking hranking
  obtain ⟨outcome, houtcome⟩ := ready'.exists_findBest clock
  obtain ⟨other, hother, hbest⟩ := measured.findBest inTime inTime' outcome houtcome
  exact ⟨⟨ranking, hranking, hranking'⟩, outcome, other, houtcome, hother, hbest.best_eq_none,
    hbest⟩

end Search

namespace Sample

theorem ready_tightRequest : search.Ready tightRequest fleet where
  slacks := ready.slacks
  answers _ _ _ _ _ _ := ⟨_, rfl⟩

theorem measured_tightRequest : search.Measured tightRequest fleet where
  drives a b time htime := by
    obtain ⟨x, rfl, -⟩ := DriveTime.line_isNonnegative (by norm_num) a b time htime
    exact .inl ⟨x, rfl⟩
  stopDuration := .inl ⟨60, rfl⟩
  window := ⟨rfl, rfl, rfl⟩
  timed := by
    show ∀ e ∈ [entry, entry], e.IsTimed
    simp only [List.forall_mem_cons]
    exact ⟨timed, timed, fun _ h => absurd h List.not_mem_nil⟩

end Sample

/-- Two equal vehicles and an arrival by time 120, which some insertions keep and some do not. -/
theorem Search.rankings_of_strategies_sample :
    (Sample.search.Ready Sample.tightRequest Sample.fleet ∧
      Sample.search.Measured Sample.tightRequest Sample.fleet ∧
      Sample.search.InTime .still Sample.fleet.length) ∧
    let discourage := Sample.search.withStrategy .standardDiscourage
    let reject := Sample.search.withStrategy .reject
    (∃ ranking, discourage.rankInsertions .still Sample.tightRequest Sample.fleet = .ok ranking ∧
      reject.rankInsertions .still Sample.tightRequest Sample.fleet
        = .ok (ranking.filter (·.Punctual Sample.tightRequest))) ∧
    ∃ outcome other,
      discourage.findBest .still Sample.tightRequest Sample.fleet = .ok outcome ∧
      reject.findBest .still Sample.tightRequest Sample.fleet = .ok other ∧
      (outcome.best = none → other.best = none) ∧
      ∀ best' ∈ other.best, ∃ best ∈ outcome.best, best.cost ≤ best'.cost :=
  ⟨⟨Sample.ready_tightRequest, Sample.measured_tightRequest, fun _ _ => rfl⟩,
    Search.rankings_of_strategies Sample.search Sample.ready_tightRequest
      Sample.measured_tightRequest (fun _ _ => rfl) fun _ _ => rfl⟩

end DialARide
