import DialARide.Proofs.Cheapest
import DialARide.Proofs.Placement
import DialARide.Proofs.Waiting

/-!
# Larger vehicles

With more seats a vehicle can be offered every insertion that it could be offered before, but one
kind is listed elsewhere. Where a request has to alight at a stop because the vehicle is full
afterwards, a larger vehicle takes it on to the next stop if that one is at the destination too, and
the insertion is listed there (`Entry.Displaces`). The request then arrives later and is tested
against the slack of a later stop. This is the only way in which a larger vehicle may fare worse
(`Search.head_le_or_displaced`).
-/

namespace DialARide

open Relation (ReflTransGen)

variable {α : Type}

/-! ## 1. More seats -/

/-- The same schedule of a vehicle with another number of seats. -/
def Entry.withCapacity (entry : Entry α) (capacity : Nat) : Entry α :=
  { entry with vehicle := { entry.vehicle with capacity } }

namespace Entry

variable {entry : Entry α} {capacity size k : Nat}

theorem RoomAfter.withCapacity (h : entry.RoomAfter size k)
    (more : entry.vehicle.capacity ≤ capacity) :
    (entry.withCapacity capacity).RoomAfter size k := by
  obtain ⟨w, hw, hroom⟩ := h
  exact ⟨w, hw, hroom.trans more⟩

theorem checkWaypoints_withCapacity [Scalar α] {vehicle : Vehicle α} {index : Nat} {previous : α}
    {waypoints : List (Waypoint α)} (more : vehicle.capacity ≤ capacity)
    (h : checkWaypoints vehicle index previous waypoints = .ok ()) :
    checkWaypoints { vehicle with capacity } index previous waypoints = .ok () := by
  induction waypoints generalizing index previous with
  | nil => rfl
  | cons w rest ih =>
    obtain ⟨hw, horder, hrest⟩ := checkWaypoints_cons.mp h
    exact checkWaypoints_cons.mpr ⟨hw.trans more, horder, ih hrest⟩

/-- A schedule that is accepted for a vehicle is accepted for a larger one. -/
theorem ofSlack?_withCapacity [Scalar α] {vehicle : Vehicle α} {start : Start α}
    {stops : List (Stop α)} {slack : List α} (more : vehicle.capacity ≤ capacity)
    (built : ofSlack? vehicle start stops slack = .ok entry) :
    ofSlack? { vehicle with capacity } start stops slack = .ok (entry.withCapacity capacity) := by
  obtain ⟨hlength, hcheck, rfl⟩ := ofSlack?_eq_ok.mp built
  obtain ⟨_, hwaypoints, hend⟩ := bind_eq_ok.mp hcheck
  exact ofSlack?_eq_ok.mpr
    ⟨hlength, bind_eq_ok.mpr ⟨(), checkWaypoints_withCapacity more hwaypoints, hend⟩, rfl⟩

end Entry

/-! ## 2. Where a dropoff is listed -/

/-- A request that boards after waypoint `p` has to alight at the stop after waypoint `d - 1`, which
is full afterwards. With `capacity` seats it can ride on, and as the following stops are at its
destination too, the insertion is listed at the last of them that it reaches, waypoint `m`. -/
structure Entry.Displaces (entry : Entry α) (capacity : Nat) (request : Request α) (p d m : Nat) :
    Prop where
  apart : p < d
  alights : entry.StopsNextAt (d - 1) request.destination
  full : ¬ entry.RoomAfter request.size d
  room : (entry.withCapacity capacity).RoomAfter request.size d
  later : d < m
  run : ∀ k, d ≤ k → k < m → entry.StopsNextAt k request.destination
  listed : ⟨p, m⟩ ∈ (entry.withCapacity capacity).insertions request

namespace Entry

variable {entry : Entry α} {request : Request α} {capacity p d : Nat}

/-- A pickup that is not in front of a stop at the origin stays where it is. -/
theorem exists_run_of_moves (hnext : ¬ entry.StopsNextAt p request.origin) {listed : Insertion}
    (h : ReflTransGen (entry.Moves request) ⟨p, d⟩ listed) :
    ∃ m, listed = ⟨p, m⟩ ∧ d ≤ m ∧
      ∀ k, d ≤ k → k < m → entry.StopsNextAt k request.destination := by
  induction h with
  | refl => exact ⟨d, rfl, le_rfl, fun k hk hlt => absurd hlt (Nat.not_lt.mpr hk)⟩
  | tail _ move ih =>
    obtain ⟨m, rfl, hle, hrun⟩ := ih
    cases move with
    | board _ hat => exact absurd hat hnext
    | alight hat =>
      refine ⟨m + 1, rfl, Nat.le_succ_of_le hle, fun k hk hlt => ?_⟩
      rcases Nat.eq_or_lt_of_le (Nat.le_of_lt_succ hlt) with rfl | hlt
      · exact hat
      · exact hrun k hk hlt

/-- **A listed insertion is listed for a larger vehicle too, or its dropoff is displaced.** -/
theorem listed_or_displaced (within : entry.WithinCapacity)
    (more : entry.vehicle.capacity ≤ capacity) (h : ⟨p, d⟩ ∈ entry.insertions request) :
    ⟨p, d⟩ ∈ (entry.withCapacity capacity).insertions request ∨
      ∃ m, entry.Displaces capacity request p d m := by
  have counted : (entry.withCapacity capacity).Counted request.size :=
    .inr fun w hw => (within w hw).trans more
  obtain ⟨boards, notAtNext, ordered, inside, aboard, alights⟩ :=
    (mem_insertions_of_counted (.inr within)).mp h
  have aboard' : ∀ k, p ≤ k → k < d → (entry.withCapacity capacity).RoomAfter request.size k :=
    fun k hk hlt => (aboard k hk hlt).withCapacity more
  rcases alights with ⟨room, hnext⟩ | ⟨apart, full, hat⟩
  · exact .inl ((mem_insertions_of_counted counted).mpr ⟨boards.withCapacity more, notAtNext,
      ordered, inside, aboard', .inl ⟨room.withCapacity more, hnext⟩⟩)
  · by_cases room : (entry.withCapacity capacity).RoomAfter request.size d
    · have between : (entry.withCapacity capacity).RoomBetween request.size p d := by
        intro k hk hle
        rcases Nat.eq_or_lt_of_le hle with rfl | hlt
        · exact room
        · exact aboard' k hk hlt
      have notAtNext' : ¬ (entry.withCapacity capacity).StopsNextAt p request.origin := notAtNext
      obtain ⟨listed, hlisted, moves⟩ :=
        covers_of_not_stopsNextAt counted ordered inside between notAtNext'
      obtain ⟨m, rfl, hle, run⟩ := exists_run_of_moves notAtNext' moves
      rcases Nat.eq_or_lt_of_le hle with rfl | later
      · exact .inl hlisted
      · exact .inr ⟨m, apart, hat, full, room, later, run, hlisted⟩
    · exact .inl ((mem_insertions_of_counted counted).mpr ⟨boards.withCapacity more, notAtNext,
        ordered, inside, aboard', .inr ⟨apart, room, hat⟩⟩)

end Entry

/-! ## 3. What a displaced dropoff changes -/

/-- Both dropoffs are during stops at the destination. -/
theorem Entry.Displaces.exists_stops {entry : Entry α} {request : Request α} {capacity p d m : Nat}
    (h : entry.Displaces capacity request p d m) :
    ∃ stop stop', entry.waypoint d = .ok (.stop stop) ∧ stop.location = request.destination ∧
      entry.waypoint m = .ok (.stop stop') ∧ stop'.location = request.destination := by
  have hd : d - 1 + 1 = d := Nat.sub_add_cancel (Nat.one_le_of_lt h.apart)
  have hm : m - 1 + 1 = m := Nat.sub_add_cancel (Nat.one_le_of_lt h.later)
  obtain ⟨stop, hstop, hat⟩ := h.alights.exists_stop
  obtain ⟨stop', hstop', hat'⟩ := (h.run (m - 1) (Nat.le_sub_one_of_lt h.later)
    (Nat.sub_one_lt_of_lt h.later)).exists_stop
  rw [hd] at hstop
  rw [hm] at hstop'
  exact ⟨stop, stop', hstop, hat, hstop', hat'⟩

section Merged

variable {δ : Type} {leg : DriveTime δ} {request : Request α} {entry : Entry α} {p d m : Nat}

/-- The legs to and from a pickup apart from the dropoff do not depend on the dropoff. -/
theorem Legs.pickup_of_ofInsertion (apart : p < d) {legs : Legs δ}
    (h : ofInsertion leg request entry ⟨p, d⟩ = .ok legs) :
    (entry.waypoint p >>= fun w => leg w.location request.origin) = .ok legs.toPickup ∧
      (entry.waypoint (p + 1) >>= fun next => leg request.origin next.location)
        = .ok legs.fromPickup := by
  rw [ofInsertion_eq] at h
  obtain ⟨w, hw, h⟩ := bind_eq_ok.mp h
  obtain ⟨toPickup, htoPickup, h⟩ := bind_eq_ok.mp h
  obtain ⟨between, hbetween, h⟩ := bind_eq_ok.mp h
  obtain ⟨fromDropoff, -, h⟩ := bind_eq_ok.mp h
  cases h
  rw [middle, if_neg apart.ne] at hbetween
  obtain ⟨next, hnext, h⟩ := bind_eq_ok.mp hbetween
  obtain ⟨fromPickup, hfromPickup, h⟩ := bind_eq_ok.mp h
  obtain ⟨last, -, h⟩ := bind_eq_ok.mp h
  obtain ⟨toDropoff, -, h⟩ := bind_eq_ok.mp h
  cases h
  exact ⟨bind_eq_ok.mpr ⟨w, hw, htoPickup⟩, bind_eq_ok.mpr ⟨next, hnext, hfromPickup⟩⟩

variable [Scalar α] {stopDuration : α}

/-- The pickup is timed by itself, and a dropoff during a stop costs no time. -/
theorem Timing.eq_of_merged (apart : p < d) {stop : Stop α}
    (hstop : entry.waypoint d = .ok (.stop stop)) (alights : stop.location = request.destination)
    {legs : Legs α} {t : Timing α}
    (h : ofInsertion stopDuration request entry ⟨p, d⟩ legs = .ok t) :
    ∃ w replaced, entry.waypoint p = .ok w ∧ entry.driveAfter p = .ok replaced ∧
      t.pickupDeparture = departureFrom stopDuration request w legs ∧
      t.pickupLoss = separatePickupLoss t.pickupDeparture w replaced legs ∧
      t.dropoffArrival = stop.task.arrival + t.pickupLoss ∧ t.dropoffLoss = Scalar.zero := by
  unfold ofInsertion at h
  obtain ⟨w, hw, h⟩ := bind_eq_ok.mp h
  obtain ⟨replaced, hreplaced, h⟩ := bind_eq_ok.mp h
  rw [if_neg apart.ne] at h
  obtain ⟨stop', hstop', h⟩ := bind_eq_ok.mp h
  obtain ⟨after, -, h⟩ := bind_eq_ok.mp h
  have heq := hstop.symm.trans (Entry.waypoint_of_stopAt hstop')
  cases heq
  rw [separateDropoff, if_pos alights] at h
  cases h
  exact ⟨w, replaced, hw, hreplaced, rfl, rfl, rfl, rfl⟩

/-- Two offers that alight during different stops at the destination, after the same pickup, differ
in their arrival only. -/
theorem Search.Prices.timing_eq_of_merged {s : Search α} {offer other : Scored α}
    (prices : s.Prices request entry ⟨p, d⟩ offer) (prices' : s.Prices request entry ⟨p, m⟩ other)
    (apart : p < d) (apart' : p < m) {stop stop' : Stop α}
    (hstop : entry.waypoint d = .ok (.stop stop)) (alights : stop.location = request.destination)
    (hstop' : entry.waypoint m = .ok (.stop stop'))
    (alights' : stop'.location = request.destination) :
    other.timing
      = { offer.timing with dropoffArrival := stop'.task.arrival + offer.timing.pickupLoss } := by
  obtain ⟨-, -, -, legs, slack, hlegs, ht, -, -⟩ := prices
  obtain ⟨-, -, -, legs', slack', hlegs', ht', -, -⟩ := prices'
  obtain ⟨htoPickup, hfromPickup⟩ := Legs.pickup_of_ofInsertion apart hlegs
  obtain ⟨htoPickup', hfromPickup'⟩ := Legs.pickup_of_ofInsertion apart' hlegs'
  have hto : legs.toPickup = legs'.toPickup := Except.ok.inj (htoPickup.symm.trans htoPickup')
  have hfrom : legs.fromPickup = legs'.fromPickup :=
    Except.ok.inj (hfromPickup.symm.trans hfromPickup')
  obtain ⟨w, replaced, hw, hr, hdeparture, hloss, -, hdropoff⟩ :=
    Timing.eq_of_merged apart hstop alights ht
  obtain ⟨w', replaced', hw', hr', hdeparture', hloss', harrival', hdropoff'⟩ :=
    Timing.eq_of_merged apart' hstop' alights' ht'
  obtain rfl : w = w' := Except.ok.inj (hw.symm.trans hw')
  obtain rfl : replaced = replaced' := Except.ok.inj (hr.symm.trans hr')
  have hleft : other.timing.pickupDeparture = offer.timing.pickupDeparture := by
    rw [hdeparture, hdeparture', Timing.departureFrom, Timing.departureFrom, hto]
  have hdelay : other.timing.pickupLoss = offer.timing.pickupLoss := by
    rw [hloss, hloss', hleft, Timing.separatePickupLoss, Timing.separatePickupLoss, hfrom]
  have heta : other.timing = ⟨other.timing.pickupDeparture, other.timing.dropoffArrival,
      other.timing.pickupLoss, other.timing.dropoffLoss⟩ := rfl
  rw [heta, harrival', hleft, hdelay, hdropoff', ← hdropoff]

end Merged

/-! ## 4. What it costs -/

/-- An offer that may be chosen still costs no more when its dropoff lies at another stop, if the
delay of the schedule is tolerated there and the request arrives in time. -/
theorem Strategy.cost_le_of_dropoff {K : Type} [Field K] [LinearOrder K] [IsStrictOrderedRing K]
    (choice : StrategyChoice) {request : Request (Exact K)}
    {slack slack' : InsertionSlack (Exact K)} {t : Timing (Exact K)} {arrival : Exact K}
    (hpickup : slack'.pickup = slack.pickup)
    (h : feasible ((choice.strategy : Strategy (Exact K)).cost request slack t) = true)
    (hslack : Scalar.lt slack'.dropoff t.totalLoss = false)
    (punctual : Scalar.lt request.times.latestArrival arrival = false) :
    (choice.strategy : Strategy (Exact K)).cost request slack' { t with dropoffArrival := arrival }
      ≤ (choice.strategy : Strategy (Exact K)).cost request slack t := by
  have kept := kept_of_feasible h
  have kept' : slack'.violatedBy { t with dropoffArrival := arrival } = false := by
    rw [InsertionSlack.violatedBy, Bool.or_eq_false_iff] at kept ⊢
    rw [hpickup]
    exact ⟨kept.1, hslack⟩
  cases choice with
  | reject =>
    obtain ⟨start, arrival⟩ := punctual_of_feasible h
    rw [StrategyChoice.strategy, reject_cost_of_punctual kept start arrival,
      reject_cost_of_punctual kept' start punctual]
    rw [StrategyChoice.strategy, reject_cost_of_punctual kept start arrival] at h
    exact Exact.le_refl (isDefined_of_feasible h)
  | discourage =>
    have hzero : (Scalar.ofNat 10 * Scalar.zero : Exact K) = Scalar.zero :=
      Exact.finite_mul_zero ((10 : Nat) : K)
    rw [StrategyChoice.strategy, standardDiscourage, discourage_cost_of_kept kept] at h ⊢
    rw [discourage_cost_of_kept kept', Exact.clamp_sub_of_not_lt punctual, hzero, Exact.add_zero]
    exact Exact.le_add_penalty (Nat.cast_pos.mpr (Nat.succ_pos 9)) h

/-! ## 5. The first offer -/

namespace Search

/-- An insertion has the same price in a vehicle with another number of seats. -/
theorem Prices.withCapacity [Scalar α] {s : Search α} {request : Request α} {entry : Entry α}
    {insertion : Insertion} {offer : Scored α} (h : s.Prices request entry insertion offer)
    (capacity : Nat) : s.Prices request (entry.withCapacity capacity) insertion offer :=
  ⟨h.vehicle, h.pickup, h.dropoff, h.price⟩

variable {K : Type} [Field K] [LinearOrder K] {s : Search (Exact K)} {request : Request (Exact K)}
  {entry : Entry (Exact K)} {capacity : Nat}

/-- During the stop at waypoint `m` the request would arrive too late, or the delay of the schedule
is too long for what follows. -/
def MissesAt (request : Request (Exact K)) (entry : Entry (Exact K)) (offer : Scored (Exact K))
    (m : Nat) : Prop :=
  ∃ stop slack, entry.waypoint m = .ok (.stop stop) ∧ entry.slackAt m = .ok slack ∧
    (Scalar.lt slack offer.timing.totalLoss = true ∨
      Scalar.lt request.times.latestArrival (stop.task.arrival + offer.timing.pickupLoss) = true)

variable [IsStrictOrderedRing K]

/-- A displaced offer costs no more where it is listed, unless it comes too late there. -/
theorem exists_displaced_offer (choice : StrategyChoice) (hstrategy : s.strategy = choice.strategy)
    (answers : s.driveTime.Answers (entry.places request)) (slacks : entry.HasSlacks)
    {offer : Scored (Exact K)} {p d m : Nat} (prices : s.Prices request entry ⟨p, d⟩ offer)
    (possible : feasible offer.cost = true) (displaced : entry.Displaces capacity request p d m)
    (onTime : ¬ MissesAt request entry offer m) :
    ∃ other, s.Prices request (entry.withCapacity capacity) ⟨p, m⟩ other ∧
      other.cost ≤ offer.cost := by
  have answers' : s.driveTime.Answers ((entry.withCapacity capacity).places request) := answers
  have slacks' : (entry.withCapacity capacity).HasSlacks := slacks
  obtain ⟨other, prices'⟩ := exists_prices answers' slacks' displaced.listed
  obtain ⟨stop, stop', hstop, hat, hstop', hat'⟩ := displaced.exists_stops
  have htiming := (prices.withCapacity capacity).timing_eq_of_merged prices' displaced.apart
    (displaced.apart.trans displaced.later) hstop hat hstop' hat'
  obtain ⟨-, -, -, -, slack, -, -, hslack, hcost⟩ := prices
  obtain ⟨-, -, -, -, slack', -, -, hslack', hcost'⟩ := id prices'
  rw [InsertionSlack.ofInsertion_eq_ok] at hslack hslack'
  have hpickup : slack'.pickup = slack.pickup := Except.ok.inj (hslack'.1.symm.trans hslack.1)
  have kept : Scalar.lt slack'.dropoff offer.timing.totalLoss = false :=
    eq_false_of_ne_true fun h => onTime ⟨stop', _, hstop', hslack'.2, .inl h⟩
  have punctual : Scalar.lt request.times.latestArrival
      (stop'.task.arrival + offer.timing.pickupLoss) = false :=
    eq_false_of_ne_true fun h => onTime ⟨stop', _, hstop', hslack'.2, .inr h⟩
  refine ⟨other, prices', ?_⟩
  rw [← hcost', ← hcost, htiming, hstrategy]
  rw [← hcost, hstrategy] at possible
  exact Strategy.cost_le_of_dropoff choice hpickup possible kept punctual

/-- **A larger vehicle is no worse, unless it takes a request past a stop at which the smaller one
had to let it alight.** Every offer to the smaller vehicle, and so its first one, is matched by the
first offer to the larger one, at no greater cost; or its dropoff is displaced to a later stop of
the same run at the destination, where it is too late for the request or for the rest of the
schedule. -/
theorem head_le_or_displaced (choice : StrategyChoice) (hstrategy : s.strategy = choice.strategy)
    {vehicle : Vehicle (Exact K)} {start : Start (Exact K)} {stops : List (Stop (Exact K))}
    {slack : List (Exact K)} (built : Entry.ofSlack? vehicle start stops slack = .ok entry)
    (more : vehicle.capacity ≤ capacity)
    (answers : s.driveTime.Answers (entry.places request)) :
    Entry.ofSlack? { vehicle with capacity } start stops slack
        = .ok (entry.withCapacity capacity) ∧
      ∃ found found', s.evaluateVehicle request entry = .ok found ∧
        s.evaluateVehicle request (entry.withCapacity capacity) = .ok found' ∧
        ∀ offer ∈ found, (∃ best ∈ found'.head?, best.cost ≤ offer.cost) ∨
          ∃ m, entry.Displaces capacity request offer.pickup offer.dropoff m ∧
            MissesAt request entry offer m := by
  have slacks := Entry.hasSlacks_of_ofSlack built
  have within := Entry.withinCapacity_of_ofSlack built
  have more' : entry.vehicle.capacity ≤ capacity := by
    obtain ⟨-, -, rfl⟩ := Entry.ofSlack?_eq_ok.mp built
    exact more
  have ready : s.Ready request [entry, entry.withCapacity capacity] := by
    constructor
    all_goals simp only [List.forall_mem_cons]
    · exact ⟨slacks, slacks, fun _ h => absurd h List.not_mem_nil⟩
    · exact ⟨answers, answers, fun _ h => absurd h List.not_mem_nil⟩
  obtain ⟨found, hfound⟩ := ready.exists_evaluateVehicle List.mem_cons_self
  obtain ⟨found', hfound'⟩ :=
    ready.exists_evaluateVehicle (List.mem_cons_of_mem _ List.mem_cons_self)
  refine ⟨Entry.ofSlack?_withCapacity more built, found, found', hfound, hfound', ?_⟩
  intro offer hoffer
  obtain ⟨⟨⟨p, d⟩, hinsertion, prices⟩, possible⟩ :=
    (mem_of_evaluateVehicle_eq_ok hfound).mp hoffer
  have hmatch : ∀ insertion ∈ (entry.withCapacity capacity).insertions request, ∀ other,
      s.Prices request (entry.withCapacity capacity) insertion other → other.cost ≤ offer.cost →
      ∃ best ∈ found'.head?, best.cost ≤ offer.cost := by
    intro insertion hlisted other prices' hle
    obtain ⟨best, hbest, hle'⟩ := exists_head_le hfound'
      ((mem_of_evaluateVehicle_eq_ok hfound').mpr
        ⟨⟨insertion, hlisted, prices'⟩, feasible_of_le hle possible⟩)
    exact ⟨best, hbest, Exact.le_trans hle' hle⟩
  rcases Entry.listed_or_displaced within more' hinsertion with hlisted | ⟨m, displaced⟩
  · exact .inl (hmatch _ hlisted offer (prices.withCapacity capacity)
      (Exact.le_refl (isDefined_of_feasible possible)))
  · by_cases missed : MissesAt request entry offer m
    · rw [prices.pickup, prices.dropoff]
      exact .inr ⟨m, displaced, missed⟩
    · obtain ⟨other, prices', hle⟩ := exists_displaced_offer choice hstrategy answers slacks prices
        possible displaced missed
      exact .inl (hmatch _ displaced.listed other prices' hle)

end Search

namespace Sample

/-- Two stops at the destination of the request, the first one with a seat taken afterwards. -/
def pressedStops : List (Stop (Exact ℚ)) := [
  ⟨2, ⟨.finite 100, .finite 130, .posInf, .posInf⟩, 1⟩,
  ⟨2, ⟨.finite 200, .finite 230, .posInf, .posInf⟩, 0⟩]

/-- The entry of a vehicle with a single seat. -/
def pressedEntry : Entry (Exact ℚ) :=
  ⟨{ vehicle with capacity := 1 }, start, pressedStops,
    slackTimes start pressedStops vehicle.serviceEnd⟩

theorem built_pressedEntry :
    Entry.ofServiceEnd? pressedEntry.vehicle start pressedStops = .ok pressedEntry := rfl

end Sample

/-- With a second seat the request is taken on to the second stop, and is too late there. -/
theorem Search.head_le_or_displaced_sample :
    ((Sample.searchBy .reject).strategy = StrategyChoice.reject.strategy ∧
      Entry.ofSlack? Sample.pressedEntry.vehicle Sample.start Sample.pressedStops
        Sample.pressedEntry.slack = .ok Sample.pressedEntry ∧
      Sample.pressedEntry.vehicle.capacity ≤ 2 ∧
      (Sample.searchBy .reject).driveTime.Answers
        (Sample.pressedEntry.places Sample.tightRequest)) ∧
    Entry.ofSlack? { Sample.pressedEntry.vehicle with capacity := 2 } Sample.start
        Sample.pressedStops Sample.pressedEntry.slack
        = .ok (Sample.pressedEntry.withCapacity 2) ∧
      ∃ found found',
        (Sample.searchBy .reject).evaluateVehicle Sample.tightRequest Sample.pressedEntry
          = .ok found ∧
        (Sample.searchBy .reject).evaluateVehicle Sample.tightRequest
          (Sample.pressedEntry.withCapacity 2) = .ok found' ∧
        ∀ offer ∈ found, (∃ best ∈ found'.head?, best.cost ≤ offer.cost) ∨
          ∃ m, Sample.pressedEntry.Displaces 2 Sample.tightRequest offer.pickup offer.dropoff m ∧
            Search.MissesAt Sample.tightRequest Sample.pressedEntry offer m :=
  ⟨⟨rfl, Sample.built_pressedEntry, by decide, fun _ _ _ _ => ⟨_, rfl⟩⟩,
    Search.head_le_or_displaced .reject rfl Sample.built_pressedEntry (by decide)
      fun _ _ _ _ => ⟨_, rfl⟩⟩

/-- A second seat may leave a request without any insertion where lateness is rejected, and with
dearer ones where it is discouraged. -/
theorem Search.worse_with_more_seats :
    Entry.ofServiceEnd? Sample.pressedEntry.vehicle Sample.start Sample.pressedStops
        = .ok Sample.pressedEntry ∧
      Entry.ofServiceEnd? { Sample.pressedEntry.vehicle with capacity := 2 } Sample.start
        Sample.pressedStops = .ok (Sample.pressedEntry.withCapacity 2) ∧
      (∀ choice, (Sample.searchBy choice).driveTime.IsNonnegative) ∧
      (∀ choice, ∃ found offer found',
        (Sample.searchBy choice).evaluateVehicle Sample.tightRequest Sample.pressedEntry
            = .ok found ∧
          offer ∈ found ∧
          (Sample.searchBy choice).evaluateVehicle Sample.tightRequest
            (Sample.pressedEntry.withCapacity 2) = .ok found' ∧
          ∀ other ∈ found', ¬ other.cost ≤ offer.cost) ∧
      (Sample.searchBy .reject).evaluateVehicle Sample.tightRequest
        (Sample.pressedEntry.withCapacity 2) = .ok [] := by
  refine ⟨Sample.built_pressedEntry, rfl, fun _ => DriveTime.line_isNonnegative (by norm_num),
    fun choice => ⟨_, _, _, rfl, ranked_perm.mem_iff.mpr
      (List.mem_filter.mpr ⟨List.mem_cons_self, ?_⟩), rfl, ?_⟩, ?_⟩
  · cases choice <;> decide +kernel
  · intro other hother
    replace hother := List.mem_of_mem_filter (ranked_perm.mem_iff.mp hother)
    revert other
    cases choice <;> decide +kernel
  · refine bind_eq_ok.mpr ⟨_, rfl, congrArg Except.ok (?_ : ranked Scored.rank _ = [])⟩
    rw [List.filter_eq_nil_iff.mpr, ranked, List.mergeSort_nil]
    decide +kernel

end DialARide
