import DialARide.Proofs.Candidates
import DialARide.Proofs.Route

/-!
# Loads along a changed route

How many seats are taken on every leg of the route that an insertion makes: those of the planned
passengers, and between pickup and dropoff those of the request. The route follows the timing of
the insertion, which decides by waypoint `d` whether the request alights during that stop or stays
aboard for a leg more (`Timing.DropsOff`); the list of insertions looks ahead to the same stop from
the waypoint before it. Both agree, so that no leg of a listed insertion is overfull
(`Entry.insertions_keepCapacity`).
-/

namespace DialARide

variable {α : Type}

/-! ## 1. Loads -/

/-- Who is in a vehicle: the passengers of its plan, and perhaps those of the request. -/
structure Load where
  planned : Nat
  aboard : Bool
  deriving DecidableEq, Repr

/-- Whether the vehicle drives a leg in this step. -/
def RouteStep.isDriven : RouteStep α → Bool
  | .board | .alight => false
  | .pickUp .. | .visit .. | .dropOff .. => true

namespace Load

/-- Seats taken, when the request takes `size` of them. -/
def seats (size : Nat) (load : Load) : Nat :=
  if load.aboard then load.planned + size else load.planned

/-- The load after one step of a route. -/
def step (load : Load) : RouteStep α → Load
  | .board | .pickUp .. => { load with aboard := true }
  | .visit _ stop => { load with planned := stop.occupancy }
  | .alight | .dropOff .. => { load with aboard := false }

/-- The load on every leg of a route, in the order in which they are driven. -/
def onLegs (load : Load) : List (RouteStep α) → List Load
  | [] => []
  | s :: rest =>
    if s.isDriven then load :: (load.step s).onLegs rest else (load.step s).onLegs rest

section Steps

variable {load : Load} {stops : List (Stop α)} {route : List (RouteStep α)}

theorem onLegs_visit {drive : α} {stop : Stop α} :
    load.onLegs (.visit drive stop :: route)
      = load :: onLegs ⟨stop.occupancy, load.aboard⟩ route := rfl

theorem onLegs_alight :
    load.onLegs (.alight :: route) = onLegs ⟨load.planned, false⟩ route := rfl

theorem onLegs_dropOff {drive duration : α} :
    load.onLegs (.dropOff drive duration :: route)
      = load :: onLegs ⟨load.planned, false⟩ route := rfl

theorem onLegs_append {first second : List (RouteStep α)} :
    load.onLegs (first ++ second)
      = load.onLegs first ++ (first.foldl step load).onLegs second := by
  induction first generalizing load with
  | nil => rfl
  | cons s rest ih =>
    rw [List.cons_append, onLegs, onLegs, List.foldl_cons, ih]
    split
    · exact (List.cons_append ..).symm
    · rfl

/-- Several loads that differ in the planned passengers only. -/
def all (aboard : Bool) (planned : List Nat) : List Load := planned.map (⟨·, aboard⟩)

theorem map_planned_all {aboard : Bool} {planned : List Nat} :
    (all aboard planned).map Load.planned = planned := by
  rw [all, List.map_map]
  exact List.map_id planned

theorem filter_all_true {planned : List Nat} :
    (all true planned).filter Load.aboard = all true planned :=
  List.filter_eq_self.mpr (List.forall_mem_map.mpr fun _ _ => rfl)

theorem filter_all_false {planned : List Nat} : (all false planned).filter Load.aboard = [] :=
  List.filter_eq_nil_iff.mpr (List.forall_mem_map.mpr fun _ _ => Bool.false_ne_true)

variable [Scalar α]

/-- A stop is reached with the passengers that left the waypoint before it. -/
theorem onLegs_asPlanned {w : Waypoint α} :
    load.onLegs (asPlanned w stops)
      = all load.aboard ((load.planned :: stops.map Stop.occupancy).take stops.length) := by
  induction stops generalizing load w with
  | nil => rfl
  | cons stop rest ih =>
    rw [asPlanned, onLegs_visit, ih]
    rfl

theorem onLegs_afterDetour {drive : α} :
    load.onLegs (afterDetour drive stops)
      = all load.aboard ((load.planned :: stops.map Stop.occupancy).take stops.length) := by
  cases stops with
  | nil => rfl
  | cons stop rest =>
    rw [afterDetour, onLegs_visit, onLegs_asPlanned]
    rfl

theorem foldl_asPlanned {w : Waypoint α} :
    (asPlanned w stops).foldl step load
      = ⟨(stops.map Stop.occupancy).getLastD load.planned, load.aboard⟩ := by
  induction stops generalizing load w with
  | nil => rfl
  | cons stop rest ih =>
    rw [asPlanned, List.foldl_cons, ih, List.map_cons, List.getLastD_cons]
    rfl

theorem foldl_afterDetour {drive : α} :
    (afterDetour drive stops).foldl step load
      = ⟨(stops.map Stop.occupancy).getLastD load.planned, load.aboard⟩ := by
  cases stops with
  | nil => rfl
  | cons stop rest =>
    rw [afterDetour, List.foldl_cons, foldl_asPlanned, List.map_cons, List.getLastD_cons]
    rfl

end Steps

end Load

/-! ## 2. Occupancies by position -/

namespace Entry

variable {entry : Entry α} {k n : Nat} {w : Waypoint α}

/-- Seats taken on the leg leaving each waypoint. -/
def occupancies (entry : Entry α) : List Nat := entry.waypoints.map Waypoint.occupancy

theorem drop_occupancies (hw : entry.waypoint k = .ok w) :
    entry.occupancies.drop k = w.occupancy :: (entry.stops.drop k).map Stop.occupancy := by
  have htail : ∀ stops : List (Stop α), (stops.map Waypoint.stop).map Waypoint.occupancy
      = stops.map Stop.occupancy := fun stops => by rw [List.map_map]; rfl
  cases k with
  | zero =>
    cases hw
    rw [occupancies, waypoints, List.map_cons, htail]
    rfl
  | succ k =>
    obtain ⟨stop, hstop, rfl⟩ := waypoint_succ_inv hw
    obtain ⟨hk, rfl⟩ := List.getElem?_eq_some_iff.mp hstop
    rw [occupancies, waypoints, List.map_cons, htail, List.drop_succ_cons, ← List.map_drop,
      List.drop_eq_getElem_cons hk]
    rfl

/-- What the first `n` of the waypoints from `k` on are left with, the stops among them counted
apart. -/
theorem take_occupancies (hw : entry.waypoint k = .ok w) :
    (w.occupancy :: ((entry.stops.drop k).take n).map Stop.occupancy).take n
      = (entry.occupancies.drop k).take n := by
  rw [drop_occupancies hw]
  cases n with
  | zero => rfl
  | succ n =>
    rw [List.take_succ_cons, List.take_succ_cons, ← List.map_take, List.take_take,
      Nat.min_eq_left (Nat.le_succ n), List.map_take]

theorem getElem?_occupancies (hw : entry.waypoint k = .ok w) :
    entry.occupancies[k]? = some w.occupancy := by
  rw [occupancies, List.getElem?_map, waypoint_eq_ok.mp hw]
  rfl

end Entry

/-! ## 3. Loads of an insertion -/

/-- The request alights during the stop after which its dropoff lies; `v` is the waypoint there. -/
def Insertion.MergesDropoff (insertion : Insertion) (request : Request α) (v : Waypoint α) : Prop :=
  insertion.pickup < insertion.dropoff ∧ v.location = request.destination

instance (insertion : Insertion) (request : Request α) (v : Waypoint α) :
    Decidable (insertion.MergesDropoff request v) :=
  inferInstanceAs (Decidable (_ ∧ _))

/-- How many legs leaving a waypoint the request rides along: those from waypoint `p` to waypoint
`d`, and the one on from there unless it alights during that stop. -/
def Insertion.ridden (insertion : Insertion) (request : Request α) (v : Waypoint α) : Nat :=
  insertion.dropoff - insertion.pickup + if insertion.MergesDropoff request v then 0 else 1

/-- Planned passengers on the way to the pickup; there is no such leg where the request boards
during a stop. -/
def Entry.approach (request : Request α) (w : Waypoint α) : List Nat :=
  if w.isStop ∧ w.location = request.origin then [] else [w.occupancy]

/-- The load on every leg of the changed route, from waypoint `w` on. -/
def Entry.loads [Scalar α] (entry : Entry α) (stopDuration : α) (request : Request α)
    (insertion : Insertion) (w v : Waypoint α) (legs : Legs α) : List Load :=
  Load.onLegs ⟨w.occupancy, false⟩ (entry.route stopDuration request insertion w v legs)

section Loads

variable {entry : Entry α} {stopDuration : α} {request : Request α} {p d : Nat}
  {w v : Waypoint α} {legs : Legs α}

theorem Load.onLegs_boarding {route : List (RouteStep α)} :
    Load.onLegs ⟨w.occupancy, false⟩ (boarding stopDuration request w legs :: route)
      = Load.all false (Entry.approach request w) ++ Load.onLegs ⟨w.occupancy, true⟩ route := by
  unfold boarding Entry.approach
  split
  · rfl
  · rfl

/-- Planned passengers on the legs after the dropoff. -/
theorem Entry.take_occupancies_after (hv : entry.waypoint d = .ok v) :
    (v.occupancy :: (entry.stops.drop d).map Stop.occupancy).take (entry.stops.drop d).length
      = (entry.occupancies.drop d).take (entry.stopCount - d) := by
  rw [← Entry.drop_occupancies hv, List.length_drop]
  rfl

/-- The legs that the request rides along, when pickup and dropoff lie apart. -/
theorem Entry.take_ridden (h : p < d) (hv : entry.waypoint d = .ok v) :
    Load.all true ((entry.occupancies.drop p).take (Insertion.ridden ⟨p, d⟩ request v)) =
      Load.all true ((entry.occupancies.drop p).take (d - p)) ++
        if v.location = request.destination then [] else Load.all true [v.occupancy] := by
  have hlast : (entry.occupancies.drop p)[d - p]? = some v.occupancy := by
    rw [List.getElem?_drop, Nat.add_sub_cancel' h.le, Entry.getElem?_occupancies hv]
  by_cases hm : v.location = request.destination
  · have hmerges : Insertion.MergesDropoff ⟨p, d⟩ request v := ⟨h, hm⟩
    rw [Insertion.ridden, if_pos hmerges, if_pos hm, List.append_nil]
    rfl
  · have hmerges : ¬ Insertion.MergesDropoff ⟨p, d⟩ request v := fun hmerges => hm hmerges.2
    rw [Insertion.ridden, if_neg hmerges, if_neg hm, List.take_add_one, hlast]
    exact List.map_append

variable [Scalar α]

/-- The request rides to the stop after which its dropoff lies, and one leg more unless it alights
during that stop. -/
theorem Load.onLegs_alighting (hv : entry.waypoint d = .ok v) :
    Load.onLegs ⟨v.occupancy, true⟩ (alighting stopDuration request v legs (entry.stops.drop d)) =
      (if v.location = request.destination then [] else Load.all true [v.occupancy]) ++
        Load.all false ((entry.occupancies.drop d).take (entry.stopCount - d)) := by
  by_cases hm : v.location = request.destination
  · rw [alighting_merged hm, if_pos hm, Load.onLegs_alight, Load.onLegs_asPlanned,
      Entry.take_occupancies_after hv, List.nil_append]
  · rw [alighting_separate hm, if_neg hm, Load.onLegs_dropOff, Load.onLegs_afterDetour,
      Entry.take_occupancies_after hv]
    rfl

/-- **The request is aboard from the pickup to the dropoff**, and on no other leg. -/
theorem Entry.loads_eq (ordered : p ≤ d) (inside : d ≤ entry.stopCount)
    (hw : entry.waypoint p = .ok w) (hv : entry.waypoint d = .ok v) :
    entry.loads stopDuration request ⟨p, d⟩ w v legs =
      Load.all false (Entry.approach request w) ++
        (Load.all true ((entry.occupancies.drop p).take (Insertion.ridden ⟨p, d⟩ request v)) ++
          Load.all false ((entry.occupancies.drop d).take (entry.stopCount - d))) := by
  rw [Entry.loads, Entry.route, Load.onLegs_boarding]
  congr 1
  rcases Nat.eq_or_lt_of_le ordered with rfl | h
  · have hridden : Insertion.ridden ⟨p, p⟩ request v = 1 := by
      simp [Insertion.ridden, Insertion.MergesDropoff]
    cases hw.symm.trans hv
    rw [if_pos rfl, hridden, Load.onLegs_dropOff, Load.onLegs_afterDetour, Entry.after,
      Entry.take_occupancies_after hw, Entry.drop_occupancies hw]
    rfl
  · obtain ⟨stop, -, hstop, -⟩ := Entry.exists_stopAt h inside
    cases hv.symm.trans hstop
    obtain ⟨front, hconcat⟩ := Entry.between_eq_concat h hv
    have hbetween := congrArg (Load.all true) (Entry.take_occupancies (n := d - p) hw)
    have hlast : ((entry.between ⟨p, d⟩).map Stop.occupancy).getLastD w.occupancy
        = stop.occupancy := by
      rw [hconcat, List.map_append, List.map_singleton, List.getLastD_concat]
    rw [if_neg h.ne, Load.onLegs_append, Load.onLegs_afterDetour, Load.foldl_afterDetour, hlast,
      Entry.length_between inside, Entry.take_ridden h hv, List.append_assoc]
    exact congrArg₂ (· ++ ·) hbetween (Load.onLegs_alighting hv)

/-- The planned passengers on the legs that the request rides along. -/
theorem Entry.planned_filter_loads (ordered : p ≤ d) (inside : d ≤ entry.stopCount)
    (hw : entry.waypoint p = .ok w) (hv : entry.waypoint d = .ok v) :
    ((entry.loads stopDuration request ⟨p, d⟩ w v legs).filter Load.aboard).map Load.planned
      = (entry.occupancies.drop p).take (Insertion.ridden ⟨p, d⟩ request v) := by
  rw [Entry.loads_eq ordered inside hw hv, List.filter_append, List.filter_append,
    Load.filter_all_false, Load.filter_all_true, Load.filter_all_false, List.nil_append,
    List.append_nil, Load.map_planned_all]

end Loads

/-! ## 4. Timing and load -/

section Drops

variable [Scalar α] {entry : Entry α} {request : Request α} {p d : Nat} {v : Waypoint α}

/-- The timing drops the request off where the route does: straight after the pickup, at the arrival
of the stop during which the request alights, or after a drive on from waypoint `v`. -/
structure Timing.DropsOff (t : Timing α) (request : Request α) (insertion : Insertion)
    (v : Waypoint α) (legs : Legs α) : Prop where
  backToBack : insertion.pickup = insertion.dropoff →
    t.dropoffArrival = t.pickupDeparture + legs.fromPickup
  merged : insertion.MergesDropoff request v → ∃ stop, v = .stop stop ∧
    t.dropoffArrival = stop.task.arrival + t.pickupLoss ∧ t.dropoffLoss = Scalar.zero
  separate : insertion.pickup < insertion.dropoff → v.location ≠ request.destination →
    t.dropoffArrival = v.departure + t.pickupLoss + legs.timeToDropoff

theorem Timing.exists_dropsOff (ordered : p ≤ d) (inside : d ≤ entry.stopCount)
    (hv : entry.waypoint d = .ok v) (stopDuration : α) (request : Request α) (legs : Legs α) :
    ∃ t, Timing.ofInsertion stopDuration request entry ⟨p, d⟩ legs = .ok t ∧
      t.DropsOff request ⟨p, d⟩ v legs := by
  rcases Nat.eq_or_lt_of_le ordered with rfl | h
  · obtain ⟨replaced, hr⟩ := Entry.exists_driveAfter inside
    refine ⟨_, Timing.ofInsertion_self legs hv hr, fun _ => rfl, fun hm => ?_, fun h => ?_⟩
    · exact absurd hm.1 (Nat.lt_irrefl p)
    · exact absurd h (Nat.lt_irrefl p)
  · obtain ⟨stop, replacedAfter, t, hstop, ht, hd⟩ :=
      Timing.exists_ofInsertion_of_lt h inside stopDuration request legs
    cases hv.symm.trans hstop
    refine ⟨t, ht, fun heq => absurd heq h.ne, fun hm => ?_, fun _ hm => ?_⟩
    · have hat : stop.location = request.destination := hm.2
      rw [Timing.separateDropoff, if_pos hat] at hd
      obtain ⟨harrival, hloss⟩ := Prod.mk.inj hd
      exact ⟨stop, rfl, harrival.symm, hloss.symm⟩
    · have hat : stop.location ≠ request.destination := hm
      rw [Timing.separateDropoff, if_neg hat] at hd
      exact (Prod.mk.inj hd).1.symm

end Drops

/-! ## 5. Listed insertions -/

section Listed

variable {entry : Entry α} {request : Request α} {insertion : Insertion} {d : Nat}
  {v : Waypoint α}

/-- Waypoint `d` is the stop before position `d`. -/
theorem Entry.location_of_stopsNextAt {location : LocationId} (hd : 0 < d)
    (hv : entry.waypoint d = .ok v) (h : entry.StopsNextAt (d - 1) location) :
    v.location = location := by
  obtain ⟨stop, hstop, hlocation⟩ := h
  have hw := Entry.waypoint_succ_eq_ok hstop
  rw [Nat.sub_add_cancel hd] at hw
  cases hv.symm.trans hw
  exact hlocation

/-- Where the leg after waypoint `d` is full, the request alights during that stop. -/
theorem Entry.Admits.mergesDropoff (admits : entry.Admits request insertion)
    (hv : entry.waypoint insertion.dropoff = .ok v)
    (full : ¬ entry.RoomAfter request.size insertion.dropoff) :
    insertion.MergesDropoff request v := by
  rcases admits.dropoff.alights with ⟨hroom, -⟩ | ⟨hlt, -, hat⟩
  · exact absurd hroom full
  · exact ⟨hlt, Entry.location_of_stopsNextAt (Nat.zero_lt_of_lt hlt) hv hat⟩

/-- There is room on every leg that the request rides along. -/
theorem Entry.Admits.roomAfter (admits : entry.Admits request insertion)
    (hv : entry.waypoint insertion.dropoff = .ok v) {k : Nat}
    (hk : k < insertion.ridden request v) :
    entry.RoomAfter request.size (insertion.pickup + k) := by
  have hordered := admits.dropoff.ordered
  by_cases hlt : insertion.pickup + k < insertion.dropoff
  · exact admits.dropoff.aboard _ (Nat.le_add_right _ k) hlt
  · -- it is the leg after waypoint `d`, which is ridden only by a request that stays aboard
    have hmerges : ¬ insertion.MergesDropoff request v := fun hm => by
      rw [Insertion.ridden, if_pos hm] at hk
      omega
    rw [Insertion.ridden, if_neg hmerges] at hk
    have hlast : insertion.pickup + k = insertion.dropoff := by omega
    rw [hlast]
    by_contra full
    exact hmerges (admits.mergesDropoff hv full)

theorem Entry.RoomAfter.add_le {size k occupancy : Nat} (room : entry.RoomAfter size k)
    (h : entry.occupancies[k]? = some occupancy) : occupancy + size ≤ entry.vehicle.capacity := by
  obtain ⟨w, hw, hroom⟩ := room
  rw [Entry.getElem?_occupancies hw] at h
  cases h
  exact hroom

theorem Entry.WithinCapacity.le (within : entry.WithinCapacity) {occupancy : Nat}
    (h : occupancy ∈ entry.occupancies) : occupancy ≤ entry.vehicle.capacity := by
  obtain ⟨w, hw, rfl⟩ := List.mem_map.mp h
  exact within w hw

variable [Scalar α]

/-- No leg of an admitted insertion is overfull. -/
theorem Entry.Admits.seats_le (admits : entry.Admits request insertion)
    (within : entry.WithinCapacity) {w : Waypoint α}
    (hw : entry.waypoint insertion.pickup = .ok w)
    (hv : entry.waypoint insertion.dropoff = .ok v) (stopDuration : α) (legs : Legs α) :
    ∀ load ∈ entry.loads stopDuration request insertion w v legs,
      load.seats request.size ≤ entry.vehicle.capacity := by
  rw [Entry.loads_eq admits.dropoff.ordered admits.dropoff.inside hw hv]
  simp only [Load.all, List.forall_mem_append, List.forall_mem_map]
  refine ⟨fun planned hplanned => ?_, fun planned hplanned => ?_, fun planned hplanned => ?_⟩
  · unfold Entry.approach at hplanned
    split at hplanned
    · exact absurd hplanned List.not_mem_nil
    · cases List.mem_singleton.mp hplanned
      exact within w (List.mem_of_getElem? (Entry.waypoint_eq_ok.mp hw))
  · obtain ⟨k, hk⟩ := List.mem_iff_getElem?.mp hplanned
    rw [List.getElem?_take] at hk
    split at hk
    next hridden =>
      rw [List.getElem?_drop] at hk
      exact (admits.roomAfter hv hridden).add_le hk
    next => cases hk
  · exact within.le (List.mem_of_mem_drop (List.mem_of_mem_take hplanned))

end Listed

/-- An insertion keeps the vehicle within its capacity on the route as it is timed: `w` and `v` are
the waypoints after which pickup and dropoff lie. -/
structure Entry.KeepsCapacity [Scalar α] (entry : Entry α) (stopDuration : α) (request : Request α)
    (insertion : Insertion) (legs : Legs α) (w v : Waypoint α) (t : Timing α) : Prop where
  pickup : entry.waypoint insertion.pickup = .ok w
  dropoff : entry.waypoint insertion.dropoff = .ok v
  timing : Timing.ofInsertion stopDuration request entry insertion legs = .ok t
  dropsOff : t.DropsOff request insertion v legs
  seats : ∀ load ∈ entry.loads stopDuration request insertion w v legs,
    load.seats request.size ≤ entry.vehicle.capacity
  /-- The request is aboard on the legs leaving waypoints `p` to `d - 1`, and on the leg to a
  dropoff that is driven to. -/
  aboard : ((entry.loads stopDuration request insertion w v legs).filter Load.aboard).map
    Load.planned = (entry.occupancies.drop insertion.pickup).take (insertion.ridden request v)
  /-- It does not leave waypoint `d` where there is no room. -/
  full : ¬ entry.RoomAfter request.size insertion.dropoff → insertion.MergesDropoff request v

/-- **No listed insertion overfills the vehicle** on any leg of the route as it is timed. -/
theorem Entry.insertions_keepCapacity [Scalar α] {vehicle : Vehicle α} {start : Start α}
    {stops : List (Stop α)} {slack : List α} {entry : Entry α}
    (built : Entry.ofSlack? vehicle start stops slack = .ok entry) {request : Request α}
    {insertion : Insertion} (listed : insertion ∈ entry.insertions request) (stopDuration : α)
    (legs : Legs α) :
    ∃ w v t, entry.KeepsCapacity stopDuration request insertion legs w v t := by
  have within := Entry.withinCapacity_of_ofSlack built
  have admits := (Entry.mem_insertions_of_counted (.inr within)).mp listed
  have ordered := admits.dropoff.ordered
  have inside := admits.dropoff.inside
  obtain ⟨w, hw⟩ := Entry.exists_waypoint (ordered.trans inside)
  obtain ⟨v, hv⟩ := Entry.exists_waypoint inside
  obtain ⟨t, ht, hdrops⟩ := Timing.exists_dropsOff ordered inside hv stopDuration request legs
  exact ⟨w, v, t, hw, hv, ht, hdrops, admits.seats_le within hw hv stopDuration legs,
    Entry.planned_filter_loads ordered inside hw hv, admits.mergesDropoff hv⟩

namespace Sample

/-- Two seats, one of them taken; at the destination of the request someone else boards. -/
def fullStops : List (Stop (Exact ℚ)) := [
  ⟨2, ⟨.finite 100, .finite 130, .posInf, .posInf⟩, 2⟩,
  ⟨3, ⟨.finite 200, .finite 230, .posInf, .posInf⟩, 0⟩]

/-- The entry of the vehicle. -/
def fullEntry : Entry (Exact ℚ) :=
  ⟨{ vehicle with capacity := 2 }, { start with occupancy := 1 }, fullStops,
    [.finite 1000, .finite 1000, .finite 1000]⟩

theorem built_fullEntry :
    Entry.ofSlack? fullEntry.vehicle fullEntry.start fullStops fullEntry.slack = .ok fullEntry :=
  rfl

end Sample

/-- The request gives up its seat at the full stop. -/
example : Sample.fullEntry.loads (.finite 60) Sample.request ⟨0, 1⟩ (.start Sample.fullEntry.start)
    (.stop ⟨2, ⟨.finite 100, .finite 130, .posInf, .posInf⟩, 2⟩)
    ((⟨50, 40, some 0, some 30⟩ : Legs ℚ).map .finite)
      = [⟨1, false⟩, ⟨1, true⟩, ⟨2, false⟩] := by
  decide

/-- A dropoff at a stop after which there is no seat left. -/
theorem Entry.insertions_keepCapacity_sample :
    (Entry.ofSlack? Sample.fullEntry.vehicle Sample.fullEntry.start Sample.fullStops
        Sample.fullEntry.slack = .ok Sample.fullEntry ∧
      ⟨0, 1⟩ ∈ Sample.fullEntry.insertions Sample.request ∧
      ¬ Sample.fullEntry.RoomAfter Sample.request.size 1) ∧
    ∃ w v t, Sample.fullEntry.KeepsCapacity (.finite 60) Sample.request ⟨0, 1⟩
      ((⟨50, 40, some 0, some 30⟩ : Legs ℚ).map .finite) w v t :=
  ⟨⟨Sample.built_fullEntry, by decide, by decide⟩,
    Entry.insertions_keepCapacity Sample.built_fullEntry (by decide) (.finite 60)
      ((⟨50, 40, some 0, some 30⟩ : Legs ℚ).map .finite)⟩

end DialARide
