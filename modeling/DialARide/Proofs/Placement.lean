import DialARide.Proofs.Candidates
import Mathlib.Logic.Relation
import Mathlib.Tactic.IntervalCases

/-!
# Placements that are not listed

A placement of pickup and dropoff that has room on every leg may be missing from the list because
one of them lies in front of a stop at the same place. Boarding or alighting at that stop instead
changes nothing but a detour of length zero. Such moves lead from a placement to a listed one, as
long as they do not push the pickup past the dropoff (`Entry.placements_covered`): in front of a run
of stops at the origin the list begins behind the run, whatever lies between these stops.
-/

namespace DialARide

open Relation (ReflTransGen)

variable {α : Type}

/-! ## 1. Moves -/

/-- The request boards at the next stop instead of just before it, or alights at the next stop
instead of just before it. -/
inductive Entry.Moves (entry : Entry α) (request : Request α) : Insertion → Insertion → Prop
  | board {p d : Nat} : p < d → entry.StopsNextAt p request.origin →
      entry.Moves request ⟨p, d⟩ ⟨p + 1, d⟩
  | alight {p d : Nat} : entry.StopsNextAt d request.destination →
      entry.Moves request ⟨p, d⟩ ⟨p, d + 1⟩

/-- A placement is listed, or becomes a listed one by moves. -/
def Entry.Covers (entry : Entry α) (request : Request α) (placement : Insertion) : Prop :=
  ∃ listed ∈ entry.insertions request, ReflTransGen (entry.Moves request) placement listed

/-- There is room on the legs leaving waypoints `p` to `d`. -/
def Entry.RoomBetween (entry : Entry α) (size p d : Nat) : Prop :=
  ∀ k, p ≤ k → k ≤ d → entry.RoomAfter size k

/-- The stops after waypoint `p` up to waypoint `m` are all at a location, and the run ends
there. -/
structure Entry.RunOfStops (entry : Entry α) (location : LocationId) (p m : Nat) : Prop where
  ordered : p ≤ m
  inside : m ≤ entry.stopCount
  stopsAt : ∀ k, p ≤ k → k < m → entry.StopsNextAt k location
  ends : ¬ entry.StopsNextAt m location

namespace Entry

variable {entry : Entry α} {request : Request α} {placement moved : Insertion} {p d m : Nat}
  {location : LocationId}

theorem Covers.of_moves (h : ReflTransGen (entry.Moves request) placement moved)
    (covers : entry.Covers request moved) : entry.Covers request placement := by
  obtain ⟨listed, hlisted, hmoves⟩ := covers
  exact ⟨listed, hlisted, h.trans hmoves⟩

theorem StopsNextAt.lt (h : entry.StopsNextAt p location) : p < entry.stopCount := by
  obtain ⟨stop, hstop, -⟩ := h
  exact (List.getElem?_eq_some_iff.mp hstop).1

theorem StopsNextAt.exists_stop (h : entry.StopsNextAt p location) :
    ∃ stop, entry.waypoint (p + 1) = .ok (.stop stop) ∧ stop.location = location := by
  obtain ⟨stop, hstop, hat⟩ := h
  exact ⟨stop, waypoint_succ_eq_ok hstop, hat⟩

/-- A stop is at one location only. -/
theorem StopsNextAt.unique {other : LocationId} (h : entry.StopsNextAt p location)
    (h' : entry.StopsNextAt p other) : location = other := by
  obtain ⟨stop, hstop, rfl⟩ := h
  obtain ⟨stop', hstop', rfl⟩ := h'
  cases hstop.symm.trans hstop'
  rfl

theorem exists_runOfStops (entry : Entry α) (location : LocationId) (inside : p ≤ entry.stopCount) :
    ∃ m, entry.RunOfStops location p m := by
  induction inside using Nat.decreasingInduction with
  | self =>
    exact ⟨_, le_rfl, le_rfl, fun k hk hlt => absurd hlt (Nat.not_lt.mpr hk),
      fun h => Nat.lt_irrefl _ h.lt⟩
  | of_succ p hp ih =>
    by_cases hat : entry.StopsNextAt p location
    · obtain ⟨m, ordered, inside, stopsAt, ends⟩ := ih
      refine ⟨m, Nat.le_of_succ_le ordered, inside, fun k hk hlt => ?_, ends⟩
      rcases Nat.eq_or_lt_of_le hk with rfl | hk
      · exact hat
      · exact stopsAt k hk hlt
    · exact ⟨p, le_rfl, hp.le, fun k hk hlt => absurd hlt (Nat.not_lt.mpr hk), hat⟩

/-! ## 2. Moving along a run of stops -/

/-- The pickup moves up to the end of a run, unless the dropoff is in its way. -/
theorem moves_pickup (hpm : p ≤ m) (hmd : m ≤ d)
    (stopsAt : ∀ k, p ≤ k → k < m → entry.StopsNextAt k request.origin) :
    ReflTransGen (entry.Moves request) ⟨p, d⟩ ⟨m, d⟩ := by
  induction m, hpm using Nat.le_induction with
  | base => exact .refl
  | succ m hpm ih =>
    have hmoves := ih (Nat.le_of_succ_le hmd) fun k hk hlt => stopsAt k hk (Nat.lt_succ_of_lt hlt)
    exact hmoves.tail (.board hmd (stopsAt m hpm (Nat.lt_succ_self m)))

theorem moves_dropoff (hdm : d ≤ m)
    (stopsAt : ∀ k, d ≤ k → k < m → entry.StopsNextAt k request.destination) :
    ReflTransGen (entry.Moves request) ⟨p, d⟩ ⟨p, m⟩ := by
  induction m, hdm using Nat.le_induction with
  | base => exact .refl
  | succ m hdm ih =>
    have hmoves := ih fun k hk hlt => stopsAt k hk (Nat.lt_succ_of_lt hlt)
    exact hmoves.tail (.alight (stopsAt m hdm (Nat.lt_succ_self m)))

/-! ## 3. Covered placements -/

/-- Once the pickup is not in front of a stop at the origin, the dropoff moves on until the
placement is listed: to the first position that is not in front of a stop at the destination, or
to a stop after which the vehicle is full. -/
theorem covers_of_not_stopsNextAt (counted : entry.Counted request.size) (ordered : p ≤ d)
    (inside : d ≤ entry.stopCount) (room : entry.RoomBetween request.size p d)
    (hnext : ¬ entry.StopsNextAt p request.origin) : entry.Covers request ⟨p, d⟩ := by
  have hboards := room p le_rfl ordered
  induction inside using Nat.decreasingInduction with
  | self =>
    have hlast : ¬ entry.StopsNextAt entry.stopCount request.destination :=
      fun h => Nat.lt_irrefl _ h.lt
    have admits : entry.Admits request ⟨p, entry.stopCount⟩ := ⟨hboards, hnext, ordered, le_rfl,
      fun k hk hlt => room k hk hlt.le, .inl ⟨room _ ordered le_rfl, hlast⟩⟩
    exact ⟨_, (mem_insertions_of_counted counted).mpr admits, .refl⟩
  | of_succ d hd ih =>
    by_cases hat : entry.StopsNextAt d request.destination
    · refine Covers.of_moves (.single (.alight hat)) ?_
      by_cases hroom : entry.RoomAfter request.size (d + 1)
      · refine ih (Nat.le_succ_of_le ordered) fun k hk hle => ?_
        rcases Nat.eq_or_lt_of_le hle with rfl | hlt
        · exact hroom
        · exact room k hk (Nat.le_of_lt_succ hlt)
      · -- the request has to alight at the stop that it has moved to
        have admits : entry.Admits request ⟨p, d + 1⟩ := ⟨hboards, hnext,
          Nat.le_succ_of_le ordered, hd, fun k hk hlt => room k hk (Nat.le_of_lt_succ hlt),
          .inr ⟨Nat.lt_succ_of_le ordered, hroom, hat⟩⟩
        exact ⟨_, (mem_insertions_of_counted counted).mpr admits, .refl⟩
    · have admits : entry.Admits request ⟨p, d⟩ := ⟨hboards, hnext, ordered, hd.le,
        fun k hk hlt => room k hk hlt.le, .inl ⟨room d ordered le_rfl, hat⟩⟩
      exact ⟨_, (mem_insertions_of_counted counted).mpr admits, .refl⟩

/-- A pickup and dropoff back to back need room on one leg only. -/
theorem roomBetween_self (room : entry.RoomAfter request.size m) :
    entry.RoomBetween request.size m m := fun k hmk hkm => by
  obtain rfl : k = m := Nat.le_antisymm hkm hmk
  exact room

theorem covers_of_run_le (counted : entry.Counted request.size) (inside : d ≤ entry.stopCount)
    (room : entry.RoomBetween request.size p d) (run : entry.RunOfStops request.origin p m)
    (hmd : m ≤ d) : entry.Covers request ⟨p, d⟩ := by
  refine Covers.of_moves (moves_pickup run.ordered hmd run.stopsAt) ?_
  exact covers_of_not_stopsNextAt counted hmd inside
    (fun k hk hle => room k (run.ordered.trans hk) hle) run.ends

/-- Behind the run a request is placed back to back. -/
theorem covers_behind_run (counted : entry.Counted request.size)
    (run : entry.RunOfStops request.origin p m) (room : entry.RoomAfter request.size m) :
    entry.Covers request ⟨m, m⟩ :=
  covers_of_not_stopsNextAt counted le_rfl run.inside (roomBetween_self room) run.ends

/-- On a round trip the dropoff moves along the run too, and then no longer bars the pickup. -/
theorem covers_of_roundTrip (counted : entry.Counted request.size) (ordered : p ≤ d)
    (run : entry.RunOfStops request.origin p m) (hdm : d < m)
    (roundTrip : request.origin = request.destination) (room : entry.RoomAfter request.size m) :
    entry.Covers request ⟨p, d⟩ := by
  have hdropoff : ReflTransGen (entry.Moves request) ⟨p, d⟩ ⟨p, m⟩ :=
    moves_dropoff hdm.le fun k hk hlt => roundTrip ▸ run.stopsAt k (ordered.trans hk) hlt
  have hpickup := moves_pickup run.ordered le_rfl run.stopsAt
  exact Covers.of_moves (hdropoff.trans hpickup) (covers_behind_run counted run room)

/-! ## 4. Placements in front of a run -/

/-- Pickup and dropoff both lie in front of stops at one location, and so do the stops between. -/
structure InFrontOf (entry : Entry α) (location : LocationId) (placement : Insertion) : Prop where
  ordered : placement.pickup ≤ placement.dropoff
  stopsAt : ∀ k, placement.pickup ≤ k → k ≤ placement.dropoff → entry.StopsNextAt k location

/-- The dropoff bars the pickup, and nothing moves the dropoff. -/
theorem InFrontOf.step (oneWay : request.origin ≠ request.destination)
    (h : entry.InFrontOf request.origin placement) (move : entry.Moves request placement moved) :
    entry.InFrontOf request.origin moved := by
  cases move with
  | board hlt _ => exact ⟨hlt, fun k hk hle => h.stopsAt k (Nat.le_of_succ_le hk) hle⟩
  | alight hat => exact absurd ((h.stopsAt _ h.ordered le_rfl).unique hat) oneWay

theorem InFrontOf.run (oneWay : request.origin ≠ request.destination)
    (h : entry.InFrontOf request.origin placement)
    (moves : ReflTransGen (entry.Moves request) placement moved) :
    entry.InFrontOf request.origin moved := by
  induction moves with
  | refl => exact h
  | tail _ move ih => exact ih.step oneWay move

/-- **A placement that lies in front of stops at the origin throughout is not covered.** -/
theorem InFrontOf.not_covers (counted : entry.Counted request.size)
    (oneWay : request.origin ≠ request.destination)
    (h : entry.InFrontOf request.origin placement) : ¬ entry.Covers request placement := by
  intro covers
  obtain ⟨listed, hlisted, moves⟩ := covers
  have hfront := h.run oneWay moves
  have admits := (mem_insertions_of_counted counted).mp hlisted
  exact admits.notAtNext (hfront.stopsAt _ le_rfl hfront.ordered)

/-! ## 5. What skipping costs -/

/-- **Skipping loses no placement whose dropoff lies behind the stops at the origin** that follow
its pickup. In front of them, a request is placed behind the run instead, back to back, if there is
room on the leg that leaves the run; on a round trip this is again only a detour of length zero. -/
theorem placements_covered [Scalar α] {vehicle : Vehicle α} {start : Start α}
    {stops : List (Stop α)} {slack : List α}
    (built : Entry.ofSlack? vehicle start stops slack = .ok entry) (ordered : p ≤ d)
    (inside : d ≤ entry.stopCount) (room : entry.RoomBetween request.size p d) :
    ∃ m, entry.RunOfStops request.origin p m ∧
      (m ≤ d ∨ request.origin = request.destination ∧ entry.RoomAfter request.size m →
        entry.Covers request ⟨p, d⟩) ∧
      (d < m → entry.RoomAfter request.size m → entry.Covers request ⟨m, m⟩) := by
  have counted : entry.Counted request.size := .inr (withinCapacity_of_ofSlack built)
  obtain ⟨m, run⟩ := entry.exists_runOfStops request.origin (ordered.trans inside)
  refine ⟨m, run, fun h => ?_, fun _ hroom => covers_behind_run counted run hroom⟩
  rcases Nat.lt_or_ge d m with hdm | hmd
  · rcases h with hmd | ⟨roundTrip, hroom⟩
    · exact absurd hmd (Nat.not_le.mpr hdm)
    · exact covers_of_roundTrip counted ordered run hdm roundTrip hroom
  · exact covers_of_run_le counted inside room run hmd

end Entry

namespace Sample

/-- Two stops at the origin of the request, then one at its destination, after which both seats are
taken. -/
def crowdedStops : List (Stop (Exact ℚ)) := [
  ⟨1, ⟨.finite 100, .finite 130, .posInf, .posInf⟩, 1⟩,
  ⟨1, ⟨.finite 140, .finite 150, .posInf, .posInf⟩, 1⟩,
  ⟨2, ⟨.finite 200, .finite 230, .posInf, .posInf⟩, 2⟩,
  ⟨3, ⟨.finite 300, .finite 330, .posInf, .posInf⟩, 0⟩]

/-- The entry of the vehicle. -/
def crowdedEntry : Entry (Exact ℚ) :=
  ⟨{ vehicle with capacity := 2 }, { start with occupancy := 1 }, crowdedStops,
    List.replicate 5 (.finite 1000)⟩

theorem built_crowdedEntry : Entry.ofSlack? crowdedEntry.vehicle crowdedEntry.start crowdedStops
    crowdedEntry.slack = .ok crowdedEntry := rfl

theorem roomBetween_crowdedEntry : crowdedEntry.RoomBetween request.size 0 2 := fun k _ hk => by
  interval_cases k <;> decide

/-- A vehicle on its way to the origin of the request, where someone alights. -/
def arrivingStops : List (Stop (Exact ℚ)) := [
  ⟨1, ⟨.finite 100, .finite 130, .posInf, .posInf⟩, 0⟩]

/-- The entry of the vehicle. -/
def arrivingEntry : Entry (Exact ℚ) :=
  ⟨vehicle, { start with occupancy := 1 }, arrivingStops, List.replicate 2 (.finite 1000)⟩

end Sample

/-- The pickup moves past both stops at the origin, the dropoff into the full stop. -/
theorem Entry.placements_covered_sample :
    (Entry.ofSlack? Sample.crowdedEntry.vehicle Sample.crowdedEntry.start Sample.crowdedStops
        Sample.crowdedEntry.slack = .ok Sample.crowdedEntry ∧
      (0 : Nat) ≤ 2 ∧ 2 ≤ Sample.crowdedEntry.stopCount ∧
      Sample.crowdedEntry.RoomBetween Sample.request.size 0 2) ∧
    Sample.crowdedEntry.insertions Sample.request = [⟨2, 3⟩, ⟨4, 4⟩] ∧
    ∃ m, Sample.crowdedEntry.RunOfStops Sample.request.origin 0 m ∧
      (m ≤ 2 ∨ Sample.request.origin = Sample.request.destination ∧
          Sample.crowdedEntry.RoomAfter Sample.request.size m →
        Sample.crowdedEntry.Covers Sample.request ⟨0, 2⟩) ∧
      (2 < m → Sample.crowdedEntry.RoomAfter Sample.request.size m →
        Sample.crowdedEntry.Covers Sample.request ⟨m, m⟩) :=
  ⟨⟨Sample.built_crowdedEntry, by decide, by decide, Sample.roomBetween_crowdedEntry⟩, by decide,
    Entry.placements_covered Sample.built_crowdedEntry (by decide) (by decide)
      Sample.roomBetween_crowdedEntry⟩

/-- Back to back in front of a stop at the origin there is room, but such a placement is neither
listed nor turned into a listed one. -/
theorem Entry.placement_not_covered_before_origin :
    Entry.ofSlack? Sample.arrivingEntry.vehicle Sample.arrivingEntry.start Sample.arrivingStops
        Sample.arrivingEntry.slack = .ok Sample.arrivingEntry ∧
      (0 : Nat) ≤ Sample.arrivingEntry.stopCount ∧
      Sample.arrivingEntry.RoomBetween Sample.request.size 0 0 ∧
      ¬ Sample.arrivingEntry.Covers Sample.request ⟨0, 0⟩ := by
  refine ⟨rfl, Nat.zero_le _, Entry.roomBetween_self (by decide), ?_⟩
  have front : Sample.arrivingEntry.InFrontOf Sample.request.origin ⟨0, 0⟩ := by
    refine ⟨le_rfl, fun k _ hk => ?_⟩
    obtain rfl : k = 0 := Nat.le_zero.mp hk
    exact ⟨_, rfl, rfl⟩
  exact front.not_covers (.inl (by decide)) (by decide)

end DialARide
