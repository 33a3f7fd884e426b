import DialARide.Proofs.Acceptance
import DialARide.Proofs.FleetOrder
import DialARide.Proofs.Listing

/-!
# Names in results

A result names a vehicle by looking its number up in the fleet. The lookup finds the vehicle with
that number and no other, wherever in the fleet it stands. A snapshot numbers its vehicles by their
positions in the file, so the result of a search names exactly the vehicle for which the best
insertion was found, and its positions lie within that vehicle's schedule
(`Snapshot.results_name_vehicles`).
-/

namespace DialARide

variable {α : Type}

/-! ## 1. Looking a vehicle up -/

section Lookup

variable {fleet : List (Entry α)} {entry : Entry α} {id : Nat}

/-- A vehicle that stands at the position of its number is found at once. -/
theorem entryWithId?_of_getElem? (h : fleet[id]? = some entry) (hid : entry.vehicle.id = id) :
    entryWithId? fleet id = some entry := by
  rw [entryWithId?, h, Option.filter_some, if_pos (beq_iff_eq.mpr hid)]

/-- Only a vehicle of the fleet with the number asked for is found. -/
theorem mem_of_entryWithId?_eq_some (h : entryWithId? fleet id = some entry) :
    entry ∈ fleet ∧ entry.vehicle.id = id := by
  unfold entryWithId? at h
  cases hshort : fleet[id]?.filter (·.vehicle.id == id) with
  | some found =>
    rw [hshort] at h
    cases h
    obtain ⟨hget, hid⟩ := Option.filter_eq_some_iff.mp hshort
    exact ⟨List.mem_of_getElem? hget, beq_iff_eq.mp hid⟩
  | none =>
    rw [hshort] at h
    have hid := List.find?_some h
    exact ⟨List.mem_of_find?_eq_some h, beq_iff_eq.mp hid⟩

/-- Every number of the fleet is found. -/
theorem entryWithId?_eq_none_iff :
    entryWithId? fleet id = none ↔ ∀ entry ∈ fleet, entry.vehicle.id ≠ id := by
  constructor
  · intro h
    unfold entryWithId? at h
    cases hshort : fleet[id]?.filter (·.vehicle.id == id) with
    | some found =>
      rw [hshort] at h
      cases h
    | none =>
      rw [hshort] at h
      intro entry hentry hid
      exact List.find?_eq_none.mp h entry hentry (beq_iff_eq.mpr hid)
  · intro h
    cases hfound : entryWithId? fleet id with
    | none => rfl
    | some found =>
      obtain ⟨hmem, hid⟩ := mem_of_entryWithId?_eq_some hfound
      exact absurd hid (h found hmem)

/-- Where all numbers are different it does not matter where the lookup begins. -/
theorem entryWithId?_eq_find? (distinct : Search.DistinctVehicles fleet) (id : Nat) :
    entryWithId? fleet id = fleet.find? (·.vehicle.id == id) := by
  cases hplain : fleet.find? (·.vehicle.id == id) with
  | none =>
    refine entryWithId?_eq_none_iff.mpr fun entry hentry hid => ?_
    exact List.find?_eq_none.mp hplain entry hentry (beq_iff_eq.mpr hid)
  | some entry =>
    have hentry := List.mem_of_find?_eq_some hplain
    have hid : entry.vehicle.id = id := by
      have h := List.find?_some hplain
      exact beq_iff_eq.mp h
    cases hfound : entryWithId? fleet id with
    | none => exact absurd hid (entryWithId?_eq_none_iff.mp hfound entry hentry)
    | some found =>
      obtain ⟨hmem, hid'⟩ := mem_of_entryWithId?_eq_some hfound
      have hsame : found.vehicle.id = entry.vehicle.id := hid'.trans hid.symm
      rw [List.inj_on_of_nodup_map distinct hmem hentry hsame]

end Lookup

/-! ## 2. Numbers and names of a snapshot -/

section Numbering

variable [Scalar α] {file : SnapshotFile α} {snapshot : Snapshot α}

namespace Snapshot

theorem getElem?_fleet (accepted : Snapshot.ofFile file = .ok snapshot) (index : Nat) :
    snapshot.fleet[index]? = file.vehicles[index]?.map (VehicleRecord.entry index) := by
  rw [(described_of_ofFile accepted).2.1, List.getElem?_mapIdx]

theorem distinctVehicles_of_ofFile (accepted : Snapshot.ofFile file = .ok snapshot) :
    Search.DistinctVehicles snapshot.fleet := by
  have hids : snapshot.fleet.map (·.vehicle.id) = List.range file.vehicles.length := by
    refine List.ext_getElem? fun index => ?_
    rw [List.getElem?_map, getElem?_fleet accepted]
    by_cases h : index < file.vehicles.length
    · rw [List.getElem?_eq_getElem h, List.getElem?_range h]
      rfl
    · rw [List.getElem?_eq_none (Nat.not_lt.mp h), List.getElem?_eq_none]
      · rfl
      · rw [List.length_range]
        exact Nat.not_lt.mp h
  rw [Search.DistinctVehicles, hids]
  exact List.nodup_range

/-- No name is given to two vehicles that are built, and none that was used before. -/
theorem nodup_names_of_buildFleet {count index : Nat} {seen : List String}
    {records : List (VehicleRecord α)} {fleet : List (Entry α)}
    (h : buildFleet count index seen records = .ok fleet) :
    (records.map VehicleRecord.id).Nodup ∧ ∀ record ∈ records, record.id ∉ seen := by
  induction records generalizing index seen fleet with
  | nil => exact ⟨List.nodup_nil, fun _ hmem => absurd hmem List.not_mem_nil⟩
  | cons record rest ih =>
    obtain ⟨hnew, entry, entries, -, hentries, -⟩ := buildFleet_cons.mp h
    obtain ⟨hnodup, hunseen⟩ := ih hentries
    rw [List.map_cons, List.nodup_cons, List.forall_mem_cons]
    refine ⟨⟨fun hmem => ?_, hnodup⟩, hnew, fun other hother hseen => ?_⟩
    · obtain ⟨other, hother, hname⟩ := List.mem_map.mp hmem
      exact hunseen other hother (hname ▸ List.mem_cons_self)
    · exact hunseen other hother (List.mem_cons_of_mem _ hseen)

theorem nodup_names_of_ofFile (accepted : Snapshot.ofFile file = .ok snapshot) :
    (file.vehicles.map VehicleRecord.id).Nodup := by
  obtain ⟨estimator, -, h⟩ := bind_eq_ok.mp accepted
  obtain ⟨fleet, hfleet, -⟩ := bind_eq_ok.mp h
  exact (nodup_names_of_buildFleet hfleet).1

end Snapshot

end Numbering

/-! ## 3. Where the best insertion was found -/

namespace Search

variable [Scalar α] {s : Search α} {request : Request α} {fleet : List (Entry α)} {clock : Clock}
  {best : Scored α}

/-- The insertion is found for the vehicle at a position of the fleet. -/
def FoundAt (s : Search α) (request : Request α) (fleet : List (Entry α)) (index : Nat)
    (offer : Scored α) : Prop :=
  ∃ entry found, fleet[index]? = some entry ∧ s.evaluateVehicle request entry = .ok found ∧
    offer ∈ found

theorem better_eq_some {start : Option (Scored α)} {candidate : Scored α}
    (h : better start candidate = some best) : start = some best ∨ candidate = best := by
  cases start with
  | none => exact .inr (Option.some.inj h)
  | some b =>
    unfold better at h
    dsimp only at h
    split at h
    · exact .inr (Option.some.inj h)
    · exact .inl h

theorem mem_of_foldl_better {start : Option (Scored α)} {items : List (Scored α)}
    (h : items.foldl better start = some best) : start = some best ∨ best ∈ items := by
  induction items generalizing start with
  | nil => exact .inl h
  | cons candidate rest ih =>
    rcases ih h with hstep | hmem
    · rcases better_eq_some hstep with hstart | rfl
      · exact .inl hstart
      · exact .inr List.mem_cons_self
    · exact .inr (List.mem_cons_of_mem _ hmem)

/-- What is found for a vehicle that is not skipped is what its evaluation returns. -/
theorem evaluateVehicle_of_evaluateUnless {overdue : Bool} {entry : Entry α}
    {found : List (Scored α)} (h : s.evaluateUnless request overdue entry = .ok (some found)) :
    s.evaluateVehicle request entry = .ok found := by
  cases overdue with
  | true => cases h
  | false =>
    obtain ⟨_, hreturned, h⟩ := evaluateUnless_false_eq_ok_iff.mp h
    rw [hreturned, Option.some.inj h]

/-- The best insertion is one that was found for a vehicle of the fleet, whatever the clock
shows. -/
theorem exists_foundAt_of_findBest {outcome : Outcome α}
    (h : s.findBest clock request fleet = .ok outcome) (hbest : outcome.best = some best) :
    ∃ index, s.FoundAt request fleet index best := by
  obtain ⟨evaluations, hevaluations, h⟩ := bind_eq_ok.mp h
  cases h
  have hmem : best ∈ (evaluations.filterMap id).filterMap List.head? :=
    (mem_of_foldl_better hbest).resolve_left nofun
  obtain ⟨found, hfound, hhead⟩ := List.mem_filterMap.mp hmem
  obtain ⟨evaluation, hevaluation, rfl⟩ := List.mem_filterMap.mp hfound
  obtain ⟨item, hitem, hone⟩ := (mem_of_mapM_eq_ok hevaluations).mp hevaluation
  obtain ⟨index, hlt, rfl⟩ := List.mem_mapIdx.mp hitem
  exact ⟨index, fleet[index], found, List.getElem?_eq_getElem hlt,
    evaluateVehicle_of_evaluateUnless hone, List.mem_of_mem_head? hhead⟩

/-- A search in time has a best insertion where one is found for some vehicle. -/
theorem isSome_best_of_mem_found [Std.TransOrd α] {outcome : Outcome α} {entry : Entry α}
    {found : List (Scored α)} (inTime : s.InTime clock fleet.length)
    (h : s.findBest clock request fleet = .ok outcome) (hentry : entry ∈ fleet)
    (returned : s.evaluateVehicle request entry = .ok found) (hbest : best ∈ found) :
    outcome.best.isSome := by
  obtain ⟨founds, hfounds, rfl⟩ := (findBest_eq_ok_iff inTime).mp h
  have hlisted : found ∈ founds := hfounds.mem_iff.mpr ⟨entry, hentry, returned⟩
  have hmem : best ∈ ranked Scored.rank founds.flatten :=
    ranked_perm.mem_iff.mpr (List.mem_flatten.mpr ⟨found, hlisted, hbest⟩)
  exact List.isSome_head?.mpr (List.ne_nil_of_mem hmem)

end Search

/-! ## 4. The vehicle of a result -/

/-- The result is the insertion, into the schedule of the vehicle that the record describes. -/
structure SearchResult.IsInsertionInto (result : SearchResult α) (record : VehicleRecord α)
    (best : Scored α) : Prop where
  vehicle : result.vehicle = some record.id
  pickup : result.pickup = some best.pickup
  dropoff : result.dropoff = some best.dropoff
  ordered : best.pickup ≤ best.dropoff
  inside : best.dropoff ≤ (record.stops.getD []).length

namespace Snapshot

variable [Scalar α] {file : SnapshotFile α} {snapshot : Snapshot α} {s : Search α}
  {request : Request α} {offer : Scored α} {index : Nat}

/-- An offer carries the position of its vehicle and lies within the vehicle's schedule. -/
theorem exists_record_of_foundAt (accepted : Snapshot.ofFile file = .ok snapshot)
    (h : s.FoundAt request snapshot.fleet index offer) :
    offer.vehicle = index ∧ offer.pickup ≤ offer.dropoff ∧
      ∃ record, file.vehicles[index]? = some record ∧
        offer.dropoff ≤ (record.stops.getD []).length := by
  obtain ⟨entry, found, hentry, returned, hoffer⟩ := h
  obtain ⟨⟨insertion, hinsertion, prices⟩, -⟩ :=
    (Search.mem_of_evaluateVehicle_eq_ok returned).mp hoffer
  obtain ⟨ordered, inside⟩ := Entry.bounds_of_mem_insertions hinsertion
  rw [← prices.pickup, ← prices.dropoff] at ordered
  rw [← prices.dropoff] at inside
  rw [getElem?_fleet accepted, Option.map_eq_some_iff] at hentry
  obtain ⟨record, hrecord, rfl⟩ := hentry
  rw [Entry.stopCount, VehicleRecord.entry, List.length_map] at inside
  exact ⟨prices.vehicle, ordered, record, hrecord, inside⟩

/-- The number of a vehicle is turned into the name that the file gives it. -/
theorem vehicleName_fleet (accepted : Snapshot.ofFile file = .ok snapshot)
    {record : VehicleRecord α} (h : file.vehicles[index]? = some record) :
    vehicleName snapshot.fleet index = record.id := by
  have hentry : snapshot.fleet[index]? = some (record.entry index) := by
    rw [getElem?_fleet accepted, h, Option.map_some]
  rw [vehicleName, entryWithId?_of_getElem? hentry rfl]
  rfl

/-- What the best insertion becomes in a result. -/
theorem isInsertionInto_of_foundAt (accepted : Snapshot.ofFile file = .ok snapshot)
    {outcome : Search.Outcome α} (hbest : outcome.best = some offer)
    (h : s.FoundAt request snapshot.fleet index offer) :
    ∃ record, file.vehicles[index]? = some record ∧
      (SearchResult.ofOutcome request snapshot.fleet outcome).IsInsertionInto record offer := by
  obtain ⟨hvehicle, ordered, record, hrecord, inside⟩ := exists_record_of_foundAt accepted h
  refine ⟨record, hrecord, ?_, ?_, ?_, ordered, inside⟩
  · show outcome.best.map (fun best => vehicleName snapshot.fleet best.vehicle) = some record.id
    rw [hbest, Option.map_some, hvehicle, vehicleName_fleet accepted hrecord]
  · exact congrArg (Option.map (·.pickup)) hbest
  · exact congrArg (Option.map (·.dropoff)) hbest

/-- **A result names exactly the vehicle for which its insertion was found.** A lookup by number
finds only the vehicle asked for, fails only where there is none, and is the plain search where the
numbers are different. An accepted snapshot has the vehicles of the file in their order, numbered by
position, with names of their own. The best insertion is found for one of them only, which the
result names, and lies within its schedule; every request of the snapshot has an outcome. -/
theorem results_name_vehicles [Geometry α] (accepted : Snapshot.ofFile file = .ok snapshot) :
    (∀ (fleet : List (Entry α)) (id : Nat),
      (∀ entry, entryWithId? fleet id = some entry → entry ∈ fleet ∧ entry.vehicle.id = id) ∧
      (entryWithId? fleet id = none ↔ ∀ entry ∈ fleet, entry.vehicle.id ≠ id) ∧
      (Search.DistinctVehicles fleet →
        entryWithId? fleet id = fleet.find? (·.vehicle.id == id))) ∧
    (snapshot.fleet.length = file.vehicles.length ∧ Search.DistinctVehicles snapshot.fleet ∧
      (file.vehicles.map VehicleRecord.id).Nodup ∧
      ∀ (index : Nat) (entry : Entry α), snapshot.fleet[index]? = some entry →
        ∃ record, file.vehicles[index]? = some record ∧ entry = record.entry index ∧
          entry.vehicle.id = index ∧ entry.vehicle.name = record.id) ∧
    (∀ (s : Search α) clock request outcome best,
      s.findBest clock request snapshot.fleet = .ok outcome → outcome.best = some best →
      ∃ index record, file.vehicles[index]? = some record ∧
        (∀ other, s.FoundAt request snapshot.fleet other best ↔ other = index) ∧
        (SearchResult.ofOutcome request snapshot.fleet outcome).IsInsertionInto record best) ∧
    ∀ settings, ∀ request ∈ snapshot.requests, ∀ clock, ∃ outcome,
      (Search.ofSettings snapshot.estimator.time settings).findBest clock request snapshot.fleet
        = .ok outcome := by
  refine ⟨fun fleet id => ⟨fun _ => mem_of_entryWithId?_eq_some, entryWithId?_eq_none_iff,
      fun distinct => entryWithId?_eq_find? distinct id⟩,
    ⟨?_, distinctVehicles_of_ofFile accepted, nodup_names_of_ofFile accepted,
      fun index entry hentry => ?_⟩,
    fun s clock request outcome best h hbest => ?_,
    fun settings request hrequest clock =>
      ((consistent_of_ofFile accepted).ready_time hrequest settings).exists_findBest clock⟩
  · rw [(described_of_ofFile accepted).2.1, List.length_mapIdx]
  · rw [getElem?_fleet accepted, Option.map_eq_some_iff] at hentry
    obtain ⟨record, hrecord, rfl⟩ := hentry
    exact ⟨record, hrecord, rfl, rfl, rfl⟩
  · obtain ⟨index, hfound⟩ := Search.exists_foundAt_of_findBest h hbest
    obtain ⟨record, hrecord, hresult⟩ := isInsertionInto_of_foundAt accepted hbest hfound
    refine ⟨index, record, hrecord, fun other => ⟨fun hother => ?_, fun heq => heq ▸ hfound⟩,
      hresult⟩
    -- the insertion carries the number of each vehicle that offers it
    exact (exists_record_of_foundAt accepted hother).1.symm.trans
      (exists_record_of_foundAt accepted hfound).1

end Snapshot

/-- A fleet whose vehicles do not stand at the positions of their numbers, and the sample request,
which one of the two sample vehicles takes. -/
theorem Snapshot.results_name_vehicles_sample :
    (Snapshot.ofFile Sample.file = .ok Sample.snapshot ∧
      Search.DistinctVehicles [Sample.twin, Sample.entry] ∧
      Sample.request ∈ Sample.snapshot.requests) ∧
    entryWithId? [Sample.twin, Sample.entry] 0
      = [Sample.twin, Sample.entry].find? (·.vehicle.id == 0) ∧
    let search := Search.ofSettings Sample.snapshot.estimator.time .standard
    ∃ outcome best,
      search.findBest .still Sample.request Sample.snapshot.fleet = .ok outcome ∧
      outcome.best = some best ∧
      ∃ index record, Sample.file.vehicles[index]? = some record ∧
        (∀ other, search.FoundAt Sample.request Sample.snapshot.fleet other best ↔
          other = index) ∧
        (SearchResult.ofOutcome Sample.request Sample.snapshot.fleet outcome).IsInsertionInto
          record best := by
  obtain ⟨hlookup, -, hnamed, hanswer⟩ := Snapshot.results_name_vehicles Sample.accepted
  have distinct : Search.DistinctVehicles [Sample.twin, Sample.entry] := by
    show [1, 0].Nodup
    decide
  have hrequest : Sample.request ∈ Sample.snapshot.requests := List.mem_cons_self
  obtain ⟨outcome, houtcome⟩ := hanswer .standard Sample.request hrequest .still
  obtain ⟨entry, hentry, found, offer, returned, hoffer⟩ := Report.exists_sampleOffer
  have hassigned := Search.isSome_best_of_mem_found (fun _ _ => rfl) houtcome hentry returned hoffer
  obtain ⟨best, hbest⟩ := Option.isSome_iff_exists.mp hassigned
  exact ⟨⟨Sample.accepted, distinct, hrequest⟩, (hlookup _ 0).2.2 distinct, outcome, best, houtcome,
    hbest, hnamed _ .still Sample.request outcome best houtcome hbest⟩

end DialARide
