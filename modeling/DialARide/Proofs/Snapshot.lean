import DialARide.Proofs.FleetSearch
import DialARide.Proofs.Travel
import DialARide.Snapshot

/-!
# Accepted snapshots

What the checks of a snapshot file establish together (`Snapshot.Consistent`): the estimator knows
every drive between its locations, every schedule went through the checks of an entry, and schedules
and requests refer to these locations only.
-/

namespace DialARide

variable {α : Type}

/-! ## 1. Consistency -/

/-- The entry is what a constructor made of its parts, and its waypoints are among the first `count`
locations. -/
structure Entry.AcceptedFor [Scalar α] (entry : Entry α) (count : Nat) : Prop where
  constructed :
    Entry.ofSlack? entry.vehicle entry.start entry.stops entry.slack = .ok entry
  located : ∀ w ∈ entry.waypoints, w.location < count

/-- The request is for at least one passenger, between two of the first `count` locations. -/
structure Request.AcceptedFor (request : Request α) (count : Nat) : Prop where
  seated : 1 ≤ request.size
  origin : request.origin < count
  destination : request.destination < count

/-- All parts of the snapshot fit together. -/
structure Snapshot.Consistent [Scalar α] [Geometry α] (snapshot : Snapshot α) : Prop where
  estimator : snapshot.estimator.Complete
  fleet : ∀ entry ∈ snapshot.fleet, entry.AcceptedFor snapshot.estimator.locationCount
  requests : ∀ request ∈ snapshot.requests, request.AcceptedFor snapshot.estimator.locationCount

/-! ## 2. Checks -/

theorem mapError_eq_ok {ε ε' β : Type} {f : ε → ε'} {x : Except ε β} {result : β} :
    x.mapError f = .ok result ↔ x = .ok result := by
  cases x with
  | error e => simp [Except.mapError]
  | ok found => simp [Except.mapError]

/-- A list is built element by element, each of them unless it is refused. -/
theorem consUnless_eq_ok {ε β : Type} {refused : Prop} [Decidable refused] {error : ε}
    {first : Except ε β} {rest : Except ε (List β)} {items : List β} :
    (do
      if refused then throw error
      let item ← first
      let others ← rest
      return item :: others : Except ε (List β)) = .ok items ↔
      ¬ refused ∧ ∃ item others, first = .ok item ∧ rest = .ok others ∧ items = item :: others := by
  split
  next hrefused =>
    constructor
    · intro h
      cases h
    · intro h
      exact absurd hrefused h.1
  next hnew =>
    rw [and_iff_right hnew]
    constructor
    · intro h
      obtain ⟨item, hitem, h⟩ := bind_eq_ok.mp h
      obtain ⟨others, hothers, h⟩ := bind_eq_ok.mp h
      cases h
      exact ⟨item, others, hitem, hothers, rfl⟩
    · intro h
      obtain ⟨item, others, hitem, hothers, rfl⟩ := h
      exact bind_eq_ok.mpr ⟨item, hitem, bind_eq_ok.mpr ⟨others, hothers, rfl⟩⟩

theorem Request.withSize?_eq_ok {r sized : Request α} {size : Nat} :
    r.withSize? size = .ok sized ↔ size ≠ 0 ∧ sized = { r with size } := by
  unfold withSize?
  split
  next h => simp [h]
  next h => simp [h, eq_comm]

theorem Request.withTimes?_eq_ok [Scalar α] {r timed : Request α} {times : RequestTimes α} :
    r.withTimes? times = .ok timed ↔
      Scalar.lt times.latestStart times.earliestStart = false ∧
        Scalar.lt times.latestArrival times.earliestStart = false ∧ timed = { r with times } := by
  unfold withTimes?
  split
  next h => simp [h]
  next hstart =>
    split
    next h => simp [h]
    next harrival => simp [hstart, harrival, eq_comm]

namespace Snapshot

variable {count : Nat} {owner : Owner}

theorem ensureSquare_eq_ok {matrix : MatrixKind} {rows : List (List α)} {size : Nat} :
    ensureSquare matrix rows size = .ok () ↔ IsSquare rows size := by
  have hany : rows.any (·.length ≠ size) = false ↔ ∀ row ∈ rows, row.length = size := by simp
  unfold ensureSquare
  split
  next h =>
    constructor
    · intro h
      cases h
    · intro square
      rcases h with hheight | hwidth
      · exact absurd square.height hheight
      · rw [hany.mpr square.width] at hwidth
        cases hwidth
  next h =>
    rw [not_or, not_not, Bool.not_eq_true, hany] at h
    exact ⟨fun _ => ⟨h.1, h.2⟩, fun _ => rfl⟩

theorem ensureLocation_eq_ok {location found : Nat} :
    (ensureLocation count owner location : Except (SnapshotError α) LocationId) = .ok found ↔
      location < count ∧ found = location := by
  unfold ensureLocation
  split
  next h => simp [h, eq_comm]
  next h => simp [h]

/-! ## 3. The estimator -/

section Estimator

variable [Scalar α] [Geometry α]

/-- Matrices are checked to be square, points need no check. -/
theorem complete_of_buildEstimator {file : SnapshotFile α} {estimator : Estimator α}
    (h : buildEstimator file = .ok estimator) : estimator.Complete := by
  unfold buildEstimator at h
  split at h
  next times _ =>
    obtain ⟨_, hsquare, h⟩ := bind_eq_ok.mp h
    obtain ⟨_, -, h⟩ := bind_eq_ok.mp h
    have square : IsSquare times times.length := ensureSquare_eq_ok.mp hsquare
    split at h
    · obtain ⟨_, -, h⟩ := bind_eq_ok.mp h
      obtain ⟨_, -, h⟩ := bind_eq_ok.mp h
      cases h
      exact Estimator.complete_matrix square
    · cases h
      exact Estimator.complete_matrix square
  next =>
    split at h
    · cases h
    · obtain ⟨_, -, h⟩ := bind_eq_ok.mp h
      obtain ⟨_, -, h⟩ := bind_eq_ok.mp h
      cases h
      exact Estimator.complete_beeline _

end Estimator

/-! ## 4. Vehicles -/

section Parts

variable [Scalar α]

theorem located_of_buildStop {record : StopRecord α} {stop : Stop α}
    (h : buildStop count owner record = .ok stop) : stop.location < count := by
  obtain ⟨location, hlocation, h⟩ := bind_eq_ok.mp h
  obtain ⟨hlt, rfl⟩ := ensureLocation_eq_ok.mp hlocation
  cases h
  exact hlt

/-- Every stop of a schedule is built from a stop of the file. -/
theorem located_of_buildStops {records : List (StopRecord α)} {stops : List (Stop α)}
    (h : records.mapM (buildStop count owner) = .ok stops) :
    ∀ stop ∈ stops, stop.location < count := by
  intro stop hstop
  obtain ⟨record, -, hrecord⟩ := (mem_of_mapM_eq_ok h).mp hstop
  exact located_of_buildStop hrecord

/-- Slacks from the file and slacks from the end of service go through the same checks. -/
theorem acceptedFor_of_buildEntry {index : Nat} {record : VehicleRecord α} {entry : Entry α}
    (h : buildEntry count index record = .ok entry) : entry.AcceptedFor count := by
  obtain ⟨location, hlocation, h⟩ := bind_eq_ok.mp h
  obtain ⟨hstart, rfl⟩ := ensureLocation_eq_ok.mp hlocation
  obtain ⟨stops, hstops, h⟩ := bind_eq_ok.mp h
  have hlocated := located_of_buildStops hstops
  have hbuilt : ∃ vehicle start slack, start.location < count ∧
      Entry.ofSlack? vehicle start stops slack = .ok entry := by
    cases hslack : record.slackTimes with
    | none =>
      rw [hslack] at h
      exact ⟨_, _, _, hstart, mapError_eq_ok.mp h⟩
    | some slack =>
      rw [hslack] at h
      exact ⟨_, _, _, hstart, mapError_eq_ok.mp h⟩
  obtain ⟨vehicle, start, slack, hstart, built⟩ := hbuilt
  obtain ⟨-, -, rfl⟩ := Entry.ofSlack?_eq_ok.mp built
  refine ⟨built, ?_⟩
  rw [Entry.waypoints, List.forall_mem_cons, List.forall_mem_map]
  exact ⟨hstart, hlocated⟩

/-- A fleet is built vehicle by vehicle, no id twice. -/
theorem buildFleet_cons {index : Nat} {seen : List String} {record : VehicleRecord α}
    {rest : List (VehicleRecord α)} {fleet : List (Entry α)} :
    buildFleet count index seen (record :: rest) = .ok fleet ↔
      record.id ∉ seen ∧ ∃ entry entries, buildEntry count index record = .ok entry ∧
        buildFleet count (index + 1) (record.id :: seen) rest = .ok entries ∧
        fleet = entry :: entries := by
  rw [buildFleet]
  exact consUnless_eq_ok

theorem acceptedFor_of_buildFleet {index : Nat} {seen : List String}
    {records : List (VehicleRecord α)} {fleet : List (Entry α)}
    (h : buildFleet count index seen records = .ok fleet) :
    ∀ entry ∈ fleet, entry.AcceptedFor count := by
  induction records generalizing index seen fleet with
  | nil =>
    cases h
    exact fun _ hmem => absurd hmem List.not_mem_nil
  | cons record rest ih =>
    obtain ⟨-, entry, entries, hentry, hentries, rfl⟩ := buildFleet_cons.mp h
    rw [List.forall_mem_cons]
    exact ⟨acceptedFor_of_buildEntry hentry, ih hentries⟩

/-! ## 5. Requests -/

/-- Neither the size nor the window is set but by a checked operation, which keeps the places. -/
theorem acceptedFor_of_buildRequest {record : RequestRecord α} {request : Request α}
    (h : buildRequest count record = .ok request) : request.AcceptedFor count := by
  obtain ⟨origin, horigin, h⟩ := bind_eq_ok.mp h
  obtain ⟨hfrom, rfl⟩ := ensureLocation_eq_ok.mp horigin
  obtain ⟨destination, hdestination, h⟩ := bind_eq_ok.mp h
  obtain ⟨hto, rfl⟩ := ensureLocation_eq_ok.mp hdestination
  obtain ⟨sized, hsized, h⟩ := bind_eq_ok.mp h
  obtain ⟨hsize, rfl⟩ := Request.withSize?_eq_ok.mp (mapError_eq_ok.mp hsized)
  obtain ⟨-, -, rfl⟩ := Request.withTimes?_eq_ok.mp (mapError_eq_ok.mp h)
  exact ⟨Nat.one_le_iff_ne_zero.mpr hsize, hfrom, hto⟩

/-- Requests are built one by one, no id twice. -/
theorem buildRequests_cons {seen : List String} {record : RequestRecord α}
    {rest : List (RequestRecord α)} {requests : List (Request α)} :
    buildRequests count seen (record :: rest) = .ok requests ↔
      record.id ∉ seen ∧ ∃ request others, buildRequest count record = .ok request ∧
        buildRequests count (record.id :: seen) rest = .ok others ∧
        requests = request :: others := by
  rw [buildRequests]
  exact consUnless_eq_ok

theorem acceptedFor_of_buildRequests {seen : List String} {records : List (RequestRecord α)}
    {requests : List (Request α)} (h : buildRequests count seen records = .ok requests) :
    ∀ request ∈ requests, request.AcceptedFor count := by
  induction records generalizing seen requests with
  | nil =>
    cases h
    exact fun _ hmem => absurd hmem List.not_mem_nil
  | cons record rest ih =>
    obtain ⟨-, request, others, hrequest, hothers, rfl⟩ := buildRequests_cons.mp h
    rw [List.forall_mem_cons]
    exact ⟨acceptedFor_of_buildRequest hrequest, ih hothers⟩

end Parts

/-! ## 6. Snapshots -/

variable [Scalar α] [Geometry α]

/-- **The parts of an accepted snapshot fit together.** -/
theorem consistent_of_ofFile {file : SnapshotFile α} {snapshot : Snapshot α}
    (accepted : Snapshot.ofFile file = .ok snapshot) : snapshot.Consistent := by
  obtain ⟨estimator, hestimator, h⟩ := bind_eq_ok.mp accepted
  obtain ⟨fleet, hfleet, h⟩ := bind_eq_ok.mp h
  obtain ⟨requests, hrequests, h⟩ := bind_eq_ok.mp h
  cases h
  exact ⟨complete_of_buildEstimator hestimator, acceptedFor_of_buildFleet hfleet,
    acceptedFor_of_buildRequests hrequests⟩

end Snapshot

end DialARide
