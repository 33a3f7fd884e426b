import DialARide.Proofs.TimeShift

/-!
# The time reference

Times count from a reference that is arbitrary. When every absolute time of a snapshot file is put
off by the same amount, the file is accepted or refused as before, and every search of the snapshot
gives the same answers but for the times they report (`Snapshot.time_reference_arbitrary`).
-/

namespace DialARide

variable {K : Type} [Field K] [LinearOrder K]

/-! ## 1. Shifted files -/

section ShiftFile

variable (c : K)

def StartRecord.shift (record : StartRecord (Exact K)) : StartRecord (Exact K) :=
  { record with departure := record.departure.shift c }

def StopRecord.shift (record : StopRecord (Exact K)) : StopRecord (Exact K) :=
  { record with
    arrival := record.arrival.shift c
    departure := record.departure.shift c
    latestArrival := record.latestArrival.map (Exact.shift c)
    latestDeparture := record.latestDeparture.map (Exact.shift c) }

/-- Slacks that are given do not change. -/
def VehicleRecord.shift (record : VehicleRecord (Exact K)) : VehicleRecord (Exact K) :=
  { record with
    serviceEnd := record.serviceEnd.shift c
    start := record.start.shift c
    stops := record.stops.map (List.map (StopRecord.shift c)) }

def RequestRecord.shift (record : RequestRecord (Exact K)) : RequestRecord (Exact K) :=
  { record with
    earliestStart := record.earliestStart.map (Exact.shift c)
    latestStart := record.latestStart.map (Exact.shift c)
    latestArrival := record.latestArrival.map (Exact.shift c) }

/-- The file with all absolute times put off by `c`. -/
def SnapshotFile.shift (file : SnapshotFile (Exact K)) : SnapshotFile (Exact K) :=
  { file with
    vehicles := file.vehicles.map (VehicleRecord.shift c)
    requests := file.requests.map (RequestRecord.shift c) }

def Snapshot.shift (snapshot : Snapshot (Exact K)) : Snapshot (Exact K) :=
  { snapshot with
    fleet := snapshot.fleet.map (Entry.shift c)
    requests := snapshot.requests.map (Request.shift c) }

/-- Errors quote the window of a request. -/
def RequestError.shift : RequestError (Exact K) → RequestError (Exact K)
  | .zeroSize request => .zeroSize request
  | .startWindow request earliest latest =>
    .startWindow request (earliest.shift c) (latest.shift c)
  | .arrivalWindow request earliest latest =>
    .arrivalWindow request (earliest.shift c) (latest.shift c)

/-- No other error quotes an absolute time. -/
def SnapshotError.shift : SnapshotError (Exact K) → SnapshotError (Exact K)
  | .request error => .request (error.shift c)
  | error => error

end ShiftFile

/-! ## 2. Schedules -/

variable {c : K} {entry : Entry (Exact K)}

namespace Entry

theorem waypoints_shift : (entry.shift c).waypoints = entry.waypoints.map (Waypoint.shift c) := by
  rw [waypoints, waypoints, List.map_cons, List.map_map, stops_shift, List.map_map]
  rfl

theorem endOccupancy_shift : (entry.shift c).endOccupancy = entry.endOccupancy := by
  rw [endOccupancy, endOccupancy, stops_shift, List.getLast?_map]
  cases entry.stops.getLast? <;> rfl

theorem scheduleEnd_shift (start : Start (Exact K)) (stops : List (Stop (Exact K))) :
    scheduleEnd (start.shift c) (stops.map (Stop.shift c)) = (scheduleEnd start stops).shift c := by
  rw [scheduleEnd, scheduleEnd, List.getLast?_map]
  cases stops.getLast? <;> rfl

theorem slack_shift (stop : Stop (Exact K)) : (stop.shift c).task.slack = stop.task.slack := by
  show Scalar.min (Exact.shift c _ - Exact.shift c _) (Exact.shift c _ - Exact.shift c _) = _
  rw [Exact.shift_sub_shift, Exact.shift_sub_shift]
  rfl

theorem ofStops_shift (reserve : Exact K) (stops : List (Stop (Exact K))) :
    Slack.ofStops reserve (stops.map (Stop.shift c)) = Slack.ofStops reserve stops := by
  induction stops with
  | nil => rfl
  | cons stop rest ih => rw [List.map_cons, Slack.ofStops, Slack.ofStops, ih, slack_shift]

theorem before_shift (reserve : Exact K) (stops : List (Stop (Exact K))) :
    Slack.before reserve (stops.map (Stop.shift c)) = Slack.before reserve stops := by
  induction stops with
  | nil => rfl
  | cons stop rest ih =>
    rw [List.map_cons, Slack.before, Slack.before, ih, ← List.map_cons, ofStops_shift]

/-- **The slacks of a schedule are those of the shifted one.** -/
theorem slackTimes_shift (start : Start (Exact K)) (stops : List (Stop (Exact K)))
    (serviceEnd : Exact K) :
    slackTimes (start.shift c) (stops.map (Stop.shift c)) (serviceEnd.shift c)
      = slackTimes start stops serviceEnd := by
  rw [slackTimes, slackTimes, scheduleEnd_shift, Exact.shift_sub_shift, before_shift]

variable [IsStrictOrderedRing K]

/-- Whether a waypoint is out of order is a comparison of absolute times. -/
theorem outOfOrder_shift (previous : Exact K) (w : Waypoint (Exact K)) :
    outOfOrder (previous.shift c) (w.shift c) = outOfOrder previous w := by
  cases w with
  | start s => rfl
  | stop s =>
    show (Scalar.lt (Exact.shift c _) _ || Scalar.lt (Exact.shift c _) (Exact.shift c _)) = _
    rw [Exact.lt_shift, Exact.lt_shift]
    rfl

theorem checkWaypoints_shift (vehicle : Vehicle (Exact K)) (index : Nat) (previous : Exact K)
    (waypoints : List (Waypoint (Exact K))) :
    checkWaypoints (vehicle.shift c) index (previous.shift c) (waypoints.map (Waypoint.shift c))
      = checkWaypoints vehicle index previous waypoints := by
  induction waypoints generalizing index previous with
  | nil => rfl
  | cons w rest ih =>
    rw [List.map_cons, checkWaypoints, checkWaypoints, outOfOrder_shift, Waypoint.occupancy_shift,
      Waypoint.departure_shift, ih]
    rfl

/-- A schedule passes or fails the checks as before. -/
theorem check_shift : (entry.shift c).check = entry.check := by
  have hwaypoints : checkWaypoints (entry.shift c).vehicle 0 (entry.shift c).start.departure
      (entry.shift c).waypoints
      = checkWaypoints entry.vehicle 0 entry.start.departure entry.waypoints := by
    rw [waypoints_shift]
    exact checkWaypoints_shift entry.vehicle 0 entry.start.departure entry.waypoints
  unfold check
  rw [hwaypoints, endOccupancy_shift]
  rfl

theorem ofSlack_shift (vehicle : Vehicle (Exact K)) (start : Start (Exact K))
    (stops : List (Stop (Exact K))) (slack : List (Exact K)) :
    ofSlack? (vehicle.shift c) (start.shift c) (stops.map (Stop.shift c)) slack
      = Entry.shift c <$> ofSlack? vehicle start stops slack := by
  have hcheck : (Entry.shift c ⟨vehicle, start, stops, slack⟩).check
      = (⟨vehicle, start, stops, slack⟩ : Entry (Exact K)).check := check_shift
  unfold ofSlack?
  rw [List.length_map]
  by_cases complete : slack.length = stops.length + 1
  · rw [if_neg (not_not.mpr complete), if_neg (not_not.mpr complete)]
    show (do Entry.check (Entry.shift c ⟨vehicle, start, stops, slack⟩); pure _) = _
    rw [hcheck]
    show _ = _ <$> (do Entry.check _; pure _)
    cases (⟨vehicle, start, stops, slack⟩ : Entry (Exact K)).check <;> rfl
  · rw [if_pos complete, if_pos complete]
    rfl

theorem ofServiceEnd_shift (vehicle : Vehicle (Exact K)) (start : Start (Exact K))
    (stops : List (Stop (Exact K))) :
    ofServiceEnd? (vehicle.shift c) (start.shift c) (stops.map (Stop.shift c))
      = Entry.shift c <$> ofServiceEnd? vehicle start stops := by
  rw [ofServiceEnd?, ofServiceEnd?, ← ofSlack_shift]
  exact congrArg _ (slackTimes_shift start stops vehicle.serviceEnd)

end Entry

/-! ## 3. Requests -/

namespace Request

theorem withSize_shift (request : Request (Exact K)) (size : Nat) :
    (request.shift c).withSize? size
      = mapBoth (RequestError.shift c) (Request.shift c) (request.withSize? size) := by
  unfold withSize?
  split <;> rfl

variable [IsStrictOrderedRing K]

theorem withTimes_shift (request : Request (Exact K)) (times : RequestTimes (Exact K)) :
    (request.shift c).withTimes? (times.shift c)
      = mapBoth (RequestError.shift c) (Request.shift c) (request.withTimes? times) := by
  have hstart : Scalar.lt (times.shift c).latestStart (times.shift c).earliestStart
      = Scalar.lt times.latestStart times.earliestStart := Exact.lt_shift c _ _
  have harrival : Scalar.lt (times.shift c).latestArrival (times.shift c).earliestStart
      = Scalar.lt times.latestArrival times.earliestStart := Exact.lt_shift c _ _
  rw [withTimes?, withTimes?, hstart, harrival]
  split
  · rfl
  · split <;> rfl

end Request

/-! ## 4. Files -/

namespace Snapshot

variable {β γ : Type} {count : Nat} {owner : Owner}

/-- A step whose errors quote no absolute time is the same for all references. -/
def Timeless (c : K) (x : Except (SnapshotError (Exact K)) β) : Prop :=
  x = mapBoth (SnapshotError.shift c) id x

theorem Timeless.bind {x : Except (SnapshotError (Exact K)) β}
    {f : β → Except (SnapshotError (Exact K)) γ} (hx : Timeless c x)
    (hf : ∀ item, Timeless c (f item)) : Timeless c (x >>= f) := mapBoth_bind hx hf

theorem timeless_ensureSquare (matrix : MatrixKind) (rows : List (List (Exact K))) (size : Nat) :
    Timeless c (ensureSquare matrix rows size) := by
  unfold ensureSquare
  split <;> rfl

theorem timeless_ensureCells (matrix : MatrixKind) (row : Nat) (rows : List (List (Exact K))) :
    Timeless c (ensureCells matrix row rows) := by
  induction rows generalizing row with
  | nil => rfl
  | cons cells rest ih =>
    unfold ensureCells
    split
    · rfl
    · exact ih (row + 1)

theorem timeless_ensureBeeline (field : BeelineField) (value : Exact K) :
    Timeless c (ensureBeeline field value) := by
  unfold ensureBeeline
  split <;> rfl

theorem timeless_ensureLocation (location : Nat) :
    Timeless c (ensureLocation count owner location) := by
  unfold ensureLocation
  split <;> rfl

/-- No absolute time is used to build the estimator. -/
theorem timeless_buildEstimator (file : SnapshotFile (Exact K)) :
    Timeless c (buildEstimator file) := by
  unfold buildEstimator
  split
  · refine .bind (timeless_ensureSquare ..) fun _ => .bind (timeless_ensureCells ..) fun _ => ?_
    split
    · exact .bind (timeless_ensureSquare ..) fun _ => .bind (timeless_ensureCells ..) fun _ => rfl
    · rfl
  · split
    · rfl
    · exact .bind (timeless_ensureBeeline ..) fun _ =>
        .bind (timeless_ensureBeeline ..) fun _ => rfl

/-- A time that is not given stands for an infinity, which stays where it is. -/
theorem getD_map_shift {standard : Exact K} (hstandard : standard.shift c = standard)
    (given : Option (Exact K)) :
    (given.map (Exact.shift c)).getD standard = (given.getD standard).shift c := by
  cases given with
  | none => exact hstandard.symm
  | some time => rfl

theorem buildStop_shift (record : StopRecord (Exact K)) :
    buildStop count owner (record.shift c)
      = mapBoth (SnapshotError.shift c) (Stop.shift c) (buildStop count owner record) := by
  refine mapBoth_bind (timeless_ensureLocation record.location) fun location => ?_
  have harrival : (record.shift c).latestArrival.getD Scalar.posInf
      = (record.latestArrival.getD Scalar.posInf).shift c := getD_map_shift rfl _
  have hdeparture : (record.shift c).latestDeparture.getD Scalar.posInf
      = (record.latestDeparture.getD Scalar.posInf).shift c := getD_map_shift rfl _
  rw [harrival, hdeparture]
  rfl

theorem buildStops_shift (records : Option (List (StopRecord (Exact K)))) :
    ((records.map (List.map (StopRecord.shift c))).getD []).mapM (buildStop count owner)
      = mapBoth (SnapshotError.shift c) (List.map (Stop.shift c))
        ((records.getD []).mapM (buildStop count owner)) := by
  cases records with
  | none => rfl
  | some records =>
    refine mapBoth_mapM (List.forall₂_map_right_iff.mpr (List.forall₂_same.mpr fun record _ => ?_))
    exact buildStop_shift record

variable [IsStrictOrderedRing K]

/-- Slacks that are given do not change, and neither do slacks that follow from the end of service,
which is put off with the schedule. -/
theorem buildEntry_shift (index : Nat) (record : VehicleRecord (Exact K)) :
    buildEntry count index (record.shift c)
      = mapBoth (SnapshotError.shift c) (Entry.shift c) (buildEntry count index record) := by
  have herror : ∀ entry : Except EntryError (Entry (Exact K)),
      (Entry.shift c <$> entry).mapError SnapshotError.entry
        = mapBoth (SnapshotError.shift c) (Entry.shift c) (entry.mapError SnapshotError.entry) := by
    intro entry
    cases entry <;> rfl
  refine mapBoth_bind (timeless_ensureLocation record.start.location) fun location =>
    mapBoth_bind (buildStops_shift record.stops) fun stops => ?_
  obtain ⟨id, capacity, serviceEnd, start, records, slack⟩ := record
  cases slack with
  | none =>
    exact (congrArg _ (Entry.ofServiceEnd_shift ⟨index, id, capacity, serviceEnd⟩
      ⟨location, start.departure, start.occupancy.getD 0⟩ stops)).trans (herror _)
  | some slack =>
    exact (congrArg _ (Entry.ofSlack_shift ⟨index, id, capacity, serviceEnd⟩
      ⟨location, start.departure, start.occupancy.getD 0⟩ stops slack)).trans (herror _)

theorem buildFleet_shift (index : Nat) (seen : List String)
    (records : List (VehicleRecord (Exact K))) :
    buildFleet count index seen (records.map (VehicleRecord.shift c))
      = mapBoth (SnapshotError.shift c) (List.map (Entry.shift c))
        (buildFleet count index seen records) := by
  induction records generalizing index seen with
  | nil => rfl
  | cons record rest ih =>
    rw [List.map_cons, buildFleet, buildFleet]
    exact mapBoth_consUnless (record.id ∈ seen) (.duplicateVehicle record.id)
      (buildEntry_shift index record) (ih (index + 1) (record.id :: seen))

/-- A window that is left open stays open. -/
theorem buildRequest_shift (record : RequestRecord (Exact K)) :
    buildRequest count (record.shift c)
      = mapBoth (SnapshotError.shift c) (Request.shift c) (buildRequest count record) := by
  have herror : ∀ request : Except (RequestError (Exact K)) (Request (Exact K)),
      (mapBoth (RequestError.shift c) (Request.shift c) request).mapError SnapshotError.request
        = mapBoth (SnapshotError.shift c) (Request.shift c)
          (request.mapError SnapshotError.request) := by
    intro request
    cases request <;> rfl
  have hearliest : (record.shift c).earliestStart.getD Scalar.negInf
      = (record.earliestStart.getD Scalar.negInf).shift c := getD_map_shift rfl _
  have hstart : (record.shift c).latestStart.getD Scalar.posInf
      = (record.latestStart.getD Scalar.posInf).shift c := getD_map_shift rfl _
  have harrival : (record.shift c).latestArrival.getD Scalar.posInf
      = (record.latestArrival.getD Scalar.posInf).shift c := getD_map_shift rfl _
  refine mapBoth_bind (timeless_ensureLocation record.origin) fun origin =>
    mapBoth_bind (timeless_ensureLocation record.destination) fun destination => ?_
  have hsized := congrArg (Except.mapError SnapshotError.request)
    (Request.withSize_shift (c := c) (.single record.id origin destination) (record.size.getD 1))
  refine mapBoth_bind (hsized.trans (herror _)) fun sized => ?_
  have htimed := congrArg (Except.mapError SnapshotError.request)
    (Request.withTimes_shift (c := c) sized ⟨record.earliestStart.getD Scalar.negInf,
      record.latestStart.getD Scalar.posInf, record.latestArrival.getD Scalar.posInf⟩)
  refine Eq.trans ?_ (htimed.trans (herror _))
  show Except.mapError _ (Request.withTimes? _ ⟨_, _, _⟩) = _
  rw [RequestTimes.shift, ← hearliest, ← hstart, ← harrival]
  rfl

theorem buildRequests_shift (seen : List String) (records : List (RequestRecord (Exact K))) :
    buildRequests count seen (records.map (RequestRecord.shift c))
      = mapBoth (SnapshotError.shift c) (List.map (Request.shift c))
        (buildRequests count seen records) := by
  induction records generalizing seen with
  | nil => rfl
  | cons record rest ih =>
    rw [List.map_cons, buildRequests, buildRequests]
    exact mapBoth_consUnless (record.id ∈ seen) (.duplicateRequest record.id)
      (buildRequest_shift record) (ih (record.id :: seen))

/-- **A shifted file is accepted when the file is, and describes the shifted snapshot; otherwise it
is refused for the same reason.** -/
theorem ofFile_shift (file : SnapshotFile (Exact K)) :
    Snapshot.ofFile (file.shift c)
      = mapBoth (SnapshotError.shift c) (Snapshot.shift c) (Snapshot.ofFile file) := by
  refine mapBoth_bind (timeless_buildEstimator file) fun estimator => ?_
  refine mapBoth_bind (buildFleet_shift 0 [] file.vehicles) fun fleet => ?_
  exact mapBoth_bind (buildRequests_shift [] file.requests) fun requests => rfl

end Snapshot

/-- **The time reference is arbitrary.** When all absolute times of a file are put off by `c`, the
file is accepted or refused as before, and an error that quotes a window quotes the later one. Each
request is then offered the same insertions at the same cost and in the same order, at times that
are later by `c`; and every request of an accepted snapshot has an answer. -/
theorem Snapshot.time_reference_arbitrary [IsStrictOrderedRing K] [Geometry (Exact K)]
    (file : SnapshotFile (Exact K)) (c : K) :
    Snapshot.ofFile (file.shift c)
      = mapBoth (SnapshotError.shift c) (Snapshot.shift c) (Snapshot.ofFile file) ∧
    ∀ snapshot, Snapshot.ofFile file = .ok snapshot → ∀ settings clock,
      let search := Search.ofSettings snapshot.estimator.time settings
      let shifted := Search.ofSettings (snapshot.shift c).estimator.time settings
      (∀ request : Request (Exact K),
        shifted.rankInsertions clock (request.shift c) (snapshot.shift c).fleet
          = List.map (Scored.shift c) <$> search.rankInsertions clock request snapshot.fleet ∧
        shifted.findBest clock (request.shift c) (snapshot.shift c).fleet
          = Search.Outcome.shift c <$> search.findBest clock request snapshot.fleet) ∧
      ∀ request ∈ snapshot.requests,
        (∃ ranking, search.rankInsertions clock request snapshot.fleet = .ok ranking) ∧
        ∃ outcome, search.findBest clock request snapshot.fleet = .ok outcome := by
  refine ⟨ofFile_shift file, fun snapshot accepted settings clock => ⟨fun request => ?_,
    fun request hrequest => ?_⟩⟩
  · exact ⟨Search.rankInsertions_shift _ clock snapshot.fleet,
      Search.findBest_shift _ clock snapshot.fleet⟩
  · have ready := (consistent_of_ofFile accepted).ready_time hrequest settings
    exact ⟨ready.exists_rankInsertions clock, ready.exists_findBest clock⟩

/-- The sample file, counted from a reference that lies five seconds earlier. -/
theorem Snapshot.time_reference_sample :
    Snapshot.ofFile (Sample.file.shift 5) = .ok (Sample.snapshot.shift 5) ∧
    ∀ settings clock,
      let search := Search.ofSettings Sample.snapshot.estimator.time settings
      ∃ ranking, search.rankInsertions clock Sample.request Sample.snapshot.fleet = .ok ranking ∧
        search.rankInsertions clock (Sample.request.shift 5) (Sample.snapshot.shift 5).fleet
          = .ok (ranking.map (Scored.shift 5)) := by
  obtain ⟨hfile, hsearch⟩ := Snapshot.time_reference_arbitrary Sample.file 5
  refine ⟨hfile.trans (congrArg (mapBoth _ _) Sample.accepted), fun settings clock => ?_⟩
  obtain ⟨hshift, hanswers⟩ := hsearch Sample.snapshot Sample.accepted settings clock
  obtain ⟨ranking, hranking⟩ := (hanswers Sample.request List.mem_cons_self).1
  refine ⟨ranking, hranking, (hshift Sample.request).1.trans ?_⟩
  rw [hranking]
  rfl

end DialARide
