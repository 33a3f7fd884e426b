import DialARide.Proofs.Construction
import DialARide.Proofs.SnapshotSearch

/-!
# Accepted snapshot files

A snapshot is built from exactly the valid files (`SnapshotFile.IsValid`): drives can be estimated,
ids are not used twice, all locations are known, every schedule is sound, and every request asks for
a seat within a window that is not over before it begins. Any other file is refused for the first
check that fails, in the order in which the file is read (`SnapshotFile.checks`). The snapshot then
has the schedules and requests that the file describes (`Snapshot.described_of_ofFile`).
-/

namespace DialARide

open Scalar (AtMost)

variable {α : Type} [Scalar α]

/-! ## 1. What a file describes -/

/-- The stop that the record describes; a latest time that is not given is never reached. -/
def StopRecord.stop (record : StopRecord α) : Stop α where
  location := record.location
  task := ⟨record.arrival, record.departure, record.latestArrival.getD Scalar.posInf,
    record.latestDeparture.getD Scalar.posInf⟩
  occupancy := record.occupancy

/-- The start that the record describes. -/
def StartRecord.start (record : StartRecord α) : Start α :=
  ⟨record.location, record.departure, record.occupancy.getD 0⟩

/-- The schedule that the record describes, with the slacks that are given or else those that follow
from the end of service. -/
def VehicleRecord.entry (index : Nat) (record : VehicleRecord α) : Entry α where
  vehicle := ⟨index, record.id, record.capacity, record.serviceEnd⟩
  start := record.start.start
  stops := (record.stops.getD []).map StopRecord.stop
  slack := record.slackTimes.getD
    (DialARide.slackTimes record.start.start ((record.stops.getD []).map StopRecord.stop)
      record.serviceEnd)

/-- The window that the record describes, open where it says nothing. -/
def RequestRecord.times (record : RequestRecord α) : RequestTimes α :=
  ⟨record.earliestStart.getD Scalar.negInf, record.latestStart.getD Scalar.posInf,
    record.latestArrival.getD Scalar.posInf⟩

/-- The request that the record describes: for one passenger where it does not say else. -/
def RequestRecord.request (record : RequestRecord α) : Request α :=
  ⟨record.id, record.origin, record.destination, record.size.getD 1, record.times⟩

namespace SnapshotFile

/-- How many locations there are: as many as there are rows of travel times, if these are given. -/
def locationCount (file : SnapshotFile α) : Nat :=
  match file.travelTimes with
  | some times => times.length
  | none => (file.locations.getD []).length

/-- The parameters of the beeline, standard where the file says nothing. -/
def beelineParams (file : SnapshotFile α) : BeelineParams α where
  speed := (file.beeline.bind (·.speed)).getD BeelineParams.standard.speed
  distanceFactor :=
    (file.beeline.bind (·.distanceFactor)).getD BeelineParams.standard.distanceFactor

end SnapshotFile

/-! ## 2. Valid files -/

/-- A travel time or distance is finite and not negative. -/
def IsTravelCell (value : α) : Prop := Scalar.isFinite value = true ∧ AtMost Scalar.zero value

/-- A parameter of the beeline is finite and positive. -/
def IsBeelineParam (value : α) : Prop :=
  Scalar.isFinite value = true ∧ Scalar.lt Scalar.zero value = true

/-- A matrix of `size` rows and columns with travel times or distances in its cells. -/
structure IsTravelMatrix (rows : List (List α)) (size : Nat) : Prop where
  square : IsSquare rows size
  cells : ∀ row ∈ rows, ∀ value ∈ row, IsTravelCell value

/-- The request is for at least one passenger, between two of the first `count` locations, and its
window is not over before it begins. -/
structure RequestRecord.IsValid (record : RequestRecord α) (count : Nat) : Prop where
  origin : record.origin < count
  destination : record.destination < count
  seated : 1 ≤ record.size.getD 1
  startWindow : AtMost record.times.earliestStart record.times.latestStart
  arrivalWindow : AtMost record.times.earliestStart record.times.latestArrival

namespace SnapshotFile

/-- The file has travel times, and perhaps distances, or else locations and the parameters of the
beeline between them. -/
def CanEstimate (file : SnapshotFile α) : Prop :=
  (∃ times, file.travelTimes = some times ∧ IsTravelMatrix times times.length ∧
    ∀ distances, file.travelDistances = some distances →
      IsTravelMatrix distances times.length) ∨
  (file.travelTimes = none ∧ file.locations ≠ none ∧ IsBeelineParam file.beelineParams.speed ∧
    IsBeelineParam file.beelineParams.distanceFactor)

/-- The file describes a snapshot. -/
structure IsValid (file : SnapshotFile α) : Prop where
  estimator : file.CanEstimate
  vehicleIds : (file.vehicles.map (·.id)).Nodup
  located : ∀ (index : Nat) (record : VehicleRecord α), file.vehicles[index]? = some record →
    ∀ w ∈ (record.entry index).waypoints, w.location < file.locationCount
  sound : ∀ (index : Nat) (record : VehicleRecord α), file.vehicles[index]? = some record →
    (record.entry index).IsSound
  requestIds : (file.requests.map (·.id)).Nodup
  requests : ∀ record ∈ file.requests, record.IsValid file.locationCount

end SnapshotFile

/-! ## 3. The checks of a file -/

/-- A location is one of the first `count`. -/
def locationCheck (count : Nat) (owner : Owner) (location : Nat) : Check (SnapshotError α) :=
  ⟨location < count, .unknownLocation owner location count⟩

/-- The check of one cell of a matrix. -/
def cellChecks (matrix : MatrixKind) (row column : Nat) (value : α) :
    List (Check (SnapshotError α)) :=
  [⟨IsTravelCell value, .invalidCell matrix row column value⟩]

/-- The checks of a matrix: its shape, then its cells row by row. -/
def matrixChecks (matrix : MatrixKind) (rows : List (List α)) (size : Nat) :
    List (Check (SnapshotError α)) :=
  ⟨IsSquare rows size, .notSquare matrix size⟩ ::
    Check.each (fun row => Check.each (cellChecks matrix row)) rows

/-- The check of a parameter of the beeline. -/
def beelineCheck (field : BeelineField) (value : α) : Check (SnapshotError α) :=
  ⟨IsBeelineParam value, .invalidBeeline field value⟩

/-- The checks of a vehicle: its locations from the start on, then its schedule. -/
def VehicleRecord.checks (count index : Nat) (record : VehicleRecord α) :
    List (Check (SnapshotError α)) :=
  locationCheck count (.vehicle record.id) record.start.location ::
    (Check.each (fun _ stop => [locationCheck count (.vehicle record.id) stop.location])
        (record.stops.getD [])
      ++ (record.entry index).checks.map (Check.mapError .entry))

/-- The checks of a request: its locations, then its size, then its window. -/
def RequestRecord.checks (count : Nat) (record : RequestRecord α) :
    List (Check (SnapshotError α)) :=
  [locationCheck count (.request record.id) record.origin,
    locationCheck count (.request record.id) record.destination,
    ⟨1 ≤ record.size.getD 1, .request (.zeroSize record.id)⟩,
    ⟨AtMost record.times.earliestStart record.times.latestStart,
      .request (.startWindow record.id record.times.earliestStart record.times.latestStart)⟩,
    ⟨AtMost record.times.earliestStart record.times.latestArrival,
      .request (.arrivalWindow record.id record.times.earliestStart record.times.latestArrival)⟩]

namespace SnapshotFile

/-- The checks of the estimator. -/
def estimatorChecks (file : SnapshotFile α) : List (Check (SnapshotError α)) :=
  match file.travelTimes with
  | some times =>
    matrixChecks .times times times.length ++
      file.travelDistances.elim [] (matrixChecks .distances · times.length)
  | none =>
    match file.locations with
    | some _ =>
      [beelineCheck .speed file.beelineParams.speed,
        beelineCheck .distanceFactor file.beelineParams.distanceFactor]
    | none => [⟨False, .noTravelTimes⟩]

/-- The checks of a whole file: the estimator, then the vehicles, then the requests. -/
def checks (file : SnapshotFile α) : List (Check (SnapshotError α)) :=
  file.estimatorChecks ++
    (Check.eachDistinct (·.id) .duplicateVehicle
        (fun index record => record.checks file.locationCount index) file.vehicles
      ++ Check.eachDistinct (·.id) .duplicateRequest
        (fun _ record => record.checks file.locationCount) file.requests)

end SnapshotFile

/-! ## 4. All checks hold for valid files -/

theorem allHold_matrixChecks {matrix : MatrixKind} {rows : List (List α)} {size : Nat} :
    Check.AllHold (matrixChecks matrix rows size) ↔ IsTravelMatrix rows size := by
  have hcell : ∀ (row column : Nat) (value : α),
      Check.AllHold (cellChecks matrix row column value) ↔ IsTravelCell value := by
    intro row column value
    rw [cellChecks, Check.allHold_cons, and_iff_left Check.allHold_nil]
  have hcells : Check.AllHold (Check.each (fun row => Check.each (cellChecks matrix row)) rows) ↔
      ∀ row ∈ rows, ∀ value ∈ row, IsTravelCell value :=
    Check.allHold_each_iff_forall_mem fun row _ _ =>
      Check.allHold_each_iff_forall_mem fun column value _ => hcell row column value
  rw [matrixChecks, Check.allHold_cons, hcells]
  exact ⟨fun h => ⟨h.1, h.2⟩, fun h => ⟨h.square, h.cells⟩⟩

theorem SnapshotFile.allHold_estimatorChecks {file : SnapshotFile α} :
    Check.AllHold file.estimatorChecks ↔ file.CanEstimate := by
  unfold estimatorChecks CanEstimate
  cases file.travelTimes with
  | some times =>
    have hdistances : Check.AllHold (file.travelDistances.elim []
          (matrixChecks .distances · times.length)) ↔
        ∀ distances, file.travelDistances = some distances →
          IsTravelMatrix distances times.length := by
      cases file.travelDistances with
      | none => simp [Check.allHold_nil]
      | some distances => simp [allHold_matrixChecks]
    simp only [Check.allHold_append, allHold_matrixChecks, hdistances]
    simp
  | none =>
    cases file.locations with
    | none => simp [Check.allHold_cons]
    | some locations => simp [Check.allHold_cons, Check.allHold_nil, beelineCheck]

theorem VehicleRecord.allHold_checks {record : VehicleRecord α} {count index : Nat} :
    Check.AllHold (record.checks count index) ↔
      (∀ w ∈ (record.entry index).waypoints, w.location < count) ∧
        (record.entry index).IsSound := by
  have hstops : Check.AllHold (Check.each
        (fun _ stop => [(locationCheck count (.vehicle record.id) stop.location
          : Check (SnapshotError α))]) (record.stops.getD [])) ↔
      ∀ stop ∈ record.stops.getD [], stop.location < count :=
    Check.allHold_each_iff_forall_mem fun _ _ _ => by
      rw [Check.allHold_cons, and_iff_left Check.allHold_nil, locationCheck]
  have hwaypoints : (∀ w ∈ (record.entry index).waypoints, w.location < count) ↔
      record.start.location < count ∧ ∀ stop ∈ record.stops.getD [], stop.location < count := by
    rw [Entry.waypoints, List.forall_mem_cons, List.forall_mem_map, entry, List.forall_mem_map]
    rfl
  rw [checks, Check.allHold_cons, Check.allHold_append, hstops, Check.allHold_map_mapError,
    Entry.allHold_checks, hwaypoints, locationCheck, and_assoc]

theorem RequestRecord.allHold_checks {record : RequestRecord α} {count : Nat} :
    Check.AllHold (record.checks count) ↔ record.IsValid count := by
  simp only [checks, locationCheck, Check.allHold_cons, and_iff_left Check.allHold_nil]
  exact ⟨fun h => ⟨h.1, h.2.1, h.2.2.1, h.2.2.2.1, h.2.2.2.2⟩,
    fun h => ⟨h.origin, h.destination, h.seated, h.startWindow, h.arrivalWindow⟩⟩

/-- **All checks hold for the valid files.** -/
theorem SnapshotFile.allHold_checks {file : SnapshotFile α} :
    Check.AllHold file.checks ↔ file.IsValid := by
  have hrequests : (∀ (index : Nat) (record : RequestRecord α),
        file.requests[index]? = some record → Check.AllHold (record.checks file.locationCount)) ↔
      ∀ record ∈ file.requests, record.IsValid file.locationCount := by
    simp only [RequestRecord.allHold_checks, List.mem_iff_getElem?]
    exact ⟨fun h record ⟨index, hrecord⟩ => h index record hrecord,
      fun h index record hrecord => h record ⟨index, hrecord⟩⟩
  rw [checks, Check.allHold_append, Check.allHold_append, Check.allHold_eachDistinct,
    Check.allHold_eachDistinct, allHold_estimatorChecks, hrequests]
  simp only [VehicleRecord.allHold_checks]
  constructor
  · rintro ⟨estimator, ⟨vehicleIds, vehicles⟩, requestIds, requests⟩
    exact ⟨estimator, vehicleIds, fun index record h => (vehicles index record h).1,
      fun index record h => (vehicles index record h).2, requestIds, requests⟩
  · intro valid
    exact ⟨valid.estimator,
      ⟨valid.vehicleIds, fun index record h => ⟨valid.located index record h,
        valid.sound index record h⟩⟩, valid.requestIds, valid.requests⟩

/-! ## 5. The estimator -/

namespace Snapshot

omit [Scalar α] in
theorem settle_ensureSquare {matrix : MatrixKind} {rows : List (List α)} {size : Nat} :
    Check.Settle [⟨IsSquare rows size, .notSquare matrix size⟩]
      (ensureSquare matrix rows size) := by
  refine Check.Settle.ensure (fun square => ensureSquare_eq_ok.mpr square) fun misshapen => ?_
  unfold ensureSquare
  refine if_pos (by_contra fun shaped => misshapen ?_)
  have passes : ensureSquare matrix rows size = .ok () := if_neg shaped
  exact ensureSquare_eq_ok.mp passes

theorem validCell_eq_true_iff [Scalar.Ordered α] {value : α} :
    validCell value = true ↔ IsTravelCell value := by
  rw [validCell, Bool.and_eq_true, Bool.not_eq_true', IsTravelCell]
  refine and_congr_right fun finite => ?_
  have number : Scalar.isNumber value = true := by
    rw [Scalar.isFinite, Bool.and_eq_true, Bool.and_eq_true] at finite
    exact finite.1.1
  exact (Scalar.atMost_iff Scalar.Ordered.isNumber_zero number).symm

/-- The cells of a row are checked from `column` on. -/
theorem settle_invalidInRow [Scalar.Ordered α] (matrix : MatrixKind) (row column : Nat)
    (cells : List α) :
    Check.Settle (Check.each (fun k => cellChecks matrix row (k + column)) cells)
      (match invalidInRow? column cells with
        | some (column, value) => .error (.invalidCell matrix row column value)
        | none => .ok () : Except (SnapshotError α) Unit) := by
  induction cells generalizing column with
  | nil => exact .ok
  | cons value rest ih =>
    rw [Check.each_cons_from (f := cellChecks matrix row), invalidInRow?]
    by_cases valid : validCell value = true
    · rw [if_pos valid]
      exact .passed (validCell_eq_true_iff.mp valid) (ih (column + 1))
    · rw [if_neg valid]
      exact .failed (mt validCell_eq_true_iff.mpr valid)

theorem settle_ensureCells [Scalar.Ordered α] {matrix : MatrixKind} {row : Nat}
    {rows : List (List α)} :
    Check.Settle (Check.each (fun k => Check.each (cellChecks matrix (k + row))) rows)
      (ensureCells matrix row rows) := by
  induction rows generalizing row with
  | nil => exact .ok
  | cons cells rest ih =>
    have first := settle_invalidInRow matrix row 0 cells
    rw [Check.each_cons_from (f := fun row => Check.each (cellChecks matrix row)), ensureCells]
    cases hfound : invalidInRow? 0 cells with
    | some found =>
      rw [hfound] at first
      exact first.bind (f := fun _ => ensureCells matrix (row + 1) rest) fun _ _ => ih
    | none =>
      rw [hfound] at first
      exact first.bind (f := fun _ => ensureCells matrix (row + 1) rest) fun _ _ => ih

theorem settle_ensureBeeline {field : BeelineField} {value : α} :
    Check.Settle [beelineCheck field value] (ensureBeeline field value) := by
  have hvalid : validBeeline value = true ↔ IsBeelineParam value := Bool.and_eq_true_iff
  exact .ensure (fun h => if_pos (hvalid.mpr h)) fun h => if_neg (mt hvalid.mp h)

/-- A matrix is checked before whatever comes next. -/
theorem settle_matrix_bind [Scalar.Ordered α] {matrix : MatrixKind} {rows : List (List α)}
    {size : Nat} {β : Type} {others : List (Check (SnapshotError α))}
    {next : Except (SnapshotError α) β} (h : Check.Settle others next) :
    Check.Settle (matrixChecks matrix rows size ++ others) (do
      ensureSquare matrix rows size
      ensureCells matrix 0 rows
      next) := by
  show Check.Settle ([_] ++ (Check.each _ rows ++ others)) _
  exact settle_ensureSquare.bind fun _ _ => settle_ensureCells.bind fun _ _ => h

theorem settle_buildEstimator [Scalar.Ordered α] {file : SnapshotFile α} :
    Check.Settle file.estimatorChecks (buildEstimator file) := by
  obtain ⟨locations, travelTimes, travelDistances, beeline, vehicles, requests⟩ := file
  cases travelTimes with
  | some times =>
    refine settle_matrix_bind ?_
    cases travelDistances with
    | none => exact .ok
    | some distances =>
      show Check.Settle (matrixChecks .distances distances times.length) _
      rw [← List.append_nil (matrixChecks .distances distances times.length)]
      exact settle_matrix_bind .ok
  | none =>
    cases locations with
    | none => exact .failed id
    | some locations =>
      exact (settle_ensureBeeline.bind fun _ _ => settle_ensureBeeline.map (f := fun _ => _))

/-- The estimator knows as many locations as the file has. -/
theorem locationCount_of_buildEstimator {file : SnapshotFile α} {estimator : Estimator α}
    (h : buildEstimator file = .ok estimator) : estimator.locationCount = file.locationCount := by
  obtain ⟨locations, travelTimes, travelDistances, beeline, vehicles, requests⟩ := file
  cases travelTimes with
  | some times =>
    obtain ⟨_, -, h⟩ := bind_eq_ok.mp h
    obtain ⟨_, -, h⟩ := bind_eq_ok.mp h
    cases travelDistances with
    | some distances =>
      obtain ⟨_, -, h⟩ := bind_eq_ok.mp h
      obtain ⟨_, -, h⟩ := bind_eq_ok.mp h
      cases h
      rfl
    | none =>
      cases h
      rfl
  | none =>
    cases locations with
    | none => cases h
    | some locations =>
      obtain ⟨_, -, h⟩ := bind_eq_ok.mp h
      obtain ⟨_, -, h⟩ := bind_eq_ok.mp h
      cases h
      exact List.length_map _

/-! ## 6. Vehicles and requests -/

variable {count : Nat} {owner : Owner}

omit [Scalar α] in
theorem settle_ensureLocation {location : Nat} :
    Check.Settle [(locationCheck count owner location : Check (SnapshotError α))]
      (ensureLocation count owner location) :=
  .ensure (fun h => if_pos h) fun h => if_neg h

theorem settle_buildStop {record : StopRecord α} :
    Check.Settle [locationCheck count owner record.location] (buildStop count owner record) :=
  settle_ensureLocation.map (f := fun _ => _)

theorem eq_stop_of_buildStop {record : StopRecord α} {stop : Stop α}
    (h : buildStop count owner record = .ok stop) : record.stop = stop := by
  obtain ⟨location, hlocation, h⟩ := bind_eq_ok.mp h
  obtain ⟨-, rfl⟩ := ensureLocation_eq_ok.mp hlocation
  cases h
  rfl

theorem eq_map_stop_of_buildStops {records : List (StopRecord α)} {stops : List (Stop α)}
    (h : records.mapM (buildStop count owner) = .ok stops) :
    records.map StopRecord.stop = stops := by
  have hstops := (mapM_eq_ok_iff.mp h).imp fun _ _ => eq_stop_of_buildStop
  rw [← List.forall₂_eq_eq_eq, List.forall₂_map_left_iff]
  exact hstops

end Snapshot

/-- No planned time of the vehicle is undefined. -/
structure VehicleRecord.IsNumeric (record : VehicleRecord α) : Prop where
  start : Scalar.isNumber record.start.departure = true
  stops : ∀ stop ∈ record.stops.getD [],
    Scalar.isNumber stop.arrival = true ∧ Scalar.isNumber stop.departure = true

/-- No time of the request is undefined. -/
structure RequestRecord.IsNumeric (record : RequestRecord α) : Prop where
  earliestStart : ∀ time, record.earliestStart = some time → Scalar.isNumber time = true
  latestStart : ∀ time, record.latestStart = some time → Scalar.isNumber time = true
  latestArrival : ∀ time, record.latestArrival = some time → Scalar.isNumber time = true

theorem VehicleRecord.IsNumeric.entry {record : VehicleRecord α} (numeric : record.IsNumeric)
    (index : Nat) : (record.entry index).IsNumeric where
  start := numeric.start
  stops := List.forall_mem_map.mpr numeric.stops

/-- A window that is left open where nothing is given is not undefined either. -/
theorem RequestRecord.IsNumeric.times [Scalar.Ordered α] {record : RequestRecord α}
    (numeric : record.IsNumeric) :
    Scalar.isNumber record.times.earliestStart = true ∧
      Scalar.isNumber record.times.latestStart = true ∧
      Scalar.isNumber record.times.latestArrival = true := by
  have hgetD : ∀ {given : Option α} {default : α},
      (∀ time, given = some time → Scalar.isNumber time = true) →
      Scalar.isNumber default = true → Scalar.isNumber (given.getD default) = true := by
    intro given default hgiven hdefault
    cases given with
    | none => exact hdefault
    | some time => exact hgiven time rfl
  exact ⟨hgetD numeric.earliestStart Scalar.Ordered.isNumber_negInf,
    hgetD numeric.latestStart Scalar.Ordered.isNumber_posInf,
    hgetD numeric.latestArrival Scalar.Ordered.isNumber_posInf⟩

namespace Snapshot

variable {count : Nat}

theorem settle_buildEntry {index : Nat} {record : VehicleRecord α} (numeric : record.IsNumeric) :
    Check.Settle (record.checks count index) (buildEntry count index record) := by
  refine settle_ensureLocation.bind fun location hlocation => ?_
  obtain ⟨-, rfl⟩ := ensureLocation_eq_ok.mp hlocation
  refine (Check.Settle.mapM fun _ _ => settle_buildStop).bind fun stops hstops => ?_
  have hentry := (Entry.settle_ofSlack (numeric.entry index)).mapError
    (@SnapshotError.entry α)
  rw [← eq_map_stop_of_buildStops hstops]
  -- slacks that are given and slacks that are derived go to the same constructor
  obtain ⟨id, capacity, serviceEnd, start, stops, slack⟩ := record
  cases slack with
  | none => exact hentry
  | some slack => exact hentry

omit [Scalar α] in
theorem settle_withSize {request : Request α} {size : Nat} :
    Check.Settle [⟨1 ≤ size, .zeroSize request.name⟩] (request.withSize? size) :=
  .ensure (fun h => if_neg (Nat.one_le_iff_ne_zero.mp h))
    fun h => if_pos (Nat.lt_one_iff.mp (Nat.not_le.mp h))

theorem settle_withTimes {request : Request α} {times : RequestTimes α}
    (hearliest : Scalar.isNumber times.earliestStart = true)
    (hstart : Scalar.isNumber times.latestStart = true)
    (harrival : Scalar.isNumber times.latestArrival = true) :
    Check.Settle [⟨AtMost times.earliestStart times.latestStart,
        .startWindow request.name times.earliestStart times.latestStart⟩,
      ⟨AtMost times.earliestStart times.latestArrival,
        .arrivalWindow request.name times.earliestStart times.latestArrival⟩]
      (request.withTimes? times) := by
  rw [Scalar.atMost_iff hearliest hstart, Scalar.atMost_iff hearliest harrival, Request.withTimes?]
  by_cases early : Scalar.lt times.latestStart times.earliestStart = true
  · rw [if_pos early]
    exact .failed (Bool.not_eq_false _ ▸ early)
  · rw [if_neg early]
    refine .passed (Bool.eq_false_of_not_eq_true early) ?_
    exact .ensure (fun h => if_neg (Bool.eq_false_iff.mp h))
      fun h => if_pos (Bool.eq_true_of_not_eq_false h)

theorem settle_buildRequest [Scalar.Ordered α] {record : RequestRecord α}
    (numeric : record.IsNumeric) :
    Check.Settle (record.checks count) (buildRequest count record) := by
  refine settle_ensureLocation.bind fun origin horigin => ?_
  obtain ⟨-, rfl⟩ := ensureLocation_eq_ok.mp horigin
  refine settle_ensureLocation.bind fun destination hdestination => ?_
  obtain ⟨-, rfl⟩ := ensureLocation_eq_ok.mp hdestination
  refine (settle_withSize.mapError SnapshotError.request).bind fun sized hsized => ?_
  obtain ⟨-, rfl⟩ := Request.withSize?_eq_ok.mp (mapError_eq_ok.mp hsized)
  obtain ⟨hearliest, hstart, harrival⟩ := numeric.times
  exact (settle_withTimes hearliest hstart harrival).mapError SnapshotError.request

end Snapshot

/-! ## 7. What is built -/

namespace Snapshot

variable {count : Nat}

theorem eq_entry_of_buildEntry {index : Nat} {record : VehicleRecord α} {entry : Entry α}
    (h : buildEntry count index record = .ok entry) : entry = record.entry index := by
  obtain ⟨location, hlocation, h⟩ := bind_eq_ok.mp h
  obtain ⟨-, rfl⟩ := ensureLocation_eq_ok.mp hlocation
  obtain ⟨stops, hstops, h⟩ := bind_eq_ok.mp h
  rw [← eq_map_stop_of_buildStops hstops] at h
  obtain ⟨id, capacity, serviceEnd, start, stops, slack⟩ := record
  cases slack with
  | none => exact (Entry.ofSlack?_eq_ok.mp (mapError_eq_ok.mp h)).2.2
  | some slack => exact (Entry.ofSlack?_eq_ok.mp (mapError_eq_ok.mp h)).2.2

theorem eq_mapIdx_of_buildFleet {index : Nat} {seen : List String}
    {records : List (VehicleRecord α)} {fleet : List (Entry α)}
    (h : buildFleet count index seen records = .ok fleet) :
    fleet = records.mapIdx fun k record => record.entry (index + k) := by
  induction records generalizing index seen fleet with
  | nil =>
    cases h
    rfl
  | cons record rest ih =>
    obtain ⟨-, entry, entries, hentry, hentries, rfl⟩ := buildFleet_cons.mp h
    rw [List.mapIdx_cons, eq_entry_of_buildEntry hentry, ih hentries]
    simp only [Nat.add_zero, Nat.add_assoc, Nat.add_comm 1]

theorem eq_request_of_buildRequest {record : RequestRecord α} {request : Request α}
    (h : buildRequest count record = .ok request) : request = record.request := by
  obtain ⟨origin, horigin, h⟩ := bind_eq_ok.mp h
  obtain ⟨-, rfl⟩ := ensureLocation_eq_ok.mp horigin
  obtain ⟨destination, hdestination, h⟩ := bind_eq_ok.mp h
  obtain ⟨-, rfl⟩ := ensureLocation_eq_ok.mp hdestination
  obtain ⟨sized, hsized, h⟩ := bind_eq_ok.mp h
  obtain ⟨-, rfl⟩ := Request.withSize?_eq_ok.mp (mapError_eq_ok.mp hsized)
  exact (Request.withTimes?_eq_ok.mp (mapError_eq_ok.mp h)).2.2

theorem eq_map_of_buildRequests {seen : List String} {records : List (RequestRecord α)}
    {requests : List (Request α)} (h : buildRequests count seen records = .ok requests) :
    requests = records.map RequestRecord.request := by
  induction records generalizing seen requests with
  | nil =>
    cases h
    rfl
  | cons record rest ih =>
    obtain ⟨-, request, others, hrequest, hothers, rfl⟩ := buildRequests_cons.mp h
    rw [List.map_cons, eq_request_of_buildRequest hrequest, ih hothers]

/-- **An accepted snapshot has what the file describes**, vehicle by vehicle and request by
request. -/
theorem described_of_ofFile {file : SnapshotFile α} {snapshot : Snapshot α}
    (accepted : Snapshot.ofFile file = .ok snapshot) :
    snapshot.estimator.locationCount = file.locationCount ∧
      snapshot.fleet = file.vehicles.mapIdx VehicleRecord.entry ∧
      snapshot.requests = file.requests.map RequestRecord.request := by
  obtain ⟨estimator, hestimator, h⟩ := bind_eq_ok.mp accepted
  obtain ⟨fleet, hfleet, h⟩ := bind_eq_ok.mp h
  obtain ⟨requests, hrequests, h⟩ := bind_eq_ok.mp h
  cases h
  have hmapIdx := eq_mapIdx_of_buildFleet hfleet
  simp only [Nat.zero_add] at hmapIdx
  exact ⟨locationCount_of_buildEstimator hestimator, hmapIdx, eq_map_of_buildRequests hrequests⟩

end Snapshot

/-! ## 8. Files -/

/-- No time of the file is undefined. -/
structure SnapshotFile.IsNumeric (file : SnapshotFile α) : Prop where
  vehicles : ∀ record ∈ file.vehicles, record.IsNumeric
  requests : ∀ record ∈ file.requests, record.IsNumeric

theorem Snapshot.settle_ofFile [Scalar.Ordered α] {file : SnapshotFile α}
    (numeric : file.IsNumeric) : Check.Settle file.checks (Snapshot.ofFile file) := by
  refine settle_buildEstimator.bind fun estimator hestimator => ?_
  rw [locationCount_of_buildEstimator hestimator]
  refine Check.Settle.bind ?_ fun fleet _ => Check.Settle.map (f := fun _ => _) ?_
  · refine Check.Settle.distinct (buildFleet file.locationCount)
      (fun _ _ => rfl) (fun _ _ _ _ => rfl) fun index record h => ?_
    exact settle_buildEntry (numeric.vehicles record (List.mem_of_getElem? h))
  · refine Check.Settle.distinct (fun _ => buildRequests file.locationCount)
      (fun _ _ => rfl) (fun _ _ _ _ => rfl) fun index record h => ?_
    exact settle_buildRequest (numeric.requests record (List.mem_of_getElem? h))

/-- **A snapshot is built from exactly the valid files, and any other file is refused for the first
check that fails**: those of the estimator come first, then those of the vehicles as they come, then
those of the requests as they come. -/
theorem Snapshot.accepted_iff_valid [Scalar.Ordered α] {file : SnapshotFile α}
    (numeric : file.IsNumeric) :
    ((∃ snapshot, Snapshot.ofFile file = .ok snapshot) ↔ file.IsValid) ∧
      ∀ error, Snapshot.ofFile file = .error error ↔ Check.FirstFailure file.checks error :=
  ⟨(settle_ofFile numeric).exists_ok_iff.trans SnapshotFile.allHold_checks,
    fun _ => (settle_ofFile numeric).eq_error_iff⟩

namespace Sample

/-- The sample file with both of its vehicles given twice. -/
def repeatedFile : SnapshotFile (Exact ℚ) :=
  { file with vehicles := file.vehicles ++ file.vehicles }

theorem file_isNumeric : file.IsNumeric ∧ repeatedFile.IsNumeric := by
  have hvehicles : ∀ record ∈ file.vehicles, record.IsNumeric := by
    show ∀ record ∈ [_, _], _
    simp only [List.forall_mem_cons]
    refine ⟨⟨rfl, ?_⟩, ⟨rfl, ?_⟩, fun _ h => absurd h List.not_mem_nil⟩
    · exact List.forall_mem_singleton.mpr ⟨rfl, rfl⟩
    · exact fun _ h => absurd h List.not_mem_nil
  have hrequests : ∀ record ∈ file.requests, record.IsNumeric := by
    refine List.forall_mem_singleton.mpr ⟨fun time h => ?_, fun _ h => ?_, fun _ h => ?_⟩
    · cases h
      rfl
    · cases h
    · cases h
  exact ⟨⟨hvehicles, hrequests⟩, List.forall_mem_append.mpr ⟨hvehicles, hvehicles⟩, hrequests⟩

/-- The sample file is valid; with its vehicles given twice it fails where the first of them comes
again. -/
theorem file_isValid : file.IsNumeric ∧ file.IsValid ∧ repeatedFile.IsNumeric ∧
    Check.FirstFailure repeatedFile.checks (.duplicateVehicle "v0") :=
  ⟨file_isNumeric.1, (Snapshot.accepted_iff_valid file_isNumeric.1).1.mp ⟨snapshot, accepted⟩,
    file_isNumeric.2, ((Snapshot.accepted_iff_valid file_isNumeric.2).2 _).mp rfl⟩

end Sample

end DialARide
