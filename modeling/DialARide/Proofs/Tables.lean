import DialARide.Proofs.Travel

/-!
# Tables in one list

A table of travel times has a row for each location and a cell for each pair. Kept row after row in
one list, it answers every look-up as the table itself does (`TravelMatrices.answers_as_tables`):
with nothing for a location and itself, with the cell of two different locations of the table, and
with a fault for all other pairs. Points have tables of their distances and times. These can also be
written cell by cell into lists of zeros (`TravelMatrices.fill`), two nested loops over the points
that compute where each cell is; no cell is written outside the lists, and the result is the same.
-/

namespace DialARide

variable {α : Type}

/-! ## 1. What a table answers -/

/-- The look-up answers as a table of `n` rows and columns does. -/
structure AnswersAs [Scalar α] (lookup : LocationId → LocationId → Except Fault α)
    (rows : List (List α)) (n : Nat) : Prop where
  /-- From a location to itself there is nothing to drive, whether the table has it or not. -/
  self : ∀ a, lookup a a = .ok Scalar.zero
  cell : ∀ a b, a ≠ b → a < n → b < n →
    ∃ row x, rows[a]? = some row ∧ row[b]? = some x ∧ lookup a b = .ok x
  fault : ∀ a b error, lookup a b = .error error ↔
    a ≠ b ∧ ¬ (a < n ∧ b < n) ∧ error = .outsideMatrix a b n

namespace TravelMatrices

section Rows

variable {m : TravelMatrices α} {rows : List (List α)} {a b : LocationId}

/-- Inside a table no cell is missing, so that only a location outside is a fault. -/
theorem cell_flatten_eq_error (square : IsSquare rows m.count) {error : Fault} :
    m.cell rows.flatten a b = .error error ↔
      ¬ (a < m.count ∧ b < m.count) ∧ error = .outsideMatrix a b m.count := by
  by_cases inside : a < m.count ∧ b < m.count
  · obtain ⟨x, hx⟩ := square.cell_eq_some_iff.mpr inside
    rw [(cell_flatten_eq_ok square).mpr hx]
    constructor
    · intro h
      cases h
    · intro h
      exact absurd inside h.1
  · rw [cell, if_neg inside, and_iff_right inside, Except.error.injEq]
    exact eq_comm

theorem exists_cell_flatten (square : IsSquare rows m.count) (ha : a < m.count)
    (hb : b < m.count) :
    ∃ row x, rows[a]? = some row ∧ row[b]? = some x ∧ m.cell rows.flatten a b = .ok x := by
  obtain ⟨x, hx⟩ := square.cell_eq_some_iff.mpr ⟨ha, hb⟩
  obtain ⟨row, hrow, hcell⟩ := Option.bind_eq_some_iff.mp hx
  exact ⟨row, x, hrow, hcell, (cell_flatten_eq_ok square).mpr hx⟩

variable [Scalar α]

/-- A look-up that goes to the flat list for different locations answers as the table. -/
theorem answersAs_of_cells {lookup : LocationId → LocationId → Except Fault α}
    (square : IsSquare rows m.count)
    (hlookup : ∀ a b, lookup a b = if a = b then .ok Scalar.zero else m.cell rows.flatten a b) :
    AnswersAs lookup rows m.count where
  self a := (hlookup a a).trans (if_pos rfl)
  cell a b hne ha hb := by
    rw [hlookup, if_neg hne]
    exact exists_cell_flatten square ha hb
  fault a b error := by
    rw [hlookup]
    split
    next heq =>
      constructor
      · intro h
        cases h
      · intro h
        exact absurd heq h.1
    next hne => rw [cell_flatten_eq_error square, and_iff_right hne]

section Square

variable {distances times : List (List α)} {n : Nat}

theorem time_ofRows_answersAs (square : IsSquare times n) :
    AnswersAs (ofRows distances times).time times n := by
  obtain rfl := square.height
  exact answersAs_of_cells square fun _ _ => rfl

/-- The distances are looked up with the size of the table of times. -/
theorem distance_ofRows_answersAs (square : IsSquare distances n) (height : times.length = n) :
    AnswersAs (ofRows distances times).distance distances n := by
  subst height
  exact answersAs_of_cells square fun _ _ => rfl

end Square

end Rows

/-! ## 2. Tables of points -/

section PairTable

variable {points : List (Point α)} {a b : LocationId} {p q : Point α}

/-- A table with a cell for each pair of points. -/
def pairTable (measure : Point α → Point α → α) (points : List (Point α)) : List (List α) :=
  points.map fun p => points.map (measure p)

theorem isSquare_pairTable (measure : Point α → Point α → α) (points : List (Point α)) :
    IsSquare (pairTable measure points) points.length where
  height := List.length_map _
  width := List.forall_mem_map.mpr fun _ _ => List.length_map _

theorem pairTable_cell (measure : Point α → Point α → α) (ha : points[a]? = some p)
    (hb : points[b]? = some q) :
    (pairTable measure points)[a]?.bind (·[b]?) = some (measure p q) := by
  rw [pairTable, List.getElem?_map, ha]
  show (points.map (measure p))[b]? = _
  rw [List.getElem?_map, hb]
  rfl

end PairTable

section Points

variable [Scalar α] [Geometry α]

/-- The distance between each pair of points. -/
def distanceTable (points : List (Point α)) : List (List α) := pairTable Geometry.euclidean points

/-- The time of a drive between each pair of points. -/
def timeTable (points : List (Point α)) (speed : α) : List (List α) :=
  pairTable (fun p q => Geometry.euclidean p q / speed) points

theorem flatten_timeTable (points : List (Point α)) (speed : α) :
    (timeTable points speed).flatten = (distanceTable points).flatten.map (· / speed) := by
  rw [timeTable, distanceTable, pairTable, pairTable, List.map_flatten, List.map_map]
  refine congrArg List.flatten (List.map_congr_left fun p _ => ?_)
  show _ = (points.map (Geometry.euclidean p)).map (· / speed)
  rw [List.map_map]
  rfl

/-- The matrices of points are those of their tables. -/
theorem ofPoints_eq_ofRows (points : List (Point α)) (speed : α) :
    ofPoints points speed = ofRows (distanceTable points) (timeTable points speed) := by
  have height : (timeTable points speed).length = points.length := List.length_map _
  rw [ofRows, flatten_timeTable, height, ofPoints, distanceTable, pairTable, List.flatMap_def]

/-! ## 3. Filling in cell by cell -/

/-- The list with another item at a position. -/
def writeAt {β : Type} (items : List β) (index : Nat) (item : β) : Except Fault (List β) :=
  if index < items.length then .ok (items.set index item)
  else .error (.outsideList items.length index)

/-- Distances and times as far as they are filled in. -/
structure Cells (α : Type) where
  distances : List α
  times : List α

/-- Writes the distance of a pair, and the time that it takes to drive it. -/
def fillCell (speed : α) (cells : Cells α) (index : Nat) (distance : α) :
    Except Fault (Cells α) := do
  let distances ← writeAt cells.distances index distance
  let times ← writeAt cells.times index ((← lookUp distances index) / speed)
  return ⟨distances, times⟩

/-- Writes the row of a point, from `column` on. -/
def fillRow (count : Nat) (speed : α) (row : Nat) (origin : Point α) :
    (column : Nat) → List (Point α) → Cells α → Except Fault (Cells α)
  | _, [], cells => .ok cells
  | column, destination :: rest, cells => do
    let cells ← fillCell speed cells (row * count + column) (Geometry.euclidean origin destination)
    fillRow count speed row origin (column + 1) rest cells

/-- Writes the rows of the points from number `row` on. -/
def fillRows (points : List (Point α)) (speed : α) :
    (row : Nat) → List (Point α) → Cells α → Except Fault (Cells α)
  | _, [], cells => .ok cells
  | row, origin :: rest, cells => do
    let cells ← fillRow points.length speed row origin 0 points cells
    fillRows points speed (row + 1) rest cells

/-- The matrices of points, written into lists of zeros. -/
def fill (points : List (Point α)) (speed : α) : Except Fault (TravelMatrices α) := do
  let zeros : List α := .replicate (points.length * points.length) Scalar.zero
  let cells ← fillRows points speed 0 points ⟨zeros, zeros⟩
  return ⟨cells.distances, cells.times, points.length⟩

/-- The first distances are filled in, and so are their times; some zeros are left. -/
def Cells.filled (speed : α) (done : List α) (left : Nat) : Cells α where
  distances := done ++ .replicate left Scalar.zero
  times := done.map (· / speed) ++ .replicate left Scalar.zero

section Fill

variable {speed : α} {done : List α} {left : Nat}

omit [Scalar α] [Geometry α] in
/-- The first item behind a part that stays. -/
theorem writeAt_append {before rest : List α} {index : Nat} (hindex : before.length = index)
    (old new : α) :
    writeAt (before ++ old :: rest) index new = .ok (before ++ [new] ++ rest) := by
  subst hindex
  have hlt : before.length < (before ++ old :: rest).length := by
    rw [List.length_append, List.length_cons]
    omega
  rw [writeAt, if_pos hlt, List.set_append_right _ _ le_rfl, Nat.sub_self, List.set_cons_zero,
    List.append_assoc, List.singleton_append]

omit [Geometry α] in
/-- One cell more is filled in. -/
theorem fillCell_filled {index : Nat} (hindex : done.length = index) (distance : α) :
    fillCell speed (Cells.filled speed done (left + 1)) index distance
      = .ok (Cells.filled speed (done ++ [distance]) left) := by
  have hdistances : writeAt (Cells.filled speed done (left + 1)).distances index distance
      = .ok (done ++ [distance] ++ .replicate left Scalar.zero) :=
    writeAt_append hindex Scalar.zero distance
  have hread : lookUp (done ++ [distance] ++ .replicate left Scalar.zero) index = .ok distance := by
    rw [lookUp_eq_ok, ← hindex, List.append_assoc, List.getElem?_append_right le_rfl, Nat.sub_self]
    rfl
  have hlength : (done.map (· / speed)).length = index := by rw [List.length_map, hindex]
  have htimes : writeAt (Cells.filled speed done (left + 1)).times index (distance / speed)
      = .ok (done.map (· / speed) ++ [distance / speed] ++ .replicate left Scalar.zero) :=
    writeAt_append hlength Scalar.zero (distance / speed)
  refine bind_eq_ok.mpr ⟨_, hdistances, bind_eq_ok.mpr ⟨_, hread, bind_eq_ok.mpr ⟨_, htimes, ?_⟩⟩⟩
  rw [Cells.filled, List.map_append, List.map_singleton]
  rfl

/-- The rest of a row is filled in, one cell after the other. -/
theorem fillRow_filled {count row column : Nat} {origin : Point α} {rest : List (Point α)}
    (hindex : done.length = row * count + column) :
    fillRow count speed row origin column rest (Cells.filled speed done (rest.length + left))
      = .ok (Cells.filled speed (done ++ rest.map (Geometry.euclidean origin)) left) := by
  induction rest generalizing column done with
  | nil => rw [fillRow, List.length_nil, Nat.zero_add, List.map_nil, List.append_nil]
  | cons destination rest ih =>
    have hcount : (destination :: rest).length + left = rest.length + left + 1 := by
      rw [List.length_cons]
      omega
    have hnext : (done ++ [Geometry.euclidean origin destination]).length
        = row * count + (column + 1) := by
      rw [List.length_append, List.length_singleton, hindex, Nat.add_assoc]
    have hcell : fillCell speed (Cells.filled speed done (rest.length + left + 1))
        (row * count + column) (Geometry.euclidean origin destination) = .ok _ :=
      fillCell_filled hindex _
    rw [fillRow, hcount, hcell]
    show fillRow count speed row origin (column + 1) rest _ = _
    rw [ih hnext, List.map_cons, List.append_assoc, List.singleton_append]

/-- The other rows are filled in, one after the other, until no zero is left. -/
theorem fillRows_filled {points rest : List (Point α)} {row : Nat}
    (hindex : done.length = row * points.length) :
    fillRows points speed row rest (Cells.filled speed done (rest.length * points.length))
      = .ok (Cells.filled speed
        (done ++ rest.flatMap fun p => points.map fun q => Geometry.euclidean p q) 0) := by
  induction rest generalizing row done with
  | nil => rw [fillRows, List.length_nil, Nat.zero_mul, List.flatMap_nil, List.append_nil]
  | cons origin rest ih =>
    have hcount : (origin :: rest).length * points.length
        = points.length + rest.length * points.length := by
      rw [List.length_cons, Nat.succ_mul, Nat.add_comm]
    have hnext : (done ++ points.map (Geometry.euclidean origin)).length
        = (row + 1) * points.length := by
      rw [List.length_append, List.length_map, hindex, Nat.succ_mul]
    have hrow : fillRow points.length speed row origin 0 points
        (Cells.filled speed done (points.length + rest.length * points.length)) = .ok _ :=
      fillRow_filled hindex
    rw [fillRows, hcount, hrow]
    show fillRows points speed (row + 1) rest _ = _
    rw [ih hnext, List.flatMap_cons, List.append_assoc]

/-- **Written cell by cell, the matrices of points are the same, and no cell is outside.** -/
theorem fill_eq_ofPoints (points : List (Point α)) (speed : α) :
    fill points speed = .ok (ofPoints points speed) := by
  have hrows : fillRows points speed 0 points
      (Cells.filled speed [] (points.length * points.length)) = .ok _ :=
    fillRows_filled (Nat.zero_mul points.length).symm
  refine bind_eq_ok.mpr ⟨_, hrows, ?_⟩
  rw [Cells.filled, List.replicate_zero, List.append_nil, List.append_nil, List.nil_append]
  rfl

end Fill

/-! ## 4. Matrices and tables -/

/-- **Matrices answer as the tables that they are made of**: those of rows as their rows, those of
which only times are known as these times, and those of points as the tables of distances and times
between the points, into whose cells they are written. -/
theorem answers_as_tables {n : Nat} {distances times : List (List α)}
    (squareDistances : IsSquare distances n) (squareTimes : IsSquare times n)
    (points : List (Point α)) (speed : α) :
    (AnswersAs (ofRows distances times).time times n ∧
      AnswersAs (ofRows distances times).distance distances n) ∧
    (AnswersAs (ofTimes times).time times n ∧ AnswersAs (ofTimes times).distance times n) ∧
    fill points speed = .ok (ofPoints points speed) ∧
    ofPoints points speed = ofRows (distanceTable points) (timeTable points speed) ∧
    (AnswersAs (ofPoints points speed).time (timeTable points speed) points.length ∧
      AnswersAs (ofPoints points speed).distance (distanceTable points) points.length) ∧
    ∀ a b p q, a ≠ b → points[a]? = some p → points[b]? = some q →
      (ofPoints points speed).distance a b = .ok (Geometry.euclidean p q) ∧
        (ofPoints points speed).time a b = .ok (Geometry.euclidean p q / speed) := by
  have squareDistanceTable : IsSquare (distanceTable points) points.length :=
    isSquare_pairTable _ points
  have squareTimeTable : IsSquare (timeTable points speed) points.length :=
    isSquare_pairTable _ points
  refine ⟨⟨time_ofRows_answersAs squareTimes,
      distance_ofRows_answersAs squareDistances squareTimes.height⟩,
    ⟨time_ofRows_answersAs squareTimes, distance_ofRows_answersAs squareTimes squareTimes.height⟩,
    fill_eq_ofPoints points speed, ofPoints_eq_ofRows points speed, ?_, ?_⟩
  · rw [ofPoints_eq_ofRows]
    exact ⟨time_ofRows_answersAs squareTimeTable,
      distance_ofRows_answersAs squareDistanceTable squareTimeTable.height⟩
  · intro a b p q hne ha hb
    have htimes : (ofPoints points speed).times = (timeTable points speed).flatten := by
      rw [ofPoints_eq_ofRows, ofRows]
    rw [distance, time, if_neg hne, if_neg hne, htimes]
    exact ⟨(cell_flatten_eq_ok squareDistanceTable).mpr (pairTable_cell _ ha hb),
      (cell_flatten_eq_ok squareTimeTable).mpr (pairTable_cell _ ha hb)⟩

end Points

end TravelMatrices

namespace Sample

/-- Travel times between three locations, other ones there than back. -/
def oneWayTimes : List (List Float) := [[5, 10, 20], [11, 5, 30], [21, 31, 5]]

/-- The distances driven in these times. -/
def oneWayDistances : List (List Float) := [[7, 100, 200], [110, 7, 300], [210, 310, 7]]

/-- Two points of the plane, fifty units apart. -/
def corners : List (Point Float) := [⟨0, 0⟩, ⟨30, 40⟩]

theorem isSquare_oneWay : IsSquare oneWayDistances 3 ∧ IsSquare oneWayTimes 3 :=
  ⟨⟨rfl, by simp [oneWayDistances]⟩, ⟨rfl, by simp [oneWayTimes]⟩⟩

end Sample

/-- Matrices that are not symmetric and do not have zeros on their diagonals, and those of two
points. -/
theorem TravelMatrices.answers_as_tables_sample :
    (IsSquare Sample.oneWayDistances 3 ∧ IsSquare Sample.oneWayTimes 3) ∧
    (AnswersAs (ofRows Sample.oneWayDistances Sample.oneWayTimes).time Sample.oneWayTimes 3 ∧
      AnswersAs (ofRows Sample.oneWayDistances Sample.oneWayTimes).distance
        Sample.oneWayDistances 3) ∧
    AnswersAs (ofTimes Sample.oneWayTimes).distance Sample.oneWayTimes 3 ∧
    fill Sample.corners 10 = .ok (ofPoints Sample.corners 10) ∧
    (ofPoints Sample.corners 10).distance 0 1 = .ok (Geometry.euclidean ⟨0, 0⟩ ⟨30, 40⟩) ∧
      (ofPoints Sample.corners 10).time 0 1 = .ok (Geometry.euclidean ⟨0, 0⟩ ⟨30, 40⟩ / 10) := by
  obtain ⟨rows, times, filled, -, -, cells⟩ := answers_as_tables Sample.isSquare_oneWay.1
    Sample.isSquare_oneWay.2 Sample.corners 10
  exact ⟨Sample.isSquare_oneWay, rows, times.2, filled, cells 0 1 _ _ Nat.zero_ne_one rfl rfl⟩

end DialARide
