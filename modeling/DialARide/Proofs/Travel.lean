import DialARide.Proofs.Schedule
import DialARide.Travel.Estimator

/-!
# Travel look-ups

A matrix of travel times is kept row after row in one list. When its rows are as long as there are
rows, the cell of a pair is the one that the rows have for it (`TravelMatrices.cell_flatten_eq_ok`),
and an estimator knows every drive between its locations (`Estimator.Complete`).
-/

namespace DialARide

variable {α : Type}

/-! ## 1. Rows in one list -/

section Rows

variable {β : Type} {rows : List (List β)} {n a b : Nat}

/-- A matrix of `n` rows and columns. -/
structure IsSquare (rows : List (List β)) (n : Nat) : Prop where
  height : rows.length = n
  width : ∀ row ∈ rows, row.length = n

theorem getElem?_flatten_of_width (width : ∀ row ∈ rows, row.length = n) (hb : b < n) :
    rows.flatten[a * n + b]? = rows[a]?.bind (·[b]?) := by
  induction rows generalizing a with
  | nil => simp
  | cons row rest ih =>
    rw [List.forall_mem_cons] at width
    obtain ⟨hrow, hrest⟩ := width
    rw [List.flatten_cons]
    cases a with
    | zero =>
      have hlt : 0 * n + b < row.length := by omega
      rw [List.getElem?_append_left hlt, Nat.zero_mul, Nat.zero_add]
      rfl
    | succ a =>
      have hshift : (a + 1) * n + b = row.length + (a * n + b) := by rw [Nat.succ_mul]; omega
      rw [hshift, List.getElem?_append_right (Nat.le_add_right _ _), Nat.add_sub_cancel_left,
        ih hrest]
      rfl

/-- A pair has a cell when both numbers are below the size. -/
theorem IsSquare.cell_eq_some_iff (square : IsSquare rows n) :
    (∃ x, rows[a]?.bind (·[b]?) = some x) ↔ a < n ∧ b < n := by
  simp only [Option.bind_eq_some_iff]
  constructor
  · intro h
    obtain ⟨x, row, hrow, hx⟩ := h
    have ha := (List.getElem?_eq_some_iff.mp hrow).1
    have hb := (List.getElem?_eq_some_iff.mp hx).1
    rw [square.width row (List.mem_of_getElem? hrow)] at hb
    exact ⟨square.height ▸ ha, hb⟩
  · intro h
    obtain ⟨ha, hb⟩ := h
    have hrow := List.getElem?_eq_getElem (square.height.symm ▸ ha : a < rows.length)
    rw [← square.width _ (List.mem_of_getElem? hrow)] at hb
    exact ⟨_, _, hrow, List.getElem?_eq_getElem hb⟩

end Rows

variable [Scalar α]

/-! ## 2. Matrices -/

section Matrices

variable {distances times : List (List α)} {a b : LocationId} {x : α}

omit [Scalar α] in
/-- **The flat list has a cell for a pair where the rows have one**, and it is the same one. -/
theorem TravelMatrices.cell_flatten_eq_ok {m : TravelMatrices α} {rows : List (List α)}
    (square : IsSquare rows m.count) :
    m.cell rows.flatten a b = .ok x ↔ rows[a]?.bind (·[b]?) = some x := by
  rw [cell]
  by_cases hinside : a < m.count ∧ b < m.count
  · rw [if_pos hinside, lookUp_eq_ok]
    exact Eq.congr_left (getElem?_flatten_of_width square.width hinside.2)
  · rw [if_neg hinside]
    constructor
    · intro h
      cases h
    · intro h
      exact absurd (square.cell_eq_some_iff.mp ⟨x, h⟩) hinside

theorem TravelMatrices.time_ofRows (square : IsSquare times times.length) (h : a ≠ b) :
    (ofRows distances times).time a b = .ok x ↔ times[a]?.bind (·[b]?) = some x := by
  rw [time, if_neg h]
  exact cell_flatten_eq_ok square

theorem TravelMatrices.exists_time_ofRows (square : IsSquare times times.length)
    (ha : a < times.length) (hb : b < times.length) :
    ∃ time, (ofRows distances times).time a b = .ok time := by
  by_cases h : a = b
  · exact ⟨_, if_pos h⟩
  · obtain ⟨x, hx⟩ := square.cell_eq_some_iff.mpr ⟨ha, hb⟩
    exact ⟨x, (time_ofRows square h).mpr hx⟩

end Matrices

variable [Geometry α]

theorem Beeline.exists_time {beeline : Beeline α} {a b : LocationId}
    (ha : a < beeline.points.length) (hb : b < beeline.points.length) :
    ∃ time, beeline.time a b = .ok time := by
  by_cases h : a = b
  · exact ⟨_, if_pos h⟩
  · have ha := lookUp_eq_ok.mpr (List.getElem?_eq_getElem ha)
    have hb := lookUp_eq_ok.mpr (List.getElem?_eq_getElem hb)
    rw [Beeline.time, if_neg h, ha, hb]
    exact ⟨_, rfl⟩

/-! ## 3. Estimators -/

/-- The estimator knows every drive between its locations. -/
def Estimator.Complete (estimator : Estimator α) : Prop :=
  ∀ a < estimator.locationCount, ∀ b < estimator.locationCount,
    ∃ time, estimator.time a b = .ok time

theorem Estimator.complete_matrix {distances times : List (List α)}
    (square : IsSquare times times.length) :
    (Estimator.matrix (.ofRows distances times)).Complete := fun _ ha _ hb =>
  TravelMatrices.exists_time_ofRows square ha hb

theorem Estimator.complete_beeline (beeline : Beeline α) : (Estimator.beeline beeline).Complete :=
  fun _ ha _ hb => Beeline.exists_time ha hb

/-! ## 4. Exact travel times -/

section Exact

variable {K : Type} [Field K] [LinearOrder K]

/-- Every drive that is known takes a finite time, and none a negative one. -/
def DriveTime.IsNonnegative (driveTime : DriveTime (Exact K)) : Prop :=
  ∀ a b time, driveTime a b = .ok time → ∃ x, time = .finite x ∧ 0 ≤ x

/-- Drives along a line take as long as their ends are apart. -/
theorem DriveTime.line_eq [IsStrictOrderedRing K] (scale : K) (a b : LocationId) :
    DriveTime.line (Exact.finite scale) a b = .ok (.finite (|(a : K) - b| * scale)) := by
  have hdifference : (Scalar.ofNat a - Scalar.ofNat b : Exact K) = .finite (a - b) :=
    Exact.sub_finite _ _
  unfold line
  dsimp only
  rw [hdifference, Exact.zero_eq_finite, Exact.lt_finite, Exact.sub_finite]
  by_cases h : (a : K) - b < 0
  · rw [decide_eq_true h, abs_of_neg h, zero_sub]
    rfl
  · rw [decide_eq_false h, abs_of_nonneg (not_lt.mp h)]
    rfl

theorem DriveTime.line_isNonnegative [IsStrictOrderedRing K] {scale : K} (h : 0 ≤ scale) :
    (DriveTime.line (.finite scale)).IsNonnegative := by
  intro a b time htime
  rw [line_eq] at htime
  cases htime
  exact ⟨_, rfl, mul_nonneg (abs_nonneg _) h⟩

end Exact

end DialARide
