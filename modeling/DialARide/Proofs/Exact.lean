import DialARide.Scalar
import Mathlib.Algebra.Order.Field.Basic
import Mathlib.Order.Compare
import Mathlib.Tactic.Linarith

/-!
# Exact numbers

The theory of schedules reads times and costs as exact numbers: the numbers of an ordered field,
the two infinities, and one value for the results of operations that have none, such as the
difference of two equal infinities. They calculate as doubles do, but nothing is rounded, nothing
overflows and there is one zero.

The comparison `a ≤ b` of the theory is false whenever one side is undefined; on defined numbers it
is the negation of the strict comparison that the rules use (`Exact.lt_eq_false_iff`).
-/

namespace DialARide

/-- An exact number. -/
inductive Exact (K : Type) where
  | negInf
  | finite (x : K)
  | posInf
  /-- The result of an operation without a value. -/
  | undefined
  deriving DecidableEq, Repr

namespace Exact

variable {K : Type}

/-! ## 1. Operations -/

/-- Whether an operation had a value. -/
def isDefined : Exact K → Bool
  | undefined => false
  | _ => true

/-- A number of the field. -/
def IsFinite (a : Exact K) : Prop := ∃ x, a = finite x

theorem isFinite_finite (x : K) : (finite x).IsFinite := ⟨x, rfl⟩

theorem IsFinite.isDefined {a : Exact K} (ha : a.IsFinite) : a.isDefined := by
  obtain ⟨x, rfl⟩ := ha
  rfl

@[simp] theorem isDefined_finite (x : K) : (finite x).isDefined := rfl

/-- Place of the infinities and the undefined around the finite numbers. -/
def block : Exact K → Nat
  | negInf => 0
  | finite _ => 1
  | posInf => 2
  | undefined => 3

variable [Field K] [LinearOrder K]

/-- The number with the other sign. -/
def neg : Exact K → Exact K
  | negInf => posInf
  | finite x => finite (-x)
  | posInf => negInf
  | undefined => undefined

/-- The sum; opposite infinities have none. -/
def add : Exact K → Exact K → Exact K
  | finite x, finite y => finite (x + y)
  | finite _, posInf | posInf, finite _ | posInf, posInf => posInf
  | finite _, negInf | negInf, finite _ | negInf, negInf => negInf
  | _, _ => undefined

/-- The number times the positive infinity: an infinity of its sign, undefined for zero. -/
def scaleInf : Exact K → Exact K
  | negInf => negInf
  | finite x => if 0 < x then posInf else if x < 0 then negInf else undefined
  | posInf => posInf
  | undefined => undefined

/-- The product; zero times an infinity has none. -/
def mul : Exact K → Exact K → Exact K
  | finite x, finite y => finite (x * y)
  | x, posInf | posInf, x => scaleInf x
  | x, negInf | negInf, x => neg (scaleInf x)
  | _, undefined => undefined
  | undefined, _ => undefined

/-- The quotient; a positive number divided by zero is infinite. -/
def div : Exact K → Exact K → Exact K
  | finite x, finite y => if y = 0 then scaleInf (finite x) else finite (x / y)
  | finite _, posInf | finite _, negInf => finite 0
  | posInf, finite y => if y < 0 then negInf else posInf
  | negInf, finite y => if y < 0 then posInf else negInf
  | _, _ => undefined

/-- The number of the field, zero where there is none. -/
def value : Exact K → K
  | finite x => x
  | _ => 0

/-- The order by which costs are sorted: by value, the undefined last. -/
def order : Exact K → Exact K → Ordering :=
  compareLex (compareOn block) (compareOn value)

/-- Strict comparison by value; false when a side is undefined. -/
def ltB (a b : Exact K) : Bool := a.isDefined && b.isDefined && order a b == .lt

instance : Scalar (Exact K) where
  add := add
  sub a b := add a (neg b)
  mul := mul
  div := div
  compare := order
  ofNat n := finite n
  posInf := posInf
  negInf := negInf
  lt := ltB
  isNumber := isDefined

/-! ## 2. Comparison -/

instance : Std.TransOrd (Exact K) :=
  inferInstanceAs (Std.TransCmp (compareLex (compareOn block) (compareOn value)))

/-- Comparison by value; false when a side is undefined. -/
instance : LE (Exact K) where
  le a b := a.isDefined ∧ b.isDefined ∧ (compare a b).isLE

instance (a b : Exact K) : Decidable (a ≤ b) :=
  inferInstanceAs (Decidable (_ ∧ _ ∧ _))

theorem le_trans {a b c : Exact K} (hab : a ≤ b) (hbc : b ≤ c) : a ≤ c :=
  ⟨hab.1, hbc.2.1, Std.TransOrd.isLE_trans hab.2.2 hbc.2.2⟩

/-- On defined numbers `≤` is the negation of the strict comparison. -/
theorem lt_eq_false_iff {a b : Exact K} (ha : a.isDefined) (hb : b.isDefined) :
    Scalar.lt b a = false ↔ a ≤ b := by
  show (b.isDefined && a.isDefined && compare b a == .lt) = false ↔ _ ∧ _ ∧ _
  rw [ha, hb, Std.OrientedOrd.eq_swap (a := a)]
  cases compare b a <;> simp

theorem le_of_lt {a b : Exact K} (h : Scalar.lt a b = true) : a ≤ b := by
  have h' : (a.isDefined && b.isDefined && compare a b == .lt) = true := h
  rw [Bool.and_eq_true, Bool.and_eq_true, beq_iff_eq] at h'
  exact ⟨h'.1.1, h'.1.2, by rw [h'.2]; rfl⟩

theorem isDefined_min {a b : Exact K} (ha : a.isDefined) (hb : b.isDefined) :
    (Scalar.min a b).isDefined := by
  unfold Scalar.min
  split <;> assumption

/-- A number is at most the smaller of two others when it is at most either of them. -/
theorem le_min_iff {a b c : Exact K} (ha : a.isDefined) (hb : b.isDefined) :
    c ≤ Scalar.min a b ↔ c ≤ a ∧ c ≤ b := by
  have hn : Scalar.isNumber a = true := ha
  unfold Scalar.min
  rw [hn, Bool.not_true, Bool.or_false]
  split
  next h => exact ⟨fun hc => ⟨le_trans hc (le_of_lt h), hc⟩, fun hc => hc.2⟩
  next h =>
    have hab : a ≤ b := (lt_eq_false_iff ha hb).mp (eq_false_of_ne_true h)
    exact ⟨fun hc => ⟨hc, le_trans hc hab⟩, fun hc => hc.1⟩

/-- The larger of two numbers is at most another one when both are. -/
theorem max_le_iff {a b c : Exact K} (ha : a.isDefined) (hb : b.isDefined) :
    Scalar.max a b ≤ c ↔ a ≤ c ∧ b ≤ c := by
  have hn : Scalar.isNumber a = true := ha
  unfold Scalar.max
  rw [hn, Bool.not_true, Bool.or_false]
  split
  next h => exact ⟨fun hc => ⟨le_trans (le_of_lt h) hc, hc⟩, fun hc => hc.2⟩
  next h =>
    have hba : b ≤ a := (lt_eq_false_iff hb ha).mp (eq_false_of_ne_true h)
    exact ⟨fun hc => ⟨hc, le_trans hba hc⟩, fun hc => hc.1⟩

/-! ## 3. Finite numbers -/

@[simp] theorem finite_le_finite {x y : K} : (finite x : Exact K) ≤ finite y ↔ x ≤ y := by
  rw [← compare_le_iff_le]
  exact ⟨fun h => Ordering.ne_gt_iff_isLE.mpr h.2.2,
    fun h => ⟨rfl, rfl, Ordering.ne_gt_iff_isLE.mp h⟩⟩

@[simp] theorem lt_finite (x y : K) : Scalar.lt (finite x) (finite y) = decide (x < y) := by
  show (compare x y == .lt) = decide (x < y)
  rw [Bool.eq_iff_iff, decide_eq_true_iff, ← compare_lt_iff_lt, beq_iff_eq]

@[simp] theorem add_finite (x y : K) : (finite x + finite y : Exact K) = finite (x + y) := rfl

@[simp] theorem sub_finite (x y : K) : (finite x - finite y : Exact K) = finite (x - y) :=
  congrArg finite (sub_eq_add_neg x y).symm

@[simp] theorem isNumber_eq (a : Exact K) : Scalar.isNumber a = a.isDefined := rfl

@[simp] theorem zero_eq_finite : (Scalar.zero : Exact K) = finite 0 :=
  congrArg finite Nat.cast_zero

@[simp] theorem max_finite (x y : K) :
    Scalar.max (finite x) (finite y) = finite (max x y) := by
  unfold Scalar.max
  rcases lt_or_ge x y with h | h
  · simp [h, max_eq_right h.le]
  · simp [not_lt.mpr h, max_eq_left h]

@[simp] theorem max_negInf (x : K) : Scalar.max (finite x) negInf = finite x := rfl

@[simp] theorem min_finite (x y : K) :
    Scalar.min (finite x) (finite y) = finite (min x y) := by
  unfold Scalar.min
  rcases lt_or_ge y x with h | h
  · simp [h, min_eq_right h.le]
  · simp [not_lt.mpr h, min_eq_left h]

@[simp] theorem clamp_finite (x : K) : Scalar.clamp (finite x) = finite (max 0 x) := by
  rw [Scalar.clamp, zero_eq_finite, max_finite]

theorem isDefined_sub_finite {a : Exact K} (ha : a.isDefined) (x : K) :
    (a - finite x).isDefined := by
  cases a with
  | undefined => cases ha
  | _ => rfl

/-- A delay fits into what is left until a latest time when the delayed time keeps it. -/
theorem le_sub_finite_iff [IsStrictOrderedRing K] {y : K} {a delay : Exact K} :
    delay ≤ a - finite y ↔ finite y + delay ≤ a := by
  cases delay with
  | finite x =>
    cases a with
    | finite z =>
      rw [sub_finite, add_finite, finite_le_finite, finite_le_finite, le_sub_iff_add_le']
    | _ => exact Iff.rfl
  | _ => cases a <;> exact Iff.rfl

/-! ## 4. Comparing results -/

theorem le_refl {a : Exact K} (ha : a.isDefined) : a ≤ a := ⟨ha, ha, Std.ReflOrd.isLE_rfl⟩

theorem lt_of_le_of_lt {a b c : Exact K} (hab : a ≤ b) (hbc : Scalar.lt b c = true) :
    Scalar.lt a c = true := by
  have h : (b.isDefined && c.isDefined && compare b c == .lt) = true := hbc
  rw [Bool.and_eq_true, Bool.and_eq_true, beq_iff_eq] at h
  show (a.isDefined && c.isDefined && compare a c == .lt) = true
  rw [hab.1, h.1.2, Std.TransCmp.lt_of_isLE_of_lt hab.2.2 h.2]
  rfl

theorem negInf_le {a : Exact K} (ha : a.isDefined) : negInf ≤ a := by
  cases a with
  | undefined => cases ha
  | negInf => exact le_refl rfl
  | _ => exact ⟨rfl, rfl, rfl⟩

theorem le_posInf {a : Exact K} (ha : a.isDefined) : a ≤ posInf := by
  cases a with
  | undefined => cases ha
  | posInf => exact le_refl rfl
  | _ => exact ⟨rfl, rfl, rfl⟩

/-- What a comparison says: an infinity is on its side, or both numbers are finite. -/
theorem le_cases {a b : Exact K} (h : a ≤ b) :
    a = negInf ∧ b.isDefined ∨ b = posInf ∧ a.isDefined ∨
      ∃ x y, a = finite x ∧ b = finite y ∧ x ≤ y := by
  obtain ⟨ha, hb, hle⟩ := h
  cases a with
  | undefined => cases ha
  | negInf => exact .inl ⟨rfl, hb⟩
  | finite x =>
    cases b with
    | undefined => cases hb
    | negInf => cases hle
    | finite y => exact .inr (.inr ⟨x, y, rfl, rfl, finite_le_finite.mp ⟨ha, hb, hle⟩⟩)
    | posInf => exact .inr (.inl ⟨rfl, ha⟩)
  | posInf =>
    cases b with
    | undefined => cases hb
    | posInf => exact .inr (.inl ⟨rfl, ha⟩)
    | _ => cases hle

/-- Of two numbers that differ the one that is at most the other comes first. -/
theorem compare_eq_lt_of_le {a b : Exact K} (h : a ≤ b) (hne : a ≠ b) : compare a b = .lt := by
  rcases le_cases h with ⟨rfl, hb⟩ | ⟨rfl, ha⟩ | ⟨x, y, rfl, rfl, hxy⟩
  · cases b with
    | undefined => cases hb
    | negInf => exact absurd rfl hne
    | _ => rfl
  · cases a with
    | undefined => cases ha
    | posInf => exact absurd rfl hne
    | _ => rfl
  · have hlt : x < y := lt_of_le_of_ne hxy fun heq => hne (congrArg finite heq)
    exact compare_lt_iff_lt.mpr hlt

theorem le_max {a b : Exact K} (ha : a.isDefined) (hb : b.isDefined) :
    a ≤ Scalar.max a b ∧ b ≤ Scalar.max a b := by
  have hmax : (Scalar.max a b).isDefined := by
    unfold Scalar.max
    split <;> assumption
  exact (max_le_iff ha hb).mp (le_refl hmax)

theorem min_le_min {a b c d : Exact K} (hac : a ≤ c) (hbd : b ≤ d) :
    Scalar.min a b ≤ Scalar.min c d := by
  obtain ⟨ha, hb⟩ := (le_min_iff hac.1 hbd.1).mp (le_refl (isDefined_min hac.1 hbd.1))
  exact (le_min_iff hac.2.1 hbd.2.1).mpr ⟨le_trans ha hac, le_trans hb hbd⟩

theorem isDefined_zero : (Scalar.zero : Exact K).isDefined := rfl

theorem clamp_le_clamp {a b : Exact K} (h : a ≤ b) : Scalar.clamp a ≤ Scalar.clamp b := by
  obtain ⟨hzero, hb⟩ := le_max isDefined_zero h.2.1
  exact (max_le_iff isDefined_zero h.1).mpr ⟨hzero, le_trans h hb⟩

/-- What is clamped is not negative. -/
theorem clamp_cases (a : Exact K) :
    Scalar.clamp a = posInf ∨ ∃ x, Scalar.clamp a = finite x ∧ 0 ≤ x := by
  cases a with
  | finite x => exact .inr ⟨_, clamp_finite x, le_max_left 0 x⟩
  | posInf => exact .inl rfl
  | negInf => exact .inr ⟨_, zero_eq_finite, Std.le_refl 0⟩
  | undefined => exact .inr ⟨_, zero_eq_finite, Std.le_refl 0⟩

theorem isDefined_finite_sub (x : K) {a : Exact K} (ha : a.isDefined) :
    (finite x - a).isDefined := by
  cases a with
  | undefined => cases ha
  | _ => rfl

/-! ## 5. Numbers that are not negatively infinite -/

/-- A finite number or the positive infinity, as times are that may be put off for ever. -/
def IsBoundedBelow (a : Exact K) : Prop := a.IsFinite ∨ a = posInf

omit [Field K] [LinearOrder K] in
theorem IsBoundedBelow.isDefined {a : Exact K} (ha : a.IsBoundedBelow) : a.isDefined := by
  rcases ha with ⟨x, rfl⟩ | rfl <;> rfl

theorem IsBoundedBelow.of_le {a b : Exact K} (ha : a.IsBoundedBelow) (h : a ≤ b) :
    b.IsBoundedBelow := by
  rcases le_cases h with ⟨rfl, -⟩ | ⟨rfl, -⟩ | ⟨x, y, rfl, rfl, -⟩
  · rcases ha with ⟨x, hx⟩ | hx <;> cases hx
  · exact .inr rfl
  · exact .inl ⟨y, rfl⟩

theorem IsBoundedBelow.exists_of_le_finite {a : Exact K} {y : K} (ha : a.IsBoundedBelow)
    (h : a ≤ finite y) : ∃ x, a = finite x ∧ x ≤ y := by
  rcases ha with ⟨x, rfl⟩ | rfl
  · exact ⟨x, rfl, finite_le_finite.mp h⟩
  · cases h.2.2

theorem IsBoundedBelow.add {a b : Exact K} (ha : a.IsBoundedBelow) (hb : b.IsBoundedBelow) :
    (a + b).IsBoundedBelow := by
  rcases ha with ⟨x, rfl⟩ | rfl <;> rcases hb with ⟨y, rfl⟩ | rfl
  · exact .inl ⟨x + y, rfl⟩
  all_goals exact .inr rfl

theorem IsBoundedBelow.sub_finite {a : Exact K} (ha : a.IsBoundedBelow) (x : K) :
    (a - finite x).IsBoundedBelow := by
  rcases ha with ⟨y, rfl⟩ | rfl
  · exact .inl ⟨y + -x, rfl⟩
  · exact .inr rfl

theorem IsBoundedBelow.max {a b : Exact K} (ha : a.IsBoundedBelow) (hb : b.isDefined) :
    (Scalar.max a b).IsBoundedBelow := ha.of_le (le_max ha.isDefined hb).1

theorem isBoundedBelow_zero : (Scalar.zero : Exact K).IsBoundedBelow := .inl ⟨_, rfl⟩

theorem isBoundedBelow_clamp {a : Exact K} (ha : a.isDefined) :
    (Scalar.clamp a).IsBoundedBelow := isBoundedBelow_zero.max ha

theorem posInf_add {b : Exact K} (hb : b.IsBoundedBelow) : posInf + b = posInf := by
  rcases hb with ⟨y, rfl⟩ | rfl <;> rfl

theorem add_posInf {a : Exact K} (ha : a.IsBoundedBelow) : a + posInf = posInf := by
  rcases ha with ⟨y, rfl⟩ | rfl <;> rfl

theorem add_zero (a : Exact K) : a + Scalar.zero = a := by
  cases a with
  | finite x => rw [zero_eq_finite, add_finite]; simp
  | _ => rfl

section Ordered

variable [IsStrictOrderedRing K]

theorem add_le_add {a b c d : Exact K} (ha : a.IsBoundedBelow) (hb : b.IsBoundedBelow)
    (hac : a ≤ c) (hbd : b ≤ d) : a + b ≤ c + d := by
  have hab := (ha.add hb).isDefined
  rcases ha.of_le hac with ⟨z, rfl⟩ | rfl
  · rcases hb.of_le hbd with ⟨w, rfl⟩ | rfl
    · obtain ⟨x, rfl, hxz⟩ := ha.exists_of_le_finite hac
      obtain ⟨y, rfl, hyw⟩ := hb.exists_of_le_finite hbd
      rw [add_finite, add_finite, finite_le_finite]
      linarith
    · rw [add_posInf (.inl ⟨z, rfl⟩)]
      exact le_posInf hab
  · rw [posInf_add (hb.of_le hbd)]
    exact le_posInf hab

/-- A later limit leaves less to be late. -/
theorem finite_sub_le_finite_sub {x y : K} {a b : Exact K} (hxy : x ≤ y) (hba : b ≤ a) :
    finite x - a ≤ finite y - b := by
  rcases le_cases hba with ⟨rfl, ha⟩ | ⟨rfl, hb⟩ | ⟨z, w, rfl, rfl, hzw⟩
  · exact le_posInf (isDefined_finite_sub x ha)
  · exact negInf_le (isDefined_finite_sub y hb)
  · rw [sub_finite, sub_finite, finite_le_finite]
    exact sub_le_sub hxy hzw

theorem sub_finite_le_sub_finite {a b : Exact K} (h : a ≤ b) (x : K) :
    a - finite x ≤ b - finite x := by
  rcases le_cases h with ⟨rfl, hb⟩ | ⟨rfl, ha⟩ | ⟨z, w, rfl, rfl, hzw⟩
  · exact negInf_le (isDefined_sub_finite hb x)
  · exact le_posInf (isDefined_sub_finite ha x)
  · rw [sub_finite, sub_finite, finite_le_finite]
    exact sub_le_sub_right hzw x

omit [LinearOrder K] [IsStrictOrderedRing K] in
theorem neg_neg (a : Exact K) : a.neg.neg = a := by
  cases a with
  | finite x => exact congrArg finite (InvolutiveNeg.neg_neg x)
  | _ => rfl

omit [LinearOrder K] [IsStrictOrderedRing K] in
theorem isDefined_neg (a : Exact K) : a.neg.isDefined = a.isDefined := by
  cases a <;> rfl

theorem neg_le_neg {a b : Exact K} (h : a ≤ b) : b.neg ≤ a.neg := by
  rcases le_cases h with ⟨rfl, hb⟩ | ⟨rfl, ha⟩ | ⟨x, y, rfl, rfl, hxy⟩
  · cases b with
    | undefined => cases hb
    | _ => exact le_posInf rfl
  · cases a with
    | undefined => cases ha
    | _ => exact negInf_le rfl
  · exact finite_le_finite.mpr (neg_le_neg_iff.mpr hxy)

theorem neg_le_neg_iff {a b : Exact K} : a.neg ≤ b.neg ↔ b ≤ a := by
  constructor
  · intro h
    have hneg := neg_le_neg h
    rwa [neg_neg, neg_neg] at hneg
  · exact neg_le_neg

theorem le_neg_iff {a b : Exact K} : a ≤ b.neg ↔ b ≤ a.neg := by
  rw [← neg_le_neg_iff, neg_neg]

/-- Nothing is late that is not after its limit. -/
theorem clamp_sub_of_not_lt {a b : Exact K} (h : Scalar.lt b a = false) :
    Scalar.clamp (a - b) = Scalar.zero := by
  cases a with
  | finite x =>
    cases b with
    | finite y =>
      rw [lt_finite, decide_eq_false_iff_not, not_lt] at h
      rw [sub_finite, clamp_finite, zero_eq_finite, max_eq_left (sub_nonpos.mpr h)]
    | negInf => cases h
    | _ => rfl
  | posInf => cases b <;> first | rfl | cases h
  | _ => cases b <;> rfl

/-! ## 6. Penalties -/

omit [IsStrictOrderedRing K] in
theorem finite_mul_zero (u : K) : (finite u * Scalar.zero : Exact K) = Scalar.zero := by
  rw [zero_eq_finite]
  exact congrArg finite (mul_zero u)

omit [IsStrictOrderedRing K] in
theorem finite_mul_posInf {u : K} (hu : 0 < u) : (finite u * posInf : Exact K) = posInf :=
  if_pos hu

omit [IsStrictOrderedRing K] in
theorem IsBoundedBelow.finite_mul {a : Exact K} (ha : a.IsBoundedBelow) {u : K} (hu : 0 < u) :
    (finite u * a).IsBoundedBelow := by
  rcases ha with ⟨x, rfl⟩ | rfl
  · exact .inl ⟨u * x, rfl⟩
  · exact .inr (finite_mul_posInf hu)

theorem finite_mul_le_finite_mul {a b : Exact K} {u : K} (hu : 0 < u) (ha : a.IsBoundedBelow)
    (h : a ≤ b) : finite u * a ≤ finite u * b := by
  rcases ha.of_le h with ⟨y, rfl⟩ | rfl
  · obtain ⟨x, rfl, hxy⟩ := ha.exists_of_le_finite h
    show (finite (u * x) : Exact K) ≤ finite (u * y)
    exact finite_le_finite.mpr (mul_le_mul_of_nonneg_left hxy hu.le)
  · rw [finite_mul_posInf hu]
    exact le_posInf (ha.finite_mul hu).isDefined

end Ordered

end Exact

end DialARide
