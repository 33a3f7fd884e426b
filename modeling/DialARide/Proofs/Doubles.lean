import DialARide.Decimal.Binary
import DialARide.Proofs.Exact
import DialARide.Scalar.Double
import Mathlib.Data.Rat.Defs

/-!
# The order of doubles

A bit pattern stands for an exact number: a sign, and a magnitude that counts up from zero through
the tiny numbers and the exponents to the infinity, with the patterns that are not numbers above it.
Magnitudes and numbers go up together, so numbers are in the order of their signed magnitudes
(`DoubleBits.value_le_iff`). The total order of the patterns agrees with that wherever two numbers
differ (`DoubleBits.compare_eq_compare_value`); different patterns have different keys, so that the
two zeros and the patterns that are not numbers have their places in it too.

The strict comparison of the arithmetic is the one of the exact numbers (`DoubleBits.lt_eq`): it
makes no difference between the zeros, and is false for what is not a number. What holds of the
comparison of exact numbers therefore holds of doubles.
-/

namespace DialARide

/-! ## 1. The number of a pattern -/

namespace Decimal

/-- The number that a magnitude stands for. -/
def Binary.value (b : Binary) : ℚ := b.significand * 2 ^ b.exponent

theorem Binary.value_eq (significand k : Nat) :
    (⟨significand, (k : ℤ) - 1074⟩ : Binary).value
      = ((significand * 2 ^ k : Nat) : ℚ) * 2 ^ (-1074 : ℤ) := by
  rw [value, sub_eq_add_neg, zpow_add₀ two_ne_zero, zpow_natCast, Nat.cast_mul, Nat.cast_pow,
    Nat.cast_ofNat, mul_assoc]

/-- The number that a double stands for. -/
def Parts.value : Parts → Exact ℚ
  | .notANumber => .undefined
  | .infinite negative => if negative then .negInf else .posInf
  | .finite negative magnitude => .finite (if negative then -magnitude.value else magnitude.value)

end Decimal

open Decimal (hiddenBit)
open Float.Model (UnpackedFloat)
open Float.Model.UnpackedFloat (Sign)

namespace DoubleBits

/-- The number that a bit pattern stands for; undefined for a pattern that is not a number. -/
def value (d : DoubleBits) : Exact ℚ := (Decimal.partsOfBits d.bits.toNat).value

/-! ## 2. Sign and magnitude -/

/-- Whether the sign bit is set. -/
def IsNegative (d : DoubleBits) : Prop := Word.signedBound ≤ d.bits.toNat

/-- The bits behind the sign. -/
def magnitude (d : DoubleBits) : Nat := d.bits.toNat % Word.signedBound

/-- The number that a pattern stands for whose sign bit is clear. -/
def unsignedValue (m : Nat) : Exact ℚ := (Decimal.partsOfBits m).value

variable {a b d : DoubleBits}

instance : DecidablePred IsNegative := fun _ => inferInstanceAs (Decidable (_ ≤ _))

/-- What the sign bit says. -/
def sign (d : DoubleBits) : Sign := if d.IsNegative then .negative else .positive

/-- The magnitude with the sign, so that both zeros are on one level. -/
def level (d : DoubleBits) : Int := d.sign.apply d.magnitude

theorem level_of_negative (h : d.IsNegative) : d.level = -d.magnitude := by
  rw [level, sign, if_pos h, Sign.apply]

theorem level_of_not_negative (h : ¬ d.IsNegative) : d.level = d.magnitude := by
  rw [level, sign, if_neg h, Sign.apply]

theorem magnitude_lt (d : DoubleBits) : d.magnitude < Word.signedBound :=
  Nat.mod_lt _ (by decide)

theorem orderKey_of_negative (h : d.IsNegative) : d.orderKey = -(d.magnitude : Int) - 1 := by
  have hbound := d.bits.toNat_lt
  have hmagnitude : d.magnitude = d.bits.toNat - Word.signedBound := by
    simp only [IsNegative, magnitude, Word.signedBound] at *
    omega
  unfold orderKey
  dsimp only
  rw [if_neg (Nat.not_lt.mpr h), hmagnitude]

theorem orderKey_of_not_negative (h : ¬ d.IsNegative) : d.orderKey = d.magnitude := by
  have hlt : d.bits.toNat < Word.signedBound := Nat.not_le.mp h
  unfold orderKey
  dsimp only
  rw [if_pos hlt, magnitude, Nat.mod_eq_of_lt hlt]

theorem value_of_not_negative (h : ¬ d.IsNegative) : d.value = unsignedValue d.magnitude := by
  have hmagnitude : d.magnitude = d.bits.toNat := Nat.mod_eq_of_lt (Nat.not_le.mp h)
  rw [value, unsignedValue, hmagnitude]

/-- The sign bit turns the value round. -/
theorem value_of_negative (h : d.IsNegative) : d.value = (unsignedValue d.magnitude).neg := by
  have hbound := d.bits.toNat_lt
  have hexponent : d.bits.toNat / hiddenBit % 2048 = d.magnitude / hiddenBit % 2048 := by
    simp only [IsNegative, magnitude, Word.signedBound, hiddenBit] at *
    omega
  have hfraction : d.bits.toNat % hiddenBit = d.magnitude % hiddenBit := by
    simp only [IsNegative, magnitude, Word.signedBound, hiddenBit] at *
    omega
  have hnegative : d.bits.toNat / (2048 * hiddenBit) = 1 := by
    simp only [IsNegative, Word.signedBound, hiddenBit] at *
    omega
  have hpositive : ¬ d.magnitude / (2048 * hiddenBit) = 1 := by
    have hlt := d.magnitude_lt
    simp only [Word.signedBound, hiddenBit] at *
    omega
  simp only [value, unsignedValue, Decimal.partsOfBits, hexponent, hfraction, hnegative, hpositive]
  split
  · split <;> rfl
  · split <;> rfl

/-! ## 3. Magnitudes in order -/

/-- A finite magnitude in units of the smallest one. -/
def units (m : Nat) : Nat :=
  if m / hiddenBit = 0 then m else (hiddenBit + m % hiddenBit) * 2 ^ (m / hiddenBit - 1)

/-- The magnitude of the infinities; what is above it is not a number. -/
def infinity : Nat := 2047 * hiddenBit

theorem unsignedValue_of_lt {m : Nat} (h : m < infinity) :
    unsignedValue m = .finite (units m * 2 ^ (-1074 : ℤ)) := by
  have hexponent : m / hiddenBit % 2048 = m / hiddenBit := by
    simp only [infinity, hiddenBit] at *
    omega
  have hfinite : m / hiddenBit ≠ 2047 := by
    simp only [infinity, hiddenBit] at *
    omega
  have hpositive : ¬ m / (2048 * hiddenBit) = 1 := by
    simp only [infinity, hiddenBit] at *
    omega
  unfold unsignedValue Decimal.partsOfBits units
  dsimp only
  rw [hexponent, if_neg hfinite, decide_eq_false hpositive]
  by_cases hzero : m / hiddenBit = 0
  · have hfraction : m % hiddenBit = m := by
      simp only [hiddenBit] at *
      omega
    rw [if_pos hzero, if_pos hzero, hfraction]
    rfl
  · obtain ⟨e, he⟩ : ∃ e, m / hiddenBit = e + 1 := Nat.exists_eq_succ_of_ne_zero hzero
    have hshift : ((e + 1 : Nat) : ℤ) - 1075 = (e : ℤ) - 1074 := by omega
    rw [if_neg hzero, if_neg hzero, he, hshift, Nat.add_sub_cancel]
    exact congrArg Exact.finite (Decimal.Binary.value_eq _ _)

theorem unsignedValue_infinity : unsignedValue infinity = .posInf := by
  decide

theorem unsignedValue_of_gt {m : Nat} (h : infinity < m) (hm : m < Word.signedBound) :
    unsignedValue m = .undefined := by
  have hexponent : m / hiddenBit % 2048 = 2047 := by
    simp only [infinity, hiddenBit, Word.signedBound] at *
    omega
  have hfraction : m % hiddenBit ≠ 0 := by
    simp only [infinity, hiddenBit, Word.signedBound] at *
    omega
  simp [unsignedValue, Decimal.partsOfBits, hexponent, hfraction, Decimal.Parts.value]

/-- The next magnitude is larger: within one exponent the fraction grows, and a full fraction
carries into the exponent, which doubles the unit. -/
theorem units_lt_succ (m : Nat) : units m < units (m + 1) := by
  unfold units
  by_cases hcarry : m % hiddenBit + 1 = hiddenBit
  · have hexponent : (m + 1) / hiddenBit = m / hiddenBit + 1 := by
      simp only [hiddenBit] at *
      omega
    have hfraction : (m + 1) % hiddenBit = 0 := by
      simp only [hiddenBit] at *
      omega
    rw [hexponent, hfraction, if_neg (Nat.succ_ne_zero _), Nat.add_zero, Nat.add_sub_cancel]
    by_cases hzero : m / hiddenBit = 0
    · rw [if_pos hzero, hzero, Nat.pow_zero, Nat.mul_one]
      simp only [hiddenBit] at *
      omega
    · obtain ⟨e, he⟩ : ∃ e, m / hiddenBit = e + 1 := Nat.exists_eq_succ_of_ne_zero hzero
      rw [if_neg hzero, he, Nat.add_sub_cancel, Nat.pow_succ, Nat.mul_comm (2 ^ e) 2,
        ← Nat.mul_assoc]
      exact Nat.mul_lt_mul_of_pos_right (by omega) (Nat.two_pow_pos e)
  · have hexponent : (m + 1) / hiddenBit = m / hiddenBit := by
      simp only [hiddenBit] at *
      omega
    have hfraction : (m + 1) % hiddenBit = m % hiddenBit + 1 := by
      simp only [hiddenBit] at *
      omega
    rw [hexponent, hfraction]
    split
    · exact Nat.lt_succ_self m
    · exact Nat.mul_lt_mul_of_pos_right (by omega) (Nat.two_pow_pos _)

theorem units_strictMono : StrictMono units := strictMono_nat_of_lt_succ units_lt_succ

/-- Up to the infinity, the numbers go up with the magnitudes. -/
theorem unsignedValue_le_iff {m n : Nat} (hm : m ≤ infinity) (hn : n ≤ infinity) :
    unsignedValue m ≤ unsignedValue n ↔ m ≤ n := by
  have hscale : (0 : ℚ) < 2 ^ (-1074 : ℤ) := zpow_pos two_pos _
  rcases lt_or_eq_of_le hn with hn | rfl
  · rw [unsignedValue_of_lt hn]
    rcases lt_or_eq_of_le hm with hm | rfl
    · rw [unsignedValue_of_lt hm, Exact.finite_le_finite, mul_le_mul_iff_left₀ hscale,
        Nat.cast_le, units_strictMono.le_iff_le]
    · rw [unsignedValue_infinity]
      exact iff_of_false (fun h => nomatch h.2.2) (Nat.not_le.mpr hn)
  · rw [unsignedValue_infinity]
    rcases lt_or_eq_of_le hm with hlt | rfl
    · rw [unsignedValue_of_lt hlt]
      exact iff_of_true (Exact.le_posInf rfl) hm
    · rw [unsignedValue_infinity]
      exact iff_of_true (Exact.le_posInf rfl) hm

theorem unsignedValue_zero : unsignedValue 0 = .finite 0 := by
  rw [unsignedValue_of_lt (by decide), show units 0 = 0 from rfl, Nat.cast_zero, zero_mul]

theorem isDefined_unsignedValue {m : Nat} (hm : m < Word.signedBound) :
    (unsignedValue m).isDefined ↔ m ≤ infinity := by
  rcases lt_trichotomy m infinity with h | rfl | h
  · rw [unsignedValue_of_lt h]
    exact iff_of_true rfl h.le
  · rw [unsignedValue_infinity]
    exact iff_of_true rfl (Nat.le_refl _)
  · rw [unsignedValue_of_gt h hm]
    exact iff_of_false Bool.false_ne_true (Nat.not_le.mpr h)

/-- The patterns of numbers are those up to the infinity. -/
theorem isDefined_value_iff : d.value.isDefined ↔ d.magnitude ≤ infinity := by
  rw [← isDefined_unsignedValue d.magnitude_lt]
  by_cases hnegative : d.IsNegative
  · rw [value_of_negative hnegative, Exact.isDefined_neg]
  · rw [value_of_not_negative hnegative]

/-! ## 4. Levels and keys in order -/

section Order

variable {m n : Nat} (hm : m ≤ infinity) (hn : n ≤ infinity)

include hm hn

theorem neg_unsignedValue_le : (unsignedValue m).neg ≤ unsignedValue n := by
  have hzero : unsignedValue 0 ≤ unsignedValue m :=
    (unsignedValue_le_iff (Nat.zero_le _) hm).mpr (Nat.zero_le m)
  have hneg : (unsignedValue m).neg ≤ unsignedValue 0 := by
    have h := Exact.neg_le_neg hzero
    rwa [unsignedValue_zero, Exact.neg, neg_zero, ← unsignedValue_zero] at h
  exact Exact.le_trans hneg ((unsignedValue_le_iff (Nat.zero_le _) hn).mpr (Nat.zero_le n))

/-- Only zeros are negative and positive. -/
theorem unsignedValue_le_neg_iff :
    unsignedValue m ≤ (unsignedValue n).neg ↔ m = 0 ∧ n = 0 := by
  constructor
  · intro h
    have hmzero := Exact.le_trans h (neg_unsignedValue_le hn (Nat.zero_le _))
    have hnzero := Exact.le_trans (Exact.le_neg_iff.mp h)
      (neg_unsignedValue_le hm (Nat.zero_le _))
    rw [unsignedValue_le_iff hm (Nat.zero_le _)] at hmzero
    rw [unsignedValue_le_iff hn (Nat.zero_le _)] at hnzero
    exact ⟨Nat.le_zero.mp hmzero, Nat.le_zero.mp hnzero⟩
  · rintro ⟨rfl, rfl⟩
    rw [unsignedValue_zero, Exact.neg, neg_zero]
    exact Exact.le_refl rfl

end Order

/-- **Numbers are in the order of their levels.** -/
theorem value_le_iff (ha : a.value.isDefined) (hb : b.value.isDefined) :
    a.value ≤ b.value ↔ a.level ≤ b.level := by
  rw [isDefined_value_iff] at ha hb
  by_cases hna : a.IsNegative
  · rw [value_of_negative hna, level_of_negative hna]
    by_cases hnb : b.IsNegative
    · rw [value_of_negative hnb, level_of_negative hnb, Exact.neg_le_neg_iff,
        unsignedValue_le_iff hb ha, neg_le_neg_iff, Nat.cast_le]
    · rw [value_of_not_negative hnb, level_of_not_negative hnb]
      exact iff_of_true (neg_unsignedValue_le ha hb) (by omega)
  · rw [value_of_not_negative hna, level_of_not_negative hna]
    by_cases hnb : b.IsNegative
    · rw [value_of_negative hnb, level_of_negative hnb, unsignedValue_le_neg_iff ha hb]
      omega
    · rw [value_of_not_negative hnb, level_of_not_negative hnb, unsignedValue_le_iff ha hb,
        Nat.cast_le]

theorem level_le_of_orderKey_le (h : a.orderKey ≤ b.orderKey) : a.level ≤ b.level := by
  by_cases ha : a.IsNegative <;> by_cases hb : b.IsNegative <;>
    simp only [orderKey_of_negative, orderKey_of_not_negative, ha, hb, not_false_eq_true] at h <;>
    simp only [level_of_negative, level_of_not_negative, ha, hb, not_false_eq_true] <;>
    omega

/-- A pattern with no larger key stands for no larger number. -/
theorem value_le_of_orderKey_le (ha : a.value.isDefined) (hb : b.value.isDefined)
    (h : a.orderKey ≤ b.orderKey) : a.value ≤ b.value :=
  (value_le_iff ha hb).mpr (level_le_of_orderKey_le h)

/-- Different patterns have different keys. -/
theorem orderKey_injective : Function.Injective orderKey := by
  intro a b h
  have hbounda := a.bits.toNat_lt
  have hboundb := b.bits.toNat_lt
  have hbits : a.bits.toNat = b.bits.toNat := by
    by_cases ha : a.IsNegative <;> by_cases hb : b.IsNegative <;>
      simp only [orderKey_of_negative, orderKey_of_not_negative, ha, hb, not_false_eq_true] at h <;>
      simp only [IsNegative, magnitude, Word.signedBound] at * <;>
      omega
  exact congrArg mk (UInt64.toNat_inj.mp hbits)

instance : Std.TransOrd DoubleBits := inferInstanceAs (Std.TransCmp (compareOn orderKey))

theorem compare_eq_iff : compare a b = .eq ↔ a = b := by
  rw [← orderKey_injective.eq_iff]
  exact Int.compare_eq_eq

theorem compare_eq_lt : compare a b = .lt ↔ a.orderKey < b.orderKey := Int.compare_eq_lt

/-- **Where two numbers differ, their patterns are in the order of the numbers.** -/
theorem compare_eq_compare_value (ha : a.value.isDefined) (hb : b.value.isDefined)
    (hne : a.value ≠ b.value) : compare a b = compare a.value b.value := by
  rcases lt_trichotomy a.orderKey b.orderKey with h | h | h
  · rw [compare_eq_lt.mpr h,
      Exact.compare_eq_lt_of_le (value_le_of_orderKey_le ha hb h.le) hne]
  · exact absurd (congrArg value (orderKey_injective h)) hne
  · rw [Std.OrientedOrd.eq_swap, compare_eq_lt.mpr h, Std.OrientedOrd.eq_swap (a := a.value),
      Exact.compare_eq_lt_of_le (value_le_of_orderKey_le hb ha h.le) hne.symm]

/-! ## 5. The comparison of the arithmetic -/

/-- What the arithmetic reads from a sign and a magnitude. -/
inductive Reads (s : Sign) : Nat → UnpackedFloat → Prop
  | infinity : Reads s infinity (.infinity s)
  | zero : Reads s 0 (.zero s)
  | finite (n m : Nat) (e : Int) (pos : 0 < m) (bounded : n < infinity)
      (place : (n : Int) = (e + 1074) * hiddenBit + m) (full : m < 2 * hiddenBit)
      (least : -1074 ≤ e) (normal : -1074 < e → hiddenBit ≤ m) :
      Reads s n (.finite s m e pos)
  | notANumber (n : Nat) (above : infinity < n) : Reads s n .notANumber

/-- Among significands of full length the exponent decides first. -/
theorem compare_then_eq_lt_iff {e e' : Int} {m m' : Nat}
    (full : m < 2 * hiddenBit) (least : -1074 ≤ e) (normal : -1074 < e → hiddenBit ≤ m)
    (full' : m' < 2 * hiddenBit) (least' : -1074 ≤ e') (normal' : -1074 < e' → hiddenBit ≤ m') :
    (compare e e').then (compare m m') = .lt ↔
      (e + 1074) * hiddenBit + m < (e' + 1074) * hiddenBit + m' := by
  rw [Ordering.then_eq_lt, Int.compare_eq_lt, Int.compare_eq_eq, Nat.compare_eq_lt]
  simp only [hiddenBit] at *
  omega

theorem apply_zero (s : Sign) : s.apply 0 = 0 := by
  cases s <;> rfl

/-- What is below a magnitude is between it and its negative. -/
theorem apply_bounds (s : Sign) {n k : Nat} (h : n < k) :
    -(k : Int) < s.apply n ∧ s.apply n < k := by
  cases s <;> simp only [Sign.apply] <;> omega

theorem pos_of_place {n m : Nat} {e : Int} (place : (n : Int) = (e + 1074) * hiddenBit + m)
    (pos : 0 < m) (least : -1074 ≤ e) : 0 < n := by
  simp only [hiddenBit] at place
  omega

theorem some_beq_lt_iff {o : Ordering} : (some o == some .lt) = true ↔ o = .lt := by
  cases o <;> decide

/-- What the arithmetic reads as numbers it compares by magnitude and sign. -/
theorem lt_iff_of_reads {s t : Sign} {k l : Nat} {u v : UnpackedFloat} (hu : Reads s k u)
    (hv : Reads t l v) (hk : k ≤ infinity) (hl : l ≤ infinity) :
    u.lt v = true ↔ s.apply k < t.apply l := by
  -- an infinity or a zero on either side leaves only signs to compare; otherwise two signs that
  -- differ decide, and of one sign the magnitudes do
  cases hu with
  | notANumber _ above => exact absurd hk (Nat.not_le.mpr above)
  | infinity =>
    cases hv with
    | notANumber _ above => exact absurd hl (Nat.not_le.mpr above)
    | infinity => cases s <;> cases t <;> decide
    | zero => cases s <;> cases t <;> decide
    | finite _ m e pos bounded =>
      have hbounds := apply_bounds t bounded
      cases s
      · exact iff_of_true rfl hbounds.1
      · exact iff_of_false Bool.false_ne_true hbounds.2.le.not_gt
  | zero =>
    cases hv with
    | notANumber _ above => exact absurd hl (Nat.not_le.mpr above)
    | infinity => cases s <;> cases t <;> decide
    | zero => cases s <;> cases t <;> decide
    | finite _ m e pos bounded place full least =>
      have hpos := pos_of_place place pos least
      rw [Nat.cast_zero, apply_zero]
      cases t
      · exact iff_of_false Bool.false_ne_true (show ¬ 0 < -(l : Int) by omega)
      · exact iff_of_true rfl (Int.natCast_pos.mpr hpos)
  | finite _ m e pos bounded place full least normal =>
    cases hv with
    | notANumber _ above => exact absurd hl (Nat.not_le.mpr above)
    | infinity =>
      have hbounds := apply_bounds s bounded
      cases t
      · exact iff_of_false (by cases s <;> exact Bool.false_ne_true) hbounds.1.le.not_gt
      · exact iff_of_true (by cases s <;> rfl) hbounds.2
    | zero =>
      have hpos := pos_of_place place pos least
      rw [Nat.cast_zero, apply_zero]
      cases s
      · exact iff_of_true rfl (show -(k : Int) < 0 by omega)
      · exact iff_of_false Bool.false_ne_true (show ¬ (k : Int) < 0 by omega)
    | finite _ m' e' pos' bounded' place' full' least' normal' =>
      have hpos := pos_of_place place pos least
      cases s <;> cases t
      · refine some_beq_lt_iff.trans ?_
        rw [Ordering.swap_then, Int.compare_swap, Nat.compare_swap,
          compare_then_eq_lt_iff full' least' normal' full least normal, ← place, ← place']
        exact neg_lt_neg_iff.symm
      · exact iff_of_true rfl (show -(k : Int) < l by omega)
      · exact iff_of_false Bool.false_ne_true (show ¬ (k : Int) < -(l : Int) by omega)
      · refine some_beq_lt_iff.trans ?_
        rw [compare_then_eq_lt_iff full least normal full' least' normal', ← place, ← place']
        exact Iff.rfl

/-- Numbers are what is read from a magnitude up to the infinity. -/
theorem isNaN_eq_false_iff_of_reads {s : Sign} {k : Nat} {u : UnpackedFloat} (hu : Reads s k u) :
    u.isNaN = false ↔ k ≤ infinity := by
  cases hu with
  | infinity => exact iff_of_true rfl (Nat.le_refl _)
  | zero => exact iff_of_true rfl (Nat.zero_le _)
  | finite _ m e pos bounded => exact iff_of_true rfl bounded.le
  | notANumber _ above => exact iff_of_false nofun (Nat.not_le.mpr above)

/-- What the arithmetic compares as smaller is a number, and so is what it compares it with. -/
theorem isNaN_eq_false_of_lt {u v : UnpackedFloat} (h : u.lt v = true) :
    u.isNaN = false ∧ v.isNaN = false := by
  cases u with
  | notANumber => cases h
  | zero =>
    cases v with
    | notANumber => cases h
    | _ => exact ⟨rfl, rfl⟩
  | infinity s =>
    cases v with
    | notANumber => cases s <;> cases h
    | _ => exact ⟨rfl, rfl⟩
  | finite s =>
    cases v with
    | notANumber => cases s <;> cases h
    | _ => exact ⟨rfl, rfl⟩

theorem ofBitVec_unpackSign (d : DoubleBits) :
    .ofBitVec (@UnpackedFloat.unpackSign .binary64 d.bits.toBitVec) = d.sign := by
  have hbound := d.bits.toNat_lt
  have hsign : (@UnpackedFloat.unpackSign .binary64 d.bits.toBitVec).toNat
      = d.bits.toNat / Word.signedBound := by
    change (d.bits.toNat >>> 63) % 2 = d.bits.toNat / 2 ^ 63
    rw [Nat.shiftRight_eq_div_pow]
    omega
  unfold Sign.ofBitVec sign
  by_cases hnegative : d.IsNegative
  · rw [if_pos hnegative, if_neg]
    rw [← BitVec.toNat_inj, hsign]
    simp only [IsNegative, Word.signedBound, BitVec.toNat_ofNat] at *
    omega
  · rw [if_neg hnegative, if_pos]
    rw [← BitVec.toNat_inj, hsign]
    simp only [IsNegative, Word.signedBound, BitVec.toNat_ofNat] at *
    omega

theorem toNat_unpackExponent (d : DoubleBits) :
    (@UnpackedFloat.unpackExponent .binary64 d.bits.toBitVec).toNat = d.magnitude / hiddenBit := by
  change (d.bits.toNat >>> 52) % 2 ^ 11 = d.bits.toNat % 2 ^ 63 / 2 ^ 52
  rw [Nat.shiftRight_eq_div_pow]
  omega

theorem toNat_unpackMantissa (d : DoubleBits) :
    (@UnpackedFloat.unpackMantissa .binary64 d.bits.toBitVec).toNat = d.magnitude % hiddenBit := by
  change (d.bits.toNat >>> 0) % 2 ^ 52 = d.bits.toNat % 2 ^ 63 % 2 ^ 52
  rw [Nat.shiftRight_zero]
  omega

theorem unpackExponent_eq_iff (d : DoubleBits) (e : BitVec 11) :
    @UnpackedFloat.unpackExponent .binary64 d.bits.toBitVec = e
      ↔ d.magnitude / hiddenBit = e.toNat := by
  rw [← BitVec.toNat_inj, toNat_unpackExponent]

theorem unpackMantissa_eq_zero_iff (d : DoubleBits) :
    @UnpackedFloat.unpackMantissa .binary64 d.bits.toBitVec = 0#52
      ↔ d.magnitude % hiddenBit = 0 := by
  rw [← BitVec.toNat_inj, toNat_unpackMantissa]
  rfl

/-- A significand with its leading bit. -/
theorem toNat_append_unpackMantissa (d : DoubleBits) :
    (1#1 ++ @UnpackedFloat.unpackMantissa .binary64 d.bits.toBitVec).toNat
      = hiddenBit + d.magnitude % hiddenBit := by
  rw [BitVec.toNat_append, ← Nat.shiftLeft_add_eq_or_of_lt (BitVec.isLt _),
    toNat_unpackMantissa]
  rfl

/-- The arithmetic reads every pattern as what its sign and its magnitude say. -/
theorem reads_unpack (d : DoubleBits) :
    Reads d.sign d.magnitude (.unpack .binary64 d.bits.toBitVec) := by
  have hmagnitude : d.magnitude < 2048 * hiddenBit := d.magnitude_lt
  have hsplit := Nat.div_add_mod' d.magnitude hiddenBit
  have hfraction := Nat.mod_lt d.magnitude (show 0 < hiddenBit by decide)
  have hexponent := d.toNat_unpackExponent
  have hbias : Float.Model.Format.binary64.exponentBias = 1023 := rfl
  have hmax : (-1#11).toNat = 2047 := rfl
  have hleast : (0#11).toNat = 0 := rfl
  unfold UnpackedFloat.unpack
  dsimp only
  rw [ofBitVec_unpackSign]
  by_cases htop : @UnpackedFloat.unpackExponent .binary64 d.bits.toBitVec = -1#11
  · rw [if_pos htop]
    rw [unpackExponent_eq_iff, hmax] at htop
    by_cases hzero : @UnpackedFloat.unpackMantissa .binary64 d.bits.toBitVec = 0#52
    · rw [if_pos hzero]
      rw [unpackMantissa_eq_zero_iff] at hzero
      have hinfinity : d.magnitude = infinity := by
        rw [← hsplit, htop, hzero]
        rfl
      rw [hinfinity]
      exact .infinity
    · rw [if_neg hzero]
      rw [unpackMantissa_eq_zero_iff] at hzero
      apply Reads.notANumber
      simp only [infinity, hiddenBit] at *
      omega
  · rw [if_neg htop]
    rw [unpackExponent_eq_iff, hmax] at htop
    by_cases htiny : @UnpackedFloat.unpackExponent .binary64 d.bits.toBitVec = 0#11
    · rw [if_pos htiny]
      rw [unpackExponent_eq_iff, hleast] at htiny
      by_cases hzero : @UnpackedFloat.unpackMantissa .binary64 d.bits.toBitVec = 0#52
      · rw [dif_pos hzero]
        rw [unpackMantissa_eq_zero_iff] at hzero
        have hnull : d.magnitude = 0 := by
          rw [← hsplit, htiny, hzero]
          rfl
        rw [hnull]
        exact .zero
      · rw [dif_neg hzero]
        have hmantissa := d.toNat_unpackMantissa
        apply Reads.finite <;> simp only [infinity, hiddenBit] at * <;> omega
    · rw [if_neg htiny]
      rw [unpackExponent_eq_iff, hleast] at htiny
      have hmantissa := d.toNat_append_unpackMantissa
      apply Reads.finite <;> simp only [infinity, hiddenBit] at * <;> omega

section Arithmetic

variable (x y : Float)

/-- A double is a number to the arithmetic when its pattern stands for one. -/
theorem isNumber_eq : Scalar.isNumber x = (mk x.toBits).value.isDefined := by
  rw [Bool.eq_iff_iff, isDefined_value_iff,
    ← isNaN_eq_false_iff_of_reads (reads_unpack ⟨x.toBits⟩), ← Bool.not_eq_true']
  exact Iff.rfl

theorem lt_iff_unpack_lt : Scalar.lt x y = true ↔
    UnpackedFloat.lt (.unpack .binary64 x.toBits.toBitVec)
      (.unpack .binary64 y.toBits.toBitVec) = true :=
  ⟨fun h => of_decide_eq_true (of_decide_eq_true h), fun h => decide_eq_true (decide_eq_true h)⟩

/-- **The arithmetic compares doubles as the numbers they stand for.** -/
theorem lt_eq : Scalar.lt x y = Scalar.lt (mk x.toBits).value (mk y.toBits).value := by
  have hx := reads_unpack ⟨x.toBits⟩
  have hy := reads_unpack ⟨y.toBits⟩
  rw [Bool.eq_iff_iff, lt_iff_unpack_lt]
  by_cases hdefined : (mk x.toBits).value.isDefined ∧ (mk y.toBits).value.isDefined
  · have hbounds := hdefined
    rw [isDefined_value_iff, isDefined_value_iff] at hbounds
    rw [lt_iff_of_reads hx hy hbounds.1 hbounds.2, ← Bool.not_eq_false,
      Exact.lt_eq_false_iff hdefined.2 hdefined.1, value_le_iff hdefined.2 hdefined.1]
    exact Int.not_le.symm
  · refine iff_of_false (fun h => hdefined ?_) (fun h => hdefined ?_)
    · have hnumbers := isNaN_eq_false_of_lt h
      rwa [isNaN_eq_false_iff_of_reads hx, isNaN_eq_false_iff_of_reads hy, ← isDefined_value_iff,
        ← isDefined_value_iff] at hnumbers
    · have hle := Exact.le_of_lt h
      exact ⟨hle.1, hle.2.1⟩

variable {x y}

/-- **What the arithmetic calls smaller has a smaller key.** -/
theorem orderKey_lt_of_lt (h : Scalar.lt x y = true) :
    (DoubleBits.mk x.toBits).orderKey < (DoubleBits.mk y.toBits).orderKey := by
  rw [lt_eq] at h
  have hle := Exact.le_of_lt h
  by_contra hkey
  have hback := value_le_of_orderKey_le hle.2.1 hle.1 (Int.not_lt.mp hkey)
  rw [(Exact.lt_eq_false_iff hle.2.1 hle.1).mpr hback] at h
  cases h

end Arithmetic

end DoubleBits

end DialARide
