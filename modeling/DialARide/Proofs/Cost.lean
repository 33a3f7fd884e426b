import DialARide.Insertion.Cost
import DialARide.Proofs.Exact

/-!
# Costs

What an insertion costs is told by three tests: whether its delays exceed the slack of the schedule,
and whether the request is picked up or dropped off late. The first one decides for every strategy,
the other two only where lateness is rejected; elsewhere lateness has its penalty, which a punctual
request does not pay (`Strategy.cost_eq_of_punctual`).
-/

namespace DialARide

/-! ## 1. Rules -/

namespace Strategy

section Rules

variable {α : Type} [Scalar α] {request : Request α} {slack : InsertionSlack α} {t : Timing α}

/-- No strategy accepts a delay that exceeds the slack. -/
theorem cost_of_violated (strategy : Strategy α) (violated : slack.violatedBy t = true) :
    strategy.cost request slack t = infeasible := by
  cases strategy with
  | reject =>
    refine if_pos ?_
    rw [violated, Bool.true_or, Bool.true_or]
  | discourage => exact if_pos violated

theorem reject_cost_of_late
    (late : (Scalar.lt request.times.latestStart t.pickupDeparture
      || Scalar.lt request.times.latestArrival t.dropoffArrival) = true) :
    reject.cost request slack t = infeasible := by
  refine if_pos ?_
  rw [Bool.or_assoc, late, Bool.or_true]

theorem reject_cost_of_punctual (kept : slack.violatedBy t = false)
    (start : Scalar.lt request.times.latestStart t.pickupDeparture = false)
    (arrival : Scalar.lt request.times.latestArrival t.dropoffArrival = false) :
    reject.cost request slack t = t.totalLoss := by
  refine if_neg ?_
  rw [kept, start, arrival]
  exact Bool.false_ne_true

theorem discourage_cost_of_kept (kept : slack.violatedBy t = false) (u v : α) :
    (discourage u v).cost request slack t
      = t.totalLoss + u * Scalar.clamp (t.pickupDeparture - request.times.latestStart)
        + v * Scalar.clamp (t.dropoffArrival - request.times.latestArrival) := by
  refine if_neg ?_
  rw [kept]
  exact Bool.false_ne_true

end Rules

end Strategy

/-! ## 2. Costs that may be chosen -/

section Exact

variable {K : Type} [Field K] [LinearOrder K]

theorem isDefined_of_feasible {cost : Exact K} (h : feasible cost = true) : cost.isDefined := by
  cases cost with
  | undefined => cases h
  | _ => rfl

theorem not_feasible_infeasible : ¬ feasible (infeasible : Exact K) = true :=
  Bool.eq_false_iff.mp ((Exact.lt_eq_false_iff rfl rfl).mpr (Exact.le_refl rfl))

theorem feasible_of_le {cost other : Exact K} (h : cost ≤ other) (ho : feasible other = true) :
    feasible cost = true := Exact.lt_of_le_of_lt h ho

namespace Strategy

variable {request : Request (Exact K)} {slack : InsertionSlack (Exact K)} {t : Timing (Exact K)}

theorem kept_of_feasible {strategy : Strategy (Exact K)}
    (h : feasible (strategy.cost request slack t) = true) : slack.violatedBy t = false := by
  cases violated : slack.violatedBy t with
  | true =>
    rw [cost_of_violated strategy violated] at h
    exact absurd h not_feasible_infeasible
  | false => rfl

/-- Where lateness is rejected, only a punctual insertion may be chosen. -/
theorem punctual_of_feasible (h : feasible (reject.cost request slack t) = true) :
    Scalar.lt request.times.latestStart t.pickupDeparture = false ∧
      Scalar.lt request.times.latestArrival t.dropoffArrival = false := by
  cases late : Scalar.lt request.times.latestStart t.pickupDeparture
      || Scalar.lt request.times.latestArrival t.dropoffArrival with
  | true =>
    rw [reject_cost_of_late late] at h
    exact absurd h not_feasible_infeasible
  | false => exact Bool.or_eq_false_iff.mp late

end Strategy

/-! ## 3. Penalties -/

variable [IsStrictOrderedRing K]

/-- Without a penalty a cost that may be chosen is no higher. -/
theorem Exact.le_add_penalty {u : K} (hu : 0 < u) {a b : Exact K}
    (h : feasible (a + finite u * Scalar.clamp b) = true) :
    a ≤ a + finite u * Scalar.clamp b := by
  rcases clamp_cases b with hb | ⟨x, hb, hx⟩
  · rw [hb, finite_mul_posInf hu] at h
    cases a with
    | finite y => exact absurd h not_feasible_infeasible
    | posInf => exact absurd h not_feasible_infeasible
    | negInf => cases h
    | undefined => cases h
  · rw [hb] at h ⊢
    cases a with
    | finite y =>
      show (finite y : Exact K) ≤ finite (y + u * x)
      exact finite_le_finite.mpr (le_add_of_nonneg_right (mul_nonneg hu.le hx))
    | posInf => exact absurd h not_feasible_infeasible
    | negInf => exact le_refl rfl
    | undefined => cases h

/-- Nothing falls due for a punctual request. -/
theorem Strategy.cost_eq_of_punctual {request : Request (Exact K)}
    {slack : InsertionSlack (Exact K)} {t : Timing (Exact K)}
    (start : Scalar.lt request.times.latestStart t.pickupDeparture = false)
    (arrival : Scalar.lt request.times.latestArrival t.dropoffArrival = false) :
    reject.cost request slack t = standardDiscourage.cost request slack t := by
  have hzero : ∀ n : Nat, (Scalar.ofNat n * Scalar.zero : Exact K) = Scalar.zero :=
    fun n => Exact.finite_mul_zero (n : K)
  cases hkept : slack.violatedBy t with
  | true => rw [cost_of_violated _ hkept, cost_of_violated _ hkept]
  | false =>
    rw [reject_cost_of_punctual hkept start arrival, standardDiscourage,
      discourage_cost_of_kept hkept, Exact.clamp_sub_of_not_lt start,
      Exact.clamp_sub_of_not_lt arrival, hzero, hzero, Exact.add_zero, Exact.add_zero]

end Exact

end DialARide
