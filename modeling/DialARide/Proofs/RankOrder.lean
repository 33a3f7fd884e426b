import DialARide.Proofs.Doubles
import DialARide.Proofs.FleetOrder

/-!
# The order of offers

Offers are ranked by the pattern of their cost, then by vehicle, pickup and dropoff. That is a total
order of these four (`Scored.rank_totalOrder`), whatever the costs are: patterns that are not
numbers and the two zeros have their places, and where two costs are different numbers the smaller
one comes first. What is found for one vehicle never repeats a pair of positions, so it is in
strictly ascending order (`Search.pairwise_lt_of_evaluateVehicle_eq_ok`).
-/

namespace DialARide

/-! ## 1. Keys -/

namespace RankKey

/-- Where the costs are told apart, nothing else matters. -/
theorem rank_of_compare_ne_eq {α : Type} [Ord α] {a b : RankKey α}
    (h : compare a.cost b.cost ≠ .eq) : a.rank b = compare a.cost b.cost := by
  unfold rank
  cases hcost : compare a.cost b.cost with
  | eq => exact absurd hcost h
  | lt => rfl
  | gt => rfl

/-- Keys tie only when they are the same. -/
theorem rank_eq_iff {a b : RankKey DoubleBits} :
    a.rank b = .eq ↔
      a.cost = b.cost ∧ a.vehicle = b.vehicle ∧ a.pickup = b.pickup ∧ a.dropoff = b.dropoff := by
  rw [rank, Ordering.then_eq_eq, Ordering.then_eq_eq, Ordering.then_eq_eq,
    DoubleBits.compare_eq_iff, Nat.compare_eq_eq, Nat.compare_eq_eq, Nat.compare_eq_eq,
    and_assoc, and_assoc]

/-- The key with the pattern of its cost. -/
def bits (k : RankKey Float) : RankKey DoubleBits :=
  ⟨⟨k.cost.toBits⟩, k.vehicle, k.pickup, k.dropoff⟩

/-- Doubles are ranked by their patterns. -/
theorem rank_bits (a b : RankKey Float) : a.rank b = a.bits.rank b.bits := rfl

end RankKey

/-- Offers that agree in how they compare with a third one compare with each other alike. -/
theorem Scored.rank_trans {α : Type} [Ord α] [Std.TransOrd α] {a b c : Scored α} {o : Ordering}
    (hab : a.rank b = o) (hbc : b.rank c = o) : a.rank c = o := by
  cases o with
  | lt => exact Std.TransCmp.lt_trans hab hbc
  | eq => exact Std.TransCmp.eq_trans hab hbc
  | gt => exact Std.TransCmp.gt_trans hab hbc

/-! ## 2. What is found for one vehicle -/

section Found

variable {α : Type} [Scalar α] {s : Search α} {request : Request α} {entry : Entry α}

omit [Scalar α] in
theorem Entry.nodup_insertions : (entry.insertions request).Nodup := by
  have hbefore : (entry.insertions request).Pairwise Insertion.Before := pairwise_insertionsFrom
  refine hbefore.imp fun {a b} h => ?_
  rintro rfl
  rcases h with hpickup | ⟨-, hdropoff⟩
  · exact Nat.lt_irrefl _ hpickup
  · exact Nat.lt_irrefl _ hdropoff

/-- The insertion that is offered. -/
def Scored.insertion (offer : Scored α) : Insertion := ⟨offer.pickup, offer.dropoff⟩

namespace Search

theorem Prices.insertion_eq {insertion : Insertion} {offer : Scored α}
    (h : s.Prices request entry insertion offer) : insertion = offer.insertion := by
  rw [Scored.insertion, h.pickup, h.dropoff]

/-- Each insertion is scored once, in the order of the listing. -/
theorem map_insertion_of_mapM {insertions : List Insertion} {scored : List (Scored α)}
    (h : insertions.mapM (s.score request entry) = .ok scored) :
    scored.map Scored.insertion = insertions := by
  have hprices := (mapM_eq_ok_iff.mp h).imp fun _ _ hscore =>
    (score_eq_ok_iff.mp hscore).insertion_eq
  rw [eq_comm, ← List.forall₂_eq_eq_eq, List.forall₂_map_right_iff]
  exact hprices

/-- No two offers for one vehicle are for the same positions. -/
theorem nodup_map_insertion_of_evaluateVehicle_eq_ok {found : List (Scored α)}
    (returned : s.evaluateVehicle request entry = .ok found) :
    (found.map Scored.insertion).Nodup := by
  obtain ⟨scored, hscored, h⟩ := bind_eq_ok.mp returned
  cases h
  have hscored : (scored.map Scored.insertion).Nodup := by
    rw [map_insertion_of_mapM hscored]
    exact Entry.nodup_insertions
  have hfeasible : ((scored.filter (feasible ·.cost)).map Scored.insertion).Nodup :=
    hscored.sublist (List.filter_sublist.map _)
  exact (ranked_perm.map _).nodup_iff.mpr hfeasible

/-- **What is found for one vehicle is in strictly ascending order.** -/
theorem pairwise_lt_of_evaluateVehicle_eq_ok [Std.TransOrd α] {found : List (Scored α)}
    (returned : s.evaluateVehicle request entry = .ok found) :
    found.Pairwise fun a b => a.rank b = .lt := by
  have hdistinct := nodup_map_insertion_of_evaluateVehicle_eq_ok returned
  rw [List.Nodup, List.pairwise_map] at hdistinct
  refine ((pairwise_of_evaluateVehicle_eq_ok returned).and hdistinct).imp fun {a b} h => ?_
  obtain ⟨hle, hne⟩ := h
  cases hrank : a.rank b with
  | lt => rfl
  | gt =>
    rw [hrank] at hle
    cases hle
  | eq =>
    obtain ⟨-, hpickup, hdropoff⟩ := Scored.eq_of_rank_eq hrank
    exact absurd (congrArg₂ Insertion.mk hpickup hdropoff) hne

end Search

end Found

/-! ## 3. The total order -/

/-- **The ranking is a total order of cost patterns, vehicles, pickups and dropoffs**, in which
different numbers come in their own order, and no two offers for one vehicle tie. -/
theorem Scored.rank_totalOrder :
    (∀ a b : Scored DoubleBits, a.rank b = (b.rank a).swap) ∧
    (∀ (a b c : Scored DoubleBits) (o : Ordering), a.rank b = o → b.rank c = o → a.rank c = o) ∧
    (∀ a b c : Scored DoubleBits, (a.rank b).isLE → (b.rank c).isLE → (a.rank c).isLE) ∧
    (∀ a b : Scored DoubleBits, a.rank b = .eq ↔
      a.cost.bits = b.cost.bits ∧ a.vehicle = b.vehicle ∧ a.pickup = b.pickup ∧
        a.dropoff = b.dropoff) ∧
    (∀ a b : Scored DoubleBits, a.cost.value.isDefined → b.cost.value.isDefined →
      a.cost.value ≠ b.cost.value → a.rank b = compare a.cost.value b.cost.value) ∧
    (∀ a b : Scored Float, a.rank b = a.key.bits.rank b.key.bits ∧
      (Scalar.lt a.cost b.cost = true → a.rank b = .lt)) ∧
    ∀ (α : Type) [Scalar α] [Std.TransOrd α] (s : Search α) (request : Request α)
      (entry : Entry α) (found : List (Scored α)),
      s.evaluateVehicle request entry = .ok found → found.Pairwise fun a b => a.rank b = .lt := by
  refine ⟨fun _ _ => Std.OrientedCmp.eq_swap, fun _ _ _ _ => rank_trans,
    fun _ _ _ => Std.TransCmp.isLE_trans, fun a b => ?_, fun a b ha hb hne => ?_,
    fun a b => ⟨RankKey.rank_bits _ _, fun h => ?_⟩,
    fun _ _ _ _ _ _ _ => Search.pairwise_lt_of_evaluateVehicle_eq_ok⟩
  · have hbits : a.cost.bits = b.cost.bits ↔ a.cost = b.cost :=
      ⟨congrArg DoubleBits.mk, congrArg DoubleBits.bits⟩
    rw [hbits]
    exact RankKey.rank_eq_iff
  · have hcompare : compare a.cost b.cost = compare a.cost.value b.cost.value :=
      DoubleBits.compare_eq_compare_value ha hb hne
    rw [← hcompare]
    refine RankKey.rank_of_compare_ne_eq fun heq => hne ?_
    exact congrArg DoubleBits.value (DoubleBits.compare_eq_iff.mp heq)
  · have hcompare : compare a.cost b.cost = .lt :=
      DoubleBits.compare_eq_lt.mpr (DoubleBits.orderKey_lt_of_lt h)
    have hkey : a.rank b = compare a.cost b.cost :=
      RankKey.rank_of_compare_ne_eq (hcompare ▸ nofun)
    rw [hkey, hcompare]

/-- An offer with the given pattern as its cost. -/
def Sample.offerAt (bits : UInt64) : Scored DoubleBits := ⟨0, 0, 0, ⟨bits⟩, ⟨⟨0⟩, ⟨0⟩, ⟨0⟩, ⟨0⟩⟩⟩

/-- The two zeros between patterns of either sign that are not numbers; zero and the smallest number
above it; two doubles of different signs; and what is found for the sample vehicle. -/
theorem Scored.rank_totalOrder_sample :
    ([Sample.offerAt 0xfff8000000000000, Sample.offerAt 0x8000000000000000, Sample.offerAt 0,
        Sample.offerAt 0x7ff8000000000000].Pairwise (fun a b => a.rank b = .lt) ∧
      (Sample.offerAt 0).rank (Sample.offerAt 0x8000000000000000) = .gt) ∧
    ((Sample.offerAt 0).cost.value ≠ (Sample.offerAt 1).cost.value ∧
      (Sample.offerAt 0).rank (Sample.offerAt 1)
        = compare (Sample.offerAt 0).cost.value (Sample.offerAt 1).cost.value) ∧
    (⟨0, 0, 0, -0.5, ⟨0, 0, 0, 0⟩⟩ : Scored Float).rank ⟨0, 0, 0, 2, ⟨0, 0, 0, 0⟩⟩ = .lt ∧
    ∃ found, Sample.search.evaluateVehicle Sample.request Sample.entry = .ok found ∧
      2 ≤ found.length ∧ found.Pairwise fun a b => a.rank b = .lt := by
  obtain ⟨hswap, -, -, -, hvalue, hdouble, hfound⟩ := Scored.rank_totalOrder
  have hzero : (Sample.offerAt 0).cost.value = .finite 0 := DoubleBits.unsignedValue_zero
  have htiny : (Sample.offerAt 1).cost.value = .finite ((1 : Nat) * 2 ^ (-1074 : ℤ)) :=
    DoubleBits.unsignedValue_of_lt (by decide)
  have hne : (Sample.offerAt 0).cost.value ≠ (Sample.offerAt 1).cost.value := by
    rw [hzero, htiny, Nat.cast_one, one_mul]
    exact fun h => zpow_ne_zero _ two_ne_zero (Exact.finite.inj h).symm
  refine ⟨⟨by decide, by rw [hswap]; decide⟩, ⟨hne, hvalue _ _ ?_ ?_ hne⟩,
    (hdouble _ _).2 (by decide +kernel), _, rfl, ?_,
    hfound _ Sample.search Sample.request Sample.entry _ rfl⟩
  · rw [hzero]
    rfl
  · rw [htiny]
    rfl
  · rw [ranked_perm.length_eq]
    decide +kernel

end DialARide
