import DialARide.Proofs.Carries
import DialARide.Proofs.Cost

/-!
# Cheapest offers

Two searches are compared by their cheapest offers. It suffices that each offer of the one has its
match among the offers of the other, at no greater cost (`NoDearer`): then this also holds of the
heads of both rankings (`NoDearer.head`), and the other search only finds nothing where the one
does.
-/

namespace DialARide

variable {K : Type} [Field K] [LinearOrder K]

/-! ## 1. Comparing offers -/

/-- Every offer has its match among the others, at no greater cost. -/
def NoDearer (offers others : List (Scored (Exact K))) : Prop :=
  ∀ offer ∈ offers, ∃ other ∈ others, other.cost ≤ offer.cost

/-- What stands earlier in a ranking costs no more. -/
theorem Scored.cost_le_of_rank {a b : Scored (Exact K)} (ha : a.cost.isDefined)
    (hb : b.cost.isDefined) (h : (a.rank b).isLE) : a.cost ≤ b.cost := by
  rw [rank, RankKey.rank] at h
  exact ⟨ha, hb, Ordering.isLE_left_of_isLE_then (Ordering.isLE_left_of_isLE_then
    (Ordering.isLE_left_of_isLE_then h))⟩

/-- The head of a ranking costs no more than any of its elements. -/
theorem exists_cheapest {offers : List (Scored (Exact K))} {offer : Scored (Exact K)}
    (hoffer : offer ∈ offers) (priced : ∀ offer ∈ offers, offer.cost.isDefined) :
    ∃ best ∈ (ranked Scored.rank offers).head?, best.cost ≤ offer.cost := by
  have hmem : offer ∈ ranked Scored.rank offers := ranked_perm.mem_iff.mpr hoffer
  have hsorted : (ranked Scored.rank offers).Pairwise fun a b => (a.rank b).isLE :=
    pairwise_ranked
  have hpriced : ∀ offer ∈ ranked Scored.rank offers, offer.cost.isDefined :=
    fun offer h => priced offer (ranked_perm.mem_iff.mp h)
  cases hranked : ranked Scored.rank offers with
  | nil =>
    rw [hranked] at hmem
    cases hmem
  | cons best rest =>
    rw [hranked] at hmem hsorted hpriced
    refine ⟨best, rfl, ?_⟩
    have hbest := hpriced best List.mem_cons_self
    rcases List.mem_cons.mp hmem with rfl | hrest
    · exact Exact.le_refl hbest
    · exact Scored.cost_le_of_rank hbest (hpriced offer hmem)
        ((List.pairwise_cons.mp hsorted).1 offer hrest)

namespace NoDearer

variable {offers others : List (Scored (Exact K))}

/-- Offers that are compared one by one. -/
theorem of_forall₂ (h : List.Forall₂ (fun offer other => other.cost ≤ offer.cost) offers others) :
    NoDearer offers others := by
  induction h with
  | nil => exact fun _ h => absurd h List.not_mem_nil
  | cons hfirst _ ih =>
    rw [NoDearer, List.forall_mem_cons]
    refine ⟨⟨_, List.mem_cons_self, hfirst⟩, fun offer hoffer => ?_⟩
    obtain ⟨other, hother, hle⟩ := ih offer hoffer
    exact ⟨other, List.mem_cons_of_mem _ hother, hle⟩

/-- The match of a feasible offer is feasible. -/
theorem rankedOffers (h : NoDearer offers others) :
    NoDearer (Search.rankedOffers offers) (Search.rankedOffers others) := by
  intro offer hoffer
  rw [Search.rankedOffers, ranked_perm.mem_iff, List.mem_filter] at hoffer
  obtain ⟨other, hother, hle⟩ := h offer hoffer.1
  refine ⟨other, ?_, hle⟩
  rw [Search.rankedOffers, ranked_perm.mem_iff, List.mem_filter]
  exact ⟨hother, feasible_of_le hle hoffer.2⟩

theorem flatten {founds founds' : List (List (Scored (Exact K)))}
    (h : List.Forall₂ NoDearer founds founds') : NoDearer founds.flatten founds'.flatten := by
  induction h with
  | nil => exact fun _ h => absurd h List.not_mem_nil
  | cons hfirst _ ih =>
    rw [NoDearer, List.flatten_cons, List.forall_mem_append, List.flatten_cons]
    refine ⟨fun offer hoffer => ?_, fun offer hoffer => ?_⟩
    · obtain ⟨other, hother, hle⟩ := hfirst offer hoffer
      exact ⟨other, List.mem_append_left _ hother, hle⟩
    · obtain ⟨other, hother, hle⟩ := ih offer hoffer
      exact ⟨other, List.mem_append_right _ hother, hle⟩

theorem head (h : NoDearer offers others) (priced : ∀ other ∈ others, other.cost.isDefined)
    {best : Scored (Exact K)} (hbest : best ∈ (ranked Scored.rank offers).head?) :
    ∃ other ∈ (ranked Scored.rank others).head?, other.cost ≤ best.cost := by
  have hmem : best ∈ offers := ranked_perm.mem_iff.mp (List.mem_of_mem_head? hbest)
  obtain ⟨cheaper, hcheaper, hle⟩ := h best hmem
  obtain ⟨other, hother, hle'⟩ := exists_cheapest hcheaper priced
  exact ⟨other, hother, Exact.le_trans hle' hle⟩

end NoDearer

/-! ## 2. Comparing searches -/

namespace Search

variable {s s' : Search (Exact K)} {request request' : Request (Exact K)}
  {entry entry' : Entry (Exact K)} {fleet fleet' : List (Entry (Exact K))} {clock clock' : Clock}

/-- Where the same insertions are listed and none of them costs more, all that is found for one
vehicle has its match. -/
theorem evaluateVehicle_noDearer
    (same : entry.insertions request = entry'.insertions request')
    (h : ∀ insertion ∈ entry.insertions request,
      Carries (fun offer other => other.cost ≤ offer.cost) (s.score request entry insertion)
        (s'.score request' entry' insertion)) :
    Carries NoDearer (s.evaluateVehicle request entry) (s'.evaluateVehicle request' entry') := by
  unfold evaluateVehicle
  rw [← same]
  exact (Carries.mapM (List.forall₂_same.mpr h)).bind fun offers others _ hoffers =>
    .ok (NoDearer.of_forall₂ hoffers).rankedOffers

theorem Finds.isDefined_cost {founds : List (List (Scored (Exact K)))}
    (h : s.Finds request fleet founds) :
    ∀ offer ∈ founds.flatten, offer.cost.isDefined := by
  intro offer hoffer
  obtain ⟨found, hfound, hoffer⟩ := List.mem_flatten.mp hoffer
  obtain ⟨entry, -, returned⟩ := h.mem_iff.mp hfound
  exact isDefined_of_feasible ((mem_of_evaluateVehicle_eq_ok returned).mp hoffer).2

/-- Everything that is found for a vehicle costs no less than the head. -/
theorem exists_head_le {found : List (Scored (Exact K))} {offer : Scored (Exact K)}
    (returned : s.evaluateVehicle request entry = .ok found) (hoffer : offer ∈ found) :
    ∃ best ∈ found.head?, best.cost ≤ offer.cost := by
  have hranked : ranked Scored.rank found = found :=
    ranked_of_pairwise (pairwise_of_evaluateVehicle_eq_ok returned)
  obtain ⟨best, hbest, hle⟩ := exists_cheapest hoffer fun offer hoffer =>
    isDefined_of_feasible ((mem_of_evaluateVehicle_eq_ok returned).mp hoffer).2
  rw [hranked] at hbest
  exact ⟨best, hbest, hle⟩

/-- The other answer costs no more, and there is one where there is one before. -/
def Outcome.NoDearer (outcome other : Outcome (Exact K)) : Prop :=
  ∀ best ∈ outcome.best, ∃ best' ∈ other.best, best'.cost ≤ best.cost

/-- Where all that is found for each vehicle has its match, so has the best of it. -/
theorem findBest_noDearer
    (h : List.Forall₂ (fun entry entry' => Carries DialARide.NoDearer
      (s.evaluateVehicle request entry) (s'.evaluateVehicle request' entry')) fleet fleet')
    (inTime : s.InTime clock fleet.length) (inTime' : s'.InTime clock' fleet'.length) :
    Carries Outcome.NoDearer (s.findBest clock request fleet)
      (s'.findBest clock' request' fleet') := by
  intro outcome houtcome
  obtain ⟨founds, hfounds, rfl⟩ := (findBest_eq_ok_iff inTime).mp houtcome
  obtain ⟨founds', hfounds', hnoDearer⟩ := Carries.mapM h founds (mapM_eq_ok_iff.mpr hfounds)
  have hfinds : s'.Finds request' fleet' founds' := mapM_eq_ok_iff.mp hfounds'
  exact ⟨_, (findBest_eq_ok_iff inTime').mpr ⟨founds', hfinds, rfl⟩,
    fun best hbest => (NoDearer.flatten hnoDearer).head hfinds.isDefined_cost hbest⟩

theorem Outcome.NoDearer.best_eq_none {outcome other : Outcome (Exact K)}
    (h : outcome.NoDearer other) (hnone : other.best = none) : outcome.best = none := by
  rw [Option.eq_none_iff_forall_not_mem]
  intro best hbest
  obtain ⟨best', hbest', -⟩ := h best hbest
  rw [hnone] at hbest'
  cases hbest'

end Search

end DialARide
