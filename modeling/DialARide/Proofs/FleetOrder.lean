import DialARide.Proofs.FleetSearch
import Mathlib.Data.List.Nodup

/-!
# The order of a fleet

Offers of equal cost are ranked by vehicle, pickup and dropoff. Of one vehicle no two offers agree
in both positions, so in a fleet whose vehicles have different numbers no two offers tie, and
neither answer of a search depends on the order in which the vehicles are listed
(`Search.answers_of_perm`). This holds for every kind of number that costs are kept in, doubles
included.
-/

namespace DialARide

variable {α : Type} [Scalar α]

/-! ## 1. Ties -/

omit [Scalar α] in
/-- Offers that tie are for the same positions of the same vehicle. -/
theorem Scored.eq_of_rank_eq [Ord α] {a b : Scored α} (h : a.rank b = .eq) :
    a.vehicle = b.vehicle ∧ a.pickup = b.pickup ∧ a.dropoff = b.dropoff := by
  rw [rank, RankKey.rank, Ordering.then_eq_eq, Ordering.then_eq_eq, Ordering.then_eq_eq] at h
  obtain ⟨⟨⟨-, hvehicle⟩, hpickup⟩, hdropoff⟩ := h
  exact ⟨Nat.compare_eq_eq.mp hvehicle, Nat.compare_eq_eq.mp hpickup,
    Nat.compare_eq_eq.mp hdropoff⟩

namespace Search

variable {s : Search α} {request : Request α} {entry : Entry α} {fleet others : List (Entry α)}
  {clock clock' : Clock}

/-- An insertion has one price. -/
theorem Prices.unique {insertion : Insertion} {offer other : Scored α}
    (h : s.Prices request entry insertion offer) (h' : s.Prices request entry insertion other) :
    offer = other :=
  Except.ok.inj ((score_eq_ok_iff.mpr h).symm.trans (score_eq_ok_iff.mpr h'))

/-- The vehicles of the fleet have different numbers. -/
def DistinctVehicles (fleet : List (Entry α)) : Prop := (fleet.map (·.vehicle.id)).Nodup

/-- **No two different offers to a fleet of different vehicles tie.** -/
theorem Finds.eq_of_rank_eq {founds : List (List (Scored α))} (h : s.Finds request fleet founds)
    (distinct : DistinctVehicles fleet) {a b : Scored α} (ha : a ∈ founds.flatten)
    (hb : b ∈ founds.flatten) (tied : a.rank b = .eq) : a = b := by
  have hprices : ∀ offer ∈ founds.flatten, ∃ entry ∈ fleet, ∃ insertion,
      s.Prices request entry insertion offer := by
    intro offer hoffer
    obtain ⟨found, hfound, hoffer⟩ := List.mem_flatten.mp hoffer
    obtain ⟨entry, hentry, returned⟩ := h.mem_iff.mp hfound
    obtain ⟨⟨insertion, -, prices⟩, -⟩ := (mem_of_evaluateVehicle_eq_ok returned).mp hoffer
    exact ⟨entry, hentry, insertion, prices⟩
  obtain ⟨entry, hentry, ⟨p, d⟩, prices⟩ := hprices a ha
  obtain ⟨entry', hentry', ⟨p', d'⟩, prices'⟩ := hprices b hb
  obtain ⟨hvehicle, hpickup, hdropoff⟩ := Scored.eq_of_rank_eq tied
  rw [prices.vehicle, prices'.vehicle] at hvehicle
  obtain rfl : entry = entry' := List.inj_on_of_nodup_map distinct hentry hentry' hvehicle
  rw [prices.pickup, prices'.pickup] at hpickup
  rw [prices.dropoff, prices'.dropoff] at hdropoff
  change p = p' at hpickup
  change d = d' at hdropoff
  subst hpickup hdropoff
  exact prices.unique prices'

/-! ## 2. Rearranged fleets -/

/-- Every vehicle is skipped. -/
def Overdue (s : Search α) (clock : Clock) (count : Nat) : Prop :=
  ∀ position < count, s.outOfTime (clock position) = true

/-- In another order the same is found for each vehicle. -/
theorem Finds.exists_of_perm {founds : List (List (Scored α))} (h : s.Finds request fleet founds)
    (perm : fleet.Perm others) :
    ∃ founds', s.Finds request others founds' ∧ founds'.Perm founds :=
  List.perm_comp_forall₂ perm.symm h

/-- What is found for a fleet of different vehicles has one ranking, in whatever order it is
found. -/
theorem Finds.exists_ranked_eq [Std.TransOrd α] {founds : List (List (Scored α))}
    (h : s.Finds request fleet founds) (distinct : DistinctVehicles fleet)
    (perm : fleet.Perm others) :
    ∃ founds', s.Finds request others founds' ∧
      ranked Scored.rank founds.flatten = ranked Scored.rank founds'.flatten := by
  obtain ⟨founds', hfounds', hperm⟩ := h.exists_of_perm perm
  exact ⟨founds', hfounds', ranked_eq_of_perm hperm.symm.flatten
    fun _ ha _ hb => h.eq_of_rank_eq distinct ha hb⟩

section Rearranged

variable [Std.TransOrd α]

theorem rankInsertions_of_perm {ranking : List (Scored α)} (perm : fleet.Perm others)
    (distinct : DistinctVehicles fleet) (inTime : s.InTime clock fleet.length)
    (inTime' : s.InTime clock' others.length)
    (h : s.rankInsertions clock request fleet = .ok ranking) :
    s.rankInsertions clock' request others = .ok ranking := by
  obtain ⟨founds, hfounds, rfl⟩ := (rankInsertions_eq_ok_iff inTime).mp h
  obtain ⟨founds', hfounds', heq⟩ := hfounds.exists_ranked_eq distinct perm
  exact (rankInsertions_eq_ok_iff inTime').mpr ⟨founds', hfounds', heq⟩

theorem findBest_of_perm {outcome : Outcome α} (perm : fleet.Perm others)
    (distinct : DistinctVehicles fleet) (inTime : s.InTime clock fleet.length)
    (inTime' : s.InTime clock' others.length)
    (h : s.findBest clock request fleet = .ok outcome) :
    s.findBest clock' request others = .ok outcome := by
  obtain ⟨founds, hfounds, rfl⟩ := (findBest_eq_ok_iff inTime).mp h
  obtain ⟨founds', hfounds', heq⟩ := hfounds.exists_ranked_eq distinct perm
  refine (findBest_eq_ok_iff inTime').mpr ⟨founds', hfounds', ?_⟩
  rw [heq, perm.length_eq]

/-- **Neither answer depends on the order of the fleet**, when its vehicles have different numbers
and the time suffices for all of them, or for none. Where the drives that the request may need are
known, there are both answers. -/
theorem answers_of_perm (s : Search α) (request : Request α) (perm : fleet.Perm others)
    (distinct : DistinctVehicles fleet)
    (alike : s.InTime clock fleet.length ∧ s.InTime clock' fleet.length ∨
      s.Overdue clock fleet.length ∧ s.Overdue clock' fleet.length) :
    (∀ ranking, s.rankInsertions clock request fleet = .ok ranking ↔
      s.rankInsertions clock' request others = .ok ranking) ∧
    (∀ outcome, s.findBest clock request fleet = .ok outcome ↔
      s.findBest clock' request others = .ok outcome) ∧
    (s.Ready request fleet → ∃ ranking outcome,
      s.rankInsertions clock request fleet = .ok ranking ∧
      s.findBest clock request fleet = .ok outcome) := by
  have answered : s.Ready request fleet → ∃ ranking outcome,
      s.rankInsertions clock request fleet = .ok ranking ∧
      s.findBest clock request fleet = .ok outcome := fun ready => by
    obtain ⟨ranking, hranking⟩ := ready.exists_rankInsertions clock
    obtain ⟨outcome, houtcome⟩ := ready.exists_findBest clock
    exact ⟨ranking, outcome, hranking, houtcome⟩
  have hlength : fleet.length = others.length := perm.length_eq
  rcases alike with ⟨inTime, inTime'⟩ | ⟨overdue, overdue'⟩
  · have distinct' : DistinctVehicles others := (perm.map _).nodup_iff.mp distinct
    rw [hlength] at inTime'
    exact ⟨fun _ => ⟨rankInsertions_of_perm perm distinct inTime inTime',
        rankInsertions_of_perm perm.symm distinct' inTime' inTime⟩,
      fun _ => ⟨findBest_of_perm perm distinct inTime inTime',
        findBest_of_perm perm.symm distinct' inTime' inTime⟩, answered⟩
  · rw [hlength] at overdue'
    refine ⟨fun _ => ?_, fun _ => ?_, answered⟩
    · rw [(answers_of_overdue overdue).1, (answers_of_overdue overdue').1]
    · rw [(answers_of_overdue overdue).2, (answers_of_overdue overdue').2, hlength]

end Rearranged

end Search

namespace Sample

/-- A second vehicle with the same schedule. -/
def twin : Entry (Exact ℚ) := { entry with vehicle := { vehicle with id := 1 } }

theorem ready_twins : search.Ready request [entry, twin] where
  slacks := by
    have hslacks : entry.HasSlacks := Entry.hasSlacks_of_ofSlack built
    simp only [List.forall_mem_cons]
    exact ⟨hslacks, hslacks, fun _ h => absurd h List.not_mem_nil⟩
  answers _ _ _ _ _ _ := ⟨_, rfl⟩

end Sample

/-- Two vehicles with the same schedule, in either order: each offer to one ties in cost and
positions with an offer to the other. -/
theorem Search.answers_of_perm_sample :
    (List.Perm [Sample.entry, Sample.twin] [Sample.twin, Sample.entry] ∧
      Search.DistinctVehicles [Sample.entry, Sample.twin] ∧
      (Sample.search.InTime .still 2 ∧ Sample.search.InTime .still 2 ∨
        Sample.search.Overdue .still 2 ∧ Sample.search.Overdue .still 2) ∧
      Sample.search.Ready Sample.request [Sample.entry, Sample.twin]) ∧
    ∃ ranking outcome,
      (Sample.search.rankInsertions .still Sample.request [Sample.entry, Sample.twin]
          = .ok ranking ∧
        Sample.search.rankInsertions .still Sample.request [Sample.twin, Sample.entry]
          = .ok ranking) ∧
      Sample.search.findBest .still Sample.request [Sample.entry, Sample.twin] = .ok outcome ∧
        Sample.search.findBest .still Sample.request [Sample.twin, Sample.entry]
          = .ok outcome := by
  have perm : List.Perm [Sample.entry, Sample.twin] [Sample.twin, Sample.entry] := .swap _ _ _
  have distinct : Search.DistinctVehicles [Sample.entry, Sample.twin] := by
    show [0, 1].Nodup
    decide
  have alike : Sample.search.InTime .still 2 ∧ Sample.search.InTime .still 2 ∨
      Sample.search.Overdue .still 2 ∧ Sample.search.Overdue .still 2 :=
    .inl ⟨fun _ _ => rfl, fun _ _ => rfl⟩
  obtain ⟨hrank, hbest, answered⟩ :=
    Search.answers_of_perm Sample.search Sample.request perm distinct alike
  obtain ⟨ranking, outcome, hranking, houtcome⟩ := answered Sample.ready_twins
  exact ⟨⟨perm, distinct, alike, Sample.ready_twins⟩, ranking, outcome,
    ⟨hranking, (hrank ranking).mp hranking⟩, houtcome, (hbest outcome).mp houtcome⟩

end DialARide
