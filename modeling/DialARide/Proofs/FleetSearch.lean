import DialARide.Proofs.Pricing
import DialARide.Proofs.Ranking
import Mathlib.Data.List.Perm.Basic

/-!
# Fleet search

Both questions about a fleet are answered from the same evaluations of its vehicles. The ranking of
the fleet sorts the rankings of the vehicles once more, the best insertion is sought among their
heads only; nevertheless the latter is always the head of the former (`Search.rank_and_best`).
-/

namespace DialARide

/-! ## 1. Working through a list -/

section Lists

variable {ε β γ : Type}

/-- A list is worked through without a fault when each of its elements is. -/
theorem mapM_eq_ok_iff {f : β → Except ε γ} {items : List β} {results : List γ} :
    items.mapM f = .ok results ↔
      List.Forall₂ (fun item result => f item = .ok result) items results := by
  induction items generalizing results with
  | nil =>
    rw [List.mapM_nil, List.forall₂_nil_left_iff]
    constructor
    · intro h
      cases h
      rfl
    · rintro rfl
      rfl
  | cons item rest ih =>
    rw [List.mapM_cons, bind_eq_ok, List.forall₂_cons_left_iff]
    constructor
    · intro h
      obtain ⟨result, hresult, h⟩ := h
      obtain ⟨others, hothers, h⟩ := bind_eq_ok.mp h
      cases h
      exact ⟨result, others, hresult, ih.mp hothers, rfl⟩
    · intro h
      obtain ⟨result, others, hresult, hothers, rfl⟩ := h
      exact ⟨result, hresult, bind_eq_ok.mpr ⟨others, ih.mpr hothers, rfl⟩⟩

/-- What is found for a list is what is found for its elements. -/
theorem mem_of_mapM_eq_ok {f : β → Except ε γ} {items : List β} {results : List γ} {result : γ}
    (h : items.mapM f = .ok results) :
    result ∈ results ↔ ∃ item ∈ items, f item = .ok result := by
  have hall := mapM_eq_ok_iff.mp h
  clear h
  induction hall with
  | nil => simp
  | cons hfirst _ ih => simp [ih, hfirst, eq_comm]

theorem exists_forall₂ {R : β → γ → Prop} {items : List β}
    (h : ∀ item ∈ items, ∃ result, R item result) : ∃ results, List.Forall₂ R items results := by
  induction items with
  | nil => exact ⟨[], .nil⟩
  | cons item rest ih =>
    rw [List.forall_mem_cons] at h
    obtain ⟨result, hresult⟩ := h.1
    obtain ⟨results, hresults⟩ := ih h.2
    exact ⟨result :: results, .cons hresult hresults⟩

end Lists

variable {α : Type} [Scalar α]

namespace Search

/-! ## 2. Offers -/

/-- All insertions of a request into each vehicle of a fleet, feasible or not. -/
def Offers (s : Search α) (request : Request α) (fleet : List (Entry α))
    (offers : List (List (Scored α))) : Prop :=
  List.Forall₂ (fun entry => List.Forall₂ (s.Prices request entry) (entry.insertions request))
    fleet offers

/-- The schedules have their slacks, and the estimator knows the drives that the request may
need. -/
structure Ready (s : Search α) (request : Request α) (fleet : List (Entry α)) : Prop where
  slacks : ∀ entry ∈ fleet, entry.HasSlacks
  answers : ∀ entry ∈ fleet, s.driveTime.Answers (entry.places request)

variable {s : Search α} {request : Request α} {entry : Entry α} {fleet : List (Entry α)}
  {clock : Clock}

theorem Ready.exists_offersOf (ready : s.Ready request fleet) (hentry : entry ∈ fleet) :
    ∃ offers, List.Forall₂ (s.Prices request entry) (entry.insertions request) offers :=
  exists_forall₂ fun _ hinsertion =>
    exists_prices (ready.answers entry hentry) (ready.slacks entry hentry) hinsertion

theorem Ready.exists_offers (ready : s.Ready request fleet) :
    ∃ offers, s.Offers request fleet offers :=
  exists_forall₂ fun _ hentry => ready.exists_offersOf hentry

/-- The feasible offers of one vehicle, cheapest first. -/
def rankedOffers (offers : List (Scored α)) : List (Scored α) :=
  ranked Scored.rank (offers.filter (feasible ·.cost))

theorem evaluateVehicle_eq_ok {offers : List (Scored α)}
    (h : List.Forall₂ (s.Prices request entry) (entry.insertions request) offers) :
    s.evaluateVehicle request entry = .ok (rankedOffers offers) := by
  refine bind_eq_ok.mpr ⟨offers, mapM_eq_ok_iff.mpr ?_, rfl⟩
  exact h.imp fun _ _ => score_eq_ok_iff.mpr

/-- What is offered for a schedule: its insertions at their own prices, as far as they are
feasible. -/
theorem mem_of_evaluateVehicle_eq_ok {found : List (Scored α)} {offer : Scored α}
    (returned : s.evaluateVehicle request entry = .ok found) :
    offer ∈ found ↔
      (∃ insertion ∈ entry.insertions request, s.Prices request entry insertion offer) ∧
        feasible offer.cost = true := by
  obtain ⟨scored, hscored, h⟩ := bind_eq_ok.mp returned
  cases h
  rw [ranked_perm.mem_iff, List.mem_filter, mem_of_mapM_eq_ok hscored]
  simp only [score_eq_ok_iff]

/-! ## 3. Evaluating a fleet -/

/-- What is found for one vehicle, unless the time is up. -/
def evaluateUnless (s : Search α) (request : Request α) (overdue : Bool) (entry : Entry α) :
    Except Fault (Option (List (Scored α))) :=
  if overdue then return none else some <$> s.evaluateVehicle request entry

/-- The first vehicle is evaluated on the first reading of the clock, the others on later ones. -/
theorem evaluateFleet_cons :
    s.evaluateFleet clock request (entry :: fleet) =
      s.evaluateUnless request (s.outOfTime (clock 0)) entry >>= fun found =>
        s.evaluateFleet (fun position => clock (position + 1)) request fleet >>= fun others =>
          return found :: others := by
  have hshift : fleet.mapIdx (fun position entry => (position + 1, entry))
      = (fleet.mapIdx Prod.mk).map fun item => (item.1 + 1, item.2) := by
    rw [List.mapIdx_eq_zipIdx_map, List.mapIdx_eq_zipIdx_map, List.map_map]
    rfl
  unfold evaluateFleet
  rw [List.mapIdx_cons, List.mapM_cons, hshift, List.mapM_map]
  rfl

/-- A schedule of the fleet is evaluated without a fault. -/
theorem Ready.exists_evaluateVehicle (ready : s.Ready request fleet) (hentry : entry ∈ fleet) :
    ∃ found, s.evaluateVehicle request entry = .ok found := by
  obtain ⟨offers, hoffers⟩ := ready.exists_offersOf hentry
  exact ⟨_, evaluateVehicle_eq_ok hoffers⟩

/-- Whatever the clock shows, the fleet is evaluated without a fault. -/
theorem Ready.exists_evaluateFleet (ready : s.Ready request fleet) (clock : Clock) :
    ∃ evaluations, s.evaluateFleet clock request fleet = .ok evaluations := by
  have hall : ∃ evaluations, List.Forall₂ (fun (item : Nat × Entry α) found =>
      s.evaluateUnless request (s.outOfTime (clock item.1)) item.2 = .ok found)
      (fleet.mapIdx Prod.mk) evaluations := by
    refine exists_forall₂ fun item hitem => ?_
    obtain ⟨position, hlt, rfl⟩ := List.mem_mapIdx.mp hitem
    obtain ⟨found, hfound⟩ := ready.exists_evaluateVehicle (List.getElem_mem hlt)
    unfold evaluateUnless
    split
    · exact ⟨_, rfl⟩
    · exact ⟨some found, by rw [hfound]; rfl⟩
  obtain ⟨evaluations, hall⟩ := hall
  exact ⟨evaluations, mapM_eq_ok_iff.mpr hall⟩

/-- No vehicle is skipped. -/
def InTime (s : Search α) (clock : Clock) (count : Nat) : Prop :=
  ∀ position < count, s.outOfTime (clock position) = false

/-- What is found for each vehicle of a fleet. -/
def Finds (s : Search α) (request : Request α) (fleet : List (Entry α))
    (founds : List (List (Scored α))) : Prop :=
  List.Forall₂ (fun entry found => s.evaluateVehicle request entry = .ok found) fleet founds

theorem Offers.finds {offers : List (List (Scored α))} (h : s.Offers request fleet offers) :
    s.Finds request fleet (offers.map rankedOffers) :=
  List.forall₂_map_right_iff.mpr (h.imp fun _ _ => evaluateVehicle_eq_ok)

theorem Finds.mem_iff {founds : List (List (Scored α))} {found : List (Scored α)}
    (h : s.Finds request fleet founds) :
    found ∈ founds ↔ ∃ entry ∈ fleet, s.evaluateVehicle request entry = .ok found :=
  mem_of_mapM_eq_ok (mapM_eq_ok_iff.mpr h)

theorem evaluateUnless_false_eq_ok_iff {evaluation : Option (List (Scored α))} :
    s.evaluateUnless request false entry = .ok evaluation ↔
      ∃ found, s.evaluateVehicle request entry = .ok found ∧ evaluation = some found := by
  unfold evaluateUnless
  cases s.evaluateVehicle request entry with
  | error e =>
    constructor
    · intro h
      cases h
    · intro h
      obtain ⟨_, h, -⟩ := h
      cases h
  | ok found =>
    constructor
    · intro h
      cases h
      exact ⟨found, rfl, rfl⟩
    · intro h
      obtain ⟨_, h, rfl⟩ := h
      cases h
      rfl

theorem evaluateFleet_eq_ok_iff (inTime : s.InTime clock fleet.length)
    {evaluations : List (Option (List (Scored α)))} :
    s.evaluateFleet clock request fleet = .ok evaluations ↔
      ∃ founds, s.Finds request fleet founds ∧ evaluations = founds.map some := by
  induction fleet generalizing clock evaluations with
  | nil =>
    constructor
    · intro h
      cases h
      exact ⟨[], .nil, rfl⟩
    · intro h
      obtain ⟨founds, hfounds, rfl⟩ := h
      cases hfounds
      rfl
  | cons entry rest ih =>
    have hfirst : s.outOfTime (clock 0) = false := inTime 0 (Nat.succ_pos _)
    have hothers : s.InTime (fun position => clock (position + 1)) rest.length :=
      fun position hlt => inTime (position + 1) (Nat.succ_lt_succ hlt)
    rw [evaluateFleet_cons, hfirst, bind_eq_ok]
    constructor
    · intro h
      obtain ⟨first, hevaluation, h⟩ := h
      obtain ⟨others, hrest, h⟩ := bind_eq_ok.mp h
      cases h
      obtain ⟨found, hfound, rfl⟩ := evaluateUnless_false_eq_ok_iff.mp hevaluation
      obtain ⟨founds, hfounds, rfl⟩ := (ih hothers).mp hrest
      exact ⟨found :: founds, .cons hfound hfounds, rfl⟩
    · intro h
      obtain ⟨founds, hfounds, rfl⟩ := h
      obtain ⟨found, rest, hfound, hrest, rfl⟩ := List.forall₂_cons_left_iff.mp hfounds
      exact ⟨some found, evaluateUnless_false_eq_ok_iff.mpr ⟨found, hfound, rfl⟩,
        bind_eq_ok.mpr ⟨rest.map some, (ih hothers).mpr ⟨rest, hrest, rfl⟩, rfl⟩⟩

theorem evaluateFleet_of_overdue
    (overdue : ∀ position < fleet.length, s.outOfTime (clock position) = true) :
    s.evaluateFleet clock request fleet = .ok (List.replicate fleet.length none) := by
  induction fleet generalizing clock with
  | nil => rfl
  | cons entry rest ih =>
    have hfirst : s.outOfTime (clock 0) = true := overdue 0 (Nat.succ_pos _)
    have hothers := ih fun position hlt => overdue (position + 1) (Nat.succ_lt_succ hlt)
    rw [evaluateFleet_cons, hfirst, hothers]
    rfl

/-! ## 4. The two answers -/

/-- Every feasible insertion of the fleet, each with its own timing and cost, in ascending order. -/
structure IsRanking (s : Search α) (request : Request α) (fleet : List (Entry α))
    (ranking : List (Scored α)) : Prop where
  complete : ∃ offers, s.Offers request fleet offers ∧
    ranking.Perm (offers.flatten.filter (feasible ·.cost))
  ascending : ranking.Pairwise fun a b => (a.rank b).isLE

section Answers

variable {offers : List (List (Scored α))}

/-- The rankings of the vehicles are made of the feasible offers. -/
theorem perm_flatten_rankedOffers (offers : List (List (Scored α))) :
    (offers.map rankedOffers).flatten.Perm (offers.flatten.filter (feasible ·.cost)) := by
  rw [List.filter_flatten, ← List.flatMap_def, ← List.flatMap_def]
  exact List.Perm.flatMap_left offers fun _ _ => ranked_perm

/-- Nothing is lost when no vehicle is skipped. -/
theorem filterMap_map_some {β : Type} (lists : List β) :
    (lists.map some).filterMap id = lists := by
  rw [List.filterMap_map]
  exact List.filterMap_some

theorem isRanking_of_offers [Std.TransOrd α] (h : s.Offers request fleet offers) :
    s.IsRanking request fleet (ranked Scored.rank (offers.map rankedOffers).flatten) where
  complete := ⟨offers, h, ranked_perm.trans (perm_flatten_rankedOffers offers)⟩
  ascending := pairwise_ranked

/-- The ranking of a fleet sorts what is found for its vehicles. -/
theorem rankInsertions_eq_ok_iff (inTime : s.InTime clock fleet.length)
    {ranking : List (Scored α)} :
    s.rankInsertions clock request fleet = .ok ranking ↔
      ∃ founds, s.Finds request fleet founds ∧ ranking = ranked Scored.rank founds.flatten := by
  rw [rankInsertions, bind_eq_ok]
  simp only [evaluateFleet_eq_ok_iff inTime]
  constructor
  · intro h
    obtain ⟨_, ⟨founds, hfounds, rfl⟩, h⟩ := h
    cases h
    rw [filterMap_map_some]
    exact ⟨founds, hfounds, rfl⟩
  · intro h
    obtain ⟨founds, hfounds, rfl⟩ := h
    refine ⟨_, ⟨founds, hfounds, rfl⟩, ?_⟩
    rw [filterMap_map_some]
    rfl

/-- What is found for a vehicle is in ascending order. -/
theorem pairwise_of_evaluateVehicle_eq_ok [Std.TransOrd α] {found : List (Scored α)}
    (returned : s.evaluateVehicle request entry = .ok found) :
    found.Pairwise fun a b => (Scored.rank a b).isLE := by
  obtain ⟨scored, -, h⟩ := bind_eq_ok.mp returned
  cases h
  exact pairwise_ranked

/-- What is chosen from the heads of all that is found, when no vehicle is skipped. -/
theorem Finds.foldl_better [Std.TransOrd α] {founds : List (List (Scored α))}
    (h : s.Finds request fleet founds) :
    (((founds.map some).filterMap id).filterMap List.head?).foldl better none
      = (ranked Scored.rank founds.flatten).head? := by
  have hsorted : ∀ items ∈ founds, items.Pairwise fun a b => (Scored.rank a b).isLE := by
    intro items hitems
    obtain ⟨entry, -, hfound⟩ := h.mem_iff.mp hitems
    exact pairwise_of_evaluateVehicle_eq_ok hfound
  rw [filterMap_map_some, foldl_better_heads hsorted, foldl_better_none]

/-- The best insertion is the head of the ranking. -/
theorem findBest_eq_ok_iff [Std.TransOrd α] (inTime : s.InTime clock fleet.length)
    {outcome : Outcome α} :
    s.findBest clock request fleet = .ok outcome ↔
      ∃ founds, s.Finds request fleet founds ∧
        outcome = ⟨(ranked Scored.rank founds.flatten).head?, fleet.length, 0⟩ := by
  have hskipped : ∀ founds : List (List (Scored α)),
      (founds.map some).countP Option.isNone = 0 := by
    intro founds
    rw [List.countP_map, List.countP_eq_zero]
    exact fun _ _ => Bool.false_ne_true
  rw [findBest, bind_eq_ok]
  simp only [evaluateFleet_eq_ok_iff inTime]
  constructor
  · intro h
    obtain ⟨_, ⟨founds, hfounds, rfl⟩, h⟩ := h
    cases h
    rw [hfounds.foldl_better, hskipped]
    exact ⟨founds, hfounds, rfl⟩
  · intro h
    obtain ⟨founds, hfounds, rfl⟩ := h
    refine ⟨_, ⟨founds, hfounds, rfl⟩, ?_⟩
    rw [hfounds.foldl_better, hskipped]
    rfl

theorem rankInsertions_of_inTime (inTime : s.InTime clock fleet.length)
    (h : s.Offers request fleet offers) :
    s.rankInsertions clock request fleet
      = .ok (ranked Scored.rank (offers.map rankedOffers).flatten) :=
  (rankInsertions_eq_ok_iff inTime).mpr ⟨_, h.finds, rfl⟩

theorem findBest_of_inTime [Std.TransOrd α] (inTime : s.InTime clock fleet.length)
    (h : s.Offers request fleet offers) :
    s.findBest clock request fleet
      = .ok ⟨(ranked Scored.rank (offers.map rankedOffers).flatten).head?, fleet.length, 0⟩ :=
  (findBest_eq_ok_iff inTime).mpr ⟨_, h.finds, rfl⟩

/-- When every vehicle is skipped there is nothing to rank or to choose from. -/
theorem answers_of_overdue
    (overdue : ∀ position < fleet.length, s.outOfTime (clock position) = true) :
    s.rankInsertions clock request fleet = .ok [] ∧
      s.findBest clock request fleet = .ok ⟨none, 0, fleet.length⟩ := by
  have heval : s.evaluateFleet clock request fleet = _ := evaluateFleet_of_overdue overdue
  have hnone : (List.replicate fleet.length (none : Option (List (Scored α)))).filterMap id
      = [] := List.filterMap_replicate_of_none rfl
  have hskipped : (List.replicate fleet.length (none : Option (List (Scored α)))).countP
      Option.isNone = fleet.length := by
    rw [List.countP_replicate]
    rfl
  constructor
  · refine bind_eq_ok.mpr ⟨_, heval, ?_⟩
    rw [hnone]
    show Except.ok (ranked Scored.rank []) = _
    rw [ranked, List.mergeSort_nil]
  · refine bind_eq_ok.mpr ⟨_, heval, ?_⟩
    dsimp only
    rw [hnone, hskipped, Nat.sub_self]
    rfl

theorem Ready.exists_rankInsertions (ready : s.Ready request fleet) (clock : Clock) :
    ∃ ranking, s.rankInsertions clock request fleet = .ok ranking := by
  obtain ⟨evaluations, heval⟩ := ready.exists_evaluateFleet clock
  exact ⟨_, bind_eq_ok.mpr ⟨evaluations, heval, rfl⟩⟩

theorem Ready.exists_findBest (ready : s.Ready request fleet) (clock : Clock) :
    ∃ outcome, s.findBest clock request fleet = .ok outcome := by
  obtain ⟨evaluations, heval⟩ := ready.exists_evaluateFleet clock
  exact ⟨_, bind_eq_ok.mpr ⟨evaluations, heval, rfl⟩⟩

/-- What is counted: a vehicle that is not skipped is evaluated. -/
theorem findBest_counts {outcome : Outcome α} (h : s.findBest clock request fleet = .ok outcome) :
    outcome.evaluatedVehicles + outcome.skippedVehicles = fleet.length := by
  obtain ⟨evaluations, heval, h⟩ := bind_eq_ok.mp h
  cases h
  have hlength : evaluations.length = fleet.length := by
    have hlength := (mapM_eq_ok_iff.mp heval).length_eq
    rw [← hlength, List.length_mapIdx]
  have hskipped : evaluations.countP Option.isNone ≤ evaluations.length := List.countP_le_length
  exact Nat.sub_add_cancel (hlength ▸ hskipped)

omit [Scalar α] in
/-- A deadline that is over before the search begins skips every vehicle. -/
theorem outOfTime_of_nonpos {deadline elapsed : SignedDuration} (hs : s.deadline = some deadline)
    (hd : deadline.nanoseconds ≤ 0) (he : 0 ≤ elapsed.nanoseconds) :
    s.outOfTime elapsed = true := by
  rw [outOfTime, hs]
  exact decide_eq_true (hd.trans he)

end Answers

/-- **The ranking is complete and the best insertion is its head**, on whatever clocks the two are
asked for, as long as no vehicle is skipped. Skipped vehicles are counted, and a deadline without
any time leaves no insertion. -/
theorem rank_and_best [Std.TransOrd α] (s : Search α) (request : Request α)
    (fleet : List (Entry α)) :
    (s.Ready request fleet → ∀ clock clock', s.InTime clock fleet.length →
      s.InTime clock' fleet.length → ∃ ranking outcome,
        s.rankInsertions clock request fleet = .ok ranking ∧
        s.findBest clock' request fleet = .ok outcome ∧
        s.IsRanking request fleet ranking ∧
        outcome.best = ranking.head? ∧ (outcome.best = none ↔ ranking = []) ∧
        outcome.skippedVehicles = 0) ∧
    (∀ clock outcome, s.findBest clock request fleet = .ok outcome →
      outcome.evaluatedVehicles + outcome.skippedVehicles = fleet.length) ∧
    (∀ deadline, s.deadline = some deadline → deadline.nanoseconds ≤ 0 →
      ∀ clock : Clock, (∀ position, 0 ≤ (clock position).nanoseconds) →
        s.rankInsertions clock request fleet = .ok [] ∧
        s.findBest clock request fleet = .ok ⟨none, 0, fleet.length⟩) := by
  refine ⟨?_, fun clock outcome h => findBest_counts h, ?_⟩
  · intro ready clock clock' inTime inTime'
    obtain ⟨offers, hoffers⟩ := ready.exists_offers
    exact ⟨_, _, rankInsertions_of_inTime inTime hoffers, findBest_of_inTime inTime' hoffers,
      isRanking_of_offers hoffers, rfl, List.head?_eq_none_iff, rfl⟩
  · intro deadline hs hd clock hclock
    exact answers_of_overdue fun position _ => outOfTime_of_nonpos hs hd (hclock position)

end Search

namespace Sample

/-- Locations on a line, ten seconds apart; no lateness and no deadline. -/
def search : Search (Exact ℚ) := ⟨DriveTime.line (.finite 10), .finite 60, .reject, none⟩

/-- Two vehicles that cannot be told apart. -/
def fleet : List (Entry (Exact ℚ)) := [entry, entry]

theorem ready : search.Ready request fleet where
  slacks := by
    show ∀ e ∈ [entry, entry], e.HasSlacks
    simp only [List.forall_mem_cons]
    have hslacks : entry.HasSlacks := Entry.hasSlacks_of_ofSlack built
    exact ⟨hslacks, hslacks, fun _ h => absurd h List.not_mem_nil⟩
  answers _ _ _ _ _ _ := ⟨_, rfl⟩

end Sample

/-- Two equal vehicles, so that every offer is tied with another one; and no time for them. -/
theorem Search.rank_and_best_sample :
    (Sample.search.Ready Sample.request Sample.fleet ∧
      Sample.search.InTime .still Sample.fleet.length ∧ SignedDuration.zero.nanoseconds ≤ 0) ∧
    (∃ ranking outcome,
      Sample.search.rankInsertions .still Sample.request Sample.fleet = .ok ranking ∧
      Sample.search.findBest .still Sample.request Sample.fleet = .ok outcome ∧
      Sample.search.IsRanking Sample.request Sample.fleet ranking ∧
      outcome.best = ranking.head? ∧ (outcome.best = none ↔ ranking = []) ∧
      outcome.skippedVehicles = 0) ∧
    { Sample.search with deadline := some .zero }.findBest .still Sample.request Sample.fleet
      = .ok ⟨none, 0, 2⟩ :=
  ⟨⟨Sample.ready, fun _ _ => rfl, le_rfl⟩,
    (Search.rank_and_best Sample.search Sample.request Sample.fleet).1 Sample.ready .still .still
      (fun _ _ => rfl) fun _ _ => rfl,
    ((Search.rank_and_best { Sample.search with deadline := some .zero } Sample.request
      Sample.fleet).2.2 .zero rfl le_rfl .still fun _ => le_rfl).2⟩

end DialARide
