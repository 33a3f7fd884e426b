import DialARide.CommandLine.Run
import DialARide.Proofs.SnapshotSearch

/-!
# Listings

A listing shows the cheapest insertions of each request, a plain report only the best one. The two
are found in different ways, by sorting and by scanning, and agree about which requests can be
assigned (`Report.listing_agrees`); a listing of one insertion for each request is the plain report
(`Command.report_top_one`). The emptiness of a listing is looked at after it has been cut short,
though, so that a listing of no insertions at all shows no request as assignable
(`Report.listing_cut_to_nothing`).
-/

namespace DialARide

variable {α : Type} [Scalar α]

/-! ## 1. Both answers -/

namespace Search

variable {s : Search α} {request : Request α} {fleet : List (Entry α)} {clock clock' : Clock}

/-- The time is up for all vehicles on both clocks, or for none on either. -/
def SkipsAlike (s : Search α) (clock clock' : Clock) (count : Nat) : Prop :=
  (s.InTime clock count ∧ s.InTime clock' count) ∨
    ∀ position < count, s.outOfTime (clock position) = true ∧ s.outOfTime (clock' position) = true

omit [Scalar α] in
/-- A clock that stands still does not tell vehicles apart. -/
theorem skipsAlike_still (s : Search α) (count : Nat) : s.SkipsAlike .still .still count := by
  cases h : s.outOfTime .zero with
  | false => exact .inl ⟨fun _ _ => h, fun _ _ => h⟩
  | true => exact .inr fun _ _ => ⟨h, h⟩

/-- Sorting and scanning have the same first choice. -/
theorem Ready.exists_answers [Std.TransOrd α] (ready : s.Ready request fleet)
    (alike : s.SkipsAlike clock clock' fleet.length) :
    ∃ ranking outcome, s.rankInsertions clock request fleet = .ok ranking ∧
      s.findBest clock' request fleet = .ok outcome ∧ outcome.best = ranking.head? := by
  rcases alike with ⟨inTime, inTime'⟩ | overdue
  · obtain ⟨offers, hoffers⟩ := ready.exists_offers
    exact ⟨_, _, rankInsertions_of_inTime inTime hoffers, findBest_of_inTime inTime' hoffers, rfl⟩
  · have hranking : s.rankInsertions clock request fleet = .ok [] :=
      (answers_of_overdue fun position hlt => (overdue position hlt).1).1
    have houtcome : s.findBest clock' request fleet = .ok ⟨none, 0, fleet.length⟩ :=
      (answers_of_overdue fun position hlt => (overdue position hlt).2).2
    exact ⟨_, _, hranking, houtcome, rfl⟩

end Search

/-! ## 2. The rows of a request -/

namespace Report

variable {display : α → String} {search : Search α} {clock clock' : Clock}
  {fleet : List (Entry α)} {request : Request α} {ranking : List (Scored α)}
  {outcome : Search.Outcome α}

/-- The ranking as far as it is asked for; without any insertion a row that says so. -/
theorem topRows_eq (count : Nat)
    (hranking : search.rankInsertions clock request fleet = .ok ranking) :
    topRows display search clock fleet count request
      = .ok ((ranking.take count).map (insertionRow display request fleet)
        ++ if ranking.head?.isNone ∨ count = 0 then [unassignableRow request] else []) := by
  have hempty : (ranking.take count).isEmpty = true ↔ ranking.head?.isNone ∨ count = 0 := by
    rw [List.isEmpty_iff, List.take_eq_nil_iff, Option.isNone_iff_eq_none, List.head?_eq_none_iff,
      or_comm]
  rw [topRows, hranking]
  show (if (ranking.take count).isEmpty = true then _ else _) = _
  by_cases h : ranking.head?.isNone ∨ count = 0
  · rw [if_pos (hempty.mpr h), if_pos h, List.isEmpty_iff.mp (hempty.mpr h)]
    rfl
  · rw [if_neg (mt hempty.mp h), if_neg h, List.append_nil]
    rfl

/-- Cut to one insertion, the rows are the row of the plain report. -/
theorem topRows_one (hranking : search.rankInsertions clock request fleet = .ok ranking)
    (houtcome : search.findBest clock' request fleet = .ok outcome)
    (hbest : outcome.best = ranking.head?) :
    ∃ row, topRows display search clock fleet 1 request = .ok [row] ∧
      bestRow display search clock' fleet request = .ok row := by
  rw [topRows_eq 1 hranking, bestRow, houtcome]
  cases ranking with
  | nil => exact ⟨unassignableRow request, rfl, congrArg Except.ok (by rw [hbest]; rfl)⟩
  | cons best rest =>
    exact ⟨insertionRow display request fleet best, rfl, congrArg Except.ok (by rw [hbest]; rfl)⟩

/-! ## 3. Whole listings -/

/-- A listing is made of the rows of its requests, one after the other. -/
theorem exists_listingRows {requests : List (Request α)} {count : Nat}
    {R : Request α → List (List String) → Prop}
    (h : ∀ request ∈ requests, ∃ block,
      topRows display search clock fleet count request = .ok block ∧ R request block) :
    ∃ blocks, listingRows display search clock fleet count requests = .ok blocks.flatten ∧
      List.Forall₂ R requests blocks := by
  obtain ⟨blocks, hblocks⟩ := exists_forall₂ h
  have hrows : requests.mapM (topRows display search clock fleet count) = .ok blocks :=
    mapM_eq_ok_iff.mpr (hblocks.imp fun _ _ h => h.1)
  refine ⟨blocks, ?_, hblocks.imp fun _ _ h => h.2⟩
  rw [listingRows, hrows]
  rfl

theorem listingRows_one_eq_bestRows [Std.TransOrd α] (display : α → String)
    {requests : List (Request α)} (ready : ∀ request ∈ requests, search.Ready request fleet)
    (alike : search.SkipsAlike clock clock' fleet.length) :
    listingRows display search clock fleet 1 requests
      = bestRows display search clock' fleet requests := by
  have hrows : ∀ request ∈ requests, ∃ row,
      topRows display search clock fleet 1 request = .ok [row] ∧
        bestRow display search clock' fleet request = .ok row := by
    intro request hrequest
    obtain ⟨ranking, outcome, hranking, houtcome, hbest⟩ :=
      (ready request hrequest).exists_answers alike
    exact topRows_one hranking houtcome hbest
  obtain ⟨rows, hrows⟩ := exists_forall₂ hrows
  have hlisted : requests.mapM (topRows display search clock fleet 1)
      = .ok (rows.map fun row => [row]) :=
    mapM_eq_ok_iff.mpr (List.forall₂_map_right_iff.mpr (hrows.imp fun _ _ h => h.1))
  have hplain : requests.mapM (bestRow display search clock' fleet) = .ok rows :=
    mapM_eq_ok_iff.mpr (hrows.imp fun _ _ h => h.2)
  rw [listingRows, bestRows, hlisted, hplain]
  exact congrArg Except.ok (List.flatMap_singleton' rows)

/-- **A listing agrees with the plain report.** For every request of an accepted snapshot it has the
rows of as many insertions as are asked for and its ranking has, the cheapest ones; and the row that
says that there is none, when the search for the best one finds none. That row also comes when no
insertions are asked for. A listing of one insertion for each request has the rows of the plain
report. -/
theorem listing_agrees [Geometry α] [Std.TransOrd α] {file : SnapshotFile α}
    {snapshot : Snapshot α} (accepted : Snapshot.ofFile file = .ok snapshot)
    (display : α → String) (settings : Settings α) (count : Nat)
    (alike : (Search.ofSettings snapshot.estimator.time settings).SkipsAlike clock clock'
      snapshot.fleet.length) :
    let search := Search.ofSettings snapshot.estimator.time settings
    (∃ blocks, listingRows display search clock snapshot.fleet count snapshot.requests
        = .ok blocks.flatten ∧
      List.Forall₂ (fun request block => ∃ ranking outcome,
        search.rankInsertions clock request snapshot.fleet = .ok ranking ∧
        search.findBest clock' request snapshot.fleet = .ok outcome ∧
        block = (ranking.take count).map (insertionRow display request snapshot.fleet)
          ++ if outcome.best.isNone ∨ count = 0 then [unassignableRow request] else [])
        snapshot.requests blocks) ∧
    listingRows display search clock snapshot.fleet 1 snapshot.requests
      = bestRows display search clock' snapshot.fleet snapshot.requests := by
  intro search
  have ready : ∀ request ∈ snapshot.requests, search.Ready request snapshot.fleet :=
    fun request hrequest => (Snapshot.consistent_of_ofFile accepted).ready_time hrequest settings
  refine ⟨exists_listingRows fun request hrequest => ?_,
    listingRows_one_eq_bestRows display ready alike⟩
  obtain ⟨ranking, outcome, hranking, houtcome, hbest⟩ :=
    (ready request hrequest).exists_answers alike
  exact ⟨_, topRows_eq count hranking, ranking, outcome, hranking, houtcome, by rw [hbest]⟩

/-- The sample request in a listing of two insertions at most, and in a listing of one. -/
theorem listing_agrees_sample :
    let search := Search.ofSettings Sample.snapshot.estimator.time .standard
    (Snapshot.ofFile Sample.file = .ok Sample.snapshot ∧
      search.SkipsAlike .still .still Sample.snapshot.fleet.length) ∧
    ∀ display,
      (∃ block ranking outcome,
        listingRows display search .still Sample.snapshot.fleet 2 Sample.snapshot.requests
          = .ok block ∧
        search.rankInsertions .still Sample.request Sample.snapshot.fleet = .ok ranking ∧
        search.findBest .still Sample.request Sample.snapshot.fleet = .ok outcome ∧
        block = (ranking.take 2).map (insertionRow display Sample.request Sample.snapshot.fleet)
          ++ if outcome.best.isNone ∨ 2 = 0 then [unassignableRow Sample.request] else []) ∧
      listingRows display search .still Sample.snapshot.fleet 1 Sample.snapshot.requests
        = bestRows display search .still Sample.snapshot.fleet Sample.snapshot.requests := by
  have alike := Search.skipsAlike_still
    (Search.ofSettings Sample.snapshot.estimator.time .standard) Sample.snapshot.fleet.length
  refine ⟨⟨Sample.accepted, alike⟩, fun display => ?_⟩
  obtain ⟨⟨blocks, hlisted, hblocks⟩, hplain⟩ :=
    listing_agrees Sample.accepted display .standard 2 alike
  obtain ⟨block, rest, ⟨ranking, outcome, hranking, houtcome, hblock⟩, hrest, rfl⟩ :=
    List.forall₂_cons_left_iff.mp hblocks
  cases hrest
  rw [List.flatten_singleton] at hlisted
  exact ⟨⟨block, ranking, outcome, hlisted, hranking, houtcome, hblock⟩, hplain⟩

/-- One vehicle at least could take the sample request. -/
theorem exists_sampleOffer : ∃ entry ∈ Sample.snapshot.fleet, ∃ found offer,
    (Search.ofSettings Sample.snapshot.estimator.time .standard).evaluateVehicle Sample.request
      entry = .ok found ∧ offer ∈ found := by
  refine ⟨_, List.mem_cons_self, _, _, rfl,
    ranked_perm.mem_iff.mpr (List.mem_filter.mpr ⟨List.mem_cons_self, ?_⟩)⟩
  decide +kernel

/-- A listing of no insertions shows the sample request as one that cannot be assigned, although the
search assigns it. -/
theorem listing_cut_to_nothing :
    Snapshot.ofFile Sample.file = .ok Sample.snapshot ∧
    let search := Search.ofSettings Sample.snapshot.estimator.time .standard
    (∃ outcome, search.findBest .still Sample.request Sample.snapshot.fleet = .ok outcome ∧
      outcome.best.isSome) ∧
    ∀ display, listingRows display search .still Sample.snapshot.fleet 0 Sample.snapshot.requests
      = .ok [unassignableRow Sample.request] := by
  have consistent := Snapshot.consistent_of_ofFile Sample.accepted
  have ready := consistent.ready_time List.mem_cons_self .standard
  have inTime : (Search.ofSettings Sample.snapshot.estimator.time .standard).InTime .still
      Sample.snapshot.fleet.length := fun _ _ => rfl
  refine ⟨Sample.accepted, ?_, fun display => ?_⟩
  · obtain ⟨entry, hentry, found, offer, hfound, hoffer⟩ := exists_sampleOffer
    obtain ⟨outcome, houtcome⟩ := ready.exists_findBest .still
    obtain ⟨founds, hfounds, rfl⟩ := (Search.findBest_eq_ok_iff inTime).mp houtcome
    -- the ranking is not empty, since something is found for one of the vehicles
    have hmem : offer ∈ ranked Scored.rank founds.flatten := by
      have hlisted : found ∈ founds := hfounds.mem_iff.mpr ⟨entry, hentry, hfound⟩
      exact ranked_perm.mem_iff.mpr (List.mem_flatten.mpr ⟨found, hlisted, hoffer⟩)
    exact ⟨_, houtcome, List.isSome_head?.mpr (List.ne_nil_of_mem hmem)⟩
  · obtain ⟨ranking, hranking⟩ := ready.exists_rankInsertions .still
    have hrows : topRows display _ .still Sample.snapshot.fleet 0 Sample.request = .ok _ :=
      topRows_eq 0 hranking
    show List.flatten <$> [Sample.request].mapM _ = _
    rw [List.mapM_cons, hrows, if_pos (.inr rfl)]
    rfl

end Report

/-- **One insertion for each request is the plain report**, as the program prints it. -/
theorem Command.report_top_one {file : SnapshotFile Float} {snapshot : Snapshot Float}
    (accepted : Snapshot.ofFile file = .ok snapshot) (command : InsertCommand)
    (settings : Settings Float) :
    report { command with top := some 1 } settings snapshot
      = report { command with top := none, json := false } settings snapshot := by
  have ready : ∀ request ∈ snapshot.requests,
      (Search.ofSettings snapshot.estimator.time settings).Ready request snapshot.fleet :=
    fun request hrequest => (Snapshot.consistent_of_ofFile accepted).ready_time hrequest settings
  have hrows := Report.listingRows_one_eq_bestRows tableNumber ready
    (Search.skipsAlike_still _ snapshot.fleet.length)
  exact congrArg (· >>= fun rows => pure (Text.Table.render Report.header rows)) hrows

end DialARide
