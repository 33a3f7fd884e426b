import DialARide.Proofs.SnapshotSearch

/-!
# Shifted times

When every absolute time of a fleet and a request is put off by the same amount, a search finds the
same insertions at the same cost, and only the times it reports are put off
(`Search.rankInsertions_shift`, `Search.findBest_shift`). Absolute times enter a search only through
comparisons and differences with other absolute times, neither of which changes; a limit that is
left open stays open. Durations are kept: travel times, slacks and the time spent at a stop.
-/

namespace DialARide

variable {K : Type} [Field K] [LinearOrder K]

/-! ## 1. Shifted numbers -/

namespace Exact

/-- The time that is `c` later. The infinities stay where they are. -/
def shift (c : K) (a : Exact K) : Exact K := a + finite c

variable (c : K) (a b : Exact K)

theorem isDefined_shift : (shift c a).isDefined = a.isDefined := by cases a <;> rfl

/-- The time between two events does not depend on the reference. -/
theorem shift_sub_shift : shift c a - shift c b = a - b := by
  cases a with
  | finite x =>
    cases b with
    | finite y => rw [shift, shift, add_finite, add_finite, sub_finite, sub_finite,
        add_sub_add_right_eq_sub]
    | _ => rfl
  | _ => cases b <;> rfl

theorem shift_add : shift c a + b = shift c (a + b) := by
  cases a with
  | finite x =>
    cases b with
    | finite y => rw [shift, shift, add_finite, add_finite, add_finite, add_finite, add_right_comm]
    | _ => rfl
  | _ => cases b <;> rfl

variable [IsStrictOrderedRing K]

theorem lt_shift : Scalar.lt (shift c a) (shift c b) = Scalar.lt a b := by
  cases a with
  | finite x =>
    cases b with
    | finite y =>
      rw [shift, shift, add_finite, add_finite, lt_finite, lt_finite]
      exact decide_eq_decide.mpr (add_lt_add_iff_right c)
    | _ => rfl
  | _ => cases b <;> rfl

theorem max_shift : Scalar.max (shift c a) (shift c b) = shift c (Scalar.max a b) := by
  unfold Scalar.max
  rw [lt_shift, isNumber_eq, isNumber_eq, isDefined_shift]
  split <;> rfl

end Exact

/-! ## 2. Shifted schedules and requests -/

section Shift

variable (c : K)

def Start.shift (start : Start (Exact K)) : Start (Exact K) :=
  { start with departure := start.departure.shift c }

def StopTask.shift (task : StopTask (Exact K)) : StopTask (Exact K) :=
  ⟨task.arrival.shift c, task.departure.shift c, task.latestArrival.shift c,
    task.latestDeparture.shift c⟩

def Stop.shift (stop : Stop (Exact K)) : Stop (Exact K) :=
  { stop with task := stop.task.shift c }

def Waypoint.shift : Waypoint (Exact K) → Waypoint (Exact K)
  | .start s => .start (s.shift c)
  | .stop s => .stop (s.shift c)

def Vehicle.shift (vehicle : Vehicle (Exact K)) : Vehicle (Exact K) :=
  { vehicle with serviceEnd := vehicle.serviceEnd.shift c }

/-- Slacks are durations and do not change. -/
def Entry.shift (entry : Entry (Exact K)) : Entry (Exact K) where
  vehicle := entry.vehicle.shift c
  start := entry.start.shift c
  stops := entry.stops.map (Stop.shift c)
  slack := entry.slack

def RequestTimes.shift (times : RequestTimes (Exact K)) : RequestTimes (Exact K) :=
  ⟨times.earliestStart.shift c, times.latestStart.shift c, times.latestArrival.shift c⟩

def Request.shift (request : Request (Exact K)) : Request (Exact K) :=
  { request with times := request.times.shift c }

/-- Losses are durations and do not change. -/
def Timing.shift (t : Timing (Exact K)) : Timing (Exact K) :=
  { t with
    pickupDeparture := t.pickupDeparture.shift c
    dropoffArrival := t.dropoffArrival.shift c }

/-- An offer keeps its place in the ranking. -/
def Scored.shift (offer : Scored (Exact K)) : Scored (Exact K) :=
  { offer with timing := offer.timing.shift c }

def Search.Outcome.shift (outcome : Search.Outcome (Exact K)) : Search.Outcome (Exact K) :=
  { outcome with best := outcome.best.map (Scored.shift c) }

end Shift

/-! ## 3. The same look-ups -/

variable {c : K} {entry : Entry (Exact K)} {request : Request (Exact K)}

namespace Waypoint

variable (w : Waypoint (Exact K))

theorem isStop_shift : (w.shift c).isStop = w.isStop := by cases w <;> rfl

theorem location_shift : (w.shift c).location = w.location := by cases w <;> rfl

theorem occupancy_shift : (w.shift c).occupancy = w.occupancy := by cases w <;> rfl

theorem departure_shift : (w.shift c).departure = w.departure.shift c := by cases w <;> rfl

end Waypoint

theorem lookUp_map {β γ : Type} (f : β → γ) (items : List β) (index : Nat) :
    lookUp (items.map f) index = f <$> lookUp items index := by
  unfold lookUp
  rw [List.getElem?_map, List.length_map]
  cases items[index]? <;> rfl

namespace Entry

theorem stops_shift : (entry.shift c).stops = entry.stops.map (Stop.shift c) := rfl

theorem stopCount_shift : (entry.shift c).stopCount = entry.stopCount := List.length_map _

theorem waypoint_shift (k : Nat) :
    (entry.shift c).waypoint k = Waypoint.shift c <$> entry.waypoint k := by
  cases k with
  | zero => rfl
  | succ k =>
    rw [waypoint, waypoint, shift, lookUp_map]
    cases lookUp entry.stops k <;> rfl

theorem stopAt_shift (k : Nat) : (entry.shift c).stopAt k = Stop.shift c <$> entry.stopAt k := by
  cases k with
  | zero =>
    rw [stopAt, stopAt, stopCount_shift]
    rfl
  | succ k => exact lookUp_map _ _ _

/-- The same insertions are listed. -/
theorem insertions_shift :
    (entry.shift c).insertions (request.shift c) = entry.insertions request := by
  symm
  refine insertions_eq_of_sameLoad ⟨rfl, rfl⟩ rfl rfl rfl ?_
  exact List.forall₂_map_right_iff.mpr (List.forall₂_same.mpr fun _ _ => ⟨rfl, rfl⟩)

end Entry

theorem Legs.ofInsertion_shift {δ : Type} (leg : DriveTime δ) (insertion : Insertion) :
    Legs.ofInsertion leg (request.shift c) (entry.shift c) insertion
      = Legs.ofInsertion leg request entry insertion := by
  simp only [ofInsertion, Entry.waypoint_shift, Entry.stopCount_shift, bind_map_left,
    Waypoint.location_shift, Request.shift]

/-- A scheduled drive takes as long as before. -/
theorem Entry.driveAfter_shift (k : Nat) : (entry.shift c).driveAfter k = entry.driveAfter k := by
  unfold driveAfter
  simp only [stopCount_shift, waypoint_shift, stops_shift, lookUp_map, bind_map_left,
    Waypoint.departure_shift, Stop.shift, StopTask.shift, Exact.shift_sub_shift]

/-! ## 4. Timings and costs -/

variable [IsStrictOrderedRing K]

namespace Timing

variable {stopDuration replaced pickupLoss : Exact K} {w : Waypoint (Exact K)}
  {stop : Stop (Exact K)} {legs : Legs (Exact K)}

/-- Whether the vehicle waits for the earliest start is a comparison of two absolute times. -/
theorem departureFrom_shift : departureFrom stopDuration (request.shift c) (w.shift c) legs
    = (departureFrom stopDuration request w legs).shift c := by
  have hearliest : (request.shift c).times.earliestStart = request.times.earliestStart.shift c :=
    rfl
  have horigin : (request.shift c).origin = request.origin := rfl
  unfold departureFrom
  rw [Waypoint.isStop_shift, Waypoint.location_shift, Waypoint.departure_shift, hearliest, horigin]
  split
  · rw [Exact.max_shift]
  · rw [Exact.shift_add, Exact.max_shift, Exact.shift_add]

theorem combined_shift : combined stopDuration (request.shift c) (w.shift c) replaced legs
    = (combined stopDuration request w replaced legs).shift c := by
  simp only [combined, departureFrom_shift, Waypoint.departure_shift, Exact.shift_add,
    Exact.shift_sub_shift, Timing.shift]

omit [IsStrictOrderedRing K] in
theorem separatePickupLoss_shift (departure : Exact K) :
    separatePickupLoss (departure.shift c) (w.shift c) replaced legs
      = separatePickupLoss departure w replaced legs := by
  rw [separatePickupLoss, separatePickupLoss, Waypoint.departure_shift, Exact.shift_sub_shift]

omit [IsStrictOrderedRing K] in
/-- The arrival is put off, the loss is not. -/
theorem separateDropoff_shift :
    separateDropoff stopDuration (request.shift c) (stop.shift c) replaced legs pickupLoss
      = Prod.map (Exact.shift c) id
        (separateDropoff stopDuration request stop replaced legs pickupLoss) := by
  simp only [separateDropoff, Stop.shift, StopTask.shift, Request.shift, Exact.shift_add]
  split <;> rfl

/-- **A shifted insertion is timed as before, but for the times it reports.** -/
theorem ofInsertion_shift (insertion : Insertion) :
    ofInsertion stopDuration (request.shift c) (entry.shift c) insertion legs
      = Timing.shift c <$> ofInsertion stopDuration request entry insertion legs := by
  unfold ofInsertion
  simp only [Entry.waypoint_shift, Entry.driveAfter_shift, Entry.stopAt_shift, bind_map_left,
    map_bind, combined_shift, departureFrom_shift, separatePickupLoss_shift, separateDropoff_shift]
  refine bind_congr fun w => bind_congr fun replaced => ?_
  split
  · rfl
  · simp only [map_bind, map_pure]
    rfl

end Timing

/-- Lateness is a difference of absolute times, and a limit that is left open stays open. -/
theorem Strategy.cost_shift (strategy : Strategy (Exact K)) (slack : InsertionSlack (Exact K))
    (t : Timing (Exact K)) :
    strategy.cost (request.shift c) slack (t.shift c) = strategy.cost request slack t := by
  have hviolated : slack.violatedBy (t.shift c) = slack.violatedBy t := rfl
  have hloss : (t.shift c).totalLoss = t.totalLoss := rfl
  have hdeparture : (t.shift c).pickupDeparture = t.pickupDeparture.shift c := rfl
  have harrival : (t.shift c).dropoffArrival = t.dropoffArrival.shift c := rfl
  simp only [cost, hviolated, hloss, hdeparture, harrival, Request.shift, RequestTimes.shift,
    Exact.lt_shift, Exact.shift_sub_shift]

/-! ## 5. Computations in other terms -/

/-- Results and errors in other terms. -/
def mapBoth {ε ε' β γ : Type} (e : ε → ε') (f : β → γ) : Except ε β → Except ε' γ
  | .ok result => .ok (f result)
  | .error error => .error (e error)

section MapBoth

variable {ε ε' β β' γ γ' : Type} {e : ε → ε'} {f : β → β'} {f' : γ → γ'}

theorem mapBoth_id (x : Except ε β) : mapBoth id f x = f <$> x := by cases x <;> rfl

theorem mapBoth_bind {x : Except ε β} {x' : Except ε' β'} {g : β → Except ε γ}
    {g' : β' → Except ε' γ'} (hx : x' = mapBoth e f x)
    (hg : ∀ item, g' (f item) = mapBoth e f' (g item)) :
    x' >>= g' = mapBoth e f' (x >>= g) := by
  rw [hx]
  cases x with
  | error error => rfl
  | ok item => exact hg item

theorem mapBoth_mapM {g : β → Except ε γ} {g' : β' → Except ε' γ'} {items : List β}
    {items' : List β'}
    (h : List.Forall₂ (fun item item' => g' item' = mapBoth e f' (g item)) items items') :
    items'.mapM g' = mapBoth e (List.map f') (items.mapM g) := by
  induction h with
  | nil => rfl
  | cons hfirst _ ih =>
    rw [List.mapM_cons, List.mapM_cons]
    exact mapBoth_bind hfirst fun _ => mapBoth_bind ih fun _ => rfl

/-- A list that is built element by element, each of them unless it is refused. -/
theorem mapBoth_consUnless (refused : Prop) [Decidable refused] (error : ε) {first : Except ε β}
    {first' : Except ε' β'} {rest : Except ε (List β)} {rest' : Except ε' (List β')}
    (hfirst : first' = mapBoth e f first) (hrest : rest' = mapBoth e (List.map f) rest) :
    (do
      if refused then throw (e error)
      let item ← first'
      let others ← rest'
      return item :: others : Except ε' (List β'))
    = mapBoth e (List.map f) (do
      if refused then throw error
      let item ← first
      let others ← rest
      return item :: others) := by
  by_cases h : refused
  · rw [if_pos h, if_pos h]
    rfl
  · rw [if_neg h, if_neg h]
    exact mapBoth_bind hfirst fun _ => mapBoth_bind hrest fun _ => rfl

/-- A list of equal computations in other terms. -/
theorem mapM_eq_map_mapM {g : β → Except ε γ} {g' : β' → Except ε γ'} {items : List β}
    {items' : List β'}
    (h : List.Forall₂ (fun item item' => g' item' = f' <$> g item) items items') :
    items'.mapM g' = List.map f' <$> items.mapM g := by
  rw [← mapBoth_id]
  exact mapBoth_mapM (h.imp fun _ _ h => h.trans (mapBoth_id _).symm)

end MapBoth

/-! ## 6. Searches -/

section Evaluations

variable {β γ : Type} (f : β → γ)

theorem filterMap_id_map (evaluations : List (Option β)) :
    (evaluations.map (Option.map f)).filterMap id = (evaluations.filterMap id).map f := by
  rw [List.filterMap_map, List.map_filterMap]
  rfl

theorem countP_isNone_map (evaluations : List (Option β)) :
    (evaluations.map (Option.map f)).countP Option.isNone = evaluations.countP Option.isNone := by
  rw [List.countP_map]
  exact List.countP_congr fun evaluation _ => by rw [Function.comp_apply, Option.isNone_map]

theorem filterMap_head?_map (lists : List (List β)) :
    (lists.map (List.map f)).filterMap List.head? = (lists.filterMap List.head?).map f := by
  rw [List.filterMap_map, List.map_filterMap]
  exact List.filterMap_congr fun items _ => List.head?_map

end Evaluations

omit [IsStrictOrderedRing K] in
theorem ranked_map_shift (items : List (Scored (Exact K))) :
    ranked Scored.rank (items.map (Scored.shift c))
      = (ranked Scored.rank items).map (Scored.shift c) :=
  (List.map_mergeSort (f := Scored.shift c) fun _ _ _ _ => rfl).symm

namespace Search

variable (s : Search (Exact K)) (clock : Clock) (fleet : List (Entry (Exact K)))

theorem score_shift (insertion : Insertion) :
    s.score (request.shift c) (entry.shift c) insertion
      = Scored.shift c <$> s.score request entry insertion := by
  have hslack : InsertionSlack.ofInsertion (entry.shift c) insertion
      = InsertionSlack.ofInsertion entry insertion := rfl
  unfold score
  simp only [Legs.ofInsertion_shift, Timing.ofInsertion_shift, hslack, bind_map_left, map_bind,
    map_pure, Strategy.cost_shift]
  rfl

theorem evaluateVehicle_shift : s.evaluateVehicle (request.shift c) (entry.shift c)
    = List.map (Scored.shift c) <$> s.evaluateVehicle request entry := by
  unfold evaluateVehicle
  have hscores : (entry.insertions request).mapM (s.score (request.shift c) (entry.shift c))
      = List.map (Scored.shift c) <$> (entry.insertions request).mapM (s.score request entry) :=
    mapM_eq_map_mapM (List.forall₂_same.mpr fun _ _ => score_shift s _)
  rw [Entry.insertions_shift, hscores]
  simp only [bind_map_left, map_bind, map_pure, List.filter_map, ranked_map_shift]
  rfl

theorem evaluateUnless_shift (overdue : Bool) :
    s.evaluateUnless (request.shift c) overdue (entry.shift c)
      = Option.map (List.map (Scored.shift c)) <$> s.evaluateUnless request overdue entry := by
  unfold evaluateUnless
  split
  · rfl
  · rw [evaluateVehicle_shift]
    cases s.evaluateVehicle request entry <;> rfl

/-- The same vehicles are skipped. -/
theorem evaluateFleet_shift : s.evaluateFleet clock (request.shift c) (fleet.map (Entry.shift c))
    = List.map (Option.map (List.map (Scored.shift c)))
      <$> s.evaluateFleet clock request fleet := by
  induction fleet generalizing clock with
  | nil => rfl
  | cons entry rest ih =>
    rw [List.map_cons, evaluateFleet_cons, evaluateFleet_cons, evaluateUnless_shift, ih]
    simp only [bind_map_left, map_bind, map_pure, List.map_cons]

omit [IsStrictOrderedRing K] in
theorem better_shift (best : Option (Scored (Exact K))) (candidate : Scored (Exact K)) :
    better (best.map (Scored.shift c)) (candidate.shift c)
      = (better best candidate).map (Scored.shift c) := by
  cases best with
  | none => rfl
  | some b =>
    have hrank : (candidate.shift c).rank (b.shift c) = candidate.rank b := rfl
    show (if (candidate.shift c).rank (b.shift c) = .lt then some (candidate.shift c)
      else some (b.shift c)) = (if candidate.rank b = .lt then some candidate else some b).map _
    rw [hrank]
    split <;> rfl

omit [IsStrictOrderedRing K] in
theorem foldl_better_shift (best : Option (Scored (Exact K)))
    (candidates : List (Scored (Exact K))) :
    (candidates.map (Scored.shift c)).foldl better (best.map (Scored.shift c))
      = (candidates.foldl better best).map (Scored.shift c) := by
  rw [List.foldl_map]
  exact List.foldl_hom _ fun best candidate => better_shift best candidate

theorem rankInsertions_shift :
    s.rankInsertions clock (request.shift c) (fleet.map (Entry.shift c))
      = List.map (Scored.shift c) <$> s.rankInsertions clock request fleet := by
  unfold rankInsertions
  simp only [evaluateFleet_shift, bind_map_left, map_bind, map_pure, filterMap_id_map,
    ← List.map_flatten, ranked_map_shift]

theorem findBest_shift :
    s.findBest clock (request.shift c) (fleet.map (Entry.shift c))
      = Outcome.shift c <$> s.findBest clock request fleet := by
  unfold findBest
  have hnone : (none : Option (Scored (Exact K))) = none.map (Scored.shift c) := rfl
  simp only [evaluateFleet_shift, bind_map_left, map_bind, map_pure, filterMap_id_map,
    filterMap_head?_map, countP_isNone_map, List.length_map]
  rw [hnone]
  simp only [foldl_better_shift]
  rfl

end Search

end DialARide
