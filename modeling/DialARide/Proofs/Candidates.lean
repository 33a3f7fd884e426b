import DialARide.Proofs.Schedule

/-!
# Which insertions are listed

The declared set of insertions (`Entry.Admits`) speaks about single positions of the schedule: seats
are free on every leg that the request rides along, and neither pickup nor dropoff lies in front of
a stop where the request could board or alight instead. The two nested scans of
`Entry.insertions` list exactly this set, each member once and in ascending order
(`Entry.insertions_enumerate`).
-/

namespace DialARide

variable {α : Type}

/-! ## 1. The declared set -/

/-- The leg leaving waypoint `k` has seats for `size` more passengers. -/
def Entry.RoomAfter (entry : Entry α) (size k : Nat) : Prop :=
  ∃ w, entry.waypoint k = .ok w ∧ w.occupancy + size ≤ entry.vehicle.capacity

/-- The stop that follows waypoint `k` is at the given location. -/
def Entry.StopsNextAt (entry : Entry α) (k : Nat) (location : LocationId) : Prop :=
  ∃ stop, entry.stops[k]? = some stop ∧ stop.location = location

instance (entry : Entry α) (size k : Nat) : Decidable (entry.RoomAfter size k) :=
  match h : entry.waypoint k with
  | .ok w => decidable_of_iff (w.occupancy + size ≤ entry.vehicle.capacity)
      ⟨fun hroom => ⟨w, h, hroom⟩, fun ⟨_, hw, hroom⟩ => by cases h.symm.trans hw; exact hroom⟩
  | .error _ => .isFalse fun ⟨_, hw, _⟩ => by cases h.symm.trans hw

instance (entry : Entry α) (k : Nat) (location : LocationId) :
    Decidable (entry.StopsNextAt k location) :=
  match h : entry.stops[k]? with
  | some stop => decidable_of_iff (stop.location = location)
      ⟨fun hat => ⟨stop, h, hat⟩, fun ⟨_, hstop, hat⟩ => by cases h.symm.trans hstop; exact hat⟩
  | none => .isFalse fun ⟨_, hstop, _⟩ => by cases h.symm.trans hstop

/-- Having boarded after waypoint `p`, a request can alight after waypoint `d`. -/
structure Entry.AdmitsDropoff (entry : Entry α) (size : Nat) (destination : LocationId)
    (p d : Nat) : Prop where
  ordered : p ≤ d
  inside : d ≤ entry.stopCount
  aboard : ∀ k, p ≤ k → k < d → entry.RoomAfter size k
  /-- It can ride on and the next stop is not its destination, or it alights at the stop before,
  where it cannot ride on. -/
  alights : (entry.RoomAfter size d ∧ ¬ entry.StopsNextAt d destination) ∨
    (p < d ∧ ¬ entry.RoomAfter size d ∧ entry.StopsNextAt (d - 1) destination)

/-- The insertions that are worth looking at. -/
structure Entry.Admits (entry : Entry α) (request : Request α) (insertion : Insertion) : Prop where
  boards : entry.RoomAfter request.size insertion.pickup
  notAtNext : ¬ entry.StopsNextAt insertion.pickup request.origin
  dropoff : entry.AdmitsDropoff request.size request.destination insertion.pickup
    insertion.dropoff

/-- Ascending order of pickup, then dropoff. -/
def Insertion.Before (a b : Insertion) : Prop :=
  a.pickup < b.pickup ∨ a.pickup = b.pickup ∧ a.dropoff < b.dropoff

/-! ## 2. Looking ahead -/

/-- An overfull leg has no room for a request of at least one passenger either. -/
theorem hasRoom_iff {capacity occupancy size : Nat} (counted : 1 ≤ size ∨ occupancy ≤ capacity) :
    hasRoom capacity occupancy size = true ↔ occupancy + size ≤ capacity := by
  rw [hasRoom, decide_eq_true_iff]
  omega

/-- Whether there is room can be told by counting passengers: the request needs a seat, or no leg
is overfull. -/
def Entry.Counted (entry : Entry α) (size : Nat) : Prop := 1 ≤ size ∨ entry.WithinCapacity

namespace Entry

variable {entry : Entry α} {size position : Nat} {w : Waypoint α} {next : Stop α}
  {rest : List (Stop α)} {location : LocationId}

theorem roomAfter_iff (counted : entry.Counted size) (hw : entry.waypoint position = .ok w) :
    entry.RoomAfter size position ↔
      hasRoom entry.vehicle.capacity w.occupancy size = true := by
  have hmem : w ∈ entry.waypoints := List.mem_of_getElem? (waypoint_eq_ok.mp hw)
  rw [hasRoom_iff (counted.imp id fun within => within w hmem)]
  constructor
  · intro h
    obtain ⟨v, hv, hroom⟩ := h
    rw [hw] at hv
    cases hv
    exact hroom
  · intro hroom
    exact ⟨w, hw, hroom⟩

/-- Whether the leg after the next stop has room is decided by that stop. -/
theorem roomAfter_succ_iff (counted : entry.Counted size)
    (h : entry.stops.drop position = next :: rest) :
    entry.RoomAfter size (position + 1) ↔
      hasRoom entry.vehicle.capacity next.occupancy size = true :=
  roomAfter_iff counted (waypoint_succ_eq_ok (getElem?_of_drop_eq_cons h))

theorem stopsNextAt_of_cons (h : entry.stops.drop position = next :: rest) :
    entry.StopsNextAt position location ↔ next.location = location := by
  have hnext := getElem?_of_drop_eq_cons h
  constructor
  · intro h
    obtain ⟨stop, hstop, hloc⟩ := h
    rw [hnext] at hstop
    cases hstop
    exact hloc
  · intro hloc
    exact ⟨next, hnext, hloc⟩

theorem not_stopsNextAt_of_nil (h : entry.stops.drop position = []) :
    ¬ entry.StopsNextAt position location := by
  intro hnext
  obtain ⟨stop, hstop, -⟩ := hnext
  have hlt := (List.getElem?_eq_some_iff.mp hstop).1
  exact absurd hlt (Nat.not_lt.mpr (List.drop_eq_nil_iff.mp h))

end Entry

/-! ## 3. The scan for dropoffs -/

section Dropoffs

variable {capacity size position d : Nat} {destination : LocationId} {next : Stop α}
  {stops rest : List (Stop α)}

theorem mem_dropoffs_cons :
    d ∈ dropoffs capacity size destination position (next :: rest) ↔
      (d = position ∧ next.location ≠ destination) ∨
      (hasRoom capacity next.occupancy size = true ∧
        d ∈ dropoffs capacity size destination (position + 1) rest) ∨
      (¬ hasRoom capacity next.occupancy size = true ∧ d = position + 1 ∧
        next.location = destination) := by
  rw [dropoffs, List.mem_append]
  by_cases hroom : hasRoom capacity next.occupancy size = true
  · by_cases hat : next.location = destination <;> simp [hroom, hat]
  · by_cases hat : next.location = destination <;> simp [hroom, hat]

theorem bounds_of_mem_dropoffs (h : d ∈ dropoffs capacity size destination position stops) :
    position ≤ d ∧ d ≤ position + stops.length := by
  induction stops generalizing position with
  | nil =>
    obtain rfl := List.mem_singleton.mp h
    exact ⟨le_rfl, le_rfl⟩
  | cons next rest ih =>
    rw [List.length_cons]
    rcases mem_dropoffs_cons.mp h with ⟨rfl, -⟩ | ⟨-, hd⟩ | ⟨-, rfl, -⟩
    · omega
    · have := ih hd
      omega
    · omega

theorem pairwise_dropoffs :
    (dropoffs capacity size destination position stops).Pairwise (· < ·) := by
  induction stops generalizing position with
  | nil => exact List.pairwise_singleton _ _
  | cons next rest ih =>
    rw [dropoffs]
    by_cases hroom : hasRoom capacity next.occupancy size = true
    · by_cases hat : next.location = destination
      · simpa [hroom, hat] using ih
      · simpa [hroom, hat] using ⟨fun _ hd => (bounds_of_mem_dropoffs hd).1, ih⟩
    · by_cases hat : next.location = destination <;> simp [hroom, hat]

end Dropoffs

namespace Entry

variable {entry : Entry α} {size position : Nat} {destination : LocationId}

/-- A request aboard after waypoint `p` alights before the next stop, rides on past it, or has to
alight there because the vehicle is full afterwards. -/
theorem admitsDropoff_iff {p d : Nat} (inside : p < entry.stopCount)
    (room : entry.RoomAfter size p) :
    entry.AdmitsDropoff size destination p d ↔
      (d = p ∧ ¬ entry.StopsNextAt p destination) ∨
      (entry.RoomAfter size (p + 1) ∧ entry.AdmitsDropoff size destination (p + 1) d) ∨
      (¬ entry.RoomAfter size (p + 1) ∧ d = p + 1 ∧ entry.StopsNextAt p destination) := by
  constructor
  · intro h
    obtain ⟨ordered, hd, aboard, alights⟩ := h
    rcases Nat.eq_or_lt_of_le ordered with rfl | hpd
    · rcases alights with ⟨-, hnext⟩ | ⟨hlt, -, -⟩
      · exact .inl ⟨rfl, hnext⟩
      · exact absurd hlt (Nat.lt_irrefl p)
    · right
      by_cases hroom : entry.RoomAfter size (p + 1)
      · refine .inl ⟨hroom, hpd, hd, fun k hk => aboard k (Nat.le_of_succ_le hk), ?_⟩
        rcases alights with hfree | ⟨-, hfull, hat⟩
        · exact .inl hfree
        · have hne : p + 1 ≠ d := fun h => hfull (h ▸ hroom)
          exact .inr ⟨Nat.lt_of_le_of_ne hpd hne, hfull, hat⟩
      · -- the request cannot leave the next stop, so it alights there
        have hdp : d = p + 1 := by
          refine Nat.le_antisymm (Nat.not_lt.mp fun hlt => hroom ?_) hpd
          exact aboard (p + 1) (Nat.le_succ p) hlt
        subst hdp
        rcases alights with ⟨hfree, -⟩ | ⟨-, -, hat⟩
        · exact absurd hfree hroom
        · exact .inr ⟨hroom, rfl, hat⟩
  · intro h
    rcases h with ⟨rfl, hnext⟩ | ⟨-, hpd, hd, aboard, alights⟩ | ⟨hfull, rfl, hat⟩
    · exact ⟨le_rfl, inside.le, fun k hk hlt => absurd hlt (Nat.not_lt.mpr hk),
        .inl ⟨room, hnext⟩⟩
    · refine ⟨Nat.le_of_succ_le hpd, hd, fun k hk hlt => ?_, ?_⟩
      · rcases Nat.eq_or_lt_of_le hk with rfl | hk
        · exact room
        · exact aboard k hk hlt
      · exact alights.imp id fun ⟨_, hfull, hat⟩ => ⟨hpd, hfull, hat⟩
    · refine ⟨Nat.le_succ p, inside, fun k hk hlt => ?_, .inr ⟨Nat.lt_succ_self p, hfull, hat⟩⟩
      obtain rfl : k = p := Nat.le_antisymm (Nat.le_of_lt_succ hlt) hk
      exact room

theorem mem_dropoffs (counted : entry.Counted size) {stops : List (Stop α)}
    (hstops : entry.stops.drop position = stops) (inside : position ≤ entry.stopCount)
    (room : entry.RoomAfter size position) {d : Nat} :
    d ∈ dropoffs entry.vehicle.capacity size destination position stops ↔
      entry.AdmitsDropoff size destination position d := by
  induction stops generalizing position with
  | nil =>
    have hend : entry.stopCount ≤ position := List.drop_eq_nil_iff.mp hstops
    rw [dropoffs, List.mem_singleton]
    constructor
    · rintro rfl
      exact ⟨le_rfl, inside, fun k hk hlt => absurd hlt (Nat.not_lt.mpr hk),
        .inl ⟨room, not_stopsNextAt_of_nil hstops⟩⟩
    · intro h
      obtain ⟨ordered, hd, -, -⟩ := h
      exact Nat.le_antisymm (hd.trans hend) ordered
  | cons next rest ih =>
    have hlt := lt_stopCount_of_drop_eq_cons hstops
    rw [mem_dropoffs_cons, admitsDropoff_iff hlt room, roomAfter_succ_iff counted hstops,
      stopsNextAt_of_cons hstops]
    refine or_congr Iff.rfl (or_congr (and_congr_right fun hroom => ?_) Iff.rfl)
    exact ih (drop_succ_of_drop_eq_cons hstops) hlt
      ((roomAfter_succ_iff counted hstops).mpr hroom)

end Entry

/-! ## 4. The scan for pickups -/

section Pickups

variable {capacity position occupancy : Nat} {request : Request α} {next : Stop α}
  {stops rest : List (Stop α)} {insertion : Insertion}

/-- Insertions with the pickup right after one waypoint. -/
def insertionsAt (capacity : Nat) (request : Request α) (position : Nat) (stops : List (Stop α)) :
    List Insertion :=
  (dropoffs capacity request.size request.destination position stops).map (⟨position, ·⟩)

theorem insertionsFrom_nil :
    insertionsFrom capacity request position occupancy [] =
      if hasRoom capacity occupancy request.size = true then
        insertionsAt capacity request position []
      else [] := by
  simp [insertionsFrom, insertionsAt]

theorem insertionsFrom_cons :
    insertionsFrom capacity request position occupancy (next :: rest) =
      (if hasRoom capacity occupancy request.size = true ∧ next.location ≠ request.origin then
        insertionsAt capacity request position (next :: rest)
      else []) ++ insertionsFrom capacity request (position + 1) next.occupancy rest := by
  rw [insertionsFrom]
  simp [insertionsAt]

theorem mem_insertionsFrom_nil :
    insertion ∈ insertionsFrom capacity request position occupancy [] ↔
      hasRoom capacity occupancy request.size = true ∧
        insertion ∈ insertionsAt capacity request position [] := by
  rw [insertionsFrom_nil]
  split
  next hroom => exact (and_iff_right hroom).symm
  next hfull => exact ⟨fun h => absurd h List.not_mem_nil, fun h => absurd h.1 hfull⟩

theorem mem_insertionsFrom_cons :
    insertion ∈ insertionsFrom capacity request position occupancy (next :: rest) ↔
      (hasRoom capacity occupancy request.size = true ∧ next.location ≠ request.origin ∧
        insertion ∈ insertionsAt capacity request position (next :: rest)) ∨
      insertion ∈ insertionsFrom capacity request (position + 1) next.occupancy rest := by
  rw [insertionsFrom_cons, List.mem_append]
  refine or_congr ?_ Iff.rfl
  split
  next h => exact ⟨fun hi => ⟨h.1, h.2, hi⟩, fun hi => hi.2.2⟩
  next h => exact ⟨fun hi => absurd hi List.not_mem_nil, fun hi => absurd ⟨hi.1, hi.2.1⟩ h⟩

theorem mem_insertionsAt :
    insertion ∈ insertionsAt capacity request position stops ↔
      insertion.pickup = position ∧
        insertion.dropoff ∈ dropoffs capacity request.size request.destination position stops := by
  rw [insertionsAt, List.mem_map]
  constructor
  · intro h
    obtain ⟨d, hd, rfl⟩ := h
    exact ⟨rfl, hd⟩
  · intro h
    obtain ⟨rfl, hd⟩ := h
    exact ⟨_, hd, rfl⟩

theorem pairwise_insertionsAt :
    (insertionsAt capacity request position stops).Pairwise Insertion.Before := by
  rw [insertionsAt, List.pairwise_map]
  exact pairwise_dropoffs.imp fun h => .inr ⟨rfl, h⟩

theorem bounds_of_mem_insertionsFrom
    (h : insertion ∈ insertionsFrom capacity request position occupancy stops) :
    position ≤ insertion.pickup ∧ insertion.pickup ≤ insertion.dropoff ∧
      insertion.dropoff ≤ position + stops.length := by
  induction stops generalizing position occupancy with
  | nil =>
    obtain ⟨rfl, hd⟩ := mem_insertionsAt.mp (mem_insertionsFrom_nil.mp h).2
    exact ⟨le_rfl, bounds_of_mem_dropoffs hd⟩
  | cons next rest ih =>
    rcases mem_insertionsFrom_cons.mp h with ⟨-, -, hat⟩ | h
    · obtain ⟨rfl, hd⟩ := mem_insertionsAt.mp hat
      exact ⟨le_rfl, bounds_of_mem_dropoffs hd⟩
    · have := ih h
      rw [List.length_cons]
      omega

/-- Each pickup position is finished before the next one is begun. -/
theorem pairwise_insertionsFrom :
    (insertionsFrom capacity request position occupancy stops).Pairwise Insertion.Before := by
  induction stops generalizing position occupancy with
  | nil =>
    rw [insertionsFrom_nil]
    split
    · exact pairwise_insertionsAt
    · exact .nil
  | cons next rest ih =>
    rw [insertionsFrom_cons, List.pairwise_append]
    refine ⟨?_, ih, fun a ha b hb => ?_⟩
    · split
      · exact pairwise_insertionsAt
      · exact .nil
    · split at ha
      · have hp := (mem_insertionsAt.mp ha).1
        exact .inl (hp ▸ (bounds_of_mem_insertionsFrom hb).1)
      · cases ha

end Pickups

namespace Entry

variable {entry : Entry α} {request : Request α} {insertion : Insertion} {position : Nat}
  {w : Waypoint α}

/-- What the scan lists after one waypoint are the admitted insertions with that pickup. -/
theorem mem_insertionsAt_iff (counted : entry.Counted request.size) {stops : List (Stop α)}
    (hstops : entry.stops.drop position = stops) (hw : entry.waypoint position = .ok w)
    (inside : position ≤ entry.stopCount) :
    (hasRoom entry.vehicle.capacity w.occupancy request.size = true ∧
      ¬ entry.StopsNextAt position request.origin ∧
      insertion ∈ insertionsAt entry.vehicle.capacity request position stops) ↔
      insertion.pickup = position ∧ entry.Admits request insertion := by
  rw [mem_insertionsAt, ← roomAfter_iff counted hw]
  constructor
  · intro h
    obtain ⟨room, hnext, rfl, hd⟩ := h
    exact ⟨rfl, room, hnext, (mem_dropoffs counted hstops inside room).mp hd⟩
  · intro h
    obtain ⟨rfl, room, hnext, hd⟩ := h
    exact ⟨room, hnext, rfl, (mem_dropoffs counted hstops inside room).mpr hd⟩

theorem mem_insertionsFrom (counted : entry.Counted request.size) {stops : List (Stop α)}
    (hstops : entry.stops.drop position = stops) (hw : entry.waypoint position = .ok w)
    (inside : position ≤ entry.stopCount) :
    insertion ∈ insertionsFrom entry.vehicle.capacity request position w.occupancy stops ↔
      position ≤ insertion.pickup ∧ entry.Admits request insertion := by
  induction stops generalizing position w with
  | nil =>
    rw [mem_insertionsFrom_nil]
    have hat : _ ↔ insertion.pickup = position ∧ entry.Admits request insertion :=
      mem_insertionsAt_iff counted hstops hw inside
    constructor
    · intro h
      obtain ⟨room, hi⟩ := h
      obtain ⟨hp, admits⟩ := hat.mp ⟨room, not_stopsNextAt_of_nil hstops, hi⟩
      exact ⟨hp.ge, admits⟩
    · intro h
      obtain ⟨hp, admits⟩ := h
      have hend : entry.stopCount ≤ position := List.drop_eq_nil_iff.mp hstops
      have hle := admits.dropoff.ordered.trans (admits.dropoff.inside.trans hend)
      obtain ⟨room, -, hi⟩ := hat.mpr ⟨Nat.le_antisymm hle hp, admits⟩
      exact ⟨room, hi⟩
  | cons next rest ih =>
    have hlt := lt_stopCount_of_drop_eq_cons hstops
    have hnext := waypoint_succ_eq_ok (getElem?_of_drop_eq_cons hstops)
    have hlater : insertion ∈ insertionsFrom entry.vehicle.capacity request (position + 1)
        next.occupancy rest ↔ position + 1 ≤ insertion.pickup ∧ entry.Admits request insertion :=
      ih (drop_succ_of_drop_eq_cons hstops) hnext hlt
    rw [mem_insertionsFrom_cons, ne_eq, ← stopsNextAt_of_cons hstops,
      mem_insertionsAt_iff counted hstops hw inside, hlater, ← or_and_right]
    refine and_congr_left fun _ => ?_
    omega

/-- Whatever is listed lies inside the schedule, the pickup not after the dropoff. -/
theorem bounds_of_mem_insertions (h : insertion ∈ entry.insertions request) :
    insertion.pickup ≤ insertion.dropoff ∧ insertion.dropoff ≤ entry.stopCount := by
  obtain ⟨-, ordered, inside⟩ := bounds_of_mem_insertionsFrom h
  exact ⟨ordered, (Nat.zero_add entry.stopCount) ▸ inside⟩

theorem mem_insertions_of_counted (counted : entry.Counted request.size) :
    insertion ∈ entry.insertions request ↔ entry.Admits request insertion := by
  have h : insertion ∈ entry.insertions request ↔ 0 ≤ insertion.pickup ∧ _ :=
    mem_insertionsFrom counted List.drop_zero rfl (Nat.zero_le _)
  exact h.trans (and_iff_right (Nat.zero_le _))

theorem mem_insertions (seated : 1 ≤ request.size) :
    insertion ∈ entry.insertions request ↔ entry.Admits request insertion :=
  mem_insertions_of_counted (.inl seated)

end Entry

/-- **The insertions of a request are the declared ones, in strictly ascending order.** -/
theorem Entry.insertions_enumerate (entry : Entry α) {request : Request α}
    (seated : 1 ≤ request.size) :
    (entry.insertions request).Pairwise Insertion.Before ∧
      ∀ insertion, insertion ∈ entry.insertions request ↔ entry.Admits request insertion :=
  ⟨pairwise_insertionsFrom, fun _ => Entry.mem_insertions seated⟩

/-- The dropoff at the second stop of the sample is listed after that stop. -/
theorem Entry.insertions_enumerate_sample :
    1 ≤ Sample.request.size ∧
      Sample.entry.insertions Sample.request = [⟨0, 0⟩, ⟨0, 2⟩, ⟨1, 2⟩, ⟨2, 2⟩] ∧
      (Sample.entry.insertions Sample.request).Pairwise Insertion.Before ∧
      ∀ insertion, insertion ∈ Sample.entry.insertions Sample.request ↔
        Sample.entry.Admits Sample.request insertion :=
  ⟨by decide, by decide, Entry.insertions_enumerate Sample.entry (by decide)⟩

end DialARide
