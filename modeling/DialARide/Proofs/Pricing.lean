import DialARide.Insertion.Cost
import DialARide.Proofs.Candidates
import DialARide.Proofs.Timing
import DialARide.Search
import Mathlib.Data.List.Forall2

/-!
# Prices

What a search computes for one insertion (`Search.Prices`), and that it computes it for every
insertion inside a schedule when the estimator knows the drives between the places of the schedule
and those of the request (`Search.exists_prices`).
-/

namespace DialARide

variable {α : Type}

/-! ## 1. Drives between places -/

/-- The estimator knows every drive between the given places. -/
def DriveTime.Answers {δ : Type} (driveTime : DriveTime δ) (places : List LocationId) : Prop :=
  ∀ a ∈ places, ∀ b ∈ places, ∃ time, driveTime a b = .ok time

/-- The places between which the insertions of a request need drives. -/
def Entry.places (entry : Entry α) (request : Request α) : List LocationId :=
  request.origin :: request.destination :: entry.waypoints.map Waypoint.location

section Places

variable {entry : Entry α} {request : Request α}

theorem Entry.origin_mem_places : request.origin ∈ entry.places request := List.mem_cons_self

theorem Entry.destination_mem_places : request.destination ∈ entry.places request :=
  List.mem_cons_of_mem _ List.mem_cons_self

theorem Entry.location_mem_places {k : Nat} {w : Waypoint α} (hw : entry.waypoint k = .ok w) :
    w.location ∈ entry.places request := by
  have hmem : w ∈ entry.waypoints := List.mem_of_getElem? (Entry.waypoint_eq_ok.mp hw)
  exact List.mem_cons_of_mem _ (List.mem_cons_of_mem _ (List.mem_map_of_mem hmem))

end Places

/-! ## 2. Legs -/

namespace Legs

section Rules

variable {δ : Type} {leg : DriveTime δ} {request : Request α} {entry : Entry α} {p d : Nat}
  {w : Waypoint α} {toPickup fromPickup toDropoff : δ} {fromDropoff : Option δ}

/-- The leg from a dropoff after waypoint `d`. -/
def onward (leg : DriveTime δ) (request : Request α) (entry : Entry α) (d : Nat) :
    Except Fault (Option δ) := do
  if d < entry.stopCount then
    some <$> leg request.destination (← entry.waypoint (d + 1)).location
  else pure none

theorem onward_eq_ok : onward leg request entry d = .ok fromDropoff ↔
    (d < entry.stopCount ∧ ∃ next time, entry.waypoint (d + 1) = .ok next ∧
      leg request.destination next.location = .ok time ∧ fromDropoff = some time) ∨
    (¬ d < entry.stopCount ∧ fromDropoff = none) := by
  unfold onward
  by_cases hd : d < entry.stopCount
  · rw [if_pos hd, bind_eq_ok]
    constructor
    · intro h
      obtain ⟨next, hnext, h⟩ := h
      cases htime : leg request.destination next.location with
      | error e => rw [htime] at h; cases h
      | ok time =>
        rw [htime] at h
        cases h
        exact .inl ⟨hd, next, time, hnext, htime, rfl⟩
    · intro h
      rcases h with ⟨-, next, time, hnext, htime, rfl⟩ | ⟨hd', -⟩
      · exact ⟨next, hnext, by rw [htime]; rfl⟩
      · exact absurd hd hd'
  · rw [if_neg hd]
    constructor
    · intro h
      cases h
      exact .inr ⟨hd, rfl⟩
    · intro h
      rcases h with ⟨hd', -⟩ | ⟨-, rfl⟩
      · exact absurd hd' hd
      · rfl

/-- The legs from the pickup and to the dropoff. -/
def middle (leg : DriveTime δ) (request : Request α) (entry : Entry α) (insertion : Insertion) :
    Except Fault (δ × Option δ) :=
  if insertion.pickup = insertion.dropoff then do
    return (← leg request.origin request.destination, none)
  else do
    let fromPickup ← leg request.origin (← entry.waypoint (insertion.pickup + 1)).location
    let toDropoff ← leg (← entry.waypoint insertion.dropoff).location request.destination
    return (fromPickup, some toDropoff)

/-- The legs are asked for in four steps. -/
theorem ofInsertion_eq (insertion : Insertion) :
    ofInsertion leg request entry insertion =
      entry.waypoint insertion.pickup >>= fun w =>
        leg w.location request.origin >>= fun toPickup =>
          middle leg request entry insertion >>= fun between =>
            onward leg request entry insertion.dropoff >>= fun fromDropoff =>
              pure ⟨toPickup, between.1, between.2, fromDropoff⟩ := by
  unfold ofInsertion middle onward
  refine bind_congr fun w => bind_congr fun toPickup => ?_
  by_cases hself : insertion.pickup = insertion.dropoff <;>
    by_cases hd : insertion.dropoff < entry.stopCount <;>
    simp only [hself, hd, if_true, if_false, bind_assoc, pure_bind]

theorem ofInsertion_self (hw : entry.waypoint p = .ok w)
    (h₁ : leg w.location request.origin = .ok toPickup)
    (h₂ : leg request.origin request.destination = .ok fromPickup)
    (h₃ : onward leg request entry p = .ok fromDropoff) :
    ofInsertion leg request entry ⟨p, p⟩ = .ok ⟨toPickup, fromPickup, none, fromDropoff⟩ := by
  unfold ofInsertion
  rcases onward_eq_ok.mp h₃ with ⟨hd, next, time, hnext, htime, rfl⟩ | ⟨hd, rfl⟩
  · simp only [hw, h₁, h₂, hnext, htime, bind, Except.bind, pure, Except.pure, Functor.map,
      Except.map, if_pos hd, if_true]
  · simp only [hw, h₁, h₂, bind, Except.bind, pure, Except.pure, if_neg hd, if_true]

theorem ofInsertion_of_lt (h : p < d) (hw : entry.waypoint p = .ok w)
    (h₁ : leg w.location request.origin = .ok toPickup) {next last : Waypoint α}
    (hnext : entry.waypoint (p + 1) = .ok next)
    (h₂ : leg request.origin next.location = .ok fromPickup)
    (hlast : entry.waypoint d = .ok last)
    (h₃ : leg last.location request.destination = .ok toDropoff)
    (h₄ : onward leg request entry d = .ok fromDropoff) :
    ofInsertion leg request entry ⟨p, d⟩
      = .ok ⟨toPickup, fromPickup, some toDropoff, fromDropoff⟩ := by
  unfold ofInsertion
  rcases onward_eq_ok.mp h₄ with ⟨hd, after, time, hafter, htime, rfl⟩ | ⟨hd, rfl⟩
  · simp only [hw, h₁, hnext, h₂, hlast, h₃, hafter, htime, bind, Except.bind, pure, Except.pure,
      Functor.map, Except.map, if_pos hd, if_neg h.ne]
  · simp only [hw, h₁, hnext, h₂, hlast, h₃, bind, Except.bind, pure, Except.pure, if_neg hd,
      if_neg h.ne]

/-- The leg from the dropoff is absent when the schedule ends with the dropoff. -/
theorem fromDropoff_eq_none {insertion : Insertion} {legs : Legs δ}
    (h : ofInsertion leg request entry insertion = .ok legs)
    (last : insertion.dropoff = entry.stopCount) : legs.fromDropoff = none := by
  rw [ofInsertion_eq] at h
  obtain ⟨w, -, h⟩ := bind_eq_ok.mp h
  obtain ⟨toPickup, -, h⟩ := bind_eq_ok.mp h
  obtain ⟨between, -, h⟩ := bind_eq_ok.mp h
  obtain ⟨fromDropoff, honward, h⟩ := bind_eq_ok.mp h
  cases h
  rcases onward_eq_ok.mp honward with ⟨hd, -⟩ | ⟨-, hnone⟩
  · exact absurd last hd.ne
  · exact hnone

variable (answers : leg.Answers (entry.places request))
include answers

theorem exists_onward : ∃ fromDropoff, onward leg request entry d = .ok fromDropoff := by
  by_cases hd : d < entry.stopCount
  · obtain ⟨next, hnext⟩ := Entry.exists_waypoint (Nat.succ_le_of_lt hd)
    obtain ⟨time, htime⟩ :=
      answers _ Entry.destination_mem_places _ (Entry.location_mem_places hnext)
    exact ⟨_, onward_eq_ok.mpr (.inl ⟨hd, next, time, hnext, htime, rfl⟩)⟩
  · exact ⟨_, onward_eq_ok.mpr (.inr ⟨hd, rfl⟩)⟩

/-- The legs of an insertion inside the schedule are drives between its places. -/
theorem exists_ofInsertion {insertion : Insertion}
    (ordered : insertion.pickup ≤ insertion.dropoff)
    (inside : insertion.dropoff ≤ entry.stopCount) :
    ∃ legs, ofInsertion leg request entry insertion = .ok legs := by
  obtain ⟨p, d⟩ := insertion
  change p ≤ d at ordered
  change d ≤ entry.stopCount at inside
  obtain ⟨w, hw⟩ := Entry.exists_waypoint (ordered.trans inside)
  obtain ⟨toPickup, h₁⟩ := answers _ (Entry.location_mem_places hw) _ Entry.origin_mem_places
  obtain ⟨fromDropoff, h₄⟩ := exists_onward answers (d := d)
  rcases Nat.eq_or_lt_of_le ordered with rfl | h
  · obtain ⟨direct, h₂⟩ := answers _ Entry.origin_mem_places _ Entry.destination_mem_places
    exact ⟨_, ofInsertion_self hw h₁ h₂ h₄⟩
  · obtain ⟨next, hnext⟩ := Entry.exists_waypoint (Nat.succ_le_of_lt (h.trans_le inside))
    obtain ⟨last, hlast⟩ := Entry.exists_waypoint inside
    obtain ⟨fromPickup, h₂⟩ :=
      answers _ Entry.origin_mem_places _ (Entry.location_mem_places hnext)
    obtain ⟨toDropoff, h₃⟩ :=
      answers _ (Entry.location_mem_places hlast) _ Entry.destination_mem_places
    exact ⟨_, ofInsertion_of_lt h hw h₁ hnext h₂ hlast h₃ h₄⟩

end Rules

end Legs

/-! ## 3. Timing and slack -/

section Prices

variable [Scalar α] {request : Request α} {entry : Entry α} {insertion : Insertion}

theorem Timing.exists_ofInsertion (stopDuration : α) (legs : Legs α)
    (ordered : insertion.pickup ≤ insertion.dropoff)
    (inside : insertion.dropoff ≤ entry.stopCount) :
    ∃ t, Timing.ofInsertion stopDuration request entry insertion legs = .ok t := by
  obtain ⟨p, d⟩ := insertion
  change p ≤ d at ordered
  change d ≤ entry.stopCount at inside
  rcases Nat.eq_or_lt_of_le ordered with rfl | h
  · obtain ⟨w, hw⟩ := Entry.exists_waypoint inside
    obtain ⟨replaced, hr⟩ := Entry.exists_driveAfter inside
    exact ⟨_, ofInsertion_self legs hw hr⟩
  · obtain ⟨_, _, t, -, ht, -⟩ := exists_ofInsertion_of_lt h inside stopDuration request legs
    exact ⟨t, ht⟩

omit [Scalar α] in
theorem InsertionSlack.ofInsertion_eq_ok {slack : InsertionSlack α} :
    ofInsertion entry insertion = .ok slack ↔
      entry.slackAt insertion.pickup = .ok slack.pickup ∧
        entry.slackAt insertion.dropoff = .ok slack.dropoff := by
  rw [ofInsertion, bind_eq_ok]
  constructor
  · intro h
    obtain ⟨pickup, hpickup, h⟩ := h
    obtain ⟨dropoff, hdropoff, h⟩ := bind_eq_ok.mp h
    cases h
    exact ⟨hpickup, hdropoff⟩
  · intro h
    exact ⟨_, h.1, bind_eq_ok.mpr ⟨_, h.2, rfl⟩⟩

omit [Scalar α] in
theorem InsertionSlack.exists_ofInsertion (slacks : entry.HasSlacks)
    (ordered : insertion.pickup ≤ insertion.dropoff)
    (inside : insertion.dropoff ≤ entry.stopCount) :
    ∃ slack, InsertionSlack.ofInsertion entry insertion = .ok slack := by
  have hslack : ∀ k ≤ entry.stopCount, ∃ x, entry.slackAt k = .ok x := fun k hk => by
    have hlt : k < entry.slack.length := slacks ▸ Nat.lt_succ_of_le hk
    exact ⟨_, lookUp_eq_ok.mpr (List.getElem?_eq_getElem hlt)⟩
  obtain ⟨x, hx⟩ := hslack insertion.pickup (ordered.trans inside)
  obtain ⟨y, hy⟩ := hslack insertion.dropoff inside
  refine ⟨⟨x, y⟩, ?_⟩
  rw [InsertionSlack.ofInsertion, hx, hy]
  rfl

/-! ## 4. Prices -/

/-- The offer is the insertion with its own timing and cost. -/
structure Search.Prices (s : Search α) (request : Request α) (entry : Entry α)
    (insertion : Insertion) (offer : Scored α) : Prop where
  vehicle : offer.vehicle = entry.vehicle.id
  pickup : offer.pickup = insertion.pickup
  dropoff : offer.dropoff = insertion.dropoff
  price : ∃ legs slack, Legs.ofInsertion s.driveTime request entry insertion = .ok legs ∧
    Timing.ofInsertion s.stopDuration request entry insertion legs = .ok offer.timing ∧
    InsertionSlack.ofInsertion entry insertion = .ok slack ∧
    s.strategy.cost request slack offer.timing = offer.cost

theorem Search.score_eq_ok_iff {s : Search α} {offer : Scored α} :
    s.score request entry insertion = .ok offer ↔ s.Prices request entry insertion offer := by
  rw [score, bind_eq_ok]
  constructor
  · intro h
    obtain ⟨legs, hl, h⟩ := h
    obtain ⟨t, ht, h⟩ := bind_eq_ok.mp h
    obtain ⟨slack, hs, h⟩ := bind_eq_ok.mp h
    cases h
    exact ⟨rfl, rfl, rfl, legs, slack, hl, ht, hs, rfl⟩
  · intro h
    obtain ⟨hv, hp, hd, legs, slack, hl, ht, hs, hc⟩ := h
    refine ⟨legs, hl, bind_eq_ok.mpr ⟨_, ht, bind_eq_ok.mpr ⟨slack, hs, ?_⟩⟩⟩
    rw [hc, ← hv, ← hp, ← hd]
    rfl

theorem Search.exists_prices {s : Search α} (answers : s.driveTime.Answers (entry.places request))
    (slacks : entry.HasSlacks) (h : insertion ∈ entry.insertions request) :
    ∃ offer, s.Prices request entry insertion offer := by
  obtain ⟨ordered, inside⟩ := Entry.bounds_of_mem_insertions h
  obtain ⟨legs, hl⟩ := Legs.exists_ofInsertion answers ordered inside
  obtain ⟨t, ht⟩ := Timing.exists_ofInsertion s.stopDuration legs ordered inside
  obtain ⟨slack, hs⟩ := InsertionSlack.exists_ofInsertion slacks ordered inside
  exact ⟨⟨entry.vehicle.id, insertion.pickup, insertion.dropoff,
    s.strategy.cost request slack t, t⟩, rfl, rfl, rfl, legs, slack, hl, ht, hs, rfl⟩

end Prices

end DialARide
