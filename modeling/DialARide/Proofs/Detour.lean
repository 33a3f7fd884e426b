import DialARide.Proofs.Pricing
import Mathlib.Tactic.Abel

/-!
# Detours

A vehicle drives along a path: the places of its waypoints, in the order of its schedule. An
insertion puts two more places into that path. Whatever is measured on the legs between places, as
long as it adds up (time or distance), the legs that an insertion comes with account for the
whole change: the new path measures what the old one did, less the legs that are no longer driven,
plus the new ones (`Legs.driven_detour`).

A place that is put into a path replaces the leg around it by two (`driven_insertIdx`). An insertion
is two such steps, the dropoff first, because positions in front of it stay what they are.
-/

namespace DialARide

variable {A : Type} [AddCommGroup A] (weight : LocationId → LocationId → A)

/-! ## 1. Paths -/

/-- What is measured on a path: the sum over the legs from each place to the next one. -/
def driven (path : List LocationId) : A := (path.zipWith weight path.tail).sum

/-- What is measured on the way from a place to the next one; nothing at the end of a path. -/
def legFrom (place : LocationId) (next : Option LocationId) : A :=
  (next.map (weight place)).getD 0

/-- What is measured on the leg of a path that leaves a position. -/
def legAt (path : List LocationId) (k : Nat) : A :=
  (path[k]?.map fun place => legFrom weight place path[k + 1]?).getD 0

section Path

variable {path : List LocationId} {k : Nat} {a : LocationId}

theorem legFrom_some (b : LocationId) : legFrom weight a (some b) = weight a b := rfl

theorem driven_cons (rest : List LocationId) :
    driven weight (a :: rest) = legFrom weight a rest[0]? + driven weight rest := by
  cases rest with
  | nil => exact (zero_add _).symm
  | cons b rest => exact List.sum_cons

theorem legAt_eq (h : path[k]? = some a) : legAt weight path k = legFrom weight a path[k + 1]? := by
  rw [legAt, h]
  rfl

/-- **A place that is put into a path replaces one leg by two.** -/
theorem driven_insertIdx (h : path[k]? = some a) (x : LocationId) :
    driven weight (path.insertIdx (k + 1) x) =
      driven weight path - legFrom weight a path[k + 1]?
        + weight a x + legFrom weight x path[k + 1]? := by
  induction path generalizing k with
  | nil => cases h
  | cons b rest ih =>
    cases k with
    | zero =>
      obtain rfl : b = a := Option.some.inj h
      show driven weight (b :: x :: rest) = _
      rw [driven_cons, driven_cons, driven_cons, List.getElem?_cons_zero, legFrom_some,
        List.getElem?_cons_succ]
      abel
    | succ k =>
      have hfirst : (rest.insertIdx (k + 1) x)[0]? = rest[0]? :=
        List.getElem?_insertIdx_of_lt (Nat.succ_pos k)
      rw [List.insertIdx_succ_cons, driven_cons, driven_cons, hfirst, ih h,
        List.getElem?_cons_succ]
      abel

end Path

/-! ## 2. The path of a vehicle -/

variable {α : Type}

namespace Entry

/-- The places of a schedule, in its order. -/
def path (entry : Entry α) : List LocationId := entry.waypoints.map Waypoint.location

/-- The path with the destination put in after the waypoint of the dropoff, and the origin after
that of the pickup. -/
def changedPath (entry : Entry α) (request : Request α) (insertion : Insertion) :
    List LocationId :=
  (entry.path.insertIdx (insertion.dropoff + 1) request.destination).insertIdx
    (insertion.pickup + 1) request.origin

/-- The planned legs that an insertion replaces: the one on which the request is picked up, and the
one on which it is dropped off if that is another one. -/
def replacedLegs (entry : Entry α) (insertion : Insertion) : A :=
  legAt weight entry.path insertion.pickup +
    if insertion.pickup < insertion.dropoff then legAt weight entry.path insertion.dropoff else 0

variable {entry : Entry α}

theorem getElem?_path {k : Nat} {w : Waypoint α} (hw : entry.waypoint k = .ok w) :
    entry.path[k]? = some w.location := by
  rw [path, List.getElem?_map, waypoint_eq_ok.mp hw]
  rfl

theorem length_path : entry.path.length = entry.stopCount + 1 := by
  rw [path, List.length_map, waypoints, List.length_cons, List.length_map]
  rfl

end Entry

/-! ## 3. The legs of an insertion -/

namespace Legs

/-- All legs together; one that is absent measures nothing. -/
def total (legs : Legs A) : A :=
  legs.toPickup + legs.fromPickup + legs.toDropoff.getD 0 + legs.fromDropoff.getD 0

variable {request : Request α} {entry : Entry α} {p d : Nat} {w : Waypoint α}

/-- The leg from the dropoff leads to the place that follows in the path. -/
theorem exists_onward_legFrom (request : Request α) (entry : Entry α) (d : Nat) : ∃ fromDropoff,
    onward (fun a b => .ok (weight a b)) request entry d = .ok fromDropoff ∧
      fromDropoff.getD 0 = legFrom weight request.destination entry.path[d + 1]? := by
  refine ⟨entry.path[d + 1]?.map (weight request.destination), onward_eq_ok.mpr ?_, rfl⟩
  by_cases hd : d < entry.stopCount
  · obtain ⟨next, hnext⟩ := Entry.exists_waypoint (Nat.succ_le_of_lt hd)
    rw [Entry.getElem?_path hnext]
    exact .inl ⟨hd, next, _, hnext, rfl, rfl⟩
  · have hend : entry.path[d + 1]? = none := by
      rw [List.getElem?_eq_none_iff, Entry.length_path]
      exact Nat.succ_le_succ (Nat.not_lt.mp hd)
    rw [hend]
    exact .inr ⟨hd, rfl⟩

/-- Origin and destination come one after the other. -/
theorem driven_changedPath_self (hw : entry.waypoint p = .ok w) (inside : p ≤ entry.stopCount) :
    driven weight (entry.changedPath request ⟨p, p⟩) =
      driven weight entry.path - legFrom weight w.location entry.path[p + 1]?
        + weight w.location request.origin + weight request.origin request.destination
        + legFrom weight request.destination entry.path[p + 1]? := by
  have hplace := Entry.getElem?_path hw
  have hplace' : (entry.path.insertIdx (p + 1) request.destination)[p]? = some w.location := by
    rw [List.getElem?_insertIdx_of_lt (Nat.lt_succ_self p), hplace]
  have hnext : (entry.path.insertIdx (p + 1) request.destination)[p + 1]?
      = some request.destination := by
    rw [List.getElem?_insertIdx_self, Entry.length_path, if_pos (Nat.succ_le_succ inside)]
  rw [Entry.changedPath, driven_insertIdx weight hplace', hnext, legFrom_some, legFrom_some,
    driven_insertIdx weight hplace]
  abel

/-- Origin and destination lie on two different legs. -/
theorem driven_changedPath_of_lt (h : p < d) (hw : entry.waypoint p = .ok w)
    {next last : Waypoint α} (hnext : entry.waypoint (p + 1) = .ok next)
    (hlast : entry.waypoint d = .ok last) :
    driven weight (entry.changedPath request ⟨p, d⟩) =
      driven weight entry.path - weight w.location next.location
        - legFrom weight last.location entry.path[d + 1]?
        + weight w.location request.origin + weight request.origin next.location
        + weight last.location request.destination
        + legFrom weight request.destination entry.path[d + 1]? := by
  have hkept : ∀ k ≤ d, (entry.path.insertIdx (d + 1) request.destination)[k]? = entry.path[k]? :=
    fun k hk => List.getElem?_insertIdx_of_lt (Nat.lt_succ_of_le hk)
  have hplace' := (hkept p h.le).trans (Entry.getElem?_path hw)
  rw [Entry.changedPath, driven_insertIdx weight hplace', hkept (p + 1) h,
    Entry.getElem?_path hnext, legFrom_some, legFrom_some,
    driven_insertIdx weight (Entry.getElem?_path hlast)]
  abel

/-- **The legs of an insertion account exactly for the change of the path**, for everything that
adds up along legs. -/
theorem driven_detour (entry : Entry α) (request : Request α) {insertion : Insertion}
    (ordered : insertion.pickup ≤ insertion.dropoff)
    (inside : insertion.dropoff ≤ entry.stopCount) :
    ∃ legs, Legs.ofInsertion (fun a b => .ok (weight a b)) request entry insertion = .ok legs ∧
      driven weight (entry.changedPath request insertion) =
        driven weight entry.path - entry.replacedLegs weight insertion + legs.total := by
  obtain ⟨p, d⟩ := insertion
  change p ≤ d at ordered
  change d ≤ entry.stopCount at inside
  obtain ⟨w, hw⟩ := Entry.exists_waypoint (ordered.trans inside)
  obtain ⟨fromDropoff, honward, hfrom⟩ := exists_onward_legFrom weight request entry d
  have hp := legAt_eq weight (Entry.getElem?_path hw)
  rcases Nat.eq_or_lt_of_le ordered with rfl | h
  · refine ⟨_, ofInsertion_self hw rfl rfl honward, ?_⟩
    rw [driven_changedPath_self weight hw inside, Entry.replacedLegs, hp, if_neg (lt_irrefl p)]
    simp only [total, Option.getD_none, hfrom]
    abel
  · obtain ⟨next, hnext⟩ := Entry.exists_waypoint (Nat.succ_le_of_lt (h.trans_le inside))
    obtain ⟨last, hlast⟩ := Entry.exists_waypoint inside
    refine ⟨_, ofInsertion_of_lt h hw rfl hnext rfl hlast rfl honward, ?_⟩
    rw [driven_changedPath_of_lt weight h hw hnext hlast, Entry.replacedLegs, hp, if_pos h,
      legAt_eq weight (Entry.getElem?_path hlast), Entry.getElem?_path hnext, legFrom_some]
    simp only [total, Option.getD_some, hfrom]
    abel

/-- A pickup at once and a dropoff after the first stop of the sample, measured by weights that
differ with the direction of a leg. -/
theorem driven_detour_sample :
    (Sample.entry.path = [0, 3, 2] ∧
      Sample.entry.changedPath Sample.request ⟨0, 1⟩ = [0, 1, 3, 2, 2] ∧
      (0 : Nat) ≤ 1 ∧ (1 : Nat) ≤ Sample.entry.stopCount) ∧
    ∃ legs, Legs.ofInsertion (fun a b => .ok (10 * a + b : ℤ)) Sample.request Sample.entry ⟨0, 1⟩
        = .ok legs ∧
      driven (fun a b => (10 * a + b : ℤ)) (Sample.entry.changedPath Sample.request ⟨0, 1⟩) =
        driven (fun a b => (10 * a + b : ℤ)) Sample.entry.path
          - Sample.entry.replacedLegs (fun a b => (10 * a + b : ℤ)) ⟨0, 1⟩ + legs.total :=
  ⟨⟨rfl, rfl, by decide, by decide⟩,
    driven_detour (fun a b => (10 * a + b : ℤ)) Sample.entry Sample.request (by decide)
      (by decide)⟩

end Legs

end DialARide
