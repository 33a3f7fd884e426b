import DialARide.Proofs.FleetSearch

/-!
# Two runs of one computation

A computation may be run twice on different data. Where every look-up and every result of the one
run is related to that of the other, so are the two answers: the relation is carried through the
steps of the computation (`Carries.bind`) and through lists (`Carries.mapM`). A relation between the
answers of two estimators is thereby carried to the legs of every insertion
(`Legs.ofInsertion_carries`).
-/

namespace DialARide

/-! ## 1. Related results -/

variable {β γ β' γ' : Type}

/-- Where `x` has a result, `y` has a related one. -/
def Carries (R : β → γ → Prop) (x : Except Fault β) (y : Except Fault γ) : Prop :=
  ∀ result, x = .ok result → ∃ other, y = .ok other ∧ R result other

namespace Carries

variable {R : β → γ → Prop} {S : β' → γ' → Prop} {x : Except Fault β} {y : Except Fault γ}

theorem ok {result : β} {other : γ} (h : R result other) :
    Carries R (.ok result) (.ok other) := by
  intro result' h'
  cases h'
  exact ⟨other, rfl, h⟩

theorem bind {f : β → Except Fault β'} {g : γ → Except Fault γ'} (hxy : Carries R x y)
    (hfg : ∀ item other, x = .ok item → R item other → Carries S (f item) (g other)) :
    Carries S (x >>= f) (y >>= g) := by
  intro result h
  obtain ⟨item, hitem, h⟩ := bind_eq_ok.mp h
  obtain ⟨other, hother, hrel⟩ := hxy item hitem
  obtain ⟨result', hresult', hrel'⟩ := hfg item other hitem hrel result h
  exact ⟨result', bind_eq_ok.mpr ⟨other, hother, hresult'⟩, hrel'⟩

theorem imp {S : β → γ → Prop} (h : Carries R x y)
    (hrel : ∀ item other, R item other → S item other) : Carries S x y := by
  intro result hresult
  obtain ⟨other, hother, hR⟩ := h result hresult
  exact ⟨other, hother, hrel result other hR⟩

theorem map {f : β → β'} {g : γ → γ'} (hxy : Carries R x y)
    (hfg : ∀ item other, R item other → S (f item) (g other)) :
    Carries S (f <$> x) (g <$> y) := by
  rw [map_eq_pure_bind, map_eq_pure_bind]
  exact hxy.bind fun item other _ hrel => .ok (hfg item other hrel)

theorem mapM {f : β → Except Fault β'} {g : γ → Except Fault γ'} {items : List β}
    {others : List γ}
    (h : List.Forall₂ (fun item other => Carries S (f item) (g other)) items others) :
    Carries (List.Forall₂ S) (items.mapM f) (others.mapM g) := by
  induction h with
  | nil => exact .ok .nil
  | cons hfirst _ ih =>
    rw [List.mapM_cons, List.mapM_cons]
    exact hfirst.bind fun _ _ _ hrel => ih.bind fun _ _ _ hrels => .ok (.cons hrel hrels)

/-- Positions of related lists hold related elements. -/
theorem lookUp {items : List β} {others : List γ} (h : List.Forall₂ R items others)
    (position : Nat) :
    Carries R (DialARide.lookUp items position) (DialARide.lookUp others position) := by
  induction h generalizing position with
  | nil => exact fun _ h => nomatch h
  | cons hfirst _ ih =>
    cases position with
    | zero => exact .ok hfirst
    | succ position =>
      intro result hresult
      rw [lookUp_eq_ok, List.getElem?_cons_succ] at hresult
      obtain ⟨other, hother, hrel⟩ := ih position result (lookUp_eq_ok.mpr hresult)
      rw [lookUp_eq_ok] at hother
      exact ⟨other, lookUp_eq_ok.mpr (List.getElem?_cons_succ.trans hother), hrel⟩

end Carries

/-! ## 2. The legs of two runs -/

variable {α α' δ ε : Type}

/-- The same places are asked for. -/
structure Request.SamePlaces (request : Request α) (request' : Request α') : Prop where
  origin : request.origin = request'.origin
  destination : request.destination = request'.destination

/-- The same places are visited in the same order. -/
structure Entry.SameRoute (entry : Entry α) (entry' : Entry α') : Prop where
  stopCount : entry.stopCount = entry'.stopCount
  waypoint : ∀ k, Carries (fun w w' => w.location = w'.location) (entry.waypoint k)
    (entry'.waypoint k)

theorem Entry.SameRoute.refl (entry : Entry α) : entry.SameRoute entry :=
  ⟨rfl, fun _ w hw => ⟨w, hw, rfl⟩⟩

/-- The same legs are absent, and the others are related. -/
structure Legs.Related (R : δ → ε → Prop) (legs : Legs δ) (legs' : Legs ε) : Prop where
  toPickup : R legs.toPickup legs'.toPickup
  fromPickup : R legs.fromPickup legs'.fromPickup
  toDropoff : Option.Rel R legs.toDropoff legs'.toDropoff
  fromDropoff : Option.Rel R legs.fromDropoff legs'.fromDropoff

/-- Legs that are one by one what `f` makes of others are these legs with that measure. -/
theorem Legs.eq_map_of_related {f : ε → δ} {legs : Legs δ} {legs' : Legs ε}
    (h : legs.Related (fun time time' => time = f time') legs') : legs = legs'.map f := by
  obtain ⟨toPickup, fromPickup, toDropoff, fromDropoff⟩ := legs
  have hleg : ∀ {leg : Option δ} {leg' : Option ε},
      Option.Rel (fun time time' => time = f time') leg leg' → leg = leg'.map f := by
    intro leg leg' hrel
    cases hrel with
    | some htime => exact congrArg some htime
    | none => rfl
  obtain ⟨rfl, rfl, hto, hfrom⟩ := h
  rw [map, ← hleg hto, ← hleg hfrom]

namespace Legs

variable {R : δ → ε → Prop} {leg : DriveTime δ} {leg' : DriveTime ε} {request : Request α}
  {request' : Request α'} {entry : Entry α} {entry' : Entry α'}
  (drives : ∀ a b, Carries R (leg a b) (leg' a b)) (places : request.SamePlaces request')
  (route : entry.SameRoute entry')
include drives places route

theorem onward_carries (d : Nat) :
    Carries (Option.Rel R) (onward leg request entry d) (onward leg' request' entry' d) := by
  unfold onward
  rw [← route.stopCount]
  by_cases hd : d < entry.stopCount
  · rw [if_pos hd, if_pos hd]
    refine (route.waypoint (d + 1)).bind fun w w' _ hw => ?_
    rw [hw, places.destination]
    exact (drives _ _).map fun _ _ => .some
  · rw [if_neg hd, if_neg hd]
    exact .ok .none

theorem middle_carries (insertion : Insertion) :
    Carries (fun between between' => R between.1 between'.1 ∧ Option.Rel R between.2 between'.2)
      (middle leg request entry insertion) (middle leg' request' entry' insertion) := by
  unfold middle
  rw [places.origin, places.destination]
  by_cases hself : insertion.pickup = insertion.dropoff
  · rw [if_pos hself, if_pos hself]
    exact (drives _ _).bind fun direct direct' _ hdirect => .ok ⟨hdirect, .none⟩
  · rw [if_neg hself, if_neg hself]
    refine (route.waypoint (insertion.pickup + 1)).bind fun next next' _ hnext => ?_
    rw [hnext]
    refine (drives _ _).bind fun fromPickup fromPickup' _ hfromPickup =>
      (route.waypoint insertion.dropoff).bind fun last last' _ hlast => ?_
    rw [hlast]
    exact (drives _ _).bind fun toDropoff toDropoff' _ htoDropoff =>
      .ok ⟨hfromPickup, .some htoDropoff⟩

/-- **Where all drives are related, so are the legs of an insertion.** -/
theorem ofInsertion_carries (insertion : Insertion) :
    Carries (Legs.Related R) (ofInsertion leg request entry insertion)
      (ofInsertion leg' request' entry' insertion) := by
  rw [ofInsertion_eq, ofInsertion_eq, places.origin]
  refine (route.waypoint insertion.pickup).bind fun w w' _ hw => ?_
  rw [hw]
  refine (drives _ _).bind fun toPickup toPickup' _ htoPickup =>
    (middle_carries drives places route insertion).bind fun between between' _ hbetween =>
      (onward_carries drives places route insertion.dropoff).bind fun time time' _ htime => ?_
  exact .ok ⟨htoPickup, hbetween.1, hbetween.2, htime⟩

end Legs

/-! ## 3. The insertions of two runs -/

/-- The stops are at one place, and are left with as many passengers. -/
structure Stop.SameLoad (stop : Stop α) (stop' : Stop α') : Prop where
  location : stop.location = stop'.location
  occupancy : stop.occupancy = stop'.occupancy

section Insertions

variable {request : Request α} {request' : Request α'} {entry : Entry α} {entry' : Entry α'}
  {stops : List (Stop α)} {stops' : List (Stop α')}

theorem dropoffs_eq_of_sameLoad (h : List.Forall₂ Stop.SameLoad stops stops')
    (capacity size : Nat) (destination : LocationId) (position : Nat) :
    dropoffs capacity size destination position stops
      = dropoffs capacity size destination position stops' := by
  induction h generalizing position with
  | nil => rfl
  | cons hnext _ ih => rw [dropoffs, dropoffs, hnext.location, hnext.occupancy, ih]

theorem insertionsFrom_eq_of_sameLoad (places : request.SamePlaces request')
    (seats : request.size = request'.size) (h : List.Forall₂ Stop.SameLoad stops stops')
    (capacity position occupancy : Nat) :
    insertionsFrom capacity request position occupancy stops
      = insertionsFrom capacity request' position occupancy stops' := by
  induction h generalizing position occupancy with
  | nil =>
    rw [insertionsFrom, insertionsFrom, seats, places.destination]
    rfl
  | cons hnext hrest ih =>
    simp only [insertionsFrom, ih, hnext.location, hnext.occupancy, seats, places.destination,
      places.origin, dropoffs_eq_of_sameLoad (.cons hnext hrest)]

/-- **Which insertions are listed depends on places and passengers alone.** -/
theorem Entry.insertions_eq_of_sameLoad (places : request.SamePlaces request')
    (seats : request.size = request'.size)
    (capacity : entry.vehicle.capacity = entry'.vehicle.capacity)
    (occupancy : entry.start.occupancy = entry'.start.occupancy)
    (h : List.Forall₂ Stop.SameLoad entry.stops entry'.stops) :
    entry.insertions request = entry'.insertions request' := by
  rw [insertions, insertions, capacity, occupancy, insertionsFrom_eq_of_sameLoad places seats h]

end Insertions

end DialARide
