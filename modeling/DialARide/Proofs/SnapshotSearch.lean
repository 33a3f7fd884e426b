import DialARide.Proofs.Carries
import DialARide.Proofs.Scan
import DialARide.Proofs.Snapshot

/-!
# Searching an accepted snapshot

No search for a request of an accepted snapshot meets a fault (`Snapshot.search_succeeds`). The
search even succeeds with an estimator that refuses every pair of locations outside the snapshot,
and an estimator that knows more never changes an answer (`Search.answers_keptBy`).
-/

namespace DialARide

/-! ## 1. Computations that succeed more often -/

section Kept

variable {β γ : Type}

/-- Where `x` has a result, `y` has the same. -/
def KeptBy (x y : Except Fault β) : Prop := ∀ result, x = .ok result → y = .ok result

theorem KeptBy.refl (x : Except Fault β) : KeptBy x x := fun _ h => h

theorem KeptBy.bind {x y : Except Fault β} {f g : β → Except Fault γ} (hxy : KeptBy x y)
    (hfg : ∀ item, KeptBy (f item) (g item)) : KeptBy (x >>= f) (y >>= g) := by
  intro result h
  obtain ⟨item, hitem, h⟩ := bind_eq_ok.mp h
  exact bind_eq_ok.mpr ⟨item, hxy item hitem, hfg item result h⟩

theorem KeptBy.map {x y : Except Fault β} (f : β → γ) (hxy : KeptBy x y) :
    KeptBy (f <$> x) (f <$> y) := by
  rw [map_eq_pure_bind, map_eq_pure_bind]
  exact hxy.bind fun _ => .refl _

theorem KeptBy.mapM {f g : β → Except Fault γ} (hfg : ∀ item, KeptBy (f item) (g item))
    (items : List β) : KeptBy (items.mapM f) (items.mapM g) := by
  intro results h
  rw [mapM_eq_ok_iff] at h ⊢
  exact h.imp fun item result => hfg item result

end Kept

/-! ## 2. Searches with more knowledge -/

variable {α δ : Type}

/-- The other estimator knows at least the same drives. -/
def DriveTime.ExtendedBy (driveTime other : DriveTime δ) : Prop :=
  ∀ a b, KeptBy (driveTime a b) (other a b)

/-- The same answers, but none for a location that is not one of the first `count`. -/
def DriveTime.within (driveTime : DriveTime δ) (count : Nat) : DriveTime δ := fun a b =>
  if a < count ∧ b < count then driveTime a b else .error (.outsideMatrix a b count)

theorem DriveTime.within_extendedBy (driveTime : DriveTime δ) (count : Nat) :
    (driveTime.within count).ExtendedBy driveTime := by
  intro a b time h
  unfold within at h
  split at h
  · exact h
  · cases h

section Legs

variable {leg other : DriveTime δ} {request : Request α} {entry : Entry α}

/-- Legs that are equal one by one. -/
theorem Legs.eq_of_related {legs legs' : Legs δ} (h : legs.Related Eq legs') : legs = legs' := by
  have hmap : legs'.map id = legs' := by
    rw [map, Option.map_id]
    rfl
  rw [← hmap]
  exact eq_map_of_related h

theorem Legs.ofInsertion_keptBy (h : leg.ExtendedBy other) (insertion : Insertion) :
    KeptBy (ofInsertion leg request entry insertion)
      (ofInsertion other request entry insertion) := by
  intro legs hlegs
  have drives : ∀ a b, Carries Eq (leg a b) (other a b) :=
    fun a b time htime => ⟨time, h a b time htime, rfl⟩
  obtain ⟨legs', hlegs', hrel⟩ :=
    ofInsertion_carries drives ⟨rfl, rfl⟩ (.refl entry) insertion legs hlegs
  rw [eq_of_related hrel]
  exact hlegs'

end Legs

variable [Scalar α]

/-- The other search is the same but for an estimator that knows at least the same drives. -/
structure Search.ExtendedBy (s other : Search α) : Prop where
  driveTime : s.driveTime.ExtendedBy other.driveTime
  stopDuration : s.stopDuration = other.stopDuration
  strategy : s.strategy = other.strategy
  deadline : s.deadline = other.deadline

namespace Search

theorem ofSettings_extendedBy {driveTime other : DriveTime α} (h : driveTime.ExtendedBy other)
    (settings : Settings α) :
    (ofSettings driveTime settings).ExtendedBy (ofSettings other settings) :=
  ⟨h, rfl, rfl, rfl⟩

variable {s other : Search α} {request : Request α} {entry : Entry α} {fleet : List (Entry α)}
  {clock : Clock}

theorem score_keptBy (h : s.ExtendedBy other) (insertion : Insertion) :
    KeptBy (s.score request entry insertion) (other.score request entry insertion) := by
  unfold score
  rw [h.stopDuration, h.strategy]
  exact .bind (Legs.ofInsertion_keptBy h.driveTime insertion) fun _ => .refl _

theorem evaluateVehicle_keptBy (h : s.ExtendedBy other) :
    KeptBy (s.evaluateVehicle request entry) (other.evaluateVehicle request entry) :=
  .bind (.mapM (fun insertion => score_keptBy h insertion) _) fun _ => .refl _

theorem evaluateUnless_keptBy (h : s.ExtendedBy other) (overdue : Bool) :
    KeptBy (s.evaluateUnless request overdue entry)
      (other.evaluateUnless request overdue entry) := by
  unfold evaluateUnless
  split
  · exact .refl _
  · exact .map some (evaluateVehicle_keptBy h)

theorem evaluateFleet_keptBy (h : s.ExtendedBy other) :
    KeptBy (s.evaluateFleet clock request fleet)
      (other.evaluateFleet clock request fleet) := by
  have hoverdue : other.outOfTime = s.outOfTime := by
    unfold outOfTime
    rw [h.deadline]
  refine .mapM (fun item => ?_) _
  show KeptBy (s.evaluateUnless request (s.outOfTime (clock item.1)) item.2)
    (other.evaluateUnless request (other.outOfTime (clock item.1)) item.2)
  rw [hoverdue]
  exact evaluateUnless_keptBy h _

omit [Scalar α] in
theorem Ready.of_extendedBy (ready : s.Ready request fleet) (h : s.ExtendedBy other) :
    other.Ready request fleet where
  slacks := ready.slacks
  answers entry hentry a ha b hb := by
    obtain ⟨time, htime⟩ := ready.answers entry hentry a ha b hb
    exact ⟨time, h.driveTime a b time htime⟩

/-- **More knowledge about drives never changes an answer.** -/
theorem answers_keptBy (h : s.ExtendedBy other) :
    KeptBy (s.rankInsertions clock request fleet) (other.rankInsertions clock request fleet) ∧
      KeptBy (s.findBest clock request fleet) (other.findBest clock request fleet) :=
  ⟨.bind (evaluateFleet_keptBy h) fun _ => .refl _,
    .bind (evaluateFleet_keptBy h) fun _ => .refl _⟩

end Search

/-! ## 3. Searches that cannot fail -/

theorem Entry.AcceptedFor.hasSlacks {entry : Entry α} {count : Nat}
    (accepted : entry.AcceptedFor count) : entry.HasSlacks :=
  Entry.hasSlacks_of_ofSlack accepted.constructed

/-- All places that a request of the file can be driven from or to are in the table. -/
theorem Entry.AcceptedFor.places_lt {entry : Entry α} {request : Request α} {count : Nat}
    (accepted : entry.AcceptedFor count) (hrequest : request.AcceptedFor count) :
    ∀ place ∈ entry.places request, place < count := by
  rw [Entry.places, List.forall_mem_cons, List.forall_mem_cons, List.forall_mem_map]
  exact ⟨hrequest.origin, hrequest.destination, accepted.located⟩

namespace Snapshot

variable [Geometry α] {snapshot : Snapshot α} {request : Request α}

/-- The search is ready although its estimator knows nothing outside the snapshot. -/
theorem Consistent.ready (consistent : snapshot.Consistent) (hrequest : request ∈ snapshot.requests)
    (settings : Settings α) :
    (Search.ofSettings (snapshot.estimator.time.within snapshot.estimator.locationCount)
      settings).Ready request snapshot.fleet where
  slacks entry hentry := (consistent.fleet entry hentry).hasSlacks
  answers entry hentry a ha b hb := by
    have inside := (consistent.fleet entry hentry).places_lt (consistent.requests request hrequest)
    obtain ⟨time, htime⟩ := consistent.estimator a (inside a ha) b (inside b hb)
    exact ⟨time, (if_pos ⟨inside a ha, inside b hb⟩).trans htime⟩

/-- So is the search with the estimator itself, which knows more. -/
theorem Consistent.ready_time (consistent : snapshot.Consistent)
    (hrequest : request ∈ snapshot.requests) (settings : Settings α) :
    (Search.ofSettings snapshot.estimator.time settings).Ready request snapshot.fleet :=
  (consistent.ready hrequest settings).of_extendedBy
    (Search.ofSettings_extendedBy (snapshot.estimator.time.within_extendedBy _) settings)

/-- **No search for a request of an accepted snapshot fails**: the positions of each schedule can be
scanned, every vehicle is evaluated, and both questions about the fleet are answered, whatever the
clock shows. The answers are those of an estimator that refuses every pair of locations outside the
snapshot, and no more vehicles are skipped than there are. -/
theorem search_succeeds {file : SnapshotFile α} (accepted : Snapshot.ofFile file = .ok snapshot)
    (settings : Settings α) (hrequest : request ∈ snapshot.requests) :
    let search := Search.ofSettings snapshot.estimator.time settings
    let guarded := Search.ofSettings
      (snapshot.estimator.time.within snapshot.estimator.locationCount) settings
    (∀ entry ∈ snapshot.fleet, entry.scan request = .ok (entry.insertions request) ∧
      ∃ found, guarded.evaluateVehicle request entry = .ok found ∧
        search.evaluateVehicle request entry = .ok found) ∧
    ∀ clock,
      (∃ ranking, guarded.rankInsertions clock request snapshot.fleet = .ok ranking ∧
        search.rankInsertions clock request snapshot.fleet = .ok ranking) ∧
      ∃ outcome, guarded.findBest clock request snapshot.fleet = .ok outcome ∧
        search.findBest clock request snapshot.fleet = .ok outcome ∧
        outcome.evaluatedVehicles + outcome.skippedVehicles = snapshot.fleet.length := by
  have ready := (consistent_of_ofFile accepted).ready hrequest settings
  have knows := Search.ofSettings_extendedBy
    (snapshot.estimator.time.within_extendedBy snapshot.estimator.locationCount) settings
  refine ⟨fun entry hentry => ⟨entry.scan_eq request, ?_⟩, fun clock => ⟨?_, ?_⟩⟩
  · obtain ⟨found, hfound⟩ := ready.exists_evaluateVehicle hentry
    exact ⟨found, hfound, Search.evaluateVehicle_keptBy knows found hfound⟩
  · obtain ⟨ranking, hranking⟩ := ready.exists_rankInsertions clock
    exact ⟨ranking, hranking, (Search.answers_keptBy knows).1 ranking hranking⟩
  · obtain ⟨outcome, houtcome⟩ := ready.exists_findBest clock
    exact ⟨outcome, houtcome, (Search.answers_keptBy knows).2 outcome houtcome,
      Search.findBest_counts houtcome⟩

end Snapshot

namespace Sample

/-- Distances along the axes, on the plane and on the globe. -/
instance : Geometry (Exact ℚ) where
  euclidean a b := Scalar.max (a.x - b.x) (b.x - a.x) + Scalar.max (a.y - b.y) (b.y - a.y)
  greatCircle a b := Scalar.max (a.x - b.x) (b.x - a.x) + Scalar.max (a.y - b.y) (b.y - a.y)

/-- Travel times between three locations. -/
def times : List (List (Exact ℚ)) := [
  [.finite 0, .finite 30, .finite 50],
  [.finite 30, .finite 0, .finite 20],
  [.finite 50, .finite 20, .finite 0]]

/-- One vehicle with a planned stop and slacks of its own, and an idle one; a request. -/
def file : SnapshotFile (Exact ℚ) where
  locations := none
  travelTimes := some times
  travelDistances := none
  beeline := none
  vehicles := [
    ⟨"v0", 4, .finite 1000, ⟨0, .finite 0, none⟩,
      some [⟨2, .finite 100, .finite 130, none, none, 0⟩], some [.finite 400, .finite 500]⟩,
    ⟨"v1", 2, .finite 1000, ⟨1, .finite 10, none⟩, none, none⟩]
  requests := [⟨"r0", 1, 2, none, some (.finite 20), none, none⟩]

/-- The idle vehicle waits at location 1 from time 10 on. -/
def idleStart : Start (Exact ℚ) := ⟨1, .finite 10, 0⟩

/-- What is built from the file. -/
def snapshot : Snapshot (Exact ℚ) where
  estimator := .matrix (.ofTimes times)
  fleet := [
    ⟨vehicle, start, [⟨2, ⟨.finite 100, .finite 130, .posInf, .posInf⟩, 0⟩],
      [.finite 400, .finite 500]⟩,
    ⟨⟨1, "v1", 2, .finite 1000⟩, idleStart, [], slackTimes idleStart [] (.finite 1000)⟩]
  requests := [request]

theorem accepted : Snapshot.ofFile file = .ok snapshot := rfl

end Sample

/-- Two vehicles and three locations, all of whose travel times are known. -/
theorem Snapshot.search_succeeds_sample :
    (Snapshot.ofFile Sample.file = .ok Sample.snapshot ∧
      Sample.request ∈ Sample.snapshot.requests) ∧
    let search := Search.ofSettings Sample.snapshot.estimator.time .standard
    let guarded := Search.ofSettings
      (Sample.snapshot.estimator.time.within Sample.snapshot.estimator.locationCount) .standard
    (∀ entry ∈ Sample.snapshot.fleet,
      entry.scan Sample.request = .ok (entry.insertions Sample.request) ∧
      ∃ found, guarded.evaluateVehicle Sample.request entry = .ok found ∧
        search.evaluateVehicle Sample.request entry = .ok found) ∧
    ∀ clock,
      (∃ ranking,
        guarded.rankInsertions clock Sample.request Sample.snapshot.fleet = .ok ranking ∧
        search.rankInsertions clock Sample.request Sample.snapshot.fleet = .ok ranking) ∧
      ∃ outcome,
        guarded.findBest clock Sample.request Sample.snapshot.fleet = .ok outcome ∧
        search.findBest clock Sample.request Sample.snapshot.fleet = .ok outcome ∧
        outcome.evaluatedVehicles + outcome.skippedVehicles = Sample.snapshot.fleet.length :=
  ⟨⟨Sample.accepted, List.mem_cons_self⟩,
    Snapshot.search_succeeds Sample.accepted .standard List.mem_cons_self⟩

end DialARide
