import DialARide.Proofs.Schedule
import Mathlib.Data.List.Nodup

/-!
# Checks in order

A construction makes one check after the other and stops at the first that fails. Here its checks
stand as a list of conditions, each with the error that reports it. They settle the outcome of a
construction (`Check.Settle`) when it succeeds if all of them hold and otherwise fails with the
error of the first one that does not. What is settled step by step is settled by the list of all
steps (`Check.Settle.bind`, `Check.Settle.mapM`), also when each step looks back at the ids of the
ones before it (`Check.Settle.distinct`).
-/

namespace DialARide

/-- A condition, and the error that is reported when it does not hold. -/
structure Check (ε : Type) where
  holds : Prop
  error : ε

namespace Check

variable {ε ε' β γ : Type} {checks others : List (Check ε)} {error error' : ε}

/-! ## 1. The first failure -/

/-- No check fails. -/
def AllHold (checks : List (Check ε)) : Prop := ∀ check ∈ checks, check.holds

/-- The error is that of the first check that fails. -/
inductive FirstFailure : List (Check ε) → ε → Prop where
  | here {check : Check ε} {rest : List (Check ε)} (failed : ¬ check.holds) :
      FirstFailure (check :: rest) check.error
  | later {check : Check ε} {rest : List (Check ε)} {error : ε} (held : check.holds)
      (failure : FirstFailure rest error) : FirstFailure (check :: rest) error

theorem allHold_nil : AllHold ([] : List (Check ε)) := fun _ h => absurd h List.not_mem_nil

theorem allHold_cons {check : Check ε} :
    AllHold (check :: checks) ↔ check.holds ∧ AllHold checks := List.forall_mem_cons

theorem allHold_append : AllHold (checks ++ others) ↔ AllHold checks ∧ AllHold others :=
  List.forall_mem_append

theorem firstFailure_cons {check : Check ε} :
    FirstFailure (check :: checks) error ↔
      ¬ check.holds ∧ error = check.error ∨ check.holds ∧ FirstFailure checks error := by
  constructor
  · intro h
    cases h with
    | here failed => exact .inl ⟨failed, rfl⟩
    | later held failure => exact .inr ⟨held, failure⟩
  · intro h
    rcases h with ⟨failed, rfl⟩ | ⟨held, failure⟩
    · exact .here failed
    · exact .later held failure

theorem not_firstFailure_nil : ¬ FirstFailure [] error := fun h => nomatch h

theorem firstFailure_singleton {check : Check ε} :
    FirstFailure [check] error ↔ ¬ check.holds ∧ error = check.error := by
  rw [firstFailure_cons]
  exact or_iff_left fun h => not_firstFailure_nil h.2

theorem firstFailure_append : FirstFailure (checks ++ others) error ↔
    FirstFailure checks error ∨ AllHold checks ∧ FirstFailure others error := by
  induction checks with
  | nil => simp only [List.nil_append, not_firstFailure_nil, allHold_nil, true_and, false_or]
  | cons check rest ih =>
    rw [List.cons_append, firstFailure_cons, firstFailure_cons, allHold_cons, ih]
    by_cases held : check.holds <;> simp [held]

theorem FirstFailure.not_allHold (h : FirstFailure checks error) : ¬ AllHold checks := by
  induction h with
  | here failed => exact fun all => failed (allHold_cons.mp all).1
  | later _ _ ih => exact fun all => ih (allHold_cons.mp all).2

theorem FirstFailure.unique (h : FirstFailure checks error) (h' : FirstFailure checks error') :
    error = error' := by
  induction h with
  | here failed =>
    cases h' with
    | here => rfl
    | later held => exact absurd held failed
  | later held _ ih =>
    cases h' with
    | here failed => exact absurd held failed
    | later _ failure => exact ih failure

/-! ## 2. Settled outcomes -/

/-- A construction that makes these checks has this outcome. -/
def Settle (checks : List (Check ε)) : Except ε β → Prop
  | .ok _ => AllHold checks
  | .error error => FirstFailure checks error

namespace Settle

variable {x : Except ε β}

/-- **The construction succeeds exactly when all checks hold.** -/
theorem exists_ok_iff (h : Settle checks x) : (∃ result, x = .ok result) ↔ AllHold checks := by
  cases x with
  | ok result => exact ⟨fun _ => h, fun _ => ⟨result, rfl⟩⟩
  | error error =>
    constructor
    · intro h'
      obtain ⟨_, h'⟩ := h'
      cases h'
    · intro all
      exact absurd all (FirstFailure.not_allHold h)

/-- **Otherwise it fails with the error of the first one that does not.** -/
theorem eq_error_iff (h : Settle checks x) : x = .error error ↔ FirstFailure checks error := by
  cases x with
  | ok result =>
    constructor
    · intro h'
      cases h'
    · intro failure
      exact absurd h failure.not_allHold
  | error error' =>
    constructor
    · intro h'
      cases h'
      exact h
    · intro failure
      rw [FirstFailure.unique h failure]

theorem ok {result : β} : Settle [] (.ok result : Except ε β) := allHold_nil

theorem failed {check : Check ε} (h : ¬ check.holds) :
    Settle (check :: checks) (.error check.error : Except ε β) := .here h

theorem passed {check : Check ε} (held : check.holds) (h : Settle checks x) :
    Settle (check :: checks) x := by
  cases x with
  | error error => exact .later held h
  | ok result => exact allHold_cons.mpr ⟨held, h⟩

/-- One check decides between success and its error. -/
theorem ensure {condition : Prop} {result : β} (h : condition → x = .ok result)
    (h' : ¬ condition → x = .error error) : Settle [⟨condition, error⟩] x := by
  by_cases held : condition
  · rw [h held]
    exact passed held ok
  · rw [h' held]
    exact failed held

theorem bind {f : β → Except ε γ} (hx : Settle checks x)
    (hf : ∀ result, x = .ok result → Settle others (f result)) :
    Settle (checks ++ others) (x >>= f) := by
  cases x with
  | error error => exact firstFailure_append.mpr (.inl hx)
  | ok result =>
    show Settle (checks ++ others) (f result)
    have hf := hf result rfl
    cases hresult : f result with
    | error error =>
      rw [hresult] at hf
      exact firstFailure_append.mpr (.inr ⟨hx, hf⟩)
    | ok final =>
      rw [hresult] at hf
      exact allHold_append.mpr ⟨hx, hf⟩

/-- A last step that cannot fail makes no check. -/
theorem map {f : β → γ} (hx : Settle checks x) : Settle checks (f <$> x) := by
  cases x with
  | error error => exact hx
  | ok result => exact hx

end Settle

/-! ## 3. Errors in another form -/

/-- The same condition, reported in another form. -/
def mapError (f : ε → ε') (check : Check ε) : Check ε' := ⟨check.holds, f check.error⟩

theorem allHold_map_mapError {f : ε → ε'} :
    AllHold (checks.map (mapError f)) ↔ AllHold checks := List.forall_mem_map

theorem FirstFailure.mapError (f : ε → ε') (h : FirstFailure checks error) :
    FirstFailure (checks.map (Check.mapError f)) (f error) := by
  induction h with
  | here failed => exact @FirstFailure.here _ (Check.mapError f _) _ failed
  | later held _ ih => exact .later held ih

theorem Settle.mapError {x : Except ε β} (f : ε → ε') (h : Settle checks x) :
    Settle (checks.map (Check.mapError f)) (x.mapError f) := by
  cases x with
  | error error => exact FirstFailure.mapError f h
  | ok result => exact allHold_map_mapError.mpr h

/-! ## 4. The checks of a list -/

/-- The checks of all items of a list, one item after the other; an item is checked in view of its
position. -/
def each (f : Nat → β → List (Check ε)) (items : List β) : List (Check ε) :=
  (items.mapIdx f).flatten

variable {f : Nat → β → List (Check ε)} {items rest : List β} {item : β}

theorem each_nil : each f ([] : List β) = [] := rfl

theorem each_cons : each f (item :: rest) = f 0 item ++ each (fun k => f (k + 1)) rest := by
  rw [each, List.mapIdx_cons, List.flatten_cons, each]

/-- The same from a later position on. -/
theorem each_cons_from (k : Nat) : each (fun j => f (j + k)) (item :: rest) =
    f k item ++ each (fun j => f (j + (k + 1))) rest := by
  have hshift : (fun j => f (j + 1 + k)) = fun j => f (j + (k + 1)) := by
    funext j
    rw [Nat.add_right_comm, Nat.add_assoc]
  rw [each_cons, Nat.zero_add, hshift]

theorem allHold_each :
    AllHold (each f items) ↔ ∀ k item, items[k]? = some item → AllHold (f k item) := by
  induction items generalizing f with
  | nil => simp [each_nil, allHold_nil]
  | cons first rest ih =>
    rw [each_cons, allHold_append, ih]
    constructor
    · intro h k item hitem
      cases k with
      | zero =>
        cases hitem
        exact h.1
      | succ k => exact h.2 k item hitem
    · intro h
      exact ⟨h 0 first rfl, fun k item hitem => h (k + 1) item hitem⟩

/-- When the position does not matter, a rule for one item is a rule for all of them. -/
theorem allHold_each_iff_forall_mem {rule : β → Prop}
    (h : ∀ k item, items[k]? = some item → (AllHold (f k item) ↔ rule item)) :
    AllHold (each f items) ↔ ∀ item ∈ items, rule item := by
  rw [allHold_each]
  constructor
  · intro all item hmem
    obtain ⟨k, hitem⟩ := List.mem_iff_getElem?.mp hmem
    exact (h k item hitem).mp (all k item hitem)
  · intro all k item hitem
    exact (h k item hitem).mpr (all item (List.mem_of_getElem? hitem))

/-- The first failure is found at the first position where a check fails. -/
theorem firstFailure_each : FirstFailure (each f items) error ↔
    ∃ k item, items[k]? = some item ∧
      (∀ j < k, ∀ other, items[j]? = some other → AllHold (f j other)) ∧
      FirstFailure (f k item) error := by
  induction items generalizing f with
  | nil => simp [each_nil, not_firstFailure_nil]
  | cons first rest ih =>
    rw [each_cons, firstFailure_append, ih]
    constructor
    · intro h
      rcases h with hfirst | ⟨held, k, item, hitem, hbefore, failure⟩
      · exact ⟨0, first, rfl, fun j hj => absurd hj (Nat.not_lt_zero j), hfirst⟩
      · refine ⟨k + 1, item, hitem, fun j hj other hother => ?_, failure⟩
        cases j with
        | zero =>
          cases hother
          exact held
        | succ j => exact hbefore j (Nat.lt_of_succ_lt_succ hj) other hother
    · intro h
      obtain ⟨k, item, hitem, hbefore, failure⟩ := h
      cases k with
      | zero =>
        cases hitem
        exact .inl failure
      | succ k =>
        refine .inr ⟨hbefore 0 (Nat.succ_pos k) first rfl, k, item, hitem, ?_, failure⟩
        exact fun j hj other hother => hbefore (j + 1) (Nat.succ_lt_succ hj) other hother

/-- A list that is built item by item makes the checks of its items. -/
theorem Settle.mapM {g : β → Except ε γ} {checksOf : β → List (Check ε)}
    (h : ∀ item ∈ items, Settle (checksOf item) (g item)) :
    Settle (each (fun _ => checksOf) items) (items.mapM g) := by
  induction items with
  | nil => exact allHold_nil
  | cons first rest ih =>
    rw [List.forall_mem_cons] at h
    rw [each_cons, List.mapM_cons]
    exact h.1.bind fun _ _ => (ih h.2).map (f := (_ :: ·))

/-! ## 5. The checks of records with ids -/

section Distinct

variable {ρ : Type} {id : ρ → String} {duplicate : String → ε} {own : Nat → ρ → List (Check ε)}
  {records : List ρ}

/-- A record is compared with the ones before it, and then makes checks of its own. -/
def distinctAt (id : ρ → String) (duplicate : String → ε) (own : Nat → ρ → List (Check ε))
    (records : List ρ) (index : Nat) (record : ρ) : List (Check ε) :=
  ⟨id record ∉ (records.take index).map id, duplicate (id record)⟩ :: own index record

/-- The checks of records with distinct ids. -/
def eachDistinct (id : ρ → String) (duplicate : String → ε) (own : Nat → ρ → List (Check ε))
    (records : List ρ) : List (Check ε) := each (distinctAt id duplicate own records) records

/-- Comparing each record with the ones before it finds every repetition. -/
theorem nodup_map_iff_forall_take : (records.map id).Nodup ↔
    ∀ index record, records[index]? = some record →
      id record ∉ (records.take index).map id := by
  rw [List.nodup_iff_getElem?_ne_getElem?]
  constructor
  · intro h index record hrecord hmem
    obtain ⟨earlier, hearlier⟩ := List.mem_iff_getElem?.mp hmem
    rw [List.map_take, List.getElem?_take] at hearlier
    split at hearlier
    next hlt =>
      have hlength : index < (records.map id).length := by
        rw [List.length_map]
        exact (List.getElem?_eq_some_iff.mp hrecord).1
      refine h earlier index hlt hlength ?_
      rw [hearlier, List.getElem?_map, hrecord]
      rfl
    next => cases hearlier
  · intro h earlier index hlt hlength heq
    rw [List.length_map] at hlength
    have hrecord := List.getElem?_eq_getElem hlength
    refine h index _ hrecord (List.mem_of_getElem? (i := earlier) ?_)
    rw [List.map_take, List.getElem?_take_of_lt hlt, heq, List.getElem?_map, hrecord]
    rfl

theorem allHold_eachDistinct : AllHold (eachDistinct id duplicate own records) ↔
    (records.map id).Nodup ∧
      ∀ index record, records[index]? = some record → AllHold (own index record) := by
  rw [eachDistinct, allHold_each, nodup_map_iff_forall_take]
  constructor
  · intro h
    exact ⟨fun index record hrecord => (allHold_cons.mp (h index record hrecord)).1,
      fun index record hrecord => (allHold_cons.mp (h index record hrecord)).2⟩
  · intro h index record hrecord
    exact allHold_cons.mpr ⟨h.1 index record hrecord, h.2 index record hrecord⟩

variable (loop : Nat → List String → List ρ → Except ε (List β)) {build : Nat → ρ → Except ε β}

/-- A loop that builds one item after the other, and refuses an id that it has seen before, makes
the checks of records with distinct ids. -/
theorem Settle.distinct (hnil : ∀ index seen, loop index seen [] = .ok [])
    (hcons : ∀ index seen record rest, loop index seen (record :: rest) = do
      if id record ∈ seen then throw (duplicate (id record))
      let item ← build index record
      let others ← loop (index + 1) (id record :: seen) rest
      return item :: others)
    (hown : ∀ index record, records[index]? = some record →
      Settle (own index record) (build index record)) :
    Settle (eachDistinct id duplicate own records) (loop 0 [] records) := by
  -- from any position on, when the ids that were seen are those of the records before it
  have onwards : ∀ rest index seen, records.drop index = rest →
      (∀ found, found ∈ seen ↔ found ∈ (records.take index).map id) →
      Settle (each (fun k => distinctAt id duplicate own records (k + index)) rest)
        (loop index seen rest) := by
    intro rest
    induction rest with
    | nil =>
      intro index seen _ _
      rw [hnil]
      exact .ok
    | cons record rest ih =>
      intro index seen hrest hseen
      have hrecord : records[index]? = some record := by
        rw [← List.head?_drop, hrest, List.head?_cons]
      have hnext : records.drop (index + 1) = rest := by
        rw [← List.tail_drop, hrest, List.tail_cons]
      have hseen' : ∀ found, found ∈ id record :: seen ↔
          found ∈ (records.take (index + 1)).map id := by
        intro found
        rw [List.take_add_one, hrecord, List.mem_cons, hseen, List.map_append, List.mem_append,
          or_comm]
        exact or_congr_right List.mem_singleton.symm
      have others := ih (index + 1) (id record :: seen) hnext hseen'
      rw [each_cons_from, hcons]
      by_cases repeated : id record ∈ seen
      · rw [if_pos repeated]
        exact failed (not_not.mpr ((hseen _).mp repeated))
      · rw [if_neg repeated]
        refine passed (mt (hseen _).mpr repeated) ?_
        exact (hown index record hrecord).bind fun _ _ => others.map (f := (_ :: ·))
  exact onwards records 0 [] rfl fun _ => Iff.rfl

end Distinct

end Check

end DialARide
