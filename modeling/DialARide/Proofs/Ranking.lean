import DialARide.Search
import Mathlib.Data.List.Basic

/-!
# Rankings

A ranking sorts stably, so its head is the first of the cheapest elements, and a scan that gives up
its choice only for a strictly cheaper element finds the same one. A scan over several rankings may
therefore look at their heads alone (`Search.foldl_better_heads`).
-/

namespace DialARide

open Std (TransCmp OrientedCmp)

/-! ## 1. The order of a ranking -/

section Order

variable {α : Type} [Ord α]

instance : Ord (RankKey α) := ⟨RankKey.rank⟩

instance [Std.TransOrd α] : Std.TransOrd (RankKey α) :=
  inferInstanceAs (TransCmp (compareLex (compareLex (compareLex
    (compareOn RankKey.cost) (compareOn RankKey.vehicle)) (compareOn RankKey.pickup))
    (compareOn RankKey.dropoff)))

instance [Std.TransOrd α] : TransCmp (Scored.rank : Scored α → Scored α → Ordering) :=
  inferInstanceAs (TransCmp (compareOn Scored.key))

/-- Doubles are sorted by a number for each bit pattern. -/
instance transOrdFloat : Std.TransOrd Float :=
  inferInstanceAs (TransCmp (compareOn fun a : Float => (DoubleBits.mk a.toBits).orderKey))

end Order

/-! ## 2. Sorted lists -/

section Ranked

variable {β : Type} {rank : β → β → Ordering} {items : List β} {a b c : β}

theorem ranked_perm : (ranked rank items).Perm items := List.mergeSort_perm _ _

/-- A list in ranking order is left as it is. -/
theorem ranked_of_pairwise (h : items.Pairwise fun a b => (rank a b).isLE) :
    ranked rank items = items :=
  List.mergeSort_of_pairwise h

/-- The better one of two elements; the first one when their ranks are equal. -/
def first (rank : β → β → Ordering) (a b : β) : β := if rank b a = .lt then b else a

variable [TransCmp rank]

theorem isLE_or_isLE (rank : β → β → Ordering) [TransCmp rank] (a b : β) :
    (rank a b).isLE || (rank b a).isLE := by
  have hswap : rank b a = (rank a b).swap := OrientedCmp.eq_swap
  rw [hswap]
  cases rank a b <;> rfl

theorem pairwise_ranked : (ranked rank items).Pairwise fun a b => (rank a b).isLE :=
  List.pairwise_mergeSort (fun _ _ _ => TransCmp.isLE_trans) (isLE_or_isLE rank) items

theorem isLE_iff_not_lt : (rank a b).isLE ↔ ¬ rank b a = .lt := by
  have hswap : rank b a = (rank a b).swap := OrientedCmp.eq_swap
  rw [hswap]
  cases rank a b <;> decide

theorem first_assoc : first rank (first rank a b) c = first rank a (first rank b c) := by
  unfold first
  by_cases hba : rank b a = .lt
  · by_cases hcb : rank c b = .lt
    · rw [if_pos hba, if_pos hcb, if_pos (TransCmp.lt_trans hcb hba)]
    · rw [if_pos hba, if_neg hcb, if_pos hba]
  · by_cases hcb : rank c b = .lt
    · rw [if_neg hba, if_pos hcb]
    · -- the last one is no better than the middle one, hence no better than the first one
      have hca : ¬ rank c a = .lt := fun h =>
        hcb (TransCmp.lt_of_lt_of_isLE h (isLE_iff_not_lt.mpr hba))
      rw [if_neg hba, if_neg hca, if_neg hcb, if_neg hba]

instance : Std.Associative (first rank) := ⟨fun _ _ _ => first_assoc⟩

/-- A new first element goes right in front of the elements that are no better. -/
theorem exists_ranked_cons (rank : β → β → Ordering) [TransCmp rank] (a : β) (items : List β) :
    ∃ l₁ l₂, ranked rank (a :: items) = l₁ ++ a :: l₂ ∧ ranked rank items = l₁ ++ l₂ ∧
      (∀ b ∈ l₁, rank b a = .lt) ∧ ∀ b ∈ l₂, ¬ rank b a = .lt := by
  obtain ⟨l₁, l₂, hcons, hitems, hlt⟩ := List.mergeSort_cons
    (fun _ _ _ => TransCmp.isLE_trans) (isLE_or_isLE rank) a items
  have hsorted : (ranked rank (a :: items)).Pairwise _ := pairwise_ranked
  rw [ranked, hcons, List.pairwise_append] at hsorted
  refine ⟨l₁, l₂, hcons, hitems, fun b hb => ?_, fun b hb => ?_⟩
  · have hab := hlt b hb
    rwa [Bool.not_eq_true', Bool.eq_false_iff, ne_eq, isLE_iff_not_lt, not_not] at hab
  · exact isLE_iff_not_lt.mp ((List.pairwise_cons.mp hsorted.2.1).1 b hb)

/-- A new first element heads the ranking unless the old head is strictly better. -/
theorem head?_ranked_cons (h : (ranked rank items).head? = some b) :
    (ranked rank (a :: items)).head? = some (first rank a b) := by
  obtain ⟨l₁, l₂, hcons, hitems, hbefore, hafter⟩ := exists_ranked_cons rank a items
  rw [hitems] at h
  rw [hcons]
  cases l₁ with
  | nil =>
    rw [first, if_neg (hafter b (List.mem_of_mem_head? h))]
    rfl
  | cons x l₁ =>
    obtain rfl : x = b := Option.some.inj h
    rw [first, if_pos (hbefore x List.mem_cons_self)]
    rfl

/-- **A ranking begins with what a scan from the left ends with.** -/
theorem head?_ranked : (ranked rank (a :: items)).head? = some (items.foldl (first rank) a) := by
  induction items generalizing a with
  | nil => rw [ranked, List.mergeSort_singleton]; rfl
  | cons b rest ih => rw [head?_ranked_cons ih, List.foldl_cons, List.foldl_assoc]

/-- The elements in front of the first one that fails a test are told by the test. -/
theorem takeWhile_append_of_neg {p : β → Bool} {l₁ l₂ : List β} (h₁ : ∀ b ∈ l₁, p b = true)
    (h₂ : ∀ b ∈ l₂, ¬ p b = true) : (l₁ ++ l₂).takeWhile p = l₁ := by
  rw [List.takeWhile_append_of_pos h₁]
  cases l₂ with
  | nil => rw [List.takeWhile_nil, List.append_nil]
  | cons b rest => rw [List.takeWhile_cons_of_neg (h₂ b List.mem_cons_self), List.append_nil]

/-- There is only one place for a new first element. -/
theorem ranked_cons_of_append {l₁ l₂ : List β} (hitems : ranked rank items = l₁ ++ l₂)
    (hbefore : ∀ b ∈ l₁, rank b a = .lt) (hafter : ∀ b ∈ l₂, ¬ rank b a = .lt) :
    ranked rank (a :: items) = l₁ ++ a :: l₂ := by
  obtain ⟨m₁, m₂, hcons, hitems', hbefore', hafter'⟩ := exists_ranked_cons rank a items
  have hsplit : l₁ ++ l₂ = m₁ ++ m₂ := hitems.symm.trans hitems'
  have hfirst : l₁ = m₁ := by
    have h := congrArg (List.takeWhile fun b => rank b a = .lt) hsplit
    rwa [takeWhile_append_of_neg (by simpa using hbefore) (by simpa using hafter),
      takeWhile_append_of_neg (by simpa using hbefore') (by simpa using hafter')] at h
  subst hfirst
  rw [hcons, List.append_cancel_left hsplit]

/-- **Leaving elements out does not change the order of the others**, equal ones included. -/
theorem ranked_filter (p : β → Bool) (items : List β) :
    ranked rank (items.filter p) = (ranked rank items).filter p := by
  induction items with
  | nil => rw [List.filter_nil, ranked, List.mergeSort_nil, List.filter_nil]
  | cons a rest ih =>
    obtain ⟨l₁, l₂, hcons, hrest, hbefore, hafter⟩ := exists_ranked_cons rank a rest
    rw [hrest, List.filter_append] at ih
    rw [hcons, List.filter_append, List.filter_cons, List.filter_cons]
    split
    next =>
      exact ranked_cons_of_append ih (fun b hb => hbefore b (List.mem_of_mem_filter hb))
        fun b hb => hafter b (List.mem_of_mem_filter hb)
    next => exact ih

/-- When no two different elements tie, a ranking does not depend on how they were listed. -/
theorem ranked_eq_of_perm {others : List β} (perm : items.Perm others)
    (untied : ∀ a ∈ items, ∀ b ∈ items, rank a b = .eq → a = b) :
    ranked rank items = ranked rank others := by
  refine List.Perm.eq_of_pairwise ?_ pairwise_ranked pairwise_ranked
    (ranked_perm.trans (perm.trans ranked_perm.symm))
  intro a b ha hb hab hba
  have hb : b ∈ items := perm.mem_iff.mpr (ranked_perm.mem_iff.mp hb)
  exact untied a (ranked_perm.mem_iff.mp ha) b hb (OrientedCmp.isLE_antisymm hab hba)

end Ranked

/-! ## 3. Scanning for the best -/

namespace Search

variable {α : Type} [Scalar α]

theorem better_some (a b : Scored α) : better (some a) b = some (first Scored.rank a b) :=
  (apply_ite some _ _ _).symm

theorem foldl_better_some {best : Scored α} {items : List (Scored α)} :
    items.foldl better (some best) = some (items.foldl (first Scored.rank) best) := by
  induction items generalizing best with
  | nil => rfl
  | cons a rest ih => rw [List.foldl_cons, better_some, ih, List.foldl_cons]

variable [Std.TransOrd α]

/-- A scan of a list ends as one of the head of its ranking. -/
theorem foldl_better_eq (best : Option (Scored α)) (items : List (Scored α)) :
    items.foldl better best = (ranked Scored.rank items).head?.toList.foldl better best := by
  cases items with
  | nil => rw [ranked, List.mergeSort_nil]; rfl
  | cons a rest =>
    rw [head?_ranked, Option.toList_some, List.foldl_cons, List.foldl_cons, List.foldl_nil]
    cases best with
    | none => exact foldl_better_some
    | some b => rw [better_some, better_some, foldl_better_some, List.foldl_assoc]

/-- **The heads of several rankings suffice to find the best of all their elements.** -/
theorem foldl_better_heads {lists : List (List (Scored α))}
    (h : ∀ items ∈ lists, items.Pairwise fun a b => (Scored.rank a b).isLE)
    (best : Option (Scored α)) :
    (lists.filterMap List.head?).foldl better best = lists.flatten.foldl better best := by
  induction lists generalizing best with
  | nil => rfl
  | cons items rest ih =>
    rw [List.forall_mem_cons] at h
    have hhead : (items :: rest).filterMap List.head?
        = items.head?.toList ++ rest.filterMap List.head? := by
      rw [List.filterMap_cons]
      cases items.head? <;> rfl
    rw [hhead, List.flatten_cons, List.foldl_append, List.foldl_append, ih h.2,
      foldl_better_eq best items, ranked_of_pairwise h.1]

/-- A scan of the whole list finds the head of its ranking. -/
theorem foldl_better_none (items : List (Scored α)) :
    items.foldl better none = (ranked Scored.rank items).head? := by
  rw [foldl_better_eq]
  cases (ranked Scored.rank items).head? <;> rfl

end Search

end DialARide
