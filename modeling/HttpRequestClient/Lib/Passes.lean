import Mathlib.Data.List.Perm.Basic
import Mathlib.Data.List.Pairwise
import Mathlib.Data.List.Basic

/-!
# Selecting items in passes

A list of tests is gone through once.  Each test takes the items that it holds
of, in their order, out of those that are left.

The result has the items that some test holds of, and no other
(`passes_perm`), by the place of the first test that holds (`passes_sorted`),
and among the items of one test in their order (`filter_passes`).
-/

namespace Passes

variable {α : Type}

/-- The items in the order in which the passes take them. -/
def passes : List (α → Bool) → List α → List α
  | [], _ => []
  | p :: tests, items => items.filter p ++ passes tests (items.filter fun a => !p a)

/-- The place of the first test that holds, the number of tests when there is
none. -/
def rank (tests : List (α → Bool)) (a : α) : Nat := tests.findIdx fun p => p a

/-- Some test holds. -/
def taken (tests : List (α → Bool)) (a : α) : Bool := tests.any fun p => p a

theorem rank_cons_of_pos {p : α → Bool} {a : α} (h : p a = true) (tests : List (α → Bool)) :
    rank (p :: tests) a = 0 := by
  simp [rank, List.findIdx_cons, h]

theorem rank_cons_of_neg {p : α → Bool} {a : α} (h : p a = false) (tests : List (α → Bool)) :
    rank (p :: tests) a = rank tests a + 1 := by
  simp [rank, List.findIdx_cons, h]

/-- The passes take exactly what some test holds of. -/
theorem passes_perm (tests : List (α → Bool)) (items : List α) :
    (passes tests items).Perm (items.filter (taken tests)) := by
  induction tests generalizing items with
  | nil => simp [passes, taken]
  | cons p tests ih =>
    have hsplit : (items.filter (taken (p :: tests))).Perm
        ((items.filter (taken (p :: tests))).filter p ++
          (items.filter (taken (p :: tests))).filter fun a => !p a) :=
      (List.filter_append_perm p _).symm
    have hfirst : (items.filter (taken (p :: tests))).filter p = items.filter p := by
      rw [List.filter_filter]
      refine List.filter_congr fun a _ => ?_
      cases hp : p a <;> simp [taken, hp]
    have hlater : ((items.filter (taken (p :: tests))).filter fun a => !p a) =
        (items.filter fun a => !p a).filter (taken tests) := by
      rw [List.filter_filter, List.filter_filter]
      refine List.filter_congr fun a _ => ?_
      cases hp : p a <;> simp [taken, hp]
    rw [hfirst, hlater] at hsplit
    exact (List.Perm.append_left _ (ih _)).trans hsplit.symm

theorem mem_passes {tests : List (α → Bool)} {items : List α} {a : α} :
    a ∈ passes tests items ↔ a ∈ items ∧ taken tests a = true := by
  rw [(passes_perm tests items).mem_iff, List.mem_filter]

/-- Earlier tests come first. -/
theorem passes_sorted (tests : List (α → Bool)) (items : List α) :
    (passes tests items).Pairwise fun a b => rank tests a ≤ rank tests b := by
  induction tests generalizing items with
  | nil => exact List.Pairwise.nil
  | cons p tests ih =>
    have hneg : ∀ a ∈ passes tests (items.filter fun a => !p a), p a = false := by
      intro a ha
      simpa using (List.mem_filter.mp (mem_passes.mp ha).1).2
    rw [passes, List.pairwise_append]
    refine ⟨?_, ?_, ?_⟩
    · refine List.pairwise_of_forall_mem_list fun a ha b _ => ?_
      rw [rank_cons_of_pos (List.mem_filter.mp ha).2]
      exact Nat.zero_le _
    · refine (ih _).imp_of_mem fun {a b} ha hb hle => ?_
      rw [rank_cons_of_neg (hneg a ha), rank_cons_of_neg (hneg b hb)]
      exact Nat.succ_le_succ hle
    · intro a ha b _
      rw [rank_cons_of_pos (List.mem_filter.mp ha).2]
      exact Nat.zero_le _

/-- The items of one test keep their order. -/
theorem filter_passes (tests : List (α → Bool)) (items : List α) {r : Nat}
    (hr : r < tests.length) :
    (passes tests items).filter (fun a => rank tests a = r) =
      items.filter fun a => rank tests a = r := by
  induction tests generalizing items r with
  | nil => cases hr
  | cons p tests ih =>
    rw [passes, List.filter_append]
    cases r with
    | zero =>
      have hfirst : (items.filter p).filter (fun a => rank (p :: tests) a = 0) =
          items.filter fun a => rank (p :: tests) a = 0 := by
        rw [List.filter_filter]
        refine List.filter_congr fun a _ => ?_
        cases hp : p a <;> simp [rank_cons_of_pos, rank_cons_of_neg, hp]
      have hlater : (passes tests (items.filter fun a => !p a)).filter
          (fun a => rank (p :: tests) a = 0) = [] := by
        refine List.filter_eq_nil_iff.mpr fun a ha => ?_
        have hneg : p a = false := by
          simpa using (List.mem_filter.mp (mem_passes.mp ha).1).2
        simp [rank_cons_of_neg hneg]
      rw [hfirst, hlater, List.append_nil]
    | succ r =>
      have hfirst : (items.filter p).filter (fun a => rank (p :: tests) a = r + 1) = [] := by
        refine List.filter_eq_nil_iff.mpr fun a ha => ?_
        simp [rank_cons_of_pos (List.mem_filter.mp ha).2]
      have hlater : (passes tests (items.filter fun a => !p a)).filter
          (fun a => rank (p :: tests) a = r + 1) =
            (passes tests (items.filter fun a => !p a)).filter fun a => rank tests a = r := by
        refine List.filter_congr fun a ha => ?_
        have hneg : p a = false := by
          simpa using (List.mem_filter.mp (mem_passes.mp ha).1).2
        simp [rank_cons_of_neg hneg]
      rw [hfirst, List.nil_append, hlater, ih _ (Nat.lt_of_succ_lt_succ hr), List.filter_filter]
      refine List.filter_congr fun a _ => ?_
      cases hp : p a <;> simp [rank_cons_of_pos, rank_cons_of_neg, hp]

/-- Later tests work on what is left. -/
theorem passes_append (tests later : List (α → Bool)) (items : List α) :
    passes (tests ++ later) items =
      passes tests items ++ passes later (items.filter fun a => !taken tests a) := by
  induction tests generalizing items with
  | nil => simp [passes, taken]
  | cons p tests ih =>
    have hleft : ((items.filter fun a => !p a).filter fun a => !taken tests a) =
        items.filter fun a => !taken (p :: tests) a := by
      rw [List.filter_filter]
      refine List.filter_congr fun a _ => ?_
      cases hp : p a <;> simp [taken, hp]
    rw [List.cons_append, passes, passes, ih, hleft, List.append_assoc]

end Passes
