import Mathlib.Data.List.DropRight

/-!
# Loops that walk through a string

A `while` loop with a bound on its rounds: it has no result when the bound is
too small or when a round has none.  `whileLoop_total` is its rule, with an
invariant and a variant.

`slice` is what stands between two positions of a string.  The three walks move
a position through it, and the results say what the walks are on lists:

* `skipForward_spec`: moving on over what is skipped is `dropWhile`.
* `skipBackward_spec`: moving back is `rdropWhile`.
* `search_spec`: looking for an element finds the first one.
-/

namespace Loops

/-! ## Loops -/

section While

variable {σ : Type}

/-- `while (guard) state = body(state)`. -/
def whileLoop (guard : σ → Bool) (body : σ → Option σ) : Nat → σ → Option σ
  | 0, _ => none
  | fuel + 1, state =>
    if guard state then (body state).bind (whileLoop guard body fuel) else some state

/-- What every round keeps holds at the end, and there is an end when every
round makes the variant smaller. -/
theorem whileLoop_total {guard : σ → Bool} {body : σ → Option σ} (inv : σ → Prop)
    (variant : σ → Nat)
    (hbody : ∀ state, inv state → guard state = true →
      ∃ next, body state = some next ∧ inv next ∧ variant next < variant state)
    {fuel : Nat} {state : σ} (h : inv state) (hfuel : variant state < fuel) :
    ∃ last, whileLoop guard body fuel state = some last ∧ inv last ∧ guard last = false := by
  induction fuel generalizing state with
  | zero => omega
  | succ fuel ih =>
    cases hguard : guard state with
    | false => exact ⟨state, by rw [whileLoop, hguard]; rfl, h, hguard⟩
    | true =>
      obtain ⟨next, hnext, hinv, hless⟩ := hbody state h hguard
      obtain ⟨last, hlast, hend⟩ := ih hinv (by omega)
      refine ⟨last, ?_, hend⟩
      rw [whileLoop, hguard, if_pos rfl, hnext, Option.bind_some, hlast]

end While

/-! ## Slices -/

variable {α : Type}

/-- What stands from one position to another. -/
def slice (s : List α) (start stop : Nat) : List α := (s.drop start).take (stop - start)

@[simp] theorem slice_self (s : List α) (start : Nat) : slice s start start = [] := by
  simp [slice]

theorem slice_of_le {s : List α} {start stop : Nat} (h : stop ≤ start) :
    slice s start stop = [] := by
  rw [slice, Nat.sub_eq_zero_of_le h, List.take_zero]

theorem length_slice {s : List α} {start stop : Nat} (hstop : stop ≤ s.length) :
    (slice s start stop).length = stop - start := by
  rw [slice, List.length_take, List.length_drop]
  omega

theorem take_slice (s : List α) {start mid stop : Nat} (h : mid ≤ stop) :
    (slice s start stop).take (mid - start) = slice s start mid := by
  rw [slice, slice, List.take_take, Nat.min_eq_left (by omega)]

theorem drop_slice (s : List α) {start mid stop : Nat} (h : start ≤ mid) :
    (slice s start stop).drop (mid - start) = slice s mid stop := by
  rw [slice, slice, List.drop_take, List.drop_drop, Nat.add_sub_cancel' h,
    show stop - start - (mid - start) = stop - mid by omega]

theorem slice_length (s : List α) (start : Nat) : slice s start s.length = s.drop start := by
  rw [slice, List.take_of_length_le (by rw [List.length_drop])]

theorem slice_append_slice (s : List α) {start mid stop : Nat} (hstart : start ≤ mid)
    (hmid : mid ≤ stop) : slice s start mid ++ slice s mid stop = slice s start stop := by
  have hdrop : s.drop mid = (s.drop start).drop (mid - start) := by
    rw [List.drop_drop, Nat.add_sub_cancel' hstart]
  rw [slice, slice, slice, hdrop, show stop - start = (mid - start) + (stop - mid) by omega,
    List.take_add]

theorem slice_singleton {s : List α} {start : Nat} (h : start < s.length) (d : α) :
    slice s start (start + 1) = [s.getD start d] := by
  rw [slice, List.drop_eq_getElem_cons h, Nat.add_sub_cancel_left, List.getD_eq_getElem?_getD,
    List.getElem?_eq_getElem h]
  rfl

/-- The first element of a slice. -/
theorem slice_eq_cons {s : List α} {start stop : Nat} (h : start < stop)
    (hstop : stop ≤ s.length) (d : α) :
    slice s start stop = s.getD start d :: slice s (start + 1) stop := by
  rw [← slice_append_slice s (Nat.le_succ start) h, slice_singleton (by omega) d]
  rfl

/-- The last element of a slice. -/
theorem slice_eq_concat {s : List α} {start stop : Nat} (h : start < stop)
    (hstop : stop ≤ s.length) (d : α) :
    slice s start stop = slice s start (stop - 1) ++ [s.getD (stop - 1) d] := by
  have hlast := slice_singleton (show stop - 1 < s.length by omega) d
  rw [show stop - 1 + 1 = stop by omega] at hlast
  rw [← slice_append_slice s (show start ≤ stop - 1 by omega) (Nat.sub_le stop 1), hlast]

/-! ## Walks -/

section Walks

variable (s : List α) (d : α) (p : α → Bool)

/-- `while (start < stop && p(s[start])) start++`. -/
def skipForward (stop fuel start : Nat) : Option Nat :=
  whileLoop (fun i => i < stop && p (s.getD i d)) (fun i => some (i + 1)) fuel start

/-- `while (stop > start && p(s[stop - 1])) stop--`. -/
def skipBackward (start fuel stop : Nat) : Option Nat :=
  whileLoop (fun i => start < i && p (s.getD (i - 1) d)) (fun i => some (i - 1)) fuel stop

/-- `for (i = start; i < stop; i++) if (p(s[i])) { found = i; break; }`: the
result is `found`, null when nothing was. -/
def search (stop : Nat) : Nat → Nat → Option (Option Nat)
  | 0, _ => none
  | fuel + 1, start =>
    if start < stop then
      if p (s.getD start d) then some (some start) else search stop fuel (start + 1)
    else some none

variable {s} {start stop fuel : Nat}

theorem skipForward_spec (hle : start ≤ stop) (hstop : stop ≤ s.length)
    (hfuel : stop - start < fuel) :
    ∃ i, skipForward s d p stop fuel start = some i ∧ start ≤ i ∧ i ≤ stop ∧
      slice s i stop = (slice s start stop).dropWhile p := by
  have hwalk : ∃ i, skipForward s d p stop fuel start = some i ∧
      (start ≤ i ∧ i ≤ stop ∧ (slice s i stop).dropWhile p = (slice s start stop).dropWhile p) ∧
      (i < stop && p (s.getD i d)) = false := by
    refine whileLoop_total _ (fun i => stop - i) ?_ ⟨Nat.le_refl _, hle, rfl⟩ hfuel
    intro i hinv hguard
    obtain ⟨hstart, hi, hdrop⟩ := hinv
    rw [Bool.and_eq_true, decide_eq_true_eq] at hguard
    obtain ⟨hlt, hp⟩ := hguard
    rw [slice_eq_cons hlt hstop d, List.dropWhile_cons_of_pos hp] at hdrop
    exact ⟨i + 1, rfl, ⟨by omega, by omega, hdrop⟩, by omega⟩
  obtain ⟨i, hrun, ⟨hstart, hi, hdrop⟩, hend⟩ := hwalk
  refine ⟨i, hrun, hstart, hi, ?_⟩
  rw [← hdrop]
  rcases Nat.lt_or_ge i stop with hlt | hge
  · have hp : ¬p (s.getD i d) = true := by simpa [hlt] using hend
    rw [slice_eq_cons hlt hstop d, List.dropWhile_cons_of_neg hp]
  · rw [slice_of_le hge, List.dropWhile_nil]

theorem skipBackward_spec (hle : start ≤ stop) (hstop : stop ≤ s.length)
    (hfuel : stop - start < fuel) :
    ∃ i, skipBackward s d p start fuel stop = some i ∧ start ≤ i ∧ i ≤ stop ∧
      slice s start i = (slice s start stop).rdropWhile p := by
  have hwalk : ∃ i, skipBackward s d p start fuel stop = some i ∧
      (start ≤ i ∧ i ≤ stop ∧ (slice s start i).rdropWhile p = (slice s start stop).rdropWhile p) ∧
      (start < i && p (s.getD (i - 1) d)) = false := by
    refine whileLoop_total _ (fun i => i - start) ?_ ⟨hle, Nat.le_refl _, rfl⟩ hfuel
    intro i hinv hguard
    obtain ⟨hstart, hi, hdrop⟩ := hinv
    rw [Bool.and_eq_true, decide_eq_true_eq] at hguard
    obtain ⟨hlt, hp⟩ := hguard
    rw [slice_eq_concat hlt (by omega) d, List.rdropWhile_concat_pos _ _ _ hp] at hdrop
    exact ⟨i - 1, rfl, ⟨by omega, by omega, hdrop⟩, by omega⟩
  obtain ⟨i, hrun, ⟨hstart, hi, hdrop⟩, hend⟩ := hwalk
  refine ⟨i, hrun, hstart, hi, ?_⟩
  rw [← hdrop]
  rcases Nat.lt_or_ge start i with hlt | hge
  · have hp : ¬p (s.getD (i - 1) d) = true := by simpa [hlt] using hend
    rw [slice_eq_concat hlt (by omega) d, List.rdropWhile_concat_neg _ _ _ hp]
  · rw [slice_of_le hge, List.rdropWhile_nil]

/-- What is found is the first of its kind. -/
theorem search_spec (hstop : stop ≤ s.length) (hfuel : stop - start < fuel) :
    search s d p stop fuel start = some none ∧ (∀ a ∈ slice s start stop, p a = false) ∨
      ∃ i, search s d p stop fuel start = some (some i) ∧ start ≤ i ∧ i < stop ∧
        p (s.getD i d) = true ∧ ∀ a ∈ slice s start i, p a = false := by
  induction fuel generalizing start with
  | zero => omega
  | succ fuel ih =>
    rw [search]
    split
    · rename_i hlt
      split
      · rename_i hp
        exact Or.inr ⟨start, rfl, Nat.le_refl _, hlt, hp, by simp⟩
      · rename_i hp
        have hp : p (s.getD start d) = false := by simpa using hp
        have hrest : stop - (start + 1) < fuel := by omega
        rcases ih hrest with ⟨hrun, hnone⟩ | ⟨i, hrun, hi, hlt', hfound, hfirst⟩
        · refine Or.inl ⟨hrun, ?_⟩
          rw [slice_eq_cons hlt hstop d, List.forall_mem_cons]
          exact ⟨hp, hnone⟩
        · refine Or.inr ⟨i, hrun, by omega, hlt', hfound, ?_⟩
          rw [slice_eq_cons hi (by omega) d, List.forall_mem_cons]
          exact ⟨hp, hfirst⟩
    · rename_i hge
      refine Or.inl ⟨rfl, ?_⟩
      rw [slice_of_le (by omega)]
      simp

end Walks

end Loops
