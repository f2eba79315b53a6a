import Mathlib.Algebra.Ring.Nat
import Mathlib.Data.List.Basic

/-!
# Cutting a stream into frames

A `Cutter` takes one frame off the front of the input, or says that the
input does not hold a whole frame yet.  `all` takes frames as long as there
are any and returns them with what is left.

* `all_append` is the law of incremental cutting: to cut `xs ++ ys`, cut
  `xs` and go on with what it left and `ys`.
* `all_snd` locates what is left, and `cut_all_snd` says that it holds no
  whole frame.
* `all_append_frame` reads back a frame that was written behind whole
  frames, and `all_flatMap` all frames that were written.
* `all_flatten_iff` says when chunks behind each other are cut into the frames
  of the chunks.
-/

/-- A way to cut frames: each has a size, and bytes behind it do not
change it. -/
structure Cutter (α β : Type) where
  cut : List α → Option (β × List α)
  size : β → Nat
  size_pos : ∀ b, 0 < size b
  size_le : ∀ {xs b rest}, cut xs = some (b, rest) → size b ≤ xs.length
  cut_rest : ∀ {xs b rest}, cut xs = some (b, rest) → rest = xs.drop (size b)
  cut_append : ∀ {xs b rest} ys, cut xs = some (b, rest) → cut (xs ++ ys) = some (b, rest ++ ys)

namespace Cutter

variable {α β : Type} (c : Cutter α β)

theorem rest_length {xs rest : List α} {b : β} (h : c.cut xs = some (b, rest)) :
    rest.length + c.size b = xs.length := by
  have hle := c.size_le h
  rw [c.cut_rest h, List.length_drop]
  omega

theorem rest_length_lt {xs rest : List α} {b : β} (h : c.cut xs = some (b, rest)) :
    rest.length < xs.length := by
  have hlen := c.rest_length h
  have hpos := c.size_pos b
  omega

/-- The frames of the input and what is left. -/
def all (xs : List α) : List β × List α :=
  match _h : c.cut xs with
  | none => ([], xs)
  | some (b, rest) => (b :: (all rest).1, (all rest).2)
termination_by xs.length
decreasing_by all_goals exact c.rest_length_lt _h

/-- The size of some frames. -/
def total (frames : List β) : Nat := (frames.map c.size).sum

@[simp] theorem total_nil : c.total [] = 0 := rfl

@[simp] theorem total_cons (b : β) (frames : List β) :
    c.total (b :: frames) = c.size b + c.total frames := by
  simp [total]

@[simp] theorem total_append (frames frames' : List β) :
    c.total (frames ++ frames') = c.total frames + c.total frames' := by
  simp [total]

theorem all_of_none {xs : List α} (h : c.cut xs = none) : c.all xs = ([], xs) := by
  rw [all]
  split
  · rfl
  · next hsome => rw [h] at hsome; cases hsome

theorem all_of_some {xs rest : List α} {b : β} (h : c.cut xs = some (b, rest)) :
    c.all xs = (b :: (c.all rest).1, (c.all rest).2) := by
  rw [all]
  split
  · next hnone => rw [h] at hnone; cases hnone
  · next hsome =>
    rw [h] at hsome
    cases hsome
    rfl

/-- Induction along the cuts. -/
theorem induct {motive : List α → Prop} (none : ∀ xs, c.cut xs = none → motive xs)
    (some : ∀ xs b rest, c.cut xs = some (b, rest) → motive rest → motive xs) (xs : List α) :
    motive xs := by
  induction h : xs.length using Nat.strongRecOn generalizing xs with
  | ind n ih =>
    cases hcut : c.cut xs with
    | none => exact none xs hcut
    | some cut =>
      exact some xs cut.1 cut.2 hcut (ih _ (h ▸ c.rest_length_lt hcut) cut.2 rfl)

/-- Every frame was cut off somewhere. -/
theorem exists_cut_of_mem_all {xs : List α} {b : β} (h : b ∈ (c.all xs).1) :
    ∃ ys rest, c.cut ys = some (b, rest) := by
  induction xs using c.induct with
  | none xs hcut => simp [c.all_of_none hcut] at h
  | some xs b' rest hcut ih =>
    rw [c.all_of_some hcut] at h
    rcases List.mem_cons.mp h with rfl | hmem
    · exact ⟨xs, rest, hcut⟩
    · exact ih hmem

/-- What is left holds no whole frame. -/
theorem cut_all_snd (xs : List α) : c.cut (c.all xs).2 = none := by
  induction xs using c.induct with
  | none xs h => rw [c.all_of_none h, h]
  | some xs b rest h ih => rw [c.all_of_some h]; exact ih

theorem total_all_le (xs : List α) : c.total (c.all xs).1 ≤ xs.length := by
  induction xs using c.induct with
  | none xs h => simp [c.all_of_none h]
  | some xs b rest h ih =>
    have hlen := c.rest_length h
    rw [c.all_of_some h, total_cons]
    omega

/-- What is left is the input behind its frames. -/
theorem all_snd (xs : List α) : (c.all xs).2 = xs.drop (c.total (c.all xs).1) := by
  induction xs using c.induct with
  | none xs h => simp [c.all_of_none h]
  | some xs b rest h ih =>
    rw [c.all_of_some h, total_cons, ← List.drop_drop, ← c.cut_rest h]
    exact ih

/-- The frames of the input and what is left make up its length. -/
theorem total_all (xs : List α) : c.total (c.all xs).1 + (c.all xs).2.length = xs.length := by
  have hle := c.total_all_le xs
  rw [all_snd, List.length_drop]
  omega

/-- Cutting does not depend on how much of the input has arrived. -/
theorem all_append (xs ys : List α) :
    c.all (xs ++ ys) =
      ((c.all xs).1 ++ (c.all ((c.all xs).2 ++ ys)).1, (c.all ((c.all xs).2 ++ ys)).2) := by
  induction xs using c.induct with
  | none xs h => simp [c.all_of_none h]
  | some xs b rest h ih =>
    rw [c.all_of_some h, c.all_of_some (c.cut_append ys h), ih]
    rfl

@[simp] theorem all_nil : c.all [] = ([], []) := by
  have hcut : c.cut [] = none := by
    cases h : c.cut [] with
    | none => rfl
    | some cut => exact absurd (c.rest_length_lt h) (Nat.not_lt_zero _)
  exact c.all_of_none hcut

/-- A frame behind whole frames is read back. -/
theorem all_append_frame {xs ys : List α} {b : β} (hxs : (c.all xs).2 = [])
    (hys : c.cut ys = some (b, [])) : c.all (xs ++ ys) = ((c.all xs).1 ++ [b], []) := by
  rw [all_append, hxs, List.nil_append, c.all_of_some hys, all_nil]

/-- Frames that were written behind each other are read back. -/
theorem all_flatMap {γ : Type} (encode : γ → List α) (frame : γ → β) {items : List γ}
    (h : ∀ item ∈ items, c.cut (encode item) = some (frame item, [])) :
    c.all (items.flatMap encode) = (items.map frame, []) := by
  induction items with
  | nil => exact c.all_nil
  | cons item items ih =>
    rw [List.forall_mem_cons] at h
    have hcut := c.cut_append (items.flatMap encode) h.1
    rw [List.nil_append] at hcut
    rw [List.flatMap_cons, c.all_of_some hcut, ih h.2, List.map_cons]

/-! ## Chunks -/

/-- What the last chunk leaves. -/
def lastLeft (chunks : List (List α)) : List α :=
  (chunks.getLast?.map fun chunk => (c.all chunk).2).getD []

/-- The frames of the chunks, each cut on its own. -/
def ownFrames (chunks : List (List α)) : List β := chunks.flatMap fun chunk => (c.all chunk).1

theorem total_ownFrames (chunks : List (List α)) :
    c.total (c.ownFrames chunks) + (chunks.map fun chunk => (c.all chunk).2.length).sum =
      chunks.flatten.length := by
  induction chunks with
  | nil => rfl
  | cons chunk chunks ih =>
    have hchunk := c.total_all chunk
    rw [ownFrames] at ih ⊢
    rw [List.flatMap_cons, total_append, List.map_cons, List.sum_cons, List.flatten_cons,
      List.length_append]
    omega

/-- Chunks behind each other are cut into the frames of the chunks, and what
the last one leaves is left, exactly when no other chunk leaves anything. -/
theorem all_flatten_iff (chunks : List (List α)) :
    c.all chunks.flatten = (c.ownFrames chunks, c.lastLeft chunks) ↔
      ∀ chunk ∈ chunks.dropLast, (c.all chunk).2 = [] := by
  constructor
  · intro h
    rcases List.eq_nil_or_concat chunks with rfl | ⟨before, last, rfl⟩
    · exact nofun
    · rw [List.concat_eq_append] at h ⊢
      have hcut := c.total_all (before ++ [last]).flatten
      rw [h, ← c.total_ownFrames, lastLeft, List.getLast?_concat] at hcut
      simp only [Option.map_some, Option.getD_some, List.map_append, List.sum_append,
        List.map_singleton, List.sum_singleton] at hcut
      have hsum : (before.map fun chunk => (c.all chunk).2.length).sum = 0 := by omega
      rw [List.dropLast_concat]
      intro chunk hchunk
      exact List.length_eq_zero_iff.mp
        (List.sum_eq_zero_iff_forall_eq_nat.mp hsum _ (List.mem_map.mpr ⟨chunk, hchunk, rfl⟩))
  · intro h
    induction chunks with
    | nil => exact c.all_nil
    | cons chunk chunks ih =>
      match chunks, h, ih with
      | [], _, _ =>
        rw [List.flatten_cons, List.flatten_nil, List.append_nil, ownFrames, lastLeft]
        simp
      | next :: later, h, ih =>
        have hchunk : (c.all chunk).2 = [] := h chunk List.mem_cons_self
        have hlater := ih fun other hother => h other (List.mem_cons_of_mem chunk hother)
        have hframes : c.ownFrames (chunk :: next :: later) =
            (c.all chunk).1 ++ c.ownFrames (next :: later) := List.flatMap_cons
        have hlast : c.lastLeft (chunk :: next :: later) = c.lastLeft (next :: later) := by
          rw [lastLeft, lastLeft, List.getLast?_cons_cons]
        rw [List.flatten_cons, all_append, hchunk, List.nil_append, hlater, hframes, hlast]

end Cutter
