import Mathlib.Data.List.Basic

/-!
# A growable buffer

An array of cells whose front is in use.  Data is copied behind what is in
use, into a larger array when it does not fit, and emptying the buffer keeps
the array.  The cells that are not in use hold anything: `filler` stands for
what a new array holds, and an emptied buffer keeps its old cells.

`contents` is what the buffer holds.  `contents_push` and `contents_clear`
say that the operations are those of a list, so the array and its growth do
not show.
-/

/-- An array, and how many of its cells are in use. -/
structure GrowBuffer (α : Type) where
  cells : List α
  size : Nat
  fits : size ≤ cells.length

namespace GrowBuffer

variable {α : Type}

def empty : GrowBuffer α := ⟨[], 0, Nat.le_refl _⟩

def contents (buffer : GrowBuffer α) : List α := buffer.cells.take buffer.size

/-- Double a capacity until some cells fit. -/
def doubled (capacity needed : Nat) : Nat :=
  if 0 < capacity ∧ capacity < needed then doubled (capacity * 2) needed else capacity
termination_by needed - capacity

theorem le_doubled {capacity : Nat} (hpos : 0 < capacity) (needed : Nat) :
    needed ≤ doubled capacity needed ∧ capacity ≤ doubled capacity needed := by
  fun_induction doubled capacity needed with
  | case1 capacity hshort ih =>
    have hgrown := ih (by omega)
    omega
  | case2 capacity hshort => omega

/-- A larger array with the same cells at its front. -/
def grow (filler : α) (cells : List α) (capacity : Nat) : List α :=
  cells ++ List.replicate (capacity - cells.length) filler

/-- Write data over the cells at an offset. -/
def copyAt (cells : List α) (offset : Nat) (data : List α) : List α :=
  cells.take offset ++ data ++ cells.drop (offset + data.length)

theorem length_copyAt {cells : List α} {offset : Nat} {data : List α}
    (h : offset + data.length ≤ cells.length) :
    (copyAt cells offset data).length = cells.length := by
  simp only [copyAt, List.length_append, List.length_take, List.length_drop]
  omega

theorem take_copyAt {cells : List α} {offset : Nat} {data : List α}
    (h : offset + data.length ≤ cells.length) :
    (copyAt cells offset data).take (offset + data.length) = cells.take offset ++ data := by
  have hlength : (cells.take offset ++ data).length = offset + data.length := by
    rw [List.length_append, List.length_take]
    omega
  rw [copyAt, ← hlength, List.take_left]

section Push

variable (filler : α) (initial : Nat) (buffer : GrowBuffer α) (data : List α)

/-- The array for some more data: the one there is, or a larger one. -/
def room : List α :=
  if buffer.size + data.length > buffer.cells.length then
    let capacity := if buffer.cells.length ≠ 0 then buffer.cells.length else initial
    grow filler buffer.cells (doubled capacity (buffer.size + data.length))
  else buffer.cells

variable {initial}

theorem length_room (hinitial : 0 < initial) :
    buffer.size + data.length ≤ (room filler initial buffer data).length := by
  unfold room
  split
  · dsimp only
    generalize hcapacity : (if buffer.cells.length ≠ 0 then buffer.cells.length else initial) =
      capacity
    have hpos : 0 < capacity := by
      rw [← hcapacity]
      split
      · omega
      · exact hinitial
    have hle := le_doubled hpos (buffer.size + data.length)
    simp only [grow, List.length_append, List.length_replicate]
    omega
  · omega

theorem take_room :
    (room filler initial buffer data).take buffer.size = buffer.contents := by
  unfold room
  split
  · exact List.take_append_of_le_length buffer.fits
  · rfl

/-- Copy data behind what is in use. -/
def push (hinitial : 0 < initial) : GrowBuffer α where
  cells := copyAt (room filler initial buffer data) buffer.size data
  size := buffer.size + data.length
  fits := by
    rw [length_copyAt (length_room filler buffer data hinitial)]
    exact length_room filler buffer data hinitial

theorem contents_push (hinitial : 0 < initial) :
    (push filler buffer data hinitial).contents = buffer.contents ++ data := by
  rw [contents, push]
  dsimp only
  rw [take_copyAt (length_room filler buffer data hinitial), take_room filler buffer data]

end Push

/-- Nothing is in use any more. -/
def clear (buffer : GrowBuffer α) : GrowBuffer α := ⟨buffer.cells, 0, Nat.zero_le _⟩

@[simp] theorem contents_clear (buffer : GrowBuffer α) : buffer.clear.contents = [] :=
  List.take_zero

@[simp] theorem contents_empty : (empty : GrowBuffer α).contents = [] := rfl

end GrowBuffer
