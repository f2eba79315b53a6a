import Mathlib.Data.List.Perm.Basic

/-!
# A ledger of resources

A program as a list of acts on resources: it acquires them, uses them and
releases them.  `heldAfter` keeps the list of what is held, and finds no
answer where something is used or released that is not held, be it never
acquired or released before.

`heldAfter_append` is the rule for one program behind another, and
`heldAfter_frame` says that a program runs in the same way beside resources
that it does not touch; `heldAfter_alone` that it does not live on those that
it does not know.  `heldAfter_perm` allows to rearrange what is held, and
`heldAfter_map` to rename it; `heldAfter_step` is the rule for a run that goes
on with a part of what it holds.
-/

namespace Ledger

inductive Act (ρ : Type) where
  | acquire (r : ρ)
  | use (r : ρ)
  | release (r : ρ)
  deriving DecidableEq, Repr

def Act.map {ρ σ : Type} (f : ρ → σ) : Act ρ → Act σ
  | .acquire r => .acquire (f r)
  | .use r => .use (f r)
  | .release r => .release (f r)

variable {ρ σ : Type} [DecidableEq ρ] [DecidableEq σ]

def stepHeld (held : List ρ) : Act ρ → Option (List ρ)
  | .acquire r => some (r :: held)
  | .use r => if r ∈ held then some held else none
  | .release r => if r ∈ held then some (held.erase r) else none

/-- What is held behind some acts. -/
def heldAfter (held : List ρ) : List (Act ρ) → Option (List ρ)
  | [] => some held
  | act :: acts => (stepHeld held act).bind fun held => heldAfter held acts

section Rules

variable {held after : List ρ} {act : Act ρ} {acts : List (Act ρ)}

@[simp] theorem heldAfter_nil : heldAfter held [] = some held := rfl

@[simp] theorem heldAfter_acquire (r : ρ) :
    heldAfter held (.acquire r :: acts) = heldAfter (r :: held) acts := rfl

theorem heldAfter_use {r : ρ} (h : r ∈ held) :
    heldAfter held (.use r :: acts) = heldAfter held acts := by
  rw [heldAfter, stepHeld, if_pos h, Option.bind_some]

theorem heldAfter_release {r : ρ} (h : r ∈ held) :
    heldAfter held (.release r :: acts) = heldAfter (held.erase r) acts := by
  rw [heldAfter, stepHeld, if_pos h, Option.bind_some]

/-- To use things leaves what is held, if they are there. -/
theorem heldAfter_uses (rs : List ρ) (h : ∀ r ∈ rs, r ∈ held) :
    heldAfter held (rs.map .use) = some held := by
  induction rs with
  | nil => rfl
  | cons r rs ih =>
    rw [List.map_cons, heldAfter_use (h r List.mem_cons_self)]
    exact ih fun s hs => h s (List.mem_cons_of_mem _ hs)

theorem mem_of_heldAfter_uses (rs : List ρ) (h : (heldAfter held (rs.map .use)).isSome) :
    ∀ r ∈ rs, r ∈ held := by
  induction rs with
  | nil => exact nofun
  | cons r rs ih =>
    by_cases hr : r ∈ held
    · rw [List.map_cons, heldAfter_use hr] at h
      intro s hs
      rcases List.mem_cons.mp hs with rfl | hs
      · exact hr
      · exact ih h s hs
    · rw [List.map_cons, heldAfter, stepHeld, if_neg hr] at h
      cases h

/-- One program behind another. -/
theorem heldAfter_append (held : List ρ) (acts more : List (Act ρ)) :
    heldAfter held (acts ++ more) = (heldAfter held acts).bind fun held => heldAfter held more := by
  induction acts generalizing held with
  | nil => rfl
  | cons act acts ih =>
    rw [List.cons_append, heldAfter, heldAfter, Option.bind_assoc]
    exact congrArg _ (funext fun held => ih held)

theorem heldAfter_seq {middle : List ρ} {more : List (Act ρ)}
    (h : heldAfter held acts = some middle) (hmore : heldAfter middle more = some after) :
    heldAfter held (acts ++ more) = some after := by
  rw [heldAfter_append, h, Option.bind_some, hmore]

theorem stepHeld_frame (h : stepHeld held act = some after) (beside : List ρ) :
    stepHeld (held ++ beside) act = some (after ++ beside) := by
  cases act with
  | acquire r =>
    cases h
    rfl
  | use r =>
    rw [stepHeld] at h ⊢
    split at h
    · rename_i hr
      cases h
      exact if_pos (List.mem_append_left _ hr)
    · cases h
  | release r =>
    rw [stepHeld] at h ⊢
    split at h
    · rename_i hr
      cases h
      rw [if_pos (List.mem_append_left _ hr), List.erase_append_left _ hr]
    · cases h

/-- What is held besides does not matter. -/
theorem heldAfter_frame (h : heldAfter held acts = some after) (beside : List ρ) :
    heldAfter (held ++ beside) acts = some (after ++ beside) := by
  induction acts generalizing held with
  | nil =>
    cases h
    rfl
  | cons act acts ih =>
    obtain ⟨middle, hstep, hrest⟩ := Option.bind_eq_some_iff.mp h
    rw [heldAfter, stepHeld_frame hstep, Option.bind_some]
    exact ih hrest

theorem stepHeld_perm {other : List ρ} (h : stepHeld held act = some after)
    (hperm : held.Perm other) : ∃ after', stepHeld other act = some after' ∧ after.Perm after' := by
  cases act with
  | acquire r =>
    cases h
    exact ⟨r :: other, rfl, hperm.cons r⟩
  | use r =>
    rw [stepHeld] at h
    split at h
    · rename_i hr
      cases h
      exact ⟨other, if_pos (hperm.mem_iff.mp hr), hperm⟩
    · cases h
  | release r =>
    rw [stepHeld] at h
    split at h
    · rename_i hr
      cases h
      exact ⟨other.erase r, if_pos (hperm.mem_iff.mp hr), hperm.erase r⟩
    · cases h

/-- The order in which things are held does not matter. -/
theorem heldAfter_perm {other : List ρ} (h : heldAfter held acts = some after)
    (hperm : held.Perm other) :
    ∃ after', heldAfter other acts = some after' ∧ after.Perm after' := by
  induction acts generalizing held other with
  | nil =>
    cases h
    exact ⟨other, rfl, hperm⟩
  | cons act acts ih =>
    obtain ⟨middle, hstep, hrest⟩ := Option.bind_eq_some_iff.mp h
    obtain ⟨middle', hstep', hmiddle⟩ := stepHeld_perm hstep hperm
    obtain ⟨after', hafter, hperm'⟩ := ih hrest hmiddle
    refine ⟨after', ?_, hperm'⟩
    rw [heldAfter, hstep', Option.bind_some, hafter]

/-- A program that needs a part of what is held leaves the rest. -/
theorem heldAfter_step {middle part beside : List ρ} {more : List (Act ρ)}
    (h : heldAfter held acts = some middle) (hpart : middle.Perm (part ++ beside))
    (hmore : heldAfter part more = some after) :
    ∃ held', heldAfter held (acts ++ more) = some held' ∧ held'.Perm (after ++ beside) := by
  obtain ⟨held', hheld', hperm⟩ := heldAfter_perm (heldAfter_frame hmore beside) hpart.symm
  exact ⟨held', heldAfter_seq h hheld', hperm.symm⟩

/-- What has gone wrong stays wrong. -/
theorem heldAfter_prefix {more : List (Act ρ)} (h : (heldAfter held (acts ++ more)).isSome) :
    (heldAfter held acts).isSome := by
  rw [heldAfter_append] at h
  cases hacts : heldAfter held acts with
  | none =>
    rw [hacts] at h
    cases h
  | some middle => rfl

theorem stepHeld_map {f : ρ → σ} (hf : Function.Injective f)
    (h : stepHeld held act = some after) :
    stepHeld (held.map f) (act.map f) = some (after.map f) := by
  cases act with
  | acquire r =>
    cases h
    rfl
  | use r =>
    rw [stepHeld] at h
    split at h
    · rename_i hr
      cases h
      exact if_pos (List.mem_map_of_mem hr)
    · cases h
  | release r =>
    rw [stepHeld] at h
    split at h
    · rename_i hr
      cases h
      rw [List.map_erase hf]
      exact if_pos (List.mem_map_of_mem hr)
    · cases h

/-- Resources may be renamed apart. -/
theorem heldAfter_map {f : ρ → σ} (hf : Function.Injective f)
    (h : heldAfter held acts = some after) :
    heldAfter (held.map f) (acts.map (Act.map f)) = some (after.map f) := by
  induction acts generalizing held with
  | nil =>
    cases h
    rfl
  | cons act acts ih =>
    obtain ⟨middle, hstep, hrest⟩ := Option.bind_eq_some_iff.mp h
    rw [List.map_cons, heldAfter, stepHeld_map hf hstep, Option.bind_some]
    exact ih hrest

/-- A program does not live on what it does not know. -/
theorem heldAfter_alone {f : ρ → σ} (hf : Function.Injective f) {beside : List σ}
    (hbeside : ∀ r, f r ∉ beside)
    (h : (heldAfter (held.map f ++ beside) (acts.map (Act.map f))).isSome) :
    (heldAfter held acts).isSome := by
  have hknown (held : List ρ) (r : ρ) : f r ∈ held.map f ++ beside ↔ r ∈ held := by
    rw [List.mem_append, or_iff_left (hbeside r), List.mem_map_of_injective hf]
  induction acts generalizing held with
  | nil => rfl
  | cons act acts ih =>
    cases act with
    | acquire r => exact ih h
    | use r =>
      by_cases hr : r ∈ held
      · rw [heldAfter_use hr]
        rw [List.map_cons, Act.map, heldAfter_use ((hknown held r).mpr hr)] at h
        exact ih h
      · rw [List.map_cons, Act.map, heldAfter, stepHeld, if_neg (mt (hknown held r).mp hr)] at h
        cases h
    | release r =>
      by_cases hr : r ∈ held
      · rw [heldAfter_release hr]
        rw [List.map_cons, Act.map, heldAfter_release ((hknown held r).mpr hr),
          List.erase_append_left _ (List.mem_map_of_mem hr), ← List.map_erase hf] at h
        exact ih h
      · rw [List.map_cons, Act.map, heldAfter, stepHeld, if_neg (mt (hknown held r).mp hr)] at h
        cases h

end Rules

end Ledger
