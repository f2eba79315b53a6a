import Mathlib.Data.List.Basic

/-!
# Decoding by walking a code tree

A decoder that follows one branch for each input bit, emits a symbol when
it reaches a leaf, and starts again at the root.  The tree is given by a
node type, a child function and a classification of the nodes, so that the
lemmas apply to any tree representation.

* `next` is one leg of the walk, up to the first node that is not an inner
  node.  It is computable, so a fact about one code word is decided by
  evaluation.
* `run_of_leaf` and `run_of_halt` give the walk in terms of its first leg.
* `run_flatMap` is the result: a concatenation of code words decodes to the
  symbols, whatever the tail is, when each word ends at its own leaf.
* `run_length_le` bounds the output by the input, for every bit string.
-/

namespace PrefixWalk

/-- What a walk finds at a node. -/
inductive Visit (σ : Type) where
  /-- An inner node: the walk goes on. -/
  | inner
  /-- A leaf: its symbol is emitted and the walk restarts at the root. -/
  | leaf (symbol : σ)
  /-- The walk ends here: a missing branch or an end marker. -/
  | halt

variable {N σ : Type} (child : N → Bool → N) (visit : N → Visit σ) (root : N)

/-- The symbols emitted by a walk from `node` over a bit string. -/
def run : N → List Bool → List σ
  | _, [] => []
  | node, bit :: bits =>
    match visit (child node bit) with
    | .inner => run (child node bit) bits
    | .leaf symbol => symbol :: run root bits
    | .halt => []

/-- The first leg of a walk: the symbol of the first node that is not an
inner node, `none` for a halt, and the bits that are left.  No leg ends when
the bits run out at an inner node. -/
def next : N → List Bool → Option (Option σ × List Bool)
  | _, [] => none
  | node, bit :: bits =>
    match visit (child node bit) with
    | .inner => next (child node bit) bits
    | .leaf symbol => some (some symbol, bits)
    | .halt => some (none, bits)

variable {child visit root}

/-- A longer bit string has the same first leg. -/
theorem next_append {word : List Bool} {found : Option σ} {left : List Bool}
    (rest : List Bool) :
    ∀ {node : N}, next child visit node word = some (found, left) →
      next child visit node (word ++ rest) = some (found, left ++ rest) := by
  induction word with
  | nil => intro node h; exact absurd h (by simp [next])
  | cons bit bits ih =>
    intro node h
    rw [List.cons_append]
    rw [next] at h ⊢
    cases hvisit : visit (child node bit) with
    | inner =>
      simp only [hvisit] at h ⊢
      exact ih h
    | leaf symbol =>
      simp only [hvisit, Option.some.injEq, Prod.mk.injEq] at h ⊢
      exact ⟨h.1, by rw [h.2]⟩
    | halt =>
      simp only [hvisit, Option.some.injEq, Prod.mk.injEq] at h ⊢
      exact ⟨h.1, by rw [h.2]⟩

/-- A leg that ends at a leaf emits its symbol and restarts the walk. -/
theorem run_of_leaf {symbol : σ} {bits left : List Bool} :
    ∀ {node : N}, next child visit node bits = some (some symbol, left) →
      run child visit root node bits = symbol :: run child visit root root left := by
  induction bits with
  | nil => intro node h; exact absurd h (by simp [next])
  | cons bit bits ih =>
    intro node h
    rw [next] at h
    rw [run]
    cases hvisit : visit (child node bit) with
    | inner =>
      simp only [hvisit] at h ⊢
      exact ih h
    | leaf other =>
      simp only [hvisit, Option.some.injEq, Prod.mk.injEq] at h ⊢
      rw [h.1, h.2]
    | halt => simp [hvisit] at h

/-- A leg that ends at a halt emits nothing. -/
theorem run_of_halt {bits left : List Bool} :
    ∀ {node : N}, next child visit node bits = some (none, left) →
      run child visit root node bits = [] := by
  induction bits with
  | nil => intro node _; rfl
  | cons bit bits ih =>
    intro node h
    rw [next] at h
    rw [run]
    cases hvisit : visit (child node bit) with
    | inner =>
      simp only [hvisit] at h ⊢
      exact ih h
    | leaf other => simp [hvisit] at h
    | halt => rfl

/-- A walk that never leaves the inner nodes emits nothing. -/
theorem run_of_none {bits : List Bool} :
    ∀ {node : N}, next child visit node bits = none →
      run child visit root node bits = [] := by
  induction bits with
  | nil => intro node _; rfl
  | cons bit bits ih =>
    intro node h
    rw [next] at h
    rw [run]
    cases hvisit : visit (child node bit) with
    | inner =>
      simp only [hvisit] at h ⊢
      exact ih h
    | leaf other => simp [hvisit] at h
    | halt => rfl

/-- A concatenation of code words decodes to its symbols. -/
theorem run_flatMap {code : σ → List Bool} (tail : List Bool) :
    ∀ (symbols : List σ),
      (∀ symbol ∈ symbols, next child visit root (code symbol) = some (some symbol, [])) →
      run child visit root root (symbols.flatMap code ++ tail) =
        symbols ++ run child visit root root tail := by
  intro symbols
  induction symbols with
  | nil => intro _; rfl
  | cons symbol symbols ih =>
    intro h
    have hword := next_append (symbols.flatMap code ++ tail) (h symbol List.mem_cons_self)
    rw [List.nil_append] at hword
    rw [List.flatMap_cons, List.append_assoc, run_of_leaf hword, List.cons_append,
      ih (fun s hs => h s (List.mem_cons_of_mem _ hs))]

/-- A walk emits at most one symbol a bit. -/
theorem run_length_le {bits : List Bool} :
    ∀ {node : N}, (run child visit root node bits).length ≤ bits.length := by
  induction bits with
  | nil => intro node; simp [run]
  | cons bit bits ih =>
    intro node
    rw [run, List.length_cons]
    cases visit (child node bit) with
    | inner => exact Nat.le_succ_of_le ih
    | leaf symbol => simpa using ih
    | halt => simp

end PrefixWalk
