import Mathlib.Data.List.Infix

/-!
# Texts of fields and separators

A text is a first field and then, any number of times, a separator and a
field.  Whoever knows the separators can try to cut the text again.

`Separates.unique`: there is one way to cut it when no field holds the
separator before it or the separator after it.  The separators may differ, but
none may overlap with itself.

A format also says how long each field may be.  `cuts` tries all places of the
separators, and `mem_cuts_iff` says that it finds the cuts that keep to the
format.
-/

namespace Joined

variable {α : Type*}

/-- The text of a first field and of the others with the separators before
them. -/
def joined (first : List α) : List (List α × List α) → List α
  | [] => first
  | (sep, field) :: rest => first ++ sep ++ joined field rest

def Separates (first : List α) : List (List α × List α) → Prop
  | [] => True
  | (sep, field) :: rest => ¬sep <:+: first ∧ ¬sep <:+: field ∧ Separates field rest

/-- No end of the separator is a beginning of it. -/
def Unbordered (sep : List α) : Prop :=
  sep ≠ [] ∧ ∀ n < sep.length, 0 < n → ¬sep.drop n <+: sep

/-- Two places of a separator do not overlap. -/
theorem Unbordered.apart {sep : List α} (h : Unbordered sep) {left left' rest rest' : List α}
    (heq : left ++ sep ++ rest = left' ++ sep ++ rest') (hlt : left.length < left'.length) :
    ∃ between, left' = left ++ sep ++ between ∧ rest = between ++ sep ++ rest' := by
  rw [List.append_assoc, List.append_assoc] at heq
  obtain ⟨moved, hleft, hrest⟩ | ⟨moved, hleft, hrest⟩ := List.append_eq_append_iff.mp heq
  · obtain ⟨between, hmoved, htail⟩ | ⟨back, hsep, htail⟩ := List.append_eq_append_iff.mp hrest
    · refine ⟨between, ?_, ?_⟩
      · rw [hleft, hmoved, List.append_assoc]
      · rw [htail, List.append_assoc]
    · -- an end of the separator would begin it
      cases back with
      | nil => exact ⟨[], by simp [hleft, hsep], by simpa using htail.symm⟩
      | cons c back =>
        have hpos : 0 < moved.length := by
          rw [hleft, List.length_append] at hlt
          omega
        have hshort : moved.length < sep.length := by simp [hsep]
        refine absurd ?_ (h.2 moved.length hshort hpos)
        have hback : sep.drop moved.length = c :: back := by simp [hsep]
        have hlong : (c :: back).length ≤ sep.length := by simp [hsep]
        rw [hback]
        exact List.prefix_of_prefix_length_le ⟨rest, htail.symm⟩ ⟨rest', rfl⟩ hlong
  · rw [hleft, List.length_append] at hlt
    omega

/-- A separator in front of a text cannot move to the right: the ones after it
would have to move as well, and the last one has nowhere to go. -/
theorem joined_ne_of_moved {sep first before first' : List α} {parts parts' : List (List α × List α)}
    (hunbordered : ∀ s ∈ parts.map Prod.fst, Unbordered s)
    (hseps : parts'.map Prod.fst = parts.map Prod.fst) (hfirst : ¬sep <:+: first)
    (hseparates : Separates first parts) :
    joined first parts ≠ before ++ sep ++ joined first' parts' := by
  induction parts generalizing sep first before first' parts' with
  | nil =>
    cases List.map_eq_nil_iff.mp hseps
    exact fun heq => hfirst ⟨before, first', heq.symm⟩
  | cons part rest ih =>
    obtain ⟨s, field⟩ := part
    obtain ⟨⟨s', field'⟩, rest', rfl, hs, hrest⟩ := List.map_eq_cons_iff.mp hseps
    cases hs
    obtain ⟨-, hfield, hlater⟩ := hseparates
    intro heq
    rw [joined, joined, ← List.append_assoc, ← List.append_assoc] at heq
    have hlt : first.length < (before ++ sep ++ first').length := by
      by_contra hle
      have hmoved : before ++ sep ++ first' <+: first ++ s ++ joined field rest :=
        ⟨s ++ joined field' rest', by rw [heq, List.append_assoc _ s]⟩
      have hfront : first <+: first ++ s ++ joined field rest :=
        ⟨s ++ joined field rest, by rw [List.append_assoc]⟩
      have hwhole := List.prefix_of_prefix_length_le hmoved hfront (Nat.le_of_not_lt hle)
      obtain ⟨after, hafter⟩ := hwhole
      exact hfirst ⟨before, first' ++ after, by rw [← hafter, List.append_assoc _ first']⟩
    obtain ⟨between, -, hmoved⟩ :=
      (hunbordered s List.mem_cons_self).apart heq hlt
    exact ih (fun t ht => hunbordered t (List.mem_cons_of_mem _ ht)) hrest hfield hlater hmoved

theorem Separates.unique {first first' : List α} {parts parts' : List (List α × List α)}
    (hunbordered : ∀ s ∈ parts.map Prod.fst, Unbordered s) (h : Separates first parts)
    (hseps : parts'.map Prod.fst = parts.map Prod.fst)
    (heq : joined first parts = joined first' parts') : first' = first ∧ parts' = parts := by
  induction parts generalizing first first' parts' with
  | nil =>
    cases List.map_eq_nil_iff.mp hseps
    exact ⟨heq.symm, rfl⟩
  | cons part rest ih =>
    obtain ⟨s, field⟩ := part
    obtain ⟨⟨s', field'⟩, rest', rfl, hs, hrest⟩ := List.map_eq_cons_iff.mp hseps
    cases hs
    obtain ⟨hfirst, hfield, hlater⟩ := h
    have hs : Unbordered s := hunbordered s List.mem_cons_self
    have hunbordered : ∀ t ∈ rest.map Prod.fst, Unbordered t :=
      fun t ht => hunbordered t (List.mem_cons_of_mem _ ht)
    rw [joined, joined] at heq
    obtain hlt | hlen | hlt := Nat.lt_trichotomy first.length first'.length
    · obtain ⟨between, -, hmoved⟩ := hs.apart heq hlt
      exact absurd hmoved (joined_ne_of_moved hunbordered hrest hfield hlater)
    · rw [List.append_assoc, List.append_assoc] at heq
      obtain ⟨rfl, htail⟩ := List.append_inj heq hlen
      obtain ⟨rfl, rfl⟩ := ih hunbordered hlater hrest (List.append_cancel_left htail)
      exact ⟨rfl, rfl⟩
    · obtain ⟨between, hmoved, -⟩ := hs.apart heq.symm hlt
      exact absurd ⟨first', between, hmoved.symm⟩ hfirst

/-! ## Formats -/

/-- A first field of some length at most, and the others with their separators
and their lengths. -/
def Keeps (limit : Nat) :
    List (List α × Nat) → List α → List (List α × List α) → Prop
  | [], first, parts => first.length ≤ limit ∧ parts = []
  | (sep, size) :: format, first, parts =>
    first.length ≤ limit ∧
      ∃ field rest, parts = (sep, field) :: rest ∧ Keeps size format field rest

/-- The ways to cut a text into the fields of a format. -/
def cuts [DecidableEq α] (limit : Nat) :
    List (List α × Nat) → List α → List (List α × List (List α × List α))
  | [], text => if text.length ≤ limit then [(text, [])] else []
  | (sep, size) :: format, text =>
    (List.range (limit + 1)).flatMap fun n =>
      if n ≤ text.length ∧ sep <+: text.drop n then
        (cuts size format (text.drop (n + sep.length))).map fun cut =>
          (text.take n, (sep, cut.1) :: cut.2)
      else []

theorem mem_cuts_iff [DecidableEq α] {limit : Nat} {format : List (List α × Nat)}
    {text first : List α} {parts : List (List α × List α)} :
    (first, parts) ∈ cuts limit format text ↔
      joined first parts = text ∧ Keeps limit format first parts := by
  induction format generalizing limit text first parts with
  | nil =>
    rw [cuts, Keeps]
    constructor
    · intro h
      split at h
      · rename_i hle
        cases List.mem_singleton.mp h
        exact ⟨rfl, hle, rfl⟩
      · cases h
    · rintro ⟨rfl, hle, rfl⟩
      rw [joined, if_pos hle]
      exact List.mem_singleton_self _
  | cons part format ih =>
    obtain ⟨sep, size⟩ := part
    rw [cuts, Keeps, List.mem_flatMap]
    constructor
    · rintro ⟨n, hn, hcut⟩
      split at hcut
      · rename_i hplace
        obtain ⟨⟨field, rest⟩, hlater, heq⟩ := List.mem_map.mp hcut
        obtain ⟨rfl, rfl⟩ := Prod.mk.inj heq
        obtain ⟨hjoined, hkeeps⟩ := ih.mp hlater
        have hle := List.mem_range.mp hn
        obtain ⟨behind, hbehind⟩ := hplace.2
        have hdrop : text.drop (n + sep.length) = behind := by
          rw [← List.drop_drop, ← hbehind, List.drop_left]
        refine ⟨?_, by rw [List.length_take]; omega, field, rest, rfl, hkeeps⟩
        rw [joined, hjoined, hdrop, List.append_assoc, hbehind, List.take_append_drop]
      · cases hcut
    · rintro ⟨rfl, hle, field, rest, rfl, hkeeps⟩
      refine ⟨first.length, List.mem_range.mpr (Nat.lt_succ_of_le hle), ?_⟩
      have htext : joined first ((sep, field) :: rest) = first ++ (sep ++ joined field rest) := by
        rw [joined, List.append_assoc]
      have hplace : first.length ≤ (joined first ((sep, field) :: rest)).length ∧
          sep <+: (joined first ((sep, field) :: rest)).drop first.length := by
        rw [htext, List.drop_left]
        exact ⟨by rw [List.length_append]; omega, List.prefix_append _ _⟩
      rw [if_pos hplace, htext, ← List.drop_drop, List.drop_left, List.drop_left, List.take_left]
      exact List.mem_map.mpr ⟨(field, rest), ih.mpr ⟨rfl, hkeeps⟩, rfl⟩

end Joined
