import Mathlib.Data.List.Basic
import Mathlib.Data.List.Chain

/-!
# A stream that arrives in parts

A reader keeps the items that arrived and still looks at the end of them,
and fetches the next part when that end is not enough.  It takes a line up
to a delimiter, with a limit on what it keeps, or a number of items.

`Unread` is what such a reader has left, part by part.  The results say that
the division into parts does not matter:

* `line_eq_line` and `line_eq_ended`: a line is cut out of `all`, the parts
  put together.
* `line_ne_tooLong`: the limit is not met when the line and one part fit.
* `take_eq_some` and `take_eq_none`: the items taken are those of `all`.
* `Follows.head_eq_nil_iff`: after a line, nothing kept is unread exactly
  when a part ends where the line does.
-/

namespace Parts

variable {α : Type}

/-! ## Cutting at a delimiter -/

section Cut

variable [DecidableEq α]

/-- What stands before and after the first `c`. -/
def cut (c : α) : List α → Option (List α × List α)
  | [] => none
  | a :: s => if a = c then some ([], s) else (cut c s).map (fun p => (a :: p.1, p.2))

theorem cut_eq_none_iff {c : α} {s : List α} : cut c s = none ↔ c ∉ s := by
  induction s with
  | nil => simp [cut]
  | cons a s ih =>
    unfold cut
    split
    · rename_i h
      simp [h]
    · rename_i h
      simp [ih, Ne.symm h]

theorem cut_eq_some_iff {c : α} {s text after : List α} :
    cut c s = some (text, after) ↔ c ∉ text ∧ s = text ++ c :: after := by
  induction s generalizing text with
  | nil => simp [cut]
  | cons a s ih =>
    unfold cut
    split
    · rename_i h
      subst h
      cases text with
      | nil => simp [eq_comm]
      | cons b text =>
        simp only [Option.some.injEq, Prod.mk.injEq, List.cons_append, List.cons.injEq,
          List.mem_cons, not_or]
        constructor
        · intro h; cases h.1
        · intro h; exact absurd h.2.1 h.1.1
    · rename_i h
      cases text with
      | nil =>
        simp only [Option.map_eq_some_iff, Prod.mk.injEq, List.nil_append, List.cons.injEq]
        constructor
        · rintro ⟨p, -, hp, -⟩; cases hp
        · intro hs; exact absurd hs.2.1 h
      | cons b text =>
        simp only [Option.map_eq_some_iff, Prod.mk.injEq, List.cons_append, List.cons.injEq,
          List.mem_cons, not_or]
        constructor
        · rintro ⟨⟨text', after'⟩, hcut, ⟨rfl, rfl⟩, rfl⟩
          obtain ⟨hmem, rfl⟩ := ih.mp hcut
          exact ⟨⟨Ne.symm h, hmem⟩, rfl, rfl⟩
        · rintro ⟨⟨-, hmem⟩, rfl, rfl⟩
          exact ⟨(text, after), ih.mpr ⟨hmem, rfl⟩, ⟨rfl, rfl⟩, rfl⟩

theorem cut_append {c : α} {text : List α} (h : c ∉ text) (after : List α) :
    cut c (text ++ c :: after) = some (text, after) :=
  cut_eq_some_iff.mpr ⟨h, rfl⟩

/-- A delimiter in the first part is the first one of all. -/
theorem cut_append_of_some {c : α} {s text after : List α} (h : cut c s = some (text, after))
    (later : List α) : cut c (s ++ later) = some (text, after ++ later) := by
  obtain ⟨hmem, rfl⟩ := cut_eq_some_iff.mp h
  exact cut_eq_some_iff.mpr ⟨hmem, by simp⟩

end Cut

/-! ## Cutting at a pair -/

/-- Two neighbours that are not `a` and `b`. -/
abbrev Apart (a b x y : α) : Prop := ¬(x = a ∧ y = b)

/-- No `a` has a `b` behind it. -/
abbrev NoPair (a b : α) (s : List α) : Prop := s.IsChain (Apart a b)

theorem NoPair.middle {a b c : α} {s t : List α} (hs : NoPair a b s) (ht : NoPair a b t)
    (ha : c ≠ a) (hb : c ≠ b) : NoPair a b (s ++ c :: t) := by
  rw [NoPair, List.isChain_append]
  refine ⟨hs, ?_, ?_⟩
  · cases t with
    | nil => exact List.IsChain.singleton c
    | cons x t => exact List.isChain_cons_cons.mpr ⟨fun h => ha h.1, ht⟩
  · intro x _ y hy h
    rw [List.head?_cons, Option.mem_some] at hy
    exact hb (hy.trans h.2)

section CutPair

variable [DecidableEq α]

/-- What stands before and after the first `a` that has a `b` behind it. -/
def cutPair (a b : α) : List α → Option (List α × List α)
  | [] => none
  | [_] => none
  | x :: y :: s =>
    if x = a ∧ y = b then some ([], s) else (cutPair a b (y :: s)).map (fun p => (x :: p.1, p.2))

theorem cutPair_eq_some {a b : α} {s text after : List α}
    (h : cutPair a b s = some (text, after)) : NoPair a b text ∧ s = text ++ a :: b :: after := by
  fun_induction cutPair a b s generalizing text with
  | case1 => cases h
  | case2 => cases h
  | case3 x y s hpair =>
    cases h
    exact ⟨List.IsChain.nil, by rw [hpair.1, hpair.2]; rfl⟩
  | case4 x y s hpair ih =>
    obtain ⟨⟨text', after'⟩, hcut, heq⟩ := Option.map_eq_some_iff.mp h
    cases heq
    obtain ⟨hchain, hs⟩ := ih hcut
    refine ⟨?_, by rw [hs]; rfl⟩
    -- the text after `x` starts with `y`, or is empty
    cases text' with
    | nil => exact List.IsChain.singleton x
    | cons z text' =>
      have hz : y = z := (List.cons.inj hs).1
      exact List.isChain_cons_cons.mpr ⟨hz ▸ hpair, hchain⟩

/-- The pair behind a text without it is the first one. -/
theorem cutPair_append {a b : α} (hab : a ≠ b) {text : List α} (h : NoPair a b text)
    (after : List α) : cutPair a b (text ++ a :: b :: after) = some (text, after) := by
  induction text with
  | nil => rw [List.nil_append, cutPair, if_pos ⟨rfl, rfl⟩]
  | cons x text ih =>
    have htail : NoPair a b text := List.IsChain.tail h
    cases text with
    | nil =>
      have hx : ¬(x = a ∧ a = b) := fun hx => hab hx.2
      rw [List.cons_append, List.nil_append, cutPair, if_neg hx, ← List.nil_append (a :: b :: after),
        ih htail]
      rfl
    | cons y text =>
      rw [List.cons_append, List.cons_append, cutPair, if_neg (List.isChain_cons_cons.mp h).1,
        ← List.cons_append, ih htail]
      rfl

end CutPair

/-! ## Reading parts -/

/-- What is left of a stream: the items that arrived and are not read yet,
and the parts that did not arrive.  The reader still keeps `held` items, the
unread ones at their end. -/
structure Unread (α : Type) where
  held : Nat
  head : List α
  reads : List (List α)

/-- The rest of the stream. -/
def Unread.all (u : Unread α) : List α := u.head ++ u.reads.flatten

/-- The answer to a request for a line. -/
inductive Line (α : Type) where
  | line (text : List α) (rest : Unread α)
  | ended
  | tooLong

/-- Look for the delimiter; while it is not there, and less than `limit` is
kept, forget what was read and fetch a part. -/
def lineFrom [DecidableEq α] (c : α) (limit held : Nat) (head : List α) : List (List α) → Line α
  | [] =>
    match cut c head with
    | some (text, after) => .line text ⟨held, after, []⟩
    | none => if limit ≤ held then .tooLong else .ended
  | read :: reads =>
    match cut c head with
    | some (text, after) => .line text ⟨held, after, read :: reads⟩
    | none =>
      if limit ≤ held then .tooLong
      else lineFrom c limit (head.length + read.length) (head ++ read) reads

def Unread.line [DecidableEq α] (c : α) (limit : Nat) (u : Unread α) : Line α :=
  lineFrom c limit u.held u.head u.reads

/-- The pieces in which `n` items are taken, and what is left when there are
that many. -/
def takeFrom (n held : Nat) (head : List α) :
    List (List α) → List (List α) × Option (Unread α)
  | [] =>
    if n ≤ head.length then ([head.take n], some ⟨held, head.drop n, []⟩)
    else ([head], none)
  | read :: reads =>
    if n ≤ head.length then ([head.take n], some ⟨held, head.drop n, read :: reads⟩)
    else
      let later := takeFrom (n - head.length) read.length read reads
      (head :: later.1, later.2)

def Unread.take (n : Nat) (u : Unread α) : List (List α) × Option (Unread α) :=
  takeFrom n u.held u.head u.reads

/-! ## Lines -/

section Lines

variable [DecidableEq α]

/-- A reader that finds the delimiter in what it has does not fetch. -/
theorem lineFrom_of_cut {c : α} {head text after : List α} (h : cut c head = some (text, after))
    (limit held : Nat) (reads : List (List α)) :
    lineFrom c limit held head reads = .line text ⟨held, after, reads⟩ := by
  cases reads with
  | nil => rw [lineFrom, h]
  | cons read reads => rw [lineFrom, h]

theorem lineFrom_of_full {c : α} {head : List α} (h : cut c head = none) {limit held : Nat}
    (hlimit : limit ≤ held) (reads : List (List α)) :
    lineFrom c limit held head reads = .tooLong := by
  cases reads with
  | nil => rw [lineFrom, h]; exact if_pos hlimit
  | cons read reads => rw [lineFrom, h]; exact if_pos hlimit

theorem lineFrom_nil {c : α} {head : List α} (h : cut c head = none) {limit held : Nat}
    (hlimit : held < limit) : lineFrom c limit held head [] = .ended := by
  rw [lineFrom, h]
  exact if_neg (Nat.not_le.mpr hlimit)

theorem lineFrom_cons {c : α} {head : List α} (h : cut c head = none) {limit held : Nat}
    (hlimit : held < limit) (read : List α) (reads : List (List α)) :
    lineFrom c limit held head (read :: reads) =
      lineFrom c limit (head.length + read.length) (head ++ read) reads := by
  rw [lineFrom, h]
  exact if_neg (Nat.not_le.mpr hlimit)

/-- What a line is cut out of, and what is kept after it. -/
theorem lineFrom_spec (c : α) (limit : Nat) (reads : List (List α)) :
    ∀ (held : Nat) (head : List α),
      match lineFrom c limit held head reads with
      | .line text rest => cut c (head ++ reads.flatten) = some (text, rest.all)
      | .ended => cut c (head ++ reads.flatten) = none
      | .tooLong => True := by
  induction reads with
  | nil =>
    intro held head
    rw [List.flatten_nil, List.append_nil]
    cases hcut : cut c head with
    | none =>
      by_cases hlimit : limit ≤ held
      · rw [lineFrom_of_full hcut hlimit]
        trivial
      · rw [lineFrom_nil hcut (Nat.lt_of_not_le hlimit)]
    | some p =>
      rw [lineFrom_of_cut hcut]
      simp [Unread.all]
  | cons read reads ih =>
    intro held head
    cases hcut : cut c head with
    | none =>
      by_cases hlimit : limit ≤ held
      · rw [lineFrom_of_full hcut hlimit]
        trivial
      · rw [lineFrom_cons hcut (Nat.lt_of_not_le hlimit), List.flatten_cons,
          ← List.append_assoc]
        exact ih _ _
    | some p =>
      rw [lineFrom_of_cut hcut]
      exact cut_append_of_some hcut _

theorem line_eq_line {c : α} {limit : Nat} {u rest : Unread α} {text : List α}
    (h : u.line c limit = .line text rest) : cut c u.all = some (text, rest.all) := by
  have hspec := lineFrom_spec c limit u.reads u.held u.head
  unfold Unread.line at h
  rw [h] at hspec
  exact hspec

theorem line_eq_ended {c : α} {limit : Nat} {u : Unread α} (h : u.line c limit = .ended) :
    cut c u.all = none := by
  have hspec := lineFrom_spec c limit u.reads u.held u.head
  unfold Unread.line at h
  rw [h] at hspec
  exact hspec

/-- Nothing is read twice: a line leaves less than there was. -/
theorem line_all_length {c : α} {limit : Nat} {u rest : Unread α} {text : List α}
    (h : u.line c limit = .line text rest) : rest.all.length < u.all.length := by
  obtain ⟨-, hall⟩ := cut_eq_some_iff.mp (line_eq_line h)
  rw [hall, List.length_append, List.length_cons]
  omega

/-! ## The limit -/

/-- The reader keeps less than the limit, and no part has more than `size`
items. -/
structure Unread.Within (limit size : Nat) (u : Unread α) : Prop where
  held : u.held < limit
  reads : ∀ read ∈ u.reads, read.length ≤ size

/-- A line that fits together with one part does not meet the limit, and
neither does a rest without a line that fits. -/
theorem lineFrom_within (c : α) (limit size : Nat) (reads : List (List α)) :
    ∀ (held : Nat) (head : List α), Unread.Within limit size ⟨held, head, reads⟩ →
      (match cut c (head ++ reads.flatten) with
        | some (text, _) => text.length + size < limit
        | none => (head ++ reads.flatten).length < limit) →
      match lineFrom c limit held head reads with
      | .line _ rest => rest.Within limit size
      | .ended => True
      | .tooLong => False := by
  induction reads with
  | nil =>
    intro held head hwithin _
    cases hcut : cut c head with
    | none => rw [lineFrom_nil hcut hwithin.held]; trivial
    | some p =>
      rw [lineFrom_of_cut hcut]
      exact ⟨hwithin.held, hwithin.reads⟩
  | cons read reads ih =>
    intro held head hwithin hfits
    cases hcut : cut c head with
    | none =>
      rw [lineFrom_cons hcut hwithin.held]
      rw [List.flatten_cons, ← List.append_assoc] at hfits
      have hread : read.length ≤ size := hwithin.reads read List.mem_cons_self
      refine ih _ _ ⟨?_, fun r hr => hwithin.reads r (List.mem_cons_of_mem _ hr)⟩ hfits
      show head.length + read.length < limit
      cases hall : cut c (head ++ read ++ reads.flatten) with
      | none =>
        rw [hall] at hfits
        have := hfits
        simp only [List.length_append] at this
        omega
      | some p =>
        obtain ⟨text, after⟩ := p
        rw [hall] at hfits
        -- the delimiter is not in `head`, so `head` is a part of the line
        have hle : head.length ≤ text.length := by
          obtain ⟨hmem, heq⟩ := cut_eq_some_iff.mp hall
          rw [List.append_assoc] at heq
          by_contra hlt
          have hin : c ∈ head := by
            have hget : (head ++ (read ++ reads.flatten))[text.length]? = some c := by
              rw [heq]
              simp
            rw [List.getElem?_append_left (by omega)] at hget
            exact List.mem_of_getElem? hget
          exact cut_eq_none_iff.mp hcut hin
        have : text.length + size < limit := hfits
        omega
    | some p =>
      rw [lineFrom_of_cut hcut]
      exact ⟨hwithin.held, hwithin.reads⟩

theorem line_ne_tooLong {c : α} {limit size : Nat} {u : Unread α} (hwithin : u.Within limit size)
    (hfits : match cut c u.all with
      | some (text, _) => text.length + size < limit
      | none => u.all.length < limit) :
    u.line c limit ≠ .tooLong := by
  intro h
  have hspec := lineFrom_within c limit size u.reads u.held u.head hwithin hfits
  unfold Unread.line at h
  rw [h] at hspec
  exact hspec

theorem line_within {c : α} {limit size : Nat} {u rest : Unread α} {text : List α}
    (hwithin : u.Within limit size) (hfits : text.length + size < limit)
    (h : u.line c limit = .line text rest) : rest.Within limit size := by
  have hcut := line_eq_line h
  have hspec := lineFrom_within c limit size u.reads u.held u.head hwithin
  rw [show u.head ++ u.reads.flatten = u.all from rfl, hcut] at hspec
  unfold Unread.line at h
  rw [h] at hspec
  exact hspec hfits

end Lines

/-! ## Items -/

theorem takeFrom_of_le {n : Nat} {head : List α} (h : n ≤ head.length) (held : Nat)
    (reads : List (List α)) :
    takeFrom n held head reads = ([head.take n], some ⟨held, head.drop n, reads⟩) := by
  cases reads with
  | nil => rw [takeFrom, if_pos h]
  | cons read reads => rw [takeFrom, if_pos h]

theorem takeFrom_nil {n : Nat} {head : List α} (h : head.length < n) (held : Nat) :
    takeFrom n held head [] = ([head], none) := by
  rw [takeFrom, if_neg (Nat.not_le.mpr h)]

theorem takeFrom_cons {n : Nat} {head : List α} (h : head.length < n) (held : Nat)
    (read : List α) (reads : List (List α)) :
    takeFrom n held head (read :: reads) =
      (head :: (takeFrom (n - head.length) read.length read reads).1,
        (takeFrom (n - head.length) read.length read reads).2) := by
  rw [takeFrom, if_neg (Nat.not_le.mpr h)]

theorem takeFrom_spec (reads : List (List α)) :
    ∀ (n held : Nat) (head : List α),
      match takeFrom n held head reads with
      | (pieces, some rest) =>
        pieces.flatten = (head ++ reads.flatten).take n ∧
          rest.all = (head ++ reads.flatten).drop n ∧ n ≤ (head ++ reads.flatten).length
      | (pieces, none) =>
        pieces.flatten = head ++ reads.flatten ∧ (head ++ reads.flatten).length < n := by
  induction reads with
  | nil =>
    intro n held head
    by_cases hle : n ≤ head.length
    · rw [takeFrom_of_le hle]
      simp [Unread.all, hle]
    · rw [takeFrom_nil (by omega)]
      simp only [List.flatten_cons, List.flatten_nil, List.append_nil, true_and]
      omega
  | cons read reads ih =>
    intro n held head
    by_cases hle : n ≤ head.length
    · rw [takeFrom_of_le hle]
      simp only [Unread.all, List.flatten_cons, List.flatten_nil, List.append_nil,
        List.length_append, List.take_append_of_le_length hle, List.drop_append_of_le_length hle,
        true_and]
      omega
    · rw [takeFrom_cons (by omega)]
      have hlater := ih (n - head.length) read.length read
      rw [List.flatten_cons]
      revert hlater
      generalize read ++ reads.flatten = later
      rcases takeFrom (n - head.length) read.length read reads with ⟨pieces, _ | rest⟩
      · rintro ⟨hpieces, hlt⟩
        simp only [List.flatten_cons, List.length_append]
        exact ⟨by rw [hpieces], by omega⟩
      · rintro ⟨hpieces, hall, hn⟩
        simp only [List.flatten_cons, List.length_append]
        have htake : head.take n = head := List.take_of_length_le (by omega)
        have hdrop : head.drop n = [] := List.drop_eq_nil_of_le (by omega)
        refine ⟨?_, ?_, by omega⟩
        · rw [hpieces, List.take_append, htake]
        · rw [hall, List.drop_append, hdrop, List.nil_append]

theorem take_eq_some {n : Nat} {u rest : Unread α} {pieces : List (List α)}
    (h : u.take n = (pieces, some rest)) :
    pieces.flatten = u.all.take n ∧ rest.all = u.all.drop n ∧ n ≤ u.all.length := by
  have hspec := takeFrom_spec u.reads n u.held u.head
  unfold Unread.take at h
  rw [h] at hspec
  exact hspec

theorem take_eq_none {n : Nat} {u : Unread α} {pieces : List (List α)}
    (h : u.take n = (pieces, none)) : pieces.flatten = u.all ∧ u.all.length < n := by
  have hspec := takeFrom_spec u.reads n u.held u.head
  unfold Unread.take at h
  rw [h] at hspec
  exact hspec

theorem take_within {limit size n : Nat} (hsize : size < limit) {u rest : Unread α}
    {pieces : List (List α)} (hwithin : u.Within limit size)
    (h : u.take n = (pieces, some rest)) : rest.Within limit size := by
  obtain ⟨held, head, reads⟩ := u
  change takeFrom n held head reads = (pieces, some rest) at h
  induction reads generalizing n held head pieces with
  | nil =>
    by_cases hle : n ≤ head.length
    · rw [takeFrom_of_le hle] at h
      cases h
      exact ⟨hwithin.held, hwithin.reads⟩
    · rw [takeFrom_nil (by omega)] at h
      cases h
  | cons read reads ih =>
    by_cases hle : n ≤ head.length
    · rw [takeFrom_of_le hle] at h
      cases h
      exact ⟨hwithin.held, hwithin.reads⟩
    · rw [takeFrom_cons (by omega), Prod.mk.injEq] at h
      have hread : read.length ≤ size := hwithin.reads read List.mem_cons_self
      exact ih read.length read
        ⟨Nat.lt_of_le_of_lt hread hsize, fun r hr => hwithin.reads r (List.mem_cons_of_mem _ hr)⟩
        (Prod.ext rfl h.2)

/-! ## Where a part ends -/

/-- `u` follows `done` in a stream of the parts `parts`: the parts fetched are
`done` and the unread end of the last of them. -/
structure Follows (parts : List (List α)) (done : List α) (u : Unread α) : Prop where
  fetched : ∃ earlier last, parts = earlier ++ last :: u.reads ∧
    (earlier ++ [last]).flatten = done ++ u.head ∧ u.head.length < last.length

theorem Follows.flatten {parts : List (List α)} {done : List α} {u : Unread α}
    (h : Follows parts done u) : parts.flatten = done ++ u.all := by
  obtain ⟨earlier, last, rfl, hflat, -⟩ := h.fetched
  rw [List.flatten_append, List.flatten_singleton] at hflat
  rw [List.flatten_append, List.flatten_cons, ← List.append_assoc, hflat, Unread.all,
    List.append_assoc]

/-- Nothing fetched is unread exactly when a part ends with `done`. -/
theorem Follows.head_eq_nil_iff {parts : List (List α)} {done : List α} {u : Unread α}
    (h : Follows parts done u) :
    u.head = [] ↔ ∃ k, (parts.take k).flatten = done := by
  obtain ⟨earlier, last, hparts, hflat, hlast⟩ := h.fetched
  have hlength : earlier.flatten.length + last.length = done.length + u.head.length := by
    have := congrArg List.length hflat
    simpa using this
  constructor
  · intro hnil
    refine ⟨earlier.length + 1, ?_⟩
    rw [hparts, show earlier ++ last :: u.reads = (earlier ++ [last]) ++ u.reads by simp,
      List.take_left' (by simp), hflat, hnil, List.append_nil]
  · rintro ⟨k, hk⟩
    apply List.eq_nil_of_length_eq_zero
    by_cases hle : k ≤ earlier.length
    · -- the part with the end of `done` is not among the first `k`
      exfalso
      have hsub : (parts.take k).flatten.length ≤ earlier.flatten.length := by
        rw [hparts, List.take_append_of_le_length hle]
        have hsplit := congrArg (fun l => l.flatten.length) (List.take_append_drop k earlier)
        simp only [List.flatten_append, List.length_append] at hsplit
        omega
      rw [hk] at hsub
      omega
    · have hsub : (earlier ++ [last]).flatten.length ≤ (parts.take k).flatten.length := by
        have htake : (earlier ++ [last]).take k = earlier ++ [last] :=
          List.take_of_length_le (by simp; omega)
        rw [hparts, show earlier ++ last :: u.reads = (earlier ++ [last]) ++ u.reads by simp,
          List.take_append, htake]
        generalize earlier ++ [last] = fetched
        rw [List.flatten_append, List.length_append]
        omega
      rw [hk, hflat, List.length_append] at hsub
      omega

section FollowsLine

variable [DecidableEq α]

/-- The line that ends in a part just fetched leaves less than that part. -/
theorem lineFrom_follows {c : α} {limit : Nat} {parts : List (List α)} {done text : List α}
    {rest : Unread α} (reads : List (List α)) :
    ∀ (held : Nat) (head before last : List α) (earlier : List (List α)),
      c ∉ before → head = before ++ last → parts = earlier ++ last :: reads →
      (earlier ++ [last]).flatten = done ++ head →
      lineFrom c limit held head reads = .line text rest →
      Follows parts (done ++ text ++ [c]) rest := by
  have hfound : ∀ (held : Nat) (head before last : List α) (earlier reads : List (List α))
      (after : List α),
      c ∉ before → head = before ++ last → parts = earlier ++ last :: reads →
      (earlier ++ [last]).flatten = done ++ head → cut c head = some (text, after) →
      Follows parts (done ++ text ++ [c]) ⟨held, after, reads⟩ := by
    intro held head before last earlier reads after hbefore hhead hparts hflat hcut
    obtain ⟨-, heq⟩ := cut_eq_some_iff.mp hcut
    refine ⟨earlier, last, hparts, by rw [hflat, heq]; simp, ?_⟩
    -- the delimiter is not in `before`
    have hle : before.length ≤ text.length := by
      by_contra hlt
      have hget : (before ++ last)[text.length]? = some c := by
        rw [← hhead, heq]
        simp
      rw [List.getElem?_append_left (by omega)] at hget
      exact hbefore (List.mem_of_getElem? hget)
    have hlength := congrArg List.length (hhead.symm.trans heq)
    simp only [List.length_append, List.length_cons] at hlength
    show after.length < last.length
    omega
  induction reads with
  | nil =>
    intro held head before last earlier hbefore hhead hparts hflat hline
    cases hcut : cut c head with
    | none =>
      by_cases hlimit : limit ≤ held
      · rw [lineFrom_of_full hcut hlimit] at hline
        cases hline
      · rw [lineFrom_nil hcut (by omega)] at hline
        cases hline
    | some p =>
      rw [lineFrom_of_cut hcut] at hline
      cases hline
      exact hfound held head before last earlier [] _ hbefore hhead hparts hflat hcut
  | cons read reads ih =>
    intro held head before last earlier hbefore hhead hparts hflat hline
    cases hcut : cut c head with
    | none =>
      by_cases hlimit : limit ≤ held
      · rw [lineFrom_of_full hcut hlimit] at hline
        cases hline
      · rw [lineFrom_cons hcut (by omega)] at hline
        refine ih _ _ head read (earlier ++ [last]) (cut_eq_none_iff.mp hcut) rfl ?_ ?_ hline
        · rw [hparts]; simp
        · rw [List.flatten_append, hflat]; simp
    | some p =>
      rw [lineFrom_of_cut hcut] at hline
      cases hline
      exact hfound held head before last earlier (read :: reads) _ hbefore hhead hparts hflat hcut

/-- The first line of a stream. -/
theorem line_follows {c : α} {limit : Nat} {parts : List (List α)} {text : List α}
    {rest : Unread α} (h : (⟨0, [], parts⟩ : Unread α).line c limit = .line text rest) :
    Follows parts (text ++ [c]) rest := by
  have hnone : cut c ([] : List α) = none := rfl
  change lineFrom c limit 0 [] parts = .line text rest at h
  by_cases hlimit : limit ≤ 0
  · rw [lineFrom_of_full hnone hlimit] at h
    cases h
  · cases parts with
    | nil =>
      rw [lineFrom_nil hnone (by omega)] at h
      cases h
    | cons read reads =>
      rw [lineFrom_cons hnone (by omega)] at h
      have hfollows : Follows (read :: reads) ([] ++ text ++ [c]) rest :=
        lineFrom_follows reads _ _ [] read [] (by simp) rfl rfl (by simp) h
      simpa using hfollows

/-- A further line. -/
theorem Follows.line {c : α} {limit : Nat} {parts : List (List α)} {done text : List α}
    {u rest : Unread α} (hu : Follows parts done u) (h : u.line c limit = .line text rest) :
    Follows parts (done ++ text ++ [c]) rest := by
  obtain ⟨earlier, last, hparts, hflat, hlast⟩ := hu.fetched
  obtain ⟨held, head, reads⟩ := u
  change lineFrom c limit held head reads = .line text rest at h
  cases hcut : cut c head with
  | some p =>
    rw [lineFrom_of_cut hcut] at h
    cases h
    obtain ⟨-, heq⟩ := cut_eq_some_iff.mp hcut
    refine ⟨earlier, last, hparts, by rw [hflat, heq]; simp, ?_⟩
    have hlength := congrArg List.length heq
    simp only [List.length_append, List.length_cons] at hlength hlast
    show p.2.length < last.length
    omega
  | none =>
    by_cases hlimit : limit ≤ held
    · rw [lineFrom_of_full hcut hlimit] at h
      cases h
    · cases reads with
      | nil =>
        rw [lineFrom_nil hcut (by omega)] at h
        cases h
      | cons read reads =>
        rw [lineFrom_cons hcut (by omega)] at h
        refine lineFrom_follows reads _ _ head read (earlier ++ [last])
          (cut_eq_none_iff.mp hcut) rfl ?_ ?_ h
        · rw [hparts]; simp
        · rw [List.flatten_append, hflat]; simp

end FollowsLine

end Parts
