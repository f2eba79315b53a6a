import Mathlib.Data.List.TakeDrop

/-!
# Decoders

A decoder is called with some input and with the room that its caller has for
output.  It takes a part of the input, returns a part of the output, and says
with a status how it stopped.  Output that is not returned stays pending.

`Decoder` has the state as the caller sees it together with a view of it: the
format, what was taken and what was returned.  Of the output of a call it says
two things only.  It continues what was returned before towards what the input
that is offered decodes to, also where the decoder leaves the last of this
input until its output is returned.  And a call that does not fail and leaves
room has returned what all the taken input decodes to.

* `output_eq`: the output of a call that takes all its input.
* `drained_call`: such a call leaves nothing pending if and only if what is due
  fits the room.
* `eager`: the decoder that takes its input up to the end of the data.
-/

namespace Streaming

variable {α β κ : Type}

/-- A format: what an input decodes to, whether a decoder has nothing to refuse
in an input, and whether an input ends with the end of the data. -/
structure Format (α β : Type) where
  decode : List α → List β
  Valid : List α → Prop
  Finished : List α → Prop

/-- A format for streams: output only grows with the input, and the end of the
data is marked in the data. -/
structure Format.Streamed (format : Format α β) : Prop where
  nil : format.decode [] = []
  grows : ∀ input more, format.decode input <+: format.decode (input ++ more)
  nonempty : ¬format.Finished []
  delimited : ∀ encoded longer, format.Finished encoded → format.Finished longer →
    encoded <+: longer → encoded = longer

/-- What one call returns: the new state, the number of input elements taken,
the output and the status. -/
structure Call (σ β κ : Type) where
  state : σ
  used : Nat
  output : List β
  status : κ

/-- A decoder whose caller says how much room there is, with a view of its
state.  Whatever it is called with, it does not go on for ever: `rank` falls
with every call that takes or returns something. -/
structure Decoder (α β κ : Type) where
  State : Type
  call : State → Nat → List α → Call State β κ
  failed : κ → Bool
  format : State → Format α β
  taken : State → List α
  given : State → List β
  rank : State → List α → Nat
  used_le : ∀ s room input, (call s room input).used ≤ input.length
  output_le : ∀ s room input, (call s room input).output.length ≤ room
  taken_call : ∀ s room input,
    taken (call s room input).state = taken s ++ input.take (call s room input).used
  given_call : ∀ s room input,
    given (call s room input).state = given s ++ (call s room input).output
  format_call : ∀ s room input, format (call s room input).state = format s
  agrees_call : ∀ s room input, given s <+: (format s).decode (taken s ++ input) →
    given (call s room input).state <+: (format s).decode (taken s ++ input)
  flushed_call : ∀ s room input, failed (call s room input).status = false →
    (call s room input).output.length < room →
    (format s).decode (taken (call s room input).state) <+: given (call s room input).state
  rank_le : ∀ s room input,
    rank (call s room input).state (input.drop (call s room input).used) ≤ rank s input
  rank_lt : ∀ s room input,
    0 < (call s room input).used ∨ (call s room input).output ≠ [] →
    rank (call s room input).state (input.drop (call s room input).used) < rank s input

namespace Decoder

variable (D : Decoder α β κ)

/-- What was returned is the beginning of what the taken input and the input
at hand decode to. -/
def Agrees (s : D.State) (input : List α) : Prop :=
  D.given s <+: (D.format s).decode (D.taken s ++ input)

/-- Nothing that was taken is pending. -/
def Drained (s : D.State) : Prop := D.given s = (D.format s).decode (D.taken s)

/-- No data is complete and returned yet.  Where data is complete, nothing
behind it was taken. -/
def Open (s : D.State) : Prop :=
  ∀ encoded, (D.format s).Finished encoded → encoded <+: D.taken s →
    D.taken s = encoded ∧ ¬D.Drained s

/-- The input that a call does not take. -/
def left (s : D.State) (room : Nat) (input : List α) : List α :=
  input.drop (D.call s room input).used

/-- The output that is due when all of an input is taken. -/
def due (s : D.State) (input : List α) : List β :=
  ((D.format s).decode (D.taken s ++ input)).drop (D.given s).length

theorem taken_append_left (s : D.State) (room : Nat) (input : List α) :
    D.taken (D.call s room input).state ++ D.left s room input = D.taken s ++ input := by
  rw [D.taken_call, left, List.append_assoc, List.take_append_drop]

theorem taken_of_left_nil {s : D.State} {room : Nat} {input : List α}
    (h : D.left s room input = []) : D.taken (D.call s room input).state = D.taken s ++ input := by
  rw [← D.taken_append_left s room, h, List.append_nil]

variable {D}

theorem Agrees.left {s : D.State} {input : List α} (h : D.Agrees s input) (room : Nat) :
    D.Agrees (D.call s room input).state (D.left s room input) := by
  rw [Agrees, D.format_call, D.taken_append_left]
  exact D.agrees_call s room input h

/-- More input keeps the agreement. -/
theorem Agrees.mono {s : D.State} (hstreamed : (D.format s).Streamed) (h : D.Agrees s [])
    (input : List α) : D.Agrees s input := by
  rw [Agrees, List.append_nil] at h
  exact h.trans (hstreamed.grows _ _)

theorem given_append_due {s : D.State} {input : List α} (h : D.Agrees s input) :
    D.given s ++ D.due s input = (D.format s).decode (D.taken s ++ input) := by
  obtain ⟨more, hmore⟩ := h
  rw [due, ← hmore, List.drop_left]

theorem output_prefix {s : D.State} {input : List α} (h : D.Agrees s input) (room : Nat) :
    (D.call s room input).output <+: D.due s input := by
  have hgiven := D.agrees_call s room input h
  rw [D.given_call, ← given_append_due h] at hgiven
  exact (List.prefix_append_right_inj _).mp hgiven

section Taken

variable {s : D.State} {room : Nat} {input : List α}

/-- Of what is due, a call that takes all its input returns what has room. -/
theorem output_eq (h : D.Agrees s input)
    (hfailed : D.failed (D.call s room input).status = false) (hleft : D.left s room input = []) :
    (D.call s room input).output = (D.due s input).take room := by
  have hbegins := output_prefix h room
  have hle := D.output_le s room input
  rcases Nat.lt_or_ge (D.call s room input).output.length room with hlt | hge
  · have hflushed := D.flushed_call s room input hfailed hlt
    rw [D.given_call, D.taken_of_left_nil hleft, ← given_append_due h] at hflushed
    have hall := hbegins.eq_of_length_le
      ((List.prefix_append_right_inj _).mp hflushed).length_le
    rw [← hall, List.take_of_length_le hle]
  · have hfull : (D.call s room input).output.length = room := by omega
    rw [List.prefix_iff_eq_take, hfull] at hbegins
    exact hbegins

/-- It leaves nothing pending if and only if what is due has room. -/
theorem drained_call (h : D.Agrees s input)
    (hfailed : D.failed (D.call s room input).status = false) (hleft : D.left s room input = []) :
    D.Drained (D.call s room input).state ↔ (D.due s input).length ≤ room := by
  rw [Drained, D.given_call, D.format_call, D.taken_of_left_nil hleft, ← given_append_due h,
    output_eq h hfailed hleft, List.append_cancel_left_eq, List.take_eq_self_iff]

end Taken

/-- A call that leaves room has returned all that it took. -/
theorem drained_of_output_lt {s : D.State} {room : Nat} {input : List α} (h : D.Agrees s input)
    (hfailed : D.failed (D.call s room input).status = false)
    (hlt : (D.call s room input).output.length < room) (hleft : D.left s room input = []) :
    D.Drained (D.call s room input).state := by
  have hflushed := D.flushed_call s room input hfailed hlt
  have hagrees := h.left room
  rw [hleft, Agrees, List.append_nil, D.format_call] at hagrees
  rw [Drained, D.format_call]
  exact hagrees.eq_of_length_le hflushed.length_le

end Decoder

/-- A decoder that took and returned nothing. -/
structure Initial {D : Decoder α β κ} (format : Format α β) (s : D.State) : Prop where
  format : D.format s = format
  taken : D.taken s = []
  given : D.given s = []

section Initial

variable {D : Decoder α β κ} {format : Format α β} {s : D.State}

theorem Initial.valid (h : Initial format s) {body : List α} (hvalid : format.Valid body) :
    (D.format s).Valid (D.taken s ++ body) := by
  rw [h.format, h.taken]
  exact hvalid

theorem Initial.agrees (h : Initial format s) (input : List α) : D.Agrees s input := by
  rw [Decoder.Agrees, h.given]
  exact List.nil_prefix

theorem Initial.drained (h : Initial format s) (hstreamed : format.Streamed) : D.Drained s := by
  rw [Decoder.Drained, h.given, h.taken, h.format, hstreamed.nil]

end Initial

/-! ## The decoder that takes its input up to the end of the data -/

/-- How much of an input comes before the end of the data. -/
def beforeEnd (isEnd : List α → Bool) : List α → List α → Nat
  | _, [] => 0
  | taken, x :: input =>
    if isEnd taken = true then 0 else beforeEnd isEnd (taken ++ [x]) input + 1

theorem beforeEnd_le (isEnd : List α → Bool) (taken input : List α) :
    beforeEnd isEnd taken input ≤ input.length := by
  induction input generalizing taken with
  | nil => exact Nat.le_refl 0
  | cons x input ih =>
    rw [beforeEnd, List.length_cons]
    split
    · omega
    · have hle := ih (taken ++ [x])
      omega

theorem not_isEnd_of_lt {isEnd : List α → Bool} {taken input : List α} {n : Nat}
    (h : n < beforeEnd isEnd taken input) : isEnd (taken ++ input.take n) = false := by
  induction input generalizing taken n with
  | nil => cases h
  | cons x input ih =>
    rw [beforeEnd] at h
    split at h
    · cases h
    · rename_i hgoes
      cases n with
      | zero =>
        rw [List.take_zero, List.append_nil]
        exact Bool.eq_false_iff.mpr hgoes
      | succ n =>
        rw [List.take_succ_cons, List.append_cons]
        exact ih (by omega)

theorem isEnd_of_lt {isEnd : List α → Bool} {taken input : List α}
    (h : beforeEnd isEnd taken input < input.length) :
    isEnd (taken ++ input.take (beforeEnd isEnd taken input)) = true := by
  induction input generalizing taken with
  | nil => cases h
  | cons x input ih =>
    rw [beforeEnd] at h ⊢
    split
    · rename_i hend
      rw [List.take_zero, List.append_nil]
      exact hend
    · rename_i hgoes
      rw [if_neg hgoes, List.length_cons] at h
      rw [List.take_succ_cons, List.append_cons]
      exact ih (by omega)

variable {ι : Type}

/-- What was taken, at most up to the end of the data, and how much of the
output was returned. -/
structure Eager (format : ι → Format α β) (isEnd : ι → List α → Bool) where
  index : ι
  taken : List α
  count : Nat
  count_le : count ≤ ((format index).decode taken).length
  taken_le : ∀ n < taken.length, isEnd index (taken.take n) = false

/-- A decoder for a family of formats.  It takes its input up to the end of the
data.  The status comes from whether something was taken or returned, from all
that was taken, and from whether there was room for all that was due. -/
def eager (format : ι → Format α β) (isEnd : ι → List α → Bool)
    (hgrows : ∀ i input more, (format i).decode input <+: (format i).decode (input ++ more))
    (failed : κ → Bool) (status : ι → Bool → List α → Bool → κ) : Decoder α β κ where
  State := Eager format isEnd
  call s room input :=
    let used := beforeEnd (isEnd s.index) s.taken input
    let due := ((format s.index).decode (s.taken ++ input.take used)).drop s.count
    { state :=
        { index := s.index
          taken := s.taken ++ input.take used
          count := s.count + (due.take room).length
          count_le := by
            have hle := (hgrows s.index s.taken (input.take used)).length_le
            have hcount := s.count_le
            simp only [due, List.length_take, List.length_drop]
            omega
          taken_le := by
            intro n hn
            rw [List.length_append, List.length_take] at hn
            rcases Nat.lt_or_ge n s.taken.length with hlt | hge
            · rw [List.take_append_of_le_length (by omega)]
              exact s.taken_le n hlt
            · rw [List.take_append, List.take_of_length_le hge, List.take_take,
                Nat.min_eq_left (by omega)]
              exact not_isEnd_of_lt (by omega) }
      used := used
      output := due.take room
      status := status s.index (decide (0 < used ∨ due.take room ≠ []))
        (s.taken ++ input.take used) (decide (due.length ≤ room)) }
  failed := failed
  format s := format s.index
  taken s := s.taken
  given s := ((format s.index).decode s.taken).take s.count
  rank s input := input.length + (((format s.index).decode (s.taken ++ input)).length - s.count)
  used_le s _ input := beforeEnd_le _ _ _
  output_le _ _ _ := by
    rw [List.length_take]
    exact Nat.min_le_left _ _
  taken_call _ _ _ := rfl
  given_call s room input := by
    obtain ⟨more, hmore⟩ := hgrows s.index s.taken
      (input.take (beforeEnd (isEnd s.index) s.taken input))
    have hkept : ((format s.index).decode (s.taken ++ input.take
        (beforeEnd (isEnd s.index) s.taken input))).take s.count =
        ((format s.index).decode s.taken).take s.count := by
      rw [← hmore, List.take_append_of_le_length s.count_le]
    dsimp only
    rw [List.take_add, hkept]
    congr 1
    exact (List.prefix_iff_eq_take.mp (List.take_prefix _ _)).symm
  format_call _ _ _ := rfl
  agrees_call s room input _ := by
    refine (List.take_prefix _ _).trans ?_
    have hgrown := hgrows s.index (s.taken ++ input.take
      (beforeEnd (isEnd s.index) s.taken input))
      (input.drop (beforeEnd (isEnd s.index) s.taken input))
    rwa [List.append_assoc, List.take_append_drop] at hgrown
  flushed_call s room input _ hlt := by
    dsimp only at hlt ⊢
    have hall : ((format s.index).decode (s.taken ++ input.take
        (beforeEnd (isEnd s.index) s.taken input))).length ≤
        s.count + ((((format s.index).decode (s.taken ++ input.take
          (beforeEnd (isEnd s.index) s.taken input))).drop s.count).take room).length := by
      rw [List.length_take, List.length_drop] at hlt ⊢
      omega
    rewrite [List.take_of_length_le hall]
    exact List.prefix_refl _
  rank_le s room input := by
    dsimp only
    rw [List.append_assoc, List.take_append_drop, List.length_drop]
    omega
  rank_lt s room input hprogress := by
    dsimp only at hprogress ⊢
    have hused := beforeEnd_le (isEnd s.index) s.taken input
    have hgrown := (hgrows s.index (s.taken ++ input.take
      (beforeEnd (isEnd s.index) s.taken input))
      (input.drop (beforeEnd (isEnd s.index) s.taken input))).length_le
    rw [List.append_assoc, List.take_append_drop] at hgrown
    rw [List.append_assoc, List.take_append_drop, List.length_drop]
    rcases hprogress with hpos | houtput
    · omega
    · have hlength := List.length_pos_iff.mpr houtput
      rw [List.length_take, List.length_drop] at hlength ⊢
      omega

/-- An eager decoder that was not called. -/
def Eager.start {format : ι → Format α β} {isEnd : ι → List α → Bool} (index : ι) :
    Eager format isEnd :=
  ⟨index, [], 0, Nat.zero_le _, nofun⟩

section Eager

variable {format : ι → Format α β} {isEnd : ι → List α → Bool}
  {hgrows : ∀ i input more, (format i).decode input <+: (format i).decode (input ++ more)}
  {failed : κ → Bool} {status : ι → Bool → List α → Bool → κ}

theorem eager_initial (index : ι) :
    Initial (D := eager format isEnd hgrows failed status) (format index) (Eager.start index) where
  format := rfl
  taken := rfl
  given := by
    show ((format index).decode []).take 0 = []
    exact List.take_zero

/-- An eager decoder takes nothing behind the end of the data. -/
theorem Eager.taken_eq (s : Eager format isEnd) {encoded : List α}
    (hend : isEnd s.index encoded = true) (hbegins : encoded <+: s.taken) : s.taken = encoded := by
  by_contra hne
  have hlt : encoded.length < s.taken.length := by
    apply Nat.lt_of_le_of_ne hbegins.length_le
    intro hlength
    exact hne (hbegins.eq_of_length hlength).symm
  have hnot := s.taken_le encoded.length hlt
  rw [← List.prefix_iff_eq_take.mp hbegins, hend] at hnot
  cases hnot

/-- It leaves input only behind the end. -/
theorem eager_left {s : (eager format isEnd hgrows failed status).State} {room : Nat}
    {input : List α}
    (h : (eager format isEnd hgrows failed status).left s room input ≠ []) :
    isEnd (Eager.index s) ((eager format isEnd hgrows failed status).taken
      ((eager format isEnd hgrows failed status).call s room input).state) = true := by
  apply isEnd_of_lt
  apply Nat.lt_of_not_le
  intro hle
  exact h (List.drop_eq_nil_iff.mpr hle)

section Called

variable {s : (eager format isEnd hgrows failed status).State} {room : Nat} {input : List α}

theorem eager_drained :
    decide ((((format s.index).decode (s.taken ++ input.take
        (beforeEnd (isEnd s.index) s.taken input))).drop s.count).length ≤ room) = true ↔
      (eager format isEnd hgrows failed status).Drained
        ((eager format isEnd hgrows failed status).call s room input).state := by
  have hcount : s.count ≤ ((format s.index).decode (s.taken ++ input.take
      (beforeEnd (isEnd s.index) s.taken input))).length :=
    Nat.le_trans s.count_le (hgrows s.index s.taken _).length_le
  rw [decide_eq_true_iff]
  show _ ↔ ((format s.index).decode (s.taken ++ input.take
      (beforeEnd (isEnd s.index) s.taken input))).take (s.count +
        ((((format s.index).decode (s.taken ++ input.take
          (beforeEnd (isEnd s.index) s.taken input))).drop s.count).take room).length) =
      (format s.index).decode (s.taken ++ input.take (beforeEnd (isEnd s.index) s.taken input))
  rw [List.take_eq_self_iff, List.length_take, List.length_drop]
  omega

/-- The status of a call. -/
theorem eager_status :
    ∃ drained : Bool,
      (drained = true ↔ (eager format isEnd hgrows failed status).Drained
        ((eager format isEnd hgrows failed status).call s room input).state) ∧
      ((eager format isEnd hgrows failed status).call s room input).status =
        status s.index
          (decide (0 < ((eager format isEnd hgrows failed status).call s room input).used ∨
            ((eager format isEnd hgrows failed status).call s room input).output ≠ []))
          ((eager format isEnd hgrows failed status).taken
            ((eager format isEnd hgrows failed status).call s room input).state) drained :=
  ⟨_, eager_drained, rfl⟩

/-- A call that leaves room has returned all. -/
theorem eager_drained_of_lt
    (h : ((eager format isEnd hgrows failed status).call s room input).output.length < room) :
    (eager format isEnd hgrows failed status).Drained
      ((eager format isEnd hgrows failed status).call s room input).state := by
  refine eager_drained.mp (decide_eq_true ?_)
  change ((((format s.index).decode (s.taken ++ input.take
    (beforeEnd (isEnd s.index) s.taken input))).drop s.count).take room).length < room at h
  rw [List.length_take] at h
  omega

/-- A call that takes nothing of some input is at the end of the data. -/
theorem eager_ended (hne : input ≠ [])
    (hnone : ((eager format isEnd hgrows failed status).call s room input).used = 0) :
    isEnd (Eager.index s) ((eager format isEnd hgrows failed status).taken
      ((eager format isEnd hgrows failed status).call s room input).state) = true := by
  apply eager_left
  rw [Decoder.left, hnone, List.drop_zero]
  exact hne

/-- A call returns nothing of what follows the end of the data. -/
theorem eager_within {encoded : List α} (hend : isEnd (Eager.index s) encoded = true)
    (hbegins : encoded <+: (eager format isEnd hgrows failed status).taken s ++ input) :
    (eager format isEnd hgrows failed status).given
        ((eager format isEnd hgrows failed status).call s room input).state <+:
      (format (Eager.index s)).decode encoded := by
  have htaken := (eager format isEnd hgrows failed status).taken_append_left s room input
  refine (List.take_prefix _ _).trans ?_
  rcases List.prefix_or_prefix_of_prefix ⟨_, htaken⟩ hbegins with hbefore | hbehind
  · obtain ⟨more, rfl⟩ := hbefore
    exact hgrows _ _ more
  · have hsame := Eager.taken_eq
      ((eager format isEnd hgrows failed status).call s room input).state hend hbehind
    rw [← hsame]
    exact List.prefix_refl _

end Called

end Eager

end Streaming
