import HttpRequestClient.Lib.Decoders
import Mathlib.Algebra.Ring.Nat

/-!
# Decoding into a buffer that grows

A `Growth` is a loop around the calls of a decoder, which tells every call how
much room the buffer has.  It ends by its verdict on the status, and between
two calls it may double the buffer, which can fail.

`Growth.run` is total, because a call that lets the loop go on took input,
returned output, or wore the patience of the decoder down.  `Growth.run_rule`
is the rule of the loop, and `Growth.grow_malloc` says what less memory changes.
Two results need no more of a decoder than `Growth.Sound` and
`Growth.Complete` say:

* `Growth.run_sound`: a loop that is done has decoded a complete beginning of
  its input.
* `Growth.run_complete`: when its input begins with complete data, it is done
  in a buffer that is at most twice as long as the output, or it gets no
  memory for one.
-/

namespace Streaming

variable {α β κ : Type}

/-! ## The loop -/

inductive Verdict where
  | done
  | failed
  | more
deriving DecidableEq, Repr

/-- A loop that grows its buffer: what it tells a call of the room, its verdict
on a status, and whether it grows also while there is room.  A call that does
not end the loop made progress, or the decoder has less patience for the next
one of its kind. -/
structure Growth (D : Decoder α β κ) where
  offered : Nat → Nat
  verdict : κ → Verdict
  growsAlways : Bool
  patience : D.State → Nat
  offered_le : ∀ room, offered room ≤ room
  accepts : ∀ status, verdict status ≠ .failed → D.failed status = false
  progress : ∀ s room input, 0 < room →
    verdict (D.call s (offered room) input).status = .more →
    0 < (D.call s (offered room) input).used ∨ (D.call s (offered room) input).output ≠ [] ∨
      patience (D.call s (offered room) input).state < patience s

/-- The place of a loop before a call.  There is room in the buffer. -/
structure Loop (D : Decoder α β κ) where
  state : D.State
  input : List α
  output : List β
  size : Nat
  room : output.length < size

/-- How a loop ends: with the output in a buffer of some size, by its verdict,
or because the buffer could not grow. -/
inductive Grown (D : Decoder α β κ) where
  | done (state : D.State) (output : List β) (size : Nat)
  | failed
  | noMemory

section Run

variable {D : Decoder α β κ} (G : Growth D) (malloc : Nat → Bool)

/-- What a call at this place is told of the room. -/
def Growth.offer (loop : Loop D) : Nat := G.offered (loop.size - loop.output.length)

/-- The call at this place. -/
def Growth.callAt (loop : Loop D) : Call D.State β κ :=
  D.call loop.state (G.offer loop) loop.input

theorem Growth.output_fits (loop : Loop D) :
    (loop.output ++ (G.callAt loop).output).length ≤ loop.size := by
  have hlength := D.output_le loop.state (G.offer loop) loop.input
  have hoffer := G.offered_le (loop.size - loop.output.length)
  have hroom := loop.room
  rw [List.length_append]
  unfold Growth.callAt
  unfold Growth.offer at hlength ⊢
  omega

theorem Growth.grown_room (loop : Loop D) :
    (loop.output ++ (G.callAt loop).output).length < loop.size * 2 := by
  have hfits := G.output_fits loop
  have hroom := loop.room
  omega

/-- One call, and what follows it. -/
def Growth.step (loop : Loop D) : Grown D ⊕ Loop D :=
  let call := G.callAt loop
  let output := loop.output ++ call.output
  match G.verdict call.status with
  | .done => .inl (.done call.state output loop.size)
  | .failed => .inl .failed
  | .more =>
    if hroom : G.growsAlways = false ∧ output.length < loop.size then
      .inr ⟨call.state, loop.input.drop call.used, output, loop.size, hroom.2⟩
    else if malloc (loop.size * 2) then
      .inr ⟨call.state, loop.input.drop call.used, output, loop.size * 2, G.grown_room loop⟩
    else .inl .noMemory

/-- What stands at the next place of a loop. -/
theorem Growth.step_next {loop next : Loop D} (h : G.step malloc loop = .inr next) :
    G.verdict (G.callAt loop).status = .more ∧ next.state = (G.callAt loop).state ∧
      next.input = D.left loop.state (G.offer loop) loop.input ∧
      next.output = loop.output ++ (G.callAt loop).output ∧
      (next.size = loop.size ∨
        next.size = loop.size * 2 ∧ (G.growsAlways = true ∨ loop.size ≤ next.output.length)) := by
  unfold Growth.step at h
  dsimp only at h
  split at h
  · cases h
  · cases h
  · rename_i hmore
    split at h
    · cases h
      exact ⟨hmore, rfl, rfl, rfl, .inl rfl⟩
    · rename_i hgrow
      split at h
      · cases h
        refine ⟨hmore, rfl, rfl, rfl, .inr ⟨rfl, ?_⟩⟩
        cases halways : G.growsAlways with
        | true => exact .inl rfl
        | false => exact .inr (Nat.le_of_not_lt fun hlt => hgrow ⟨halways, hlt⟩)
      · cases h

/-- How a loop ends at a place. -/
theorem Growth.step_end {loop : Loop D} {grown : Grown D} (h : G.step malloc loop = .inl grown) :
    G.verdict (G.callAt loop).status = .done ∧
        grown = .done (G.callAt loop).state (loop.output ++ (G.callAt loop).output) loop.size ∨
      G.verdict (G.callAt loop).status = .failed ∧ grown = .failed ∨
      G.verdict (G.callAt loop).status = .more ∧ grown = .noMemory ∧
        malloc (loop.size * 2) = false ∧
        (G.growsAlways = true ∨ loop.size ≤ (loop.output ++ (G.callAt loop).output).length) := by
  unfold Growth.step at h
  dsimp only at h
  split at h
  · rename_i hdone
    exact .inl ⟨hdone, (Sum.inl.inj h).symm⟩
  · rename_i hfailed
    exact .inr (.inl ⟨hfailed, (Sum.inl.inj h).symm⟩)
  · rename_i hmore
    split at h
    · cases h
    · rename_i hgrow
      split at h
      · cases h
      · rename_i hnone
        refine .inr (.inr ⟨hmore, (Sum.inl.inj h).symm, by simpa using hnone, ?_⟩)
        cases halways : G.growsAlways with
        | true => exact .inl rfl
        | false => exact .inr (Nat.le_of_not_lt fun hlt => hgrow ⟨halways, hlt⟩)

/-- What gets smaller from place to place. -/
def Growth.rank (loop : Loop D) : Nat × Nat :=
  (D.rank loop.state loop.input, G.patience loop.state)

theorem Growth.step_decreases {loop next : Loop D} (h : G.step malloc loop = .inr next) :
    Prod.Lex (· < ·) (· < ·) (G.rank next) (G.rank loop) := by
  obtain ⟨hmore, hstate, hinput, -⟩ := G.step_next malloc h
  have hroom : 0 < loop.size - loop.output.length := Nat.sub_pos_of_lt loop.room
  have hle := D.rank_le loop.state (G.offer loop) loop.input
  have hlt := D.rank_lt loop.state (G.offer loop) loop.input
  rw [Growth.rank, Growth.rank, hstate, hinput, Growth.callAt, Decoder.left]
  rcases G.progress loop.state _ loop.input hroom hmore with hused | houtput | hpatience
  · exact Prod.Lex.left _ _ (hlt (.inl hused))
  · exact Prod.Lex.left _ _ (hlt (.inr houtput))
  · rcases Nat.lt_or_eq_of_le hle with hless | hsame
    · exact Prod.Lex.left _ _ hless
    · rw [hsame]
      exact Prod.Lex.right _ hpatience

/-- Call the decoder until a verdict or the memory ends the loop. -/
def Growth.run (loop : Loop D) : Grown D :=
  match _hstep : G.step malloc loop with
  | .inl grown => grown
  | .inr next => Growth.run next
termination_by G.rank loop
decreasing_by exact G.step_decreases malloc _hstep

theorem Growth.run_eq (loop : Loop D) :
    G.run malloc loop =
      match G.step malloc loop with
      | .inl grown => grown
      | .inr next => G.run malloc next := by
  rw [Growth.run]
  split
  · rename_i hend
    rw [hend]
  · rename_i hnext
    rw [hnext]

/-- The rule of the loop. -/
theorem Growth.run_rule (inv : Loop D → Prop) (post : Grown D → Prop)
    (hnext : ∀ loop next, inv loop → G.step malloc loop = .inr next → inv next)
    (hend : ∀ loop grown, inv loop → G.step malloc loop = .inl grown → post grown)
    {loop : Loop D} (h : inv loop) : post (G.run malloc loop) := by
  rw [G.run_eq]
  cases hstep : G.step malloc loop with
  | inl grown => exact hend loop grown h hstep
  | inr next => exact run_rule inv post hnext hend (hnext loop next h hstep)
termination_by G.rank loop
decreasing_by exact G.step_decreases malloc hstep

end Run

/-! ### Memory -/

section Memory

variable {D : Decoder α β κ} (G : Growth D)

/-- The sizes that a loop asks memory for when it gets all of it. -/
def Growth.asks (loop : Loop D) : List Nat :=
  match _hstep : G.step (fun _ => true) loop with
  | .inl _ => []
  | .inr next =>
    if next.size = loop.size then Growth.asks next else next.size :: Growth.asks next
termination_by G.rank loop
decreasing_by all_goals exact G.step_decreases (fun _ => true) _hstep

theorem Growth.asks_eq (loop : Loop D) :
    G.asks loop =
      match G.step (fun _ => true) loop with
      | .inl _ => []
      | .inr next => if next.size = loop.size then G.asks next else next.size :: G.asks next := by
  rw [Growth.asks]
  split
  · rename_i hend
    rw [hend]
  · rename_i hnext
    rw [hnext]

variable (malloc : Nat → Bool)

/-- A step with less memory is the same one, or it gets no larger buffer. -/
theorem Growth.step_malloc (loop : Loop D) :
    (∃ grown, G.step (fun _ => true) loop = .inl grown ∧ G.step malloc loop = .inl grown) ∨
      ∃ next, G.step (fun _ => true) loop = .inr next ∧
        (next.size = loop.size ∧ G.step malloc loop = .inr next ∨
          next.size ≠ loop.size ∧
            G.step malloc loop = if malloc next.size then .inr next else .inl .noMemory) := by
  have hdouble : loop.size * 2 ≠ loop.size := by
    have hroom := loop.room
    omega
  unfold Growth.step
  dsimp only
  split
  · exact .inl ⟨_, rfl, rfl⟩
  · exact .inl ⟨_, rfl, rfl⟩
  · split
    · exact .inr ⟨_, rfl, .inl ⟨rfl, rfl⟩⟩
    · exact .inr ⟨_, rfl, .inr ⟨hdouble, rfl⟩⟩

/-- A loop ends as it does with all memory if it gets what it asks for, and
without memory otherwise. -/
theorem Growth.run_malloc (loop : Loop D) :
    G.run malloc loop =
      if (G.asks loop).all malloc = true then G.run (fun _ => true) loop else .noMemory := by
  rw [G.run_eq malloc, G.run_eq fun _ => true]
  have hasks := G.asks_eq loop
  rcases G.step_malloc malloc loop with
    ⟨grown, hall, hstep⟩ | ⟨next, hall, ⟨hsize, hstep⟩ | ⟨hsize, hstep⟩⟩
  · rw [hall] at hasks ⊢
    rw [hstep, hasks]
    rfl
  · rw [hall] at hasks ⊢
    dsimp only at hasks
    rw [if_pos hsize] at hasks
    rw [hstep, hasks]
    exact run_malloc next
  · rw [hall] at hasks ⊢
    dsimp only at hasks
    rw [if_neg hsize] at hasks
    rw [hstep, hasks, List.all_cons]
    cases hmalloc : malloc next.size with
    | true =>
      rw [if_pos rfl, Bool.true_and]
      exact run_malloc next
    | false => rfl
termination_by G.rank loop
decreasing_by all_goals exact G.step_decreases (fun _ => true) hall

/-- All the sizes that a loop asks for, from the first buffer on. -/
def Growth.sizes (loop : Loop D) : List Nat := loop.size :: G.asks loop

/-- A loop behind the allocation of its first buffer. -/
def Growth.grow (loop : Loop D) : Grown D :=
  if malloc loop.size = false then .noMemory else G.run malloc loop

theorem Growth.grow_malloc (loop : Loop D) :
    G.grow malloc loop =
      if (G.sizes loop).all malloc = true then G.grow (fun _ => true) loop else .noMemory := by
  have hgiven : G.grow (fun _ => true) loop = G.run (fun _ => true) loop := if_neg nofun
  rw [hgiven, Growth.grow, Growth.sizes, List.all_cons]
  cases hmalloc : malloc loop.size with
  | false => rfl
  | true =>
    rw [if_neg nofun, Bool.true_and]
    exact G.run_malloc malloc loop

end Memory

/-! ## What is decoded -/

section Decoded

variable {D : Decoder α β κ}

/-- The place of a loop in its input: what was taken and what is there make the
input, and what was returned is the output so far. -/
structure Loop.Tracks (format : Format α β) (body : List α) (loop : Loop D) : Prop where
  format : D.format loop.state = format
  taken : D.taken loop.state ++ loop.input = body
  given : D.given loop.state = loop.output
  agrees : D.Agrees loop.state loop.input
  isOpen : D.Open loop.state

/-- The place before the first call. -/
def Loop.start (state : D.State) (input : List α) (size : Nat) (hsize : 0 < size) : Loop D where
  state := state
  input := input
  output := []
  size := size
  room := hsize

theorem Loop.start_tracks {format : Format α β} {state : D.State} (hstreamed : format.Streamed)
    (h : Initial format state) (input : List α) (size : Nat) (hsize : 0 < size) :
    (Loop.start state input size hsize).Tracks format input where
  format := h.format
  taken := by
    show D.taken state ++ input = input
    rw [h.taken, List.nil_append]
  given := h.given
  agrees := h.agrees input
  isOpen := by
    intro encoded hfinished hbefore
    change (D.format state).Finished encoded at hfinished
    change encoded <+: D.taken state at hbefore
    rw [h.taken, List.prefix_nil] at hbefore
    rw [h.format, hbefore] at hfinished
    exact absurd hfinished hstreamed.nonempty

/-- A loop is done exactly at the end of the data, when all output is returned.
A call takes nothing behind the end. -/
structure Growth.Sound (G : Growth D) (format : Format α β) : Prop where
  streamed : format.Streamed
  done : ∀ s room input, D.format s = format → D.Open s →
    (G.verdict (D.call s room input).status = .done ↔
      format.Finished (D.taken (D.call s room input).state) ∧
        D.Drained (D.call s room input).state)
  stays : ∀ s room input encoded, D.format s = format → D.Open s → format.Finished encoded →
    encoded <+: D.taken (D.call s room input).state →
    D.taken (D.call s room input).state = encoded

section Sound

variable {G : Growth D} {malloc : Nat → Bool} {format : Format α β} {body : List α}

theorem Loop.Tracks.next (hsound : G.Sound format) {loop next : Loop D}
    (h : loop.Tracks format body) (hstep : G.step malloc loop = .inr next) :
    next.Tracks format body := by
  obtain ⟨hmore, hstate, hinput, houtput, -⟩ := G.step_next malloc hstep
  constructor
  · rw [hstate, Growth.callAt, D.format_call, h.format]
  · rw [hstate, hinput, Growth.callAt, D.taken_append_left, h.taken]
  · rw [hstate, houtput, Growth.callAt, D.given_call, h.given]
  · rw [hstate, hinput, Growth.callAt]
    exact h.agrees.left _
  · rw [hstate, Growth.callAt]
    intro encoded hfinished hbefore
    rw [D.format_call, h.format] at hfinished
    have htaken := hsound.stays loop.state _ loop.input encoded h.format h.isOpen hfinished hbefore
    refine ⟨htaken, fun hdrained => ?_⟩
    rw [← htaken] at hfinished
    have hdone := (hsound.done loop.state _ loop.input h.format h.isOpen).mpr
      ⟨hfinished, hdrained⟩
    rw [Growth.callAt, hdone] at hmore
    cases hmore

/-- The output at the end of a loop that is done. -/
theorem Growth.Sound.output_eq (hsound : G.Sound format) {loop : Loop D}
    (h : loop.Tracks format body) (hdone : G.verdict (G.callAt loop).status = .done) :
    format.Finished (D.taken (G.callAt loop).state) ∧
      loop.output ++ (G.callAt loop).output = format.decode (D.taken (G.callAt loop).state) := by
  obtain ⟨hfinished, hdrained⟩ :=
    (hsound.done loop.state (G.offer loop) loop.input h.format h.isOpen).mp hdone
  refine ⟨hfinished, ?_⟩
  rw [Decoder.Drained, D.given_call, h.given, D.format_call, h.format] at hdrained
  exact hdrained

/-- A loop that is done has decoded a complete beginning of its input, and its
output fits the buffer. -/
theorem Growth.run_sound (hsound : G.Sound format) {loop : Loop D} (h : loop.Tracks format body)
    {state : D.State} {output : List β} {size : Nat}
    (hrun : G.run malloc loop = .done state output size) :
    ∃ encoded, encoded <+: body ∧ format.Finished encoded ∧ output = format.decode encoded ∧
      output.length ≤ size := by
  have hpost := G.run_rule malloc (Loop.Tracks format body)
    (fun grown => ∀ state output size, grown = Grown.done state output size →
      ∃ encoded, encoded <+: body ∧ format.Finished encoded ∧ output = format.decode encoded ∧
        output.length ≤ size)
    (fun loop next htracks hstep => htracks.next hsound hstep) ?_ h
  · exact hpost state output size hrun
  · intro loop grown htracks hstep state output size hgrown
    rcases G.step_end malloc hstep with ⟨hdone, hend⟩ | ⟨-, hend⟩ | ⟨-, hend, -⟩
    · rw [hend] at hgrown
      cases hgrown
      obtain ⟨hfinished, houtput⟩ := hsound.output_eq htracks hdone
      exact ⟨_, ⟨_, (D.taken_append_left loop.state (G.offer loop) loop.input).trans
        htracks.taken⟩, hfinished, houtput, G.output_fits loop⟩
    · rw [hend] at hgrown
      cases hgrown
    · rw [hend] at hgrown
      cases hgrown

end Sound

/-! ## What is complete -/

/-- What a loop needs so that it decodes what is complete, with buffers up to a
limit.  A call returns nothing of what follows the end of the data, and refuses
only what is not complete. -/
structure Growth.Complete (G : Growth D) (format : Format α β) (limit : Nat) : Prop where
  sound : G.Sound format
  offered : ∀ room, room ≤ limit → G.offered room = room
  within : ∀ s room input encoded, D.format s = format → D.Open s → format.Finished encoded →
    encoded <+: D.taken s ++ input → D.given s <+: format.decode encoded →
    D.given (D.call s room input).state <+: format.decode encoded
  refused : ∀ s room input, D.format s = format → D.Open s → 0 < room →
    G.verdict (D.call s room input).status = .failed →
    (∀ encoded, format.Finished encoded → ¬encoded <+: D.taken s ++ input) ∨
      D.left s room input = [] ∧ D.Drained (D.call s room input).state
  /-- A loop that always grows gets a full buffer, or takes all its input. -/
  fills : G.growsAlways = true → ∀ s room input,
    G.verdict (D.call s room input).status = .more →
    (D.call s room input).output.length < room → D.left s room input = []

section Complete

variable {G : Growth D} {format : Format α β} {limit base : Nat} {body encoded : List α}

/-- The buffer was not grown, or it was full when it grew the last time. -/
def Loop.Tight (base : Nat) (loop : Loop D) : Prop :=
  loop.size = base ∨ loop.size ≤ 2 * loop.output.length

/-- A place in an input that begins with complete data. -/
structure Loop.Within (format : Format α β) (body encoded : List α) (base : Nat)
    (loop : Loop D) : Prop where
  tracks : loop.Tracks format body
  given : D.given loop.state <+: format.decode encoded
  tight : loop.Tight base

/-- What was returned is no longer than the output of the data. -/
theorem Growth.Complete.given_prefix (hcomplete : G.Complete format limit) {loop : Loop D}
    (h : loop.Within format body encoded base) (hbody : encoded <+: body)
    (hfinished : format.Finished encoded) :
    D.given (G.callAt loop).state <+: format.decode encoded := by
  apply hcomplete.within loop.state _ loop.input encoded h.tracks.format h.tracks.isOpen hfinished
  · rw [h.tracks.taken]
    exact hbody
  · exact h.given

theorem Growth.Complete.output_le (hcomplete : G.Complete format limit) {loop : Loop D}
    (h : loop.Within format body encoded base) (hbody : encoded <+: body)
    (hfinished : format.Finished encoded) :
    (loop.output ++ (G.callAt loop).output).length ≤ (format.decode encoded).length := by
  have hgiven := (hcomplete.given_prefix h hbody hfinished).length_le
  rw [Growth.callAt, D.given_call, h.tracks.given] at hgiven
  exact hgiven

theorem Growth.Complete.size_le (hcomplete : G.Complete format limit) {loop : Loop D}
    (h : loop.Within format body encoded base) (hbody : encoded <+: body)
    (hfinished : format.Finished encoded) (hbase : base ≤ limit)
    (hlimit : 2 * (format.decode encoded).length ≤ limit) : loop.size ≤ limit := by
  have houtput := hcomplete.output_le h hbody hfinished
  rw [List.length_append] at houtput
  rcases h.tight with hsize | hsize <;> omega

/-- The complete data is what was taken, once that is complete. -/
theorem Growth.Complete.taken_eq (hcomplete : G.Complete format limit) {loop : Loop D}
    (h : loop.Within format body encoded base) (hbody : encoded <+: body)
    (hfinished : format.Finished encoded)
    (hends : format.Finished (D.taken (G.callAt loop).state)) :
    D.taken (G.callAt loop).state = encoded := by
  have hwhole := D.taken_append_left loop.state (G.offer loop) loop.input
  rw [h.tracks.taken] at hwhole
  rcases List.prefix_or_prefix_of_prefix ⟨_, hwhole⟩ hbody with htaken | hbehind
  · exact hcomplete.sound.streamed.delimited _ encoded hends hfinished htaken
  · exact (hcomplete.sound.streamed.delimited _ _ hfinished hends hbehind).symm

/-- A call that takes all input and returns all that is due is the last. -/
theorem Growth.Complete.done_of_drained (hcomplete : G.Complete format limit) {loop : Loop D}
    (h : loop.Within format body encoded base) (hbody : encoded <+: body)
    (hfinished : format.Finished encoded)
    (hleft : D.left loop.state (G.offer loop) loop.input = [])
    (hdrained : D.Drained (G.callAt loop).state) : G.verdict (G.callAt loop).status = .done := by
  have hwhole : D.taken (G.callAt loop).state = body :=
    (D.taken_of_left_nil hleft).trans h.tracks.taken
  rw [← hwhole] at hbody
  have hsame := hcomplete.sound.stays loop.state _ loop.input encoded h.tracks.format
    h.tracks.isOpen hfinished hbody
  rw [← hsame] at hfinished
  exact (hcomplete.sound.done loop.state _ loop.input h.tracks.format h.tracks.isOpen).mpr
    ⟨hfinished, hdrained⟩

/-- A buffer grows only when it is full. -/
theorem Growth.Complete.full_of_grows (hcomplete : G.Complete format limit) {loop : Loop D}
    (h : loop.Within format body encoded base) (hbody : encoded <+: body)
    (hfinished : format.Finished encoded) (hsize : loop.size ≤ limit)
    (hmore : G.verdict (G.callAt loop).status = .more)
    (hgrows : G.growsAlways = true ∨
      loop.size ≤ (loop.output ++ (G.callAt loop).output).length) :
    loop.size ≤ (loop.output ++ (G.callAt loop).output).length := by
  rcases hgrows with halways | hfull
  · by_contra hroom
    have hoffer : G.offer loop = loop.size - loop.output.length :=
      hcomplete.offered _ (by omega)
    have hlt : (D.call loop.state (G.offer loop) loop.input).output.length < G.offer loop := by
      rw [List.length_append, Growth.callAt] at hroom
      have hpos := loop.room
      omega
    have hleft := hcomplete.fills halways loop.state _ loop.input hmore hlt
    have haccepted := G.accepts (G.callAt loop).status (by rw [hmore]; exact nofun)
    have hdone := hcomplete.done_of_drained h hbody hfinished hleft
      (Decoder.drained_of_output_lt h.tracks.agrees haccepted hlt hleft)
    rw [hmore] at hdone
    cases hdone
  · exact hfull

theorem Loop.Within.next (hcomplete : G.Complete format limit) {malloc : Nat → Bool}
    {loop next : Loop D} (h : loop.Within format body encoded base) (hbody : encoded <+: body)
    (hfinished : format.Finished encoded) (hsize : loop.size ≤ limit)
    (hstep : G.step malloc loop = .inr next) : next.Within format body encoded base := by
  obtain ⟨hmore, hstate, -, houtput, hgrown⟩ := G.step_next malloc hstep
  refine ⟨h.tracks.next hcomplete.sound hstep, ?_, ?_⟩
  · rw [hstate]
    exact hcomplete.given_prefix h hbody hfinished
  · rcases hgrown with hsame | ⟨hdouble, hgrows⟩
    · rw [Loop.Tight, hsame, houtput, List.length_append]
      rcases h.tight with hbase | hless
      · exact .inl hbase
      · exact .inr (by omega)
    · rw [houtput] at hgrows
      have hfull := hcomplete.full_of_grows h hbody hfinished hsize hmore hgrows
      rw [Loop.Tight, hdouble, houtput]
      exact .inr (by omega)

/-- A loop whose input begins with complete data is done, in the first buffer
or in one that is at most twice as long as the output, or it gets no memory for
a buffer of this kind. -/
theorem Growth.run_complete (hcomplete : G.Complete format limit) {malloc : Nat → Bool}
    {loop : Loop D} (h : loop.Within format body encoded base) (hbody : encoded <+: body)
    (hfinished : format.Finished encoded) (hbase : base ≤ limit)
    (hlimit : 2 * (format.decode encoded).length ≤ limit) :
    (∃ state size, G.run malloc loop = .done state (format.decode encoded) size ∧
        (size = base ∨ size ≤ 2 * (format.decode encoded).length)) ∨
      G.run malloc loop = .noMemory ∧
        ∃ size ≤ 2 * (format.decode encoded).length, malloc size = false := by
  refine G.run_rule malloc (Loop.Within format body encoded base)
    (fun grown => (∃ state size, grown = Grown.done state (format.decode encoded) size ∧
        (size = base ∨ size ≤ 2 * (format.decode encoded).length)) ∨
      grown = .noMemory ∧ ∃ size ≤ 2 * (format.decode encoded).length, malloc size = false)
    ?_ ?_ h
  · intro loop next h hstep
    exact h.next hcomplete hbody hfinished
      (hcomplete.size_le h hbody hfinished hbase hlimit) hstep
  · intro loop grown h hstep
    have hsize := hcomplete.size_le h hbody hfinished hbase hlimit
    rcases G.step_end malloc hstep with ⟨hdone, hend⟩ | ⟨hfailed, -⟩ | ⟨hmore, hend, hnone, hgrows⟩
    · -- the data that is complete is the data that was taken
      left
      obtain ⟨hends, houtput⟩ := hcomplete.sound.output_eq h.tracks hdone
      rw [hcomplete.taken_eq h hbody hfinished hends] at houtput
      refine ⟨_, _, by rw [hend, houtput], ?_⟩
      have hlength := congrArg List.length houtput
      rw [List.length_append] at hlength
      rcases h.tight with hbase | hdouble
      · exact .inl hbase
      · exact .inr (by omega)
    · exfalso
      have hroom : 0 < G.offer loop := by
        rw [Growth.offer, hcomplete.offered _ (by omega)]
        exact Nat.sub_pos_of_lt loop.room
      rcases hcomplete.refused loop.state _ loop.input h.tracks.format h.tracks.isOpen hroom
        hfailed with hnever | ⟨hleft, hdrained⟩
      · rw [h.tracks.taken] at hnever
        exact hnever encoded hfinished hbody
      · have hdone := hcomplete.done_of_drained h hbody hfinished hleft hdrained
        rw [hfailed] at hdone
        cases hdone
    · right
      have hfull := hcomplete.full_of_grows h hbody hfinished hsize hmore hgrows
      have houtput := hcomplete.output_le h hbody hfinished
      exact ⟨hend, _, by omega, hnone⟩

end Complete

/-- The buffer was doubled some times. -/
theorem Growth.run_size {G : Growth D} {malloc : Nat → Bool} {loop : Loop D}
    {state : D.State} {output : List β} {size : Nat}
    (hrun : G.run malloc loop = .done state output size) :
    ∃ doublings, size = loop.size * 2 ^ doublings := by
  have hpost := G.run_rule malloc
    (fun place => ∃ doublings, place.size = loop.size * 2 ^ doublings)
    (fun grown => ∀ state output size, grown = Grown.done state output size →
      ∃ doublings, size = loop.size * 2 ^ doublings)
    ?_ ?_ ⟨0, (Nat.mul_one loop.size).symm⟩
  · exact hpost state output size hrun
  · intro place next h hstep
    obtain ⟨doublings, hsize⟩ := h
    obtain ⟨-, -, -, -, hsame | ⟨hdouble, -⟩⟩ := G.step_next malloc hstep
    · exact ⟨doublings, hsame.trans hsize⟩
    · exact ⟨doublings + 1, by rw [hdouble, hsize, Nat.pow_succ, Nat.mul_assoc]⟩
  · intro place grown h hstep state output size hgrown
    rcases G.step_end malloc hstep with ⟨-, hend⟩ | ⟨-, hend⟩ | ⟨-, hend, -⟩
    · rw [hend] at hgrown
      cases hgrown
      exact h
    · rw [hend] at hgrown
      cases hgrown
    · rw [hend] at hgrown
      cases hgrown

end Decoded

end Streaming
