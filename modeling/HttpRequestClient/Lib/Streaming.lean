import HttpRequestClient.Lib.Decoders

/-!
# Streaming decoders

A `Driver` is a loop around the calls of a decoder, with a buffer of some size
for the output of a call.  It hands every output on and stops by its verdict.
`Driver.feed` is total, because a call that lets the loop go on took input or
returned output.

* `feed_spec`: along a loop the decoder takes what the loop was given and did
  not leave, and returns what the loop handed on.
* `feed_seesRecord`: a consumer sees the pieces in their order, up to the first
  one that it refuses.
* `feedAll_whole`: after several chunks, of which nothing was skipped, the
  output is whole if and only if what was due at the last call fitted.
* `feedAll_length`: otherwise what did not fit is missing.
-/

namespace Streaming

variable {α β κ δ σ τ : Type}

/-! ## Loops -/

/-- The room for the output of a call, and the rule by which a loop stops with
a result, from the status and the output of a call and the input it left.  A
call that does not stop the loop made progress.  A loop that checks first makes
no call without input. -/
structure Driver (D : Decoder α β κ) where
  room : Nat
  room_pos : 0 < room
  checksFirst : Bool
  verdict : κ → List β → List α → Option Int
  accepts : ∀ status output rest, verdict status output rest = some 1 → D.failed status = false
  stops : checksFirst = true → ∀ status output, verdict status output [] ≠ none
  progress : ∀ s input,
    verdict (D.call s room input).status (D.call s room input).output (D.left s room input) =
      none →
    0 < (D.call s room input).used ∨ (D.call s room input).output ≠ []

/-- The end of a loop: its result, the state of the decoder, the input that
was left, and the state of the consumer. -/
structure Fed (σ α δ : Type) where
  result : Int
  state : σ
  rest : List α
  ctx : δ

def Fed.map (f : σ → τ) (fed : Fed σ α δ) : Fed τ α δ :=
  ⟨fed.result, f fed.state, fed.rest, fed.ctx⟩

variable {D : Decoder α β κ}

/-- One call with an empty buffer. -/
def Driver.call (driver : Driver D) (s : D.State) (input : List α) : Call D.State β κ :=
  D.call s driver.room input

/-- The input that it leaves. -/
def Driver.left (driver : Driver D) (s : D.State) (input : List α) : List α :=
  D.left s driver.room input

/-- The verdict on one call. -/
def Driver.outcome (driver : Driver D) (s : D.State) (input : List α) : Option Int :=
  driver.verdict (driver.call s input).status (driver.call s input).output (driver.left s input)

/-- A call that lets the loop go on brings it nearer to its end. -/
theorem Driver.decreases (driver : Driver D) {s : D.State} {input : List α}
    (h : driver.outcome s input = none) :
    D.rank (driver.call s input).state (driver.left s input) < D.rank s input :=
  D.rank_lt s driver.room input (driver.progress s input h)

/-- A loop that checks first goes on only with some input. -/
theorem Driver.left_ne_nil (driver : Driver D) {s : D.State} {input : List α}
    (h : driver.outcome s input = none) (hchecks : driver.checksFirst = true) :
    driver.left s input ≠ [] := by
  intro hnil
  rw [Driver.outcome, hnil] at h
  exact driver.stops hchecks _ _ h

/-- Hand an output on, if there is any; the answer is non-zero to stop. -/
def handOn (consume : δ → List β → Int × δ) (ctx : δ) (output : List β) : Int × δ :=
  if output = [] then (0, ctx) else consume ctx output

/-- Call the decoder until the consumer or the verdict stops the loop. -/
def Driver.rounds (driver : Driver D) (consume : δ → List β → Int × δ) (s : D.State)
    (input : List α) (ctx : δ) : Fed D.State α δ :=
  let call := driver.call s input
  let handed := handOn consume ctx call.output
  if handed.1 ≠ 0 then ⟨0, call.state, driver.left s input, handed.2⟩
  else
    match _hverdict : driver.outcome s input with
    | some result => ⟨result, call.state, driver.left s input, handed.2⟩
    | none => driver.rounds consume call.state (driver.left s input) handed.2
termination_by D.rank s input
decreasing_by exact driver.decreases _hverdict

/-- Feed one input to the decoder. -/
def Driver.feed (driver : Driver D) (consume : δ → List β → Int × δ) (s : D.State)
    (input : List α) (ctx : δ) : Fed D.State α δ :=
  if driver.checksFirst = true ∧ input = [] then ⟨1, s, [], ctx⟩
  else driver.rounds consume s input ctx

theorem Driver.rounds_eq (driver : Driver D) (consume : δ → List β → Int × δ) (s : D.State)
    (input : List α) (ctx : δ) :
    driver.rounds consume s input ctx =
      let call := driver.call s input
      let handed := handOn consume ctx call.output
      if handed.1 ≠ 0 then ⟨0, call.state, driver.left s input, handed.2⟩
      else
        match driver.outcome s input with
        | some result => ⟨result, call.state, driver.left s input, handed.2⟩
        | none => driver.rounds consume call.state (driver.left s input) handed.2 := by
  rw [Driver.rounds]
  dsimp only
  split
  · rfl
  · split
    · rename_i hsome
      rw [hsome]
    · rename_i hnone
      rw [hnone]

/-- The calls of a loop that no consumer stops, each as the state before it
and its input. -/
def Driver.calls (driver : Driver D) (s : D.State) (input : List α) : List (D.State × List α) :=
  match _hverdict : driver.outcome s input with
  | some _ => [(s, input)]
  | none => (s, input) :: driver.calls (driver.call s input).state (driver.left s input)
termination_by D.rank s input
decreasing_by exact driver.decreases _hverdict

theorem Driver.calls_eq (driver : Driver D) (s : D.State) (input : List α) :
    driver.calls s input =
      match driver.outcome s input with
      | some _ => [(s, input)]
      | none =>
        (s, input) :: driver.calls (driver.call s input).state (driver.left s input) := by
  rw [Driver.calls]
  split
  · rename_i hsome
    rw [hsome]
  · rename_i hnone
    rw [hnone]

/-- The calls for one input. -/
def Driver.callsFor (driver : Driver D) (s : D.State) (input : List α) :
    List (D.State × List α) :=
  if driver.checksFirst = true ∧ input = [] then [] else driver.calls s input

/-- A consumer that keeps the pieces and never stops. -/
def record (pieces : List (List β)) (output : List β) : Int × List (List β) :=
  (0, pieces ++ [output])

theorem handOn_record (pieces : List (List β)) (output : List β) :
    (handOn record pieces output).1 = 0 ∧
      (handOn record pieces output).2.flatten = pieces.flatten ++ output := by
  unfold handOn
  split
  · rename_i hempty
    rw [hempty, List.append_nil]
    exact ⟨rfl, rfl⟩
  · simp [record]

theorem handOn_kept (pieces : List (List β)) (output : List β) :
    pieces <+: (handOn record pieces output).2 := by
  unfold handOn
  split
  · exact List.prefix_refl _
  · exact List.prefix_append _ _

section Feed

variable (driver : Driver D)

theorem Driver.rounds_some {s : D.State} {input : List α} {result : Int}
    (h : driver.outcome s input = some result) (pieces : List (List β)) :
    driver.rounds record s input pieces =
      ⟨result, (driver.call s input).state, driver.left s input,
        (handOn record pieces (driver.call s input).output).2⟩ := by
  rw [driver.rounds_eq]
  dsimp only
  rw [if_neg (not_not.mpr (handOn_record pieces _).1), h]

theorem Driver.rounds_none {s : D.State} {input : List α}
    (h : driver.outcome s input = none) (pieces : List (List β)) :
    driver.rounds record s input pieces =
      driver.rounds record (driver.call s input).state (driver.left s input)
        (handOn record pieces (driver.call s input).output).2 := by
  rw [driver.rounds_eq]
  dsimp only
  rw [if_neg (not_not.mpr (handOn_record pieces _).1), h]

/-- What a loop with a consumer that never stops does. -/
structure Along (s : D.State) (input : List α) (pieces : List (List β))
    (fed : Fed D.State α (List (List β))) : Prop where
  taken : D.taken fed.state ++ fed.rest = D.taken s ++ input
  given : ∀ before, D.given s = before ++ pieces.flatten →
    D.given fed.state = before ++ fed.ctx.flatten
  format : D.format fed.state = D.format s
  agrees : D.Agrees s input → D.Agrees fed.state fed.rest
  kept : pieces <+: fed.ctx

/-- One call that is followed by the rest of a loop. -/
theorem Along.cons {s : D.State} {input : List α} {pieces : List (List β)}
    {fed : Fed D.State α (List (List β))}
    (h : Along (driver.call s input).state (driver.left s input)
      (handOn record pieces (driver.call s input).output).2 fed) : Along s input pieces fed where
  taken := h.taken.trans (D.taken_append_left s driver.room input)
  given before hbefore := by
    apply h.given before
    have hgiven : D.given (driver.call s input).state =
        D.given s ++ (driver.call s input).output := D.given_call s driver.room input
    rw [hgiven, hbefore, (handOn_record pieces _).2, List.append_assoc]
  format := h.format.trans (D.format_call s driver.room input)
  agrees hagrees := h.agrees (hagrees.left driver.room)
  kept := (handOn_kept pieces _).trans h.kept

theorem Driver.rounds_spec (s : D.State) (input : List α) (pieces : List (List β)) :
    Along s input pieces (driver.rounds record s input pieces) := by
  cases hverdict : driver.outcome s input with
  | some result =>
    rw [driver.rounds_some hverdict]
    exact Along.cons driver ⟨rfl, fun _ hbefore => hbefore, rfl, id, List.prefix_refl _⟩
  | none =>
    rw [driver.rounds_none hverdict]
    exact Along.cons driver (rounds_spec _ _ _)
termination_by D.rank s input
decreasing_by exact driver.decreases hverdict

theorem Driver.feed_spec (s : D.State) (input : List α) (pieces : List (List β)) :
    Along s input pieces (driver.feed record s input pieces) := by
  unfold Driver.feed
  split
  · rename_i hempty
    rw [hempty.2]
    exact ⟨rfl, fun _ hbefore => hbefore, rfl, id, List.prefix_refl _⟩
  · exact driver.rounds_spec s input pieces

/-- The last call decides how a loop ends. -/
theorem Driver.calls_last (s : D.State) (input : List α) (pieces : List (List β)) :
    ∃ s' input', (driver.calls s input).getLast? = some (s', input') ∧
      (driver.rounds record s input pieces).state = (driver.call s' input').state ∧
      (driver.rounds record s input pieces).rest = driver.left s' input' ∧
      driver.outcome s' input' =
        some (driver.rounds record s input pieces).result := by
  rw [driver.calls_eq]
  cases hverdict : driver.outcome s input with
  | some result =>
    rw [driver.rounds_some hverdict]
    exact ⟨s, input, rfl, rfl, rfl, hverdict⟩
  | none =>
    rw [driver.rounds_none hverdict]
    obtain ⟨s', input', hlast, hend⟩ := calls_last (driver.call s input).state
      (driver.left s input) (handOn record pieces (driver.call s input).output).2
    refine ⟨s', input', ?_, hend⟩
    dsimp only
    rw [List.getLast?_cons, hlast]
    rfl
termination_by D.rank s input
decreasing_by exact driver.decreases hverdict

/-- A call of a loop continues what was taken before, and it lets the loop go
on or ends it. -/
structure Driver.Called (s : D.State) (input : List α) (fed : Fed D.State α δ)
    (call : D.State × List α) : Prop where
  taken : D.taken call.1 ++ call.2 = D.taken s ++ input
  format : D.format call.1 = D.format s
  agrees : D.Agrees s input → D.Agrees call.1 call.2
  nonempty : driver.checksFirst = true → input ≠ [] → call.2 ≠ []
  ends : driver.outcome call.1 call.2 = none ∨
    driver.outcome call.1 call.2 = some fed.result ∧ driver.left call.1 call.2 = fed.rest

theorem Driver.calls_mem (s : D.State) (input : List α) (pieces : List (List β)) :
    ∀ call ∈ driver.calls s input,
      driver.Called s input (driver.rounds record s input pieces) call := by
  intro call hcall
  rw [driver.calls_eq] at hcall
  cases hverdict : driver.outcome s input with
  | some result =>
    rw [hverdict] at hcall
    rw [List.mem_singleton.mp hcall, driver.rounds_some hverdict]
    exact ⟨rfl, rfl, id, fun _ hne => hne, .inr ⟨hverdict, rfl⟩⟩
  | none =>
    rw [hverdict] at hcall
    rcases List.mem_cons.mp hcall with rfl | hlater
    · exact ⟨rfl, rfl, id, fun _ hne => hne, .inl hverdict⟩
    · rw [driver.rounds_none hverdict]
      have hnext := calls_mem (driver.call s input).state (driver.left s input)
        (handOn record pieces (driver.call s input).output).2 call hlater
      exact {
        taken := hnext.taken.trans (D.taken_append_left s driver.room input)
        format := hnext.format.trans (D.format_call s driver.room input)
        agrees := fun hagrees => hnext.agrees (hagrees.left driver.room)
        nonempty := fun hchecks _ => hnext.nonempty hchecks (driver.left_ne_nil hverdict hchecks)
        ends := hnext.ends }
termination_by D.rank s input
decreasing_by exact driver.decreases hverdict

/-- What every call that does not end a loop with `-1` keeps holds at its end. -/
theorem Driver.rounds_invariant {P : D.State → Prop}
    (hcall : ∀ s input, P s → driver.outcome s input ≠ some (-1) → P (driver.call s input).state)
    (s : D.State) (input : List α) (pieces : List (List β)) (h : P s)
    (hresult : (driver.rounds record s input pieces).result ≠ -1) :
    P (driver.rounds record s input pieces).state := by
  cases hverdict : driver.outcome s input with
  | some result =>
    rw [driver.rounds_some hverdict] at hresult ⊢
    refine hcall s input h ?_
    rw [hverdict]
    exact fun hfailed => hresult (Option.some.inj hfailed)
  | none =>
    rw [driver.rounds_none hverdict] at hresult ⊢
    refine rounds_invariant hcall _ _ _ (hcall s input h ?_) hresult
    rw [hverdict]
    exact Option.some_ne_none _ ∘ Eq.symm
termination_by D.rank s input
decreasing_by exact driver.decreases hverdict

/-! ## Consumers -/

/-- Hand pieces on, up to the first one that is refused. -/
def handAll (consume : δ → List β → Int × δ) (ctx : δ) : List (List β) → Bool × δ
  | [] => (false, ctx)
  | piece :: pieces =>
    if (consume ctx piece).1 ≠ 0 then (true, (consume ctx piece).2)
    else handAll consume (consume ctx piece).2 pieces

theorem handAll_append (consume : δ → List β → Int × δ) (ctx : δ) (pieces more : List (List β)) :
    handAll consume ctx (pieces ++ more) =
      if (handAll consume ctx pieces).1 then handAll consume ctx pieces
      else handAll consume (handAll consume ctx pieces).2 more := by
  induction pieces generalizing ctx with
  | nil => rfl
  | cons piece pieces ih =>
    rw [List.cons_append, handAll, handAll]
    split
    · rfl
    · exact ih _

/-- The piece of one call. -/
theorem handAll_handOn {consume : δ → List β → Int × δ} {start ctx : δ} {pieces : List (List β)}
    (h : handAll consume start pieces = (false, ctx)) (output : List β) :
    handAll consume start (handOn record pieces output).2 =
      (decide ((handOn consume ctx output).1 ≠ 0), (handOn consume ctx output).2) := by
  unfold handOn
  split
  · exact h
  · show handAll consume start (pieces ++ [output]) = _
    rw [handAll_append, h]
    simp only [Bool.false_eq_true, if_false, handAll]
    split
    · rename_i hstop
      simp [hstop]
    · rename_i hgo
      simp [hgo]

/-- The loop of a consumer beside the loop that records: it hands on what is
recorded up to the first piece that is refused, and this ends it with 0. -/
structure SeesRecord (consume : δ → List β → Int × δ) (start : δ) (fed : Fed σ α δ)
    (recorded : Fed σ α (List (List β))) : Prop where
  ctx : fed.ctx = (handAll consume start recorded.ctx).2
  result : fed.result = if (handAll consume start recorded.ctx).1 then 0 else recorded.result
  state : (handAll consume start recorded.ctx).1 = false → fed.state = recorded.state

theorem SeesRecord.map {consume : δ → List β → Int × δ} {start : δ} {fed : Fed σ α δ}
    {recorded : Fed σ α (List (List β))} (h : SeesRecord consume start fed recorded)
    (f : σ → τ) : SeesRecord consume start (fed.map f) (recorded.map f) :=
  ⟨h.ctx, h.result, fun hnone => congrArg f (h.state hnone)⟩

theorem Driver.rounds_seesRecord (consume : δ → List β → Int × δ) (start : δ) (s : D.State)
    (input : List α) {pieces : List (List β)} {ctx : δ}
    (h : handAll consume start pieces = (false, ctx)) :
    SeesRecord consume start (driver.rounds consume s input ctx)
      (driver.rounds record s input pieces) := by
  have hhanded := handAll_handOn h (driver.call s input).output
  have hfed := driver.rounds_eq consume s input ctx
  dsimp only at hfed
  by_cases hstop : (handOn consume ctx (driver.call s input).output).1 ≠ 0
  · -- what is recorded later is not seen any more
    rw [if_pos hstop] at hfed
    rw [decide_eq_true hstop] at hhanded
    have hkept : (handOn record pieces (driver.call s input).output).2 <+:
        (driver.rounds record s input pieces).ctx := by
      cases hverdict : driver.outcome s input with
      | some result =>
        rewrite [driver.rounds_some hverdict]
        exact List.prefix_refl _
      | none =>
        rw [driver.rounds_none hverdict]
        exact (driver.rounds_spec _ _ _).kept
    obtain ⟨more, hmore⟩ := hkept
    have hall : handAll consume start (driver.rounds record s input pieces).ctx =
        (true, (handOn consume ctx (driver.call s input).output).2) := by
      rw [← hmore, handAll_append, hhanded]
      rfl
    rw [hfed]
    constructor
    · rw [hall]
    · rw [hall]
      rfl
    · intro hnever
      rw [hall] at hnever
      cases hnever
  · rw [if_neg hstop] at hfed
    rw [decide_eq_false hstop] at hhanded
    cases hverdict : driver.outcome s input with
    | some result =>
      rw [hverdict] at hfed
      rw [hfed, driver.rounds_some hverdict]
      constructor
      · exact (congrArg Prod.snd hhanded).symm
      · rw [hhanded]
        rfl
      · exact fun _ => rfl
    | none =>
      rw [hverdict] at hfed
      rw [hfed, driver.rounds_none hverdict]
      exact rounds_seesRecord consume start (driver.call s input).state _ hhanded
termination_by D.rank s input
decreasing_by exact driver.decreases hverdict

/-- A consumer sees what is recorded, and its refusal ends the loop. -/
theorem Driver.feed_seesRecord (consume : δ → List β → Int × δ) (start : δ) (s : D.State)
    (input : List α) :
    SeesRecord consume start (driver.feed consume s input start)
      (driver.feed record s input []) := by
  unfold Driver.feed
  split
  · exact ⟨rfl, rfl, fun _ => rfl⟩
  · exact driver.rounds_seesRecord consume start s input rfl

end Feed

/-! ## Several inputs -/

/-- Feed inputs in order, up to the first one whose result is not 1. -/
def feedAll (feed : σ → List α → Fed σ α (List (List β))) (s : σ) :
    List (List α) → Fed σ α (List (List β))
  | [] => ⟨1, s, [], []⟩
  | input :: inputs =>
    let fed := feed s input
    if fed.result ≠ 1 then fed
    else
      let later := feedAll feed fed.state inputs
      ⟨later.result, later.state, fed.rest ++ later.rest, fed.ctx ++ later.ctx⟩

/-- The input was accepted and taken to its end. -/
def Fed.Clean (fed : Fed σ α δ) : Prop := fed.result = 1 ∧ fed.rest = []

section FeedAll

variable {feed : σ → List α → Fed σ α (List (List β))}

theorem feedAll_cons {s : σ} {input : List α} (h : (feed s input).result = 1)
    (inputs : List (List α)) :
    feedAll feed s (input :: inputs) =
      ⟨(feedAll feed (feed s input).state inputs).result,
        (feedAll feed (feed s input).state inputs).state,
        (feed s input).rest ++ (feedAll feed (feed s input).state inputs).rest,
        (feed s input).ctx ++ (feedAll feed (feed s input).state inputs).ctx⟩ := by
  rw [feedAll]
  exact if_neg (not_not.mpr h)

theorem feedAll_stop {s : σ} {input : List α} (h : (feed s input).result ≠ 1)
    (inputs : List (List α)) : feedAll feed s (input :: inputs) = feed s input := by
  rw [feedAll]
  exact if_pos h

theorem feedAll_clean_cons (s : σ) (input : List α) (inputs : List (List α)) :
    (feedAll feed s (input :: inputs)).Clean ↔
      (feed s input).Clean ∧ (feedAll feed (feed s input).state inputs).Clean := by
  by_cases hresult : (feed s input).result = 1
  · rw [feedAll_cons hresult]
    simp only [Fed.Clean, List.append_eq_nil_iff]
    tauto
  · rw [feedAll_stop hresult]
    exact iff_of_false (fun h => hresult h.1) (fun h => hresult h.1.1)

theorem feedAll_each {s : σ} {inputs : List (List α)} (h : (feedAll feed s inputs).Clean) :
    ∀ input ∈ inputs, ∃ s', (feed s' input).Clean := by
  induction inputs generalizing s with
  | nil => exact fun input hmem => nomatch hmem
  | cons input inputs ih =>
    obtain ⟨hfirst, hlater⟩ := (feedAll_clean_cons s input inputs).mp h
    intro other hmem
    rcases List.mem_cons.mp hmem with rfl | hmem
    · exact ⟨s, hfirst⟩
    · exact ih hlater other hmem

/-- The same inputs fed to another representation of the state. -/
theorem feedAll_map {feed' : τ → List α → Fed τ α (List (List β))} (f : σ → τ) (s : σ)
    {inputs : List (List α)}
    (h : ∀ s, ∀ input ∈ inputs, feed' (f s) input = (feed s input).map f) :
    feedAll feed' (f s) inputs = (feedAll feed s inputs).map f := by
  induction inputs generalizing s with
  | nil => rfl
  | cons input inputs ih =>
    have hlater := ih (feed s input).state fun s other hmem =>
      h s other (List.mem_cons_of_mem input hmem)
    have hinput := h s input List.mem_cons_self
    by_cases hresult : (feed s input).result = 1
    · have hresult' : (feed' (f s) input).result = 1 := by rw [hinput]; exact hresult
      rw [feedAll_cons hresult, feedAll_cons hresult', hinput]
      dsimp only [Fed.map] at hlater ⊢
      rw [hlater]
    · have hresult' : (feed' (f s) input).result ≠ 1 := by rw [hinput]; exact hresult
      rw [feedAll_stop hresult, feedAll_stop hresult', hinput]

end FeedAll

section Chunks

variable (driver : Driver D)

/-- One input, with the pieces recorded. -/
def Driver.chunk (s : D.State) (input : List α) : Fed D.State α (List (List β)) :=
  driver.feed record s input []

/-- The calls for several inputs. -/
def Driver.callsAll (s : D.State) : List (List α) → List (D.State × List α)
  | [] => []
  | input :: inputs =>
    if (driver.chunk s input).result ≠ 1 then driver.callsFor s input
    else driver.callsFor s input ++ Driver.callsAll (driver.chunk s input).state inputs

theorem Driver.callsAll_cons {s : D.State} {input : List α} (h : (driver.chunk s input).result = 1)
    (inputs : List (List α)) :
    driver.callsAll s (input :: inputs) =
      driver.callsFor s input ++ driver.callsAll (driver.chunk s input).state inputs := by
  rw [Driver.callsAll]
  exact if_neg (not_not.mpr h)

/-- The state behind the last of some calls. -/
def Driver.endOf (s : D.State) (calls : List (D.State × List α)) : D.State :=
  match calls.getLast? with
  | none => s
  | some last => (driver.call last.1 last.2).state

theorem Driver.endOf_append (s : D.State) (calls later : List (D.State × List α)) :
    driver.endOf s (calls ++ later) = driver.endOf (driver.endOf s calls) later := by
  unfold Driver.endOf
  rw [List.getLast?_append]
  cases later.getLast? with
  | none => rfl
  | some last => rfl

theorem Driver.chunk_state (s : D.State) (input : List α) :
    (driver.chunk s input).state = driver.endOf s (driver.callsFor s input) := by
  unfold Driver.chunk Driver.feed Driver.callsFor
  split
  · rfl
  · obtain ⟨s', input', hlast, hstate, -⟩ := driver.calls_last s input []
    rw [hstate, Driver.endOf, hlast]

theorem Driver.feedAll_state (s : D.State) (inputs : List (List α)) :
    (feedAll driver.chunk s inputs).state = driver.endOf s (driver.callsAll s inputs) := by
  induction inputs generalizing s with
  | nil => rfl
  | cons input inputs ih =>
    rw [feedAll, Driver.callsAll]
    split
    · exact driver.chunk_state s input
    · rw [driver.endOf_append, ← driver.chunk_state]
      exact ih _

/-- Behind inputs that were all taken. -/
theorem Driver.feedAll_spec {s : D.State} {inputs : List (List α)}
    (h : (feedAll driver.chunk s inputs).Clean) :
    D.taken (feedAll driver.chunk s inputs).state = D.taken s ++ inputs.flatten ∧
      D.given (feedAll driver.chunk s inputs).state =
        D.given s ++ (feedAll driver.chunk s inputs).ctx.flatten ∧
      D.format (feedAll driver.chunk s inputs).state = D.format s := by
  induction inputs generalizing s with
  | nil => exact ⟨(List.append_nil _).symm, (List.append_nil _).symm, rfl⟩
  | cons input inputs ih =>
    obtain ⟨hfirst, hlater⟩ := (feedAll_clean_cons s input inputs).mp h
    obtain ⟨htaken, hgiven, hformat⟩ := ih hlater
    have hchunk : Along s input [] (driver.chunk s input) := driver.feed_spec s input []
    have htook := hchunk.taken
    rw [hfirst.2, List.append_nil] at htook
    have hgave := hchunk.given (D.given s) (List.append_nil _).symm
    rw [feedAll_cons hfirst.1]
    refine ⟨?_, ?_, hformat.trans hchunk.format⟩
    · rw [htaken, htook, List.flatten_cons, List.append_assoc]
    · rw [hgiven, hgave, List.flatten_append, List.append_assoc]

theorem Driver.callsFor_format (s : D.State) (input : List α) :
    ∀ call ∈ driver.callsFor s input, D.format call.1 = D.format s := by
  intro call hcall
  unfold Driver.callsFor at hcall
  split at hcall
  · cases hcall
  · exact (driver.calls_mem s input [] call hcall).format

/-- Every call is on the same format. -/
theorem Driver.callsAll_format (s : D.State) (inputs : List (List α)) :
    ∀ call ∈ driver.callsAll s inputs, D.format call.1 = D.format s := by
  induction inputs generalizing s with
  | nil => exact fun call hcall => nomatch hcall
  | cons input inputs ih =>
    rw [Driver.callsAll]
    split
    · exact driver.callsFor_format s input
    · have hchunk : Along s input [] (driver.chunk s input) := driver.feed_spec s input []
      have hlater := ih (driver.chunk s input).state
      rw [hchunk.format] at hlater
      exact List.forall_mem_append.mpr ⟨driver.callsFor_format s input, hlater⟩

/-! ## Valid data -/

/-- A loop ends without 1 only at a call on data that is not valid. -/
def Driver.Refuses : Prop :=
  ∀ s input result, (driver.checksFirst = true → input ≠ []) →
    driver.outcome s input = some result → result ≠ 1 →
    ∀ more, ¬(D.format s).Valid (D.taken s ++ input ++ more)

variable {driver}

theorem Driver.chunk_result {s : D.State} {input more : List α} (hrefuses : driver.Refuses)
    (hvalid : (D.format s).Valid (D.taken s ++ input ++ more)) :
    (driver.chunk s input).result = 1 := by
  unfold Driver.chunk Driver.feed
  split
  · rfl
  · rename_i hgoes
    obtain ⟨s', input', hlast, -, -, hverdict⟩ := driver.calls_last s input []
    have hcalled := driver.calls_mem s input [] _ (List.mem_of_getLast? hlast)
    by_contra hne
    refine hrefuses s' input' _ ?_ hverdict hne more ?_
    · intro hchecks
      exact hcalled.nonempty hchecks fun hnil => hgoes ⟨hchecks, hnil⟩
    · rw [hcalled.taken, hcalled.format]
      exact hvalid

/-- Along valid data an input is left alone only by a call that says 1. -/
theorem Driver.chunk_clean {s : D.State} {input more : List α} (hrefuses : driver.Refuses)
    (hvalid : (D.format s).Valid (D.taken s ++ input ++ more)) :
    (driver.chunk s input).Clean ↔
      ∀ call ∈ driver.callsFor s input, driver.outcome call.1 call.2 = some 1 →
        driver.left call.1 call.2 = [] := by
  have hresult := driver.chunk_result hrefuses hvalid
  rw [Fed.Clean, and_iff_right hresult]
  unfold Driver.chunk Driver.feed at hresult ⊢
  unfold Driver.callsFor
  split
  · exact iff_of_true rfl (fun call hcall => nomatch hcall)
  · rename_i hgoes
    rw [if_neg hgoes] at hresult
    obtain ⟨s', input', hlast, -, hrest, hverdict⟩ := driver.calls_last s input []
    rw [hresult] at hverdict
    constructor
    · intro hclean call hcall hone
      rcases (driver.calls_mem s input [] call hcall).ends with hnone | ⟨-, hleft⟩
      · rw [hnone] at hone
        cases hone
      · exact hleft.trans hclean
    · exact fun hall => hrest.trans (hall _ (List.mem_of_getLast? hlast) hverdict)

theorem Driver.chunk_next {s : D.State} {input : List α} (h : (driver.chunk s input).Clean) :
    D.taken (driver.chunk s input).state = D.taken s ++ input ∧
      D.format (driver.chunk s input).state = D.format s ∧
      (D.Agrees s input → D.Agrees (driver.chunk s input).state []) := by
  have hchunk : Along s input [] (driver.chunk s input) := driver.feed_spec s input []
  have htaken := hchunk.taken
  have hagrees := hchunk.agrees
  rw [h.2, List.append_nil] at htaken
  rw [h.2] at hagrees
  exact ⟨htaken, hchunk.format, hagrees⟩

/-- Nothing is skipped if and only if no call that says 1 leaves some input. -/
theorem Driver.feedAll_clean_iff (hrefuses : driver.Refuses) {s : D.State}
    {inputs : List (List α)} (hvalid : (D.format s).Valid (D.taken s ++ inputs.flatten)) :
    (feedAll driver.chunk s inputs).Clean ↔
      ∀ call ∈ driver.callsAll s inputs, driver.outcome call.1 call.2 = some 1 →
        driver.left call.1 call.2 = [] := by
  induction inputs generalizing s with
  | nil => exact iff_of_true ⟨rfl, rfl⟩ (fun call hcall => nomatch hcall)
  | cons input inputs ih =>
    rw [List.flatten_cons, ← List.append_assoc] at hvalid
    have hresult := driver.chunk_result hrefuses hvalid
    have hfirst := driver.chunk_clean hrefuses hvalid
    rw [feedAll_clean_cons, driver.callsAll_cons hresult, List.forall_mem_append, ← hfirst]
    refine and_congr_right fun hclean => ih ?_
    obtain ⟨htaken, hformat, -⟩ := Driver.chunk_next hclean
    rw [htaken, hformat]
    exact hvalid

theorem Driver.callsFor_outcome {s : D.State} {input : List α}
    (h : (driver.chunk s input).result = 1) :
    ∀ call ∈ driver.callsFor s input,
      driver.outcome call.1 call.2 = none ∨ driver.outcome call.1 call.2 = some 1 := by
  unfold Driver.chunk Driver.feed at h
  unfold Driver.callsFor
  split
  · exact fun call hcall => nomatch hcall
  · rename_i hgoes
    rw [if_neg hgoes] at h
    intro call hcall
    rcases (driver.calls_mem s input [] call hcall).ends with hnone | ⟨hsome, -⟩
    · exact .inl hnone
    · rw [h] at hsome
      exact .inr hsome

/-- Along clean inputs a call lets its loop go on or says 1. -/
theorem Driver.callsAll_outcome {s : D.State} {inputs : List (List α)}
    (h : (feedAll driver.chunk s inputs).Clean) :
    ∀ call ∈ driver.callsAll s inputs,
      driver.outcome call.1 call.2 = none ∨ driver.outcome call.1 call.2 = some 1 := by
  induction inputs generalizing s with
  | nil => exact fun call hcall => nomatch hcall
  | cons input inputs ih =>
    obtain ⟨hfirst, hlater⟩ := (feedAll_clean_cons s input inputs).mp h
    rw [driver.callsAll_cons hfirst.1, List.forall_mem_append]
    exact ⟨Driver.callsFor_outcome hfirst.1, ih hlater⟩

/-- Along clean inputs every call continues what was returned before. -/
theorem Driver.callsAll_agrees {s : D.State} {inputs : List (List α)}
    (hstreamed : (D.format s).Streamed) (hagrees : D.Agrees s [])
    (h : (feedAll driver.chunk s inputs).Clean) :
    ∀ call ∈ driver.callsAll s inputs, D.Agrees call.1 call.2 := by
  induction inputs generalizing s with
  | nil => exact fun call hcall => nomatch hcall
  | cons input inputs ih =>
    obtain ⟨hfirst, hlater⟩ := (feedAll_clean_cons s input inputs).mp h
    have hinput := hagrees.mono hstreamed input
    rw [driver.callsAll_cons hfirst.1, List.forall_mem_append]
    constructor
    · intro call hcall
      unfold Driver.callsFor at hcall
      split at hcall
      · cases hcall
      · exact (driver.calls_mem s input [] call hcall).agrees hinput
    · obtain ⟨-, hformat, hnext⟩ := Driver.chunk_next hfirst
      rw [← hformat] at hstreamed
      exact ih hstreamed (hnext hinput) hlater

/-- Behind clean inputs the last call says 1 and leaves nothing. -/
theorem Driver.callsAll_last {s : D.State} {inputs : List (List α)}
    (h : (feedAll driver.chunk s inputs).Clean) :
    ∀ last ∈ (driver.callsAll s inputs).getLast?,
      driver.outcome last.1 last.2 = some 1 ∧ driver.left last.1 last.2 = [] := by
  induction inputs generalizing s with
  | nil => exact fun last hlast => nomatch hlast
  | cons input inputs ih =>
    obtain ⟨hfirst, hlater⟩ := (feedAll_clean_cons s input inputs).mp h
    intro last hlast
    rw [driver.callsAll_cons hfirst.1, List.getLast?_append] at hlast
    cases hend : (driver.callsAll (driver.chunk s input).state inputs).getLast? with
    | some later =>
      rw [hend] at hlast
      exact ih hlater last (hend ▸ hlast)
    | none =>
      rw [hend, Option.none_or] at hlast
      obtain ⟨hresult, hclean⟩ := hfirst
      unfold Driver.chunk Driver.feed at hresult hclean
      unfold Driver.callsFor at hlast
      split at hlast
      · cases hlast
      · rename_i hgoes
        rw [if_neg hgoes] at hresult hclean
        obtain ⟨s', input', hgot, -, hrest, hverdict⟩ := driver.calls_last s input []
        rw [hgot] at hlast
        rw [← Option.some.inj hlast, hverdict, hresult, ← hrest]
        exact ⟨rfl, hclean⟩

/-- A chunk that the first call ends. -/
theorem Driver.callsAll_one {s : D.State} {input : List α} (hne : input ≠ [])
    (h : driver.outcome s input = some 1) (inputs : List (List α)) :
    driver.callsAll s (input :: inputs) =
      (s, input) :: driver.callsAll (driver.call s input).state inputs := by
  have hgoes : ¬(driver.checksFirst = true ∧ input = []) := fun hempty => hne hempty.2
  have hchunk : driver.chunk s input = _ := (if_neg hgoes).trans (driver.rounds_some h [])
  have hcalls : driver.callsFor s input = [(s, input)] := by
    rw [Driver.callsFor, if_neg hgoes, Driver.calls_eq, h]
  rw [driver.callsAll_cons (by rw [hchunk]), hcalls, hchunk]
  rfl

/-- Nothing follows the end of the encoded data. -/
def Format.NothingFollows (format : Format α β) (body : List α) : Prop :=
  ∀ encoded, encoded <+: body → format.Finished encoded → encoded = body

/-- A loop leaves input only at the end of the data, and the decoder takes
nothing behind it. -/
structure Driver.StopsAtEnd (driver : Driver D) : Prop where
  ends : ∀ s input, driver.outcome s input = some 1 → driver.left s input ≠ [] →
    (D.format s).Finished (D.taken (driver.call s input).state)
  stays : ∀ s encoded, (D.format s).Finished encoded → encoded <+: D.taken s →
    D.taken s = encoded

/-- Such a loop skips nothing if and only if nothing follows the end. -/
theorem Driver.feedAll_clean_iff_end (hrefuses : driver.Refuses) (hstops : driver.StopsAtEnd)
    {s : D.State} {inputs : List (List α)}
    (hvalid : (D.format s).Valid (D.taken s ++ inputs.flatten)) :
    (feedAll driver.chunk s inputs).Clean ↔
      (D.format s).NothingFollows (D.taken s ++ inputs.flatten) := by
  constructor
  · intro hclean encoded hencoded hfinished
    obtain ⟨htaken, -, hformat⟩ := driver.feedAll_spec hclean
    rw [← htaken] at hencoded ⊢
    rw [← hformat] at hfinished
    exact (hstops.stays _ encoded hfinished hencoded).symm
  · intro hnothing
    induction inputs generalizing s with
    | nil => exact ⟨rfl, rfl⟩
    | cons input inputs ih =>
      rw [List.flatten_cons, ← List.append_assoc] at hvalid hnothing
      have hfirst : (driver.chunk s input).Clean := by
        refine (driver.chunk_clean hrefuses hvalid).mpr fun call hcall hone => ?_
        by_contra hleft
        have hfinished := hstops.ends call.1 call.2 hone hleft
        have hmem : call ∈ driver.calls s input := by
          unfold Driver.callsFor at hcall
          split at hcall
          · cases hcall
          · exact hcall
        have hcalled := driver.calls_mem s input [] call hmem
        have htaken : D.taken (driver.call call.1 call.2).state ++ driver.left call.1 call.2 = _ :=
          D.taken_append_left call.1 driver.room call.2
        have hsplit : D.taken (driver.call call.1 call.2).state ++
            (driver.left call.1 call.2 ++ inputs.flatten) =
              D.taken s ++ input ++ inputs.flatten := by
          rw [← List.append_assoc, htaken, hcalled.taken]
        rw [hcalled.format] at hfinished
        have hwhole := hnothing _ ⟨_, hsplit⟩ hfinished
        rw [← hwhole] at hsplit
        exact hleft (List.append_eq_nil_iff.mp (List.append_right_eq_self.mp hsplit)).1
      obtain ⟨htaken, hformat, -⟩ := Driver.chunk_next hfirst
      refine (feedAll_clean_cons s input inputs).mpr ⟨hfirst, ih ?_ ?_⟩
      · rw [htaken, hformat]
        exact hvalid
      · rw [htaken, hformat]
        exact hnothing

/-- What every call that does not end a loop with -1 keeps holds behind clean
inputs. -/
theorem Driver.feedAll_invariant {P : D.State → Prop}
    (hcall : ∀ s input, P s → driver.outcome s input ≠ some (-1) → P (driver.call s input).state)
    {s : D.State} {inputs : List (List α)} (hstart : P s)
    (h : (feedAll driver.chunk s inputs).Clean) : P (feedAll driver.chunk s inputs).state := by
  induction inputs generalizing s with
  | nil => exact hstart
  | cons input inputs ih =>
    obtain ⟨hfirst, hlater⟩ := (feedAll_clean_cons s input inputs).mp h
    rw [feedAll_cons hfirst.1]
    refine ih ?_ hlater
    have hresult := hfirst.1
    unfold Driver.chunk Driver.feed at hresult ⊢
    split
    · exact hstart
    · rename_i hgoes
      rw [if_neg hgoes] at hresult
      exact driver.rounds_invariant hcall s input [] hstart (by rw [hresult]; decide)

/-- What does not fit the buffer of the last call. -/
def Driver.lost (driver : Driver D) (s : D.State) (inputs : List (List α)) : Nat :=
  match (driver.callsAll s inputs).getLast? with
  | none => 0
  | some last => (D.due last.1 last.2).length - driver.room

section Whole

variable {format : Format α β} {s : D.State} {inputs : List (List α)}

/-- What is handed on is the beginning of the output, and what is missing did
not fit the buffer of the last call. -/
theorem Driver.feedAll_length (hinitial : Initial format s) (hstreamed : format.Streamed)
    (h : (feedAll driver.chunk s inputs).Clean) :
    (feedAll driver.chunk s inputs).ctx.flatten <+: format.decode inputs.flatten ∧
      (feedAll driver.chunk s inputs).ctx.flatten.length + driver.lost s inputs =
        (format.decode inputs.flatten).length := by
  obtain ⟨htaken, hgiven, hformat⟩ := driver.feedAll_spec h
  rw [hinitial.taken, List.nil_append] at htaken
  rw [hinitial.given, List.nil_append] at hgiven
  rw [hinitial.format] at hformat
  rw [driver.feedAll_state] at htaken hgiven hformat
  rw [← hgiven, ← htaken]
  rw [Driver.endOf, Driver.lost]
  have hformats := hstreamed
  rw [← hinitial.format] at hformats
  have hagrees := driver.callsAll_agrees hformats (hinitial.agrees []) h
  cases hlast : (driver.callsAll s inputs).getLast? with
  | none =>
    rw [hinitial.given, hinitial.taken, hstreamed.nil]
    exact ⟨List.prefix_refl _, rfl⟩
  | some last =>
    have hlastAgrees := hagrees last (List.mem_of_getLast? hlast)
    obtain ⟨hone, hleft⟩ := driver.callsAll_last h last hlast
    have haccepted : D.failed (D.call last.1 driver.room last.2).status = false :=
      driver.accepts _ _ _ hone
    have houtput := Decoder.output_eq hlastAgrees haccepted hleft
    rw [Driver.endOf, hlast] at hformat
    have hdecode : format.decode (D.taken (driver.call last.1 last.2).state) =
        D.given last.1 ++ D.due last.1 last.2 := by
      rw [Decoder.given_append_due hlastAgrees, ← hformat]
      show _ = (D.format last.1).decode _
      rw [← D.taken_of_left_nil hleft, ← D.format_call last.1 driver.room last.2]
      rfl
    have hreturned : D.given (driver.call last.1 last.2).state =
        D.given last.1 ++ (D.due last.1 last.2).take driver.room := by
      rw [← houtput]
      exact D.given_call last.1 driver.room last.2
    dsimp only
    rw [hdecode, hreturned]
    constructor
    · exact (List.prefix_append_right_inj _).mpr (List.take_prefix _ _)
    · rw [List.length_append, List.length_append, List.length_take]
      omega

/-- The output is whole if and only if the last call had room for it. -/
theorem Driver.feedAll_whole (hinitial : Initial format s) (hstreamed : format.Streamed)
    (h : (feedAll driver.chunk s inputs).Clean) :
    (feedAll driver.chunk s inputs).ctx.flatten = format.decode inputs.flatten ↔
      ∀ last ∈ (driver.callsAll s inputs).getLast?,
        (D.due last.1 last.2).length ≤ driver.room := by
  obtain ⟨hbegins, hlength⟩ := Driver.feedAll_length hinitial hstreamed h
  have hwhole : (feedAll driver.chunk s inputs).ctx.flatten = format.decode inputs.flatten ↔
      driver.lost s inputs = 0 := by
    constructor
    · intro heq
      rw [heq] at hlength
      omega
    · intro hzero
      exact hbegins.eq_of_length (by omega)
  rw [hwhole, Driver.lost]
  cases (driver.callsAll s inputs).getLast? with
  | none => simp
  | some last =>
    have hiff : (D.due last.1 last.2).length - driver.room = 0 ↔
        (D.due last.1 last.2).length ≤ driver.room := by omega
    simpa using hiff

/-- Two ways to cut one input hand on the same if and only if they miss as
much. -/
theorem Driver.feedAll_same (hinitial : Initial format s) (hstreamed : format.Streamed)
    {others : List (List α)} (hflatten : others.flatten = inputs.flatten)
    (h : (feedAll driver.chunk s inputs).Clean) (h' : (feedAll driver.chunk s others).Clean) :
    (feedAll driver.chunk s inputs).ctx.flatten = (feedAll driver.chunk s others).ctx.flatten ↔
      driver.lost s inputs = driver.lost s others := by
  obtain ⟨hbegins, hlength⟩ := Driver.feedAll_length hinitial hstreamed h
  obtain ⟨hbegins', hlength'⟩ := Driver.feedAll_length hinitial hstreamed h'
  rw [hflatten] at hbegins' hlength'
  constructor
  · intro heq
    rw [heq] at hlength
    omega
  · intro heq
    have hlengths : (feedAll driver.chunk s inputs).ctx.flatten.length =
        (feedAll driver.chunk s others).ctx.flatten.length := by omega
    rw [List.prefix_iff_eq_take.mp hbegins, List.prefix_iff_eq_take.mp hbegins', hlengths]

end Whole

end Chunks

end Streaming
