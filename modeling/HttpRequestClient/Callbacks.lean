import HttpRequestClient.Session

/-!
# The callbacks of a contract

`InOrder` is the promise of `ResponseStream.h`: the headers once and before
the body, the body in chunks, the completion once and last.  `callPhase`
reads a sequence of calls from the left and says how far it is;
`inOrder_iff` connects the two.

Each function of the funnel adds calls of one kind to a sink: `Appended`,
`HeadersStep` and `CompletionStep` say which.  Two facts about sinks follow
from that.  `Tracked`: the flags tell the phase of the calls, which a
function keeps where its kind of call may come next.  `Counted`: the flag of
the completion tells how often it was called.
-/

namespace HttpRequestClient

/-! ## The order of the calls -/

def Callback.isData : Callback → Bool
  | .onData _ => true
  | .onHeaders _ => false
  | .onComplete _ => false

/-- The promise to the consumer. -/
def InOrder (calls : List Callback) : Prop :=
  ∃ headers data complete : List Callback,
    calls = headers ++ data ++ complete ∧
    (headers = [] ∨ ∃ fields, headers = [.onHeaders fields]) ∧
    (∀ call ∈ data, call.isData = true) ∧
    (data ≠ [] → headers ≠ []) ∧
    (complete = [] ∨ ∃ error, complete = [.onComplete error])

/-- How far a sequence of calls is. -/
inductive CallPhase where
  | start
  | body
  | over
  deriving Repr, DecidableEq

/-- The phase after a call, if the call may come now. -/
def CallPhase.next : CallPhase → Callback → Option CallPhase
  | .start, .onHeaders _ => some .body
  | .start, .onData _ => none
  | .start, .onComplete _ => some .over
  | .body, .onHeaders _ => none
  | .body, .onData _ => some .body
  | .body, .onComplete _ => some .over
  | .over, _ => none

def CallPhase.run (phase : CallPhase) (calls : List Callback) : Option CallPhase :=
  calls.foldlM CallPhase.next phase

def callPhase (calls : List Callback) : Option CallPhase := CallPhase.start.run calls

theorem CallPhase.run_cons (phase : CallPhase) (call : Callback) (calls : List Callback) :
    phase.run (call :: calls) = (phase.next call).bind (·.run calls) := rfl

theorem CallPhase.run_append (phase : CallPhase) (calls later : List Callback) :
    phase.run (calls ++ later) = (phase.run calls).bind (·.run later) :=
  List.foldlM_append

/-- Chunks of the body keep the phase. -/
theorem CallPhase.run_data {data : List Callback} (h : ∀ call ∈ data, call.isData = true) :
    CallPhase.body.run data = some .body := by
  induction data with
  | nil => rfl
  | cons call data ih =>
    rw [List.forall_mem_cons] at h
    cases call with
    | onData chunk => exact ih h.2
    | onHeaders fields => cases h.1
    | onComplete error => cases h.1

theorem CallPhase.run_over {calls : List Callback} (h : (CallPhase.over.run calls).isSome = true) :
    calls = [] := by
  cases calls with
  | nil => rfl
  | cons call calls => cases h

/-- Behind the headers there are chunks and then the completion. -/
theorem CallPhase.run_body {calls : List Callback}
    (h : (CallPhase.body.run calls).isSome = true) :
    ∃ data complete : List Callback, calls = data ++ complete ∧
      (∀ call ∈ data, call.isData = true) ∧
      (complete = [] ∨ ∃ error, complete = [.onComplete error]) := by
  induction calls with
  | nil => exact ⟨[], [], rfl, fun call hcall => absurd hcall List.not_mem_nil, .inl rfl⟩
  | cons call calls ih =>
    cases call with
    | onHeaders fields => cases h
    | onData chunk =>
      obtain ⟨data, complete, hcalls, hdata, hcomplete⟩ := ih h
      refine ⟨.onData chunk :: data, complete, by rw [hcalls, List.cons_append], ?_, hcomplete⟩
      exact List.forall_mem_cons.mpr ⟨rfl, hdata⟩
    | onComplete error =>
      have hnil : calls = [] := CallPhase.run_over h
      refine ⟨[], [.onComplete error], by rw [hnil, List.nil_append], ?_, .inr ⟨error, rfl⟩⟩
      exact fun call hcall => absurd hcall List.not_mem_nil

/-- The calls are in order when each of them may come. -/
theorem inOrder_iff (calls : List Callback) : InOrder calls ↔ (callPhase calls).isSome = true := by
  constructor
  · rintro ⟨headers, data, complete, rfl, hheaders, hdata, hfirst, hcomplete⟩
    rw [callPhase, CallPhase.run_append, CallPhase.run_append]
    rcases hheaders with rfl | ⟨fields, rfl⟩
    · have hnil : data = [] := by
        by_contra hne
        exact hfirst hne rfl
      subst hnil
      rcases hcomplete with rfl | ⟨error, rfl⟩
      · rfl
      · rfl
    · have hbody : CallPhase.start.run [.onHeaders fields] = some .body := rfl
      rw [hbody, Option.bind_some, CallPhase.run_data hdata, Option.bind_some]
      rcases hcomplete with rfl | ⟨error, rfl⟩
      · rfl
      · rfl
  · intro h
    have hno : ∀ call ∈ ([] : List Callback), call.isData = true :=
      fun call hcall => absurd hcall List.not_mem_nil
    cases calls with
    | nil => exact ⟨[], [], [], rfl, .inl rfl, hno, fun hne => absurd rfl hne, .inl rfl⟩
    | cons call calls =>
      cases call with
      | onHeaders fields =>
        obtain ⟨data, complete, rfl, hdata, hcomplete⟩ := CallPhase.run_body h
        exact ⟨[.onHeaders fields], data, complete, rfl, .inr ⟨fields, rfl⟩, hdata,
          fun _ => List.cons_ne_nil _ _, hcomplete⟩
      | onData chunk => cases h
      | onComplete error =>
        have hnil : calls = [] := CallPhase.run_over h
        subst hnil
        exact ⟨[], [], [.onComplete error], rfl, .inl rfl, hno, fun hne => absurd rfl hne,
          .inr ⟨error, rfl⟩⟩

instance (calls : List Callback) : Decidable (InOrder calls) :=
  decidable_of_iff _ (inOrder_iff calls).symm

/-! ## What the functions of the funnel call -/

/-- Chunks were given to the consumer. -/
structure Fed (before after : ResponseSink) : Prop where
  contract : after.contract = before.contract
  headersDelivered : after.headersDelivered = before.headersDelivered
  completed : after.completed = before.completed
  calls : ∃ data : List Bytes, after.calls = before.calls ++ data.map .onData

theorem Fed.of_calls {before after : ResponseSink} (hcontract : after.contract = before.contract)
    (hheaders : after.headersDelivered = before.headersDelivered)
    (hcompleted : after.completed = before.completed) (hcalls : after.calls = before.calls) :
    Fed before after :=
  ⟨hcontract, hheaders, hcompleted, [], by rw [hcalls, List.map_nil, List.append_nil]⟩

theorem Fed.refl (sink : ResponseSink) : Fed sink sink := .of_calls rfl rfl rfl rfl

theorem Fed.trans {first second third : ResponseSink} (h : Fed first second)
    (h' : Fed second third) : Fed first third := by
  obtain ⟨data, hcalls⟩ := h.calls
  obtain ⟨later, hlater⟩ := h'.calls
  refine ⟨h'.contract.trans h.contract, h'.headersDelivered.trans h.headersDelivered,
    h'.completed.trans h.completed, data ++ later, ?_⟩
  rw [hlater, hcalls, List.map_append, List.append_assoc]

/-- The sink of a stream before and after. -/
def SinkRel (R : ResponseSink → ResponseSink → Prop) (before after : Stream) : Prop :=
  Option.Rel R before.sink after.sink

section SinkRel

variable {R : ResponseSink → ResponseSink → Prop} {before after : Stream}

theorem SinkRel.of_some {sink sink' : ResponseSink} (hbefore : before.sink = some sink)
    (hafter : after.sink = some sink') (h : R sink sink') : SinkRel R before after := by
  rw [SinkRel, hbefore, hafter]
  exact .some h

theorem SinkRel.of_none (hbefore : before.sink = none) (hafter : after.sink = none) :
    SinkRel R before after := by
  rw [SinkRel, hbefore, hafter]
  exact .none

theorem SinkRel.refl (hrefl : ∀ sink, R sink sink) (stream : Stream) : SinkRel R stream stream := by
  cases hsink : stream.sink with
  | none => exact .of_none hsink hsink
  | some sink => exact .of_some hsink hsink (hrefl sink)

theorem SinkRel.trans (htrans : ∀ {first second third}, R first second → R second third →
    R first third) {first second third : Stream} (h : SinkRel R first second)
    (h' : SinkRel R second third) : SinkRel R first third := by
  rw [SinkRel] at h h' ⊢
  generalize first.sink = sink at h ⊢
  generalize second.sink = sink' at h h'
  generalize third.sink = sink'' at h' ⊢
  cases h with
  | none => exact h'
  | some hrel =>
    cases h' with
    | some hrel' => exact .some (htrans hrel hrel')

/-- The sink there is afterwards comes from one. -/
theorem SinkRel.of_after (h : SinkRel R before after) {sink' : ResponseSink}
    (hsink : after.sink = some sink') : ∃ sink, before.sink = some sink ∧ R sink sink' := by
  rw [SinkRel, hsink] at h
  generalize hbefore : before.sink = found at h
  cases h with
  | some hrel => exact ⟨_, rfl, hrel⟩

/-- The sink there was comes to one. -/
theorem SinkRel.of_before (h : SinkRel R before after) {sink : ResponseSink}
    (hsink : before.sink = some sink) : ∃ sink', after.sink = some sink' ∧ R sink sink' := by
  rw [SinkRel, hsink] at h
  generalize hafter : after.sink = found at h
  cases h with
  | some hrel => exact ⟨_, rfl, hrel⟩

end SinkRel

theorem consumeResponseBody_fed (delivery : BodyDelivery) (data : Bytes) :
    SinkRel Fed delivery.stream (consumeResponseBody delivery data).2.stream := by
  unfold consumeResponseBody
  cases hsink : delivery.stream.sink with
  | none => exact .of_none hsink hsink
  | some sink =>
    cases hcontract : sink.contract with
    | none =>
      simp only [hcontract]
      exact .of_some hsink hsink (.refl sink)
    | some contract =>
      simp only [hcontract]
      split
      · exact .of_some hsink rfl ⟨hcontract.symm, rfl, rfl, [data], rfl⟩
      · exact .of_some hsink rfl ⟨hcontract.symm, rfl, rfl, [data], rfl⟩

/-- What a piece does to a sink, all pieces of a chunk do. -/
theorem consumePieces_rel {R : ResponseSink → ResponseSink → Prop} (hrefl : ∀ sink, R sink sink)
    (htrans : ∀ {first second third}, R first second → R second third → R first third)
    (hpiece : ∀ delivery data,
      SinkRel R delivery.stream (consumeResponseBody delivery data).2.stream)
    (pieces : List Bytes) :
    ∀ delivery : BodyDelivery, SinkRel R delivery.stream (consumePieces delivery pieces).2.stream := by
  induction pieces with
  | nil => exact fun delivery => .refl hrefl _
  | cons piece pieces ih =>
    intro delivery
    rw [consumePieces]
    simp only
    split
    · exact hpiece delivery piece
    · exact SinkRel.trans (R := R) htrans (hpiece delivery piece) (ih _)

theorem feedStreamDecompressor_rel {R : ResponseSink → ResponseSink → Prop}
    (hrefl : ∀ sink, R sink sink)
    (htrans : ∀ {first second third}, R first second → R second third → R first third)
    (hpiece : ∀ delivery data,
      SinkRel R delivery.stream (consumeResponseBody delivery data).2.stream)
    (lib : DecoderLib) (decompressor : Option StreamDecompressor) (data : Bytes)
    (delivery : BodyDelivery) :
    SinkRel R delivery.stream
      (feedStreamDecompressor lib decompressor data delivery).2.2.stream := by
  unfold feedStreamDecompressor
  split
  · exact hpiece delivery data
  · exact consumePieces_rel hrefl htrans hpiece _ delivery

/-- What the pieces of a chunk do to a sink, and the end of the chunk, a chunk
does. -/
theorem appendStreamPayload_rel {R : ResponseSink → ResponseSink → Prop}
    (hrefl : ∀ sink, R sink sink)
    (htrans : ∀ {first second third}, R first second → R second third → R first third)
    (hpiece : ∀ delivery data,
      SinkRel R delivery.stream (consumeResponseBody delivery data).2.stream)
    (hfed : ∀ (sink : ResponseSink) decompressor delivered,
      R sink { sink with decompressor := decompressor, delivered := delivered })
    (hfailed : ∀ (sink : ResponseSink) error, R sink { sink with error := error, cancelled := true })
    (lib : DecoderLib) (stream : Stream) (data : Bytes) :
    SinkRel R stream (appendStreamPayload lib stream data).2 := by
  unfold appendStreamPayload
  cases hsink : stream.sink with
  | none =>
    split
    · exact .of_none hsink hsink
    · exact .of_none hsink hsink
  | some sink =>
    split
    · exact .of_some hsink hsink (hrefl sink)
    · simp only
      unfold deliverStreamPayload
      split
      · exact .of_some hsink hsink (hrefl sink)
      · have hfeed := feedStreamDecompressor_rel hrefl htrans hpiece lib sink.decompressor data
          { stream := stream, delivered := 0 }
        simp only
        generalize feedStreamDecompressor lib sink.decompressor data
          { stream := stream, delivered := 0 } = answer at hfeed ⊢
        obtain ⟨consumed, decompressor, fed, delivered⟩ := answer
        obtain ⟨sink', hsink', hrel⟩ := hfeed.of_before hsink
        simp only at hsink'
        have hend := htrans hrel (hfed sink' decompressor (sink'.delivered + delivered))
        simp only [hsink', Option.getD_some]
        split
        · exact .of_some hsink rfl (htrans hend (hfailed _ _))
        · exact .of_some hsink rfl hend

/-- An empty chunk, and one that the consumer no longer wants, changes
nothing. -/
theorem appendStreamPayload_unwanted (lib : DecoderLib) {stream : Stream} {sink : ResponseSink}
    (hsink : stream.sink = some sink) {data : Bytes} (h : data = [] ∨ sink.aborted = true) :
    (appendStreamPayload lib stream data).2 = stream := by
  unfold appendStreamPayload
  split
  · rfl
  · rename_i hlength
    have haborted : sink.aborted = true := by
      cases h with
      | inl hnil => exact absurd (by rw [hnil]; rfl) hlength
      | inr haborted => exact haborted
    rw [hsink]
    simp only [deliverStreamPayload, haborted, if_true]

/-- A chunk was appended: an empty one, and one that the consumer no longer
wants, changes nothing. -/
structure Appended (data : Bytes) (before after : ResponseSink) : Prop where
  fed : Fed before after
  refused : data = [] ∨ before.aborted = true → after = before

theorem appendStreamPayload_sink (lib : DecoderLib) (stream : Stream) (data : Bytes) :
    SinkRel (Appended data) stream (appendStreamPayload lib stream data).2 := by
  have hfed := appendStreamPayload_rel .refl .trans consumeResponseBody_fed
    (fun _ _ _ => .of_calls rfl rfl rfl rfl) (fun _ _ => .of_calls rfl rfl rfl rfl) lib stream data
  cases hsink : stream.sink with
  | none =>
    rw [SinkRel, hsink] at hfed ⊢
    generalize (appendStreamPayload lib stream data).2.sink = after at hfed ⊢
    cases hfed with
    | none => exact .none
  | some sink =>
    obtain ⟨sink', hsink', hrel⟩ := hfed.of_before hsink
    refine .of_some hsink hsink' ⟨hrel, fun h => ?_⟩
    rw [appendStreamPayload_unwanted lib hsink h, hsink] at hsink'
    exact (Option.some.inj hsink').symm

/-- The headers were given to the consumer. -/
structure Delivered (before after : ResponseSink) : Prop where
  contract : after.contract = before.contract
  headersDelivered : after.headersDelivered = true
  completed : after.completed = before.completed
  calls : before.contract ≠ none → ∃ fields, after.calls = before.calls ++ [.onHeaders fields]

/-- Headers are delivered once. -/
def HeadersStep (before after : ResponseSink) : Prop :=
  before.headersDelivered = true ∧ after = before ∨
    before.headersDelivered = false ∧ Delivered before after

theorem prepareStreamDecoder_sink (lib : DecoderLib) (stream : Stream) (sink : ResponseSink) :
    ∃ encoding decompressor error cancelled, (prepareStreamDecoder lib stream sink).2 =
      { sink with
        encoding := encoding
        decompressor := decompressor
        error := error
        cancelled := cancelled } := by
  unfold prepareStreamDecoder
  simp only
  split
  · exact ⟨_, _, _, _, rfl⟩
  · split
    · exact ⟨_, _, _, _, rfl⟩
    · exact ⟨_, _, _, _, rfl⟩

theorem deliverResponseHeaders_sink (lib : DecoderLib) (stream : Stream) :
    SinkRel HeadersStep stream (deliverResponseHeaders lib stream) := by
  unfold deliverResponseHeaders
  cases hsink : stream.sink with
  | none => exact .of_none hsink hsink
  | some sink =>
    simp only
    split
    · rename_i hdelivered
      exact .of_some hsink hsink (.inl ⟨hdelivered, rfl⟩)
    · rename_i hdelivered
      have hdelivered' : sink.headersDelivered = false := Bool.eq_false_iff.mpr hdelivered
      obtain ⟨encoding, decompressor, error, cancelled, hprepare⟩ :=
        prepareStreamDecoder_sink lib stream { sink with headersDelivered := true }
      simp only [hprepare]
      cases hcontract : sink.contract with
      | none =>
        exact .of_some hsink rfl
          (.inr ⟨hdelivered', hcontract.symm, rfl, rfl, fun hne => absurd hcontract hne⟩)
      | some contract =>
        exact .of_some hsink rfl
          (.inr ⟨hdelivered', hcontract.symm, rfl, rfl, fun _ => ⟨_, rfl⟩⟩)

/-- The completion was given to the consumer. -/
structure Completed (before after : ResponseSink) : Prop where
  contract : after.contract = before.contract
  completed : after.completed = true
  calls : before.contract ≠ none → ∃ error, after.calls = before.calls ++ [.onComplete error]

/-- `completeResponseSink` is idempotent. -/
def CompletionStep (before after : ResponseSink) : Prop :=
  before.completed = true ∧ after = before ∨
    before.completed = false ∧ Completed before after

theorem finishCompletion_sink (stream : Stream) :
    SinkRel Completed stream (finishCompletion stream) := by
  unfold finishCompletion
  cases hsink : stream.sink with
  | none => exact .of_none hsink hsink
  | some sink =>
    cases hcontract : sink.contract with
    | none =>
      simp only [hcontract]
      exact .of_some hsink rfl ⟨hcontract.symm, rfl, fun hne => absurd hcontract hne⟩
    | some contract =>
      simp only [hcontract]
      exact .of_some hsink rfl ⟨hcontract.symm, rfl, fun _ => ⟨_, rfl⟩⟩

theorem completeResponseSink_sink (stream : Stream) :
    SinkRel CompletionStep stream (completeResponseSink stream) := by
  rw [completeResponseSink_eq]
  have hfinish := finishCompletion_sink stream
  cases hsink : stream.sink with
  | none =>
    have hcompleted : stream.completed = true := by rw [Stream.completed, hsink]
    rw [if_pos hcompleted]
    exact .of_none hsink hsink
  | some sink =>
    have hcompleted : stream.completed = sink.completed := by rw [Stream.completed, hsink]
    rw [hcompleted]
    cases hflag : sink.completed with
    | true => exact .of_some hsink hsink (.inl ⟨hflag, rfl⟩)
    | false =>
      obtain ⟨sink', hsink', hrel⟩ := hfinish.of_before hsink
      exact .of_some hsink hsink' (.inr ⟨hflag, hrel⟩)

/-- Nothing was called. -/
structure Silent (before after : ResponseSink) : Prop where
  contract : after.contract = before.contract
  headersDelivered : after.headersDelivered = before.headersDelivered
  completed : after.completed = before.completed
  calls : after.calls = before.calls

theorem Silent.fed {before after : ResponseSink} (h : Silent before after) : Fed before after :=
  .of_calls h.contract h.headersDelivered h.completed h.calls

theorem takeResponseCancellation_sink (stream : Stream) :
    SinkRel Silent stream (takeResponseCancellation stream).2 := by
  unfold takeResponseCancellation
  cases hsink : stream.sink with
  | none => exact .of_none hsink hsink
  | some sink =>
    simp only
    split
    · exact .of_some hsink hsink ⟨rfl, rfl, rfl, rfl⟩
    · exact .of_some hsink rfl ⟨rfl, rfl, rfl, rfl⟩

/-! ## The request to stop -/

def Stream.cancelled (stream : Stream) : Bool := stream.sink.any ResponseSink.cancelled

def Stream.cancellationTaken (stream : Stream) : Bool :=
  stream.sink.any ResponseSink.cancellationTaken

/-- The id of a stream whose sink was cancelled. -/
def Stream.cancelledId? (stream : Stream) : Option Nat :=
  if stream.cancelled then some stream.streamId else none

/-- A sink that asks to stop keeps asking, and nobody takes the request. -/
structure Stops (before after : ResponseSink) : Prop where
  cancelled : before.cancelled = true → after.cancelled = true
  taken : after.cancellationTaken = before.cancellationTaken

theorem Stops.of_same {before after : ResponseSink} (hcancelled : after.cancelled = before.cancelled)
    (htaken : after.cancellationTaken = before.cancellationTaken) : Stops before after :=
  ⟨fun h => hcancelled.trans h, htaken⟩

theorem Stops.refl (sink : ResponseSink) : Stops sink sink := .of_same rfl rfl

theorem Stops.trans {first second third : ResponseSink} (h : Stops first second)
    (h' : Stops second third) : Stops first third :=
  ⟨fun hfirst => h'.cancelled (h.cancelled hfirst), h'.taken.trans h.taken⟩

theorem consumeResponseBody_stops (delivery : BodyDelivery) (data : Bytes) :
    SinkRel Stops delivery.stream (consumeResponseBody delivery data).2.stream := by
  unfold consumeResponseBody
  cases hsink : delivery.stream.sink with
  | none => exact .of_none hsink hsink
  | some sink =>
    cases hcontract : sink.contract with
    | none =>
      simp only [hcontract]
      exact .of_some hsink hsink (.refl sink)
    | some contract =>
      simp only [hcontract]
      split
      · exact .of_some hsink rfl (.of_same rfl rfl)
      · exact .of_some hsink rfl ⟨fun _ => rfl, rfl⟩

theorem appendStreamPayload_stops (lib : DecoderLib) (stream : Stream) (data : Bytes) :
    SinkRel Stops stream (appendStreamPayload lib stream data).2 :=
  appendStreamPayload_rel .refl .trans consumeResponseBody_stops (fun _ _ _ => .of_same rfl rfl)
    (fun _ _ => ⟨fun _ => rfl, rfl⟩) lib stream data

theorem prepareStreamDecoder_stops (lib : DecoderLib) (stream : Stream) (sink : ResponseSink) :
    Stops sink (prepareStreamDecoder lib stream sink).2 := by
  unfold prepareStreamDecoder
  simp only
  split
  · exact .of_same rfl rfl
  · split
    · exact ⟨fun _ => rfl, rfl⟩
    · exact .of_same rfl rfl

theorem deliverResponseHeaders_stops (lib : DecoderLib) (stream : Stream) :
    SinkRel Stops stream (deliverResponseHeaders lib stream) := by
  unfold deliverResponseHeaders
  cases hsink : stream.sink with
  | none => exact .of_none hsink hsink
  | some sink =>
    simp only
    split
    · exact .of_some hsink hsink (.refl sink)
    · have hprepare := prepareStreamDecoder_stops lib stream { sink with headersDelivered := true }
      split
      · exact .of_some hsink rfl ⟨hprepare.cancelled, hprepare.taken⟩
      · exact .of_some hsink rfl ⟨hprepare.cancelled, hprepare.taken⟩

/-! ## Sinks that track their calls -/

/-- The phase that the flags of a sink tell. -/
def ResponseSink.phase (sink : ResponseSink) : CallPhase :=
  if sink.completed then .over else if sink.headersDelivered then .body else .start

/-- The flags of a sink tell the phase of its calls. -/
def ResponseSink.Tracked (sink : ResponseSink) : Prop :=
  sink.contract ≠ none → callPhase sink.calls = some sink.phase

theorem ResponseSink.Tracked.inOrder {sink : ResponseSink} (h : sink.Tracked)
    (hcontract : sink.contract ≠ none) : InOrder sink.calls := by
  rw [inOrder_iff, h hcontract]
  rfl

theorem buildResponseSink_tracked (decompress : Nat) (contract : Option ResponseStream) :
    (buildResponseSink decompress contract).Tracked := fun _ => rfl

section Tracked

variable {before after : ResponseSink}

theorem Silent.tracked (h : Silent before after) (htracked : before.Tracked) : after.Tracked := by
  intro hcontract
  rw [h.contract] at hcontract
  rw [h.calls, htracked hcontract, ResponseSink.phase, ResponseSink.phase, h.completed,
    h.headersDelivered]

/-- Chunks may come in the body only. -/
theorem Fed.tracked (h : Fed before after) (htracked : before.Tracked)
    (hbody : before.contract ≠ none → before.phase = .body) : after.Tracked := by
  intro hcontract
  rw [h.contract] at hcontract
  obtain ⟨data, hcalls⟩ := h.calls
  have hdata : ∀ call ∈ data.map Callback.onData, call.isData = true := by
    intro call hcall
    obtain ⟨chunk, -, rfl⟩ := List.mem_map.mp hcall
    rfl
  have hphase : CallPhase.start.run before.calls = some .body := by
    rw [← hbody hcontract]
    exact htracked hcontract
  have hafter : after.phase = .body := by
    rw [← hbody hcontract, ResponseSink.phase, ResponseSink.phase, h.completed, h.headersDelivered]
  rw [callPhase, hcalls, CallPhase.run_append, hphase, hafter]
  exact CallPhase.run_data hdata

theorem Appended.tracked {data : Bytes} (h : Appended data before after)
    (htracked : before.Tracked)
    (hbody : before.contract ≠ none → data ≠ [] → before.aborted = false →
      before.phase = .body) : after.Tracked := by
  by_cases hrefused : data = [] ∨ before.aborted = true
  · rw [h.refused hrefused]
    exact htracked
  · rw [not_or, Bool.not_eq_true] at hrefused
    exact h.fed.tracked htracked fun hcontract => hbody hcontract hrefused.1 hrefused.2

/-- One more call, if the sink has a contract. -/
theorem ResponseSink.Tracked.call {call : Callback} (htracked : before.Tracked)
    (hcontract : after.contract = before.contract)
    (hcalls : before.contract ≠ none → after.calls = before.calls ++ [call])
    (hnext : before.contract ≠ none → before.phase.next call = some after.phase) :
    after.Tracked := by
  intro hsome
  rw [hcontract] at hsome
  have hphase : CallPhase.start.run before.calls = some before.phase := htracked hsome
  rw [callPhase, hcalls hsome, CallPhase.run_append, hphase, Option.bind_some, CallPhase.run_cons,
    hnext hsome]
  rfl

theorem HeadersStep.tracked (h : HeadersStep before after) (htracked : before.Tracked)
    (hopen : before.contract ≠ none → before.headersDelivered = false →
      before.completed = false) : after.Tracked := by
  rcases h with ⟨-, rfl⟩ | ⟨hdelivered, hrel⟩
  · exact htracked
  · intro hcontract
    have hsome : before.contract ≠ none := hrel.contract ▸ hcontract
    have hcompleted := hopen hsome hdelivered
    obtain ⟨fields, hcalls⟩ := hrel.calls hsome
    refine htracked.call hrel.contract (fun _ => hcalls) (fun _ => ?_) hcontract
    simp only [ResponseSink.phase, hrel.completed, hrel.headersDelivered, hcompleted, hdelivered,
      Bool.false_eq_true, if_false, if_true]
    rfl

theorem Completed.tracked (h : Completed before after) (htracked : before.Tracked)
    (hopen : before.contract ≠ none → before.completed = false) : after.Tracked := by
  intro hcontract
  have hsome : before.contract ≠ none := h.contract ▸ hcontract
  have hcompleted := hopen hsome
  obtain ⟨error, hcalls⟩ := h.calls hsome
  refine htracked.call h.contract (fun _ => hcalls) (fun _ => ?_) hcontract
  simp only [ResponseSink.phase, h.completed, hcompleted, Bool.false_eq_true, if_false, if_true]
  split
  · rfl
  · rfl

theorem CompletionStep.tracked (h : CompletionStep before after) (htracked : before.Tracked) :
    after.Tracked := by
  rcases h with ⟨-, rfl⟩ | ⟨hopen, hrel⟩
  · exact htracked
  · exact hrel.tracked htracked fun _ => hopen

end Tracked

/-! ## How often the completion was called -/

def Callback.isComplete : Callback → Bool
  | .onData _ => false
  | .onHeaders _ => false
  | .onComplete _ => true

def completions (calls : List Callback) : Nat := calls.countP Callback.isComplete

/-- The flag of the completion counts its calls. -/
def ResponseSink.Counted (sink : ResponseSink) : Prop :=
  sink.contract ≠ none → completions sink.calls = if sink.completed then 1 else 0

theorem buildResponseSink_counted (decompress : Nat) (contract : Option ResponseStream) :
    (buildResponseSink decompress contract).Counted := fun _ => rfl

section Counted

variable {before after : ResponseSink}

theorem Fed.counted (h : Fed before after) (hcounted : before.Counted) : after.Counted := by
  intro hcontract
  rw [h.contract] at hcontract
  obtain ⟨data, hcalls⟩ := h.calls
  have hdata : (data.map Callback.onData).countP Callback.isComplete = 0 := by
    rw [List.countP_eq_zero]
    intro call hcall
    obtain ⟨chunk, -, rfl⟩ := List.mem_map.mp hcall
    exact Bool.false_ne_true
  rw [completions, hcalls, List.countP_append, hdata, h.completed]
  exact hcounted hcontract

theorem HeadersStep.counted (h : HeadersStep before after) (hcounted : before.Counted) :
    after.Counted := by
  rcases h with ⟨-, rfl⟩ | ⟨-, hrel⟩
  · exact hcounted
  · intro hcontract
    rw [hrel.contract] at hcontract
    obtain ⟨fields, hcalls⟩ := hrel.calls hcontract
    rw [completions, hcalls, List.countP_append, hrel.completed]
    exact hcounted hcontract

theorem Completed.counted (h : Completed before after) (hcounted : before.Counted)
    (hopen : before.contract ≠ none → before.completed = false) : after.Counted := by
  intro hcontract
  rw [h.contract] at hcontract
  obtain ⟨error, hcalls⟩ := h.calls hcontract
  have hzero := hcounted hcontract
  rw [hopen hcontract] at hzero
  rw [completions] at hzero
  rw [completions, hcalls, List.countP_append, hzero, h.completed]
  rfl

theorem CompletionStep.counted (h : CompletionStep before after) (hcounted : before.Counted) :
    after.Counted := by
  rcases h with ⟨-, rfl⟩ | ⟨hopen, hrel⟩
  · exact hcounted
  · exact hrel.counted hcounted fun _ => hopen

end Counted

/-! ## Streams -/

/-- A fact about the sink of a stream, if it has one. -/
def OnSink (Q : ResponseSink → Prop) (stream : Stream) : Prop :=
  ∀ sink, stream.sink = some sink → Q sink

theorem OnSink.of_sink {Q : ResponseSink → Prop} {before after : Stream} (h : OnSink Q before)
    (hsink : after.sink = before.sink) : OnSink Q after := by
  rw [OnSink, hsink]
  exact h

/-- What each step of a sink keeps, the stream keeps. -/
theorem OnSink.rel {Q : ResponseSink → Prop} {R : ResponseSink → ResponseSink → Prop}
    {before after : Stream} (h : OnSink Q before) (hrel : SinkRel R before after)
    (hstep : ∀ sink sink', before.sink = some sink → R sink sink' → Q sink → Q sink') :
    OnSink Q after := by
  intro sink' hsink'
  obtain ⟨sink, hsink, hR⟩ := hrel.of_after hsink'
  exact hstep sink sink' hsink hR (h sink hsink)

/-- The sink was completed, if there is one. -/
abbrev SinkCompleted (stream : Stream) : Prop := OnSink (fun sink => sink.completed = true) stream

theorem sinkCompleted_iff (stream : Stream) : SinkCompleted stream ↔ stream.completed = true := by
  unfold SinkCompleted OnSink Stream.completed
  cases stream.sink with
  | none => simp
  | some sink => simp

theorem HeadersStep.completed {before after : ResponseSink} (h : HeadersStep before after) :
    after.completed = before.completed := by
  rcases h with ⟨-, rfl⟩ | ⟨-, hrel⟩
  · rfl
  · exact hrel.completed

theorem CompletionStep.completed {before after : ResponseSink} (h : CompletionStep before after) :
    after.completed = true := by
  rcases h with ⟨hcompleted, rfl⟩ | ⟨-, hrel⟩
  · exact hcompleted
  · exact hrel.completed

theorem finishCompletion_completed (stream : Stream) : SinkCompleted (finishCompletion stream) := by
  intro sink' hsink'
  obtain ⟨sink, -, hrel⟩ := (finishCompletion_sink stream).of_after hsink'
  exact hrel.completed

theorem completeResponseSink_completed (stream : Stream) :
    SinkCompleted (completeResponseSink stream) := by
  intro sink' hsink'
  obtain ⟨sink, -, hrel⟩ := (completeResponseSink_sink stream).of_after hsink'
  exact hrel.completed

/-- The sink of a stream with a contract. -/
def contractSink (stream : Stream) : Option ResponseSink :=
  stream.sink.filter fun sink => sink.contract.isSome

theorem contractSink_of {stream : Stream} {sink : ResponseSink} (hsink : stream.sink = some sink)
    (hcontract : sink.contract ≠ none) : contractSink stream = some sink := by
  rw [contractSink, hsink, Option.filter_some, Option.isSome_iff_ne_none.mpr hcontract, if_pos rfl]

/-- The calls that the contract of the stream in a slot got. -/
def contractCalls (session : Session) (slot : Nat) : Option (List Callback) :=
  ((streamAt session slot).bind contractSink).map ResponseSink.calls

/-- A consumer that takes every chunk. -/
def takeAll : ResponseStream := ⟨fun _ _ => 0⟩

end HttpRequestClient
