import HttpRequestClient.StreamedBodies
import HttpRequestClient.Client.Attempts
import HttpRequestClient.Http11.Exchange
import HttpRequestClient.Http2.Outcome

/-!
# Bodies that end early

Whether a decoder has reached the end of its data is known in the loops of
`CompressHandler.c` only; `completeResponseSink` frees the decoder without a
look at it.

`Decoding` is a response whose body is being decoded, and `CleanEnd` the end
that either transport gives it.  `cleanEnd_reports_iff`: the response is
reported as an error exactly when one of its chunks was `Refused`, whether or
not the decoder reached the end.
-/

namespace HttpRequestClient

open Http2 Http11 Parts

/-! ## The body -/

/-- A response that is being decoded, with the chunks its decoder was fed. -/
structure Decoding (encoding : ContentEncoding) (fed : List Bytes) (sink : ResponseSink)
    (stream : Stream) : Prop where
  held : stream.sink = some sink
  error : stream.error = none
  decompressor : sink.decompressor = some ⟨encoding, fed⟩
  headersDelivered : sink.headersDelivered = true
  completed : sink.completed = false
  aborted : sink.aborted = false
  cancelled : sink.cancelled = false
  cancellationTaken : sink.cancellationTaken = false
  sinkError : sink.error = none

/-- A response that was stopped in its body. -/
structure Stopped (stream : Stream) : Prop where
  error : stream.error ≠ none
  sink : ∃ sink, stream.sink = some sink ∧ sink.completed = false ∧ sink.cancelled = true ∧
    sink.cancellationTaken = false

/-- The calls of a contract that pieces are given to. -/
def callsAfter (contract : Option ResponseStream) (calls : List Callback)
    (pieces : List Bytes) : List Callback :=
  if contract.isSome then calls ++ pieces.map .onData else calls

/-- The decoder refuses a chunk, or the contract does not accept what it
decodes to. -/
def RefusedChunk (lib : DecoderLib) (encoding : ContentEncoding)
    (contract : Option ResponseStream) (fed : List Bytes) (calls : List Callback)
    (chunk : Bytes) : Prop :=
  (lib.feed encoding fed chunk).2 = false ∨
    ∃ accepting, contract = some accepting ∧
      ¬Accepts accepting calls (lib.feed encoding fed chunk).1

/-- One of the chunks of a body is refused. -/
def Refused (lib : DecoderLib) (encoding : ContentEncoding) (contract : Option ResponseStream) :
    List Bytes → List Callback → List Bytes → Prop
  | _, _, [] => False
  | fed, calls, chunk :: chunks =>
    if chunk = [] then Refused lib encoding contract fed calls chunks
    else
      RefusedChunk lib encoding contract fed calls chunk ∨
        Refused lib encoding contract (fed ++ [chunk])
          (callsAfter contract calls (lib.feed encoding fed chunk).1) chunks

theorem callsAfter_none {contract : Option ResponseStream} (h : contract = none)
    (calls : List Callback) (pieces : List Bytes) : callsAfter contract calls pieces = calls := by
  rw [h]
  rfl

theorem callsAfter_some {contract : Option ResponseStream} {accepting : ResponseStream}
    (h : contract = some accepting) (calls : List Callback) (pieces : List Bytes) :
    callsAfter contract calls pieces = calls ++ pieces.map .onData := by
  rw [h]
  rfl

theorem callsAfter_append (contract : Option ResponseStream) (calls : List Callback)
    (pieces more : List Bytes) :
    callsAfter contract (callsAfter contract calls pieces) more =
      callsAfter contract calls (pieces ++ more) := by
  unfold callsAfter
  split
  · rw [List.map_append, List.append_assoc]
  · rfl

section Pieces

variable {delivery : BodyDelivery} {sink : ResponseSink}

/-- A piece that is accepted. -/
theorem consumeResponseBody_accepted (hsink : delivery.stream.sink = some sink) {piece : Bytes}
    (haccepts : ∀ contract, sink.contract = some contract → contract.onData sink.calls piece = 0) :
    (consumeResponseBody delivery piece).1 = 0 ∧
      (consumeResponseBody delivery piece).2.stream.error = delivery.stream.error ∧
      (consumeResponseBody delivery piece).2.stream.sink =
        some { sink with calls := callsAfter sink.contract sink.calls [piece] } := by
  unfold consumeResponseBody
  simp only [hsink]
  split
  · rename_i hcontract
    rw [callsAfter_none hcontract]
    exact ⟨rfl, rfl, hsink⟩
  · rename_i contract hcontract
    rw [if_pos (haccepts contract hcontract), callsAfter_some hcontract]
    exact ⟨rfl, rfl, rfl⟩

/-- A piece that is not. -/
theorem consumeResponseBody_refused (hsink : delivery.stream.sink = some sink)
    {contract : ResponseStream} (hcontract : sink.contract = some contract) {piece : Bytes}
    (hrefuses : contract.onData sink.calls piece ≠ 0) :
    (consumeResponseBody delivery piece).1 ≠ 0 ∧
      (consumeResponseBody delivery piece).2.stream.error ≠ none ∧
      ∃ sink', (consumeResponseBody delivery piece).2.stream.sink = some sink' ∧
        sink'.completed = sink.completed ∧ sink'.cancelled = true ∧
        sink'.cancellationTaken = sink.cancellationTaken := by
  unfold consumeResponseBody
  simp only [hsink, hcontract, if_neg hrefuses]
  refine ⟨by decide, fun hnone => ?_, _, rfl, rfl, rfl, rfl⟩
  cases hnone

theorem consumePieces_accepted {pieces : List Bytes} :
    ∀ {delivery : BodyDelivery} {sink : ResponseSink}, delivery.stream.sink = some sink →
      (∀ contract, sink.contract = some contract → Accepts contract sink.calls pieces) →
      (consumePieces delivery pieces).1 = false ∧
        (consumePieces delivery pieces).2.stream.error = delivery.stream.error ∧
        (consumePieces delivery pieces).2.stream.sink =
          some { sink with calls := callsAfter sink.contract sink.calls pieces } := by
  induction pieces with
  | nil =>
    intro delivery sink hsink _
    refine ⟨rfl, rfl, hsink.trans ?_⟩
    unfold callsAfter
    split <;> simp
  | cons piece pieces ih =>
    intro delivery sink hsink haccepts
    obtain ⟨hanswer, herror, hpiece⟩ := consumeResponseBody_accepted hsink
      fun contract hcontract => (haccepts contract hcontract).1
    obtain ⟨htaken, herror', hrest⟩ := ih hpiece fun contract hcontract => by
      dsimp only
      rw [callsAfter_some hcontract]
      exact (haccepts contract hcontract).2
    rw [consumePieces]
    simp only [hanswer, ne_eq, not_true_eq_false, if_false]
    refine ⟨htaken, herror'.trans herror, hrest.trans ?_⟩
    rw [callsAfter_append]
    rfl

theorem consumePieces_refused {pieces : List Bytes} :
    ∀ {delivery : BodyDelivery} {sink : ResponseSink}, delivery.stream.sink = some sink →
      ∀ {contract : ResponseStream}, sink.contract = some contract →
        ¬Accepts contract sink.calls pieces →
        (consumePieces delivery pieces).1 = true ∧
          (consumePieces delivery pieces).2.stream.error ≠ none ∧
          ∃ sink', (consumePieces delivery pieces).2.stream.sink = some sink' ∧
            sink'.completed = sink.completed ∧ sink'.cancelled = true ∧
            sink'.cancellationTaken = sink.cancellationTaken := by
  induction pieces with
  | nil => exact fun _ _ _ hrefuses => absurd trivial hrefuses
  | cons piece pieces ih =>
    intro delivery sink hsink contract hcontract hrefuses
    rw [consumePieces]
    by_cases hanswer : contract.onData sink.calls piece = 0
    · have haccepts : ∀ other, sink.contract = some other →
          other.onData sink.calls piece = 0 := by
        intro other hother
        rw [hcontract] at hother
        cases hother
        exact hanswer
      obtain ⟨hzero, -, hpiece⟩ := consumeResponseBody_accepted hsink haccepts
      simp only [hzero, ne_eq, not_true_eq_false, if_false]
      have hlater := @ih _ _ hpiece contract hcontract
      refine hlater fun hrest => hrefuses ⟨hanswer, ?_⟩
      rw [callsAfter_some hcontract] at hrest
      exact hrest
    · obtain ⟨hone, hstopped⟩ := consumeResponseBody_refused hsink hcontract hanswer
      simp only [ne_eq, hone, not_false_eq_true, if_true, true_and]
      exact hstopped

end Pieces

section Chunk

variable {lib : DecoderLib} {encoding : ContentEncoding} {fed : List Bytes}
  {sink : ResponseSink} {stream : Stream}

/-- A chunk that is accepted. -/
theorem appendStreamPayload_accepted (h : Decoding encoding fed sink stream) {chunk : Bytes}
    (hne : chunk ≠ [])
    (haccepted : ¬RefusedChunk lib encoding sink.contract fed sink.calls chunk) :
    (appendStreamPayload lib stream chunk).1 = 1 ∧
      ∃ sink', Decoding encoding (fed ++ [chunk]) sink' (appendStreamPayload lib stream chunk).2 ∧
        sink'.contract = sink.contract ∧
        sink'.calls = callsAfter sink.contract sink.calls (lib.feed encoding fed chunk).1 := by
  obtain ⟨hdecoded, haccepts⟩ := not_or.mp haccepted
  rw [Bool.not_eq_false] at hdecoded
  have hstart : (⟨stream, 0⟩ : BodyDelivery).stream.sink = some sink := h.held
  obtain ⟨htaken, herror, hsink⟩ := consumePieces_accepted
    hstart fun contract hcontract => by_contra fun hrefuses =>
      haccepts ⟨contract, hcontract, hrefuses⟩
  rw [appendStreamPayload, if_neg (fun hzero => hne (List.eq_nil_of_length_eq_zero hzero))]
  simp only [h.held, deliverStreamPayload, h.aborted, Bool.false_eq_true, if_false,
    h.decompressor, feedStreamDecompressor, htaken, hdecoded, hsink, Option.getD_some, if_true,
    not_false_eq_true, and_self, Int.reduceLT, false_and]
  exact ⟨trivial, _, ⟨rfl, herror.trans h.error, rfl, h.headersDelivered, h.completed, rfl,
    h.cancelled, h.cancellationTaken, h.sinkError⟩, rfl, rfl⟩

/-- A chunk that is not. -/
theorem appendStreamPayload_refused (h : Decoding encoding fed sink stream) {chunk : Bytes}
    (hne : chunk ≠ [])
    (hrefused : RefusedChunk lib encoding sink.contract fed sink.calls chunk) :
    (appendStreamPayload lib stream chunk).1 ≠ 1 ∧
      Stopped (appendStreamPayload lib stream chunk).2 := by
  have hstart : (⟨stream, 0⟩ : BodyDelivery).stream.sink = some sink := h.held
  rw [appendStreamPayload, if_neg (fun hzero => hne (List.eq_nil_of_length_eq_zero hzero))]
  by_cases hrefuses : ∃ contract, sink.contract = some contract ∧
      ¬Accepts contract sink.calls (lib.feed encoding fed chunk).1
  · -- the contract refuses one of the pieces
    obtain ⟨contract, hcontract, hrefuses⟩ := hrefuses
    obtain ⟨hstopped, herror, sink', hsink, hcompleted, hcancelled, htaken⟩ :=
      consumePieces_refused hstart hcontract hrefuses
    simp only [h.held, deliverStreamPayload, h.aborted, Bool.false_eq_true, if_false,
      h.decompressor, feedStreamDecompressor, hstopped, hsink, Option.getD_some, if_true,
      Int.reduceLT, false_and, Int.reduceEq]
    exact ⟨by decide, herror, _, rfl, hcompleted.trans h.completed, hcancelled,
      htaken.trans h.cancellationTaken⟩
  · -- the decoder refuses the chunk
    obtain ⟨htaken, -, hsink⟩ := consumePieces_accepted hstart
      fun contract hcontract => by_contra fun hnot => hrefuses ⟨contract, hcontract, hnot⟩
    have hdecoded : (lib.feed encoding fed chunk).2 = false := hrefused.resolve_right hrefuses
    simp only [h.held, deliverStreamPayload, h.aborted, Bool.false_eq_true, if_false,
      h.decompressor, feedStreamDecompressor, htaken, hdecoded, hsink, Option.getD_some,
      h.sinkError, Int.reduceNeg, Int.reduceLT, and_self, if_true]
    refine ⟨by decide, fun hnone => ?_, _, rfl, h.completed, rfl, h.cancellationTaken⟩
    cases hnone

end Chunk

/-- The chunks in order. -/
theorem appendPieces_refused_iff {lib : DecoderLib} {encoding : ContentEncoding}
    (chunks : List Bytes) :
    ∀ {fed : List Bytes} {sink : ResponseSink} {stream : Stream},
      Decoding encoding fed sink stream →
      ((appendPieces lib stream chunks).1 = false ↔
        Refused lib encoding sink.contract fed sink.calls chunks) := by
  induction chunks with
  | nil => exact fun _ => iff_of_false Bool.true_eq_false.mp id
  | cons chunk chunks ih =>
    intro fed sink stream h
    rw [appendPieces_cons, Refused]
    by_cases hnil : chunk = []
    · rw [if_pos hnil, hnil, appendStreamPayload_nil]
      exact ih h
    · rw [if_neg hnil]
      by_cases hrefused : RefusedChunk lib encoding sink.contract fed sink.calls chunk
      · rw [if_pos (appendStreamPayload_refused h hnil hrefused).1]
        exact iff_of_true rfl (.inl hrefused)
      · obtain ⟨hone, sink', hnext, hcontract, hcalls⟩ :=
          appendStreamPayload_accepted h hnil hrefused
        rw [if_neg (not_not.mpr hone), or_iff_right hrefused, ← hcalls, ← hcontract]
        exact ih hnext

/-! ## The report -/

/-- The error is in the stream, and a contract was completed with one. -/
def ReportsError (stream : Stream) : Prop :=
  stream.error ≠ none ∧ ∀ sink, stream.sink = some sink → sink.contract ≠ none →
    ∃ error, sink.calls.getLast? = some (.onComplete (some error))

theorem completeResponseSink_reports {stream : Stream} {sink : ResponseSink}
    (hsink : stream.sink = some sink) (hcompleted : sink.completed = false) :
    ReportsError (completeResponseSink stream) ↔ stream.error ≠ none := by
  have herror := (completeResponseSink_keeps stream).2
  refine ⟨fun h => by rw [← herror]; exact h.1, fun hne => ⟨by rw [herror]; exact hne, ?_⟩⟩
  intro after hafter hcontract
  unfold completeResponseSink at hafter
  simp only [hsink, hcompleted, Bool.false_eq_true, if_false] at hafter
  split at hafter
  · rename_i hnone
    cases hafter
    exact absurd hnone hcontract
  · cases hafter
    by_cases hsinkError : sink.error ≠ none
    · obtain ⟨error, hsome⟩ := Option.ne_none_iff_exists'.mp hsinkError
      exact ⟨error, by simp [hsome]⟩
    · obtain ⟨error, hsome⟩ := Option.ne_none_iff_exists'.mp hne
      exact ⟨error, by simp [not_not.mp hsinkError, hsome]⟩

/-- Taking the cancellation calls nothing. -/
theorem takeResponseCancellation_reports (stream : Stream) :
    ReportsError (takeResponseCancellation stream).2 ↔ ReportsError stream := by
  unfold takeResponseCancellation
  cases hsink : stream.sink with
  | none => exact Iff.rfl
  | some sink =>
    dsimp only
    split
    · exact Iff.rfl
    · simp only [ReportsError, hsink, Option.some.injEq, forall_eq']

/-! ## The end of a response -/

/-- A stream with its body over is completed. -/
theorem endStreamReading_reports {stream : Stream} {sink : ResponseSink}
    (hsink : stream.sink = some sink) (hcompleted : sink.completed = false)
    (hover : stream.isEnded = true ∨ sink.cancelled = true ∧ sink.cancellationTaken = false)
    (type : UInt8) (length : Nat) :
    ReportsError (endStreamReading stream type length).2 ↔ stream.error ≠ none := by
  unfold endStreamReading
  dsimp only
  by_cases hended : stream.isEnded = true
  · have hstreaming : isResponseStreaming (completeResponseSink stream) = true := by
      apply completeResponseSink_streaming
      rw [isResponseStreaming, hsink]
      rfl
    simp only [if_pos hended, hstreaming, not_true_eq_false, if_false]
    rw [← completeResponseSink_reports hsink hcompleted,
      ← takeResponseCancellation_reports (completeResponseSink stream)]
    split
    · exact Iff.rfl
    · exact Iff.rfl
  · obtain ⟨hcancelled, htaken⟩ := hover.resolve_left hended
    simp only [if_neg hended, isResponseStreaming, hsink, takeResponseCancellation, hcancelled,
      htaken, Option.isSome_some, not_true_eq_false, Bool.false_eq_true, or_self, if_false]
    refine completeResponseSink_reports rfl ?_
    exact hcompleted

theorem endStreamReading_open {stream : Stream} {sink : ResponseSink}
    (hsink : stream.sink = some sink) (hcancelled : sink.cancelled = false)
    (hopen : stream.isEnded = false) (type : UInt8) (length : Nat) :
    (endStreamReading stream type length).2 = stream := by
  unfold endStreamReading
  simp only [hopen, Bool.false_eq_true, if_false, isResponseStreaming, hsink,
    takeResponseCancellation, hcancelled, Option.isSome_some, not_true_eq_false,
    not_false_eq_true, true_or, if_true]

/-! ### HTTP/2 -/

/-- The frames of a stream, each with the session it came on, are those of a
response that ends with the last one; besides DATA none of them makes an
error. -/
def EndsClean (lib : DecoderLib) : Stream → List (Session × Frame) → Prop
  | stream, [] => stream.isEnded = true
  | stream, (session, frame) :: frames =>
    stream.isEnded = false ∧
      (frame.type ≠ 0x0 → (handleStreamFrame lib session stream frame).2.error = stream.error) ∧
      EndsClean lib (streamAfter lib session stream frame) frames

def afterFrames (lib : DecoderLib) (stream : Stream) (frames : List (Session × Frame)) : Stream :=
  frames.foldl (fun stream received => streamAfter lib received.1 stream received.2) stream

/-- The payloads of the DATA frames. -/
def bodyChunks (frames : List (Session × Frame)) : List Bytes :=
  frames.filterMap fun received =>
    if received.2.type = 0x0 then some received.2.payload else none

theorem EndsClean.over {lib : DecoderLib} {stream : Stream} {frames : List (Session × Frame)}
    (h : EndsClean lib stream frames) (hended : stream.isEnded = true) : frames = [] := by
  cases frames with
  | nil => rfl
  | cons received frames =>
    rw [h.1] at hended
    cases hended

section Frames

variable {lib : DecoderLib} {encoding : ContentEncoding} {fed : List Bytes}
  {sink : ResponseSink} {stream : Stream} {session : Session} {frame : Frame}

/-- A frame without body leaves the sink of a response that has its headers. -/
theorem handleStreamFrame_held (h : Decoding encoding fed sink stream) (htype : frame.type ≠ 0x0) :
    (handleStreamFrame lib session stream frame).2.sink = some sink := by
  refine handleStreamFrame_keeps (P := fun stream => stream.sink = some sink) lib session
    (fun before after _ hsame hsink => hsame.trans hsink) (fun hdata => absurd hdata htype) ?_
    h.held
  intro _ _ _ hsink
  rw [deliverResponseHeaders]
  simp only [hsink, h.headersDelivered, if_true]

/-- A response that goes on, or is over without an error. -/
theorem streamAfter_decoding
    (h : Decoding encoding fed sink (handleStreamFrame lib session stream frame).2) :
    ((streamAfter lib session stream frame).isEnded = true ∧
        ¬ReportsError (streamAfter lib session stream frame)) ∨
      Decoding encoding fed sink (streamAfter lib session stream frame) := by
  cases hended : (handleStreamFrame lib session stream frame).2.isEnded with
  | true =>
    have hreports := endStreamReading_reports h.held h.completed (.inl hended) frame.type
      frame.payload.length
    refine .inl ⟨?_, fun hreported => hreports.mp hreported h.error⟩
    rw [handleStreamFrame_isEnded] at hended
    rw [streamAfter_isEnded, hended]
    rfl
  | false =>
    right
    rw [streamAfter, endStreamReading_open h.held h.cancelled hended]
    exact h

/-- A response that was stopped. -/
theorem streamAfter_stopped (h : Stopped (handleStreamFrame lib session stream frame).2) :
    (streamAfter lib session stream frame).isEnded = true ∧
      ReportsError (streamAfter lib session stream frame) := by
  obtain ⟨sink, hsink, hcompleted, hcancelled, htaken⟩ := h.sink
  refine ⟨?_, (endStreamReading_reports hsink hcompleted (.inr ⟨hcancelled, htaken⟩) frame.type
    frame.payload.length).mpr h.error⟩
  have hstops : stops lib session stream frame = true := by
    simp [stops, takeResponseCancellation, hsink, hcancelled, htaken]
  rw [streamAfter_isEnded, hstops, Bool.or_true]

theorem handleStreamFrame_accepted (h : Decoding encoding fed sink stream)
    (htype : frame.type = 0x0) (hne : frame.payload ≠ [])
    (haccepted : ¬RefusedChunk lib encoding sink.contract fed sink.calls frame.payload) :
    ∃ sink', Decoding encoding (fed ++ [frame.payload]) sink'
        (handleStreamFrame lib session stream frame).2 ∧ sink'.contract = sink.contract ∧
      sink'.calls = callsAfter sink.contract sink.calls (lib.feed encoding fed frame.payload).1 := by
  obtain ⟨-, sink', hnext, hsame⟩ := appendStreamPayload_accepted h hne haccepted
  refine ⟨sink', ?_, hsame⟩
  rw [handleStreamFrame_data _ _ _ htype]
  split
  · exact { hnext with }
  · exact hnext

theorem handleStreamFrame_refused (h : Decoding encoding fed sink stream)
    (htype : frame.type = 0x0) (hne : frame.payload ≠ [])
    (hrefused : RefusedChunk lib encoding sink.contract fed sink.calls frame.payload) :
    Stopped (handleStreamFrame lib session stream frame).2 := by
  have hstopped := (appendStreamPayload_refused h hne hrefused).2
  rw [handleStreamFrame_data _ _ _ htype]
  split
  · exact { hstopped with }
  · exact hstopped

/-- A frame that brings no body. -/
theorem handleStreamFrame_empty (h : Decoding encoding fed sink stream)
    (hquiet : frame.type ≠ 0x0 →
      (handleStreamFrame lib session stream frame).2.error = stream.error)
    (hempty : frame.type = 0x0 → frame.payload = []) :
    Decoding encoding fed sink (handleStreamFrame lib session stream frame).2 := by
  by_cases htype : frame.type = 0x0
  · rw [handleStreamFrame_data _ _ _ htype, hempty htype, appendStreamPayload_nil]
    split
    · exact { h with }
    · exact h
  · exact { h with
      held := handleStreamFrame_held h htype
      error := (hquiet htype).trans h.error }

end Frames

theorem afterFrames_reports_iff {lib : DecoderLib} {encoding : ContentEncoding}
    (frames : List (Session × Frame)) :
    ∀ {fed : List Bytes} {sink : ResponseSink} {stream : Stream},
      Decoding encoding fed sink stream → EndsClean lib stream frames →
      (ReportsError (afterFrames lib stream frames) ↔
        Refused lib encoding sink.contract fed sink.calls (bodyChunks frames)) := by
  induction frames with
  | nil => exact fun h _ => iff_of_false (fun hreported => hreported.1 h.error) id
  | cons received frames ih =>
    obtain ⟨session, frame⟩ := received
    intro fed sink stream h hclean
    obtain ⟨-, hquiet, hlater⟩ := hclean
    -- behind a frame that is no refused chunk
    have hgoes : ∀ {fed' : List Bytes} {sink' : ResponseSink},
        Decoding encoding fed' sink' (handleStreamFrame lib session stream frame).2 →
        (ReportsError (afterFrames lib (streamAfter lib session stream frame) frames) ↔
          Refused lib encoding sink'.contract fed' sink'.calls (bodyChunks frames)) := by
      intro fed' sink' hhandled
      rcases streamAfter_decoding hhandled with ⟨hended, hsilent⟩ | hnext
      · rw [hlater.over hended]
        exact iff_of_false hsilent id
      · exact ih hnext hlater
    show ReportsError (afterFrames lib (streamAfter lib session stream frame) frames) ↔ _
    by_cases htype : frame.type = 0x0
    · have hchunks : bodyChunks ((session, frame) :: frames) =
          frame.payload :: bodyChunks frames := by
        simp only [bodyChunks, List.filterMap_cons, htype, if_true]
      rw [hchunks, Refused]
      by_cases hnil : frame.payload = []
      · rw [if_pos hnil]
        exact hgoes (handleStreamFrame_empty h hquiet fun _ => hnil)
      · rw [if_neg hnil]
        by_cases hrefused : RefusedChunk lib encoding sink.contract fed sink.calls frame.payload
        · have hstopped : Stopped (handleStreamFrame lib session stream frame).2 :=
            handleStreamFrame_refused h htype hnil hrefused
          obtain ⟨hended, hreports⟩ := streamAfter_stopped hstopped
          rw [hlater.over hended]
          exact iff_of_true hreports (.inl hrefused)
        · obtain ⟨sink', hhandled, hcontract, hcalls⟩ :=
            handleStreamFrame_accepted h htype hnil hrefused
          rw [or_iff_right hrefused, ← hcalls, ← hcontract]
          exact hgoes hhandled
    · have hchunks : bodyChunks ((session, frame) :: frames) = bodyChunks frames := by
        simp only [bodyChunks, List.filterMap_cons, htype, if_false]
      rw [hchunks]
      exact hgoes (handleStreamFrame_empty h hquiet fun hdata => absurd hdata htype)

/-! ### HTTP/1.1 -/

/-- The callbacks of the stream are not completed. -/
def Uncompleted (stream : Stream) : Prop :=
  ∃ sink, stream.sink = some sink ∧ sink.completed = false

theorem Uncompleted.rel {R : ResponseSink → ResponseSink → Prop} {before after : Stream}
    (hrel : SinkRel R before after)
    (hkeeps : ∀ sink sink', R sink sink' → sink'.completed = sink.completed)
    (h : Uncompleted before) : Uncompleted after := by
  obtain ⟨sink, hsink, hcompleted⟩ := h
  obtain ⟨sink', hsink', hstep⟩ := hrel.of_before hsink
  exact ⟨sink', hsink', (hkeeps sink sink' hstep).trans hcompleted⟩

theorem receiveHttp11Response_uncompleted (lib : DecoderLib) (basket : Basket) {stream : Stream}
    (transport : Transport) (h : Uncompleted stream) :
    Uncompleted (receiveHttp11Response lib basket stream transport).2.1 := by
  refine receiveHttp11Response_keeps (P := Uncompleted) ?_ ?_ ?_ ?_ basket transport h
  · exact fun stream data => .rel (appendStreamPayload_sink lib stream data)
      fun _ _ happended => happended.fed.completed
  · intro before after hmarked hbefore
    obtain ⟨sink, hsink, hcompleted⟩ := hbefore
    exact ⟨sink, hmarked.sink.trans hsink, hcompleted⟩
  · exact fun stream => .rel (deliverResponseHeaders_sink lib stream)
      fun _ _ hstep => hstep.completed
  · exact fun stream => .rel (takeResponseCancellation_sink stream)
      fun _ _ hsilent => hsilent.completed

theorem exchange_reports_iff {lib : DecoderLib} {encoding : ContentEncoding} {basket : Basket}
    {stream : Stream} {sink : ResponseSink} {transport : Transport} {headers : List ResponseHeader}
    {pieces : List Bytes} {outcome : Outcome} (hfresh : Fresh stream)
    (hexchange : exchangeOf transport.parts = .body headers pieces outcome)
    (hclean : outcome.code transport.ending = 1 ∨ outcome.code transport.ending = 0)
    (h : Decoding encoding [] sink (withHeaders lib stream headers)) :
    ReportsError (Client.endStream (receiveHttp11Response lib basket stream transport).2.1) ↔
      Refused lib encoding sink.contract [] sink.calls pieces := by
  have hstart : Uncompleted stream := by
    have hdelivered := deliverResponseHeaders_sink lib { stream with headers := some headers }
    obtain ⟨before, hbefore, hstep⟩ := hdelivered.of_after h.held
    exact ⟨before, hbefore, hstep.completed.symm.trans h.completed⟩
  obtain ⟨received, hreceived, hcompleted⟩ :=
    receiveHttp11Response_uncompleted lib basket transport hstart
  have hreport := (receiveHttp11Response_body lib basket hfresh hexchange).error
  rw [and_iff_left hclean] at hreport
  have hstops : funnelStops lib stream headers pieces ↔
      (appendPieces lib (withHeaders lib stream headers) pieces).1 = false :=
    or_iff_right (not_not.mpr h.error)
  have hends : ReportsError
      (Client.endStream (receiveHttp11Response lib basket stream transport).2.1) ↔
        (receiveHttp11Response lib basket stream transport).2.1.error ≠ none := by
    refine completeResponseSink_reports ?_ hcompleted
    exact hreceived
  rw [hends, ← appendPieces_refused_iff pieces h, ← hstops, ← not_iff_not, ← hreport, not_not]

/-! ## Both transports -/

/-- A response that is being decoded, the chunks of its body as the transport
takes them, and the stream behind a clean end. -/
inductive CleanEnd (lib : DecoderLib) : Stream → List Bytes → Stream → Prop where
  | http2 {stream : Stream} {frames : List (Session × Frame)} (hends : EndsClean lib stream frames) :
      CleanEnd lib stream (bodyChunks frames) (afterFrames lib stream frames)
  | http11 {stream : Stream} {transport : Transport} {headers : List ResponseHeader}
      {pieces : List Bytes} {outcome : Outcome} (basket : Basket) (hfresh : Fresh stream)
      (hexchange : exchangeOf transport.parts = .body headers pieces outcome)
      (hends : outcome.code transport.ending = 1 ∨ outcome.code transport.ending = 0) :
      CleanEnd lib (withHeaders lib stream headers) pieces
        (Client.endStream (receiveHttp11Response lib basket stream transport).2.1)

theorem cleanEnd_refused {lib : DecoderLib} {encoding : ContentEncoding} {sink : ResponseSink}
    {started ended : Stream} {chunks : List Bytes} (h : Decoding encoding [] sink started)
    (hended : CleanEnd lib started chunks ended) :
    ReportsError ended ↔ Refused lib encoding sink.contract [] sink.calls chunks := by
  cases hended with
  | http2 hends => exact afterFrames_reports_iff _ h hends
  | http11 basket hfresh hexchange hends => exact exchange_reports_iff hfresh hexchange hends h

section Libraries

open CompressHandler

variable {L : Libraries} {encoding : ContentEncoding}

/-- A body that ends before its decoder does is reported as an error exactly
when a chunk of it was refused. -/
theorem cleanEnd_reports_iff {sink : ResponseSink} {started ended : Stream} {chunks : List Bytes}
    (h : Decoding encoding [] sink started) (hended : CleanEnd (decoderLib L) started chunks ended) :
    (¬EndReached L encoding chunks → ReportsError ended) ↔
      EndReached L encoding chunks ∨
        Refused (decoderLib L) encoding sink.contract [] sink.calls chunks := by
  rw [cleanEnd_refused h hended]
  exact or_iff_not_imp_left.symm

/-! ### A gzip header -/

/-- A gzip stream of a zlib that knows no data behind its header. -/
def gzipStart : hello.zlib.stream.State := Streaming.Eager.start (16 + MAX_WBITS)

/-- No data came behind the header, so the stream has not ended. -/
theorem gzip_open (chunks : List Bytes) : ¬EndReached hello.libraries .gzip chunks := by
  rintro ⟨decompressor, hbuilt, hreached⟩
  cases hbuilt
  obtain ⟨zs, hzs, hstatus⟩ := hreached
  cases hzs
  obtain ⟨last, hlast, hend⟩ := Option.map_eq_some_iff.mp hstatus
  have hfinished := ((hello.zlib.streamEnd last.1 _ last.2).mp hend).1
  have hformat := (zlibLoop hello.zlib).callsAll_format _ _ last (List.mem_of_getLast? hlast)
  change hello.zlib.stream.format last.1 = emptyFormat at hformat
  rw [hformat] at hfinished
  exact hfinished

def gzipHeaders : List ResponseHeader :=
  [⟨ascii ":status", ascii "200"⟩, ⟨ascii "content-encoding", ascii "gzip"⟩]

/-- A response with the content encoding gzip, behind its headers. -/
def gzipStarted : Stream :=
  deliverResponseHeaders (decoderLib hello.libraries)
    { newStream 1 (some (buildResponseSink 1 (some takeAll))) with headers := some gzipHeaders }

theorem gzipStarted_decoding : ∃ sink, Decoding .gzip [] sink gzipStarted :=
  ⟨_, rfl, rfl, rfl, rfl, rfl, rfl, rfl, rfl, rfl⟩

/-- One DATA frame that ends the response. -/
def lastData (payload : Bytes) : List (Session × Frame) :=
  [(initSession 4096, ⟨0x0, 0x1, 1, payload⟩)]

theorem lastData_cleanEnd (payload : Bytes) :
    CleanEnd (decoderLib hello.libraries) gzipStarted [payload]
      (afterFrames (decoderLib hello.libraries) gzipStarted (lastData payload)) := by
  have hcloses : (⟨0x0, 0x1, 1, payload⟩ : Frame).closes = true := by
    simp [Frame.closes, Frame.endStream]
  have hends : EndsClean (decoderLib hello.libraries) gzipStarted (lastData payload) := by
    refine ⟨rfl, fun htype => absurd rfl htype, ?_⟩
    show (streamAfter _ _ gzipStarted _).isEnded = true
    rw [streamAfter_isEnded, hcloses, Bool.or_true, Bool.true_or]
  exact .http2 hends

/-- What the funnel sees of a chunk that one call ends without output. -/
theorem gzip_feed {data : Bytes} (hne : data ≠ []) (hshort : data.length < 2 ^ 32) {result : Int}
    (houtcome : (zlibLoop hello.zlib).outcome gzipStart data = some result)
    (houtput : ((zlibLoop hello.zlib).call gzipStart data).output = []) :
    (decoderLib hello.libraries).feed .gzip [] data = ([], decide (result = 1)) := by
  have hgoes : ¬((zlibLoop hello.zlib).checksFirst = true ∧ data = []) := fun h => hne h.2
  have hfeed : (zlibLoop hello.zlib).feed Streaming.record gzipStart data [] = _ :=
    (if_neg hgoes).trans ((zlibLoop hello.zlib).rounds_some houtcome [])
  have hopened :
      feedZlib Streaming.record hello.zlib (.opened gzipStart) data ([] : List Bytes) = _ :=
    feedZlib_opened gzipStart hshort
  rw [hfeed, houtput] at hopened
  have hrecorded : feedDecoder hello.libraries Streaming.record (.zlib (.opened gzipStart)) data
      [] = _ := congrArg (Streaming.Fed.map CompressHandler.StreamDecompressor.zlib) hopened
  have hsees : (decoderLib hello.libraries).feed .gzip [] data =
      ((feedDecoder hello.libraries Streaming.record (.zlib (.opened gzipStart)) data []).ctx,
        decide ((feedDecoder hello.libraries Streaming.record
          (.zlib (.opened gzipStart)) data []).result = 1)) := rfl
  rw [hsees, hrecorded]
  rfl

theorem gzip_refused {data : Bytes} (hne : data ≠ []) (hshort : data.length < 2 ^ 32)
    {result : Int} (houtcome : (zlibLoop hello.zlib).outcome gzipStart data = some result)
    (houtput : ((zlibLoop hello.zlib).call gzipStart data).output = [])
    (contract : Option ResponseStream) (calls : List Callback) :
    Refused (decoderLib hello.libraries) .gzip contract [] calls [data] ↔ result ≠ 1 := by
  rw [Refused, if_neg hne, Refused, or_false, RefusedChunk, gzip_feed hne hshort houtcome houtput]
  refine (or_iff_left ?_).trans decide_eq_false_iff_not
  rintro ⟨_, _, hrefuses⟩
  exact hrefuses trivial

/-- Two bytes that are no header are refused. -/
theorem cleanEnd_reports_iff_badHeader :
    ReportsError (afterFrames (decoderLib hello.libraries) gzipStarted (lastData [0, 0])) := by
  obtain ⟨sink, hdecoding⟩ := gzipStarted_decoding
  have hrefused : Refused (decoderLib hello.libraries) .gzip sink.contract [] sink.calls [[0, 0]] :=
    (gzip_refused (List.cons_ne_nil 0 _) (by decide) (show _ = some (-1) by decide) (by decide)
      _ _).mpr (by decide)
  exact (cleanEnd_reports_iff hdecoding (lastData_cleanEnd [0, 0])).mpr (.inr hrefused)
    (gzip_open _)

/-- A body of two bytes that ends inside its gzip header is taken for whole. -/
theorem cleanEnd_losesTruncation :
    ∃ sink, Decoding .gzip [] sink gzipStarted ∧
      CleanEnd (decoderLib hello.libraries) gzipStarted [[0x1f, 0x8b]]
        (afterFrames (decoderLib hello.libraries) gzipStarted (lastData [0x1f, 0x8b])) ∧
      ¬EndReached hello.libraries .gzip [[0x1f, 0x8b]] ∧
      ¬ReportsError (afterFrames (decoderLib hello.libraries) gzipStarted
        (lastData [0x1f, 0x8b])) := by
  obtain ⟨sink, hdecoding⟩ := gzipStarted_decoding
  refine ⟨sink, hdecoding, lastData_cleanEnd _, gzip_open _, ?_⟩
  rw [cleanEnd_refused hdecoding (lastData_cleanEnd _)]
  have hshort : ([0x1f, 0x8b] : Bytes).length < 2 ^ 32 := by decide
  have houtcome : (zlibLoop hello.zlib).outcome gzipStart [0x1f, 0x8b] = some 1 := by decide
  rw [gzip_refused (List.cons_ne_nil _ _) hshort houtcome (by decide)]
  decide

end Libraries

end HttpRequestClient
