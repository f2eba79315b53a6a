import HttpRequestClient.Http2.CallbackOrder
import HttpRequestClient.Http2.StreamCredit

/-!
# The outcome of a stream

`finalizeStreamIntoBasket` takes the response out of a stream some time after
it has ended, and the reader goes on meanwhile: only the end of all streams
asks whether a stream has ended, the handlers of its frames do not.

* `Harmless` says which frames leave the response of a stream alone, and
  `streamAfter_outcome` that they do.
* `runConnection_keepsOutcome`: when a stream that has ended without an error
  gets harmless frames only, the response taken out of it is the one it ended
  with.
* `runConnection_changesOutcome` is a run with a RST_STREAM behind a complete
  response.
-/

namespace HttpRequestClient.Http2

open Hpack Runs

/-! ## The response of a stream -/

/-- What a stream leaves in the basket when it has no error. -/
structure StreamResponse where
  headers : Option (List ResponseHeader)
  payload : Bytes
  payloadDecoded : Bool
  deriving Repr, DecidableEq

def finalizeStreamIntoBasket (stream : Stream) : Except Error StreamResponse :=
  match stream.error with
  | some error => .error error
  | none => .ok ⟨stream.headers, stream.combinedPayload, stream.payloadDecoded⟩

/-- The parts of a stream that its outcome is made of. -/
structure SameOutcome (before after : Stream) : Prop where
  headers : after.headers = before.headers
  payload : after.combinedPayload = before.combinedPayload
  payloadDecoded : after.payloadDecoded = before.payloadDecoded
  error : after.error = before.error

theorem SameOutcome.refl (stream : Stream) : SameOutcome stream stream := ⟨rfl, rfl, rfl, rfl⟩

theorem SameOutcome.trans {first second third : Stream} (h : SameOutcome first second)
    (h' : SameOutcome second third) : SameOutcome first third :=
  ⟨h'.headers.trans h.headers, h'.payload.trans h.payload,
    h'.payloadDecoded.trans h.payloadDecoded, h'.error.trans h.error⟩

theorem SameOutcome.finalize {before after : Stream} (h : SameOutcome before after) :
    finalizeStreamIntoBasket after = finalizeStreamIntoBasket before := by
  rw [finalizeStreamIntoBasket, finalizeStreamIntoBasket, h.headers, h.payload,
    h.payloadDecoded, h.error]

/-! ## Chunks that change nothing -/

/-- The pieces that a chunk is handed out in, and whether it was decoded. -/
def handedPieces (lib : DecoderLib) (sink : ResponseSink) (data : Bytes) : List Bytes × Bool :=
  match sink.decompressor with
  | none => ([data], true)
  | some decompressor => lib.feed decompressor.encoding decompressor.fed data

/-- The contract answers zero to each of the pieces. -/
def Accepts (contract : ResponseStream) : List Callback → List Bytes → Prop
  | _, [] => True
  | calls, piece :: pieces =>
    contract.onData calls piece = 0 ∧ Accepts contract (calls ++ [.onData piece]) pieces

/-- The sink takes the pieces without keeping any byte. -/
def TakesPieces (sink : ResponseSink) (pieces : List Bytes) : Prop :=
  match sink.contract with
  | none => pieces.flatten = []
  | some contract => Accepts contract sink.calls pieces

/-- A chunk that is not kept: an empty one, one after the consumer has
stopped, or one that is decoded into nothing, or for a contract into pieces
that it takes. -/
def Unkept (lib : DecoderLib) (sink : ResponseSink) (data : Bytes) : Prop :=
  data = [] ∨ sink.aborted = true ∨
    (handedPieces lib sink data).2 = true ∧ TakesPieces sink (handedPieces lib sink data).1

theorem consumeResponseBody_unkept {delivery : BodyDelivery} {sink : ResponseSink}
    (hsink : delivery.stream.sink = some sink) {piece : Bytes} {pieces : List Bytes}
    (h : TakesPieces sink (piece :: pieces)) :
    (consumeResponseBody delivery piece).1 = 0 ∧
      SameOutcome delivery.stream (consumeResponseBody delivery piece).2.stream ∧
      ∃ sink', (consumeResponseBody delivery piece).2.stream.sink = some sink' ∧
        TakesPieces sink' pieces := by
  unfold consumeResponseBody
  unfold TakesPieces at h
  cases hcontract : sink.contract with
  | none =>
    rw [hcontract] at h
    obtain ⟨hpiece, hrest⟩ := List.append_eq_nil_iff.mp h
    simp only [hsink, hcontract, true_and]
    refine ⟨⟨rfl, ?_, rfl, rfl⟩, sink, hsink, ?_⟩
    · show delivery.stream.combinedPayload ++ piece = delivery.stream.combinedPayload
      rw [hpiece, List.append_nil]
    · rw [TakesPieces, hcontract]
      exact hrest
  | some contract =>
    rw [hcontract] at h
    obtain ⟨hanswer, hrest⟩ := h
    simp only [hsink, hcontract, hanswer, if_true, true_and]
    exact ⟨⟨rfl, rfl, rfl, rfl⟩, _, rfl, hrest⟩

theorem consumePieces_unkept {pieces : List Bytes} :
    ∀ {delivery : BodyDelivery} {sink : ResponseSink}, delivery.stream.sink = some sink →
      TakesPieces sink pieces →
      (consumePieces delivery pieces).1 = false ∧
        SameOutcome delivery.stream (consumePieces delivery pieces).2.stream := by
  induction pieces with
  | nil => exact fun _ _ => ⟨rfl, .refl _⟩
  | cons piece pieces ih =>
    intro delivery sink hsink htakes
    obtain ⟨hanswer, hsame, sink', hsink', hrest⟩ := consumeResponseBody_unkept hsink htakes
    obtain ⟨htaken, hsame'⟩ := ih hsink' hrest
    rw [consumePieces]
    simp only [hanswer, ne_eq, not_true_eq_false, if_false]
    exact ⟨htaken, hsame.trans hsame'⟩

theorem feedStreamDecompressor_unkept (lib : DecoderLib) {delivery : BodyDelivery}
    {sink : ResponseSink} (hsink : delivery.stream.sink = some sink) {data : Bytes}
    (hdecoded : (handedPieces lib sink data).2 = true)
    (htakes : TakesPieces sink (handedPieces lib sink data).1) :
    (feedStreamDecompressor lib sink.decompressor data delivery).1 = 1 ∧
      SameOutcome delivery.stream
        (feedStreamDecompressor lib sink.decompressor data delivery).2.2.stream := by
  unfold feedStreamDecompressor
  unfold handedPieces at hdecoded htakes
  cases hdecompressor : sink.decompressor with
  | none =>
    rw [hdecompressor] at htakes
    obtain ⟨hanswer, hsame, -⟩ := consumeResponseBody_unkept hsink htakes
    simp only [hanswer, if_true, true_and]
    exact hsame
  | some decompressor =>
    rw [hdecompressor] at hdecoded htakes
    obtain ⟨htaken, hsame⟩ := consumePieces_unkept hsink htakes
    dsimp only at hdecoded
    simp only [htaken, hdecoded, Bool.false_eq_true, if_false, if_true, true_and]
    exact hsame

theorem appendStreamPayload_unkept (lib : DecoderLib) {stream : Stream} {sink : ResponseSink}
    (hsink : stream.sink = some sink) {data : Bytes} (h : Unkept lib sink data) :
    SameOutcome stream (appendStreamPayload lib stream data).2 := by
  unfold appendStreamPayload
  split
  · exact .refl stream
  · rename_i hlength
    simp only [hsink]
    unfold deliverStreamPayload
    split
    · exact .refl stream
    · rename_i haborted
      rcases h with hempty | hstopped | ⟨hdecoded, htakes⟩
      · exact absurd (congrArg List.length hempty) hlength
      · exact absurd hstopped haborted
      · have hstart : (⟨stream, 0⟩ : BodyDelivery).stream.sink = some sink := hsink
        obtain ⟨hconsumed, hsame⟩ := feedStreamDecompressor_unkept lib hstart hdecoded htakes
        simp only [hconsumed, Int.reduceLT, false_and, if_false]
        exact ⟨hsame.headers, hsame.payload, hsame.payloadDecoded, hsame.error⟩

/-! ## Frames that change nothing -/

/-- A header block that decodes to the headers the stream has. -/
def Repeats (session : Session) (stream : Stream) (block : Bytes) : Prop :=
  (decodeHeadersFrame stream block session.hpackCtx).1.error = none ∧
    (decodeHeadersFrame stream block session.hpackCtx).1.headers = stream.headers

/-- The stream of a CONTINUATION frame that ends its block. -/
def gathered (stream : Stream) (payload : Bytes) : Stream :=
  { stream with headerBlock := stream.headerBlock ++ payload, awaitingContinuation := false }

/-- A frame that leaves the response of its stream alone.  It resets nothing,
its DATA is not kept, its padding fits, the block it ends repeats the headers,
and no decoder is made for them. -/
structure Harmless (lib : DecoderLib) (session : Session) (stream : Stream) (sink : ResponseSink)
    (frame : Frame) : Prop where
  reset : frame.type ≠ 0x3
  data : frame.type = 0x0 → Unkept lib sink frame.payload
  fragment : frame.type = 0x1 → headerFragment frame ≠ none
  headers : frame.type = 0x1 → frame.endHeaders = true → ∀ block, headerFragment frame = some block →
    Repeats session stream block
  continuation : frame.type = 0x9 → frame.endHeaders = true → stream.awaitingContinuation = true →
    Repeats session (gathered stream frame.payload) (stream.headerBlock ++ frame.payload)
  decoder : (frame.type = 0x1 ∨ frame.type = 0x9) → frame.endHeaders = true →
    sink.headersDelivered = true ∨
      sink.decompressMask &&& (detectContentEncoding (stream.headers.getD [])).toNat = 0

theorem decodeBlock_repeats {session : Session} {stream : Stream} (herror : stream.error = none)
    {block : Bytes} (h : Repeats session stream block) :
    SameOutcome stream (decodeBlock session stream block).2 ∧
      (decodeBlock session stream block).2.sink = stream.sink := by
  obtain ⟨headers, error, hstream⟩ := decodeHeadersFrame_stream stream block session.hpackCtx
  obtain ⟨hnone, hsame⟩ := h
  unfold decodeBlock
  dsimp only
  rw [hstream] at hnone hsame ⊢
  exact ⟨⟨hsame, rfl, rfl, hnone.trans herror.symm⟩, rfl⟩

theorem handleHeadersFrame_harmless {lib : DecoderLib} {session : Session} {stream : Stream}
    {sink : ResponseSink} {frame : Frame} (h : Harmless lib session stream sink frame)
    (herror : stream.error = none) (htype : frame.type = 0x1) :
    SameOutcome stream (handleHeadersFrame session stream frame).2 ∧
      (handleHeadersFrame session stream frame).2.sink = stream.sink := by
  unfold handleHeadersFrame
  cases hfragment : headerFragment frame with
  | none => exact absurd hfragment (h.fragment htype)
  | some fragment =>
    dsimp only
    split
    · exact ⟨⟨rfl, rfl, rfl, rfl⟩, rfl⟩
    · rename_i hends
      exact decodeBlock_repeats herror
        (h.headers htype (Decidable.not_not.mp hends) fragment hfragment)

theorem handleContinuationFrame_harmless {lib : DecoderLib} {session : Session} {stream : Stream}
    {sink : ResponseSink} {frame : Frame} (h : Harmless lib session stream sink frame)
    (herror : stream.error = none) (htype : frame.type = 0x9) :
    SameOutcome stream (handleContinuationFrame session stream frame).2 ∧
      (handleContinuationFrame session stream frame).2.sink = stream.sink := by
  unfold handleContinuationFrame
  split
  · exact ⟨.refl stream, rfl⟩
  · rename_i hawaiting
    by_cases hends : frame.endHeaders = true
    · have hrepeats := h.continuation htype hends (Decidable.not_not.mp hawaiting)
      have hgathered : (gathered stream frame.payload).error = none := herror
      have hdecoded := decodeBlock_repeats hgathered hrepeats
      simp only [if_pos hends, if_pos herror]
      exact ⟨⟨hdecoded.1.headers, hdecoded.1.payload, hdecoded.1.payloadDecoded,
        hdecoded.1.error⟩, hdecoded.2⟩
    · rw [if_neg hends]
      exact ⟨⟨rfl, rfl, rfl, rfl⟩, rfl⟩

/-- Headers that were delivered before, or need no decoder. -/
theorem deliverResponseHeaders_outcome (lib : DecoderLib) {stream : Stream} {sink : ResponseSink}
    (hsink : stream.sink = some sink)
    (h : sink.headersDelivered = true ∨
      sink.decompressMask &&& (detectContentEncoding (stream.headers.getD [])).toNat = 0) :
    SameOutcome stream (deliverResponseHeaders lib stream) := by
  unfold deliverResponseHeaders
  simp only [hsink]
  split
  · exact .refl stream
  · rename_i hdelivered
    rw [prepareStreamDecoder_passes lib stream { sink with headersDelivered := true }
      (h.resolve_left hdelivered)]
    dsimp only
    split <;> exact ⟨rfl, rfl, rfl, rfl⟩

theorem completeResponseSink_outcome (stream : Stream) :
    SameOutcome stream (completeResponseSink stream) := by
  unfold completeResponseSink
  split
  · exact .refl stream
  · split
    · exact .refl stream
    · dsimp only
      split <;> exact ⟨rfl, rfl, rfl, rfl⟩

theorem finishCompletion_outcome (stream : Stream) :
    SameOutcome stream (finishCompletion stream) := by
  unfold finishCompletion
  split
  · exact .refl stream
  · dsimp only
    split <;> exact ⟨rfl, rfl, rfl, rfl⟩

theorem takeResponseCancellation_outcome (stream : Stream) :
    SameOutcome stream (takeResponseCancellation stream).2 := by
  unfold takeResponseCancellation
  split
  · exact .refl stream
  · split
    · exact .refl stream
    · exact ⟨rfl, rfl, rfl, rfl⟩

theorem endStreamReading_outcome (stream : Stream) (type : UInt8) (length : Nat) :
    SameOutcome stream (endStreamReading stream type length).2 := by
  have hended : SameOutcome stream
      (if stream.isEnded = true then completeResponseSink stream else stream) := by
    split
    · exact completeResponseSink_outcome stream
    · exact .refl stream
  unfold endStreamReading
  dsimp only
  generalize (if stream.isEnded = true then completeResponseSink stream else stream) = ended
    at hended ⊢
  have htaken := hended.trans (takeResponseCancellation_outcome ended)
  split
  · exact hended
  · split
    · exact htaken
    · dsimp only
      split
      · exact htaken
      · have hmarked := completeResponseSink_outcome
          { (takeResponseCancellation ended).2 with isEnded := true }
        exact htaken.trans ⟨hmarked.headers, hmarked.payload, hmarked.payloadDecoded,
          hmarked.error⟩

theorem finishFrame_outcome (lib : DecoderLib) {session : Session} {stream handled : Stream}
    {sink : ResponseSink} {frame : Frame} (h : Harmless lib session stream sink frame)
    (hsame : SameOutcome stream handled)
    (hsink : frame.type = 0x1 ∨ frame.type = 0x9 → handled.sink = some sink) :
    SameOutcome stream (finishFrame lib handled frame) := by
  have hdeliver : SameOutcome stream (deliverHeaders lib handled frame) := by
    unfold deliverHeaders
    split
    · rename_i hends
      refine hsame.trans (deliverResponseHeaders_outcome lib (hsink hends.1) ?_)
      rw [hsame.headers]
      exact h.decoder hends.1 hends.2.1
    · exact hsame
  unfold finishFrame
  dsimp only
  split
  · exact ⟨hdeliver.headers, hdeliver.payload, hdeliver.payloadDecoded, hdeliver.error⟩
  · exact hdeliver

/-- A harmless frame leaves the response of its stream alone. -/
theorem streamAfter_outcome (lib : DecoderLib) {session : Session} {stream : Stream}
    {sink : ResponseSink} (hsink : stream.sink = some sink) (herror : stream.error = none)
    {frame : Frame} (h : Harmless lib session stream sink frame) :
    SameOutcome stream (streamAfter lib session stream frame) := by
  have hhandled : SameOutcome stream (handleStreamFrame lib session stream frame).2 := by
    unfold handleStreamFrame
    dsimp only
    refine finishFrame_outcome lib h ?_ ?_
    · split
      · rename_i htype
        exact appendStreamPayload_unkept lib hsink (h.data htype)
      · split
        · rename_i htype
          exact (handleHeadersFrame_harmless h herror htype).1
        · split
          · rename_i htype
            exact (handleContinuationFrame_harmless h herror htype).1
          · rw [if_neg h.reset]
            exact .refl stream
    · rintro (htype | htype)
      · rw [if_neg (by simp [htype]), if_pos htype]
        exact (handleHeadersFrame_harmless h herror htype).2.trans hsink
      · rw [if_neg (by simp [htype]), if_neg (by simp [htype]), if_pos htype]
        exact (handleContinuationFrame_harmless h herror htype).2.trans hsink
  exact hhandled.trans (endStreamReading_outcome _ _ _)

/-! ## Runs behind the end of a stream -/

/-- A frame for the stream of a slot is harmless, and the stream stays
registered. -/
def HarmlessAt (lib : DecoderLib) (slot : Nat) (connection : Connection) :
    ConnectionEvent → Prop
  | .reader (.dispatch frame) =>
    ∀ stream sink, streamAt connection.session slot = some stream → stream.sink = some sink →
      findStream connection.session frame.streamId = some stream →
      Harmless lib connection.session stream sink frame
  | _ => True

/-- What the slot of a stream that has ended holds. -/
structure EndedAs (outcome : Stream) (stream : Stream) : Prop where
  ended : stream.isEnded = true
  request : IsRequest stream
  same : SameOutcome outcome stream

section Ended

variable {lib : DecoderLib} {connection : Connection} {slot : Nat} {outcome stream : Stream}

/-- A frame behind the end of a stream. -/
theorem readerDispatch_endedAs (herror : outcome.error = none)
    (hslot : streamAt connection.session slot = some stream) (h : EndedAs outcome stream)
    {frame : Frame} (hharmless : HarmlessAt lib slot connection (.reader (.dispatch frame))) :
    ∃ after, streamAt (readerDispatch lib connection.session frame) slot = some after ∧
      EndedAs outcome after := by
  have hchange := readerDispatch_streamAt lib connection.session frame slot
  rw [hslot] at hchange
  cases hafter : streamAt (readerDispatch lib connection.session frame) slot with
  | none =>
    rw [hafter] at hchange
    cases hchange
  | some after =>
    rw [hafter] at hchange
    refine ⟨after, rfl, ?_⟩
    cases hchange with
    | some hchange =>
      cases hchange with
      | same => exact h
      | handled hfind =>
        obtain ⟨sink, hsink⟩ := Option.isSome_iff_exists.mp h.request.2
        have hsame := streamAfter_outcome lib hsink (h.same.error.trans herror)
          (hharmless stream sink hslot hsink hfind)
        refine ⟨?_, streamAfter_isRequest lib _ frame h.request, h.same.trans hsame⟩
        rw [streamAfter_isEnded, h.ended]
        rfl
      | failed session =>
        rw [failStream_ended session true h.ended]
        exact h

/-- One event behind the end of a stream. -/
theorem stepConnection_endedAs (herror : outcome.error = none)
    (hslot : streamAt connection.session slot = some stream) (h : EndedAs outcome stream)
    {event : ConnectionEvent} (hregistered : event ≠ .unregister slot)
    (hharmless : HarmlessAt lib slot connection event) :
    ∃ after, streamAt (stepConnection lib connection event).session slot = some after ∧
      EndedAs outcome after := by
  cases event with
  | reader action =>
    cases action with
    | dispatch frame =>
      exact readerDispatch_endedAs herror hslot h hharmless
    | flush =>
      refine ⟨stream, ?_, h⟩
      exact (streamAt_of_streams (flushReaderWrites_streams connection) slot).trans hslot
  | lost error =>
    refine ⟨stream, ?_, h⟩
    show streamAt (failAllStreams _ false) slot = some stream
    rw [streamAt_failAllStreams]
    show (streamAt connection.session slot).map _ = some stream
    rw [hslot, Option.map_some, failStream_ended _ _ h.ended]
  | register decompress contract =>
    refine ⟨stream, ?_, h⟩
    show streamAt (registerStream connection.session _) slot = some stream
    cases hfree : freeSlot connection.session with
    | none =>
      rw [registerStream_full hfree]
      exact hslot
    | some free =>
      rw [streamAt_registerStream hfree, if_neg]
      · exact hslot
      · rintro rfl
        rw [(streamAt_freeSlot hfree).2] at hslot
        cases hslot
  | checkCompletion other =>
    refine ⟨stream, ?_, h⟩
    show streamAt (checkCompletion connection other).session slot = some stream
    rw [checkCompletion_session]
    exact hslot
  | finishCompletion other =>
    show ∃ after, streamAt (passCompletion connection other).session slot = some after ∧ _
    unfold passCompletion
    split
    · rw [streamAt_modifyStream, hslot]
      split
      · refine ⟨_, rfl, ?_, ⟨?_, finishCompletion_streaming h.request.2⟩,
          h.same.trans (finishCompletion_outcome stream)⟩
        · rw [finishCompletion_isEnded]
          exact h.ended
        · rw [(finishCompletion_sameRequest stream).streamId]
          exact h.request.1
      · exact ⟨stream, rfl, h⟩
    · exact ⟨stream, hslot, h⟩
  | unregister other =>
    refine ⟨stream, ?_, h⟩
    show streamAt (unregisterStream connection.session other) slot = some stream
    rw [streamAt_unregisterStream, if_neg]
    · exact hslot
    · rintro rfl
      exact hregistered rfl

theorem run_endedAs (herror : outcome.error = none) {events : List ConnectionEvent}
    (hregistered : .unregister slot ∉ events)
    (hmeets : Meets (stepConnection lib) (HarmlessAt lib slot) connection events)
    (hslot : streamAt connection.session slot = some stream) (h : EndedAs outcome stream) :
    ∃ after, streamAt (run (stepConnection lib) connection events).session slot = some after ∧
      EndedAs outcome after := by
  induction events generalizing connection stream with
  | nil => exact ⟨stream, hslot, h⟩
  | cons event events ih =>
    obtain ⟨hfirst, hrest⟩ := hmeets
    obtain ⟨hne, hregistered⟩ := not_or.mp (fun hmem => hregistered (List.mem_cons.mpr hmem))
    obtain ⟨after, hafter, hended⟩ :=
      stepConnection_endedAs herror hslot h (Ne.symm hne) hfirst
    exact ih hregistered hrest hafter hended

end Ended

/-- A stream that has ended without an error keeps its outcome until it is
removed, when the frames that come for it are harmless. -/
theorem runConnection_keepsOutcome (lib : DecoderLib) (headerTableSize : Nat)
    {before later : List ConnectionEvent} {slot : Nat} {stream : Stream}
    (hslot : streamAt (runConnection lib headerTableSize before).session slot = some stream)
    (hended : stream.isEnded = true) (herror : stream.error = none)
    (hregistered : .unregister slot ∉ later)
    (hmeets : Meets (stepConnection lib) (HarmlessAt lib slot)
      (runConnection lib headerTableSize before) later) :
    ∃ after,
      streamAt (runConnection lib headerTableSize (before ++ later)).session slot = some after ∧
      finalizeStreamIntoBasket after = finalizeStreamIntoBasket stream := by
  have hrequests := runBoth_requestsOnly lib headerTableSize before
  rw [runBoth_fst] at hrequests
  have hstart : EndedAs stream stream := ⟨hended, hrequests.streams.at hslot, .refl stream⟩
  obtain ⟨after, hafter, hkept⟩ := run_endedAs herror hregistered hmeets hslot hstart
  refine ⟨after, ?_, hkept.same.finalize⟩
  rw [runConnection, run_append]
  exact hafter

def completeResponse : List ConnectionEvent :=
  [.register 0 none, .reader (.dispatch okFrame), .reader (.dispatch helloFrame)]

theorem streamAt_completeResponse :
    ∃ stream, streamAt (runConnection noDecoders 4096 completeResponse).session 0 = some stream ∧
      stream.isEnded = true ∧ stream.error = none ∧
      finalizeStreamIntoBasket stream =
        .ok ⟨some [⟨ascii ":status", ascii "200"⟩], ascii "hello", false⟩ := by
  have hview : (streamAt (runConnection noDecoders 4096 completeResponse).session 0).map
      (fun stream => (stream.isEnded, stream.error,
        StreamResponse.mk stream.headers stream.combinedPayload stream.payloadDecoded)) =
      some (true, none, ⟨some [⟨ascii ":status", ascii "200"⟩], ascii "hello", false⟩) := by
    decide
  obtain ⟨stream, hstream, heq⟩ := Option.map_eq_some_iff.mp hview
  rw [Prod.mk.injEq, Prod.mk.injEq] at heq
  obtain ⟨hended, herror, hresponse⟩ := heq
  refine ⟨stream, hstream, hended, herror, ?_⟩
  rw [finalizeStreamIntoBasket, herror]
  exact congrArg Except.ok hresponse

/-- A frame without header octets that resets nothing and whose DATA, if any, is
empty. -/
theorem harmless_plain (lib : DecoderLib) (session : Session) (stream : Stream)
    (sink : ResponseSink) {frame : Frame} (hreset : frame.type ≠ 0x3) (hheaders : frame.type ≠ 0x1)
    (hcontinuation : frame.type ≠ 0x9) (hdata : frame.type = 0x0 → frame.payload = []) :
    Harmless lib session stream sink frame where
  reset := hreset
  data := fun h => .inl (hdata h)
  fragment := fun h => absurd h hheaders
  headers := fun h => absurd h hheaders
  continuation := fun h => absurd h hcontinuation
  decoder := fun h => (h.elim hheaders hcontinuation).elim

/-- Frames behind a complete response: its last DATA frame again without octets,
an update of its window, a reset of another stream that has come meanwhile,
and GOAWAY. -/
def afterResponse : List ConnectionEvent :=
  [.reader (.dispatch ⟨0x0, 1, 1, []⟩), .reader (.dispatch ⟨0x8, 0, 1, [0, 0, 1, 0]⟩),
    .register 1 none, .reader (.dispatch ⟨0x3, 0, 3, [0, 0, 0, 8]⟩),
    .reader (.dispatch ⟨0x7, 0, 0, [0, 0, 0, 1, 0, 0, 0, 0]⟩), .reader .flush]

theorem runConnection_keepsOutcome_frames :
    ∃ after, streamAt (runConnection noDecoders 4096
        (completeResponse ++ afterResponse)).session 0 = some after ∧
      finalizeStreamIntoBasket after =
        .ok ⟨some [⟨ascii ":status", ascii "200"⟩], ascii "hello", false⟩ := by
  obtain ⟨stream, hslot, hended, herror, hresponse⟩ := streamAt_completeResponse
  have hregistered : ConnectionEvent.unregister 0 ∉ afterResponse := by simp [afterResponse]
  have hharmless : Meets (stepConnection noDecoders) (HarmlessAt noDecoders 0)
      (runConnection noDecoders 4096 completeResponse) afterResponse := by
    refine ⟨fun _ _ _ _ _ => ?_, fun _ _ _ _ _ => ?_, trivial, fun other _ hother _ hfound => ?_,
      fun _ _ _ _ _ => ?_, trivial, trivial⟩
    · exact harmless_plain _ _ _ _ (by decide) (by decide) (by decide) fun _ => rfl
    · exact harmless_plain _ _ _ _ (by decide) (by decide) (by decide) nofun
    · -- the stream that is reset has another id
      have hfirst := congrArg (Option.map Stream.streamId) hother
      have hsecond := congrArg (Option.map Stream.streamId) hfound
      rw [← hsecond] at hfirst
      exact absurd hfirst (by decide)
    · exact harmless_plain _ _ _ _ (by decide) (by decide) (by decide) nofun
  rw [← hresponse]
  exact runConnection_keepsOutcome noDecoders 4096 hslot hended herror hregistered hharmless

/-- A RST_STREAM with NO_ERROR behind a complete response. -/
theorem runConnection_changesOutcome :
    ∃ stream after,
      streamAt (runConnection noDecoders 4096 completeResponse).session 0 = some stream ∧
      stream.isEnded = true ∧ stream.error = none ∧
      streamAt (runConnection noDecoders 4096 (completeResponse ++
        [.reader (.dispatch ⟨0x3, 0, 1, [0, 0, 0, 0]⟩)])).session 0 = some after ∧
      finalizeStreamIntoBasket after ≠ finalizeStreamIntoBasket stream := by
  obtain ⟨stream, hslot, hended, herror, hresponse⟩ := streamAt_completeResponse
  have hview : (streamAt (runConnection noDecoders 4096 (completeResponse ++
      [.reader (.dispatch ⟨0x3, 0, 1, [0, 0, 0, 0]⟩)])).session 0).map Stream.error =
      some (some { ERR_RESPONSE_RST_STREAM_ERROR with msg := "NO_ERROR" }) := by decide
  obtain ⟨after, hafter, hfailed⟩ := Option.map_eq_some_iff.mp hview
  refine ⟨stream, after, hslot, hended, herror, hafter, ?_⟩
  rw [hresponse, finalizeStreamIntoBasket, hfailed]
  exact fun h => nomatch h

end HttpRequestClient.Http2
