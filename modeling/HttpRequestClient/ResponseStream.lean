import HttpRequestClient.Types

/-!
# The response funnel of `ResponseStream.c`

Both protocols hand the body of a response to `appendStreamPayload`.  The
funnel decodes a chunk and gives it to the caller's contract, or collects it
in the stream when there is no contract.

The decoders are libraries outside the repository.  `DecoderLib` is what the
funnel sees of them: whether a decoder can be created, and for a chunk the
decoded pieces in order and whether the chunk was decoded.

`TakesBody` names the streams that accept every chunk, and
`appendStreamPayload_takesBody` says what they receive.
-/

namespace HttpRequestClient

/-- zlib, brotli and zstd as the funnel uses them. -/
structure DecoderLib where
  /-- `initStreamDecompressor` succeeds for the encoding. -/
  init : ContentEncoding → Bool
  /-- The pieces a chunk decodes to, after the chunks fed before it. -/
  feed : ContentEncoding → List Bytes → Bytes → List Bytes × Bool

/-- No decoder library: every body is passed through. -/
def noDecoders : DecoderLib := ⟨fun _ => false, fun _ _ _ => ([], true)⟩

/-- The sink of a request.  Without a contract the library collects. -/
def buildResponseSink (decompress : Nat) (stream : Option ResponseStream) : ResponseSink :=
  { contract := stream
    decompressMask := decompress
    encoding := .identity
    decompressor := none
    delivered := 0
    error := none
    headersDelivered := false
    completed := false
    aborted := false
    cancelled := false
    cancellationTaken := false
    calls := [] }

/-! ## Encodings -/

/-- The first `content-encoding` header decides; an unknown value is
identity. -/
def detectContentEncoding : List ResponseHeader → ContentEncoding
  | [] => .identity
  | header :: headers =>
    if strcasecmp header.name (ascii "content-encoding") ≠ 0 then detectContentEncoding headers
    else if strcasecmp header.value (ascii "gzip") = 0 then .gzip
    else if strcasecmp header.value (ascii "br") = 0 then .brotli
    else if strcasecmp header.value (ascii "deflate") = 0 then .deflate
    else if strcasecmp header.value (ascii "zstd") = 0 then .zstd
    else .identity

def decodeError : ContentEncoding → Error
  | .gzip => ERR_RESPONSE_GZIP_INFLATE_FAILED
  | .brotli => ERR_RESPONSE_BROTLI_INFLATE_FAILED
  | .deflate => ERR_RESPONSE_DEFLATE_INFLATE_FAILED
  | .zstd => ERR_RESPONSE_ZSTD_INFLATE_FAILED
  | .identity => ERR_RESPONSE_INFLATE_UNKNOWN_ERROR

def buildStreamDecompressor (lib : DecoderLib) (encoding : ContentEncoding) :
    Option StreamDecompressor :=
  if encoding = .identity then none
  else if lib.init encoding then some { encoding := encoding, fed := [] }
  else none

/-! ## Headers -/

/-- The stream and its sink after the encoding of the response is known. -/
def prepareStreamDecoder (lib : DecoderLib) (stream : Stream) (sink : ResponseSink) :
    Stream × ResponseSink :=
  let sink := { sink with encoding := detectContentEncoding (stream.headers.getD []) }
  let decompressRequested := sink.decompressMask &&& sink.encoding.toNat ≠ 0
  if ¬decompressRequested ∨ sink.encoding = .identity then (stream, sink)
  else
    match buildStreamDecompressor lib sink.encoding with
    | none =>
      let stream := { stream with error := some ERR_RESPONSE_INFLATE_UNKNOWN_ERROR }
      (stream, { sink with decompressor := none, error := stream.error, cancelled := true })
    | some decompressor =>
      ({ stream with payloadDecoded := true }, { sink with decompressor := some decompressor })

def deliverResponseHeaders (lib : DecoderLib) (stream : Stream) : Stream :=
  match stream.sink with
  | none => stream
  | some sink =>
    if sink.headersDelivered then stream
    else
      let (stream, sink) :=
        prepareStreamDecoder lib stream { sink with headersDelivered := true }
      match sink.contract with
      | none => { stream with sink := some sink }
      | some _ =>
        { stream with
          sink := some { sink with
            calls := sink.calls ++ [.onHeaders (stream.headers.getD [])] } }

/-! ## Body -/

/-- Collect bytes in the stream. -/
def bufferStreamPayload (stream : Stream) (data : Bytes) : Stream :=
  { stream with combinedPayload := stream.combinedPayload ++ data }

def abortResponseSink (stream : Stream) (sink : ResponseSink) : Stream :=
  let error := some ERR_RESPONSE_STREAM_ABORTED_BY_CONSUMER
  { stream with
    sink := some { sink with aborted := true, cancelled := true, error := error }
    error := error }

/-- One delivery pass: the stream and the bytes the consumer took in it. -/
structure BodyDelivery where
  stream : Stream
  delivered : Nat

/-- Hand one decoded piece to the consumer; the answer is non-zero to stop. -/
def consumeResponseBody (delivery : BodyDelivery) (data : Bytes) : Int × BodyDelivery :=
  match delivery.stream.sink with
  | none => (0, delivery)
  | some sink =>
    match sink.contract with
    | none =>
      (0, { stream := bufferStreamPayload delivery.stream data
            delivered := delivery.delivered + data.length })
    | some contract =>
      let abortRequested := contract.onData sink.calls data
      let sink := { sink with calls := sink.calls ++ [.onData data] }
      if abortRequested = 0 then
        (0, { stream := { delivery.stream with sink := some sink }
              delivered := delivery.delivered + data.length })
      else (1, { delivery with stream := abortResponseSink delivery.stream sink })

/-- The decoded pieces in order, up to the first one that is refused. -/
def consumePieces (delivery : BodyDelivery) : List Bytes → Bool × BodyDelivery
  | [] => (false, delivery)
  | piece :: pieces =>
    let (aborted, delivery) := consumeResponseBody delivery piece
    if aborted ≠ 0 then (true, delivery) else consumePieces delivery pieces

/-- 1 when the input was consumed, 0 when the consumer stopped, -1 on a
decoding error.  No decompressor passes the chunk through. -/
def feedStreamDecompressor (lib : DecoderLib) (decompressor : Option StreamDecompressor)
    (data : Bytes) (delivery : BodyDelivery) :
    Int × Option StreamDecompressor × BodyDelivery :=
  match decompressor with
  | none =>
    let (aborted, delivery) := consumeResponseBody delivery data
    (if aborted = 0 then 1 else 0, none, delivery)
  | some decompressor =>
    let (pieces, decoded) := lib.feed decompressor.encoding decompressor.fed data
    let fed := some { decompressor with fed := decompressor.fed ++ [data] }
    let (aborted, delivery) := consumePieces delivery pieces
    (if aborted then 0 else if decoded then 1 else -1, fed, delivery)

def deliverStreamPayload (lib : DecoderLib) (stream : Stream) (sink : ResponseSink)
    (data : Bytes) : Int × Stream :=
  if sink.aborted then (-1, stream)
  else
    let (consumed, decompressor, delivery) :=
      feedStreamDecompressor lib sink.decompressor data { stream := stream, delivered := 0 }
    let stream := delivery.stream
    let sink := stream.sink.getD sink
    let sink := { sink with
      decompressor := decompressor
      delivered := sink.delivered + delivery.delivered }
    let keepReading : Int := if consumed = 1 ∧ ¬sink.aborted then 1 else -1
    if consumed < 0 ∧ sink.error = none then
      let error := some (decodeError sink.encoding)
      (keepReading,
        { stream with sink := some { sink with error := error, cancelled := true }, error := error })
    else (keepReading, { stream with sink := some sink })

/-- 1 to keep reading, -1 when no more body is wanted. -/
def appendStreamPayload (lib : DecoderLib) (stream : Stream) (data : Bytes) : Int × Stream :=
  if data.length = 0 then (1, stream)
  else
    match stream.sink with
    | none => (1, bufferStreamPayload stream data)
    | some sink => deliverStreamPayload lib stream sink data

/-- Chunks in order, up to the first one that is not wanted: whether all of
them were taken, and the stream. -/
def appendPieces (lib : DecoderLib) (stream : Stream) : List Bytes → Bool × Stream
  | [] => (true, stream)
  | piece :: pieces =>
    let (appendRc, stream) := appendStreamPayload lib stream piece
    if appendRc ≠ 1 then (false, stream) else appendPieces lib stream pieces

/-! ## End of the response -/

def completeResponseSink (stream : Stream) : Stream :=
  match stream.sink with
  | none => stream
  | some sink =>
    if sink.completed then stream
    else
      let sink := { sink with completed := true, decompressor := none }
      let error := if sink.error ≠ none then sink.error else stream.error
      match sink.contract with
      | none => { stream with sink := some sink }
      | some _ =>
        { stream with sink := some { sink with calls := sink.calls ++ [.onComplete error] } }

/-- `completeResponseSink` behind its check. -/
def finishCompletion (stream : Stream) : Stream :=
  match stream.sink with
  | none => stream
  | some sink =>
    let sink := { sink with completed := true, decompressor := none }
    let error := if sink.error ≠ none then sink.error else stream.error
    match sink.contract with
    | none => { stream with sink := some sink }
    | some _ =>
      { stream with sink := some { sink with calls := sink.calls ++ [.onComplete error] } }

/-- The callbacks of a stream were completed. -/
def Stream.completed (stream : Stream) : Bool :=
  match stream.sink with
  | none => true
  | some sink => sink.completed

theorem completeResponseSink_eq (stream : Stream) :
    completeResponseSink stream =
      if stream.completed then stream else finishCompletion stream := by
  unfold completeResponseSink finishCompletion Stream.completed
  cases stream.sink with
  | none => rfl
  | some sink => rfl

def isResponseStreaming (stream : Stream) : Bool := stream.sink.isSome

/-- Whether the teardown request is taken by this call. -/
def takeResponseCancellation (stream : Stream) : Bool × Stream :=
  match stream.sink with
  | none => (false, stream)
  | some sink =>
    if ¬sink.cancelled ∨ sink.cancellationTaken then (false, stream)
    else (true, { stream with sink := some { sink with cancellationTaken := true } })

/-! ## Several chunks -/

@[simp] theorem appendStreamPayload_nil (lib : DecoderLib) (stream : Stream) :
    appendStreamPayload lib stream [] = (1, stream) := rfl

theorem appendPieces_cons (lib : DecoderLib) (stream : Stream) (piece : Bytes)
    (pieces : List Bytes) :
    appendPieces lib stream (piece :: pieces) =
      if (appendStreamPayload lib stream piece).1 ≠ 1 then
        (false, (appendStreamPayload lib stream piece).2)
      else appendPieces lib (appendStreamPayload lib stream piece).2 pieces := rfl

theorem appendPieces_append (lib : DecoderLib) (pieces later : List Bytes) :
    ∀ stream : Stream,
      appendPieces lib stream (pieces ++ later) =
        if (appendPieces lib stream pieces).1 then
          appendPieces lib (appendPieces lib stream pieces).2 later
        else appendPieces lib stream pieces := by
  induction pieces with
  | nil => exact fun stream => rfl
  | cons piece pieces ih =>
    intro stream
    rw [List.cons_append, appendPieces_cons, appendPieces_cons]
    by_cases hrefused : (appendStreamPayload lib stream piece).1 ≠ 1
    · simp only [if_pos hrefused, Bool.false_eq_true, if_false]
    · simp only [if_neg hrefused]
      exact ih _

/-! ## What the funnel leaves alone -/

/-- The parts of a stream that belong to the frame handlers and not to the
funnel. -/
structure FunnelKeeps (before after : Stream) : Prop where
  streamId : after.streamId = before.streamId
  isEnded : after.isEnded = before.isEnded
  headers : after.headers = before.headers
  headerBlock : after.headerBlock = before.headerBlock
  awaitingContinuation : after.awaitingContinuation = before.awaitingContinuation

theorem FunnelKeeps.refl (stream : Stream) : FunnelKeeps stream stream := ⟨rfl, rfl, rfl, rfl, rfl⟩

theorem FunnelKeeps.trans {first second third : Stream} (h : FunnelKeeps first second)
    (h' : FunnelKeeps second third) : FunnelKeeps first third :=
  ⟨h'.streamId.trans h.streamId, h'.isEnded.trans h.isEnded, h'.headers.trans h.headers,
    h'.headerBlock.trans h.headerBlock, h'.awaitingContinuation.trans h.awaitingContinuation⟩

theorem prepareStreamDecoder_keeps (lib : DecoderLib) (stream : Stream) (sink : ResponseSink) :
    FunnelKeeps stream (prepareStreamDecoder lib stream sink).1 := by
  unfold prepareStreamDecoder
  simp only
  split
  · exact FunnelKeeps.refl stream
  · split <;> exact ⟨rfl, rfl, rfl, rfl, rfl⟩

theorem deliverResponseHeaders_keeps (lib : DecoderLib) (stream : Stream) :
    FunnelKeeps stream (deliverResponseHeaders lib stream) := by
  unfold deliverResponseHeaders
  split
  · exact FunnelKeeps.refl stream
  · rename_i sink _
    split
    · exact FunnelKeeps.refl stream
    · have hprepare := prepareStreamDecoder_keeps lib stream { sink with headersDelivered := true }
      simp only
      split <;> exact hprepare.trans ⟨rfl, rfl, rfl, rfl, rfl⟩

theorem consumeResponseBody_keeps (delivery : BodyDelivery) (data : Bytes) :
    FunnelKeeps delivery.stream (consumeResponseBody delivery data).2.stream := by
  unfold consumeResponseBody
  split
  · exact FunnelKeeps.refl _
  · split
    · exact ⟨rfl, rfl, rfl, rfl, rfl⟩
    · simp only
      split <;> exact ⟨rfl, rfl, rfl, rfl, rfl⟩

theorem consumePieces_keeps (pieces : List Bytes) :
    ∀ delivery : BodyDelivery,
      FunnelKeeps delivery.stream (consumePieces delivery pieces).2.stream := by
  induction pieces with
  | nil => exact fun delivery => FunnelKeeps.refl _
  | cons piece pieces ih =>
    intro delivery
    have hpiece := consumeResponseBody_keeps delivery piece
    rw [consumePieces]
    simp only
    split
    · exact hpiece
    · exact hpiece.trans (ih _)

theorem feedStreamDecompressor_keeps (lib : DecoderLib) (decompressor : Option StreamDecompressor)
    (data : Bytes) (delivery : BodyDelivery) :
    FunnelKeeps delivery.stream
      (feedStreamDecompressor lib decompressor data delivery).2.2.stream := by
  unfold feedStreamDecompressor
  split
  · exact consumeResponseBody_keeps delivery data
  · exact consumePieces_keeps _ delivery

theorem appendStreamPayload_keeps (lib : DecoderLib) (stream : Stream) (data : Bytes) :
    FunnelKeeps stream (appendStreamPayload lib stream data).2 := by
  unfold appendStreamPayload
  split
  · exact FunnelKeeps.refl stream
  · split
    · exact ⟨rfl, rfl, rfl, rfl, rfl⟩
    · rename_i sink _
      unfold deliverStreamPayload
      split
      · exact FunnelKeeps.refl stream
      · have hfeed := feedStreamDecompressor_keeps lib sink.decompressor data
          { stream := stream, delivered := 0 }
        simp only
        split <;> exact hfeed.trans ⟨rfl, rfl, rfl, rfl, rfl⟩

theorem completeResponseSink_keeps (stream : Stream) :
    FunnelKeeps stream (completeResponseSink stream) ∧
      (completeResponseSink stream).error = stream.error := by
  unfold completeResponseSink
  split
  · exact ⟨FunnelKeeps.refl stream, rfl⟩
  · split
    · exact ⟨FunnelKeeps.refl stream, rfl⟩
    · simp only
      split <;> exact ⟨⟨rfl, rfl, rfl, rfl, rfl⟩, rfl⟩

theorem takeResponseCancellation_keeps (stream : Stream) :
    FunnelKeeps stream (takeResponseCancellation stream).2 ∧
      (takeResponseCancellation stream).2.error = stream.error := by
  unfold takeResponseCancellation
  split
  · exact ⟨FunnelKeeps.refl stream, rfl⟩
  · split
    · exact ⟨FunnelKeeps.refl stream, rfl⟩
    · exact ⟨⟨rfl, rfl, rfl, rfl, rfl⟩, rfl⟩

/-! ## A sink stays -/

theorem appendStreamPayload_streaming (lib : DecoderLib) {stream : Stream} (data : Bytes)
    (h : isResponseStreaming stream = true) :
    isResponseStreaming (appendStreamPayload lib stream data).2 = true := by
  unfold appendStreamPayload
  split
  · exact h
  · split
    · rename_i hnone
      rw [isResponseStreaming, hnone] at h
      cases h
    · unfold deliverStreamPayload
      split
      · exact h
      · dsimp only
        split <;> rfl

theorem deliverResponseHeaders_streaming (lib : DecoderLib) {stream : Stream}
    (h : isResponseStreaming stream = true) :
    isResponseStreaming (deliverResponseHeaders lib stream) = true := by
  unfold deliverResponseHeaders
  split
  · exact h
  · split
    · exact h
    · dsimp only
      split <;> rfl

theorem completeResponseSink_streaming {stream : Stream} (h : isResponseStreaming stream = true) :
    isResponseStreaming (completeResponseSink stream) = true := by
  unfold completeResponseSink
  split
  · exact h
  · split
    · exact h
    · dsimp only
      split <;> rfl

theorem finishCompletion_streaming {stream : Stream} (h : isResponseStreaming stream = true) :
    isResponseStreaming (finishCompletion stream) = true := by
  unfold finishCompletion
  split
  · exact h
  · dsimp only
    split <;> rfl

theorem takeResponseCancellation_streaming {stream : Stream}
    (h : isResponseStreaming stream = true) :
    isResponseStreaming (takeResponseCancellation stream).2 = true := by
  unfold takeResponseCancellation
  split
  · exact h
  · split
    · exact h
    · rfl

/-! ## An error stays -/

theorem consumeResponseBody_failed (delivery : BodyDelivery) (data : Bytes)
    (h : delivery.stream.error ≠ none) : (consumeResponseBody delivery data).2.stream.error ≠ none := by
  unfold consumeResponseBody
  split
  · exact h
  · split
    · exact h
    · dsimp only
      split
      · exact h
      · exact Option.some_ne_none _

theorem consumePieces_failed (pieces : List Bytes) :
    ∀ delivery : BodyDelivery, delivery.stream.error ≠ none →
      (consumePieces delivery pieces).2.stream.error ≠ none := by
  induction pieces with
  | nil => exact fun delivery h => h
  | cons piece pieces ih =>
    intro delivery h
    have hpiece := consumeResponseBody_failed delivery piece h
    rw [consumePieces]
    dsimp only
    split
    · exact hpiece
    · exact ih _ hpiece

theorem feedStreamDecompressor_failed (lib : DecoderLib) (decompressor : Option StreamDecompressor)
    (data : Bytes) (delivery : BodyDelivery) (h : delivery.stream.error ≠ none) :
    (feedStreamDecompressor lib decompressor data delivery).2.2.stream.error ≠ none := by
  unfold feedStreamDecompressor
  split
  · exact consumeResponseBody_failed delivery data h
  · exact consumePieces_failed _ delivery h

/-- The error of a stream is not taken back by its body. -/
theorem appendStreamPayload_failed (lib : DecoderLib) (stream : Stream) (data : Bytes)
    (h : stream.error ≠ none) : (appendStreamPayload lib stream data).2.error ≠ none := by
  unfold appendStreamPayload
  split
  · exact h
  · split
    · exact h
    · rename_i sink _
      unfold deliverStreamPayload
      split
      · exact h
      · have hfed := feedStreamDecompressor_failed lib sink.decompressor data
          { stream := stream, delivered := 0 } h
        dsimp only
        split
        · exact Option.some_ne_none _
        · exact hfed

/-! ## What a chunk that is wanted changes -/

/-- The error and the teardown request of a stream are the same. -/
structure Unstopped (before after : Stream) : Prop where
  error : after.error = before.error
  cancellation : (takeResponseCancellation after).1 = (takeResponseCancellation before).1

theorem Unstopped.refl (stream : Stream) : Unstopped stream stream := ⟨rfl, rfl⟩

theorem Unstopped.trans {first second third : Stream} (h : Unstopped first second)
    (h' : Unstopped second third) : Unstopped first third :=
  ⟨h'.error.trans h.error, h'.cancellation.trans h.cancellation⟩

/-- The teardown request is in the sink. -/
theorem Unstopped.of_sink {before after : Stream} {sink sink' : ResponseSink}
    (hbefore : before.sink = some sink) (hafter : after.sink = some sink')
    (herror : after.error = before.error) (hcancelled : sink'.cancelled = sink.cancelled)
    (htaken : sink'.cancellationTaken = sink.cancellationTaken) : Unstopped before after := by
  refine ⟨herror, ?_⟩
  rw [takeResponseCancellation, takeResponseCancellation, hbefore, hafter]
  simp only [hcancelled, htaken]
  split <;> rfl

theorem consumeResponseBody_unstopped (delivery : BodyDelivery) (data : Bytes)
    (h : (consumeResponseBody delivery data).1 = 0) :
    Unstopped delivery.stream (consumeResponseBody delivery data).2.stream := by
  unfold consumeResponseBody at h ⊢
  cases hsink : delivery.stream.sink with
  | none => exact Unstopped.refl _
  | some sink =>
    simp only [hsink] at h ⊢
    cases hcontract : sink.contract with
    | none => exact Unstopped.of_sink hsink hsink rfl rfl rfl
    | some contract =>
      simp only [hcontract] at h ⊢
      split at h
      · rename_i hanswer
        simp only [if_pos hanswer]
        exact Unstopped.of_sink hsink rfl rfl rfl rfl
      · cases h

theorem consumePieces_unstopped (pieces : List Bytes) :
    ∀ delivery : BodyDelivery, (consumePieces delivery pieces).1 = false →
      Unstopped delivery.stream (consumePieces delivery pieces).2.stream := by
  induction pieces with
  | nil => exact fun delivery _ => Unstopped.refl _
  | cons piece pieces ih =>
    intro delivery h
    rw [consumePieces] at h ⊢
    simp only at h ⊢
    split at h
    · cases h
    · rename_i hanswer
      rw [if_neg hanswer]
      exact (consumeResponseBody_unstopped delivery piece (Decidable.not_not.mp hanswer)).trans
        (ih _ h)

theorem feedStreamDecompressor_unstopped (lib : DecoderLib)
    (decompressor : Option StreamDecompressor) (data : Bytes) (delivery : BodyDelivery)
    (h : (feedStreamDecompressor lib decompressor data delivery).1 = 1) :
    Unstopped delivery.stream
      (feedStreamDecompressor lib decompressor data delivery).2.2.stream := by
  unfold feedStreamDecompressor at h ⊢
  cases decompressor with
  | none =>
    simp only at h ⊢
    split at h
    · rename_i hanswer
      exact consumeResponseBody_unstopped delivery data hanswer
    · cases h
  | some decompressor =>
    simp only at h ⊢
    split at h
    · cases h
    · rename_i hanswer
      exact consumePieces_unstopped _ delivery (Bool.eq_false_iff.mpr hanswer)

theorem deliverStreamPayload_unstopped (lib : DecoderLib) {stream : Stream} {sink : ResponseSink}
    (hsink : stream.sink = some sink) (data : Bytes)
    (h : (deliverStreamPayload lib stream sink data).1 = 1) :
    Unstopped stream (deliverStreamPayload lib stream sink data).2 := by
  unfold deliverStreamPayload at h ⊢
  split at h
  · cases h
  · rename_i haborted
    rw [if_neg haborted]
    have hfeed := feedStreamDecompressor_unstopped lib sink.decompressor data
      { stream := stream, delivered := 0 }
    generalize feedStreamDecompressor lib sink.decompressor data
      { stream := stream, delivered := 0 } = answer at h hfeed ⊢
    obtain ⟨consumed, decompressor, fed, delivered⟩ := answer
    simp only at h hfeed ⊢
    have hconsumed : consumed = 1 := by
      by_contra hne
      simp only [hne, false_and, if_false] at h
      split at h <;> cases h
    subst hconsumed
    simp only [Int.reduceLT, false_and, if_false]
    cases hfed : fed.sink with
    | none => exact Unstopped.of_sink hsink rfl (hfeed rfl).error rfl rfl
    | some sink' => exact (hfeed rfl).trans (Unstopped.of_sink hfed rfl rfl rfl rfl)

/-- A chunk that is wanted leaves the error and the teardown request. -/
theorem appendStreamPayload_unstopped (lib : DecoderLib) (stream : Stream) (data : Bytes)
    (h : (appendStreamPayload lib stream data).1 = 1) :
    Unstopped stream (appendStreamPayload lib stream data).2 := by
  unfold appendStreamPayload at h ⊢
  split at h
  · rename_i hnil
    rw [if_pos hnil]
    exact Unstopped.refl stream
  · rename_i hnil
    rw [if_neg hnil]
    cases hsink : stream.sink with
    | none =>
      refine ⟨rfl, ?_⟩
      simp only [takeResponseCancellation, bufferStreamPayload, hsink]
    | some sink =>
      simp only [hsink] at h ⊢
      exact deliverStreamPayload_unstopped lib hsink data h

theorem appendPieces_unstopped (lib : DecoderLib) (pieces : List Bytes) :
    ∀ stream : Stream, (appendPieces lib stream pieces).1 = true →
      Unstopped stream (appendPieces lib stream pieces).2 := by
  induction pieces with
  | nil => exact fun stream _ => Unstopped.refl stream
  | cons piece pieces ih =>
    intro stream h
    rw [appendPieces_cons] at h ⊢
    split at h
    · cases h
    · rename_i hwanted
      rw [if_neg hwanted]
      exact (appendStreamPayload_unstopped lib stream piece (Decidable.not_not.mp hwanted)).trans
        (ih _ h)

theorem appendPieces_keeps (lib : DecoderLib) (pieces : List Bytes) :
    ∀ stream : Stream, FunnelKeeps stream (appendPieces lib stream pieces).2 := by
  induction pieces with
  | nil => exact fun stream => FunnelKeeps.refl stream
  | cons piece pieces ih =>
    intro stream
    have hpiece := appendStreamPayload_keeps lib stream piece
    rw [appendPieces_cons]
    split
    · exact hpiece
    · exact hpiece.trans (ih _)

/-! ## Streams that take every chunk -/

/-- A stream that nothing was received on. -/
structure Fresh (stream : Stream) : Prop where
  headers : stream.headers = some []
  payload : stream.combinedPayload = []
  error : stream.error = none
  sink : ∀ sink, stream.sink = some sink → sink.headersDelivered = false ∧
    sink.decompressor = none ∧ sink.aborted = false ∧ sink.cancelled = false ∧
    sink.cancellationTaken = false

/-- The body is not decoded, and the consumer never stops it. -/
structure TakesBody (stream : Stream) : Prop where
  sink : ∀ sink, stream.sink = some sink → sink.decompressor = none ∧ sink.aborted = false ∧
    ∀ contract, sink.contract = some contract → ∀ calls data, contract.onData calls data = 0

/-- The bytes of a callback. -/
def Callback.data : Callback → Bytes
  | .onData data => data
  | .onHeaders _ => []
  | .onComplete _ => []

/-- The body bytes that the consumer got: the contract with its calls, or
the collector. -/
def Stream.received (stream : Stream) : Bytes :=
  match stream.sink with
  | none => stream.combinedPayload
  | some sink =>
    match sink.contract with
    | none => stream.combinedPayload
    | some _ => (sink.calls.map Callback.data).flatten

/-- The library collects the body. -/
def Stream.collecting (stream : Stream) : Bool :=
  match stream.sink with
  | none => true
  | some sink => sink.contract.isNone

theorem Stream.received_of_collecting {stream : Stream} (h : stream.collecting = true) :
    stream.received = stream.combinedPayload := by
  unfold Stream.received
  unfold Stream.collecting at h
  cases hsink : stream.sink with
  | none => rfl
  | some sink =>
    rw [hsink] at h
    simp only [Option.isNone_iff_eq_none.mp h]

theorem appendStreamPayload_takesBody (lib : DecoderLib) {stream : Stream} (h : TakesBody stream)
    (data : Bytes) :
    (appendStreamPayload lib stream data).1 = 1 ∧
      TakesBody (appendStreamPayload lib stream data).2 ∧
      (appendStreamPayload lib stream data).2.received = stream.received ++ data ∧
      (appendStreamPayload lib stream data).2.collecting = stream.collecting := by
  by_cases hnil : data = []
  · subst hnil
    exact ⟨rfl, h, (List.append_nil _).symm, rfl⟩
  · have hlength : ¬ data.length = 0 := fun h0 => hnil (List.eq_nil_of_length_eq_zero h0)
    rw [appendStreamPayload, if_neg hlength]
    cases hsink : stream.sink with
    | none =>
      simp only
      refine ⟨trivial, ⟨fun sink hs => ?_⟩, ?_⟩
      · rw [bufferStreamPayload, hsink] at hs
        cases hs
      · simp [Stream.received, Stream.collecting, bufferStreamPayload, hsink]
    | some sink =>
      obtain ⟨hdecompressor, haborted, honData⟩ := h.sink sink hsink
      simp only [deliverStreamPayload, haborted, Bool.false_eq_true, if_false, hdecompressor,
        feedStreamDecompressor, consumeResponseBody, hsink]
      cases hcontract : sink.contract with
      | none =>
        simp only [bufferStreamPayload, hsink, Option.getD_some, haborted, if_true,
          Bool.false_eq_true, not_false_eq_true, and_self, Int.reduceLT, false_and, if_false]
        refine ⟨trivial, ⟨fun sink' hs => ?_⟩, ?_⟩
        · rw [Option.some.injEq] at hs
          subst hs
          exact ⟨rfl, rfl, honData⟩
        · simp only [Stream.received, Stream.collecting, hsink, hcontract, and_self]
      | some contract =>
        simp only [honData contract hcontract, Option.getD_some, if_true,
          Bool.false_eq_true, not_false_eq_true, and_self, Int.reduceLT, false_and, if_false]
        refine ⟨trivial, ⟨fun sink' hs => ?_⟩, ?_⟩
        · rw [Option.some.injEq] at hs
          subst hs
          exact ⟨rfl, rfl, fun c hc => honData c (hcontract.trans hc)⟩
        · simp [Stream.received, Stream.collecting, hsink, hcontract, Callback.data]

theorem appendPieces_takesBody (lib : DecoderLib) (pieces : List Bytes) :
    ∀ stream : Stream, TakesBody stream →
      (appendPieces lib stream pieces).1 = true ∧
        (appendPieces lib stream pieces).2.received = stream.received ++ pieces.flatten ∧
        (appendPieces lib stream pieces).2.collecting = stream.collecting := by
  induction pieces with
  | nil => exact fun stream _ => ⟨rfl, by simp [appendPieces], rfl⟩
  | cons piece pieces ih =>
    intro stream h
    obtain ⟨hrc, htakes, hreceived, hcollecting⟩ := appendStreamPayload_takesBody lib h piece
    rw [appendPieces_cons, if_neg (fun hne => hne hrc), List.flatten_cons, ← List.append_assoc,
      ← hreceived, ← hcollecting]
    exact ih _ htakes

theorem prepareStreamDecoder_cancels (lib : DecoderLib) {stream : Stream} (sink : ResponseSink)
    (herror : stream.error = none) (htaken : sink.cancellationTaken = false)
    (h : (prepareStreamDecoder lib stream sink).1.error ≠ none) :
    (prepareStreamDecoder lib stream sink).2.cancelled = true ∧
      (prepareStreamDecoder lib stream sink).2.cancellationTaken = false := by
  unfold prepareStreamDecoder at h ⊢
  simp only at h ⊢
  split at h
  · exact absurd herror h
  · rename_i hdecode
    rw [if_neg hdecode]
    split at h
    · exact ⟨rfl, htaken⟩
    · exact absurd herror h

/-- A decoder that cannot be created is an error with a teardown request. -/
theorem deliverResponseHeaders_cancels (lib : DecoderLib) {stream : Stream}
    (herror : stream.error = none)
    (hsink : ∀ sink, stream.sink = some sink → sink.cancellationTaken = false)
    (h : (deliverResponseHeaders lib stream).error ≠ none) :
    (takeResponseCancellation (deliverResponseHeaders lib stream)).1 = true := by
  unfold deliverResponseHeaders at h ⊢
  cases hsome : stream.sink with
  | none =>
    simp only [hsome] at h
    exact absurd herror h
  | some sink =>
    simp only [hsome] at h ⊢
    split at h
    · exact absurd herror h
    · rename_i hdelivered
      rw [if_neg hdelivered]
      have hprepare := prepareStreamDecoder_cancels lib { sink with headersDelivered := true }
        herror (hsink sink hsome)
      generalize prepareStreamDecoder lib stream { sink with headersDelivered := true } = prepared
        at h hprepare ⊢
      obtain ⟨stream', sink'⟩ := prepared
      simp only at h hprepare ⊢
      cases hcontract : sink'.contract with
      | none =>
        simp only [hcontract] at h
        obtain ⟨hcancelled, htaken⟩ := hprepare h
        simp [takeResponseCancellation, hcancelled, htaken]
      | some contract =>
        simp only [hcontract] at h
        obtain ⟨hcancelled, htaken⟩ := hprepare h
        simp [takeResponseCancellation, hcancelled, htaken]

/-- Whether the headers ask for no decoding and the consumer takes all. -/
structure Passes (headers : List ResponseHeader) (stream : Stream) : Prop where
  sink : ∀ sink, stream.sink = some sink →
    sink.decompressMask &&& (detectContentEncoding headers).toNat = 0 ∧
    ∀ contract, sink.contract = some contract → ∀ calls data, contract.onData calls data = 0

theorem prepareStreamDecoder_passes (lib : DecoderLib) (stream : Stream) (sink : ResponseSink)
    (h : sink.decompressMask &&& (detectContentEncoding (stream.headers.getD [])).toNat = 0) :
    prepareStreamDecoder lib stream sink =
      (stream, { sink with encoding := detectContentEncoding (stream.headers.getD []) }) := by
  unfold prepareStreamDecoder
  simp [h]

/-- The headers make a fresh stream that takes every chunk. -/
theorem deliverResponseHeaders_passes (lib : DecoderLib) {stream : Stream}
    (hsink : ∀ sink, stream.sink = some sink → sink.headersDelivered = false ∧
      sink.decompressor = none ∧ sink.aborted = false ∧ sink.cancelled = false ∧
      sink.cancellationTaken = false)
    (hpasses : Passes (stream.headers.getD []) stream) :
    (deliverResponseHeaders lib stream).error = stream.error ∧
      TakesBody (deliverResponseHeaders lib stream) ∧
      (deliverResponseHeaders lib stream).received = stream.received ∧
      (deliverResponseHeaders lib stream).collecting = stream.collecting := by
  cases hsome : stream.sink with
  | none =>
    have heq : deliverResponseHeaders lib stream = stream := by
      rw [deliverResponseHeaders, hsome]
    rw [heq]
    exact ⟨rfl, ⟨fun sink hs => by rw [hsome] at hs; cases hs⟩, rfl, rfl⟩
  | some sink =>
    obtain ⟨hdelivered, hdecompressor, haborted, -, -⟩ := hsink sink hsome
    obtain ⟨hmask, honData⟩ := hpasses.sink sink hsome
    have hprepare := prepareStreamDecoder_passes lib stream
      { sink with headersDelivered := true } hmask
    rw [deliverResponseHeaders, hsome]
    simp only [hdelivered, Bool.false_eq_true, if_false, hprepare]
    cases hcontract : sink.contract with
    | none =>
      refine ⟨rfl, ⟨fun sink' hs => ?_⟩, ?_⟩
      · rw [Option.some.injEq] at hs
        subst hs
        exact ⟨hdecompressor, haborted, fun c hc => honData c (hcontract.trans hc)⟩
      · simp only [Stream.received, Stream.collecting, hsome, hcontract, and_self]
    | some contract =>
      refine ⟨rfl, ⟨fun sink' hs => ?_⟩, ?_⟩
      · rw [Option.some.injEq] at hs
        subst hs
        exact ⟨hdecompressor, haborted, fun c hc => honData c (hcontract.trans hc)⟩
      · simp [Stream.received, Stream.collecting, hsome, hcontract, Callback.data]

end HttpRequestClient
