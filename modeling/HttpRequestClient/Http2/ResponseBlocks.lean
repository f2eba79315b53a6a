import HttpRequestClient.Http2.DataFrames
import HttpRequestClient.Http2.SplitBlocks
import HttpRequestClient.ResponsePayload

/-!
# The header blocks of a response

A response may have informational blocks before its final one, and trailers
behind its body.  `decodeHeadersFrame` decodes them all into the headers of the
stream and clears these first, so the basket gets the headers of the last
block.  `deliverResponseHeaders` delivers headers once, so the consumer and the
content decoder get those of the first block.

* `storedHeaders_contain_iff`: the headers in the basket have the fields of the
  final block, if and only if there are no trailers to be decoded, or the
  trailers have these fields.
* `tookHeaders_final_iff`: the headers that are delivered are those of the
  final block, if and only if it is the first one.  Without a contract it is
  enough that the first block has the same coding.
-/

namespace HttpRequestClient.Http2

open Hpack Rfc7541 Runs

/-! ## Blocks of a stream -/

/-- A block, and the session it finds: between two blocks of a stream there may
be those of other streams. -/
structure ReceivedBlock where
  session : Session
  cut : HeadersCut

/-- The headers that the block is decoded to. -/
def ReceivedBlock.fields (block : ReceivedBlock) : List ResponseHeader :=
  (decodeHeadersFrame (newStream 1 none) block.cut.block block.session.hpackCtx).1.headers.getD []

section Blocks

variable (lib : DecoderLib) (streamId : Nat)

/-- The stream behind the frames of a block. -/
def processBlock (stream : Stream) (block : ReceivedBlock) : Stream :=
  (processFrames lib block.session stream (block.cut.frames streamId)).2

/-- The stream behind the DATA frames of a body. -/
def processBody (session : Session) (stream : Stream) (body : List DataFrame) : Stream :=
  (processFrames lib session stream (body.map (DataFrame.frame streamId))).2

end Blocks

variable {lib : DecoderLib} {streamId : Nat} {stream : Stream} {block : ReceivedBlock}

theorem decodeHeadersFrame_error (payload : Bytes) (ctx : HpackContext)
    (h : (decodeHeadersFrame stream payload ctx).1.error = none) : stream.error = none := by
  cases decodeHeadersFrame_mayFail stream payload ctx with
  | inl hkept => exact hkept.symm.trans h
  | inr hfailed => exact absurd (hfailed.symm.trans h) (Option.some_ne_none _)

theorem delivered_error (h : (delivered lib stream).error = none) : stream.error = none := by
  rw [delivered] at h
  split at h
  · rename_i hnone
    exact hnone
  · exact h

/-- A block into a stream without error: the stored headers are cleared, unless
the block has no octets. -/
theorem decodeHeadersFrame_received {stored : List ResponseHeader}
    (hstored : stream.headers = some stored) (herror : stream.error = none) (payload : Bytes)
    (ctx : HpackContext) :
    (decodeHeadersFrame stream payload ctx).1.headers =
      if payload = [] then stream.headers
      else some ((decodeHeadersFrame (newStream 1 none) payload ctx).1.headers.getD []) := by
  split
  · rename_i hnil
    rw [hnil]
    rfl
  · rename_i hoctets
    have hcleared := decodeHeadersFrame_clears stream stored [] hoctets ctx
    have hkept : { stream with headers := some stored } = stream := by rw [← hstored]
    rw [hkept] at hcleared
    have halike := decodeHeadersFrame_alike (newStream 1 none) { stream with headers := some [] } rfl
      herror payload ctx
    have hbuffer : (newStream 1 none).headers = some [] := rfl
    obtain ⟨headers, hheaders⟩ := decodeHeadersFrame_buffer hbuffer payload ctx
    rw [hcleared, halike, hheaders]
    rfl

/-- A block that leaves no error was decoded into the headers of the stream. -/
theorem processBlock_received (h : (processBlock lib streamId stream block).error = none) :
    stream.error = none ∧
      (processBlock lib streamId stream block).headers =
        (decodeHeadersFrame stream block.cut.block block.session.hpackCtx).1.headers := by
  by_cases hwhole : block.cut.continuations = []
  · rw [processBlock, processFrames_one hwhole] at h ⊢
    dsimp only at h ⊢
    rw [(settle_keeps _).2] at h
    rw [(settle_keeps _).1]
    have hdecoded := delivered_error h
    exact ⟨decodeHeadersFrame_error _ _ hdecoded, (delivered_keeps lib _).1.headers⟩
  · obtain ⟨hheaders, herror⟩ := settle_keeps (ending stream block.cut.endStream)
    have hfirst := decodeHeadersFrame_alike stream (settle (ending stream block.cut.endStream))
      hheaders herror block.cut.block block.session.hpackCtx
    rw [processBlock, processFrames_split hwhole] at h ⊢
    dsimp only at h ⊢
    split at h
    · rename_i hnone
      rw [if_pos hnone]
      have hdecoded := delivered_keeps lib (decodeBlock block.session
        (settle (ending stream block.cut.endStream)) block.cut.block).2
      refine ⟨herror.symm.trans hnone, (settle_keeps _).1.trans (hdecoded.1.headers.trans ?_)⟩
      exact congrArg (fun after => after.1.headers) hfirst
    · rename_i hfailed
      exact absurd h hfailed

/-! ## The body -/

theorem processFrame_dataFrame (lib : DecoderLib) (streamId : Nat) (session : Session)
    (stream : Stream) (sent : DataFrame) :
    (processFrame lib (session, stream) (sent.frame streamId)).2 =
      settle (ending (appendStreamPayload lib stream sent.payload).2 sent.endStream) := by
  have hhandled := handleStreamFrame_data lib session stream
    (show (sent.frame streamId).type = 0x0 from rfl)
  rw [(sent.frame_flags streamId).1] at hhandled
  rw [processFrame, streamAfter, endStreamReading_settle, hhandled]
  cases hend : sent.endStream with
  | true => rw [if_pos rfl, ending, Bool.or_true]; rfl
  | false => rw [if_neg Bool.false_ne_true, ending_false]; rfl

/-- A body leaves the headers and an error. -/
theorem processBody_keeps (lib : DecoderLib) (streamId : Nat) (body : List DataFrame) :
    ∀ (session : Session) (stream : Stream),
      (processBody lib streamId session stream body).headers = stream.headers ∧
        ((processBody lib streamId session stream body).error = none → stream.error = none) := by
  induction body with
  | nil => exact fun session stream => ⟨rfl, id⟩
  | cons sent body ih =>
    intro session stream
    have hframe := processFrame_dataFrame lib streamId session stream sent
    obtain ⟨hheaders, herror⟩ := settle_keeps
      (ending (appendStreamPayload lib stream sent.payload).2 sent.endStream)
    rw [← hframe] at hheaders herror
    obtain ⟨hkept, hnone⟩ := ih (processFrame lib (session, stream) (sent.frame streamId)).1
      (processFrame lib (session, stream) (sent.frame streamId)).2
    refine ⟨hkept.trans (hheaders.trans (appendStreamPayload_keeps lib stream sent.payload).headers),
      fun h => ?_⟩
    by_contra hfailed
    exact appendStreamPayload_failed lib stream sent.payload hfailed
      (herror.symm.trans (hnone h))

/-! ## Trailers -/

/-- A response with trailers. -/
structure TrailedResponse where
  final : ReceivedBlock
  body : List DataFrame
  trailers : ReceivedBlock
  final_open : final.cut.endStream = false
  body_open : ∀ sent ∈ body, sent.endStream = false
  trailers_end : trailers.cut.endStream = true

namespace TrailedResponse

variable (response : TrailedResponse)

/-- The stream when so many frames of the trailers have arrived.  The first of
them ends the stream. -/
def received (lib : DecoderLib) (streamId : Nat) (sink : Option ResponseSink) (arrived : Nat) :
    Stream :=
  let headed := processBlock lib streamId (newStream streamId sink) response.final
  let read := processBody lib streamId response.final.session headed response.body
  (processFrames lib response.trailers.session read
    ((response.trailers.cut.frames streamId).take arrived)).2

/-- The trailers have octets, and the last of their frames has arrived. -/
def trailersDecoded (arrived : Nat) : Prop :=
  response.trailers.cut.block ≠ [] ∧ response.trailers.cut.continuations.length < arrived

instance decidableTrailersDecoded (arrived : Nat) :
    Decidable (response.trailersDecoded arrived) :=
  inferInstanceAs (Decidable (_ ∧ _))

end TrailedResponse

/-- Every field that the block stands for is among the headers. -/
def ContainsFields (block : ReceivedBlock) (headers : List ResponseHeader) : Prop :=
  ∀ reps table fields, BlockOctets IntegerOctets reps block.cut.block →
    (tableOf block.session.hpackCtx).run reps = some (table, fields) →
      ∀ field ∈ fields, field ∈ headers

/-- The block is one that the decoder can read, and stands for these fields. -/
def Readable (block : ReceivedBlock) (fields : List HeaderField) : Prop :=
  ∃ reps table, BlockOctets shortForm reps block.cut.block ∧
    (tableOf block.session.hpackCtx).run reps = some (table, fields) ∧
    (∀ rep ∈ reps, fieldReadable rep) ∧ fields.length ≤ RESPONSE_HEADERS_MAX_SIZE

theorem Readable.fields_eq {fields : List HeaderField} (h : Readable block fields) :
    block.fields = fields := by
  obtain ⟨reps, table, hoctets, hrun, hclean, hfew⟩ := h
  have hbuffer : (newStream 1 none).headers = some [] := rfl
  have hdecoded := (decodeHeadersFrame_fields hoctets hrun hclean hfew hbuffer fun _ => rfl).1
  rw [ReceivedBlock.fields, hdecoded]
  rfl

theorem HeadersCut.length_frames (cut : HeadersCut) (streamId : Nat) :
    (cut.frames streamId).length = cut.continuations.length + 1 := by
  have hcontinuations : ∀ fragments : List Bytes,
      (continuationFrames streamId fragments).length = fragments.length := by
    intro fragments
    induction fragments with
    | nil => rfl
    | cons fragment fragments ih => rw [continuationFrames, List.length_cons, ih, List.length_cons]
  rw [HeadersCut.frames, List.length_cons, hcontinuations]

/-- The frames before the last one of a block decode nothing. -/
theorem processFrames_take (lib : DecoderLib) (streamId : Nat) (block : ReceivedBlock)
    (stream : Stream) {arrived : Nat} (h : arrived ≤ block.cut.continuations.length) :
    let waiting := (processFrames lib block.session stream
      ((block.cut.frames streamId).take arrived)).2
    waiting.headers = stream.headers ∧ waiting.error = stream.error := by
  cases arrived with
  | zero => exact ⟨rfl, rfl⟩
  | succ arrived =>
    have hsplit : block.cut.continuations ≠ [] := List.length_pos_iff.mp (by omega)
    rw [HeadersCut.frames, List.take_succ_cons, processFrames, run_cons,
      processFrame_headers_open hsplit]
    have hopen : run (processFrame lib) (block.session,
          buffering (settle (ending stream block.cut.endStream)) block.cut.first true)
        ((continuationFrames streamId block.cut.continuations).take arrived) = _ :=
      processFrames_continuations_open (settle_settle _) _ arrived _ h
    rw [hopen]
    exact settle_keeps (ending stream block.cut.endStream)

/-- The headers of a stream that has received a response. -/
theorem received_headers (response : TrailedResponse) (sink : Option ResponseSink) (arrived : Nat)
    (h : (response.received lib streamId sink arrived).error = none) :
    (response.received lib streamId sink arrived).headers =
      some (if response.trailersDecoded arrived then response.trailers.fields
        else response.final.fields) := by
  let headed := processBlock lib streamId (newStream streamId sink) response.final
  let read := processBody lib streamId response.final.session headed response.body
  obtain ⟨hbody, hnone⟩ := processBody_keeps lib streamId response.body response.final.session headed
  have hread : read.error = none → read.headers = some response.final.fields := by
    intro herror
    obtain ⟨-, hheaders⟩ := processBlock_received (hnone herror)
    rw [hbody, hheaders, decodeHeadersFrame_received rfl rfl]
    split
    · rename_i hnil
      rw [ReceivedBlock.fields, hnil]
      rfl
    · rfl
  by_cases harrived : response.trailers.cut.continuations.length < arrived
  · have hwhole : response.received lib streamId sink arrived =
        processBlock lib streamId read response.trailers := by
      have htake : (response.trailers.cut.frames streamId).take arrived =
          response.trailers.cut.frames streamId := by
        refine List.take_of_length_le ?_
        rw [HeadersCut.length_frames]
        omega
      rw [TrailedResponse.received, htake]
      rfl
    rw [hwhole] at h ⊢
    obtain ⟨herror, hheaders⟩ := processBlock_received h
    rw [hheaders, decodeHeadersFrame_received (hread herror) herror, hread herror]
    by_cases hnil : response.trailers.cut.block = []
    · rw [if_pos hnil, if_neg fun hdecoded => hdecoded.1 hnil]
    · rw [if_neg hnil, if_pos ⟨hnil, harrived⟩]
      rfl
  · obtain ⟨hheaders, herror⟩ := processFrames_take lib streamId response.trailers read
      (Nat.le_of_not_lt harrived)
    rw [if_neg fun hdecoded => harrived hdecoded.2]
    exact hheaders.trans (hread (herror.symm.trans h))

/-- The headers in the basket have the fields of the final block, if and only
if the block that was decoded last has them: the trailers, once they are
decoded.  Of blocks that the decoder can read, what counts are the fields that
they stand for. -/
theorem storedHeaders_contain_iff (lib : DecoderLib) (payloadLib : PayloadLib) (streamId : Nat)
    (sink : Option ResponseSink) (basket : AnswerBasket) (response : TrailedResponse)
    (arrived : Nat) (hreceived : (response.received lib streamId sink arrived).error = none) :
    let stored := (HttpRequestClient.finalizeStreamIntoBasket payloadLib basket
      (response.received lib streamId sink arrived)).1.responseHeaders.getD []
    (ContainsFields response.final stored ↔
      if response.trailersDecoded arrived then
        ContainsFields response.final response.trailers.fields
      else ContainsFields response.final response.final.fields) ∧
    ∀ fields trailing, Readable response.final fields → Readable response.trailers trailing →
      ((∀ field ∈ fields, field ∈ stored) ↔
        (response.trailersDecoded arrived → ∀ field ∈ fields, field ∈ trailing)) := by
  intro stored
  have hstored : stored =
      if response.trailersDecoded arrived then response.trailers.fields
      else response.final.fields := by
    show (HttpRequestClient.finalizeStreamIntoBasket payloadLib basket _).1.responseHeaders.getD []
      = _
    rw [finalizeStreamIntoBasket_headers payloadLib basket hreceived,
      received_headers response sink arrived hreceived, Option.getD_some]
  rw [hstored]
  constructor
  · split
    · exact Iff.rfl
    · exact Iff.rfl
  · intro fields trailing hfinal htrailers
    rw [hfinal.fields_eq, htrailers.fields_eq]
    split
    · rename_i hdecoded
      exact ⟨fun h _ => h, fun h => h hdecoded⟩
    · rename_i hkept
      exact iff_of_true (fun _ hfield => hfield) fun hdecoded => absurd hdecoded hkept

/-- `:status: 200`, a body and the trailer `a: b`. -/
def okWithTrailers : TrailedResponse where
  final := ⟨initSession 4096, ⟨false, none, none, [0x88], [], by simp, by simp⟩⟩
  body := [⟨ascii "hi", none, false⟩]
  trailers := ⟨initSession 4096, ⟨true, none, none, [0, 1, 0x61, 1, 0x62], [], by simp, by simp⟩⟩
  final_open := rfl
  body_open := by simp
  trailers_end := rfl

/-- The same with a trailer that is cut in two. -/
def okWithCutTrailers : TrailedResponse where
  final := okWithTrailers.final
  body := okWithTrailers.body
  trailers := ⟨initSession 4096, ⟨true, none, none, [0, 1], [[0x61, 1, 0x62]], by simp, by simp⟩⟩
  final_open := rfl
  body_open := okWithTrailers.body_open
  trailers_end := rfl

theorem readable_ok : Readable okWithTrailers.final [⟨ascii ":status", ascii "200"⟩] := by
  have hindexed : RepOctets shortForm (.indexed 8) [0x88] :=
    ⟨.inl ⟨by decide, by decide⟩, by simp⟩
  refine ⟨[.indexed 8], ⟨[], 4096⟩, .cons hindexed .nil, by decide +kernel, ?_, by decide⟩
  intro rep hrep
  rw [List.mem_singleton.mp hrep]
  trivial

theorem readable_trailer :
    Readable okWithCutTrailers.trailers [⟨ascii "a", ascii "b"⟩] := by
  have hone (c : UInt8) : StringOctets shortForm ⟨[c], false⟩ [1, c] :=
    ⟨[1], ⟨.inl ⟨by simp, rfl⟩, by simp⟩, rfl⟩
  have hliteral : RepOctets shortForm
      (.literal .without (.literal ⟨[0x61], false⟩) ⟨[0x62], false⟩) [0, 1, 0x61, 1, 0x62] :=
    ⟨[0, 1, 0x61], [1, 0x62],
      ⟨[0], [1, 0x61], ⟨.inl ⟨by decide, by decide⟩, by simp⟩, hone 0x61, rfl⟩, hone 0x62, rfl⟩
  have hblock : BlockOctets shortForm
      [.literal .without (.literal ⟨[0x61], false⟩) ⟨[0x62], false⟩]
      ([0, 1, 0x61, 1, 0x62] ++ []) :=
    .cons hliteral .nil
  refine ⟨_, ⟨[], 4096⟩, hblock, by decide +kernel, ?_, by decide⟩
  intro rep hrep
  rw [List.mem_singleton.mp hrep]
  have hname : readable ⟨[0x61], false⟩ := by decide
  have hvalue : readable ⟨[0x62], false⟩ := by decide
  exact ⟨hname, hvalue⟩

/-- The first frame of the trailer ends the stream, and the basket has the
status; behind the second one it does not. -/
theorem storedHeaders_contain_iff_cut :
    (∀ field ∈ ([⟨ascii ":status", ascii "200"⟩] : List HeaderField),
      field ∈ (HttpRequestClient.finalizeStreamIntoBasket plainPayloadLib plainRequest
        (okWithCutTrailers.received noDecoders 1 none 1)).1.responseHeaders.getD []) ∧
    ¬∀ field ∈ ([⟨ascii ":status", ascii "200"⟩] : List HeaderField),
      field ∈ (HttpRequestClient.finalizeStreamIntoBasket plainPayloadLib plainRequest
        (okWithCutTrailers.received noDecoders 1 none 2)).1.responseHeaders.getD [] := by
  have hfirst := storedHeaders_contain_iff noDecoders plainPayloadLib 1 none plainRequest
    okWithCutTrailers 1 (by decide +kernel)
  have hsecond := storedHeaders_contain_iff noDecoders plainPayloadLib 1 none plainRequest
    okWithCutTrailers 2 (by decide +kernel)
  constructor
  · exact (hfirst.2 _ _ readable_ok readable_trailer).mpr fun hdecoded =>
      absurd hdecoded (by decide)
  · intro hkept
    have hall := (hsecond.2 _ _ readable_ok readable_trailer).mp hkept (by decide)
    revert hall
    decide

/-- The trailer is all that the basket has. -/
theorem storedHeaders_trailers :
    let stored := (HttpRequestClient.finalizeStreamIntoBasket plainPayloadLib plainRequest
      (okWithTrailers.received noDecoders 1 none 1)).1
    stored.error = none ∧ stored.responseHeaders = some [⟨ascii "a", ascii "b"⟩] ∧
      ¬ContainsFields okWithTrailers.final (stored.responseHeaders.getD []) := by
  intro stored
  have hstored : stored.responseHeaders = some [⟨ascii "a", ascii "b"⟩] := by decide +kernel
  refine ⟨by decide +kernel, hstored, fun h => ?_⟩
  have hindexed : RepOctets IntegerOctets (.indexed 8) [0x88] := .inl ⟨by decide, by decide⟩
  have hoctets : BlockOctets IntegerOctets [.indexed 8] okWithTrailers.final.cut.block :=
    .cons hindexed .nil
  have hstatus := h [.indexed 8] ⟨[], 4096⟩ [⟨ascii ":status", ascii "200"⟩] hoctets
    (by decide +kernel) _ List.mem_cons_self
  rw [hstored] at hstatus
  revert hstatus
  decide

/-! ## The headers that are delivered -/

def headersOf : Callback → Option (List ResponseHeader)
  | .onHeaders headers => some headers
  | _ => none

/-- The decoder that the mask asks for. -/
def requestedDecoder (lib : DecoderLib) (decompress : Nat) (headers : List ResponseHeader) :
    Option StreamDecompressor :=
  if decompress &&& (detectContentEncoding headers).toNat = 0 then none
  else buildStreamDecompressor lib (detectContentEncoding headers)

section Sinks

variable (lib : DecoderLib) (decompress : Nat) (consumer : Option ResponseStream)

/-- The sink of a request that has no headers yet. -/
structure AwaitsHeaders (sink : ResponseSink) (payloadDecoded : Bool) : Prop where
  contract : sink.contract = consumer
  decompressMask : sink.decompressMask = decompress
  headersDelivered : sink.headersDelivered = false
  decompressor : sink.completed = false → sink.decompressor = none
  payloadDecoded : payloadDecoded = false
  calls : sink.calls.filterMap headersOf = []

/-- The sink of a request that was given these headers, and the decoder for
their coding. -/
structure HasHeaders (headers : List ResponseHeader) (sink : ResponseSink)
    (payloadDecoded : Bool) : Prop where
  contract : sink.contract = consumer
  decompressMask : sink.decompressMask = decompress
  headersDelivered : sink.headersDelivered = true
  encoding : sink.encoding = detectContentEncoding headers
  decompressor : sink.completed = false →
    sink.decompressor = requestedDecoder lib decompress headers
  payloadDecoded : payloadDecoded = (requestedDecoder lib decompress headers).isSome
  calls : consumer ≠ none → sink.calls.filterMap headersOf = [headers]

/-- The headers were delivered to the sink of a stream. -/
def TookHeaders (headers : List ResponseHeader) (stream : Stream) : Prop :=
  ∃ sink, stream.sink = some sink ∧
    HasHeaders lib decompress consumer headers sink stream.payloadDecoded

def AwaitingHeaders (stream : Stream) : Prop :=
  ∃ sink, stream.sink = some sink ∧ AwaitsHeaders decompress consumer sink stream.payloadDecoded

end Sinks

/-- Headers were not delivered, and the decoder is left alone as long as the
sink is not completed. -/
structure NoHeaders (before after : ResponseSink) : Prop where
  contract : after.contract = before.contract
  decompressMask : after.decompressMask = before.decompressMask
  headersDelivered : after.headersDelivered = before.headersDelivered
  encoding : after.encoding = before.encoding
  decompressor : after.completed = false →
    before.completed = false ∧ after.decompressor = before.decompressor
  calls : after.calls.filterMap headersOf = before.calls.filterMap headersOf

theorem NoHeaders.refl (sink : ResponseSink) : NoHeaders sink sink :=
  ⟨rfl, rfl, rfl, rfl, fun h => ⟨h, rfl⟩, rfl⟩

theorem NoHeaders.trans {first second third : ResponseSink} (h : NoHeaders first second)
    (h' : NoHeaders second third) : NoHeaders first third where
  contract := h'.contract.trans h.contract
  decompressMask := h'.decompressMask.trans h.decompressMask
  headersDelivered := h'.headersDelivered.trans h.headersDelivered
  encoding := h'.encoding.trans h.encoding
  decompressor hopen := by
    obtain ⟨hopen', hsame'⟩ := h'.decompressor hopen
    obtain ⟨hopen'', hsame⟩ := h.decompressor hopen'
    exact ⟨hopen'', hsame'.trans hsame⟩
  calls := h'.calls.trans h.calls

/-- The same of the sinks of a stream, and whether its body is decoded. -/
structure Undelivered (before after : Stream) : Prop where
  sink : SinkRel NoHeaders before after
  payloadDecoded : after.payloadDecoded = before.payloadDecoded

theorem Undelivered.of_sink {before after : Stream} (hsink : after.sink = before.sink)
    (hdecoded : after.payloadDecoded = before.payloadDecoded) : Undelivered before after := by
  refine ⟨?_, hdecoded⟩
  rw [SinkRel, hsink]
  exact SinkRel.refl .refl before

theorem Undelivered.trans {first second third : Stream} (h : Undelivered first second)
    (h' : Undelivered second third) : Undelivered first third :=
  ⟨SinkRel.trans .trans h.sink h'.sink, h'.payloadDecoded.trans h.payloadDecoded⟩

theorem completeResponseSink_undelivered (stream : Stream) :
    Undelivered stream (completeResponseSink stream) := by
  unfold completeResponseSink
  split
  · exact .of_sink rfl rfl
  · rename_i sink hsink
    split
    · exact .of_sink rfl rfl
    · dsimp only
      split
      · exact ⟨.of_some hsink rfl ⟨rfl, rfl, rfl, rfl, fun h => absurd h (by simp), rfl⟩, rfl⟩
      · refine ⟨.of_some hsink rfl ⟨rfl, rfl, rfl, rfl, fun h => absurd h (by simp), ?_⟩, rfl⟩
        simp [headersOf]

theorem taken_undelivered (stream : Stream) : Undelivered stream (taken stream) := by
  unfold taken takeResponseCancellation
  split
  · exact .of_sink rfl rfl
  · rename_i sink hsink
    split
    · exact .of_sink rfl rfl
    · exact ⟨.of_some hsink rfl ⟨rfl, rfl, rfl, rfl, fun h => ⟨h, rfl⟩, rfl⟩, rfl⟩

theorem settle_undelivered (stream : Stream) : Undelivered stream (settle stream) := by
  rw [settle]
  split
  · exact (completeResponseSink_undelivered stream).trans (taken_undelivered _)
  · split
    · have hmarked : Undelivered (taken stream) { taken stream with isEnded := true } :=
        .of_sink rfl rfl
      exact ((taken_undelivered stream).trans hmarked).trans (completeResponseSink_undelivered _)
    · exact .of_sink rfl rfl

theorem decodeBlock_undelivered (session : Session) (stream : Stream) (block : Bytes) :
    Undelivered stream (decodeBlock session stream block).2 := by
  obtain ⟨headers, error, hdecoded⟩ := decodeHeadersFrame_stream stream block session.hpackCtx
  have hblock : (decodeBlock session stream block).2 =
      { stream with headers := headers, error := error } := hdecoded
  rw [hblock]
  exact .of_sink rfl rfl

section Kept

variable {decompress : Nat} {consumer : Option ResponseStream} {headers : List ResponseHeader}
  {before after : Stream}

theorem TookHeaders.kept (h : TookHeaders lib decompress consumer headers before)
    (hkept : Undelivered before after) : TookHeaders lib decompress consumer headers after := by
  obtain ⟨sink, hsink, hhas⟩ := h
  obtain ⟨sink', hsink', hno⟩ := hkept.sink.of_before hsink
  refine ⟨sink', hsink', ?_⟩
  rw [hkept.payloadDecoded]
  exact {
    contract := hno.contract.trans hhas.contract
    decompressMask := hno.decompressMask.trans hhas.decompressMask
    headersDelivered := hno.headersDelivered.trans hhas.headersDelivered
    encoding := hno.encoding.trans hhas.encoding
    decompressor := fun hopen =>
      (hno.decompressor hopen).2.trans (hhas.decompressor (hno.decompressor hopen).1)
    payloadDecoded := hhas.payloadDecoded
    calls := fun hconsumer => hno.calls.trans (hhas.calls hconsumer) }

theorem AwaitingHeaders.kept (h : AwaitingHeaders decompress consumer before)
    (hkept : Undelivered before after) : AwaitingHeaders decompress consumer after := by
  obtain ⟨sink, hsink, hawaits⟩ := h
  obtain ⟨sink', hsink', hno⟩ := hkept.sink.of_before hsink
  refine ⟨sink', hsink', ?_⟩
  rw [hkept.payloadDecoded]
  exact {
    contract := hno.contract.trans hawaits.contract
    decompressMask := hno.decompressMask.trans hawaits.decompressMask
    headersDelivered := hno.headersDelivered.trans hawaits.headersDelivered
    decompressor := fun hopen =>
      (hno.decompressor hopen).2.trans (hawaits.decompressor (hno.decompressor hopen).1)
    payloadDecoded := hawaits.payloadDecoded
    calls := hno.calls.trans hawaits.calls }

/-- A decoder that was asked for and made, or none. -/
theorem prepareStreamDecoder_received (sink : ResponseSink)
    (h : (prepareStreamDecoder lib stream sink).1.error = none) :
    let requested := requestedDecoder lib sink.decompressMask (stream.headers.getD [])
    prepareStreamDecoder lib stream sink =
      ({ stream with payloadDecoded := stream.payloadDecoded || requested.isSome },
        { sink with
          encoding := detectContentEncoding (stream.headers.getD [])
          decompressor := requested.or sink.decompressor }) := by
  have hidentity : detectContentEncoding (stream.headers.getD []) = .identity →
      sink.decompressMask &&& (detectContentEncoding (stream.headers.getD [])).toNat = 0 := by
    intro hplain
    rw [hplain]
    exact Nat.and_zero _
  unfold prepareStreamDecoder at h ⊢
  dsimp only at h ⊢
  by_cases hmask : sink.decompressMask &&&
      (detectContentEncoding (stream.headers.getD [])).toNat = 0
  · rw [requestedDecoder, if_pos hmask, if_pos (.inl (not_not.mpr hmask)), Option.isSome_none,
      Bool.or_false, Option.none_or]
  · have hasked : ¬(¬sink.decompressMask &&&
          (detectContentEncoding (stream.headers.getD [])).toNat ≠ 0 ∨
        detectContentEncoding (stream.headers.getD []) = .identity) := by
      rintro (hnot | hplain)
      · exact hnot hmask
      · exact hmask (hidentity hplain)
    rw [requestedDecoder, if_neg hmask]
    rw [if_neg hasked] at h ⊢
    cases hbuilt : buildStreamDecompressor lib
        (detectContentEncoding (stream.headers.getD [])) with
    | none =>
      rw [hbuilt] at h
      exact absurd h (Option.some_ne_none _)
    | some decompressor => rw [Option.isSome_some, Bool.or_true, Option.some_or]

/-- The headers are delivered once. -/
theorem TookHeaders.delivered (h : TookHeaders lib decompress consumer headers stream) :
    delivered lib stream = stream := by
  obtain ⟨sink, hsink, hhas⟩ := h
  rw [Http2.delivered]
  split
  · rw [deliverResponseHeaders, hsink]
    exact if_pos hhas.headersDelivered
  · rfl

/-- A sink that is given headers, with the calls that this makes. -/
theorem AwaitsHeaders.given {sink : ResponseSink} {payloadDecoded : Bool}
    (h : AwaitsHeaders decompress consumer sink payloadDecoded) (lib : DecoderLib)
    (headers : List ResponseHeader) (calls : List Callback)
    (hcalls : consumer ≠ none → calls.filterMap headersOf = [headers]) :
    let requested := requestedDecoder lib sink.decompressMask headers
    HasHeaders lib decompress consumer headers
      { sink with
        headersDelivered := true
        encoding := detectContentEncoding headers
        decompressor := requested.or sink.decompressor
        calls := calls }
      (payloadDecoded || requested.isSome) := by
  intro requested
  have hrequested : requested = requestedDecoder lib decompress headers := by
    rw [← h.decompressMask]
  constructor
  · exact h.contract
  · exact h.decompressMask
  · rfl
  · rfl
  · intro hopen
    show requested.or sink.decompressor = _
    rw [h.decompressor hopen, Option.or_none, hrequested]
  · rw [h.payloadDecoded, Bool.false_or, hrequested]
  · exact hcalls

/-- The first headers that are complete are delivered. -/
theorem AwaitingHeaders.delivered (h : AwaitingHeaders decompress consumer stream)
    (herror : (delivered lib stream).error = none) :
    TookHeaders lib decompress consumer (stream.headers.getD []) (delivered lib stream) := by
  obtain ⟨sink, hsink, hawaits⟩ := h
  have hnone := delivered_error herror
  have hgiven : ¬sink.headersDelivered = true := by
    rw [hawaits.headersDelivered]
    exact Bool.false_ne_true
  rw [Http2.delivered, if_pos hnone, deliverResponseHeaders, hsink] at herror ⊢
  dsimp only at herror ⊢
  rw [if_neg hgiven] at herror ⊢
  have hmade : (prepareStreamDecoder lib stream { sink with headersDelivered := true }).1.error =
      none := by
    split at herror
    · exact herror
    · exact herror
  rw [prepareStreamDecoder_received _ hmade]
  dsimp only
  cases hconsumer : sink.contract with
  | none =>
    have hcalls : consumer ≠ none → sink.calls.filterMap headersOf = [stream.headers.getD []] :=
      fun hne => absurd (hawaits.contract.symm.trans hconsumer) hne
    have hhas := hawaits.given lib (stream.headers.getD []) sink.calls hcalls
    rw [hconsumer] at hhas
    exact ⟨_, rfl, hhas⟩
  | some contract =>
    have hcalls : consumer ≠ none →
        (sink.calls ++ [Callback.onHeaders (stream.headers.getD [])]).filterMap headersOf =
          [stream.headers.getD []] := by
      intro _
      rw [List.filterMap_append, hawaits.calls]
      rfl
    have hhas := hawaits.given lib (stream.headers.getD []) _ hcalls
    rw [hconsumer] at hhas
    exact ⟨_, rfl, hhas⟩

theorem ending_undelivered (stream : Stream) (endStream : Bool) :
    Undelivered stream (ending stream endStream) := .of_sink rfl rfl

theorem buffering_undelivered (stream : Stream) (headerBlock : Bytes) (awaits : Bool) :
    Undelivered stream (buffering stream headerBlock awaits) := .of_sink rfl rfl

/-- A later block changes nothing of it. -/
theorem TookHeaders.processBlock (h : TookHeaders lib decompress consumer headers stream)
    (streamId : Nat) (block : ReceivedBlock) :
    TookHeaders lib decompress consumer headers (processBlock lib streamId stream block) := by
  by_cases hwhole : block.cut.continuations = []
  · have hdecoded := h.kept (decodeBlock_undelivered block.session stream block.cut.block)
    rw [Http2.processBlock, processFrames_one hwhole, hdecoded.delivered]
    exact (hdecoded.kept (ending_undelivered _ _)).kept (settle_undelivered _)
  · have hfirst := (h.kept (ending_undelivered stream block.cut.endStream)).kept
      (settle_undelivered _)
    have hdecoded := hfirst.kept (decodeBlock_undelivered block.session _ block.cut.block)
    rw [Http2.processBlock, processFrames_split hwhole]
    dsimp only
    split
    · rw [hdecoded.delivered]
      exact (hdecoded.kept (settle_undelivered _)).kept (buffering_undelivered _ _ _)
    · exact hfirst.kept (buffering_undelivered _ _ _)

/-- The first block of a stream that leaves no error is delivered. -/
theorem AwaitingHeaders.processBlock (h : AwaitingHeaders decompress consumer stream)
    (hheaders : stream.headers = some [])
    (herror : (processBlock lib streamId stream block).error = none) :
    TookHeaders lib decompress consumer block.fields (processBlock lib streamId stream block) := by
  have hfields : (decodeHeadersFrame stream block.cut.block block.session.hpackCtx).1.headers =
      some block.fields := by
    rw [decodeHeadersFrame_received hheaders (processBlock_received herror).1, hheaders]
    split
    · rename_i hnil
      rw [ReceivedBlock.fields, hnil]
      rfl
    · rfl
  by_cases hwhole : block.cut.continuations = []
  · have hdecoded := h.kept (decodeBlock_undelivered block.session stream block.cut.block)
    rw [Http2.processBlock, processFrames_one hwhole] at herror ⊢
    have hdelivered := hdecoded.delivered ((settle_keeps (ending _ _)).2.symm.trans herror)
    rw [decodeBlock, hfields] at hdelivered
    exact (hdelivered.kept (ending_undelivered _ _)).kept (settle_undelivered _)
  · obtain ⟨hkept, herror'⟩ := settle_keeps (ending stream block.cut.endStream)
    have hfirst := decodeHeadersFrame_alike stream (settle (ending stream block.cut.endStream))
      hkept herror' block.cut.block block.session.hpackCtx
    have hdecoded := ((h.kept (ending_undelivered stream block.cut.endStream)).kept
      (settle_undelivered _)).kept (decodeBlock_undelivered block.session _ block.cut.block)
    rw [Http2.processBlock, processFrames_split hwhole] at herror ⊢
    dsimp only at herror ⊢
    split at herror
    · rename_i hnone
      rw [if_pos hnone]
      have hdelivered := hdecoded.delivered ((settle_keeps _).2.symm.trans herror)
      have hsame := congrArg (fun after => after.1.headers) hfirst
      rw [decodeBlock, hsame, hfields] at hdelivered
      exact (hdelivered.kept (settle_undelivered _)).kept (buffering_undelivered _ _ _)
    · rename_i hfailed
      exact absurd herror hfailed

end Kept

/-! ## Informational blocks -/

/-- A status of three digits, the first of them 1. -/
def isInformational (headers : List ResponseHeader) : Bool :=
  headers.any fun header =>
    header.name = ascii ":status" && header.value.length = 3 && header.value.head? = some 0x31

/-- A final block behind any number of informational ones. -/
structure InformedResponse where
  informational : List ReceivedBlock
  final : ReceivedBlock
  informational_status : ∀ block ∈ informational, isInformational block.fields = true
  final_status : isInformational final.fields = false

/-- The stream behind the header blocks of a response. -/
def InformedResponse.received (lib : DecoderLib) (streamId : Nat) (sink : ResponseSink)
    (response : InformedResponse) : Stream :=
  run (processBlock lib streamId) (newStream streamId (some sink))
    (response.informational ++ [response.final])

theorem newStream_awaiting (streamId decompress : Nat) (consumer : Option ResponseStream) :
    AwaitingHeaders decompress consumer
      (newStream streamId (some (buildResponseSink decompress consumer))) :=
  ⟨_, rfl, ⟨rfl, rfl, rfl, fun _ => rfl, rfl, rfl⟩⟩

/-- The first block is the one that is delivered. -/
theorem processBlocks_took {decompress : Nat} {consumer : Option ResponseStream}
    (h : AwaitingHeaders decompress consumer stream) (hheaders : stream.headers = some [])
    (blocks : List ReceivedBlock)
    (herror : (run (processBlock lib streamId) stream (block :: blocks)).error = none) :
    TookHeaders lib decompress consumer block.fields
      (run (processBlock lib streamId) stream (block :: blocks)) := by
  have hnone : (processBlock lib streamId stream block).error = none := by
    by_contra hfailed
    have hfails : (run (processBlock lib streamId) (processBlock lib streamId stream block)
        blocks).error ≠ none :=
      run_invariant (P := fun stream : Stream => stream.error ≠ none)
        (fun _ _ hfailed hnone => hfailed (processBlock_received hnone).1) blocks hfailed
    exact hfails herror
  exact run_invariant (fun _ later htook => htook.processBlock streamId later) blocks
    (h.processBlock hheaders hnone)

theorem TookHeaders.unique {decompress : Nat} {consumer : Option ResponseStream}
    {headers headers' : List ResponseHeader} (h : TookHeaders lib decompress consumer headers stream)
    (h' : TookHeaders lib decompress consumer headers' stream) :
    detectContentEncoding headers = detectContentEncoding headers' ∧
      (consumer ≠ none → headers = headers') := by
  obtain ⟨sink, hsink, hhas⟩ := h
  obtain ⟨sink', hsink', hhas'⟩ := h'
  cases hsink.symm.trans hsink'
  refine ⟨hhas.encoding.symm.trans hhas'.encoding, fun hconsumer => ?_⟩
  have hcalls := (hhas.calls hconsumer).symm.trans (hhas'.calls hconsumer)
  exact List.singleton_inj.mp hcalls

/-- Without a contract only the coding matters. -/
theorem TookHeaders.of_encoding {decompress : Nat} {headers headers' : List ResponseHeader}
    (h : TookHeaders lib decompress none headers stream)
    (hsame : detectContentEncoding headers = detectContentEncoding headers') :
    TookHeaders lib decompress none headers' stream := by
  have hrequested : requestedDecoder lib decompress headers =
      requestedDecoder lib decompress headers' := by
    rw [requestedDecoder, requestedDecoder, hsame]
  obtain ⟨sink, hsink, hhas⟩ := h
  exact ⟨sink, hsink, {
    contract := hhas.contract
    decompressMask := hhas.decompressMask
    headersDelivered := hhas.headersDelivered
    encoding := hhas.encoding.trans hsame
    decompressor := hrequested ▸ hhas.decompressor
    payloadDecoded := hrequested ▸ hhas.payloadDecoded
    calls := fun hne => absurd rfl hne }⟩

/-- The headers and the decoder are those of the final block, if and only if no
informational block comes before it; or without a contract, if the first of
these has the coding of the final block. -/
theorem tookHeaders_final_iff (lib : DecoderLib) (streamId decompress : Nat)
    (consumer : Option ResponseStream) (response : InformedResponse)
    (hreceived :
      (response.received lib streamId (buildResponseSink decompress consumer)).error = none) :
    TookHeaders lib decompress consumer response.final.fields
        (response.received lib streamId (buildResponseSink decompress consumer)) ↔
      ∀ first ∈ response.informational.head?, consumer = none ∧
        detectContentEncoding first.fields = detectContentEncoding response.final.fields := by
  have hfresh := newStream_awaiting streamId decompress consumer
  rw [InformedResponse.received] at hreceived ⊢
  cases hinformational : response.informational with
  | nil =>
    rw [hinformational, List.nil_append] at hreceived
    refine iff_of_true ?_ fun first hfirst => absurd hfirst (Option.not_mem_none first)
    exact processBlocks_took hfresh rfl [] hreceived
  | cons first blocks =>
    rw [hinformational, List.cons_append] at hreceived
    rw [List.cons_append, List.head?_cons]
    have htook := processBlocks_took hfresh rfl _ hreceived
    have hstatus := response.informational_status first (by rw [hinformational]; simp)
    constructor
    · intro hfinal
      obtain ⟨hencoding, hheaders⟩ := htook.unique hfinal
      intro _ hfirst
      cases hfirst
      refine ⟨?_, hencoding⟩
      by_contra hconsumer
      rw [hheaders hconsumer, response.final_status] at hstatus
      cases hstatus
    · intro h
      obtain ⟨rfl, hsame⟩ := h first rfl
      exact htook.of_encoding hsame

/-- Early hints that have the coding of the final block already. -/
def codedHints : InformedResponse where
  informational := [⟨initSession 4096,
    ⟨false, none, none, [0x08, 3, 0x31, 0x30, 0x33, 0x0f, 0x0b, 4, 0x67, 0x7a, 0x69, 0x70], [],
      by simp, by simp⟩⟩]
  final := ⟨initSession 4096,
    ⟨false, none, none, [0x88, 0x0f, 0x0b, 4, 0x67, 0x7a, 0x69, 0x70], [], by simp, by simp⟩⟩
  informational_status := by decide +kernel
  final_status := by decide +kernel

/-- Without a contract their decoder does for the body. -/
theorem tookHeaders_final_iff_coded :
    let lib : DecoderLib := ⟨fun _ => true, fun _ _ _ => ([], true)⟩
    TookHeaders lib 1 none codedHints.final.fields
      (codedHints.received lib 1 (buildResponseSink 1 none)) := by
  intro lib
  refine (tookHeaders_final_iff lib 1 1 none codedHints (by decide +kernel)).mpr
    fun first hfirst => ⟨rfl, ?_⟩
  cases hfirst
  decide +kernel

/-- Early hints, and a final block with a body in gzip. -/
def hintsThenGzip : InformedResponse where
  informational := [⟨initSession 4096,
    ⟨false, none, none, [0x08, 3, 0x31, 0x30, 0x33], [], by simp, by simp⟩⟩]
  final := ⟨initSession 4096,
    ⟨false, none, none, [0x88, 0x0f, 0x0b, 4, 0x67, 0x7a, 0x69, 0x70], [], by simp, by simp⟩⟩
  informational_status := by decide +kernel
  final_status := by decide +kernel

/-- The consumer asked for gzip to be decoded; it gets the hints and the body
as it came. -/
theorem tookHeaders_hints :
    let lib : DecoderLib := ⟨fun _ => true, fun _ _ _ => ([], true)⟩
    let stream := hintsThenGzip.received lib 1 (buildResponseSink 1 (some takeAll))
    let read := processBody lib 1 (initSession 4096) stream [⟨[0x1f, 0x8b], none, true⟩]
    hintsThenGzip.final.fields =
        [⟨ascii ":status", ascii "200"⟩, ⟨ascii "content-encoding", ascii "gzip"⟩] ∧
      read.error = none ∧
      read.sink.map ResponseSink.calls = some
        [.onHeaders [⟨ascii ":status", ascii "103"⟩], .onData [0x1f, 0x8b], .onComplete none] ∧
      ¬TookHeaders lib 1 (some takeAll) hintsThenGzip.final.fields stream := by
  intro lib stream read
  refine ⟨by decide +kernel, by decide +kernel, by decide +kernel, ?_⟩
  rintro ⟨sink, hsink, hhas⟩
  have hencoding : stream.sink.map ResponseSink.encoding = some .identity := by decide +kernel
  have hgzip : detectContentEncoding hintsThenGzip.final.fields = .gzip := by decide +kernel
  rw [hsink, Option.map_some, Option.some_inj, hhas.encoding, hgzip] at hencoding
  cases hencoding

end HttpRequestClient.Http2
