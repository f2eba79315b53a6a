import HttpRequestClient.Client.Modes
import HttpRequestClient.Http11.Receiver
import HttpRequestClient.Http2.Outcome

/-!
# The error of a reading timeout

Three functions report that the reading timeout of a request has run out:
`awaitStream` for a blocking request on HTTP/2, `classifyTimeoutError` inside
of an HTTP/1.1 exchange, and a poll of a non-blocking request.

A `Reception` is what the reader of a connection does with a stream, and
`Received` says of a run of them whether a header or a byte of the body has
come.  `timeoutError_tells_iff` says for each of the functions when its error
tells that.  `receiveHttp11Response_timeout` is the tie to an exchange.

A header counts as received when it is stored.  Frames of a connection without
an effect on the stream are left out.
-/

namespace HttpRequestClient.Client.TimeoutErrors

open Http2 Http11 Hpack Runs Modes

/-! ## What a stream receives -/

/-- A frame of the stream on HTTP/2, or a part of an HTTP/1.1 response. -/
inductive Reception where
  | frame (session : Session) (frame : Frame)
  | statusLine (line : Bytes)
  | headerLine (line : Bytes)
  | endOfHead
  | chunk (data : Bytes)

def receive (lib : DecoderLib) (stream : Stream) : Reception → Stream
  | .frame session frame => streamAfter lib session stream frame
  | .statusLine line => (parseStatusLine stream line).2
  | .headerLine line => parseHeaderLine stream line
  | .endOfHead => deliverResponseHeaders lib stream
  | .chunk data => (appendStreamPayload lib stream data).2

/-- The bytes of the body that come with it. -/
def Reception.body : Reception → Bytes
  | .frame _ read => if read.type = 0x0 then read.payload else []
  | .chunk data => data
  | _ => []

/-- The stream has held a header, or a byte of its body has come. -/
def Received (lib : DecoderLib) (stream : Stream) (events : List Reception) : Prop :=
  (∃ n, 0 < (run (receive lib) stream (events.take n)).numHeaders) ∨
    ∃ event ∈ events, event.body ≠ []

/-- The stream holds no header, and no byte of its body. -/
def Untraced (stream : Stream) : Prop := stream.numHeaders = 0 ∧ stream.combinedPayload = []

theorem hasPartialResponse_iff (stream : Stream) :
    hasPartialResponse stream = true ↔ ¬Untraced stream := by
  rw [hasPartialResponse, decide_eq_true_iff, Untraced, not_and_or]
  exact or_congr Nat.pos_iff_ne_zero List.length_pos_iff

/-! ## The body of a stream -/

section Payload

variable {lib : DecoderLib} {stream : Stream}

theorem decodeBlock_payload (session : Session) (stream : Stream) (block : Bytes) :
    (decodeBlock session stream block).2.combinedPayload = stream.combinedPayload := by
  obtain ⟨headers, error, hstream⟩ := decodeHeadersFrame_stream stream block session.hpackCtx
  simp only [decodeBlock, hstream]

theorem handleHeadersFrame_payload (session : Session) (stream : Stream) (frame : Frame) :
    (handleHeadersFrame session stream frame).2.combinedPayload = stream.combinedPayload := by
  unfold handleHeadersFrame
  split
  · rfl
  · split
    · rfl
    · exact decodeBlock_payload session stream _

theorem handleContinuationFrame_payload (session : Session) (stream : Stream) (frame : Frame) :
    (handleContinuationFrame session stream frame).2.combinedPayload =
      stream.combinedPayload := by
  unfold handleContinuationFrame
  split
  · rfl
  · dsimp only
    split
    · split
      · exact decodeBlock_payload session _ _
      · rfl
    · rfl

theorem handleRST_STREAMFrame_payload (session : Session) (stream : Stream) (payload : Bytes) :
    (handleRST_STREAMFrame session stream payload).2.combinedPayload = stream.combinedPayload := by
  unfold handleRST_STREAMFrame
  split
  · dsimp only
    split <;> rfl
  · rfl

theorem prepareStreamDecoder_payload (lib : DecoderLib) (stream : Stream) (sink : ResponseSink) :
    (prepareStreamDecoder lib stream sink).1.combinedPayload = stream.combinedPayload := by
  unfold prepareStreamDecoder
  dsimp only
  split
  · rfl
  · split <;> rfl

theorem deliverResponseHeaders_payload (lib : DecoderLib) (stream : Stream) :
    (deliverResponseHeaders lib stream).combinedPayload = stream.combinedPayload := by
  unfold deliverResponseHeaders
  split
  · rfl
  · split
    · rfl
    · dsimp only
      split
      · exact prepareStreamDecoder_payload lib stream _
      · exact prepareStreamDecoder_payload lib stream _

theorem finishFrame_payload (lib : DecoderLib) (stream : Stream) (frame : Frame) :
    (finishFrame lib stream frame).combinedPayload = stream.combinedPayload := by
  have hdeliver : (deliverHeaders lib stream frame).combinedPayload = stream.combinedPayload := by
    unfold deliverHeaders
    split
    · exact deliverResponseHeaders_payload lib stream
    · rfl
  unfold finishFrame
  dsimp only
  split
  · exact hdeliver
  · exact hdeliver

/-- A frame without a byte of the body leaves the body. -/
theorem streamAfter_payload (session : Session) {frame : Frame}
    (hbody : frame.type = 0x0 → frame.payload = []) :
    (streamAfter lib session stream frame).combinedPayload = stream.combinedPayload := by
  refine (endStreamReading_outcome _ _ _).payload.trans ?_
  unfold handleStreamFrame
  dsimp only
  refine (finishFrame_payload lib _ frame).trans ?_
  split
  · rename_i hdata
    rw [hbody hdata, appendStreamPayload_nil]
  · split
    · exact handleHeadersFrame_payload session stream frame
    · split
      · exact handleContinuationFrame_payload session stream frame
      · split
        · exact handleRST_STREAMFrame_payload session stream frame.payload
        · rfl

theorem addStreamHeader_payload (stream : Stream) (name value : Bytes) :
    (addStreamHeader stream name value).combinedPayload = stream.combinedPayload := by
  unfold addStreamHeader
  split <;> rfl

theorem receive_payload {event : Reception} (hbody : event.body = []) :
    (receive lib stream event).combinedPayload = stream.combinedPayload := by
  cases event with
  | frame session frame =>
    refine streamAfter_payload session fun hdata => ?_
    rwa [Reception.body, if_pos hdata] at hbody
  | statusLine line =>
    rw [receive, parseStatusLine]
    split
    · rfl
    · exact addStreamHeader_payload stream _ _
  | headerLine line =>
    rw [receive, parseHeaderLine]
    split
    · rfl
    · exact addStreamHeader_payload stream _ _
  | endOfHead => exact deliverResponseHeaders_payload lib stream
  | chunk data =>
    rw [Reception.body] at hbody
    rw [receive, hbody, appendStreamPayload_nil]

/-- What a stream holds was received. -/
theorem received_of_traced {events : List Reception} (hempty : stream.combinedPayload = [])
    (h : ¬Untraced (run (receive lib) stream events)) : Received lib stream events := by
  by_contra hnot
  rw [Received, not_or] at hnot
  obtain ⟨hheaders, hbodies⟩ := hnot
  refine h ⟨?_, ?_⟩
  · have hnone := not_exists.mp hheaders events.length
    rw [List.take_length] at hnone
    omega
  · have hmeets : Meets (receive lib) (fun _ event => event.body = []) stream events := by
      rw [meets_iff_getElem?]
      intro n event hevent
      by_contra hbody
      exact hbodies ⟨event, List.mem_of_getElem? hevent, hbody⟩
    exact run_keeps (P := fun stream => stream.combinedPayload = [])
      (fun stream event hstream hbody => (receive_payload hbody).trans hstream) hmeets hempty

end Payload

/-! ## An HTTP/1.1 response -/

/-- The parts of an HTTP/1.1 response: a status line comes first, and it is
well formed. -/
def Http11Response : List Reception → Prop
  | [] => True
  | .statusLine line :: events =>
    statusCodeOf line ≠ none ∧ ∀ session frame, .frame session frame ∉ events
  | _ => False

section Response

variable {lib : DecoderLib} {stream : Stream}

theorem addStreamHeader_numHeaders (stream : Stream) (name value : Bytes) :
    stream.numHeaders ≤ (addStreamHeader stream name value).numHeaders := by
  unfold addStreamHeader
  split
  · exact Nat.le_refl _
  · unfold Stream.numHeaders
    cases stream.headers with
    | none => exact Nat.le_refl _
    | some headers => simp

/-- A part of an HTTP/1.1 response takes no header away. -/
theorem receive_numHeaders {event : Reception} (h : ∀ session frame, event ≠ .frame session frame) :
    stream.numHeaders ≤ (receive lib stream event).numHeaders := by
  have hkept : ∀ after : Stream, FunnelKeeps stream after →
      stream.numHeaders ≤ after.numHeaders := by
    intro after hafter
    rw [Stream.numHeaders, Stream.numHeaders, hafter.headers]
  cases event with
  | frame session frame => exact absurd rfl (h session frame)
  | statusLine line =>
    rw [receive, parseStatusLine]
    split
    · exact Nat.le_refl _
    · exact addStreamHeader_numHeaders stream _ _
  | headerLine line =>
    rw [receive, parseHeaderLine]
    split
    · exact Nat.le_refl _
    · exact addStreamHeader_numHeaders stream _ _
  | endOfHead => exact hkept _ (deliverResponseHeaders_keeps lib stream)
  | chunk data => exact hkept _ (appendStreamPayload_keeps lib stream data)

/-- The status is the first header. -/
theorem receive_statusLine {line : Bytes} (h : statusCodeOf line ≠ none) (streamId : Nat)
    (sink : Option ResponseSink) :
    0 < (receive lib (newStream streamId sink) (.statusLine line)).numHeaders := by
  obtain ⟨statusCode, hstatus⟩ := Option.ne_none_iff_exists'.mp h
  rw [receive, parseStatusLine, hstatus]
  simp [addStreamHeader, newStream, Stream.numHeaders, RESPONSE_HEADERS_MAX_SIZE]

/-- What has come of an HTTP/1.1 response leaves a trace. -/
theorem Http11Response.traced {events : List Reception} (h : Http11Response events)
    (streamId : Nat) (sink : Option ResponseSink)
    (hreceived : Received lib (newStream streamId sink) events) :
    ¬Untraced (run (receive lib) (newStream streamId sink) events) := by
  cases events with
  | nil =>
    obtain ⟨n, hheaders⟩ | ⟨event, hevent, -⟩ := hreceived
    · rw [List.take_nil] at hheaders
      exact absurd hheaders (Nat.lt_irrefl 0)
    · cases hevent
  | cons first events =>
    cases first with
    | statusLine line =>
      obtain ⟨hstatus, hframes⟩ := h
      have hmeets : Meets (receive lib)
          (fun _ event => ∀ session frame, event ≠ .frame session frame)
          (receive lib (newStream streamId sink) (.statusLine line)) events := by
        rw [meets_iff_getElem?]
        rintro n event hevent session frame rfl
        exact hframes session frame (List.mem_of_getElem? hevent)
      have hheaders := run_keeps (P := fun stream => 0 < stream.numHeaders)
        (fun stream event hstream hpart => Nat.lt_of_lt_of_le hstream (receive_numHeaders hpart))
        hmeets (receive_statusLine hstatus streamId sink)
      exact fun huntraced => absurd huntraced.1 (Nat.pos_iff_ne_zero.mp hheaders)
    | frame session frame => exact h.elim
    | headerLine line => exact h.elim
    | endOfHead => exact h.elim
    | chunk data => exact h.elim

end Response

/-! ## What is reported -/

/-- The error tells whether something was received. -/
def Tells (error : Option Error) (received : Prop) : Prop :=
  (received → error = some ERR_RESPONSE_PARTIAL_CONTENT_AFTER_READING_TIMEOUT) ∧
    (¬received → error = some ERR_RESPONSE_NO_CONTENT_AFTER_READING_TIMEOUT)

/-- The wait for the stream is given up in this state of it. -/
structure GivesUp (attempt : ServedAttempt) (stream : Stream) : Prop where
  found : (attempt.stream (awaitStream attempt).1).stream = stream
  isEnded : stream.isEnded = false

/-- A poll finds the reading timeout run out in this state of the stream. -/
structure TimesOut (handle : AsyncHandle) (now : Int) (stream : Stream) : Prop where
  polled : ∃ polled, handle.stream = some polled ∧ polled.stream = stream ∧
    readingTimedOut handle polled now = true
  isEnded : stream.isEnded = false

/-- The error that a poll finds. -/
def pollError (handle : AsyncHandle) (now : Int) : Option Error :=
  (pollVerdict handle now).bind fun verdict => verdict.2.error

section Tells

variable {stream : Stream} {received : Prop}

theorem classifyTimeoutError_eq (stream : Stream) :
    (Untraced stream ∧
        classifyTimeoutError stream = ERR_RESPONSE_NO_CONTENT_AFTER_READING_TIMEOUT) ∨
      ¬Untraced stream ∧
        classifyTimeoutError stream = ERR_RESPONSE_PARTIAL_CONTENT_AFTER_READING_TIMEOUT := by
  rw [classifyTimeoutError]
  split
  · rename_i hpartial
    exact .inr ⟨(hasPartialResponse_iff stream).mp hpartial, rfl⟩
  · rename_i hpartial
    exact .inl ⟨not_not.mp (mt (hasPartialResponse_iff stream).mpr hpartial), rfl⟩

/-- `awaitStream` has the two errors the other way around. -/
theorem awaitStream_eq {attempt : ServedAttempt} (h : GivesUp attempt stream) :
    (Untraced stream ∧ (awaitStream attempt).2 =
        some ERR_RESPONSE_PARTIAL_CONTENT_AFTER_READING_TIMEOUT) ∨
      ¬Untraced stream ∧ (awaitStream attempt).2 =
        some ERR_RESPONSE_NO_CONTENT_AFTER_READING_TIMEOUT := by
  have hstream := h.found
  have hopen := h.isEnded
  rw [awaitStream] at hstream ⊢
  dsimp only at hstream ⊢
  rw [hstream, hopen, if_neg Bool.false_ne_true]
  split
  · rename_i hreceived
    refine .inr ⟨(hasPartialResponse_iff stream).mp ?_, rfl⟩
    exact decide_eq_true hreceived
  · rename_i hreceived
    refine .inl ⟨not_not.mp (mt (hasPartialResponse_iff stream).mpr ?_), rfl⟩
    exact fun hpartial => hreceived (of_decide_eq_true hpartial)

theorem pollError_eq {handle : AsyncHandle} {now : Int} (h : TimesOut handle now stream) :
    pollError handle now = some ERR_RESPONSE_NO_CONTENT_AFTER_READING_TIMEOUT := by
  obtain ⟨polled, hpolled, rfl, htimeout⟩ := h.polled
  rw [pollError, pollVerdict, hpolled]
  dsimp only
  rw [h.isEnded, if_neg Bool.false_ne_true, if_pos htimeout]
  rfl

theorem tells_noContent_iff :
    Tells (some ERR_RESPONSE_NO_CONTENT_AFTER_READING_TIMEOUT) received ↔ ¬received := by
  constructor
  · exact fun h hreceived => absurd (h.1 hreceived) (by decide)
  · exact fun hnot => ⟨fun hreceived => absurd hreceived hnot, fun _ => rfl⟩

theorem tells_partial_iff :
    Tells (some ERR_RESPONSE_PARTIAL_CONTENT_AFTER_READING_TIMEOUT) received ↔ received := by
  constructor
  · intro h
    by_contra hnot
    exact absurd (h.2 hnot) (by decide)
  · exact fun hreceived => ⟨fun _ => rfl, fun hnot => absurd hreceived hnot⟩

end Tells

/-- An HTTP/1.1 exchange reports what was received.  `awaitStream` does when
what was received has left no trace in the stream, which is when the other one
does not, and a poll does when nothing was received. -/
theorem timeoutError_tells_iff (lib : DecoderLib) (streamId : Nat) (sink : Option ResponseSink)
    (events : List Reception) :
    let start := newStream streamId sink
    let stream := run (receive lib) start events
    let received := Received lib start events
    (∀ attempt, GivesUp attempt stream →
      (Tells (awaitStream attempt).2 received ↔ received ∧ Untraced stream) ∧
      (awaitStream attempt).2 ≠ some (classifyTimeoutError stream)) ∧
    (Tells (some (classifyTimeoutError stream)) received ↔ ¬(received ∧ Untraced stream)) ∧
    (Http11Response events → Tells (some (classifyTimeoutError stream)) received) ∧
    (∀ handle now, TimesOut handle now stream →
      (Tells (pollError handle now) received ↔ ¬received)) := by
  intro start stream received
  have htraced : ¬Untraced stream → received := received_of_traced rfl
  have hclassify : Tells (some (classifyTimeoutError stream)) received ↔
      ¬(received ∧ Untraced stream) := by
    obtain ⟨huntraced, herror⟩ | ⟨huntraced, herror⟩ := classifyTimeoutError_eq stream
    · rw [herror, tells_noContent_iff]
      exact not_congr (and_iff_left huntraced).symm
    · rw [herror, tells_partial_iff]
      exact iff_of_true (htraced huntraced) fun h => huntraced h.2
  refine ⟨fun attempt hgivesUp => ?_, hclassify, fun hresponse => ?_,
    fun handle now htimesOut => ?_⟩
  · obtain ⟨huntraced, herror⟩ | ⟨huntraced, herror⟩ := awaitStream_eq hgivesUp
    · obtain ⟨-, hother⟩ | ⟨htrace, -⟩ := classifyTimeoutError_eq stream
      · rw [herror, hother, tells_partial_iff]
        exact ⟨(and_iff_left huntraced).symm, by decide⟩
      · exact absurd huntraced htrace
    · obtain ⟨huntrace, -⟩ | ⟨-, hother⟩ := classifyTimeoutError_eq stream
      · exact absurd huntrace huntraced
      · rw [herror, hother, tells_noContent_iff]
        exact ⟨iff_of_false (not_not.mpr (htraced huntraced)) fun h => huntraced h.2, by decide⟩
  · exact hclassify.mpr fun h => hresponse.traced streamId sink h.1 h.2
  · rw [pollError_eq htimesOut, tells_noContent_iff]

/-- A blocking request whose stream stays as it is. -/
def unansweredAttempt (stream : Stream) : ServedAttempt where
  session := none
  established := ⟨0, 60000⟩
  streamId := 1
  dispatch := .http2 (fun _ => true) [] ⟨[], none, false⟩
  stream _ := ⟨stream, 0⟩
  sent := 0
  deadline := 1

/-- A response with a status and no end, and a server that says nothing. -/
theorem awaitStream_otherWay :
    let start := newStream 1 (some (buildResponseSink 0 none))
    let answered := receive noDecoders start (.frame (initSession 4096) okFrame)
    GivesUp (unansweredAttempt answered) answered ∧
    Received noDecoders start [.frame (initSession 4096) okFrame] ∧
    ¬Tells (awaitStream (unansweredAttempt answered)).2
      (Received noDecoders start [.frame (initSession 4096) okFrame]) ∧
    GivesUp (unansweredAttempt start) start ∧
    ¬Received noDecoders start [] ∧
    ¬Tells (awaitStream (unansweredAttempt start)).2 (Received noDecoders start []) := by
  intro start answered
  have hreceived : Received noDecoders start [.frame (initSession 4096) okFrame] :=
    .inl ⟨1, by decide +kernel⟩
  have hnothing : ¬Received noDecoders start [] := by
    rintro (⟨n, hheaders⟩ | ⟨event, hevent, -⟩)
    · rw [List.take_nil] at hheaders
      exact absurd hheaders (by decide)
    · cases hevent
  refine ⟨⟨rfl, by decide +kernel⟩, hreceived, ?_, ⟨rfl, by decide⟩, hnothing, ?_⟩
  · exact fun htells => absurd (htells.1 hreceived) (by decide +kernel)
  · exact fun htells => absurd (htells.2 hnothing) (by decide +kernel)

/-! ## The error of an exchange -/

def IsTimeout (error : Option Error) : Prop :=
  error = some ERR_RESPONSE_NO_CONTENT_AFTER_READING_TIMEOUT ∨
    error = some ERR_RESPONSE_PARTIAL_CONTENT_AFTER_READING_TIMEOUT

instance (error : Option Error) : Decidable (IsTimeout error) :=
  inferInstanceAs (Decidable (_ ∨ _))

/-- The stream of a response of which the status line has come, with no error
of a timeout yet. -/
structure Answered (lib : DecoderLib) (start stream : Stream) : Prop where
  parts : ∃ line events, Http11Response (.statusLine line :: events) ∧
    stream = run (receive lib) start (.statusLine line :: events)
  error : ¬IsTimeout stream.error

/-- The error of a timeout is the one for what has come of a response. -/
def Reported (lib : DecoderLib) (start : Stream) (error : Option Error) : Prop :=
  IsTimeout error → ∃ events, Http11Response events ∧
    error = some (classifyTimeoutError (run (receive lib) start events))

section Exchange

variable {lib : DecoderLib} {start stream : Stream}

theorem decodeError_notTimeout (encoding : ContentEncoding) :
    ¬IsTimeout (some (decodeError encoding)) := by
  cases encoding <;> decide

theorem consumeResponseBody_notTimeout {delivery : BodyDelivery} (data : Bytes)
    (h : ¬IsTimeout delivery.stream.error) :
    ¬IsTimeout (consumeResponseBody delivery data).2.stream.error := by
  unfold consumeResponseBody
  split
  · exact h
  · split
    · exact h
    · dsimp only
      split
      · exact h
      · show ¬IsTimeout (some ERR_RESPONSE_STREAM_ABORTED_BY_CONSUMER)
        decide

theorem consumePieces_notTimeout (pieces : List Bytes) :
    ∀ {delivery : BodyDelivery}, ¬IsTimeout delivery.stream.error →
      ¬IsTimeout (consumePieces delivery pieces).2.stream.error := by
  induction pieces with
  | nil => exact fun h => h
  | cons piece pieces ih =>
    intro delivery h
    have hpiece := consumeResponseBody_notTimeout piece h
    rw [consumePieces]
    dsimp only
    split
    · exact hpiece
    · exact ih hpiece

theorem feedStreamDecompressor_notTimeout (lib : DecoderLib)
    (decompressor : Option StreamDecompressor) (data : Bytes) {delivery : BodyDelivery}
    (h : ¬IsTimeout delivery.stream.error) :
    ¬IsTimeout (feedStreamDecompressor lib decompressor data delivery).2.2.stream.error := by
  unfold feedStreamDecompressor
  split
  · exact consumeResponseBody_notTimeout data h
  · exact consumePieces_notTimeout _ h

/-- The funnel reports no timeout. -/
theorem appendStreamPayload_notTimeout (data : Bytes) (h : ¬IsTimeout stream.error) :
    ¬IsTimeout (appendStreamPayload lib stream data).2.error := by
  unfold appendStreamPayload
  split
  · exact h
  · split
    · exact h
    · rename_i sink _
      unfold deliverStreamPayload
      split
      · exact h
      · have hstart : ¬IsTimeout (⟨stream, 0⟩ : BodyDelivery).stream.error := h
        have hfed := feedStreamDecompressor_notTimeout lib sink.decompressor data hstart
        dsimp only
        split
        · exact decodeError_notTimeout _
        · exact hfed

theorem deliverResponseHeaders_notTimeout (h : ¬IsTimeout stream.error) :
    ¬IsTimeout (deliverResponseHeaders lib stream).error := by
  have hprepare : ∀ sink, ¬IsTimeout (prepareStreamDecoder lib stream sink).1.error := by
    intro sink
    unfold prepareStreamDecoder
    dsimp only
    split
    · exact h
    · split
      · show ¬IsTimeout (some ERR_RESPONSE_INFLATE_UNKNOWN_ERROR)
        decide
      · exact h
  unfold deliverResponseHeaders
  split
  · exact h
  · split
    · exact h
    · dsimp only
      split
      · exact hprepare _
      · exact hprepare _

theorem addStreamHeader_error (stream : Stream) (name value : Bytes) :
    (addStreamHeader stream name value).error = stream.error := by
  unfold addStreamHeader
  split <;> rfl

theorem parseHeaderLine_error (stream : Stream) (line : Bytes) :
    (parseHeaderLine stream line).error = stream.error := by
  unfold parseHeaderLine
  split
  · rfl
  · exact addStreamHeader_error stream _ _

theorem Answered.receive (h : Answered lib start stream) (event : Reception)
    (hpart : ∀ session frame, event ≠ .frame session frame)
    (herror : ¬IsTimeout (TimeoutErrors.receive lib stream event).error) :
    Answered lib start (TimeoutErrors.receive lib stream event) := by
  obtain ⟨line, events, ⟨hstatus, hframes⟩, rfl⟩ := h.parts
  refine ⟨⟨line, events ++ [event], ⟨hstatus, fun session frame hmem => ?_⟩, ?_⟩, herror⟩
  · rcases List.mem_append.mp hmem with hbefore | hlast
    · exact hframes session frame hbefore
    · exact hpart session frame (List.mem_singleton.mp hlast).symm
  · rw [← List.cons_append, run_append]
    rfl

theorem readHeaderSectionLoop_answered (fuel : Nat) :
    ∀ {stream : Stream} (reader : Http11Reader), Answered lib start stream →
      Answered lib start (readHeaderSectionLoop fuel stream reader).2.1 := by
  induction fuel with
  | zero => exact fun reader h => h
  | succ fuel ih =>
    intro stream reader h
    rw [readHeaderSectionLoop]
    dsimp only
    split
    · exact h
    · split
      · exact h
      · refine ih _ (h.receive (.headerLine (readerReadLine reader).2.1) (by simp) ?_)
        show ¬IsTimeout (parseHeaderLine stream _).error
        rw [parseHeaderLine_error]
        exact h.error

/-- The head fails with the error for what has come of it. -/
theorem classifyHeadError_reported (lib : DecoderLib) (start : Stream) {events : List Reception}
    (hresponse : Http11Response events) (reader : Http11Reader) (statusLineRc : Int) :
    Reported lib start (some (classifyHeadError (run (TimeoutErrors.receive lib) start events)
      reader statusLineRc)) := by
  rw [classifyHeadError]
  split
  · exact fun _ => ⟨events, hresponse, rfl⟩
  · dsimp only
    split
    · exact fun htimeout => absurd htimeout (by decide)
    · exact fun htimeout => absurd htimeout (by decide)

/-- The head of a response is read, or its error is reported. -/
theorem readResponseHead_answered (lib : DecoderLib) (hstart : start.error = none)
    (reader : Http11Reader) :
    Answered lib start (readResponseHead start reader).2.1 ∨
      (readResponseHead start reader).2.1.error ≠ none ∧
        Reported lib start (readResponseHead start reader).2.1.error := by
  have hnothing := classifyHeadError_reported lib start (show Http11Response [] from trivial)
  unfold readResponseHead
  dsimp only
  split
  · exact .inr ⟨by simp, hnothing _ _⟩
  · cases hstatus : statusCodeOf (readerReadLine reader).2.1 with
    | none =>
      rw [parseStatusLine, hstatus]
      exact .inr ⟨by simp, hnothing _ _⟩
    | some statusCode =>
      have hresponse : Http11Response [.statusLine (readerReadLine reader).2.1] :=
        ⟨by simp [hstatus], by simp⟩
      have hline : Answered lib start (parseStatusLine start (readerReadLine reader).2.1).2 := by
        refine ⟨⟨_, [], hresponse, rfl⟩, ?_⟩
        rw [parseStatusLine, hstatus, addStreamHeader_error, hstart]
        decide
      split
      · exact .inr ⟨by simp, classifyHeadError_reported lib start hresponse _ _⟩
      · have hsection : Answered lib start (readHeaderSection
            (parseStatusLine start (readerReadLine reader).2.1).2
            (readerReadLine reader).2.2).2.1 := readHeaderSectionLoop_answered _ _ hline
        split
        · obtain ⟨line, events, hparts, hsame⟩ := hsection.parts
          refine .inr ⟨by simp, ?_⟩
          rw [hsame]
          exact classifyHeadError_reported lib start hparts _ _
        · exact .inl hsection

/-- A timeout in the body is reported for what has come. -/
theorem classifyBodyError_reported (h : Answered lib start stream) (rc : Int) :
    Reported lib start (classifyBodyError stream rc).2.error := by
  have hkept : Reported lib start stream.error := fun htimeout => absurd htimeout h.error
  unfold classifyBodyError
  split
  · exact hkept
  · split
    · obtain ⟨line, events, hparts, rfl⟩ := h.parts
      dsimp only
      split
      · exact fun _ => ⟨_, hparts, rfl⟩
      · exact fun htimeout => absurd htimeout (by decide)
    · exact hkept

theorem closeSessionIfSingleUse_error (session : Session) (stream : Stream) (untilClose : Bool)
    (bodyRc : Int) :
    (closeSessionIfSingleUse session stream untilClose bodyRc).2.error = stream.error := by
  have htaken := (takeResponseCancellation_outcome stream).error
  unfold closeSessionIfSingleUse
  dsimp only
  split
  · exact htaken
  · exact htaken

/-- When an exchange on a new stream reports a timeout, the error is the one
of `classifyTimeoutError` for what has come of a response. -/
theorem receiveHttp11Response_timeout (lib : DecoderLib) (basket : Http11.Basket) (streamId : Nat)
    (sink : Option ResponseSink) (transport : Transport) :
    Reported lib (newStream streamId sink)
      (receiveHttp11Response lib basket (newStream streamId sink) transport).2.1.error := by
  have hstart : (newStream streamId sink).error = none := rfl
  have hhead := readResponseHead_answered lib hstart (Http11Reader.init transport)
  unfold receiveHttp11Response
  dsimp only
  split
  · rcases hhead with hanswered | ⟨-, hreported⟩
    · exact fun htimeout => absurd htimeout hanswered.error
    · exact hreported
  · rename_i hread
    rcases hhead with hanswered | ⟨hfailed, -⟩
    · have hdelivered := hanswered.receive .endOfHead (by simp)
        (deliverResponseHeaders_notTimeout hanswered.error)
      rw [closeSessionIfSingleUse_error, readBody]
      dsimp only
      split
      · exact fun htimeout => absurd htimeout hdelivered.error
      · refine classifyBodyError_reported (readFramedBody_keeps ?_ _ _ hdelivered) _
        exact fun stream data h => h.receive (.chunk data) (by simp)
          (appendStreamPayload_notTimeout data h.error)
    · exact absurd hfailed hread

end Exchange

end HttpRequestClient.Client.TimeoutErrors
