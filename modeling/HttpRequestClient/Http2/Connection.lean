import HttpRequestClient.Callbacks
import HttpRequestClient.Http2.HeaderBlocks
import HttpRequestClient.Http2.ReaderLoop
import HttpRequestClient.Lib.Runs

/-!
# Runs of a connection

What happens on one HTTP/2 session, in any order: the reader thread
dispatches frames and writes its queue, it loses the connection, and request
threads register streams, complete them when their request could not be
sent, and remove them.

A step is what a thread does under one lock.  `executeRequest` completes the
sink of a stream without its lock, so this is two steps: the check in
`completeResponseSink`, and the rest of it.

`streamAfter_keeps` says what a frame does to the sink of its stream.
`readerDispatch_every` and `stepConnection_every` turn a fact that the
handlers keep into one about all registered streams.
-/

namespace HttpRequestClient.Http2

open Hpack Runs

/-! ## The write at the end of a batch -/

/-- The session, what was written to the peer, and the slots of the streams
whose request thread is in `completeResponseSink`. -/
structure Connection where
  session : Session
  sent : Bytes
  completing : List Nat

/-- Owed connection credit joins the queue, and the queue is written. -/
def flushReaderWrites (connection : Connection) : Connection :=
  let session := connection.session
  let session :=
    if session.connWindowFlushDue then
      let session := { session with connWindowFlushDue := false }
      if session.pendingConnWindow > 0 then
        { queueWindowUpdateFrame session 0 session.pendingConnWindow with pendingConnWindow := 0 }
      else session
    else session
  { connection with
    session := { session with pendingWire := [] }
    sent := connection.sent ++ session.pendingWire }

/-! ## Steps -/

inductive ConnectionEvent where
  /-- The reader thread dispatches a frame or ends a batch. -/
  | reader (action : ReaderAction)
  /-- The reader thread finds the connection broken, with the error that it
  notes for that. -/
  | lost (error : Option Error)
  | register (decompress : Nat) (contract : Option ResponseStream)
  /-- A request could not be sent: its thread finds the sink not completed. -/
  | checkCompletion (slot : Nat)
  | finishCompletion (slot : Nat)
  | unregister (slot : Nat)

/-- The check of `completeResponseSink`. -/
def checkCompletion (connection : Connection) (slot : Nat) : Connection :=
  match streamAt connection.session slot with
  | none => connection
  | some stream =>
    if stream.completed then connection
    else { connection with completing := slot :: connection.completing }

/-- The rest of `completeResponseSink`. -/
def passCompletion (connection : Connection) (slot : Nat) : Connection :=
  if slot ∈ connection.completing then
    { connection with
      session := modifyStream connection.session slot finishCompletion
      completing := connection.completing.erase slot }
  else connection

section Step

variable (lib : DecoderLib)

def dispatchFrame (connection : Connection) (frame : Frame) : Connection :=
  { connection with session := readerDispatch lib connection.session frame }

/-- The reader ends every stream before it stops. -/
def loseConnection (session : Session) (error : Option Error) : Session :=
  failAllStreams { session with
    connError := if error ≠ none then error else session.connError
    goingAway := true } false

def stepConnection (connection : Connection) : ConnectionEvent → Connection
  | .reader action => applyAction (dispatchFrame lib) flushReaderWrites connection action
  | .lost error => { connection with session := loseConnection connection.session error }
  | .register decompress contract =>
    { connection with
      session := registerStream connection.session (some (buildResponseSink decompress contract)) }
  | .checkCompletion slot => checkCompletion connection slot
  | .finishCompletion slot => passCompletion connection slot
  | .unregister slot =>
    { connection with session := unregisterStream connection.session slot }

/-- A new connection. -/
def connect (headerTableSize : Nat) : Connection := ⟨initSession headerTableSize, [], []⟩

def runConnection (headerTableSize : Nat) (events : List ConnectionEvent) : Connection :=
  run (stepConnection lib) (connect headerTableSize) events

end Step

theorem checkCompletion_session (connection : Connection) (slot : Nat) :
    (checkCompletion connection slot).session = connection.session := by
  unfold checkCompletion
  split
  · rfl
  · split <;> rfl

/-! ## What the handlers of a frame leave alone -/

/-- Only the header decoder and the state of the connection differ. -/
structure HandlerKeeps (before after : Session) : Prop where
  streamId : after.streamId = before.streamId
  streams : after.streams = before.streams
  inflightCount : after.inflightCount = before.inflightCount
  pendingConnWindow : after.pendingConnWindow = before.pendingConnWindow
  pendingStreamWindows : after.pendingStreamWindows = before.pendingStreamWindows
  connWindowFlushDue : after.connWindowFlushDue = before.connWindowFlushDue
  connWindowTarget : after.connWindowTarget = before.connWindowTarget
  connWindowSinceGrowth : after.connWindowSinceGrowth = before.connWindowSinceGrowth
  pendingWire : after.pendingWire = before.pendingWire

theorem HandlerKeeps.refl (session : Session) : HandlerKeeps session session := by
  constructor <;> rfl

theorem handleHeadersFrame_handlerKeeps (session : Session) (stream : Stream) (frame : Frame) :
    HandlerKeeps session (handleHeadersFrame session stream frame).1 := by
  unfold handleHeadersFrame
  split
  · exact .refl session
  · split
    · exact .refl session
    · constructor <;> rfl

theorem handleContinuationFrame_handlerKeeps (session : Session) (stream : Stream)
    (frame : Frame) : HandlerKeeps session (handleContinuationFrame session stream frame).1 := by
  unfold handleContinuationFrame
  split
  · exact .refl session
  · dsimp only
    split
    · split
      · constructor <;> rfl
      · exact .refl session
    · exact .refl session

theorem handleRST_STREAMFrame_handlerKeeps (session : Session) (stream : Stream)
    (payload : Bytes) : HandlerKeeps session (handleRST_STREAMFrame session stream payload).1 := by
  unfold handleRST_STREAMFrame
  split
  · dsimp only
    split
    · constructor <;> rfl
    · exact .refl session
  · exact .refl session

theorem handleStreamFrame_handlerKeeps (lib : DecoderLib) (session : Session) (stream : Stream)
    (frame : Frame) : HandlerKeeps session (handleStreamFrame lib session stream frame).1 := by
  unfold handleStreamFrame
  dsimp only
  split
  · exact .refl session
  · split
    · exact handleHeadersFrame_handlerKeeps session stream frame
    · split
      · exact handleContinuationFrame_handlerKeeps session stream frame
      · split
        · exact handleRST_STREAMFrame_handlerKeeps session stream frame.payload
        · exact .refl session

theorem handleSessionFrame_handlerKeeps (session : Session) (frame : Frame) :
    HandlerKeeps session (handleSessionFrame session frame) := by
  unfold handleSessionFrame
  split
  · exact handleHeadersFrame_handlerKeeps session Stream.scratch frame
  · split
    · unfold handleGoAwayFrame
      split
      · constructor <;> rfl
      · exact .refl session
    · exact .refl session

/-- A frame of the connection leaves the streams and the next id as they are. -/
theorem acknowledged_keeps (session : Session) (frame : Frame) :
    (acknowledgeFrame (handleSessionFrame session frame) frame).streams = session.streams ∧
      (acknowledgeFrame (handleSessionFrame session frame) frame).streamId = session.streamId := by
  have hkept := handleSessionFrame_handlerKeeps session frame
  obtain ⟨wire, heq⟩ := acknowledgeFrame_eq (handleSessionFrame session frame) frame
  rw [heq]
  exact ⟨hkept.streams, hkept.streamId⟩


/-- The header handlers change neither the sink of a stream nor whether it
has ended. -/
structure SameSink (before after : Stream) : Prop where
  streamId : after.streamId = before.streamId
  sink : after.sink = before.sink
  isEnded : after.isEnded = before.isEnded

theorem decodeBlock_sink (session : Session) (stream : Stream) (block : Bytes) :
    SameSink stream (decodeBlock session stream block).2 := by
  obtain ⟨headers, error, hstream⟩ := decodeHeadersFrame_stream stream block session.hpackCtx
  simp only [decodeBlock, hstream]
  exact ⟨rfl, rfl, rfl⟩

theorem handleHeadersFrame_sink (session : Session) (stream : Stream) (frame : Frame) :
    SameSink stream (handleHeadersFrame session stream frame).2 := by
  unfold handleHeadersFrame
  split
  · exact ⟨rfl, rfl, rfl⟩
  · split
    · exact ⟨rfl, rfl, rfl⟩
    · exact decodeBlock_sink session stream _

theorem handleContinuationFrame_sink (session : Session) (stream : Stream) (frame : Frame) :
    SameSink stream (handleContinuationFrame session stream frame).2 := by
  unfold handleContinuationFrame
  split
  · exact ⟨rfl, rfl, rfl⟩
  · dsimp only
    split
    · split
      · have hdecode := decodeBlock_sink session
          { stream with
            headerBlock := stream.headerBlock ++ frame.payload
            awaitingContinuation := false } (stream.headerBlock ++ frame.payload)
        exact ⟨hdecode.streamId, hdecode.sink, hdecode.isEnded⟩
      · exact ⟨rfl, rfl, rfl⟩
    · exact ⟨rfl, rfl, rfl⟩

theorem handleRST_STREAMFrame_sink (session : Session) (stream : Stream) (payload : Bytes) :
    SameSink stream (handleRST_STREAMFrame session stream payload).2 := by
  unfold handleRST_STREAMFrame
  split
  · dsimp only
    split
    · exact ⟨rfl, rfl, rfl⟩
    · exact ⟨rfl, rfl, rfl⟩
  · exact ⟨rfl, rfl, rfl⟩

/-! ## The registry -/

/-- The stream of a frame after the frame. -/
def streamAfter (lib : DecoderLib) (session : Session) (stream : Stream) (frame : Frame) : Stream :=
  (endStreamReading (handleStreamFrame lib session stream frame).2 frame.type
    frame.payload.length).2

/-- What the reader has to write after a frame of a stream. -/
def readingAfter (lib : DecoderLib) (session : Session) (stream : Stream) (frame : Frame) :
    StreamReading :=
  (endStreamReading (handleStreamFrame lib session stream frame).2 frame.type
    frame.payload.length).1

/-- The stream behind the handler of a HEADERS or CONTINUATION frame. -/
def headersStream (session : Session) (stream : Stream) (frame : Frame) : Stream :=
  if frame.type = 0x1 then (handleHeadersFrame session stream frame).2
  else (handleContinuationFrame session stream frame).2

theorem headersStream_sink (session : Session) (stream : Stream) (frame : Frame) :
    SameSink stream (headersStream session stream frame) := by
  unfold headersStream
  split
  · exact handleHeadersFrame_sink session stream frame
  · exact handleContinuationFrame_sink session stream frame

/-- A DATA frame hands its payload to the funnel. -/
theorem handleStreamFrame_data (lib : DecoderLib) (session : Session) (stream : Stream)
    {frame : Frame} (htype : frame.type = 0x0) :
    (handleStreamFrame lib session stream frame).2 =
      if frame.endStream = true then
        { (appendStreamPayload lib stream frame.payload).2 with isEnded := true }
      else (appendStreamPayload lib stream frame.payload).2 := by
  have hdeliver (stream : Stream) : deliverHeaders lib stream frame = stream := by
    rw [deliverHeaders, htype]
    exact if_neg fun hheaders => absurd hheaders.1 (by decide)
  unfold handleStreamFrame finishFrame
  simp only [htype, if_true, hdeliver, true_or, true_and]

/-- What depends on the id and the sink of a stream only, and is kept by the
calls that the handler of a frame makes on the sink, is kept by the handler. -/
theorem handleStreamFrame_keeps {P : Stream → Prop} (lib : DecoderLib) (session : Session)
    {stream : Stream} {frame : Frame}
    (hsame : ∀ before after : Stream, after.streamId = before.streamId →
      after.sink = before.sink → P before → P after)
    (hdata : frame.type = 0x0 → P (appendStreamPayload lib stream frame.payload).2)
    (hheaders : frame.type = 0x1 ∨ frame.type = 0x9 → frame.endHeaders = true →
      (headersStream session stream frame).error = none → P (headersStream session stream frame) →
      P (deliverResponseHeaders lib (headersStream session stream frame)))
    (h : P stream) : P (handleStreamFrame lib session stream frame).2 := by
  have hfinish : ∀ after, P after →
      (frame.type = 0x1 ∨ frame.type = 0x9 → after = headersStream session stream frame) →
      P (finishFrame lib after frame) := by
    intro after hafter heq
    have hdeliver : P (deliverHeaders lib after frame) := by
      unfold deliverHeaders
      split
      · rename_i hends
        rw [heq hends.1] at hends hafter ⊢
        exact hheaders hends.1 hends.2.1 hends.2.2 hafter
      · exact hafter
    unfold finishFrame
    dsimp only
    split
    · exact hsame (deliverHeaders lib after frame) _ rfl rfl hdeliver
    · exact hdeliver
  unfold handleStreamFrame
  dsimp only
  split
  · rename_i hzero
    refine hfinish _ (hdata hzero) fun hheader => ?_
    rw [hzero] at hheader
    exact absurd hheader (by decide)
  · split
    · rename_i hone
      have hkeeps := handleHeadersFrame_sink session stream frame
      exact hfinish _ (hsame _ _ hkeeps.streamId hkeeps.sink h) fun _ =>
        by rw [headersStream, if_pos hone]
    · rename_i hone
      split
      · have hkeeps := handleContinuationFrame_sink session stream frame
        exact hfinish _ (hsame _ _ hkeeps.streamId hkeeps.sink h) fun _ =>
          by rw [headersStream, if_neg hone]
      · rename_i hnine
        have hother : ¬(frame.type = 0x1 ∨ frame.type = 0x9) := by
          rw [not_or]
          exact ⟨hone, hnine⟩
        split
        · have hkeeps := handleRST_STREAMFrame_sink session stream frame.payload
          exact hfinish _ (hsame _ _ hkeeps.streamId hkeeps.sink h) fun hheader =>
            absurd hheader hother
        · exact hfinish _ h fun hheader => absurd hheader hother

/-- The same for the frame, which also completes the sink and takes its
request to stop. -/
theorem streamAfter_keeps {P : Stream → Prop} (lib : DecoderLib) (session : Session)
    {stream : Stream} {frame : Frame}
    (hsame : ∀ before after : Stream, after.streamId = before.streamId →
      after.sink = before.sink → P before → P after)
    (hdata : frame.type = 0x0 → P (appendStreamPayload lib stream frame.payload).2)
    (hheaders : frame.type = 0x1 ∨ frame.type = 0x9 → frame.endHeaders = true →
      (headersStream session stream frame).error = none → P (headersStream session stream frame) →
      P (deliverResponseHeaders lib (headersStream session stream frame)))
    (hcomplete : ∀ stream, P stream → P (completeResponseSink stream))
    (htake : ∀ stream, P stream → P (takeResponseCancellation stream).2)
    (h : P stream) : P (streamAfter lib session stream frame) := by
  have hhandled : P (handleStreamFrame lib session stream frame).2 :=
    handleStreamFrame_keeps lib session hsame hdata hheaders h
  unfold streamAfter endStreamReading
  dsimp only
  generalize (handleStreamFrame lib session stream frame).2 = handled at hhandled ⊢
  have hended : P (if handled.isEnded = true then completeResponseSink handled else handled) := by
    split
    · exact hcomplete handled hhandled
    · exact hhandled
  generalize (if handled.isEnded = true then completeResponseSink handled else handled) = ended
    at hended ⊢
  split
  · exact hended
  · split
    · exact htake ended hended
    · dsimp only
      split
      · exact htake ended hended
      · exact hcomplete _ (hsame (takeResponseCancellation ended).2 _ rfl rfl (htake ended hended))

theorem failStream_onSink {Q : ResponseSink → Prop} (session : Session) (onlyPending : Bool)
    {stream : Stream} (hstep : ∀ sink sink', CompletionStep sink sink' → Q sink → Q sink')
    (h : OnSink Q stream) : OnSink Q (failStream session onlyPending stream) := by
  unfold failStream
  split
  · have hmarked : OnSink Q { stream with
        error := if session.connError ≠ none then session.connError
          else some ERR_RESPONSE_READING_CONNECTION_ERROR
        isEnded := true } := h.of_sink rfl
    exact hmarked.rel (completeResponseSink_sink _) fun sink sink' _ => hstep sink sink'
  · exact h

/-- What every call of the funnel keeps, a frame keeps. -/
theorem streamAfter_onSink {Q : ResponseSink → Prop} (lib : DecoderLib) (session : Session)
    {stream : Stream} (frame : Frame) (hfed : ∀ sink sink', Fed sink sink' → Q sink → Q sink')
    (hheaders : ∀ sink sink', HeadersStep sink sink' → Q sink → Q sink')
    (hcomplete : ∀ sink sink', CompletionStep sink sink' → Q sink → Q sink')
    (h : OnSink Q stream) : OnSink Q (streamAfter lib session stream frame) := by
  refine streamAfter_keeps (P := OnSink Q) lib session
    (fun before after _ hsink hbefore => hbefore.of_sink hsink) (fun _ => ?_)
    (fun _ _ _ hafter => ?_) (fun after hafter => ?_) (fun after hafter => ?_) h
  · exact h.rel (appendStreamPayload_sink lib stream _) fun sink sink' _ hrel =>
      hfed sink sink' hrel.fed
  · exact hafter.rel (deliverResponseHeaders_sink lib _) fun sink sink' _ => hheaders sink sink'
  · exact hafter.rel (completeResponseSink_sink after) fun sink sink' _ => hcomplete sink sink'
  · exact hafter.rel (takeResponseCancellation_sink after) fun sink sink' _ hrel =>
      hfed sink sink' hrel.fed

/-- A stream that has ended after a frame is completed. -/
theorem streamAfter_completed (lib : DecoderLib) (session : Session) (stream : Stream)
    (frame : Frame) (h : (streamAfter lib session stream frame).isEnded = true) :
    SinkCompleted (streamAfter lib session stream frame) := by
  unfold streamAfter endStreamReading at h ⊢
  dsimp only at h ⊢
  generalize (handleStreamFrame lib session stream frame).2 = handled at h ⊢
  cases hended : handled.isEnded with
  | true =>
    simp only [hended, if_true] at h ⊢
    have hdone := completeResponseSink_completed handled
    split
    · exact hdone
    · split
      · exact hdone.rel (takeResponseCancellation_sink _) fun sink sink' _ hrel hcompleted =>
          hrel.completed.trans hcompleted
      · exact hdone.rel (takeResponseCancellation_sink _) fun sink sink' _ hrel hcompleted =>
          hrel.completed.trans hcompleted
  | false =>
    simp only [hended, Bool.false_eq_true, if_false] at h ⊢
    split at h
    · rw [hended] at h
      cases h
    · rename_i hstreaming
      rw [if_neg hstreaming]
      split at h
      · rw [(takeResponseCancellation_keeps handled).1.isEnded, hended] at h
        cases h
      · rename_i hcancelled
        rw [if_neg hcancelled]
        exact completeResponseSink_completed _

/-- All registered streams have a property. -/
def EveryStream (P : Stream → Prop) (session : Session) : Prop :=
  ∀ stream ∈ Slots.entries session.streams, P stream

variable {P : Stream → Prop} {session : Session}

theorem EveryStream.of_streams {after : Session} (h : EveryStream P session)
    (hstreams : after.streams = session.streams) : EveryStream P after := by
  rw [EveryStream, hstreams]
  exact h

theorem entries_connect (headerTableSize : Nat) :
    Slots.entries (connect headerTableSize).session.streams = [] :=
  Slots.entries_replicate_none MAX_CONCURRENT_STREAMS_PER_SESSION

theorem connect_every (headerTableSize : Nat) : EveryStream P (connect headerTableSize).session := by
  intro stream hstream
  rw [entries_connect] at hstream
  cases hstream

theorem EveryStream.at (h : EveryStream P session) {slot : Nat} {stream : Stream}
    (hslot : streamAt session slot = some stream) : P stream := by
  refine h stream (Slots.mem_entries.mpr ?_)
  exact List.mem_of_getElem? (Option.join_eq_some_iff.mp hslot)

theorem EveryStream.find (h : EveryStream P session) {streamId : Nat} {stream : Stream}
    (hfind : findStream session streamId = some stream) : P stream :=
  h stream (Slots.mem_of_find hfind).1

theorem failAllStreams_every (h : EveryStream P session) {onlyPending : Bool}
    (hfail : ∀ stream, P stream → P (failStream session onlyPending stream)) :
    EveryStream P (failAllStreams session onlyPending) := by
  intro stream hstream
  rw [failAllStreams, Slots.entries_map] at hstream
  obtain ⟨before, hbefore, rfl⟩ := List.mem_map.mp hstream
  exact hfail before (h before hbefore)

theorem registerStream_every (h : EveryStream P session) {sink : Option ResponseSink}
    (hnew : P (newStream session.streamId sink)) : EveryStream P (registerStream session sink) := by
  unfold registerStream
  dsimp only
  split
  · exact h
  · rename_i slot hslot
    have hfree : session.streams[slot]? = some none := (streamAt_freeSlot hslot).1
    intro stream hstream
    rcases List.mem_cons.mp ((Slots.perm_entries_set_some hfree _).mem_iff.mp hstream) with
      rfl | hold
    · exact hnew
    · exact h stream hold

theorem unregisterStream_every (h : EveryStream P session) (slot : Nat) :
    EveryStream P (unregisterStream session slot) :=
  fun stream hstream => h stream ((Slots.entries_set_none _ slot).subset hstream)

theorem modifyStream_every (h : EveryStream P session) {slot : Nat} {f : Stream → Stream}
    (hf : ∀ stream, streamAt session slot = some stream → P stream → P (f stream)) :
    EveryStream P (modifyStream session slot f) := by
  intro stream hstream
  rcases Slots.mem_entries_modify hstream with ⟨before, hslot, rfl⟩ | hold
  · have hat : streamAt session slot = some before := by rw [streamAt, hslot]; rfl
    exact hf before hat (h.at hat)
  · exact h stream hold

/-- The session behind the handler of a frame, with the stream put back. -/
def handledSession (lib : DecoderLib) (session : Session) (stream : Stream) (frame : Frame) :
    Session :=
  updateStream (handleStreamFrame lib session stream frame).1 frame.streamId
    (streamAfter lib session stream frame)

theorem handledSession_streams (lib : DecoderLib) (session : Session) (stream : Stream)
    (frame : Frame) :
    (handledSession lib session stream frame).streams =
      Slots.replace Stream.streamId frame.streamId (streamAfter lib session stream frame)
        session.streams := by
  rw [← (handleStreamFrame_handlerKeeps lib session stream frame).streams]
  rfl

/-- A frame on a registered stream: its handler, flow control, and the reset
that the consumer asked for. -/
theorem readerDispatch_eq (lib : DecoderLib) {frame : Frame} {stream : Stream}
    (hscoped : frame.isStreamScoped = true)
    (hfind : findStream session frame.streamId = some stream) :
    readerDispatch lib session frame =
      let reading := readingAfter lib session stream frame
      let replenished := replenishStreamWindow (handledSession lib session stream frame)
        frame.streamId reading
      if reading.cancelStreamId ≠ 0 then queueRSTStreamFrame replenished reading.cancelStreamId
      else replenished := by
  rw [readerDispatch, if_pos hscoped, hfind]
  rfl

theorem readerDispatch_streams_found (lib : DecoderLib) {frame : Frame} {stream : Stream}
    (hscoped : frame.isStreamScoped = true)
    (hfind : findStream session frame.streamId = some stream) :
    (readerDispatch lib session frame).streams =
      Slots.replace Stream.streamId frame.streamId (streamAfter lib session stream frame)
        session.streams := by
  have hreplenish := (replenishStreamWindow_same (handledSession lib session stream frame)
    frame.streamId (readingAfter lib session stream frame)).1
  rw [handledSession_streams] at hreplenish
  rw [readerDispatch_eq lib hscoped hfind]
  dsimp only
  split
  · exact hreplenish
  · exact hreplenish

/-- Every registered stream keeps what the handlers keep. -/
theorem readerDispatch_every (lib : DecoderLib) (h : EveryStream P session) {frame : Frame}
    (hframe : ∀ stream, findStream session frame.streamId = some stream → P stream →
      P (streamAfter lib session stream frame))
    (hfail : ∀ session stream, P stream → P (failStream session true stream)) :
    EveryStream P (readerDispatch lib session frame) := by
  by_cases hscoped : frame.isStreamScoped = true
  · cases hfind : findStream session frame.streamId with
    | some stream =>
      rw [EveryStream, readerDispatch_streams_found lib hscoped hfind]
      intro other hother
      rcases Slots.mem_replace hother with rfl | hold
      · exact hframe stream hfind (h.find hfind)
      · exact h other hold
    | none =>
      rw [readerDispatch_unknown lib hscoped hfind]
      exact h.of_streams (handleSessionFrame_handlerKeeps session frame).streams
  · have hacknowledged : EveryStream P
        (acknowledgeFrame (handleSessionFrame session frame) frame) := by
      exact h.of_streams (acknowledged_keeps session frame).1
    rw [readerDispatch, if_neg hscoped]
    dsimp only
    split
    · exact failAllStreams_every hacknowledged (hfail _)
    · exact hacknowledged

/-- A stream that has ended is left alone. -/
theorem failStream_ended (session : Session) (onlyPending : Bool) {stream : Stream}
    (h : stream.isEnded = true) : failStream session onlyPending stream = stream := by
  rw [failStream, if_neg (by simp [h])]

theorem streamAt_failAllStreams (session : Session) (onlyPending : Bool) (slot : Nat) :
    streamAt (failAllStreams session onlyPending) slot =
      (streamAt session slot).map (failStream session onlyPending) := by
  rw [streamAt, failAllStreams, List.getElem?_map, streamAt]
  cases session.streams[slot]? with
  | none => rfl
  | some found => cases found <;> rfl

/-- What a frame does to a registered stream: nothing, its own handling, or
the end that a GOAWAY gives it. -/
inductive FrameChange (lib : DecoderLib) (session : Session) (frame : Frame) (stream : Stream) :
    Stream → Prop where
  | same : FrameChange lib session frame stream stream
  | handled : findStream session frame.streamId = some stream →
      FrameChange lib session frame stream (streamAfter lib session stream frame)
  | failed (after : Session) :
      FrameChange lib session frame stream (failStream after true stream)

/-- A frame changes the streams in their slots. -/
theorem readerDispatch_streamAt (lib : DecoderLib) (session : Session) (frame : Frame)
    (slot : Nat) :
    Option.Rel (FrameChange lib session frame) (streamAt session slot)
      (streamAt (readerDispatch lib session frame) slot) := by
  have hsame : ∀ after : Session, after.streams = session.streams →
      Option.Rel (FrameChange lib session frame) (streamAt session slot) (streamAt after slot) := by
    intro after hstreams
    rw [streamAt, streamAt, hstreams]
    cases (session.streams[slot]?).join with
    | none => exact .none
    | some stream => exact .some .same
  by_cases hscoped : frame.isStreamScoped = true
  · cases hfind : findStream session frame.streamId with
    | some stream =>
      rw [streamAt, streamAt, readerDispatch_streams_found lib hscoped hfind]
      rcases Slots.getElem?_replace (a := streamAfter lib session stream frame) hfind slot with
        hkept | ⟨hbefore, hafter⟩
      · rw [hkept]
        cases (session.streams[slot]?).join with
        | none => exact .none
        | some other => exact .some .same
      · rw [hbefore, hafter]
        exact .some (.handled hfind)
    | none =>
      rw [readerDispatch_unknown lib hscoped hfind]
      exact hsame _ (handleSessionFrame_handlerKeeps session frame).streams
  · have hacknowledged :
        (acknowledgeFrame (handleSessionFrame session frame) frame).streams = session.streams :=
      (acknowledged_keeps session frame).1
    rw [readerDispatch, if_neg hscoped]
    dsimp only
    split
    · rw [streamAt_failAllStreams, streamAt_of_streams hacknowledged]
      cases streamAt session slot with
      | none => exact .none
      | some stream => exact .some (.failed _)
    · exact hsame _ hacknowledged

theorem flushReaderWrites_streams (connection : Connection) :
    (flushReaderWrites connection).session.streams = connection.session.streams := by
  unfold flushReaderWrites
  dsimp only
  split
  · split <;> rfl
  · rfl

/-- What an event does to the registered streams. -/
theorem stepConnection_every (lib : DecoderLib) {connection : Connection}
    {event : ConnectionEvent} (h : EveryStream P connection.session)
    (hframe : ∀ frame, event = .reader (.dispatch frame) → ∀ stream,
      findStream connection.session frame.streamId = some stream → P stream →
      P (streamAfter lib connection.session stream frame))
    (hfail : ∀ session onlyPending stream, P stream → P (failStream session onlyPending stream))
    (hnew : ∀ decompress contract, event = .register decompress contract →
      P (newStream connection.session.streamId (some (buildResponseSink decompress contract))))
    (hfinish : ∀ slot, event = .finishCompletion slot → slot ∈ connection.completing →
      ∀ stream, streamAt connection.session slot = some stream → P stream →
      P (finishCompletion stream)) :
    EveryStream P (stepConnection lib connection event).session := by
  cases event with
  | reader action =>
    cases action with
    | dispatch frame =>
      exact readerDispatch_every lib h (hframe frame rfl) fun session => hfail session true
    | flush => exact h.of_streams (flushReaderWrites_streams connection)
  | lost error =>
    have hmarked : EveryStream P { connection.session with
        connError := if error ≠ none then error else connection.session.connError
        goingAway := true } := h
    exact failAllStreams_every hmarked (hfail _ false)
  | register decompress contract => exact registerStream_every h (hnew decompress contract rfl)
  | checkCompletion slot =>
    exact h.of_streams (congrArg Session.streams (checkCompletion_session connection slot))
  | finishCompletion slot =>
    show EveryStream P (passCompletion connection slot).session
    unfold passCompletion
    split
    · rename_i hmem
      exact modifyStream_every h (hfinish slot rfl hmem)
    · exact h
  | unregister slot => exact unregisterStream_every h slot

/-! ## Ids -/

theorem replenishStreamWindow_streamId (session : Session) (streamId : Nat)
    (reading : StreamReading) :
    (replenishStreamWindow session streamId reading).streamId = session.streamId := by
  have hconnection :
      (addConnectionCredit session reading.consumedBytes).streamId = session.streamId := by
    unfold addConnectionCredit tuneConnectionWindow
    split
    · split
      · rfl
      · dsimp only
        split <;> rfl
    · rfl
  have hstream : ∀ session : Session,
      (settleStreamWindow session streamId reading).streamId = session.streamId := by
    intro session
    unfold settleStreamWindow
    dsimp only
    split
    · unfold discardPendingStreamWindow
      split <;> rfl
    · split
      · unfold addStreamWindowCredit
        dsimp only
        split
        · rfl
        · split <;> rfl
      · rfl
  unfold replenishStreamWindow
  dsimp only
  split
  · exact (hstream _).trans hconnection
  · exact (hstream _).trans hconnection

theorem readerDispatch_streamId (lib : DecoderLib) (session : Session) (frame : Frame) :
    (readerDispatch lib session frame).streamId = session.streamId := by
  have hsession := (handleSessionFrame_handlerKeeps session frame).streamId
  by_cases hscoped : frame.isStreamScoped = true
  · cases hfind : findStream session frame.streamId with
    | some stream =>
      have hhandled : (handledSession lib session stream frame).streamId = session.streamId :=
        (handleStreamFrame_handlerKeeps lib session stream frame).streamId
      have hreplenish := replenishStreamWindow_streamId (handledSession lib session stream frame)
        frame.streamId (readingAfter lib session stream frame)
      rw [readerDispatch_eq lib hscoped hfind]
      dsimp only
      split
      · exact hreplenish.trans hhandled
      · exact hreplenish.trans hhandled
    | none =>
      rw [readerDispatch_unknown lib hscoped hfind]
      exact hsession
  · have hacknowledged :
        (acknowledgeFrame (handleSessionFrame session frame) frame).streamId = session.streamId :=
      (acknowledged_keeps session frame).2
    rw [readerDispatch, if_neg hscoped]
    dsimp only
    split
    · exact hacknowledged
    · exact hacknowledged

/-- The next id after an event: only a registration takes one. -/
def nextStreamId (streamId : Nat) : ConnectionEvent → Nat
  | .register _ _ => (streamId + 2) % 0x100000000
  | _ => streamId

theorem stepConnection_streamId (lib : DecoderLib) (connection : Connection)
    (event : ConnectionEvent) :
    (stepConnection lib connection event).session.streamId =
      nextStreamId connection.session.streamId event := by
  cases event with
  | reader action =>
    cases action with
    | dispatch frame => exact readerDispatch_streamId lib connection.session frame
    | flush =>
      show (flushReaderWrites connection).session.streamId = connection.session.streamId
      unfold flushReaderWrites
      dsimp only
      split
      · split <;> rfl
      · rfl
  | lost error => rfl
  | register decompress contract =>
    show (registerStream connection.session _).streamId = _
    unfold registerStream
    dsimp only
    split <;> rfl
  | checkCompletion slot =>
    exact congrArg Session.streamId (checkCompletion_session connection slot)
  | finishCompletion slot =>
    show (passCompletion connection slot).session.streamId = connection.session.streamId
    unfold passCompletion
    split <;> rfl
  | unregister slot => rfl

theorem nextStreamId_odd {streamId : Nat} (h : streamId % 2 = 1) (event : ConnectionEvent) :
    nextStreamId streamId event % 2 = 1 := by
  unfold nextStreamId
  split
  · omega
  · exact h

theorem streamAfter_streamId (lib : DecoderLib) (session : Session) (stream : Stream)
    (frame : Frame) : (streamAfter lib session stream frame).streamId = stream.streamId := by
  refine streamAfter_keeps (P := fun after => after.streamId = stream.streamId) lib session
    (fun before after hid _ hbefore => hid.trans hbefore)
    (fun _ => (appendStreamPayload_keeps lib stream frame.payload).streamId)
    (fun _ _ _ hafter => (deliverResponseHeaders_keeps lib _).streamId.trans hafter)
    (fun after hafter => (completeResponseSink_keeps after).1.streamId.trans hafter)
    (fun after hafter => (takeResponseCancellation_keeps after).1.streamId.trans hafter) rfl

/-- A stream of a request: its id is odd and it has a sink. -/
def IsRequest (stream : Stream) : Prop :=
  stream.streamId % 2 = 1 ∧ isResponseStreaming stream = true

/-- All streams are streams of requests, and the next one will be. -/
structure RequestsOnly (session : Session) : Prop where
  streams : EveryStream IsRequest session
  next : session.streamId % 2 = 1

theorem failStream_isRequest (session : Session) (onlyPending : Bool) {stream : Stream}
    (h : IsRequest stream) : IsRequest (failStream session onlyPending stream) := by
  unfold failStream
  split
  · refine ⟨?_, completeResponseSink_streaming h.2⟩
    rw [(completeResponseSink_keeps _).1.streamId]
    exact h.1
  · exact h

theorem streamAfter_isRequest (lib : DecoderLib) (session : Session) {stream : Stream}
    (frame : Frame) (h : IsRequest stream) :
    IsRequest (streamAfter lib session stream frame) := by
  refine streamAfter_keeps lib session (fun before after hid hsink hbefore => ?_) (fun _ => ?_)
    (fun _ _ _ hafter => ?_) (fun stream hstream => ?_) (fun stream hstream => ?_) h
  · exact ⟨hid ▸ hbefore.1, by rw [isResponseStreaming, hsink]; exact hbefore.2⟩
  · refine ⟨?_, appendStreamPayload_streaming lib _ h.2⟩
    rw [(appendStreamPayload_keeps lib stream frame.payload).streamId]
    exact h.1
  · refine ⟨?_, deliverResponseHeaders_streaming lib hafter.2⟩
    rw [(deliverResponseHeaders_keeps lib _).streamId]
    exact hafter.1
  · refine ⟨?_, completeResponseSink_streaming hstream.2⟩
    rw [(completeResponseSink_keeps stream).1.streamId]
    exact hstream.1
  · refine ⟨?_, takeResponseCancellation_streaming hstream.2⟩
    rw [(takeResponseCancellation_keeps stream).1.streamId]
    exact hstream.1

/-- The consumed bytes of a stream with a sink, and the stream to reset. -/
theorem endStreamReading_reading {stream : Stream} {type : UInt8} {length : Nat}
    (h : isResponseStreaming (endStreamReading stream type length).2 = true) :
    (endStreamReading stream type length).1.consumedBytes = (if type = 0x0 then length else 0) ∧
      ((endStreamReading stream type length).1.cancelStreamId = 0 ∨
        (endStreamReading stream type length).1.cancelStreamId =
          (endStreamReading stream type length).2.streamId) := by
  unfold endStreamReading at h ⊢
  dsimp only at h ⊢
  generalize (if stream.isEnded = true then completeResponseSink stream else stream) = ended
    at h ⊢
  by_cases hsome : ¬isResponseStreaming ended = true
  · rw [if_pos hsome] at h
    exact absurd h hsome
  · rw [if_neg hsome]
    by_cases hcancelled : ¬(takeResponseCancellation ended).1 = true
    · rw [if_pos hcancelled]
      exact ⟨rfl, .inl rfl⟩
    · rw [if_neg hcancelled]
      exact ⟨rfl, .inr rfl⟩

theorem stepConnection_requestsOnly (lib : DecoderLib) {connection : Connection}
    (h : RequestsOnly connection.session) (event : ConnectionEvent) :
    RequestsOnly (stepConnection lib connection event).session := by
  constructor
  · refine stepConnection_every lib h.streams
      (fun frame _ stream _ hstream => streamAfter_isRequest lib _ frame hstream)
      (fun session onlyPending stream => failStream_isRequest session onlyPending)
      (fun decompress contract _ => ⟨h.next, rfl⟩) (fun slot _ _ stream _ hstream => ?_)
    refine ⟨?_, finishCompletion_streaming hstream.2⟩
    have hid : (finishCompletion stream).streamId = stream.streamId := by
      unfold finishCompletion
      split
      · rfl
      · dsimp only
        split <;> rfl
    rw [hid]
    exact hstream.1
  · rw [stepConnection_streamId]
    exact nextStreamId_odd h.next event

end HttpRequestClient.Http2
