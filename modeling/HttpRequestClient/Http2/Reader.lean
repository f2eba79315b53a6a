import HttpRequestClient.Hpack.Decoder
import HttpRequestClient.Lib.Slots
import HttpRequestClient.Session

/-!
# The HTTP/2 reader

`readerDispatch` of `Http2ResponseHandler.c` with the frame handlers it
calls, and the control frames it queues (`Http2RequestHandler.c`).

A handler that changes the stream it is given returns the changed stream,
and `readerDispatch` puts it back into the registry.  A call of
`decodeHeadersFrame` goes through `decodeBlock`, which also records the
block.

Left out: the frames that are only logged (SETTINGS values, WINDOW_UPDATE).
-/

namespace HttpRequestClient.Http2

open Hpack

/-- A frame as `readerLoop` cuts it out. -/
structure Frame where
  type : UInt8
  flags : UInt8
  streamId : Nat
  payload : Bytes
  deriving Repr, DecidableEq

def Frame.endStream (frame : Frame) : Bool := frame.flags &&& 0x1 ≠ 0
def Frame.endHeaders (frame : Frame) : Bool := frame.flags &&& 0x4 ≠ 0
def Frame.padded (frame : Frame) : Bool := frame.flags &&& 0x8 ≠ 0
def Frame.priority (frame : Frame) : Bool := frame.flags &&& 0x20 ≠ 0

/-! ## The write queue -/

def queueControlFrame (session : Session) (frame : Bytes) : Session :=
  { session with pendingWire := session.pendingWire ++ frame }

/-- The four octets of a number, the highest bit cleared. -/
def octets31 (n : Nat) : Bytes :=
  [UInt8.ofNat ((n >>> 24) % 128), UInt8.ofNat (n >>> 16), UInt8.ofNat (n >>> 8), UInt8.ofNat n]

def queueWindowUpdateFrame (session : Session) (streamId increment : Nat) : Session :=
  queueControlFrame session ([0, 0, 4, 0x8, 0] ++ octets31 streamId ++ octets31 increment)

def queueRSTStreamFrame (session : Session) (streamId : Nat) : Session :=
  queueControlFrame session ([0, 0, 4, 0x3, 0] ++ octets31 streamId ++ [0, 0, 0, 0x8])

/-! ## Flow control -/

def STREAM_WINDOW_UPDATE_THRESHOLD : Nat := 16384
def CONNECTION_WINDOW_UPDATE_THRESHOLD : Nat := 65535
def CONNECTION_WINDOW_MAX : Nat := 16777216

def tuneConnectionWindow (session : Session) (consumed : Nat) : Session :=
  if session.connWindowTarget ≥ CONNECTION_WINDOW_MAX then session
  else
    let sinceGrowth := (session.connWindowSinceGrowth + consumed) % 2 ^ 32
    if sinceGrowth < session.connWindowTarget then
      { session with connWindowSinceGrowth := sinceGrowth }
    else
      let doubled := session.connWindowTarget * 2 % 2 ^ 32
      let target := if doubled < CONNECTION_WINDOW_MAX then doubled else CONNECTION_WINDOW_MAX
      { session with
        connWindowSinceGrowth := sinceGrowth - session.connWindowTarget
        connWindowTarget := target
        pendingConnWindow :=
          (session.pendingConnWindow + (target - session.connWindowTarget)) % 2 ^ 32
        connWindowFlushDue := true }

/-- The index of the credit of a stream. -/
def findPendingWindow (session : Session) (streamId : Nat) : Option Nat :=
  session.pendingStreamWindows.findIdx? (fun entry => entry.streamId = streamId)

def addStreamWindowCredit (session : Session) (streamId credit : Nat) : Session :=
  let windows := session.pendingStreamWindows
  let entries : Option (Nat × List PendingWindowUpdate) :=
    match findPendingWindow session streamId with
    | some i => some (i, windows)
    | none =>
      if windows.length ≥ MAX_CONCURRENT_STREAMS_PER_SESSION then none
      else some (windows.length, windows ++ [⟨streamId, 0⟩])
  match entries with
  | none => session
  | some (i, windows) =>
    let total := ((windows.getD i ⟨streamId, 0⟩).credit + credit) % 2 ^ 32
    if total ≤ STREAM_WINDOW_UPDATE_THRESHOLD then
      { session with pendingStreamWindows := windows.set i ⟨streamId, total⟩ }
    else
      queueWindowUpdateFrame { session with pendingStreamWindows := windows.set i ⟨streamId, 0⟩ }
        streamId total

/-- The last entry takes the place of the one removed. -/
def discardPendingStreamWindow (session : Session) (streamId : Nat) : Session :=
  match findPendingWindow session streamId with
  | none => session
  | some i =>
    let windows := session.pendingStreamWindows
    let last := windows.getD (windows.length - 1) ⟨streamId, 0⟩
    { session with pendingStreamWindows := (windows.set i last).dropLast }

/-- What the reader still has to write after a frame. -/
structure StreamReading where
  consumedBytes : Nat
  cancelStreamId : Nat
  ended : Bool
  reset : Bool
  deriving Repr, DecidableEq

/-- Consumed bytes are owed to the connection. -/
def addConnectionCredit (session : Session) (consumed : Nat) : Session :=
  if consumed > 0 then
    tuneConnectionWindow
      { session with pendingConnWindow := (session.pendingConnWindow + consumed) % 2 ^ 32 } consumed
  else session

/-- Consumed bytes are owed to the stream unless it is dead. -/
def settleStreamWindow (session : Session) (streamId : Nat) (reading : StreamReading) : Session :=
  let streamDead := reading.ended ∨ reading.reset ∨ reading.cancelStreamId ≠ 0
  if streamDead then discardPendingStreamWindow session streamId
  else if reading.consumedBytes > 0 then
    addStreamWindowCredit session streamId reading.consumedBytes
  else session

def replenishStreamWindow (session : Session) (streamId : Nat) (reading : StreamReading) :
    Session :=
  let session := addConnectionCredit session reading.consumedBytes
  let session := settleStreamWindow session streamId reading
  let flushConnection :=
    reading.ended ∨ session.pendingConnWindow ≥ CONNECTION_WINDOW_UPDATE_THRESHOLD
  if flushConnection then { session with connWindowFlushDue := true } else session

/-- After a frame on a stream: complete the callbacks of a stream that has
ended, and take the consumer's cancellation. -/
def endStreamReading (stream : Stream) (type : UInt8) (length : Nat) : StreamReading × Stream :=
  let ended := stream.isEnded
  let stream := if ended then completeResponseSink stream else stream
  let reading : StreamReading := ⟨0, 0, ended, type = 0x3⟩
  if ¬isResponseStreaming stream then (reading, stream)
  else
    let reading := { reading with consumedBytes := if type = 0x0 then length else 0 }
    let (cancelled, stream) := takeResponseCancellation stream
    if ¬cancelled then (reading, stream)
    else
      let stream := if ended then stream else completeResponseSink { stream with isEnded := true }
      ({ reading with cancelStreamId := stream.streamId }, stream)

/-! ## Frames of a stream -/

/-- Pass a block to `decodeHeadersFrame` on the context of the session. -/
def decodeBlock (session : Session) (stream : Stream) (block : Bytes) : Session × Stream :=
  let decoded := decodeHeadersFrame stream block session.hpackCtx
  ({ session with
      hpackCtx := decoded.2
      decodedBlocks := session.decodedBlocks ++ [block] }, decoded.1)

/-- What is left of a payload without its priority and padding. -/
def removePadding (priority : Bool) (padLength : Nat) (payload : Bytes) : Option Bytes :=
  if priority ∧ payload.length < 5 then none
  else
    let payload := if priority then payload.drop 5 else payload
    if padLength > 0 ∧ padLength > payload.length then none
    else some (payload.take (payload.length - padLength))

/-- The header block fragment of a HEADERS frame.  Null when the pad length,
the priority or the padding does not fit. -/
def headerFragment (frame : Frame) : Option Bytes :=
  if frame.padded then
    match frame.payload with
    | [] => none
    | padLength :: payload => removePadding frame.priority padLength.toNat payload
  else removePadding frame.priority 0 frame.payload

/-- A block that does not end in its HEADERS frame is buffered. -/
def handleHeadersFrame (session : Session) (stream : Stream) (frame : Frame) : Session × Stream :=
  match headerFragment frame with
  | none =>
    (session, { stream with error := some ERR_RESPONSE_DECODING_HEADERS_FRAME_FAILED })
  | some fragment =>
    if ¬frame.endHeaders then
      (session, { stream with headerBlock := fragment, awaitingContinuation := true })
    else decodeBlock session stream fragment

/-- A CONTINUATION frame without an open block is dropped. -/
def handleContinuationFrame (session : Session) (stream : Stream) (frame : Frame) :
    Session × Stream :=
  if ¬stream.awaitingContinuation then (session, stream)
  else
    let stream := { stream with headerBlock := stream.headerBlock ++ frame.payload }
    if frame.endHeaders then
      let stream := { stream with awaitingContinuation := false }
      let (session, stream) :=
        if stream.error = none then decodeBlock session stream stream.headerBlock
        else (session, stream)
      (session, { stream with headerBlock := [] })
    else (session, stream)

def getErrorName (code : Nat) : String :=
  ["NO_ERROR", "PROTOCOL_ERROR", "INTERNAL_ERROR", "FLOW_CONTROL_ERROR", "SETTINGS_TIMEOUT",
    "STREAM_CLOSED", "FRAME_SIZE_ERROR", "REFUSED_STREAM", "CANCEL", "COMPRESSION_ERROR",
    "CONNECT_ERROR", "ENHANCE_YOUR_CALM", "INADEQUATE_SECURITY", "HTTP_1_1_REQUIRED"].getD code
    "STREAM_UNKNOWN_ERROR"

/-- A big-endian number of four octets at an offset. -/
def uint32At (payload : Bytes) (offset : Nat) : Nat :=
  ((payload.drop offset).take 4).foldl (fun n c => n * 256 + c.toNat) 0

def handleRST_STREAMFrame (session : Session) (stream : Stream) (payload : Bytes) :
    Session × Stream :=
  if payload.length = 4 then
    let errorCode := uint32At payload 0
    if errorCode = 0xd then
      ({ session with connError := some ERR_SESSION_HTTP_1_1_REQUIRED, goingAway := true },
        { stream with error := some ERR_SESSION_HTTP_1_1_REQUIRED })
    else
      (session, { stream with
        error := some { ERR_RESPONSE_RST_STREAM_ERROR with msg := getErrorName errorCode } })
  else
    (session, { stream with
      error := some { ERR_RESPONSE_RST_STREAM_ERROR with msg := "Invalid RST_STREAM frame length" } })

def handleGoAwayFrame (session : Session) (payload : Bytes) : Session :=
  if payload.length ≥ 8 then
    let errorCode := uint32At payload 4
    let error :=
      if errorCode = 0x4 then ERR_SESSION_SETTINGS_TIMEOUT
      else if errorCode = 0xd then ERR_SESSION_HTTP_1_1_REQUIRED
      else ERR_SESSION_GO_AWAY
    { session with connError := some error, goingAway := true }
  else session

section Streams

variable (lib : DecoderLib)

/-- Headers are delivered with the frame that ends them. -/
def deliverHeaders (stream : Stream) (frame : Frame) : Stream :=
  if (frame.type = 0x1 ∨ frame.type = 0x9) ∧ frame.endHeaders ∧ stream.error = none then
    deliverResponseHeaders lib stream
  else stream

/-- The end of `handleStreamFrame` for a stream: deliver complete headers,
and note the end of the stream. -/
def finishFrame (stream : Stream) (frame : Frame) : Stream :=
  let stream := deliverHeaders lib stream frame
  if (frame.type = 0x0 ∨ frame.type = 0x1 ∨ frame.type = 0x9) ∧ frame.endStream then
    { stream with isEnded := true }
  else stream

/-- A frame for a stream of the registry. -/
def handleStreamFrame (session : Session) (stream : Stream) (frame : Frame) : Session × Stream :=
  let (session, stream) :=
    if frame.type = 0x0 then (session, (appendStreamPayload lib stream frame.payload).2)
    else if frame.type = 0x1 then handleHeadersFrame session stream frame
    else if frame.type = 0x9 then handleContinuationFrame session stream frame
    else if frame.type = 0x3 then
      let (session, stream) := handleRST_STREAMFrame session stream frame.payload
      (session, { stream with isEnded := true })
    else (session, stream)
  (session, finishFrame lib stream frame)

/-- A frame without a stream: a HEADERS frame is decoded into a scratch
stream, a GOAWAY is noted, and every other one is ignored. -/
def handleSessionFrame (session : Session) (frame : Frame) : Session :=
  if frame.type = 0x1 then (handleHeadersFrame session Stream.scratch frame).1
  else if frame.type = 0x7 then handleGoAwayFrame session frame.payload
  else session

/-- End the streams that will get no response. -/
def failStream (session : Session) (onlyPending : Bool) (stream : Stream) : Stream :=
  if ¬stream.isEnded ∧ (¬onlyPending ∨ stream.numHeaders = 0) then
    completeResponseSink { stream with
      error := if session.connError ≠ none then session.connError
        else some ERR_RESPONSE_READING_CONNECTION_ERROR
      isEnded := true }
  else stream

def failAllStreams (session : Session) (onlyPending : Bool) : Session :=
  { session with streams := session.streams.map (Option.map (failStream session onlyPending)) }

/-- The answer to a frame of the connection: the acknowledgement of SETTINGS
and PING. -/
def acknowledgeFrame (session : Session) (frame : Frame) : Session :=
  if frame.type = 0x4 ∧ frame.flags &&& 0x1 = 0 then
    queueControlFrame session [0, 0, 0, 0x4, 0x1, 0, 0, 0, 0]
  else if frame.type = 0x6 ∧ frame.flags &&& 0x1 = 0 ∧ frame.payload.length = 8 then
    queueControlFrame session ([0, 0, 8, 0x6, 0x1, 0, 0, 0, 0] ++ frame.payload)
  else session

/-- An acknowledgement is queued, and nothing else changes. -/
theorem acknowledgeFrame_eq (session : Session) (frame : Frame) :
    ∃ wire, acknowledgeFrame session frame = { session with pendingWire := wire } := by
  unfold acknowledgeFrame
  split
  · exact ⟨_, rfl⟩
  · split
    · exact ⟨_, rfl⟩
    · exact ⟨session.pendingWire, rfl⟩

/-- Frames that belong to a stream. -/
def Frame.isStreamScoped (frame : Frame) : Bool :=
  frame.type = 0x0 ∨ frame.type = 0x1 ∨ frame.type = 0x3 ∨ frame.type = 0x9

def readerDispatch (session : Session) (frame : Frame) : Session :=
  if frame.isStreamScoped then
    match findStream session frame.streamId with
    | some stream =>
      let (session, stream) := handleStreamFrame lib session stream frame
      let (reading, stream) := endStreamReading stream frame.type frame.payload.length
      let session := updateStream session frame.streamId stream
      let session := replenishStreamWindow session frame.streamId reading
      if reading.cancelStreamId ≠ 0 then queueRSTStreamFrame session reading.cancelStreamId
      else session
    | none => handleSessionFrame session frame
  else
    let session := acknowledgeFrame (handleSessionFrame session frame) frame
    if frame.type = 0x7 then failAllStreams session true else session

end Streams

end HttpRequestClient.Http2
