import HttpRequestClient.Hpack.Encoder
import HttpRequestClient.Http2.ReaderLoop

/-!
# Requests on the wire

The functions of `Http2RequestHandler.c` that write a request: the HEADERS
frame, and a DATA frame when the request has a payload.  They hand whole
buffers to `sslWriteAll`; `write` says which buffers it takes.

A header block that does not fit its buffer is not refused.  The frame is
not built, and `sendHeadersFrame` writes the first octets of a buffer on the
stack that nothing was put into.

`headersIds_handleHttp2Request` says which HEADERS frames a request writes.
-/

namespace HttpRequestClient.Http2

open Hpack

/-- The part of a basket that is sent. -/
structure Http2Request where
  headers : List RequestHeader
  payload : Option Bytes
  enableHeadersPriority : Bool

/-- The size of the buffer for the HEADERS frame. -/
def HEADERS_FRAME_SIZE : Nat := 32768

/-- An exclusive dependency on the root stream, with weight 256. -/
def priorityData : Bytes := [0x80, 0, 0, 0, 255]

/-- The nine octets of a frame header. -/
def frameHeader (length : Nat) (type flags : UInt8) (streamId : Nat) : Bytes :=
  [UInt8.ofNat (length >>> 16), UInt8.ofNat (length >>> 8), UInt8.ofNat length, type, flags] ++
    octets31 streamId

/-- The frame around a header block, unless it is longer than the buffer. -/
def buildHeadersFrameBuffer (bufferSize : Nat) (hasPayload : Bool) (hpackBuffer : Bytes)
    (streamId : Nat) (includePriority : Bool) : Option Bytes :=
  let priority := if includePriority then priorityData else []
  let totalPayloadLen := priority.length + hpackBuffer.length
  if totalPayloadLen + 9 > bufferSize then none
  else
    let flags : UInt8 := 0x04 ||| (if hasPayload then 0 else 0x01) |||
      (if includePriority then 0x20 else 0)
    some (frameHeader totalPayloadLen 0x01 flags streamId ++ priority ++ hpackBuffer)

/-- The octets that `sendHeadersFrame` writes.  The length of a frame that was
not built is -1, and with the header it is 8. -/
def buildHttp2HeadersFrame (stack : Bytes) (streamId : Nat) (request : Http2Request) :
    Except Error Bytes :=
  match encodeHeaders request.headers with
  | .error error => .error error
  | .ok hpackBuffer =>
    match buildHeadersFrameBuffer HEADERS_FRAME_SIZE request.payload.isSome hpackBuffer streamId
      request.enableHeadersPriority with
    | none => .ok (stack.take 8)
    | some buffer => .ok buffer

/-- The whole payload is one frame. -/
def buildDataFrame (streamId : Nat) (payload : Bytes) : Bytes :=
  frameHeader payload.length 0x00 0x01 streamId ++ payload

/-- The buffers written for a request, and the error left in its basket. -/
def handleHttp2Request (write : Bytes → Bool) (stack : Bytes) (streamId : Nat)
    (request : Http2Request) : List Bytes × Option Error :=
  match buildHttp2HeadersFrame stack streamId request with
  | .error error => ([], some error)
  | .ok headersFrame =>
    if ¬write headersFrame then ([], some ERR_REQUEST_SENDING_HTTP2_HEADERS_FRAME_FAILED)
    else
      match request.payload with
      | none => ([headersFrame], none)
      | some payload =>
        if payload.length = 0 then ([headersFrame], none)
        else
          let dataFrame := buildDataFrame streamId payload
          if ¬write dataFrame then
            ([headersFrame], some ERR_REQUEST_SENDING_HTTP2_DATA_FRAME_FAILED)
          else ([headersFrame, dataFrame], none)

/-! ## Frames that are read back -/

def Frame.encode (frame : Frame) : Bytes :=
  frameHeader frame.payload.length frame.type frame.flags frame.streamId ++ frame.payload

theorem length_encode (frame : Frame) : frame.encode.length = 9 + frame.payload.length := by
  simp [Frame.encode, frameHeader, octets31]
  omega

/-- The length and the stream of a frame fit its header. -/
def Frame.Fits (frame : Frame) : Prop := frame.payload.length < 2 ^ 24 ∧ frame.streamId < 2 ^ 31

instance (frame : Frame) : Decidable frame.Fits :=
  inferInstanceAs (Decidable (frame.payload.length < 2 ^ 24 ∧ frame.streamId < 2 ^ 31))

theorem length_octets {length : Nat} (h : length < 2 ^ 24) :
    (UInt8.ofNat (length >>> 16)).toNat * 65536 + (UInt8.ofNat (length >>> 8)).toNat * 256 +
      (UInt8.ofNat length).toNat = length := by
  simp only [UInt8.toNat_ofNat', Nat.shiftRight_eq_div_pow]
  omega

theorem Frame.cut_encode {frame : Frame} (h : frame.Fits) :
    Frame.cut frame.encode = some (frame, []) := by
  obtain ⟨s3, s2, s1, s0, hoctets, hhigh, hvalue⟩ := octets31_value h.2
  have hlength := length_octets h.1
  rw [Frame.encode, frameHeader, hoctets]
  simp only [List.cons_append, List.nil_append, Frame.cut, hlength, Nat.mod_eq_of_lt hhigh, hvalue,
    Nat.le_refl, if_true, List.take_length, List.drop_length]

/-- Frames that come in one read. -/
structure FrameBatch where
  frames : List Frame
  fit : ∀ frame ∈ frames, frame.Fits
  nonempty : 0 < (frames.flatMap Frame.encode).length
  small : (frames.flatMap Frame.encode).length ≤ 16384

def FrameBatch.piece (batch : FrameBatch) : Piece :=
  ⟨batch.frames.flatMap Frame.encode, batch.nonempty, batch.small⟩

/-- What the reader does with a read of whole frames. -/
def FrameBatch.actions (batch : FrameBatch) : List ReaderAction :=
  batch.frames.map .dispatch ++ [.flush]

theorem readerTrace_batches (batches : List FrameBatch) :
    (recordReading (batches.map FrameBatch.piece)).acc = [] ∧
      readerTrace (batches.map FrameBatch.piece) = batches.flatMap FrameBatch.actions := by
  induction batches using List.reverseRecOn with
  | nil => exact ⟨rfl, rfl⟩
  | append_singleton batches batch ih =>
    obtain ⟨hacc, htrace⟩ := ih
    have hall : frameCutter.all ((recordReading (batches.map FrameBatch.piece)).acc ++
        batch.piece.bytes) = (batch.frames, []) := by
      rw [hacc, List.nil_append]
      refine (frameCutter.all_flatMap Frame.encode id fun frame hframe =>
        Frame.cut_encode (batch.fit frame hframe)).trans ?_
      rw [List.map_id]
    rw [List.map_append, List.map_singleton]
    constructor
    · rw [recordReading_append, hall]
    · rw [readerTrace_append, hall, htrace, List.flatMap_append, List.flatMap_singleton,
        List.append_assoc]
      rfl

/-! ## The stream of a buffer -/

/-- The stream of a HEADERS frame.  Fewer octets than a frame header are no
frame. -/
def headersId? (buffer : Bytes) : Option Nat :=
  if 9 ≤ buffer.length ∧ buffer.getD 3 0 = 0x01 then some (streamIdAt buffer 0) else none

/-- The streams of the HEADERS frames, in the order of the wire. -/
def headersIds (wire : List Bytes) : List Nat := wire.filterMap headersId?

theorem headersId?_frameHeader (length : Nat) (type flags : UInt8) {streamId : Nat}
    (hid : streamId < 2 ^ 31) (payload : Bytes) :
    headersId? (frameHeader length type flags streamId ++ payload) =
      if type = 0x01 then some streamId else none := by
  obtain ⟨s3, s2, s1, s0, hoctets, hhigh, hvalue⟩ := octets31_value hid
  have hbuffer : (frameHeader length type flags streamId ++ payload).drop 0 =
      UInt8.ofNat (length >>> 16) :: UInt8.ofNat (length >>> 8) :: UInt8.ofNat length :: type ::
        flags :: s3 :: s2 :: s1 :: s0 :: payload := by
    rw [frameHeader, hoctets]
    rfl
  have hstream := streamIdAt_of_drop hbuffer
  rw [Nat.mod_eq_of_lt hhigh, hvalue] at hstream
  rw [List.drop_zero] at hbuffer
  rw [headersId?, hstream, hbuffer]
  simp

/-- A HEADERS frame names the stream of its request. -/
theorem headersId?_buildHeadersFrameBuffer {bufferSize streamId : Nat} {hasPayload : Bool}
    {hpackBuffer buffer : Bytes} {includePriority : Bool} (hid : streamId < 2 ^ 31)
    (h : buildHeadersFrameBuffer bufferSize hasPayload hpackBuffer streamId includePriority =
      some buffer) : headersId? buffer = some streamId := by
  unfold buildHeadersFrameBuffer at h
  dsimp only at h
  generalize (if includePriority = true then priorityData else []) = priority at h
  split at h
  · cases h
  · cases h
    rw [List.append_assoc, headersId?_frameHeader _ _ _ hid, if_pos rfl]

theorem headersId?_buildDataFrame {streamId : Nat} (hid : streamId < 2 ^ 31) (payload : Bytes) :
    headersId? (buildDataFrame streamId payload) = none := by
  rw [buildDataFrame, headersId?_frameHeader _ _ _ hid]
  rfl

theorem headersId?_buildHttp2HeadersFrame {stack buffer : Bytes} {streamId : Nat}
    {request : Http2Request} (hid : streamId < 2 ^ 31)
    (h : buildHttp2HeadersFrame stack streamId request = .ok buffer) :
    headersId? buffer = none ∨ headersId? buffer = some streamId := by
  unfold buildHttp2HeadersFrame at h
  split at h
  · cases h
  · split at h
    · cases h
      left
      have hshort : (stack.take 8).length ≤ 8 := List.length_take_le 8 stack
      rw [headersId?, if_neg]
      omega
    · rename_i hbuild
      cases h
      exact .inr (headersId?_buildHeadersFrameBuffer hid hbuild)

/-- A request writes at most one HEADERS frame, on its stream. -/
theorem headersIds_handleHttp2Request (write : Bytes → Bool) (stack : Bytes) {streamId : Nat}
    (hid : streamId < 2 ^ 31) (request : Http2Request) :
    headersIds (handleHttp2Request write stack streamId request).1 = [] ∨
      headersIds (handleHttp2Request write stack streamId request).1 = [streamId] := by
  have hdata := headersId?_buildDataFrame hid
  unfold handleHttp2Request
  split
  · exact .inl rfl
  · rename_i headersFrame hbuild
    have hheaders := headersId?_buildHttp2HeadersFrame hid hbuild
    have hone : headersIds [headersFrame] = [] ∨ headersIds [headersFrame] = [streamId] := by
      rcases hheaders with hnone | hsome
      · exact .inl (by rw [headersIds, List.filterMap_cons_none hnone]; rfl)
      · exact .inr (by rw [headersIds, List.filterMap_cons_some hsome]; rfl)
    split
    · exact .inl rfl
    · split
      · exact hone
      · rename_i payload _
        split
        · exact hone
        · dsimp only
          split
          · exact hone
          · have hboth : headersIds [headersFrame, buildDataFrame streamId payload] =
                headersIds [headersFrame] := by
              rw [← List.singleton_append, headersIds, List.filterMap_append,
                List.filterMap_cons_none (hdata payload), List.filterMap_nil, List.append_nil]
              rfl
            rw [hboth]
            exact hone

end HttpRequestClient.Http2
