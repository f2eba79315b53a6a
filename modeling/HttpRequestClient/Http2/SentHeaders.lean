import HttpRequestClient.Hpack.BufferSizes
import HttpRequestClient.Hpack.RoundTrip
import HttpRequestClient.Http2.RequestFrames

/-!
# The buffer of the HEADERS frame

`buildHeadersFrameBuffer` returns -1 for a header block that is too long.
`buildHttp2HeadersFrame` adds the nine octets of the frame header to it, and
`sendHeadersFrame` takes the sum for the length of a frame: it looks at the
error of the basket only, which nobody has set.

`handleHttp2Request_sendHeadersFrame`: a request starts with that frame or
ends with its error.
`sendsWhole_iff`: what is written is a whole frame, or an error and nothing,
if and only if the block fits.
-/

namespace HttpRequestClient.Http2

open Hpack

/-- The buffers that are handed to `sslWriteAll`, and the error left in the
basket. -/
def sendHeadersFrame (write : Bytes → Bool) (stack : Bytes) (streamId : Nat)
    (request : Http2Request) : List Bytes × Option Error :=
  match buildHttp2HeadersFrame stack streamId request with
  | .error error => ([], some error)
  | .ok headersFrame =>
    ([headersFrame],
      if write headersFrame then none
      else some ERR_REQUEST_SENDING_HTTP2_HEADERS_FRAME_FAILED)

/-- The length field of a frame header. -/
def announcedLength (buffer : Bytes) : Nat :=
  (buffer.getD 0 0).toNat * 65536 + (buffer.getD 1 0).toNat * 256 + (buffer.getD 2 0).toNat

/-- The HEADERS frame is not longer than its buffer. -/
def BlockFits (request : Http2Request) : Prop :=
  ∀ hpackBuffer, encodeHeaders request.headers = .ok hpackBuffer →
    (headersPayload request hpackBuffer).length + 9 ≤ HEADERS_FRAME_SIZE

/-- A block that does not fit is an error and nothing is written; otherwise as
much is written as the frame header says. -/
structure SendsWhole (write : Bytes → Bool) (stack : Bytes) (streamId : Nat)
    (request : Http2Request) : Prop where
  refused : ¬BlockFits request → (sendHeadersFrame write stack streamId request).2 ≠ none ∧
    (sendHeadersFrame write stack streamId request).1 = []
  whole : BlockFits request → ∀ buffer ∈ (sendHeadersFrame write stack streamId request).1,
    buffer.length = 9 + announcedLength buffer

section Send

variable {write : Bytes → Bool} {stack : Bytes} {streamId : Nat} {request : Http2Request}

/-- The request goes on behind its HEADERS frame, or ends with the error. -/
theorem handleHttp2Request_sendHeadersFrame :
    ((sendHeadersFrame write stack streamId request).2 = none →
      (sendHeadersFrame write stack streamId request).1 <+:
        (handleHttp2Request write stack streamId request).1) ∧
    ∀ error, (sendHeadersFrame write stack streamId request).2 = some error →
      (handleHttp2Request write stack streamId request).2 = some error := by
  unfold sendHeadersFrame handleHttp2Request
  cases buildHttp2HeadersFrame stack streamId request with
  | error error => exact ⟨fun h => (by cases h), fun other h => h⟩
  | ok headersFrame =>
    dsimp only
    cases write headersFrame with
    | false => exact ⟨fun h => (by cases h), fun other h => h⟩
    | true =>
      refine ⟨fun _ => ?_, fun other h => by cases h⟩
      simp only [not_true_eq_false, if_false]
      split
      · exact List.prefix_refl _
      · split
        · exact List.prefix_refl _
        · split
          · exact List.prefix_refl _
          · exact List.prefix_append [headersFrame] _

theorem sendHeadersFrame_eq {hpackBuffer : Bytes}
    (h : encodeHeaders request.headers = .ok hpackBuffer) :
    (sendHeadersFrame write stack streamId request).1 =
      [headersBuffer stack streamId request hpackBuffer] := by
  rw [sendHeadersFrame, buildHttp2HeadersFrame_eq h]

theorem blockFits_iff {hpackBuffer : Bytes} (h : encodeHeaders request.headers = .ok hpackBuffer) :
    BlockFits request ↔ (headersPayload request hpackBuffer).length + 9 ≤ HEADERS_FRAME_SIZE := by
  constructor
  · exact fun hfits => hfits hpackBuffer h
  · intro hlength block hblock
    rw [h] at hblock
    cases hblock
    exact hlength

/-- A frame announces its own length. -/
theorem announcedLength_encode {frame : Frame} (h : frame.payload.length < 2 ^ 24) :
    frame.encode.length = 9 + announcedLength frame.encode := by
  have hannounced : announcedLength frame.encode = frame.payload.length := length_octets h
  rw [length_encode, hannounced]

/-- A block that is too long is not refused. -/
theorem not_refused (h : ¬BlockFits request) :
    (sendHeadersFrame write stack streamId request).1 ≠ [] := by
  cases hencode : encodeHeaders request.headers with
  | error error =>
    refine absurd (fun block hblock => ?_) h
    rw [hencode] at hblock
    cases hblock
  | ok hpackBuffer =>
    rw [sendHeadersFrame_eq hencode]
    exact List.cons_ne_nil _ _

theorem sendHeadersFrame_whole (h : BlockFits request) {buffer : Bytes}
    (hbuffer : buffer ∈ (sendHeadersFrame write stack streamId request).1) :
    buffer.length = 9 + announcedLength buffer := by
  cases hencode : encodeHeaders request.headers with
  | error error =>
    rw [sendHeadersFrame, buildHttp2HeadersFrame, hencode] at hbuffer
    exact absurd hbuffer List.not_mem_nil
  | ok hpackBuffer =>
    have hlength := h hpackBuffer hencode
    rw [sendHeadersFrame_eq hencode, List.mem_singleton, headersBuffer,
      if_neg (Nat.not_lt.mpr hlength)] at hbuffer
    rw [hbuffer]
    have hshort : (headersPayload request hpackBuffer).length < 2 ^ 24 := by
      rw [HEADERS_FRAME_SIZE] at hlength
      omega
    exact announcedLength_encode hshort

end Send

/-- `sendHeadersFrame` writes a whole frame, or sets an error and writes
nothing, if and only if the header block fits the buffer of the frame. -/
theorem sendsWhole_iff (write : Bytes → Bool) (stack : Bytes) (streamId : Nat)
    (request : Http2Request) : SendsWhole write stack streamId request ↔ BlockFits request := by
  constructor
  · intro h
    by_contra hlong
    exact not_refused hlong (h.refused hlong).2
  · intro h
    exact ⟨fun hlong => absurd h hlong, fun _ _ hbuffer => sendHeadersFrame_whole h hbuffer⟩

/-- `GET https://a/` with a header. -/
def refererRequest (referer : Bytes) : Http2Request where
  headers := [
    ⟨ascii ":method", ascii "GET", true⟩, ⟨ascii ":authority", ascii "a", true⟩,
    ⟨ascii ":scheme", ascii "https", true⟩, ⟨ascii ":path", ascii "/", true⟩,
    ⟨ascii "referer", referer, false⟩]
  payload := none
  enableHeadersPriority := false

theorem encodeHeaders_cons {header : RequestHeader} {headers : List RequestHeader}
    {head tail : Bytes} (hemitted : isEmitted header = true)
    (hhead : encodeHeader header = .ok head) (htail : encodeHeaders headers = .ok tail) :
    encodeHeaders (header :: headers) = .ok (head ++ tail) := by
  simp only [encodeHeaders, hemitted, if_true, hhead, htail]

theorem encodeHeaders_referer (referer : Bytes) :
    ∃ hpackBuffer, encodeHeaders (refererRequest referer).headers = .ok hpackBuffer ∧
      codedSize referer ≤ hpackBuffer.length := by
  have hlength := length_hpackHeaders ⟨ascii "referer", referer, false⟩
  rw [realHeaderSize] at hlength
  refine ⟨_, encodeHeaders_cons rfl rfl (encodeHeaders_cons rfl rfl (encodeHeaders_cons rfl rfl
    (encodeHeaders_cons rfl rfl (encodeHeaders_cons rfl rfl rfl)))), ?_⟩
  simp only [List.length_append, hlength]
  omega

/-- The block has more than 35000 octets.  Eight octets are written that
nothing was put into. -/
theorem sendsWhole_longReferer :
    ¬SendsWhole (fun _ => true) zeroStack 1 (refererRequest (List.replicate (8 * 7000) 97)) := by
  have hvalue := hpackHuffmanEncode_replicate 7000
  rw [length_hpackHuffmanEncode] at hvalue
  generalize (List.replicate (8 * 7000) 97 : Bytes) = referer at hvalue ⊢
  obtain ⟨hpackBuffer, hencode, hlength⟩ := encodeHeaders_referer referer
  have hlong : ¬BlockFits (refererRequest referer) := by
    rw [blockFits_iff hencode]
    simp only [headersPayload, List.length_append, HEADERS_FRAME_SIZE]
    omega
  exact fun h => not_refused hlong (h.refused hlong).2

end HttpRequestClient.Http2
