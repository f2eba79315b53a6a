import HttpRequestClient.Http2.Requests

/-!
# The frames of a request

What a peer makes of the buffers that `handleHttp2Request` writes.

END_STREAM is put on the HEADERS frame when the basket has no payload, and
on the DATA frame when there is one; the DATA frame of an empty payload is
not written.  No payload is split, so a frame is as long as what it carries,
and a HEADERS frame that is longer than its buffer is replaced by eight
octets of the stack.
-/

namespace HttpRequestClient.Http2

open Hpack

/-! ## The buffers of a request -/

/-- What the HEADERS frame carries. -/
def headersPayload (request : Http2Request) (hpackBuffer : Bytes) : Bytes :=
  (if request.enableHeadersPriority then priorityData else []) ++ hpackBuffer

/-- What the HEADERS frame carries is at most `size` octets long. -/
def HeadersFit (request : Http2Request) (size : Nat) : Prop :=
  ∃ hpackBuffer, encodeHeaders request.headers = .ok hpackBuffer ∧
    (headersPayload request hpackBuffer).length ≤ size

/-- END_HEADERS always, END_STREAM when no payload follows. -/
def headersFlags (hasPayload includePriority : Bool) : UInt8 :=
  0x04 ||| (if hasPayload then 0 else 0x01) ||| (if includePriority then 0x20 else 0)

/-- The HEADERS frame of a request. -/
def headersFrame (streamId : Nat) (request : Http2Request) (hpackBuffer : Bytes) : Frame where
  type := 0x1
  flags := headersFlags request.payload.isSome request.enableHeadersPriority
  streamId
  payload := headersPayload request hpackBuffer

/-- What the DATA frame carries. -/
def Http2Request.body (request : Http2Request) : Bytes := request.payload.getD []

/-- The DATA frame of a request, which an empty body does not have. -/
def dataFrames (streamId : Nat) (request : Http2Request) : List Frame :=
  if request.body.length = 0 then [] else [⟨0x0, 0x1, streamId, request.body⟩]

/-- The first buffer of a request. -/
def headersBuffer (stack : Bytes) (streamId : Nat) (request : Http2Request)
    (hpackBuffer : Bytes) : Bytes :=
  if (headersPayload request hpackBuffer).length + 9 > HEADERS_FRAME_SIZE then stack.take 8
  else (headersFrame streamId request hpackBuffer).encode

theorem buildHeadersFrameBuffer_eq (streamId : Nat) (request : Http2Request)
    (hpackBuffer : Bytes) :
    buildHeadersFrameBuffer HEADERS_FRAME_SIZE request.payload.isSome hpackBuffer streamId
        request.enableHeadersPriority =
      if (headersPayload request hpackBuffer).length + 9 > HEADERS_FRAME_SIZE then none
      else some (headersFrame streamId request hpackBuffer).encode := by
  simp only [buildHeadersFrameBuffer, headersPayload, headersFrame, headersFlags,
    Frame.encode, List.length_append, List.append_assoc]

theorem buildHttp2HeadersFrame_eq {stack hpackBuffer : Bytes} {streamId : Nat}
    {request : Http2Request} (h : encodeHeaders request.headers = .ok hpackBuffer) :
    buildHttp2HeadersFrame stack streamId request =
      .ok (headersBuffer stack streamId request hpackBuffer) := by
  simp only [buildHttp2HeadersFrame, h, buildHeadersFrameBuffer_eq, headersBuffer]
  by_cases hlong : (headersPayload request hpackBuffer).length + 9 > HEADERS_FRAME_SIZE
  · simp only [if_pos hlong]
  · simp only [if_neg hlong]

/-- A request without an error writes its header block and its payload. -/
theorem handleHttp2Request_written {write : Bytes → Bool} {stack : Bytes} {streamId : Nat}
    {request : Http2Request} (h : (handleHttp2Request write stack streamId request).2 = none) :
    ∃ hpackBuffer, encodeHeaders request.headers = .ok hpackBuffer ∧
      (handleHttp2Request write stack streamId request).1 =
        headersBuffer stack streamId request hpackBuffer ::
          (dataFrames streamId request).map Frame.encode := by
  cases hencode : encodeHeaders request.headers with
  | error error =>
    simp only [handleHttp2Request, buildHttp2HeadersFrame, hencode] at h
    cases h
  | ok hpackBuffer =>
    refine ⟨hpackBuffer, rfl, ?_⟩
    simp only [handleHttp2Request, buildHttp2HeadersFrame_eq hencode] at h ⊢
    split at h
    · cases h
    · rename_i hwritten
      rw [if_neg hwritten]
      unfold dataFrames Http2Request.body
      cases hpayload : request.payload with
      | none => rfl
      | some payload =>
        simp only [hpayload, Option.getD_some] at h ⊢
        split
        · rfl
        · rename_i hlength
          rw [if_neg hlength] at h
          split at h
          · cases h
          · rename_i hsent
            rw [if_neg hsent]
            rfl

/-! ## END_STREAM -/

/-- The octets are whole frames, and the last one is the only one with
END_STREAM. -/
def EndsOnce (wire : Bytes) : Prop :=
  (frameCutter.all wire).2 = [] ∧
    ∃ before last, (frameCutter.all wire).1 = before ++ [last] ∧ last.endStream = true ∧
      ∀ frame ∈ before, frame.endStream = false

/-- Octets without a whole frame do not end the stream. -/
theorem not_endsOnce_of_none {wire : Bytes} (h : Frame.cut wire = none) : ¬EndsOnce wire := by
  rintro ⟨-, before, last, hframes, -⟩
  rw [frameCutter.all_of_none h] at hframes
  cases before with
  | nil => cases hframes
  | cons frame before => cases hframes

/-- The first frame ends the stream when nothing follows it, and else leaves
this to what follows. -/
theorem endsOnce_of_cut {wire rest : Bytes} {frame : Frame}
    (h : Frame.cut wire = some (frame, rest)) :
    EndsOnce wire ↔
      frame.endStream = true ∧ rest = [] ∨ frame.endStream = false ∧ EndsOnce rest := by
  have hall : frameCutter.all wire =
      (frame :: (frameCutter.all rest).1, (frameCutter.all rest).2) := frameCutter.all_of_some h
  unfold EndsOnce
  rw [hall]
  constructor
  · rintro ⟨hwhole, before, last, hframes, hlast, hbefore⟩
    cases before with
    | nil =>
      obtain ⟨rfl, hnone⟩ := List.cons.inj hframes
      have htotal := frameCutter.total_all rest
      rw [hnone, hwhole, frameCutter.total_nil] at htotal
      exact .inl ⟨hlast, List.length_eq_zero_iff.mp htotal.symm⟩
    | cons first before =>
      obtain ⟨rfl, hrest⟩ := List.cons.inj hframes
      rw [List.forall_mem_cons] at hbefore
      exact .inr ⟨hbefore.1, hwhole, before, last, hrest, hlast, hbefore.2⟩
  · rintro (⟨hends, rfl⟩ | ⟨hopen, hwhole, before, last, hframes, hlast, hbefore⟩)
    · rw [frameCutter.all_nil]
      exact ⟨rfl, [], frame, rfl, hends, fun _ hframe => absurd hframe List.not_mem_nil⟩
    · refine ⟨hwhole, frame :: before, last, ?_, hlast, ?_⟩
      · rw [hframes, List.cons_append]
      · exact List.forall_mem_cons.mpr ⟨hopen, hbefore⟩

/-- The frame that a peer reads off the octets of a frame: the length and the
stream are what their fields hold of them. -/
def Frame.onWire (frame : Frame) : Frame where
  type := frame.type
  flags := frame.flags
  streamId := frame.streamId % 2 ^ 31
  payload := frame.payload.take (frame.payload.length % 2 ^ 24)

/-- The highest bit of a stream id is not written. -/
theorem octets31_mod (n : Nat) : octets31 (n % 2 ^ 31) = octets31 n := by
  simp only [octets31, Nat.shiftRight_eq_div_pow, List.cons.injEq, and_true,
    ← UInt8.toNat_inj, UInt8.toNat_ofNat']
  refine ⟨?_, ?_, ?_, ?_⟩
  · omega
  · omega
  · omega
  · omega

theorem Frame.cut_onWire (frame : Frame) (more : Bytes) :
    Frame.cut (frame.encode ++ more) =
      some (frame.onWire, frame.payload.drop (frame.payload.length % 2 ^ 24) ++ more) := by
  have hlength : (UInt8.ofNat (frame.payload.length >>> 16)).toNat * 65536 +
      (UInt8.ofNat (frame.payload.length >>> 8)).toNat * 256 +
        (UInt8.ofNat frame.payload.length).toNat = frame.payload.length % 2 ^ 24 := by
    simp only [UInt8.toNat_ofNat', Nat.shiftRight_eq_div_pow]
    omega
  obtain ⟨s3, s2, s1, s0, hoctets, hhigh, hvalue⟩ :=
    octets31_value (Nat.mod_lt frame.streamId (by decide : 0 < 2 ^ 31))
  have hle : frame.payload.length % 2 ^ 24 ≤ frame.payload.length := Nat.mod_le _ _
  refine Frame.cut_append more ?_
  rw [Frame.encode, frameHeader, ← octets31_mod, hoctets]
  simp only [List.cons_append, List.nil_append, Frame.cut, hlength, Nat.mod_eq_of_lt hhigh, hvalue,
    if_pos hle]
  rfl

/-- A frame that ends the stream ends it when its length fits its field. -/
theorem endsOnce_encode {frame : Frame} (h : frame.endStream = true) :
    EndsOnce frame.encode ↔ frame.payload.length < 2 ^ 24 := by
  have hcut := frame.cut_onWire []
  rw [List.append_nil, List.append_nil] at hcut
  have hends : frame.onWire.endStream = true := h
  rw [endsOnce_of_cut hcut, hends, List.drop_eq_nil_iff]
  have hmod := Nat.mod_le frame.payload.length (2 ^ 24)
  constructor
  · rintro (⟨-, hle⟩ | ⟨hopen, -⟩)
    · have hlt : frame.payload.length % 2 ^ 24 < 2 ^ 24 := Nat.mod_lt _ (by decide)
      omega
    · cases hopen
  · intro hlt
    exact .inl ⟨rfl, Nat.le_of_eq (Nat.mod_eq_of_lt hlt).symm⟩

theorem headersFrame_endStream (streamId : Nat) (request : Http2Request) (hpackBuffer : Bytes) :
    (headersFrame streamId request hpackBuffer).endStream = request.payload.isNone := by
  have hflags : ∀ hasPayload includePriority,
      decide (headersFlags hasPayload includePriority &&& 0x1 ≠ 0) = !hasPayload := by decide
  exact (hflags _ _).trans (Option.not_isSome request.payload)

theorem dataFrames_cases (streamId : Nat) (request : Http2Request) :
    request.body = [] ∧ dataFrames streamId request = [] ∨
      request.body ≠ [] ∧ dataFrames streamId request = [⟨0x0, 0x1, streamId, request.body⟩] := by
  unfold dataFrames
  split
  · rename_i hempty
    exact .inl ⟨List.length_eq_zero_iff.mp hempty, rfl⟩
  · rename_i hne
    exact .inr ⟨fun h => hne (congrArg List.length h), rfl⟩

theorem length_dataFrames (streamId : Nat) {request : Http2Request} (hne : request.body ≠ []) :
    ((dataFrames streamId request).flatMap Frame.encode).length = 9 + request.body.length := by
  rcases dataFrames_cases streamId request with ⟨hempty, -⟩ | ⟨-, hdata⟩
  · exact absurd hempty hne
  · rw [hdata, List.flatMap_singleton, length_encode]

/-- The octets that are written, for a header block. -/
def requestWire (stack : Bytes) (streamId : Nat) (request : Http2Request) (hpackBuffer : Bytes) :
    Bytes :=
  headersBuffer stack streamId request hpackBuffer ++
    (dataFrames streamId request).flatMap Frame.encode

/-- The octets of a request without an error. -/
theorem handleHttp2Request_wire {write : Bytes → Bool} {stack : Bytes} {streamId : Nat}
    {request : Http2Request} (h : (handleHttp2Request write stack streamId request).2 = none) :
    ∃ hpackBuffer, encodeHeaders request.headers = .ok hpackBuffer ∧
      (handleHttp2Request write stack streamId request).1.flatten =
        requestWire stack streamId request hpackBuffer := by
  obtain ⟨hpackBuffer, hencode, hwritten⟩ := handleHttp2Request_written h
  refine ⟨hpackBuffer, hencode, ?_⟩
  rw [hwritten, List.flatten_cons, requestWire, List.flatMap_def]

/-- Behind a HEADERS frame that fits, the DATA frame decides. -/
theorem endsOnce_requestWire (stack : Bytes) (streamId : Nat) {request : Http2Request}
    {hpackBuffer : Bytes}
    (hlength : (headersPayload request hpackBuffer).length + 9 ≤ HEADERS_FRAME_SIZE) :
    EndsOnce (requestWire stack streamId request hpackBuffer) ↔
      request.payload ≠ some [] ∧ request.body.length < 2 ^ 24 := by
  have hsize : HEADERS_FRAME_SIZE < 2 ^ 24 := by decide
  have hshort : (headersFrame streamId request hpackBuffer).payload.length < 2 ^ 24 :=
    Nat.lt_of_le_of_lt (Nat.le_of_add_right_le hlength) hsize
  have hbuffer : headersBuffer stack streamId request hpackBuffer =
      (headersFrame streamId request hpackBuffer).encode := if_neg (Nat.not_lt.mpr hlength)
  have hcut := (headersFrame streamId request hpackBuffer).cut_onWire
    ((dataFrames streamId request).flatMap Frame.encode)
  rw [Nat.mod_eq_of_lt hshort, List.drop_length, List.nil_append, ← hbuffer] at hcut
  have hopen : (headersFrame streamId request hpackBuffer).onWire.endStream =
      request.payload.isNone := headersFrame_endStream streamId request hpackBuffer
  rw [requestWire, endsOnce_of_cut hcut, hopen]
  have hempty : ¬EndsOnce [] := not_endsOnce_of_none rfl
  rcases dataFrames_cases streamId request with ⟨hbody, hnone⟩ | ⟨hbody, hdata⟩
  · rw [hnone, List.flatMap_nil, hbody]
    cases hpayload : request.payload with
    | none => simp
    | some payload =>
      rw [Http2Request.body, hpayload, Option.getD_some] at hbody
      simp [hbody, hempty]
  · have hframe : (⟨0x0, 0x1, streamId, request.body⟩ : Frame).endStream = true := by
      show decide ((0x1 : UInt8) &&& 0x1 ≠ 0) = true
      decide
    have hwritten : (⟨0x0, 0x1, streamId, request.body⟩ : Frame).encode ≠ [] := by
      intro h
      have hlong := congrArg List.length h
      rw [length_encode, List.length_nil] at hlong
      omega
    rw [hdata, List.flatMap_singleton, endsOnce_encode hframe]
    cases hpayload : request.payload with
    | none => exact absurd (by rw [Http2Request.body, hpayload]; rfl) hbody
    | some payload =>
      have hne : payload ≠ [] := by
        intro h
        rw [Http2Request.body, hpayload, h] at hbody
        exact hbody rfl
      simp [hwritten, hne]

/-- What may lie in the buffer that is left unwritten: the octets of an empty
frame with END_STREAM. -/
def endedStack : Bytes := [0, 0, 0, 0, 0x1, 0, 0, 0] ++ List.replicate (HEADERS_FRAME_SIZE - 8) 0

theorem length_endedStack : endedStack.length = HEADERS_FRAME_SIZE := by
  rw [endedStack, List.length_append, List.length_replicate]
  rfl

/-- Eight octets of the buffer do not end the stream, whatever follows
them. -/
theorem not_endsOnce_endedStack {streamId : Nat} {request : Http2Request} {hpackBuffer : Bytes}
    (hlong : HEADERS_FRAME_SIZE < (headersPayload request hpackBuffer).length + 9) :
    ¬EndsOnce (requestWire endedStack streamId request hpackBuffer) := by
  have hbuffer : headersBuffer endedStack streamId request hpackBuffer =
      [0, 0, 0, 0, 0x1, 0, 0, 0] := by
    rw [headersBuffer, if_pos hlong]
    rfl
  rw [requestWire, hbuffer]
  rcases dataFrames_cases streamId request with ⟨-, hnone⟩ | ⟨-, hdata⟩
  · rw [hnone]
    exact not_endsOnce_of_none rfl
  · have hoctets := length_encode ⟨0x0, 0x1, streamId, request.body⟩
    rw [hdata, List.flatMap_singleton]
    cases hencode : (⟨0x0, 0x1, streamId, request.body⟩ : Frame).encode with
    | nil =>
      rw [hencode, List.length_nil] at hoctets
      omega
    | cons octet octets =>
      rw [hencode, List.length_cons] at hoctets
      have hcut : Frame.cut ([0, 0, 0, 0, 0x1, 0, 0, 0] ++ octet :: octets) =
          some (⟨0x0, 0x1, octet.toNat, []⟩, octets) := by
        simp [Frame.cut]
      have hends : (⟨0x0, 0x1, octet.toNat, []⟩ : Frame).endStream = true := by
        show decide ((0x1 : UInt8) &&& 0x1 ≠ 0) = true
        decide
      rw [endsOnce_of_cut hcut, hends]
      rintro (⟨-, hnil⟩ | ⟨hopen, -⟩)
      · rw [hnil, List.length_nil] at hoctets
        omega
      · cases hopen

/-- A request ends its stream, whatever lies in the buffer of its HEADERS
frame, exactly when its payload is not empty and both it and the header block
fit their frames. -/
theorem handleHttp2Request_endsOnce {write : Bytes → Bool} {streamId : Nat}
    {request : Http2Request}
    (h : ∀ stack, stack.length = HEADERS_FRAME_SIZE →
      (handleHttp2Request write stack streamId request).2 = none) :
    (∀ stack, stack.length = HEADERS_FRAME_SIZE →
        EndsOnce (handleHttp2Request write stack streamId request).1.flatten) ↔
      request.payload ≠ some [] ∧ HeadersFit request (HEADERS_FRAME_SIZE - 9) ∧
        request.body.length < 2 ^ 24 := by
  have hroom : 9 ≤ HEADERS_FRAME_SIZE := by decide
  constructor
  · intro hends
    obtain ⟨hpackBuffer, hencode, hwire⟩ := handleHttp2Request_wire (h _ length_endedStack)
    have hended := hends _ length_endedStack
    rw [hwire] at hended
    have hlength : (headersPayload request hpackBuffer).length + 9 ≤ HEADERS_FRAME_SIZE := by
      by_contra hlong
      exact not_endsOnce_endedStack (Nat.not_le.mp hlong) hended
    obtain ⟨hpayload, hbody⟩ := (endsOnce_requestWire endedStack streamId hlength).mp hended
    exact ⟨hpayload, ⟨hpackBuffer, hencode, by omega⟩, hbody⟩
  · rintro ⟨hpayload, ⟨block, hblock, hfit⟩, hbody⟩ stack hstack
    obtain ⟨hpackBuffer, hencode, hwire⟩ := handleHttp2Request_wire (h stack hstack)
    cases hencode.symm.trans hblock
    rw [hwire]
    exact (endsOnce_requestWire stack streamId (by omega)).mpr ⟨hpayload, hbody⟩

/-- `POST https://a/` with a user agent, as `buildBasket` leaves it. -/
def postRequest (contentLength : String) (payload : Bytes) : Http2Request where
  headers := [
    ⟨ascii ":method", ascii "POST", true⟩, ⟨ascii ":authority", ascii "a", true⟩,
    ⟨ascii ":scheme", ascii "https", true⟩, ⟨ascii ":path", ascii "/", true⟩,
    ⟨ascii "user-agent", ascii "x", false⟩, ⟨ascii "content-length", ascii contentLength, false⟩]
  payload := some payload
  enableHeadersPriority := true

/-- A stack that nothing was put into. -/
def zeroStack : Bytes := List.replicate HEADERS_FRAME_SIZE 0

/-- Writes that succeed leave no error. -/
theorem handleHttp2Request_sent {stack hpackBuffer : Bytes} {streamId : Nat}
    {request : Http2Request} (h : encodeHeaders request.headers = .ok hpackBuffer) :
    (handleHttp2Request (fun _ => true) stack streamId request).2 = none := by
  simp only [handleHttp2Request, buildHttp2HeadersFrame_eq h, not_true_eq_false, if_false]
  cases request.payload with
  | none => rfl
  | some payload =>
    dsimp only
    split
    · rfl
    · rfl

theorem handleHttp2Request_endsOnce_post :
    EndsOnce
      (handleHttp2Request (fun _ => true) zeroStack 1 (postRequest "1" [0x61])).1.flatten := by
  obtain ⟨hpackBuffer, hencode, hlength⟩ :
      HeadersFit (postRequest "1" [0x61]) (HEADERS_FRAME_SIZE - 9) := ⟨_, rfl, by decide⟩
  refine (handleHttp2Request_endsOnce fun _ _ => handleHttp2Request_sent hencode).mpr
    ⟨by decide, ⟨hpackBuffer, hencode, hlength⟩, by decide⟩ zeroStack ?_
  exact List.length_replicate

/-- The HEADERS frame of an empty payload promises a DATA frame, and none is
written. -/
theorem handleHttp2Request_neverEnds :
    (handleHttp2Request (fun _ => true) zeroStack 1 (postRequest "0" [])).2 = none ∧
      ¬EndsOnce
        (handleHttp2Request (fun _ => true) zeroStack 1 (postRequest "0" [])).1.flatten := by
  obtain ⟨hpackBuffer, hencode, hlength⟩ :
      HeadersFit (postRequest "0" []) (HEADERS_FRAME_SIZE - 9) := ⟨_, rfl, by decide⟩
  have hroom : 9 ≤ HEADERS_FRAME_SIZE := by decide
  have hsent : (handleHttp2Request (fun _ => true) zeroStack 1 (postRequest "0" [])).2 = none :=
    handleHttp2Request_sent hencode
  refine ⟨hsent, fun hends => ?_⟩
  obtain ⟨block, hblock, hwire⟩ := handleHttp2Request_wire hsent
  cases hencode.symm.trans hblock
  rw [hwire, endsOnce_requestWire zeroStack 1 (by omega)] at hends
  exact hends.1 rfl

/-! ## What a peer reads -/

/-- The default of SETTINGS_MAX_FRAME_SIZE. -/
def MAX_FRAME_SIZE : Nat := 16384

/-- What the DATA frames carry. -/
def dataOf (frames : List Frame) : Bytes :=
  frames.flatMap fun frame => if frame.type = 0x0 then frame.payload else []

/-- The octets are whole frames of one stream, as long as a peer takes them,
and the DATA frames carry the payload. -/
structure WholeFrames (wire : Bytes) (streamId : Nat) (payload : Bytes) : Prop where
  whole : (frameCutter.all wire).2 = []
  own : ∀ frame ∈ (frameCutter.all wire).1, frame.streamId = streamId
  short : ∀ frame ∈ (frameCutter.all wire).1, frame.payload.length ≤ MAX_FRAME_SIZE
  body : dataOf (frameCutter.all wire).1 = payload

theorem dataOf_cons (frame : Frame) (frames : List Frame) :
    dataOf (frame :: frames) =
      (if frame.type = 0x0 then frame.payload else []) ++ dataOf frames :=
  List.flatMap_cons

theorem total_cons_frame (frame : Frame) (frames : List Frame) :
    frameCutter.total (frame :: frames) = 9 + frame.payload.length + frameCutter.total frames :=
  frameCutter.total_cons frame frames

/-- Every frame has a header, and only DATA frames carry the payload. -/
theorem le_total (frames : List Frame) :
    9 * frames.length + (dataOf frames).length ≤ frameCutter.total frames := by
  induction frames with
  | nil => exact Nat.le_refl 0
  | cons frame frames ih =>
    rw [dataOf_cons, total_cons_frame, List.length_append, List.length_cons]
    split
    · omega
    · rw [List.length_nil]
      omega

/-- Without room for a second header there is one frame. -/
theorem exists_frame_of_total_lt {frames : List Frame} (hdata : dataOf frames ≠ [])
    (htotal : frameCutter.total frames < 18 + (dataOf frames).length) :
    ∃ frame, frames = [frame] ∧ frame.payload = dataOf frames := by
  have hle := le_total frames
  match frames with
  | [] => exact absurd rfl hdata
  | [frame] =>
    refine ⟨frame, rfl, ?_⟩
    rw [dataOf_cons] at hdata ⊢
    split at hdata
    · rename_i htype
      rw [if_pos htype]
      exact (List.append_nil _).symm
    · exact absurd rfl hdata
  | first :: second :: frames =>
    simp only [List.length_cons] at hle
    omega

theorem Frame.streamId_lt {octets rest : Bytes} {frame : Frame}
    (h : Frame.cut octets = some (frame, rest)) : frame.streamId < 2 ^ 31 := by
  unfold Frame.cut at h
  split at h
  · rename_i s3 s2 s1 s0 tail
    dsimp only at h
    split at h
    · cases h
      have h2 := s2.toNat_lt
      have h1 := s1.toNat_lt
      have h0 := s0.toNat_lt
      have h3 : s3.toNat % 128 < 128 := Nat.mod_lt _ (by decide)
      dsimp only
      omega
    · cases h
  · cases h

/-- A frame that was written first is read first. -/
theorem all_encode_append {frame : Frame} (h : frame.Fits) (more : Bytes) :
    frameCutter.all (frame.encode ++ more) =
      (frame :: (frameCutter.all more).1, (frameCutter.all more).2) := by
  have hcut : frameCutter.cut (frame.encode ++ more) = some (frame, more) :=
    Frame.cut_append more (Frame.cut_encode h)
  exact frameCutter.all_of_some hcut

section Written

variable {stack hpackBuffer : Bytes} {streamId : Nat} {request : Http2Request}

theorem length_headersBuffer (hstack : stack.length = HEADERS_FRAME_SIZE) :
    8 ≤ (headersBuffer stack streamId request hpackBuffer).length := by
  unfold headersBuffer
  split
  · rw [List.length_take, hstack]
    decide
  · rw [length_encode]
    omega

/-- Whole frames are as long as the octets. -/
theorem WholeFrames.total {wire payload : Bytes} (h : WholeFrames wire streamId payload) :
    frameCutter.total (frameCutter.all wire).1 = wire.length := by
  have htotal := frameCutter.total_all wire
  rw [h.whole] at htotal
  exact htotal

/-- Eight octets of the stack are not part of any frame. -/
theorem WholeFrames.headers_fit (hstack : stack.length = HEADERS_FRAME_SIZE)
    (h : WholeFrames (requestWire stack streamId request hpackBuffer) streamId request.body) :
    (headersPayload request hpackBuffer).length + 9 ≤ HEADERS_FRAME_SIZE := by
  by_contra hlong
  have hlength : (headersBuffer stack streamId request hpackBuffer).length = 8 := by
    rw [headersBuffer, if_pos (Nat.not_le.mp hlong), List.length_take, hstack]
    decide
  have htotal := h.total
  have hbody := h.body
  generalize (frameCutter.all (requestWire stack streamId request hpackBuffer)).1 =
    frames at htotal hbody
  rw [requestWire, List.length_append, hlength] at htotal
  rcases dataFrames_cases streamId request with ⟨-, hnone⟩ | ⟨hne, -⟩
  · have hle := le_total frames
    rw [hnone, List.flatMap_nil, List.length_nil] at htotal
    match frames with
    | [] => cases htotal
    | _ :: _ =>
      rw [List.length_cons] at hle
      omega
  · rw [length_dataFrames streamId hne, ← hbody] at htotal
    rw [← hbody] at hne
    obtain ⟨frame, hone, hpayload⟩ := exists_frame_of_total_lt hne (by omega)
    rw [← hpayload, hone, total_cons_frame, frameCutter.total_nil] at htotal
    omega

theorem WholeFrames.streamId_lt (hstack : stack.length = HEADERS_FRAME_SIZE)
    (h : WholeFrames (requestWire stack streamId request hpackBuffer) streamId request.body) :
    streamId < 2 ^ 31 := by
  have hlong : 8 ≤ (headersBuffer stack streamId request hpackBuffer).length :=
    length_headersBuffer hstack
  have htotal := h.total
  cases hframes : (frameCutter.all (requestWire stack streamId request hpackBuffer)).1 with
  | nil =>
    rw [hframes, frameCutter.total_nil, requestWire, List.length_append] at htotal
    omega
  | cons frame frames =>
    have hfirst : frame ∈ (frameCutter.all (requestWire stack streamId request hpackBuffer)).1 := by
      rw [hframes]
      exact List.mem_cons_self
    obtain ⟨octets, rest, hcut⟩ := frameCutter.exists_cut_of_mem_all hfirst
    rw [← h.own frame hfirst]
    exact Frame.streamId_lt hcut

/-- The frames that are written are read back. -/
theorem all_requestWire (hid : streamId < 2 ^ 31)
    (hlength : (headersPayload request hpackBuffer).length + 9 ≤ HEADERS_FRAME_SIZE) :
    frameCutter.all (requestWire stack streamId request hpackBuffer) =
      (headersFrame streamId request hpackBuffer ::
          (frameCutter.all ((dataFrames streamId request).flatMap Frame.encode)).1,
        (frameCutter.all ((dataFrames streamId request).flatMap Frame.encode)).2) := by
  have hsize : HEADERS_FRAME_SIZE < 2 ^ 24 := by decide
  have hfits : (headersFrame streamId request hpackBuffer).Fits :=
    ⟨Nat.lt_of_le_of_lt (Nat.le_of_add_right_le hlength) hsize, hid⟩
  have hbuffer : headersBuffer stack streamId request hpackBuffer =
      (headersFrame streamId request hpackBuffer).encode := if_neg (Nat.not_lt.mpr hlength)
  rw [requestWire, hbuffer, all_encode_append hfits]

/-- Behind the HEADERS frame there is room for one more header, so the payload
is in one frame. -/
theorem WholeFrames.lengths (hstack : stack.length = HEADERS_FRAME_SIZE)
    (h : WholeFrames (requestWire stack streamId request hpackBuffer) streamId request.body) :
    (headersPayload request hpackBuffer).length ≤ MAX_FRAME_SIZE ∧
      request.body.length ≤ MAX_FRAME_SIZE := by
  have hall : frameCutter.all (requestWire stack streamId request hpackBuffer) = _ :=
    all_requestWire (h.streamId_lt hstack) (h.headers_fit hstack)
  obtain ⟨hwhole, -, hshort, hbody⟩ := h
  rw [hall] at hwhole hshort hbody
  rw [List.forall_mem_cons] at hshort
  refine ⟨hshort.1, ?_⟩
  rcases dataFrames_cases streamId request with ⟨hempty, -⟩ | ⟨hne, -⟩
  · rw [hempty]
    exact Nat.zero_le _
  · have hrest := frameCutter.total_all ((dataFrames streamId request).flatMap Frame.encode)
    have hdataOf : dataOf (frameCutter.all
        ((dataFrames streamId request).flatMap Frame.encode)).1 = request.body := hbody
    rw [hwhole, length_dataFrames streamId hne, ← hdataOf, List.length_nil] at hrest
    rw [← hdataOf] at hne ⊢
    obtain ⟨frame, hone, hpayload⟩ := exists_frame_of_total_lt hne (by omega)
    rw [← hpayload]
    refine hshort.2 frame ?_
    rw [hone]
    exact List.mem_singleton_self frame

/-- Frames that fit are read back whole. -/
theorem wholeFrames_of_lengths (hid : streamId < 2 ^ 31)
    (hheaders : (headersPayload request hpackBuffer).length ≤ MAX_FRAME_SIZE)
    (hbody : request.body.length ≤ MAX_FRAME_SIZE) :
    WholeFrames (requestWire stack streamId request hpackBuffer) streamId request.body := by
  have hroom : MAX_FRAME_SIZE + 9 ≤ HEADERS_FRAME_SIZE := by decide
  have hsize : MAX_FRAME_SIZE < 2 ^ 24 := by decide
  have hall : frameCutter.all (requestWire stack streamId request hpackBuffer) = _ :=
    all_requestWire hid (Nat.le_trans (Nat.add_le_add_right hheaders 9) hroom)
  have hfits : (⟨0x0, 0x1, streamId, request.body⟩ : Frame).Fits :=
    ⟨Nat.lt_of_le_of_lt hbody hsize, hid⟩
  rcases dataFrames_cases streamId request with ⟨hempty, hnone⟩ | ⟨-, hdata⟩
  · rw [hnone, List.flatMap_nil, frameCutter.all_nil] at hall
    constructor
    · rw [hall]
    · rw [hall, List.forall_mem_singleton]
      rfl
    · rw [hall, List.forall_mem_singleton]
      exact hheaders
    · rw [hall, hempty]
      rfl
  · rw [hdata, List.flatMap_singleton, ← List.append_nil (Frame.encode _),
      all_encode_append hfits, frameCutter.all_nil] at hall
    constructor
    · rw [hall]
    · rw [hall, List.forall_mem_cons, List.forall_mem_singleton]
      exact ⟨rfl, rfl⟩
    · rw [hall, List.forall_mem_cons, List.forall_mem_singleton]
      exact ⟨hheaders, hbody⟩
    · rw [hall]
      exact List.append_nil request.body

end Written

/-- A request is read as whole frames exactly when its stream id has 31 bits,
and its header block and its payload each fit one frame. -/
theorem handleHttp2Request_wholeFrames {write : Bytes → Bool} {stack : Bytes} {streamId : Nat}
    {request : Http2Request} (hstack : stack.length = HEADERS_FRAME_SIZE)
    (h : (handleHttp2Request write stack streamId request).2 = none) :
    WholeFrames (handleHttp2Request write stack streamId request).1.flatten streamId
        request.body ↔
      streamId < 2 ^ 31 ∧ HeadersFit request MAX_FRAME_SIZE ∧
        request.body.length ≤ MAX_FRAME_SIZE := by
  obtain ⟨hpackBuffer, hencode, hwire⟩ := handleHttp2Request_wire h
  rw [hwire]
  constructor
  · intro hwhole
    obtain ⟨hheaders, hbody⟩ := hwhole.lengths hstack
    exact ⟨hwhole.streamId_lt hstack, ⟨hpackBuffer, hencode, hheaders⟩, hbody⟩
  · rintro ⟨hid, ⟨block, hblock, hheaders⟩, hbody⟩
    cases hencode.symm.trans hblock
    exact wholeFrames_of_lengths hid hheaders hbody

theorem length_zeroStack : zeroStack.length = HEADERS_FRAME_SIZE := List.length_replicate

theorem handleHttp2Request_wholeFrames_post :
    WholeFrames (handleHttp2Request (fun _ => true) zeroStack 1 (postRequest "1" [0x61])).1.flatten
      1 [0x61] := by
  obtain ⟨hpackBuffer, hencode, hlength⟩ :
      HeadersFit (postRequest "1" [0x61]) MAX_FRAME_SIZE := ⟨_, rfl, by decide⟩
  have hsent : (handleHttp2Request (fun _ => true) zeroStack 1 (postRequest "1" [0x61])).2 = none :=
    handleHttp2Request_sent hencode
  exact (handleHttp2Request_wholeFrames length_zeroStack hsent).mpr
    ⟨by decide, ⟨hpackBuffer, hencode, hlength⟩, by decide⟩

/-- A payload of one octet more than a frame takes. -/
def longPayload : Bytes := List.replicate (MAX_FRAME_SIZE + 1) 0x61

/-- A longer payload is not split. -/
theorem handleHttp2Request_longFrame :
    (handleHttp2Request (fun _ => true) zeroStack 1 (postRequest "16385" longPayload)).2 = none ∧
      ¬WholeFrames
        (handleHttp2Request (fun _ => true) zeroStack 1
          (postRequest "16385" longPayload)).1.flatten 1 longPayload := by
  obtain ⟨hpackBuffer, hencode⟩ :
      ∃ block, encodeHeaders (postRequest "16385" longPayload).headers = .ok block := ⟨_, rfl⟩
  have hsent : (handleHttp2Request (fun _ => true) zeroStack 1
      (postRequest "16385" longPayload)).2 = none := handleHttp2Request_sent hencode
  refine ⟨hsent, fun hwhole => ?_⟩
  obtain ⟨block, -, hwire⟩ := handleHttp2Request_wire hsent
  rw [hwire] at hwhole
  have hlong : longPayload.length ≤ MAX_FRAME_SIZE := (hwhole.lengths length_zeroStack).2
  rw [longPayload, List.length_replicate] at hlong
  exact Nat.not_succ_le_self MAX_FRAME_SIZE hlong

end HttpRequestClient.Http2
