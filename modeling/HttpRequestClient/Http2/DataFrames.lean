import HttpRequestClient.Http2.Connection

/-!
# DATA frames with padding

A DATA frame that is padded has the pad length before its data and the
padding behind it.  `handleHeadersFrame` takes both away from a HEADERS frame;
`handleDataFrame` gets neither the flags nor the pad length and passes the
whole payload to `appendStreamPayload`.

`Passes` says of a function on frames that it is what the funnel gets, and
`passes_iff` that it is the payload.  `dataFrames_passed_iff`: the funnel gets
the data of a body if and only if no frame is padded.
-/

namespace HttpRequestClient.Http2

/-- A DATA frame as a server sends it. -/
structure DataFrame where
  data : Bytes
  padLength : Option UInt8
  endStream : Bool
  deriving Repr, DecidableEq

namespace DataFrame

def flags (sent : DataFrame) : UInt8 :=
  (if sent.endStream then 0x1 else 0) ||| if sent.padLength.isSome then 0x8 else 0

def payload (sent : DataFrame) : Bytes :=
  match sent.padLength with
  | none => sent.data
  | some padLength => padLength :: (sent.data ++ List.replicate padLength.toNat 0)

def frame (streamId : Nat) (sent : DataFrame) : Frame := ⟨0x0, sent.flags, streamId, sent.payload⟩

theorem frame_flags (streamId : Nat) (sent : DataFrame) :
    (sent.frame streamId).endStream = sent.endStream ∧
      (sent.frame streamId).padded = sent.padLength.isSome := by
  have hbits : ∀ endStream padded : Bool,
      let flags : UInt8 := (if endStream then 0x1 else 0) ||| if padded then 0x8 else 0
      decide (flags &&& 0x1 ≠ 0) = endStream ∧ decide (flags &&& 0x8 ≠ 0) = padded := by
    decide
  exact hbits sent.endStream sent.padLength.isSome

/-- Padding makes a payload longer than its data. -/
theorem length_payload (sent : DataFrame) :
    sent.data.length ≤ sent.payload.length ∧
      (sent.payload.length = sent.data.length ↔ sent.padLength = none) := by
  unfold payload
  split
  · rename_i hnone
    exact ⟨Nat.le_refl _, iff_of_true rfl hnone⟩
  · rename_i padLength hsome
    rw [List.length_cons, List.length_append, hsome]
    refine ⟨by omega, iff_of_false (by omega) ?_⟩
    exact Option.some_ne_none padLength

end DataFrame

/-- What `handleStreamFrame` passes to `appendStreamPayload`, of every stream
and with every decoder. -/
def Passes (passed : Frame → Bytes) : Prop :=
  ∀ (lib : DecoderLib) (session : Session) (stream : Stream) (frame : Frame), frame.type = 0x0 →
    (handleStreamFrame lib session stream frame).2 =
      if frame.endStream = true then
        { (appendStreamPayload lib stream (passed frame)).2 with isEnded := true }
      else (appendStreamPayload lib stream (passed frame)).2

/-- The funnel of a stream without a sink collects what it gets. -/
theorem appendStreamPayload_scratch (data : Bytes) :
    (appendStreamPayload noDecoders Stream.scratch data).2.combinedPayload = data := by
  by_cases hnil : data = []
  · rw [hnil]
    rfl
  · rw [appendStreamPayload, if_neg fun hlength => hnil (List.eq_nil_of_length_eq_zero hlength)]
    exact List.nil_append data

theorem passes_iff {passed : Frame → Bytes} :
    Passes passed ↔ ∀ frame : Frame, frame.type = 0x0 → passed frame = frame.payload := by
  constructor
  · intro h frame htype
    have hpayload := h noDecoders (initSession 0) Stream.scratch frame htype
    rw [handleStreamFrame_data _ _ _ htype] at hpayload
    have hcollected := congrArg Stream.combinedPayload hpayload
    split at hcollected
    · exact (appendStreamPayload_scratch _).symm.trans
        (hcollected.symm.trans (appendStreamPayload_scratch _))
    · exact (appendStreamPayload_scratch _).symm.trans
        (hcollected.symm.trans (appendStreamPayload_scratch _))
  · intro h lib session stream frame htype
    rw [h frame htype]
    exact handleStreamFrame_data lib session stream htype

theorem length_payloads (frames : List DataFrame) :
    (frames.map DataFrame.data).flatten.length ≤ (frames.map DataFrame.payload).flatten.length := by
  induction frames with
  | nil => exact Nat.le_refl _
  | cons sent frames ih =>
    simp only [List.map_cons, List.flatten_cons, List.length_append]
    exact Nat.add_le_add sent.length_payload.1 ih

/-- What the funnel gets of the frames of a body is as long as their data only
if none is padded. -/
theorem payloads_eq_data_iff (frames : List DataFrame) :
    (frames.map DataFrame.payload).flatten = (frames.map DataFrame.data).flatten ↔
      ∀ sent ∈ frames, sent.padLength = none := by
  constructor
  · intro h
    have hlength := congrArg List.length h
    clear h
    induction frames with
    | nil => exact fun sent hsent => absurd hsent List.not_mem_nil
    | cons sent frames ih =>
      obtain ⟨hle, heq⟩ := sent.length_payload
      have hrest := length_payloads frames
      simp only [List.map_cons, List.flatten_cons, List.length_append] at hlength
      rw [List.forall_mem_cons]
      exact ⟨heq.mp (by omega), ih (by omega)⟩
  · intro h
    have hpayload : ∀ sent ∈ frames, sent.payload = sent.data := by
      intro sent hsent
      rw [DataFrame.payload, h sent hsent]
    rw [List.map_congr_left hpayload]

/-- The bytes passed to `appendStreamPayload` are the data of the frames, if
and only if none of them is padded. -/
theorem dataFrames_passed_iff (streamId : Nat) (frames : List DataFrame) :
    (∃ passed : Frame → Bytes, Passes passed ∧
      (frames.map fun sent => passed (sent.frame streamId)).flatten =
        (frames.map DataFrame.data).flatten) ↔
      ∀ sent ∈ frames, (sent.frame streamId).padded = false := by
  have hflag : ∀ sent : DataFrame, (sent.frame streamId).padded = false ↔ sent.padLength = none := by
    intro sent
    rw [(sent.frame_flags streamId).2, Option.isSome_eq_false_iff, Option.isNone_iff_eq_none]
  simp only [hflag]
  rw [← payloads_eq_data_iff]
  constructor
  · rintro ⟨passed, hpasses, hdata⟩
    rw [← hdata]
    congr 2
    funext sent
    exact (passes_iff.mp hpasses (sent.frame streamId) rfl).symm
  · exact fun h => ⟨Frame.payload, passes_iff.mpr fun _ _ => rfl, h⟩

/-- `hi` in one frame with two bytes of padding. -/
theorem dataFrames_padded :
    ¬∃ passed : Frame → Bytes, Passes passed ∧
      ([⟨ascii "hi", some 2, true⟩].map fun sent : DataFrame => passed (sent.frame 1)).flatten =
        ([⟨ascii "hi", some 2, true⟩].map DataFrame.data).flatten := by
  rintro ⟨passed, hpasses, hdata⟩
  have hpayload := passes_iff.mp hpasses (DataFrame.frame 1 ⟨ascii "hi", some 2, true⟩) rfl
  simp only [List.map_cons, List.map_nil, hpayload] at hdata
  revert hdata
  decide

end HttpRequestClient.Http2
