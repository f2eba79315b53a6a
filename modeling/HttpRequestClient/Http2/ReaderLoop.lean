import HttpRequestClient.Http2.Reader
import HttpRequestClient.Lib.Framing
import Mathlib.Data.List.Induction

/-!
# The accumulation buffer

`readerLoop` of `Http2ResponseHandler.c`.  What `SSL_read` returns is put
behind the bytes of an incomplete frame, the whole frames are dispatched,
and the rest stays in the buffer.  At the end of such a batch the queue is
written.

The loop is generic in what it does with a frame and at the end of a batch.
`readerTrace` is the loop that only records both, and `readerLoop_eq_foldl`
says that every loop does what the trace says, in its order.

`Frame.cut` reads one frame off a stream of octets.  `readerLoop_cuts`: for
every split of the stream into pieces, the frames dispatched are those of
the whole stream, and the buffer holds what is behind them.

Left out: the wait for the socket.
-/

namespace HttpRequestClient.Http2

/-! ## The loop -/

/-- What one `SSL_read` returns into the read buffer. -/
structure Piece where
  bytes : Bytes
  nonempty : 0 < bytes.length
  fits : bytes.length ≤ 16384

section Loop

variable {σ : Type} (dispatch : σ → Frame → σ) (flush : σ → σ)

def frameLengthAt (acc : Bytes) (offset : Nat) : Nat :=
  ((acc.getD offset 0).toNat <<< 16) ||| ((acc.getD (offset + 1) 0).toNat <<< 8) |||
    (acc.getD (offset + 2) 0).toNat

def streamIdAt (acc : Bytes) (offset : Nat) : Nat :=
  (((acc.getD (offset + 5) 0).toNat &&& 0x7F) <<< 24) |||
    ((acc.getD (offset + 6) 0).toNat <<< 16) ||| ((acc.getD (offset + 7) 0).toNat <<< 8) |||
    (acc.getD (offset + 8) 0).toNat

/-- The frame of a length whose header is at an offset. -/
def frameAt (acc : Bytes) (offset frameLength : Nat) : Frame where
  type := acc.getD (offset + 3) 0
  flags := acc.getD (offset + 4) 0
  streamId := streamIdAt acc offset
  payload := (acc.drop (offset + 9)).take frameLength

/-- Dispatch the whole frames of the buffer.  Returns the offset of the
first frame that is not complete. -/
def parseFrames (acc : Bytes) (state : σ) (offset : Nat) : σ × Nat :=
  if offset + 9 ≤ acc.length then
    let frameLength := frameLengthAt acc offset
    if offset + 9 + frameLength > acc.length then (state, offset)
    else
      parseFrames acc (dispatch state (frameAt acc offset frameLength)) (offset + 9 + frameLength)
  else (state, offset)
termination_by acc.length - offset

/-- The reader between two reads. -/
structure Reading (σ : Type) where
  state : σ
  acc : Bytes

/-- One batch. -/
def readPiece (reading : Reading σ) (piece : Piece) : Reading σ :=
  let acc := reading.acc ++ piece.bytes
  let (state, offset) := parseFrames dispatch acc reading.state 0
  let acc := if offset > 0 then acc.drop offset else acc
  { state := flush state, acc := acc }

def readerLoop (state : σ) (pieces : List Piece) : Reading σ :=
  pieces.foldl (readPiece dispatch flush) ⟨state, []⟩

end Loop

/-! ## The trace of the loop -/

/-- What the reader thread does, in its order. -/
inductive ReaderAction where
  | dispatch (frame : Frame)
  | flush
  deriving DecidableEq

def ReaderAction.frame? : ReaderAction → Option Frame
  | .dispatch frame => some frame
  | .flush => none

/-- The loop that only records. -/
def recordReading (pieces : List Piece) : Reading (List ReaderAction) :=
  readerLoop (fun trace frame => trace ++ [.dispatch frame]) (fun trace => trace ++ [.flush]) []
    pieces

def readerTrace (pieces : List Piece) : List ReaderAction := (recordReading pieces).state

/-- What a loop does at an action. -/
def applyAction {σ : Type} (dispatch : σ → Frame → σ) (flush : σ → σ) (state : σ) :
    ReaderAction → σ
  | .dispatch frame => dispatch state frame
  | .flush => flush state

/-- The frames that are dispatched. -/
def dispatchedFrames (pieces : List Piece) : List Frame :=
  (readerTrace pieces).filterMap ReaderAction.frame?

/-- The stream of octets. -/
def received (pieces : List Piece) : Bytes := (pieces.map Piece.bytes).flatten

/-! ## Frames in a stream of octets -/

/-- The frame at the front of a stream: three octets of length, the type, the
flags, four octets of stream id without the highest bit, and the payload. -/
def Frame.cut : Bytes → Option (Frame × Bytes)
  | l2 :: l1 :: l0 :: type :: flags :: s3 :: s2 :: s1 :: s0 :: rest =>
    let length := l2.toNat * 65536 + l1.toNat * 256 + l0.toNat
    if length ≤ rest.length then
      let streamId :=
        s3.toNat % 128 * 16777216 + s2.toNat * 65536 + s1.toNat * 256 + s0.toNat
      some (⟨type, flags, streamId, rest.take length⟩, rest.drop length)
    else none
  | _ => none

def Frame.size (frame : Frame) : Nat := 9 + frame.payload.length

/-- What a frame at the front of a stream says about the stream. -/
theorem Frame.cut_eq_some {octets rest : Bytes} {frame : Frame}
    (h : Frame.cut octets = some (frame, rest)) :
    ∃ head : Bytes, head.length = 9 ∧ octets = head ++ frame.payload ++ rest := by
  unfold Frame.cut at h
  split at h
  · rename_i l2 l1 l0 type flags s3 s2 s1 s0 tail
    dsimp only at h
    split at h
    · cases h
      exact ⟨[l2, l1, l0, type, flags, s3, s2, s1, s0], rfl, by simp⟩
    · cases h
  · cases h

theorem Frame.cut_append {octets rest : Bytes} {frame : Frame} (more : Bytes)
    (h : Frame.cut octets = some (frame, rest)) :
    Frame.cut (octets ++ more) = some (frame, rest ++ more) := by
  unfold Frame.cut at h
  split at h
  · dsimp only at h
    split at h
    · rename_i hlen
      cases h
      simp only [List.cons_append, Frame.cut, List.length_append]
      rw [if_pos (by omega), List.take_append_of_le_length hlen,
        List.drop_append_of_le_length hlen]
    · cases h
  · cases h

/-- The frames of a stream. -/
def frameCutter : Cutter UInt8 Frame where
  cut := Frame.cut
  size := Frame.size
  size_pos := fun frame => by unfold Frame.size; omega
  size_le := fun h => by
    obtain ⟨head, hhead, rfl⟩ := Frame.cut_eq_some h
    simp only [Frame.size, List.length_append, hhead]
    omega
  cut_rest := fun {xs frame rest} h => by
    obtain ⟨head, hhead, rfl⟩ := Frame.cut_eq_some h
    rw [List.drop_left']
    rw [List.length_append, hhead, Frame.size]
  cut_append := fun more h => Frame.cut_append more h

/-- The octets of a number below `2 ^ 31` are its digits. -/
theorem octets31_value {n : Nat} (h : n < 2 ^ 31) :
    ∃ a b c d : UInt8, octets31 n = [a, b, c, d] ∧ a.toNat < 128 ∧
      a.toNat * 16777216 + b.toNat * 65536 + c.toNat * 256 + d.toNat = n := by
  refine ⟨_, _, _, _, rfl, ?_, ?_⟩
  · simp only [UInt8.toNat_ofNat']
    omega
  · simp only [UInt8.toNat_ofNat', Nat.shiftRight_eq_div_pow]
    omega

/-! ## The loop cuts frames -/

/-- An octet below a number. -/
theorem or_shift_octet (a : Nat) (b : UInt8) (n : Nat) :
    (a <<< (n + 8)) ||| (b.toNat <<< n) = (a * 256 + b.toNat) <<< n := by
  have hb : b.toNat < 2 ^ 8 := b.toNat_lt
  rw [Nat.add_comm n 8, Nat.shiftLeft_add, ← Nat.shiftLeft_or_distrib,
    ← Nat.shiftLeft_add_eq_or_of_lt hb, Nat.shiftLeft_eq a]

section Octets

variable {acc rest : Bytes} {offset : Nat} {l2 l1 l0 type flags s3 s2 s1 s0 : UInt8}

theorem getD_of_drop {octets : Bytes} (h : acc.drop offset = octets) (i : Nat) :
    acc.getD (offset + i) 0 = octets.getD i 0 := by
  rw [← h, List.getD_eq_getElem?_getD, List.getD_eq_getElem?_getD, List.getElem?_drop]

variable (h : acc.drop offset = l2 :: l1 :: l0 :: type :: flags :: s3 :: s2 :: s1 :: s0 :: rest)

include h

theorem frameLengthAt_of_drop :
    frameLengthAt acc offset = l2.toNat * 65536 + l1.toNat * 256 + l0.toNat := by
  have h0 := getD_of_drop h 0
  have h1 := getD_of_drop h 1
  have h2 := getD_of_drop h 2
  simp only [List.getD_cons_zero, List.getD_cons_succ, Nat.add_zero] at h0 h1 h2
  rw [frameLengthAt, h0, h1, h2]
  have hhigh := or_shift_octet l2.toNat l1 8
  have hlow := or_shift_octet (l2.toNat * 256 + l1.toNat) l0 0
  simp only [Nat.shiftLeft_zero, Nat.zero_add] at hhigh hlow
  rw [hhigh, hlow]
  omega

theorem streamIdAt_of_drop :
    streamIdAt acc offset =
      s3.toNat % 128 * 16777216 + s2.toNat * 65536 + s1.toNat * 256 + s0.toNat := by
  have h5 := getD_of_drop h 5
  have h6 := getD_of_drop h 6
  have h7 := getD_of_drop h 7
  have h8 := getD_of_drop h 8
  simp only [List.getD_cons_zero, List.getD_cons_succ] at h5 h6 h7 h8
  have hmask : s3.toNat &&& 0x7F = s3.toNat % 128 := Nat.and_two_pow_sub_one_eq_mod s3.toNat 7
  rw [streamIdAt, h5, h6, h7, h8, hmask]
  have hhigh := or_shift_octet (s3.toNat % 128) s2 16
  have hmid := or_shift_octet (s3.toNat % 128 * 256 + s2.toNat) s1 8
  have hlow := or_shift_octet ((s3.toNat % 128 * 256 + s2.toNat) * 256 + s1.toNat) s0 0
  simp only [Nat.shiftLeft_zero, Nat.zero_add] at hhigh hmid hlow
  rw [hhigh, hmid, hlow]
  omega

theorem frameAt_of_drop (frameLength : Nat) :
    frameAt acc offset frameLength =
      ⟨type, flags, s3.toNat % 128 * 16777216 + s2.toNat * 65536 + s1.toNat * 256 + s0.toNat,
        rest.take frameLength⟩ := by
  have h3 := getD_of_drop h 3
  have h4 := getD_of_drop h 4
  simp only [List.getD_cons_zero, List.getD_cons_succ] at h3 h4
  have hrest : acc.drop (offset + 9) = rest := by
    rw [← List.drop_drop, h]
    rfl
  rw [frameAt, h3, h4, streamIdAt_of_drop h, hrest]

end Octets

theorem exists_header {octets : Bytes} (h : 9 ≤ octets.length) :
    ∃ (l2 l1 l0 type flags s3 s2 s1 s0 : UInt8) (rest : Bytes),
      octets = l2 :: l1 :: l0 :: type :: flags :: s3 :: s2 :: s1 :: s0 :: rest := by
  match octets, h with
  | l2 :: l1 :: l0 :: type :: flags :: s3 :: s2 :: s1 :: s0 :: rest, _ =>
    exact ⟨l2, l1, l0, type, flags, s3, s2, s1, s0, rest, rfl⟩

theorem Frame.cut_of_short {octets : Bytes} (h : octets.length < 9) : Frame.cut octets = none := by
  unfold Frame.cut
  split
  · simp only [List.length_cons] at h
    omega
  · rfl

/-- What the loop finds at an offset is the frame at the front of the rest. -/
theorem cut_drop (acc : Bytes) (offset : Nat) :
    Frame.cut (acc.drop offset) =
      if offset + 9 ≤ acc.length ∧ ¬offset + 9 + frameLengthAt acc offset > acc.length then
        some (frameAt acc offset (frameLengthAt acc offset),
          acc.drop (offset + 9 + frameLengthAt acc offset))
      else none := by
  by_cases hlen : offset + 9 ≤ acc.length
  · have hdrop : 9 ≤ (acc.drop offset).length := by
      rw [List.length_drop]
      omega
    obtain ⟨l2, l1, l0, type, flags, s3, s2, s1, s0, rest, hacc⟩ := exists_header hdrop
    have hrest : acc.drop (offset + 9) = rest := by
      rw [← List.drop_drop, hacc]
      rfl
    have hsize : rest.length = acc.length - (offset + 9) := by rw [← hrest, List.length_drop]
    have hlength := frameLengthAt_of_drop hacc
    have hbehind : acc.drop (offset + 9 + frameLengthAt acc offset) =
        rest.drop (frameLengthAt acc offset) := by
      rw [← hrest, List.drop_drop]
    rw [hacc, Frame.cut, ← hlength, frameAt_of_drop hacc, hbehind]
    dsimp only
    by_cases hfit : offset + 9 + frameLengthAt acc offset > acc.length
    · rw [if_neg (by omega), if_neg (by omega)]
    · rw [if_pos (by omega), if_pos ⟨hlen, hfit⟩]
  · rw [if_neg (by omega), Frame.cut_of_short]
    rw [List.length_drop]
    omega

section Loop

variable {σ : Type} (dispatch : σ → Frame → σ) (flush : σ → σ)

/-- One turn of the frame loop. -/
theorem parseFrames_eq (acc : Bytes) (state : σ) (offset : Nat) :
    parseFrames dispatch acc state offset =
      match Frame.cut (acc.drop offset) with
      | none => (state, offset)
      | some (frame, _) =>
        parseFrames dispatch acc (dispatch state frame) (offset + frame.size) := by
  rw [parseFrames, cut_drop]
  by_cases hlen : offset + 9 ≤ acc.length
  · by_cases hfit : offset + 9 + frameLengthAt acc offset > acc.length
    · simp [hlen, hfit]
    · have hsize : (frameAt acc offset (frameLengthAt acc offset)).size =
          9 + frameLengthAt acc offset := by
        simp only [Frame.size, frameAt, List.length_take, List.length_drop]
        omega
      rw [if_pos hlen, if_pos (And.intro hlen hfit)]
      dsimp only
      rw [if_neg hfit, hsize, ← Nat.add_assoc]
  · rw [if_neg hlen, if_neg (by omega)]

/-- The frame loop dispatches the frames of the buffer, and stops behind
them. -/
theorem parseFrames_spec (acc : Bytes) (state : σ) (offset : Nat) :
    parseFrames dispatch acc state offset =
      ((frameCutter.all (acc.drop offset)).1.foldl dispatch state,
        offset + frameCutter.total (frameCutter.all (acc.drop offset)).1) := by
  generalize hoctets : acc.drop offset = octets
  induction octets using frameCutter.induct generalizing state offset with
  | none octets h =>
    have hcut : Frame.cut (acc.drop offset) = none := by rw [hoctets]; exact h
    rw [parseFrames_eq, hcut, frameCutter.all_of_none h]
    rfl
  | some octets frame rest h ih =>
    have hcut : Frame.cut (acc.drop offset) = some (frame, rest) := by rw [hoctets]; exact h
    have hrest : acc.drop (offset + frame.size) = rest := by
      rw [← List.drop_drop, hoctets]
      exact (frameCutter.cut_rest h).symm
    rw [parseFrames_eq, hcut, frameCutter.all_of_some h]
    simp only
    rw [ih _ _ hrest, List.foldl_cons, frameCutter.total_cons, ← Nat.add_assoc]
    rfl

/-- A batch dispatches the frames that the piece completes. -/
theorem readPiece_spec (reading : Reading σ) (piece : Piece) :
    readPiece dispatch flush reading piece =
      ⟨flush ((frameCutter.all (reading.acc ++ piece.bytes)).1.foldl dispatch reading.state),
        (frameCutter.all (reading.acc ++ piece.bytes)).2⟩ := by
  rw [readPiece, parseFrames_spec, List.drop_zero, Nat.zero_add]
  simp only [Reading.mk.injEq, true_and]
  rw [frameCutter.all_snd]
  split
  · rfl
  · rename_i hzero
    rw [Nat.eq_zero_of_not_pos hzero, List.drop_zero]

theorem readerLoop_append (state : σ) (pieces : List Piece) (piece : Piece) :
    readerLoop dispatch flush state (pieces ++ [piece]) =
      readPiece dispatch flush (readerLoop dispatch flush state pieces) piece := by
  rw [readerLoop, List.foldl_append]
  rfl

end Loop

theorem foldl_record (frames : List Frame) (trace : List ReaderAction) :
    frames.foldl (fun trace frame => trace ++ [.dispatch frame]) trace =
      trace ++ frames.map .dispatch := by
  induction frames generalizing trace with
  | nil => simp
  | cons frame frames ih => rw [List.foldl_cons, ih, List.map_cons, List.append_assoc]; rfl

/-- A batch in the trace: its frames, then the write of the queue. -/
theorem recordReading_append (pieces : List Piece) (piece : Piece) :
    recordReading (pieces ++ [piece]) =
      ⟨readerTrace pieces ++
          (frameCutter.all ((recordReading pieces).acc ++ piece.bytes)).1.map .dispatch ++ [.flush],
        (frameCutter.all ((recordReading pieces).acc ++ piece.bytes)).2⟩ := by
  rw [recordReading, readerLoop_append, readPiece_spec, foldl_record]
  rfl

theorem readerTrace_append (pieces : List Piece) (piece : Piece) :
    readerTrace (pieces ++ [piece]) =
      readerTrace pieces ++
        (frameCutter.all ((recordReading pieces).acc ++ piece.bytes)).1.map .dispatch ++
        [.flush] := by
  rw [readerTrace, recordReading_append]

theorem received_append (pieces : List Piece) (piece : Piece) :
    received (pieces ++ [piece]) = received pieces ++ piece.bytes := by
  simp [received]

/-- Every loop does what the trace says. -/
theorem readerLoop_eq_foldl {σ : Type} (dispatch : σ → Frame → σ) (flush : σ → σ) (state : σ)
    (pieces : List Piece) :
    readerLoop dispatch flush state pieces =
      ⟨(readerTrace pieces).foldl (applyAction dispatch flush) state,
        (recordReading pieces).acc⟩ := by
  induction pieces using List.reverseRecOn with
  | nil => rfl
  | append_singleton pieces piece ih =>
    rw [readerLoop_append, ih, readPiece_spec, readerTrace_append, recordReading_append,
      List.foldl_append, List.foldl_append, List.foldl_map]
    rfl

theorem filterMap_dispatch (frames : List Frame) :
    (frames.map ReaderAction.dispatch).filterMap ReaderAction.frame? = frames := by
  induction frames with
  | nil => rfl
  | cons frame frames ih => rw [List.map_cons, List.filterMap_cons, ih]; rfl

/-- The loop cuts the stream as if it had come at once. -/
theorem recordReading_cuts (pieces : List Piece) :
    (dispatchedFrames pieces, (recordReading pieces).acc) = frameCutter.all (received pieces) := by
  induction pieces using List.reverseRecOn with
  | nil => exact (frameCutter.all_nil).symm
  | append_singleton pieces piece ih =>
    rw [received_append, frameCutter.all_append, ← ih, recordReading_append, dispatchedFrames,
      readerTrace_append, List.filterMap_append, List.filterMap_append, filterMap_dispatch]
    simp [dispatchedFrames, ReaderAction.frame?]

theorem dispatchedFrames_eq (pieces : List Piece) :
    dispatchedFrames pieces = (frameCutter.all (received pieces)).1 :=
  congrArg Prod.fst (recordReading_cuts pieces)

theorem recordReading_acc (pieces : List Piece) :
    (recordReading pieces).acc = (frameCutter.all (received pieces)).2 :=
  congrArg Prod.snd (recordReading_cuts pieces)

/-- However the stream is split into reads, the reader dispatches the frames
of the whole stream in their order, and after each read the buffer holds the
octets behind them, which are not a whole frame. -/
theorem readerLoop_cuts {σ : Type} (dispatch : σ → Frame → σ) (flush : σ → σ) (state : σ)
    (pieces : List Piece) :
    let stream := received pieces
    let frames := (frameCutter.all stream).1
    (readerLoop dispatch flush state pieces).state =
        (readerTrace pieces).foldl (applyAction dispatch flush) state ∧
      (readerTrace pieces).filterMap ReaderAction.frame? = frames ∧
      (readerLoop dispatch flush state pieces).acc = stream.drop (frameCutter.total frames) ∧
      Frame.cut (readerLoop dispatch flush state pieces).acc = none := by
  intro stream frames
  rw [readerLoop_eq_foldl]
  refine ⟨rfl, dispatchedFrames_eq pieces, ?_, ?_⟩
  · rw [recordReading_acc, frameCutter.all_snd]
  · rw [recordReading_acc]
    exact frameCutter.cut_all_snd stream

end HttpRequestClient.Http2
