import HttpRequestClient.Http2.Connection

/-!
# Header blocks in several frames

A header block may be cut into a HEADERS frame and CONTINUATION frames.  The
flag that ends the stream is on the HEADERS frame, the flag that ends the block
on the last frame.  `handleStreamFrame` ends the stream at the first of them,
and `endStreamReading` then completes the callbacks: the block has not been
decoded.

`ArrivesWhole` says that the frames of a cut do the same as the block in one
HEADERS frame, and that nothing ends before the last one.
`arrivesWhole_iff` is when that is so.  In `arrivesWhole_endStream` the headers
come after the completion.

`settle` is what `endStreamReading` does to a stream; `decodeAndDeliver` is
what the last frame of a block does to it.
-/

namespace HttpRequestClient.Http2

open Hpack Runs

/-! ## Cuts of a block -/

/-- A header block as a server sends it. -/
structure HeadersCut where
  endStream : Bool
  padding : Option Bytes
  priority : Option Bytes
  first : Bytes
  continuations : List Bytes
  padding_length : ∀ padding' ∈ padding, padding'.length < 256
  priority_length : ∀ priority' ∈ priority, priority'.length = 5

namespace HeadersCut

variable (cut : HeadersCut)

def block : Bytes := cut.first ++ cut.continuations.flatten

def flags : UInt8 :=
  (if cut.endStream then 0x1 else 0) ||| (if cut.continuations.isEmpty then 0x4 else 0) |||
    (if cut.padding.isSome then 0x8 else 0) ||| if cut.priority.isSome then 0x20 else 0

def padLength : Bytes :=
  match cut.padding with
  | none => []
  | some padding => [UInt8.ofNat padding.length]

def headersFrame (streamId : Nat) : Frame :=
  ⟨0x1, cut.flags, streamId,
    cut.padLength ++ cut.priority.getD [] ++ cut.first ++ cut.padding.getD []⟩

end HeadersCut

/-- The last one ends the block. -/
def continuationFrames (streamId : Nat) : List Bytes → List Frame
  | [] => []
  | fragment :: fragments =>
    ⟨0x9, if fragments.isEmpty then 0x4 else 0, streamId, fragment⟩ ::
      continuationFrames streamId fragments

def HeadersCut.frames (cut : HeadersCut) (streamId : Nat) : List Frame :=
  cut.headersFrame streamId :: continuationFrames streamId cut.continuations

/-- The block in one frame, padded in the same way. -/
def HeadersCut.whole (cut : HeadersCut) : HeadersCut :=
  { cut with first := cut.block, continuations := [] }

section Frames

variable (lib : DecoderLib)

/-- What the reader does with a frame of a registered stream under its lock. -/
def processFrame (state : Session × Stream) (frame : Frame) : Session × Stream :=
  ((handleStreamFrame lib state.1 state.2 frame).1, streamAfter lib state.1 state.2 frame)

def processFrames (session : Session) (stream : Stream) (frames : List Frame) : Session × Stream :=
  run (processFrame lib) (session, stream) frames

end Frames

/-- A stream with another header block in its buffer. -/
def buffering (stream : Stream) (headerBlock : Bytes) (awaitingContinuation : Bool) : Stream :=
  { stream with headerBlock := headerBlock, awaitingContinuation := awaitingContinuation }

/-- The frames of the cut lead to the headers, the end and the callbacks of the
whole block, and up to the last frame the stream is as open as before. -/
structure ArrivesWhole (lib : DecoderLib) (session : Session) (stream : Stream) (streamId : Nat)
    (cut : HeadersCut) : Prop where
  ctx : (processFrames lib session stream (cut.frames streamId)).1.hpackCtx =
    (processFrames lib session stream (cut.whole.frames streamId)).1.hpackCtx
  after : buffering (processFrames lib session stream (cut.frames streamId)).2 [] false =
    buffering (processFrames lib session stream (cut.whole.frames streamId)).2 [] false
  waits : ∀ n, 0 < n → n ≤ cut.continuations.length →
    let waiting := (processFrames lib session stream ((cut.frames streamId).take n)).2
    waiting.isEnded = stream.isEnded ∧ waiting.completed = stream.completed

/-- The consumer asks for a teardown that was not taken yet. -/
def cancelling (stream : Stream) : Bool := (takeResponseCancellation stream).1

/-- A HEADERS frame without the end of its block leaves the stream open: it
does not carry the end of the stream, and nothing else is due. -/
def LeavesOpen (stream : Stream) (cut : HeadersCut) : Prop :=
  if stream.isEnded = true then stream.completed = true
  else cut.endStream = false ∧ cancelling stream = false

/-! ## The end of a frame -/

def taken (stream : Stream) : Stream := (takeResponseCancellation stream).2

/-- The stream after `endStreamReading`. -/
def settle (stream : Stream) : Stream :=
  if stream.isEnded then taken (completeResponseSink stream)
  else if cancelling stream then completeResponseSink { taken stream with isEnded := true }
  else stream

theorem taken_of_not_cancelling {stream : Stream} (h : cancelling stream = false) :
    taken stream = stream := by
  unfold cancelling takeResponseCancellation at h
  unfold taken takeResponseCancellation
  cases hsink : stream.sink with
  | none => rfl
  | some sink =>
    simp only [hsink] at h ⊢
    split at h
    · rename_i hkept
      rw [if_pos hkept]
    · cases h

theorem cancelling_of_no_sink {stream : Stream} (h : ¬isResponseStreaming stream = true) :
    cancelling stream = false := by
  unfold isResponseStreaming at h
  unfold cancelling takeResponseCancellation
  cases hsink : stream.sink with
  | none => rfl
  | some sink => simp [hsink] at h

theorem endStreamReading_settle (stream : Stream) (type : UInt8) (length : Nat) :
    (endStreamReading stream type length).2 = settle stream := by
  unfold settle endStreamReading
  cases hended : stream.isEnded with
  | true =>
    simp only [if_true]
    split
    · rename_i hsink
      exact (taken_of_not_cancelling (cancelling_of_no_sink hsink)).symm
    · split <;> rfl
  | false =>
    simp only [Bool.false_eq_true, if_false]
    split
    · rename_i hsink
      rw [cancelling_of_no_sink hsink]
      rfl
    · split
      · rename_i hcancels
        have hkept : cancelling stream = false := by simpa [cancelling] using hcancels
        rw [hkept]
        exact taken_of_not_cancelling hkept
      · rename_i hcancels
        have htakes : cancelling stream = true := by simpa [cancelling] using hcancels
        rw [htakes]
        rfl

/-! ## The buffer of a stream -/

section Buffer

variable (lib : DecoderLib) (stream : Stream) (headerBlock : Bytes) (awaits : Bool)

theorem cancelling_buffering :
    cancelling (buffering stream headerBlock awaits) = cancelling stream := by
  unfold cancelling takeResponseCancellation buffering
  cases stream.sink with
  | none => rfl
  | some sink =>
    dsimp only
    split <;> rfl

theorem taken_buffering :
    taken (buffering stream headerBlock awaits) = buffering (taken stream) headerBlock awaits := by
  unfold taken takeResponseCancellation buffering
  cases hsink : stream.sink with
  | none => simp only [hsink]
  | some sink =>
    simp only
    split <;> simp only [hsink]

theorem completeResponseSink_buffering :
    completeResponseSink (buffering stream headerBlock awaits) =
      buffering (completeResponseSink stream) headerBlock awaits := by
  unfold completeResponseSink buffering
  cases hsink : stream.sink with
  | none => simp only [hsink]
  | some sink =>
    simp only
    split
    · simp only [hsink]
    · cases sink.contract <;> rfl

theorem settle_buffering :
    settle (buffering stream headerBlock awaits) = buffering (settle stream) headerBlock awaits := by
  have hended : (buffering stream headerBlock awaits).isEnded = stream.isEnded := rfl
  have hmarked (stream : Stream) :
      ({ buffering stream headerBlock awaits with isEnded := true } : Stream) =
        buffering { stream with isEnded := true } headerBlock awaits := rfl
  simp only [settle, hended, cancelling_buffering, completeResponseSink_buffering, taken_buffering,
    hmarked]
  split
  · rfl
  · split <;> rfl

theorem deliverResponseHeaders_buffering :
    deliverResponseHeaders lib (buffering stream headerBlock awaits) =
      buffering (deliverResponseHeaders lib stream) headerBlock awaits := by
  have hprepare (sink : ResponseSink) :
      prepareStreamDecoder lib (buffering stream headerBlock awaits) sink =
        (buffering (prepareStreamDecoder lib stream sink).1 headerBlock awaits,
          (prepareStreamDecoder lib stream sink).2) := by
    unfold prepareStreamDecoder buffering
    dsimp only
    split
    · rfl
    · split <;> rfl
  have hsame : (buffering stream headerBlock awaits).sink = stream.sink := rfl
  simp only [deliverResponseHeaders, hsame, hprepare]
  cases stream.sink with
  | none => rfl
  | some sink =>
    dsimp only
    split
    · rfl
    · generalize prepareStreamDecoder lib stream { sink with headersDelivered := true } = prepared
      cases prepared.2.contract <;> rfl

theorem decodeHeadersFrame_buffering (payload : Bytes) (ctx : HpackContext) :
    decodeHeadersFrame (buffering stream headerBlock awaits) payload ctx =
      (buffering (decodeHeadersFrame stream payload ctx).1 headerBlock awaits,
        (decodeHeadersFrame stream payload ctx).2) := by
  obtain ⟨headers, error, hstream⟩ := decodeHeadersFrame_stream stream payload ctx
  have halike := decodeHeadersFrame_alike stream (buffering stream headerBlock awaits) rfl rfl
    payload ctx
  rw [halike, hstream]
  rfl

end Buffer

/-! ## One frame -/

/-- The headers of a stream are delivered unless it has an error. -/
def delivered (lib : DecoderLib) (stream : Stream) : Stream :=
  if stream.error = none then deliverResponseHeaders lib stream else stream

def ending (stream : Stream) (endStream : Bool) : Stream :=
  { stream with isEnded := stream.isEnded || endStream }

theorem delivered_buffering (lib : DecoderLib) (stream : Stream) (headerBlock : Bytes)
    (awaits : Bool) :
    delivered lib (buffering stream headerBlock awaits) =
      buffering (delivered lib stream) headerBlock awaits := by
  have herror : (buffering stream headerBlock awaits).error = stream.error := rfl
  rw [delivered, delivered, herror, deliverResponseHeaders_buffering]
  split <;> rfl

variable {lib : DecoderLib} {session : Session} {stream : Stream} {streamId : Nat}
  {cut : HeadersCut}

theorem HeadersCut.headersFrame_flags (cut : HeadersCut) (streamId : Nat) :
    (cut.headersFrame streamId).endStream = cut.endStream ∧
      (cut.headersFrame streamId).endHeaders = cut.continuations.isEmpty ∧
      (cut.headersFrame streamId).padded = cut.padding.isSome ∧
      (cut.headersFrame streamId).priority = cut.priority.isSome := by
  have hbits : ∀ endStream endHeaders padded priority : Bool,
      let flags : UInt8 := (if endStream then 0x1 else 0) ||| (if endHeaders then 0x4 else 0) |||
        (if padded then 0x8 else 0) ||| if priority then 0x20 else 0
      decide (flags &&& 0x1 ≠ 0) = endStream ∧ decide (flags &&& 0x4 ≠ 0) = endHeaders ∧
        decide (flags &&& 0x8 ≠ 0) = padded ∧ decide (flags &&& 0x20 ≠ 0) = priority := by
    decide
  exact hbits cut.endStream cut.continuations.isEmpty cut.padding.isSome cut.priority.isSome

theorem HeadersCut.headerFragment_headersFrame (cut : HeadersCut) (streamId : Nat) :
    headerFragment (cut.headersFrame streamId) = some cut.first := by
  obtain ⟨-, -, hpadded, hpriority⟩ := cut.headersFrame_flags streamId
  refine (headerFragment_eq_some_iff _ _).mpr
    ⟨cut.padLength, cut.priority.getD [], cut.padding.getD [], rfl, ?_, ?_⟩
  · rw [hpadded, HeadersCut.padLength]
    have hlength := cut.padding_length
    cases hpadding : cut.padding with
    | none => exact ⟨rfl, rfl⟩
    | some padding =>
      refine ⟨UInt8.ofNat padding.length, rfl, ?_⟩
      exact (UInt8.toNat_ofNat_of_lt' (hlength padding hpadding)).symm
  · rw [hpriority]
    cases hpriority' : cut.priority with
    | none => rfl
    | some priority => exact cut.priority_length priority hpriority'

/-- The stream behind a frame of headers. -/
theorem processFrame_eq {frame : Frame} (htype : frame.type = 0x1 ∨ frame.type = 0x9) :
    processFrame lib (session, stream) frame =
      ((if frame.type = 0x1 then handleHeadersFrame session stream frame
        else handleContinuationFrame session stream frame).1,
        settle (ending (if frame.endHeaders = true then
            delivered lib (headersStream session stream frame)
          else headersStream session stream frame) frame.endStream)) := by
  have hdata : ¬frame.type = 0x0 := by
    rintro hzero
    rw [hzero] at htype
    revert htype
    decide
  have hhandled : handleStreamFrame lib session stream frame =
      ((if frame.type = 0x1 then handleHeadersFrame session stream frame
        else handleContinuationFrame session stream frame).1,
        finishFrame lib (headersStream session stream frame) frame) := by
    rw [handleStreamFrame, if_neg hdata, headersStream]
    cases htype with
    | inl hheaders => rw [if_pos hheaders, if_pos hheaders, if_pos hheaders]
    | inr hcontinuation =>
      have hheaders : ¬frame.type = 0x1 := by rw [hcontinuation]; decide
      rw [if_neg hheaders, if_pos hcontinuation, if_neg hheaders, if_neg hheaders]
  have hfinish (stream : Stream) : finishFrame lib stream frame =
      ending (if frame.endHeaders = true then delivered lib stream else stream)
        frame.endStream := by
    have hdeliver : deliverHeaders lib stream frame =
        if frame.endHeaders = true then delivered lib stream else stream := by
      rw [deliverHeaders, delivered]
      by_cases hends : frame.endHeaders = true <;> simp [htype, hends]
    rw [finishFrame, hdeliver, ending]
    generalize (if frame.endHeaders = true then delivered lib stream else stream) = headers
    cases hends : frame.endStream with
    | true => simp [htype]
    | false => simp
  rw [processFrame, streamAfter, hhandled, endStreamReading_settle, hfinish]

theorem ending_false (stream : Stream) : ending stream false = stream := by
  rw [ending, Bool.or_false]

theorem ending_ended (h : stream.isEnded = true) (endStream : Bool) :
    ending stream endStream = stream := by
  rw [ending, h, Bool.true_or, ← h]

/-- A HEADERS frame that leaves its block open. -/
theorem processFrame_headers_open (h : cut.continuations ≠ []) :
    processFrame lib (session, stream) (cut.headersFrame streamId) =
      (session, buffering (settle (ending stream cut.endStream)) cut.first true) := by
  obtain ⟨hend, hheaders, -, -⟩ := cut.headersFrame_flags streamId
  rw [List.isEmpty_eq_false_iff.mpr h] at hheaders
  have htype : (cut.headersFrame streamId).type = 0x1 := rfl
  rw [processFrame_eq (.inl htype), if_pos htype, headersStream, if_pos htype,
    handleHeadersFrame_open session stream hheaders, cut.headerFragment_headersFrame, hheaders,
    hend, ← settle_buffering]
  rfl

theorem processFrame_headers_end (h : cut.continuations = []) :
    processFrame lib (session, stream) (cut.headersFrame streamId) =
      ((decodeBlock session stream cut.first).1,
        settle (ending (delivered lib (decodeBlock session stream cut.first).2)
          cut.endStream)) := by
  obtain ⟨hend, hheaders, -, -⟩ := cut.headersFrame_flags streamId
  rw [h, List.isEmpty_nil] at hheaders
  have htype : (cut.headersFrame streamId).type = 0x1 := rfl
  have hhandled : handleHeadersFrame session stream (cut.headersFrame streamId) =
      decodeBlock session stream cut.first := by
    simp only [handleHeadersFrame, cut.headerFragment_headersFrame, hheaders, not_true_eq_false,
      if_false]
  rw [processFrame_eq (.inl htype), if_pos htype, headersStream, if_pos htype, hhandled, hheaders,
    hend, if_pos rfl]

theorem processFrame_continuation_open (fragment block : Bytes) :
    processFrame lib (session, buffering stream block true) ⟨0x9, 0, streamId, fragment⟩ =
      (session, buffering (settle stream) (block ++ fragment) true) := by
  have htype : ¬(0x9 : UInt8) = 0x1 := by decide
  have hends : (⟨0x9, 0, streamId, fragment⟩ : Frame).endHeaders = false :=
    (by decide : decide ((0 : UInt8) &&& 0x4 ≠ 0) = false)
  have hstream : (⟨0x9, 0, streamId, fragment⟩ : Frame).endStream = false :=
    (by decide : decide ((0 : UInt8) &&& 0x1 ≠ 0) = false)
  rw [processFrame_eq (.inr rfl), if_neg htype, headersStream, if_neg htype,
    handleContinuationFrame_open session hends rfl, hends, hstream, if_neg Bool.false_ne_true,
    ending_false, ← settle_buffering]
  rfl

theorem decodeBlock_buffering (session : Session) (stream : Stream) (headerBlock : Bytes)
    (awaits : Bool) (block : Bytes) :
    decodeBlock session (buffering stream headerBlock awaits) block =
      ((decodeBlock session stream block).1,
        buffering (decodeBlock session stream block).2 headerBlock awaits) := by
  simp only [decodeBlock, decodeHeadersFrame_buffering]

/-- The end of a block decodes it, unless the stream has an error. -/
theorem processFrame_continuation_end (fragment block : Bytes) :
    processFrame lib (session, buffering stream block true) ⟨0x9, 0x4, streamId, fragment⟩ =
      if stream.error = none then
        ((decodeBlock session stream (block ++ fragment)).1,
          buffering (settle (delivered lib (decodeBlock session stream (block ++ fragment)).2)) []
            false)
      else (session, buffering (settle stream) [] false) := by
  have htype : ¬(0x9 : UInt8) = 0x1 := by decide
  have hends : (⟨0x9, 0x4, streamId, fragment⟩ : Frame).endHeaders = true :=
    (by decide : decide ((0x4 : UInt8) &&& 0x4 ≠ 0) = true)
  have hstream : (⟨0x9, 0x4, streamId, fragment⟩ : Frame).endStream = false :=
    (by decide : decide ((0x4 : UInt8) &&& 0x1 ≠ 0) = false)
  have hhandled : handleContinuationFrame session (buffering stream block true)
        ⟨0x9, 0x4, streamId, fragment⟩ =
      if stream.error = none then
        ((decodeBlock session stream (block ++ fragment)).1,
          buffering (decodeBlock session stream (block ++ fragment)).2 [] false)
      else (session, buffering stream [] false) := by
    have hdecode := decodeBlock_buffering session stream (block ++ fragment) false
      (block ++ fragment)
    unfold handleContinuationFrame
    rw [if_neg (by simp [buffering]), if_pos hends]
    by_cases herror : stream.error = none
    · rw [if_pos herror]
      simp only [buffering, herror, if_true] at hdecode ⊢
      rw [hdecode]
    · rw [if_neg herror]
      simp only [buffering, herror, if_false]
  rw [processFrame_eq (.inr rfl), if_neg htype, headersStream, if_neg htype, hhandled, hends,
    hstream, if_pos rfl, ending_false]
  by_cases herror : stream.error = none
  · rw [if_pos herror, if_pos herror, delivered_buffering, settle_buffering]
  · have hkept : (buffering stream [] false).error ≠ none := herror
    rw [if_neg herror, if_neg herror, delivered, if_neg hkept, settle_buffering]

/-! ## The frames of a block -/

/-- CONTINUATION frames before the last one fill the buffer. -/
theorem processFrames_continuations_open (hsettled : settle stream = stream)
    (fragments : List Bytes) :
    ∀ (n : Nat) (block : Bytes), n < fragments.length →
      processFrames lib session (buffering stream block true)
          ((continuationFrames streamId fragments).take n) =
        (session, buffering stream (block ++ (fragments.take n).flatten) true) := by
  induction fragments with
  | nil => exact fun n block h => absurd h (Nat.not_lt_zero n)
  | cons fragment fragments ih =>
    intro n block h
    cases n with
    | zero => simp [processFrames]
    | succ n =>
      have hlater : n < fragments.length := Nat.lt_of_succ_lt_succ h
      have hmore : fragments.isEmpty = false := by
        cases fragments with
        | nil => exact absurd hlater (Nat.not_lt_zero n)
        | cons _ _ => rfl
      rw [continuationFrames, hmore, List.take_succ_cons, processFrames, run_cons,
        if_neg Bool.false_ne_true, processFrame_continuation_open, hsettled, List.take_succ_cons,
        List.flatten_cons, ← List.append_assoc]
      exact ih n (block ++ fragment) hlater

/-- The last one decodes what has been buffered. -/
theorem processFrames_continuations (hsettled : settle stream = stream) (fragments : List Bytes) :
    ∀ block : Bytes, fragments ≠ [] →
      processFrames lib session (buffering stream block true)
          (continuationFrames streamId fragments) =
        if stream.error = none then
          ((decodeBlock session stream (block ++ fragments.flatten)).1,
            buffering (settle (delivered lib
              (decodeBlock session stream (block ++ fragments.flatten)).2)) [] false)
        else (session, buffering stream [] false) := by
  induction fragments with
  | nil => exact fun block h => absurd rfl h
  | cons fragment fragments ih =>
    intro block _
    cases fragments with
    | nil =>
      rw [continuationFrames, continuationFrames, List.isEmpty_nil, if_pos rfl, processFrames,
        run_cons, run_nil, processFrame_continuation_end, hsettled, List.flatten_cons,
        List.flatten_nil, List.append_nil]
    | cons next fragments =>
      rw [continuationFrames, List.isEmpty_cons, if_neg Bool.false_ne_true, processFrames,
        run_cons, processFrame_continuation_open, hsettled, List.flatten_cons, ← List.append_assoc]
      exact ih (block ++ fragment) (List.cons_ne_nil _ _)

/-! ## Open streams -/

theorem completed_of_rel {R : ResponseSink → ResponseSink → Prop} {before after : Stream}
    (hrel : SinkRel R before after)
    (hstep : ∀ {sink sink'}, R sink sink' → sink'.completed = sink.completed) :
    after.completed = before.completed := by
  rw [SinkRel] at hrel
  rw [Stream.completed, Stream.completed]
  generalize before.sink = sink at hrel ⊢
  generalize after.sink = sink' at hrel ⊢
  cases hrel with
  | none => rfl
  | some hstepped => exact hstep hstepped

theorem taken_keeps (stream : Stream) :
    FunnelKeeps stream (taken stream) ∧ (taken stream).error = stream.error :=
  takeResponseCancellation_keeps stream

theorem taken_completed (stream : Stream) : (taken stream).completed = stream.completed :=
  completed_of_rel (takeResponseCancellation_sink stream) Silent.completed

theorem taken_taken (stream : Stream) : taken (taken stream) = taken stream := by
  unfold taken takeResponseCancellation
  cases hsink : stream.sink with
  | none => simp only [hsink]
  | some sink =>
    dsimp only
    by_cases hkept : ¬sink.cancelled = true ∨ sink.cancellationTaken = true
    · rw [if_pos hkept]
      simp only [hsink]
      rw [if_pos hkept]
    · rw [if_neg hkept]
      simp

theorem delivered_keeps (lib : DecoderLib) (stream : Stream) :
    FunnelKeeps stream (delivered lib stream) ∧
      (delivered lib stream).completed = stream.completed := by
  rw [delivered]
  split
  · exact ⟨deliverResponseHeaders_keeps lib stream,
      completed_of_rel (deliverResponseHeaders_sink lib stream) HeadersStep.completed⟩
  · exact ⟨FunnelKeeps.refl stream, rfl⟩

/-- Nothing is left to do for a stream that has ended and was completed, but to
take a request to stop. -/
theorem settle_completed (hended : stream.isEnded = true) (hcompleted : stream.completed = true) :
    settle stream = taken stream := by
  rw [settle, if_pos hended, completeResponseSink_eq, if_pos hcompleted]

theorem settle_open (hopen : stream.isEnded = false) (hcancels : cancelling stream = false) :
    settle stream = stream := by
  rw [settle, hopen, hcancels]
  rfl

/-- The first frame of several takes a request to stop and does nothing else. -/
theorem LeavesOpen.settle_first (h : LeavesOpen stream cut) :
    settle (ending stream cut.endStream) = taken stream := by
  unfold LeavesOpen at h
  split at h
  · rename_i hended
    rw [ending_ended hended]
    exact settle_completed hended h
  · rename_i hopen
    have hopen : stream.isEnded = false := Bool.not_eq_true _ ▸ hopen
    rw [h.1, ending_false, taken_of_not_cancelling h.2, settle_open hopen h.2]

theorem cancelling_iff :
    cancelling stream = true ↔ ∃ sink, stream.sink = some sink ∧ sink.cancelled = true ∧
      sink.cancellationTaken = false := by
  unfold cancelling takeResponseCancellation
  cases hsink : stream.sink with
  | none => simp
  | some sink =>
    by_cases hkept : ¬sink.cancelled = true ∨ sink.cancellationTaken = true
    · simp only [if_pos hkept]
      refine iff_of_false Bool.false_ne_true ?_
      rintro ⟨_, hsame, hasked, hopen⟩
      cases hsame
      simp [hasked, hopen] at hkept
    · simp only [if_neg hkept, true_iff]
      have hkept := not_or.mp hkept
      exact ⟨sink, rfl, Decidable.not_not.mp hkept.1, Bool.not_eq_true _ ▸ hkept.2⟩

theorem taken_of_cancelling {sink : ResponseSink} (hsink : stream.sink = some sink)
    (hasked : sink.cancelled = true) (hopen : sink.cancellationTaken = false) :
    taken stream = { stream with sink := some { sink with cancellationTaken := true } } := by
  simp [taken, takeResponseCancellation, hsink, hasked, hopen]

/-- What is due at the end of a frame is done once. -/
theorem settle_settle (stream : Stream) : settle (settle stream) = settle stream := by
  cases hended : stream.isEnded with
  | true =>
    have hcompleted : (completeResponseSink stream).completed = true :=
      (sinkCompleted_iff _).mp (completeResponseSink_completed stream)
    have hsettled : settle stream = taken (completeResponseSink stream) := by
      rw [settle, if_pos hended]
    have hkept : (settle stream).isEnded = true := by
      rw [hsettled, (taken_keeps _).1.isEnded, (completeResponseSink_keeps stream).1.isEnded, hended]
    have hdone : (settle stream).completed = true := by
      rw [hsettled, taken_completed, hcompleted]
    rw [settle_completed hkept hdone, hsettled, taken_taken]
  | false =>
    cases hcancels : cancelling stream with
    | false => rw [settle_open hended hcancels, settle_open hended hcancels]
    | true =>
      obtain ⟨sink, hsink, hasked, hopen⟩ := cancelling_iff.mp hcancels
      have htaken := taken_of_cancelling hsink hasked hopen
      have hsettled : settle stream = completeResponseSink { taken stream with isEnded := true } := by
        rw [settle, hended, if_neg Bool.false_ne_true, if_pos hcancels]
      have hkept : (settle stream).isEnded = true := by
        rw [hsettled, (completeResponseSink_keeps _).1.isEnded]
      have hdone : (settle stream).completed = true := by
        rw [hsettled]
        exact (sinkCompleted_iff _).mp (completeResponseSink_completed _)
      rw [settle_completed hkept hdone]
      refine taken_of_not_cancelling ?_
      rw [hsettled, Bool.eq_false_iff, Ne, cancelling_iff]
      rintro ⟨after, hafter, -, hwaits⟩
      rw [htaken, completeResponseSink] at hafter
      dsimp only at hafter
      split at hafter
      · cases hafter
        cases hwaits
      · split at hafter
        · cases hafter
          cases hwaits
        · cases hafter
          cases hwaits

/-- The frames of a block that does not come in one. -/
theorem processFrames_split (hsplit : cut.continuations ≠ []) :
    processFrames lib session stream (cut.frames streamId) =
      let first := settle (ending stream cut.endStream)
      if first.error = none then
        ((decodeBlock session first cut.block).1,
          buffering (settle (delivered lib (decodeBlock session first cut.block).2)) [] false)
      else (session, buffering first [] false) := by
  rw [HeadersCut.frames, processFrames, run_cons, processFrame_headers_open hsplit]
  exact processFrames_continuations (settle_settle _) _ _ hsplit
/-- The decoder is prepared whether or not a request to stop was taken before,
and the request stays. -/
theorem prepareStreamDecoder_taken (lib : DecoderLib) (stream : Stream) (sink : ResponseSink)
    (other : Option ResponseSink) :
    prepareStreamDecoder lib { stream with sink := other } { sink with cancellationTaken := true } =
        ({ (prepareStreamDecoder lib stream sink).1 with sink := other },
          { (prepareStreamDecoder lib stream sink).2 with cancellationTaken := true }) ∧
      (sink.cancelled = true → (prepareStreamDecoder lib stream sink).2.cancelled = true) ∧
      (prepareStreamDecoder lib stream sink).2.cancellationTaken = sink.cancellationTaken := by
  unfold prepareStreamDecoder
  dsimp only
  split
  · exact ⟨rfl, id, rfl⟩
  · split
    · exact ⟨rfl, fun _ => rfl, rfl⟩
    · exact ⟨rfl, id, rfl⟩

/-- The headers are delivered whether or not a request to stop was taken
before. -/
theorem taken_deliverResponseHeaders (lib : DecoderLib) (stream : Stream) :
    taken (deliverResponseHeaders lib (taken stream)) =
      taken (deliverResponseHeaders lib stream) := by
  cases hcancels : cancelling stream with
  | false => rw [taken_of_not_cancelling hcancels]
  | true =>
    obtain ⟨sink, hsink, hasked, hopen⟩ := cancelling_iff.mp hcancels
    have htaken := taken_of_cancelling hsink hasked hopen
    by_cases hdelivered : sink.headersDelivered = true
    · have hkept : deliverResponseHeaders lib stream = stream := by
        simp [deliverResponseHeaders, hsink, hdelivered]
      have hkept' : deliverResponseHeaders lib (taken stream) = taken stream := by
        simp [deliverResponseHeaders, htaken, hdelivered]
      rw [hkept, hkept', taken_taken]
    · obtain ⟨hprepare, hcancelled, hwaits⟩ := prepareStreamDecoder_taken lib stream
        { sink with headersDelivered := true } (some { sink with cancellationTaken := true })
      have hcancelled := hcancelled hasked
      have hwaits := hwaits.trans hopen
      rw [htaken, deliverResponseHeaders, deliverResponseHeaders, hsink]
      dsimp only
      rw [if_neg hdelivered, if_neg hdelivered, hprepare]
      generalize prepareStreamDecoder lib stream { sink with headersDelivered := true } = prepared
        at hcancelled hwaits ⊢
      obtain ⟨prepared, sink'⟩ := prepared
      dsimp only at hcancelled hwaits ⊢
      cases hcontract : sink'.contract with
      | none => simp [taken, takeResponseCancellation, hcancelled, hwaits, hcontract]
      | some contract => simp [taken, takeResponseCancellation, hcancelled, hwaits]

/-- Decoding leaves the sink. -/
theorem decodeBlock_taken (session : Session) (stream : Stream) (block : Bytes) :
    decodeBlock session (taken stream) block =
      ((decodeBlock session stream block).1, taken (decodeBlock session stream block).2) := by
  obtain ⟨headers, error, hdecoded⟩ := decodeHeadersFrame_stream stream block session.hpackCtx
  have hheaders := (taken_keeps stream).1.headers
  have halike := decodeHeadersFrame_alike stream (taken stream) hheaders (taken_keeps stream).2 block
    session.hpackCtx
  have htaken : taken { stream with headers := headers, error := error } =
      { taken stream with headers := headers, error := error } := by
    unfold taken takeResponseCancellation
    cases hsink : stream.sink with
    | none => simp only [hsink]
    | some sink =>
      simp only
      split <;> simp only [hsink]
  simp only [decodeBlock, halike, hdecoded, htaken]

/-- What the last frame does to a stream that the first one left open, is what
one frame does. -/
theorem LeavesOpen.settle_last (h : LeavesOpen stream cut) (lib : DecoderLib) :
    settle (delivered lib (taken stream)) =
      settle (ending (delivered lib stream) cut.endStream) := by
  unfold LeavesOpen at h
  split at h
  · rename_i hended
    obtain ⟨hkeeps, hcompleted⟩ := delivered_keeps lib stream
    obtain ⟨hkeeps', hcompleted'⟩ := delivered_keeps lib (taken stream)
    have hended' : (delivered lib (taken stream)).isEnded = true := by
      rw [hkeeps'.isEnded, (taken_keeps stream).1.isEnded, hended]
    rw [ending_ended (hkeeps.isEnded.trans hended),
      settle_completed hended' (hcompleted'.trans ((taken_completed stream).trans h)),
      settle_completed (hkeeps.isEnded.trans hended) (hcompleted.trans h), delivered, delivered,
      (taken_keeps stream).2]
    split
    · exact taken_deliverResponseHeaders lib stream
    · exact taken_taken stream
  · rw [h.1, ending_false, taken_of_not_cancelling h.2]

/-- Decoding changes nothing that leaves a stream open. -/
theorem LeavesOpen.decodeBlock (h : LeavesOpen stream cut) (session : Session) (block : Bytes) :
    LeavesOpen (decodeBlock session stream block).2 cut := by
  have hsink := decodeBlock_sink session stream block
  have hcancels : cancelling (Http2.decodeBlock session stream block).2 = cancelling stream := by
    rw [Bool.eq_iff_iff, cancelling_iff, cancelling_iff, hsink.sink]
  have hcompleted : (Http2.decodeBlock session stream block).2.completed = stream.completed := by
    rw [Stream.completed, Stream.completed, hsink.sink]
  rw [LeavesOpen, hsink.isEnded, hcancels, hcompleted]
  exact h

/-- A block that comes in one frame. -/
theorem processFrames_one (h : cut.continuations = []) (session : Session) (stream : Stream)
    (streamId : Nat) :
    processFrames lib session stream (cut.frames streamId) =
      ((decodeBlock session stream cut.block).1,
        settle (ending (delivered lib (decodeBlock session stream cut.block).2)
          cut.endStream)) := by
  have hframes : cut.frames streamId = [cut.headersFrame streamId] := by
    rw [HeadersCut.frames, h, continuationFrames]
  have hblock : cut.block = cut.first := by
    rw [HeadersCut.block, h, List.flatten_nil, List.append_nil]
  rw [hframes, processFrames, run_cons, run_nil, processFrame_headers_end h, hblock]

theorem processFrames_whole (session : Session) (stream : Stream) (streamId : Nat)
    (cut : HeadersCut) :
    processFrames lib session stream (cut.whole.frames streamId) =
      ((decodeBlock session stream cut.block).1,
        settle (ending (delivered lib (decodeBlock session stream cut.block).2)
          cut.endStream)) := by
  have hblock : cut.whole.block = cut.block := List.append_nil cut.block
  rw [processFrames_one rfl, hblock]
  rfl

/-- The frames of a cut that leaves the stream open. -/
theorem LeavesOpen.processFrames (h : LeavesOpen stream cut) (hsplit : cut.continuations ≠ [])
    (lib : DecoderLib) (session : Session) (streamId : Nat) :
    processFrames lib session stream (cut.frames streamId) =
      if stream.error = none then
        ((Http2.decodeBlock session stream cut.block).1,
          buffering (settle (ending (delivered lib (Http2.decodeBlock session stream cut.block).2)
            cut.endStream)) [] false)
      else (session, buffering (taken stream) [] false) := by
  have hlast := (h.decodeBlock session cut.block).settle_last lib
  rw [processFrames_split hsplit, h.settle_first]
  dsimp only
  rw [(taken_keeps stream).2, decodeBlock_taken]
  dsimp only
  rw [← hlast]

theorem LeavesOpen.waiting (h : LeavesOpen stream cut) (hsplit : cut.continuations ≠ []) {n : Nat}
    (hpos : 0 < n) (hn : n ≤ cut.continuations.length) :
    (Http2.processFrames lib session stream ((cut.frames streamId).take n)).2.isEnded =
        stream.isEnded ∧
      (Http2.processFrames lib session stream ((cut.frames streamId).take n)).2.completed =
        stream.completed := by
  have hsettled : settle (taken stream) = taken stream := by
    rw [← h.settle_first, settle_settle]
  obtain ⟨m, rfl⟩ := Nat.exists_eq_succ_of_ne_zero (Nat.ne_of_gt hpos)
  have hrun : Http2.processFrames lib session stream ((cut.frames streamId).take (m + 1)) =
      (session, buffering (taken stream) (cut.first ++ (cut.continuations.take m).flatten) true) := by
    rw [HeadersCut.frames, List.take_succ_cons, Http2.processFrames, run_cons,
      processFrame_headers_open hsplit, h.settle_first]
    exact processFrames_continuations_open hsettled cut.continuations m cut.first hn
  rw [hrun]
  exact ⟨(taken_keeps stream).1.isEnded, taken_completed stream⟩

/-! ## Cuts that do not matter -/

theorem settle_isEnded (stream : Stream) :
    (settle stream).isEnded = (stream.isEnded || cancelling stream) := by
  rw [settle]
  cases hended : stream.isEnded with
  | true =>
    rw [if_pos rfl, (taken_keeps _).1.isEnded, (completeResponseSink_keeps stream).1.isEnded, hended]
    rfl
  | false =>
    rw [if_neg Bool.false_ne_true]
    cases hcancels : cancelling stream with
    | true =>
      rw [if_pos rfl, (completeResponseSink_keeps _).1.isEnded]
      rfl
    | false =>
      rw [if_neg Bool.false_ne_true, hended]
      rfl

theorem settle_keeps (stream : Stream) :
    (settle stream).headers = stream.headers ∧ (settle stream).error = stream.error := by
  rw [settle]
  split
  · obtain ⟨hkeeps, herror⟩ := completeResponseSink_keeps stream
    obtain ⟨htaken, herror'⟩ := taken_keeps (completeResponseSink stream)
    exact ⟨htaken.headers.trans hkeeps.headers, herror'.trans herror⟩
  · split
    · obtain ⟨htaken, herror⟩ := taken_keeps stream
      obtain ⟨hkeeps, herror'⟩ := completeResponseSink_keeps { taken stream with isEnded := true }
      exact ⟨hkeeps.headers.trans htaken.headers, herror'.trans herror⟩
    · exact ⟨rfl, rfl⟩

/-- A cut whose first frame changes nothing leaves the stream open. -/
theorem leavesOpen_of_waits (hsplit : cut.continuations ≠ [])
    (h : ArrivesWhole lib session stream streamId cut) : LeavesOpen stream cut := by
  have hone : (cut.frames streamId).take 1 = [cut.headersFrame streamId] := rfl
  obtain ⟨hended, hcompleted⟩ := h.waits 1 Nat.one_pos (List.length_pos_iff.mpr hsplit)
  rw [hone, processFrames, run_cons, run_nil, processFrame_headers_open hsplit] at hended hcompleted
  rw [LeavesOpen]
  split
  · rename_i hstream
    rw [ending_ended hstream] at hcompleted
    rw [← hcompleted]
    show (settle stream).completed = true
    rw [settle, if_pos hstream, taken_completed]
    exact (sinkCompleted_iff _).mp (completeResponseSink_completed stream)
  · rename_i hstream
    have hopen : stream.isEnded = false := Bool.not_eq_true _ ▸ hstream
    have hsettled : (settle (ending stream cut.endStream)).isEnded = false := hended.trans hopen
    have hcancels : cancelling (ending stream cut.endStream) = cancelling stream := by
      rw [Bool.eq_iff_iff, cancelling_iff, cancelling_iff]
      rfl
    rw [settle_isEnded, hcancels, Bool.or_eq_false_iff] at hsettled
    refine ⟨?_, hsettled.2⟩
    have hends : (stream.isEnded || cut.endStream) = false := hsettled.1
    rw [hopen, Bool.false_or] at hends
    exact hends

/-- A stream with an error does not decode the end of a split block: it must
have nothing to decode. -/
theorem decodes_nothing (hsplit : cut.continuations ≠ [])
    (h : ArrivesWhole lib session stream streamId cut) (herror : stream.error ≠ none) :
    decodeHeadersFrame stream cut.block session.hpackCtx = (stream, session.hpackCtx) := by
  have hopen := leavesOpen_of_waits hsplit h
  have hctx := h.ctx
  have hafter := h.after
  rw [hopen.processFrames hsplit, if_neg herror, processFrames_whole] at hctx hafter
  obtain ⟨headers, error, hdecoded⟩ := decodeHeadersFrame_stream stream cut.block session.hpackCtx
  have hfails := decodeHeadersFrame_mayFail stream cut.block session.hpackCtx
  rw [hdecoded] at hfails
  have hfailed : error ≠ none := by
    cases hfails with
    | inl hkept => exact fun hnone => herror (hkept.symm.trans hnone)
    | inr hbroken => exact fun hnone => Option.some_ne_none _ (hbroken.symm.trans hnone)
  have hblock : (decodeBlock session stream cut.block).2 =
      { stream with headers := headers, error := error } := hdecoded
  have hdelivered : delivered lib (decodeBlock session stream cut.block).2 =
      { stream with headers := headers, error := error } := by
    rw [hblock, delivered, if_neg hfailed]
  rw [hdelivered] at hafter
  have hheaders := congrArg Stream.headers hafter
  have herrors := congrArg Stream.error hafter
  dsimp only [buffering] at hheaders herrors
  rw [(settle_keeps _).1, (taken_keeps stream).1.headers] at hheaders
  rw [(settle_keeps _).2, (taken_keeps stream).2] at herrors
  have hheaders : stream.headers = headers := hheaders
  have herrors : stream.error = error := herrors
  refine Prod.ext ?_ hctx.symm
  rw [hdecoded, ← hheaders, ← herrors]

/-- A block arrives as if it came in one frame, if and only if it does, or its
first frame leaves the stream open and the last one decodes what there is to
decode. -/
theorem arrivesWhole_iff (lib : DecoderLib) (session : Session) (stream : Stream) (streamId : Nat)
    (cut : HeadersCut) :
    ArrivesWhole lib session stream streamId cut ↔
      cut.continuations = [] ∨ LeavesOpen stream cut ∧
        (stream.error = none ∨
          decodeHeadersFrame stream cut.block session.hpackCtx = (stream, session.hpackCtx)) := by
  constructor
  · intro h
    by_cases hsplit : cut.continuations = []
    · exact .inl hsplit
    · refine .inr ⟨leavesOpen_of_waits hsplit h, ?_⟩
      by_cases herror : stream.error = none
      · exact .inl herror
      · exact .inr (decodes_nothing hsplit h herror)
  · intro h
    by_cases hsplit : cut.continuations = []
    · have hsame : processFrames lib session stream (cut.frames streamId) =
          processFrames lib session stream (cut.whole.frames streamId) := by
        rw [processFrames_whole, processFrames_one hsplit]
      refine ⟨by rw [hsame], by rw [hsame], fun n hpos hn => ?_⟩
      rw [hsplit, List.length_nil] at hn
      exact absurd hpos (Nat.not_lt_of_le hn)
    · obtain ⟨hopen, hdecodes⟩ := h.resolve_left hsplit
      have hsplitted := hopen.processFrames hsplit lib session streamId
      refine ⟨?_, ?_, fun n hpos hn => hopen.waiting hsplit hpos hn⟩
      all_goals rw [hsplitted, processFrames_whole]
      all_goals by_cases herror : stream.error = none
      · rw [if_pos herror]
      · have hnothing := hdecodes.resolve_left herror
        rw [if_neg herror]
        exact (congrArg Prod.snd hnothing).symm
      · rw [if_pos herror]
        rfl
      · have hnothing := hdecodes.resolve_left herror
        have hblock : (decodeBlock session stream cut.block).2 = stream :=
          congrArg Prod.fst hnothing
        rw [if_neg herror, hblock, delivered, if_neg herror, hopen.settle_first]
        rfl

/-- `:status: 200` with the end of the stream, and the last octet in a
CONTINUATION frame: the callbacks are completed before the headers. -/
theorem arrivesWhole_endStream :
    let cut : HeadersCut := ⟨true, none, none, [], [[0x88]], by simp, by simp⟩
    let stream := newStream 1 (some (buildResponseSink 0 (some takeAll)))
    let session := initSession 4096
    let calls := fun frames =>
      ((processFrames noDecoders session stream frames).2.sink.map ResponseSink.calls)
    calls (cut.whole.frames 1) =
        some [.onHeaders [⟨ascii ":status", ascii "200"⟩], .onComplete none] ∧
      calls (cut.frames 1) =
        some [.onComplete none, .onHeaders [⟨ascii ":status", ascii "200"⟩]] ∧
      ¬ArrivesWhole noDecoders session stream 1 cut := by
  intro cut stream session calls
  have hwhole : calls (cut.whole.frames 1) =
      some [.onHeaders [⟨ascii ":status", ascii "200"⟩], .onComplete none] := by
    decide +kernel
  have hcut : calls (cut.frames 1) =
      some [.onComplete none, .onHeaders [⟨ascii ":status", ascii "200"⟩]] := by
    decide +kernel
  refine ⟨hwhole, hcut, fun h => ?_⟩
  have hcalls := congrArg (fun after : Stream => after.sink.map ResponseSink.calls) h.after
  have hsame : calls (cut.frames 1) = calls (cut.whole.frames 1) := hcalls
  rw [hwhole, hcut] at hsame
  revert hsame
  decide +kernel

end HttpRequestClient.Http2
